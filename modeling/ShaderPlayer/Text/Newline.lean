/-
Line endings.

A text file may end its lines with a line feed, a carriage return or both.
Reading one turns every line ending into a line feed (`unifyNewlines`); the lines
of a shader are what lies between line feeds, less one trailing carriage return
(`lines`).

Main statements: unified text holds no carriage return (`return_not_mem`), and
no line of a text holds a line feed (`newline_not_mem_lines`).
-/
import ShaderPlayer.Text.Basic

namespace ShaderPlayer.Text

/-- The text with every line ending turned into a line feed. -/
def unifyNewlines : Text → Text
  | [] => []
  | '\r' :: '\n' :: rest => '\n' :: unifyNewlines rest
  | '\r' :: rest => '\n' :: unifyNewlines rest
  | c :: rest => c :: unifyNewlines rest

theorem return_not_mem (t : Text) : '\r' ∉ unifyNewlines t := by
  fun_induction unifyNewlines t with
  | case1 => simp
  | case2 rest ih => simpa using ih
  | case3 rest _ ih => simpa using ih
  | case4 c rest _ hc ih =>
    simp only [List.mem_cons, not_or]
    exact ⟨fun h => hc h.symm, ih⟩

/-- The line without one carriage return at its end. -/
def chompReturn (line : Text) : Text :=
  if line.getLast? = some '\r' then line.dropLast else line

/-- The lines of a text; a line feed at the end starts no further line. -/
def lines (t : Text) : List Text :=
  let pieces := splitOn '\n' t
  (if pieces.getLast? = some [] then pieces.dropLast else pieces).map chompReturn

theorem chompReturn_subset (line : Text) : ∀ c ∈ chompReturn line, c ∈ line := by
  intro c hc
  unfold chompReturn at hc
  split at hc
  · exact (List.dropLast_sublist _).mem hc
  · exact hc

theorem newline_not_mem_lines (t : Text) : ∀ line ∈ lines t, '\n' ∉ line := by
  intro line hline hn
  simp only [lines, List.mem_map] at hline
  obtain ⟨piece, hp, rfl⟩ := hline
  have hmem : piece ∈ splitOn '\n' t := by
    split at hp
    · exact (List.dropLast_sublist _).mem hp
    · exact hp
  exact sep_not_mem_splitOn '\n' t piece hmem (chompReturn_subset _ _ hn)

end ShaderPlayer.Text
