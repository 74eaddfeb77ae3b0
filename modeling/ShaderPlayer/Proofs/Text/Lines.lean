/-
Lines of a text that was put together from lines.

A text made of lines, each with the line feed that ends it, is cut back into
those lines:

* `splitOn_flatMap_terminated` — cutting at line feeds gives the lines, and then
  the pieces of what follows them;
* `lines_flatMap_terminated` — reading the text's lines gives the lines, if none
  of them ends with a carriage return;
* `lines_flatMap_terminated_append` — whatever the lines are, those of what follows
  come behind them.
-/
import ShaderPlayer.Shader.SourceMap
import ShaderPlayer.Text.Newline

namespace ShaderPlayer.Text

open Shader.SourceMap (terminated)

theorem splitOn_append_cons {sep : Char} {t : Text} (h : sep ∉ t) (rest : Text) :
    splitOn sep (t ++ sep :: rest) = t :: splitOn sep rest := by
  induction t with
  | nil => rw [List.nil_append, splitOn, if_pos rfl]
  | cons c t ih =>
    rw [List.mem_cons, not_or] at h
    rw [List.cons_append, splitOn, if_neg fun hc => h.1 hc.symm, ih h.2]

/-- Cutting at line feeds undoes ending lines with them. -/
theorem splitOn_flatMap_terminated {ls : List Text} (h : ∀ l ∈ ls, '\n' ∉ l) (rest : Text) :
    splitOn '\n' (ls.flatMap terminated ++ rest) = ls ++ splitOn '\n' rest := by
  induction ls with
  | nil => rfl
  | cons l ls ih =>
    have hl : '\n' ∉ l := h l List.mem_cons_self
    have hls : ∀ l' ∈ ls, '\n' ∉ l' := fun l' hl' => h l' (List.mem_cons_of_mem l hl')
    rw [List.flatMap_cons, List.append_assoc, terminated, List.append_assoc,
      List.singleton_append, splitOn_append_cons hl, ih hls, List.cons_append]

theorem chompReturn_of_getLast {line : Text} (h : line.getLast? ≠ some '\r') :
    chompReturn line = line := by
  rw [chompReturn, if_neg h]

/-- Lines that hold no line feed and end with no carriage return are read back. -/
theorem lines_flatMap_terminated {ls : List Text} (hfeed : ∀ l ∈ ls, '\n' ∉ l)
    (hreturn : ∀ l ∈ ls, l.getLast? ≠ some '\r') : lines (ls.flatMap terminated) = ls := by
  have hsplit : splitOn '\n' (ls.flatMap terminated) = ls ++ [[]] := by
    have h := splitOn_flatMap_terminated hfeed []
    rwa [List.append_nil] at h
  have hlast : (ls ++ [[]]).getLast? = some ([] : Text) := by simp
  simp only [lines, hsplit, hlast, if_true, List.dropLast_concat]
  calc ls.map chompReturn
      = ls.map id := List.map_congr_left fun l hl => chompReturn_of_getLast (hreturn l hl)
    _ = ls := List.map_id ls

theorem splitOn_append_sep (sep : Char) (t rest : Text) :
    splitOn sep (t ++ sep :: rest) = splitOn sep t ++ splitOn sep rest := by
  induction t with
  | nil => exact splitOn_append_cons List.not_mem_nil rest
  | cons c t ih =>
    rw [List.cons_append, splitOn, splitOn, ih]
    split
    · rfl
    · obtain ⟨piece, pieces, hpieces⟩ := List.exists_cons_of_ne_nil (splitOn_ne_nil sep t)
      rw [hpieces]
      rfl

theorem splitOn_of_not_mem {sep : Char} {t : Text} (h : sep ∉ t) : splitOn sep t = [t] := by
  have hconcat := splitOn_append_cons h []
  rw [splitOn_append_sep] at hconcat
  exact List.append_cancel_right hconcat

/-- Pieces without the separator are those that their joined text is cut into. -/
theorem splitOn_join {sep : Char} {pieces : List Text} (hne : pieces ≠ [])
    (h : ∀ piece ∈ pieces, sep ∉ piece) : splitOn sep (join [sep] pieces) = pieces := by
  induction pieces with
  | nil => exact absurd rfl hne
  | cons piece rest ih =>
    rw [List.forall_mem_cons] at h
    rcases rest with _ | ⟨next, rest⟩
    · exact splitOn_of_not_mem h.1
    · have hcut := splitOn_append_cons h.1 (join [sep] (next :: rest))
      rw [ih (List.cons_ne_nil _ _) h.2] at hcut
      rw [join, List.append_assoc]
      · exact hcut
      · exact List.cons_ne_nil _ _

theorem mem_of_mem_splitOn {sep c : Char} {t piece : Text} (hpiece : piece ∈ splitOn sep t)
    (hc : c ∈ piece) : c ∈ t := by
  induction t generalizing piece with
  | nil =>
    rw [splitOn, List.mem_singleton] at hpiece
    rwa [hpiece] at hc
  | cons first rest ih =>
    rw [splitOn] at hpiece
    split at hpiece
    · rcases List.mem_cons.mp hpiece with rfl | hpiece
      · exact absurd hc List.not_mem_nil
      · exact List.mem_cons_of_mem first (ih hpiece hc)
    · obtain ⟨head, pieces, hrest⟩ := List.exists_cons_of_ne_nil (splitOn_ne_nil sep rest)
      rw [hrest] at hpiece
      rcases List.mem_cons.mp hpiece with rfl | hpiece
      · rcases List.mem_cons.mp hc with rfl | hc
        · exact List.mem_cons_self
        · exact List.mem_cons_of_mem first (ih (hrest ▸ List.mem_cons_self) hc)
      · exact List.mem_cons_of_mem first (ih (hrest ▸ List.mem_cons_of_mem head hpiece) hc)

/-- The characters of a line are characters of the text. -/
theorem mem_of_mem_lines {c : Char} {t line : Text} (hline : line ∈ lines t) (hc : c ∈ line) :
    c ∈ t := by
  obtain ⟨piece, hpiece, rfl⟩ := List.mem_map.mp hline
  have hsplit : piece ∈ splitOn '\n' t := by
    split at hpiece
    · exact (List.dropLast_sublist _).mem hpiece
    · exact hpiece
  exact mem_of_mem_splitOn hsplit (chompReturn_subset piece c hc)

/-- A line feed ends a line, and what follows it is read as lines by itself. -/
theorem lines_append_newline (t rest : Text) :
    lines (t ++ '\n' :: rest) = lines (t ++ ['\n']) ++ lines rest := by
  have hrest : splitOn '\n' rest ≠ [] := splitOn_ne_nil '\n' rest
  have hempty : splitOn '\n' ([] : Text) = [[]] := rfl
  have hlast : (splitOn '\n' t ++ splitOn '\n' rest).getLast? = (splitOn '\n' rest).getLast? := by
    rw [List.getLast?_append, List.getLast?_eq_some_getLast hrest, Option.some_or]
  simp only [lines, splitOn_append_sep, hempty, List.getLast?_concat, if_true,
    List.dropLast_concat, hlast, List.dropLast_append_of_ne_nil hrest, ← List.map_append]
  split <;> rfl

/-- The lines behind lines that are ended. -/
theorem lines_flatMap_terminated_append (ls : List Text) (rest : Text) :
    lines (ls.flatMap terminated ++ rest) = lines (ls.flatMap terminated) ++ lines rest := by
  rcases ls.eq_nil_or_concat with rfl | ⟨init, last, rfl⟩
  · rfl
  · have hconcat : (init.concat last).flatMap terminated
        = init.flatMap terminated ++ last ++ ['\n'] := by
      simp [terminated]
    rw [hconcat, List.append_assoc, List.singleton_append, lines_append_newline]

end ShaderPlayer.Text
