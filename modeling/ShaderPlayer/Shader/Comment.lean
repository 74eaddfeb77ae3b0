/-
Comments of shader text.

A line comment runs from two slashes to the end of its line, a block comment from
a slash and a star to the next star and slash; block comments do not nest.  A
block comment that is never closed is no comment, its text stays.

Main statement: text without a slash is left alone (`stripComments_eq_self`).
-/
import ShaderPlayer.Text.Basic

namespace ShaderPlayer.Shader

/-- The text after the first end of a block comment. -/
def afterBlockEnd : Text → Option Text
  | [] => none
  | '*' :: '/' :: rest => some rest
  | _ :: rest => afterBlockEnd rest

theorem length_of_afterBlockEnd {t rest : Text} (h : afterBlockEnd t = some rest) :
    rest.length < t.length := by
  fun_induction afterBlockEnd t with
  | case1 => simp at h
  | case2 rest' =>
    obtain rfl := Option.some.inj h
    simp only [List.length_cons]
    omega
  | case3 c rest' _ ih =>
    have := ih h
    simp only [List.length_cons]
    omega

/-- The text without its comments. -/
def stripComments : Text → Text
  | [] => []
  | '/' :: '/' :: rest => stripComments (rest.dropWhile (· ≠ '\n'))
  | '/' :: '*' :: rest =>
    match _h : afterBlockEnd rest with
    | some after => stripComments after
    -- no block comment, but a line comment may still start further on
    | none => '/' :: stripComments ('*' :: rest)
  | c :: rest => c :: stripComments rest
termination_by t => t.length
decreasing_by
  · have : (rest.dropWhile (· ≠ '\n')).length ≤ rest.length :=
      (List.dropWhile_sublist _).length_le
    simp only [List.length_cons]
    omega
  · have := length_of_afterBlockEnd _h
    simp only [List.length_cons]
    omega
  · simp
  · simp

theorem stripComments_eq_self {t : Text} (h : '/' ∉ t) : stripComments t = t := by
  fun_induction stripComments t with
  | case1 => rfl
  | case2 rest _ => simp at h
  | case3 rest after _ _ => simp at h
  | case4 rest _ _ => simp at h
  | case5 c rest _ _ ih =>
    simp only [List.mem_cons, not_or] at h
    rw [ih h.2]

end ShaderPlayer.Shader
