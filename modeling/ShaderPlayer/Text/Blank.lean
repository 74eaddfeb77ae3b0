/-
Blank characters.

The white space that separates the parts of a line: the ASCII controls that move
the cursor or separate records, and every Unicode space or line separator.
Neither the zero-width space nor the byte order mark is blank.

Main statement: every character that is white space in ASCII is blank
(`isBlank_of_isWhitespace`).
-/
import ShaderPlayer.Text.Basic

namespace ShaderPlayer.Text

/-- Whether a character is white space. -/
def isBlank (c : Char) : Bool :=
  let n := c.toNat
  (0x9 ≤ n && n ≤ 0xd) || (0x1c ≤ n && n ≤ 0x20) || n == 0x85 || n == 0xa0 || n == 0x1680
    || (0x2000 ≤ n && n ≤ 0x200a) || n == 0x2028 || n == 0x2029 || n == 0x202f || n == 0x205f
    || n == 0x3000

theorem isBlank_of_isWhitespace {c : Char} (h : c.isWhitespace) : isBlank c := by
  simp only [Char.isWhitespace, Bool.or_eq_true, decide_eq_true_eq] at h
  rcases h with ((rfl | rfl) | rfl) | rfl <;> decide

/-- The text without the blanks at its start. -/
def trimLeft (t : Text) : Text := t.dropWhile isBlank

/-- The text without the blanks at its end. -/
def trimRight (t : Text) : Text := (t.reverse.dropWhile isBlank).reverse

/-- The text without the blanks at its ends. -/
def trim (t : Text) : Text := trimRight (trimLeft t)

/-- The maximal runs of characters that are not blank. -/
def tokens (t : Text) : List Text :=
  match _h : trimLeft t with
  | [] => []
  | c :: rest =>
    (c :: rest.takeWhile (!isBlank ·)) :: tokens (rest.dropWhile (!isBlank ·))
termination_by t.length
decreasing_by
  have h₁ : (trimLeft t).length ≤ t.length := (List.dropWhile_sublist _).length_le
  have h₂ : (rest.dropWhile (!isBlank ·)).length ≤ rest.length :=
    (List.dropWhile_sublist _).length_le
  rw [_h, List.length_cons] at h₁
  omega

end ShaderPlayer.Text
