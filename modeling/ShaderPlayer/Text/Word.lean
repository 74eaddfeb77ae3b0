/-
Words.

A word character is a letter or number of any script, or an underscore; a word is
a maximal run of them.  Marks that combine with a letter are no word characters.

Main statement: replacing every word by itself changes nothing (`mapWords_id`).
-/
import ShaderPlayer.Text.Basic
import ShaderPlayer.Text.WordTable

namespace ShaderPlayer.Text

/-- Whether a code point lies in one of the inclusive ranges. -/
def inRanges (ranges : List (Nat × Nat)) (n : Nat) : Bool :=
  ranges.any fun (lo, hi) => lo ≤ n && n ≤ hi

/-- Whether a character is a letter or a number. -/
def isAlphanumeric (c : Char) : Bool :=
  if c.toNat < 128 then c.isAlphanum else inRanges wordRanges c.toNat

/-- Whether a character belongs to words. -/
def isWord (c : Char) : Bool := isAlphanumeric c || c == '_'

/-- The text with every maximal word replaced by what `f` makes of it. -/
def mapWords (f : Text → Text) : Text → Text
  | [] => []
  | c :: rest =>
    if isWord c then
      f (c :: rest.takeWhile isWord) ++ mapWords f (rest.dropWhile isWord)
    else c :: mapWords f rest
termination_by t => t.length
decreasing_by
  · have : (rest.dropWhile isWord).length ≤ rest.length :=
      (List.dropWhile_sublist _).length_le
    simp only [List.length_cons]
    omega
  · simp

theorem mapWords_id (t : Text) : mapWords id t = t := by
  fun_induction mapWords id t with
  | case1 => rfl
  | case2 c rest _ ih => simp [ih, List.takeWhile_append_dropWhile]
  | case3 c rest _ ih => rw [ih]

/-- Whether the text is a letter or underscore of ASCII followed by word
characters. -/
def isIdentifier : Text → Bool
  | [] => false
  | c :: rest => (c.isAlpha || c == '_') && rest.all isWord

end ShaderPlayer.Text
