/-
Icons.

A file of icons holds a picture made to fit into squares of fixed sides.  No square is
larger than the picture, and what is read is the largest icon.  A picture that is smaller
than every square is kept as it is.

Main statement: an icon's square fits into the picture (`le_of_iconSide?`).
-/
import ShaderPlayer.Number.Double
import ShaderPlayer.Picture.Resample

namespace ShaderPlayer.Picture

/-- The sides of the squares, the longest first. -/
def iconSides : List Nat := [256, 128, 64, 48, 32, 24, 16]

/-- The side of the largest square that is no larger than a picture. -/
def iconSide? (width height : Nat) : Option Nat := iconSides.find? (· ≤ min width height)

theorem le_of_iconSide? {width height side : Nat} (h : iconSide? width height = some side) :
    side ≤ width ∧ side ≤ height := by
  have := List.find?_some h
  simp only [decide_eq_true_eq] at this
  omega

/-- The numbers of columns and rows of a picture that is made to fit into a square.  The
longer side fills it.  The other is one of the integers around its due length, the one
with the better ratio of sides, and at least one; ratios have double precision. -/
def fitInto (side width height : Nat) : Nat × Nat :=
  let ratio (a b : Nat) : Double := .div (.ofRat a) (.ofRat b)
  let aspect := ratio width height
  let distortion (columns rows : Nat) : Rat := (aspect.sub (ratio columns rows)).magnitude
  let around (due : Double) (distortion : Nat → Rat) : Nat :=
    let below := due.magnitude.floor.toNat
    let above := due.magnitude.ceil.toNat
    max 1 (if distortion above < distortion below then above else below)
  if width ≤ height then
    (around (.mul (.ofRat side) aspect) fun columns => distortion columns side, side)
  else
    -- no rows count as undistorted, so they come before one row
    (side, around (.div (.ofRat side) aspect) fun rows =>
      if rows = 0 then 0 else distortion side rows)

/-- The picture that is read of a file of icons for a picture. -/
def Stored.icon (s : Stored) : Stored :=
  match iconSide? s.width s.height with
  | none => s
  | some side =>
    let (columns, rows) := fitInto side s.width s.height
    s.resized .threeLobes columns rows

end ShaderPlayer.Picture
