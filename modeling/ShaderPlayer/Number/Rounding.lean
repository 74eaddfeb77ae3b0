/-
Rounding an exact number to an integer, and writing one with fixed places.

A number half way between two integers goes to the even one.

Main statement: an integer is its own rounding (`nearestEven_intCast`).
-/
import ShaderPlayer.Text.Basic

namespace ShaderPlayer

/-- The integer nearest to `x`, of two the even one. -/
def nearestEven (x : Rat) : Int :=
  let below := x.floor
  if x - below < 1 / 2 then below
  else if 1 / 2 < x - below then below + 1
  else below + below % 2

theorem nearestEven_intCast (n : Int) : nearestEven (n : Rat) = n := by
  have h : (n : Rat) - (n : Rat) < 1 / 2 := by
    rw [Rat.sub_self]
    decide +kernel
  simp only [nearestEven, Rat.floor_intCast]
  rw [if_pos h]

/-- The number written with two places after the point, a half going to the
even neighbour. -/
def Text.ofHundredths (x : Rat) : Text :=
  let n := nearestEven (x * 100)
  let sign : Text := if x < 0 then ['-'] else []
  sign ++ Text.ofNat (n.natAbs / 100) ++ '.' :: Text.padLeft '0' 2 (Text.ofNat (n.natAbs % 100))

end ShaderPlayer
