/-
The shortest decimal text of a double.

Of all decimals that read back as the same number the one with the fewest digits
is taken, and of several with as many digits the nearest, where a tie goes to the
even last digit.  On a grid of decimals only the two neighbours of the number
matter: if a point of the grid reads back, so does one of them.
-/
import ShaderPlayer.Number.Double

namespace ShaderPlayer.Double

/-- The largest exponent of ten with a power not above `x`, for a positive `x`. -/
def decimalExponent (x : Rat) : Int :=
  let digits (n : Nat) : Int := (Nat.toDigits 10 n).length
  let guess := digits x.num.natAbs - digits x.den
  if x < (10 : Rat) ^ guess then guess - 1 else guess

/-- Of the two neighbours of `x` on the grid of multiples of `10 ^ unit`, the nearest
that reads back as `word`, as a number of units; between two as near, the even one. -/
def neighbour? (word : Nat) (x : Rat) (unit : Int) : Option Nat :=
  let scaled := x * (10 : Rat) ^ (-unit)
  let below := scaled.floor.toNat
  let readsBack (n : Nat) : Bool := Format.double.roundMagnitude (n * (10 : Rat) ^ unit) == word
  let nearest := (nearestEven scaled).toNat
  [nearest, if nearest = below then below + 1 else below].find? readsBack

/-- The digits and the unit of the shortest decimal of a positive number, trying
from `count` digits on. -/
def shortestFrom (word : Nat) (x : Rat) : Nat → Nat → Nat × Int
  | _, 0 => (0, 0)
  | count, tries + 1 =>
    let unit := decimalExponent x - (count - 1 : Nat)
    match neighbour? word x unit with
    | some n => (n, unit)
    | none => shortestFrom word x (count + 1) tries

/-- Digits without the zeros at their end, and how many those were. -/
def dropZeros (digits : Text) : Text × Nat :=
  let kept := (digits.reverse.dropWhile (· = '0')).reverse
  (kept, digits.length - kept.length)

/-- A decimal in positional notation, or with an exponent where the number lies
below a ten-thousandth or at 10^16 and above. -/
def decimalText (n : Nat) (unit : Int) : Text :=
  let (digits, zeros) := dropZeros (Text.ofNat n)
  let unit := unit + zeros
  let point := digits.length + unit
  if -4 < point ∧ point ≤ 16 then
    if point ≤ 0 then '0' :: '.' :: List.replicate (-point).toNat '0' ++ digits
    else if unit ≥ 0 then digits ++ List.replicate unit.toNat '0' ++ ['.', '0']
    else digits.take point.toNat ++ '.' :: digits.drop point.toNat
  else
    let exponent := point - 1
    let sign := if exponent < 0 then '-' else '+'
    let mantissa := match digits with
      | [] => []
      | [d] => [d]
      | d :: rest => d :: '.' :: rest
    mantissa ++ 'e' :: sign :: Text.padLeft '0' 2 (Text.ofNat exponent.natAbs)

/-- The shortest text that reads back as the number. -/
def shortest (x : Double) : Text :=
  match x.datum with
  | .nan .. => "nan".toList
  | .infinite negative => if negative then "-inf".toList else "inf".toList
  | .finite negative magnitude =>
    let body :=
      if magnitude = 0 then "0.0".toList
      else
        let (n, unit) := shortestFrom (Format.double.roundMagnitude magnitude) magnitude 1 17
        decimalText n unit
    if negative then '-' :: body else body

end ShaderPlayer.Double
