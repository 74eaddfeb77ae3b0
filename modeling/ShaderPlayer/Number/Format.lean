/-
Binary floating-point formats.

A datum of a format is a word of bits: a sign, a biased exponent and a fraction.
`decode` says what a word means, `encode` rounds an exact number to the nearest
word, ties to even, and overflows to infinity.  Half, single and double
precision are the three formats of the interchange standard that textures,
uniforms and host numbers use.
-/
import ShaderPlayer.Number.Rounding

namespace ShaderPlayer

/-- A binary format by the widths of its fraction and exponent fields. -/
structure Format where
  fraction : Nat
  exponent : Nat
  deriving DecidableEq, Repr

namespace Format

/-- Half precision, the format of the screen's texels. -/
def half : Format := ⟨10, 5⟩

/-- Single precision, the format of `f32` uniforms. -/
def single : Format := ⟨23, 8⟩

/-- Double precision, the format of host numbers. -/
def double : Format := ⟨52, 11⟩

/-- What a word of a format means.  A finite datum is an exact number; its sign
stands apart because zero has one too. -/
inductive Datum where
  | nan (negative : Bool) (payload : Nat)
  | infinite (negative : Bool)
  | finite (negative : Bool) (magnitude : Rat)
  deriving DecidableEq, Repr

variable (f : Format)

/-- The exponent of the unit in the last place of the smallest numbers. -/
def leastExponent : Int := 2 - (1 <<< (f.exponent - 1) : Nat) - f.fraction

/-- The word with only its sign set. -/
def signBit : Nat := 1 <<< (f.fraction + f.exponent)

/-- The word of positive infinity. -/
def infinity : Nat := ((1 <<< f.exponent) - 1) * (1 <<< f.fraction)

/-- The word with a sign and a magnitude. -/
def withSign (negative : Bool) (magnitude : Nat) : Nat :=
  if negative then f.signBit + magnitude else magnitude

/-- What a word means. -/
def decode (word : Nat) : Datum :=
  let fraction := word % (1 <<< f.fraction)
  let biased := word / (1 <<< f.fraction) % (1 <<< f.exponent)
  let negative := word / f.signBit % 2 = 1
  if biased = (1 <<< f.exponent) - 1 then
    if fraction = 0 then .infinite negative else .nan negative fraction
  else if biased = 0 then
    .finite negative (fraction * (2 : Rat) ^ f.leastExponent)
  else
    .finite negative
      (((1 <<< f.fraction) + fraction : Nat) * (2 : Rat) ^ (f.leastExponent + (biased - 1 : Nat)))

/-- The exponent `k` with `2 ^ k ≤ x < 2 ^ (k + 1)`, for a positive `x`. -/
def binaryExponent (x : Rat) : Int :=
  let guess : Int := (Nat.log2 x.num.natAbs : Int) - Nat.log2 x.den
  if x < (2 : Rat) ^ guess then guess - 1 else guess

/-- The magnitude bits of the word nearest to `x`, for `x` not negative. -/
def roundMagnitude (x : Rat) : Nat :=
  if x = 0 then 0
  else
    let unit := max f.leastExponent (binaryExponent x - f.fraction)
    let digits := (nearestEven (x * (2 : Rat) ^ (-unit))).toNat
    -- digits that round up to the next power carry into the exponent field
    min f.infinity ((unit - f.leastExponent).toNat * (1 <<< f.fraction) + digits)

/-- The word nearest to a number with a sign and a magnitude. -/
def encode (negative : Bool) (magnitude : Rat) : Nat :=
  f.withSign negative (f.roundMagnitude magnitude)

/-- The nearest datum of a format that a number has in another; a number that is
not one keeps its sign and the leading bits of its payload, and is quiet. -/
def convert (source target : Format) (word : Nat) : Nat :=
  match source.decode word with
  | .infinite negative => target.withSign negative target.infinity
  | .finite negative magnitude => target.encode negative magnitude
  | .nan negative payload =>
    let kept :=
      if target.fraction ≤ source.fraction then payload >>> (source.fraction - target.fraction)
      else payload <<< (target.fraction - source.fraction)
    let quiet := 1 <<< (target.fraction - 1)
    target.withSign negative (target.infinity + quiet + kept % quiet)

end Format

end ShaderPlayer
