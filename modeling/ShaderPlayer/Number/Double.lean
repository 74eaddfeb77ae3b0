/-
Double-precision numbers.

A host number is kept as the bits of its double-precision word, so that every
operation can be computed exactly and rounded once: sums, products and quotients
are those of the exact numbers, rounded to nearest with ties to even.  What is
no number keeps its bits through an operation; one that arises anew is the quiet
one with its sign set.
-/
import ShaderPlayer.Number.Format

namespace ShaderPlayer

/-- A double-precision number by its bits. -/
structure Double where
  bits : UInt64
  deriving DecidableEq, Repr

namespace Double

/-- The number with a word of bits. -/
def ofWord (word : Nat) : Double := ⟨UInt64.ofNat word⟩

/-- What the number is. -/
def datum (x : Double) : Format.Datum := Format.double.decode x.bits.toNat

/-- The nearest number, with a sign of its own for zero. -/
def ofMagnitude (negative : Bool) (magnitude : Rat) : Double :=
  ofWord (Format.double.encode negative magnitude)

/-- The number nearest to an exact one. -/
def ofRat (x : Rat) : Double :=
  if x < 0 then ofMagnitude true (-x) else ofMagnitude false x

/-- Zero with a sign. -/
def zero (negative : Bool) : Double := ofMagnitude negative 0

/-- Infinity with a sign. -/
def infinite (negative : Bool) : Double :=
  ofWord (Format.double.withSign negative Format.double.infinity)

/-- What an operation without an answer gives. -/
def undefined : Double := ofWord 0xfff8000000000000

/-- The quiet `nan` of a numeral. -/
def nan (negative : Bool) : Double :=
  ofWord (Format.double.withSign negative 0x7ff8000000000000)

/-- The same bits with the quiet bit set. -/
def quiet (x : Double) : Double := ⟨x.bits ||| 0x8000000000000⟩

/-- The exact value of a sign and a magnitude. -/
def signed (negative : Bool) (magnitude : Rat) : Rat := if negative then -magnitude else magnitude

/-- The double nearest to an integer, unless that is infinite. -/
def ofInt? (n : Int) : Option Double :=
  let x := ofRat n
  match x.datum with
  | .finite .. => some x
  | _ => none

/-- The sum. -/
def add (x y : Double) : Double :=
  match x.datum, y.datum with
  | .nan .., _ => x.quiet
  | _, .nan .. => y.quiet
  | .infinite a, .infinite b => if a = b then x else undefined
  | .infinite _, _ => x
  | _, .infinite _ => y
  | .finite a m, .finite b n =>
    let sum := signed a m + signed b n
    if sum = 0 then zero (a && b) else ofRat sum

/-- The number with its sign turned. -/
def neg (x : Double) : Double := ⟨x.bits ^^^ 0x8000000000000000⟩

/-- The difference. -/
def sub (x y : Double) : Double :=
  match x.datum, y.datum with
  | .nan .., _ => x.quiet
  | _, .nan .. => y.quiet
  | _, _ => add x y.neg

/-- The product. -/
def mul (x y : Double) : Double :=
  match x.datum, y.datum with
  | .nan .., _ => x.quiet
  | _, .nan .. => y.quiet
  | .infinite a, .infinite b => infinite (a != b)
  | .infinite a, .finite b n => if n = 0 then undefined else infinite (a != b)
  | .finite a m, .infinite b => if m = 0 then undefined else infinite (a != b)
  | .finite a m, .finite b n => ofMagnitude (a != b) (m * n)

/-- The quotient, for a divisor that is not zero. -/
def div (x y : Double) : Double :=
  match x.datum, y.datum with
  | .nan .., _ => x.quiet
  | _, .nan .. => y.quiet
  | .infinite _, .infinite _ => undefined
  | .infinite a, .finite b _ => infinite (a != b)
  | .finite a _, .infinite b => zero (a != b)
  | .finite a m, .finite b n => ofMagnitude (a != b) (m / n)

/-- The magnitude of a finite number. -/
def magnitude (x : Double) : Rat :=
  match x.datum with
  | .finite _ m => m
  | _ => 0

/-- Whether the number is a zero of either sign. -/
def isZero (x : Double) : Bool :=
  match x.datum with
  | .finite _ m => m = 0
  | _ => false

/-- The bits of the nearest single-precision number. -/
def toSingle (x : Double) : UInt32 :=
  UInt32.ofNat (Format.convert .double .single x.bits.toNat)

/-- The number with the value of single-precision bits. -/
def ofSingle (word : UInt32) : Double :=
  ofWord (Format.convert .single .double word.toNat)

/-- The number nearest to `digits · 10 ^ exponent`.  Exponents far outside the
format's range are settled without computing the power. -/
def ofDecimal (negative : Bool) (digits : Nat) (exponent : Int) : Double :=
  if digits = 0 then zero negative
  else
    let order := exponent + (Nat.toDigits 10 digits).length
    if 400 < order then infinite negative
    else if order < -400 then zero negative
    else ofMagnitude negative (digits * (10 : Rat) ^ exponent)

end Double

end ShaderPlayer
