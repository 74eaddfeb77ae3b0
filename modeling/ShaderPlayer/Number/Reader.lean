/-
Numerals in free text.

A caller may give a number as text: blanks around it, digits of any script, and
single underscores between digits.  Integers are read in base ten and limited in
length; a number with a fraction or an exponent is rounded once.
-/
import ShaderPlayer.Number.Double
import ShaderPlayer.Text.Blank
import ShaderPlayer.Text.Digit

namespace ShaderPlayer

/-- The longest decimal numeral that is read as an integer. -/
def maxDigits : Nat := 4300

namespace Text

/-- The character with a digit of any script turned into its ASCII digit, and a
blank beyond ASCII into a space. -/
def plainNumeral (c : Char) : Char :=
  if c.toNat < 127 then c
  else if isBlank c then ' '
  else match digit? c with
    | some d => Nat.digitChar d
    | none => c

/-- The blanks that may surround a numeral. -/
def isNumeralBlank (c : Char) : Bool :=
  c = ' ' || (0x9 ≤ c.toNat && c.toNat ≤ 0xd)

/-- The numeral with plain digits and without the blanks around it. -/
def numeralBody (t : Text) : Text :=
  let plain := (t.map plainNumeral).dropWhile isNumeralBlank
  (plain.reverse.dropWhile isNumeralBlank).reverse

/-- The numeral after its sign, and whether that was a minus. -/
def takeSign : Text → Bool × Text
  | '-' :: rest => (true, rest)
  | '+' :: rest => (false, rest)
  | t => (false, t)

/-- Whether every underscore stands between two digits; `afterDigit` says whether
a digit stands just before the text. -/
def underscoresInside (afterDigit : Bool) : Text → Bool
  | [] => true
  | '_' :: c :: rest => afterDigit && c.isDigit && underscoresInside true rest
  | ['_'] => false
  | c :: rest => underscoresInside c.isDigit rest

/-- The value of ASCII decimal digits. -/
def decimalValue (digits : Text) : Nat :=
  positional 10 (digits.map fun c => c.toNat - '0'.toNat)

/-- What reading an integer gives. -/
inductive IntegerReading where
  | value (n : Int)
  | malformed
  | tooLong (digits : Nat)
  deriving DecidableEq, Repr

/-- Reads an integer in base ten. -/
def readInteger (t : Text) : IntegerReading :=
  let (negative, body) := takeSign (numeralBody t)
  let run := body.takeWhile fun c => c.isDigit || c = '_'
  let digits := run.filter (·.isDigit)
  if digits.isEmpty || !underscoresInside false run then .malformed
  else if digits.length > maxDigits then .tooLong digits.length
  else if run.length < body.length then .malformed
  else
    let n : Int := decimalValue digits
    .value (if negative then -n else n)

/-- The exponent part of a numeral, empty or a letter, a sign and digits. -/
def readExponent : Text → Option Int
  | [] => some 0
  | e :: rest =>
    let (negative, digits) := takeSign rest
    if (e = 'e' || e = 'E') && !digits.isEmpty && digits.all (·.isDigit) then
      let n : Int := decimalValue digits
      some (if negative then -n else n)
    else none

/-- Reads a number with an optional fraction and exponent, or a name of an
infinity or of no number. -/
def readDouble (t : Text) : Option Double :=
  let body := numeralBody t
  if !underscoresInside false body then none
  else
    let (negative, magnitude) := takeSign (body.filter (· ≠ '_'))
    let name := magnitude.map Char.toLower
    if name = "inf".toList ∨ name = "infinity".toList then some (.infinite negative)
    else if name = "nan".toList then some (.nan negative)
    else
      let whole := magnitude.takeWhile (·.isDigit)
      let afterWhole := magnitude.dropWhile (·.isDigit)
      let (places, afterPlaces) : Text × Text :=
        match afterWhole with
        | '.' :: rest => (rest.takeWhile Char.isDigit, rest.dropWhile Char.isDigit)
        | rest => ([], rest)
      if whole.isEmpty && places.isEmpty then none
      else (readExponent afterPlaces).map fun exponent =>
        .ofDecimal negative (decimalValue (whole ++ places)) (exponent - places.length)

end Text

end ShaderPlayer
