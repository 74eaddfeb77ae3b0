/-
The log.

Notes of a level are collected in the order they were made; a threshold decides
which of them are seen.  The threshold is set by name, in any case of letters,
or by number.
-/
import ShaderPlayer.Number.Reader
import ShaderPlayer.Text.NumericTable
import ShaderPlayer.Text.Word

namespace ShaderPlayer

/-- The levels at which this library makes notes. -/
inductive Level where
  | info
  | warning
  | error
  deriving DecidableEq, Repr

/-- A note in the log. -/
structure Note where
  level : Level
  message : Text
  deriving DecidableEq, Repr

namespace Level

/-- The level's name. -/
def name : Level → Text
  | .info => "INFO".toList
  | .warning => "WARNING".toList
  | .error => "ERROR".toList

/-- The level's number; a threshold lets through what is not below it. -/
def rank : Level → Nat
  | .info => 20
  | .warning => 30
  | .error => 40

/-- The thresholds that have a name. -/
def named : List (Text × Int) := [
  ("CRITICAL".toList, 50), ("FATAL".toList, 50), ("ERROR".toList, 40), ("WARN".toList, 30),
  ("WARNING".toList, 30), ("INFO".toList, 20), ("DEBUG".toList, 10), ("NOTSET".toList, 0)]

/-- The threshold when none is set. -/
def usual : Int := warning.rank

/-- Whether a character has a numeric value. -/
def isNumeric (c : Char) : Bool :=
  if c.toNat < 128 then c.isDigit else Text.inRanges Text.numericRanges c.toNat

/-- The upper-case letter of a name's letter.  The dotless i and the long s are the
letters beyond ASCII whose upper case lies in it. -/
def capital (c : Char) : Char :=
  if c.toNat = 0x131 then 'I' else if c.toNat = 0x17f then 'S' else c.toUpper

/-- The threshold that a text sets, unless it is none. -/
def threshold? (t : Text) : Option Int :=
  if !t.isEmpty && t.all isNumeric then
    match Text.readInteger t with
    | .value n => some n
    | _ => none
  else named.lookup (t.map capital)

/-- The threshold that a setting leads to, and the note about one that is none. -/
def configure (setting : Text) : Int × List Note :=
  if setting.isEmpty then (usual, [])
  else match threshold? setting with
    | some n => (n, [])
    | none => (usual, [⟨.warning, "Invalid codeskew log level: ".toList ++ setting⟩])

end Level

/-- The notes that a threshold lets through.  A threshold of zero sets none, so that
the usual one stands. -/
def visible (threshold : Int) (notes : List Note) : List Note :=
  let threshold := if threshold = 0 then Level.usual else threshold
  notes.filter fun note => threshold ≤ note.level.rank

end ShaderPlayer
