/-
Places in messages.

A message about a unit names a place in it as a line and a column, each after a
colon.  The first such place in the message is the one that counts.
-/
import ShaderPlayer.Number.Reader

namespace ShaderPlayer.Shader

/-- Whether a character is a decimal digit. -/
def isDigit (c : Char) : Bool := (Text.digit? c).isSome

/-- The numeral of the line at the first place that a message names. -/
def placeNumeral? : Text → Option Text
  | [] => none
  | c :: rest =>
    let line := rest.takeWhile isDigit
    let column := (rest.dropWhile isDigit).drop 1
    if c = ':' ∧ ¬ line.isEmpty ∧ (rest.dropWhile isDigit).head? = some ':'
        ∧ (column.head?.map isDigit).getD false then some line
    else placeNumeral? rest

/-- The line of the unit that a message names, if it names one, or the length of a
numeral that is not read. -/
def namedLine (message : Text) : Except Nat (Option Int) :=
  match placeNumeral? message with
  | none => .ok none
  | some numeral =>
    match Text.readInteger numeral with
    | .value n => .ok (some n)
    | .tooLong digits => .error digits
    | .malformed => .ok none

end ShaderPlayer.Shader
