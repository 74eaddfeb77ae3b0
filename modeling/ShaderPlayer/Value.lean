/-
Values of callers.

What a caller passes where several types are allowed: nothing, a truth value, an
integer of any size, a double, a text, a list or a record.  Here are the
conversions that the operations of this library apply to such values, each with
the fault it ends in for a value it is not for.
-/
import ShaderPlayer.Fault
import ShaderPlayer.Number.Reader
import ShaderPlayer.Number.Shortest

namespace ShaderPlayer

/-- A value of a caller. -/
inductive Value where
  | null
  | bool (b : Bool)
  | int (n : Int)
  | float (x : Double)
  | text (t : Text)
  | list (items : List Value)
  | dict (fields : List (Text × Value))
  deriving Inhabited

namespace Value

/-- The name of a value's type in messages. -/
def typeName : Value → Text
  | null => "NoneType".toList
  | bool _ => "bool".toList
  | int _ => "int".toList
  | float _ => "float".toList
  | text _ => "str".toList
  | list _ => "list".toList
  | dict _ => "dict".toList

/-- Whether a value counts as true. -/
def isTrue : Value → Bool
  | null => false
  | bool b => b
  | int n => n ≠ 0
  | float x => !x.isZero
  | text t => !t.isEmpty
  | list items => !items.isEmpty
  | dict fields => !fields.isEmpty

mutual

/-- A value as it is written inside a list or a record. -/
def inner : Value → Text
  | null => "None".toList
  | bool b => if b then "True".toList else "False".toList
  | int n => Text.ofInt n
  | float x => x.shortest
  | text t => t.quoted
  | list items => '[' :: innerItems items ++ [']']
  | dict fields => '\x7b' :: innerFields fields ++ ['\x7d']

/-- The items of a list with commas between them. -/
def innerItems : List Value → Text
  | [] => []
  | [item] => item.inner
  | item :: items => item.inner ++ ',' :: ' ' :: innerItems items

/-- The fields of a record with commas between them. -/
def innerFields : List (Text × Value) → Text
  | [] => []
  | [(key, value)] => key.quoted ++ ':' :: ' ' :: value.inner
  | (key, value) :: fields =>
    key.quoted ++ ':' :: ' ' :: value.inner ++ ',' :: ' ' :: innerFields fields

end

/-- A value as text: a text itself, everything else as inside a list. -/
def shown : Value → Text
  | text t => t
  | v => v.inner

/-- The text that a value is. -/
def text? : Value → Option Text
  | text t => some t
  | _ => none

/-- The integer that a value counts as, without any conversion. -/
def integer? : Value → Option Int
  | bool b => some (if b then 1 else 0)
  | int n => some n
  | _ => none

/-- The part of a double before its fraction. -/
def truncate (x : Double) : Except Fault Int :=
  match x.datum with
  | .nan .. => .error .undefinedInteger
  | .infinite _ => .error .infiniteInteger
  | .finite negative magnitude =>
    .ok (if negative then -magnitude.floor else magnitude.floor)

/-- A value converted to an integer. -/
def toInteger : Value → Except Fault Int
  | bool b => .ok (if b then 1 else 0)
  | int n => .ok n
  | float x => truncate x
  | text t =>
    match t.readInteger with
    | .value n => .ok n
    | .malformed => .error (.notInteger t)
    | .tooLong digits => .error (.numeral digits)
  | v => .error (.noInteger v.typeName)

/-- The double of an integer. -/
def doubleOfInteger (n : Int) : Except Fault Double :=
  match Double.ofInt? n with
  | some x => .ok x
  | none => .error .integerTooLarge

/-- A value converted to a double. -/
def toDouble : Value → Except Fault Double
  | bool b => doubleOfInteger (if b then 1 else 0)
  | int n => doubleOfInteger n
  | float x => .ok x
  | text t =>
    match t.readDouble with
    | some x => .ok x
    | none => .error (.notNumber t)
  | v => .error (.noNumber v.typeName)

/-- The items of a value that can be gone through: those of a list, the characters
of a text, the keys of a record. -/
def items : Value → Except Fault (List Value)
  | list items => .ok items
  | text t => .ok (t.map fun c => text [c])
  | dict fields => .ok (fields.map fun (key, _) => text key)
  | v => .error (.notIterable v.typeName)

/-- One more than the largest index. -/
def indexLimit : Nat := 0x8000000000000000

/-- The most items that memory holds. -/
def memoryLimit : Nat := 0x10000000000

/-- Items repeated, unless there are too many of them for memory. -/
def repeatItems {α : Type} (items : List α) (count : Nat) : Except Fault (List α) :=
  if items.isEmpty then .ok []
  else if memoryLimit < items.length * count then .error .outOfMemory
  else .ok (List.replicate count items).flatten

/-- A text or list repeated. -/
def repeated (sequence : Value) (times : Value) : Except Fault Value :=
  match times.integer? with
  | none => .error (.repetition times.typeName)
  | some n =>
    if n < -(indexLimit : Int) ∨ (indexLimit : Int) ≤ n then .error .repetitionCount
    else match sequence with
      | text t =>
        if indexLimit ≤ t.length * n.toNat then .error .repetitionLength
        else (repeatItems t n.toNat).map text
      | list items => (repeatItems items n.toNat).map list
      | v => .ok v

/-- Whether a value is a text or a list. -/
def isSequence : Value → Bool
  | text _ | list _ => true
  | _ => false

/-- The product of two values. -/
def times (left right : Value) : Except Fault Value :=
  match left.integer?, right.integer? with
  | some m, some n => .ok (int (m * n))
  | _, _ =>
    match left, right with
    | float x, float y => .ok (float (x.mul y))
    | float x, r =>
      match r.integer? with
      | some n => (doubleOfInteger n).map fun y => float (x.mul y)
      | none =>
        if r.isSequence then repeated r left
        else .error (.operands ['*'] left.typeName right.typeName)
    | l, float y =>
      match l.integer? with
      | some m => (doubleOfInteger m).map fun x => float (x.mul y)
      | none =>
        if l.isSequence then repeated l right
        else .error (.operands ['*'] left.typeName right.typeName)
    | l, r =>
      if l.isSequence then repeated l r
      else if r.isSequence then repeated r l
      else .error (.operands ['*'] left.typeName right.typeName)

/-- The double nearest to the quotient of two integers. -/
def integerQuotient (m n : Int) : Except Fault Value :=
  if n = 0 then .error (.zeroDivision false)
  else
    let x := if m = 0 then Double.zero (n < 0) else Double.ofRat ((m : Rat) / (n : Rat))
    match x.datum with
    | .finite .. => .ok (float x)
    | _ => .error .quotientTooLarge

/-- The quotient of two values. -/
def dividedBy (left right : Value) : Except Fault Value :=
  let divided (x y : Double) : Except Fault Value :=
    if y.isZero then .error (.zeroDivision true) else .ok (float (x.div y))
  match left.integer?, right.integer? with
  | some m, some n => integerQuotient m n
  | _, _ =>
    match left, right with
    | float x, float y => divided x y
    | float x, r =>
      match r.integer? with
      | some n => doubleOfInteger n >>= divided x
      | none => .error (.operands ['/'] left.typeName right.typeName)
    | l, float y =>
      match l.integer? with
      | some m => doubleOfInteger m >>= (divided · y)
      | none => .error (.operands ['/'] left.typeName right.typeName)
    | _, _ => .error (.operands ['/'] left.typeName right.typeName)

/-- The field of a record under a key. -/
def field (fields : List (Text × Value)) (key : Text) : Except Fault Value :=
  match fields.lookup key with
  | some v => .ok v
  | none => .error (.unknownKey key)

/-- Whether a value equals an integer: an integer, truth value or double may. -/
def equalsInteger (n : Int) : Value → Bool
  | float x =>
    match x.datum with
    | .finite negative magnitude => Double.signed negative magnitude = n
    | _ => false
  | v => v.integer? = some n

/-- Whether an integer is among the items of a value. -/
def holdsInteger (n : Int) : Value → Except Fault Bool
  | list items => .ok (items.any (equalsInteger n))
  | text _ => .error (.textMember "int".toList)
  | dict _ => .ok false
  | v => .error (.noMembers v.typeName)

end Value

end ShaderPlayer
