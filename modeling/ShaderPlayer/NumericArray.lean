/-
Arrays of numbers.

What callers upload: elements of one type in a shape, the last axis running fastest.
An array is made from values cast to a given type, or from nested lists, whose
element type is then the narrowest that holds them all.

Main statement: an array in which the values given repeat has as many elements as
its shape asks for (`length_cycled`).
-/
import ShaderPlayer.Value

namespace ShaderPlayer

/-- The types of array elements. -/
inductive ElementType where
  | bool
  /-- An integer of so many bytes, with or without a sign. -/
  | integer (signed : Bool) (size : Nat)
  /-- A number with a fraction, by its format. -/
  | floating (format : Format)
  /-- A text of so many characters. -/
  | text (length : Nat)
  /-- Anything else. -/
  | object
  deriving DecidableEq, Repr

namespace ElementType

/-- Bytes, the type of texels. -/
def byte : ElementType := .integer false 1

/-- The integers that need no type of their own. -/
def int64 : ElementType := .integer true 8

/-- The bits of a format's word. -/
def formatBits (f : Format) : Nat := f.fraction + f.exponent + 1

/-- The type's name. -/
def name : ElementType → Text
  | .bool => "bool".toList
  | .integer signed size =>
    (if signed then "int".toList else "uint".toList) ++ Text.ofNat (8 * size)
  | .floating format => "float".toList ++ Text.ofNat (formatBits format)
  | .text length => '<' :: 'U' :: Text.ofNat length
  | .object => "object".toList

/-- The types that can be named. -/
def nameable : List ElementType :=
  [.bool, .integer false 1, .integer false 2, .integer false 4, .integer false 8,
    .integer true 1, .integer true 2, .integer true 4, .integer true 8,
    .floating .half, .floating .single, .floating .double]

/-- The type with a name. -/
def ofName? (name : Text) : Option ElementType := nameable.find? (·.name = name)

end ElementType

/-- The lowest bytes of a number, the lowest first. -/
def lowBytes : (count n : Nat) → Bytes
  | 0, _ => []
  | count + 1, n => UInt8.ofNat n :: lowBytes count (n / 256)

/-- An array of numbers: the type of its elements, its shape and its bytes. -/
structure NumericArray where
  type : ElementType
  shape : List Nat
  bytes : Bytes
  deriving DecidableEq, Repr

namespace NumericArray

/-- Whether an integer element of so many bytes can hold an integer. -/
def holds (signed : Bool) (size : Nat) (n : Int) : Bool :=
  let half : Int := (1 <<< (8 * size) / 2 : Nat)
  if signed then -half ≤ n && n < half else 0 ≤ n && n < 2 * half

/-- The bytes of a value as an element.  A fraction is cut off, and the integer that is
left has to fit.  Nothing is no number. -/
def elementBytes (type : ElementType) (value : Value) : Except Fault Bytes :=
  match type with
  | .bool => .ok [if value.isTrue then 1 else 0]
  | .integer signed size => do
    let n ← value.toInteger
    if !holds signed size n then
      throw (.elementOverflow n type.name (signed || size < 4))
    return lowBytes size (n % (1 <<< (8 * size) : Nat)).toNat
  | .floating format => do
    let x ← match value with
      | .null => pure (Double.nan false)
      | v => v.toDouble
    return lowBytes (ElementType.formatBits format / 8)
      (Format.convert .double format x.bits.toNat)
  | .text length =>
    let characters := value.shown
    .ok ((characters.take length).flatMap (fun c => lowBytes 4 c.toNat)
      ++ List.replicate (4 * (length - characters.length)) 0)
  | .object => .ok (List.replicate 8 0)

/-- So many items, the given ones over and over, or blank ones if none are given. -/
def cycled {α : Type} (blank : α) (items : List α) (count : Nat) : List α :=
  let pool := items.toArray
  (List.range count).map fun i => (pool[i % pool.size]?).getD blank

theorem length_cycled {α : Type} (blank : α) (items : List α) (count : Nat) :
    (cycled blank items count).length = count := by
  simp [cycled]

/-- The array of a type and a shape, the values given over and over. -/
def fill (type : ElementType) (shape : List Nat) (values : List Value) :
    Except Fault NumericArray := do
  let blank ← elementBytes type (.int 0)
  let elements ← values.mapM (elementBytes type)
  return ⟨type, shape, (cycled blank elements (shape.foldl (· * ·) 1)).flatten⟩

/-! ### Nested lists -/

/-- The most axes of an array. -/
def maxAxes : Nat := 64

/-- What is known of the shape of a nested list while its items are gone through in
order. -/
structure Outline where
  /-- The most axes that the items seen so far allow. -/
  axes : Nat := maxAxes
  /-- The sizes along the axes, as the first items have them. -/
  sizes : List Nat := []
  /-- Whether an innermost item was seen, after which sizes are only compared. -/
  settled : Bool := false
  /-- Whether some item does not fit to those before it. -/
  ragged : Bool := false
  deriving DecidableEq, Repr

namespace Outline

/-- The outline after an item at a depth that is no list. -/
def leaf (o : Outline) (depth : Nat) : Outline :=
  if o.axes = depth then { o with settled := true }
  else { o with axes := depth, settled := true, ragged := o.ragged || o.settled }

/-- The outline at the beginning of a list at a depth, and whether its items count. -/
def list (o : Outline) (depth size : Nat) : Outline × Bool :=
  if o.axes = depth then ({ o with settled := true, ragged := true }, false)
  else if o.settled ∧ o.sizes[depth]? ≠ some size then
    ({ o with axes := depth, ragged := true }, false)
  else
    let o := if o.settled then o else { o with sizes := o.sizes ++ [size] }
    -- nothing lies deeper than an empty list
    (if size = 0 then { o with axes := depth + 1, settled := true } else o, true)

/-- The shape, as far as the items agree on it. -/
def shape (o : Outline) : List Nat := o.sizes.take o.axes

end Outline

mutual

/-- The outline after a value at a depth. -/
def outlineWith (depth : Nat) (o : Outline) : Value → Outline
  | .list items =>
    let (o, counts) := o.list depth items.length
    if counts then outlineWithAll (depth + 1) o items else o
  | _ => o.leaf depth

/-- The outline after values at a depth. -/
def outlineWithAll (depth : Nat) (o : Outline) : List Value → Outline
  | [] => o
  | item :: items => outlineWithAll depth (outlineWith depth o item) items

end

/-- The shape of a value, if its items agree on it. -/
def shapeOf (value : Value) : Except Fault (List Nat) :=
  let o := outlineWith 0 {} value
  if !o.ragged then .ok o.shape
  else if o.axes = maxAxes then .error (.tooDeep maxAxes)
  else .error (.ragged o.shape)

mutual

/-- The values in a nested list that are no lists. -/
def leaves : Value → List Value
  | .list items => leavesOfAll items
  | v => [v]

/-- The values in nested lists that are no lists. -/
def leavesOfAll : List Value → List Value
  | [] => []
  | item :: items => leaves item ++ leavesOfAll items

end

/-- The type that holds a single value. -/
def typeOfLeaf : Value → ElementType
  | .bool _ => .bool
  | .int n =>
    if -0x8000000000000000 ≤ n ∧ n < 0x8000000000000000 then .int64
    else if 0 ≤ n ∧ n < 0x10000000000000000 then .integer false 8
    else .object
  | .float _ => .floating .double
  | .text t => .text (max t.length 1)
  | _ => .object

/-- The characters that the values of a type need as text. -/
def textWidth : ElementType → Nat
  | .bool => 5
  | .integer false _ => 20
  | .integer true _ => 21
  | .floating _ => 32
  | .text length => length
  | .object => 0

/-- The narrowest type that holds the values of both. -/
def commonType : ElementType → ElementType → ElementType
  | .object, _ => .object
  | _, .object => .object
  | .text m, type => .text (max m (textWidth type))
  | type, .text n => .text (max (textWidth type) n)
  | .floating f, _ => .floating f
  | _, .floating f => .floating f
  | .bool, type => type
  | type, .bool => type
  | .integer a m, .integer b n => if a = b then .integer a (max m n) else .floating .double

/-- The array of a nested list or a single value. -/
def ofValue (value : Value) : Except Fault NumericArray := do
  let values := leaves value
  let type := match values.map typeOfLeaf with
    | [] => .floating .double
    | type :: types => types.foldl commonType type
  fill type (← shapeOf value) values

end NumericArray

end ShaderPlayer
