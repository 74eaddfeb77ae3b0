/-
Uniform blocks.

The host's side of a uniform buffer: named fields of 32-bit elements, one after the
other, in memory filled up to a multiple of sixteen bytes.  A field of fewer elements
than none goes back instead, and places before the start are counted from the end.  A
field of one element takes a number, any other a list; elements are stored one by one,
so that those before a faulty one stay.  Of two fields with one name the later is meant.

Main statements: the memory has a multiple of sixteen bytes, at least sixteen
(`four_dvd_paddedWords`, `four_le_paddedWords`), and assignments keep its size
(`size_store`).
-/
import ShaderPlayer.Entries
import ShaderPlayer.Value

namespace ShaderPlayer

/-- A field of a uniform block, its place counted in elements. -/
structure UniformField where
  name : Text
  scalar : Scalar
  offset : Nat
  count : Nat
  deriving DecidableEq, Repr

/-- A block of uniforms: its fields and its memory in 32-bit words. -/
structure UniformBlock where
  fields : List UniformField
  words : List UInt32
  deriving DecidableEq, Repr

/-- An element as it is read: the bits of a float, or an integer. -/
inductive Element where
  | float (bits : UInt32)
  | int (n : Int)
  deriving DecidableEq, Repr

/-- The bytes of a word, the lowest first. -/
def littleEndian (word : UInt32) : Bytes :=
  [word.toUInt8, (word >>> 8).toUInt8, (word >>> 16).toUInt8, (word >>> 24).toUInt8]

namespace UniformBlock

/-! ### Layout -/

/-- The words of a block whose fields need so many: whole groups of four, at least
one. -/
def paddedWords (needed : Nat) : Nat := (max needed 1 + 3) / 4 * 4

theorem four_dvd_paddedWords (needed : Nat) : 4 ∣ paddedWords needed :=
  Nat.dvd_mul_left ..

theorem four_le_paddedWords (needed : Nat) : 4 ≤ paddedWords needed := by
  unfold paddedWords
  omega

theorem le_paddedWords (needed : Nat) : needed ≤ paddedWords needed := by
  unfold paddedWords
  omega

/-- A place in memory of so many words: counted from the end where it is negative, and
kept inside. -/
def inside (size : Nat) (place : Int) : Nat :=
  if place < 0 then (size + place).toNat else min place.toNat size

theorem inside_le (size : Nat) (place : Int) : inside size place ≤ size := by
  unfold inside
  split <;> omega

theorem inside_of_le {size n : Nat} (h : n ≤ size) : inside size n = n := by
  unfold inside
  rw [if_neg (by omega)]
  omega

/-- Places fields one after the other in memory of so many words, from an offset on. -/
def place (size : Nat) (offset : Int) : List (Text × Scalar × Int) → List UniformField
  | [] => []
  | (name, scalar, count) :: rest =>
    let start := inside size offset
    ⟨name, scalar, start, inside size (offset + count) - start⟩
      :: place size (offset + count) rest

/-- The block with the given fields, all zero. -/
def make (fields : List (Text × Scalar × Int)) : UniformBlock :=
  let needed : Int := fields.foldl (fun n (_, _, count) => n + count) 0
  let size := paddedWords needed.toNat
  { fields := place size 0 fields, words := List.replicate size 0 }

/-- The field that a name means. -/
def field? (b : UniformBlock) (name : Text) : Option UniformField :=
  -- the last field of a name is the one that is meant
  b.fields.reverse.find? (·.name = name)

/-- The field that a name has to mean. -/
def field (b : UniformBlock) (name : Text) : Except Fault UniformField :=
  match b.field? name with
  | some f => .ok f
  | none => .error (.unknownKey name)

/-- The names of the fields, each at its first place. -/
def keys (b : UniformBlock) : List Text :=
  Entries.keys (Entries.ofList (b.fields.map fun f => (f.name, ())))

/-- The size in bytes. -/
def size (b : UniformBlock) : Nat := 4 * b.words.length

/-- The bytes of the memory. -/
def bytes (b : UniformBlock) : Bytes := b.words.flatMap littleEndian

/-! ### Reading -/

/-- The integer of a word with a sign. -/
def signedWord (word : UInt32) : Int :=
  if word.toNat < 0x80000000 then word.toNat else (word.toNat : Int) - 0x100000000

/-- The element that a word holds. -/
def element (scalar : Scalar) (word : UInt32) : Element :=
  match scalar with
  | .float => .float word
  | .int => .int (signedWord word)
  | .uint => .int word.toNat

/-- The words of a field. -/
def wordsOf (b : UniformBlock) (f : UniformField) : List UInt32 :=
  (b.words.drop f.offset).take f.count

/-- The words of the field that a name means; none for an unknown name. -/
def wordsAt (b : UniformBlock) (name : Text) : List UInt32 :=
  match b.field? name with
  | some f => b.wordsOf f
  | none => []

/-- The word of a field of one element. -/
def wordAt (b : UniformBlock) (name : Text) : UInt32 := (b.wordsAt name).headD 0

/-- The elements of a field. -/
def read (b : UniformBlock) (name : Text) : Except Fault (List Element) := do
  let f ← b.field name
  return (b.wordsOf f).map (element f.scalar)

/-! ### Writing -/

/-- The word of an integer, if it lies between bounds. -/
def integerWord (scalar : Scalar) (low high : Int) (value : Value) : Except Fault UInt32 :=
  match value.integer? with
  | none => .error (.elementType scalar)
  | some n =>
    if low ≤ n ∧ n < high then .ok (UInt32.ofNat (n % 0x100000000).toNat)
    else .error (.elementRange scalar)

/-- The word of a value as an element. -/
def encode (scalar : Scalar) (value : Value) : Except Fault UInt32 :=
  match scalar with
  | .int => integerWord .int (-0x80000000) 0x80000000 value
  | .uint => integerWord .uint 0 0x100000000 value
  | .float =>
    match value with
    | .float x => .ok x.toSingle
    | v =>
      match v.integer? with
      | none => .error (.elementType .float)
      | some n =>
        match Double.ofInt? n with
        | some x => .ok x.toSingle
        | none => .error (.elementRange .float)

/-- The block with a word stored at an offset. -/
def store (b : UniformBlock) (offset : Nat) (word : UInt32) : UniformBlock :=
  { b with words := b.words.set offset word }

/-- The block with a word stored at the start of a field. -/
def putWord (b : UniformBlock) (name : Text) (word : UInt32) : UniformBlock :=
  match b.field? name with
  | some f => b.store f.offset word
  | none => b

theorem size_store (b : UniformBlock) (offset : Nat) (word : UInt32) :
    (b.store offset word).size = b.size := by
  simp [store, size]

/-- Stores a value as an element. -/
def storeValue (scalar : Scalar) (offset : Nat) (value : Value) :
    EStateM Fault UniformBlock Unit := do
  let word ← MonadExcept.ofExcept (encode scalar value)
  modify fun b => b.store offset word

/-- Stores the first values of a list as elements; `short` is the fault of a list
with too few. -/
def storeValues (short : Fault) (scalar : Scalar) :
    (offset count : Nat) → List Value → EStateM Fault UniformBlock Unit
  | _, 0, _ => pure ()
  | _, _ + 1, [] => throw short
  | offset, count + 1, value :: values => do
    storeValue scalar offset value
    storeValues short scalar (offset + 1) count values

/-- Whether a value is a number. -/
def isNumber : Value → Bool
  | .bool _ | .int _ | .float _ => true
  | _ => false

/-- Assigns a value to a field. -/
def assign (short : Fault) (name : Text) (value : Value) : EStateM Fault UniformBlock Unit := do
  let f ← MonadExcept.ofExcept ((← get).field name)
  if f.count = 1 then
    if isNumber value then storeValue f.scalar f.offset value else throw .assertion
  else match value with
    | .list values => storeValues short f.scalar f.offset f.count values
    | _ => throw .assertion

/-- Assigns a number or a list to a field. -/
def set (name : Text) (value : Value) : EStateM Fault UniformBlock Unit :=
  assign .listTooShort name value

end UniformBlock

end ShaderPlayer
