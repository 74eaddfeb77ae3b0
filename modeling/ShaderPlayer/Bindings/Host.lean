/-
The host's side of the bindings.

What the host keeps for the shader whether or not there is a device: the size of
the screen, the blocks of time, mouse, keyboard and custom uniforms, the data tables
and the pictures of the channels.

Main statement: the names of the custom uniforms are those that were set
(`customNames_setCustom`).
-/
import ShaderPlayer.Picture
import ShaderPlayer.Shader.Prelude
import ShaderPlayer.Text.Word
import ShaderPlayer.Uniform

namespace ShaderPlayer

/-- The host's side of the bindings. -/
structure Host where
  width : Int
  height : Int
  /-- Whether the pass textures have single precision; otherwise they have half. -/
  wide : Bool
  /-- The size of each storage buffer in bytes. -/
  storageSize : Int
  time : UniformBlock
  mouse : UniformBlock
  keyboard : UniformBlock
  customNames : List Text
  custom : UniformBlock
  tables : Shader.Tables
  channel0 : Option Picture
  channel1 : Option Picture

namespace Host

/-! ### The blocks -/

/-- The number of a frame, the seconds since the start and since the last frame. -/
def timeBlock : UniformBlock := .make [
  ("frame".toList, .uint, 1), ("elapsed".toList, .float, 1), ("delta".toList, .float, 1)]

/-- The position of the mouse in pixels, and whether it is clicked. -/
def mouseBlock : UniformBlock := .make [("pos".toList, .uint, 2), ("click".toList, .int, 1)]

/-- One bit for each key. -/
def keyboardBlock : UniformBlock := .make [("keys".toList, .uint, 8)]

/-- A block with a float under each name. -/
def customBlock (names : List Text) : UniformBlock :=
  .make (names.map fun name => (name, .float, 1))

/-- The size of a storage buffer when none is given. -/
def defaultStorageSize : Int := 16 * 1024 * 1024

/-- The width and the height of a screen that is given its sides. -/
def sizeOf (sides : List Value) : Except Fault (Int × Int) :=
  match sides with
  | [width, height] => do return (← width.toInteger, ← height.toInteger)
  | sides => .error (.sides sides.length)

/-- The host's side at the start. -/
def start (width height : Int) (wide : Bool) (storageSize : Int) : Host where
  width := width
  height := height
  wide := wide
  storageSize := storageSize
  time := timeBlock
  mouse := mouseBlock
  keyboard := keyboardBlock
  customNames := [Shader.placeholder]
  custom := customBlock [Shader.placeholder]
  tables := Shader.bootstrapTables
  channel0 := none
  channel1 := none

/-! ### Custom uniforms -/

/-- A value as the name of a custom uniform. -/
def customName : Value → Except Fault Text
  | .text name => if name.isIdentifier then .ok name else .error (.customName name)
  | v => .error (.customNameType v.typeName)

/-- The names and values of custom uniforms that a caller gives. -/
def customArguments (names values : Value) : Except Fault (List Text × List Double) := do
  let names ← names.items
  let values ← (← values.items).mapM Value.toDouble
  if names.length = values.length then
    return (← names.mapM customName, values)
  else throw .customCount

/-- The names and values to use: a structure cannot be empty. -/
def customOrPlaceholder (names : List Text) (values : List Double) : List (Text × Double) :=
  if names.isEmpty then [(Shader.placeholder, .zero false)] else names.zip values

/-- The host with custom uniforms set, each name with its value. -/
def setCustom (h : Host) (pairs : List (Text × Double)) : Host :=
  let names := pairs.map (·.1)
  let block := if names = h.customNames then h.custom else customBlock names
  { h with
    customNames := names
    custom := pairs.foldl (fun b (name, x) => b.putWord name x.toSingle) block }

theorem customNames_setCustom (h : Host) (pairs : List (Text × Double)) :
    (h.setCustom pairs).customNames = pairs.map (·.1) := rfl

/-- The values of the custom uniforms, as doubles. -/
def customValues (h : Host) : List Double :=
  h.customNames.map fun name => .ofSingle (h.custom.wordAt name)

/-! ### The keyboard -/

/-- The word and the bit of a key code. -/
def keyPlace (code : Nat) : Nat × Nat := (code / 32, code % 32)

/-- A word with a bit set or cleared. -/
def withBit (word : UInt32) (bit : Nat) (down : Bool) : UInt32 :=
  let mask := (1 : UInt32) <<< UInt32.ofNat bit
  if down then word ||| mask else word &&& ~~~mask

/-- The host with a key set down or up. -/
def setKey (h : Host) (code : Nat) (down : Bool) : Host :=
  let (word, bit) := keyPlace code
  let old := (h.keyboard.words[word]?).getD 0
  { h with keyboard := h.keyboard.store word (withBit old bit down) }

/-- A value as a key code. -/
def keycode (code : Value) : Except Fault Nat :=
  match code with
  | .float x =>
    match x.datum with
    | .finite negative magnitude =>
      let exact := Double.signed negative magnitude
      if 0 ≤ exact ∧ exact < 256 then .error (.notSubscript code.typeName)
      else .error (.keycode code.shown)
    | _ => .error (.keycode code.shown)
  | v =>
    match v.integer? with
    | some n => if 0 ≤ n ∧ n < 256 then .ok n.toNat else .error (.keycode v.shown)
    | none => .error (.incomparable "<=".toList "int".toList v.typeName)

/-! ### Tables and channels -/

/-- The host with the given tables, or the placeholder instead of none. -/
def setTables (h : Host) (tables : Shader.Tables) : Host :=
  { h with tables := if tables.isEmpty then Shader.bootstrapTables else tables }

/-- The bytes of tables, one after the other, four for each value. -/
def tableBytes (tables : Shader.Tables) : Except Fault Bytes := do
  let words ← (tables.flatMap (·.2)).mapM fun n =>
    if 0 ≤ n ∧ n < 0x100000000 then Except.ok (UInt32.ofNat n.toNat)
    else .error (.elementOverflow n "uint32".toList false)
  return words.flatMap littleEndian

/-- The host with a picture in one of the channels. -/
def setChannel (h : Host) (second : Bool) (picture : Picture) : Host :=
  if second then { h with channel1 := some picture } else { h with channel0 := some picture }

/-- A value as one of two indices: whether it is the second. -/
def pairIndex (missing : Fault) (index : Value) : Except Fault Bool :=
  if index.equalsInteger 0 then .ok false
  else if index.equalsInteger 1 then .ok true
  else .error missing

/-- A value that equals an index has to be an integer to be used as one. -/
def checkSubscript (index : Value) : Except Fault Unit :=
  if index.integer?.isSome then .ok () else .error (.notSubscript index.typeName)

/-- The declarations of the bindings. -/
def bindingText (h : Host) : Text := Shader.bindingText h.wide

end Host

end ShaderPlayer
