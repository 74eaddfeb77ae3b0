/-
Pictures.

A picture is a grid of texels of four bytes, red, green, blue and alpha, row after
row.  Channel textures are made from arrays of bytes: a grey array fills red alone,
and missing alpha is opaque.

Main statements: a picture made from bytes with four to a texel holds these very
bytes (`texels_four`), and expanding a grey or coloured texel gives four bytes each
(`length_expandGrey`, `length_expandColour`).
-/
import ShaderPlayer.NumericArray

namespace ShaderPlayer

/-- A picture: its size and its texels in rows, four bytes each. -/
structure Picture where
  width : Nat
  height : Nat
  texels : Bytes
  deriving DecidableEq, Repr

namespace Picture

/-- A picture of one black, transparent texel. -/
def blank : Picture := ⟨1, 1, [0, 0, 0, 0]⟩

/-- Opaque alpha. -/
def opaqueAlpha : UInt8 := 255

/-- Texels from their red alone. -/
def expandGrey (bytes : Bytes) : Bytes := bytes.flatMap fun red => [red, 0, 0, opaqueAlpha]

/-- Texels from their colours. -/
def expandColour : Bytes → Bytes
  | red :: green :: blue :: rest => red :: green :: blue :: opaqueAlpha :: expandColour rest
  | _ => []

/-- Texels of a grey picture, which has its grey in all three colours. -/
def spreadGrey (bytes : Bytes) : Bytes :=
  bytes.flatMap fun grey => [grey, grey, grey, opaqueAlpha]

theorem length_expandGrey (bytes : Bytes) : (expandGrey bytes).length = 4 * bytes.length := by
  induction bytes with
  | nil => rfl
  | cons b bs ih =>
    simp only [expandGrey, List.flatMap_cons, List.length_append, List.length_cons,
      List.length_nil] at ih ⊢
    omega

theorem length_expandColour {bytes : Bytes} {n : Nat} (h : bytes.length = 3 * n) :
    (expandColour bytes).length = 4 * n := by
  induction n generalizing bytes with
  | zero =>
    obtain rfl := List.eq_nil_of_length_eq_zero (by omega)
    rfl
  | succ n ih =>
    match bytes, h with
    | red :: green :: blue :: rest, h =>
      simp only [List.length_cons] at h
      have := @ih rest (by omega)
      simp only [expandColour, List.length_cons, this]
      omega

/-- The texels of bytes that come so many to a texel. -/
def texels? (channels : Nat) (bytes : Bytes) : Option Bytes :=
  match channels with
  | 1 => some (expandGrey bytes)
  | 3 => some (expandColour bytes)
  | 4 => some bytes
  | _ => none

theorem texels_four (bytes : Bytes) : texels? 4 bytes = some bytes := rfl

/-- The picture of an array: its last axis is the channels, which a grey array may
leave out. -/
def ofArray (a : NumericArray) : Except Fault Picture :=
  let shape := if a.shape.isEmpty then [1] else a.shape
  if a.type ≠ .byte then .error (.channelType a.type.name)
  else match shape with
    | [height, width] => .ok ⟨width, height, expandGrey a.bytes⟩
    | [height, width, channels] =>
      match texels? channels a.bytes with
      | some texels => .ok ⟨width, height, texels⟩
      | none => .error (.channelShape shape)
    | _ => .error (.channelShape shape)

end Picture

end ShaderPlayer
