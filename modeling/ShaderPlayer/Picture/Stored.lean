/-
What picture files hold.

A file holds the texels of a picture as greys, as colours with or without alpha, or as
indices into a list of colours.  Read from a file, every picture has colours and alpha.

Main statement: what a file keeps of texels without their alpha is three bytes for each
(`length_dropAlpha`).
-/
import ShaderPlayer.Picture
import ShaderPlayer.Picture.ColourTable

namespace ShaderPlayer.Picture

/-- Texels without their alpha. -/
def dropAlpha : Bytes → Bytes
  | red :: green :: blue :: _ :: rest => red :: green :: blue :: dropAlpha rest
  | _ => []

theorem length_dropAlpha {bytes : Bytes} {n : Nat} (h : bytes.length = 4 * n) :
    (dropAlpha bytes).length = 3 * n := by
  induction n generalizing bytes with
  | zero =>
    obtain rfl := List.eq_nil_of_length_eq_zero (by omega)
    rfl
  | succ n ih =>
    match bytes, h with
    | red :: green :: blue :: alpha :: rest, h =>
      simp only [List.length_cons] at h
      have := @ih rest (by omega)
      simp only [dropAlpha, List.length_cons, this]
      omega

/-- The texels that a file holds. -/
inductive Raster where
  | greys (bytes : Bytes)
  | colours (bytes : Bytes)
  | coloursWithAlpha (bytes : Bytes)
  | indexed (picture : Indexed)
  deriving DecidableEq, Repr

/-- What a file holds of each texel. -/
inductive Depth where
  | grey
  | colour
  | colourWithAlpha
  /-- The number of a colour in a list. -/
  | index
  deriving DecidableEq, Repr

/-- The depth's name. -/
def Depth.name : Depth → Text
  | grey => ['L']
  | colour => "RGB".toList
  | colourWithAlpha => "RGBA".toList
  | index => ['P']

namespace Raster

/-- The depth of texels.  Indices that are the greys of their colours count as these. -/
def depth : Raster → Depth
  | greys _ => .grey
  | colours _ => .colour
  | coloursWithAlpha _ => .colourWithAlpha
  | indexed picture => if picture.isRamp then .grey else .index

/-- The bytes of texels, as they are held. -/
def bytes : Raster → Bytes
  | greys bytes | colours bytes | coloursWithAlpha bytes => bytes
  | indexed picture => picture.indices.map UInt8.ofNat

/-- The texels in colours with alpha. -/
def texels : Raster → Bytes
  | greys bytes => spreadGrey bytes
  | colours bytes => expandColour bytes
  | coloursWithAlpha bytes => bytes
  | indexed picture => picture.texels

end Raster

/-- What a picture file holds. -/
structure Stored where
  width : Nat
  height : Nat
  raster : Raster
  deriving DecidableEq, Repr

namespace Stored

/-- A picture to be kept as it is. -/
def ofPicture (p : Picture) : Stored := ⟨p.width, p.height, .coloursWithAlpha p.texels⟩

/-- An array of bytes as a picture, its last axis the channels if it has three. -/
def ofArray? (a : NumericArray) : Option Stored :=
  match a.shape with
  | [height, width] | [height, width, 1] => some ⟨width, height, .greys a.bytes⟩
  | [height, width, 3] => some ⟨width, height, .colours a.bytes⟩
  | [height, width, 4] => some ⟨width, height, .coloursWithAlpha a.bytes⟩
  | _ => none

/-- The picture that is read from a file. -/
def picture (s : Stored) : Picture := ⟨s.width, s.height, s.raster.texels⟩

/-- Whether there are no texels. -/
def isEmpty (s : Stored) : Bool := s.width = 0 || s.height = 0

end Stored

end ShaderPlayer.Picture
