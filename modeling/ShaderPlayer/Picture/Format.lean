/-
Picture files.

The ending of a file's name says in which format the picture in it is kept.  Formats
differ in what they keep of a picture and in the pictures that they refuse.  Of several
reasons to refuse one the first counts, in the order in which its format looks at them.

Main statement: a format stores every picture for which it has no reason to refuse it
(`store_of_forall_not`).
-/
import ShaderPlayer.Picture.Cosine
import ShaderPlayer.Picture.Icon

namespace ShaderPlayer.Picture

/-- What a format keeps of a picture. -/
inductive Content where
  | everything
  | withoutAlpha
  /-- Pictures with alpha are kept as indices. -/
  | indexed
  /-- Nearly everything. -/
  | blurred
  | icons
  /-- A square picture with so many columns and rows. -/
  | square (side : Nat)
  /-- Nothing can be read of it. -/
  | nothing
  deriving DecidableEq, Repr

/-- What is read back of a picture.  Of one without texels nothing is, unless it was
brought to another size. -/
def Content.of (c : Content) (s : Stored) : Option Stored :=
  match c with
  | .square side => some (s.resized .cubic side side)
  | c =>
    if s.isEmpty then none
    else match c, s.raster with
      | .withoutAlpha, .coloursWithAlpha texels =>
        some { s with raster := .colours (dropAlpha texels) }
      | .indexed, .coloursWithAlpha texels =>
        some { s with raster := .indexed (.ofColours (Colour.ofBytes texels)) }
      | .blurred, _ => some s.blurred
      | .icons, _ => some s.icon
      | .nothing, _ => none
      | _, _ => some s

/-- A trait of pictures for which a format may refuse them. -/
inductive Trait where
  /-- Every picture has it. -/
  | any
  /-- There are no texels. -/
  | empty
  | depth (depth : Depth)
  /-- A side is longer than so many texels. -/
  | longerThan (side : Nat)
  /-- It is too long for an icon that is kept as it is, and too narrow for the others. -/
  | noIcon
  deriving DecidableEq, Repr

/-- Whether a picture has a trait. -/
def Trait.holds (s : Stored) : Trait → Bool
  | .any => true
  | .empty => s.isEmpty
  | .depth d => s.raster.depth = d
  | .longerThan side => side < max s.width s.height
  | .noIcon => (iconSide? s.width s.height).isNone && 256 < max s.width s.height

/-- A format: what it keeps, and the traits for which it refuses pictures. -/
structure Format where
  content : Content
  refusals : List (Trait × Fault)
  deriving DecidableEq, Repr

namespace Format

/-- What can be read from a file of the format that a picture was written to. -/
def store (f : Format) (s : Stored) : Except Fault (Option Stored) :=
  match f.refusals.find? fun (trait, _) => trait.holds s with
  | some (_, fault) => .error fault
  | none => .ok (f.content.of s)

theorem store_of_forall_not {f : Format} {s : Stored}
    (h : ∀ refusal ∈ f.refusals, refusal.1.holds s = false) : f.store s = .ok (f.content.of s) := by
  have : (f.refusals.find? fun (trait, _) => trait.holds s) = none :=
    List.find?_eq_none.2 fun refusal mem => by simp [h refusal mem]
  simp only [store, this]

/-! ### Reasons to refuse a picture -/

/-- In the words of the format. -/
def because (trait : Trait) (words : String) : Trait × Fault :=
  (trait, .pictureKind words.toList)

/-- A format without a place for texels of a depth. -/
def lacking (name : String) (depth : Depth) : Trait × Fault :=
  (.depth depth, .pictureDepth depth.name name.toList)

/-- A format that writes texels one after the other, and has none to write. -/
def noTexels : Trait × Fault := (.empty, .emptyPicture)

/-- A format that keeps sides in two bytes, the high one first or last. -/
def longSide (highFirst : Bool) : Trait × Fault := (.longerThan 65535, .wordOverflow highFirst)

/-- A format that needs a writer of its own. -/
def noWriter (name : String) : Trait × Fault := (.any, .noWriter name.toList)

/-! ### The formats -/

/-- Formats with black and white texels only. -/
def blackAndWhite (name : String) : Format :=
  ⟨.everything, [Depth.grey, .colour, .colourWithAlpha].map (lacking name)⟩

/-- The formats with the endings of their files. -/
def named : List (Format × List String) := [
  (⟨.everything, [noTexels]⟩,
    [".png", ".apng", ".tif", ".tiff", ".im", ".dds", ".jp2", ".j2k", ".jpc", ".jpf", ".jpx",
      ".j2c"]),
  (⟨.everything, [longSide false, noTexels]⟩, [".tga", ".icb", ".vda", ".vst"]),
  (⟨.everything, [longSide true]⟩, [".sgi", ".rgb", ".rgba", ".bw"]),
  (⟨.everything, [because (.depth .grey) "Unsupported QOI image mode",
    because .empty "Size must be positive"]⟩, [".qoi"]),
  (⟨.everything, [(.empty, .noRoom "can't allocate picture frame".toList),
    because (.longerThan 16383)
      "encoding error 5: Image size exceeds WebP limit of 16383 pixels"]⟩, [".webp"]),
  (⟨.everything, [because .empty "invalid canvas dimensions"]⟩, [".avif", ".avifs"]),
  (⟨.withoutAlpha, [noTexels]⟩, [".bmp", ".dib", ".ppm", ".pgm", ".pbm", ".pnm", ".pfm"]),
  (⟨.indexed, [because .empty "max() arg is an empty sequence", longSide false]⟩, [".gif"]),
  (⟨.icons, [because .noIcon "All sizes too large for image", noTexels]⟩, [".ico"]),
  (⟨.square 1024, []⟩, [".icns"]),
  (⟨.nothing, [noTexels]⟩, [".pdf"]),
  (⟨.blurred, [lacking "JPEG" .colourWithAlpha, noTexels]⟩,
    [".jpg", ".jpeg", ".jpe", ".jfif", ".mpo"]),
  (⟨.everything, [because .empty "Cannot write empty image as PCX",
    because (.depth .colourWithAlpha) "Cannot save RGBA images as PCX"]⟩, [".pcx"]),
  (⟨.nothing, [because (.depth .colourWithAlpha) "image mode is not supported", noTexels]⟩,
    [".eps", ".ps"]),
  (⟨.everything, [because .any "Unsupported BLP image mode"]⟩, [".blp"]),
  (blackAndWhite "XBM", [".xbm"]), (blackAndWhite "MSP", [".msp"]),
  (blackAndWhite "Palm", [".palm"]),
  (⟨.nothing, [noWriter "BUFR"]⟩, [".bufr"]), (⟨.nothing, [noWriter "GRIB"]⟩, [".grib"]),
  (⟨.nothing, [noWriter "HDF5"]⟩, [".h5", ".hdf"]),
  (⟨.nothing, [noWriter "WMF"]⟩, [".wmf", ".emf"])]

/-- The formats that can be read only, with the endings of their files. -/
def namedReadOnly : List (String × List String) := [
  ("PSD", [".psd"]), ("CUR", [".cur"]), ("DCX", [".dcx"]), ("FITS", [".fit", ".fits"]),
  ("FLI", [".fli", ".flc"]), ("FTEX", [".ftc", ".ftu"]), ("GBR", [".gbr"]), ("IPTC", [".iim"]),
  ("MPEG", [".mpg", ".mpeg"]), ("PCD", [".pcd"]), ("PIXAR", [".pxr"]), ("SUN", [".ras"]),
  ("XPM", [".xpm"])]

/-- The format in which pictures are written to files with an ending. -/
def ofExtension (extension : Text) : Except Fault Format :=
  let holds (endings : List String) : Bool := (endings.map String.toList).contains extension
  match named.find? fun (_, endings) => holds endings with
  | some (format, _) => .ok format
  | none =>
    match namedReadOnly.find? fun (_, endings) => holds endings with
    | some (name, _) => .error (.unknownKey name.toList)
    | none => .error (.unknownExtension extension)

end Format

end ShaderPlayer.Picture
