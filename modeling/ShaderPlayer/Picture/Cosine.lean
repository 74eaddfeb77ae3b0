/-
Cosine blocks.

A plane of samples can be kept in blocks of eight by eight.  A block is taken for a sum of
cosine waves along its rows and columns, and of each wave the strength is kept, in steps
that are longer for finer waves.  The samples come back nearly as they were.  Of a colour
the brightness is kept and how far blue and red differ from it, the differences for every
second column and row.

Main statement: what comes back of a plane has the rows and columns of the plane
(`size_keep`, `size_of_mem_keep`).
-/
import ShaderPlayer.Picture.Plane
import ShaderPlayer.Picture.Stored

namespace ShaderPlayer.Picture

/-! ### Blocks -/

/-- The waves over eight samples, the flat one first, with 13 binary places. -/
def waves : Plane Int := #[
  #[8192, 8192, 8192, 8192, 8192, 8192, 8192, 8192],
  #[11363, 9633, 6437, 2260, -2260, -6437, -9633, -11363],
  #[10703, 4433, -4433, -10703, -10703, -4433, 4433, 10703],
  #[9633, -2259, -11362, -6436, 6436, 11362, 2259, -9633],
  #[8192, -8192, -8192, 8192, 8192, -8192, -8192, 8192],
  #[6437, -11362, 2261, 9633, -9633, -2261, 11362, -6437],
  #[4433, -10704, 10704, -4433, -4433, 10704, -10704, 4433],
  #[2260, -6436, 9633, -11363, 11363, -9633, 6436, -2260]]

/-- The same waves by sample: what each of them adds to it. -/
def wavesAt : Plane Int := waves.turn 8

/-- The products of lines with the lines of a table, with so many binary places cut off;
a half goes up. -/
def productsWith (table : Plane Int) (places : Nat) (lines : Plane Int) : Plane Int :=
  lines.map fun line => table.map fun weights =>
    let products := Array.zipWith (· * ·) weights line
    products.foldl (· + ·) ((1 <<< (places - 1) : Nat) : Int) / (1 <<< places : Nat)

/-- The strengths of the waves in a block of samples, eightfold. -/
def strengths (block : Plane Int) : Plane Int :=
  (productsWith waves 15 ((productsWith waves 11 block).turn 8)).turn 8

/-- The samples of a block whose waves have given strengths. -/
def samples (strengths : Plane Int) : Plane Int :=
  productsWith wavesAt 18 ((productsWith wavesAt 11 (strengths.turn 8)).turn 8)

/-- How many steps an eightfold strength has, to the nearest; a half goes away from zero. -/
def countSteps (step : Nat) (strength : Int) : Int :=
  let nearest (n : Int) : Int := (n + 4 * step) / (8 * step)
  if strength < 0 then -nearest (-strength) else nearest strength

/-- What comes back of a block of samples. -/
def keepBlock (steps : Plane Nat) (block : Plane Int) : Plane Int :=
  let keep (step : Nat) (strength : Int) : Int := countSteps step strength * step
  samples (Array.zipWith (Array.zipWith keep) steps (strengths block))

/-- The steps for brightness. -/
def brightnessSteps : Plane Nat := #[
  #[8, 6, 5, 8, 12, 20, 26, 31],
  #[6, 6, 7, 10, 13, 29, 30, 28],
  #[7, 7, 8, 12, 20, 29, 35, 28],
  #[7, 9, 11, 15, 26, 44, 40, 31],
  #[9, 11, 19, 28, 34, 55, 52, 39],
  #[12, 18, 28, 32, 41, 52, 57, 46],
  #[25, 32, 39, 44, 52, 61, 60, 51],
  #[36, 46, 48, 49, 56, 50, 52, 50]]

/-- The steps for differences from brightness. -/
def differenceSteps : Plane Nat := #[
  #[9, 9, 12, 24, 50, 50, 50, 50],
  #[9, 11, 13, 33, 50, 50, 50, 50],
  #[12, 13, 28, 50, 50, 50, 50, 50],
  #[24, 33, 50, 50, 50, 50, 50, 50],
  #[50, 50, 50, 50, 50, 50, 50, 50],
  #[50, 50, 50, 50, 50, 50, 50, 50],
  #[50, 50, 50, 50, 50, 50, 50, 50],
  #[50, 50, 50, 50, 50, 50, 50, 50]]

/-! ### Planes -/

/-- A sample as a byte. -/
def clampSample (n : Int) : UInt8 := UInt8.ofNat (min 255 n.toNat)

namespace Plane

/-- What comes back of a plane that is kept in blocks, the last ones filled up by
repetition.  Samples count from the middle of their range. -/
def keep (p : Plane UInt8) (steps : Plane Nat) (width height : Nat) : Plane UInt8 :=
  let sample (x y : Nat) : Int := (p.value (min x (width - 1)) (min y (height - 1))).toNat
  let blocks : Plane (Plane Int) := ofFn ((width + 7) / 8) ((height + 7) / 8) fun column row =>
    keepBlock steps (ofFn 8 8 fun x y => sample (8 * column + x) (8 * row + y) - 128)
  ofFn width height fun x y =>
    clampSample ((blocks.value (x / 8) (y / 8)).value (x % 8) (y % 8) + 128)

theorem size_keep (p : Plane UInt8) (steps : Plane Nat) (width height : Nat) :
    (p.keep steps width height).size = height := size_ofFn ..

theorem size_of_mem_keep {p : Plane UInt8} {steps : Plane Nat} {width height : Nat}
    {row : Array UInt8} (h : row ∈ p.keep steps width height) : row.size = width :=
  size_of_mem_ofFn h

/-- The means of four samples each; a half goes down in one column and up in the next. -/
def halve (columns rows : Nat) (p : Plane UInt8) : Plane UInt8 :=
  ofFn columns rows fun x y =>
    let sum := (p.value (2 * x) (2 * y)).toNat + (p.value (2 * x + 1) (2 * y)).toNat
      + (p.value (2 * x) (2 * y + 1)).toNat + (p.value (2 * x + 1) (2 * y + 1)).toNat
    UInt8.ofNat ((sum + 1 + x % 2) / 4)

/-- The plane with twice as many columns and rows: each sample leans by a quarter towards
its neighbours, unless there are few columns. -/
def double (columns rows : Nat) (p : Plane UInt8) : Plane UInt8 :=
  let sample (x y : Nat) : Nat := (p.value x y).toNat
  let neighbour (count i : Nat) : Nat :=
    if i % 2 = 0 then i / 2 - 1 else min (count - 1) (i / 2 + 1)
  ofFn (2 * columns) (2 * rows) fun x y =>
    if columns ≤ 2 then p.value (x / 2) (y / 2)
    else
      let column (x : Nat) : Nat := 3 * sample x (y / 2) + sample x (neighbour rows y)
      let sum := 3 * column (x / 2) + column (neighbour columns x)
      UInt8.ofNat ((sum + 8 - x % 2) / 16)

/-- What comes back of a plane of differences. -/
def keepHalved (width height : Nat) (p : Plane UInt8) : Plane UInt8 :=
  let columns := (width + 1) / 2
  let rows := (height + 1) / 2
  -- the columns of whole blocks are repeated before samples are joined, the rows after
  let blockColumns := 8 * ((columns + 7) / 8)
  let halved := (p.fit width height (2 * blockColumns) (2 * rows)).halve blockColumns rows
  (halved.keep differenceSteps blockColumns rows).double columns rows

end Plane

/-! ### Pictures -/

/-- Sixteen binary places cut off; a half goes up. -/
def cutPlaces (n : Int) : Int := (n + 0x8000) / 0x10000

/-- The brightness of a colour, and how far its blue and its red differ from it. -/
def splitColour (red green blue : Int) : UInt8 × UInt8 × UInt8 :=
  let difference (n : Int) : Int := (n + 0x800000 + 0x8000 - 1) / 0x10000
  (clampSample (cutPlaces (19595 * red + 38470 * green + 7471 * blue)),
    clampSample (difference (-11059 * red - 21709 * green + 32768 * blue)),
    clampSample (difference (32768 * red - 27439 * green - 5329 * blue)))

/-- The colour with a brightness and differences from it. -/
def joinColour (brightness blue red : Int) : Bytes :=
  let blue := blue - 128
  let red := red - 128
  [clampSample (brightness + cutPlaces (91881 * red)),
    clampSample (brightness + cutPlaces (-22554 * blue - 46802 * red)),
    clampSample (brightness + cutPlaces (116130 * blue))]

/-- What comes back of a picture that is kept in blocks, if it has no alpha. -/
def Stored.blurred (s : Stored) : Stored :=
  let keep (p : Plane UInt8) : Plane UInt8 := p.keep brightnessSteps s.width s.height
  let keepHalved (p : Plane UInt8) : Plane UInt8 := p.keepHalved s.width s.height
  let made (channels : Nat) (bytes : Bytes) : List (Plane UInt8) :=
    Plane.ofBytes channels s.width s.height bytes
  match s.raster with
  | .greys bytes =>
    { s with raster := .greys (Plane.toBytes s.width s.height ((made 1 bytes).map keep)) }
  | .colours bytes =>
    match made 3 bytes with
    | [red, green, blue] =>
      let part (pick : UInt8 × UInt8 × UInt8 → UInt8) : Plane UInt8 :=
        .ofFn s.width s.height fun x y =>
          pick (splitColour (red.value x y).toNat (green.value x y).toNat (blue.value x y).toNat)
      let brightness := keep (part (·.1))
      let blue := keepHalved (part (·.2.1))
      let red := keepHalved (part (·.2.2))
      let texels := (List.range s.height).flatMap fun y =>
        (List.range s.width).flatMap fun x =>
          joinColour (brightness.value x y).toNat (blue.value x y).toNat (red.value x y).toNat
      { s with raster := .colours texels }
    | _ => s
  | _ => s

end ShaderPlayer.Picture
