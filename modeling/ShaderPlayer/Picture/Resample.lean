/-
Resampling.

A picture gets another size in two steps, first along its rows and then along its
columns.  A new sample is a mean of the samples around its place, weighed by a kernel
that is stretched where the picture shrinks.  The weights add up to one, in fixed point.
Colours count by their alpha, so that those of transparent texels do not spread.

Main statement: a resampled plane has the rows and columns that were asked for
(`size_resample`).
-/
import ShaderPlayer.Picture.Plane
import ShaderPlayer.Picture.Stored

namespace ShaderPlayer.Picture

/-! ### Kernels -/

/-- One, for numbers with 64 binary places. -/
def unit : Int := 0x10000000000000000

/-- How much a sample counts by its distance from the new one, up to a reach. -/
structure Kernel where
  reach : Nat
  weight : Rat → Int

namespace Kernel

/-- The square of the ratio of a circle's circumference to its diameter. -/
def piSquared : Int :=
  986960440108935861883449099987615113531 * unit / 100000000000000000000000000000000000000

/-- `sin (π x) / (π x)` near the origin, by the first terms of its series in `(π x) ^ 2`. -/
def sinc (x : Rat) : Int :=
  let square := piSquared * (x.num * x.num) / (x.den * x.den : Int)
  let term (k : Nat) (rest : Int) : Int :=
    unit - square * rest / ((2 * k + 2) * (2 * k + 3) : Nat) / unit
  (List.range 30).foldr term unit

/-- Three lobes of `sinc` on each side, flattened by the first lobe of a wider one. -/
def threeLobes : Kernel :=
  ⟨3, fun x => if -3 ≤ x ∧ x < 3 then sinc x * sinc (x / 3) / unit else 0⟩

/-- The piecewise cubic of reach two that crosses zero with a slope of minus one half. -/
def cubic : Kernel where
  reach := 2
  weight x :=
    let x := if x < 0 then -x else x
    let slope : Rat := -1 / 2
    let weight : Rat :=
      if x < 1 then ((slope + 2) * x - (slope + 3)) * x * x + 1
      else if x < 2 then (((x - 5) * x + 8) * x - 4) * slope
      else 0
    (weight * unit).floor

end Kernel

/-! ### Lines of samples -/

/-- The samples that count for a new one: the first of them, and their weights in units of
`weightUnit`. -/
structure Window where
  first : Nat
  weights : Array Int
  deriving DecidableEq, Repr

/-- How many units of weight make one. -/
def weightUnit : Nat := 0x400000

/-- The integer nearest to a quotient; a half goes away from zero. -/
def roundQuotient (n d : Int) : Int :=
  if n < 0 then -((d - 2 * n) / (2 * d)) else (d + 2 * n) / (2 * d)

/-- The window of the new sample with a number, where `count` of them are made from
`total` samples. -/
def Kernel.window (k : Kernel) (total count n : Nat) : Window :=
  -- lengths are counted in parts of a sample, twice `count` to each
  let place : Int := (2 * n + 1) * total
  let broader := max total count
  let reach : Int := 2 * k.reach * broader
  let first := ((place - reach + count) / (2 * count : Nat)).toNat
  let last := min total ((place + reach + count) / (2 * count : Nat)).toNat
  let near := (Array.range (last - first)).map fun i =>
    let middle : Nat := (2 * (first + i) + 1) * count
    k.weight ((middle - place : Int) / (2 * broader : Nat))
  let sum := near.foldl (· + ·) 0
  ⟨first, near.map fun weight => roundQuotient (weight * weightUnit) sum⟩

/-- The windows of all new samples of a line; none where the line keeps its samples. -/
def Kernel.windows? (k : Kernel) (total count : Nat) : Option (Array Window) :=
  if total = count then none else some ((Array.range count).map (k.window total count))

/-- The weighted mean of a line's samples in a window, as near as a sample comes to it. -/
def Window.mean (w : Window) (line : Array UInt8) : UInt8 :=
  let sum : Int := w.weights.size.fold
    (fun i _ sum => sum + w.weights[i] * (line.getD (w.first + i) 0).toNat) (weightUnit / 2 : Nat)
  UInt8.ofNat (min 255 (sum / weightUnit).toNat)

/-! ### Planes -/

namespace Plane

/-- The plane with a sample for each window in its rows. -/
def resampleRows (windows? : Option (Array Window)) (p : Plane UInt8) : Plane UInt8 :=
  match windows? with
  | none => p
  | some windows => p.map fun row => windows.map (·.mean row)

/-- The plane resampled along its rows and then down its columns, which leaves so many
columns and rows. -/
def resample (across? down? : Option (Array Window)) (columns rows : Nat)
    (p : Plane UInt8) : Plane UInt8 :=
  (((p.resampleRows across?).turn columns).resampleRows down?).turn rows

theorem size_resampleRows (windows? : Option (Array Window)) (p : Plane UInt8) :
    (p.resampleRows windows?).size = p.size := by
  unfold resampleRows
  split <;> simp

theorem size_resample (across? down? : Option (Array Window)) (columns rows : Nat)
    (p : Plane UInt8) :
    (p.resample across? down? columns rows).size = rows ∧
      ∀ row ∈ p.resample across? down? columns rows, row.size = columns := by
  refine ⟨size_ofFn .., fun row h => ?_⟩
  rw [size_of_mem_ofFn h, size_resampleRows]
  exact size_ofFn ..

end Plane

/-! ### Pictures -/

/-- The part of a colour that counts beside an alpha. -/
def weighPart (part alpha : UInt8) : UInt8 :=
  let product := part.toNat * alpha.toNat + 128
  UInt8.ofNat ((product / 256 + product) / 256)

/-- The part of a colour of which so much counts beside an alpha. -/
def unweighPart (part alpha : UInt8) : UInt8 :=
  if alpha = 0 ∨ alpha = 255 then part
  else UInt8.ofNat (min 255 (255 * part.toNat / alpha.toNat))

/-- Texels with a change to the parts of each colour that looks at its alpha. -/
def mapColours (f : UInt8 → UInt8 → UInt8) : Bytes → Bytes
  | red :: green :: blue :: alpha :: rest =>
    f red alpha :: f green alpha :: f blue alpha :: alpha :: mapColours f rest
  | _ => []

/-- A picture in another size. -/
def Stored.resized (k : Kernel) (columns rows : Nat) (s : Stored) : Stored :=
  let across? := k.windows? s.width columns
  let down? := k.windows? s.height rows
  let resample (channels : Nat) (bytes : Bytes) : Bytes :=
    Plane.toBytes columns rows
      ((Plane.ofBytes channels s.width s.height bytes).map
        (·.resample across? down? columns rows))
  let withAlpha (texels : Bytes) : Raster :=
    .coloursWithAlpha (mapColours unweighPart (resample 4 (mapColours weighPart texels)))
  if s.width = columns ∧ s.height = rows then s
  else
    ⟨columns, rows, match s.raster with
      | .greys bytes => .greys (resample 1 bytes)
      | .colours bytes => .colours (resample 3 bytes)
      | .coloursWithAlpha texels => withAlpha texels
      | .indexed picture => withAlpha picture.texels⟩

end ShaderPlayer.Picture
