/-
Tables of colours.

A picture with alpha that is kept as a table of colours has at most 256 of them.  Its
texels are counted in two grids of cells, a fine and a coarse one.  The fine cells with
the most texels come into the table, as long as there is room for those coarse cells of
which something is left; each counts with the mean of its texels.  A texel takes the
number of its fine cell or else of its coarse one.

Main statements: a colour falls into one of the cells of a grid (`cellOf_lt`), and a
picture has an index for each of its texels (`length_indices`).
-/
import ShaderPlayer.Number.Format
import ShaderPlayer.Text.Utf8

namespace ShaderPlayer.Picture

/-- The colour of a texel. -/
structure Colour where
  red : UInt8
  green : UInt8
  blue : UInt8
  alpha : UInt8
  deriving DecidableEq, Repr

namespace Colour

/-- Transparent black. -/
def clear : Colour := ⟨0, 0, 0, 0⟩

/-- The colours of texels. -/
def ofBytes : Bytes → List Colour
  | red :: green :: blue :: alpha :: rest => ⟨red, green, blue, alpha⟩ :: ofBytes rest
  | _ => []

/-- The bytes of a colour. -/
def bytes (c : Colour) : Bytes := [c.red, c.green, c.blue, c.alpha]

/-- Colours in which all that are transparent are like the first of these. -/
def unifyClear (cs : List Colour) : List Colour :=
  match cs.find? (·.alpha = 0) with
  | some first => cs.map fun c => if c.alpha = 0 then first else c
  | none => cs

end Colour

/-! ### Grids -/

/-- How finely colours are told apart: by so many leading bits of each part. -/
structure Grid where
  red : Nat
  green : Nat
  blue : Nat
  alpha : Nat
  deriving DecidableEq, Repr

namespace Grid

/-- The fine grid. -/
def fine : Grid := ⟨3, 4, 3, 3⟩

/-- The coarse grid. -/
def coarse : Grid := ⟨2, 2, 2, 2⟩

/-- How many cells a grid has. -/
def size (g : Grid) : Nat :=
  (1 <<< g.red) * (1 <<< g.green) * (1 <<< g.blue) * (1 <<< g.alpha)

/-- The leading bits of a part of a colour. -/
def leading (bits : Nat) (part : UInt8) : Nat := part.toNat >>> (8 - bits)

/-- The number of the cell that a colour falls into; red counts most. -/
def cellOf (g : Grid) (c : Colour) : Nat :=
  ((leading g.red c.red * (1 <<< g.green) + leading g.green c.green) * (1 <<< g.blue)
    + leading g.blue c.blue) * (1 <<< g.alpha) + leading g.alpha c.alpha

theorem leading_lt {bits : Nat} (h : bits ≤ 8) (part : UInt8) : leading bits part < 1 <<< bits := by
  rw [leading, Nat.shiftRight_eq_div_pow, Nat.one_shiftLeft]
  have hpart : part.toNat < 2 ^ (8 - bits) * 2 ^ bits := by
    rw [← Nat.pow_add, Nat.sub_add_cancel h]
    exact part.toNat_lt
  exact Nat.div_lt_of_lt_mul hpart

/-- A digit behind a number stays below the next power. -/
theorem digit_lt {m n a b : Nat} (ha : a < m) (hb : b < n) : a * n + b < m * n := by
  calc a * n + b < a * n + n := by omega
    _ = (a + 1) * n := by rw [Nat.add_mul, Nat.one_mul]
    _ ≤ m * n := Nat.mul_le_mul_right n ha

/-- No part of a colour has more than eight bits to tell it by. -/
theorem cellOf_lt {g : Grid} (hred : g.red ≤ 8) (hgreen : g.green ≤ 8) (hblue : g.blue ≤ 8)
    (halpha : g.alpha ≤ 8) (c : Colour) : g.cellOf c < g.size :=
  digit_lt (digit_lt (digit_lt (leading_lt hred c.red) (leading_lt hgreen c.green))
    (leading_lt hblue c.blue)) (leading_lt halpha c.alpha)

end Grid

/-! ### Counting texels -/

/-- Texels that are counted together: how many, and the sums of their parts. -/
structure Heap where
  count : Nat := 0
  red : Nat := 0
  green : Nat := 0
  blue : Nat := 0
  alpha : Nat := 0
  deriving DecidableEq, Repr

namespace Heap

/-- The heap with a texel put on it. -/
def add (h : Heap) (c : Colour) : Heap :=
  ⟨h.count + 1, h.red + c.red.toNat, h.green + c.green.toNat, h.blue + c.blue.toNat,
    h.alpha + c.alpha.toNat⟩

/-- The heap without another that is part of it. -/
def without (h part : Heap) : Heap :=
  ⟨h.count - part.count, h.red - part.red, h.green - part.green, h.blue - part.blue,
    h.alpha - part.alpha⟩

/-- The number of single precision nearest to a number that is not negative. -/
def single (x : Rat) : Rat :=
  match Format.single.decode (Format.single.encode false x) with
  | .finite _ magnitude => magnitude
  | _ => 0

/-- The mean of so many parts with a sum, computed in single precision and cut off. -/
def meanPart (sum count : Nat) : UInt8 :=
  UInt8.ofNat (min 255 (single (single sum / single count)).floor.toNat)

/-- The mean colour of a heap; that of an empty one is clear. -/
def mean (h : Heap) : Colour :=
  if h.count = 0 then .clear
  else ⟨meanPart h.red h.count, meanPart h.green h.count, meanPart h.blue h.count,
    meanPart h.alpha h.count⟩

/-- The heaps of a grid's cells. -/
def tally (g : Grid) (cs : List Colour) : Array Heap :=
  cs.foldl (fun heaps c => heaps.modify (g.cellOf c) (·.add c)) (Array.replicate g.size {})

/-- How many heaps are not empty. -/
def countUsed (heaps : Array Heap) : Nat := heaps.countP fun h => h.count ≠ 0

/-- The heaps that are not empty, the largest first; equal ones stay in order. -/
def ranked (heaps : Array Heap) : List Heap :=
  (heaps.toList.filter fun h => h.count ≠ 0).mergeSort fun a b => b.count ≤ a.count

end Heap

/-! ### Tables -/

/-- A table of colours: those of coarse cells, then those of fine ones. -/
structure ColourTable where
  coarse : List Colour
  fine : List Colour
  deriving DecidableEq, Repr

namespace ColourTable

/-- How many colours a table has. -/
def capacity : Nat := 256

/-- Takes fine heaps out of the coarse ones, in order, as long as there is room for one
more beside those that were taken and the coarse ones that are not empty.  Gives the
heaps that were taken and what is left. -/
def separate (coarse : Array Heap) (taken : Nat) : List Heap → List Heap × Array Heap
  | [] => ([], coarse)
  | heap :: rest =>
    if capacity ≤ taken + Heap.countUsed coarse then ([], coarse)
    else
      let less := coarse.modify (Grid.coarse.cellOf heap.mean) (·.without heap)
      let (more, left) := separate less (taken + 1) rest
      (heap :: more, left)

/-- The table for the colours of texels. -/
def ofColours (cs : List Colour) : ColourTable :=
  let (fine, left) :=
    separate (Heap.tally .coarse cs) 0 (Heap.ranked (Heap.tally .fine cs))
  ⟨(Heap.ranked left).map Heap.mean, fine.map Heap.mean⟩

/-- The colours of a table that come behind those of coarse cells; what is left of the
table is clear. -/
def behindCoarse (t : ColourTable) : List Colour :=
  t.fine ++ List.replicate (capacity - (t.coarse.length + t.fine.length)) .clear

/-- All colours of a table. -/
def colours (t : ColourTable) : List Colour := t.coarse ++ t.behindCoarse

/-- For each cell of a grid the first of the colours that fall into it, by number. -/
def firsts (g : Grid) (start : Nat) (colours : List Colour) : Array (Option Nat) :=
  (colours.zipIdx start).foldr (fun (c, n) cells => cells.setIfInBounds (g.cellOf c) (some n))
    (Array.replicate g.size none)

/-- The numbers of texels' colours in a table. -/
def numbers (t : ColourTable) (cs : List Colour) : List Nat :=
  let coarse := firsts .coarse 0 t.coarse
  let fine := firsts .fine t.coarse.length t.behindCoarse
  cs.map fun c =>
    ((fine.getD (Grid.fine.cellOf c) none) <|> coarse.getD (Grid.coarse.cellOf c) none).getD 0

/-- The numbers that are used, in order. -/
def usedNumbers (numbers : List Nat) : List Nat :=
  let seen := numbers.foldl (fun seen n => seen.setIfInBounds n true)
    (Array.replicate capacity false)
  (List.range capacity).filter fun n => seen.getD n false

end ColourTable

theorem length_numbers (t : ColourTable) (cs : List Colour) :
    (t.numbers cs).length = cs.length := by
  simp [ColourTable.numbers]

/-! ### Pictures of indices -/

/-- A picture of indices into a list of colours. -/
structure Indexed where
  colours : List Colour
  indices : List Nat
  deriving DecidableEq, Repr

namespace Indexed

/-- Of a picture with fewer texels the colours that no texel has are left out. -/
def compactLimit : Nat := 512 * 512

/-- The numbers of the colours that are kept of a table, of which texels use some: those
alone, if that closes gaps between them or halves the table. -/
def keptNumbers (texels : Nat) (used : List Nat) : List Nat :=
  let hasGaps := used ≠ List.range used.length
  if texels < compactLimit ∧ (hasGaps ∨ 2 * used.length ≤ ColourTable.capacity) then used
  else List.range ColourTable.capacity

/-- Texels as indices into a table made for them.  Of its colours the first that is
transparent stays so, and all others become opaque. -/
def ofColours (cs : List Colour) : Indexed :=
  let cs := Colour.unifyClear cs
  let table := ColourTable.ofColours cs
  let colours := table.colours.toArray
  let transparent := colours.findIdx? (·.alpha = 0)
  let numbers := table.numbers cs
  let kept := keptNumbers numbers.length (ColourTable.usedNumbers numbers)
  let places := kept.zipIdx.foldl (fun places (n, i) => places.setIfInBounds n i)
    (Array.replicate ColourTable.capacity 0)
  let shown (n : Nat) : Colour :=
    { colours.getD n .clear with alpha := if transparent = some n then 0 else 255 }
  ⟨kept.map shown, numbers.map fun n => places.getD n 0⟩

/-- The texels. -/
def texels (p : Indexed) : Bytes :=
  let colours := p.colours.toArray
  p.indices.flatMap fun i => (colours.getD i .clear).bytes

/-- Whether each index is the grey of its colour, for a list of colours that fills its
place in a file. -/
def isRamp (p : Indexed) : Bool :=
  let count := p.colours.length
  4 ≤ count && count.nextPowerOfTwo = count &&
    p.colours.zipIdx.all fun (c, i) =>
      c.red.toNat = i && c.green.toNat = i && c.blue.toNat = i

theorem length_indices (cs : List Colour) : (ofColours cs).indices.length = cs.length := by
  simp only [ofColours, List.length_map, length_numbers]
  unfold Colour.unifyClear
  split
  · exact List.length_map ..
  · rfl

end Indexed

end ShaderPlayer.Picture
