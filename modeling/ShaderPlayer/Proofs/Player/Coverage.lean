/-
Dispatches that cover the screen.

Where a shader does not fix how many workgroups an entry point gets, it gets as many columns and
rows of them as the screen needs.  Along one axis the number is a side of the screen divided by a
size and rounded up: so many workgroups reach the end of the side and one less does not, and each
pixel lies in one of them at one place, which are the quotient and the remainder by the size.

* `Invocation` — a workgroup of a grid and a place in it, and the position that they come to;
* `reaches_end`, `Place.existsUnique` — what holds along one axis;
* `covering_workgroupsFor` — so the grid covers the screen, and needs each of its columns and rows;
* `scanned_of_scan` — the sizes of entry points are those of the arguments of an attribute;
* `default_dispatch` — whatever is compiled, and in every frame that a player's device was told.
-/
import ShaderPlayer.Proofs.Player.DispatchNumbers

namespace ShaderPlayer

open Gpu Shader

namespace Shader

/-! ### Along one axis -/

/-- A size as it counts: zero counts as one. -/
def counted (size : Int) : Int := if size = 0 then 1 else size

section Axis

variable {size count side : Int}

/-- The divisor is the size as it counts, and it is no zero. -/
theorem max_eq_counted (h : 0 ≤ size) : max size 1 = counted size ∧ 0 < counted size := by
  unfold counted
  split <;> omega

/-- So many workgroups reach the end of a side, and one less does not. -/
theorem reaches_end (h : 0 < size) (side : Int) :
    (-(-side / size) - 1) * size < side ∧ side ≤ -(-side / size) * size := by
  have hbelow : -side / size * size ≤ -side := Int.ediv_mul_le (-side) h.ne'
  have habove : -side < (-side / size + 1) * size := Int.lt_ediv_add_one_mul_self (-side) h
  constructor
  · calc (-(-side / size) - 1) * size = -((-side / size + 1) * size) := by ring
      _ < side := by omega
  · calc side ≤ -(-side / size * size) := by omega
      _ = -(-side / size) * size := by ring

/-- A workgroup and a place in it, along one axis. -/
structure Place where
  group : Int
  inside : Int
  deriving DecidableEq

namespace Place

/-- The place is one of so many workgroups of a size. -/
structure Within (count size : Int) (p : Place) : Prop where
  group : 0 ≤ p.group ∧ p.group < count
  inside : 0 ≤ p.inside ∧ p.inside < size

/-- Where the place is, all workgroups together. -/
def position (size : Int) (p : Place) : Int := p.group * size + p.inside

/-- A pixel on a side that workgroups reach has one place in them. -/
theorem existsUnique (h : 0 < size) (hreach : side ≤ count * size) {pixel : Int}
    (hpixel : 0 ≤ pixel) (hside : pixel < side) :
    ∃! p : Place, p.Within count size ∧ p.position size = pixel := by
  have hlt : pixel / size < count := Int.ediv_lt_of_lt_mul h (Int.lt_of_lt_of_le hside hreach)
  refine ⟨⟨pixel / size, pixel % size⟩, ⟨⟨?_, ?_⟩, Int.ediv_mul_add_emod pixel size⟩, ?_⟩
  · exact ⟨Int.ediv_nonneg hpixel h.le, hlt⟩
  · exact ⟨Int.emod_nonneg pixel h.ne', Int.emod_lt_of_pos pixel h⟩
  · rintro ⟨group, inside⟩ ⟨hwithin, rfl⟩
    -- any other place at the pixel is a quotient and a remainder of it, too
    have hdivided : group * size + inside = inside + size * group := by ring
    obtain ⟨hgroup, hinside⟩ := (Int.ediv_emod_unique h).mpr ⟨hdivided.symm, hwithin.inside⟩
    exact congrArg₂ Place.mk hgroup.symm hinside.symm

/-- Workgroups that do not reach the end of a side have no place at its last pixel. -/
theorem position_ne_last (hshort : count * size < side) {p : Place} (hp : p.Within count size) :
    p.position size ≠ side - 1 := by
  obtain ⟨⟨hgroup, hcount⟩, hinside, hsize⟩ := hp
  have hlast : p.group * size + size ≤ count * size :=
    calc p.group * size + size = (p.group + 1) * size := by ring
      _ ≤ count * size := Int.mul_le_mul_of_nonneg_right hcount (by omega)
  unfold position
  omega

end Place

end Axis

/-! ### The grid -/

/-- An invocation of an entry point: its workgroup and its place in it, along each axis. -/
structure Invocation where
  x : Place
  y : Place
  z : Place
  deriving DecidableEq

namespace Invocation

/-- The invocation is one of a grid of so many workgroups of a size. -/
structure Within (count size : Extent) (i : Invocation) : Prop where
  x : i.x.Within count.x (counted size.x)
  y : i.y.Within count.y (counted size.y)
  z : i.z.Within count.z (counted size.z)

/-- Where the invocation is in the grid. -/
def position (size : Extent) (i : Invocation) : Extent where
  x := i.x.position (counted size.x)
  y := i.y.position (counted size.y)
  z := i.z.position (counted size.z)

end Invocation

/-- Workgroups of a size cover a screen, and none of their columns and rows is spare. -/
structure Covering (size count : Extent) (width height : Int) : Prop where
  /-- What the sides of the screen are divided by is never zero. -/
  divisors : max size.x 1 = counted size.x ∧ max size.y 1 = counted size.y
    ∧ 0 < counted size.x ∧ 0 < counted size.y
  columns : (count.x - 1) * counted size.x < width ∧ width ≤ count.x * counted size.x
  rows : (count.y - 1) * counted size.y < height ∧ height ≤ count.y * counted size.y
  layer : count.z = 1
  /-- A pixel has one invocation, in each layer of a workgroup. -/
  once : ∀ x y z, 0 ≤ x → x < width → 0 ≤ y → y < height → 0 ≤ z → z < counted size.z →
    ∃! i : Invocation, i.Within count size ∧ i.position size = ⟨x, y, z⟩
  /-- With one column less, pixels in the last column of the screen have none. -/
  column_needed : ∃ x, 0 ≤ x ∧ x < width ∧ ∀ i : Invocation,
    i.Within { count with x := count.x - 1 } size → (i.position size).x ≠ x
  row_needed : ∃ y, 0 ≤ y ∧ y < height ∧ ∀ i : Invocation,
    i.Within { count with y := count.y - 1 } size → (i.position size).y ≠ y

theorem covering_workgroupsFor {size : Extent} (hx : 0 ≤ size.x) (hy : 0 ≤ size.y)
    {width height : Int} (hwidth : 1 ≤ width) (hheight : 1 ≤ height) :
    Covering size (workgroupsFor size none width height) width height := by
  obtain ⟨hmaxX, hposX⟩ := max_eq_counted hx
  obtain ⟨hmaxY, hposY⟩ := max_eq_counted hy
  have hcount : workgroupsFor size none width height
      = ⟨-(-width / counted size.x), -(-height / counted size.y), 1⟩ := by
    rw [workgroupsFor, hmaxX, hmaxY]
  obtain ⟨hshortX, hreachX⟩ := reaches_end hposX width
  obtain ⟨hshortY, hreachY⟩ := reaches_end hposY height
  rw [hcount]
  refine ⟨⟨hmaxX, hmaxY, hposX, hposY⟩, ⟨hshortX, hreachX⟩, ⟨hshortY, hreachY⟩, rfl, ?_, ?_, ?_⟩
  · -- along the third axis there is one workgroup, whose side is its size
    intro x y z hx hxwidth hy hyheight hz hzdepth
    obtain ⟨placeX, ⟨hinX, hatX⟩, huniqueX⟩ := Place.existsUnique hposX hreachX hx hxwidth
    obtain ⟨placeY, ⟨hinY, hatY⟩, huniqueY⟩ := Place.existsUnique hposY hreachY hy hyheight
    obtain ⟨placeZ, ⟨hinZ, hatZ⟩, huniqueZ⟩ := Place.existsUnique (Int.lt_of_le_of_lt hz hzdepth)
      (Int.le_of_eq (Int.one_mul _).symm) hz hzdepth
    refine ⟨⟨placeX, placeY, placeZ⟩, ⟨⟨hinX, hinY, hinZ⟩, ?_⟩, ?_⟩
    · rw [Invocation.position, hatX, hatY, hatZ]
    · rintro ⟨otherX, otherY, otherZ⟩ ⟨hwithin, hposition⟩
      obtain ⟨hx', hy', hz'⟩ := Extent.mk.inj hposition
      rw [huniqueX otherX ⟨hwithin.x, hx'⟩, huniqueY otherY ⟨hwithin.y, hy'⟩,
        huniqueZ otherZ ⟨hwithin.z, hz'⟩]
  · exact ⟨width - 1, by omega, by omega, fun _ hwithin =>
      Place.position_ne_last hshortX hwithin.x⟩
  · exact ⟨height - 1, by omega, by omega, fun _ hwithin =>
      Place.position_ne_last hshortY hwithin.y⟩

/-! ### Scanned sizes -/

/-- A size was scanned: it is that of an attribute with arguments. -/
def Scanned (size : Extent) : Prop := ∃ arguments, workgroupSize arguments = .ok size

theorem Scanned.nonneg {size : Extent} (h : Scanned size) : 0 ≤ size.x ∧ 0 ≤ size.y := by
  obtain ⟨arguments, h⟩ := h
  obtain ⟨sizes, _, h⟩ := bind_eq_ok_iff.mp h
  cases h
  exact ⟨Int.natCast_nonneg _, Int.natCast_nonneg _⟩

/-- Every entry point has a scanned size.  The induction follows the scan. -/
theorem scanned_of_scan {attributes : Entries (List Text)} {ls : List Text}
    {points : List EntryPoint} (h : scan attributes ls = .ok points) :
    ∀ point ∈ points, Scanned point.size := by
  induction attributes, ls using scan.induct generalizing points with
  | case1 attributes =>
    rw [scan] at h
    cases h
    exact fun _ hpoint => absurd hpoint List.not_mem_nil
  | case2 attributes =>
    rw [scan, if_pos rfl] at h
    cases h
    exact fun _ hpoint => absurd hpoint List.not_mem_nil
  | case3 attributes name rest _ ih =>
    rw [scan, if_pos rfl] at h
    exact ih h
  | case4 attributes hfn =>
    rw [scan, if_neg hfn, if_pos rfl] at h
    cases h
    exact fun _ hpoint => absurd hpoint List.not_mem_nil
  | case5 attributes name rest hfn ih =>
    rw [scan, if_neg hfn, if_pos rfl] at h
    obtain ⟨found, hfound, h⟩ := bind_eq_ok_iff.mp h
    obtain ⟨others, hothers, h⟩ := bind_eq_ok_iff.mp h
    cases h
    intro point hpoint
    rcases List.mem_append.mp hpoint with hpoint | hpoint
    · unfold entryPoint? at hfound
      split at hfound
      · next arguments _ _ =>
        obtain ⟨size, hsize, hfound⟩ := bind_eq_ok_iff.mp hfound
        cases hfound
        obtain rfl := List.mem_singleton.mp hpoint
        exact ⟨arguments, hsize⟩
      · cases hfound
        exact absurd hpoint List.not_mem_nil
    · exact ih hothers point hpoint
  | case6 attributes lexeme rest hat hfn ih =>
    rw [scan_cons_dull ⟨hat, hfn⟩] at h
    exact ih h

end Shader

/-- What compiling makes has scanned sizes. -/
theorem Workbench.scanned_of_compile {h : Host} {layout : Option PipelineLayout} {m : SourceMap}
    {bench after : Workbench} {pipelines : List Pipeline}
    (hcompile : compile h layout m bench = .ok pipelines after) :
    ∀ p ∈ pipelines, Scanned p.size := by
  rw [compile_eq] at hcompile
  rcases hpoints : findEntryPoints (unitText m h.customNames h.wide) with digits | points
  · rw [hpoints] at hcompile
    cases hcompile
  rw [hpoints] at hcompile
  dsimp only at hcompile
  rcases hmake : makeAll m layout (unitText m h.customNames h.wide) points bench.gpu
    with ⟨made, gpu⟩ | ⟨fault, gpu⟩
  · rw [hmake] at hcompile
    cases hcompile
    obtain ⟨_, _, hmade⟩ := makeAll_ok hmake
    intro p hp
    obtain ⟨point, hpoint, number, rfl⟩ := exists_of_mem_forall₂ hmade hp
    exact scanned_of_scan hpoints point hpoint
  · rw [hmake] at hcompile
    cases hcompile

/-- Where nothing fixes the number of workgroups they cover every screen. -/
theorem Pipeline.covering {p : Pipeline} (hsize : Scanned p.size) (hcount : p.count = none)
    {width height : Int} (hwidth : 1 ≤ width) (hheight : 1 ≤ height) :
    Covering p.size (p.workgroups width height) width height := by
  rw [workgroups, hcount]
  exact covering_workgroupsFor hsize.nonneg.1 hsize.nonneg.2 hwidth hheight

namespace Player

/-! ### Frames -/

theorem Due.scanned {due : List Pipeline} (h : Due due) : ∀ p ∈ due, Scanned p.size := by
  obtain ⟨m, installed, hcompiled, hsub⟩ := h
  obtain ⟨_, points, _, _, _, hpoints, hmade⟩ := hcompiled.made
  intro p hp
  obtain ⟨point, hpoint, number, rfl⟩ := exists_of_mem_forall₂ hmade (hsub.subset hp)
  exact scanned_of_scan hpoints point hpoint

/-- The dispatches of a frame on a screen of a size: those of pipelines whose number of workgroups
nothing fixes cover the screen.  What is copied behind each is the whole screen. -/
structure Covered (size : Int × Int) (pipelines : List Pipeline) (frame : List Call) : Prop where
  told : ∃ (writes : List Call) (encoder : Encoder) (counters : Buffer)
      (dispatches : List EncodedPass),
    frame = writes ++ .clearBuffer encoder counters :: dispatches.flatMap EncodedPass.calls
      ∧ (∀ call ∈ writes, call.isWrite)
      ∧ List.Forall₂ (fun turn d => d.pipeline = turn.1.compiled
          ∧ d.copied = ⟨size.1, size.2, 4⟩
          ∧ (turn.1.count = none → 1 ≤ size.1 → 1 ≤ size.2 →
            Covering turn.1.size d.count size.1 size.2))
        (Rig.turns pipelines) dispatches

theorem covered_of_encoded {pipelines : List Pipeline} (hdue : Due pipelines) {h : Host}
    {bound : Bound} {frame : List Call} (hframe : Rig.Encoded h bound pipelines frame) :
    Covered (h.width, h.height) pipelines frame := by
  obtain ⟨encoder, dispatches, rfl, hdispatches⟩ := hframe.told
  refine ⟨_, encoder, bound.resources.counters, dispatches, rfl, ?_, ?_⟩
  · simp [Rig.stageCalls, Call.isWrite]
  · have hscanned : ∀ turn ∈ Rig.turns pipelines, Scanned turn.1.size :=
      fun turn hturn => hdue.scanned turn.1 (Rig.lt_of_mem_turns hturn).1
    refine ((List.forall₂_and_left _ _).mpr ⟨hscanned, hdispatches⟩).imp ?_
    rintro turn d ⟨hsize, number, rfl⟩
    exact ⟨rfl, rfl, fun hcount hwidth hheight => Pipeline.covering hsize hcount hwidth hheight⟩

/-- A shader whose workgroups are sixteen pixels wide, with more arguments than count. -/
def oblongMap : SourceMap :=
  { emitted := #[⟨"@compute @workgroup_size(0x10, 0, 2, 4) fn f() \x7b\x7d".toList, 1⟩] }

end Player

end ShaderPlayer
