/-
What operations on the bindings keep.

Events and uploads leave the profile of a rig as it is: its core, which is the connection and the
host's side without the blocks of time, mouse and keyboard, and its ledger, the sizes of these
blocks and what the device was told of frames.  Frames leave the core.

* `profile` — that profile: what only such operations go through keeps every property of it;
* `Core.Sound` — the custom uniforms are tidy, and what is bound was bound in the sizes that
  the host has: all other operations keep this, whatever breaks off;
* `keepsLedger_reset`, `keepsLedger_resize` and the like — so do the ledgers of what binds;
* `connect_start` — connecting a new host ends with such a rig.
-/
import ShaderPlayer.Bindings.Frame
import ShaderPlayer.Proofs.Bindings.Custom
import ShaderPlayer.Proofs.Bindings.Renewal
import ShaderPlayer.Proofs.Gpu.Frames

namespace ShaderPlayer

open Gpu

/-- The host's side without the blocks of time, mouse and keyboard. -/
def Host.still (h : Host) : Host :=
  { h with time := Host.timeBlock, mouse := Host.mouseBlock, keyboard := Host.keyboardBlock }

/-- The sizes of the blocks of time, mouse and keyboard. -/
def Host.blockSizes (h : Host) : Nat × Nat × Nat := (h.time.size, h.mouse.size, h.keyboard.size)

/-! ### Blocks -/

namespace UniformBlock

section Store

variable {holds : UniformBlock → Prop}
  (hstore : ∀ b offset word, holds b → holds (b.store offset word))

include hstore

theorem keeps_storeValue_of_store (scalar : Scalar) (offset : Nat) (value : Value) :
    Keeps holds (storeValue scalar offset value) :=
  keeps_bind (keeps_ofExcept _) fun word => keeps_modify fun b => hstore b offset word

theorem keeps_storeValues_of_store (short : Fault) (scalar : Scalar) (offset count : Nat)
    (values : List Value) : Keeps holds (storeValues short scalar offset count values) := by
  induction count generalizing offset values with
  | zero => exact keeps_pure _
  | succ count ih =>
    cases values with
    | nil => exact keeps_throw _
    | cons value values =>
      exact keeps_bind (keeps_storeValue_of_store hstore _ _ _) fun _ => ih _ _

/-- What storing words keeps of a block, an assignment keeps. -/
theorem keeps_assign_of_store (short : Fault) (name : Text) (value : Value) :
    Keeps holds (assign short name value) := by
  refine keeps_bind keeps_get fun b => keeps_bind (keeps_ofExcept _) fun f => ?_
  refine keeps_ite (keeps_ite (keeps_storeValue_of_store hstore _ _ _) (keeps_throw _)) ?_
  split
  · exact keeps_storeValues_of_store hstore _ _ _ _ _
  · exact keeps_throw _

end Store

/-- An operation on a block leaves its size as it is, also where it breaks off. -/
abbrev KeepsSize {α : Type} (op : EStateM Fault UniformBlock α) : Prop :=
  ∀ size, Keeps (fun b => b.size = size) op

theorem keepsSize_assign (short : Fault) (name : Text) (value : Value) :
    KeepsSize (assign short name value) := fun _ =>
  keeps_assign_of_store (fun b offset word hb => (size_store b offset word).trans hb) short name value

theorem size_putWord (b : UniformBlock) (name : Text) (word : UInt32) :
    (b.putWord name word).size = b.size := by
  unfold putWord
  split
  · exact size_store b _ word
  · rfl

end UniformBlock

namespace Rig

/-- What frames leave as it is. -/
structure Core where
  host : Host
  connection : Connection

/-- The core of a rig. -/
def core (r : Rig) : Core := ⟨r.host.still, r.connection⟩

/-- What goes with frames: the sizes of the blocks that are not in the core, and what the
device was told. -/
structure Ledger where
  sizes : Nat × Nat × Nat
  told : List Call

/-- The ledger of a rig. -/
def ledger (r : Rig) : Ledger := ⟨r.host.blockSizes, r.gpu.told⟩

/-- What events and uploads leave as it is. -/
structure Profile where
  core : Core
  ledger : Ledger

/-- The profile of a rig. -/
def profile (r : Rig) : Profile := ⟨r.core, r.ledger⟩

/-! ### Calls that are no part of a frame -/

section Quiet

variable {α : Type} {holds : Rig → Prop}
  (hquiet : ∀ r gpu, gpu.told = r.gpu.told → holds r → holds { r with gpu })

include hquiet

theorem keeps_onDevice_of_quiet {op : Gpu.Op α} (hop : Quiet op) : Keeps holds (onDevice op) := by
  intro r hr
  have htold := hop r.gpu
  unfold onDevice
  rcases hend : op r.gpu with ⟨a, gpu⟩ | ⟨fault, gpu⟩
  all_goals
    rw [hend] at htold
    exact hquiet r gpu htold hr

theorem keeps_writeStorage_of_quiet (index : Value) (data : Except Fault NumericArray) :
    Keeps holds (writeStorage index data) := by
  refine keeps_bind (keeps_ofExcept _) fun second => keeps_bind (keeps_ofExcept _) fun array =>
    keeps_bind keeps_get fun r => ?_
  dsimp only
  refine keeps_ite (keeps_bind (keeps_throw _) fun _ => ?_) ?_
  all_goals
    refine keeps_bind keeps_get fun r => ?_
    split
    · exact keeps_throw _
    · exact keeps_bind (keeps_ofExcept _) fun _ =>
        keeps_onDevice_of_quiet hquiet (quiet_record rfl)

theorem keeps_readCounters_of_quiet : Keeps holds readCounters := by
  refine keeps_bind keeps_get fun r => ?_
  split
  · exact keeps_throw _
  · exact keeps_throw _
  · exact keeps_onDevice_of_quiet hquiet (quiet_readCounters _)

theorem keeps_readScreen_of_quiet : Keeps holds readScreen := by
  refine keeps_bind keeps_get fun r => ?_
  dsimp only
  split
  · exact keeps_ite (keeps_throw _) (keeps_throw _)
  · refine keeps_bind keeps_get fun _ =>
      keeps_bind (keeps_onDevice_of_quiet hquiet (quiet_readScreen _ _ _)) fun components => ?_
    refine keeps_ite (keeps_bind (keeps_throw _) fun _ => ?_) ?_
    all_goals
      exact keeps_ite (keeps_bind (keeps_throw _) fun _ => keeps_pure _) (keeps_pure _)

end Quiet

section Any

variable {α : Type} {holds : Profile → Prop}

/-! ### Operations that bind nothing -/

/-- What was told of frames is all that a profile has of the device. -/
theorem holds_profile_of_told (r : Rig) (gpu : Gpu.State) (htold : gpu.told = r.gpu.told)
    (hr : holds r.profile) : holds ({ r with gpu } : Rig).profile := by
  have hprofile : ({ r with gpu } : Rig).profile = r.profile := by
    unfold profile ledger
    dsimp only
    rw [htold]
    rfl
  rw [hprofile]
  exact hr

theorem keeps_onDevice {op : Gpu.Op α} (hop : Quiet op) :
    Keeps (fun r => holds r.profile) (onDevice op) :=
  keeps_onDevice_of_quiet holds_profile_of_told hop

theorem keeps_changeHost {change : Host → Host} (hstill : ∀ h, (change h).still = h.still)
    (hsizes : ∀ h, (change h).blockSizes = h.blockSizes) :
    Keeps (fun r => holds r.profile) (changeHost change) := by
  refine keeps_modify fun r hr => ?_
  show holds ⟨⟨(change r.host).still, r.connection⟩, ⟨(change r.host).blockSizes, r.gpu.told⟩⟩
  rw [hstill, hsizes]
  exact hr

theorem keeps_onBlock {block : Host → UniformBlock} {put : Host → UniformBlock → Host}
    (hstill : ∀ h b, (put h b).still = h.still)
    (hsizes : ∀ h b, b.size = (block h).size → (put h b).blockSizes = h.blockSizes)
    {op : EStateM Fault UniformBlock α} (hop : UniformBlock.KeepsSize op) :
    Keeps (fun r => holds r.profile) (onBlock block put op) := by
  intro r hr
  have hsize := hop _ (block r.host) rfl
  have hprofile : ∀ b, b.size = (block r.host).size →
      ({ r with host := put r.host b } : Rig).profile = r.profile := by
    intro b hb
    unfold profile core ledger
    dsimp only
    rw [hstill, hsizes r.host b hb]
  unfold onBlock
  rcases hend : op (block r.host) with ⟨a, b⟩ | ⟨fault, b⟩
  all_goals
    rw [hend] at hsize
    exact (hprofile b hsize).symm ▸ hr

theorem keeps_onTime {op : EStateM Fault UniformBlock α} (hop : UniformBlock.KeepsSize op) :
    Keeps (fun r => holds r.profile) (onTime op) := by
  have hstill : ∀ (h : Host) (b : UniformBlock), ({ h with time := b } : Host).still = h.still :=
    fun _ _ => rfl
  have hsizes : ∀ (h : Host) (b : UniformBlock), b.size = h.time.size →
      ({ h with time := b } : Host).blockSizes = h.blockSizes := by
    intro h b hb
    unfold Host.blockSizes
    dsimp only
    rw [hb]
  exact keeps_onBlock hstill hsizes hop

theorem keeps_onMouse {op : EStateM Fault UniformBlock α} (hop : UniformBlock.KeepsSize op) :
    Keeps (fun r => holds r.profile) (onMouse op) := by
  have hstill : ∀ (h : Host) (b : UniformBlock), ({ h with mouse := b } : Host).still = h.still :=
    fun _ _ => rfl
  have hsizes : ∀ (h : Host) (b : UniformBlock), b.size = h.mouse.size →
      ({ h with mouse := b } : Host).blockSizes = h.blockSizes := by
    intro h b hb
    unfold Host.blockSizes
    dsimp only
    rw [hb]
  exact keeps_onBlock hstill hsizes hop

theorem keeps_setKey (code : Value) (down : Bool) :
    Keeps (fun r => holds r.profile) (setKey code down) := by
  refine keeps_bind (keeps_ofExcept _) fun code => keeps_changeHost (fun _ => rfl) fun h => ?_
  unfold Host.blockSizes Host.setKey
  dsimp only
  rw [UniformBlock.size_store]

theorem keeps_writeStorage (index : Value) (data : Except Fault NumericArray) :
    Keeps (fun r => holds r.profile) (writeStorage index data) :=
  keeps_writeStorage_of_quiet holds_profile_of_told index data

theorem keeps_submit (commands : List CommandBuffer) :
    Keeps (fun r => holds r.profile) (submit commands) := keeps_onDevice (quiet_record rfl)

theorem keeps_readCounters : Keeps (fun r => holds r.profile) readCounters :=
  keeps_readCounters_of_quiet holds_profile_of_told

theorem keeps_readScreen : Keeps (fun r => holds r.profile) readScreen :=
  keeps_readScreen_of_quiet holds_profile_of_told

end Any

/-! ### Frames -/

section Frames

variable {α : Type} {holds : Rig → Prop} (hgpu : ∀ r gpu, holds r → holds { r with gpu })

include hgpu

theorem keeps_onDevice_of_gpu (op : Gpu.Op α) : Keeps holds (onDevice op) := by
  intro r hr
  unfold onDevice
  rcases op r.gpu with ⟨a, gpu⟩ | ⟨fault, gpu⟩ <;> exact hgpu r gpu hr

theorem keeps_stage_of_gpu : Keeps holds stage := by
  refine keeps_bind keeps_get fun r => ?_
  split
  · exact keeps_throw _
  · exact keeps_bind keeps_get fun _ => keeps_bind (keeps_onDevice_of_gpu hgpu _) fun _ =>
      keeps_bind (keeps_onDevice_of_gpu hgpu _) fun _ =>
      keeps_bind (keeps_onDevice_of_gpu hgpu _) fun _ => keeps_onDevice_of_gpu hgpu _

theorem keeps_copyPasses_of_gpu (encoder : Encoder) : Keeps holds (copyPasses encoder) := by
  refine keeps_bind keeps_get fun r => ?_
  split
  · exact keeps_throw _
  · exact keeps_bind keeps_get fun _ => keeps_onDevice_of_gpu hgpu _

theorem keeps_encodePass_of_gpu (encoder : Encoder) (p : Pipeline) (id : Nat) :
    Keeps holds (encodePass encoder p id) := by
  refine keeps_bind keeps_get fun r => ?_
  split
  · exact keeps_throw _
  · refine keeps_bind keeps_get fun _ => ?_
    iterate 5 refine keeps_bind (keeps_onDevice_of_gpu hgpu _) fun _ => ?_
    exact keeps_copyPasses_of_gpu hgpu encoder

theorem keeps_clearCounters_of_gpu (encoder : Encoder) : Keeps holds (clearCounters encoder) := by
  refine keeps_bind keeps_get fun r => ?_
  split
  · exact keeps_throw _
  · exact keeps_onDevice_of_gpu hgpu _

/-- Encoding a frame is nothing but calls to the device. -/
theorem keeps_encodeFrame_of_gpu (pipelines : List Pipeline) : Keeps holds (encodeFrame pipelines) :=
  keeps_bind (keeps_stage_of_gpu hgpu) fun _ => keeps_bind (keeps_onDevice_of_gpu hgpu _)
    fun encoder => keeps_bind (keeps_clearCounters_of_gpu hgpu encoder) fun _ =>
    keeps_bind (keeps_forM fun p => keeps_forM (keeps_encodePass_of_gpu hgpu encoder p)) fun _ =>
    keeps_onDevice_of_gpu hgpu _

omit hgpu in
theorem keepsCore_encodeFrame {holds : Core → Prop} (pipelines : List Pipeline) :
    Keeps (fun r => holds r.core) (encodeFrame pipelines) :=
  keeps_encodeFrame_of_gpu (fun _ _ hr => hr) pipelines

end Frames

/-! ### Sound rigs -/

/-- Buffers that are never made anew: those of the blocks of time, mouse and keyboard, in the
sizes of the blocks, the one that holds the numbers of dispatches, and the one of the counters of
failed assertions. -/
structure Standing (time mouse keyboard dispatch counters : Buffer) : Prop where
  time : time.size = (Host.timeBlock.size : Int)
  mouse : mouse.size = (Host.mouseBlock.size : Int)
  keyboard : keyboard.size = (Host.keyboardBlock.size : Int)
  dispatch : ∃ number,
    dispatch = ⟨number, none, dispatchBytes.length, uniformUsage, some dispatchBytes⟩
  counters : counters.size = ((4 * Shader.maxAssertions : Nat) : Int)

/-- What is bound was bound in the sizes that a host has. -/
structure Suits (b : Bound) (h : Host) : Prop where
  binds : Binds b.group b.resources
  custom : b.resources.custom.size = (h.custom.size : Int)
  sized : Sized b.resources.toScreenTextures (h.width, h.height)
  standing : Standing b.resources.time b.resources.mouse b.resources.keyboard b.resources.dispatch
    b.resources.counters

/-- Custom uniforms are tidy, and what is bound suits the host. -/
structure Core.Sound (c : Core) : Prop where
  tidy : c.host.Tidy
  bound : ∃ bound, c.connection = .complete bound ∧ Suits bound c.host

/-- An operation leaves a sound rig sound. -/
abbrev KeepsSound {α : Type} (op : Op α) : Prop := Keeps (fun r => r.core.Sound) op

theorem keeps_reset : KeepsSound reset := by
  intro r hr
  obtain ⟨bound, hbound, hsuits⟩ := hr.bound
  obtain ⟨storage, textures, gpu, group, _, hsized, hbinds, hrun⟩ := reset_complete hbound
  rw [hrun]
  exact ⟨hr.tidy, _, rfl, hbinds, hsuits.custom, hsized, hsuits.standing⟩

theorem keeps_resize (width height : Int) : KeepsSound (resize width height) := by
  intro r hr
  obtain ⟨bound, hbound, hsuits⟩ := hr.bound
  obtain ⟨textures, gpu, group, _, hsized, hbinds, hrun⟩ := resize_complete hbound width height
  rw [hrun]
  exact ⟨⟨hr.tidy.proper, hr.tidy.filled⟩, _, rfl, hbinds, hsuits.custom,
    hsized, hsuits.standing⟩

theorem keeps_setCustom {pairs : List (Text × Double)}
    (hpairs : Host.Proper (pairs.map (·.1))) : KeepsSound (setCustom pairs) := by
  intro r hr
  obtain ⟨bound, hbound, hsuits⟩ := hr.bound
  obtain ⟨custom, gpu, group, _, hsame, hother, hrun⟩ := setCustom_complete hbound pairs
  have htidy : (r.host.still.setCustom pairs).Tidy := Host.tidy_setCustom hr.tidy hpairs
  rw [hrun]
  refine ⟨htidy, _, rfl, ?_⟩
  by_cases hnames : pairs.map (·.1) = r.host.customNames
  · obtain ⟨rfl, rfl⟩ := hsame hnames
    refine ⟨hsuits.binds, ?_, hsuits.sized, hsuits.standing⟩
    have hsize : (r.host.still.setCustom pairs).custom.size = r.core.host.custom.size := by
      rw [htidy.size_custom, hr.tidy.size_custom, Host.customNames_setCustom, hnames]
      rfl
    exact hsuits.custom.trans (congrArg Nat.cast hsize.symm)
  · obtain ⟨hsize, hbinds⟩ := hother hnames
    exact ⟨hbinds, hsize, hsuits.sized, hsuits.standing⟩

theorem keeps_setCustomValues (names values : Value) :
    KeepsSound (setCustomValues names values) := by
  intro r hr
  rcases hgiven : Host.customArguments names values with fault | given
  · have hrun : setCustomValues names values r = .error fault r :=
      run_ofExcept_bind_of_error hgiven _ r
    rw [hrun]
    exact hr
  · have hrun : setCustomValues names values r
        = setCustom (Host.customOrPlaceholder given.1 given.2) r :=
      run_ofExcept_bind_of_ok hgiven _ r
    rw [hrun]
    exact keeps_setCustom (Host.proper_of_customArguments hgiven) r hr

theorem keeps_setTables (tables : Shader.Tables) : KeepsSound (setTables tables) := by
  intro r hr
  obtain ⟨bound, hbound, hsuits⟩ := hr.bound
  have htidy : (r.host.still.setTables tables).Tidy := ⟨hr.tidy.proper, hr.tidy.filled⟩
  rcases hbytes : Host.tableBytes (r.host.setTables tables).tables with fault | bytes
  · rw [setTables_of_error hbound hbytes]
    exact ⟨htidy, bound, hbound, hsuits.binds, hsuits.custom,
      hsuits.sized, hsuits.standing⟩
  · obtain ⟨data, gpu, group, _, _, hbinds, hrun⟩ := setTables_of_bytes hbound hbytes
    rw [hrun]
    exact ⟨htidy, _, rfl, hbinds, hsuits.custom,
      hsuits.sized, hsuits.standing⟩

theorem keeps_loadChannel (index : Value) (data : Except Fault NumericArray) :
    KeepsSound (loadChannel index data) := by
  intro r hr
  obtain ⟨bound, hbound, hsuits⟩ := hr.bound
  rcases loadChannel_complete hbound index data with
    ⟨fault, hrun⟩ | ⟨second, picture, texture, gpu, group, hbinds, hrun⟩
  · rw [hrun]
    exact hr
  · rw [hrun]
    cases second
    all_goals exact ⟨⟨hr.tidy.proper, hr.tidy.filled⟩, _, rfl, hbinds, hsuits.custom,
      hsuits.sized, hsuits.standing⟩

/-! ### Ledgers -/

section Ledger

variable {α : Type} {ledger : Ledger}

theorem keepsLedger_onDevice {op : Gpu.Op α} (hop : Quiet op) :
    Keeps (fun r => r.ledger = ledger) (onDevice op) :=
  @keeps_onDevice α (fun p => p.ledger = ledger) op hop

theorem keepsLedger_changeHost {change : Host → Host}
    (hsizes : ∀ h, (change h).blockSizes = h.blockSizes) :
    Keeps (fun r => r.ledger = ledger) (changeHost change) := by
  refine keeps_modify fun r hr => ?_
  show Ledger.mk (change r.host).blockSizes r.gpu.told = ledger
  rw [hsizes]
  exact hr

theorem keepsLedger_makeStorage : Keeps (fun r => r.ledger = ledger) makeStorage :=
  keeps_bind keeps_get fun _ => keeps_bind (keepsLedger_onDevice (quiet_make fun _ => rfl))
    fun _ => keeps_bind (keepsLedger_onDevice (quiet_make fun _ => rfl)) fun _ => keeps_pure _

theorem keepsLedger_makeUniform (block : UniformBlock) (label : String) :
    Keeps (fun r => r.ledger = ledger) (makeUniform block label) :=
  keepsLedger_onDevice (quiet_make fun _ => rfl)

theorem keepsLedger_makeData : Keeps (fun r => r.ledger = ledger) makeData :=
  keeps_bind keeps_get fun _ => keeps_bind (keeps_ofExcept _) fun _ =>
    keepsLedger_onDevice (quiet_make fun _ => rfl)

theorem keepsLedger_makeTextures : Keeps (fun r => r.ledger = ledger) makeTextures :=
  keeps_bind keeps_get fun _ => keeps_bind (keepsLedger_onDevice (quiet_make fun _ => rfl))
    fun _ => keeps_bind (keepsLedger_onDevice (quiet_make fun _ => rfl)) fun _ =>
    keeps_bind (keepsLedger_onDevice (quiet_make fun _ => rfl)) fun _ => keeps_pure _

theorem keepsLedger_makeChannel (picture : Option Picture) :
    Keeps (fun r => r.ledger = ledger) (makeChannel picture) :=
  keeps_bind (keepsLedger_onDevice (quiet_make fun _ => rfl)) fun _ =>
    keeps_bind (keepsLedger_onDevice (quiet_record rfl)) fun _ => keeps_pure _

theorem keepsLedger_bind (resources : Resources) :
    Keeps (fun r => r.ledger = ledger) (bind resources) := by
  have hview : ∀ texture dimension,
      Keeps (fun r => r.ledger = ledger) (onDevice (createView texture dimension none)) := fun _ _ =>
    keepsLedger_onDevice (quiet_make fun _ => rfl)
  exact keeps_bind (hview _ _) fun _ => keeps_bind (hview _ _) fun _ => keeps_bind (hview _ _)
    fun _ => keeps_bind (hview _ _) fun _ => keeps_bind (hview _ _) fun _ =>
    keeps_bind (keepsLedger_onDevice (quiet_make fun _ => rfl)) fun _ =>
    keeps_modify fun _ hr => hr

theorem keepsLedger_rebind {renew : Op Renewal} (hrenew : Keeps (fun r => r.ledger = ledger) renew) :
    Keeps (fun r => r.ledger = ledger) (rebind renew) := by
  refine keeps_bind keeps_get fun r => ?_
  split
  · exact keeps_pure _
  · exact keeps_bind hrenew fun _ => keeps_bind (keeps_modify fun _ hr => hr) fun _ => keeps_throw _
  · exact keeps_bind hrenew fun _ => keepsLedger_bind _

theorem keepsLedger_reset : Keeps (fun r => r.ledger = ledger) reset :=
  keepsLedger_rebind (keeps_bind keepsLedger_makeStorage fun _ =>
    keeps_bind keepsLedger_makeTextures fun _ => keeps_pure _)

theorem keepsLedger_resize (width height : Int) :
    Keeps (fun r => r.ledger = ledger) (resize width height) :=
  keeps_bind (keepsLedger_changeHost fun _ => rfl) fun _ =>
    keepsLedger_rebind (keeps_bind keepsLedger_makeTextures fun _ => keeps_pure _)

theorem keepsLedger_setCustom (pairs : List (Text × Double)) :
    Keeps (fun r => r.ledger = ledger) (setCustom pairs) := by
  refine keeps_bind keeps_get fun r => keeps_bind (keepsLedger_changeHost fun _ => rfl) fun _ => ?_
  refine keeps_ite (keepsLedger_rebind ?_) (keeps_pure _)
  exact keeps_bind keeps_get fun _ => keeps_bind (keepsLedger_makeUniform _ _) fun _ => keeps_pure _

theorem keepsLedger_setCustomValues (names values : Value) :
    Keeps (fun r => r.ledger = ledger) (setCustomValues names values) :=
  keeps_bind (keeps_ofExcept _) fun _ => keepsLedger_setCustom _

theorem keepsLedger_setTables (tables : Shader.Tables) :
    Keeps (fun r => r.ledger = ledger) (setTables tables) :=
  keeps_bind (keepsLedger_changeHost fun _ => rfl) fun _ =>
    keepsLedger_rebind (keeps_bind keepsLedger_makeData fun _ => keeps_pure _)

theorem keepsLedger_loadChannel (index : Value) (data : Except Fault NumericArray) :
    Keeps (fun r => r.ledger = ledger) (loadChannel index data) := by
  refine keeps_bind (keeps_ofExcept _) fun second => keeps_bind (keeps_ofExcept _) fun picture =>
    keeps_bind (keeps_ofExcept _) fun _ => keeps_bind (keepsLedger_changeHost fun h => ?_) fun _ =>
    keeps_bind keeps_get fun r => ?_
  · cases second <;> rfl
  · split
    · exact keeps_pure _
    · exact keeps_bind (keeps_discard (keepsLedger_makeChannel _)) fun _ => keeps_throw _
    · exact keeps_bind (keepsLedger_makeChannel _) fun _ => keepsLedger_bind _

theorem keepsLedger_connect : Keeps (fun r => r.ledger = ledger) connect := by
  have hmake : ∀ {α : Type} {count counted} {object : Nat → α} {call : α → Call},
      (∀ a, (call a).inFrame = false) →
      Keeps (fun r => r.ledger = ledger) (onDevice (make count counted object call)) := fun h =>
    keepsLedger_onDevice (quiet_make h)
  refine keeps_bind keepsLedger_makeStorage fun storage => keeps_bind keeps_get fun _ =>
    keeps_bind (keepsLedger_makeUniform _ _) fun _ => keeps_bind keeps_get fun _ =>
    keeps_bind (keepsLedger_makeUniform _ _) fun _ => keeps_bind keeps_get fun _ =>
    keeps_bind (keepsLedger_makeUniform _ _) fun _ => keeps_bind keeps_get fun _ =>
    keeps_bind (keepsLedger_makeUniform _ _) fun _ =>
    keeps_bind (keeps_modify fun _ hr => hr) fun _ => keeps_bind keepsLedger_makeData fun _ => ?_
  exact keeps_bind (hmake fun _ => rfl) fun _ => keeps_bind (hmake fun _ => rfl) fun _ =>
    keeps_bind keepsLedger_makeTextures fun _ => keeps_bind keeps_get fun _ =>
    keeps_bind (keepsLedger_makeChannel _) fun _ => keeps_bind keeps_get fun _ =>
    keeps_bind (keepsLedger_makeChannel _) fun _ => keeps_bind (hmake fun _ => rfl) fun _ =>
    keeps_bind (hmake fun _ => rfl) fun _ => keeps_bind (hmake fun _ => rfl) fun _ =>
    keeps_bind (hmake fun _ => rfl) fun _ => keeps_bind keeps_get fun _ =>
    keeps_bind (hmake fun _ => rfl) fun _ => keeps_bind (hmake fun _ => rfl) fun _ =>
    keepsLedger_bind _

end Ledger

/-! ### Connecting -/

/-- Connecting a new host ends with a bind group of what was made for it. -/
theorem connect_start (width height : Int) (wide : Bool) (storageSize : Int) (gpu : Gpu.State) :
    ∃ after bound bytes,
      connect { host := .start width height wide storageSize, gpu } = .ok () after
        ∧ after.host = .start width height wide storageSize
        ∧ after.gpu.device = gpu.device
        ∧ after.connection = .complete bound ∧ Suits bound after.host
        ∧ Host.tableBytes Shader.bootstrapTables = .ok bytes
        ∧ bound.resources.data.contents = some bytes :=
  ⟨_, _, _, rfl, rfl, rfl, rfl,
    ⟨⟨_, _, _, _, _, rfl, rfl, rfl, rfl, rfl, rfl⟩, rfl, ⟨rfl, rfl, rfl, rfl, rfl⟩,
      ⟨rfl, rfl, rfl, ⟨_, rfl⟩, rfl⟩⟩, rfl, rfl⟩

end Rig

end ShaderPlayer
