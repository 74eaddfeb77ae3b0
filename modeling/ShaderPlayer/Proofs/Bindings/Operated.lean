/-
The states that bindings get into on their own.

Bindings can be used without a player: they are prepared, connected with a device at some time,
and used from then on, and a frame may dispatch any pipelines.

* `Act` — what can be asked of bindings;
* `Prepared` — what they get into before they are connected;
* `Operated` — what they get into then;
* `suits_of_connect` — connecting, if it ends, binds what suits the host, whatever it was given
  before;
* `recorded_of_operated` — and from then on this is so all the time, and with every frame.
-/
import ShaderPlayer.Proofs.Bindings.Encoding

namespace ShaderPlayer.Rig

open Gpu

/-! ### States -/

/-- What can be asked of bindings. -/
inductive Act where
  | setCustom (names values : Value)
  | setTables (tables : Shader.Tables)
  | setTime (name : Text) (value : Value)
  | setMouse (name : Text) (value : Value)
  | setKey (code : Value) (down : Bool)
  | loadChannel (index : Value) (data : Except Fault NumericArray)
  | writeStorage (index : Value) (data : Except Fault NumericArray)
  | resize (width height : Int)
  | reset
  | encodeFrame (pipelines : List Pipeline)
  | submit (commands : List CommandBuffer)
  | readCounters
  | readScreen

/-- What bindings do when asked; what they answer is left out. -/
def Act.perform : Act → Op Unit
  | setCustom names values => setCustomValues names values
  | setTables tables => Rig.setTables tables
  | setTime name value => onTime (UniformBlock.set name value)
  | setMouse name value => onMouse (UniformBlock.set name value)
  | setKey code down => Rig.setKey code down
  | loadChannel index data => Rig.loadChannel index data
  | writeStorage index data => Rig.writeStorage index data
  | resize width height => Rig.resize width height
  | reset => Rig.reset
  | encodeFrame pipelines => discard (Rig.encodeFrame pipelines)
  | submit commands => Rig.submit commands
  | readCounters => discard Rig.readCounters
  | readScreen => discard Rig.readScreen

/-- What bindings get into before they are connected, whether or not what is asked of them breaks
off. -/
inductive Prepared : Rig → Prop
  | start {width height : Int} {wide : Bool} {storageSize : Int} {device : Device} :
      Prepared { host := .start width height wide storageSize, gpu := { device } }
  | acted {r : Rig} (act : Act) (before : Prepared r) : Prepared (left (act.perform r))

/-- What they get into once they are connected. -/
inductive Operated : Rig → Prop
  | connected {before after : Rig} (prepared : Prepared before)
      (connected : connect before = .ok () after) : Operated after
  | acted {r : Rig} (act : Act) (before : Operated r) : Operated (left (act.perform r))

/-! ### Before they are connected -/

/-- Nothing is connected, and nothing was told of frames. -/
structure Idle (r : Profile) : Prop where
  absent : r.core.connection = .absent
  tidy : r.core.host.Tidy
  ledger : r.ledger = ⟨standardSizes, []⟩

/-- An operation leaves idle bindings idle. -/
abbrev KeepsIdle {α : Type} (op : Op α) : Prop := Keeps (fun r => Idle r.profile) op

theorem keepsIdle_rebind (renew : Op Renewal) : KeepsIdle (rebind renew) := by
  intro r hr
  have hrun : rebind renew r = .ok () r := by
    obtain ⟨host, gpu, connection⟩ := r
    cases (show connection = .absent from hr.absent)
    rfl
  rw [hrun]
  exact hr

theorem keepsIdle_changeHost {change : Host → Host} (htidy : ∀ h, h.Tidy → (change h).Tidy)
    (hsizes : ∀ h, (change h).blockSizes = h.blockSizes) : KeepsIdle (changeHost change) := by
  intro r hr
  have hold : r.host.Tidy := ⟨hr.tidy.proper, hr.tidy.filled⟩
  have hnew := htidy r.host hold
  refine ⟨hr.absent, ⟨hnew.proper, hnew.filled⟩, ?_⟩
  exact keepsLedger_changeHost hsizes r hr.ledger

theorem keepsIdle_setCustomValues (names values : Value) :
    KeepsIdle (setCustomValues names values) := by
  intro r hr
  rcases hgiven : Host.customArguments names values with fault | given
  · rw [show setCustomValues names values r = .error fault r from
      run_ofExcept_bind_of_error hgiven _ r]
    exact hr
  · have hproper := Host.proper_of_customArguments hgiven
    have hset : KeepsIdle (setCustom (Host.customOrPlaceholder given.1 given.2)) :=
      keeps_bind keeps_get fun _ =>
        keeps_bind (keepsIdle_changeHost (fun _ hh => Host.tidy_setCustom hh hproper) fun _ => rfl)
          fun _ => keeps_ite (keepsIdle_rebind _) (keeps_pure _)
    rw [show setCustomValues names values r = setCustom _ r from
      run_ofExcept_bind_of_ok hgiven _ r]
    exact hset r hr

theorem keepsIdle_loadChannel (index : Value) (data : Except Fault NumericArray) :
    KeepsIdle (loadChannel index data) := by
  refine keeps_bind (keeps_ofExcept _) fun second => keeps_bind (keeps_ofExcept _) fun picture =>
    keeps_bind (keeps_ofExcept _) fun _ =>
    keeps_bind (keepsIdle_changeHost (fun h hh => ?_) fun h => ?_) fun _ =>
    keeps_get_bind fun r hr => ?_
  · cases second <;> exact ⟨hh.proper, hh.filled⟩
  · cases second <;> rfl
  · rw [show r.connection = .absent from hr.absent]
    exact hr

/-- There is nothing that a frame could be encoded with. -/
theorem keepsIdle_encodeFrame (pipelines : List Pipeline) : KeepsIdle (encodeFrame pipelines) := by
  intro r hr
  have hrun : ∃ fault, encodeFrame pipelines r = .error fault r := by
    obtain ⟨host, gpu, connection⟩ := r
    cases (show connection = .absent from hr.absent)
    exact ⟨_, rfl⟩
  obtain ⟨fault, hrun⟩ := hrun
  rw [hrun]
  exact hr

theorem keepsIdle_perform (act : Act) : KeepsIdle act.perform := by
  cases act with
  | setCustom names values => exact keepsIdle_setCustomValues names values
  | setTables tables =>
    exact keeps_bind (keepsIdle_changeHost (fun _ hh => ⟨hh.proper, hh.filled⟩) fun _ => rfl)
      fun _ => keepsIdle_rebind _
  | setTime name value => exact keeps_onTime (UniformBlock.keepsSize_assign _ _ _)
  | setMouse name value => exact keeps_onMouse (UniformBlock.keepsSize_assign _ _ _)
  | setKey code down => exact keeps_setKey code down
  | loadChannel index data => exact keepsIdle_loadChannel index data
  | writeStorage index data => exact keeps_writeStorage index data
  | resize width height =>
    exact keeps_bind (keepsIdle_changeHost (fun _ hh => ⟨hh.proper, hh.filled⟩) fun _ => rfl)
      fun _ => keepsIdle_rebind _
  | reset => exact keepsIdle_rebind _
  | encodeFrame pipelines => exact keeps_discard (keepsIdle_encodeFrame pipelines)
  | submit commands => exact keeps_submit commands
  | readCounters => exact keeps_discard keeps_readCounters
  | readScreen => exact keeps_discard keeps_readScreen

theorem idle_of_prepared {r : Rig} (hr : Prepared r) : Idle r.profile := by
  induction hr with
  | @start width height wide storageSize device =>
    have htidy := Host.tidy_start width height wide storageSize
    exact ⟨rfl, ⟨htidy.proper, htidy.filled⟩, rfl⟩
  | acted act _ ih => exact keepsIdle_perform act _ ih

/-! ### Once they are connected -/

/-- Connecting, if it ends, binds what suits the host. -/
theorem suits_of_connect {r after : Rig} (h : connect r = .ok () after)
    (hsizes : r.host.blockSizes = standardSizes) :
    after.host = r.host ∧ ∃ bound, after.connection = .complete bound ∧ Suits bound r.host := by
  have htime : r.host.time.size = Host.timeBlock.size := congrArg Prod.fst hsizes
  have hmouse : r.host.mouse.size = Host.mouseBlock.size := congrArg (·.2.1) hsizes
  have hkeyboard : r.host.keyboard.size = Host.keyboardBlock.size := congrArg (·.2.2) hsizes
  -- making the buffers before the tables and all the rest after them cannot break off
  unfold connect at h
  iterate 10
    obtain ⟨_, _, hstep, h⟩ := run_bind_eq_ok_iff.mp h
    cases hstep
  obtain ⟨data, _, hdata, h⟩ := run_bind_eq_ok_iff.mp h
  obtain ⟨gpu, rfl⟩ := makeData_ok hdata
  cases h
  exact ⟨rfl, _, rfl, ⟨⟨_, _, _, _, _, rfl, rfl, rfl, rfl, rfl, rfl⟩⟩, rfl,
    ⟨rfl, rfl, rfl, rfl, rfl⟩,
    ⟨congrArg Nat.cast htime, congrArg Nat.cast hmouse, congrArg Nat.cast hkeyboard, ⟨_, rfl⟩,
      rfl⟩⟩

/-- Any pipelines can be drawn. -/
def Anything (_ : List Pipeline) : Prop := True

theorem recorded_of_connect {r after : Rig} (hr : Idle r.profile)
    (h : connect r = .ok () after) : Recorded Anything after.profile := by
  have hsizes : r.host.blockSizes = standardSizes := congrArg Ledger.sizes hr.ledger
  obtain ⟨hhost, bound, hbound, hsuits⟩ := suits_of_connect h hsizes
  have hledger : after.ledger = ⟨standardSizes, []⟩ := by
    have hkeeps := keepsLedger_connect r hr.ledger
    rw [h] at hkeeps
    exact hkeeps
  refine ⟨⟨?_, bound, hbound, ?_⟩, congrArg Ledger.sizes hledger, ?_⟩
  · show after.host.still.Tidy
    rw [hhost]
    exact hr.tidy
  · show Suits bound after.host.still
    rw [hhost]
    exact ⟨hsuits.binds, hsuits.custom, hsuits.sized, hsuits.standing⟩
  · show ∀ frame ∈ framesOf after.ledger.told, _
    rw [hledger]
    exact fun _ hframe => absurd hframe List.not_mem_nil

theorem keepsRecorded_perform (act : Act) :
    Keeps (fun r => Recorded Anything r.profile) act.perform := by
  cases act with
  | setCustom names values =>
    exact keeps_recorded (keeps_setCustomValues names values) fun _ =>
      keepsLedger_setCustomValues names values
  | setTables tables =>
    exact keeps_recorded (keeps_setTables tables) fun _ => keepsLedger_setTables tables
  | setTime name value => exact keeps_onTime (UniformBlock.keepsSize_assign _ _ _)
  | setMouse name value => exact keeps_onMouse (UniformBlock.keepsSize_assign _ _ _)
  | setKey code down => exact keeps_setKey code down
  | loadChannel index data =>
    exact keeps_recorded (keeps_loadChannel index data) fun _ => keepsLedger_loadChannel index data
  | writeStorage index data => exact keeps_writeStorage index data
  | resize width height =>
    exact keeps_recorded (keeps_resize width height) fun _ => keepsLedger_resize width height
  | reset => exact keeps_recorded keeps_reset fun _ => keepsLedger_reset
  | encodeFrame pipelines =>
    refine keeps_discard fun r hr => ?_
    have hdrawn : Anything pipelines := trivial
    obtain ⟨_, _, _, _, _, _, _, hrun, hafter⟩ := encodeFrame_told hr hdrawn
    rw [hrun]
    exact hafter
  | submit commands => exact keeps_submit commands
  | readCounters => exact keeps_discard keeps_readCounters
  | readScreen => exact keeps_discard keeps_readScreen

/-- What is bound suits the host all the time, and so it was with every frame. -/
theorem recorded_of_operated {r : Rig} (hr : Operated r) : Recorded Anything r.profile := by
  induction hr with
  | connected prepared connected => exact recorded_of_connect (idle_of_prepared prepared) connected
  | acted act _ ih => exact keepsRecorded_perform act _ ih

end ShaderPlayer.Rig
