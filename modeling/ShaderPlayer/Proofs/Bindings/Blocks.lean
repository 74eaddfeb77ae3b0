/-
How the host's blocks are arranged.

No operation moves a field of the blocks of time, mouse and keyboard, and custom uniforms are a
block of one float for each name.  This is so however far bindings are connected with a device,
and whether or not an operation breaks off.

* `Arranged` — how the blocks of a host are arranged: what changes the host keeps this, also an
  assignment to a custom uniform (`Arranged.set`);
* `keepsArranged_perform`, `keepsHost_connect` — and so do operations on bindings;
* `Used` — the states of bindings that may be connected at any time, also where this breaks off;
* `arranged_of_used` — in all of them the blocks are arranged so.
-/
import ShaderPlayer.Proofs.Bindings.Operated
import ShaderPlayer.Proofs.Uniform.Refusals

namespace ShaderPlayer

open Function (update)
open Gpu

/-! ### Assignments -/

namespace UniformBlock

theorem Alike.refl (b : UniformBlock) : Alike b b := ⟨rfl, rfl⟩

theorem Alike.trans {b other third : UniformBlock} (h : Alike b other) (hother : Alike other third) :
    Alike b third :=
  ⟨h.fields.trans hother.fields, h.length.trans hother.length⟩

theorem Alike.store {b other : UniformBlock} (h : Alike b other) (offset : Nat) (word : UInt32) :
    Alike (b.store offset word) other :=
  ⟨h.fields, List.length_set.trans h.length⟩

theorem Alike.putWord {b other : UniformBlock} (h : Alike b other) (name : Text) (word : UInt32) :
    Alike (b.putWord name word) other := by
  unfold UniformBlock.putWord
  split
  · exact h.store _ _
  · exact h

theorem alike_assign (short : Fault) (name : Text) (value : Value) (b : UniformBlock) :
    Alike (left (assign short name value b)) b := by
  have hkeeps : Keeps (Alike · b) (assign short name value) :=
    keeps_assign_of_store (fun _ offset word hb => hb.store offset word) short name value
  exact hkeeps b (.refl b)

end UniformBlock

open UniformBlock (Alike)

/-! ### Changes of the host -/

namespace Host

/-- The blocks of time, mouse and keyboard have the fields that they are made with, and custom
uniforms are tidy. -/
structure Arranged (h : Host) : Prop where
  time : Alike h.time timeBlock
  mouse : Alike h.mouse mouseBlock
  keyboard : Alike h.keyboard keyboardBlock
  tidy : h.Tidy

theorem arranged_start (width height : Int) (wide : Bool) (storageSize : Int) :
    Arranged (.start width height wide storageSize) :=
  ⟨⟨rfl, rfl⟩, ⟨rfl, rfl⟩, ⟨rfl, rfl⟩, tidy_start width height wide storageSize⟩

namespace Arranged

variable {h : Host} (hh : h.Arranged)

include hh

theorem sized (width height : Int) : Arranged { h with width, height } :=
  ⟨hh.time, hh.mouse, hh.keyboard, hh.tidy.proper, hh.tidy.filled⟩

theorem withTime {b : UniformBlock} (hb : Alike b timeBlock) : Arranged { h with time := b } :=
  ⟨hb, hh.mouse, hh.keyboard, hh.tidy.proper, hh.tidy.filled⟩

theorem withMouse {b : UniformBlock} (hb : Alike b mouseBlock) : Arranged { h with mouse := b } :=
  ⟨hh.time, hb, hh.keyboard, hh.tidy.proper, hh.tidy.filled⟩

theorem setKey (code : Nat) (down : Bool) : Arranged (h.setKey code down) :=
  ⟨hh.time, hh.mouse, hh.keyboard.store _ _, hh.tidy.proper, hh.tidy.filled⟩

theorem setTables (tables : Shader.Tables) : Arranged (h.setTables tables) :=
  ⟨hh.time, hh.mouse, hh.keyboard, hh.tidy.proper, hh.tidy.filled⟩

theorem setChannel (second : Bool) (picture : Picture) : Arranged (h.setChannel second picture) := by
  cases second <;> exact ⟨hh.time, hh.mouse, hh.keyboard, hh.tidy.proper, hh.tidy.filled⟩

theorem setCustom {pairs : List (Text × Double)} (hpairs : Proper (pairs.map (·.1))) :
    Arranged (h.setCustom pairs) :=
  ⟨hh.time, hh.mouse, hh.keyboard, tidy_setCustom hh.tidy hpairs⟩

end Arranged

/-! ### Assignments to custom uniforms -/

theorem alike_filled (names : List Text) (word : Text → UInt32) :
    Alike (filled names word) (customBlock names) := by
  rw [customBlock_eq_filled]
  refine ⟨rfl, ?_⟩
  show (wordsOf word names ++ _).length = (wordsOf (fun _ => 0) names ++ _).length
  rw [List.length_append, List.length_append, length_wordsOf, length_wordsOf]

/-- An assignment puts a word under a name, or changes nothing. -/
theorem left_set_filled (names : List Text) (word : Text → UInt32) (name : Text) (value : Value) :
    left (UniformBlock.set name value (filled names word)) = filled names word
      ∨ ∃ w, Double.Settled w
        ∧ left (UniformBlock.set name value (filled names word))
          = filled names (update word name w) := by
  have hroom : ∀ f, (filled names word).field? name = some f →
      f.offset + f.count ≤ (filled names word).words.length := fun _ hf =>
    UniformBlock.room_of_make (alike_filled names word) hf
  have hfloat : ∀ f, (filled names word).field? name = some f → f.scalar = .float ∧ f.count = 1 := by
    intro f hf
    by_cases hname : name ∈ names
    · obtain ⟨i, _, hfield, _⟩ := lastField_of_mem hname 0 word
      cases hfield.symm.trans hf
      exact ⟨rfl, rfl⟩
    · cases (lastField_of_not_mem hname 0).symm.trans hf
  rcases hrun : UniformBlock.set name value (filled names word) with ⟨_, b⟩ | ⟨fault, b⟩
  · obtain ⟨f, words, hf, hfills, rfl⟩ := (UniformBlock.set_eq_ok_iff hroom).mp hrun
    have hsingle := hroom f hf
    obtain ⟨hscalar, hcount⟩ := hfloat f hf
    rw [hscalar, hcount] at hfills
    rw [hcount] at hsingle
    obtain ⟨_, w, hw, rfl⟩ := UniformBlock.fills_one_iff.mp hfills
    refine .inr ⟨w, UniformBlock.settled_of_encode hw, ?_⟩
    rw [← putWord_filled, UniformBlock.putWord, hf]
    exact UniformBlock.overwrite_singleton hsingle w
  · -- a field of one element has nothing stored when it refuses a value
    rcases (UniformBlock.assign_eq_error_iff hroom).mp hrun with
      ⟨_, _, rfl⟩ | ⟨f, words, hf, hrefuses, rfl⟩
    · exact .inl rfl
    · obtain ⟨hscalar, hcount⟩ := hfloat f hf
      rw [hscalar, hcount] at hrefuses
      obtain ⟨rfl, _⟩ := UniformBlock.refuses_one_iff.mp hrefuses
      exact .inl (UniformBlock.overwrite_nil _)

theorem Arranged.set {h : Host} (hh : h.Arranged) (name : Text) (value : Value) :
    Arranged { h with custom := left (UniformBlock.set name value h.custom) } := by
  obtain ⟨word, hword, hcustom⟩ := hh.tidy.filled
  refine ⟨hh.time, hh.mouse, hh.keyboard, hh.tidy.proper, ?_⟩
  rw [hcustom]
  rcases left_set_filled h.customNames word name value with hsame | ⟨w, hw, hset⟩
  · exact ⟨word, hword, hsame⟩
  · refine ⟨update word name w, fun other => ?_, hset⟩
    by_cases hother : other = name
    · rw [hother, Function.update_self]
      exact hw
    · rw [Function.update_of_ne hother]
      exact hword other

end Host

/-! ### Operations -/

namespace Rig

section Host

variable {α : Type} {holds : Host → Prop}

theorem keepsHost_onDevice (op : Gpu.Op α) : Keeps (fun r => holds r.host) (onDevice op) :=
  keeps_onDevice_of_gpu (fun _ _ hr => hr) op

theorem keepsHost_changeHost {change : Host → Host} (hchange : ∀ h, holds h → holds (change h)) :
    Keeps (fun r => holds r.host) (changeHost change) :=
  keeps_modify fun r hr => hchange r.host hr

theorem keepsHost_makeStorage : Keeps (fun r => holds r.host) makeStorage :=
  keeps_bind keeps_get fun _ => keeps_bind (keepsHost_onDevice _) fun _ =>
    keeps_bind (keepsHost_onDevice _) fun _ => keeps_pure _

theorem keepsHost_makeData : Keeps (fun r => holds r.host) makeData :=
  keeps_bind keeps_get fun _ => keeps_bind (keeps_ofExcept _) fun _ => keepsHost_onDevice _

theorem keepsHost_makeTextures : Keeps (fun r => holds r.host) makeTextures :=
  keeps_bind keeps_get fun _ => keeps_bind (keepsHost_onDevice _) fun _ =>
    keeps_bind (keepsHost_onDevice _) fun _ => keeps_bind (keepsHost_onDevice _) fun _ =>
    keeps_pure _

theorem keepsHost_makeChannel (picture : Option Picture) :
    Keeps (fun r => holds r.host) (makeChannel picture) :=
  keeps_bind (keepsHost_onDevice _) fun _ => keeps_bind (keepsHost_onDevice _) fun _ =>
    keeps_pure _

theorem keepsHost_bind (resources : Resources) : Keeps (fun r => holds r.host) (bind resources) :=
  keeps_bind (keepsHost_onDevice _) fun _ => keeps_bind (keepsHost_onDevice _) fun _ =>
    keeps_bind (keepsHost_onDevice _) fun _ => keeps_bind (keepsHost_onDevice _) fun _ =>
    keeps_bind (keepsHost_onDevice _) fun _ => keeps_bind (keepsHost_onDevice _) fun _ =>
    keeps_modify fun _ hr => hr

theorem keepsHost_rebind {renew : Op Renewal} (hrenew : Keeps (fun r => holds r.host) renew) :
    Keeps (fun r => holds r.host) (rebind renew) := by
  refine keeps_bind keeps_get fun r => ?_
  split
  · exact keeps_pure _
  · exact keeps_bind hrenew fun _ => keeps_bind (keeps_modify fun _ hr => hr) fun _ => keeps_throw _
  · exact keeps_bind hrenew fun _ => keepsHost_bind _

theorem keepsHost_reset : Keeps (fun r => holds r.host) reset :=
  keepsHost_rebind (keeps_bind keepsHost_makeStorage fun _ =>
    keeps_bind keepsHost_makeTextures fun _ => keeps_pure _)

theorem keepsHost_connect : Keeps (fun r => holds r.host) connect := by
  refine keeps_bind keepsHost_makeStorage fun storage => ?_
  iterate 4 refine keeps_bind keeps_get fun _ => keeps_bind (keepsHost_onDevice _) fun _ => ?_
  refine keeps_bind (keeps_modify fun _ hr => hr) fun _ => keeps_bind keepsHost_makeData fun _ => ?_
  iterate 2 refine keeps_bind (keepsHost_onDevice _) fun _ => ?_
  refine keeps_bind keepsHost_makeTextures fun _ => ?_
  iterate 2 refine keeps_bind keeps_get fun _ => keeps_bind (keepsHost_makeChannel _) fun _ => ?_
  iterate 4 refine keeps_bind (keepsHost_onDevice _) fun _ => ?_
  exact keeps_bind keeps_get fun _ => keeps_bind (keepsHost_onDevice _) fun _ =>
    keeps_bind (keepsHost_onDevice _) fun _ => keepsHost_bind _

theorem keepsHost_setTables {tables : Shader.Tables}
    (htables : ∀ h, holds h → holds (h.setTables tables)) :
    Keeps (fun r => holds r.host) (setTables tables) :=
  keeps_bind (keepsHost_changeHost htables) fun _ =>
    keepsHost_rebind (keeps_bind keepsHost_makeData fun _ => keeps_pure _)

end Host

/-- An operation leaves the blocks arranged. -/
abbrev KeepsArranged {α : Type} (op : Op α) : Prop := Keeps (fun r => r.host.Arranged) op

theorem keepsArranged_onBlock {block : Host → UniformBlock} {put : Host → UniformBlock → Host}
    (hput : ∀ {h b}, h.Arranged → Alike b (block h) → (put h b).Arranged) (short : Fault)
    (name : Text) (value : Value) :
    KeepsArranged (onBlock block put (UniformBlock.assign short name value)) := by
  intro r hr
  have hleft := UniformBlock.alike_assign short name value (block r.host)
  unfold onBlock
  rcases hend : UniformBlock.assign short name value (block r.host) with ⟨a, b⟩ | ⟨fault, b⟩
  all_goals
    rw [hend] at hleft
    exact hput hr hleft

theorem keepsArranged_onTime (short : Fault) (name : Text) (value : Value) :
    KeepsArranged (onTime (UniformBlock.assign short name value)) :=
  keepsArranged_onBlock (fun hh hb => hh.withTime (hb.trans hh.time)) short name value

theorem keepsArranged_onMouse (short : Fault) (name : Text) (value : Value) :
    KeepsArranged (onMouse (UniformBlock.assign short name value)) :=
  keepsArranged_onBlock (fun hh hb => hh.withMouse (hb.trans hh.mouse)) short name value

theorem keepsArranged_setKey (code : Value) (down : Bool) : KeepsArranged (setKey code down) :=
  keeps_bind (keeps_ofExcept _) fun _ => keepsHost_changeHost fun _ hh => hh.setKey _ _

theorem keepsArranged_setCustom {pairs : List (Text × Double)}
    (hpairs : Host.Proper (pairs.map (·.1))) : KeepsArranged (setCustom pairs) := by
  refine keeps_bind keeps_get fun r =>
    keeps_bind (keepsHost_changeHost fun _ hh => hh.setCustom hpairs) fun _ => ?_
  refine keeps_ite (keepsHost_rebind ?_) (keeps_pure _)
  exact keeps_bind keeps_get fun _ => keeps_bind (keepsHost_onDevice _) fun _ => keeps_pure _

theorem keepsArranged_setCustomValues (names values : Value) :
    KeepsArranged (setCustomValues names values) := by
  intro r hr
  rcases hgiven : Host.customArguments names values with fault | given
  · rw [show setCustomValues names values r = .error fault r from
      run_ofExcept_bind_of_error hgiven _ r]
    exact hr
  · rw [show setCustomValues names values r = setCustom _ r from
      run_ofExcept_bind_of_ok hgiven _ r]
    exact keepsArranged_setCustom (Host.proper_of_customArguments hgiven) r hr

theorem keepsArranged_setTables (tables : Shader.Tables) : KeepsArranged (setTables tables) :=
  keepsHost_setTables fun _ hh => hh.setTables tables

theorem keepsArranged_resize (width height : Int) : KeepsArranged (resize width height) :=
  keeps_bind (keepsHost_changeHost fun _ hh => hh.sized width height) fun _ =>
    keepsHost_rebind (keeps_bind keepsHost_makeTextures fun _ => keeps_pure _)

theorem keepsArranged_loadChannel (index : Value) (data : Except Fault NumericArray) :
    KeepsArranged (loadChannel index data) := by
  refine keeps_bind (keeps_ofExcept _) fun second => keeps_bind (keeps_ofExcept _) fun picture =>
    keeps_bind (keeps_ofExcept _) fun _ =>
    keeps_bind (keepsHost_changeHost fun _ hh => hh.setChannel second picture) fun _ =>
    keeps_bind keeps_get fun r => ?_
  split
  · exact keeps_pure _
  · exact keeps_bind (keeps_discard (keepsHost_makeChannel _)) fun _ => keeps_throw _
  · exact keeps_bind (keepsHost_makeChannel _) fun _ => keepsHost_bind _

theorem keepsArranged_perform (act : Act) : KeepsArranged act.perform := by
  cases act with
  | setCustom names values => exact keepsArranged_setCustomValues names values
  | setTables tables => exact keepsArranged_setTables tables
  | setTime name value => exact keepsArranged_onTime _ name value
  | setMouse name value => exact keepsArranged_onMouse _ name value
  | setKey code down => exact keepsArranged_setKey code down
  | loadChannel index data => exact keepsArranged_loadChannel index data
  | writeStorage index data => exact keeps_writeStorage_of_quiet (fun _ _ _ hr => hr) index data
  | resize width height => exact keepsArranged_resize width height
  | reset => exact keepsHost_reset
  | encodeFrame pipelines =>
    exact keeps_discard (keeps_encodeFrame_of_gpu (fun _ _ hr => hr) pipelines)
  | submit commands => exact keepsHost_onDevice (record (.submit commands))
  | readCounters => exact keeps_discard (keeps_readCounters_of_quiet fun _ _ _ hr => hr)
  | readScreen => exact keeps_discard (keeps_readScreen_of_quiet fun _ _ _ hr => hr)

/-! ### States -/

/-- The states of bindings: new ones, whatever was asked of them, connected at any times, also
where this breaks off, and with a device that is used for other things. -/
inductive Used : Rig → Prop
  | start {width height : Int} {wide : Bool} {storageSize : Int} {device : Device} :
      Used { host := .start width height wide storageSize, gpu := { device } }
  | acted {r : Rig} (act : Act) (before : Used r) : Used (left (act.perform r))
  | connected {r : Rig} (before : Used r) : Used (left (connect r))
  /-- Custom uniforms can be assigned to behind the back of the bindings. -/
  | assigned {r : Rig} (name : Text) (value : Value) (before : Used r) :
      Used { r with host.custom := left (UniformBlock.set name value r.host.custom) }
  | elsewhere {r : Rig} (gpu : Gpu.State) (before : Used r) : Used { r with gpu }

theorem arranged_of_used {r : Rig} (hr : Used r) : r.host.Arranged := by
  induction hr with
  | start => exact Host.arranged_start _ _ _ _
  | acted act _ ih => exact keepsArranged_perform act _ ih
  | connected _ ih => exact keepsHost_connect _ ih
  | assigned name value _ ih => exact ih.set name value
  | elsewhere _ _ ih => exact ih

end Rig

end ShaderPlayer
