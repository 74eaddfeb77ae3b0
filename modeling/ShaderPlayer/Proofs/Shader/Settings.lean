/-
Dispatch settings.

Three kinds of directives set how an entry point is dispatched, and a later one of a kind for a name
replaces an earlier one:

* `setting_steps` — behind the steps of a run, the setting of a kind for a name is that of the last
  directive among the deeds, or else the one from before;
* `setting_shader` — so the last one in the order of the document counts, in the shader or in an
  include;
* `compile_same` — two source maps that differ in no more than the order of their settings, and in
  where their lines came from, are compiled to the same pipelines.
-/
import ShaderPlayer.Proofs.Pipeline

namespace ShaderPlayer.Shader

/-- The kinds of directives that set how an entry point is dispatched. -/
inductive DispatchKind where
  | groups
  | once
  | count
  deriving DecidableEq, Repr

/-- What a directive sets, if it is about dispatching: its kind, and the entry point's name. -/
def Directive.setting? : Directive → Option (DispatchKind × Text)
  | .workgroupCount entry _ => some (.groups, entry)
  | .dispatchOnce entry => some (.once, entry)
  | .dispatchCount entry _ => some (.count, entry)
  | _ => none

/-- The setting of a kind for a name, as the directive that sets it. -/
def SourceMap.setting? (m : SourceMap) (name : Text) : DispatchKind → Option Directive
  | .groups => (m.workgroupCounts.lookup name).map (.workgroupCount name)
  | .once => (m.dispatchOnce.lookup name).map fun _ => .dispatchOnce name
  | .count => (m.dispatchCounts.lookup name).map (.dispatchCount name)

/-- The directive of a deed, if it sets the given kind for the given name. -/
def Deed.setting? (kind : DispatchKind) (name : Text) : Deed → Option Directive
  | .obeyed directive => if directive.setting? = some (kind, name) then some directive else none
  | _ => none

/-- The directives among deeds that set a kind for a name, in the order of the document. -/
def settingsOf (kind : DispatchKind) (name : Text) (deeds : List (Int × Deed)) : List Directive :=
  deeds.filterMap fun d => d.2.setting? kind name

theorem settingsOf_append (kind : DispatchKind) (name : Text) (first rest : List (Int × Deed)) :
    settingsOf kind name (first ++ rest) = settingsOf kind name first ++ settingsOf kind name rest :=
  List.filterMap_append

/-- A deed that sets nothing of a kind for a name counts for nothing there. -/
theorem settingsOf_singleton_of_ne {directive : Directive} {kind : DispatchKind} {name : Text}
    (h : directive.setting? ≠ some (kind, name)) (origin : Int) :
    settingsOf kind name [(origin, .obeyed directive)] = [] := by
  simp [settingsOf, Deed.setting?, h]

/-! ### The last one counts -/

section Last

variable {σ : Type} {resolver : Resolver σ} {a b : Run σ} {deeds : List (Int × Deed)}

/-- Putting a value under a name shows under that name, and under no other. -/
theorem lookup_put {α : Type} (es : Entries α) (key name : Text) (value : α) :
    (es.put key value).lookup name = if name = key then some value else es.lookup name := by
  by_cases h : name = key
  · rw [if_pos h, h, Entries.lookup_put_self]
  · rw [if_neg h, Entries.lookup_put_of_ne es value h]

theorem setting_obey {origin : Int} {directive : Directive} (kind : DispatchKind) (name : Text)
    (h : a.obey origin directive = .ok b) :
    b.source.setting? name kind
      = (settingsOf kind name [(origin, .obeyed directive)]).getLast?.or
          (a.source.setting? name kind) := by
  cases directive with
  | workgroupCount entry count | dispatchOnce entry | dispatchCount entry count =>
    cases h
    by_cases hname : name = entry
    · subst hname
      cases kind <;> simp [settingsOf, Deed.setting?, Directive.setting?, SourceMap.setting?,
        lookup_put]
    · have hentry : entry ≠ name := Ne.symm hname
      cases kind <;> simp [settingsOf, Deed.setting?, Directive.setting?, SourceMap.setting?,
        lookup_put, hname, hentry]
  | define | storage | assertion =>
    rw [settingsOf_singleton_of_ne (by simp [Directive.setting?])]
    simp only [Run.obey] at h
    split at h
    · cases h
      cases kind <;> rfl
    · cases h
  | includeText | data =>
    rw [settingsOf_singleton_of_ne (by simp [Directive.setting?])]
    cases h
    cases kind <;> rfl

theorem setting_step (kind : DispatchKind) (name : Text) (h : Step resolver a deeds b) :
    b.source.setting? name kind
      = (settingsOf kind name deeds).getLast?.or (a.source.setting? name kind) := by
  cases h with
  | hoist => cases kind <;> rfl
  | emit => cases kind <;> rfl
  | obey _ _ _ obeyed => exact setting_obey kind name obeyed
  | library path => rw [source_noteLibrary]; rfl
  | ask path => rw [source_ask]; rfl

/-- The setting behind steps is the last one that the deeds set, or else that from before. -/
theorem setting_steps (kind : DispatchKind) (name : Text) (h : Steps resolver a deeds b) :
    b.source.setting? name kind
      = (settingsOf kind name deeds).getLast?.or (a.source.setting? name kind) := by
  induction h with
  | refl => rfl
  | cons step _ ih =>
    rw [ih, setting_step kind name step, settingsOf_append, List.getLast?_append, Option.or_assoc]

/-- The last directive of a kind for a name counts, in the order of the document and through all
includes. -/
theorem setting_shader (resolver : Resolver σ) (defines : Entries Text) (world : σ) (text : Text)
    (kind : DispatchKind) (name : Text) :
    ((Run.start defines world).shader resolver text).1.source.setting? name kind
      = (settingsOf kind name ((Run.start defines world).trace resolver text)).getLast? := by
  have hsteps : Steps resolver _ _ _ := steps_shader text (Run.start defines world)
  have hnone : (Run.start defines world).source.setting? name kind = none := by
    cases kind <;> rfl
  rw [setting_steps kind name hsteps, hnone, Option.or_none]

end Last

/-! ### Compiling -/

/-- Two source maps say the same of a shader: the same lines, extensions and tables, and the same
settings for every name. -/
structure SourceMap.Same (m m' : SourceMap) : Prop where
  lines : m'.lines = m.lines
  hoisted : m'.hoisted = m.hoisted
  tables : m'.tables = m.tables
  groups : ∀ name, m'.workgroupCounts.lookup name = m.workgroupCounts.lookup name
  once : ∀ name, m'.dispatchOnce.lookup name = m.dispatchOnce.lookup name
  counts : ∀ name, m'.dispatchCounts.lookup name = m.dispatchCounts.lookup name

/-- A setting is read back from the directive that sets it. -/
theorem lookup_of_setting {α : Type} {es es' : Entries α} {set : α → Directive}
    (hset : Function.Injective set) {name : Text}
    (h : (es'.lookup name).map set = (es.lookup name).map set) : es'.lookup name = es.lookup name :=
  Option.map_injective hset h

theorem same_of_settings {m m' : SourceMap} (lines : m'.lines = m.lines)
    (hoisted : m'.hoisted = m.hoisted) (tables : m'.tables = m.tables)
    (settings : ∀ kind name, m'.setting? name kind = m.setting? name kind) : m.Same m' where
  lines := lines
  hoisted := hoisted
  tables := tables
  groups name := by
    refine lookup_of_setting ?_ (settings .groups name)
    rintro _ _ ⟨⟩
    rfl
  once name := by
    refine lookup_of_setting ?_ (settings .once name)
    rintro _ _ ⟨⟩
    rfl
  counts name := by
    refine lookup_of_setting ?_ (settings .count name)
    rintro _ _ ⟨⟩
    rfl

end ShaderPlayer.Shader

namespace ShaderPlayer.Workbench

open Gpu Shader

variable {m m' : SourceMap} (h : m.Same m')

include h

theorem unitText_same (names : List Text) (wide : Bool) :
    unitText m' names wide = unitText m names wide := by
  simp only [unitText, header, SourceMap.source, SourceMap.extensions, h.lines, h.hoisted, h.tables]

theorem ofEntryPoint_same (point : EntryPoint) (compiled : ComputePipeline) :
    Pipeline.ofEntryPoint m' point compiled = Pipeline.ofEntryPoint m point compiled := by
  simp only [Pipeline.ofEntryPoint, h.groups, h.once, h.counts]

theorem makePipelines_same (layout : Option PipelineLayout) (module : ShaderModule)
    (points : List EntryPoint) :
    makePipelines m' layout module points = makePipelines m layout module points := by
  induction points with
  | nil => rfl
  | cons point points ih => simp only [makePipelines, ofEntryPoint_same h, ih]

/-- Source maps that say the same of a shader are compiled to the same pipelines, in the same order
and with the same effect on the device. -/
theorem compile_same (host : Host) (layout : Option PipelineLayout) (bench after : Workbench)
    (pipelines : List Pipeline) :
    compile host layout m' bench = .ok pipelines after
      ↔ compile host layout m bench = .ok pipelines after := by
  have hmake : ∀ unit points,
      makeAll m' layout unit points = makeAll m layout unit points := by
    intro unit points
    simp only [makeAll, makePipelines_same h]
  rw [compile_eq, compile_eq, unitText_same h]
  rcases findEntryPoints (unitText m host.customNames host.wide) with digits | points
  · exact Iff.rfl
  · dsimp only
    rw [hmake]
    -- faults are seen from the lines' origins, which may differ
    rcases makeAll m layout (unitText m host.customNames host.wide) points bench.gpu with
      ⟨made, gpu⟩ | ⟨fault, gpu⟩
    · exact Iff.rfl
    · constructor <;> intro hok <;> cases hok

end ShaderPlayer.Workbench
