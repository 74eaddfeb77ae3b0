/-
The counters of a run and the lines that it numbers.

Storage buffers and assertions are numbered as they come, in includes as well.  The numbers go
into the text of the shader, and they come back as bindings and as places among counters.

* `Generated` — how the lines of a source map are numbered by the deeds that made it;
* `Tallied` — the counters of a run say what it generated, and no binding of the prelude is
  taken (`filterMap_bindingOf_preludeLines`);
* `Work.Reaches.tallied` — this holds at every moment, at whatever depth and whether or not the
  run was stopped;
* `generated_of_preprocessed` — so it holds of every source map that is made.
-/
import ShaderPlayer.Proofs.Shader.Growth
import ShaderPlayer.Proofs.Shader.Work
import ShaderPlayer.Proofs.Text.Numerals
import ShaderPlayer.Shader.Prelude

namespace ShaderPlayer.Shader

/-! ### Bindings of lines -/

/-- How the declaration of a binding begins. -/
def bindingStart : Text := "@group(0) @binding(".toList

/-- The number that a line declares a binding with, if it declares one. -/
def bindingOf? (line : Text) : Option Nat :=
  if bindingStart.isPrefixOf line then
    some (Text.decimalValue ((line.drop bindingStart.length).takeWhile (·.isDigit)))
  else none

theorem bindingOf_declaration (binding : Nat) {close name colon type rest : Text}
    (hclose : close.head? = some ')') :
    bindingOf? (bindingStart ++ Text.ofNat binding ++ close ++ name ++ colon ++ type ++ rest)
      = some binding := by
  obtain ⟨tail, rfl⟩ := List.head?_eq_some_iff.mp hclose
  simp only [List.append_assoc, List.cons_append]
  rw [bindingOf?, if_pos (List.isPrefixOf_iff_prefix.mpr (List.prefix_append _ _)),
    List.drop_left, Text.takeWhile_isDigit_ofNat binding rfl, Text.decimalValue_ofNat]

theorem bindingOf_storageDeclaration (binding : Nat) (name type : Text) :
    bindingOf? (Run.storageDeclaration binding name type) = some binding :=
  bindingOf_declaration binding rfl

theorem bindingOf_eq_none {line : Text} (h : line.head? ≠ some '@') : bindingOf? line = none := by
  have hstart : bindingStart = '@' :: "group(0) @binding(".toList := rfl
  have hother : bindingStart.isPrefixOf line = false := by
    rw [hstart]
    rcases line with _ | ⟨c, rest⟩
    · rfl
    · have hc : c ≠ '@' := fun hc => h (congrArg some hc)
      rw [List.isPrefixOf_cons_cons, beq_eq_false_iff_ne.mpr hc.symm, Bool.false_and]
  rw [bindingOf?, hother, if_neg Bool.false_ne_true]

/-- The characters of a literal, which are not computed from its bytes this way. -/
theorem bindingOf_literal {cs : List Char} (h : cs.head? ≠ some '@') :
    bindingOf? (String.ofList cs).toList = none := by
  rw [String.toList_ofList]
  exact bindingOf_eq_none h

theorem filterMap_bindingOf_structLines :
    (structLines.map String.toList).filterMap bindingOf? = [] := by
  rw [List.filterMap_eq_nil_iff]
  simp only [structLines, List.map_cons, List.map_nil, List.forall_mem_cons]
  and_intros
  all_goals first
    | exact bindingOf_literal (by decide)
    | exact fun _ h => absurd h List.not_mem_nil

theorem filterMap_bindingOf_functionLines :
    (functionLines.map String.toList).filterMap bindingOf? = [] := by
  rw [List.filterMap_eq_nil_iff]
  simp only [functionLines, List.map_cons, List.map_nil, List.forall_mem_cons]
  and_intros
  all_goals first
    | exact bindingOf_literal (by decide)
    | exact fun _ h => absurd h List.not_mem_nil

theorem filterMap_bindingOf_structLinesOf (name : Text) (fields : List Text) :
    (structLinesOf name fields).filterMap bindingOf? = [] := by
  have hfield : ∀ line ∈ fields.map fun field => "    ".toList ++ field ++ [','],
      bindingOf? line = none := by
    intro line hline
    obtain ⟨field, _, rfl⟩ := List.mem_map.mp hline
    exact bindingOf_eq_none (show some ' ' ≠ some '@' by decide)
  have hhead : bindingOf? ("struct ".toList ++ name ++ [' ', '\x7b']) = none :=
    bindingOf_eq_none (show some 's' ≠ some '@' by decide)
  rw [structLinesOf, List.filterMap_append, List.filterMap_cons_none hhead,
    List.filterMap_eq_nil_iff.mpr hfield]
  rfl

/-- The bindings of the prelude begin behind those of storage buffers. -/
theorem filterMap_bindingOf_preludeLines (names : List Text) (tables : Tables) (wide : Bool) :
    (preludeLines names tables wide).filterMap bindingOf? = List.range' 2 16 := by
  have haliases : aliasLines.filterMap bindingOf? = [] := by decide +kernel
  have hbindings : (bindingLines wide).filterMap bindingOf? = List.range' 2 16 := by
    cases wide <;> decide +kernel
  unfold preludeLines
  simp only [List.filterMap_append, haliases, hbindings, filterMap_bindingOf_structLines,
    filterMap_bindingOf_structLinesOf, filterMap_bindingOf_functionLines, List.nil_append,
    List.append_nil]

/-! ### What is generated -/

/-- The declarations of storage buffers among the lines of deeds. -/
def declarationsOf (deeds : List (Int × Deed)) : List Text :=
  ((emissions 0 0 deeds).filter (·.1.storage?.isSome)).map (·.2.text)

/-- The calls of assertions among the lines of deeds, each with where it stands. -/
def callsOf (deeds : List (Int × Deed)) : List Emitted :=
  ((emissions 0 0 deeds).filter (·.1.assertion?.isSome)).map (·.2)

theorem declarationsOf_eq (deeds : List (Int × Deed)) :
    declarationsOf deeds
      = (storagesOf deeds).mapIdx fun k d => Run.storageDeclaration k d.1 d.2 := by
  have hnumbered := storages_emissions 0 0 deeds
  simp only [Nat.zero_add] at hnumbered
  exact hnumbered

theorem callsOf_eq (deeds : List (Int × Deed)) :
    callsOf deeds = (assertionsOf deeds).mapIdx fun k a => ⟨Run.assertCall k a.2, a.1⟩ := by
  have hnumbered := assertions_emissions 0 0 deeds
  simp only [Nat.zero_add] at hnumbered
  exact hnumbered

/-- The declarations take the bindings from zero on, in order. -/
theorem map_bindingOf_declarationsOf (deeds : List (Int × Deed)) :
    (declarationsOf deeds).map bindingOf? = (List.range (storagesOf deeds).length).map some := by
  rw [declarationsOf_eq]
  refine List.ext_getElem (by simp) fun k _ _ => ?_
  simp only [List.getElem_map, List.getElem_mapIdx, List.getElem_range, bindingOf_storageDeclaration]

/-- How the lines of a source map are numbered by the deeds that made it. -/
structure Generated (deeds : List (Int × Deed)) (m : SourceMap) : Prop where
  /-- The lines are those that the deeds emit. -/
  emitted : m.emitted.toList = (emissions 0 0 deeds).map (·.2)
  aligned : m.lines.length = m.lineMap.length
  declared : declarationsOf deeds
    = (storagesOf deeds).mapIdx fun k d => Run.storageDeclaration k d.1 d.2
  bindings : (declarationsOf deeds).map bindingOf? = (List.range (storagesOf deeds).length).map some
  storages : (storagesOf deeds).length ≤ 2
  /-- Each call has its place among the calls as its number, and stands where it is recorded. -/
  calls : callsOf deeds = (assertionsOf deeds).mapIdx fun k a => ⟨Run.assertCall k a.2, a.1⟩
  recorded : m.assertLines.toList = (assertionsOf deeds).map (·.1)
  assertions : m.assertLines.size ≤ 10

/-- The counters of a run say what it generated, and what it declares is bound beside the prelude. -/
structure Tallied {σ : Type} (deeds : List (Int × Deed)) (run : Run σ) : Prop
    extends Generated deeds run.source where
  storageCount : run.storageCount = (storagesOf deeds).length
  assertCount : run.assertCount = run.source.assertLines.size
  apart : ∀ k < run.storageCount, ∀ names tables wide,
    k ∉ (preludeLines names tables wide).filterMap bindingOf?

/-! ### What steps keep -/

/-- The counters of a run are within their limits. -/
structure Bounded {σ : Type} (run : Run σ) : Prop where
  storages : run.storageCount ≤ maxStorageBuffers
  assertions : run.assertCount ≤ maxAssertions

variable {σ : Type} {resolver : Resolver σ}

/-- A directive that goes over a limit is refused. -/
theorem bounded_obey {run run' : Run σ} {origin : Int} {directive : Directive}
    (h : run.obey origin directive = .ok run') (hrun : Bounded run) : Bounded run' := by
  obtain ⟨hstorages, hassertions⟩ := hrun
  cases directive with
  | define name value =>
    simp only [Run.obey] at h
    split at h
    · cases h
      exact ⟨hstorages, hassertions⟩
    · cases h
  | storage name type =>
    simp only [Run.obey] at h
    split at h
    · next hlimit =>
      cases h
      exact ⟨hlimit, hassertions⟩
    · cases h
  | assertion predicate =>
    simp only [Run.obey] at h
    split at h
    · next hlimit =>
      cases h
      exact ⟨hstorages, hlimit⟩
    · cases h
  | _ =>
    cases h
    exact ⟨hstorages, hassertions⟩

theorem bounded_step {a b : Run σ} {deeds : List (Int × Deed)} (h : Step resolver a deeds b)
    (ha : Bounded a) : Bounded b := by
  cases h with
  | hoist | emit => exact ⟨ha.storages, ha.assertions⟩
  | obey _ _ _ obeyed => exact bounded_obey obeyed ha
  | library path =>
    obtain ⟨hstorage, hassert⟩ := counts_noteLibrary a path
    exact ⟨hstorage ▸ ha.storages, hassert ▸ ha.assertions⟩
  | ask path =>
    obtain ⟨hstorage, hassert⟩ := counts_ask resolver a path
    exact ⟨hstorage ▸ ha.storages, hassert ▸ ha.assertions⟩

/-! ### What a run has generated -/

/-- What a run has done so far makes its counters and its lines agree. -/
theorem tallied_of_steps {defines : Entries Text} {world : σ} {deeds : List (Int × Deed)}
    {run : Run σ} (h : Steps resolver (.start defines world) deeds run) : Tallied deeds run := by
  obtain ⟨hstorages, hassertions⟩ := h.keeps bounded_step ⟨Nat.zero_le _, Nat.zero_le _⟩
  obtain ⟨hemitted, _, hrecorded, _, hstorageCount, hassertCount⟩ := grows_steps h
  have hstorageCount : run.storageCount = (storagesOf deeds).length :=
    hstorageCount.trans (Nat.zero_add _)
  have hassertCount : run.assertCount = (assertionsOf deeds).length :=
    hassertCount.trans (Nat.zero_add _)
  have hrecorded : run.source.assertLines.toList = (assertionsOf deeds).map (·.1) :=
    hrecorded.trans (List.nil_append _)
  have hsize : run.source.assertLines.size = (assertionsOf deeds).length := by
    rw [← Array.length_toList, hrecorded, List.length_map]
  exact {
    emitted := hemitted.trans (List.nil_append _)
    aligned := by rw [SourceMap.lines, SourceMap.lineMap, List.length_map, List.length_map]
    declared := declarationsOf_eq deeds
    bindings := map_bindingOf_declarationsOf deeds
    storages := hstorageCount ▸ hstorages
    calls := callsOf_eq deeds
    recorded := hrecorded
    assertions := by
      rw [hsize, ← hassertCount]
      exact hassertions
    storageCount := hstorageCount
    assertCount := hassertCount.trans hsize.symm
    apart := by
      intro k hk names tables wide hmem
      rw [filterMap_bindingOf_preludeLines, List.mem_range'_1] at hmem
      have hlimit : run.storageCount ≤ 2 := hstorages
      omega }

/-- At every moment of a run its counters and its lines agree. -/
theorem Work.Reaches.tallied {defines : Entries Text} {world : σ} {shader : Text} {w : Work σ}
    (h : Work.Reaches resolver (.start defines world shader) w) : Tallied w.deeds w.run :=
  tallied_of_steps h.accounted

/-- The lines of a source map that preprocessing makes are numbered by its deeds. -/
theorem generated_of_shader (resolver : Resolver σ) (defines : Entries Text) (world : σ)
    (text : Text) :
    Generated ((Run.start defines world).trace resolver text)
      ((Run.start defines world).shader resolver text).1.source :=
  (tallied_of_steps (steps_shader text (Run.start defines world))).toGenerated

end ShaderPlayer.Shader
