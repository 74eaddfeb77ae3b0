/-
What a run grows by.

The emitted lines, the hoisted lines, the lines of the assertions and the macros only
grow, each by what the deeds of the run add.  A storage buffer and an assertion are
numbered by how many came before them, so the lines that deeds emit depend on two
counts (`emissions`):

* `grows_steps` — after the steps of a run there is what was there before, and behind it
  what the deeds add;
* `storages_emissions`, `assertions_emissions` — the declarations among the lines carry
  the numbers from the count on, in the order of the document, and so do the calls.
-/
import ShaderPlayer.Proofs.Shader.Trace

namespace ShaderPlayer.Shader

/-! ### What deeds add -/

/-- The storage buffer that a deed declares: its name and its type. -/
def Deed.storage? : Deed → Option (Text × Text)
  | .obeyed (.storage name type) => some (name, type)
  | _ => none

/-- The predicate that a deed asserts. -/
def Deed.assertion? : Deed → Option Text
  | .obeyed (.assertion predicate) => some predicate
  | _ => none

/-- The macro that a deed defines. -/
def Deed.definition? : Deed → Option (Text × Text)
  | .obeyed (.define name value) => some (name, value)
  | _ => none

/-- The line that a deed hoists. -/
def Deed.hoisted? : Deed → Option Text
  | .hoisted text => some text
  | _ => none

/-- The line that a deed emits, behind so many storage buffers and assertions. -/
def Deed.line? (storages assertions : Nat) : Deed → Option Text
  | .emitted text => some text
  | .obeyed (.storage name type) => some (Run.storageDeclaration storages name type)
  | .obeyed (.assertion predicate) => some (Run.assertCall assertions predicate)
  | _ => none

/-- The storage buffers that deeds declare. -/
def storagesOf (deeds : List (Int × Deed)) : List (Text × Text) := deeds.filterMap (·.2.storage?)

/-- The predicates that deeds assert, each with the line of the shader it counts as. -/
def assertionsOf (deeds : List (Int × Deed)) : List (Int × Text) :=
  deeds.filterMap fun d => d.2.assertion?.map fun predicate => (d.1, predicate)

/-- The macros that deeds define. -/
def definitionsOf (deeds : List (Int × Deed)) : Entries Text := deeds.filterMap (·.2.definition?)

/-- The lines that deeds hoist. -/
def hoistedOf (deeds : List (Int × Deed)) : List Text := deeds.filterMap (·.2.hoisted?)

/-- The lines that deeds emit, each next to its deed, behind so many storage buffers and
assertions. -/
def emissions : Nat → Nat → List (Int × Deed) → List (Deed × Emitted)
  | _, _, [] => []
  | storages, assertions, (origin, deed) :: rest =>
    (deed.line? storages assertions).toList.map (fun text => (deed, ⟨text, origin⟩))
      ++ emissions (storages + (storagesOf [(origin, deed)]).length)
          (assertions + (assertionsOf [(origin, deed)]).length) rest

section Append

variable (first rest : List (Int × Deed))

theorem storagesOf_append : storagesOf (first ++ rest) = storagesOf first ++ storagesOf rest :=
  List.filterMap_append

theorem assertionsOf_append :
    assertionsOf (first ++ rest) = assertionsOf first ++ assertionsOf rest :=
  List.filterMap_append

theorem definitionsOf_append :
    definitionsOf (first ++ rest) = definitionsOf first ++ definitionsOf rest :=
  List.filterMap_append

theorem hoistedOf_append : hoistedOf (first ++ rest) = hoistedOf first ++ hoistedOf rest :=
  List.filterMap_append

theorem emissions_append (storages assertions : Nat) :
    emissions storages assertions (first ++ rest)
      = emissions storages assertions first
        ++ emissions (storages + (storagesOf first).length)
            (assertions + (assertionsOf first).length) rest := by
  induction first generalizing storages assertions with
  | nil => rfl
  | cons head first ih =>
    obtain ⟨origin, deed⟩ := head
    rw [← List.singleton_append, storagesOf_append, assertionsOf_append, List.length_append,
      List.length_append, ← Nat.add_assoc, ← Nat.add_assoc, List.singleton_append, List.cons_append,
      emissions, emissions, ih, List.append_assoc]

end Append

/-! ### The numbers of the lines -/

/-- The declarations among the lines carry the numbers from the count on, in order. -/
theorem storages_emissions (storages assertions : Nat) (deeds : List (Int × Deed)) :
    ((emissions storages assertions deeds).filter (·.1.storage?.isSome)).map (·.2.text)
      = (storagesOf deeds).mapIdx fun k d => Run.storageDeclaration (storages + k) d.1 d.2 := by
  induction deeds generalizing storages assertions with
  | nil => rfl
  | cons head deeds ih =>
    obtain ⟨origin, deed⟩ := head
    have hcons : storagesOf ((origin, deed) :: deeds)
        = storagesOf [(origin, deed)] ++ storagesOf deeds :=
      storagesOf_append [(origin, deed)] deeds
    rw [emissions, List.filter_append, List.map_append, ih, hcons, List.mapIdx_append]
    congr 1
    · rcases deed with text | text | (_ | _ | _ | _ | _ | _ | _ | _) <;> rfl
    · simp only [Nat.add_assoc, Nat.add_comm (storagesOf [(origin, deed)]).length]

/-- The calls among the lines carry the numbers from the count on, in order, and stand at
the lines of their assertions. -/
theorem assertions_emissions (storages assertions : Nat) (deeds : List (Int × Deed)) :
    ((emissions storages assertions deeds).filter (·.1.assertion?.isSome)).map (·.2)
      = (assertionsOf deeds).mapIdx fun k a => ⟨Run.assertCall (assertions + k) a.2, a.1⟩ := by
  induction deeds generalizing storages assertions with
  | nil => rfl
  | cons head deeds ih =>
    obtain ⟨origin, deed⟩ := head
    have hcons : assertionsOf ((origin, deed) :: deeds)
        = assertionsOf [(origin, deed)] ++ assertionsOf deeds :=
      assertionsOf_append [(origin, deed)] deeds
    rw [emissions, List.filter_append, List.map_append, ih, hcons, List.mapIdx_append]
    congr 1
    · rcases deed with text | text | (_ | _ | _ | _ | _ | _ | _ | _) <;> rfl
    · simp only [Nat.add_assoc, Nat.add_comm (assertionsOf [(origin, deed)]).length]

/-! ### Steps add what their deeds add -/

variable {σ : Type} {resolver : Resolver σ}

/-- The second run is the first with what deeds add to it. -/
structure Grows (deeds : List (Int × Deed)) (a b : Run σ) : Prop where
  emitted : b.source.emitted.toList
    = a.source.emitted.toList ++ (emissions a.storageCount a.assertCount deeds).map (·.2)
  hoisted : b.source.hoisted.toList = a.source.hoisted.toList ++ hoistedOf deeds
  assertLines : b.source.assertLines.toList
    = a.source.assertLines.toList ++ (assertionsOf deeds).map (·.1)
  macros : b.macros.entries = a.macros.entries ++ definitionsOf deeds
  storageCount : b.storageCount = a.storageCount + (storagesOf deeds).length
  assertCount : b.assertCount = a.assertCount + (assertionsOf deeds).length

theorem Grows.refl (run : Run σ) : Grows [] run run where
  emitted := (List.append_nil _).symm
  hoisted := (List.append_nil _).symm
  assertLines := (List.append_nil _).symm
  macros := (List.append_nil _).symm
  storageCount := rfl
  assertCount := rfl

theorem Grows.trans {first rest : List (Int × Deed)} {a b c : Run σ} (hfirst : Grows first a b)
    (hrest : Grows rest b c) : Grows (first ++ rest) a c where
  emitted := by
    rw [hrest.emitted, hfirst.emitted, emissions_append, List.map_append, List.append_assoc,
      hfirst.storageCount, hfirst.assertCount]
  hoisted := by rw [hrest.hoisted, hfirst.hoisted, hoistedOf_append, List.append_assoc]
  assertLines := by
    rw [hrest.assertLines, hfirst.assertLines, assertionsOf_append, List.map_append,
      List.append_assoc]
  macros := by rw [hrest.macros, hfirst.macros, definitionsOf_append, List.append_assoc]
  storageCount := by
    rw [hrest.storageCount, hfirst.storageCount, storagesOf_append, List.length_append,
      Nat.add_assoc]
  assertCount := by
    rw [hrest.assertCount, hfirst.assertCount, assertionsOf_append, List.length_append,
      Nat.add_assoc]

/-- A run of which nothing but the resolver's side changed. -/
theorem Grows.of_frame {a b : Run σ} (hsource : b.source = a.source) (hmacros : b.macros = a.macros)
    (hstorage : b.storageCount = a.storageCount) (hassert : b.assertCount = a.assertCount) :
    Grows [] a b where
  emitted := by rw [hsource]; exact (List.append_nil _).symm
  hoisted := by rw [hsource]; exact (List.append_nil _).symm
  assertLines := by rw [hsource]; exact (List.append_nil _).symm
  macros := by rw [hmacros]; exact (List.append_nil _).symm
  storageCount := hstorage
  assertCount := hassert

theorem grows_obey {run run' : Run σ} {origin : Int} {directive : Directive}
    (h : run.obey origin directive = .ok run') :
    Grows [(origin, .obeyed directive)] run run' := by
  cases directive with
  | define name value =>
    simp only [Run.obey] at h
    split at h
    · next macros hdefine =>
      cases h
      exact { Grows.refl run with macros := MacroTable.define_eq_some hdefine }
    · cases h
  | storage name type =>
    simp only [Run.obey] at h
    split at h
    · cases h
      exact { Grows.refl run with emitted := Array.toList_push, storageCount := rfl }
    · cases h
  | assertion predicate =>
    simp only [Run.obey] at h
    split at h
    · cases h
      exact { Grows.refl run with
        emitted := Array.toList_push, assertLines := Array.toList_push, assertCount := rfl }
    · cases h
  | _ =>
    cases h
    exact { Grows.refl run with }

theorem counts_noteLibrary (run : Run σ) (path : IncludePath) :
    (run.noteLibrary path).storageCount = run.storageCount
      ∧ (run.noteLibrary path).assertCount = run.assertCount := by
  unfold Run.noteLibrary
  split <;> exact ⟨rfl, rfl⟩

theorem counts_ask (resolver : Resolver σ) (run : Run σ) (path : Text) :
    (run.ask resolver path).1.storageCount = run.storageCount
      ∧ (run.ask resolver path).1.assertCount = run.assertCount := by
  unfold Run.ask
  rcases resolver.fetch path run.world with ⟨_ | _ | _, notes, world⟩ <;> exact ⟨rfl, rfl⟩

theorem grows_step {a b : Run σ} {deeds : List (Int × Deed)} (h : Step resolver a deeds b) :
    Grows deeds a b := by
  cases h with
  | hoist => exact { Grows.refl a with hoisted := Array.toList_push }
  | emit => exact { Grows.refl a with emitted := Array.toList_push }
  | obey _ _ _ obeyed => exact grows_obey obeyed
  | library path =>
    exact .of_frame (source_noteLibrary a path) (macros_noteLibrary a path)
      (counts_noteLibrary a path).1 (counts_noteLibrary a path).2
  | ask path =>
    exact .of_frame (source_ask resolver a path) (macros_ask resolver a path)
      (counts_ask resolver a path).1 (counts_ask resolver a path).2

theorem grows_steps {a b : Run σ} {deeds : List (Int × Deed)} (h : Steps resolver a deeds b) :
    Grows deeds a b := by
  induction h with
  | refl run => exact .refl run
  | cons step _ ih => exact (grows_step step).trans ih

end ShaderPlayer.Shader
