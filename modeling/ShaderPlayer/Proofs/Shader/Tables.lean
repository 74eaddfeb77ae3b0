/-
The data tables of a shader.

The placeholder table shares its name with tables that a shader may have, and it is
told from them by that name alone: where a table of this name stands alone, the next
data directive drops it.  So the tables hold what was written, except for data under
that name which come first (`kept`):

* `tables_steps` — after the steps of a run the tables are those from before with the
  data of every directive pushed, in the order of the document;
* `foldl_pushTable` — pushing data onto the placeholder gives the kept ones, by name in
  order of first occurrence;
* `tables_shader` — so the tables of a shader are the kept ones, and nothing is lost
  exactly if the first directive has another name or there is no other directive;
* `fit_tables` — they go into a buffer;
* `regular_tables` — and none of them is empty or has a name with blanks in it.
-/
import Mathlib.Data.List.Induction
import ShaderPlayer.Proofs.Shader.Reading
import ShaderPlayer.Proofs.Shader.Trace

namespace ShaderPlayer.Shader

open SourceMap (pushTable)

/-- The name and the values of a data directive. -/
abbrev Datum := Text × List Int

/-! ### What the data directives of a run say -/

/-- The data that a deed pushes, if it is a data directive that was obeyed. -/
def Deed.datum? : Deed → Option Datum
  | .obeyed (.data name values) => some (name, values.map Int.ofNat)
  | _ => none

/-- The data of the directives among deeds, in their order. -/
def dataOf (deeds : List (Int × Deed)) : List Datum := deeds.filterMap (·.2.datum?)

theorem dataOf_append (first rest : List (Int × Deed)) :
    dataOf (first ++ rest) = dataOf first ++ dataOf rest := List.filterMap_append

variable {σ : Type} {resolver : Resolver σ}

theorem tables_obey {run run' : Run σ} {origin : Int} {directive : Directive}
    (h : run.obey origin directive = .ok run') :
    run'.source.tables
      = (dataOf [(origin, .obeyed directive)]).foldl (fun ts d => pushTable ts d.1 d.2)
          run.source.tables := by
  cases directive with
  | define | storage | assertion =>
    simp only [Run.obey] at h
    split at h
    · cases h
      rfl
    · cases h
  | _ =>
    cases h
    rfl

theorem tables_step {a b : Run σ} {deeds : List (Int × Deed)} (h : Step resolver a deeds b) :
    b.source.tables
      = (dataOf deeds).foldl (fun ts d => pushTable ts d.1 d.2) a.source.tables := by
  cases h with
  | hoist => rfl
  | emit => rfl
  | obey _ _ _ obeyed => exact tables_obey obeyed
  | library path => exact congrArg SourceMap.tables (source_noteLibrary a path)
  | ask path => exact congrArg SourceMap.tables (source_ask resolver a path)

/-- The tables after the steps of a run. -/
theorem tables_steps {a b : Run σ} {deeds : List (Int × Deed)} (h : Steps resolver a deeds b) :
    b.source.tables
      = (dataOf deeds).foldl (fun ts d => pushTable ts d.1 d.2) a.source.tables := by
  induction h with
  | refl => rfl
  | cons step _ ih => rw [ih, tables_step step, dataOf_append, List.foldl_append]

/-! ### Data gathered by name -/

theorem eraseDups_concat {α : Type} [BEq α] [LawfulBEq α] (as : List α) (a : α) :
    (as ++ [a]).eraseDups = if a ∈ as then as.eraseDups else as.eraseDups ++ [a] := by
  rw [List.eraseDups_append]
  by_cases h : a ∈ as
  · have hgone : [a].removeAll as = [] := by simp [List.removeAll, h]
    rw [hgone, if_pos h, List.eraseDups_nil, List.append_nil]
  · have hkept : [a].removeAll as = [a] := by simp [List.removeAll, h]
    rw [hkept, if_neg h]
    rfl

theorem mem_eraseDups_iff {α : Type} [BEq α] [LawfulBEq α] {as : List α} {a : α} :
    a ∈ as.eraseDups ↔ a ∈ as := by
  induction as using List.reverseRecOn with
  | nil => rfl
  | append_singleton as b ih =>
    rw [eraseDups_concat]
    split
    · next h =>
      rw [ih, List.mem_append, List.mem_singleton]
      constructor
      · exact Or.inl
      · rintro (h' | rfl)
        · exact h'
        · exact h
    · rw [List.mem_append, List.mem_append, ih]

theorem nodup_eraseDups {α : Type} [BEq α] [LawfulBEq α] (as : List α) : as.eraseDups.Nodup := by
  induction as using List.reverseRecOn with
  | nil => exact List.nodup_nil
  | append_singleton as b ih =>
    rw [eraseDups_concat]
    split
    · exact ih
    · next h =>
      rw [List.nodup_append]
      refine ⟨ih, by simp, ?_⟩
      rintro c hc d hd rfl
      rw [List.mem_singleton] at hd
      rw [mem_eraseDups_iff, hd] at hc
      exact h hc

/-- The names of data in order of first occurrence, each with all of its values. -/
def gathered (ds : List Datum) : Tables :=
  (ds.map (·.1)).eraseDups.map fun name => (name, (ds.filter (·.1 = name)).flatMap (·.2))

theorem lookup_map_pair {α : Type} (names : List Text) (f : Text → α) (name : Text) :
    (names.map fun n => (n, f n)).lookup name = if name ∈ names then some (f name) else none := by
  induction names with
  | nil => rfl
  | cons n names ih =>
    rw [List.map_cons, List.lookup_cons, ih]
    by_cases h : name = n
    · simp [h]
    · have hbeq : (name == n) = false := by simpa using h
      simp [hbeq, h]

theorem put_map_pair {α : Type} {names : List Text} (hn : names.Nodup) (f : Text → α)
    (name : Text) (value : α) :
    Entries.put (names.map fun n => (n, f n)) name value
      = (names.map fun n => (n, if n = name then value else f n))
        ++ if name ∈ names then [] else [(name, value)] := by
  induction names with
  | nil => rfl
  | cons n names ih =>
    rw [List.nodup_cons] at hn
    rw [List.map_cons, Entries.put, List.map_cons]
    by_cases h : n = name
    · subst h
      have hrest : ∀ m ∈ names, (m, f m) = (m, if m = n then value else f m) := by
        intro m hm
        have hne : m ≠ n := fun h => hn.1 (h ▸ hm)
        rw [if_neg hne]
      simp [List.map_congr_left hrest]
    · rw [if_neg h, ih hn.2, if_neg h, List.cons_append]
      simp [List.mem_cons, Ne.symm h]

/-- One more datum goes behind the values of its name, or to the end. -/
theorem gathered_concat (ds : List Datum) (d : Datum) :
    gathered (ds ++ [d])
      = (gathered ds).put d.1 (((gathered ds).lookup d.1).getD [] ++ d.2) := by
  set names := (ds.map (·.1)).eraseDups with hnames
  have hmem : ∀ name, name ∈ names ↔ name ∈ ds.map (·.1) := fun name => mem_eraseDups_iff
  have hold : gathered ds
      = names.map fun name => (name, (ds.filter (·.1 = name)).flatMap (·.2)) := rfl
  have hvalues : ∀ name, ((ds ++ [d]).filter (·.1 = name)).flatMap (·.2)
      = (ds.filter (·.1 = name)).flatMap (·.2) ++ if d.1 = name then d.2 else [] := by
    intro name
    by_cases h : d.1 = name <;> simp [List.filter_append, h]
  rw [hold, lookup_map_pair, put_map_pair (nodup_eraseDups _), gathered, List.map_append,
    List.map_singleton, eraseDups_concat, ← hnames]
  by_cases h : d.1 ∈ names
  · rw [if_pos ((hmem d.1).mp h), if_pos h, if_pos h, List.append_nil]
    refine List.map_congr_left fun name _ => ?_
    rw [hvalues name]
    by_cases hd : name = d.1
    · simp [hd]
    · simp [hd, Ne.symm hd]
  · have hnone : ds.filter (·.1 = d.1) = [] := by
      rw [List.filter_eq_nil_iff]
      intro e he heq
      exact h ((hmem d.1).mpr (List.mem_map.mpr ⟨e, he, by simpa using heq⟩))
    rw [if_neg fun hc => h ((hmem d.1).mpr hc), if_neg h, if_neg h, List.map_append]
    congr 1
    · refine List.map_congr_left fun name hname => ?_
      have hne : d.1 ≠ name := fun hd => h (hd ▸ hname)
      rw [hvalues name, if_neg hne, List.append_nil, if_neg (Ne.symm hne)]
    · simp [hnone]

/-- How many values tables have in all. -/
def valueCount (ts : Entries (List Int)) : Nat := (ts.flatMap (·.2)).length

theorem valueCount_put (ts : Tables) (name : Text) (values : List Int) :
    valueCount (ts.put name ((ts.lookup name).getD [] ++ values))
      = valueCount ts + values.length := by
  induction ts with
  | nil => simp [Entries.put, valueCount]
  | cons entry ts ih =>
    obtain ⟨key, old⟩ := entry
    by_cases h : key = name
    · subst h
      simp only [valueCount, Entries.put, if_true, List.lookup_cons_self, Option.getD_some,
        List.flatMap_cons, List.length_append]
      omega
    · have hbeq : (name == key) = false := by simpa using Ne.symm h
      simp only [valueCount] at ih
      simp only [valueCount, Entries.put, if_neg h, List.lookup_cons, hbeq,
        List.flatMap_cons, List.length_append, ih]
      omega

/-- Gathering loses no value. -/
theorem valueCount_gathered (ds : List Datum) : valueCount (gathered ds) = valueCount ds := by
  induction ds using List.reverseRecOn with
  | nil => rfl
  | append_singleton ds d ih =>
    rw [gathered_concat, valueCount_put, ih]
    simp [valueCount]

/-! ### The placeholder's name -/

/-- The data that stay: those under the placeholder's name that come first are dropped
by what follows them. -/
def kept : List Datum → List Datum
  | [] => []
  | [d] => [d]
  | d :: e :: ds => if d.1 = placeholder then kept (e :: ds) else d :: e :: ds

/-- The tables of a shader with the given data, had none been dropped. -/
def written (ds : List Datum) : Tables := if ds.isEmpty then bootstrapTables else gathered ds

theorem kept_ne_nil {ds : List Datum} (h : ds ≠ []) : kept ds ≠ [] := by
  fun_induction kept ds with
  | case1 => exact h
  | case2 => exact h
  | case3 d e ds _ ih => exact ih (List.cons_ne_nil e ds)
  | case4 => exact h

theorem kept_suffix (ds : List Datum) : kept ds <:+ ds := by
  fun_induction kept ds with
  | case1 => exact List.suffix_refl _
  | case2 => exact List.suffix_refl _
  | case3 d e ds _ ih => exact ih.trans (List.suffix_cons d _)
  | case4 => exact List.suffix_refl _

theorem kept_of_ne {d : Datum} (h : d.1 ≠ placeholder) (ds : List Datum) :
    kept (d :: ds) = d :: ds := by
  cases ds with
  | nil => rfl
  | cons e ds => rw [kept, if_neg h]

theorem keys_gathered (ds : List Datum) : (gathered ds).keys = (ds.map (·.1)).eraseDups := by
  rw [Entries.keys, gathered, List.map_map]
  exact List.map_id _

theorem pushTable_of_placeholder {ts : Tables} (h : ts.keys = [placeholder]) (d : Datum) :
    pushTable ts d.1 d.2 = gathered [d] := by
  simp only [pushTable, h, if_true]
  simp [Entries.put, gathered, List.eraseDups_cons]

theorem pushTable_gathered {d : Datum} (h : d.1 ≠ placeholder) (ds : List Datum) (e : Datum) :
    pushTable (gathered (d :: ds)) e.1 e.2 = gathered (d :: ds ++ [e]) := by
  have hkeys : (gathered (d :: ds)).keys ≠ [placeholder] := by
    rw [keys_gathered, List.map_cons, List.eraseDups_cons]
    intro heq
    exact h (List.cons.inj heq).1
  simp only [pushTable, if_neg hkeys]
  exact (gathered_concat (d :: ds) e).symm

theorem foldl_pushTable_gathered {d : Datum} (h : d.1 ≠ placeholder) (ds es : List Datum) :
    es.foldl (fun ts e => pushTable ts e.1 e.2) (gathered (d :: ds)) = gathered (d :: ds ++ es) := by
  induction es generalizing ds with
  | nil => rw [List.append_nil]; rfl
  | cons e es ih =>
    rw [List.foldl_cons, pushTable_gathered h, List.cons_append, ih (ds ++ [e]), ← List.cons_append,
      List.append_assoc, List.singleton_append]

/-- Pushing data onto a table of the placeholder's name alone. -/
theorem foldl_pushTable {ts : Tables} (h : ts.keys = [placeholder]) {ds : List Datum}
    (hds : ds ≠ []) :
    ds.foldl (fun ts d => pushTable ts d.1 d.2) ts = gathered (kept ds) := by
  induction ds generalizing ts with
  | nil => exact absurd rfl hds
  | cons d ds ih =>
    rw [List.foldl_cons, pushTable_of_placeholder h]
    by_cases hd : d.1 = placeholder
    · -- a table of the same name again, dropped by the next datum
      cases ds with
      | nil => rfl
      | cons e ds =>
        have hkeys : (gathered [d]).keys = [placeholder] := by
          rw [keys_gathered, List.map_singleton, hd]
          rfl
        rw [ih hkeys (List.cons_ne_nil e ds), kept, if_pos hd]
    · rw [foldl_pushTable_gathered hd [] ds, kept_of_ne hd]
      rfl

theorem foldl_pushTable_bootstrap (ds : List Datum) :
    ds.foldl (fun ts d => pushTable ts d.1 d.2) bootstrapTables = written (kept ds) := by
  by_cases hds : ds = []
  · subst hds
    rfl
  · have hkept : (kept ds).isEmpty = false := by
      rw [List.isEmpty_eq_false_iff]
      exact kept_ne_nil hds
    rw [foldl_pushTable rfl hds, written, hkept]
    rfl

/-- Nothing is lost exactly if the first name is not the placeholder's, or stands for
the only directive. -/
theorem written_kept_iff {ds : List Datum} (hvalues : ∀ d ∈ ds, d.2 ≠ []) :
    written (kept ds) = written ds
      ↔ (ds.head?.map (·.1) = some placeholder → ds.length = 1) := by
  match ds with
  | [] => simp [kept]
  | [d] => simp [kept]
  | d :: e :: ds =>
    by_cases hd : d.1 = placeholder
    · constructor
      · intro heq
        exfalso
        have hne : kept (e :: ds) ≠ [] := kept_ne_nil (List.cons_ne_nil e ds)
        obtain ⟨dropped, hsuffix⟩ := kept_suffix (e :: ds)
        have hd2 : 0 < d.2.length := List.length_pos_of_ne_nil (hvalues d List.mem_cons_self)
        have hrest : valueCount (e :: ds) = valueCount dropped + valueCount (kept (e :: ds)) := by
          have h := congrArg valueCount hsuffix
          simpa [valueCount] using h.symm
        -- the values of the first directive are missing from the count
        have hcount : valueCount (kept (e :: ds)) = d.2.length + valueCount (e :: ds) := by
          rw [kept, if_pos hd, written, written, List.isEmpty_eq_false_iff.mpr hne] at heq
          calc valueCount (kept (e :: ds))
              = valueCount (gathered (kept (e :: ds))) := (valueCount_gathered _).symm
            _ = valueCount (gathered (d :: e :: ds)) := congrArg valueCount heq
            _ = valueCount (d :: e :: ds) := valueCount_gathered _
            _ = d.2.length + valueCount (e :: ds) := by
                rw [valueCount, List.flatMap_cons, List.length_append]
                rfl
        omega
      · intro h
        have hlength := h (by rw [List.head?_cons, Option.map_some, hd])
        simp at hlength
    · rw [kept_of_ne hd]
      simp [hd]

/-! ### The tables of a shader -/

theorem values_of_mem_dataOf_step {a b : Run σ} {deeds : List (Int × Deed)}
    (h : Step resolver a deeds b) {d : Datum} (hd : d ∈ dataOf deeds) :
    d.2 ≠ [] ∧ ∀ v ∈ d.2, 0 ≤ v ∧ v < 0x100000000 := by
  cases h with
  | hoist => exact absurd hd List.not_mem_nil
  | emit => exact absurd hd List.not_mem_nil
  | library => exact absurd hd List.not_mem_nil
  | ask => exact absurd hd List.not_mem_nil
  | obey _ _ read _ =>
    cases reads_of_ofTokens read with
    | data hvalues =>
      obtain ⟨hne, hlt⟩ := values_of_data hvalues
      obtain rfl := List.mem_singleton.mp hd
      refine ⟨fun hnil => hne (List.map_eq_nil_iff.mp hnil), ?_⟩
      intro v hv
      obtain ⟨n, hn, rfl⟩ := List.mem_map.mp hv
      have hn32 := hlt n hn
      rw [Int.ofNat_eq_natCast]
      exact ⟨Int.natCast_nonneg n, by omega⟩
    | _ => exact absurd hd List.not_mem_nil

/-- Each data directive of a run has values, and they fit into 32 bits. -/
theorem values_of_mem_dataOf {a b : Run σ} {deeds : List (Int × Deed)}
    (h : Steps resolver a deeds b) {d : Datum} (hd : d ∈ dataOf deeds) :
    d.2 ≠ [] ∧ ∀ v ∈ d.2, 0 ≤ v ∧ v < 0x100000000 := by
  induction h with
  | refl => exact absurd hd List.not_mem_nil
  | cons step _ ih =>
    rw [dataOf_append, List.mem_append] at hd
    rcases hd with hd | hd
    · exact values_of_mem_dataOf_step step hd
    · exact ih hd

theorem tables_eq_written (resolver : Resolver σ) (defines : Entries Text) (world : σ)
    (text : Text) :
    ((Run.start defines world).shader resolver text).1.source.tables
      = written (kept (dataOf ((Run.start defines world).trace resolver text))) := by
  rw [← foldl_pushTable_bootstrap]
  exact tables_steps (steps_shader text _)

/-- The tables that preprocessing makes are those that the data directives write, in
the order of the document and through all includes, but for the ones that come first
under the placeholder's name. -/
theorem tables_shader (resolver : Resolver σ) (defines : Entries Text) (world : σ) (text : Text) :
    let run := Run.start defines world
    let ds := dataOf (run.trace resolver text)
    let tables := (run.shader resolver text).1.source.tables
    tables = written (kept ds)
      ∧ (tables = written ds ↔ (ds.head?.map (·.1) = some placeholder → ds.length = 1)) := by
  intro run ds tables
  have htables : tables = written (kept ds) := tables_eq_written resolver defines world text
  refine ⟨htables, ?_⟩
  rw [htables]
  exact written_kept_iff fun d hd => (values_of_mem_dataOf (steps_shader text run) hd).1

/-- A shader that succeeds and loses the values of its first table. -/
theorem tables_lost_under_placeholder :
    let run := Run.start [] ()
    let text := "#data _dummy u32 1\n#data a u32 2\n".toList
    let resolver := Resolver.dictionary []
    (run.shader resolver text).2 = .complete
      ∧ (run.shader resolver text).1.source.tables = [("a".toList, [2])]
      ∧ written (dataOf (run.trace resolver text))
        = [("_dummy".toList, [1]), ("a".toList, [2])] := by
  decide +kernel

/-! ### Tables for a buffer -/

/-- Tables go into a buffer: there is one, and each value fits into 32 bits. -/
def Fit (ts : Tables) : Prop := ts ≠ [] ∧ ∀ t ∈ ts, ∀ v ∈ t.2, 0 ≤ v ∧ v < 0x100000000

theorem fit_written {ds : List Datum} (h : ∀ d ∈ ds, ∀ v ∈ d.2, 0 ≤ v ∧ v < 0x100000000) :
    Fit (written ds) := by
  unfold written
  cases ds with
  | nil => exact ⟨by decide, by decide⟩
  | cons d ds =>
    constructor
    · have hmem : d.1 ∈ ((d :: ds).map (·.1)).eraseDups :=
        mem_eraseDups_iff.mpr List.mem_cons_self
      exact List.ne_nil_of_mem (List.mem_map_of_mem hmem)
    · intro t ht v hv
      obtain ⟨name, _, rfl⟩ := List.mem_map.mp ht
      obtain ⟨e, he, hv⟩ := List.mem_flatMap.mp hv
      exact h e (List.mem_of_mem_filter he) v hv

/-- The tables of a shader go into a buffer. -/
theorem fit_tables (resolver : Resolver σ) (defines : Entries Text) (world : σ) (text : Text) :
    Fit ((Run.start defines world).shader resolver text).1.source.tables := by
  rw [tables_eq_written]
  refine fit_written fun d hd => ?_
  exact (values_of_mem_dataOf (steps_shader text _) ((kept_suffix _).subset hd)).2

/-! ### Tables for a structure -/

/-- Tables that go into a buffer, and into the fields of a structure: each has values, and a name
in one piece. -/
structure Regular (ts : Tables) : Prop where
  fit : Fit ts
  filled : ∀ t ∈ ts, t.2 ≠ []
  names : ∀ t ∈ ts, ∀ c ∈ t.1, Text.isBlank c = false

theorem regular_bootstrapTables : Regular bootstrapTables := by
  have hname : placeholder.all (fun c => !Text.isBlank c) := by decide
  refine ⟨⟨by decide, by decide⟩, by decide, fun t ht c hc => ?_⟩
  obtain rfl := List.mem_singleton.mp ht
  exact (Bool.not_eq_true' _).mp (List.all_eq_true.mp hname c hc)

theorem regular_written {ds : List Datum}
    (hvalues : ∀ d ∈ ds, d.2 ≠ [] ∧ ∀ v ∈ d.2, 0 ≤ v ∧ v < 0x100000000)
    (hnames : ∀ d ∈ ds, ∀ c ∈ d.1, Text.isBlank c = false) : Regular (written ds) := by
  cases ds with
  | nil => exact regular_bootstrapTables
  | cons first rest =>
    have hmember : ∀ t ∈ written (first :: rest), ∃ d ∈ first :: rest, d.1 = t.1 ∧ d.2 ⊆ t.2 := by
      intro t ht
      obtain ⟨name, hname, rfl⟩ := List.mem_map.mp ht
      obtain ⟨d, hd, rfl⟩ := List.mem_map.mp (mem_eraseDups_iff.mp hname)
      refine ⟨d, hd, rfl, fun v hv => List.mem_flatMap.mpr ⟨d, ?_, hv⟩⟩
      exact List.mem_filter.mpr ⟨hd, decide_eq_true rfl⟩
    refine ⟨fit_written fun d hd => (hvalues d hd).2, fun t ht => ?_, fun t ht => ?_⟩
    · obtain ⟨d, hd, _, hsubset⟩ := hmember t ht
      rintro hnil
      rw [hnil] at hsubset
      exact (hvalues d hd).1 (List.subset_nil.mp hsubset)
    · obtain ⟨d, hd, hname, _⟩ := hmember t ht
      rw [← hname]
      exact hnames d hd

theorem name_of_mem_dataOf_step {a b : Run σ} {deeds : List (Int × Deed)}
    (h : Step resolver a deeds b) {d : Datum} (hd : d ∈ dataOf deeds) {c : Char} (hc : c ∈ d.1) :
    Text.isBlank c = false := by
  cases h with
  | hoist => exact absurd hd List.not_mem_nil
  | emit => exact absurd hd List.not_mem_nil
  | library => exact absurd hd List.not_mem_nil
  | ask => exact absurd hd List.not_mem_nil
  | obey _ kind read _ =>
    have htokens := (ofText_eq_directive_iff.mp kind).2
    cases reads_of_ofTokens read with
    | data =>
      obtain rfl := List.mem_singleton.mp hd
      have hname : _ ∈ Text.tokens _ := htokens ▸ List.mem_cons_of_mem _ List.mem_cons_self
      exact Text.not_isBlank_of_mem_tokens hname hc
    | _ => exact absurd hd List.not_mem_nil

/-- The names of data directives are tokens. -/
theorem name_of_mem_dataOf {a b : Run σ} {deeds : List (Int × Deed)}
    (h : Steps resolver a deeds b) {d : Datum} (hd : d ∈ dataOf deeds) {c : Char} (hc : c ∈ d.1) :
    Text.isBlank c = false := by
  induction h with
  | refl => exact absurd hd List.not_mem_nil
  | cons step _ ih =>
    rw [dataOf_append, List.mem_append] at hd
    rcases hd with hd | hd
    · exact name_of_mem_dataOf_step step hd hc
    · exact ih hd

theorem regular_tables (resolver : Resolver σ) (defines : Entries Text) (world : σ)
    (text : Text) : Regular ((Run.start defines world).shader resolver text).1.source.tables := by
  have hsteps : Steps resolver _ _ _ := steps_shader text (Run.start defines world)
  have hkept : ∀ d ∈ kept (dataOf ((Run.start defines world).trace resolver text)),
      d ∈ dataOf ((Run.start defines world).trace resolver text) := (kept_suffix _).subset
  rw [tables_eq_written]
  exact regular_written (fun d hd => values_of_mem_dataOf hsteps (hkept d hd))
    fun d hd c hc => name_of_mem_dataOf hsteps (hkept d hd) hc

end ShaderPlayer.Shader
