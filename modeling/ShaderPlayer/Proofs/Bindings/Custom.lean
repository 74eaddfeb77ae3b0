/-
The block of custom uniforms.

* `filled` — the block in which each name has a word: setting custom uniforms makes such
  blocks only, whatever is set (`putWord_filled`);
* `Tidy` — what the host keeps of custom uniforms: identifiers, and a block filled with
  words that come back from doubles;
* `setCustom_back` — so the names and values that are read from a tidy host bring its
  block back, also if two names are the same.
-/
import Mathlib.Logic.Function.Basic
import ShaderPlayer.Bindings.Host
import ShaderPlayer.Proofs.Effect
import ShaderPlayer.Proofs.Number.Single

namespace ShaderPlayer.Host

open Function (update)

/-! ### Fields -/

/-- The fields of floats that follow each other from an offset on. -/
def floatFields : Nat → List Text → List UniformField
  | _, [] => []
  | offset, name :: rest => ⟨name, .float, offset, 1⟩ :: floatFields (offset + 1) rest

theorem place_floats {size : Nat} (names : List Text) {offset : Nat}
    (hsize : offset + names.length ≤ size) :
    UniformBlock.place size offset (names.map fun name => (name, .float, 1))
      = floatFields offset names := by
  induction names generalizing offset with
  | nil => rfl
  | cons name rest ih =>
    rw [List.length_cons] at hsize
    have hnext : ((offset : Int) + 1) = ((offset + 1 : Nat) : Int) := by omega
    rw [List.map_cons, UniformBlock.place, floatFields, hnext, ih (by omega),
      UniformBlock.inside_of_le (by omega), UniformBlock.inside_of_le (by omega),
      Nat.add_sub_cancel_left]

theorem sum_floats (names : List Text) (start : Int) :
    (names.map fun name => (name, Scalar.float, (1 : Int))).foldl
      (fun n field => n + field.2.2) start = start + names.length := by
  induction names generalizing start with
  | nil => simp
  | cons name rest ih =>
    rw [List.map_cons, List.foldl_cons, ih, List.length_cons]
    show start + 1 + (rest.length : Int) = start + (rest.length + 1 : Nat)
    omega

/-- The words that a block of so many floats is filled up to. -/
def customWords (names : List Text) : Nat := UniformBlock.paddedWords names.length

theorem customBlock_eq (names : List Text) :
    customBlock names = ⟨floatFields 0 names, List.replicate (customWords names) 0⟩ := by
  have hneeded := sum_floats names 0
  rw [Int.zero_add] at hneeded
  unfold customBlock UniformBlock.make customWords
  dsimp only
  rw [hneeded, Int.toNat_natCast]
  have hroom : 0 + names.length ≤ UniformBlock.paddedWords names.length := by
    rw [Nat.zero_add]
    exact UniformBlock.le_paddedWords names.length
  exact congrArg (UniformBlock.mk · _) (place_floats names hroom)

/-! ### Filled blocks -/

/-- The words of names: one that comes again is meant where it comes last. -/
def wordsOf (word : Text → UInt32) : List Text → List UInt32
  | [] => []
  | name :: rest => (if name ∈ rest then 0 else word name) :: wordsOf word rest

/-- The block in which each name has a word. -/
def filled (names : List Text) (word : Text → UInt32) : UniformBlock where
  fields := floatFields 0 names
  words := wordsOf word names ++ List.replicate (customWords names - names.length) 0

theorem length_wordsOf (word : Text → UInt32) (names : List Text) :
    (wordsOf word names).length = names.length := by
  induction names with
  | nil => rfl
  | cons name rest ih => rw [wordsOf, List.length_cons, List.length_cons, ih]

theorem wordsOf_zero (names : List Text) :
    wordsOf (fun _ => 0) names = List.replicate names.length 0 := by
  induction names with
  | nil => rfl
  | cons name rest ih => rw [wordsOf, ite_self, ih, List.length_cons, List.replicate_succ]

theorem wordsOf_congr {word word' : Text → UInt32} {names : List Text}
    (h : ∀ name ∈ names, word name = word' name) : wordsOf word names = wordsOf word' names := by
  induction names with
  | nil => rfl
  | cons name rest ih =>
    rw [wordsOf, wordsOf, h name List.mem_cons_self,
      ih fun other hother => h other (List.mem_cons_of_mem name hother)]

theorem filled_congr {word word' : Text → UInt32} {names : List Text}
    (h : ∀ name ∈ names, word name = word' name) : filled names word = filled names word' := by
  unfold filled
  rw [wordsOf_congr h]

theorem customBlock_eq_filled (names : List Text) : customBlock names = filled names fun _ => 0 := by
  have hpadded : names.length ≤ customWords names := UniformBlock.le_paddedWords names.length
  rw [customBlock_eq, filled, wordsOf_zero, List.replicate_append_replicate,
    Nat.add_sub_cancel' hpadded]

theorem size_filled (names : List Text) (word : Text → UInt32) :
    (filled names word).size = 4 * customWords names := by
  have hpadded : names.length ≤ customWords names := UniformBlock.le_paddedWords names.length
  unfold UniformBlock.size filled
  rw [List.length_append, length_wordsOf, List.length_replicate, Nat.add_sub_cancel' hpadded]

/-- The last field of a name. -/
def lastField (offset : Nat) (names : List Text) (name : Text) : Option UniformField :=
  (floatFields offset names).reverse.find? (·.name = name)

theorem lastField_cons (offset : Nat) (head : Text) (rest : List Text) (name : Text) :
    lastField offset (head :: rest) name
      = (lastField (offset + 1) rest name).or
          (if head = name then some ⟨head, .float, offset, 1⟩ else none) := by
  unfold lastField
  rw [floatFields, List.reverse_cons, List.find?_append]
  by_cases hhead : head = name <;> simp [hhead]

theorem lastField_of_not_mem {names : List Text} {name : Text} (h : name ∉ names)
    (offset : Nat) : lastField offset names name = none := by
  induction names generalizing offset with
  | nil => rfl
  | cons head rest ih =>
    rw [List.mem_cons, not_or] at h
    rw [lastField_cons, ih h.2, if_neg fun heq => h.1 heq.symm]
    rfl

/-- Where the last field of a name is, its word is, and no other name's. -/
theorem lastField_of_mem {names : List Text} {name : Text} (h : name ∈ names) (offset : Nat)
    (word : Text → UInt32) :
    ∃ i < names.length, lastField offset names name = some ⟨name, .float, offset + i, 1⟩
      ∧ (wordsOf word names)[i]? = some (word name)
      ∧ ∀ w, wordsOf (update word name w) names = (wordsOf word names).set i w := by
  induction names generalizing offset with
  | nil => exact absurd h List.not_mem_nil
  | cons head rest ih =>
    -- if the name comes again, its last field is one of the rest
    by_cases hrest : name ∈ rest
    · obtain ⟨i, hi, hfield, hword, hset⟩ := ih hrest (offset + 1)
      refine ⟨i + 1, Nat.succ_lt_succ hi, ?_, hword, fun w => ?_⟩
      · rw [lastField_cons, hfield, Nat.add_assoc, Nat.add_comm 1 i]
        rfl
      · rw [wordsOf, wordsOf, hset w, List.set_cons_succ]
        congr 1
        by_cases hhead : head ∈ rest
        · rw [if_pos hhead, if_pos hhead]
        · have hne : head ≠ name := fun heq => hhead (heq ▸ hrest)
          rw [if_neg hhead, if_neg hhead, Function.update_of_ne hne]
    · have hhead : head = name := ((List.mem_cons.mp h).resolve_right hrest).symm
      subst hhead
      refine ⟨0, Nat.succ_pos _, ?_, ?_, fun w => ?_⟩
      · rw [lastField_cons, lastField_of_not_mem hrest, if_pos rfl]
        rfl
      · rw [wordsOf, if_neg hrest]
        rfl
      · rw [wordsOf, wordsOf, if_neg hrest, if_neg hrest, List.set_cons_zero,
          Function.update_self]
        congr 1
        refine wordsOf_congr fun other hother => ?_
        refine Function.update_of_ne ?_ _ _
        rintro rfl
        exact hrest hother

/-- Putting a word under a name fills the block with it. -/
theorem putWord_filled (names : List Text) (word : Text → UInt32) (name : Text) (w : UInt32) :
    (filled names word).putWord name w = filled names (update word name w) := by
  unfold UniformBlock.putWord
  by_cases hname : name ∈ names
  · obtain ⟨i, hi, hfield, _, hset⟩ := lastField_of_mem hname 0 word
    rw [Nat.zero_add] at hfield
    rw [show (filled names word).field? name = _ from hfield]
    unfold filled UniformBlock.store
    dsimp only
    rw [hset w, List.set_append_left _ _ (by rwa [length_wordsOf])]
  · rw [show (filled names word).field? name = none from lastField_of_not_mem hname 0]
    refine filled_congr fun other hother => ?_
    refine (Function.update_of_ne ?_ _ _).symm
    rintro rfl
    exact hname hother

theorem wordAt_filled {names : List Text} {name : Text} (h : name ∈ names)
    (word : Text → UInt32) : (filled names word).wordAt name = word name := by
  obtain ⟨i, hi, hfield, hword, _⟩ := lastField_of_mem h 0 word
  rw [Nat.zero_add] at hfield
  unfold UniformBlock.wordAt UniformBlock.wordsAt
  rw [show (filled names word).field? name = _ from hfield]
  unfold UniformBlock.wordsOf filled
  dsimp only
  rw [List.headD_eq_head?_getD, List.head?_take, if_neg (by decide), List.head?_drop,
    List.getElem?_append_left (by rwa [length_wordsOf]), hword]
  rfl

/-- The words after numbers were put under names, one after the other. -/
def overlaid (word : Text → UInt32) : List (Text × Double) → Text → UInt32
  | [] => word
  | (name, x) :: pairs => overlaid (update word name x.toSingle) pairs

theorem foldl_putWord_filled (names : List Text) (pairs : List (Text × Double))
    (word : Text → UInt32) :
    pairs.foldl (fun b (name, x) => b.putWord name x.toSingle) (filled names word)
      = filled names (overlaid word pairs) := by
  induction pairs generalizing word with
  | nil => rfl
  | cons pair pairs ih =>
    show pairs.foldl _ ((filled names word).putWord pair.1 pair.2.toSingle) = _
    rw [putWord_filled, ih]
    rfl

/-! ### Tidy hosts -/

/-- Custom uniforms, at least one, that are named by identifiers. -/
structure Proper (names : List Text) : Prop where
  ne_nil : names ≠ []
  identifiers : ∀ name ∈ names, name.isIdentifier

/-- The custom uniforms of a host are named properly, and their block is filled with words
that come back from doubles. -/
structure Tidy (h : Host) : Prop where
  proper : Proper h.customNames
  filled : ∃ word : Text → UInt32, (∀ name, Double.Settled (word name))
    ∧ h.custom = Host.filled h.customNames word

theorem tidy_start (width height : Int) (wide : Bool) (storageSize : Int) :
    Tidy (.start width height wide storageSize) where
  proper := by
    refine ⟨List.cons_ne_nil _ _, fun name hname => ?_⟩
    rw [List.mem_singleton.mp hname]
    decide
  filled := ⟨fun _ => 0, fun _ => Double.settled_zero, customBlock_eq_filled _⟩

theorem Tidy.size_custom {h : Host} (hh : h.Tidy) :
    h.custom.size = 4 * customWords h.customNames := by
  obtain ⟨word, _, hcustom⟩ := hh.filled
  rw [hcustom, size_filled]

theorem settled_overlaid (pairs : List (Text × Double)) {word : Text → UInt32}
    (hword : ∀ name, Double.Settled (word name)) (name : Text) :
    Double.Settled (overlaid word pairs name) := by
  induction pairs generalizing word with
  | nil => exact hword name
  | cons pair pairs ih =>
    have hupdated : ∀ other, Double.Settled (update word pair.1 pair.2.toSingle other) := by
      intro other
      by_cases heq : other = pair.1
      · subst heq
        rw [Function.update_self]
        exact Double.settled_toSingle pair.2
      · rw [Function.update_of_ne heq]
        exact hword other
    exact ih hupdated

/-- Setting names fills a block with words for them, over those of the same names. -/
theorem custom_setCustom {h : Host} (hh : h.Tidy) (pairs : List (Text × Double)) :
    ∃ word : Text → UInt32, (∀ name, Double.Settled (word name))
      ∧ (h.setCustom pairs).custom = filled (pairs.map (·.1)) (overlaid word pairs) := by
  obtain ⟨word, hword, hcustom⟩ := hh.filled
  unfold setCustom
  dsimp only
  by_cases hsame : pairs.map (·.1) = h.customNames
  -- the old block is kept for the same names, and a new one of zeros begun for others
  · refine ⟨word, hword, ?_⟩
    rw [if_pos hsame, hcustom, ← hsame, foldl_putWord_filled]
  · refine ⟨fun _ => 0, fun _ => Double.settled_zero, ?_⟩
    rw [if_neg hsame, customBlock_eq_filled, foldl_putWord_filled]

theorem tidy_setCustom {h : Host} (hh : h.Tidy) {pairs : List (Text × Double)}
    (hpairs : Proper (pairs.map (·.1))) : (h.setCustom pairs).Tidy where
  proper := hpairs
  filled := by
    obtain ⟨word, hword, hcustom⟩ := custom_setCustom hh pairs
    exact ⟨_, settled_overlaid pairs hword, hcustom⟩

/-! ### What a caller gives -/

/-- What a caller gives for custom uniforms: as many numbers as names, all of them identifiers. -/
theorem customArguments_spec {names values : Value} {given : List Text × List Double}
    (h : customArguments names values = .ok given) :
    ∃ items numbers, names.items = .ok items ∧ items.mapM customName = .ok given.1
      ∧ values.items = .ok numbers ∧ numbers.mapM Value.toDouble = .ok given.2
      ∧ given.1.length = given.2.length := by
  unfold customArguments at h
  obtain ⟨items, hitems, h⟩ := bind_eq_ok_iff.mp h
  obtain ⟨numbers, hnumbers, h⟩ := bind_eq_ok_iff.mp h
  obtain ⟨doubles, hdoubles, h⟩ := bind_eq_ok_iff.mp h
  split at h
  · next hlength =>
    obtain ⟨texts, htexts, h⟩ := bind_eq_ok_iff.mp h
    cases h
    exact ⟨items, numbers, hitems, htexts, hnumbers, hdoubles,
      (mapM_eq_ok_iff.mp htexts).length_eq ▸ hlength⟩
  · cases h

theorem customArguments_eq_ok {names values : Value} {given : List Text × List Double}
    (h : customArguments names values = .ok given) :
    ∃ items, names.items = .ok items ∧ items.mapM customName = .ok given.1
      ∧ given.1.length = given.2.length := by
  obtain ⟨items, _, hitems, htexts, _, _, hlength⟩ := customArguments_spec h
  exact ⟨items, hitems, htexts, hlength⟩

theorem customName_eq_ok {value : Value} {name : Text} (h : customName value = .ok name) :
    value.text? = some name ∧ name.isIdentifier := by
  unfold customName at h
  split at h
  · split at h
    · next hidentifier =>
      cases h
      exact ⟨rfl, hidentifier⟩
    · cases h
  · cases h

theorem map_text_of_customName {items : List Value} {names : List Text}
    (h : items.mapM customName = .ok names) : items.map Value.text? = names.map some := by
  induction mapM_eq_ok_iff.mp h with
  | nil => rfl
  | cons hhead hrest ih =>
    rw [List.map_cons, List.map_cons, ih (mapM_eq_ok_iff.mpr hrest), (customName_eq_ok hhead).1]

theorem map_fst_customOrPlaceholder {names : List Text} {values : List Double}
    (h : names.length = values.length) (hne : names ≠ []) :
    (customOrPlaceholder names values).map (·.1) = names := by
  unfold customOrPlaceholder
  rw [if_neg (by rwa [List.isEmpty_iff])]
  exact List.map_fst_zip (le_of_eq h)

/-- What a caller may give passes for the names of custom uniforms, the placeholder for
none. -/
theorem proper_of_customArguments {names values : Value} {given : List Text × List Double}
    (h : customArguments names values = .ok given) :
    Proper ((customOrPlaceholder given.1 given.2).map (·.1)) := by
  obtain ⟨items, _, htexts, hlength⟩ := customArguments_eq_ok h
  by_cases hne : given.1 = []
  · unfold customOrPlaceholder
    rw [hne]
    refine ⟨List.cons_ne_nil _ _, fun name hname => ?_⟩
    rw [List.mem_singleton.mp hname]
    decide
  · rw [map_fst_customOrPlaceholder hlength hne]
    refine ⟨hne, fun name hname => ?_⟩
    obtain ⟨item, _, hitem⟩ := exists_of_mem_mapM htexts hname
    exact (customName_eq_ok hitem).2

theorem eq_of_customArguments {items : List Value} {values : Value} {names : List Text}
    {given : List Text × List Double} (h : customArguments (.list items) values = .ok given)
    (hitems : items.map Value.text? = names.map some) : given.1 = names := by
  obtain ⟨_, hlist, htexts, _⟩ := customArguments_eq_ok h
  cases hlist
  have hread := (map_text_of_customName htexts).symm.trans hitems
  exact List.map_injective_iff.mpr (Option.some_injective Text) hread

/-! ### Back to what was -/

theorem zip_customValues (h : Host) :
    h.customNames.zip h.customValues
      = h.customNames.map fun name => (name, .ofSingle (h.custom.wordAt name)) := by
  unfold customValues
  induction h.customNames with
  | nil => rfl
  | cons name rest ih => rw [List.map_cons, List.map_cons, List.zip_cons_cons, ih]

theorem map_fst_zip_customValues (h : Host) :
    (h.customNames.zip h.customValues).map (·.1) = h.customNames := by
  rw [zip_customValues, List.map_map]
  exact List.map_id h.customNames

/-- Of words put under names the last counts, and here all of a name are the same. -/
theorem overlaid_map (names : List Text) (value : Text → Double) (word : Text → UInt32)
    {name : Text} (hname : name ∈ names ∨ word name = (value name).toSingle) :
    overlaid word (names.map fun name => (name, value name)) name = (value name).toSingle := by
  induction names generalizing word with
  | nil => exact hname.resolve_left List.not_mem_nil
  | cons head rest ih =>
    -- the condition says that the name is still to come, or has its word
    refine ih (update word head (value head).toSingle) ?_
    by_cases heq : name = head
    · subst heq
      exact .inr (Function.update_self ..)
    · rw [Function.update_of_ne heq]
      exact hname.imp_left fun hmem => (List.mem_cons.mp hmem).resolve_left heq

/-- The names and values of one host, set in another, bring its custom uniforms there. -/
theorem setCustom_back {h given : Host} (hh : h.Tidy) (hgiven : given.Tidy) :
    given.setCustom (h.customNames.zip h.customValues)
      = { given with customNames := h.customNames, custom := h.custom } := by
  obtain ⟨word, hword, hcustom⟩ := hh.filled
  obtain ⟨old, _, hset⟩ := custom_setCustom hgiven (h.customNames.zip h.customValues)
  have hnames := map_fst_zip_customValues h
  -- each word comes back as it was, since it is settled
  have hblock : (given.setCustom (h.customNames.zip h.customValues)).custom = h.custom := by
    rw [hset, hnames, zip_customValues, hcustom]
    refine filled_congr fun name hname => ?_
    rw [overlaid_map _ _ _ (.inl hname), wordAt_filled hname]
    exact hword name
  calc given.setCustom (h.customNames.zip h.customValues)
      = { given with
          customNames := (h.customNames.zip h.customValues).map (·.1)
          custom := (given.setCustom (h.customNames.zip h.customValues)).custom } := rfl
    _ = { given with customNames := h.customNames, custom := h.custom } := by
        rw [hnames, hblock]

end ShaderPlayer.Host
