/-
What a refused assignment leaves in a uniform block.

The elements of a list are stored one after the other, straight into the memory.  One that is refused
ends this, and those before it are there already.

* `Breaks`, `Refuses` — how a list, and a field, refuses a value: the words that were stored before,
  and the fault;
* `storeValues_eq_error_iff`, `assign_eq_error_iff` — assignments are refused exactly in these ways,
  and what they leave is the memory with these words written over it;
* `overwrite_eq_self_iff` — which is the memory from before exactly if it had these words already;
* `room_of_make` — every block has room for its fields, however they were declared.
-/
import ShaderPlayer.Proofs.Uniform.Assignments

namespace ShaderPlayer.UniformBlock

/-! ### Refusals -/

/-- How so many elements refuse a list: the words of the values before the one that is refused, and
the fault.  The fault `short` is that of a list that ends before. -/
inductive Breaks (short : Fault) (scalar : Scalar) : Nat → List Value → List UInt32 → Fault → Prop
  | few {count : Nat} : Breaks short scalar (count + 1) [] [] short
  | refused {count : Nat} {value : Value} {values : List Value} {fault : Fault}
      (refused : encode scalar value = .error fault) :
      Breaks short scalar (count + 1) (value :: values) [] fault
  | later {count : Nat} {value : Value} {word : UInt32} {values : List Value} {words : List UInt32}
      {fault : Fault} (stored : encode scalar value = .ok word)
      (breaks : Breaks short scalar count values words fault) :
      Breaks short scalar (count + 1) (value :: values) (word :: words) fault

/-- How a field of so many elements refuses a value: the words that were stored before, and the
fault. -/
inductive Refuses (short : Fault) (scalar : Scalar) : Nat → Value → List UInt32 → Fault → Prop
  /-- One element takes numbers only. -/
  | noNumber {value : Value} (other : isNumber value = false) :
      Refuses short scalar 1 value [] .assertion
  /-- Any other count takes lists only. -/
  | noList {count : Nat} {value : Value} (several : count ≠ 1)
      (other : ∀ values, value ≠ .list values) : Refuses short scalar count value [] .assertion
  | number {value : Value} {fault : Fault} (number : isNumber value = true)
      (refused : encode scalar value = .error fault) : Refuses short scalar 1 value [] fault
  | list {count : Nat} {values : List Value} {words : List UInt32} {fault : Fault}
      (several : count ≠ 1) (breaks : Breaks short scalar count values words fault) :
      Refuses short scalar count (.list values) words fault

section Refusals

variable {short fault : Fault} {scalar : Scalar} {count : Nat} {value : Value}
  {values : List Value} {words : List UInt32}

/-- The refused element is one of those that the field has. -/
theorem Breaks.length_lt (h : Breaks short scalar count values words fault) :
    words.length < count := by
  induction h with
  | few | refused => exact Nat.succ_pos _
  | later _ _ ih => exact Nat.succ_lt_succ ih

theorem Refuses.length_le (h : Refuses short scalar count value words fault) :
    words.length ≤ count := by
  cases h with
  | noNumber | noList | number => exact Nat.zero_le _
  | list _ breaks => exact le_of_lt breaks.length_lt

theorem refuses_one_iff : Refuses short scalar 1 value words fault
    ↔ words = [] ∧ ((isNumber value = false ∧ fault = .assertion)
      ∨ (isNumber value = true ∧ encode scalar value = .error fault)) := by
  constructor
  · intro h
    cases h with
    | noNumber other => exact ⟨rfl, .inl ⟨other, rfl⟩⟩
    | number number refused => exact ⟨rfl, .inr ⟨number, refused⟩⟩
    | noList several | list several => exact absurd rfl several
  · rintro ⟨rfl, ⟨other, rfl⟩ | ⟨number, refused⟩⟩
    · exact .noNumber other
    · exact .number number refused

theorem refuses_several_iff (several : count ≠ 1) : Refuses short scalar count value words fault
    ↔ (words = [] ∧ fault = .assertion ∧ ∀ values, value ≠ .list values)
      ∨ ∃ values, value = .list values ∧ Breaks short scalar count values words fault := by
  constructor
  · intro h
    cases h with
    | noNumber | number => exact absurd rfl several
    | noList _ other => exact .inl ⟨rfl, rfl, other⟩
    | list _ breaks => exact .inr ⟨_, rfl, breaks⟩
  · rintro (⟨rfl, rfl, other⟩ | ⟨values, rfl, breaks⟩)
    · exact .noList several other
    · exact .list several breaks

end Refusals

/-! ### What is left -/

section Left

variable {b b' : UniformBlock} {short fault : Fault} {name : Text} {value : Value}

theorem storeValue_eq_error_iff {scalar : Scalar} {offset : Nat} :
    storeValue scalar offset value b = .error fault b'
      ↔ encode scalar value = .error fault ∧ b' = b := by
  unfold storeValue
  rcases encode scalar value with refused | word
  · constructor
    · intro h
      cases h
      exact ⟨rfl, rfl⟩
    · rintro ⟨h, rfl⟩
      cases h
      rfl
  · exact ⟨fun h => (by cases h), fun h => (by cases h.1)⟩

/-- A list that is refused leaves the words of the values before the refused one. -/
theorem storeValues_eq_error_iff {scalar : Scalar} {offset count : Nat} {values : List Value}
    (hroom : offset + count ≤ b.words.length) :
    storeValues short scalar offset count values b = .error fault b'
      ↔ ∃ words, Breaks short scalar count values words fault ∧ b' = b.overwrite offset words := by
  induction count generalizing offset values b with
  | zero =>
    -- no element is left to refuse
    have hrun : storeValues short scalar offset 0 values b = .ok () b := by
      cases values <;> rfl
    rw [hrun]
    exact ⟨fun h => (by cases h), fun ⟨_, h, _⟩ => (by cases h)⟩
  | succ count ih =>
    rcases values with _ | ⟨value, values⟩
    · constructor
      · intro h
        cases h
        exact ⟨[], .few, (overwrite_nil offset).symm⟩
      · rintro ⟨_, h, rfl⟩
        cases h
        rw [overwrite_nil]
        rfl
    · rw [storeValues]
      rcases hencode : encode scalar value with refused | word
      · -- the first value is refused, and nothing was stored before it
        rw [run_bind_of_error (storeValue_eq_error_iff.mpr ⟨hencode, rfl⟩)]
        constructor
        · intro h
          cases h
          exact ⟨[], .refused hencode, (overwrite_nil offset).symm⟩
        · rintro ⟨_, h, rfl⟩
          cases h with
          | refused h =>
            cases hencode.symm.trans h
            rw [overwrite_nil]
          | later h => cases hencode.symm.trans h
      · have hstart : offset < b.words.length := by omega
        have hrest : offset + 1 + count ≤ (b.store offset word).words.length := by
          rw [store, List.length_set]
          omega
        rw [run_bind_of_ok (storeValue_eq_ok_iff.mpr ⟨word, hencode, rfl⟩), ih hrest]
        constructor
        · rintro ⟨words, h, rfl⟩
          exact ⟨word :: words, .later hencode h, (overwrite_cons hstart words).symm⟩
        · rintro ⟨_, h, rfl⟩
          cases h with
          | refused h => cases hencode.symm.trans h
          | later h hbreaks =>
            cases hencode.symm.trans h
            exact ⟨_, hbreaks, overwrite_cons hstart _⟩

/-- An assignment is refused exactly if the name has no field, or its field refuses the value; then it
leaves the words that were stored before. -/
theorem assign_eq_error_iff
    (hroom : ∀ f, b.field? name = some f → f.offset + f.count ≤ b.words.length) :
    assign short name value b = .error fault b'
      ↔ (b.field? name = none ∧ fault = .unknownKey name ∧ b' = b)
        ∨ ∃ f words, b.field? name = some f ∧ Refuses short f.scalar f.count value words fault
          ∧ b' = b.overwrite f.offset words := by
  unfold assign
  show (MonadExcept.ofExcept (b.field name) >>= _ : EStateM Fault UniformBlock Unit) b = _ ↔ _
  rcases hfield : b.field? name with _ | f
  · rw [run_ofExcept_bind_of_error (by rw [field, hfield])]
    constructor
    · intro h
      cases h
      exact .inl ⟨rfl, rfl, rfl⟩
    · rintro (⟨_, rfl, rfl⟩ | ⟨_, _, h, _⟩)
      · rfl
      · cases h
  have hfits := hroom f hfield
  have hfound : ((some f = none ∧ fault = .unknownKey name ∧ b' = b)
        ∨ ∃ g words, some f = some g ∧ Refuses short g.scalar g.count value words fault
          ∧ b' = b.overwrite g.offset words)
      ↔ ∃ words, Refuses short f.scalar f.count value words fault
          ∧ b' = b.overwrite f.offset words := by
    constructor
    · rintro (⟨h, _⟩ | ⟨_, words, hsame, h⟩)
      · cases h
      · cases hsame
        exact ⟨words, h⟩
    · rintro ⟨words, h⟩
      exact .inr ⟨f, words, rfl, h⟩
  rw [run_ofExcept_bind_of_ok (a := f) (by rw [field, hfield]), hfound]
  by_cases hone : f.count = 1
  · rw [if_pos hone, hone]
    simp only [refuses_one_iff]
    by_cases hnumber : isNumber value = true
    · rw [if_pos hnumber, storeValue_eq_error_iff]
      constructor
      · rintro ⟨hrefused, rfl⟩
        exact ⟨[], ⟨rfl, .inr ⟨hnumber, hrefused⟩⟩, (overwrite_nil _).symm⟩
      · rintro ⟨_, ⟨rfl, ⟨other, _⟩ | ⟨_, hrefused⟩⟩, rfl⟩
        · exact absurd hnumber (Bool.eq_false_iff.mp other)
        · exact ⟨hrefused, overwrite_nil _⟩
    · rw [if_neg hnumber]
      constructor
      · intro h
        cases h
        exact ⟨[], ⟨rfl, .inl ⟨Bool.eq_false_iff.mpr hnumber, rfl⟩⟩, (overwrite_nil _).symm⟩
      · rintro ⟨_, ⟨rfl, ⟨_, rfl⟩ | ⟨number, _⟩⟩, rfl⟩
        · rw [overwrite_nil]
          rfl
        · exact absurd number hnumber
  · rw [if_neg hone]
    simp only [refuses_several_iff hone]
    split
    · next values =>
      rw [storeValues_eq_error_iff hfits]
      constructor
      · rintro ⟨words, hbreaks, rfl⟩
        exact ⟨words, .inr ⟨values, rfl, hbreaks⟩, rfl⟩
      · rintro ⟨words, ⟨_, _, other⟩ | ⟨_, hvalues, hbreaks⟩, rfl⟩
        · exact absurd rfl (other values)
        · cases hvalues
          exact ⟨words, hbreaks, rfl⟩
    · next hother =>
      constructor
      · intro h
        cases h
        exact ⟨[], .inl ⟨rfl, rfl, hother⟩, (overwrite_nil _).symm⟩
      · rintro ⟨_, ⟨rfl, rfl, _⟩ | ⟨values, hvalues, _⟩, rfl⟩
        · rw [overwrite_nil]
          rfl
        · exact absurd hvalues (hother values)

/-- What is written over a field changes nothing exactly if the field begins with it. -/
theorem overwrite_eq_self_iff {f : UniformField} {words : List UInt32}
    (hroom : f.offset + f.count ≤ b.words.length) (hlength : words.length ≤ f.count) :
    b.overwrite f.offset words = b ↔ words <+: b.wordsOf f := by
  have hfits : f.offset + words.length ≤ b.words.length := by omega
  constructor
  · intro h
    have hwords : overwritten b.words f.offset words = b.words := congrArg UniformBlock.words h
    rw [List.prefix_iff_getElem?]
    intro i hi
    have hget := getElem_overwritten hfits (f.offset + i)
    rw [hwords, if_pos (by omega), Nat.add_sub_cancel_left] at hget
    rw [getElem_wordsOf, if_pos (by omega), hget, List.getElem?_eq_getElem hi]
  · intro h
    have hsame : overwritten b.words f.offset words = b.words := by
      refine List.ext_getElem? fun i => ?_
      rw [getElem_overwritten hfits]
      split
      · next hi =>
        have hget := List.prefix_iff_getElem?.mp h (i - f.offset) (by omega)
        rw [getElem_wordsOf, if_pos (by omega), Nat.add_sub_cancel' hi.1] at hget
        rw [hget, List.getElem?_eq_getElem]
      · rfl
    rw [overwrite, hsame]

end Left

/-! ### Blocks as they are made -/

theorem room_of_place {size : Nat} {offset : Int} {fields : List (Text × Scalar × Int)}
    {f : UniformField} (hf : f ∈ place size offset fields) : f.offset + f.count ≤ size := by
  induction fields generalizing offset with
  | nil => exact absurd hf List.not_mem_nil
  | cons field rest ih =>
    obtain ⟨name, scalar, count⟩ := field
    rcases List.mem_cons.mp hf with rfl | hf
    · have hstart := inside_le size offset
      have hend := inside_le size (offset + count)
      dsimp only
      omega
    · exact ih hf

/-- Two blocks have the same fields, in memories of one size. -/
structure Alike (b other : UniformBlock) : Prop where
  fields : b.fields = other.fields
  length : b.words.length = other.words.length

theorem Alike.field?_eq {b other : UniformBlock} (h : Alike b other) (name : Text) :
    b.field? name = other.field? name := by
  rw [field?, field?, h.fields]

/-- A block has room for its fields, also for those that were declared to go back. -/
theorem room_of_make {fields : List (Text × Scalar × Int)} {b : UniformBlock}
    (hb : Alike b (make fields)) {name : Text} {f : UniformField} (hf : b.field? name = some f) :
    f.offset + f.count ≤ b.words.length := by
  have hmem : f ∈ (make fields).fields := by
    rw [hb.field?_eq] at hf
    exact List.mem_reverse.mp (List.mem_of_find?_eq_some hf)
  rw [hb.length, make, List.length_replicate]
  exact room_of_place hmem

/-- An assignment that is refused, to any block in any state: what it leaves, and when that is what
was there before. -/
theorem assign_refused {fields : List (Text × Scalar × Int)} {b after : UniformBlock}
    (hb : Alike b (make fields)) {short fault : Fault} {name : Text} {value : Value}
    (h : assign short name value b = .error fault after) :
    (b.field? name = none ∧ after = b)
      ∨ ∃ f words, b.field? name = some f ∧ Refuses short f.scalar f.count value words fault
        ∧ after = b.overwrite f.offset words ∧ (after = b ↔ words <+: b.wordsOf f) := by
  rcases (assign_eq_error_iff fun f => room_of_make hb).mp h with
    ⟨hnone, _, rfl⟩ | ⟨f, words, hfield, hrefuses, rfl⟩
  · exact .inl ⟨hnone, rfl⟩
  · exact .inr ⟨f, words, hfield, hrefuses, rfl,
      overwrite_eq_self_iff (room_of_make hb hfield) hrefuses.length_le⟩

end ShaderPlayer.UniformBlock
