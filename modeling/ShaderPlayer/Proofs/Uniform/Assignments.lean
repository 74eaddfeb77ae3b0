/-
What assignments leave in a uniform block.

* `held_of_encode` — the element that an assigned value is read as;
* `storeValues_eq_ok_iff`, `set_eq_ok_iff` — an assignment that is accepted writes the words of the
  value over those of the field, and nothing else;
* `encode_given` — what was read can be assigned again, and has the same word;
* `Holding` — each field has the words of the value that was given for it last, or zeros;
* `Holding.set`, `holding_forM` — an assignment keeps this, and so do any number of them;
* `fields_hold` — so fields are read as they were assigned last, wherever they lie;
* `element_rounded_twice` — an integer in a field of floats is rounded twice.
-/
import ShaderPlayer.Proofs.Effect
import ShaderPlayer.Proofs.Number.Nearest
import ShaderPlayer.Proofs.Uniform.Layout

namespace ShaderPlayer

open Double (Settled)

/-! ### Elements -/

/-- A value that is assigned is read as an element: an integer as it is, and in a field of floats a
double, or the double nearest to an integer, as the nearest number of single precision. -/
inductive Held : Scalar → Value → Element → Prop
  | int {value : Value} {n : Int} (integer : value.integer? = some n) : Held .int value (.int n)
  | uint {value : Value} {n : Int} (integer : value.integer? = some n) : Held .uint value (.int n)
  | float {x : Double} {word : UInt32} (nearest : x.NearestSingle word) :
      Held .float (.float x) (.float word)
  | floatOfInt {value : Value} {n : Int} {x : Double} {word : UInt32}
      (integer : value.integer? = some n) (double : Double.NearestDouble n x)
      (nearest : x.NearestSingle word) : Held .float value (.float word)

namespace Element

/-- The number that the bytes of the element stand for. -/
def pattern : Element → Nat
  | float bits => bits.toNat
  | int n => (n % 0x100000000).toNat

/-- The value that the element is read as. -/
def given : Element → Value
  | float bits => .float (.ofSingle bits)
  | int n => .int n

/-- The element of a field that nothing was assigned to. -/
def zero : Scalar → Element
  | .float => .float 0
  | .int | .uint => .int 0

end Element

namespace UniformBlock

section Words

variable {scalar : Scalar} {value : Value} {word : UInt32}

theorem pattern_element (scalar : Scalar) (word : UInt32) :
    (element scalar word).pattern = word.toNat := by
  have hlt := word.toNat_lt
  cases scalar with
  | float => rfl
  | int =>
    show (signedWord word % 0x100000000).toNat = _
    unfold signedWord
    split <;> omega
  | uint =>
    show ((word.toNat : Int) % 0x100000000).toNat = _
    omega

theorem element_zero (scalar : Scalar) : element scalar 0 = .zero scalar := by
  cases scalar <;> rfl

/-- The word of an integer between bounds. -/
theorem integerWord_eq_ok_iff {low high : Int} :
    integerWord scalar low high value = .ok word
      ↔ ∃ n, value.integer? = some n ∧ low ≤ n ∧ n < high
          ∧ word.toNat = (n % 0x100000000).toNat := by
  unfold integerWord
  rcases value.integer? with _ | n
  · simp
  · have hfits : (n % 0x100000000).toNat < 2 ^ 32 := by omega
    have hword : UInt32.ofNat (n % 0x100000000).toNat = word
        ↔ word.toNat = (n % 0x100000000).toNat := by
      rw [← UInt32.toNat_inj, UInt32.toNat_ofNat', Nat.mod_eq_of_lt hfits, eq_comm]
    by_cases hrange : low ≤ n ∧ n < high
    · simp [hrange, hword]
    · rw [not_and] at hrange
      simp only [Option.some.injEq, exists_eq_left']
      rw [if_neg (not_and.mpr hrange)]
      exact ⟨fun h => (by cases h), fun h => absurd h.2.1 (hrange h.1)⟩

theorem signedWord_eq {n : Int} (hlow : -0x80000000 ≤ n) (hhigh : n < 0x80000000)
    (hword : word.toNat = (n % 0x100000000).toNat) : signedWord word = n := by
  unfold signedWord
  split <;> omega

theorem held_of_encode (h : encode scalar value = .ok word) :
    Held scalar value (element scalar word) := by
  cases scalar with
  | int =>
    obtain ⟨n, hn, hlow, hhigh, hword⟩ := integerWord_eq_ok_iff.mp h
    rw [element, signedWord_eq hlow hhigh hword]
    exact .int hn
  | uint =>
    obtain ⟨n, hn, hlow, hhigh, hword⟩ := integerWord_eq_ok_iff.mp h
    have heq : (word.toNat : Int) = n := by omega
    rw [element, heq]
    exact .uint hn
  | float =>
    unfold encode at h
    dsimp only at h
    split at h
    · cases h
      exact .float (Double.nearestSingle_toSingle _)
    · split at h
      · cases h
      · next n hn =>
        split at h
        · next x hx =>
          cases h
          exact .floatOfInt hn (Double.nearestDouble_of_ofInt hx) (Double.nearestSingle_toSingle x)
        · cases h

/-- The words of a field of floats come back when they are read as doubles. -/
theorem settled_of_encode (h : encode .float value = .ok word) : Settled word := by
  unfold encode at h
  dsimp only at h
  split at h
  · cases h
    exact Double.settled_toSingle _
  · split at h
    · cases h
    · split at h
      · cases h
        exact Double.settled_toSingle _
      · cases h

/-- What was read has the word that it was read from. -/
theorem encode_given (hsettled : scalar = .float → Settled word) :
    encode scalar (element scalar word).given = .ok word := by
  have hlt := word.toNat_lt
  cases scalar with
  | float => exact congrArg Except.ok (hsettled rfl)
  | int =>
    show integerWord .int (-0x80000000) 0x80000000 (.int (signedWord word)) = _
    refine integerWord_eq_ok_iff.mpr ⟨signedWord word, rfl, ?_⟩
    unfold signedWord
    split <;> omega
  | uint =>
    show integerWord .uint 0 0x100000000 (.int word.toNat) = _
    exact integerWord_eq_ok_iff.mpr ⟨word.toNat, rfl, by omega, by omega, by omega⟩

theorem isNumber_given (e : Element) : isNumber e.given = true := by
  cases e <;> rfl

end Words

/-! ### Assignments -/

/-- The words that a value becomes in a field: a number in a field of one element, and in any other
the first items of a list. -/
inductive Fills (scalar : Scalar) : Nat → Value → List UInt32 → Prop
  | one {value : Value} {word : UInt32} (number : isNumber value = true)
      (encoded : encode scalar value = .ok word) : Fills scalar 1 value [word]
  | many {count : Nat} {values : List Value} {words : List UInt32} (several : count ≠ 1)
      (enough : count ≤ values.length)
      (encoded : List.Forall₂ (fun value word => encode scalar value = .ok word)
        (values.take count) words) : Fills scalar count (.list values) words

/-- The elements that a field is read as after an assignment. -/
inductive Gives (scalar : Scalar) : Nat → Value → List Element → Prop
  | one {value : Value} {element : Element} (held : Held scalar value element) :
      Gives scalar 1 value [element]
  | many {count : Nat} {values : List Value} {elements : List Element} (several : count ≠ 1)
      (enough : count ≤ values.length)
      (held : List.Forall₂ (Held scalar) (values.take count) elements) :
      Gives scalar count (.list values) elements

section Fills

variable {scalar : Scalar} {count : Nat} {value : Value} {words : List UInt32}

theorem fills_one_iff : Fills scalar 1 value words
    ↔ isNumber value = true ∧ ∃ word, encode scalar value = .ok word ∧ words = [word] := by
  constructor
  · intro h
    cases h with
    | one number encoded => exact ⟨number, _, encoded, rfl⟩
    | many several => exact absurd rfl several
  · rintro ⟨number, word, encoded, rfl⟩
    exact .one number encoded

theorem fills_many_iff (several : count ≠ 1) : Fills scalar count value words
    ↔ ∃ values, value = .list values ∧ count ≤ values.length
        ∧ List.Forall₂ (fun value word => encode scalar value = .ok word)
            (values.take count) words := by
  constructor
  · intro h
    cases h with
    | one => exact absurd rfl several
    | many _ enough encoded => exact ⟨_, rfl, enough, encoded⟩
  · rintro ⟨values, rfl, enough, encoded⟩
    exact .many several enough encoded

theorem Fills.length_eq (h : Fills scalar count value words) : words.length = count := by
  cases h with
  | one => rfl
  | many _ enough encoded => rw [← encoded.length_eq, List.length_take_of_le enough]

theorem Fills.gives (h : Fills scalar count value words) :
    Gives scalar count value (words.map (element scalar)) := by
  cases h with
  | one _ encoded => exact .one (held_of_encode encoded)
  | many several enough encoded =>
    refine .many several enough ?_
    rw [List.forall₂_map_right_iff]
    exact encoded.imp fun _ _ => held_of_encode

theorem Fills.settled (h : Fills .float count value words) : ∀ word ∈ words, Settled word := by
  cases h with
  | one _ encoded =>
    intro word hword
    rw [List.mem_singleton.mp hword]
    exact settled_of_encode encoded
  | many _ _ encoded =>
    intro word hword
    obtain ⟨_, _, hencoded⟩ := exists_of_mem_forall₂ encoded hword
    exact settled_of_encode hencoded

end Fills

/-- The value that elements are read as: one by itself, any others as a list. -/
def given : List Element → Value
  | [e] => e.given
  | elements => .list (elements.map Element.given)

theorem fills_given {scalar : Scalar} {count : Nat} {words : List UInt32}
    (hlength : words.length = count) (hsettled : scalar = .float → ∀ word ∈ words, Settled word) :
    Fills scalar count (given (words.map (element scalar))) words := by
  by_cases hone : count = 1
  · obtain ⟨word, rfl⟩ := List.length_eq_one_iff.mp (hlength.trans hone)
    subst hone
    exact .one (isNumber_given _)
      (encode_given fun hscalar => hsettled hscalar word List.mem_cons_self)
  · -- none or several are read as a list
    have hgiven : given (words.map (element scalar))
        = .list (words.map fun word => (element scalar word).given) := by
      rcases words with _ | ⟨first, _ | ⟨second, rest⟩⟩
      · rfl
      · exact absurd hlength.symm hone
      · rw [given]
        · simp
        · simp
    have hlist : (words.map fun word => (element scalar word).given).length = count := by
      rw [List.length_map, hlength]
    rw [hgiven]
    refine .many hone (le_of_eq hlist.symm) ?_
    rw [List.take_of_length_le (le_of_eq hlist), List.forall₂_map_left_iff, List.forall₂_same]
    exact fun word hword => encode_given fun hscalar => hsettled hscalar word hword

/-! ### What an assignment does -/

section Set

variable {b b' : UniformBlock} {name : Text} {value : Value}

/-- The block with words written over its memory. -/
def overwrite (b : UniformBlock) (offset : Nat) (words : List UInt32) : UniformBlock :=
  { b with words := overwritten b.words offset words }

theorem overwrite_nil (offset : Nat) : b.overwrite offset [] = b := by
  simp [overwrite, overwritten]

theorem overwrite_cons {offset : Nat} {word : UInt32} (hroom : offset < b.words.length)
    (words : List UInt32) :
    b.overwrite offset (word :: words) = (b.store offset word).overwrite (offset + 1) words := by
  rw [overwrite, overwrite, overwritten_cons hroom]
  rfl

theorem overwrite_singleton {offset : Nat} (hroom : offset < b.words.length) (word : UInt32) :
    b.overwrite offset [word] = b.store offset word := by
  rw [overwrite_cons hroom, overwrite_nil]

theorem storeValue_eq_ok_iff {scalar : Scalar} {offset : Nat} :
    storeValue scalar offset value b = .ok () b'
      ↔ ∃ word, encode scalar value = .ok word ∧ b' = b.store offset word := by
  unfold storeValue
  rcases encode scalar value with fault | word
  · exact ⟨fun h => (by cases h), fun ⟨_, h, _⟩ => (by cases h)⟩
  · constructor
    · intro h
      cases h
      exact ⟨word, rfl, rfl⟩
    · rintro ⟨_, hword, rfl⟩
      cases hword
      rfl

/-- The first values of a list are written over as many words. -/
theorem storeValues_eq_ok_iff {short : Fault} {scalar : Scalar} {offset count : Nat}
    {values : List Value} (hroom : offset + count ≤ b.words.length) :
    storeValues short scalar offset count values b = .ok () b'
      ↔ count ≤ values.length ∧ ∃ words, b' = b.overwrite offset words
          ∧ List.Forall₂ (fun value word => encode scalar value = .ok word)
              (values.take count) words := by
  induction count generalizing offset values b with
  | zero =>
    have hrun : storeValues short scalar offset 0 values b = .ok () b := by
      cases values <;> rfl
    rw [hrun, List.take_zero]
    constructor
    · intro h
      cases h
      exact ⟨Nat.zero_le _, [], (overwrite_nil offset).symm, .nil⟩
    · rintro ⟨_, words, rfl, hwords⟩
      cases hwords
      rw [overwrite_nil]
  | succ count ih =>
    rcases values with _ | ⟨value, values⟩
    · exact ⟨fun h => (by cases h), fun h => absurd h.1 (Nat.not_succ_le_zero count)⟩
    · have hstart : offset < b.words.length := by omega
      have hnext (word : UInt32) (words : List UInt32) :
          b.overwrite offset (word :: words) = (b.store offset word).overwrite (offset + 1) words :=
        overwrite_cons hstart words
      have hrest (word : UInt32) : offset + 1 + count ≤ (b.store offset word).words.length := by
        rw [store, List.length_set]
        omega
      rw [storeValues, run_bind_eq_ok_iff, List.length_cons, Nat.add_le_add_iff_right,
        List.take_succ_cons]
      -- the first word is stored before the others, so these find it in the memory already
      constructor
      · rintro ⟨_, between, hfirst, h⟩
        obtain ⟨word, hword, rfl⟩ := storeValue_eq_ok_iff.mp hfirst
        obtain ⟨henough, words, rfl, hwords⟩ := (ih (hrest word)).mp h
        exact ⟨henough, word :: words, (hnext word words).symm, .cons hword hwords⟩
      · rintro ⟨henough, _, rfl, hwords⟩
        obtain ⟨word, words, hword, hothers, rfl⟩ := List.forall₂_cons_left_iff.mp hwords
        exact ⟨(), b.store offset word, storeValue_eq_ok_iff.mpr ⟨word, hword, rfl⟩,
          (ih (hrest word)).mpr ⟨henough, words, hnext word words, hothers⟩⟩

/-- An assignment is accepted exactly if the name has a field and the value fills it, and then it
writes the words of the value over those of the field. -/
theorem set_eq_ok_iff (hroom : ∀ f, b.field? name = some f → f.offset + f.count ≤ b.words.length) :
    set name value b = .ok () b'
      ↔ ∃ f words, b.field? name = some f ∧ Fills f.scalar f.count value words
          ∧ b' = b.overwrite f.offset words := by
  unfold set assign
  show (MonadExcept.ofExcept (b.field name) >>= _ : EStateM Fault UniformBlock Unit) b = _ ↔ _
  rcases hfield : b.field? name with _ | f
  · rw [run_ofExcept_bind_of_error (by rw [field, hfield])]
    exact ⟨fun h => (by cases h), fun ⟨_, _, h, _⟩ => (by cases h)⟩
  have hfits := hroom f hfield
  have hfound : (∃ g words, some f = some g ∧ Fills g.scalar g.count value words
        ∧ b' = b.overwrite g.offset words)
      ↔ ∃ words, Fills f.scalar f.count value words ∧ b' = b.overwrite f.offset words := by
    constructor
    · rintro ⟨_, words, hsame, h⟩
      cases hsame
      exact ⟨words, h⟩
    · exact fun ⟨words, h⟩ => ⟨f, words, rfl, h⟩
  rw [run_ofExcept_bind_of_ok (a := f) (by rw [field, hfield]), hfound]
  by_cases hone : f.count = 1
  · rw [if_pos hone]
    rw [hone] at hfits ⊢
    by_cases hnumber : isNumber value = true
    · rw [if_pos hnumber, storeValue_eq_ok_iff]
      constructor
      · rintro ⟨word, hword, rfl⟩
        exact ⟨[word], .one hnumber hword, (overwrite_singleton hfits word).symm⟩
      · rintro ⟨_, hfills, rfl⟩
        obtain ⟨_, word, hword, rfl⟩ := fills_one_iff.mp hfills
        exact ⟨word, hword, overwrite_singleton hfits word⟩
    · rw [if_neg hnumber]
      exact ⟨fun h => (by cases h),
        fun ⟨_, hfills, _⟩ => absurd (fills_one_iff.mp hfills).1 hnumber⟩
  · rw [if_neg hone]
    split
    · next values =>
      rw [storeValues_eq_ok_iff hfits]
      constructor
      · rintro ⟨henough, words, rfl, hwords⟩
        exact ⟨words, .many hone henough hwords, rfl⟩
      · rintro ⟨words, hfills, rfl⟩
        obtain ⟨_, hvalues, henough, hwords⟩ := (fills_many_iff hone).mp hfills
        cases hvalues
        exact ⟨henough, words, rfl, hwords⟩
    · next hother =>
      refine ⟨fun h => (by cases h), fun ⟨_, hfills, _⟩ => ?_⟩
      obtain ⟨values, hvalues, _⟩ := (fills_many_iff hone).mp hfills
      exact absurd hvalues (hother values)

end Set

/-! ### Any number of assignments -/

section Windows

variable {b : UniformBlock} {offset : Nat} {words : List UInt32} {f : UniformField}

theorem getElem_wordsOf (b : UniformBlock) (f : UniformField) (i : Nat) :
    (b.wordsOf f)[i]? = if i < f.count then b.words[f.offset + i]? else none := by
  rw [wordsOf, List.getElem?_take, List.getElem?_drop]

/-- A field has the words that are written over it. -/
theorem wordsOf_overwrite_same (hroom : f.offset + words.length ≤ b.words.length)
    (hcount : f.count = words.length) : (b.overwrite f.offset words).wordsOf f = words := by
  refine List.ext_getElem? fun i => ?_
  rw [getElem_wordsOf, overwrite, getElem_overwritten hroom, hcount]
  by_cases hi : i < words.length
  · rw [if_pos hi, if_pos (by omega), Nat.add_sub_cancel_left]
  · rw [if_neg hi, List.getElem?_eq_none (Nat.not_lt.mp hi)]

/-- And the words it had, if it lies before or behind. -/
theorem wordsOf_overwrite_apart (hroom : offset + words.length ≤ b.words.length)
    (hapart : f.offset + f.count ≤ offset ∨ offset + words.length ≤ f.offset) :
    (b.overwrite offset words).wordsOf f = b.wordsOf f := by
  refine List.ext_getElem? fun i => ?_
  rw [getElem_wordsOf, getElem_wordsOf, overwrite, getElem_overwritten hroom]
  by_cases hi : i < f.count
  · rw [if_pos hi, if_pos hi, if_neg (by omega)]
  · rw [if_neg hi, if_neg hi]

/-- What is there already may be written again. -/
theorem overwrite_wordsOf (hroom : f.offset + f.count ≤ b.words.length) :
    b.overwrite f.offset (b.wordsOf f) = b := by
  have hlength : (b.wordsOf f).length = f.count := by
    rw [wordsOf, List.length_take, List.length_drop]
    omega
  have hwords : overwritten b.words f.offset (b.wordsOf f) = b.words := by
    refine List.ext_getElem? fun i => ?_
    rw [getElem_overwritten (by omega), getElem_wordsOf]
    by_cases hi : f.offset ≤ i ∧ i < f.offset + (b.wordsOf f).length
    · rw [if_pos hi, if_pos (by omega), Nat.add_sub_cancel' hi.1]
    · rw [if_neg hi]
  rw [overwrite, hwords]

/-- The bytes before and behind what is written stay. -/
theorem getElem_bytes_overwrite (hroom : offset + words.length ≤ b.words.length) {i : Nat}
    (hi : i < 4 * offset ∨ 4 * (offset + words.length) ≤ i) :
    (b.overwrite offset words).bytes[i]? = b.bytes[i]? := by
  rw [bytes, bytes, getElem_bytes, getElem_bytes, overwrite, getElem_overwritten hroom,
    if_neg (by omega)]

end Windows

/-- The words of a field after the last assignment to it; zeros if there was none. -/
def Kept (d : Declared) (last : Option Value) (words : List UInt32) : Prop :=
  match last with
  | none => words = List.replicate d.count 0
  | some value => Fills d.scalar d.count value words

/-- A block of declared fields that keep what they were given last. -/
structure Holding (fields : List Declared) (last : Text → Option Value) (b : UniformBlock) : Prop where
  layout : b.fields = placed 0 fields
  length : b.words.length = paddedWords (total fields)
  kept : ∀ {before d after}, fields = before ++ d :: after →
    Kept d (last d.name) (b.wordsOf (d.at (total before)))

theorem holding_declared (fields : List Declared) :
    Holding fields (fun _ => none) (declared fields) := by
  rw [declared_eq]
  refine ⟨rfl, List.length_replicate, fun {before d after} hsplit => ?_⟩
  have hroom := le_paddedWords (total fields)
  rw [hsplit, total_append, total_cons] at hroom
  show List.take d.count (List.drop (total before) (List.replicate (paddedWords (total fields)) 0))
    = List.replicate d.count 0
  rw [List.drop_replicate, List.take_replicate, hsplit, total_append, total_cons]
  congr 1
  omega

namespace Holding

variable {fields before after : List Declared} {d : Declared} {last : Text → Option Value}
  {b b' : UniformBlock} {name : Text} {value : Value}

theorem room (h : Holding fields last b) (hsplit : fields = before ++ d :: after) :
    total before + d.count ≤ b.words.length := by
  have hpadded := le_paddedWords (total fields)
  rw [h.length]
  rw [hsplit, total_append, total_cons] at hpadded ⊢
  omega

/-- What an assignment to a declared field does. -/
theorem set_cases (h : Holding fields last b) (hset : set name value b = .ok () b') :
    ∃ before d after words, fields = before ++ d :: after ∧ d.name = name
      ∧ Fills d.scalar d.count value words ∧ b' = b.overwrite (total before) words := by
  have hdeclared : ∀ f, b.field? name = some f → ∃ before d after, fields = before ++ d :: after
      ∧ d.name = name ∧ f = d.at (total before) := by
    intro f hf
    have hname : f.name = name := by simpa using List.find?_some hf
    have hmem : f ∈ placed 0 fields := by
      rw [← h.layout]
      exact List.mem_reverse.mp (List.mem_of_find?_eq_some hf)
    obtain ⟨before, d, after, hsplit, rfl⟩ := exists_split_of_mem_placed hmem
    rw [Nat.zero_add] at hname ⊢
    exact ⟨before, d, after, hsplit, hname, rfl⟩
  have hroom : ∀ f, b.field? name = some f → f.offset + f.count ≤ b.words.length := by
    intro f hf
    obtain ⟨before, d, after, hsplit, _, rfl⟩ := hdeclared f hf
    exact h.room hsplit
  obtain ⟨f, words, hf, hfills, rfl⟩ := (set_eq_ok_iff hroom).mp hset
  obtain ⟨before, d, after, hsplit, hname, rfl⟩ := hdeclared f hf
  exact ⟨before, d, after, words, hsplit, hname, hfills, rfl⟩

/-- An assignment keeps the other fields as they are. -/
theorem set (hnames : (fields.map (·.name)).Nodup) (h : Holding fields last b)
    (hset : UniformBlock.set name value b = .ok () b') :
    Holding fields (Function.update last name (some value)) b' := by
  obtain ⟨before, d, after, words, hsplit, rfl, hfills, rfl⟩ := h.set_cases hset
  have hlength := hfills.length_eq
  have hroom : total before + words.length ≤ b.words.length := hlength ▸ h.room hsplit
  refine ⟨h.layout, (length_overwritten hroom).trans h.length, fun {before' d' after'} hsplit' => ?_⟩
  by_cases hname : d'.name = d.name
  · have hsame := at_eq_of_name hnames hsplit' hsplit hname
    have hwords : (b.overwrite (total before) words).wordsOf (d.at (total before)) = words :=
      wordsOf_overwrite_same hroom hlength.symm
    have hscalar : d'.scalar = d.scalar := congrArg UniformField.scalar hsame
    have hcount : d'.count = d.count := congrArg UniformField.count hsame
    rw [hname, Function.update_self, hsame, hwords]
    show Fills d'.scalar d'.count value words
    rw [hscalar, hcount]
    exact hfills
  · -- another field lies before or behind what is written
    have hapart := apart_of_split hsplit hsplit' (Ne.symm hname)
    rw [Function.update_of_ne hname, wordsOf_overwrite_apart hroom]
    · exact h.kept hsplit'
    · show total before' + d'.count ≤ _ ∨ _ ≤ total before'
      rw [hlength]
      exact hapart.symm

end Holding

section Runs

variable {fields before after : List Declared} {d : Declared} {last : Text → Option Value}
  {b b' : UniformBlock}

/-- After any number of assignments each field has what the last of them to its name gave. -/
theorem holding_forM (hnames : (fields.map (·.name)).Nodup) {steps : List (Text × Value)}
    (h : Holding fields last b)
    (hrun : (steps.forM fun step => set step.1 step.2) b = .ok () b') :
    Holding fields (fun name => (steps.reverse.lookup name).or (last name)) b' := by
  induction steps generalizing last b with
  | nil =>
    cases hrun
    exact h
  | cons step rest ih =>
    rw [List.forM_eq_forM, List.forM_cons, run_bind_eq_ok_iff] at hrun
    obtain ⟨_, between, hstep, hrest⟩ := hrun
    -- the first assignment is the earliest, so it counts only where no other has its name
    have hholding := ih (h.set hnames hstep) hrest
    have hlast : (fun name => (rest.reverse.lookup name).or
          (Function.update last step.1 (some step.2) name))
        = fun name => ((step :: rest).reverse.lookup name).or (last name) := by
      funext name
      rw [List.reverse_cons, List.lookup_append, Option.or_assoc]
      congr 1
      by_cases hname : name = step.1
      · subst hname
        rw [Function.update_self, show [step] = [(step.1, step.2)] from rfl, List.lookup_cons_self,
          Option.some_or]
      · have hbeq : (name == step.1) = false := beq_eq_false_iff_ne.mpr hname
        rw [Function.update_of_ne hname, show [step] = [(step.1, step.2)] from rfl, List.lookup_cons,
          hbeq]
        rfl
    rwa [hlast] at hholding

/-- The elements that a field is read as, if `last` was assigned to it last. -/
def Shows (d : Declared) (last : Option Value) (elements : List Element) : Prop :=
  match last with
  | none => elements = List.replicate d.count (.zero d.scalar)
  | some value => Gives d.scalar d.count value elements

theorem Kept.shows {last : Option Value} {words : List UInt32} (h : Kept d last words) :
    Shows d last (words.map (element d.scalar)) := by
  cases last with
  | none =>
    rw [show words = List.replicate d.count 0 from h, List.map_replicate, element_zero]
    rfl
  | some value => exact Fills.gives h

theorem Kept.settled {last : Option Value} {words : List UInt32} (h : Kept d last words)
    (hscalar : d.scalar = .float) : ∀ word ∈ words, Settled word := by
  cases last with
  | none =>
    intro word hword
    rw [show words = List.replicate d.count 0 from h] at hword
    rw [List.eq_of_mem_replicate hword]
    exact Double.settled_zero
  | some value =>
    have hfills : Fills d.scalar d.count value words := h
    rw [hscalar] at hfills
    exact hfills.settled

namespace Holding

theorem field_eq (h : Holding fields last b) (hnames : (fields.map (·.name)).Nodup)
    (hsplit : fields = before ++ d :: after) :
    b.field d.name = .ok (d.at (total before)) := by
  rw [field, field_placed hnames hsplit h.layout]

/-- A field is read as what it keeps. -/
theorem read_eq (h : Holding fields last b) (hnames : (fields.map (·.name)).Nodup)
    (hsplit : fields = before ++ d :: after) :
    b.read d.name = .ok ((b.wordsOf (d.at (total before))).map (element d.scalar)) := by
  rw [read, h.field_eq hnames hsplit]
  rfl

theorem length_wordsOf (h : Holding fields last b) (hsplit : fields = before ++ d :: after) :
    (b.wordsOf (d.at (total before))).length = d.count := by
  have hroom := h.room hsplit
  show (List.take d.count (List.drop (total before) b.words)).length = d.count
  rw [List.length_take, List.length_drop]
  omega

/-- What was read may be assigned again. -/
theorem set_given (h : Holding fields last b) (hnames : (fields.map (·.name)).Nodup)
    (hsplit : fields = before ++ d :: after) :
    UniformBlock.set d.name (given ((b.wordsOf (d.at (total before))).map (element d.scalar))) b
      = .ok () b := by
  have hfield := field_placed hnames hsplit h.layout
  have hroom : ∀ f, b.field? d.name = some f → f.offset + f.count ≤ b.words.length := by
    intro f hf
    obtain rfl := Option.some.inj (hfield.symm.trans hf)
    exact h.room hsplit
  refine (set_eq_ok_iff hroom).mpr ⟨_, _, hfield, ?_, (overwrite_wordsOf (hroom _ hfield)).symm⟩
  exact fills_given (h.length_wordsOf hsplit) (h.kept hsplit).settled

/-- An assignment changes no byte before or behind its field. -/
theorem getElem_bytes_set (h : Holding fields last b) (hnames : (fields.map (·.name)).Nodup)
    (hsplit : fields = before ++ d :: after) {value : Value}
    (hset : UniformBlock.set d.name value b = .ok () b') {i : Nat}
    (hi : i < 4 * total before ∨ 4 * (total before + d.count) ≤ i) :
    b'.bytes[i]? = b.bytes[i]? := by
  obtain ⟨before', d', after', words, hsplit', hname, hfills, rfl⟩ := h.set_cases hset
  have hsame := at_eq_of_name hnames hsplit hsplit' hname.symm
  have hoffset : total before = total before' := congrArg UniformField.offset hsame
  have hcount : d.count = d'.count := congrArg UniformField.count hsame
  have hlength := hfills.length_eq
  rw [hoffset, hcount] at hi
  exact getElem_bytes_overwrite (hlength ▸ h.room hsplit') (hlength.symm ▸ hi)

end Holding

end Runs

/-- Fields with different names lie one after the other in as little memory as the groups of sixteen
bytes allow, and after any assignments that are accepted each of them is read as what was assigned to
it last, and as zeros if nothing was.  What is read stands in the memory, the lowest byte first, and
may be assigned again, which changes nothing; and no assignment changes a byte outside its field. -/
theorem fields_hold (fields : List Declared) (hnames : (fields.map (·.name)).Nodup) :
    IsLeast {size | 16 ∣ size ∧ max 16 (4 * total fields) ≤ size} (declared fields).size
      ∧ ∀ (steps : List (Text × Value)) (b : UniformBlock),
        (steps.forM fun step => set step.1 step.2) (declared fields) = .ok () b →
        b.bytes.length = (declared fields).size
          ∧ ∀ before d after, fields = before ++ d :: after →
            b.field? d.name = some (d.at (total before))
            ∧ (∃ elements, b.read d.name = .ok elements ∧ elements.length = d.count
              ∧ Shows d (steps.reverse.lookup d.name) elements
              ∧ (∀ (j : Nat) (e : Element), elements[j]? = some e →
                wordFrom? b.bytes (4 * (total before + j)) = some e.pattern)
              ∧ set d.name (given elements) b = .ok () b)
            ∧ ∀ value b', set d.name value b = .ok () b' →
              ∀ i, i < 4 * total before ∨ 4 * (total before + d.count) ≤ i →
                b'.bytes[i]? = b.bytes[i]? := by
  refine ⟨isLeast_size fields, fun steps b hrun => ?_⟩
  have h : Holding fields (fun name => (steps.reverse.lookup name).or none) b :=
    holding_forM hnames (holding_declared fields) hrun
  constructor
  · rw [bytes, length_flatMap_littleEndian, h.length, declared_eq, size, List.length_replicate]
  intro before d after hsplit
  refine ⟨field_placed hnames hsplit h.layout, ⟨_, h.read_eq hnames hsplit, ?_, ?_, ?_,
    h.set_given hnames hsplit⟩, fun value b' hset i hi => h.getElem_bytes_set hnames hsplit hset hi⟩
  · rw [List.length_map, h.length_wordsOf hsplit]
  · have hshows := (h.kept hsplit).shows
    rwa [Option.or_none] at hshows
  · intro j e he
    rw [List.getElem?_map] at he
    obtain ⟨word, hword, rfl⟩ := Option.map_eq_some_iff.mp he
    rw [pattern_element]
    refine wordFrom_flatMap ?_
    rw [getElem_wordsOf] at hword
    split at hword
    · exact hword
    · cases hword

/-- A float, two integers and an integer without a sign. -/
def mixedFields : List Declared :=
  [⟨"a".toList, .float, 1, by decide⟩, ⟨"b".toList, .int, 2, by decide⟩,
    ⟨"c".toList, .uint, 1, by decide⟩]

/-- Assignments to two of them, to the integers a second time. -/
def mixedSteps : List (Text × Value) :=
  [("b".toList, .list [.int 5, .int 6]), ("a".toList, .int 16777217),
    ("b".toList, .list [.int (-2147483648), .bool true, .int 0])]

theorem fields_hold_mixed : ∃ b elements,
    (mixedSteps.forM fun step => set step.1 step.2) (declared mixedFields) = .ok () b
      ∧ b.read "b".toList = .ok elements
      ∧ Gives .int 2 (.list [.int (-2147483648), .bool true, .int 0]) elements
      ∧ set "b".toList (given elements) b = .ok () b := by
  have hends : (match (mixedSteps.forM fun step => set step.1 step.2) (declared mixedFields) with
      | .ok _ _ => true
      | .error _ _ => false) = true := by decide +kernel
  rcases hrun : (mixedSteps.forM fun step => set step.1 step.2) (declared mixedFields)
    with ⟨_, b⟩ | ⟨_, _⟩
  · obtain ⟨_, hfields⟩ := fields_hold mixedFields (by decide)
    obtain ⟨_, hheld⟩ := hfields mixedSteps b hrun
    obtain ⟨_, ⟨elements, hread, _, hshows, _, hset⟩, _⟩ :=
      hheld [mixedFields[0]] mixedFields[1] [mixedFields[2]] rfl
    exact ⟨b, elements, rfl, hread, hshows, hset⟩
  · rw [hrun] at hends
    cases hends

/-- The element of an integer in a field of floats is not always the nearest number of single
precision: the double nearest to the integer may lie in the middle between two of these. -/
theorem element_rounded_twice :
    ∃ b word, set "a".toList (.int 1152921573326323713)
        (declared [⟨"a".toList, .float, 1, Nat.one_pos⟩]) = .ok () b
      ∧ b.read "a".toList = .ok [.float word]
      ∧ ¬ Format.single.Nearest (1152921573326323713 : Int) word.toNat := by
  have hencode : encode .float (.int 1152921573326323713) = .ok 0x5d800000 := by decide +kernel
  refine ⟨_, 0x5d800000, (set_eq_ok_iff ?_).mpr
    ⟨⟨"a".toList, .float, 0, 1⟩, [0x5d800000], by decide, .one rfl hencode, rfl⟩, rfl, fun h => ?_⟩
  · intro f hf
    obtain rfl : f = ⟨"a".toList, .float, 0, 1⟩ := Option.some.inj (hf.symm.trans (by decide))
    decide
  · -- the next bits are nearer
    have hcloser := h.nearest 0x5d800001 (by decide)
    revert hcloser
    decide +kernel

end UniformBlock

end ShaderPlayer
