/-
The integer literals of directives.

A literal is a decimal or hexadecimal numeral below 2^32, with or without a suffix.  `Numeral` says
which digits denote which number, and reading a text gives exactly what it denotes:

* `readU32_eq_value_iff` — a text is read as a number if it is a literal of it, blanks aside;
* `U32Literal.unique` — a literal denotes one number;
* `joined_iff` — two literals side by side are a literal again, of another number, unless the first
  has a suffix, the second is hexadecimal, or their digits are too many.
-/
import ShaderPlayer.Proofs.Shader.Overlong
import ShaderPlayer.Proofs.Text.Numerals

namespace ShaderPlayer.Shader

open Text (isBlank hexDigit? mapM_hexDigit isSome_of_mapM_hexDigit)

/-! ### Numerals -/

/-- Digits that denote a number, by the value of their places.  A decimal numeral is read up to a
length only. -/
inductive Numeral : Text → Nat → Prop
  | decimal {digits : Text} (hne : digits ≠ []) (hdigits : ∀ c ∈ digits, c.isDigit)
      (hread : digits.length ≤ maxDigits) : Numeral digits (Text.decimalValue digits)
  | hexadecimal {x : Char} {digits : Text} (hx : x = 'x' ∨ x = 'X') (hne : digits ≠ [])
      (hdigits : ∀ c ∈ digits, (hexDigit? c).isSome) :
      Numeral ('0' :: x :: digits) (Text.positional 16 (digits.filterMap hexDigit?))

/-- A numeral below 2^32, with or without a suffix. -/
def U32Literal (t : Text) (n : Nat) : Prop :=
  n < 0x100000000 ∧ ∃ digits, (t = digits ∨ t = digits ++ ['u']) ∧ Numeral digits n

theorem ofNat_eq_value_iff {m n : Nat} :
    U32Reading.ofNat m = .value n ↔ n < 0x100000000 ∧ m = n := by
  unfold U32Reading.ofNat
  split
  · next hfits =>
    constructor
    · rintro ⟨⟩
      exact ⟨hfits, rfl⟩
    · rintro ⟨_, rfl⟩
      rfl
  · next hlarge =>
    constructor
    · rintro ⟨⟩
    · rintro ⟨hfits, rfl⟩
      exact absurd hfits hlarge

theorem readDecimal_eq_value_iff {t : Text} {n : Nat} :
    readDigits.readDecimal t = .value n
      ↔ n < 0x100000000 ∧ (t ≠ [] ∧ (∀ c ∈ t, c.isDigit) ∧ t.length ≤ maxDigits)
        ∧ Text.decimalValue t = n := by
  rw [readDigits.readDecimal, ← List.all_eq_true]
  split
  · next h =>
    constructor
    · rintro ⟨⟩
    · rintro ⟨_, ⟨hne, hall, _⟩, _⟩
      rw [hall, Bool.not_true, Bool.or_false, List.isEmpty_iff] at h
      exact absurd h hne
  · next h =>
    rw [Bool.or_eq_true, not_or, List.isEmpty_iff, Bool.not_eq_true', Bool.not_eq_false] at h
    split
    · next hlong =>
      constructor
      · rintro ⟨⟩
      · rintro ⟨_, ⟨_, _, hread⟩, _⟩
        exact absurd hread (Nat.not_le.mpr hlong)
    · next hread =>
      rw [ofNat_eq_value_iff]
      constructor
      · rintro ⟨hfits, hvalue⟩
        exact ⟨hfits, ⟨h.1, h.2, Nat.not_lt.mp hread⟩, hvalue⟩
      · rintro ⟨hfits, _, hvalue⟩
        exact ⟨hfits, hvalue⟩

/-- Digits are read as the number that they denote, if that fits. -/
theorem readDigits_eq_value_iff {t : Text} {n : Nat} :
    readDigits t = .value n ↔ n < 0x100000000 ∧ Numeral t n := by
  -- a text without the sign of a hexadecimal numeral is read as decimal in either branch
  have hdecimal : readDigits.readDecimal t = .value n →
      n < 0x100000000 ∧ Numeral t n := by
    intro h
    obtain ⟨hfits, ⟨hne, hdigits, hread⟩, rfl⟩ := readDecimal_eq_value_iff.mp h
    exact ⟨hfits, .decimal hne hdigits hread⟩
  constructor
  · intro h
    rw [readDigits.eq_def] at h
    split at h
    · next x digits =>
      split at h
      · next hx =>
        split at h
        · next d ds hmap =>
          obtain ⟨hfits, rfl⟩ := ofNat_eq_value_iff.mp h
          have hdigits := isSome_of_mapM_hexDigit hmap
          rw [mapM_hexDigit hdigits] at hmap
          have hne : digits ≠ [] := by
            rintro rfl
            cases hmap
          rw [← Option.some.inj hmap]
          rw [← Option.some.inj hmap] at hfits
          exact ⟨hfits, .hexadecimal hx hne hdigits⟩
        · cases h
      · exact hdecimal h
    · exact hdecimal h
  · rintro ⟨hfits, hnumeral⟩
    cases hnumeral with
    | decimal hne hdigits hread =>
      have hvalue : readDigits.readDecimal t = .value (Text.decimalValue t) :=
        readDecimal_eq_value_iff.mpr ⟨hfits, ⟨hne, hdigits, hread⟩, rfl⟩
      rw [readDigits.eq_def]
      split
      · next x digits =>
        -- the sign of a hexadecimal numeral is no digit
        rw [if_neg, hvalue]
        have hdigit := hdigits x (List.mem_cons_of_mem _ List.mem_cons_self)
        rintro (rfl | rfl) <;> exact absurd hdigit (by decide)
      · exact hvalue
    | @hexadecimal x digits hx hne hdigits =>
      have hvalues : digits.filterMap hexDigit? ≠ [] := by
        obtain ⟨c, rest, rfl⟩ := List.exists_cons_of_ne_nil hne
        obtain ⟨d, hd⟩ := Option.isSome_iff_exists.mp (hdigits c List.mem_cons_self)
        rw [List.filterMap_cons_some hd]
        exact List.cons_ne_nil d _
      obtain ⟨d, ds, hcons⟩ := List.exists_cons_of_ne_nil hvalues
      rw [readDigits, if_pos hx, mapM_hexDigit hdigits, hcons]
      rw [hcons] at hfits
      exact ofNat_eq_value_iff.mpr ⟨hfits, rfl⟩

/-! ### The characters of a literal -/

/-- A digit of a hexadecimal numeral is neither blank nor one of the letters around it. -/
theorem plain_of_hexDigit {c : Char} (h : (hexDigit? c).isSome) :
    isBlank c = false ∧ c ≠ 'u' ∧ c ≠ 'x' ∧ c ≠ 'X' := by
  have hall : ∀ run ∈ Text.hexRuns, ∀ i < run.2, isBlank (Char.ofNat (run.1 + i)) = false
      ∧ Char.ofNat (run.1 + i) ≠ 'u' ∧ Char.ofNat (run.1 + i) ≠ 'x'
      ∧ Char.ofNat (run.1 + i) ≠ 'X' := by decide
  obtain ⟨run, hmem, hlow, hhigh⟩ := Text.exists_hexRun h
  exact Text.forall_of_run (p := fun c => isBlank c = false ∧ c ≠ 'u' ∧ c ≠ 'x' ∧ c ≠ 'X')
    (hall run hmem) hlow hhigh

theorem Numeral.ne_nil {digits : Text} {n : Nat} (h : Numeral digits n) : digits ≠ [] := by
  cases h with
  | decimal hne => exact hne
  | hexadecimal => exact List.cons_ne_nil _ _

/-- No character of a numeral is blank or the letter of a suffix. -/
theorem Numeral.plain {digits : Text} {n : Nat} (h : Numeral digits n) :
    ∀ c ∈ digits, isBlank c = false ∧ c ≠ 'u' := by
  cases h with
  | decimal hne hdigits hread =>
    intro c hc
    refine ⟨isBlank_of_isDigit (hdigits c hc), ?_⟩
    rintro rfl
    exact absurd (hdigits _ hc) (by decide)
  | hexadecimal hx hne hdigits =>
    refine List.forall_mem_cons.mpr ⟨by decide, List.forall_mem_cons.mpr ⟨?_, fun c hc => ?_⟩⟩
    · rcases hx with rfl | rfl <;> decide
    · exact ⟨(plain_of_hexDigit (hdigits c hc)).1, (plain_of_hexDigit (hdigits c hc)).2.1⟩

theorem dropSuffix_of_numeral {digits : Text} {n : Nat} (h : Numeral digits n) :
    dropSuffix digits = digits :=
  if_neg fun hlast => (h.plain 'u' (List.mem_of_getLast? hlast)).2 rfl

theorem U32Literal.ne_nil {t : Text} {n : Nat} (h : U32Literal t n) : t ≠ [] := by
  obtain ⟨_, digits, rfl | rfl, hnumeral⟩ := h
  · exact hnumeral.ne_nil
  · exact List.append_ne_nil_of_left_ne_nil hnumeral.ne_nil _

theorem U32Literal.not_blank {t : Text} {n : Nat} (h : U32Literal t n) :
    ∀ c ∈ t, isBlank c = false := by
  obtain ⟨_, digits, rfl | rfl, hnumeral⟩ := h
  · exact fun c hc => (hnumeral.plain c hc).1
  · rintro c hc
    rcases List.mem_append.mp hc with hc | hc
    · exact (hnumeral.plain c hc).1
    · rw [List.mem_singleton.mp hc]
      decide

/-- What is left of a literal without its suffix is its numeral. -/
theorem u32Literal_iff {t : Text} {n : Nat} :
    U32Literal t n ↔ n < 0x100000000 ∧ Numeral (dropSuffix t) n := by
  constructor
  · rintro ⟨hfits, digits, rfl | rfl, hnumeral⟩
    · exact ⟨hfits, by rwa [dropSuffix_of_numeral hnumeral]⟩
    · exact ⟨hfits, by rwa [dropSuffix_append_suffix]⟩
  · rintro ⟨hfits, hnumeral⟩
    exact ⟨hfits, dropSuffix t, eq_or_eq_append_suffix t, hnumeral⟩

/-! ### Reading literals -/

/-- A text is read as a number if it is a literal of that number with blanks around it. -/
theorem readU32_eq_value_iff {t : Text} {n : Nat} :
    readU32 t = .value n ↔ U32Literal t.trim n := by
  rw [readU32, readDigits_eq_value_iff, u32Literal_iff]

theorem literal_eq_ok_iff {t : Text} {n : Nat} : literal t = .ok n ↔ U32Literal t.trim n := by
  rw [← readU32_eq_value_iff, literal]
  rcases readU32 t with m | _ | digits
  · constructor
    · rintro ⟨⟩
      rfl
    · rintro ⟨⟩
      rfl
  · constructor <;> rintro ⟨⟩
  · constructor <;> rintro ⟨⟩

/-- A literal denotes one number. -/
theorem U32Literal.unique {t : Text} {m n : Nat} (hm : U32Literal t m) (hn : U32Literal t n) :
    m = n := by
  rw [u32Literal_iff, ← readDigits_eq_value_iff] at hm hn
  exact U32Reading.value.inj (hm.symm.trans hn)

/-! ### Literals side by side -/

/-- The sign of a hexadecimal numeral stands behind its zero only. -/
theorem Numeral.not_hexadecimal_behind {a digits : Text} {x : Char} {n : Nat} (ha : a ≠ [])
    (hx : x = 'x' ∨ x = 'X') : ¬ Numeral (a ++ '0' :: x :: digits) n := by
  intro h
  generalize ht : a ++ '0' :: x :: digits = t at h
  have hmem : x ∈ t := by
    rw [← ht]
    simp
  cases h with
  | decimal _ hdigits _ =>
    have hdigit := hdigits x hmem
    rcases hx with rfl | rfl <;> exact absurd hdigit (by decide)
  | @hexadecimal y hs hy _ hdigits =>
    rcases a with _ | ⟨first, _ | ⟨second, a⟩⟩
    · exact ha rfl
    · -- a zero stands where the other sign would
      obtain rfl : '0' = y := (List.cons.inj (List.cons.inj ht).2).1
      rcases hy with hy | hy <;> exact absurd hy (by decide)
    · have htail : a ++ '0' :: x :: digits = hs := (List.cons.inj (List.cons.inj ht).2).2
      have hdigit := plain_of_hexDigit (hdigits x (by rw [← htail]; simp))
      rcases hx with rfl | rfl
      · exact hdigit.2.2.1 rfl
      · exact hdigit.2.2.2 rfl

/-- The first text has no suffix, the second is not hexadecimal, and the digits of both are a
numeral that fits. -/
structure Joins (a b : Text) : Prop where
  openEnd : 'u' ∉ a
  noSign : 'x' ∉ b ∧ 'X' ∉ b
  fits : ∃ n, n < 0x100000000 ∧ Numeral (a ++ dropSuffix b) n

/-- Two literals side by side are one literal exactly if they join. -/
theorem joined_iff {a b : Text} {m k : Nat} (ha : U32Literal a m) (hb : U32Literal b k) :
    (∃ n, U32Literal (a ++ b) n) ↔ Joins a b := by
  have hdrop : dropSuffix (a ++ b) = a ++ dropSuffix b := by
    unfold dropSuffix
    rw [List.getLast?_append_of_ne_nil _ hb.ne_nil, List.dropLast_append_of_ne_nil hb.ne_nil]
    split <;> rfl
  constructor
  · rintro ⟨n, hn⟩
    rw [u32Literal_iff, hdrop] at hn
    -- a sign in the second would stand behind the zero of the second, not of the first
    have hsign : ∀ x ∈ b, ¬ (x = 'x' ∨ x = 'X') := by
      intro x hmem hx
      have hdigits : x ∈ dropSuffix b := by
        rcases eq_or_eq_append_suffix b with heq | heq
        · rwa [← heq]
        · rw [heq, List.mem_append, List.mem_singleton] at hmem
          rcases hmem with hmem | rfl
          · exact hmem
          · rcases hx with hx | hx <;> exact absurd hx (by decide)
      have hnumeral := (u32Literal_iff.mp hb).2
      generalize dropSuffix b = digits at hdigits hnumeral hn
      cases hnumeral with
      | decimal _ hall _ =>
        have hdigit := hall x hdigits
        rcases hx with rfl | rfl <;> exact absurd hdigit (by decide)
      | hexadecimal hy => exact Numeral.not_hexadecimal_behind ha.ne_nil hy hn.2
    exact ⟨fun hu => (hn.2.plain 'u' (List.mem_append_left _ hu)).2 rfl,
      ⟨fun hx => hsign 'x' hx (.inl rfl), fun hx => hsign 'X' hx (.inr rfl)⟩, n, hn⟩
  · rintro ⟨_, _, n, hn⟩
    exact ⟨n, by rwa [u32Literal_iff, hdrop]⟩

end ShaderPlayer.Shader
