/-
What the arguments of a workgroup size give.

* `Denotes` — a text is an integer literal of the shading language, with its value;
* `argumentSize_of_denotes` — a literal gives its value, if its numeral is not too long to be read;
* `argumentSize_of_not_denotes` — everything else gives one.
-/
import Mathlib.Data.List.Basic
import ShaderPlayer.Proofs.Text.Numerals
import ShaderPlayer.Shader.EntryPoint

namespace ShaderPlayer.Shader

open Text (isWord hexDigit?)

/-! ### Literals -/

/-- What may stand at the end of an integer literal. -/
def literalSuffixes : List Text := [[], ['u'], ['i']]

/-- The text is an integer literal for the number: decimal digits, or `0x` and hexadecimal ones, and
a suffix. -/
inductive Denotes : Text → Nat → Prop
  | decimal {digits suffix : Text} (hne : digits ≠ []) (hdigits : ∀ c ∈ digits, c.isDigit)
      (hsuffix : suffix ∈ literalSuffixes) : Denotes (digits ++ suffix) (Text.decimalValue digits)
  | hexadecimal {x : Char} {digits suffix : Text} {values : List Nat} (hx : x = 'x' ∨ x = 'X')
      (hne : digits ≠ []) (hdigits : digits.mapM hexDigit? = some values)
      (hsuffix : suffix ∈ literalSuffixes) :
      Denotes ('0' :: x :: digits ++ suffix) (Text.positional 16 values)

/-- The decimal digits that a text begins with are not too many to be read. -/
def Readable (t : Text) : Prop := (t.takeWhile Char.isDigit).length ≤ maxDigits

instance (t : Text) : Decidable (Readable t) := inferInstanceAs (Decidable (_ ≤ _))

theorem all_isWord_suffix : ∀ suffix ∈ literalSuffixes, suffix.all isWord := by decide

theorem isWord_of_hexDigit {c : Char} {value : Nat} (h : hexDigit? c = some value) : isWord c := by
  have hall : ∀ run ∈ Text.hexRuns, ∀ i < run.2, isWord (Char.ofNat (run.1 + i)) := by
    decide +kernel
  obtain ⟨run, hmem, hlow, hhigh⟩ := Text.exists_hexRun (Option.isSome_of_eq_some h)
  exact Text.forall_of_run (p := fun c => isWord c) (hall run hmem) hlow hhigh

theorem hexDigit_of_isDigit {c : Char} (h : c.isDigit) :
    hexDigit? c = some (c.toNat - '0'.toNat) := if_pos (Char.isDigit_iff_toNat.mp h)

/-- A literal is one word. -/
theorem isWord_of_denotes {t : Text} {n : Nat} (h : Denotes t n) : ∀ c ∈ t, isWord c := by
  cases h with
  | decimal hne hdigits hsuffix =>
    rw [List.forall_mem_append]
    exact ⟨fun c hc => isWord_of_hexDigit (hexDigit_of_isDigit (hdigits c hc)),
      List.all_eq_true.mp (all_isWord_suffix _ hsuffix)⟩
  | hexadecimal hx hne hdigits hsuffix =>
    rw [List.forall_mem_append, List.forall_mem_cons, List.forall_mem_cons]
    refine ⟨⟨by decide, ?_, fun c hc => ?_⟩, List.all_eq_true.mp (all_isWord_suffix _ hsuffix)⟩
    · rcases hx with rfl | rfl <;> decide
    · obtain ⟨value, hvalue⟩ := Option.isSome_iff_exists.mp
        (Text.isSome_of_mapM_hexDigit hdigits c hc)
      exact isWord_of_hexDigit hvalue

/-- It begins with a digit, so that names are no literals. -/
theorem head_of_denotes {t : Text} {n : Nat} (h : Denotes t n) :
    ∃ c rest, t = c :: rest ∧ c.isDigit := by
  cases h with
  | @decimal digits suffix hne hdigits hsuffix =>
    obtain ⟨c, rest, rfl⟩ := List.exists_cons_of_ne_nil hne
    exact ⟨c, rest ++ suffix, rfl, hdigits c List.mem_cons_self⟩
  | hexadecimal => exact ⟨'0', _, rfl, by decide⟩

/-! ### Without its suffix -/

/-- The text without one suffix. -/
def unsuffixed (t : Text) : Text :=
  match t.getLast? with
  | some 'u' | some 'i' => t.dropLast
  | _ => t

/-- The size by what is left. -/
def bareSize (digits : Text) : Except Nat Nat :=
  match digits with
  | '0' :: x :: hex =>
    if (x = 'x' ∨ x = 'X') ∧ !hex.isEmpty then
      match hex.mapM hexDigit? with
      | some ds => .ok (Text.positional 16 ds)
      | none => .ok 1
    else argumentSize.decimalSize digits
  | _ => argumentSize.decimalSize digits

theorem argumentSize_eq (t : Text) : argumentSize t = bareSize (unsuffixed t) := rfl

theorem unsuffixed_append {digits suffix : Text} (hsuffix : suffix ∈ literalSuffixes)
    (hdigits : ∀ c ∈ digits, c ≠ 'u' ∧ c ≠ 'i') : unsuffixed (digits ++ suffix) = digits := by
  simp only [literalSuffixes, List.mem_cons, List.not_mem_nil, or_false] at hsuffix
  unfold unsuffixed
  rcases hsuffix with rfl | rfl | rfl
  · rw [List.append_nil]
    split
    · next hu => exact absurd rfl (hdigits 'u' (List.mem_of_getLast? hu)).1
    · next hi => exact absurd rfl (hdigits 'i' (List.mem_of_getLast? hi)).2
    · rfl
  · rw [List.getLast?_concat, List.dropLast_concat]
    rfl
  · rw [List.getLast?_concat, List.dropLast_concat]
    rfl

theorem exists_suffix (t : Text) : ∃ suffix ∈ literalSuffixes, t = unsuffixed t ++ suffix := by
  unfold unsuffixed
  split
  · next hu => exact ⟨['u'], by decide, (List.dropLast_append_getLast? _ hu).symm⟩
  · next hi => exact ⟨['i'], by decide, (List.dropLast_append_getLast? _ hi).symm⟩
  · exact ⟨[], by decide, (List.append_nil t).symm⟩

/-! ### Sizes -/

theorem decimalSize_of_digits {digits : Text} (hne : digits ≠ [])
    (hdigits : ∀ c ∈ digits, c.isDigit) (hlength : digits.length ≤ maxDigits) :
    argumentSize.decimalSize digits = .ok (Text.decimalValue digits) := by
  have hall : (digits.isEmpty || !digits.all Char.isDigit) = false := by
    rw [List.all_eq_true.mpr hdigits, Bool.not_true, Bool.or_false, List.isEmpty_eq_false_iff]
    exact hne
  unfold argumentSize.decimalSize
  rw [hall, if_neg Bool.false_ne_true, if_neg (by omega)]

theorem bareSize_of_digits {digits : Text} (hne : digits ≠ [])
    (hdigits : ∀ c ∈ digits, c.isDigit) (hlength : digits.length ≤ maxDigits) :
    bareSize digits = .ok (Text.decimalValue digits) := by
  unfold bareSize
  split
  · next x hex =>
    have hx : ¬ (x = 'x' ∨ x = 'X') := by
      have hdigit := hdigits x (by simp)
      rintro (rfl | rfl)
      all_goals exact absurd hdigit (by decide)
    rw [if_neg fun h => hx h.1, decimalSize_of_digits hne hdigits hlength]
  · exact decimalSize_of_digits hne hdigits hlength

theorem bareSize_of_hexadecimal {x : Char} {digits : Text} {values : List Nat}
    (hx : x = 'x' ∨ x = 'X') (hne : digits ≠ [])
    (hdigits : digits.mapM hexDigit? = some values) :
    bareSize ('0' :: x :: digits) = .ok (Text.positional 16 values) := by
  have hempty : (!digits.isEmpty) = true := by
    rw [List.isEmpty_eq_false_iff.mpr hne, Bool.not_false]
  rw [bareSize.eq_1, if_pos ⟨hx, hempty⟩, hdigits]

/-- What is left of no literal gives one. -/
theorem bareSize_cases (digits : Text) :
    bareSize digits = .ok 1 ∨ ∀ suffix ∈ literalSuffixes, ∃ n, Denotes (digits ++ suffix) n := by
  have hdecimal : argumentSize.decimalSize digits = .ok 1
      ∨ ∀ suffix ∈ literalSuffixes, ∃ n, Denotes (digits ++ suffix) n := by
    unfold argumentSize.decimalSize
    split
    · exact .inl rfl
    · next h =>
      rw [Bool.not_eq_true, Bool.or_eq_false_iff, List.isEmpty_eq_false_iff, Bool.not_eq_false',
        List.all_eq_true] at h
      exact .inr fun suffix hsuffix => ⟨_, .decimal h.1 h.2 hsuffix⟩
  unfold bareSize
  split
  · next x hex =>
    split
    · next h =>
      split
      · next values hvalues =>
        rw [Bool.not_eq_true', List.isEmpty_eq_false_iff] at h
        exact .inr fun suffix hsuffix => ⟨_, .hexadecimal h.1 h.2 hvalues hsuffix⟩
      · exact .inl rfl
    · exact hdecimal
  · exact hdecimal

/-- A literal gives its value. -/
theorem argumentSize_of_denotes {t : Text} {n : Nat} (h : Denotes t n) (hreadable : Readable t) :
    argumentSize t = .ok n := by
  rw [argumentSize_eq]
  cases h with
  | @decimal digits suffix hne hdigits hsuffix =>
    have htake : (digits ++ suffix).takeWhile Char.isDigit = digits := by
      have hstop : ∀ suffix ∈ literalSuffixes, suffix.takeWhile Char.isDigit = [] := by decide
      rw [List.takeWhile_append_of_pos hdigits, hstop suffix hsuffix, List.append_nil]
    have hletters : ∀ c ∈ digits, c ≠ 'u' ∧ c ≠ 'i' := by
      refine fun c hc => ⟨?_, ?_⟩
      all_goals
        rintro rfl
        exact absurd (hdigits _ hc) (by decide)
    rw [Readable, htake] at hreadable
    rw [unsuffixed_append hsuffix hletters, bareSize_of_digits hne hdigits hreadable]
  | @hexadecimal x digits suffix values hx hne hdigits hsuffix =>
    have hletters : ∀ c ∈ '0' :: x :: digits, c ≠ 'u' ∧ c ≠ 'i' := by
      rw [List.forall_mem_cons, List.forall_mem_cons]
      refine ⟨by decide, ?_, fun c hc => ⟨?_, ?_⟩⟩
      · rcases hx with rfl | rfl <;> decide
      all_goals
        rintro rfl
        exact absurd (Text.isSome_of_mapM_hexDigit hdigits _ hc) (by decide)
    rw [unsuffixed_append hsuffix hletters, bareSize_of_hexadecimal hx hne hdigits]

/-- What is no literal gives one. -/
theorem argumentSize_of_not_denotes {t : Text} (h : ∀ n, ¬ Denotes t n) :
    argumentSize t = .ok 1 := by
  obtain ⟨suffix, hsuffix, ht⟩ := exists_suffix t
  rw [argumentSize_eq]
  refine (bareSize_cases (unsuffixed t)).resolve_right fun hdenotes => ?_
  obtain ⟨n, hn⟩ := hdenotes suffix hsuffix
  exact h n (ht ▸ hn)

end ShaderPlayer.Shader
