/-
The grammar of integer literals.

What a text is read as depends on the blanks around it, on a suffix and on a numeral.  A number has
many numerals: its own decimal one or, behind a sign, the hexadecimal one with letters of either
case, and before these as many zeros as one likes, as long as a decimal numeral does not get longer
than is read.  Nothing else is read as the number.

* `numeral_iff_writtenFor` — digits denote a number if they are one of its numerals, and only then;
* `literal_eq_ok_iff_written` — so a literal that is read can be told by how its number is written;
* `literal_eq_notU32_iff` — what is no literal, and no decimal numeral that is too long, is refused;
* `processLine_of_reaches` — the first literal of a directive that is not read stops its line;
* `literal_grammar` — a text is read, refused or too long, and which of them is told by its grammar.
-/
import ShaderPlayer.Fault
import ShaderPlayer.Proofs.Shader.IntegerLiteral

namespace ShaderPlayer.Shader

open Text (InBlanks)

/-! ### The numerals of a number -/

/-- The numerals that are written for a number: in base ten or, behind a sign, in base sixteen with
letters of either case, filled up with zeros to a width. -/
inductive WrittenFor (n : Nat) : Text → Prop
  | decimal (width : Nat) (hread : (Text.padLeft '0' width (Text.ofNat n)).length ≤ maxDigits) :
      WrittenFor n (Text.padLeft '0' width (Text.ofNat n))
  | hexadecimal {x : Char} {digits : Text} (hx : x = 'x' ∨ x = 'X') (width : Nat)
      (hdigits : digits.map Char.toLower = Text.ofHex width n) : WrittenFor n ('0' :: x :: digits)

/-- Digits that denote a number are one of its numerals, and the other way round. -/
theorem numeral_iff_writtenFor {t : Text} {n : Nat} : Numeral t n ↔ WrittenFor n t := by
  constructor
  · intro h
    cases h with
    | decimal hne hdigits hread =>
      have hpadded := Text.eq_padLeft_decimalValue hne hdigits
      have hwritten : WrittenFor (Text.decimalValue t) _ := .decimal t.length (hpadded ▸ hread)
      rwa [← hpadded] at hwritten
    | @hexadecimal x digits hx hne hdigits =>
      exact .hexadecimal hx digits.length (Text.map_toLower_eq_ofHex hne hdigits)
  · intro h
    cases h with
    | decimal width hread =>
      have hne : Text.padLeft '0' width (Text.ofNat n) ≠ [] :=
        Text.padLeft_ne_nil Nat.toDigits_ne_nil
      have hnumeral := Numeral.decimal hne (fun c hc => Text.isDigit_of_mem_padLeft hc) hread
      rwa [Text.decimalValue_padLeft, Text.decimalValue_ofNat] at hnumeral
    | @hexadecimal x digits hx width hdigits =>
      obtain ⟨hall, hvalue⟩ := Text.of_map_toLower_eq_ofHex hdigits
      have hne : digits ≠ [] := by
        rintro rfl
        exact Text.padLeft_ne_nil Nat.toDigits_ne_nil hdigits.symm
      rw [← hvalue]
      exact .hexadecimal hx hne hall

/-- What is read as a number is one of its numerals, with a suffix or without one, in blanks. -/
theorem literal_eq_ok_iff_written {t : Text} {n : Nat} :
    literal t = .ok n ↔ n < 0x100000000
      ∧ ∃ numeral, WrittenFor n numeral ∧ (InBlanks numeral t ∨ InBlanks (numeral ++ ['u']) t) := by
  rw [literal_eq_ok_iff, U32Literal]
  refine and_congr_right fun hfits => exists_congr fun numeral => ?_
  rw [and_comm, numeral_iff_writtenFor]
  refine and_congr_right fun hwritten => ?_
  have hnumeral := numeral_iff_writtenFor.mpr hwritten
  -- neither the numeral nor its suffix has a blank that trimming would take
  have hbare : U32Literal numeral n := ⟨hfits, numeral, .inl rfl, hnumeral⟩
  have hsuffixed : U32Literal (numeral ++ ['u']) n := ⟨hfits, numeral, .inr rfl, hnumeral⟩
  rw [Text.trim_eq_iff hbare.ne_nil hbare.not_blank,
    Text.trim_eq_iff hsuffixed.ne_nil hsuffixed.not_blank]

/-! ### Texts that are not read -/

/-- A text that is no literal and not too long is refused, and no other one. -/
theorem literal_eq_notU32_iff {t : Text} :
    literal t = .error (.defect (.notU32 t))
      ↔ (∀ n, ¬ U32Literal t.trim n) ∧ ∀ digits, ¬ Overlong digits t := by
  constructor
  · intro h
    refine ⟨fun n hn => ?_, fun digits hlong => ?_⟩
    · rw [literal_eq_ok_iff.mpr hn] at h
      cases h
    · rw [literal_eq_numeral_iff.mpr hlong] at h
      cases h
  · rintro ⟨hnone, hshort⟩
    rcases hread : readU32 t with n | _ | digits
    · exact absurd (readU32_eq_value_iff.mp hread) (hnone n)
    · rw [literal, hread]
    · exact absurd (readU32_eq_tooLong_iff.mp hread) (hshort digits)

/-- A directive comes to a literal: those before it are read. -/
def Reaches (tokens : List Text) (t : Text) : Prop :=
  ∃ before after, Literals tokens (before ++ t :: after) ∧ ∀ l ∈ before, ∃ n, literal l = .ok n

/-- The first literal that is not read stops the line of its directive, and changes nothing. -/
theorem processLine_of_reaches {σ : Type} (resolver : Resolver σ) {run : Run σ} {line t : Text}
    {tokens : List Text} {stop : Stop}
    (kind : Line.ofText (run.macros.expandLine line) = .directive tokens)
    (hreaches : Reaches tokens t) (h : literal t = .error stop) (budget : Nat) (origin : Int) :
    processLine resolver budget origin line run = (run, some ⟨stop, origin⟩) := by
  obtain ⟨before, after, hliterals, hbefore⟩ := hreaches
  have hstops : (before ++ t :: after).mapM literal = .error stop :=
    mapM_eq_error_iff.mpr ⟨before, t, after, rfl, hbefore, h⟩
  exact processLine_malformed kind ((ofTokens_eq_error_iff hliterals).mpr hstops)

/-! ### The grammar -/

/-- A text is read as a number exactly if it is a literal of that number once it is trimmed.  It is
too long exactly if it is a decimal numeral of more digits than are read, and every other text is
refused by a report that names it.  Where a directive comes to a literal that is not read, this is
what stops the line, and the line's number goes with it.  So the texts that are read as a number are
its own numerals, decimal or hexadecimal, with zeros before them, with a suffix or without one, and
in blanks. -/
theorem literal_grammar :
    (∀ t n, literal t = .ok n ↔ U32Literal t.trim n)
      ∧ (∀ t digits, literal t = .error (.numeral digits) ↔ Overlong digits t)
      ∧ (∀ t, literal t = .error (.defect (.notU32 t))
          ↔ (∀ n, ¬ U32Literal t.trim n) ∧ ∀ digits, ¬ Overlong digits t)
      ∧ (∀ digits, (Fault.numeral digits).family = .value)
      ∧ (∀ t origin, (Cause.notU32 t).report origin
          = ⟨.directive, "Cannot parse '".toList ++ t ++ "' as u32".toList, origin⟩)
      ∧ (∀ {σ : Type} (resolver : Resolver σ) (run : Run σ) line tokens t stop budget origin,
          Line.ofText (run.macros.expandLine line) = .directive tokens → Reaches tokens t →
          literal t = .error stop →
          processLine resolver budget origin line run = (run, some ⟨stop, origin⟩))
      ∧ ∀ t n, literal t = .ok n ↔ n < 0x100000000
          ∧ ∃ numeral, WrittenFor n numeral
            ∧ (InBlanks numeral t ∨ InBlanks (numeral ++ ['u']) t) := by
  refine ⟨fun _ _ => literal_eq_ok_iff, fun _ _ => literal_eq_numeral_iff,
    fun _ => literal_eq_notU32_iff, fun _ => rfl, fun _ _ => rfl, ?_,
    fun _ _ => literal_eq_ok_iff_written⟩
  intro σ resolver run line tokens t stop budget origin kind hreaches h
  exact processLine_of_reaches resolver kind hreaches h budget origin

/-- Letters of both cases with zeros, a suffix and blanks; a digit of another script; more zeros
than are read; and a count on the third line that does not fit. -/
theorem literal_grammar_padded :
    let run : Run Unit := .start [] ()
    let line := "#dispatch_count f 4294967296".toList
    let tokens := ["#dispatch_count".toList, ['f'], "4294967296".toList]
    literal "\t0X00fFu ".toList = .ok 255
      ∧ (∀ n, ¬ U32Literal (Text.trim ['\u0664']) n)
      ∧ literal (List.replicate 4301 '0' ++ ['u']) = .error (.numeral 4301)
      ∧ Line.ofText (run.macros.expandLine line) = .directive tokens
      ∧ Reaches tokens "4294967296".toList
      ∧ processLine (Resolver.dictionary []) 16 3 line run
        = (run, some ⟨.defect (.notU32 "4294967296".toList), 3⟩) := by
  intro run line tokens
  obtain ⟨-, hlong, hrefused, -, -, hline, hwritten⟩ := literal_grammar
  have kind : Line.ofText (run.macros.expandLine line) = .directive tokens := by decide +kernel
  have hreaches : Reaches tokens "4294967296".toList :=
    ⟨[], [], .dispatchCount _ _, fun l hl => absurd hl List.not_mem_nil⟩
  have hover : literal "4294967296".toList = .error (.defect (.notU32 "4294967296".toList)) := by
    decide
  refine ⟨?_, ((hrefused ['\u0664']).mp (by decide)).1, ?_, kind, hreaches,
    hline (Resolver.dictionary []) run line tokens _ _ 16 3 kind hreaches hover⟩
  · have hnumeral : WrittenFor 255 "0X00fF".toList := .hexadecimal (.inr rfl) 4 (by decide)
    exact (hwritten _ 255).mpr ⟨by decide, "0X00fF".toList, hnumeral,
      .inr ⟨['\t'], [' '], by decide, List.forall_mem_singleton.mpr (by decide),
        List.forall_mem_singleton.mpr (by decide)⟩⟩
  · have hzeros : ∀ c ∈ List.replicate 4301 '0', c.isDigit := by
      intro c hc
      rw [List.eq_of_mem_replicate hc]
      decide
    have hplain : ∀ c ∈ List.replicate 4301 '0' ++ ['u'], Text.isBlank c = false :=
      List.forall_mem_append.mpr ⟨fun c hc => isBlank_of_isDigit (hzeros c hc),
        List.forall_mem_singleton.mpr (by decide)⟩
    exact (hlong _ 4301).mpr ⟨List.replicate 4301 '0', .inr (Text.trim_eq_self hplain), hzeros,
      List.length_replicate, by decide⟩

end ShaderPlayer.Shader
