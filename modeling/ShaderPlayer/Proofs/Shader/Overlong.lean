/-
Numerals that are too long to read.

A decimal numeral of more than `maxDigits` digits is no literal and no defect: the work
ends at it, and the caller learns of it, not the sink.  Which directives hold such a
numeral is said by their tokens (`Unread`), and which runs come to one by the lines that
they process (`ComesTo`):

* `readU32_eq_tooLong_iff`, `ofTokens_eq_numeral_iff` — a literal and a directive that
  are not read hold such a numeral;
* `numeral_iff_comesTo` — processing lines ends at a numeral if it comes to it;
* `answers_unless_overlong` — the first run of a preprocessor completes, or ends with the
  one defect that it reports, unless it comes to such a numeral.
-/
import ShaderPlayer.Proofs.Effect
import ShaderPlayer.Proofs.Shader.CountLine
import ShaderPlayer.Proofs.Shader.Reading

namespace ShaderPlayer.Shader

open SourceMap (terminated)

/-! ### Literals -/

/-- A literal is a decimal numeral, with or without a suffix, of more digits than are
read. -/
def Overlong (digits : Nat) (literal : Text) : Prop :=
  ∃ numeral, (literal.trim = numeral ∨ literal.trim = numeral ++ ['u'])
    ∧ (∀ c ∈ numeral, c.isDigit) ∧ numeral.length = digits ∧ maxDigits < digits

theorem readDecimal_eq_tooLong_iff {t : Text} {digits : Nat} :
    readDigits.readDecimal t = .tooLong digits
      ↔ (∀ c ∈ t, c.isDigit) ∧ t.length = digits ∧ maxDigits < digits := by
  rw [readDigits.readDecimal, ← List.all_eq_true]
  split
  · next h =>
    constructor
    · intro h
      cases h
    · rintro ⟨hall, rfl, hlong⟩
      rw [hall, Bool.not_true, Bool.or_false, List.isEmpty_iff] at h
      rw [h] at hlong
      exact absurd hlong (Nat.not_lt_zero _)
  · next h =>
    rw [Bool.or_eq_true, not_or, Bool.not_eq_true', Bool.not_eq_false] at h
    split
    · next hlong =>
      constructor
      · intro heq
        cases heq
        exact ⟨h.2, rfl, hlong⟩
      · rintro ⟨_, rfl, _⟩
        rfl
    · next hshort =>
      constructor
      · intro heq
        unfold U32Reading.ofNat at heq
        split at heq <;> cases heq
      · rintro ⟨_, rfl, hlong⟩
        exact absurd hlong hshort

/-- No digits are too many where they are hexadecimal. -/
theorem readDigits_eq_tooLong_iff {t : Text} {digits : Nat} :
    readDigits t = .tooLong digits
      ↔ (∀ c ∈ t, c.isDigit) ∧ t.length = digits ∧ maxDigits < digits := by
  rw [readDigits.eq_def]
  split
  · next x rest =>
    split
    · next hx =>
      constructor
      · intro h
        split at h
        · unfold U32Reading.ofNat at h
          split at h <;> cases h
        · cases h
      · rintro ⟨hdigits, _⟩
        have hdigit := hdigits x (List.mem_cons_of_mem _ List.mem_cons_self)
        rcases hx with rfl | rfl <;> exact absurd hdigit (by decide)
    · exact readDecimal_eq_tooLong_iff
  · exact readDecimal_eq_tooLong_iff

/-- The last digit of a numeral is not taken for a suffix. -/
theorem dropSuffix_of_digits {t : Text} (h : ∀ c ∈ t, c.isDigit) : dropSuffix t = t := by
  rw [dropSuffix, if_neg]
  intro hlast
  exact absurd (h 'u' (List.mem_of_getLast? hlast)) (by decide)

theorem dropSuffix_append_suffix (t : Text) : dropSuffix (t ++ ['u']) = t := by
  rw [dropSuffix, if_pos List.getLast?_concat, List.dropLast_concat]

theorem eq_or_eq_append_suffix (t : Text) : t = dropSuffix t ∨ t = dropSuffix t ++ ['u'] := by
  unfold dropSuffix
  split
  · next h => exact .inr (List.dropLast_append_getLast? 'u' h).symm
  · exact .inl rfl

theorem readU32_eq_tooLong_iff {t : Text} {digits : Nat} :
    readU32 t = .tooLong digits ↔ Overlong digits t := by
  rw [readU32, readDigits_eq_tooLong_iff]
  constructor
  · rintro ⟨hdigits, hlength, hlong⟩
    exact ⟨dropSuffix t.trim, eq_or_eq_append_suffix t.trim, hdigits, hlength, hlong⟩
  · rintro ⟨numeral, htrim, hdigits, hlength, hlong⟩
    have hdrop : dropSuffix t.trim = numeral := by
      rcases htrim with htrim | htrim
      · rw [htrim, dropSuffix_of_digits hdigits]
      · rw [htrim, dropSuffix_append_suffix]
    rw [hdrop]
    exact ⟨hdigits, hlength, hlong⟩

theorem literal_eq_numeral_iff {t : Text} {digits : Nat} :
    literal t = .error (.numeral digits) ↔ Overlong digits t := by
  rw [← readU32_eq_tooLong_iff, literal]
  rcases readU32 t with n | _ | digits'
  · constructor <;> intro h <;> cases h
  · constructor <;> intro h <;> cases h
  · constructor <;> intro h <;> cases h <;> rfl

/-! ### Directives -/

/-- The literals of a directive, in the order in which they are read. -/
inductive Literals : List Text → List Text → Prop
  | workgroupCount (entry x y z : Text) :
      Literals ["#workgroup_count".toList, entry, x, y, z] [x, y, z]
  | dispatchCount (entry count : Text) :
      Literals ["#dispatch_count".toList, entry, count] [count]
  | data (name part : Text) (parts : List Text) :
      Literals ("#data".toList :: name :: "u32".toList :: part :: parts)
        ((part :: parts).flatten.splitOn ',')

/-- Of the literals of a directive, one is too long to read, and those before it are
read. -/
def Unread (digits : Nat) (tokens : List Text) : Prop :=
  ∃ before overlong after, Literals tokens (before ++ overlong :: after)
    ∧ (∀ l ∈ before, ∃ n, readU32 l = .value n) ∧ Overlong digits overlong

theorem exists_literal_iff {t : Text} :
    (∃ n, literal t = .ok n) ↔ ∃ n, readU32 t = .value n := by
  unfold literal
  rcases readU32 t with n | _ | digits
  · exact ⟨fun _ => ⟨n, rfl⟩, fun _ => ⟨n, rfl⟩⟩
  · constructor <;> rintro ⟨_, h⟩ <;> cases h
  · constructor <;> rintro ⟨_, h⟩ <;> cases h

/-- A directive with literals is refused as they are. -/
theorem ofTokens_eq_error_iff {tokens literals : List Text} (h : Literals tokens literals)
    {stop : Stop} :
    Directive.ofTokens tokens = .error stop ↔ literals.mapM literal = .error stop := by
  cases h with
  | workgroupCount entry x y z =>
    show (literal x >>= fun x => literal y >>= fun y => literal z >>= fun z =>
      .ok (Directive.workgroupCount entry ⟨x, y, z⟩)) = .error stop ↔ _
    rw [List.mapM_cons, List.mapM_cons, List.mapM_cons, List.mapM_nil]
    rcases literal x with _ | a
    · constructor <;> intro h <;> cases h <;> rfl
    rcases literal y with _ | b
    · constructor <;> intro h <;> cases h <;> rfl
    rcases literal z with _ | c
    · constructor <;> intro h <;> cases h <;> rfl
    · constructor <;> intro h <;> cases h
  | dispatchCount entry count =>
    show (literal count).map (Directive.dispatchCount entry) = .error stop ↔ _
    rw [List.mapM_cons, List.mapM_nil]
    rcases literal count with _ | n
    · constructor <;> intro h <;> cases h <;> rfl
    · constructor <;> intro h <;> cases h
  | data name part parts =>
    show (dataValues (part :: parts)).map (Directive.data name) = .error stop ↔ _
    rw [dataValues]
    rcases ((part :: parts).flatten.splitOn ',').mapM literal with _ | values
    · constructor <;> intro h <;> cases h <;> rfl
    · constructor <;> intro h <;> cases h

/-- Tokens that are refused are those of a directive with literals, or have not the form of a
directive. -/
theorem literals_or_form {tokens : List Text} {stop : Stop}
    (h : Directive.ofTokens tokens = .error stop) :
    (∃ literals, Literals tokens literals)
      ∨ ∃ cause, stop = .defect cause ∧ cause.kind = .directive := by
  have hform : ∀ {cause : Cause}, cause.kind = .directive →
      (.error (.defect cause) : Except Stop Directive) = .error stop →
      ∃ cause, stop = .defect cause ∧ cause.kind = .directive := by
    rintro cause hkind ⟨⟩
    exact ⟨cause, rfl, hkind⟩
  rcases tokens with _ | ⟨keyword, arguments⟩
  · exact .inr (hform rfl h)
  unfold Directive.ofTokens at h
  dsimp only at h
  split at h
  · -- an include
    split at h
    · split at h
      · cases h
      · exact .inr (hform rfl h)
    · exact .inr (hform rfl h)
  split at h
  · next hkeyword =>
    subst hkeyword
    split at h
    · exact .inl ⟨_, .workgroupCount _ _ _ _⟩
    · exact .inr (hform rfl h)
  split at h
  · -- a pipeline that is dispatched once
    split at h
    · cases h
    · exact .inr (hform rfl h)
  split at h
  · next hkeyword =>
    subst hkeyword
    split at h
    · exact .inl ⟨_, .dispatchCount _ _⟩
    · exact .inr (hform rfl h)
  split at h
  · -- a definition
    split at h
    · cases h
    · exact .inr (hform rfl h)
  split at h
  · -- a storage buffer
    split at h
    · cases h
    · exact .inr (hform rfl h)
  split at h
  · -- an assertion
    split at h
    · cases h
    · exact .inr (hform rfl h)
  split at h
  · next hkeyword =>
    subst hkeyword
    split at h
    · split at h
      · next htype =>
        subst htype
        exact .inl ⟨_, .data _ _ _⟩
      · exact .inr (hform rfl h)
    · exact .inr (hform rfl h)
  · exact .inr (hform rfl h)

/-- Directives without literals are read, or refused for a defect. -/
theorem exists_literals {tokens : List Text} {digits : Nat}
    (h : Directive.ofTokens tokens = .error (.numeral digits)) :
    ∃ literals, Literals tokens literals := by
  rcases literals_or_form h with hliterals | ⟨cause, hdefect, _⟩
  · exact hliterals
  · cases hdefect

/-- A defect for which tokens are refused is one of the directive's form. -/
theorem kind_of_ofTokens {tokens : List Text} {cause : Cause}
    (h : Directive.ofTokens tokens = .error (.defect cause)) : cause.kind = .directive := by
  rcases literals_or_form h with ⟨literals, hliterals⟩ | ⟨_, ⟨⟩, hkind⟩
  · obtain ⟨_, refused, _, _, _, hrefused⟩ :=
      mapM_eq_error_iff.mp ((ofTokens_eq_error_iff hliterals).mp h)
    unfold literal at hrefused
    split at hrefused <;> cases hrefused
    rfl
  · exact hkind

theorem ofTokens_eq_numeral_iff {tokens : List Text} {digits : Nat} :
    Directive.ofTokens tokens = .error (.numeral digits) ↔ Unread digits tokens := by
  constructor
  · intro h
    obtain ⟨literals, hliterals⟩ := exists_literals h
    obtain ⟨before, overlong, after, rfl, hbefore, hlong⟩ :=
      mapM_eq_error_iff.mp ((ofTokens_eq_error_iff hliterals).mp h)
    exact ⟨before, overlong, after, hliterals, fun l hl => exists_literal_iff.mp (hbefore l hl),
      literal_eq_numeral_iff.mp hlong⟩
  · rintro ⟨before, overlong, after, hliterals, hbefore, hlong⟩
    refine (ofTokens_eq_error_iff hliterals).mpr (mapM_eq_error_iff.mpr ?_)
    exact ⟨before, overlong, after, rfl, fun l hl => exists_literal_iff.mpr (hbefore l hl),
      literal_eq_numeral_iff.mpr hlong⟩

/-- Obeying a directive meets defects only. -/
theorem obey_ne_numeral {σ : Type} (run : Run σ) (origin : Int) (directive : Directive)
    (digits : Nat) : run.obey origin directive ≠ .error (.numeral digits) := by
  intro h
  cases directive with
  | define | storage | assertion =>
    unfold Run.obey at h
    dsimp only at h
    split at h <;> cases h
  | _ => cases h

/-! ### Lines -/

variable {σ : Type} {resolver : Resolver σ}

/-- Processing lines, includes nesting `budget` deep at most, comes to a numeral that is
too long to read. -/
inductive ComesTo (resolver : Resolver σ) (digits : Nat) :
    Nat → List (Int × Text) → Run σ → Prop
  /-- It stands in a directive of the first line. -/
  | here {budget : Nat} {origin : Int} {line : Text} {rest : List (Int × Text)} {run : Run σ}
      {tokens : List Text}
      (kind : Line.ofText (run.macros.expandLine line) = .directive tokens)
      (unread : Unread digits tokens) : ComesTo resolver digits budget ((origin, line) :: rest) run
  /-- The lines of the text that the first line includes come to it. -/
  | inside {budget : Nat} {origin : Int} {line : Text} {rest : List (Int × Text)}
      {run asked : Run σ} {tokens : List Text} {path : IncludePath} {argument text : Text}
      (kind : Line.ofText (run.macros.expandLine line) = .directive tokens)
      (read : Directive.ofTokens tokens = .ok (.includeText path argument))
      (answer : (run.noteLibrary path).ask resolver path.request = (asked, some text))
      (inner : ComesTo resolver digits budget (text.lines.map fun l => (origin, l)) asked) :
      ComesTo resolver digits (budget + 1) ((origin, line) :: rest) run
  /-- The first line is processed, and those after it come to it. -/
  | later {budget : Nat} {origin : Int} {line : Text} {rest : List (Int × Text)}
      {run after : Run σ} (processed : processLine resolver budget origin line run = (after, none))
      (comes : ComesTo resolver digits budget rest after) :
      ComesTo resolver digits budget ((origin, line) :: rest) run

/-- The work ended at a numeral. -/
def Halted.AtNumeral (digits : Nat) (h : Halted σ) : Prop :=
  ∃ line, h.2 = some ⟨.numeral digits, line⟩

theorem atNumeral_of_comesTo {digits budget : Nat} {lines : List (Int × Text)} {run : Run σ}
    (h : ComesTo resolver digits budget lines run) :
    Halted.AtNumeral digits (processLines (processLine resolver budget) lines run) := by
  induction h with
  | here kind unread =>
    rw [processLines, processLine_malformed kind (ofTokens_eq_numeral_iff.mpr unread)]
    exact ⟨_, rfl⟩
  | @inside budget origin _ _ _ asked _ _ _ text kind read answer _ ih =>
    obtain ⟨stopped, hstopped⟩ := ih
    rw [processLines, processLine_include kind read, answer]
    dsimp only
    rcases hinner : processLines (processLine resolver budget)
      (text.lines.map fun l => (origin, l)) asked with ⟨inner, _ | stop⟩
    · rw [hinner] at hstopped
      cases hstopped
    · rw [hinner] at hstopped
      exact ⟨stopped, hstopped⟩
  | later processed _ ih =>
    rw [processLines, processed]
    exact ih

/-- A line at whose processing the work ends at a numeral comes to it, if the lines of
includes do. -/
theorem comesTo_of_processLine {digits budget : Nat}
    (inner : ∀ b < budget, ∀ lines (run : Run σ),
      Halted.AtNumeral digits (processLines (processLine resolver b) lines run) →
      ComesTo resolver digits b lines run)
    {origin : Int} {line : Text} {run : Run σ}
    (h : Halted.AtNumeral digits (processLine resolver budget origin line run))
    (rest : List (Int × Text)) : ComesTo resolver digits budget ((origin, line) :: rest) run := by
  obtain ⟨stopped, h⟩ := h
  rcases kind : Line.ofText (run.macros.expandLine line) with text | text | tokens
  · rw [processLine_extension kind] at h
    cases h
  · rw [processLine_plain kind, Run.emit] at h
    split at h <;> cases h
  rcases read : Directive.ofTokens tokens with stop | directive
  · rw [processLine_malformed kind read] at h
    cases h
    exact .here kind (ofTokens_eq_numeral_iff.mp read)
  by_cases hinclude : ∃ path argument, directive = .includeText path argument
  · obtain ⟨path, argument, rfl⟩ := hinclude
    rcases budget with _ | budget
    · rw [processLine_tooDeep kind read] at h
      cases h
    · rw [processLine_include kind read] at h
      rcases answer : (run.noteLibrary path).ask resolver path.request with ⟨asked, _ | text⟩
      · rw [answer] at h
        cases h
      · rw [answer] at h
        exact .inside kind read answer (inner budget (Nat.lt_succ_self budget) _ asked ⟨stopped, h⟩)
  · rw [processLine_directive kind read fun path argument h => hinclude ⟨path, argument, h⟩] at h
    rcases hobey : run.obey origin directive with stop | after
    · rw [hobey] at h
      cases h
      exact absurd hobey (obey_ne_numeral run origin directive digits)
    · rw [hobey] at h
      cases h

/-- Processing lines ends at a numeral exactly if it comes to it.  The induction is on how
deep includes may still nest, and for each depth on the lines. -/
theorem numeral_iff_comesTo {digits budget : Nat} {lines : List (Int × Text)} {run : Run σ} :
    Halted.AtNumeral digits (processLines (processLine resolver budget) lines run)
      ↔ ComesTo resolver digits budget lines run := by
  refine ⟨?_, atNumeral_of_comesTo⟩
  induction budget using Nat.strongRecOn generalizing lines run with
  | ind budget inner =>
    intro h
    induction lines generalizing run with
    | nil =>
      obtain ⟨_, h⟩ := h
      cases h
    | cons head rest ih =>
      obtain ⟨origin, line⟩ := head
      rcases processed : processLine resolver budget origin line run with ⟨after, _ | stop⟩
      · rw [processLines, processed] at h
        exact .later processed (ih h)
      · rw [processLines, processed] at h
        have hline : Halted.AtNumeral digits (processLine resolver budget origin line run) := by
          rw [processed]
          exact h
        exact comesTo_of_processLine (fun b hb lines run => inner b hb) hline rest

/-! ### Shaders -/

/-- A preprocessor that has not run. -/
def Preprocessor.fresh (defines : Entries Text) (world : σ) : Preprocessor σ :=
  { run := .start defines world }

/-- A run was answered: it completed and nothing was reported, or it ended with a defect
and that was reported, alone. -/
def Answered (result : Preprocessor σ × Ending) : Prop :=
  (result.2 = .complete ∧ result.1.reports = #[])
    ∨ ∃ cause line, result.2 = .reported (Cause.report cause line)
        ∧ result.1.reports = #[cause.report line]

/-- The run of a shader comes to a numeral that is too long to read. -/
def Overruns (resolver : Resolver σ) (digits : Nat) (defines : Entries Text) (world : σ)
    (text : Text) : Prop :=
  ComesTo resolver digits maxIncludeDepth (numberedLines text) (.start defines world)

theorem ofStop_eq_numeral_iff {stop : Option Located} {digits : Nat} :
    Ending.ofStop stop = .numeral digits ↔ ∃ line, stop = some ⟨.numeral digits, line⟩ := by
  rcases stop with _ | ⟨cause | reached, line⟩
  · constructor
    · intro h
      cases h
    · rintro ⟨_, h⟩
      cases h
  · constructor
    · intro h
      cases h
    · rintro ⟨_, h⟩
      cases h
  · constructor
    · intro h
      cases h
      exact ⟨line, rfl⟩
    · rintro ⟨_, h⟩
      cases h
      rfl

section FirstRun

variable (resolver : Resolver σ) (defines : Entries Text) (world : σ) (text : Text)

/-- The first run is answered, or ends at a numeral with nothing reported. -/
theorem answered_or_numeral :
    let result := (Preprocessor.fresh defines world).shader resolver text
    Answered result ∨ ∃ digits, result.2 = .numeral digits ∧ result.1.reports = #[] := by
  simp only [Preprocessor.fresh, Preprocessor.shader, Run.shader, Bool.false_eq_true, if_false]
  rcases processLines (processLine resolver maxIncludeDepth) (numberedLines text)
    (.start defines world) with ⟨after, _ | ⟨cause | digits, line⟩⟩
  · exact .inl (.inl ⟨rfl, rfl⟩)
  · exact .inl (.inr ⟨cause, line, rfl, rfl⟩)
  · exact .inr ⟨digits, rfl, rfl⟩

theorem numeral_iff_overruns (digits : Nat) :
    ((Preprocessor.fresh defines world).shader resolver text).2 = .numeral digits
      ↔ Overruns resolver digits defines world text := by
  rw [Overruns, ← numeral_iff_comesTo, numberedLines_eq]
  show ((Run.start defines world).shader resolver text).2 = .numeral digits ↔ _
  rw [shader_eq]
  exact ofStop_eq_numeral_iff

end FirstRun

theorem not_answered_of_numeral {result : Preprocessor σ × Ending} {digits : Nat}
    (h : result.2 = .numeral digits) : ¬ Answered result := by
  rintro (⟨hend, _⟩ | ⟨_, _, hend, _⟩)
  all_goals
    rw [h] at hend
    cases hend

/-- The first run of a preprocessor is answered, whatever the shader, the macros and the
resolver, unless it comes to a numeral that is too long to read.  At such a numeral it ends
with nothing reported. -/
theorem answered_unless_overlong (resolver : Resolver σ) (defines : Entries Text) (world : σ)
    (text : Text) :
    let result := (Preprocessor.fresh defines world).shader resolver text
    (Answered result ↔ ∀ digits, ¬ Overruns resolver digits defines world text)
      ∧ ∀ digits, Overruns resolver digits defines world text
          ↔ result.2 = .numeral digits ∧ result.1.reports = #[] := by
  dsimp only
  have hiff := numeral_iff_overruns resolver defines world text
  rcases answered_or_numeral resolver defines world text with h | ⟨reached, hend, hreports⟩
  · have hnone : ∀ digits, ¬ Overruns resolver digits defines world text := fun digits hover =>
      not_answered_of_numeral ((hiff digits).mpr hover) h
    refine ⟨⟨fun _ => hnone, fun _ => h⟩, fun digits => ?_⟩
    exact ⟨fun hover => absurd hover (hnone digits), fun hend => (hiff digits).mp hend.1⟩
  · refine ⟨⟨fun h => absurd h (not_answered_of_numeral hend), ?_⟩, fun digits => ?_⟩
    · exact fun hnone => absurd ((hiff reached).mp hend) (hnone reached)
    · exact ⟨fun hover => ⟨(hiff digits).mpr hover, hreports⟩, fun hend => (hiff digits).mp hend.1⟩

/-! ### A shader with such a numeral -/

theorem numberedLines_dispatchCountLine {numeral : Text} (hdigits : ∀ c ∈ numeral, c.isDigit) :
    numberedLines (terminated (dispatchCountLine numeral)) = [(1, dispatchCountLine numeral)] := by
  have hlines : numberedLines ([dispatchCountLine numeral].flatMap terminated)
      = numbered 1 [dispatchCountLine numeral] := by
    refine numberedLines_flatMap_terminated (List.forall_mem_singleton.mpr ?_)
      (List.forall_mem_singleton.mpr ?_)
    · exact not_mem_dispatchCountLine hdigits (by decide) (by decide)
    · exact not_mem_dispatchCountLine hdigits (by decide) (by decide)
  rwa [List.flatMap_singleton] at hlines

/-- A count of too many digits ends the run. -/
theorem overruns_dispatchCountLine {numeral : Text} (hdigits : ∀ c ∈ numeral, c.isDigit)
    (hlong : maxDigits < numeral.length) (resolver : Resolver σ) (world : σ) :
    Overruns resolver numeral.length [] world (terminated (dispatchCountLine numeral)) := by
  have hne : numeral ≠ [] := List.ne_nil_of_length_pos (Nat.zero_lt_of_lt hlong)
  have hmacros : ∀ word ∈ Text.words (dispatchCountLine numeral),
      (initialMacros []).get? word = none := by
    intro word hword
    have hother : word ≠ "STRING_MAX_LEN".toList := by
      rintro rfl
      exact not_mem_word hdigits hword (d := 'S') (by decide) (by decide) (by decide)
    show List.lookup word [("STRING_MAX_LEN".toList, Text.ofNat maxStringLength)] = none
    rw [List.lookup_cons, beq_eq_false_iff_ne.mpr hother]
    rfl
  have htrim : numeral.trim = numeral :=
    Text.trim_eq_self fun c hc => isBlank_of_isDigit (hdigits c hc)
  have hoverlong : Overlong numeral.length numeral := ⟨numeral, .inl htrim, hdigits, rfl, hlong⟩
  have hunread : Unread numeral.length ["#dispatch_count".toList, ['f'], numeral] :=
    ⟨[], numeral, [], .dispatchCount ['f'] numeral, fun l hl => absurd hl List.not_mem_nil,
      hoverlong⟩
  rw [Overruns, numberedLines_dispatchCountLine hdigits]
  exact .here (ofText_dispatchCountLine hdigits hne hmacros) hunread

/-- A shader whose run ends with no answer: of its numeral, nothing is reported. -/
theorem overlong_unanswered :
    let result := (Preprocessor.fresh [] ()).shader (.dictionary [])
      (terminated (dispatchCountLine (List.replicate 4301 '9')))
    result.2 = .numeral 4301 ∧ result.1.reports = #[] ∧ ¬ Answered result := by
  have hdigits : ∀ c ∈ List.replicate 4301 '9', c.isDigit := by
    intro c hc
    rw [List.eq_of_mem_replicate hc]
    decide
  have hlength : (List.replicate 4301 '9').length = 4301 := List.length_replicate
  have hlong : maxDigits < (List.replicate 4301 '9').length := by
    rw [hlength]
    decide
  have hoverruns := overruns_dispatchCountLine hdigits hlong (.dictionary []) ()
  rw [hlength] at hoverruns
  have hend := (numeral_iff_overruns _ _ _ _ _).mpr hoverruns
  have hunanswered := not_answered_of_numeral hend
  obtain hanswered | ⟨_, _, hreports⟩ := answered_or_numeral (.dictionary []) [] ()
    (terminated (dispatchCountLine (List.replicate 4301 '9')))
  · exact absurd hanswered hunanswered
  · exact ⟨hend, hreports, hunanswered⟩

end ShaderPlayer.Shader
