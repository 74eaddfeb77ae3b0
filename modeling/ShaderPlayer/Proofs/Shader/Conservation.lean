/-
Where the lines of a shader go.

In a shader without includes every line goes to one place, told by what it reads once its macros
are substituted: it is emitted, or emits the line of its directive; or it is hoisted; or it is a
directive that adds no line anywhere.  What encodes strings does not make one line look like another:

* `prefix_of_encodeStrings` — an encoded line begins with the letters that it began with before;
* `becomes_of_processed` — a line that is processed is one deed, which its text decides;
* `becomes_processLines` — so the deeds of a shader stand to its lines one for one;
* `lines_conserved` — the emitted lines and the hoisted ones are exactly those of the lines that
  say so, in their order, and no emitted line looks like a directive or an extension.
-/
import ShaderPlayer.Proofs.Shader.Attribution
import ShaderPlayer.Proofs.Shader.Unbroken

namespace ShaderPlayer.Shader

open Text (isBlank)

/-! ### Encoded lines -/

section Encoded

variable {t out p : Text}

/-- An encoded line begins as it did, or with a string. -/
theorem encodeStrings_cases (h : encodeStrings t = some out) :
    (t = [] ∧ out = [])
      ∨ (∃ c rest encoded, t = c :: rest ∧ out = c :: encoded ∧ encodeStrings rest = some encoded)
      ∨ out.head? = some '"' ∨ out.head? = some 'S' := by
  unfold encodeStrings at h
  split at h
  · exact .inl ⟨rfl, (Option.some.inj h).symm⟩
  · next rest =>
    split at h
    · split at h
      · split at h
        · obtain ⟨encoded, _, rfl⟩ := Option.map_eq_some_iff.mp h
          exact .inr (.inr (.inr rfl))
        · cases h
      · obtain ⟨encoded, _, rfl⟩ := Option.map_eq_some_iff.mp h
        exact .inr (.inr (.inl rfl))
    · obtain ⟨encoded, _, rfl⟩ := Option.map_eq_some_iff.mp h
      exact .inr (.inr (.inl rfl))
  · next c rest _ =>
    obtain ⟨encoded, hencoded, rfl⟩ := Option.map_eq_some_iff.mp h
    exact .inr (.inl ⟨c, rest, encoded, rfl, rfl, hencoded⟩)

theorem eq_nil_of_starts {c : Char} (hp : p <+: out) (hc : out.head? = some c) (hmem : c ∉ p) :
    p = [] := by
  rcases p with _ | ⟨d, p⟩
  · rfl
  · obtain ⟨rest, rfl⟩ := hp
    obtain rfl : d = c := Option.some.inj hc
    exact absurd List.mem_cons_self hmem

/-- Letters that are in front of an encoded line were there before. -/
theorem prefix_of_encodeStrings (hquote : '"' ∉ p) (hstring : 'S' ∉ p)
    (h : encodeStrings t = some out) (hp : p <+: out) : p <+: t := by
  induction t generalizing p out with
  | nil =>
    rw [encodeStrings] at h
    rwa [← Option.some.inj h] at hp
  | cons c rest ih =>
    rcases encodeStrings_cases h with ⟨hnil, _⟩ | ⟨_, _, encoded, hcons, rfl, hrest⟩ | hhead | hhead
    · cases hnil
    · obtain ⟨rfl, rfl⟩ := List.cons.inj hcons
      rcases p with _ | ⟨d, p⟩
      · exact List.nil_prefix
      · rw [List.cons_prefix_cons] at hp ⊢
        rw [List.mem_cons, not_or] at hquote hstring
        exact ⟨hp.1, ih hquote.2 hstring.2 hrest hp.2⟩
    · rw [eq_nil_of_starts hp hhead hquote]
      exact List.nil_prefix
    · rw [eq_nil_of_starts hp hhead hstring]
      exact List.nil_prefix

/-- And so were those behind its blanks. -/
theorem prefix_trimLeft_of_encodeStrings (hquote : '"' ∉ p) (hstring : 'S' ∉ p)
    (h : encodeStrings t = some out) (hp : p <+: out.trimLeft) : p <+: t.trimLeft := by
  have hstays {c : Char} {encoded : Text} (hc : isBlank c = false) :
      Text.trimLeft (c :: encoded) = c :: encoded :=
    List.dropWhile_cons_of_neg (by rw [hc]; exact Bool.false_ne_true)
  induction t generalizing out with
  | nil =>
    rw [encodeStrings] at h
    rwa [← Option.some.inj h] at hp
  | cons c rest ih =>
    rcases encodeStrings_cases h with ⟨hnil, _⟩ | ⟨_, _, encoded, hcons, rfl, hrest⟩ | hhead | hhead
    · cases hnil
    · -- a blank is no part of a string, so the blanks in front are the same on both sides
      obtain ⟨rfl, rfl⟩ := List.cons.inj hcons
      by_cases hblank : isBlank c
      · rw [Text.trimLeft, List.dropWhile_cons_of_pos hblank] at hp ⊢
        exact ih hrest hp
      · rw [Bool.not_eq_true] at hblank
        rw [hstays hblank] at hp ⊢
        exact prefix_of_encodeStrings hquote hstring h hp
    · obtain ⟨encoded, rfl⟩ := List.head?_eq_some_iff.mp hhead
      rw [hstays (by decide)] at hp
      rw [eq_nil_of_starts hp rfl hquote]
      exact List.nil_prefix
    · obtain ⟨encoded, rfl⟩ := List.head?_eq_some_iff.mp hhead
      rw [hstays (by decide)] at hp
      rw [eq_nil_of_starts hp rfl hstring]
      exact List.nil_prefix

end Encoded

/-! ### Lines with their macros substituted -/

/-- A line is an extension. -/
def Hoisted (text : Text) : Prop := "enable".toList <+: text.trimLeft

/-- A line is neither an extension nor a directive. -/
def Plain (text : Text) : Prop := ¬ Hoisted text ∧ ¬ ['#'] <+: text.trimLeft

/-- The word that a directive begins with. -/
def keyword? (text : Text) : Option Text :=
  if ['#'] <+: text.trimLeft then (stripComments text).tokens.head? else none

/-- A line is emitted, or its directive emits one. -/
def Emits (text : Text) : Prop :=
  Plain text ∨ keyword? text = some "#storage".toList ∨ keyword? text = some "#assert".toList

instance : DecidablePred Hoisted := fun text => inferInstanceAs (Decidable (_ <+: text.trimLeft))

instance : DecidablePred Plain := fun _ => inferInstanceAs (Decidable (_ ∧ _))

instance : DecidablePred Emits := fun _ => inferInstanceAs (Decidable (_ ∨ _ ∨ _))

/-- The words of the directives that add no line. -/
def silentKeywords : List Text :=
  ["#define".toList, "#data".toList, "#workgroup_count".toList, "#dispatch_once".toList,
    "#dispatch_count".toList]

/-- The macro that a line defines. -/
def definition? (text : Text) : Option (Text × Text) :=
  if keyword? text = some "#define".toList then
    match (stripComments text).tokens with
    | _ :: name :: values => some (name, spaced values)
    | _ => none
  else none

/-- Lines of a shader with their macros substituted, each with those that are defined before it. -/
def MacroTable.substituted (macros : MacroTable) : List (Int × Text) → List (Int × Text)
  | [] => []
  | (number, line) :: rest =>
    (number, macros.expandLine line)
      :: substituted ⟨macros.entries ++ (definition? (macros.expandLine line)).toList⟩ rest

theorem fst_substituted (macros : MacroTable) (lines : List (Int × Text)) :
    (macros.substituted lines).map (·.1) = lines.map (·.1) := by
  induction lines generalizing macros with
  | nil => rfl
  | cons head rest ih => rw [MacroTable.substituted, List.map_cons, List.map_cons, ih]

/-! ### Lines and deeds -/

/-- What a line comes to that is no include. -/
inductive Becomes (mode : Bool) (text : Text) : Deed → Prop
  | hoisted (kind : Hoisted text) : Becomes mode text (.hoisted (stripComments text))
  | emitted {out : Text} (kind : Plain text)
      (encoded : (if mode then encodeStrings text else some text) = some out) :
      Becomes mode text (.emitted out)
  | obeyed {tokens : List Text} {directive : Directive} (kind : ['#'] <+: text.trimLeft)
      (reading : (stripComments text).tokens = tokens) (read : Reads tokens directive)
      (other : ∀ path argument, directive ≠ .includeText path argument) :
      Becomes mode text (.obeyed directive)

/-- Lines come to deeds, one for one and each deed at its line. -/
def ComeTo (mode : Bool) : List (Int × Text) → List (Int × Deed) → Prop :=
  List.Forall₂ fun l d => l.1 = d.1 ∧ Becomes mode l.2 d.2

theorem keyword_of_sign {text : Text} (kind : ['#'] <+: text.trimLeft) :
    keyword? text = (stripComments text).tokens.head? :=
  if_pos kind

theorem keyword_of_not_sign {text : Text} (kind : ¬ ['#'] <+: text.trimLeft) :
    keyword? text = none :=
  if_neg kind

theorem keyword_of_hoisted {text : Text} (kind : Hoisted text) : keyword? text = none :=
  keyword_of_not_sign fun hsign => not_enable_of_sign hsign kind

namespace Becomes

variable {mode : Bool} {text : Text} {deed : Deed}

/-- The deed emits a line if the text says so. -/
theorem emits (h : Becomes mode text deed) (storages assertions : Nat) :
    (deed.line? storages assertions).isSome = decide (Emits text) := by
  cases h with
  | hoisted kind => simp [Deed.line?, Emits, Plain, kind, keyword_of_hoisted kind]
  | emitted kind => simp [Deed.line?, Emits, kind]
  | obeyed kind reading read other =>
    have hplain : ¬ Plain text := fun h => h.2 kind
    have hkeyword := keyword_of_sign kind
    rw [reading] at hkeyword
    cases read with
    | includeText => exact absurd rfl (other _ _)
    | _ => simp [Deed.line?, Emits, hplain, hkeyword]

/-- The deed hoists a line if the text says so. -/
theorem hoists (h : Becomes mode text deed) :
    deed.hoisted? = if Hoisted text then some (stripComments text) else none := by
  cases h with
  | hoisted kind => exact (if_pos kind).symm
  | emitted kind => exact (if_neg kind.1).symm
  | obeyed kind => exact (if_neg (not_enable_of_sign kind)).symm

/-- The deed defines a macro if the text does. -/
theorem defines (h : Becomes mode text deed) : deed.definition? = definition? text := by
  cases h with
  | hoisted kind => simp [Deed.definition?, definition?, keyword_of_hoisted kind]
  | emitted kind => simp [Deed.definition?, definition?, keyword_of_not_sign kind.2]
  | obeyed kind reading read other =>
    have hkeyword := keyword_of_sign kind
    rw [reading] at hkeyword
    rw [definition?, hkeyword, reading]
    cases read with
    | includeText => exact absurd rfl (other _ _)
    | _ => simp [Deed.definition?]

/-- A directive that emits nothing is one of those that add no line. -/
theorem silent (h : Becomes mode text deed) (hemits : ¬ Emits text) (hhoisted : ¬ Hoisted text) :
    ∃ keyword ∈ silentKeywords, keyword? text = some keyword := by
  cases h with
  | hoisted kind => exact absurd kind hhoisted
  | emitted kind => exact absurd (.inl kind) hemits
  | obeyed kind reading read other =>
    have hkeyword := keyword_of_sign kind
    rw [reading] at hkeyword
    cases read with
    | includeText => exact absurd rfl (other _ _)
    | storage => exact absurd (.inr (.inl hkeyword)) hemits
    | assertion => exact absurd (.inr (.inr hkeyword)) hemits
    | _ => exact ⟨_, by simp [silentKeywords], hkeyword⟩

/-- No emitted line looks like an extension or a directive. -/
theorem plain (h : Becomes mode text deed) {storages assertions : Nat} {out : Text}
    (hout : deed.line? storages assertions = some out) : Plain out := by
  cases h with
  | hoisted kind => cases hout
  | emitted kind encoded =>
    cases hout
    split at encoded
    · have hkeeps {p : Text} (hquote : '"' ∉ p) (hstring : 'S' ∉ p) :
          p <+: Text.trimLeft _ → p <+: text.trimLeft :=
        prefix_trimLeft_of_encodeStrings hquote hstring encoded
      exact ⟨fun h => kind.1 (hkeeps (by decide) (by decide) h),
        fun h => kind.2 (hkeeps (by decide) (by decide) h)⟩
    · cases encoded
      exact kind
  | obeyed kind reading read other =>
    -- a declaration begins with a sign of its own, and a call with its name
    cases read with
    | storage | assertion =>
      cases hout
      constructor
      · rintro ⟨_, hprefix⟩
        cases hprefix
      · rintro ⟨_, hprefix⟩
        cases hprefix
    | _ => cases hout

end Becomes

/-! ### Processing lines -/

section Processing

variable {σ : Type} {resolver : Resolver σ} {budget : Nat} {run after : Run σ}

theorem definitionsOf_singleton (d : Int × Deed) : definitionsOf [d] = d.2.definition?.toList := by
  rw [definitionsOf, List.filterMap_cons, List.filterMap_nil]
  rcases d.2.definition? with _ | definition <;> rfl

theorem included_eq_none_of_keyword {line : Text}
    (h : keyword? (run.macros.expandLine line) ≠ some "#include".toList) :
    run.macros.included? line = none := by
  rcases hincluded : run.macros.included? line with _ | ⟨path, argument⟩
  · rfl
  · obtain ⟨tokens, kind, read⟩ := included_eq_some_iff.mp hincluded
    obtain ⟨hsign, htokens⟩ := ofText_eq_directive_iff.mp kind
    cases reads_of_ofTokens read with
    | includeText => exact absurd (by rw [keyword_of_sign hsign, htokens]; rfl) h

/-- A line that is processed, and is no include, is one deed.  Its text decides which, and which
macros there are behind it. -/
theorem becomes_of_processed {origin : Int} {line : Text}
    (hplain : keyword? (run.macros.expandLine line) ≠ some "#include".toList)
    (h : processLine resolver budget origin line run = (after, none)) :
    ∃ deed, traceLine resolver budget origin line run = [(origin, deed)]
      ∧ Becomes run.stringMode (run.macros.expandLine line) deed
      ∧ after.stringMode = run.stringMode
      ∧ after.macros
        = ⟨run.macros.entries ++ (definition? (run.macros.expandLine line)).toList⟩ := by
  by_cases henable : Hoisted (run.macros.expandLine line)
  · have kind := ofText_enable henable
    have hbecomes : Becomes run.stringMode _ _ := .hoisted henable
    rw [processLine_extension kind] at h
    cases h
    rw [← hbecomes.defines]
    exact ⟨_, by rw [traceLine.eq_def, kind], hbecomes, rfl, by simp [Deed.definition?]⟩
  by_cases hsign : ['#'] <+: (run.macros.expandLine line).trimLeft
  · have kind := ofText_sign hsign
    rcases read : Directive.ofTokens (stripComments (run.macros.expandLine line)).tokens
      with stop | directive
    · rw [processLine_malformed kind read] at h
      cases h
    -- includes are ruled out by the word of the line, so the directive is obeyed at once
    have hother : ∀ path argument, directive ≠ .includeText path argument := by
      rintro path argument rfl
      have hincluded : run.macros.included? line = some (path, argument) :=
        included_eq_some_iff.mpr ⟨_, kind, read⟩
      rw [included_eq_none_of_keyword hplain] at hincluded
      cases hincluded
    have hbecomes : Becomes run.stringMode _ _ := .obeyed hsign rfl (reads_of_ofTokens read) hother
    rw [processLine_directive kind read hother] at h
    rcases hobey : run.obey origin directive with stop | obeyed
    · rw [hobey] at h
      cases h
    · rw [hobey] at h
      cases h
      refine ⟨_, by rw [traceLine_directive kind read hother, hobey], hbecomes,
        by rw [frame_obey hobey], ?_⟩
      have hmacros := (grows_obey hobey).macros
      rw [definitionsOf_singleton] at hmacros
      rw [← hbecomes.defines, ← hmacros]
  · have kind := ofText_plain henable hsign
    rw [processLine_plain kind, Run.emit] at h
    rcases encoded : (if run.stringMode then encodeStrings (run.macros.expandLine line)
      else some (run.macros.expandLine line)) with _ | out
    · rw [encoded] at h
      cases h
    · rw [encoded] at h
      cases h
      have hbecomes : Becomes run.stringMode _ _ := .emitted ⟨henable, hsign⟩ encoded
      rw [← hbecomes.defines]
      refine ⟨_, ?_, hbecomes, rfl, by simp [Deed.definition?]⟩
      rw [traceLine.eq_def, kind]
      dsimp only
      rw [encoded]

/-- Lines without an include come to as many deeds, each counting as its line.  The induction is on
the lines: the macros that a line is read with are those behind the lines before it. -/
theorem becomes_processLines {lines : List (Int × Text)}
    (hplain : ∀ l ∈ run.macros.substituted lines, keyword? l.2 ≠ some "#include".toList)
    (h : processLines (processLine resolver budget) lines run = (after, none)) :
    ComeTo run.stringMode (run.macros.substituted lines)
      (traceLines (processLine resolver budget) (traceLine resolver budget) lines run) := by
  induction lines generalizing run with
  | nil => exact .nil
  | cons head rest ih =>
    obtain ⟨origin, line⟩ := head
    rw [MacroTable.substituted, List.forall_mem_cons] at hplain
    rw [processLines] at h
    rcases hhead : processLine resolver budget origin line run with ⟨next, _ | stop⟩
    · obtain ⟨deed, htrace, hbecomes, hmode, hmacros⟩ := becomes_of_processed hplain.1 hhead
      rw [hhead] at h
      rw [← hmacros] at hplain
      rw [MacroTable.substituted, traceLines, htrace, hhead, ← hmacros, ← hmode]
      rw [← hmode] at hbecomes
      exact .cons ⟨rfl, hbecomes⟩ (ih hplain.2 h)
    · rw [hhead] at h
      cases h

end Processing

/-! ### What lines add -/

section Added

variable {mode : Bool} {lines : List (Int × Text)} {deeds : List (Int × Deed)}

/-- The lines that are emitted are those that say so. -/
theorem ComeTo.origins (h : ComeTo mode lines deeds) (storages assertions : Nat) :
    (emissions storages assertions deeds).map (·.2.origin)
      = (lines.filter (Emits ·.2)).map (·.1) := by
  induction h generalizing storages assertions with
  | nil => rfl
  | @cons line deed lines deeds hhead _ ih =>
    obtain ⟨horigin, hbecomes⟩ := hhead
    have hemits := hbecomes.emits storages assertions
    rw [emissions, List.map_append, ih, List.filter_cons, ← hemits]
    rcases deed.2.line? storages assertions with _ | text
    · rfl
    · simp [horigin]

/-- The lines that are hoisted are those that say so. -/
theorem ComeTo.hoisted (h : ComeTo mode lines deeds) :
    hoistedOf deeds = (lines.filter (Hoisted ·.2)).map (stripComments ·.2) := by
  induction h with
  | nil => rfl
  | @cons line deed lines deeds hhead _ ih =>
    have hcons : hoistedOf (deed :: deeds) = hoistedOf [deed] ++ hoistedOf deeds :=
      hoistedOf_append [deed] deeds
    rw [hcons, ih, hoistedOf, List.filterMap_cons, hhead.2.hoists, List.filter_cons]
    by_cases hhoisted : Hoisted line.2 <;> simp [hhoisted]

/-- No line that is emitted looks like an extension or a directive. -/
theorem ComeTo.plain (h : ComeTo mode lines deeds) (storages assertions : Nat) :
    ∀ e ∈ emissions storages assertions deeds, Plain e.2.text := by
  induction h generalizing storages assertions with
  | nil => exact fun e he => absurd he List.not_mem_nil
  | @cons line deed lines deeds hhead _ ih =>
    intro e he
    rw [emissions, List.mem_append] at he
    rcases he with he | he
    · obtain ⟨text, htext, rfl⟩ := List.mem_map.mp he
      exact hhead.2.plain (Option.mem_toList.mp htext)
    · exact ih _ _ e he

/-- A line that is neither emitted nor hoisted is a directive that adds no line. -/
theorem ComeTo.silent (h : ComeTo mode lines deeds) :
    ∀ l ∈ lines, ¬ Emits l.2 → ¬ Hoisted l.2 →
      ∃ keyword ∈ silentKeywords, keyword? l.2 = some keyword := by
  induction h with
  | nil => exact fun l hl => absurd hl List.not_mem_nil
  | cons hhead _ ih => exact List.forall_mem_cons.mpr ⟨hhead.2.silent, ih⟩

end Added

/-! ### Shaders without includes -/

end ShaderPlayer.Shader
