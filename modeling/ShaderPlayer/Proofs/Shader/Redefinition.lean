/-
Names that are defined again.

The name in a definition is looked for twice: in the line as it is written, so that the macro it
may have is not substituted, and in the tokens of the line without its comments, so that it is
known to the table.  Where both find the same name, a second definition is refused:

* `defines_of_refused` — only a line that still defines the name, its macros substituted, is refused
  for it;
* `defines_head_iff` — behind blanks, the directive and blanks the name stays, and is the one that
  is defined unless something of what follows it joins it;
* `redefinition_refused` — so a known name is refused exactly if the name stays;
* `redefinition_passed` — behind a comment it does not: its value is defined instead.
-/
import ShaderPlayer.Proofs.Shader.Attribution
import ShaderPlayer.Proofs.Shader.Declarations
import ShaderPlayer.Proofs.Shader.Expansion

namespace ShaderPlayer.Shader

open Text (isWord isBlank)

/-- Without its comments a line reads as a definition of a name. -/
def WrittenDefinition (line name : Text) : Prop :=
  ∃ values, (stripComments line).tokens = "#define".toList :: name :: values

/-- With its macros substituted, and then without its comments, a line is a definition of a
name. -/
def MacroTable.Defines (macros : MacroTable) (line name : Text) : Prop :=
  ∃ values, Line.ofText (macros.expandLine line) = .directive ("#define".toList :: name :: values)

/-! ### Lines that are refused for a name -/

section Refused

variable {σ : Type} {resolver : Resolver σ} {run : Run σ} {name : Text}

theorem asked_ask (resolver : Resolver σ) (run : Run σ) (path : Text) :
    (run.ask resolver path).1.asked = run.asked.push path := by
  unfold Run.ask
  rcases resolver.fetch path run.world with ⟨_ | _ | _, notes, world⟩ <;> rfl

theorem prefix_asked_step {a b : Run σ} {deeds : List (Int × Deed)} (h : Step resolver a deeds b) :
    a.asked.toList <+: b.asked.toList := by
  cases h with
  | hoist => exact List.prefix_rfl
  | emit => exact List.prefix_rfl
  | library path => exact (asked_noteLibrary a path).1.symm ▸ List.prefix_rfl
  | ask path =>
    rw [asked_ask, Array.toList_push]
    exact List.prefix_append _ _
  | obey _ _ _ obeyed => exact frame_obey obeyed ▸ List.prefix_rfl

/-- What was asked for stays the beginning of all that is asked for. -/
theorem prefix_asked_steps {a b : Run σ} {deeds : List (Int × Deed)} (h : Steps resolver a deeds b) :
    a.asked.toList <+: b.asked.toList :=
  have hkeeps : ∀ {c d : Run σ} {deeds : List (Int × Deed)}, Step resolver c deeds d →
      a.asked.toList <+: c.asked.toList → a.asked.toList <+: d.asked.toList :=
    fun step hprefix => hprefix.trans (prefix_asked_step step)
  h.keeps hkeeps List.prefix_rfl

theorem size_asked_ask (resolver : Resolver σ) (run : Run σ) (path : Text) :
    (run.ask resolver path).1.asked.size = run.asked.size + 1 := by
  rw [asked_ask, Array.size_push]

theorem size_asked_processLines {budget : Nat} {lines : List (Int × Text)}
    (hlines : ∀ l ∈ lines, '\n' ∉ l.2) :
    run.asked.size ≤ (processLines (processLine resolver budget) lines run).1.asked.size :=
  (prefix_asked_steps (steps_processLines (steps_processLine budget) hlines run)).length_le

theorem define_of_obey {origin : Int} {directive : Directive}
    (h : run.obey origin directive = .error (.defect (.redefined name))) :
    ∃ value, directive = .define name value := by
  cases directive with
  | define other value =>
    unfold Run.obey at h
    dsimp only at h
    split at h <;> cases h
    exact ⟨value, rfl⟩
  | storage | assertion =>
    unfold Run.obey at h
    dsimp only at h
    split at h <;> cases h
  | _ => cases h

/-- A line that is refused for a name, with nothing asked of the resolver, defines the name.  The
lines of an include may be refused for it too, but the include was asked for before. -/
theorem defines_of_refused {budget : Nat} {origin : Int} {line : Text}
    (hstop : (processLine resolver budget origin line run).2
      = some ⟨.defect (.redefined name), origin⟩)
    (hasked : (processLine resolver budget origin line run).1.asked = run.asked) :
    run.macros.Defines line name := by
  rcases kind : Line.ofText (run.macros.expandLine line) with text | text | tokens
  · rw [processLine_extension kind] at hstop
    cases hstop
  · rw [processLine_plain kind, Run.emit] at hstop
    split at hstop <;> cases hstop
  rcases read : Directive.ofTokens tokens with stop | directive
  · rw [processLine_malformed kind read] at hstop
    cases hstop
    cases kind_of_ofTokens read
  by_cases hinclude : ∃ path argument, directive = .includeText path argument
  · obtain ⟨path, argument, rfl⟩ := hinclude
    rcases budget with _ | budget
    · rw [processLine_tooDeep kind read] at hstop
      cases hstop
    · rw [processLine_include kind read] at hstop hasked
      -- what is asked for stays asked, so no include ends with the questions that it began with
      have hsize := size_asked_ask resolver (run.noteLibrary path) path.request
      rcases answer : (run.noteLibrary path).ask resolver path.request with ⟨asked, _ | text⟩
      · rw [answer] at hstop
        cases hstop
      · rw [answer, (asked_noteLibrary run path).1] at hsize
        rw [answer] at hasked
        have hlines : ∀ l ∈ text.lines.map fun l => (origin, l), '\n' ∉ l.2 := by
          intro l hl
          obtain ⟨inner, hinner, rfl⟩ := List.mem_map.mp hl
          exact Text.newline_not_mem_lines text inner hinner
        have hgrown : asked.asked.size
            ≤ (processLines (processLine resolver budget) _ asked).1.asked.size :=
          size_asked_processLines hlines
        dsimp only at hasked hsize
        rw [hasked] at hgrown
        omega
  · rw [processLine_directive kind read fun path argument heq => hinclude ⟨path, argument, heq⟩]
      at hstop
    rcases hobey : run.obey origin directive with stop | after
    · rw [hobey] at hstop
      cases hstop
      obtain ⟨value, rfl⟩ := define_of_obey hobey
      cases reads_of_ofTokens read with
      | define _ values => exact ⟨values, kind⟩
    · rw [hobey] at hstop
      cases hstop

/-- A definition of a known name is refused, and changes nothing. -/
theorem refused_of_defines {line : Text} (h : run.macros.Defines line name)
    (hknown : run.macros.contains name) (budget : Nat) (origin : Int) :
    processLine resolver budget origin line run
      = (run, some ⟨.defect (.redefined name), origin⟩) := by
  obtain ⟨values, kind⟩ := h
  have hread : Directive.ofTokens ("#define".toList :: name :: values)
      = .ok (.define name (spaced values)) := rfl
  rw [processLine_directive kind hread (by simp), Run.obey,
    MacroTable.define_eq_none_iff.mpr hknown]
  rfl

end Refused

/-! ### Names that stay -/

section Head

variable (d : Definition) {macros : MacroTable} {rest : Text}

theorem slash_not_mem_head : '/' ∉ d.head := by
  have hblank : isBlank '/' = false := by decide
  have hword : isWord '/' = false := by decide
  intro h
  simp only [Definition.head, List.mem_append] at h
  rcases h with ((h | h) | h) | h
  · exact Bool.false_ne_true (hblank.symm.trans (d.indent_blank _ h))
  · exact absurd h (by decide)
  · exact Bool.false_ne_true (hblank.symm.trans (d.gap_blank _ h))
  · exact Bool.false_ne_true (hword.symm.trans (d.name_word _ h))

/-- What a line without comments defines, where it begins as a definition. -/
theorem tokens_stripComments_head (rest : Text) :
    (stripComments (d.head ++ rest)).tokens = "#define".toList
      :: (d.name ++ (stripComments rest).takeWhile (!isBlank ·))
      :: Text.tokens ((stripComments rest).dropWhile (!isBlank ·)) := by
  rw [stripComments_append_of_not_mem (slash_not_mem_head d), d.tokens_head]

/-- Nothing joins what stands before a text: it is empty or begins with a blank. -/
def StandsApart (t : Text) : Prop := ∀ c, t.head? = some c → isBlank c

theorem takeWhile_eq_nil_iff {t : Text} : t.takeWhile (!isBlank ·) = [] ↔ StandsApart t := by
  unfold StandsApart
  rcases t with _ | ⟨c, rest⟩
  · exact ⟨fun _ _ h => (by cases h), fun _ => rfl⟩
  · by_cases hc : isBlank c <;> simp [hc]

variable {d}

/-- The name that is written is the whole token behind the directive. -/
theorem standsApart_of_written (h : WrittenDefinition (d.head ++ rest) d.name) :
    StandsApart (stripComments rest) := by
  obtain ⟨values, htokens⟩ := h
  rw [tokens_stripComments_head] at htokens
  have hname := (List.cons.inj (List.cons.inj htokens).2).1
  exact takeWhile_eq_nil_iff.mp (List.append_right_eq_self.mp hname)

/-- A comment that stands apart, too, is not part of the word before it. -/
theorem not_isWord_of_standsApart (h : StandsApart (stripComments rest)) {c : Char}
    (hc : rest.head? = some c) : isWord c = false := by
  obtain ⟨more, rfl⟩ := List.head?_eq_some_iff.mp hc
  by_cases hslash : c = '/'
  · rw [hslash]
    decide
  · rw [stripComments_cons_of_ne hslash] at h
    exact Text.isWord_of_isBlank (h c rfl)

/-- The name is defined if nothing of what follows it joins it, once macros are substituted. -/
theorem defines_head_iff (hfeed : '\n' ∉ rest) (h : WrittenDefinition (d.head ++ rest) d.name) :
    macros.Defines (d.head ++ rest) d.name
      ↔ StandsApart (stripComments (macros.substitute rest)) := by
  -- the pattern that protects the name takes words only, and what is written ends this one
  have hended : ∀ c, rest.head? = some c → isWord c = false := fun _ =>
    not_isWord_of_standsApart (standsApart_of_written h)
  rw [MacroTable.Defines, d.expandLine_head macros hfeed hended, d.ofText_head,
    tokens_stripComments_head, substitute_eq_expand, ← takeWhile_eq_nil_iff]
  constructor
  · rintro ⟨values, htokens⟩
    have hname := (List.cons.inj (List.cons.inj (Line.directive.inj htokens)).2).1
    exact List.append_right_eq_self.mp hname
  · intro hnil
    rw [hnil, List.append_nil]
    exact ⟨_, rfl⟩

/-- Only a block comment right behind a name can leave something there that joins it: the words
in it may have values that end it. -/
theorem standsApart_substitute (hapart : StandsApart (stripComments rest))
    (hblock : ¬ ['/', '*'] <+: rest) : StandsApart (stripComments (macros.substitute rest)) := by
  rw [substitute_eq_expand]
  rcases rest with _ | ⟨c, more⟩
  · exact hapart
  by_cases hline : ['/', '/'] <+: c :: more
  · -- what is left of the line is the line feed that ends it, if there is one
    obtain ⟨comment, hcomment⟩ := hline
    have hslash : isWord '/' = false := by decide
    rw [← hcomment, List.cons_append, List.cons_append, List.nil_append, expand_cons _ hslash,
      expand_cons _ hslash, stripComments]
    intro b hb
    have hnot := List.head?_dropWhile_not (· ≠ '\n') (expand macros.entries comment)
    rcases hleft : (expand macros.entries comment).dropWhile (· ≠ '\n') with _ | ⟨first, others⟩
    · rw [hleft, stripComments] at hb
      cases hb
    · rw [hleft] at hnot hb
      obtain rfl : first = '\n' := by simpa using hnot
      rw [stripComments_cons_of_ne (by decide)] at hb
      obtain rfl := Option.some.inj hb
      decide
  · -- no comment begins here, so what stands here is a blank and is not substituted
    rw [stripComments_cons hline hblock] at hapart
    have hblank : isBlank c := hapart c rfl
    have hslash : c ≠ '/' := by
      rintro rfl
      exact absurd hblank (by decide)
    rw [expand_cons _ (Text.isWord_of_isBlank hblank), stripComments_cons_of_ne hslash]
    intro b hb
    rwa [← Option.some.inj hb]

end Head

/-! ### Redefinitions -/

variable {σ : Type}

/-- A line that is written as a definition of a known name is refused as a redefinition, with
nothing done, exactly if it still defines the name when its macros are substituted.  Where only
blanks stand around the directive before the name, it does if nothing joins the name from behind,
so in any case if no block comment follows the name directly, or none with a macro in it.  Then the
shader ends there with the error. -/
theorem redefinition_refused (resolver : Resolver σ) (run : Run σ) {line name : Text}
    (hfeed : '\n' ∉ line) (hwritten : WrittenDefinition line name)
    (hknown : run.macros.contains name) :
    (∀ budget origin, processLine resolver budget origin line run
          = (run, some ⟨.defect (.redefined name), origin⟩)
        ↔ run.macros.Defines line name)
      ∧ (∀ (d : Definition) (rest : Text), d.name = name → line = d.head ++ rest →
          (run.macros.Defines line name ↔ StandsApart (stripComments (run.macros.substitute rest)))
            ∧ (¬ "/*".toList <+: rest ∨ run.macros.substitute rest = rest →
                run.macros.Defines line name))
      ∧ (run.macros.Defines line name → ∀ defines world text before after,
          text.lines = before ++ line :: after →
          processLines (processLine resolver maxIncludeDepth) (numbered 1 before)
            (.start defines world) = (run, none) →
          let report : Report := ⟨.redefinition, "Cannot redefine ".toList ++ name, before.length + 1⟩
          (Preprocessor.fresh defines world).shader resolver text
            = ({ run, used := true, reports := #[report] }, .reported report)) := by
  refine ⟨fun budget origin => ⟨fun h => ?_, fun h => refused_of_defines h hknown budget origin⟩,
    ?_, ?_⟩
  · exact defines_of_refused (congrArg Prod.snd h) (congrArg (Run.asked ∘ Prod.fst) h)
  · rintro d rest rfl rfl
    have hrest : '\n' ∉ rest := fun h => hfeed (List.mem_append_right _ h)
    have hiff : run.macros.Defines (d.head ++ rest) d.name ↔ _ := defines_head_iff hrest hwritten
    refine ⟨hiff, fun h => hiff.mpr ?_⟩
    have hapart := standsApart_of_written hwritten
    rcases h with hblock | hself
    · exact standsApart_substitute hapart hblock
    · rwa [hself]
  · intro hdefines defines world text before after hlines hbefore report
    have hstops : StopsAt resolver text (.start defines world) run (.redefined name)
        (before.length + 1) :=
      ⟨before, line, after, run, hlines, rfl, hbefore, refused_of_defines hdefines hknown _ _⟩
    simp only [Preprocessor.shader, Preprocessor.fresh, hstops.shader_eq, Bool.false_eq_true,
      if_false]
    rfl

/-- A name with blanks before it and a comment right behind it. -/
def spacedHead : Definition where
  indent := ['\t']
  gap := ['\t', ' ']
  name := ['X']
  body := []
  indent_blank := List.forall_mem_singleton.mpr rfl
  gap_blank := List.all_eq_true.mp rfl
  gap_ne_nil := List.cons_ne_nil _ _
  name_word := List.forall_mem_singleton.mpr rfl
  name_ne_nil := List.cons_ne_nil _ _
  body_blank _ h := by cases h

theorem redefinition_refused_spaced :
    let run : Run Unit := { Run.start [] () with macros := ⟨[("X".toList, "1".toList)]⟩ }
    let line := "\t#define\t X/* again */ 2".toList
    processLine (Resolver.dictionary []) 16 3 line run
      = (run, some ⟨.defect (.redefined ['X']), 3⟩) := by
  intro run line
  have hfeed : '\n' ∉ line := by decide
  have hwritten : WrittenDefinition line ['X'] := ⟨[['2']], by decide +kernel⟩
  have hknown : run.macros.contains ['X'] := by decide
  have hself : run.macros.substitute "/* again */ 2".toList = "/* again */ 2".toList := by
    decide +kernel
  obtain ⟨hrefused, hhead, _⟩ :=
    redefinition_refused (Resolver.dictionary []) run hfeed hwritten hknown
  exact (hrefused 16 3).mpr ((hhead spacedHead _ rfl rfl).2 (.inr hself))

/-- Behind a comment the name is substituted: its value is defined, and the shader completes,
though the line reads as a definition of a name that is known. -/
theorem redefinition_passed :
    let text := "#define X 1\n#define /* again */ X 2\n".toList
    let first := (Run.start [] ()).shader (Resolver.dictionary []) "#define X 1\n".toList
    let result := (Preprocessor.fresh [] ()).shader (Resolver.dictionary []) text
    WrittenDefinition "#define /* again */ X 2".toList ['X']
      ∧ first.1.macros.contains ['X'] ∧ result.2 = .complete ∧ result.1.reports = #[]
      ∧ result.1.run.macros.entries
          = first.1.macros.entries ++ [("1".toList, "2".toList)] :=
  ⟨⟨[['2']], by decide +kernel⟩, by decide +kernel⟩

end ShaderPlayer.Shader
