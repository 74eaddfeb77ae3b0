/-
Lines that set how an entry point is dispatched.

What such a line sets is read when all of the shader is known, so other lines may come before it or
behind it, but for those that define the macros of its words:

* `expandLine_congr` — a line is read in the same way where its words mean the same;
* `corresponds_apart` — nothing done at a line looks at the settings;
* `Passes` — lines that are processed without a stop, with their deeds; `Passes.dispatch` says what
  a line does that sets something, and `Passes.corresponds` that other lines do not look at it;
* `Passes.later`, `Passes.earlier` — so a run may pass the line behind other lines, or before them.
-/
import ShaderPlayer.Proofs.Shader.Attribution
import ShaderPlayer.Proofs.Shader.Relocation
import ShaderPlayer.Proofs.Shader.Settings

namespace ShaderPlayer.Shader

/-! ### Words that mean the same -/

theorem head_of_splitDefinition {line head rest : Text}
    (h : splitDefinition? line = some (head, rest)) :
    ∀ c, rest.head? = some c → Text.isWord c = false := by
  unfold splitDefinition? at h
  simp only at h
  split at h
  · split at h
    · cases h
    · cases h
      intro c hc
      have hnot := List.head?_dropWhile_not Text.isWord
        (((line.dropWhile Text.isBlank).drop "#define".toList.length).dropWhile Text.isBlank)
      rw [hc] at hnot
      simpa using hnot
  · cases h

/-- The words that are substituted in a line are words of the line. -/
theorem words_of_splitDefinition {line head rest word : Text}
    (h : splitDefinition? line = some (head, rest))
    (hword : word ∈ Text.words (rest.takeWhile (· ≠ '\n'))) : word ∈ Text.words line := by
  have hcut : Text.words rest = Text.words (rest.takeWhile (· ≠ '\n'))
      ++ Text.words (rest.dropWhile (· ≠ '\n')) := by
    rw [← Text.words_append, List.takeWhile_append_dropWhile]
    intro c hc
    have hfeed := List.head?_dropWhile_not (· ≠ '\n') rest
    rw [hc] at hfeed
    have hc' : c = '\n' := by simpa using hfeed
    rw [hc']
    exact Text.isWord_newline
  rw [← append_of_splitDefinition h, Text.words_append (head_of_splitDefinition h), hcut]
  exact List.mem_append_right _ (List.mem_append_left _ hword)

/-- A line is read in the same way with macros that agree on its words. -/
theorem MacroTable.expandLine_congr {macros others : MacroTable} {line : Text}
    (h : ∀ word ∈ Text.words line, others.get? word = macros.get? word) :
    others.expandLine line = macros.expandLine line := by
  unfold MacroTable.expandLine
  rcases hsplit : splitDefinition? line with _ | ⟨head, rest⟩
  · refine Text.mapWords_congr fun word hword => ?_
    rw [h word hword]
  · refine congrArg (head ++ ·) (Text.mapWords_congr fun word hword => ?_)
    rw [h word (words_of_splitDefinition hsplit hword)]

/-! ### Reading a directive -/

/-- The directive that a line is read as. -/
def MacroTable.directive? (macros : MacroTable) (line : Text) : Option Directive :=
  match Line.ofText (macros.expandLine line) with
  | .directive tokens => (Directive.ofTokens tokens).toOption
  | _ => none

theorem directive_eq_some_iff {macros : MacroTable} {line : Text} {directive : Directive} :
    macros.directive? line = some directive
      ↔ ∃ tokens, Line.ofText (macros.expandLine line) = .directive tokens
          ∧ Directive.ofTokens tokens = .ok directive := by
  unfold MacroTable.directive?
  rcases Line.ofText (macros.expandLine line) with text | text | tokens
  · exact ⟨fun h => (by cases h), fun ⟨_, h, _⟩ => (by cases h)⟩
  · exact ⟨fun h => (by cases h), fun ⟨_, h, _⟩ => (by cases h)⟩
  · rcases read : Directive.ofTokens tokens with stop | other
    · refine ⟨fun h => (by simp [read, Except.toOption] at h), ?_⟩
      rintro ⟨_, ⟨⟩, h⟩
      rw [read] at h
      cases h
    · constructor
      · intro h
        simp only [read, Except.toOption, Option.some.injEq] at h
        exact ⟨tokens, rfl, h ▸ read⟩
      · rintro ⟨_, ⟨⟩, h⟩
        rw [read] at h
        cases h
        simp [read, Except.toOption]

/-- More macros than before change nothing for a line if none of its words is among the new ones. -/
theorem directive_of_definitions {macros others : MacroTable} {line : Text} {new : Entries Text}
    (hentries : others.entries = macros.entries ++ new)
    (hnew : ∀ word ∈ Text.words line, ∀ e ∈ new, e.1 ≠ word) :
    others.directive? line = macros.directive? line := by
  have hsame : ∀ word ∈ Text.words line, others.get? word = macros.get? word := by
    intro word hword
    have hnone : new.lookup word = none := by
      rw [List.lookup_eq_none_iff]
      intro e he
      simpa using Ne.symm (hnew word hword e he)
    rw [MacroTable.get?, hentries, List.lookup_append, hnone, Option.or_none, MacroTable.get?]
  rw [MacroTable.directive?, MacroTable.expandLine_congr hsame, MacroTable.directive?]

/-! ### Runs but for their settings -/

section Settings

variable {σ : Type}

/-- The run with the settings of a source map in place of its own. -/
def Run.withSettings (settings : SourceMap) (run : Run σ) : Run σ :=
  { run with
    source := { run.source with
      workgroupCounts := settings.workgroupCounts
      dispatchOnce := settings.dispatchOnce
      dispatchCounts := settings.dispatchCounts } }

/-- The second run is the first but for its settings, its origins seen through a function. -/
def Apart (f : Int → Int) (a b : Run σ) : Prop :=
  ∃ settings, b = (a.relocate f {}).withSettings settings

theorem Apart.left {f : Int → Int} {a a' b : Run σ} {settings : SourceMap} (h : Apart f a b)
    (ha : a' = a.withSettings settings) : Apart f a' b := by
  obtain ⟨other, rfl⟩ := h
  subst ha
  exact ⟨other, rfl⟩

theorem Apart.right {f : Int → Int} {a b b' : Run σ} {settings : SourceMap} (h : Apart f a b)
    (hb : b' = b.withSettings settings) : Apart f a b' := by
  obtain ⟨other, rfl⟩ := h
  subst hb
  exact ⟨settings, rfl⟩

theorem apart_start (f : Int → Int) (defines : Entries Text) (world : σ) :
    Apart f (Run.start defines world) (Run.start defines world) := by
  refine ⟨{}, ?_⟩
  simp [Run.start, Run.withSettings, Run.relocate, SourceMap.relocate]

variable (settings : SourceMap) (run : Run σ)

theorem emit_withSettings (origin : Int) (line : Text) :
    (run.withSettings settings).emit origin line
      = (run.emit origin line).through id (·.withSettings settings) := by
  have hmode : (run.withSettings settings).stringMode = run.stringMode := rfl
  unfold Run.emit
  rw [hmode]
  rcases (if run.stringMode then encodeStrings line else some line) with _ | out <;> rfl

theorem ask_withSettings (resolver : Resolver σ) (path : Text) :
    (run.withSettings settings).ask resolver path
      = ((run.ask resolver path).1.withSettings settings, (run.ask resolver path).2) := by
  have hworld : (run.withSettings settings).world = run.world := rfl
  unfold Run.ask
  rw [hworld]
  rcases resolver.fetch path run.world with ⟨_ | _ | _, notes, world⟩ <;> rfl

/-- A directive that sets nothing does not look at the settings; one that does sets them in both
runs. -/
theorem obey_withSettings (origin : Int) (directive : Directive) :
    ObeyedAlike (fun a b => ∃ settings, b = Run.withSettings settings a)
      (run.obey origin directive) ((run.withSettings settings).obey origin directive) := by
  cases directive with
  | workgroupCount entry count =>
    exact .obeyed ⟨{ settings with
      workgroupCounts := settings.workgroupCounts.put entry count }, rfl⟩
  | dispatchOnce entry =>
    exact .obeyed ⟨{ settings with dispatchOnce := settings.dispatchOnce.put entry () }, rfl⟩
  | dispatchCount entry count =>
    exact .obeyed ⟨{ settings with
      dispatchCounts := settings.dispatchCounts.put entry count }, rfl⟩
  | includeText => exact .obeyed ⟨settings, rfl⟩
  | data => exact .obeyed ⟨settings, rfl⟩
  | define name value =>
    have hmacros : (run.withSettings settings).macros = run.macros := rfl
    simp only [Run.obey, hmacros]
    rcases run.macros.define? name value with _ | macros
    · exact .refused _
    · exact .obeyed ⟨settings, rfl⟩
  | storage name type =>
    have hcount : (run.withSettings settings).storageCount = run.storageCount := rfl
    simp only [Run.obey, hcount]
    split
    · exact .obeyed ⟨settings, rfl⟩
    · exact .refused _
  | assertion predicate =>
    have hcount : (run.withSettings settings).assertCount = run.assertCount := rfl
    simp only [Run.obey, hcount]
    split
    · exact .obeyed ⟨settings, rfl⟩
    · exact .refused _

/-- Nothing done at a line looks at the settings, or at the origins of earlier lines. -/
theorem corresponds_apart (resolver : Resolver σ) (f : Int → Int) :
    Corresponds resolver resolver f (Apart f) where
  macros := by
    rintro a _ ⟨settings, rfl⟩
    rfl
  hoist := by
    rintro a _ text ⟨settings, rfl⟩
    exact ⟨settings, rfl⟩
  emit := by
    rintro a _ origin line ⟨settings, rfl⟩
    rw [emit_withSettings, emit_relocate]
    rcases a.emit origin line with ⟨after, _ | stop⟩
    · exact .complete ⟨settings, rfl⟩
    · exact .stopped ⟨settings, rfl⟩ stop
  library := by
    rintro a _ path ⟨settings, rfl⟩
    unfold Run.noteLibrary
    split
    · exact ⟨settings, rfl⟩
    · exact ⟨settings, rfl⟩
  ask := by
    rintro a _ path ⟨settings, rfl⟩
    rw [ask_withSettings, ask_relocate]
    rcases a.ask resolver path with ⟨asked, _ | text⟩
    · exact .missing ⟨settings, rfl⟩
    · exact .found ⟨settings, rfl⟩ rfl
  obey := by
    rintro a _ origin directive ⟨settings, rfl⟩
    have hobeyed := obey_withSettings settings (a.relocate f {}) (f origin) directive
    rw [obey_relocate] at hobeyed
    generalize (a.relocate f {}).withSettings settings = b at hobeyed ⊢
    generalize a.obey origin directive = here, b.obey (f origin) directive = there at hobeyed ⊢
    rcases here with stop | after
    · cases hobeyed
      exact .refused stop
    · cases hobeyed with
      | obeyed runs => exact .obeyed runs

end Settings

/-! ### Lines that are passed -/

section Passes

variable {σ : Type} {resolver : Resolver σ} {f : Int → Int}

/-- Lines are processed without a stop: the deeds at them, and the run behind them. -/
structure Passes (resolver : Resolver σ) (lines : List (Int × Text)) (a : Run σ)
    (deeds : List (Int × Deed)) (b : Run σ) : Prop where
  processed : processLines (processLine resolver maxIncludeDepth) lines a = (b, none)
  traced : traceLines (processLine resolver maxIncludeDepth) (traceLine resolver maxIncludeDepth)
    lines a = deeds

variable {first rest lines : List (Int × Text)} {a b c : Run σ} {deeds : List (Int × Deed)}
  {line : Text} {directive : Directive} {kind : DispatchKind} {name : Text}

/-- Lines are passed one after the other. -/
theorem passes_append_iff :
    Passes resolver (first ++ rest) a deeds c
      ↔ ∃ b before behind, deeds = before ++ behind ∧ Passes resolver first a before b
          ∧ Passes resolver rest b behind c := by
  induction first generalizing a deeds with
  | nil =>
    constructor
    · intro h
      exact ⟨a, [], deeds, rfl, ⟨rfl, rfl⟩, h⟩
    · rintro ⟨b, _, behind, rfl, ⟨⟨⟩, rfl⟩, h⟩
      exact h
  | cons head first ih =>
    obtain ⟨origin, text⟩ := head
    rcases hstep : processLine resolver maxIncludeDepth origin text a with ⟨next, _ | stop⟩
    · constructor
      · rintro ⟨processed, traced⟩
        rw [List.cons_append, processLines, hstep] at processed
        rw [List.cons_append, traceLines, hstep] at traced
        obtain ⟨b, before, behind, hdeeds, hfirst, hrest⟩ := ih.mp ⟨processed, rfl⟩
        refine ⟨b, traceLine resolver maxIncludeDepth origin text a ++ before, behind, ?_, ⟨?_, ?_⟩,
          hrest⟩
        · rw [← traced, List.append_assoc, ← hdeeds]
        · rw [processLines, hstep]
          exact hfirst.processed
        · rw [traceLines, hstep]
          exact congrArg _ hfirst.traced
      · rintro ⟨b, before, behind, rfl, ⟨processed, traced⟩, hrest⟩
        rw [processLines, hstep] at processed
        rw [traceLines, hstep] at traced
        have hall := ih.mpr ⟨b, _, behind, rfl, ⟨processed, rfl⟩, hrest⟩
        refine ⟨?_, ?_⟩
        · rw [List.cons_append, processLines, hstep]
          exact hall.processed
        · rw [List.cons_append, traceLines, hstep, ← traced, List.append_assoc]
          exact congrArg _ hall.traced
    · constructor
      · rintro ⟨processed, _⟩
        rw [List.cons_append, processLines, hstep] at processed
        cases processed
      · rintro ⟨b, before, behind, _, ⟨processed, _⟩, _⟩
        rw [processLines, hstep] at processed
        cases processed

theorem Passes.append {before behind : List (Int × Deed)} (hfirst : Passes resolver first a before b)
    (hrest : Passes resolver rest b behind c) :
    Passes resolver (first ++ rest) a (before ++ behind) c :=
  passes_append_iff.mpr ⟨b, before, behind, rfl, hfirst, hrest⟩

/-- The macros behind lines are those before them and what the lines define. -/
theorem Passes.macros (h : Passes resolver lines a deeds b) (hlines : ∀ l ∈ lines, '\n' ∉ l.2) :
    b.macros.entries = a.macros.entries ++ definitionsOf deeds := by
  have hsteps : Steps resolver a _ _ := steps_processLines (steps_processLine maxIncludeDepth) hlines a
  rw [h.processed, h.traced] at hsteps
  exact (grows_steps hsteps).macros

/-- A run that is the same but for its settings passes the same lines. -/
theorem Passes.corresponds (h : Passes resolver lines a deeds b) (hac : Apart f a c) :
    ∃ d, Passes resolver (relocated f lines) c (relocatedDeeds f deeds) d ∧ Apart f b d := by
  have hapart := corresponds_apart resolver f
  have hends := processLines_corresponds (processLine_corresponds hapart maxIncludeDepth) lines hac
  have hmode : ∀ {a b : Run σ}, Apart f a b → b.stringMode = a.stringMode := by
    rintro a _ ⟨settings, rfl⟩
    rfl
  have htrace := traceLines_corresponds (processLine_corresponds hapart maxIncludeDepth)
    (traceLine_corresponds hapart hmode maxIncludeDepth) lines hac
  rw [h.processed] at hends
  rw [h.traced] at htrace
  generalize hend : processLines _ (relocated f lines) c = there at hends
  cases hends with
  | complete runs => exact ⟨_, ⟨hend, htrace⟩, runs⟩

variable (resolver) in
/-- A line that is read as a dispatch directive does no more than to set what it says. -/
theorem Passes.dispatch (hread : a.macros.directive? line = some directive)
    (hkind : directive.setting? = some (kind, name)) (origin : Int) :
    ∃ settings, Passes resolver [(origin, line)] a [(origin, .obeyed directive)]
      (a.withSettings settings) := by
  obtain ⟨tokens, hline, hdirective⟩ := directive_eq_some_iff.mp hread
  have hother : ∀ path argument, directive ≠ .includeText path argument := by
    rintro path argument rfl
    cases hkind
  have hobey : ∃ settings, a.obey origin directive = .ok (a.withSettings settings) := by
    cases directive with
    | workgroupCount entry count =>
      exact ⟨{ a.source with workgroupCounts := a.source.workgroupCounts.put entry count }, rfl⟩
    | dispatchOnce entry =>
      exact ⟨{ a.source with dispatchOnce := a.source.dispatchOnce.put entry () }, rfl⟩
    | dispatchCount entry count =>
      exact ⟨{ a.source with dispatchCounts := a.source.dispatchCounts.put entry count }, rfl⟩
    | _ => cases hkind
  obtain ⟨settings, hobey⟩ := hobey
  refine ⟨settings, ?_, ?_⟩
  · rw [processLines, processLine_directive hline hdirective hother, hobey]
    rfl
  · rw [traceLines, processLine_directive hline hdirective hother,
      traceLine_directive hline hdirective hother, hobey]
    rfl

/-! ### Passing the line -/

/-- A deed that a line must not be moved past: it defines a macro that is a word of the line, or
it sets the same as the line. -/
def Deed.bars (line : Text) (kind : DispatchKind) (name : Text) : Deed → Bool
  | .obeyed (.define word _) => (Text.words line).contains word
  | .obeyed directive => directive.setting? == some (kind, name)
  | _ => false

theorem not_mem_words_of_bars {word value : Text}
    (h : Deed.bars line kind name (.obeyed (.define word value)) = false) :
    word ∉ Text.words line := by
  simpa [Deed.bars] using h

/-- Deeds that do not bar a line define none of its words. -/
theorem ne_of_not_bars (h : ∀ d ∈ deeds, d.2.bars line kind name = false) :
    ∀ word ∈ Text.words line, ∀ e ∈ definitionsOf deeds, e.1 ≠ word := by
  rintro word hword e he rfl
  obtain ⟨⟨origin, deed⟩, hd, hdefinition⟩ := List.mem_filterMap.mp he
  have hbars := h _ hd
  rcases deed with text | text | (_ | _ | _ | _ | ⟨other, value⟩ | _ | _ | _)
  all_goals cases hdefinition
  exact not_mem_words_of_bars hbars hword

/-- Deeds that do not bar a line set nothing of what it sets. -/
theorem settingsOf_of_not_bars (h : ∀ d ∈ deeds, d.2.bars line kind name = false) :
    settingsOf kind name deeds = [] := by
  rw [settingsOf, List.filterMap_eq_nil_iff]
  rintro ⟨origin, deed⟩ hd
  have hbars := h _ hd
  rcases deed with text | text | directive
  · rfl
  · rfl
  · have hne : directive.setting? ≠ some (kind, name) := by
      cases directive with
      | define => simp [Directive.setting?]
      | _ => simpa [Deed.bars] using hbars
    simp [Deed.setting?, hne]

theorem settingsOf_relocatedDeeds (kind : DispatchKind) (name : Text) (f : Int → Int)
    (deeds : List (Int × Deed)) :
    settingsOf kind name (relocatedDeeds f deeds) = settingsOf kind name deeds := by
  rw [settingsOf, relocatedDeeds, List.filterMap_map]
  rfl

/-- What deeds set together with a directive does not depend on their order, if they do not bar
its line. -/
theorem settingsOf_swap (h : ∀ d ∈ deeds, d.2.bars line kind name = false)
    (hkind : directive.setting? = some (kind, name)) (origin origin' : Int) (kind' : DispatchKind)
    (name' : Text) :
    settingsOf kind' name' (deeds ++ [(origin', .obeyed directive)])
      = settingsOf kind' name' ([(origin, .obeyed directive)] ++ deeds) := by
  rw [settingsOf_append, settingsOf_append]
  by_cases hsame : (kind, name) = (kind', name')
  · cases hsame
    rw [settingsOf_of_not_bars h, List.append_nil]
    rfl
  · have hne : directive.setting? ≠ some (kind', name') := by
      rw [hkind]
      exact fun heq => hsame (Option.some.inj heq)
    rw [settingsOf_singleton_of_ne hne, settingsOf_singleton_of_ne hne, List.append_nil]
    rfl

variable (hbars : ∀ d ∈ deeds, d.2.bars line kind name = false)
  (hkind : directive.setting? = some (kind, name)) (hlines : ∀ l ∈ lines, '\n' ∉ l.2)

include hbars hkind hlines

/-- A run that is without the line passes the lines behind it, and then the line. -/
theorem Passes.later (hread : a.macros.directive? line = some directive)
    (h : Passes resolver lines a deeds b) (hac : Apart f a c) (origin : Int) :
    ∃ d, Passes resolver (relocated f lines ++ [(origin, line)]) c
        (relocatedDeeds f deeds ++ [(origin, .obeyed directive)]) d
      ∧ Apart f b d := by
  obtain ⟨c', hpassed, hapart⟩ := h.corresponds hac
  have hmacros : c'.macros = b.macros := (corresponds_apart resolver f).macros hapart
  have hread' : c'.macros.directive? line = some directive := by
    rw [hmacros, directive_of_definitions (h.macros hlines) (ne_of_not_bars hbars), hread]
  obtain ⟨settings, hline⟩ := Passes.dispatch resolver hread' hkind origin
  exact ⟨_, hpassed.append hline, hapart.right rfl⟩

/-- A run that is at the first of some lines passes the line behind them, and then them. -/
theorem Passes.earlier (hread : b.macros.directive? line = some directive)
    (h : Passes resolver lines a deeds b) (hac : Apart f a c) (origin : Int) :
    ∃ d, Passes resolver ([(origin, line)] ++ relocated f lines) c
        ([(origin, .obeyed directive)] ++ relocatedDeeds f deeds) d
      ∧ Apart f b d := by
  have hmacros : c.macros = a.macros := (corresponds_apart resolver f).macros hac
  have hread' : c.macros.directive? line = some directive := by
    rw [hmacros, ← directive_of_definitions (h.macros hlines) (ne_of_not_bars hbars), hread]
  obtain ⟨settings, hline⟩ := Passes.dispatch resolver hread' hkind origin
  have hset : Apart f a (c.withSettings settings) := hac.right rfl
  obtain ⟨d, hpassed, hapart⟩ := h.corresponds hset
  exact ⟨d, hline.append hpassed, hapart⟩

end Passes

end ShaderPlayer.Shader
