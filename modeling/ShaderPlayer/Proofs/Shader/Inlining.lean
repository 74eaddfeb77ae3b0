/-
Including a text is writing its lines in the place of the directive.

* `processLine_includeLine` — the directive asks for its path and processes the lines;
* `include_inlines` — a shader with the directive and the shader with the lines in its
  place come to the same, with the lines' origins at the directive and the request for
  the path between the others.  The name of the directive must be no macro, since
  macros are substituted first.
-/
import ShaderPlayer.Proofs.Shader.Reading
import ShaderPlayer.Proofs.Shader.Relocation
import ShaderPlayer.Proofs.Text.Characters
import ShaderPlayer.Proofs.Text.Lines

namespace ShaderPlayer.Shader

open SourceMap (terminated)

/-! ### The line of an include -/

/-- The line that includes a quoted path. -/
def includeLine (path : Text) : Text := "#include ".toList ++ '"' :: (path ++ ['"'])

/-- A path that stands for itself between quotes. -/
structure PlainPath (path : Text) : Prop where
  noQuote : '"' ∉ path
  noEscape : '\\' ∉ path
  noBlank : ∀ c ∈ path, Text.isBlank c = false
  noLineComment : ¬ ['/', '/'] <:+: path
  noBlockComment : ¬ ['/', '*'] <:+: path

theorem stripComments_of_noOpener {t : Text} (hline : ¬ ['/', '/'] <:+: t)
    (hblock : ¬ ['/', '*'] <:+: t) : stripComments t = t := by
  fun_induction stripComments t with
  | case1 => rfl
  | case2 rest _ => exact absurd (List.infix_cons_iff.mpr (.inl ⟨rest, rfl⟩)) hline
  | case3 rest after _ _ => exact absurd (List.infix_cons_iff.mpr (.inl ⟨rest, rfl⟩)) hblock
  | case4 rest _ _ => exact absurd (List.infix_cons_iff.mpr (.inl ⟨rest, rfl⟩)) hblock
  | case5 c rest _ _ ih =>
    rw [ih (fun h => hline (List.infix_cons_iff.mpr (.inr h)))
      (fun h => hblock (List.infix_cons_iff.mpr (.inr h)))]

theorem pair_infix_of_not_mem {a b : Char} {s t : Text} (ha : a ∉ s) (h : [a, b] <:+: s ++ t) :
    [a, b] <:+: t := by
  induction s with
  | nil => exact h
  | cons c s ih =>
    rw [List.mem_cons, not_or] at ha
    rw [List.cons_append, List.infix_cons_iff, List.cons_prefix_cons] at h
    rcases h with ⟨hc, _⟩ | h
    · exact absurd hc ha.1
    · exact ih ha.2 h

theorem pair_infix_of_ne_last {a b last : Char} (hb : b ≠ last) {t : Text}
    (h : [a, b] <:+: t ++ [last]) : [a, b] <:+: t := by
  induction t with
  | nil =>
    have hlength := h.length_le
    simp at hlength
  | cons c t ih =>
    rw [List.cons_append, List.infix_cons_iff, List.cons_prefix_cons] at h
    rw [List.infix_cons_iff]
    rcases h with ⟨rfl, h⟩ | h
    · cases t with
      | nil => exact absurd (List.cons_prefix_cons.mp h).1 hb
      | cons d t =>
        rw [List.cons_append, List.cons_prefix_cons] at h
        rw [h.1]
        exact .inl ⟨t, rfl⟩
    · exact .inr (ih h)

/-- A comment that opens in the line of an include opens in its path. -/
theorem opener_infix_path {x : Char} (hx : x ≠ '"') {path : Text}
    (h : ['/', x] <:+: includeLine path) : ['/', x] <:+: path := by
  have hquoted : ['/', x] <:+: ['"'] ++ (path ++ ['"']) :=
    pair_infix_of_not_mem (by decide) h
  exact pair_infix_of_ne_last hx (pair_infix_of_not_mem (by decide) hquoted)

/-- The words of the line are the directive's name and those of the path. -/
theorem words_includeLine (path : Text) :
    Text.words (includeLine path) = "include".toList :: Text.words path := by
  have hinclude : Text.words "include".toList = ["include".toList] := by decide +kernel
  calc Text.words (includeLine path)
      = Text.words ([] ++ '#' :: ("include".toList ++ ' ' :: ([] ++ '"' :: (path ++ '"' :: [])))) := rfl
    _ = "include".toList :: Text.words path := by
      rw [Text.words_append_cons (by decide), Text.words_append_cons (by decide),
        Text.words_append_cons (by decide), Text.words_append_cons (by decide), hinclude,
        Text.words, List.append_nil]
      rfl

theorem takeBody_quoted {path : Text} (hquote : '"' ∉ path) (hescape : '\\' ∉ path) :
    takeBody (path ++ ['"']) = some (path, []) := by
  induction path with
  | nil => rfl
  | cons c rest ih =>
    rw [List.mem_cons, not_or] at hquote hescape
    rw [List.cons_append, takeBody, ih hquote.2 hescape.2]
    · rfl
    · exact fun h => hquote.1 h.symm
    · exact fun d more h _ => hescape.1 h.symm
    · exact fun h _ => hescape.1 h.symm

/-- The argument of the directive: the path in its quotes. -/
def quotedPath (path : Text) : Text := '"' :: (path ++ ['"'])

theorem not_isBlank_of_mem_quotedPath {path : Text} (h : PlainPath path) :
    ∀ c ∈ quotedPath path, Text.isBlank c = false := by
  intro c hc
  rw [quotedPath, List.mem_cons, List.mem_append, List.mem_singleton] at hc
  rcases hc with rfl | hc | rfl
  · decide
  · exact h.noBlank c hc
  · decide

theorem tokens_includeLine {path : Text} (h : PlainPath path) :
    Text.tokens (includeLine path) = ["#include".toList, quotedPath path] := by
  have hkeyword : ∀ d ∈ "#include".toList, Text.isBlank d = false := by
    have hnone : "#include".toList.any Text.isBlank = false := by decide
    exact fun d hd => Bool.eq_false_iff.mpr (List.any_eq_false.mp hnone d hd)
  have hargument : Text.tokens (quotedPath path) = [quotedPath path] :=
    Text.tokens_single (not_isBlank_of_mem_quotedPath h)
  calc Text.tokens (includeLine path)
      = Text.tokens ('#' :: ("include".toList ++ (' ' :: quotedPath path))) := rfl
    _ = ('#' :: "include".toList) :: Text.tokens (' ' :: quotedPath path) :=
        Text.tokens_append hkeyword fun d hd => by cases hd; decide
    _ = ["#include".toList, quotedPath path] := by
        rw [Text.tokens_of_blank (by decide), hargument]
        rfl

theorem ofArgument_quotedPath {path : Text} (h : PlainPath path) :
    IncludePath.ofArgument? (quotedPath path) = some (.quoted path) := by
  have hbody : firstBody? (quotedPath path) = some path := by
    rw [quotedPath, firstBody?, takeBody_quoted h.noQuote h.noEscape]
  rw [IncludePath.ofArgument?, hbody]

/-- A line that defines nothing and whose words are no macros stays as it is. -/
theorem MacroTable.expandLine_eq_self {macros : MacroTable} {line : Text}
    (hdefinition : splitDefinition? line = none)
    (hwords : ∀ word ∈ Text.words line, macros.get? word = none) :
    macros.expandLine line = line := by
  rw [MacroTable.expandLine, hdefinition]
  refine Text.mapWords_of_forall fun word hword => ?_
  rw [hwords word hword, Option.getD_none]

theorem expandLine_includeLine {path : Text} {macros : MacroTable}
    (hmacros : ∀ word ∈ "include".toList :: Text.words path, macros.get? word = none) :
    macros.expandLine (includeLine path) = includeLine path := by
  have hbody : (includeLine path).dropWhile Text.isBlank = includeLine path :=
    List.dropWhile_cons_of_neg (by decide)
  have hkeyword : "#define".toList.isPrefixOf (includeLine path) = false := rfl
  have hsplit : splitDefinition? (includeLine path) = none := by
    simp only [splitDefinition?, hbody, hkeyword, Bool.false_eq_true, if_false]
  rw [← words_includeLine] at hmacros
  exact MacroTable.expandLine_eq_self hsplit hmacros

theorem ofText_includeLine {path : Text} (h : PlainPath path) :
    Line.ofText (includeLine path) = .directive ["#include".toList, quotedPath path] := by
  have hstart : (includeLine path).trimLeft = includeLine path :=
    List.dropWhile_cons_of_neg (by decide)
  have hsign : ['#'] <+: (includeLine path).trimLeft := by
    rw [hstart]
    exact ⟨_, rfl⟩
  have hcomments : stripComments (includeLine path) = includeLine path :=
    stripComments_of_noOpener (fun hopen => h.noLineComment (opener_infix_path (by decide) hopen))
      (fun hopen => h.noBlockComment (opener_infix_path (by decide) hopen))
  rw [ofText_sign hsign, hcomments, tokens_includeLine h]

theorem ofTokens_includeLine {path : Text} (h : PlainPath path) :
    Directive.ofTokens ["#include".toList, quotedPath path]
      = .ok (.includeText (.quoted path) (quotedPath path)) := by
  rw [Directive.ofTokens]
  simp only [if_true, ofArgument_quotedPath h]

/-! ### Processing the directive -/

variable {σ : Type} {resolver : Resolver σ} {path text : Text} {notes : List Note}

theorem processLine_includeLine (hpath : PlainPath path) {run : Run σ}
    (hmacros : ∀ word ∈ "include".toList :: Text.words path, run.macros.get? word = none)
    (hfetch : resolver.fetch path run.world = (.text text, notes, run.world)) (budget : Nat)
    (origin : Int) :
    processLine resolver (budget + 1) origin (includeLine path) run
      = processLines (processLine resolver budget) (text.lines.map fun l => (origin, l))
          { run with asked := run.asked.push path, notes := run.notes ++ notes.toArray } := by
  have kind : Line.ofText (run.macros.expandLine (includeLine path))
      = .directive ["#include".toList, quotedPath path] := by
    rw [expandLine_includeLine hmacros, ofText_includeLine hpath]
  have hlibrary : run.noteLibrary (.quoted path) = run := if_neg (by rintro ⟨⟩)
  have hask : run.ask resolver path
      = ({ run with asked := run.asked.push path, notes := run.notes ++ notes.toArray },
          some text) := by
    rw [Run.ask, hfetch]
  have hrequest : (IncludePath.quoted path).request = path := rfl
  rw [processLine_include kind (ofTokens_includeLine hpath), hlibrary, hrequest, hask]

theorem relocate_id (past : Past) (run : Run σ) :
    ({ run with asked := #[], notes := #[] } : Run σ).relocate id past
      = { run with asked := past.asked, notes := past.notes } := by
  simp [Run.relocate, SourceMap.relocate]

theorem processLines_relocate_id (budget : Nat) (past : Past) (lines : List (Int × Text))
    (run : Run σ) :
    processLines (processLine resolver budget) lines
        { run with asked := past.asked, notes := past.notes }
      = Halted.relocate id past (processLines (processLine resolver budget) lines
          { run with asked := #[], notes := #[] }) := by
  have h : processLines (processLine resolver budget) (lines.map fun l => (id l.1, l.2))
        (({ run with asked := #[], notes := #[] } : Run σ).relocate id past)
      = Halted.relocate id past (processLines (processLine resolver budget) lines
          { run with asked := #[], notes := #[] }) :=
    processLines_relocate (processLine_relocate budget) lines
  have hlines : (lines.map fun l => (id l.1, l.2)) = lines := List.map_id lines
  rwa [relocate_id, hlines] at h

/-- Where the directive is not too deep, it does what its lines do in its place, behind
the request for its path. -/
theorem processLines_includeLine (hpath : PlainPath path) {run : Run σ}
    (hmacros : ∀ word ∈ "include".toList :: Text.words path, run.macros.get? word = none)
    (hfetch : resolver.fetch path run.world = (.text text, notes, run.world)) {budget : Nat}
    {origin : Int} {rest : List (Int × Text)}
    (hdepth : ¬ Halted.TooDeep (processLines (processLine resolver (budget + 1))
      ((origin, includeLine path) :: rest) run)) :
    processLines (processLine resolver (budget + 1)) ((origin, includeLine path) :: rest) run
      = processLines (processLine resolver (budget + 1))
          ((text.lines.map fun l => (origin, l)) ++ rest)
          { run with asked := run.asked.push path, notes := run.notes ++ notes.toArray } := by
  rw [processLines, processLine_includeLine hpath hmacros hfetch] at hdepth ⊢
  generalize ({ run with
    asked := run.asked.push path, notes := run.notes ++ notes.toArray } : Run σ) = asked at hdepth ⊢
  have hinner : ¬ Halted.TooDeep (processLines (processLine resolver budget)
      (text.lines.map fun l => (origin, l)) asked) := by
    rintro ⟨line, hline⟩
    refine hdepth ⟨line, ?_⟩
    rcases hend : processLines (processLine resolver budget)
      (text.lines.map fun l => (origin, l)) asked with ⟨run', _ | stop⟩
    · rw [hend] at hline
      cases hline
    · rw [hend] at hline
      exact hline
  rw [processLines_append, processLines_deeper (processLine_deeper budget) hinner]

/-! ### Numbered lines -/

/-- The lines with their numbers, the first of which is given. -/
def numbered : Int → List Text → List (Int × Text)
  | _, [] => []
  | number, line :: lines => (number, line) :: numbered (number + 1) lines

theorem numbered_append (number : Int) (first rest : List Text) :
    numbered number (first ++ rest)
      = numbered number first ++ numbered (number + first.length) rest := by
  induction first generalizing number with
  | nil =>
    rw [List.nil_append, List.length_nil, Int.natCast_zero, Int.add_zero]
    rfl
  | cons line first ih =>
    rw [List.cons_append, numbered, numbered, ih, List.cons_append, List.length_cons]
    congr 3
    omega

theorem mem_of_mem_numbered {number : Int} {lines : List Text} {l : Int × Text}
    (h : l ∈ numbered number lines) : l.2 ∈ lines := by
  induction lines generalizing number with
  | nil => exact absurd h List.not_mem_nil
  | cons line lines ih =>
    rcases List.mem_cons.mp h with rfl | h
    · exact List.mem_cons_self
    · exact List.mem_cons_of_mem _ (ih h)

theorem numberedLines_eq (t : Text) : numberedLines t = numbered 1 t.lines := by
  have h : ∀ (ls : List Text) (n : Nat),
      ((ls.zipIdx n).map fun l => ((l.2 : Int) + 1, l.1)) = numbered (n + 1) ls := by
    intro ls
    induction ls with
    | nil =>
      intro n
      rfl
    | cons line ls ih =>
      intro n
      rw [List.zipIdx_cons, List.map_cons, ih, numbered]
      rfl
  exact h t.lines 0

/-- A text that was put together from lines is read as these, numbered from one. -/
theorem numberedLines_flatMap_terminated {lines : List Text} (hfeed : ∀ l ∈ lines, '\n' ∉ l)
    (hreturn : ∀ l ∈ lines, '\r' ∉ l) :
    numberedLines (lines.flatMap terminated) = numbered 1 lines := by
  rw [numberedLines_eq, Text.lines_flatMap_terminated hfeed fun l hl hlast =>
    hreturn l hl (List.mem_of_getLast? hlast)]

/-- Lines that move by the same distance. -/
theorem map_numbered_of_shift {f : Int → Int} {number distance : Int} {lines : List Text}
    (h : ∀ k, number ≤ k → k < number + lines.length → f k = k + distance) :
    (numbered number lines).map (fun l => (f l.1, l.2)) = numbered (number + distance) lines := by
  induction lines generalizing number with
  | nil => rfl
  | cons line lines ih =>
    rw [List.length_cons] at h
    have hnext : number + 1 + distance = number + distance + 1 := by omega
    rw [numbered, List.map_cons, numbered, h number (by omega) (by omega),
      ih fun k hk hk' => h k (by omega) (by omega), hnext]

/-- Lines that come to count as one. -/
theorem map_numbered_of_const {f : Int → Int} {number origin : Int} {lines : List Text}
    (h : ∀ k, number ≤ k → k < number + lines.length → f k = origin) :
    (numbered number lines).map (fun l => (f l.1, l.2)) = lines.map fun l => (origin, l) := by
  induction lines generalizing number with
  | nil => rfl
  | cons line lines ih =>
    rw [List.length_cons] at h
    rw [numbered, List.map_cons, List.map_cons, h number (by omega) (by omega),
      ih fun k hk hk' => h k (by omega) (by omega)]

/-- The line of the shader with a directive for a line of the shader with `inside` lines
in its place, behind `before` others. -/
def inlinedOrigin (before inside : Nat) (k : Int) : Int :=
  if k ≤ before then k else if k ≤ before + inside then before + 1 else k - inside + 1

theorem map_inlinedOrigin (before inside after : List Text) :
    (numbered 1 (before ++ inside ++ after)).map
        (fun l => (inlinedOrigin before.length inside.length l.1, l.2))
      = numbered 1 before ++ ((inside.map fun l => ((before.length : Int) + 1, l))
        ++ numbered (before.length + 2) after) := by
  have hbefore : (numbered 1 before).map
        (fun l => (inlinedOrigin before.length inside.length l.1, l.2))
      = numbered (1 + 0) before := by
    refine map_numbered_of_shift fun k _ hk => ?_
    rw [inlinedOrigin, if_pos (by omega), Int.add_zero]
  have hinside : (numbered (1 + before.length) inside).map
        (fun l => (inlinedOrigin before.length inside.length l.1, l.2))
      = inside.map fun l => ((before.length : Int) + 1, l) := by
    refine map_numbered_of_const fun k hk hk' => ?_
    rw [inlinedOrigin, if_neg (by omega), if_pos (by omega)]
  have hafter : (numbered (1 + before.length + inside.length) after).map
        (fun l => (inlinedOrigin before.length inside.length l.1, l.2))
      = numbered (1 + before.length + inside.length + (1 - inside.length)) after := by
    refine map_numbered_of_shift fun k hk _ => ?_
    rw [inlinedOrigin, if_neg (by omega), if_neg (by omega)]
    omega
  have hnext : (1 : Int) + before.length + inside.length + (1 - inside.length)
      = before.length + 2 := by omega
  rw [List.append_assoc, numbered_append, numbered_append, List.map_append, List.map_append,
    hbefore, hinside, hafter, hnext, Int.add_zero]

/-! ### The two shaders -/

/-- A resolver that answers without changing its state. -/
def Resolver.Stateless (resolver : Resolver σ) : Prop :=
  ∀ path world, (resolver.fetch path world).2.2 = world

theorem world_step (hstateless : resolver.Stateless) {a b : Run σ} {deeds : List (Int × Deed)}
    (h : Step resolver a deeds b) : b.world = a.world := by
  cases h with
  | hoist => rfl
  | emit => rfl
  | obey _ _ _ obeyed => rw [frame_obey obeyed]
  | library path =>
    unfold Run.noteLibrary
    split <;> rfl
  | ask path =>
    have hworld := hstateless path a.world
    unfold Run.ask
    rcases hfetch : resolver.fetch path a.world with ⟨_ | _ | _, notes, world⟩
    all_goals
      rw [hfetch] at hworld
      exact hworld

theorem world_processLines (hstateless : resolver.Stateless) (budget : Nat)
    {lines : List (Int × Text)} (hlines : ∀ l ∈ lines, '\n' ∉ l.2) (run : Run σ) :
    (processLines (processLine resolver budget) lines run).1.world = run.world :=
  (steps_processLines (steps_processLine budget) hlines run).keeps
    (fun step hworld => (world_step hstateless step).trans hworld) rfl

/-- How a run ended that was stopped so, or not at all. -/
def Ending.ofStop : Option Located → Ending
  | none => .complete
  | some ⟨.defect cause, line⟩ => .reported (cause.report line)
  | some ⟨.numeral digits, _⟩ => .numeral digits

/-- The ending with the line of its report seen through a function. -/
def Ending.relocate (f : Int → Int) : Ending → Ending
  | .reported report => .reported { report with line := f report.line }
  | ending => ending

theorem ofStop_eq_complete_iff {stop : Option Located} :
    Ending.ofStop stop = .complete ↔ stop = none := by
  rcases stop with _ | ⟨_ | _, _⟩
  · exact ⟨fun _ => rfl, fun _ => rfl⟩
  · exact ⟨fun h => (by cases h), fun h => (by cases h)⟩
  · exact ⟨fun h => (by cases h), fun h => (by cases h)⟩

theorem ofStop_relocate (f : Int → Int) (stop : Option Located) :
    Ending.ofStop (stop.map (·.relocate f)) = (Ending.ofStop stop).relocate f := by
  rcases stop with _ | ⟨_ | _, _⟩ <;> rfl

theorem shader_eq (text : Text) (run : Run σ) :
    run.shader resolver text
      = ((processLines (processLine resolver maxIncludeDepth) (numbered 1 text.lines) run).1,
        .ofStop (processLines (processLine resolver maxIncludeDepth) (numbered 1 text.lines) run).2) := by
  unfold Run.shader
  rw [numberedLines_eq]
  rcases processLines (processLine resolver maxIncludeDepth) (numbered 1 text.lines) run with
    ⟨after, _ | ⟨_ | _, _⟩⟩ <;> rfl

/-- A shader that is given as its lines. -/
theorem shader_flatMap_terminated {lines : List Text} (hfeed : ∀ l ∈ lines, '\n' ∉ l)
    (hreturn : ∀ l ∈ lines, l.getLast? ≠ some '\r') (run : Run σ) :
    run.shader resolver (lines.flatMap terminated)
      = ((processLines (processLine resolver maxIncludeDepth) (numbered 1 lines) run).1,
        .ofStop (processLines (processLine resolver maxIncludeDepth) (numbered 1 lines) run).2) := by
  rw [shader_eq, Text.lines_flatMap_terminated hfeed hreturn]

theorem lines_includeLine {path : Text} (h : PlainPath path) :
    '\n' ∉ includeLine path ∧ (includeLine path).getLast? ≠ some '\r' := by
  constructor
  · intro hn
    unfold includeLine at hn
    rw [List.mem_append] at hn
    rcases hn with hn | hn
    · exact absurd hn (by decide)
    · have hblank := not_isBlank_of_mem_quotedPath h '\n' hn
      exact absurd hblank (by decide)
  · unfold includeLine
    rw [← List.cons_append, ← List.append_assoc, List.getLast?_concat]
    decide

/-- What a run that reaches a directive and the same run with the lines in its place
have in common: all but the origins and what was asked. -/
structure Run.Inlines (f : Int → Int) (included written : Run σ) : Prop where
  source : included.source = written.source.relocate f
  macros : included.macros = written.macros
  storageCount : included.storageCount = written.storageCount
  assertCount : included.assertCount = written.assertCount
  stringMode : included.stringMode = written.stringMode

/-- Two runs that are one run behind two pasts. -/
theorem inlines_of_relocate {f : Int → Int} {included written : Halted σ} {past past' past'' : Past}
    {common : Halted σ} (hincluded : included = Halted.relocate id past common)
    (hwritten : Halted.relocate f past' written = Halted.relocate id past'' common) :
    included.1.Inlines f written.1 ∧ Ending.ofStop included.2 = (Ending.ofStop written.2).relocate f := by
  have hrun : written.1.relocate f past' = common.1.relocate id past'' := congrArg Prod.fst hwritten
  have hstop : written.2.map (·.relocate f) = common.2.map (·.relocate id) :=
    congrArg Prod.snd hwritten
  subst hincluded
  refine ⟨⟨?_, ?_, ?_, ?_, ?_⟩, ?_⟩
  · exact (congrArg Run.source hrun).symm
  · exact (congrArg Run.macros hrun).symm
  · exact (congrArg Run.storageCount hrun).symm
  · exact (congrArg Run.assertCount hrun).symm
  · exact (congrArg Run.stringMode hrun).symm
  · rw [← ofStop_relocate, hstop]
    rfl

theorem asked_of_relocate {f : Int → Int} {included written : Halted σ} {past past' : Past}
    {common : Halted σ} (hincluded : included = Halted.relocate id past common)
    (hwritten : Halted.relocate f {} written = Halted.relocate id past' common) :
    included.1.asked = past.asked ++ common.1.asked
      ∧ written.1.asked = past'.asked ++ common.1.asked := by
  have hasked : (Halted.relocate f {} written).1.asked = past'.asked ++ common.1.asked :=
    congrArg (fun halted : Halted σ => halted.1.asked) hwritten
  constructor
  · rw [hincluded]
    rfl
  · simpa only [Halted.relocate, Run.relocate, Array.empty_append] using hasked

/-- What comes after lines that do not stop. -/
def Halted.andThen (halted : Halted σ) (next : Run σ → Halted σ) : Halted σ :=
  match halted with
  | (run, none) => next run
  | (run, some stop) => (run, some stop)

theorem processLines_andThen (step : Int → Text → Run σ → Halted σ)
    (first rest : List (Int × Text)) (run : Run σ) :
    processLines step (first ++ rest) run
      = Halted.andThen (processLines step first run) (processLines step rest) :=
  processLines_append step first rest run

/-- The lines before the directive are processed first in both runs.  Where they stop,
the runs end there; else the rest is the same behind different pasts. -/
theorem processLines_inlined (hpath : PlainPath path) {budget : Nat} {before after : List Text}
    {run : Run σ} (hrun : run.relocate (inlinedOrigin before.length text.lines.length) {} = run) :
    let step := processLine resolver (budget + 1)
    let first := processLines step (numbered 1 before) run
    let included := processLines step (numbered 1 (before ++ includeLine path :: after)) run
    let written := processLines step (numbered 1 (before ++ text.lines ++ after)) run
    (first.2 = none →
      (∀ word ∈ "include".toList :: Text.words path, first.1.macros.get? word = none)
        ∧ resolver.fetch path first.1.world = (.text text, notes, first.1.world)) →
    ¬ Halted.TooDeep included →
    ∃ past past' common, included = Halted.relocate id past common
      ∧ Halted.relocate (inlinedOrigin before.length text.lines.length) {} written
        = Halted.relocate id past' common
      ∧ (first.2 = none → past.asked = first.1.asked.push path ∧ past'.asked = first.1.asked)
      ∧ (first.2 ≠ none → past = past') := by
  intro step first included written hfirst hdepth
  have hone : (1 : Int) + before.length = before.length + 1 := by omega
  have hnext : (before.length : Int) + 1 + 1 = before.length + 2 := by omega
  have hincluded : included = Halted.andThen first (processLines step
      (((before.length : Int) + 1, includeLine path) :: numbered (before.length + 2) after)) := by
    show processLines step (numbered 1 (before ++ includeLine path :: after)) run = _
    rw [numbered_append, processLines_andThen, numbered, hone, hnext]
  have hwritten : Halted.relocate (inlinedOrigin before.length text.lines.length) {} written
      = Halted.andThen first (processLines step
          ((text.lines.map fun l => ((before.length : Int) + 1, l))
            ++ numbered (before.length + 2) after)) := by
    rw [← processLines_relocate (processLine_relocate (budget + 1)), hrun, map_inlinedOrigin,
      processLines_andThen]
  rcases hend : first with ⟨r, _ | stop⟩
  · rw [hend] at hincluded hwritten hfirst
    obtain ⟨hmacros, hfetch⟩ := hfirst rfl
    refine ⟨⟨r.asked.push path, r.notes ++ notes.toArray⟩, ⟨r.asked, r.notes⟩,
      processLines step ((text.lines.map fun l => ((before.length : Int) + 1, l))
        ++ numbered (before.length + 2) after) { r with asked := #[], notes := #[] },
      ?_, ?_, fun _ => ⟨rfl, rfl⟩, fun h => absurd rfl h⟩
    · rw [hincluded, Halted.andThen] at hdepth ⊢
      rw [processLines_includeLine hpath hmacros hfetch hdepth]
      exact processLines_relocate_id (budget + 1) ⟨_, _⟩ _ r
    · rw [hwritten]
      exact processLines_relocate_id (budget + 1) ⟨r.asked, r.notes⟩ _ r
  · rw [hend] at hincluded hwritten
    have hsame : ((r, some stop) : Halted σ)
        = Halted.relocate id ⟨r.asked, r.notes⟩ ({ r with asked := #[], notes := #[] }, some stop) := by
      rw [Halted.relocate, relocate_id]
      rfl
    refine ⟨⟨r.asked, r.notes⟩, ⟨r.asked, r.notes⟩, _, hincluded.trans hsame,
      hwritten.trans hsame, fun h => (by cases h), fun _ => rfl⟩

/-- At the start there is nothing to relocate. -/
theorem relocate_start (f : Int → Int) (defines : Entries Text) (world : σ) :
    (Run.start defines world).relocate f {} = Run.start defines world := by
  simp [Run.relocate, Run.start, SourceMap.relocate]

/-- Including is inlining: a shader with a directive and the shader with the lines of the
included text in its place come to the same. -/
theorem include_inlines (hstateless : resolver.Stateless) (defines : Entries Text) (world : σ)
    (hpath : PlainPath path) (hfetch : resolver.fetch path world = (.text text, notes, world))
    {before after : List Text} (hfeed : ∀ l ∈ before ++ after, '\n' ∉ l)
    (hreturn : ∀ l ∈ before ++ after ++ text.lines, l.getLast? ≠ some '\r') :
    let start := Run.start defines world
    let f := inlinedOrigin before.length text.lines.length
    let first := start.shader resolver (before.flatMap terminated)
    let included := start.shader resolver
      ((before ++ includeLine path :: after).flatMap terminated)
    let written := start.shader resolver ((before ++ text.lines ++ after).flatMap terminated)
    (first.2 = .complete →
      ∀ word ∈ "include".toList :: Text.words path, first.1.macros.get? word = none) →
    (∀ line, included.2 ≠ .reported (Cause.depthLimit.report line)) →
    included.1.Inlines f written.1 ∧ included.2 = written.2.relocate f
      ∧ (first.2 = .complete → ∃ rest, included.1.asked = first.1.asked.push path ++ rest
          ∧ written.1.asked = first.1.asked ++ rest)
      ∧ (first.2 ≠ .complete → included.1.asked = written.1.asked) := by
  intro start f first included written hmacros hdepth
  rw [List.forall_mem_append] at hfeed hreturn
  obtain ⟨hfeed₁, hfeed₂⟩ := hfeed
  obtain ⟨hreturn, hreturn₃⟩ := hreturn
  obtain ⟨hreturn₁, hreturn₂⟩ := List.forall_mem_append.mp hreturn
  obtain ⟨hfeed, hlast⟩ := lines_includeLine hpath
  have hfeedIncluded : ∀ l ∈ before ++ includeLine path :: after, '\n' ∉ l :=
    List.forall_mem_append.mpr ⟨hfeed₁, List.forall_mem_cons.mpr ⟨hfeed, hfeed₂⟩⟩
  have hreturnIncluded : ∀ l ∈ before ++ includeLine path :: after, l.getLast? ≠ some '\r' :=
    List.forall_mem_append.mpr ⟨hreturn₁, List.forall_mem_cons.mpr ⟨hlast, hreturn₂⟩⟩
  have hfeedWritten : ∀ l ∈ before ++ text.lines ++ after, '\n' ∉ l :=
    List.forall_mem_append.mpr
      ⟨List.forall_mem_append.mpr ⟨hfeed₁, Text.newline_not_mem_lines text⟩, hfeed₂⟩
  have hreturnWritten : ∀ l ∈ before ++ text.lines ++ after, l.getLast? ≠ some '\r' :=
    List.forall_mem_append.mpr ⟨List.forall_mem_append.mpr ⟨hreturn₁, hreturn₃⟩, hreturn₂⟩
  have hfirst : first = _ := shader_flatMap_terminated hfeed₁ hreturn₁ start
  have hincluded : included = _ :=
    shader_flatMap_terminated hfeedIncluded hreturnIncluded start
  have hwritten : written = _ := shader_flatMap_terminated hfeedWritten hreturnWritten start
  rw [hfirst] at hmacros ⊢
  rw [hincluded] at hdepth ⊢
  rw [hwritten]
  simp only [ofStop_eq_complete_iff] at hmacros ⊢
  have hnumbered : ∀ l ∈ numbered 1 before, '\n' ∉ l.2 := fun l hl =>
    hfeed₁ l.2 (mem_of_mem_numbered hl)
  have hworld := world_processLines hstateless (15 + 1) hnumbered start
  obtain ⟨past, past', common, hpast, hpast', hasked, hsame⟩ :=
    @processLines_inlined σ resolver path text notes hpath 15 before after start
      (relocate_start _ defines world)
      (fun hend => ⟨hmacros hend, by rw [hworld]; exact hfetch⟩)
      (fun ⟨line, hline⟩ => hdepth line (congrArg Ending.ofStop hline))
  obtain ⟨hinlines, hending⟩ := inlines_of_relocate hpast hpast'
  obtain ⟨hincludedAsked, hwrittenAsked⟩ := asked_of_relocate hpast hpast'
  refine ⟨hinlines, hending, ?_, ?_⟩
  · intro hend
    obtain ⟨hpush, hkeep⟩ := hasked hend
    rw [hpush] at hincludedAsked
    rw [hkeep] at hwrittenAsked
    exact ⟨common.1.asked, hincludedAsked, hwrittenAsked⟩
  · intro hend
    rw [Ne, ofStop_eq_complete_iff] at hend
    rw [hsame hend] at hincludedAsked
    exact hincludedAsked.trans hwrittenAsked.symm

/-- A dictionary of one text. -/
def oneText : Resolver Unit := Resolver.dictionary [("p".toList, "x\n".toList)]

theorem stateless_oneText : oneText.Stateless := fun _ _ => rfl

theorem plainPath_p : PlainPath "p".toList where
  noQuote := by decide
  noEscape := by decide
  noBlank := by
    have hnone : "p".toList.any Text.isBlank = false := by decide
    exact fun c hc => Bool.eq_false_iff.mpr (List.any_eq_false.mp hnone c hc)
  noLineComment := fun h => absurd h.length_le (by decide)
  noBlockComment := fun h => absurd h.length_le (by decide)

theorem include_inlines_oneText :
    let text := "x\n".toList
    let start := Run.start [] ()
    let f := inlinedOrigin 1 (Text.lines text).length
    let included := start.shader oneText
      ((["a".toList] ++ includeLine "p".toList :: ["b".toList]).flatMap terminated)
    let written := start.shader oneText
      ((["a".toList] ++ Text.lines text ++ ["b".toList]).flatMap terminated)
    included.1.Inlines f written.1 ∧ included.2 = written.2.relocate f := by
  intro text start f included written
  have hfetch : oneText.fetch "p".toList () = (.text text, [], ()) := by decide
  have hfeed : ∀ l ∈ ["a".toList] ++ ["b".toList], '\n' ∉ l := by decide
  have hreturn : ∀ l ∈ ["a".toList] ++ ["b".toList] ++ Text.lines text, l.getLast? ≠ some '\r' := by
    decide
  have hmacros : (start.shader oneText (["a".toList].flatMap terminated)).2 = .complete →
      ∀ word ∈ "include".toList :: Text.words "p".toList,
        (start.shader oneText (["a".toList].flatMap terminated)).1.macros.get? word = none := by
    decide +kernel
  have hcomplete : included.2 = .complete := by decide +kernel
  have hdepth : ∀ line, included.2 ≠ .reported (Cause.depthLimit.report line) := by
    intro line h
    rw [hcomplete] at h
    cases h
  obtain ⟨hinlines, hending, _⟩ := include_inlines stateless_oneText [] () plainPath_p hfetch hfeed
    hreturn hmacros hdepth
  exact ⟨hinlines, hending⟩

/-- Where the name of the directive is a macro, the lines in its place are processed and
the directive is not, though no word of the path is a macro. -/
theorem include_renamed :
    let start := Run.start [] ()
    let before := ["#define include foo".toList]
    let first := start.shader oneText (before.flatMap terminated)
    let included := start.shader oneText ((before ++ [includeLine "p".toList]).flatMap terminated)
    let written := start.shader oneText ((before ++ Text.lines "x\n".toList).flatMap terminated)
    first.2 = .complete ∧ first.1.macros.get? "p".toList = none
      ∧ included.2 = .reported (Cause.unknownDirective.report 2) ∧ written.2 = .complete := by
  decide +kernel

end ShaderPlayer.Shader
