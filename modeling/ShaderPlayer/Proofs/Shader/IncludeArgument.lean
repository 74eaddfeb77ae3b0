/-
The argument of an include.

What is asked of the resolver is found in the argument: the body of the first string literal in it,
or, if it has no literal, what the first chevron and the last one that closes have between them.
Quotes and chevrons may stand anywhere in the argument, so something is found in arguments that no
quotes and no chevrons enclose.

* `takeBody_eq_some_iff`, `firstBody_eq_some_iff` — a literal begins at the first quote or nowhere;
* `ofArgument_eq_some_iff` — what is found in an argument;
* `Encloses.finds`, `Exact.finds_iff` — what encloses an argument is found in it, and where nothing
  but the whole is found, nothing else;
* `include_argument` — at every moment of a run, what the next line asks for, and when it is refused.
-/
import ShaderPlayer.Proofs.Shader.Redefinition
import ShaderPlayer.Proofs.Shader.StringLiteral

namespace ShaderPlayer

/-! ### Before and behind a character -/

namespace Text

variable {c : Char} {t before after : Text}

theorem dropWhile_ne_of_not_mem (h : c ∉ before) (after : Text) :
    (before ++ c :: after).dropWhile (· ≠ c) = c :: after := by
  have hall : ∀ d ∈ before, decide (d ≠ c) = true := fun d hd =>
    decide_eq_true fun heq => h (heq ▸ hd)
  refine (Shader.span_of_forall hall fun d hd => ?_).2
  obtain rfl := Option.some.inj hd
  exact decide_eq_false (not_not_intro rfl)

theorem afterFirst_eq_some_iff :
    afterFirst? c t = some after ↔ ∃ before, c ∉ before ∧ t = before ++ c :: after := by
  constructor
  · intro h
    by_cases hmem : c ∈ t
    · obtain ⟨before, rest, rfl, hfirst⟩ := List.eq_append_cons_of_mem hmem
      rw [afterFirst?, dropWhile_ne_of_not_mem hfirst] at h
      obtain rfl := Option.some.inj h
      exact ⟨before, hfirst, rfl⟩
    · have hnone : t.dropWhile (· ≠ c) = [] := List.dropWhile_eq_nil_iff.mpr fun d hd =>
        decide_eq_true fun heq => hmem (heq ▸ hd)
      rw [afterFirst?, hnone] at h
      cases h
  · rintro ⟨before, hfirst, rfl⟩
    rw [afterFirst?, dropWhile_ne_of_not_mem hfirst]

theorem beforeLast_eq_some_iff :
    beforeLast? c t = some before ↔ ∃ after, c ∉ after ∧ t = before ++ c :: after := by
  have hreverse : beforeLast? c t = (afterFirst? c t.reverse).map List.reverse := by
    unfold beforeLast? afterFirst?
    rcases t.reverse.dropWhile (· ≠ c) with _ | ⟨_, rest⟩ <;> rfl
  rw [hreverse, Option.map_eq_some_iff]
  constructor
  · rintro ⟨rest, hrest, rfl⟩
    obtain ⟨first, hfirst, heq⟩ := afterFirst_eq_some_iff.mp hrest
    refine ⟨first.reverse, fun h => hfirst (List.mem_reverse.mp h), ?_⟩
    simpa using congrArg List.reverse heq
  · rintro ⟨after, hlast, rfl⟩
    refine ⟨before.reverse, afterFirst_eq_some_iff.mpr ⟨after.reverse, ?_, by simp⟩,
      List.reverse_reverse before⟩
    exact fun h => hlast (List.mem_reverse.mp h)

end Text

namespace Shader

/-! ### The first literal -/

/-- There is a string literal in the text. -/
def HasLiteral (t : Text) : Prop :=
  ∃ (before : Text) (body : List BodyUnit) (after : Text),
    t = before ++ '"' :: (bodyText body ++ '"' :: after)

theorem takeBody_eq_some_iff {t read after : Text} :
    takeBody t = some (read, after)
      ↔ ∃ body, read = bodyText body ∧ t = bodyText body ++ '"' :: after := by
  constructor
  · intro h
    fun_induction takeBody t generalizing read with
    | case1 => cases h
    | case2 rest =>
      obtain ⟨rfl, rfl⟩ := Prod.mk.inj (Option.some.inj h)
      exact ⟨[], rfl, rfl⟩
    | case3 => cases h
    | case4 c rest noFeed ih =>
      obtain ⟨⟨inner, behind⟩, hinner, heq⟩ := Option.map_eq_some_iff.mp h
      obtain ⟨rfl, rfl⟩ := Prod.mk.inj heq
      obtain ⟨body, rfl, rfl⟩ := ih hinner
      exact ⟨.pair c noFeed :: body, rfl, rfl⟩
    | case5 => cases h
    | case6 c rest noQuote noPair noEnd ih =>
      have noEscape : c ≠ '\\' := by
        rintro rfl
        rcases rest with _ | ⟨next, rest⟩
        · exact noEnd rfl rfl
        · exact noPair next rest rfl rfl
      obtain ⟨⟨inner, behind⟩, hinner, heq⟩ := Option.map_eq_some_iff.mp h
      obtain ⟨rfl, rfl⟩ := Prod.mk.inj heq
      obtain ⟨body, rfl, rfl⟩ := ih hinner
      exact ⟨.char c noQuote noEscape :: body, rfl, rfl⟩
  · rintro ⟨body, rfl, rfl⟩
    exact takeBody_bodyText body after

/-- Text in front of the first quote has no literal in it. -/
theorem firstBody_append {t : Text} (ht : '"' ∉ t) (rest : Text) :
    firstBody? (t ++ rest) = firstBody? rest := by
  induction t with
  | nil => rfl
  | cons c t ih =>
    rw [List.mem_cons, not_or] at ht
    rw [List.cons_append, firstBody?, ih ht.2]
    exact fun h => ht.1 h.symm

/-- Where a quote is not closed, a quote behind it is not closed either: it belongs to the pair of a
backslash, so the two readings pair the backslashes that follow in the same way. -/
theorem firstBody_of_takeBody {t : Text} (hline : '\n' ∉ t) (h : takeBody t = none) :
    firstBody? t = none := by
  fun_induction takeBody t with
  | case1 => rfl
  | case2 => cases h
  | case3 => exact absurd (List.mem_cons_of_mem _ List.mem_cons_self) hline
  | case4 c rest noFeed ih =>
    have hrest := Option.map_eq_none_iff.mp h
    simp only [List.mem_cons, not_or] at hline
    have hbody := ih hline.2.2 hrest
    rw [firstBody?]
    · by_cases hquote : c = '"'
      · subst hquote
        rw [firstBody?, hrest]
        exact hbody
      · rw [firstBody?]
        · exact hbody
        · exact hquote
    · decide
  | case5 => rfl
  | case6 c rest noQuote _ _ ih =>
    rw [List.mem_cons, not_or] at hline
    rw [firstBody?]
    · exact ih hline.2 (Option.map_eq_none_iff.mp h)
    · exact noQuote

/-- On one line the first literal begins at the first quote. -/
theorem firstBody_eq_some_iff {t read : Text} (hline : '\n' ∉ t) :
    firstBody? t = some read ↔ ∃ (before : Text) (body : List BodyUnit) (after : Text),
      '"' ∉ before ∧ read = bodyText body
        ∧ t = before ++ '"' :: (bodyText body ++ '"' :: after) := by
  constructor
  · intro h
    by_cases hquote : '"' ∈ t
    · obtain ⟨before, rest, rfl, hfirst⟩ := List.eq_append_cons_of_mem hquote
      rw [firstBody_append hfirst, firstBody?] at h
      rcases hread : takeBody rest with _ | ⟨inner, after⟩
      · have hrest : '\n' ∉ rest := fun hmem =>
          hline (List.mem_append_right _ (List.mem_cons_of_mem _ hmem))
        rw [hread] at h
        rw [firstBody_of_takeBody hrest hread] at h
        cases h
      · rw [hread] at h
        obtain rfl := Option.some.inj h
        obtain ⟨body, rfl, rfl⟩ := takeBody_eq_some_iff.mp hread
        exact ⟨before, body, after, hfirst, rfl, rfl⟩
    · have hnone := firstBody_append hquote []
      rw [List.append_nil, h] at hnone
      cases hnone
  · rintro ⟨before, body, after, hfirst, rfl, rfl⟩
    rw [firstBody_append hfirst, firstBody?, takeBody_bodyText]

/-- A literal is found wherever there is one. -/
theorem firstBody_ne_none {t : Text} (h : HasLiteral t) : firstBody? t ≠ none := by
  obtain ⟨before, body, after, rfl⟩ := h
  induction before with
  | nil =>
    rw [List.nil_append, firstBody?, takeBody_bodyText]
    exact Option.some_ne_none _
  | cons c before ih =>
    rw [List.cons_append]
    unfold firstBody?
    split
    · next heq => cases heq
    · next rest heq =>
      obtain ⟨_, rfl⟩ := List.cons.inj heq
      split
      · exact Option.some_ne_none _
      · exact ih
    · next heq =>
      obtain ⟨_, rfl⟩ := List.cons.inj heq
      exact ih

theorem firstBody_eq_none_iff {t : Text} (hline : '\n' ∉ t) :
    firstBody? t = none ↔ ¬ HasLiteral t := by
  refine ⟨fun hnone h => firstBody_ne_none h hnone, fun hbare => ?_⟩
  by_contra hsome
  obtain ⟨read, hread⟩ := Option.ne_none_iff_exists'.mp hsome
  obtain ⟨before, body, after, _, _, heq⟩ := (firstBody_eq_some_iff hline).mp hread
  exact hbare ⟨before, body, after, heq⟩

/-! ### What is found in an argument -/

/-- What encloses a path begins with this. -/
def IncludePath.opening : IncludePath → Char
  | .quoted _ => '"'
  | .library _ => '<'

/-- The whole argument is a path in quotes, or one in chevrons. -/
inductive Encloses : Text → IncludePath → Prop
  | quotes (body : List BodyUnit) :
      Encloses ('"' :: (bodyText body ++ ['"'])) (.quoted (bodyText body))
  | chevrons (name : Text) : Encloses ('<' :: (name ++ ['>'])) (.library name)

/-- A path is found in an argument: in quotes at the first quote, or, if there is no literal,
between the first chevron and the last one that closes. -/
inductive Finds : Text → IncludePath → Prop
  | quotes {before : Text} (body : List BodyUnit) (after : Text) (first : '"' ∉ before) :
      Finds (before ++ '"' :: (bodyText body ++ '"' :: after)) (.quoted (bodyText body))
  | chevrons {before after : Text} (name : Text) (first : '<' ∉ before) (last : '>' ∉ after)
      (bare : ¬ HasLiteral (before ++ '<' :: (name ++ '>' :: after))) :
      Finds (before ++ '<' :: (name ++ '>' :: after)) (.library name)

theorem betweenChevrons_eq_some_iff {t name : Text} :
    betweenChevrons? t = some name ↔ ∃ before after : Text, '<' ∉ before ∧ '>' ∉ after
      ∧ t = before ++ '<' :: (name ++ '>' :: after) := by
  simp only [betweenChevrons?, Option.bind_eq_some_iff, Text.afterFirst_eq_some_iff,
    Text.beforeLast_eq_some_iff]
  constructor
  · rintro ⟨_, ⟨before, hfirst, rfl⟩, after, hlast, rfl⟩
    exact ⟨before, after, hfirst, hlast, rfl⟩
  · rintro ⟨before, after, hfirst, hlast, rfl⟩
    exact ⟨_, ⟨before, hfirst, rfl⟩, after, hlast, rfl⟩

section Argument

variable {argument : Text} {included : IncludePath}

theorem ofArgument_eq_some_iff (hline : '\n' ∉ argument) :
    IncludePath.ofArgument? argument = some included ↔ Finds argument included := by
  unfold IncludePath.ofArgument?
  constructor
  · intro h
    split at h
    · next read hread =>
      obtain ⟨before, body, after, hfirst, rfl, rfl⟩ := (firstBody_eq_some_iff hline).mp hread
      obtain rfl := Option.some.inj h
      exact .quotes body after hfirst
    · next hnone =>
      obtain ⟨name, hname, rfl⟩ := Option.map_eq_some_iff.mp h
      obtain ⟨before, after, hfirst, hlast, rfl⟩ := betweenChevrons_eq_some_iff.mp hname
      exact .chevrons name hfirst hlast ((firstBody_eq_none_iff hline).mp hnone)
  · intro h
    cases h with
    | quotes body after first =>
      rw [(firstBody_eq_some_iff hline).mpr ⟨_, body, after, first, rfl, rfl⟩]
    | chevrons name first last bare =>
      rw [(firstBody_eq_none_iff hline).mpr bare]
      exact Option.map_eq_some_iff.mpr
        ⟨name, betweenChevrons_eq_some_iff.mpr ⟨_, _, first, last, rfl⟩, rfl⟩

/-- A literal in an argument in chevrons stands between them. -/
theorem hasLiteral_of_chevrons {name : Text} (h : HasLiteral ('<' :: (name ++ ['>']))) :
    HasLiteral name := by
  obtain ⟨_ | ⟨_, before⟩, body, after, heq⟩ := h
  · cases heq
  have hname := (List.cons.inj heq).2
  -- the chevron at the end is no quote, so it stands behind the literal
  rcases List.eq_nil_or_concat after with rfl | ⟨after, last, rfl⟩
  · have hends : name ++ ['>'] = (before ++ '"' :: bodyText body) ++ ['"'] := by simpa using hname
    exact absurd (List.append_inj' hends rfl).2 (by decide)
  · have hends : name ++ ['>'] = (before ++ '"' :: (bodyText body ++ '"' :: after)) ++ [last] := by
      simpa using hname
    exact ⟨before, body, after, (List.append_inj' hends rfl).1⟩

/-- What encloses an argument is found in it, unless there is a literal between the chevrons. -/
theorem Encloses.finds (h : Encloses argument included) :
    Finds argument included
      ∨ HasLiteral argument ∧ ∃ name, included = .library name ∧ HasLiteral name := by
  cases h with
  | quotes body => exact .inl (@Finds.quotes [] body [] List.not_mem_nil)
  | chevrons name =>
    by_cases hliteral : HasLiteral ('<' :: (name ++ ['>']))
    · exact .inr ⟨hliteral, name, rfl, hasLiteral_of_chevrons hliteral⟩
    · exact .inl (@Finds.chevrons [] [] name List.not_mem_nil List.not_mem_nil hliteral)

theorem Encloses.head (h : Encloses argument included) :
    argument.head? = some included.opening := by
  cases h <;> rfl

/-- Nothing but the whole argument is found in it. -/
def Exact (argument : Text) : Prop :=
  ∀ included, Finds argument included → Encloses argument included

/-- What is found is then what encloses the argument.  There is no literal between chevrons that
enclose it, for the literal would be found, and it is not the whole. -/
theorem Exact.finds_iff (hline : '\n' ∉ argument) (h : Exact argument) (included : IncludePath) :
    Finds argument included ↔ Encloses argument included := by
  refine ⟨h included, fun hencloses => ?_⟩
  rcases hencloses.finds with hfinds | ⟨hliteral, name, rfl, _⟩
  · exact hfinds
  obtain ⟨read, hread⟩ := Option.ne_none_iff_exists'.mp (firstBody_ne_none hliteral)
  have hquoted : Finds argument (.quoted read) := (ofArgument_eq_some_iff hline).mp <| by
    rw [IncludePath.ofArgument?, hread]
  have hopening := (h _ hquoted).head.symm.trans hencloses.head
  exact absurd (Option.some.inj hopening) (show '"' ≠ '<' by decide)

end Argument

/-! ### The next line -/

variable {σ : Type} {resolver : Resolver σ}

/-- The next line asks for a path, and that is what the shader asks for next. -/
structure Work.AsksNext (resolver : Resolver σ) (w : Work σ) (final : Run σ) (path : Text) :
    Prop where
  step : ∃ next, w.step resolver = some next ∧ next.run.asked = w.run.asked.push path
  stays : ∃ later, final.asked.toList = w.run.asked.toList ++ path :: later

section Next

variable {defines : Entries Text} {world : σ} {shader : Text} {w : Work σ} {origin : Int}
  {line : Text} {rest : List (Int × Text)} {argument : Text}

/-- The argument of a directive is on one line. -/
theorem newline_not_mem_argument {t : Text}
    (kind : Line.ofText t = .directive ["#include".toList, argument]) : '\n' ∉ argument := by
  refine Text.newline_not_mem_token (t := stripComments t) ?_
  rw [(ofText_eq_directive_iff.mp kind).2]
  exact List.mem_cons_of_mem _ List.mem_cons_self

theorem ofTokens_include (argument : Text) :
    Directive.ofTokens ["#include".toList, argument]
      = match IncludePath.ofArgument? argument with
        | some included => .ok (.includeText included argument)
        | none => .error (.defect .includePath) := by
  unfold Directive.ofTokens
  exact if_pos rfl

/-- Behind an include whose argument has a path, it has asked, unless no include may be deeper. -/
theorem Work.step_of_found (resolver : Resolver σ) (hstop : w.stop = none)
    (hlines : w.lines = (origin, line) :: rest)
    (kind : Line.ofText (w.run.macros.expandLine line) = .directive ["#include".toList, argument])
    {included : IncludePath} (hfound : IncludePath.ofArgument? argument = some included) :
    ∃ next, w.step resolver = some next ∧
      if w.depth < maxIncludeDepth then next.run.asked = w.run.asked.push included.request
      else next.run = w.run.noteLibrary included
        ∧ next.stop = some ⟨.defect .depthLimit, origin⟩ := by
  have hincluded : w.run.macros.included? line = some (included, argument) := by
    refine included_eq_some_iff.mpr ⟨_, kind, ?_⟩
    rw [ofTokens_include, hfound]
  refine ⟨_, step_of_lines hstop hlines, ?_⟩
  rw [behindLine, hincluded]
  dsimp only
  by_cases hdeep : maxIncludeDepth ≤ w.depth
  · rw [if_pos hdeep, if_neg (Nat.not_lt.mpr hdeep)]
    exact ⟨rfl, rfl⟩
  · rw [if_neg hdeep, if_pos (Nat.not_le.mp hdeep)]
    have hasked := asked_ask resolver (w.run.noteLibrary included) included.request
    rw [(asked_noteLibrary w.run included).1] at hasked
    rcases hanswer : (w.run.noteLibrary included).ask resolver included.request
      with ⟨asked, _ | text⟩
    all_goals
      rw [hanswer] at hasked
      exact hasked

/-- An include whose argument has no path is refused, and nothing comes of it. -/
theorem Work.step_of_not_found (resolver : Resolver σ) (hstop : w.stop = none)
    (hlines : w.lines = (origin, line) :: rest)
    (kind : Line.ofText (w.run.macros.expandLine line) = .directive ["#include".toList, argument])
    (hnone : IncludePath.ofArgument? argument = none) :
    ∃ next, w.step resolver = some next ∧ next.run = w.run
      ∧ next.stop = some ⟨.defect .includePath, origin⟩ := by
  have hread :
      Directive.ofTokens ["#include".toList, argument] = .error (.defect .includePath) := by
    rw [ofTokens_include, hnone]
  have hincluded : w.run.macros.included? line = none := by
    rw [MacroTable.included?, kind]
    dsimp only
    rw [hread]
  refine ⟨_, step_of_lines hstop hlines, ?_⟩
  rw [behindLine, hincluded]
  dsimp only
  rw [processLine_malformed kind hread]
  exact ⟨rfl, rfl⟩

/-- What the next line asks for is kept: whatever is asked later comes behind it, up to the end. -/
theorem Work.AsksNext.of_step (hreached : Work.Reaches resolver (.start defines world shader) w)
    {next : Work σ} (hstep : w.step resolver = some next) {path : Text}
    (hasked : next.run.asked = w.run.asked.push path) :
    w.AsksNext resolver ((Run.start defines world).shader resolver shader).1 path := by
  have hbehind : Work.Reaches resolver (.start defines world shader) next := .tail hreached hstep
  obtain ⟨final, hfinal, hresult⟩ := hbehind.ends
  obtain ⟨_, _, hsteps⟩ := hfinal.steps hbehind.whole
  obtain ⟨later, hlater⟩ := prefix_asked_steps hsteps
  rw [hasked, Array.toList_push, List.append_assoc] at hlater
  rw [hresult]
  exact ⟨⟨next, hstep, hasked⟩, later, hlater.symm⟩

/-- The next line asks for the path in its argument, if no include is too deep. -/
theorem asks_next_iff (hreached : Work.Reaches resolver (.start defines world shader) w)
    (hstop : w.stop = none) (hlines : w.lines = (origin, line) :: rest)
    (kind : Line.ofText (w.run.macros.expandLine line) = .directive ["#include".toList, argument])
    (path : Text) :
    w.AsksNext resolver ((Run.start defines world).shader resolver shader).1 path
      ↔ w.depth < 16 ∧ ∃ included, Finds argument included ∧ included.request = path := by
  have hline := newline_not_mem_argument kind
  constructor
  · rintro ⟨⟨next, hstep, hasked⟩, _⟩
    -- a step that does not ask leaves what was asked as it was
    have hmore : next.run.asked ≠ w.run.asked := fun heq => by
      have hsize := congrArg Array.size (hasked.symm.trans heq)
      rw [Array.size_push] at hsize
      exact Nat.succ_ne_self _ hsize
    rcases hfound : IncludePath.ofArgument? argument with _ | included
    · obtain ⟨_, hstep', hrun, _⟩ := Work.step_of_not_found resolver hstop hlines kind hfound
      cases hstep.symm.trans hstep'
      exact absurd (congrArg Run.asked hrun) hmore
    · obtain ⟨_, hstep', hnext⟩ := Work.step_of_found resolver hstop hlines kind hfound
      cases hstep.symm.trans hstep'
      by_cases hdepth : w.depth < maxIncludeDepth
      · rw [if_pos hdepth, hasked] at hnext
        exact ⟨hdepth, included, (ofArgument_eq_some_iff hline).mp hfound,
          (Array.push_inj_right.mp hnext).symm⟩
      · rw [if_neg hdepth] at hnext
        refine absurd ?_ hmore
        rw [hnext.1, (asked_noteLibrary w.run included).1]
  · rintro ⟨hdepth, included, hfinds, rfl⟩
    obtain ⟨next, hstep, hnext⟩ := Work.step_of_found resolver hstop hlines kind
      ((ofArgument_eq_some_iff hline).mpr hfinds)
    exact .of_step hreached hstep ((if_pos hdepth).mp hnext)

/-- At every moment of a run, let the next line with its macros substituted be an include with one
argument.  It asks for what is found in the argument, as long as includes may be deeper; the line is
reported if they may not, or if nothing is found.  What encloses the argument is found in it, but
for a name in chevrons with a literal in it.  So wherever nothing but the whole argument is found in
it, the line asks for a path exactly if quotes or chevrons enclose the argument, and for the path
that they enclose; if none do it is reported and nothing comes of it. -/
theorem include_argument (hreached : Work.Reaches resolver (.start defines world shader) w)
    (hstop : w.stop = none) (hlines : w.lines = (origin, line) :: rest)
    (kind : Line.ofText (w.run.macros.expandLine line) = .directive ["#include".toList, argument]) :
    let result := (Run.start defines world).shader resolver shader
    let refused : Report :=
      ⟨.directive, "Path must be enclosed in quotes or chevrons".toList, origin⟩
    let tooDeep : Report := ⟨.limit, "Include depth limit exceeded".toList, origin⟩
    (∀ path, w.AsksNext resolver result.1 path
        ↔ w.depth < 16 ∧ ∃ included, Finds argument included ∧ included.request = path)
      ∧ (∀ included, Finds argument included → 16 ≤ w.depth →
        result = (w.run.noteLibrary included, .reported tooDeep))
      ∧ ((∀ included, ¬ Finds argument included) → result = (w.run, .reported refused))
      ∧ (∀ included, Encloses argument included →
        Finds argument included ∨ ∃ name, included = .library name ∧ HasLiteral name)
      ∧ (Exact argument →
        (∀ path, w.AsksNext resolver result.1 path
            ↔ w.depth < 16 ∧ ∃ included, Encloses argument included ∧ included.request = path)
          ∧ ((∀ included, ¬ Encloses argument included) →
            result = (w.run, .reported refused))) := by
  intro result refused tooDeep
  have hline := newline_not_mem_argument kind
  have hasks := asks_next_iff hreached hstop hlines kind
  have hrefused (hnothing : ∀ included, ¬ Finds argument included) :
      result = (w.run, .reported refused) := by
    have hnone : IncludePath.ofArgument? argument = none := by
      refine Option.eq_none_iff_forall_ne_some.mpr fun included hfound => ?_
      exact hnothing included ((ofArgument_eq_some_iff hline).mp hfound)
    obtain ⟨next, hstep, hrun, hstopped⟩ := Work.step_of_not_found resolver hstop hlines kind hnone
    have hbehind : Work.Reaches resolver (.start defines world shader) next := .tail hreached hstep
    rw [← hrun]
    exact hbehind.shader_of_stopped hstopped
  refine ⟨hasks, fun included hfinds hdeep => ?_, hrefused,
    fun included hencloses => hencloses.finds.imp_right And.right,
    fun hexact => ⟨fun path => ?_, ?_⟩⟩
  · obtain ⟨next, hstep, hnext⟩ := Work.step_of_found resolver hstop hlines kind
      ((ofArgument_eq_some_iff hline).mpr hfinds)
    obtain ⟨hrun, hstopped⟩ := (if_neg (Nat.not_lt.mpr hdeep)).mp hnext
    have hbehind : Work.Reaches resolver (.start defines world shader) next := .tail hreached hstep
    rw [← hrun]
    exact hbehind.shader_of_stopped hstopped
  · rw [hasks]
    simp only [hexact.finds_iff hline]
  · intro hnothing
    exact hrefused fun included hfinds => hnothing included (hexact included hfinds)

/-- An include of the library in chevrons. -/
theorem include_argument_chevrons :
    let resolver := Resolver.dictionary [("std/noise".toList, [])]
    let shader := "#include <noise> // of the library\n".toList
    let w : Work Unit := .start [] () shader
    w.lines = [(1, "#include <noise> // of the library".toList)] ∧ Exact "<noise>".toList
      ∧ w.AsksNext resolver ((Run.start [] ()).shader resolver shader).1 "std/noise".toList := by
  intro resolver shader w
  have hlines : w.lines = [(1, "#include <noise> // of the library".toList)] := by decide +kernel
  have kind : Line.ofText (w.run.macros.expandLine "#include <noise> // of the library".toList)
      = .directive ["#include".toList, "<noise>".toList] := by decide +kernel
  have hencloses : Encloses "<noise>".toList (.library "noise".toList) := .chevrons "noise".toList
  have hexact : Exact "<noise>".toList := fun included hfinds => by
    have hfound := (ofArgument_eq_some_iff (by decide)).mpr hfinds
    have hlibrary : IncludePath.ofArgument? "<noise>".toList = some (.library "noise".toList) := by
      decide +kernel
    rw [hlibrary] at hfound
    cases hfound
    exact hencloses
  have hreached : Work.Reaches resolver (.start [] () shader) w := .refl
  obtain ⟨_, _, _, _, hasks⟩ := include_argument hreached rfl hlines kind
  exact ⟨hlines, hexact, ((hasks hexact).1 _).mpr ⟨by decide, _, hencloses, rfl⟩⟩

/-- Quotes are found in the midst of an argument that nothing encloses, and between chevrons that
enclose theirs. -/
theorem include_in_midst :
    let midst := "a\"b\"c".toList
    let between := "<\"x\">".toList
    let resolver := Resolver.dictionary
      [("b".toList, []), ("x".toList, []), ("std/\"x\"".toList, [])]
    let run (argument : Text) := (Run.start [] ()).shader resolver ("#include ".toList ++ argument)
    Line.ofText ((initialMacros []).expandLine ("#include ".toList ++ midst))
        = .directive ["#include".toList, midst]
      ∧ (∀ included, ¬ Encloses midst included)
      ∧ (run midst).2 = .complete ∧ (run midst).1.asked = #["b".toList]
      ∧ Line.ofText ((initialMacros []).expandLine ("#include ".toList ++ between))
          = .directive ["#include".toList, between]
      ∧ Encloses between (.library "\"x\"".toList)
      ∧ (run between).2 = .complete ∧ (run between).1.asked = #["x".toList] := by
  intro midst between resolver run
  refine ⟨by decide +kernel, ?_, by decide +kernel, by decide +kernel, by decide +kernel,
    .chevrons "\"x\"".toList, by decide +kernel, by decide +kernel⟩
  intro included hencloses
  have hhead : 'a' = included.opening := Option.some.inj hencloses.head
  cases included with
  | quoted path => exact absurd hhead (show 'a' ≠ '"' by decide)
  | library name => exact absurd hhead (show 'a' ≠ '<' by decide)

end Next

end Shader

end ShaderPlayer
