/-
How deep includes may nest.

Includes nest sixteen deep.  A chain of texts of which each includes the next has its exact
bound there: the chain is followed to its end if it is that long at most, and otherwise the
seventeenth text is not even asked for.

* `chained_of_chain` — processing the lines of a chain asks for one text after the other, as
  deep as includes may nest;
* `include_depth` — preprocessing comes to an end whatever the resolver answers, it is never
  deeper than sixteen, behind every line it is as deep as before it, and it completes on a
  chain exactly if that is at most sixteen long;
* `chain_stopped_by_string` — but a string that is too long for the library of strings stops
  it before.
-/
import ShaderPlayer.Proofs.Shader.Work

namespace ShaderPlayer.Shader

open SourceMap (terminated)

variable {σ : Type} {resolver : Resolver σ}

/-! ### Lines that are passed on -/

/-- A line that is passed on: it is neither hoisted nor a directive, and where strings are
encoded none of it is too long. -/
def PassedOn (macros : MacroTable) (strings : Prop) (line : Text) : Prop :=
  ∃ text, Line.ofText (macros.expandLine line) = .plain text
    ∧ (strings → encodeStrings text ≠ none)

theorem PassedOn.not_included {macros : MacroTable} {strings : Prop} {line : Text}
    (h : PassedOn macros strings line) : macros.included? line = none := by
  obtain ⟨text, kind, _⟩ := h
  rw [MacroTable.included?, kind]

section PassedOn

variable (resolver : Resolver σ) (budget : Nat) {strings : Prop} {run : Run σ}

/-- A line that is passed on changes the source only. -/
theorem processLine_passedOn {line : Text} (h : PassedOn run.macros strings line)
    (hmode : run.stringMode = true → strings) (origin : Int) :
    ∃ source, processLine resolver budget origin line run = ({ run with source }, none) := by
  obtain ⟨text, kind, hfits⟩ := h
  rw [processLine_plain kind, Run.emit]
  split
  · exact ⟨_, rfl⟩
  · next hencoded =>
    exfalso
    split at hencoded
    · next hstrings => exact hfits (hmode hstrings) hencoded
    · cases hencoded

theorem processLines_passedOn {lines : List (Int × Text)}
    (h : ∀ l ∈ lines, PassedOn run.macros strings l.2) (hmode : run.stringMode = true → strings) :
    ∃ source, processLines (processLine resolver budget) lines run = ({ run with source }, none) := by
  induction lines generalizing run with
  | nil => exact ⟨run.source, rfl⟩
  | cons head rest ih =>
    rw [List.forall_mem_cons] at h
    obtain ⟨source, hhead⟩ := processLine_passedOn resolver budget h.1 hmode head.1
    rw [processLines, hhead]
    exact ih h.2 hmode

end PassedOn

/-! ### Chains -/

/-- Texts of which each includes the next and the last includes none, by the paths of the
includes.  The lines around an include are passed on, and so are those of the last text.  What
the resolver answers may depend on what it was asked before. -/
inductive Chain (resolver : Resolver σ) (macros : MacroTable) (strings : Prop) :
    List IncludePath → List Text → σ → Prop
  | last {lines : List Text} {world : σ} (plain : ∀ line ∈ lines, PassedOn macros strings line) :
      Chain resolver macros strings [] lines world
  | link {paths : List IncludePath} {path : IncludePath} {before after : List Text}
      {line argument next : Text} {notes : List Note} {world world' : σ}
      (plainBefore : ∀ other ∈ before, PassedOn macros strings other)
      (plainAfter : ∀ other ∈ after, PassedOn macros strings other)
      (included : macros.included? line = some (path, argument))
      (fetched : resolver.fetch path.request world = (.text next, notes, world'))
      (inner : Chain resolver macros strings paths next.lines world') :
      Chain resolver macros strings (path :: paths) (before ++ line :: after) world

/-- What comes of a chain where includes may nest `budget` deep: it is followed to its end or
until it is too deep, and the texts on the way are asked for. -/
structure Chained (macros : MacroTable) (strings : Prop) (asked : Array Text)
    (paths : List IncludePath) (budget : Nat) (origin : Int) (halted : Halted σ) : Prop where
  macros : halted.1.macros = macros
  strings : halted.1.stringMode = true → strings
  asked : halted.1.asked = asked ++ ((paths.take budget).map (·.request)).toArray
  stop : halted.2
    = if paths.length ≤ budget then none else some ⟨.defect .depthLimit, origin⟩

section Link

variable {macros : MacroTable} {strings : Prop} {paths : List IncludePath} {path : IncludePath}
  {line argument next : Text} {notes : List Note} {world' : σ} {run : Run σ}

theorem stringMode_noteLibrary (hlibrary : path = .library "string".toList → strings)
    (hmode : run.stringMode = true → strings) :
    (run.noteLibrary path).stringMode = true → strings := by
  unfold Run.noteLibrary
  split
  · next hpath => exact fun _ => hlibrary hpath
  · exact hmode

/-- A line that includes the next text of a chain is processed by it, or is too deep. -/
theorem chained_of_included (run : Run σ)
    (included : run.macros.included? line = some (path, argument))
    (fetched : resolver.fetch path.request run.world = (.text next, notes, world'))
    (hlibrary : path = .library "string".toList → strings)
    (hmode : run.stringMode = true → strings) {origin : Int}
    (inner : ∀ (budget : Nat) (asked : Run σ), asked.macros = run.macros → asked.world = world' →
      (asked.stringMode = true → strings) →
      Chained run.macros strings asked.asked paths budget origin
        (processLines (processLine resolver budget) (next.lines.map fun l => (origin, l)) asked))
    (budget : Nat) :
    Chained run.macros strings run.asked (path :: paths) budget origin
      (processLine resolver budget origin line run) := by
  have hmacros := macros_noteLibrary run path
  obtain ⟨hasked, hworld⟩ := asked_noteLibrary run path
  have hstrings := stringMode_noteLibrary hlibrary hmode
  rcases budget with _ | budget
  · rw [processLine_zero_of_included included]
    refine ⟨hmacros, hstrings, ?_, rfl⟩
    rw [hasked, List.take_zero]
    exact (Array.append_empty).symm
  · rw [processLine_of_included included, Run.ask, hworld, fetched]
    dsimp only
    obtain ⟨hmacros', hstrings', hasked', hstop⟩ := inner budget { run.noteLibrary path with
      asked := (run.noteLibrary path).asked.push path.request
      notes := (run.noteLibrary path).notes ++ notes.toArray, world := world' }
      hmacros rfl hstrings
    refine ⟨hmacros', hstrings', ?_, ?_⟩
    · rw [hasked', List.take_succ_cons, List.map_cons, hasked, ← Array.toList_inj]
      simp
    · rw [hstop, List.length_cons]
      simp only [Nat.add_le_add_iff_right]

/-- The lines around an include are passed on, so the include alone decides what comes of
them. -/
theorem chained_of_around {first last : List (Int × Text)} {origin : Int} {budget : Nat}
    (hfirst : ∀ l ∈ first, PassedOn run.macros strings l.2)
    (hlast : ∀ l ∈ last, PassedOn run.macros strings l.2)
    (hmode : run.stringMode = true → strings)
    (hline : ∀ source, Chained run.macros strings run.asked paths budget origin
      (processLine resolver budget origin line { run with source })) :
    Chained run.macros strings run.asked paths budget origin
      (processLines (processLine resolver budget) (first ++ (origin, line) :: last) run) := by
  obtain ⟨source, hbefore⟩ := processLines_passedOn resolver budget hfirst hmode
  have hhere := hline source
  rw [processLines_andThen, hbefore, Halted.andThen, processLines]
  rcases hprocess : processLine resolver budget origin line { run with source } with
    ⟨after, _ | stop⟩
  · rw [hprocess] at hhere
    have hplain : ∀ l ∈ last, PassedOn after.macros strings l.2 := by
      rw [hhere.macros]
      exact hlast
    obtain ⟨source', hrest⟩ := processLines_passedOn resolver budget hplain hhere.strings
    dsimp only
    rw [hrest]
    exact ⟨hhere.macros, hhere.strings, hhere.asked, hhere.stop⟩
  · rw [hprocess] at hhere
    exact hhere

end Link

theorem forall_mem_counted {origin : Int} {lines : List Text} {holds : Text → Prop}
    (h : ∀ line ∈ lines, holds line) : ∀ l ∈ lines.map fun line => (origin, line), holds l.2 :=
  fun _ hl => by
    obtain ⟨line, hline, rfl⟩ := List.mem_map.mp hl
    exact h line hline

/-- The lines of a chain that count as one line of the shader. -/
theorem chained_of_chain {macros : MacroTable} {strings : Prop} {paths : List IncludePath}
    {lines : List Text} {world : σ} (h : Chain resolver macros strings paths lines world)
    (hlibrary : .library "string".toList ∈ paths → strings) (origin : Int) (budget : Nat)
    (run : Run σ) (hmacros : run.macros = macros) (hworld : run.world = world)
    (hmode : run.stringMode = true → strings) :
    Chained macros strings run.asked paths budget origin
      (processLines (processLine resolver budget) (lines.map fun l => (origin, l)) run) := by
  induction h generalizing budget run with
  | last plain =>
    subst hmacros
    obtain ⟨source, hlines⟩ := processLines_passedOn resolver budget
      (forall_mem_counted plain) hmode
    rw [hlines]
    refine ⟨rfl, hmode, ?_, (if_pos (Nat.zero_le budget)).symm⟩
    rw [List.take_nil]
    exact (Array.append_empty).symm
  | link plainBefore plainAfter included fetched _ ih =>
    subst hmacros hworld
    rw [List.map_append, List.map_cons]
    refine chained_of_around (forall_mem_counted plainBefore) (forall_mem_counted plainAfter)
      hmode fun source => ?_
    exact chained_of_included { run with source } included fetched
      (fun hpath => hlibrary (hpath ▸ List.mem_cons_self)) hmode
      (ih fun hmem => hlibrary (List.mem_cons_of_mem _ hmem)) budget

/-! ### Shaders -/

/-- What comes of a shader that begins a chain: it completes exactly if the chain is not too
long, what it asks for are the texts of the chain as deep as includes may nest, and if that
is not all, its own line with the include is reported. -/
structure FollowsChain (macros : MacroTable) (shader : Text) (paths : List IncludePath)
    (result : Run σ × Ending) : Prop where
  complete : result.2 = .complete ↔ paths.length ≤ 16
  asked : result.1.asked.toList = (paths.take 16).map (·.request)
  tooDeep : 16 < paths.length → ∃ before line after path argument,
    shader.lines = before ++ line :: after ∧ (∀ other ∈ before, macros.included? other = none)
      ∧ macros.included? line = some (path, argument)
      ∧ result.2 = .reported (Cause.depthLimit.report (before.length + 1))

theorem followsChain_shader {defines : Entries Text} {world : σ} {text : Text}
    {paths : List IncludePath} (h : Chain resolver (initialMacros defines)
      (.library "string".toList ∈ paths) paths text.lines world) :
    FollowsChain (initialMacros defines) text paths
      ((Run.start defines world).shader resolver text) := by
  rw [shader_eq]
  have hmode : (Run.start defines world).stringMode = true →
      IncludePath.library "string".toList ∈ paths := fun hmode => (by cases hmode)
  generalize hlines : text.lines = lines at h
  cases h with
  | last plain =>
    have hplain : ∀ l ∈ numbered 1 lines, PassedOn (Run.start defines world).macros _ l.2 :=
      fun l hl => plain l.2 (mem_of_mem_numbered hl)
    obtain ⟨source, hprocess⟩ := processLines_passedOn resolver maxIncludeDepth hplain hmode
    rw [hprocess]
    exact ⟨⟨fun _ => Nat.zero_le 16, fun _ => rfl⟩, rfl, fun h => absurd h (by decide)⟩
  | @link paths path before after line argument next notes _ world' plainBefore plainAfter
      included fetched inner =>
    have hbefore : ∀ l ∈ numbered 1 before, PassedOn (Run.start defines world).macros _ l.2 :=
      fun l hl => plainBefore l.2 (mem_of_mem_numbered hl)
    have hafter : ∀ l ∈ numbered (1 + before.length + 1) after,
        PassedOn (Run.start defines world).macros _ l.2 :=
      fun l hl => plainAfter l.2 (mem_of_mem_numbered hl)
    obtain ⟨_, _, hasked, hstop⟩ := chained_of_around hbefore hafter hmode fun source =>
      chained_of_included { Run.start defines world with source } included fetched
        (fun hpath => hpath ▸ List.mem_cons_self) hmode
        (chained_of_chain inner (List.mem_cons_of_mem path) (1 + before.length)) maxIncludeDepth
    rw [numbered_append, numbered]
    refine ⟨?_, ?_, fun hlong => ?_⟩
    · rw [ofStop_eq_complete_iff, hstop]
      by_cases hshort : (path :: paths).length ≤ maxIncludeDepth
      · rw [if_pos hshort]
        exact ⟨fun _ => hshort, fun _ => rfl⟩
      · rw [if_neg hshort]
        exact ⟨fun h => (by cases h), fun h => absurd h hshort⟩
    · rw [hasked, Array.toList_append]
      exact List.nil_append _
    · refine ⟨before, line, after, path, argument, hlines,
        fun other hother => (plainBefore other hother).not_included, included, ?_⟩
      have hdeep : ¬ (path :: paths).length ≤ maxIncludeDepth := Nat.not_le.mpr hlong
      rw [hstop, if_neg hdeep, Int.add_comm]
      rfl

/-- What the work does at every moment: it is as deep as there are texts around the line, no
deeper than sixteen, and behind a line it is where and as deep as it was before, with what
`processLine` does done. -/
structure KeepsDepth (resolver : Resolver σ) (w : Work σ) : Prop where
  depth : w.depth = w.outer.length
  bounded : w.depth ≤ 16
  restored : ∀ origin line rest, w.stop = none → w.lines = (origin, line) :: rest →
    ∃ after, Work.Reaches resolver w after ∧ after.depth = w.depth ∧ after.outer = w.outer
      ∧ after.lines = rest
      ∧ (after.run, after.stop) = processLine resolver (16 - w.depth) origin line w.run

theorem Work.Balanced.keepsDepth {w : Work σ} (h : w.Balanced) : KeepsDepth resolver w where
  depth := h.depth
  bounded := h.bounded
  restored _ _ _ hstop hlines := ⟨_, h.reaches hstop hlines, rfl, rfl, rfl, rfl⟩

/-- Preprocessing a shader comes to an end whatever the resolver answers.  It is never deeper
than sixteen includes, and behind each of them it is as deep as before it.  A chain of includes
is followed exactly if it is that long at most; otherwise it is the line of the shader with the
include that is reported, and no text behind the sixteenth is asked for. -/
theorem include_depth (resolver : Resolver σ) (defines : Entries Text) (world : σ)
    (text : Text) :
    let start := Work.start defines world text
    let result := (Run.start defines world).shader resolver text
    (∃ final, Work.Reaches resolver start final ∧ final.step resolver = none
        ∧ result = (final.run, .ofStop final.stop))
      ∧ (∀ w, Work.Reaches resolver start w → KeepsDepth resolver w)
      ∧ ∀ paths, Chain resolver (initialMacros defines) (.library "string".toList ∈ paths) paths
            text.lines world →
          FollowsChain (initialMacros defines) text paths result := by
  intro start result
  refine ⟨?_, fun w hw => hw.balanced.keepsDepth, fun paths hchain => followsChain_shader hchain⟩
  obtain ⟨final, hreaches, hend, _, hresult, _⟩ := Work.ends_start resolver defines world text
  exact ⟨final, hreaches, hend, hresult⟩

/-! ### Chains of any length -/

/-- A resolver that counts down: it answers with an include, and at zero with a plain text. -/
def countdown : Resolver Nat where
  fetch _ count := (.text (if count = 0 then "x".toList else includeLine "p".toList), [], count - 1)

theorem chain_countdown (strings : Prop) (count : Nat) :
    Chain countdown (initialMacros []) strings
      (List.replicate (count + 1) (.quoted "p".toList)) (includeLine "p".toList).lines count := by
  have hlines : Text.lines (includeLine "p".toList) = [] ++ includeLine "p".toList :: [] := by
    decide +kernel
  have hincluded : (initialMacros []).included? (includeLine "p".toList)
      = some (.quoted "p".toList, quotedPath "p".toList) := by decide +kernel
  have hnone : ∀ other ∈ ([] : List Text), PassedOn (initialMacros []) strings other :=
    fun _ h => absurd h List.not_mem_nil
  induction count with
  | zero =>
    have hlast : ∀ line ∈ Text.lines "x".toList, PassedOn (initialMacros []) strings line := by
      intro line hline
      obtain rfl := List.mem_singleton.mp hline
      exact ⟨"x".toList, by decide +kernel, fun _ => by decide +kernel⟩
    rw [hlines]
    exact .link hnone hnone hincluded rfl (.last hlast)
  | succ count ih =>
    rw [List.replicate_succ, hlines]
    exact .link hnone hnone hincluded rfl ih

/-- A chain of sixteen includes is followed, and one of seventeen is not. -/
theorem include_depth_countdown :
    let text := includeLine "p".toList
    let sixteen := (Run.start [] 15).shader countdown text
    let seventeen := (Run.start [] 16).shader countdown text
    sixteen.2 = .complete ∧ seventeen.2 ≠ .complete
      ∧ seventeen.1.asked.toList = List.replicate 16 "p".toList := by
  intro text sixteen seventeen
  have hsixteen := (include_depth countdown [] 15 text).2.2 _ (chain_countdown _ 15)
  have hseventeen := (include_depth countdown [] 16 text).2.2 _ (chain_countdown _ 16)
  refine ⟨hsixteen.complete.mpr (by decide), fun h => ?_, hseventeen.asked⟩
  exact absurd (hseventeen.complete.mp h) (by decide)

/-- A text without directives at which a chain of one include stops: its string is too long
for the library of strings. -/
theorem chain_stopped_by_string :
    let string := "\"aaaaaaaaaaaaaaaaaaaaa\"".toList
    let resolver := Resolver.dictionary [("std/string".toList, terminated string)]
    let macros := initialMacros []
    let result := (Run.start [] ()).shader resolver (terminated "#include <string>".toList)
    macros.included? "#include <string>".toList
        = some (.library "string".toList, "<string>".toList)
      ∧ Text.lines (terminated string) = [string]
      ∧ Line.ofText (macros.expandLine string) = .plain string
      ∧ result.2 = .reported (Cause.stringTooLong.report 1) := by
  decide +kernel

end ShaderPlayer.Shader
