/-
Macro expansion, and what it means.

A shader that only defines macros and uses them has a meaning that says nothing of how lines
are scanned: values come from the definitions before, from the first to the last, and in each
line every maximal word that has a value is replaced by it, once.

* `expand` — a text with the words that have values replaced;
* `Clause`, `environment`, `emission` — definitions and plain lines, the values they leave
  and the lines they emit;
* `mapWords_eq_flatMap` — replacing words while a text is scanned replaces its maximal words;
* `processLine_define`, `processLine_use` — a line of either kind does what its clause says;
* `expansion` — so the shader emits what its clauses emit.

What is put in is not looked at again, as a text is cut into words before any is replaced.
No value is needed to find a value, so macros that name each other do not loop.
-/
import ShaderPlayer.Proofs.Shader.Inert
import ShaderPlayer.Proofs.Shader.Overlong
import Mathlib.Data.List.SplitBy

namespace ShaderPlayer.Shader

open Text (isWord isBlank)

/-! ### The meaning of a text -/

/-- The maximal words of a text, and the characters between them one by one. -/
def wordPieces (t : Text) : List Text := t.splitBy fun a b => isWord a && isWord b

/-- A piece of a text, or the value it has as a word. -/
def valued (values : Entries Text) (piece : Text) : Text :=
  if piece.all isWord then (values.lookup piece).getD piece else piece

/-- A text with every maximal word that has a value replaced by it. -/
def expand (values : Entries Text) (t : Text) : Text :=
  (wordPieces t).flatMap (valued values)

/-- Longer words stay, and so do the words of a value. -/
example : expand [("a".toList, "a+b".toList), ("b".toList, [])] "a_b(a)b".toList
    = "a_b(a+b)".toList := by decide

/-! ### The meaning of a shader -/

/-- A line that defines a macro, in its parts. -/
structure Definition where
  indent : Text
  gap : Text
  name : Text
  body : Text
  indent_blank : ∀ c ∈ indent, isBlank c
  gap_blank : ∀ c ∈ gap, isBlank c
  gap_ne_nil : gap ≠ []
  name_word : ∀ c ∈ name, isWord c
  name_ne_nil : name ≠ []
  /-- The name ends before a blank, or with the line. -/
  body_blank : ∀ c, body.head? = some c → isBlank c

namespace Definition

/-- The line up to the end of its name. -/
def head (d : Definition) : Text := d.indent ++ "#define".toList ++ d.gap ++ d.name

/-- The line. -/
def text (d : Definition) : Text := d.head ++ d.body

/-- The value of the macro: its body expanded, with single spaces between its parts. -/
def value (values : Entries Text) (d : Definition) : Text := spaced (expand values d.body).tokens

end Definition

/-- A line of a shader that defines macros and uses them. -/
inductive Clause where
  | define (d : Definition)
  | plain (line : Text)

namespace Clause

/-- The line of a clause. -/
def text : Clause → Text
  | define d => d.text
  | plain line => line

/-- The values after a clause. -/
def extend (values : Entries Text) : Clause → Entries Text
  | define d => values ++ [(d.name, d.value values)]
  | plain _ => values

/-- The lines that a clause emits. -/
def emit (values : Entries Text) : Clause → List Text
  | define _ => []
  | plain line => [expand values line]

/-- A clause is a definition of a new name, without a comment, or a line that is no directive
and no extension; this is told when the line is expanded. -/
def Admissible (values : Entries Text) : Clause → Prop
  | define d => d.name ∉ values.keys
      ∧ ¬ "//".toList <:+: d.head ++ expand values d.body
      ∧ ¬ "/*".toList <:+: d.head ++ expand values d.body
  | plain line => ¬ ['#'] <+: (expand values line).trimLeft
      ∧ ¬ "enable".toList <+: (expand values line).trimLeft

end Clause

/-- The values after clauses. -/
def environment (values : Entries Text) (clauses : List Clause) : Entries Text :=
  clauses.foldl Clause.extend values

/-- The lines that clauses emit, each with the values of the definitions before it. -/
def emission (values : Entries Text) : List Clause → List Text
  | [] => []
  | clause :: clauses => clause.emit values ++ emission (clause.extend values) clauses

/-- Each clause is admissible after those before it. -/
def Admissible (values : Entries Text) : List Clause → Prop
  | [] => True
  | clause :: clauses => clause.Admissible values ∧ Admissible (clause.extend values) clauses

/-- What comes first neither depends on what follows nor changes it, but for the values. -/
theorem emission_append (values : Entries Text) (first rest : List Clause) :
    emission values (first ++ rest)
      = emission values first ++ emission (environment values first) rest := by
  induction first generalizing values with
  | nil => rfl
  | cons clause first ih =>
    rw [List.cons_append, emission, emission, ih, List.append_assoc]
    rfl

/-! ### Words -/

theorem wordPieces_word {word rest : Text} (hne : word ≠ []) (hword : ∀ c ∈ word, isWord c)
    (hstop : ∀ c, rest.head? = some c → isWord c = false) :
    wordPieces (word ++ rest) = word :: wordPieces rest := by
  have hchain : word.IsChain fun a b => (isWord a && isWord b) = true := by
    refine List.isChain_iff_getElem.mpr fun i hi => ?_
    rw [hword _ (List.getElem_mem _), hword _ (List.getElem_mem _), Bool.and_self]
  unfold wordPieces
  rw [List.splitBy_append, List.splitBy_of_isChain hne hchain, List.singleton_append]
  intro a _ b hb
  rw [hstop b hb, Bool.and_false]

theorem wordPieces_cons {c : Char} (hc : isWord c = false) (rest : Text) :
    wordPieces (c :: rest) = [c] :: wordPieces rest := by
  unfold wordPieces
  rw [← List.singleton_append, List.splitBy_append, List.splitBy_of_isChain (List.cons_ne_nil c [])
    (List.isChain_singleton c), List.singleton_append]
  intro a ha b _
  obtain rfl : c = a := by simpa using ha
  rw [hc, Bool.false_and]

/-- Replacing the words of a text while it is scanned replaces its maximal words.  The scan
goes by single characters between words, and so do the pieces. -/
theorem mapWords_eq_flatMap (f : Text → Text) (t : Text) :
    t.mapWords f = (wordPieces t).flatMap fun piece => if piece.all isWord then f piece else piece := by
  fun_induction Text.mapWords f t with
  | case1 => rfl
  | case2 c rest hc ih =>
    have hword : ∀ d ∈ c :: rest.takeWhile isWord, isWord d := by
      rw [List.forall_mem_cons]
      exact ⟨hc, fun d hd => List.mem_takeWhile_imp hd⟩
    have hstop : ∀ d, (rest.dropWhile isWord).head? = some d → isWord d = false := by
      intro d hd
      have hnot := List.head?_dropWhile_not isWord rest
      rw [hd] at hnot
      simpa using hnot
    have hsplit : c :: rest = (c :: rest.takeWhile isWord) ++ rest.dropWhile isWord := by
      rw [List.cons_append, List.takeWhile_append_dropWhile]
    rw [hsplit, wordPieces_word (List.cons_ne_nil _ _) hword hstop, List.flatMap_cons, ← ih,
      if_pos (List.all_eq_true.mpr hword)]
  | case3 c rest hc ih =>
    have hc : isWord c = false := by simpa using hc
    have hpiece : ([c] : Text).all isWord = false := by simp [hc]
    rw [wordPieces_cons hc, List.flatMap_cons, ← ih, hpiece]
    rfl

theorem substitute_eq_expand (macros : MacroTable) (t : Text) :
    macros.substitute t = expand macros.entries t :=
  mapWords_eq_flatMap _ t

theorem MacroTable.substitute_append_cons (macros : MacroTable) {c : Char} (hc : isWord c = false)
    (t rest : Text) :
    macros.substitute (t ++ c :: rest) = macros.substitute t ++ c :: macros.substitute rest :=
  Text.mapWords_append_cons _ hc t rest

theorem expand_cons (values : Entries Text) {c : Char} (hc : isWord c = false) (rest : Text) :
    expand values (c :: rest) = c :: expand values rest := by
  have hpiece : ([c] : Text).all isWord = false := by simp [hc]
  unfold expand
  rw [wordPieces_cons hc, List.flatMap_cons, valued, hpiece]
  rfl

/-- Before its definition a word stays as it is. -/
theorem expand_eq_self {values : Entries Text} {t : Text}
    (h : ∀ word ∈ wordPieces t, values.lookup word = none) : expand values t = t := by
  have hvalued : ∀ piece ∈ wordPieces t, valued values piece = id piece := by
    intro piece hpiece
    rw [valued, h piece hpiece]
    split <;> rfl
  rw [expand, List.flatMap_congr hvalued, List.flatMap_id, wordPieces, List.flatten_splitBy]

/-! ### Lines of definitions -/

/-- Characters up to the first of another kind. -/
theorem span_of_forall {p : Char → Bool} {t stop : Text} (hall : ∀ c ∈ t, p c)
    (hstop : ∀ c, stop.head? = some c → p c = false) :
    (t ++ stop).takeWhile p = t ∧ (t ++ stop).dropWhile p = stop := by
  obtain ⟨htake, hdrop⟩ := Text.span_append_stop hstop t
  rw [htake, hdrop, List.takeWhile_eq_self_iff.mpr hall, List.dropWhile_eq_nil_iff.mpr hall]
  exact ⟨rfl, rfl⟩

namespace Definition

variable (d : Definition)

theorem not_isBlank_of_mem_name {c : Char} (h : c ∈ d.name) : isBlank c = false := by
  have hword := d.name_word c h
  by_contra hblank
  rw [Bool.not_eq_false] at hblank
  rw [Text.isWord_of_isBlank hblank] at hword
  cases hword

/-- A line that begins so is cut behind the name of the macro, wherever the name ends there. -/
theorem splitDefinition_head {rest : Text} (hended : ∀ c, rest.head? = some c → isWord c = false) :
    splitDefinition? (d.head ++ rest) = some (d.head, rest) := by
  have hline : d.head ++ rest = d.indent ++ ("#define".toList ++ (d.gap ++ (d.name ++ rest))) := by
    simp only [head, List.append_assoc]
  have hsign : ∀ c, ("#define".toList ++ (d.gap ++ (d.name ++ rest))).head? = some c →
      isBlank c = false := by
    intro c hc
    obtain rfl : '#' = c := Option.some.inj hc
    decide
  have hnamed : ∀ c, (d.name ++ rest).head? = some c → isBlank c = false := by
    intro c hc
    rw [List.head?_append_of_ne_nil _ d.name_ne_nil] at hc
    exact d.not_isBlank_of_mem_name (List.mem_of_head? hc)
  obtain ⟨hindent, hstart⟩ := span_of_forall d.indent_blank hsign
  obtain ⟨hgap, hbehind⟩ := span_of_forall d.gap_blank hnamed
  obtain ⟨hname, hbody⟩ := span_of_forall d.name_word hended
  have hkeyword : "#define".toList.isPrefixOf
      ("#define".toList ++ (d.gap ++ (d.name ++ rest))) = true := by simp
  have hparts : (d.gap.isEmpty || d.name.isEmpty) = false := by
    simp [d.gap_ne_nil, d.name_ne_nil]
  simp only [splitDefinition?, hline, hindent, hstart, hkeyword, List.drop_left, hgap, hbehind,
    hname, hbody, hparts, if_true, Bool.false_eq_true, if_false]
  rfl

/-- The name stays, and what follows it is expanded. -/
theorem expandLine_head (macros : MacroTable) {rest : Text} (hfeed : '\n' ∉ rest)
    (hended : ∀ c, rest.head? = some c → isWord c = false) :
    macros.expandLine (d.head ++ rest) = d.head ++ expand macros.entries rest := by
  have hrest : rest.takeWhile (· ≠ '\n') = rest := by
    refine List.takeWhile_eq_self_iff.mpr fun c hc => ?_
    have hne : c ≠ '\n' := by
      rintro rfl
      exact hfeed hc
    simpa using hne
  rw [MacroTable.expandLine, d.splitDefinition_head hended]
  dsimp only
  rw [hrest, substitute_eq_expand]

theorem expandLine_text (macros : MacroTable) (hfeed : '\n' ∉ d.text) :
    macros.expandLine d.text = d.head ++ expand macros.entries d.body :=
  d.expandLine_head macros (fun h => hfeed (List.mem_append_right _ h))
    fun c hc => Text.isWord_of_isBlank (d.body_blank c hc)

/-- An expanded body still begins with a blank, or is nothing. -/
theorem isBlank_of_head_expand (values : Entries Text) {c : Char}
    (h : (expand values d.body).head? = some c) : isBlank c := by
  rcases hbody : d.body with _ | ⟨first, rest⟩
  · rw [hbody] at h
    cases h
  · have hblank : isBlank first := d.body_blank first (by rw [hbody]; rfl)
    rw [hbody, expand_cons values (Text.isWord_of_isBlank hblank)] at h
    obtain rfl : first = c := Option.some.inj h
    exact hblank

theorem tokens_append_of_blank {before t : Text} (h : ∀ c ∈ before, isBlank c) :
    (before ++ t).tokens = t.tokens := by
  induction before with
  | nil => rfl
  | cons c before ih =>
    rw [List.forall_mem_cons] at h
    rw [List.cons_append, Text.tokens_of_blank h.1, ih h.2]

/-- The tokens of a line that begins so: what follows the name goes with it up to a blank. -/
theorem tokens_head (rest : Text) :
    (d.head ++ rest).tokens = "#define".toList
      :: (d.name ++ rest.takeWhile (!isBlank ·)) :: Text.tokens (rest.dropWhile (!isBlank ·)) := by
  have hline : d.head ++ rest
      = d.indent ++ ('#' :: ("define".toList ++ (d.gap ++ (d.name ++ rest)))) := by
    simp only [head, List.append_assoc]
    rfl
  have hname : (d.name ++ rest).tokens
      = (d.name ++ rest.takeWhile (!isBlank ·)) :: Text.tokens (rest.dropWhile (!isBlank ·)) := by
    obtain ⟨c, name, hcons⟩ := List.exists_cons_of_ne_nil d.name_ne_nil
    have hsolid : ∀ e ∈ c :: (name ++ rest.takeWhile (!isBlank ·)), isBlank e = false := by
      intro e he
      rw [← List.cons_append, ← hcons] at he
      rcases List.mem_append.mp he with he | he
      · exact d.not_isBlank_of_mem_name he
      · simpa using List.mem_takeWhile_imp he
    have hstop : ∀ e, (rest.dropWhile (!isBlank ·)).head? = some e → isBlank e = true := by
      intro e he
      have hnot := List.head?_dropWhile_not (!isBlank ·) rest
      rw [he] at hnot
      simpa using hnot
    have htokens := Text.tokens_append hsolid hstop
    rwa [List.append_assoc, List.takeWhile_append_dropWhile, ← List.cons_append, ← List.cons_append,
      ← hcons] at htokens
  have hgap : ∀ c, (d.gap ++ (d.name ++ rest)).head? = some c → isBlank c := by
    intro c hc
    rw [List.head?_append_of_ne_nil _ d.gap_ne_nil] at hc
    exact d.gap_blank c (List.mem_of_head? hc)
  have hsign : ∀ c ∈ '#' :: "define".toList, isBlank c = false := by
    simpa using List.all_eq_true.mp (show ('#' :: "define".toList).all (!isBlank ·) from rfl)
  rw [hline, tokens_append_of_blank d.indent_blank, Text.tokens_append hsign hgap,
    tokens_append_of_blank d.gap_blank, hname]
  rfl

theorem tokens_expanded (values : Entries Text) :
    (d.head ++ expand values d.body).tokens
      = "#define".toList :: d.name :: (expand values d.body).tokens := by
  have hbody : (expand values d.body).takeWhile (!isBlank ·) = []
      ∧ (expand values d.body).dropWhile (!isBlank ·) = expand values d.body := by
    rcases hexpanded : expand values d.body with _ | ⟨c, rest⟩
    · exact ⟨rfl, rfl⟩
    · have hblank : isBlank c := d.isBlank_of_head_expand values (by rw [hexpanded]; rfl)
      have hstops : ¬ (!isBlank c) = true := by simp [hblank]
      exact ⟨List.takeWhile_cons_of_neg hstops, List.dropWhile_cons_of_neg hstops⟩
  rw [d.tokens_head, hbody.1, hbody.2, List.append_nil]

end Definition

/-! ### Plain lines -/

/-- Expanding a line keeps the blanks at its start, and a sign after them. -/
theorem isPrefixOf_trimLeft_expand (values : Entries Text) {line : Text}
    (h : ['#'] <+: line.trimLeft) : ['#'] <+: (expand values line).trimLeft := by
  induction line with
  | nil => exact h
  | cons c rest ih =>
    by_cases hblank : isBlank c
    · rw [expand_cons values (Text.isWord_of_isBlank hblank)]
      rw [Text.trimLeft, List.dropWhile_cons_of_pos hblank] at h ⊢
      exact ih h
    · rw [Text.trimLeft, List.dropWhile_cons_of_neg hblank] at h
      obtain ⟨rfl, _⟩ := List.cons_prefix_cons.mp h
      rw [expand_cons values (by decide), Text.trimLeft, List.dropWhile_cons_of_neg (by decide)]
      exact List.cons_prefix_cons.mpr ⟨rfl, List.nil_prefix⟩

/-- A line that would be cut as a definition begins with its sign. -/
theorem isPrefixOf_trimLeft_of_splitDefinition {line : Text} {parts : Text × Text}
    (h : splitDefinition? line = some parts) : ['#'] <+: line.trimLeft := by
  unfold splitDefinition? at h
  dsimp only at h
  split at h
  case isTrue hkeyword =>
    have hsign : ['#'] <+: "#define".toList := ⟨"define".toList, rfl⟩
    exact hsign.trans (List.isPrefixOf_iff_prefix.mp hkeyword)
  case isFalse => cases h

/-- So does its part up to the name, whatever follows. -/
theorem isPrefixOf_trimLeft_head {line head rest : Text}
    (h : splitDefinition? line = some (head, rest)) (t : Text) : ['#'] <+: Text.trimLeft (head ++ t) := by
  have hindent : ∀ c ∈ line.takeWhile isBlank, isBlank c := fun _ => List.mem_takeWhile_imp
  unfold splitDefinition? at h
  dsimp only at h
  split at h
  · split at h
    · cases h
    · obtain ⟨rfl, _⟩ := Prod.mk.inj (Option.some.inj h)
      have hsign : ∀ (s : Text) c, ("#define".toList ++ s).head? = some c → isBlank c = false := by
        intro s c hc
        obtain rfl : '#' = c := Option.some.inj hc
        decide
      simp only [List.append_assoc]
      rw [Text.trimLeft, (span_of_forall hindent (hsign _)).2]
      exact ⟨_, rfl⟩
  · cases h

theorem expandLine_plain {macros : MacroTable} {line : Text}
    (h : (Clause.plain line).Admissible macros.entries) :
    macros.expandLine line = expand macros.entries line := by
  rw [MacroTable.expandLine]
  rcases hsplit : splitDefinition? line with _ | parts
  · exact substitute_eq_expand macros line
  · exact absurd (isPrefixOf_trimLeft_expand macros.entries
      (isPrefixOf_trimLeft_of_splitDefinition hsplit)) h.1

/-! ### Processing clauses -/

theorem not_mem_keys_iff {values : Entries Text} {name : Text} :
    name ∉ values.keys ↔ values.lookup name = none := by
  rw [Entries.keys, List.lookup_eq_none_iff, List.mem_map]
  constructor
  · intro h entry hentry
    rw [bne_iff_ne]
    rintro rfl
    exact h ⟨entry, hentry, rfl⟩
  · rintro h ⟨entry, hentry, rfl⟩
    simpa using h entry hentry

section Processing

variable {σ : Type} {resolver : Resolver σ} {run : Run σ}

/-- A line that begins as a definition is a directive. -/
theorem Definition.ofText_head (d : Definition) (rest : Text) :
    Line.ofText (d.head ++ rest) = .directive (stripComments (d.head ++ rest)).tokens := by
  have hstart : (d.head ++ rest).trimLeft = "#define".toList ++ (d.gap ++ (d.name ++ rest)) := by
    have hsign : ∀ c, ("#define".toList ++ (d.gap ++ (d.name ++ rest))).head? = some c →
        isBlank c = false := by
      intro c hc
      obtain rfl : '#' = c := Option.some.inj hc
      decide
    simp only [Definition.head, List.append_assoc]
    exact (span_of_forall d.indent_blank hsign).2
  refine ofText_sign ?_
  rw [hstart]
  exact ⟨"define".toList ++ (d.gap ++ (d.name ++ rest)), rfl⟩

theorem ofText_define {values : Entries Text} {d : Definition}
    (h : (Clause.define d).Admissible values) :
    Line.ofText (d.head ++ expand values d.body)
      = .directive ("#define".toList :: d.name :: (expand values d.body).tokens) := by
  obtain ⟨_, hline, hblock⟩ := h
  rw [d.ofText_head, stripComments_of_noOpener hline hblock, d.tokens_expanded]

/-- A definition is obeyed: its name is new. -/
theorem processLine_define {d : Definition} (h : (Clause.define d).Admissible run.macros.entries)
    (hfeed : '\n' ∉ d.text) (budget : Nat) (origin : Int) :
    processLine resolver budget origin d.text run
      = ({ run with macros := ⟨(Clause.define d).extend run.macros.entries⟩ }, none) := by
  have hkind : Line.ofText (run.macros.expandLine d.text)
      = .directive ("#define".toList :: d.name :: (expand run.macros.entries d.body).tokens) := by
    rw [d.expandLine_text run.macros hfeed, ofText_define h]
  have hread : Directive.ofTokens
      ("#define".toList :: d.name :: (expand run.macros.entries d.body).tokens)
      = .ok (.define d.name (d.value run.macros.entries)) := rfl
  have hnew : run.macros.contains d.name = false := by
    rw [MacroTable.contains, MacroTable.get?, not_mem_keys_iff.mp h.1, Option.isSome_none]
  have hdefine : run.macros.define? d.name (d.value run.macros.entries)
      = some ⟨(Clause.define d).extend run.macros.entries⟩ := by
    rw [MacroTable.define?, hnew]
    rfl
  rw [processLine_directive hkind hread (by simp), Run.obey, hdefine]
  rfl

/-- A plain line is emitted as it is expanded. -/
theorem processLine_use {line : Text} (h : (Clause.plain line).Admissible run.macros.entries)
    (hstrings : run.stringMode = false) (budget : Nat) (origin : Int) :
    processLine resolver budget origin line run
      = ({ run with source := run.source.pushLine (expand run.macros.entries line) origin }, none) := by
  have hkind : Line.ofText (run.macros.expandLine line) = .plain (expand run.macros.entries line) := by
    rw [expandLine_plain h]
    exact ofText_plain h.2 h.1
  rw [processLine_plain hkind, Run.emit, hstrings]
  rfl

/-- What lines with a meaning do to a run: it goes on, with the lines they emit and the values
they leave, and string literals are left alone. -/
structure Run.Follows (run after : Run σ) (lines : List Text) (values : Entries Text) : Prop where
  lines : after.source.lines = run.source.lines ++ lines
  values : after.macros.entries = values
  strings : after.stringMode = run.stringMode

variable (resolver run)

/-- One clause. -/
theorem follows_processLine {clause : Clause} (h : clause.Admissible run.macros.entries)
    (hfeed : '\n' ∉ clause.text) (hstrings : run.stringMode = false) (budget : Nat) (origin : Int) :
    ∃ after, processLine resolver budget origin clause.text run = (after, none)
      ∧ run.Follows after (clause.emit run.macros.entries) (clause.extend run.macros.entries) := by
  cases clause with
  | define d =>
    exact ⟨_, processLine_define h hfeed budget origin, (List.append_nil _).symm, rfl, rfl⟩
  | plain line =>
    exact ⟨_, processLine_use h hstrings budget origin,
      SourceMap.lines_pushLine run.source _ origin, rfl, rfl⟩

/-- Clauses one after the other.  Each is admissible with the values that those before it left. -/
theorem follows_processLines {clauses : List Clause} (h : Admissible run.macros.entries clauses)
    (hfeed : ∀ clause ∈ clauses, '\n' ∉ clause.text) (hstrings : run.stringMode = false)
    (budget : Nat) (number : Int) :
    ∃ after, processLines (processLine resolver budget) (numbered number (clauses.map Clause.text)) run
        = (after, none)
      ∧ run.Follows after (emission run.macros.entries clauses)
          (environment run.macros.entries clauses) := by
  induction clauses generalizing run number with
  | nil => exact ⟨run, rfl, (List.append_nil _).symm, rfl, rfl⟩
  | cons clause clauses ih =>
    obtain ⟨hclause, hrest⟩ := h
    rw [List.forall_mem_cons] at hfeed
    obtain ⟨next, hprocess, hnext⟩ :=
      follows_processLine resolver run hclause hfeed.1 hstrings budget number
    rw [← hnext.values] at hrest
    obtain ⟨after, hprocesses, hafter⟩ :=
      ih next hrest hfeed.2 (hnext.strings.trans hstrings) (number + 1)
    refine ⟨after, ?_, ?_, ?_, hafter.strings.trans hnext.strings⟩
    · rw [List.map_cons, numbered, processLines, hprocess]
      exact hprocesses
    · rw [hafter.lines, hnext.lines, hnext.values, List.append_assoc]
      rfl
    · rw [hafter.values, hnext.values]
      rfl

end Processing

/-! ### Shaders -/

/-- A shader of definitions and plain lines emits what its clauses emit, with the values that a
run starts with.  For a plain line that is the line, its words with the values of the definitions
before it; if they have none yet, it stays as it is. -/
theorem expansion {σ : Type} (resolver : Resolver σ) (defines : Entries Text) (world : σ)
    (text : Text) (clauses : List Clause) (hlines : text.lines = clauses.map Clause.text)
    (hadmissible : Admissible (initialMacros defines).entries clauses) :
    let builtins := (initialMacros defines).entries
    let result := (Preprocessor.fresh defines world).shader resolver text
    result.2 = .complete
      ∧ result.1.run.source.lines = emission builtins clauses
      ∧ result.1.run.macros.entries = environment builtins clauses
      ∧ ∀ before line after, clauses = before ++ .plain line :: after →
          let values := environment builtins before
          result.1.run.source.lines
              = emission builtins before ++ expand values line :: emission values after
            ∧ ((∀ word ∈ wordPieces line, values.lookup word = none) → expand values line = line) := by
  intro builtins result
  have hfeed : ∀ clause ∈ clauses, '\n' ∉ clause.text := by
    intro clause hclause
    refine Text.newline_not_mem_lines text clause.text ?_
    rw [hlines]
    exact List.mem_map_of_mem hclause
  obtain ⟨after, hprocess, hafter⟩ := follows_processLines resolver (Run.start defines world)
    hadmissible hfeed rfl maxIncludeDepth 1
  have hresult : result = ({ run := after, used := true, reports := #[] }, .complete) := by
    have hshader : (Run.start defines world).shader resolver text = (after, .complete) := by
      rw [shader_eq, hlines, hprocess]
      rfl
    simp only [result, Preprocessor.shader, Preprocessor.fresh, hshader, Bool.false_eq_true, if_false]
  have hemitted : result.1.run.source.lines = emission builtins clauses := by
    rw [hresult]
    exact hafter.lines
  refine ⟨by rw [hresult], hemitted, by rw [hresult]; exact hafter.values, ?_⟩
  rintro before line rest rfl
  refine ⟨?_, expand_eq_self⟩
  rw [hemitted, emission_append]
  rfl

/-- The definition of a name with one blank before it. -/
def Definition.simple (name body : Text) (hname : name ≠ []) (hword : name.all isWord)
    (hbody : body.head?.all isBlank) : Definition where
  indent := []
  gap := [' ']
  name := name
  body := body
  indent_blank := by simp
  gap_blank := List.forall_mem_singleton.mpr rfl
  gap_ne_nil := List.cons_ne_nil _ _
  name_word := List.all_eq_true.mp hword
  name_ne_nil := hname
  body_blank c hc := by rwa [hc] at hbody

/-- Macros that name themselves and each other, one without a value, and a use that is too
early. -/
theorem expansion_mutual :
    let text : Text := "A B\n#define A A+B\n#define B (A)\n#define C\nA B AB C.\n".toList
    ((Preprocessor.fresh [] ()).shader (Resolver.dictionary []) text).1.run.source.lines
      = ["A B".toList, "A+B (A+B) AB .".toList] := by
  intro text
  let clauses : List Clause := [.plain "A B".toList,
    .define (.simple "A".toList " A+B".toList (by decide) rfl rfl),
    .define (.simple "B".toList " (A)".toList (by decide) rfl rfl),
    .define (.simple "C".toList [] (by decide) rfl rfl),
    .plain "A B AB C.".toList]
  have hlines : Text.lines text = clauses.map Clause.text := by decide +kernel
  have hadmissible : Admissible (initialMacros []).entries clauses := by
    refine ⟨?_, ?_, ?_, ?_, ?_, trivial⟩
    case refine_1 | refine_5 => exact ⟨by decide +kernel, by decide +kernel⟩
    all_goals exact ⟨by decide +kernel, by decide +kernel, by decide +kernel⟩
  have hemission : emission (initialMacros []).entries clauses
      = ["A B".toList, "A+B (A+B) AB .".toList] := by decide +kernel
  obtain ⟨_, hemitted, _⟩ :=
    expansion (Resolver.dictionary []) [] () text clauses hlines hadmissible
  exact hemitted.trans hemission

end ShaderPlayer.Shader
