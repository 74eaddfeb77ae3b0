/-
The prelude declares no entry points.

* `calm` — a text without attributes, functions and comments: none of its lexemes matters
  to the scan for entry points (`dull_of_calm`);
* `inert_field`, `inert_bindingLine`, `inert_function` — the lines of the prelude that are
  not calm as a whole are fields of structures, whose names may be anything, declarations of
  bindings, and functions;
* `findEntryPoints_prelude` — the entry points of a unit are those of what follows the
  prelude.
-/
import ShaderPlayer.Proofs.Shader.Inlining
import ShaderPlayer.Shader.EntryPoint
import ShaderPlayer.Shader.Prelude

namespace ShaderPlayer.Shader

open Text (isWord isBlank)

/-! ### Lexemes -/

theorem lexemes_append {c : Char} (hc : isWord c = false) (t rest : Text) :
    lexemes (t ++ c :: rest) = lexemes t ++ lexemes (c :: rest) := by
  have hstop : ∀ d, (c :: rest).head? = some d → isWord d = false := by
    intro d hd
    rw [← Option.some.inj hd]
    exact hc
  fun_induction lexemes t with
  | case1 => rfl
  | case2 d more hd ih =>
    obtain ⟨htake, hdrop⟩ := Text.span_append_stop hstop more
    rw [List.cons_append, lexemes, if_pos hd, htake, hdrop, ih]
    rfl
  | case3 d more hd hblank ih => rw [List.cons_append, lexemes, if_neg hd, if_pos hblank, ih]
  | case4 d more hd hblank ih =>
    rw [List.cons_append, lexemes, if_neg hd, if_neg hblank, ih]
    rfl

theorem lexemes_of_blank {c : Char} (h : isBlank c) (t : Text) :
    lexemes (c :: t) = lexemes t := by
  rw [lexemes, Text.isWord_of_isBlank h, if_neg Bool.false_ne_true, if_pos h]

theorem lexemes_of_sign {c : Char} (hword : isWord c = false) (hblank : isBlank c = false)
    (t : Text) : lexemes (c :: t) = [c] :: lexemes t := by
  rw [lexemes, if_neg (by rw [hword]; exact Bool.false_ne_true),
    if_neg (by rw [hblank]; exact Bool.false_ne_true)]

theorem lexemes_of_word {word : Text} (hne : word ≠ []) (hword : ∀ c ∈ word, isWord c) :
    lexemes word = [word] := by
  cases word with
  | nil => exact absurd rfl hne
  | cons c rest =>
    rw [List.forall_mem_cons] at hword
    have htake : rest.takeWhile isWord = rest := List.takeWhile_eq_self_iff.mpr hword.2
    have hdrop : rest.dropWhile isWord = [] := List.dropWhile_eq_nil_iff.mpr hword.2
    rw [lexemes, if_pos hword.1, htake, hdrop, lexemes]

theorem infix_of_mem_lexemes {t lexeme : Text} (h : lexeme ∈ lexemes t) : lexeme <:+: t := by
  fun_induction lexemes t with
  | case1 => exact absurd h List.not_mem_nil
  | case2 c rest hc ih =>
    rcases List.mem_cons.mp h with rfl | h
    · exact (List.prefix_cons_inj c |>.mpr (List.takeWhile_prefix _)).isInfix
    · exact ((ih h).trans (List.dropWhile_suffix _).isInfix).trans (List.suffix_cons c rest).isInfix
  | case3 c rest hc hblank ih => exact (ih h).trans (List.suffix_cons c rest).isInfix
  | case4 c rest hc hblank ih =>
    rcases List.mem_cons.mp h with rfl | h
    · exact ⟨[], rest, rfl⟩
    · exact (ih h).trans (List.suffix_cons c rest).isInfix

/-! ### Lexemes that do not matter -/

/-- Lexemes after which a scan goes on as if they were not there. -/
def Passive (ls : List Text) : Prop := ∀ more, scan [] (ls ++ more) = scan [] more

/-- A lexeme that begins neither an attribute nor a function. -/
def Dull (lexeme : Text) : Prop := lexeme ≠ ['@'] ∧ lexeme ≠ ['f', 'n']

theorem scan_cons_dull {lexeme : Text} (h : Dull lexeme) (attributes : Entries (List Text))
    (more : List Text) : scan attributes (lexeme :: more) = scan [] more := by
  rw [scan.eq_def]
  dsimp only
  rw [if_neg h.1, if_neg h.2]

theorem scan_cons_fn (name : Text) (more : List Text) :
    scan [] (['f', 'n'] :: name :: more) = scan [] more := by
  rw [scan.eq_def]
  dsimp only
  rw [if_neg (by decide), if_pos rfl]
  show (do
    let others ← scan [] more
    return [] ++ others : Except Nat (List EntryPoint)) = scan [] more
  cases scan [] more with
  | error digits => rfl
  | ok points => rfl

theorem passive_of_dull {ls : List Text} (h : ∀ lexeme ∈ ls, Dull lexeme) : Passive ls := by
  intro more
  induction ls with
  | nil => rfl
  | cons lexeme ls ih =>
    rw [List.forall_mem_cons] at h
    rw [List.cons_append, scan_cons_dull h.1, ih h.2]

/-- After a word, whatever it is, comes what is no name of a function. -/
theorem passive_word {word next : Text} {ls : List Text} (hword : word ≠ ['@'])
    (hnext : Dull next) (hls : ∀ lexeme ∈ ls, Dull lexeme) : Passive (word :: next :: ls) := by
  intro more
  by_cases hfn : word = ['f', 'n']
  -- a word `fn` takes the next lexeme with it
  · subst hfn
    rw [List.cons_append, List.cons_append, scan_cons_fn]
    exact passive_of_dull hls more
  · have hdull : ∀ lexeme ∈ word :: next :: ls, Dull lexeme := by
      rw [List.forall_mem_cons, List.forall_mem_cons]
      exact ⟨⟨hword, hfn⟩, hnext, hls⟩
    exact passive_of_dull hdull more

/-- An attribute with one argument. -/
theorem scan_attribute {argument : Text}
    (hargument : argument ≠ ['('] ∧ argument ≠ [')'] ∧ argument ≠ [','])
    (attributes : Entries (List Text)) (name : Text) (more : List Text) :
    scan attributes (['@'] :: name :: ['('] :: argument :: [')'] :: more)
      = scan (attributes.put name ([argument].filter (!·.isEmpty))) more := by
  obtain ⟨hopen, hclose, hcomma⟩ := hargument
  have hread : readArguments 1 (argument :: [')'] :: more) = (argument, [], more) := by
    rw [readArguments.eq_def]
    dsimp only
    rw [if_neg hopen, if_neg hclose, if_neg fun h => hcomma h.1, readArguments.eq_def]
    dsimp only
    rw [if_neg (by decide), if_pos rfl, if_pos rfl, List.append_nil]
  have harguments : attributeArguments (['('] :: argument :: [')'] :: more)
      = ([argument].filter (!·.isEmpty), more) := by
    show (((readArguments 1 (argument :: [')'] :: more)).1
      :: (readArguments 1 (argument :: [')'] :: more)).2.1).filter (!·.isEmpty),
      (readArguments 1 (argument :: [')'] :: more)).2.2) = _
    rw [hread]
  rw [scan.eq_def]
  dsimp only
  rw [if_pos rfl, harguments]

/-! ### Lines that do not matter -/

/-- A line without attributes, comments and the letters of `fn`. -/
def calm : Text → Bool
  | [] => true
  | c :: rest =>
    c != '@' && !(c == 'f' && rest.head? == some 'n')
      && !(c == '/' && (rest.head? == some '/' || rest.head? == some '*')) && calm rest

theorem not_infix_of_calm {t : Text} (h : calm t) :
    ¬ ['@'] <:+: t ∧ ¬ ['f', 'n'] <:+: t ∧ ¬ ['/', '/'] <:+: t ∧ ¬ ['/', '*'] <:+: t := by
  induction t with
  | nil => simp
  | cons c rest ih =>
    unfold calm at h
    simp only [Bool.and_eq_true, bne_iff_ne, ne_eq, Bool.not_eq_true', Bool.and_eq_false_iff,
      Bool.or_eq_false_iff, beq_eq_false_iff_ne] at h
    obtain ⟨⟨⟨hat, hfn⟩, hcomment⟩, hrest⟩ := h
    obtain ⟨ihat, ihfn, ihline, ihblock⟩ := ih hrest
    -- a pair of characters stands at the beginning or further on
    have hpair : ∀ {a b : Char}, (c ≠ a ∨ rest.head? ≠ some b) → ¬ [a, b] <:+: rest →
        ¬ [a, b] <:+: c :: rest := by
      intro a b hne hrest h
      rw [List.infix_cons_iff, List.cons_prefix_cons] at h
      rcases h with ⟨rfl, hb⟩ | h
      · obtain ⟨more, rfl⟩ := hb
        exact hne.elim (fun h => h rfl) fun h => h rfl
      · exact hrest h
    refine ⟨?_, hpair hfn ihfn, hpair (hcomment.imp_right (·.1)) ihline,
      hpair (hcomment.imp_right (·.2)) ihblock⟩
    intro h
    rw [List.infix_cons_iff, List.cons_prefix_cons] at h
    rcases h with ⟨rfl, _⟩ | h
    · exact hat rfl
    · exact ihat h

theorem dull_of_calm {t : Text} (h : calm t) : ∀ lexeme ∈ lexemes t, Dull lexeme := by
  obtain ⟨hat, hfn, _⟩ := not_infix_of_calm h
  intro lexeme hlexeme
  have hinfix := infix_of_mem_lexemes hlexeme
  refine ⟨?_, ?_⟩
  · rintro rfl
    exact hat hinfix
  · rintro rfl
    exact hfn hinfix

/-- A line that does not matter to the entry points of what follows it. -/
def Inert (line : Text) : Prop :=
  ∀ rest, findEntryPoints (line ++ '\n' :: rest) = findEntryPoints rest

theorem stripComments_cons {c : Char} {t : Text} (hline : ¬ ['/', '/'] <+: c :: t)
    (hblock : ¬ ['/', '*'] <+: c :: t) : stripComments (c :: t) = c :: stripComments t := by
  rw [stripComments.eq_def]
  split
  · next h => cases h
  · next rest h =>
    rw [h] at hline
    exact absurd ⟨rest, rfl⟩ hline
  · next rest h =>
    rw [h] at hblock
    exact absurd ⟨rest, rfl⟩ hblock
  · next h =>
    cases h
    rfl

/-- Comments begin with a slash. -/
theorem stripComments_cons_of_ne {c : Char} (hslash : c ≠ '/') (t : Text) :
    stripComments (c :: t) = c :: stripComments t := by
  have hopener : ∀ d, ¬ ['/', d] <+: c :: t := fun d hprefix =>
    hslash (List.cons_prefix_cons.mp hprefix).1.symm
  exact stripComments_cons (hopener _) (hopener _)

/-- Comments do not begin in a line without their openers, and not at its end. -/
theorem stripComments_line {line : Text} (hline : ¬ ['/', '/'] <:+: line)
    (hblock : ¬ ['/', '*'] <:+: line) (rest : Text) :
    stripComments (line ++ '\n' :: rest) = line ++ '\n' :: stripComments rest := by
  -- the line feed after the line completes no opener
  have hfeed : ∀ {b : Char}, b ≠ '\n' → ∀ {c : Char} {t : Text}, ¬ ['/', b] <:+: c :: t →
      ¬ ['/', b] <+: c :: (t ++ '\n' :: rest) := by
    intro b hb c t hinfix hprefix
    obtain ⟨rfl, hnext⟩ := List.cons_prefix_cons.mp hprefix
    cases t with
    | nil => exact hb (List.cons_prefix_cons.mp hnext).1
    | cons d t =>
      obtain ⟨rfl, _⟩ := List.cons_prefix_cons.mp hnext
      exact hinfix ⟨[], t, rfl⟩
  induction line with
  | nil => exact stripComments_cons_of_ne (by decide) rest
  | cons c t ih =>
    rw [List.cons_append, stripComments_cons (hfeed (by decide) hline) (hfeed (by decide) hblock),
      ih (fun h => hline (List.infix_cons_iff.mpr (.inr h)))
        (fun h => hblock (List.infix_cons_iff.mpr (.inr h)))]
    rfl

theorem inert_of_passive {line : Text} (hline : ¬ ['/', '/'] <:+: line)
    (hblock : ¬ ['/', '*'] <:+: line) (hpassive : Passive (lexemes line)) : Inert line := by
  intro rest
  unfold findEntryPoints
  rw [stripComments_line hline hblock, lexemes_append Text.isWord_newline,
    lexemes_of_blank Text.isBlank_newline]
  exact hpassive _

theorem inert_of_calm {line : Text} (h : calm line) : Inert line := by
  obtain ⟨_, _, hline, hblock⟩ := not_infix_of_calm h
  exact inert_of_passive hline hblock (passive_of_dull (dull_of_calm h))

theorem inert_append {head tail : Text} (hslash : '/' ∉ head) (hcalm : calm tail)
    (hpassive : Passive (lexemes (head ++ tail))) : Inert (head ++ tail) := by
  obtain ⟨_, _, hline, hblock⟩ := not_infix_of_calm hcalm
  exact inert_of_passive (fun h => hline (pair_infix_of_not_mem hslash h))
    (fun h => hblock (pair_infix_of_not_mem hslash h)) hpassive

/-- A function's line: what follows `fn` is calm, and not nothing. -/
theorem inert_function {head : Text} (hcalm : calm head) (hne : lexemes head ≠ []) :
    Inert (['f', 'n', ' '] ++ head) := by
  have hspace : isWord ' ' = false := by decide
  have hblank : isBlank ' ' := by decide
  have hlexemes : lexemes (['f', 'n', ' '] ++ head) = ['f', 'n'] :: lexemes head := by
    show lexemes (['f', 'n'] ++ ' ' :: head) = _
    rw [lexemes_append hspace, lexemes_of_blank hblank,
      lexemes_of_word (List.cons_ne_nil _ _) (List.all_eq_true.mp (by decide)), List.singleton_append]
  refine inert_append (by decide) hcalm fun more => ?_
  have hdull := dull_of_calm hcalm
  -- the first lexeme of the rest is taken for the function's name
  obtain ⟨name, others, hhead⟩ := List.exists_cons_of_ne_nil hne
  rw [hhead, List.forall_mem_cons] at hdull
  rw [hlexemes, hhead, List.cons_append, List.cons_append, scan_cons_fn]
  exact passive_of_dull hdull.2 more

theorem isWord_of_isIdentifier {name : Text} (h : name.isIdentifier) : ∀ c ∈ name, isWord c := by
  cases name with
  | nil => exact fun _ hc => absurd hc List.not_mem_nil
  | cons first rest =>
    unfold Text.isIdentifier at h
    rw [Bool.and_eq_true, Bool.or_eq_true, List.all_eq_true] at h
    rw [List.forall_mem_cons]
    refine ⟨?_, h.2⟩
    unfold isWord
    rw [Bool.or_eq_true]
    refine h.1.imp_left fun halpha => Text.isAlphanumeric_of_isAlphanum ?_
    rw [Char.isAlphanum, halpha, Bool.true_or]

/-- A field of a structure, whatever identifier its name is. -/
theorem inert_field {name type : Text} (hname : name.isIdentifier) (hcalm : calm type) :
    Inert ("    ".toList ++ name ++ [':'] ++ type) := by
  have hword := isWord_of_isIdentifier hname
  have hcolon : isWord ':' = false := by decide
  have hblank : isBlank ' ' := by decide
  have hne : name ≠ [] := by
    rintro rfl
    cases hname
  have hlexemes : lexemes ("    ".toList ++ name ++ [':'] ++ type)
      = name :: [':'] :: lexemes type := by
    simp only [List.append_assoc, List.singleton_append]
    show lexemes (' ' :: ' ' :: ' ' :: ' ' :: (name ++ ':' :: type)) = _
    simp only [lexemes_of_blank hblank]
    rw [lexemes_append hcolon, lexemes_of_word hne hword, lexemes_of_sign hcolon (by decide),
      List.singleton_append]
  have hslash : '/' ∉ "    ".toList ++ name ++ [':'] := by
    simp only [List.mem_append, not_or]
    refine ⟨⟨by decide, fun h => ?_⟩, by decide⟩
    exact absurd (hword '/' h) (by decide)
  refine inert_append hslash hcalm ?_
  -- the name may be `fn`, and then takes the colon for the function's
  rw [hlexemes]
  refine passive_word ?_ ⟨by decide, by decide⟩ (dull_of_calm hcalm)
  rintro rfl
  exact absurd (hword '@' List.mem_cons_self) (by decide)

theorem lexemes_binding {number tail : Text} (hne : number ≠ []) (hnumber : ∀ c ∈ number, isWord c) :
    lexemes ("@group(0) @binding(".toList ++ number ++ [')', ' '] ++ 'v' :: tail)
      = ['@'] :: "group".toList :: ['('] :: ['0'] :: [')'] :: ['@'] :: "binding".toList :: ['(']
        :: number :: [')'] :: lexemes ('v' :: tail) := by
  have hblank : isBlank ' ' := by decide
  have hopen : isWord '(' = false := by decide
  have hclose : isWord ')' = false := by decide
  have hat : isWord '@' = false := by decide
  have hrest : lexemes (number ++ ')' :: ' ' :: 'v' :: tail)
      = number :: [')'] :: lexemes ('v' :: tail) := by
    rw [lexemes_append hclose, lexemes_of_word hne hnumber, lexemes_of_sign hclose (by decide),
      lexemes_of_blank hblank, List.singleton_append]
  have hgroup : lexemes "group".toList = ["group".toList] :=
    lexemes_of_word (by decide) (List.all_eq_true.mp (by decide))
  have hzero : lexemes ['0'] = [['0']] :=
    lexemes_of_word (by decide) (List.all_eq_true.mp (by decide))
  have hbinding : lexemes "binding".toList = ["binding".toList] :=
    lexemes_of_word (by decide) (List.all_eq_true.mp (by decide))
  simp only [List.append_assoc, List.cons_append, List.nil_append]
  show lexemes ('@' :: ("group".toList ++ '(' :: (['0'] ++ ')' :: ' ' :: '@'
    :: ("binding".toList ++ '(' :: (number ++ ')' :: ' ' :: 'v' :: tail))))) = _
  rw [lexemes_of_sign hat (by decide), lexemes_append hopen, lexemes_of_sign hopen (by decide),
    lexemes_append hclose, lexemes_of_sign hclose (by decide), lexemes_of_blank hblank,
    lexemes_of_sign hat (by decide), lexemes_append hopen, lexemes_of_sign hopen (by decide), hrest,
    hgroup, hzero, hbinding]
  rfl

/-- The declaration of a binding: its attributes are no function's. -/
theorem inert_binding {number tail : Text} (hne : number ≠ []) (hnumber : ∀ c ∈ number, isWord c)
    (hcalm : calm ('v' :: tail)) :
    Inert ("@group(0) @binding(".toList ++ number ++ [')', ' '] ++ 'v' :: tail) := by
  have hslash : '/' ∉ "@group(0) @binding(".toList ++ number ++ [')', ' '] := by
    simp only [List.mem_append, not_or]
    refine ⟨⟨by decide, fun h => ?_⟩, by decide⟩
    exact absurd (hnumber '/' h) (by decide)
  have hargument : number ≠ ['('] ∧ number ≠ [')'] ∧ number ≠ [','] := by
    refine ⟨?_, ?_, ?_⟩
    all_goals
      rintro rfl
      exact absurd (hnumber _ List.mem_cons_self) (by decide)
  have hdull := dull_of_calm hcalm
  refine inert_append hslash hcalm fun more => ?_
  rw [lexemes_binding hne hnumber]
  show scan [] (['@'] :: "group".toList :: ['('] :: ['0'] :: [')'] :: ['@'] :: "binding".toList :: ['(']
    :: number :: [')'] :: (lexemes ('v' :: tail) ++ more)) = _
  rw [scan_attribute (by decide), scan_attribute hargument]
  -- the attributes end with `var`
  have hfirst : isWord 'v' = true := by decide
  rw [lexemes, if_pos hfirst, List.forall_mem_cons] at hdull
  rw [lexemes, if_pos hfirst, List.cons_append, scan_cons_dull hdull.1]
  exact passive_of_dull hdull.2 more

/-! ### The prelude -/

/-- A line that is calm, or begins with `fn` and goes on calmly. -/
def harmless (line : Text) : Bool :=
  calm line || match line with
    | 'f' :: 'n' :: ' ' :: c :: head => !isBlank c && calm (c :: head)
    | _ => false

theorem inert_of_harmless {line : Text} (h : harmless line) : Inert line := by
  unfold harmless at h
  rcases (Bool.or_eq_true _ _).mp h with h | h
  · exact inert_of_calm h
  · split at h
    · next c head =>
      rw [Bool.and_eq_true, Bool.not_eq_true'] at h
      refine inert_function h.2 ?_
      rw [lexemes, h.1]
      split
      · exact List.cons_ne_nil _ _
      · exact List.cons_ne_nil _ _
    · cases h

/-- The characters of a literal, which are not computed from its bytes this way. -/
theorem inert_literal {cs : List Char} (h : harmless cs) : Inert (String.ofList cs).toList := by
  rw [String.toList_ofList]
  exact inert_of_harmless h

theorem findEntryPoints_lines {ls : List Text} (h : ∀ l ∈ ls, Inert l) (rest : Text) :
    findEntryPoints (ls.flatMap SourceMap.terminated ++ rest) = findEntryPoints rest := by
  induction ls with
  | nil => rfl
  | cons l ls ih =>
    rw [List.forall_mem_cons] at h
    rw [List.flatMap_cons, SourceMap.terminated, List.append_assoc, List.append_assoc,
      List.singleton_append, h.1, ih h.2]

theorem inert_aliasLines : ∀ l ∈ aliasLines, Inert l := by
  have hcalm : ∀ l ∈ aliasLines, harmless l := by decide +kernel
  exact fun l hl => inert_of_harmless (hcalm l hl)

theorem inert_structLines : ∀ l ∈ structLines.map String.toList, Inert l := by
  simp only [structLines, List.map_cons, List.map_nil, List.forall_mem_cons]
  and_intros
  all_goals first
    | exact inert_literal (by decide)
    | exact fun _ h => absurd h List.not_mem_nil

theorem inert_functionLines : ∀ l ∈ functionLines.map String.toList, Inert l := by
  simp only [functionLines, List.map_cons, List.map_nil, List.forall_mem_cons]
  and_intros
  all_goals first
    | exact inert_literal (by decide)
    | exact fun _ h => absurd h List.not_mem_nil

theorem inert_bindingLine {binding : Nat} {space name type : Text}
    (hnumber : (Text.ofNat binding).all isWord) (hne : Text.ofNat binding ≠ [])
    (hcalm : calm ("var".toList ++ (space ++ ' ' :: name ++ ": ".toList ++ type ++ [';']))) :
    Inert (bindingLine binding space name type) := by
  have hinert := inert_binding hne (List.all_eq_true.mp hnumber) hcalm
  unfold bindingLine
  simp only [List.append_assoc, List.cons_append, List.nil_append] at hinert ⊢
  exact hinert

theorem inert_bindingLines (wide : Bool) : ∀ l ∈ bindingLines wide, Inert l := by
  cases wide
  all_goals
    simp only [bindingLines, List.forall_mem_cons]
    and_intros
    all_goals first
      | exact inert_bindingLine (by decide) (by decide) (by decide +kernel)
      | exact inert_of_calm rfl
      | exact fun _ h => absurd h List.not_mem_nil

/-- None of the characters that are not calm. -/
def calmCharacter (c : Char) : Bool := c != '@' && c != 'f' && c != '/'

theorem calm_of_all {t : Text} (h : t.all calmCharacter) : calm t := by
  induction t with
  | nil => rfl
  | cons c rest ih =>
    rw [List.all_cons, Bool.and_eq_true, calmCharacter, Bool.and_eq_true, Bool.and_eq_true] at h
    obtain ⟨⟨⟨hat, hfn⟩, hslash⟩, hrest⟩ := h
    rw [calm, hat, beq_eq_false_iff_ne.mpr (bne_iff_ne.mp hfn),
      beq_eq_false_iff_ne.mpr (bne_iff_ne.mp hslash), ih hrest]
    rfl

/-- The rest of a table's field. -/
theorem calm_tableType (length : Nat) :
    calm (" array<u32,".toList ++ Text.ofNat length ++ ['>', ',']) := by
  have hopening : (" array<u32,".toList).all calmCharacter := by decide
  have hnumber : (Text.ofNat length).all calmCharacter := by
    refine List.all_eq_true.mpr fun c hc => ?_
    have hdigit := Nat.isDigit_of_mem_toDigits (by decide) (by decide) hc
    rw [calmCharacter, Bool.and_eq_true, Bool.and_eq_true]
    refine ⟨⟨bne_iff_ne.mpr ?_, bne_iff_ne.mpr ?_⟩, bne_iff_ne.mpr ?_⟩
    all_goals
      rintro rfl
      exact absurd hdigit (by decide)
  have hclosing : (['>', ',']).all calmCharacter := by decide
  refine calm_of_all ?_
  rw [List.all_append, List.all_append, hopening, hnumber, hclosing]
  rfl

theorem inert_structLinesOf {name : Text} {fields : List Text}
    (hname : harmless ("struct ".toList ++ name ++ [' ', '\x7b']))
    (hfields : ∀ field ∈ fields, ∃ name type, field ++ [','] = name ++ ':' :: type
      ∧ name.isIdentifier ∧ calm type) :
    ∀ l ∈ structLinesOf name fields, Inert l := by
  intro l hl
  rw [structLinesOf, List.mem_append, List.mem_cons, List.mem_singleton] at hl
  rcases hl with (rfl | hl) | rfl
  · exact inert_of_harmless hname
  · obtain ⟨field, hfield, rfl⟩ := List.mem_map.mp hl
    obtain ⟨name, type, heq, hname, hcalm⟩ := hfields field hfield
    have hinert := inert_field hname hcalm
    simp only [List.append_assoc, List.singleton_append] at hinert
    rw [List.append_assoc, heq]
    exact hinert
  · exact inert_of_calm (by decide)

/-- No entry point is declared before what follows the prelude, and none is lost there. -/
theorem findEntryPoints_prelude {customNames : List Text} {tables : Tables}
    (hnames : ∀ name ∈ customNames, name.isIdentifier)
    (htables : ∀ name ∈ tables.keys, name.isIdentifier) (wide : Bool) (rest : Text) :
    findEntryPoints (prelude customNames tables wide ++ rest) = findEntryPoints rest := by
  have hcustom : ∀ field ∈ customNames.map customField, ∃ name type,
      field ++ [','] = name ++ ':' :: type ∧ name.isIdentifier ∧ calm type := by
    intro field hfield
    obtain ⟨name, hname, rfl⟩ := List.mem_map.mp hfield
    refine ⟨name, " float,".toList, ?_, hnames name hname, by decide⟩
    rw [customField, List.append_assoc]
    rfl
  have hdata : ∀ field ∈ tableFields tables, ∃ name type,
      field ++ [','] = name ++ ':' :: type ∧ name.isIdentifier ∧ calm type := by
    intro field hfield
    obtain ⟨name, length, hname, rfl⟩ := exists_tableField (by decide) htables hfield
    refine ⟨name, _, ?_, hname, calm_tableType length⟩
    simp only [tableField, List.append_assoc]
    rfl
  refine findEntryPoints_lines (fun l hl => ?_) rest
  simp only [preludeLines, List.mem_append] at hl
  rcases hl with ((((hl | hl) | hl) | hl) | hl) | hl
  · exact inert_aliasLines l hl
  · exact inert_structLines l hl
  · exact inert_structLinesOf (by decide) hcustom l hl
  · exact inert_structLinesOf (by decide) hdata l hl
  · exact inert_bindingLines wide l hl
  · exact inert_functionLines l hl

/-- A unit without extensions has the entry points of its source. -/
theorem findEntryPoints_unitText {m : SourceMap} (hextensions : m.hoisted = #[])
    (htables : ∀ name ∈ m.tables.keys, name.isIdentifier) {customNames : List Text}
    (hnames : ∀ name ∈ customNames, name.isIdentifier) (wide : Bool) :
    findEntryPoints (unitText m customNames wide) = findEntryPoints m.source := by
  unfold unitText header SourceMap.extensions
  rw [hextensions]
  exact findEntryPoints_prelude hnames htables wide m.source

end ShaderPlayer.Shader
