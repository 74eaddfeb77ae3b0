/-
The entry points of a printed module.

A module is a list of declarations; here it is printed lexeme by lexeme, with any blanks in between,
and scanned again.

* `Printed` — a text with given lexemes, no two of which touch;
* `Attribute`, `Item`, `FunctionDeclaration`, `Declaration` — what is printed, attributes wherever
  they may stand, with any arguments in which parentheses match (`Attribute.exists_arguments`);
* `readArguments_pieces`, `scan_attributes`, `passive_item`, `scan_function` — the scan reads each
  of them as it was printed;
* `findEntryPoints_printed` — so it finds the functions with both attributes of an entry point, in
  their order and with their sizes.
-/
import ShaderPlayer.Proofs.Effect
import ShaderPlayer.Proofs.Shader.Inert
import ShaderPlayer.Proofs.Shader.Size

namespace ShaderPlayer.Shader

open Text (isWord isBlank)

/-! ### Printed text -/

/-- A word, or a sign, which is a character that is neither one of words nor blank. -/
def IsLexeme (l : Text) : Prop :=
  (l ≠ [] ∧ l.all isWord) ∨ (l.length = 1 ∧ l.all fun c => !isWord c && !isBlank c)

instance (l : Text) : Decidable (IsLexeme l) := inferInstanceAs (Decidable (_ ∨ _))

theorem isLexeme_cases {l : Text} (h : IsLexeme l) :
    (l ≠ [] ∧ ∀ c ∈ l, isWord c) ∨ ∃ c, l = [c] ∧ isWord c = false ∧ isBlank c = false := by
  refine h.imp (fun ⟨hne, hword⟩ => ⟨hne, List.all_eq_true.mp hword⟩) fun ⟨hlength, hsign⟩ => ?_
  obtain ⟨c, rfl⟩ := List.length_eq_one_iff.mp hlength
  refine ⟨c, rfl, ?_⟩
  simpa using hsign

/-- The text has these lexemes, with blanks anywhere around them and at least one between two. -/
inductive Printed : List Text → Text → Prop
  | nil : Printed [] []
  | blank {c : Char} {ls : List Text} {t : Text} (hc : isBlank c) (h : Printed ls t) :
      Printed ls (c :: t)
  | lexeme {l : Text} {ls : List Text} {t : Text} (hl : IsLexeme l)
      (hnext : ∀ c, t.head? = some c → isBlank c) (h : Printed ls t) : Printed (l :: ls) (l ++ t)

/-- Any lexemes can be printed, for one with a space behind each. -/
theorem printed_spaced {ls : List Text} (h : ∀ l ∈ ls, IsLexeme l) :
    Printed ls (ls.flatMap (· ++ [' '])) := by
  induction ls with
  | nil => exact .nil
  | cons l ls ih =>
    rw [List.forall_mem_cons] at h
    rw [List.flatMap_cons, List.append_assoc, List.singleton_append]
    refine .lexeme h.1 (fun c hc => ?_) (.blank (by decide) (ih h.2))
    cases hc
    decide

theorem lexemes_lexeme {l : Text} (hl : IsLexeme l) {t : Text}
    (hnext : ∀ c, t.head? = some c → isBlank c) : lexemes (l ++ t) = l :: lexemes t := by
  rcases isLexeme_cases hl with ⟨hne, hword⟩ | ⟨c, rfl, hword, hblank⟩
  · cases t with
    | nil => rw [List.append_nil, lexemes_of_word hne hword, lexemes]
    | cons c t =>
      rw [lexemes_append (Text.isWord_of_isBlank (hnext c rfl)), lexemes_of_word hne hword,
        List.singleton_append]
  · exact lexemes_of_sign hword hblank t

theorem lexemes_of_printed {ls : List Text} {t : Text} (h : Printed ls t) : lexemes t = ls := by
  induction h with
  | nil => rw [lexemes]
  | blank hc _ ih => rw [lexemes_of_blank hc, ih]
  | lexeme hl hnext _ ih => rw [lexemes_lexeme hl hnext, ih]

theorem stripComments_append_of_not_mem {l : Text} (h : '/' ∉ l) (t : Text) :
    stripComments (l ++ t) = l ++ stripComments t := by
  induction l with
  | nil => rfl
  | cons c l ih =>
    rw [List.mem_cons, not_or] at h
    rw [List.cons_append, stripComments_cons_of_ne (Ne.symm h.1), ih h.2, List.cons_append]

/-- No slash has another one, or a star, right behind it. -/
theorem stripComments_lexeme {l : Text} (hl : IsLexeme l) {t : Text}
    (hnext : ∀ c, t.head? = some c → isBlank c) :
    stripComments (l ++ t) = l ++ stripComments t := by
  rcases isLexeme_cases hl with ⟨_, hword⟩ | ⟨c, rfl, _, _⟩
  · exact stripComments_append_of_not_mem (fun h => absurd (hword '/' h) (by decide)) t
  · have hopener : ∀ d, isBlank d = false → ¬ ['/', d] <+: c :: t := by
      rintro d hd ⟨more, hmore⟩
      obtain ⟨-, rfl⟩ := List.cons.inj hmore
      exact absurd (hnext d rfl) (by rw [hd]; exact Bool.false_ne_true)
    exact stripComments_cons (hopener _ (by decide)) (hopener _ (by decide))

theorem stripComments_of_printed {ls : List Text} {t : Text} (h : Printed ls t) :
    stripComments t = t := by
  induction h with
  | nil => rw [stripComments]
  | @blank c ls t hc _ ih =>
    have hslash : c ≠ '/' := by
      rintro rfl
      exact absurd hc (by decide)
    rw [stripComments_cons_of_ne hslash, ih]
  | lexeme hl hnext _ ih => rw [stripComments_lexeme hl hnext, ih]

theorem findEntryPoints_of_printed {ls : List Text} {t : Text} (h : Printed ls t) :
    findEntryPoints t = scan [] ls := by
  rw [findEntryPoints, stripComments_of_printed h, lexemes_of_printed h]

/-! ### Arguments -/

/-- The lexemes have each parenthesis closed, and commas outside of parentheses only if they may. -/
inductive Balanced : Bool → List Text → Prop
  | nil {commas : Bool} : Balanced commas []
  | lexeme {commas : Bool} {l : Text} {ls : List Text} (hopen : l ≠ ['(']) (hclose : l ≠ [')'])
      (hcomma : l = [','] → commas) (h : Balanced commas ls) : Balanced commas (l :: ls)
  | group {commas : Bool} {inner ls : List Text} (hinner : Balanced true inner)
      (h : Balanced commas ls) : Balanced commas (['('] :: inner ++ [')'] :: ls)

/-- What is balanced consists of pieces without commas, and commas between these. -/
theorem Balanced.exists_pieces {ls : List Text} (h : Balanced true ls) :
    ∃ p ps, (∀ piece ∈ p :: ps, Balanced false piece) ∧ [[',']].intercalate (p :: ps) = ls := by
  generalize hcommas : true = commas at h
  induction h with
  | nil => exact ⟨[], [], by simp [Balanced.nil], rfl⟩
  | @lexeme _ l ls hopen hclose _ _ ih =>
    obtain ⟨p, ps, hpieces, rfl⟩ := ih hcommas
    by_cases hl : l = [',']
    · subst hl
      exact ⟨[], p :: ps, List.forall_mem_cons.mpr ⟨.nil, hpieces⟩, rfl⟩
    · rw [List.forall_mem_cons] at hpieces
      refine ⟨l :: p, ps, List.forall_mem_cons.mpr ⟨?_, hpieces.2⟩, ?_⟩
      · exact .lexeme hopen hclose (fun h => absurd h hl) hpieces.1
      · cases ps <;> simp
  | @group _ inner ls hinner _ _ ih =>
    obtain ⟨p, ps, hpieces, rfl⟩ := ih hcommas
    rw [List.forall_mem_cons] at hpieces
    refine ⟨['('] :: inner ++ [')'] :: p, ps, List.forall_mem_cons.mpr ⟨?_, hpieces.2⟩, ?_⟩
    · exact .group hinner hpieces.1
    · cases ps <;> simp

/-- An argument of an attribute: an integer literal with its value, or other lexemes, maybe none. -/
inductive Argument where
  | literal (text : Text) (value : Nat) (denotes : Denotes text value)
  | other (lexemes : List Text) (balanced : Balanced false lexemes)

namespace Argument

/-- The lexemes of an argument. -/
def lexemes : Argument → List Text
  | literal text _ _ => [text]
  | other ls _ => ls

/-- What it adds to a workgroup size: everything but a literal counts as one. -/
def value : Argument → Nat
  | literal _ n _ => n
  | other _ _ => 1

/-- The lexemes in a row. -/
def text (a : Argument) : Text := a.lexemes.flatten

/-- The argument is a literal that can be read, a single lexeme that is none, such as a name, or has
a sign in it. -/
def Settled : Argument → Prop
  | literal text _ _ => Readable text
  | other ls _ => (∃ l, ls = [l] ∧ ∀ n, ¬ Denotes l n) ∨ ∃ l ∈ ls, ∃ c ∈ l, isWord c = false

theorem balanced_lexemes (a : Argument) : Balanced false a.lexemes := by
  cases a with
  | literal text value denotes =>
    have hword := isWord_of_denotes denotes
    refine .lexeme ?_ ?_ ?_ .nil
    all_goals
      rintro rfl
      exact absurd (hword _ List.mem_cons_self) (by decide)
  | other ls balanced => exact balanced

theorem argumentSize_text {a : Argument} (h : a.Settled) : argumentSize a.text = .ok a.value := by
  cases a with
  | literal text value denotes =>
    rw [Argument.text, lexemes, List.flatten_singleton]
    exact argumentSize_of_denotes denotes h
  | other ls balanced =>
    refine argumentSize_of_not_denotes fun n hdenotes => ?_
    rcases h with ⟨l, rfl, hl⟩ | ⟨l, hl, c, hc, hsign⟩
    · rw [Argument.text, lexemes, List.flatten_singleton] at hdenotes
      exact hl n hdenotes
    · have hword := isWord_of_denotes hdenotes c (List.mem_flatten.mpr ⟨l, hl, hc⟩)
      rw [hsign] at hword
      cases hword

end Argument

/-! ### Attributes -/

/-- An attribute, with its arguments if it has parentheses. -/
structure Attribute where
  name : Text
  arguments : Option (List Argument)

namespace Attribute

/-- The arguments as they are printed. -/
def argumentLexemes (a : Attribute) : List Text :=
  match a.arguments with
  | none => []
  | some arguments => ['('] :: [[',']].intercalate (arguments.map Argument.lexemes) ++ [[')']]

/-- The attribute as it is printed. -/
def lexemes (a : Attribute) : List Text := ['@'] :: a.name :: a.argumentLexemes

/-- The arguments that are not empty. -/
def given (a : Attribute) : List Argument := (a.arguments.getD []).filter (!·.text.isEmpty)

/-- What an argument adds to a workgroup size; a missing one counts as one, too. -/
def axis (a : Attribute) (i : Nat) : Nat := (a.given[i]?).elim 1 Argument.value

/-- The workgroup size by the first three arguments. -/
def size (a : Attribute) : Extent := ⟨a.axis 0, a.axis 1, a.axis 2⟩

/-- Whatever is balanced can stand in an attribute's parentheses. -/
theorem exists_arguments {ls : List Text} (h : Balanced true ls) (name : Text) :
    ∃ arguments, (mk name (some arguments)).argumentLexemes = ['('] :: ls ++ [[')']] := by
  obtain ⟨p, ps, hpieces, rfl⟩ := h.exists_pieces
  have hlexemes : ((p :: ps).pmap Argument.other hpieces).map Argument.lexemes = p :: ps := by
    rw [List.map_pmap]
    exact List.pmap_eq_self.mpr fun _ _ => rfl
  refine ⟨(p :: ps).pmap Argument.other hpieces, ?_⟩
  show ['('] :: [[',']].intercalate (((p :: ps).pmap Argument.other hpieces).map Argument.lexemes)
    ++ [[')']] = _
  rw [hlexemes]

end Attribute

/-! ### Declarations -/

/-- Attributes with a lexeme behind them that they belong to, but no function. -/
structure Item where
  attributes : List Attribute
  plain : Text
  dull : Dull plain
  /-- A parenthesis would be that of the last attribute. -/
  parted : plain = ['('] → ∀ a ∈ attributes.getLast?, a.arguments ≠ none

/-- A function: its attributes, its name, and the items after it, in which it has its parameters and
its body. -/
structure FunctionDeclaration where
  attributes : List Attribute
  nodup : (attributes.map (·.name)).Nodup
  name : Text
  body : List Item

/-- A declaration, a function or something else. -/
inductive Declaration where
  | function (f : FunctionDeclaration)
  | other (items : List Item)

/-- The attribute of entry points. -/
def computeName : Text := "compute".toList

/-- The attribute with the workgroup size. -/
def sizeName : Text := "workgroup_size".toList

/-- An item as it is printed. -/
def Item.lexemes (item : Item) : List Text :=
  item.attributes.flatMap Attribute.lexemes ++ [item.plain]

namespace FunctionDeclaration

/-- The function as it is printed. -/
def lexemes (f : FunctionDeclaration) : List Text :=
  f.attributes.flatMap Attribute.lexemes
    ++ ['f', 'n'] :: f.name :: f.body.flatMap Item.lexemes

/-- The attribute of a name. -/
def attribute? (f : FunctionDeclaration) (name : Text) : Option Attribute :=
  f.attributes.find? (·.name = name)

/-- The entry point that the function is, if it has both attributes. -/
def entryPoints (f : FunctionDeclaration) : List EntryPoint :=
  match f.attribute? computeName, f.attribute? sizeName with
  | some _, some a => [⟨f.name, a.size⟩]
  | _, _ => []

/-- Of an entry point's workgroup size the first three arguments are settled. -/
def Settled (f : FunctionDeclaration) : Prop :=
  (f.attribute? computeName).isSome → ∀ a ∈ f.attribute? sizeName,
    ∀ argument ∈ a.given.take 3, argument.Settled

end FunctionDeclaration

namespace Declaration

/-- The declaration as it is printed. -/
def lexemes : Declaration → List Text
  | function f => f.lexemes
  | other items => items.flatMap Item.lexemes

/-- The entry points in it. -/
def entryPoints : Declaration → List EntryPoint
  | function f => f.entryPoints
  | other _ => []

/-- If it is an entry point, the size is settled. -/
def Settled : Declaration → Prop
  | function f => f.Settled
  | other _ => True

end Declaration

/-! ### Reading arguments -/

theorem readArguments_open (depth : Nat) (rest : List Text) :
    readArguments depth (['('] :: rest)
      = ('(' :: (readArguments (depth + 1) rest).1, (readArguments (depth + 1) rest).2) := rfl

theorem readArguments_close {depth : Nat} (h : 0 < depth) (rest : List Text) :
    readArguments (depth + 1) ([')'] :: rest)
      = (')' :: (readArguments depth rest).1, (readArguments depth rest).2) := by
  rw [readArguments, if_neg (by decide), if_pos rfl, if_neg (by omega)]
  rfl

theorem readArguments_last (rest : List Text) :
    readArguments 1 ([')'] :: rest) = ([], [], rest) := rfl

theorem readArguments_comma (rest : List Text) :
    readArguments 1 ([','] :: rest)
      = ([], (readArguments 1 rest).1 :: (readArguments 1 rest).2.1,
          (readArguments 1 rest).2.2) := rfl

theorem readArguments_lexeme {l : Text} (hopen : l ≠ ['(']) (hclose : l ≠ [')']) {depth : Nat}
    (hcomma : l = [','] → depth ≠ 1) (rest : List Text) :
    readArguments depth (l :: rest)
      = (l ++ (readArguments depth rest).1, (readArguments depth rest).2) := by
  rw [readArguments, if_neg hopen, if_neg hclose, if_neg fun h => hcomma h.1 h.2]

/-- Balanced lexemes are read on the level where they begin. -/
theorem readArguments_balanced {commas : Bool} {ls : List Text} (h : Balanced commas ls)
    {depth : Nat} (hdepth : 0 < depth) (hcommas : commas → depth ≠ 1) (rest : List Text) :
    readArguments depth (ls ++ rest)
      = (ls.flatten ++ (readArguments depth rest).1, (readArguments depth rest).2) := by
  induction h generalizing depth rest with
  | nil => rfl
  | lexeme hopen hclose hcomma _ ih =>
    rw [List.cons_append, readArguments_lexeme hopen hclose fun h => hcommas (hcomma h),
      ih hdepth hcommas, List.flatten_cons, List.append_assoc]
  | @group commas inner ls _ _ ihinner ih =>
    have hnext : ['('] :: inner ++ [')'] :: ls ++ rest
        = ['('] :: (inner ++ [')'] :: (ls ++ rest)) := by simp
    rw [hnext, readArguments_open, ihinner (Nat.succ_pos depth) (fun _ => by omega),
      readArguments_close hdepth, ih hdepth hcommas]
    simp

/-- Arguments between commas are read one by one. -/
theorem readArguments_pieces {p : List Text} {ps : List (List Text)}
    (h : ∀ piece ∈ p :: ps, Balanced false piece) (rest : List Text) :
    readArguments 1 ([[',']].intercalate (p :: ps) ++ [')'] :: rest)
      = (p.flatten, ps.map List.flatten, rest) := by
  induction ps generalizing p with
  | nil =>
    rw [List.intercalate_singleton, readArguments_balanced (h p (by simp)) Nat.one_pos (by simp),
      readArguments_last, List.append_nil, List.map_nil]
  | cons next ps ih =>
    rw [List.forall_mem_cons] at h
    rw [List.intercalate_cons_cons, List.append_assoc, List.append_assoc, List.singleton_append,
      readArguments_balanced h.1 Nat.one_pos (by simp), readArguments_comma, ih h.2,
      List.append_nil, List.map_cons]

theorem attributeArguments_pieces {p : List Text} {ps : List (List Text)}
    (h : ∀ piece ∈ p :: ps, Balanced false piece) (rest : List Text) :
    attributeArguments (['('] :: ([[',']].intercalate (p :: ps) ++ [')'] :: rest))
      = (((p :: ps).map List.flatten).filter (!·.isEmpty), rest) := by
  rw [attributeArguments, readArguments_pieces h]
  rfl

/-- An attribute's arguments are read as they were printed, unless it has none and what is behind it
would do as some. -/
theorem attributeArguments_printed {a : Attribute} {rest : List Text}
    (h : a.arguments = none → rest.head? ≠ some ['(']) :
    attributeArguments (a.argumentLexemes ++ rest) = (a.given.map Argument.text, rest) := by
  unfold Attribute.argumentLexemes Attribute.given
  rcases harguments : a.arguments with _ | _ | ⟨argument, arguments⟩
  · show attributeArguments rest = ([], rest)
    unfold attributeArguments
    split
    · exact absurd rfl (h harguments)
    · rfl
  · rfl
  · have hbalanced : ∀ piece ∈ argument.lexemes :: arguments.map Argument.lexemes,
        Balanced false piece := by
      simp [Argument.balanced_lexemes]
    have hpieces := attributeArguments_pieces hbalanced rest
    rw [← List.map_cons, List.map_map, List.filter_map] at hpieces
    rw [List.append_assoc, List.cons_append]
    exact hpieces

/-! ### The scan -/

/-- The entries that attributes make, the last one for a name. -/
def collected (es : Entries (List Text)) (as : List Attribute) : Entries (List Text) :=
  as.foldl (fun es a => es.put a.name (a.given.map Argument.text)) es

theorem scan_attribute_printed {a : Attribute} {rest : List Text}
    (h : a.arguments = none → rest.head? ≠ some ['(']) (es : Entries (List Text)) :
    scan es (a.lexemes ++ rest) = scan (es.put a.name (a.given.map Argument.text)) rest := by
  show scan es (['@'] :: a.name :: (a.argumentLexemes ++ rest)) = _
  rw [scan, if_pos rfl, attributeArguments_printed h]

/-- A run of attributes gathers; only the last one is next to what is behind the run. -/
theorem scan_attributes {as : List Attribute} {rest : List Text}
    (h : ∀ a ∈ as.getLast?, a.arguments = none → rest.head? ≠ some ['('])
    (es : Entries (List Text)) :
    scan es (as.flatMap Attribute.lexemes ++ rest) = scan (collected es as) rest := by
  induction as generalizing es with
  | nil => rfl
  | cons a as ih =>
    rw [List.flatMap_cons, List.append_assoc]
    cases as with
    | nil => exact scan_attribute_printed (h a rfl) es
    | cons next as =>
      rw [scan_attribute_printed (fun _ => by simp [Attribute.lexemes])]
      exact ih h _

/-- An item adds nothing and leaves no attributes. -/
theorem passive_item (item : Item) : Passive item.lexemes := by
  intro more
  have hrest : ∀ a ∈ item.attributes.getLast?, a.arguments = none →
      ([item.plain] ++ more).head? ≠ some ['('] := fun a ha hnone hplain =>
    item.parted (Option.some.inj hplain) a ha hnone
  rw [Item.lexemes, List.append_assoc, scan_attributes hrest, List.singleton_append,
    scan_cons_dull item.dull]

theorem passive_items (items : List Item) : Passive (items.flatMap Item.lexemes) := by
  intro more
  induction items with
  | nil => rfl
  | cons item items ih => rw [List.flatMap_cons, List.append_assoc, passive_item item, ih]

/-! ### Entry points -/

/-- Under names that differ each attribute keeps its own arguments. -/
theorem lookup_collected {as : List Attribute} (h : (as.map (·.name)).Nodup) (name : Text)
    (es : Entries (List Text)) :
    (collected es as).lookup name
      = ((as.find? (·.name = name)).map (·.given.map Argument.text)).or (es.lookup name) := by
  induction as generalizing es with
  | nil => rfl
  | cons a as ih =>
    rw [List.map_cons, List.nodup_cons] at h
    show (collected (es.put a.name _) as).lookup name = _
    rw [ih h.2]
    by_cases hname : a.name = name
    · have hnone : as.find? (·.name = name) = none := by
        rw [List.find?_eq_none]
        rintro other hother hsame
        exact h.1 (List.mem_map.mpr ⟨other, hother, (of_decide_eq_true hsame).trans hname.symm⟩)
      rw [hnone, List.find?_cons_of_pos (by simpa using hname), ← hname, Entries.lookup_put_self]
      rfl
    · rw [List.find?_cons_of_neg (by simpa using hname),
        Entries.lookup_put_of_ne _ _ (Ne.symm hname)]

theorem mapM_argumentSize {as : List Argument} (h : ∀ a ∈ as, a.Settled) :
    (as.map Argument.text).mapM argumentSize = .ok (as.map Argument.value) := by
  rw [mapM_eq_ok_iff, List.forall₂_map_left_iff, List.forall₂_map_right_iff, List.forall₂_same]
  exact fun a ha => Argument.argumentSize_text (h a ha)

theorem workgroupSize_given {a : Attribute} (h : ∀ argument ∈ a.given.take 3, argument.Settled) :
    workgroupSize (a.given.map Argument.text) = .ok a.size := by
  have hsizes := mapM_argumentSize h
  rw [List.map_take] at hsizes
  have haxis : ∀ i < 3, (((a.given.take 3).map Argument.value)[i]?).getD 1 = a.axis i := by
    intro i hi
    rw [List.getElem?_map, List.getElem?_take_of_lt hi, Attribute.axis]
    cases a.given[i]? <;> rfl
  rw [workgroupSize, hsizes, Attribute.size, ← haxis 0 (by decide), ← haxis 1 (by decide),
    ← haxis 2 (by decide)]
  rfl

theorem entryPoint_collected {f : FunctionDeclaration} (h : f.Settled) :
    entryPoint? (collected [] f.attributes) f.name = .ok f.entryPoints := by
  have hlookup : ∀ name, (collected [] f.attributes).lookup name
      = (f.attribute? name).map (·.given.map Argument.text) := by
    intro name
    rw [lookup_collected f.nodup name [], List.lookup_nil, Option.or_none]
    rfl
  have hfirst : (collected [] f.attributes).lookup "compute".toList
      = (f.attribute? computeName).map (·.given.map Argument.text) := hlookup computeName
  have hsecond : (collected [] f.attributes).lookup "workgroup_size".toList
      = (f.attribute? sizeName).map (·.given.map Argument.text) := hlookup sizeName
  rw [entryPoint?, hfirst, hsecond, FunctionDeclaration.entryPoints]
  rcases hcompute : f.attribute? computeName with _ | compute
  · rfl
  rcases hsize : f.attribute? sizeName with _ | size
  · rfl
  have hgiven := workgroupSize_given (h (Option.isSome_of_eq_some hcompute) size hsize)
  rw [Option.map_some, Option.map_some]
  dsimp only
  rw [hgiven]
  rfl

theorem scan_function {f : FunctionDeclaration} (h : f.Settled) {more : List Text}
    {others : List EntryPoint} (hmore : scan [] more = .ok others) :
    scan [] (f.lexemes ++ more) = .ok (f.entryPoints ++ others) := by
  have hhead : ∀ a ∈ f.attributes.getLast?, a.arguments = none →
      (['f', 'n'] :: f.name :: f.body.flatMap Item.lexemes ++ more).head? ≠ some ['('] :=
    fun _ _ _ => by simp
  rw [FunctionDeclaration.lexemes, List.append_assoc, scan_attributes hhead]
  show scan _ (['f', 'n'] :: f.name :: (f.body.flatMap Item.lexemes ++ more)) = _
  rw [scan.eq_def]
  dsimp only
  rw [if_neg (by decide), if_pos rfl, entryPoint_collected h, passive_items f.body more, hmore]
  rfl

/-- Printing declarations and scanning the text gives the entry points of those, with the sizes that
their attributes give. -/
theorem findEntryPoints_printed {ds : List Declaration} (hsettled : ∀ d ∈ ds, d.Settled) {t : Text}
    (hprinted : Printed (ds.flatMap Declaration.lexemes) t) :
    findEntryPoints t = .ok (ds.flatMap Declaration.entryPoints) := by
  rw [findEntryPoints_of_printed hprinted]
  clear hprinted
  induction ds with
  | nil => rw [List.flatMap_nil, scan, List.flatMap_nil]
  | cons d ds ih =>
    rw [List.forall_mem_cons] at hsettled
    rw [List.flatMap_cons, List.flatMap_cons]
    cases d with
    | function f => exact scan_function hsettled.1 (ih hsettled.2)
    | other items => exact (passive_items items _).trans (ih hsettled.2)

/-- An item without attributes. -/
def plainItem (l : Text) (dull : Dull l) : Item := ⟨[], l, dull, fun _ _ h => nomatch h⟩

/-- A hexadecimal literal with a suffix. -/
def sixteen : Argument :=
  .literal ['0', 'x', '1', '0', 'u'] 16
    (@Denotes.hexadecimal 'x' ['1', '0'] ['u'] [1, 0] (.inl rfl) (by decide) rfl (by decide))

/-- A name as an argument. -/
def nameArgument : Argument := .other [['N']] (.lexeme (by decide) (by decide) (by decide) .nil)

/-- A workgroup size with a comma at its end. -/
def smallSize : Attribute := ⟨sizeName, some [sixteen, nameArgument, .other [] .nil]⟩

/-- An entry point whose parameter has an attribute. -/
def smallEntry : FunctionDeclaration where
  attributes := [smallSize, ⟨computeName, none⟩]
  nodup := by decide
  name := "main".toList
  body := [plainItem ['('] ⟨by decide, by decide⟩,
    ⟨[⟨"builtin".toList, some [nameArgument]⟩], ['p'], ⟨by decide, by decide⟩, by decide⟩,
    plainItem [')'] ⟨by decide, by decide⟩]

/-- A function with one of the two attributes. -/
def smallHalf : FunctionDeclaration where
  attributes := [⟨computeName, none⟩]
  nodup := by decide
  name := "half".toList
  body := []

/-- Both functions, with a binding before them. -/
def smallModule : List Declaration :=
  [.other [⟨[⟨"group".toList, some [nameArgument]⟩], "var".toList, ⟨by decide, by decide⟩,
    by decide⟩], .function smallEntry, .function smallHalf]

/-- The binding and the functions as they are printed. -/
def smallText : Text :=
  ("@ group ( N ) var @ workgroup_size ( 0x10u , N , ) @ compute fn main ( @ builtin ( N ) p ) "
    ++ "@ compute fn half ").toList

theorem settled_smallModule : ∀ d ∈ smallModule, d.Settled := by
  have hentry : smallEntry.Settled := by
    intro _ a ha argument hargument
    obtain rfl : smallSize = a := Option.some.inj ha
    have hgiven : smallSize.given.take 3 = [sixteen, nameArgument] := rfl
    rw [hgiven, List.mem_cons, List.mem_singleton] at hargument
    rcases hargument with rfl | rfl
    · show Readable _
      decide
    · refine .inl ⟨['N'], rfl, fun n hn => ?_⟩
      obtain ⟨c, rest, heq, hdigit⟩ := head_of_denotes hn
      obtain ⟨rfl, _⟩ := List.cons.inj heq
      exact absurd hdigit (by decide)
  have hhalf : smallHalf.Settled := fun _ a ha => nomatch ha
  intro d hd
  simp only [smallModule, List.mem_cons, List.not_mem_nil, or_false] at hd
  rcases hd with rfl | rfl | rfl
  · trivial
  · exact hentry
  · exact hhalf

theorem findEntryPoints_printed_small :
    (∀ d ∈ smallModule, d.Settled)
      ∧ Printed (smallModule.flatMap Declaration.lexemes) smallText
      ∧ findEntryPoints smallText = .ok [⟨"main".toList, ⟨16, 1, 1⟩⟩] := by
  have hlexemes : ∀ l ∈ smallModule.flatMap Declaration.lexemes, IsLexeme l := by decide +kernel
  have hprinted : Printed (smallModule.flatMap Declaration.lexemes) smallText :=
    printed_spaced hlexemes
  refine ⟨settled_smallModule, hprinted, ?_⟩
  exact findEntryPoints_printed settled_smallModule hprinted

end ShaderPlayer.Shader
