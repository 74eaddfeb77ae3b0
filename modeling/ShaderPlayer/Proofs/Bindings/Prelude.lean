/-
The prelude in its unit.

Hoisted lines come first in a unit, then the prelude, then the source.

* `findEntryPoints_behind_prelude` — whatever uniforms a caller names, the prelude neither declares
  entry points nor changes those of what follows it;
* `openBlock?` — the code of a text before a block comment that it begins and does not end;
* `stripComments_append` — comments end in the text before or in the text after, except for such a
  block comment;
* `stripComments_unit` — so hoisted lines leave the prelude alone, unless they leave a block
  comment open and the source has an end for it;
* `prelude_in_comment` — a hoisted line whose comment goes on behind it: the prelude and a
  function are lost in it.
-/
import ShaderPlayer.Proofs.Bindings.Custom
import ShaderPlayer.Proofs.Shader.Commented

namespace ShaderPlayer.Shader

open Text (isWord)
open SourceMap (terminated)

/-! ### Entry points behind the prelude -/

/-- The prelude for the custom uniforms that a caller may set, for any tables and either format of
the pass textures, leaves the entry points of any text behind it as they are. -/
theorem findEntryPoints_behind_prelude {names values : Value} {given : List Text × List Double}
    (hgiven : Host.customArguments names values = .ok given) (host : Host) {tables : Tables}
    (htables : ∀ name ∈ tables.keys, name.isIdentifier) (rest : Text) :
    let set := host.setCustom (Host.customOrPlaceholder given.1 given.2)
    findEntryPoints (prelude set.customNames tables set.wide ++ rest) = findEntryPoints rest :=
  findEntryPoints_prelude (Host.proper_of_customArguments hgiven).identifiers htables host.wide rest

/-- Names that are keywords elsewhere. -/
def keywordNames : List Text := ["fn".toList, "compute".toList]

/-- A text that begins amid an attribute's arguments. -/
def brokenText : Text := "1) fn f(/* */) \x7b\x7d @workgroup_size(2) @compute fn g".toList

theorem findEntryPoints_behind_prelude_keywords :
    let names := Value.list (keywordNames.map .text)
    let values := Value.list [.int 0, .int 0]
    let zeros := [Double.zero false, Double.zero false]
    let set := (Host.start 8 8 true 64).setCustom (Host.customOrPlaceholder keywordNames zeros)
    Host.customArguments names values = .ok (keywordNames, zeros)
      ∧ (∀ name ∈ Entries.keys [("fn".toList, [(1 : Int)])], name.isIdentifier)
      ∧ findEntryPoints (prelude set.customNames [("fn".toList, [1])] set.wide ++ brokenText)
          = .ok [⟨['g'], ⟨2, 1, 1⟩⟩] := by
  intro names values zeros set
  have hgiven : Host.customArguments names values = .ok (keywordNames, zeros) := rfl
  have htables : ∀ name ∈ Entries.keys [("fn".toList, [(1 : Int)])], name.isIdentifier := by decide
  refine ⟨hgiven, htables, ?_⟩
  rw [findEntryPoints_behind_prelude hgiven (Host.start 8 8 true 64) htables brokenText]
  decide +kernel

/-! ### Lines without comments -/

/-- A line with neither a star nor two slashes in a row: no comment begins or ends in it. -/
def uncommented : Text → Bool
  | [] => true
  | c :: rest => c != '*' && !(c == '/' && rest.head? == some '/') && uncommented rest

theorem not_mem_of_uncommented {t : Text} (h : uncommented t) : '*' ∉ t := by
  induction t with
  | nil => simp
  | cons c rest ih =>
    simp only [uncommented, Bool.and_eq_true, bne_iff_ne] at h
    simp only [List.mem_cons, not_or]
    exact ⟨h.1.1.symm, ih h.2⟩

theorem not_infix_of_uncommented {t : Text} (h : uncommented t) : ¬ ['/', '/'] <:+: t := by
  induction t with
  | nil => simp
  | cons c rest ih =>
    simp only [uncommented, Bool.and_eq_true] at h
    rw [List.infix_cons_iff, List.cons_prefix_cons, not_or]
    refine ⟨?_, ih h.2⟩
    rintro ⟨rfl, more, rfl⟩
    simp at h

/-- Neither of the characters that comments begin and end with. -/
def uncommentedCharacter (c : Char) : Bool := c != '*' && c != '/'

theorem uncommented_of_all {t : Text} (h : t.all uncommentedCharacter) : uncommented t := by
  induction t with
  | nil => rfl
  | cons c rest ih =>
    rw [List.all_cons, uncommentedCharacter, Bool.and_eq_true, Bool.and_eq_true, bne_iff_ne,
      bne_iff_ne] at h
    simp [uncommented, h.1.1, h.1.2, ih h.2]

theorem stripComments_lines {ls : List Text} (h : ∀ l ∈ ls, uncommented l) (rest : Text) :
    stripComments (ls.flatMap terminated ++ rest)
      = ls.flatMap terminated ++ stripComments rest := by
  induction ls with
  | nil => rfl
  | cons l ls ih =>
    rw [List.forall_mem_cons] at h
    have hline := not_infix_of_uncommented h.1
    have hblock : ¬ ['/', '*'] <:+: l := fun hpair =>
      not_mem_of_uncommented h.1 (hpair.subset (by simp))
    have hls := stripComments_line hline hblock (ls.flatMap terminated ++ rest)
    rw [ih h.2] at hls
    simpa [terminated] using hls

theorem uncommented_literal {cs : List Char} (h : uncommented cs) :
    uncommented (String.ofList cs).toList := by
  rwa [String.toList_ofList]

theorem uncommented_structLines : ∀ l ∈ structLines.map String.toList, uncommented l := by
  simp only [structLines, List.map_cons, List.map_nil, List.forall_mem_cons]
  and_intros
  all_goals first
    | exact uncommented_literal (by decide)
    | exact fun _ h => absurd h List.not_mem_nil

theorem uncommented_functionLines : ∀ l ∈ functionLines.map String.toList, uncommented l := by
  simp only [functionLines, List.map_cons, List.map_nil, List.forall_mem_cons]
  and_intros
  all_goals first
    | exact uncommented_literal (by decide)
    | exact fun _ h => absurd h List.not_mem_nil

theorem all_uncommentedCharacter {p : Char → Bool} (hstar : p '*' = false)
    (hslash : p '/' = false) {t : Text} (h : ∀ c ∈ t, p c) : t.all uncommentedCharacter := by
  refine List.all_eq_true.mpr fun c hc => ?_
  have hp := h c hc
  rw [uncommentedCharacter, Bool.and_eq_true, bne_iff_ne, bne_iff_ne]
  refine ⟨?_, ?_⟩
  · rintro rfl
    exact Bool.false_ne_true (hstar.symm.trans hp)
  · rintro rfl
    exact Bool.false_ne_true (hslash.symm.trans hp)

theorem all_uncommentedCharacter_of_isIdentifier {name : Text} (h : name.isIdentifier) :
    name.all uncommentedCharacter :=
  all_uncommentedCharacter (by decide) (by decide) (isWord_of_isIdentifier h)

theorem all_uncommentedCharacter_ofNat (n : Nat) : (Text.ofNat n).all uncommentedCharacter :=
  all_uncommentedCharacter (by decide) (by decide) fun _ hc =>
    Nat.isDigit_of_mem_toDigits (by decide) (by decide) hc

theorem uncommented_structLinesOf {name : Text} {fields : List Text}
    (hname : name.all uncommentedCharacter)
    (hfields : ∀ field ∈ fields, field.all uncommentedCharacter) :
    ∀ l ∈ structLinesOf name fields, uncommented l := by
  intro l hl
  rw [structLinesOf, List.mem_append, List.mem_cons, List.mem_singleton] at hl
  rcases hl with (rfl | hl) | rfl
  · refine uncommented_of_all ?_
    rw [List.all_append, List.all_append, hname]
    decide
  · obtain ⟨field, hfield, rfl⟩ := List.mem_map.mp hl
    refine uncommented_of_all ?_
    rw [List.all_append, List.all_append, hfields field hfield]
    decide
  · decide

/-- No comment begins or ends in the prelude. -/
theorem uncommented_preludeLines {customNames : List Text} {tables : Tables}
    (hnames : ∀ name ∈ customNames, name.isIdentifier)
    (htables : ∀ name ∈ tables.keys, name.isIdentifier) (wide : Bool) :
    ∀ l ∈ preludeLines customNames tables wide, uncommented l := by
  have hcustom : ∀ field ∈ customNames.map customField, field.all uncommentedCharacter := by
    intro field hfield
    obtain ⟨name, hmem, rfl⟩ := List.mem_map.mp hfield
    rw [customField, List.all_append, all_uncommentedCharacter_of_isIdentifier (hnames name hmem)]
    decide
  have hdata : ∀ field ∈ tableFields tables, field.all uncommentedCharacter := by
    intro field hfield
    obtain ⟨name, length, hname, rfl⟩ := exists_tableField (by decide) htables hfield
    simp only [tableField, List.all_append, all_uncommentedCharacter_of_isIdentifier hname,
      all_uncommentedCharacter_ofNat]
    decide
  have haliases : ∀ l ∈ aliasLines, uncommented l := by decide +kernel
  have hbindings : ∀ l ∈ bindingLines wide, uncommented l := by
    cases wide <;> decide +kernel
  simp only [preludeLines, List.forall_mem_append]
  exact ⟨⟨⟨⟨⟨haliases, uncommented_structLines⟩, uncommented_structLinesOf (by decide) hcustom⟩,
    uncommented_structLinesOf (by decide) hdata⟩, hbindings⟩, uncommented_functionLines⟩

/-! ### Open block comments -/

/-- The code of a text before a block comment that begins in it and does not end, none if there is
no such comment. -/
def openBlock? : Text → Option Text
  | [] => none
  | '/' :: '/' :: rest => openBlock? (rest.dropWhile (· ≠ '\n'))
  | '/' :: '*' :: rest =>
    match _h : afterBlockEnd rest with
    | some after => openBlock? after
    | none => some []
  | c :: rest => (openBlock? rest).map (c :: ·)
termination_by t => t.length
decreasing_by
  · have : (rest.dropWhile (· ≠ '\n')).length ≤ rest.length :=
      (List.dropWhile_sublist _).length_le
    simp only [List.length_cons]
    omega
  · have := length_of_afterBlockEnd _h
    simp only [List.length_cons]
    omega
  · simp

/-- The last line of the text, if there is one, is ended. -/
def Ended (t : Text) : Prop := ∀ c, t.getLast? = some c → c = '\n'

theorem Ended.suffix {t rest : Text} (h : Ended t) (hrest : rest <:+ t) : Ended rest := by
  obtain ⟨before, rfl⟩ := hrest
  intro c hc
  exact h c (by rw [List.getLast?_append, hc]; rfl)

theorem Ended.ne_nil {c : Char} {t : Text} (h : Ended (c :: t)) (hc : c ≠ '\n') : t ≠ [] := by
  rintro rfl
  exact hc (h c rfl)

theorem afterBlockEnd_cons {c : Char} {t : Text} (h : ¬ ['*', '/'] <+: c :: t) :
    afterBlockEnd (c :: t) = afterBlockEnd t :=
  afterBlockEnd.eq_3 c t fun rest hc ht => h ⟨rest, by rw [hc, ht]; rfl⟩

/-- What begins a pair of characters with text behind it, and is not alone, began it before. -/
theorem pair_prefix_of_append {a b c : Char} {t rest : Text} (ht : t ≠ [])
    (h : [a, b] <+: c :: (t ++ rest)) : [a, b] <+: c :: t := by
  obtain ⟨d, more, rfl⟩ := List.exists_cons_of_ne_nil ht
  simpa [List.cons_prefix_cons] using h

/-- The end of a block comment that the text has is found with any text behind it. -/
theorem afterBlockEnd_append_of_some {t after : Text} (h : afterBlockEnd t = some after)
    (rest : Text) : afterBlockEnd (t ++ rest) = some (after ++ rest) := by
  fun_induction afterBlockEnd t with
  | case1 => cases h
  | case2 more =>
    cases h
    rfl
  | case3 c more hend ih =>
    have hmore : more ≠ [] := by
      rintro rfl
      cases h
    rw [List.cons_append, afterBlockEnd_cons, ih h]
    intro hprefix
    obtain ⟨more', hmore'⟩ := pair_prefix_of_append hmore hprefix
    obtain ⟨rfl, rfl⟩ := List.cons.inj hmore'
    exact hend more' rfl rfl

/-- If the text has none, it is that of the text behind it. -/
theorem afterBlockEnd_append_of_none {t : Text} (h : afterBlockEnd t = none) (ht : Ended t)
    (rest : Text) : afterBlockEnd (t ++ rest) = afterBlockEnd rest := by
  fun_induction afterBlockEnd t with
  | case1 => rfl
  | case2 more => cases h
  | case3 c more hend ih =>
    rw [List.cons_append, afterBlockEnd_cons, ih h (ht.suffix (List.suffix_cons c more))]
    intro hprefix
    obtain ⟨rfl, _⟩ := List.cons_prefix_cons.mp hprefix
    obtain ⟨more', hmore'⟩ := pair_prefix_of_append (ht.ne_nil (by decide)) hprefix
    exact hend more' rfl (List.cons.inj hmore').2.symm

theorem Ended.dropLine {t : Text} (h : Ended ('/' :: '/' :: t)) (rest : Text) :
    (t ++ rest).dropWhile (· ≠ '\n') = t.dropWhile (· ≠ '\n') ++ rest := by
  have hslash : Ended ('/' :: t) := h.suffix (List.suffix_cons '/' _)
  have ht : Ended t := hslash.suffix (List.suffix_cons '/' _)
  have hlast := List.getLast?_eq_some_getLast (hslash.ne_nil (by decide))
  have hfeed : '\n' ∈ t := ht _ hlast ▸ List.getLast_mem _
  have hne : t.dropWhile (· ≠ '\n') ≠ [] := fun hnil => by
    simpa using List.dropWhile_eq_nil_iff.mp hnil '\n' hfeed
  rw [List.dropWhile_append, if_neg (by simpa using hne)]

theorem Ended.not_opener {c d : Char} {t : Text} (h : Ended (c :: t))
    (hd : ∀ more, c = '/' → t = d :: more → False) (rest : Text) :
    ¬ ['/', d] <+: c :: (t ++ rest) := by
  intro hprefix
  obtain ⟨rfl, _⟩ := List.cons_prefix_cons.mp hprefix
  obtain ⟨more, hmore⟩ := pair_prefix_of_append (h.ne_nil (by decide)) hprefix
  exact hd more rfl (List.cons.inj hmore).2.symm

theorem openBlock_block {rest after : Text} (h : afterBlockEnd rest = some after) :
    openBlock? ('/' :: '*' :: rest) = openBlock? after := by
  rw [openBlock?]
  split
  · next after' h' => rw [Option.some.inj (h.symm.trans h')]
  · next h' => cases h.symm.trans h'

theorem openBlock_open {rest : Text} (h : afterBlockEnd rest = none) :
    openBlock? ('/' :: '*' :: rest) = some [] := by
  rw [openBlock?]
  split
  · next after h' => cases h.symm.trans h'
  · rfl

/-- A text that leaves no block comment open, or has no end of one behind it, keeps its comments to
itself. -/
theorem stripComments_append {t : Text} (ht : Ended t) {rest : Text}
    (h : openBlock? t = none ∨ afterBlockEnd rest = none) :
    stripComments (t ++ rest) = stripComments t ++ stripComments rest := by
  fun_induction stripComments t with
  | case1 => rfl
  | case2 more ih =>
    rw [openBlock?] at h
    rw [List.cons_append, List.cons_append, stripComments, ht.dropLine,
      ih (ht.suffix (suffix_of_line more)) h]
  | case3 more after hafter ih =>
    rw [openBlock_block hafter] at h
    rw [List.cons_append, List.cons_append,
      stripComments_block (afterBlockEnd_append_of_some hafter rest),
      ih (ht.suffix (suffix_of_block hafter)) h]
  | case4 more hopen ih =>
    -- the comment is open, so nothing behind the text ends it
    have hnone := h.resolve_left (by simp [openBlock_open hopen])
    have hmore := ht.suffix (List.suffix_append ['/', '*'] more)
    have hend := (afterBlockEnd_append_of_none hopen hmore rest).trans hnone
    have hstar := ih (ht.suffix (List.suffix_cons '/' _)) (.inr hnone)
    rw [List.cons_append, List.cons_append, stripComments_open hend, ← List.cons_append, hstar]
    rfl
  | case5 c more hline hblock ih =>
    rw [openBlock?.eq_4 c more hline hblock, Option.map_eq_none_iff] at h
    rw [List.cons_append,
      stripComments_cons (ht.not_opener hline rest) (ht.not_opener hblock rest),
      ih (ht.suffix (List.suffix_cons c more)) h]
    rfl

/-- Otherwise the comment goes on to its end behind the text. -/
theorem stripComments_append_of_open {t kept : Text} (ht : Ended t) (h : openBlock? t = some kept)
    {rest after : Text} (hafter : afterBlockEnd rest = some after) :
    stripComments (t ++ rest) = kept ++ stripComments after := by
  fun_induction openBlock? t generalizing kept with
  | case1 => cases h
  | case2 more ih =>
    rw [List.cons_append, List.cons_append, stripComments, ht.dropLine,
      ih (ht.suffix (suffix_of_line more)) h]
  | case3 more inner hinner ih =>
    rw [List.cons_append, List.cons_append,
      stripComments_block (afterBlockEnd_append_of_some hinner rest),
      ih (ht.suffix (suffix_of_block hinner)) h]
  | case4 more hopen =>
    cases h
    have hmore := ht.suffix (List.suffix_append ['/', '*'] more)
    have hend := (afterBlockEnd_append_of_none hopen hmore rest).trans hafter
    rw [List.cons_append, List.cons_append, stripComments_block hend, List.nil_append]
  | case5 c more hline hblock ih =>
    obtain ⟨code, hcode, rfl⟩ := Option.map_eq_some_iff.mp h
    rw [List.cons_append,
      stripComments_cons (ht.not_opener hline rest) (ht.not_opener hblock rest),
      ih (ht.suffix (List.suffix_cons c more)) hcode]
    rfl

/-! ### The unit -/

theorem ended_terminated (ls : List Text) : Ended (ls.flatMap terminated) := by
  intro c hc
  rcases List.eq_nil_or_concat ls with rfl | ⟨ls, l, rfl⟩
  · cases hc
  · rw [List.concat_eq_append, List.flatMap_append, List.flatMap_singleton, terminated,
      ← List.append_assoc, List.getLast?_concat] at hc
    exact (Option.some.inj hc).symm

section Unit

variable {customNames : List Text} {tables : Tables}
  (hnames : ∀ name ∈ customNames, name.isIdentifier)
  (htables : ∀ name ∈ tables.keys, name.isIdentifier) (wide : Bool)

include hnames htables

theorem stripComments_prelude (rest : Text) :
    stripComments (prelude customNames tables wide ++ rest)
      = prelude customNames tables wide ++ stripComments rest :=
  stripComments_lines (uncommented_preludeLines hnames htables wide) rest

/-- The prelude does not end a block comment. -/
theorem afterBlockEnd_prelude (rest : Text) :
    afterBlockEnd (prelude customNames tables wide ++ rest) = afterBlockEnd rest := by
  refine afterBlockEnd_append_of_none ?_ (ended_terminated _) rest
  rw [afterBlockEnd_eq_none_iff]
  intro h
  have hstar : '*' ∈ prelude customNames tables wide := h.subset (by simp)
  obtain ⟨l, hl, hmem⟩ := List.mem_flatMap.mp hstar
  have hclear := not_mem_of_uncommented (uncommented_preludeLines hnames htables wide l hl)
  simp [terminated, hclear] at hmem

end Unit

theorem ended_extensions (m : SourceMap) : Ended m.extensions := ended_terminated _

section SourceMap

variable {m : SourceMap} {customNames : List Text}
  (hnames : ∀ name ∈ customNames, name.isIdentifier)
  (htables : ∀ name ∈ m.tables.keys, name.isIdentifier) (wide : Bool)

include hnames htables

theorem stripComments_unitText_of_closed
    (h : openBlock? m.extensions = none ∨ afterBlockEnd m.source = none) :
    stripComments (unitText m customNames wide)
      = stripComments m.extensions ++ prelude customNames m.tables wide
          ++ stripComments m.source := by
  rw [← afterBlockEnd_prelude hnames htables wide] at h
  rw [unitText, header, List.append_assoc, stripComments_append (ended_extensions m) h,
    stripComments_prelude hnames htables, List.append_assoc]

theorem stripComments_unitText_of_open {kept after : Text}
    (hopen : openBlock? m.extensions = some kept) (hafter : afterBlockEnd m.source = some after) :
    stripComments (unitText m customNames wide) = kept ++ stripComments after := by
  rw [← afterBlockEnd_prelude hnames htables wide] at hafter
  rw [unitText, header, List.append_assoc,
    stripComments_append_of_open (ended_extensions m) hopen hafter]

end SourceMap

/-- For the custom uniforms that a caller may set, either comments of the hoisted lines end in them
and those of the source begin in it, so that the prelude is code; or the hoisted lines leave a block
comment open that the source ends, and what stands between is lost. -/
theorem stripComments_unit {names values : Value} {given : List Text × List Double}
    (hgiven : Host.customArguments names values = .ok given) (host : Host) {m : SourceMap}
    (htables : ∀ name ∈ m.tables.keys, name.isIdentifier) :
    let set := host.setCustom (Host.customOrPlaceholder given.1 given.2)
    let unit := unitText m set.customNames set.wide
    (openBlock? m.extensions = none ∨ afterBlockEnd m.source = none →
        stripComments unit
          = stripComments m.extensions ++ prelude set.customNames m.tables set.wide
              ++ stripComments m.source)
      ∧ ∀ kept after, openBlock? m.extensions = some kept → afterBlockEnd m.source = some after →
          stripComments unit = kept ++ stripComments after := by
  have hnames := (Host.proper_of_customArguments hgiven).identifiers
  exact ⟨stripComments_unitText_of_closed hnames htables host.wide,
    fun _ _ hopen hafter => stripComments_unitText_of_open hnames htables host.wide hopen hafter⟩

/-- A host to set custom uniforms on. -/
def smallHost : Host := Host.start 8 8 false 64

/-- A hoisted line with a comment in it, before a source that ends one. -/
def closedMap : SourceMap :=
  { hoisted := #["enable f16; /* half */".toList], emitted := #[⟨"a */ b // c".toList, 2⟩] }

theorem stripComments_unit_closed :
    let set := smallHost.setCustom (Host.customOrPlaceholder [] [])
    Host.customArguments (.list []) (.list []) = .ok ([], [])
      ∧ (∀ name ∈ closedMap.tables.keys, name.isIdentifier)
      ∧ stripComments (unitText closedMap set.customNames set.wide)
          = "enable f16; \n".toList ++ prelude set.customNames closedMap.tables set.wide
              ++ "a */ b \n".toList := by
  have hgiven : Host.customArguments (.list []) (.list []) = .ok ([], []) := rfl
  have htables : ∀ name ∈ closedMap.tables.keys, name.isIdentifier := by decide
  have hclosed : openBlock? closedMap.extensions = none := by decide +kernel
  have hextensions : stripComments closedMap.extensions = "enable f16; \n".toList := by
    decide +kernel
  have hsource : stripComments closedMap.source = "a */ b \n".toList := by decide +kernel
  have hunit := (stripComments_unit hgiven smallHost htables).1 (.inl hclosed)
  rw [hextensions, hsource] at hunit
  exact ⟨hgiven, htables, hunit⟩

/-- A shader with a line to hoist, whose block comment ends in the line after it. -/
def hoistedText : Text :=
  "@compute @workgroup_size(1) fn f() \x7b\x7d\nenable f16; /* half\nprecision */\n".toList

/-- The run that hoists it. -/
def hoistedRun : Run Unit × Ending :=
  (Run.start [] ()).shader (Resolver.dictionary []) hoistedText

/-- The line takes its comment to the front: it goes on over the prelude and the function of the
source, so that no entry point is found. -/
theorem prelude_in_comment :
    let m := hoistedRun.1.source
    let set := smallHost.setCustom (Host.customOrPlaceholder [] [])
    let unit := unitText m set.customNames set.wide
    hoistedRun.2 = .complete
      ∧ (∀ name ∈ m.tables.keys, name.isIdentifier)
      ∧ Host.customArguments (.list []) (.list []) = .ok ([], [])
      ∧ stripComments unit
          ≠ stripComments m.extensions ++ prelude set.customNames m.tables set.wide
              ++ stripComments m.source
      ∧ findEntryPoints m.source = .ok [⟨['f'], ⟨1, 1, 1⟩⟩]
      ∧ findEntryPoints unit = .ok [] := by
  intro m set unit
  have hgiven : Host.customArguments (.list []) (.list []) = .ok ([], []) := rfl
  have hnames := (Host.proper_of_customArguments hgiven).identifiers
  have htables : ∀ name ∈ m.tables.keys, name.isIdentifier := by decide +kernel
  have hopen : openBlock? m.extensions = some "enable f16; ".toList := by decide +kernel
  have hafter : afterBlockEnd m.source = some ['\n'] := by decide +kernel
  have hunit : stripComments unit = "enable f16; ".toList ++ stripComments ['\n'] :=
    stripComments_unitText_of_open hnames htables smallHost.wide hopen hafter
  refine ⟨by decide +kernel, htables, hgiven, fun hlaw => ?_, by decide +kernel, ?_⟩
  · -- what the hoisted line leaves of its comment is not lost on the right-hand side
    have hstar : '*' ∈ stripComments m.extensions := by decide +kernel
    have hunitStar : '*' ∈ stripComments unit := by
      rw [hlaw, List.append_assoc]
      exact List.mem_append_left _ hstar
    rw [hunit] at hunitStar
    exact absurd hunitStar (by decide +kernel)
  · unfold findEntryPoints
    rw [hunit]
    decide +kernel

end ShaderPlayer.Shader
