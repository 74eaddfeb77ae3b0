/-
The values of data directives.

The values of a data directive are found by cutting its line at blanks, joining what stands behind
the type, and cutting that at commas.  So the blanks in a piece between two commas are dropped, those
inside it as well as those around it:

* `flatten_tokens`, `splitOn_compact` — joining the tokens of a text drops its blanks, and this may
  as well be done piece by piece;
* `dataValues_eq_ok_iff` — the values of a text are the literals of its pieces without their blanks;
* `data_values` — so a line is accepted that has blanks inside of a piece, and its values are those
  that are written exactly if there are none;
* `data_values_joined` — two literals with a blank between them are read as one.
-/
import ShaderPlayer.Proofs.Shader.Included
import ShaderPlayer.Proofs.Shader.IntegerLiteral

namespace ShaderPlayer.Shader

open Text (isBlank)

/-! ### Blanks -/

/-- The text without its blanks. -/
def compact (t : Text) : Text := t.filter (!isBlank ·)

theorem compact_append (t rest : Text) : compact (t ++ rest) = compact t ++ compact rest :=
  List.filter_append t rest

theorem compact_of_blank {t : Text} (h : ∀ c ∈ t, isBlank c) : compact t = [] :=
  List.filter_eq_nil_iff.mpr fun c hc => by simp [h c hc]

theorem compact_eq_self {t : Text} (h : ∀ c ∈ t, isBlank c = false) : compact t = t :=
  List.filter_eq_self.mpr fun c hc => by simp [h c hc]

theorem not_blank_of_mem_compact {t : Text} {c : Char} (h : c ∈ compact t) : isBlank c = false := by
  simpa using (List.mem_filter.mp h).2

theorem compact_trimLeft (t : Text) : compact t.trimLeft = compact t := by
  have hblank : ∀ c ∈ t.takeWhile isBlank, isBlank c := fun c hc => List.mem_takeWhile_imp hc
  conv => rhs; rw [← List.takeWhile_append_dropWhile (p := isBlank) (l := t)]
  rw [compact_append, compact_of_blank hblank]
  rfl

/-- The blanks around a text are among those that go. -/
theorem compact_trim (t : Text) : compact t.trim = compact t := by
  have hreverse : ∀ u : Text, compact u.reverse = (compact u).reverse := fun _ =>
    List.filter_reverse
  calc compact t.trim
      = (compact (Text.trimLeft t.trimLeft.reverse)).reverse := hreverse _
    _ = (compact t.trimLeft.reverse).reverse := by rw [compact_trimLeft]
    _ = compact t.trimLeft := by rw [hreverse, List.reverse_reverse]
    _ = compact t := compact_trimLeft t

/-- The first token of a text, and what follows it. -/
theorem tokens_of_trimLeft {t rest : Text} {c : Char} (htrim : Text.trimLeft t = c :: rest) :
    Text.tokens t
        = (c :: rest.takeWhile (!isBlank ·)) :: Text.tokens (rest.dropWhile (!isBlank ·))
      ∧ ∀ d ∈ c :: rest.takeWhile (!isBlank ·), isBlank d = false := by
  have htokens : Text.tokens t
      = (c :: rest.takeWhile (!isBlank ·)) :: Text.tokens (rest.dropWhile (!isBlank ·)) := by
    rw [Text.tokens.eq_def, htrim]
  exact ⟨htokens, fun d hd => Text.not_isBlank_of_mem_tokens (htokens ▸ List.mem_cons_self) hd⟩

/-- Joining the tokens of a text drops its blanks. -/
theorem flatten_tokens (t : Text) : (Text.tokens t).flatten = compact t := by
  fun_induction Text.tokens t with
  | case1 t htrim =>
    rw [← compact_trimLeft, htrim]
    rfl
  | case2 t c rest htrim ih =>
    have hkept : compact (c :: rest.takeWhile (!isBlank ·)) = c :: rest.takeWhile (!isBlank ·) :=
      compact_eq_self (tokens_of_trimLeft htrim).2
    calc (c :: rest.takeWhile (!isBlank ·)) ++ (Text.tokens (rest.dropWhile (!isBlank ·))).flatten
        = compact (c :: rest.takeWhile (!isBlank ·)) ++ compact (rest.dropWhile (!isBlank ·)) := by
          rw [ih, hkept]
      _ = compact (c :: rest) := by
          rw [← compact_append, List.cons_append, List.takeWhile_append_dropWhile]
      _ = compact t := by rw [← htrim, compact_trimLeft]

/-- Dropping blanks does not move a separator. -/
theorem splitOn_compact {sep : Char} (hsep : isBlank sep = false) (t : Text) :
    List.splitOn sep (compact t) = (List.splitOn sep t).map compact := by
  induction t with
  | nil => rfl
  | cons c rest ih =>
    obtain ⟨piece, pieces, hrest⟩ :=
      List.exists_cons_of_ne_nil (List.splitOn_ne_nil sep rest)
    rw [List.splitOn_cons_eq_if_modifyHead]
    by_cases hblank : isBlank c
    · -- a blank goes on both sides; it is no separator, so it opened no piece
      have hne : c ≠ sep := by
        rintro rfl
        exact Bool.false_ne_true (hsep.symm.trans hblank)
      have hdrop : ∀ u : Text, compact (c :: u) = compact u := fun u =>
        List.filter_cons_of_neg (by simp [hblank])
      rw [hdrop, ih, hrest, if_neg (by simpa using hne), List.modifyHead_cons, List.map_cons,
        List.map_cons, hdrop]
    · have hkeep : ∀ u : Text, compact (c :: u) = c :: compact u := fun u =>
        List.filter_cons_of_pos (by simpa using hblank)
      rw [hkeep, List.splitOn_cons_eq_if_modifyHead, ih, hrest]
      split
      · rfl
      · rw [List.map_cons, List.modifyHead_cons, List.modifyHead_cons, List.map_cons, hkeep]

/-- What follows the first token of a text. -/
def afterToken (t : Text) : Text := t.trimLeft.dropWhile (!isBlank ·)

theorem tokens_afterToken {t token : Text} {rest : List Text} (h : Text.tokens t = token :: rest) :
    Text.tokens (afterToken t) = rest := by
  rcases htrim : Text.trimLeft t with _ | ⟨c, more⟩
  · rw [Text.tokens.eq_def, htrim] at h
    cases h
  · obtain ⟨htokens, hplain⟩ := tokens_of_trimLeft htrim
    have hdrop : (c :: more).dropWhile (!isBlank ·) = more.dropWhile (!isBlank ·) :=
      List.dropWhile_cons_of_pos (by simp [hplain c List.mem_cons_self])
    rw [afterToken, htrim, hdrop]
    exact (List.cons.inj (htokens.symm.trans h)).2

/-! ### Values -/

/-- The value part of a data directive, which is what follows its type. -/
def valuePart (line : Text) : Text := afterToken (afterToken (afterToken line))

/-- The pieces that the values of a data directive are written in. -/
def valuePieces (line : Text) : List Text := List.splitOn ',' (valuePart line)

/-- Each piece is a literal of its value, once all its blanks are gone. -/
def ReadAs : List Text → List Nat → Prop := List.Forall₂ fun piece n => U32Literal (compact piece) n

/-- Each piece is a literal of its value, the blanks around it aside. -/
def WrittenAs : List Text → List Nat → Prop := List.Forall₂ fun piece n => U32Literal piece.trim n

/-- No blank stands inside of a piece. -/
def Unspaced (piece : Text) : Prop := ∀ c ∈ piece.trim, isBlank c = false

theorem literal_compact_iff {t : Text} {n : Nat} :
    literal (compact t) = .ok n ↔ U32Literal (compact t) n := by
  rw [literal_eq_ok_iff, Text.trim_eq_self fun c hc => not_blank_of_mem_compact hc]

/-- The values of tokens are the literals of the pieces of their text. -/
theorem dataValues_eq_ok_iff {t : Text} {values : List Nat} :
    dataValues (Text.tokens t) = .ok values ↔ ReadAs (List.splitOn ',' t) values := by
  rw [dataValues, flatten_tokens, splitOn_compact (by decide), mapM_eq_ok_iff,
    List.forall₂_map_left_iff]
  simp only [literal_compact_iff, ReadAs]

/-- Pieces are read as they are written if no blank stands inside of them, and only then. -/
theorem writtenAs_iff {pieces : List Text} {values : List Nat} (h : ReadAs pieces values) :
    WrittenAs pieces values ↔ ∀ piece ∈ pieces, Unspaced piece := by
  constructor
  · intro hwritten piece hpiece
    -- a literal has no blanks
    obtain ⟨n, _, hn⟩ := exists_of_mem_forall₂ hwritten.flip hpiece
    exact U32Literal.not_blank hn
  · intro hunspaced
    induction h with
    | nil => exact .nil
    | @cons piece n pieces values hhead _ ih =>
      rw [List.forall_mem_cons] at hunspaced
      rw [← compact_trim, compact_eq_self hunspaced.1] at hhead
      exact .cons hhead (ih hunspaced.2)

theorem exists_readAs_iff {pieces : List Text} :
    (∃ values, ReadAs pieces values) ↔ ∀ piece ∈ pieces, ∃ n, U32Literal (compact piece) n := by
  constructor
  · rintro ⟨values, h⟩ piece hpiece
    obtain ⟨n, _, hn⟩ := exists_of_mem_forall₂ h.flip hpiece
    exact ⟨n, hn⟩
  · intro h
    induction pieces with
    | nil => exact ⟨[], .nil⟩
    | cons piece pieces ih =>
      rw [List.forall_mem_cons] at h
      obtain ⟨n, hn⟩ := h.1
      obtain ⟨values, hvalues⟩ := ih h.2
      exact ⟨n :: values, .cons hn hvalues⟩

/-- A piece with two literals in it, and blanks between them, is read if the literals join. -/
theorem readAs_joined_iff {before after : List Text} {piece a gap b : Text} {m k : Nat}
    (hothers : ∀ other ∈ before ++ after, ∃ n, U32Literal (compact other) n)
    (hpiece : piece.trim = a ++ gap ++ b) (hgap : ∀ c ∈ gap, isBlank c) (ha : U32Literal a m)
    (hb : U32Literal b k) : (∃ values, ReadAs (before ++ piece :: after) values) ↔ Joins a b := by
  have hcompact : compact piece = a ++ b := by
    rw [← compact_trim, hpiece, compact_append, compact_append, compact_eq_self ha.not_blank,
      compact_of_blank hgap, compact_eq_self hb.not_blank, List.append_nil]
  rw [List.forall_mem_append] at hothers
  rw [exists_readAs_iff, List.forall_mem_append, List.forall_mem_cons, hcompact, joined_iff ha hb]
  constructor
  · exact fun h => h.2.1
  · exact fun h => ⟨hothers.1, h, hothers.2⟩

/-! ### Data directives -/

/-- What a data directive comes to, its macros substituted and its comments dropped.  It is accepted
if each of its pieces between commas is a literal once the blanks are gone, and then adds their
values; these are those of the literals that are written exactly if no blank stands inside of a
piece.  A piece that has two literals with blanks between them, where the other pieces are read, is
refused exactly if the literals do not join. -/
theorem data_values {σ : Type} (resolver : Resolver σ) {run : Run σ} {line name part : Text}
    {parts : List Text}
    (kind : Line.ofText (run.macros.expandLine line)
      = .directive ("#data".toList :: name :: "u32".toList :: part :: parts))
    (budget : Nat) (origin : Int) :
    let pieces := valuePieces (stripComments (run.macros.expandLine line))
    (∀ values, ReadAs pieces values →
        processLine resolver budget origin line run
            = ({ run with source := run.source.pushData name (values.map Int.ofNat) }, none)
          ∧ (WrittenAs pieces values ↔ ∀ piece ∈ pieces, Unspaced piece))
      ∧ ((¬ ∃ values, ReadAs pieces values) →
        ∃ stop, processLine resolver budget origin line run = (run, some ⟨stop, origin⟩))
      ∧ ∀ before piece after a gap b m k, pieces = before ++ piece :: after →
        (∀ other ∈ before ++ after, ∃ n, U32Literal (compact other) n) →
        piece.trim = a ++ gap ++ b → (∀ c ∈ gap, isBlank c) → U32Literal a m → U32Literal b k →
        ((∃ values, ReadAs pieces values) ↔ Joins a b) := by
  intro pieces
  have htokens : Text.tokens (valuePart (stripComments (run.macros.expandLine line)))
      = part :: parts :=
    tokens_afterToken (tokens_afterToken (tokens_afterToken (ofText_eq_directive_iff.mp kind).2))
  have hread : ∀ values, dataValues (part :: parts) = .ok values ↔ ReadAs pieces values := by
    intro values
    rw [← htokens]
    exact dataValues_eq_ok_iff
  have hdirective : Directive.ofTokens ("#data".toList :: name :: "u32".toList :: part :: parts)
      = (dataValues (part :: parts)).map (.data name) := rfl
  refine ⟨fun values hvalues => ⟨?_, writtenAs_iff hvalues⟩, fun hnone => ?_, ?_⟩
  · rw [(hread values).mpr hvalues] at hdirective
    exact processLine_directive kind hdirective (by simp)
  · rcases hrefused : dataValues (part :: parts) with stop | values
    · rw [hrefused] at hdirective
      exact ⟨stop, processLine_malformed kind hdirective⟩
    · exact absurd ⟨values, (hread values).mp hrefused⟩ hnone
  · intro before piece after a gap b m k hpieces hothers hpiece hgap ha hb
    rw [hpieces]
    exact readAs_joined_iff hothers hpiece hgap ha hb

/-- Blanks around a comma, and a comment between two literals and a comma. -/
theorem data_values_around :
    let run : Run Unit := .start [] ()
    let line := "#data t u32 1 , 0x2u /* two */, 3".toList
    Line.ofText (run.macros.expandLine line)
        = .directive ["#data".toList, ['t'], "u32".toList, ['1'], [','], "0x2u".toList, [','], ['3']]
      ∧ processLine (Resolver.dictionary []) 16 1 line run
        = ({ run with source := run.source.pushData ['t'] [1, 2, 3] }, none) := by
  intro run line
  have kind : Line.ofText (run.macros.expandLine line)
      = .directive ["#data".toList, ['t'], "u32".toList, ['1'], [','], "0x2u".toList, [','], ['3']] := by
    decide +kernel
  have hread : ReadAs (valuePieces (stripComments (run.macros.expandLine line))) [1, 2, 3] :=
    dataValues_eq_ok_iff.mp (by decide +kernel)
  exact ⟨kind, ((data_values (Resolver.dictionary []) kind 16 1).1 [1, 2, 3] hread).1⟩

/-- Two literals with a blank between them are read as one number. -/
theorem data_values_joined :
    let result := (Run.start [] ()).shader (Resolver.dictionary []) "#data t u32 1 2\n".toList
    valuePieces "#data t u32 1 2".toList = [" 1 2".toList]
      ∧ U32Literal ['1'] 1 ∧ U32Literal ['2'] 2 ∧ (∀ n, ¬ U32Literal (Text.trim " 1 2".toList) n)
      ∧ result.2 = .complete ∧ result.1.source.tables = [(['t'], [12])] := by
  intro result
  have hone : U32Literal (Text.trim ['1']) 1 := readU32_eq_value_iff.mp rfl
  have htwo : U32Literal (Text.trim ['2']) 2 := readU32_eq_value_iff.mp rfl
  refine ⟨by decide +kernel, hone, htwo, fun n hn => ?_, by decide +kernel⟩
  exact absurd (hn.not_blank ' ' (by decide +kernel)) (by decide)

end ShaderPlayer.Shader
