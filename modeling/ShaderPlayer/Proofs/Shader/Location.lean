/-
The first place that a message names.

* `placeNumeral_eq_some_iff` — the numeral that is found is the one of the first place;
* `placeNumeral_trim` — blanks around a message do not matter;
* `namedLine_of_firstPlace` — the line is read by the places of its digits, unless it
  has more of them than are read.
-/
import ShaderPlayer.Proofs.Text.Characters
import ShaderPlayer.Proofs.Text.Numerals
import ShaderPlayer.Shader.Location

namespace ShaderPlayer.Shader

/-- A text starts with a place: the numeral of a line and a column, each after a
colon. -/
def StartsPlace (numeral t : Text) : Prop :=
  numeral ≠ [] ∧ (∀ c ∈ numeral, isDigit c)
    ∧ ∃ column rest, isDigit column ∧ t = ':' :: (numeral ++ ':' :: column :: rest)

/-- The first place in a message names the line with the given numeral. -/
inductive FirstPlace (numeral : Text) : Text → Prop
  | here {t : Text} (starts : StartsPlace numeral t) : FirstPlace numeral t
  | later {c : Char} {rest : Text} (none : ∀ other, ¬ StartsPlace other (c :: rest))
      (first : FirstPlace numeral rest) : FirstPlace numeral (c :: rest)

/-- The numeral of a place is all the digits behind its colon. -/
theorem startsPlace_cons_iff {numeral : Text} {c : Char} {rest : Text} :
    StartsPlace numeral (c :: rest)
      ↔ (c = ':' ∧ ¬ (rest.takeWhile isDigit).isEmpty
          ∧ (rest.dropWhile isDigit).head? = some ':'
          ∧ (((rest.dropWhile isDigit).drop 1).head?.map isDigit).getD false)
        ∧ numeral = rest.takeWhile isDigit := by
  constructor
  · rintro ⟨hne, hdigits, column, after, hcolumn, heq⟩
    obtain ⟨rfl, rfl⟩ := List.cons.inj heq
    have htake : (numeral ++ ':' :: column :: after).takeWhile isDigit = numeral := by
      rw [List.takeWhile_append_of_pos hdigits, List.takeWhile_cons_of_neg (by decide),
        List.append_nil]
    have hdrop : (numeral ++ ':' :: column :: after).dropWhile isDigit = ':' :: column :: after := by
      rw [List.dropWhile_append_of_pos hdigits, List.dropWhile_cons_of_neg (by decide)]
    rw [htake, hdrop]
    refine ⟨⟨rfl, ?_, rfl, ?_⟩, rfl⟩
    · rw [List.isEmpty_iff]
      exact hne
    · exact hcolumn
  · rintro ⟨⟨rfl, hne, hcolon, hcolumn⟩, rfl⟩
    rw [List.isEmpty_iff] at hne
    refine ⟨hne, fun c hc => List.mem_takeWhile_imp hc, ?_⟩
    obtain ⟨tail, htail⟩ := List.head?_eq_some_iff.mp hcolon
    rw [htail] at hcolumn
    rcases tail with _ | ⟨column, after⟩
    · cases hcolumn
    · refine ⟨column, after, hcolumn, ?_⟩
      rw [← htail, List.takeWhile_append_dropWhile]

theorem placeNumeral_eq_some_iff {numeral message : Text} :
    placeNumeral? message = some numeral ↔ FirstPlace numeral message := by
  induction message with
  | nil =>
    constructor
    · intro h
      cases h
    · rintro (⟨_, _, _, _, _, heq⟩ | _)
      cases heq
  | cons c rest ih =>
    rw [placeNumeral?]
    split
    · next hplace =>
      constructor
      · intro h
        cases h
        exact .here (startsPlace_cons_iff.mpr ⟨hplace, rfl⟩)
      · intro h
        cases h with
        | here starts => rw [(startsPlace_cons_iff.mp starts).2]
        | later none _ => exact absurd (startsPlace_cons_iff.mpr ⟨hplace, rfl⟩) (none _)
    · next hplace =>
      have hnone : ∀ other, ¬ StartsPlace other (c :: rest) := fun other h =>
        hplace (startsPlace_cons_iff.mp h).1
      rw [ih]
      constructor
      · exact .later hnone
      · intro h
        cases h with
        | here starts => exact absurd starts (hnone numeral)
        | later _ first => exact first

/-! ### Blanks around a message -/

theorem isDigit_of_isBlank {c : Char} (h : Text.isBlank c) : isDigit c = false := by
  rw [isDigit, Option.isSome_eq_false_iff, Option.isNone_iff_eq_none]
  rcases hdigit : Text.digit? c with _ | d
  · rfl
  · rw [(Text.plainNumeral_of_digit hdigit).2.2] at h
    cases h

theorem placeNumeral_dropWhile (t : Text) :
    placeNumeral? (t.dropWhile Text.isBlank) = placeNumeral? t := by
  induction t with
  | nil => rfl
  | cons c rest ih =>
    by_cases hc : Text.isBlank c
    · have hcolon : c ≠ ':' := by
        rintro rfl
        exact absurd hc (by decide)
      rw [List.dropWhile_cons_of_pos hc, ih, placeNumeral?, if_neg fun h => hcolon h.1]
    · rw [List.dropWhile_cons_of_neg hc]

/-- No digit stands where blanks start. -/
theorem head_map_isDigit_of_blanks {blanks : Text} (h : ∀ c ∈ blanks, Text.isBlank c) :
    (blanks.head?.map isDigit).getD false = false := by
  cases blanks with
  | nil => rfl
  | cons b _ => exact isDigit_of_isBlank (h b List.mem_cons_self)

theorem placeNumeral_append_blanks {blanks : Text} (h : ∀ c ∈ blanks, Text.isBlank c) (t : Text) :
    placeNumeral? (t ++ blanks) = placeNumeral? t := by
  induction t with
  | nil =>
    have hgone : blanks.dropWhile Text.isBlank = [] := List.dropWhile_eq_nil_iff.mpr h
    rw [List.nil_append, ← placeNumeral_dropWhile, hgone]
  | cons c rest ih =>
    have hstop : ∀ c, blanks.head? = some c → isDigit c = false := fun c hc =>
      isDigit_of_isBlank (h c (List.mem_of_head? hc))
    obtain ⟨htake, hdrop⟩ := Text.span_append_stop hstop rest
    rw [List.cons_append, placeNumeral?, placeNumeral?, htake, hdrop, ih]
    -- what stands behind the digits of the line: nothing, a colon alone, or more
    rcases rest.dropWhile isDigit with _ | ⟨colon, _ | ⟨column, after⟩⟩
    · have hcolon : blanks.head? ≠ some ':' := by
        intro hhead
        obtain ⟨tail, rfl⟩ := List.head?_eq_some_iff.mp hhead
        exact absurd (h ':' List.mem_cons_self) (by decide)
      rw [List.nil_append, if_neg fun hplace => hcolon hplace.2.2.1,
        if_neg fun hplace => by cases hplace.2.2.1]
    · have hcolumn : ((([colon] ++ blanks).drop 1).head?.map isDigit).getD false = false :=
        head_map_isDigit_of_blanks h
      rw [hcolumn, if_neg fun hplace => Bool.false_ne_true hplace.2.2.2]
      exact (if_neg fun hplace => Bool.false_ne_true hplace.2.2.2).symm
    · rfl

/-- The first place stays when the blanks around a message go. -/
theorem placeNumeral_trim (t : Text) : placeNumeral? (Text.trim t) = placeNumeral? t := by
  set u := Text.trimLeft t with hu
  have hsplit : u = Text.trimRight u ++ (u.reverse.takeWhile Text.isBlank).reverse := by
    rw [Text.trimRight, ← List.reverse_append, List.takeWhile_append_dropWhile,
      List.reverse_reverse]
  have hblanks : ∀ c ∈ (u.reverse.takeWhile Text.isBlank).reverse, Text.isBlank c := fun c hc =>
    List.mem_takeWhile_imp (List.mem_reverse.mp hc)
  calc placeNumeral? (Text.trim t)
      = placeNumeral? (Text.trimRight u) := rfl
    _ = placeNumeral? u := by
        conv => rhs; rw [hsplit]
        exact (placeNumeral_append_blanks hblanks _).symm
    _ = placeNumeral? t := placeNumeral_dropWhile t

/-! ### The named line -/

theorem digits_of_firstPlace {numeral message : Text} (h : FirstPlace numeral message) :
    numeral ≠ [] ∧ ∀ c ∈ numeral, (Text.digit? c).isSome := by
  induction h with
  | here starts => exact ⟨starts.1, starts.2.1⟩
  | later _ _ ih => exact ih

/-- The line of the first place in a message, or the length of a numeral that is not
read. -/
theorem namedLine_of_firstPlace {numeral message : Text} (h : FirstPlace numeral message) :
    namedLine message.trim
      = if numeral.length ≤ maxDigits then
          .ok (some (Text.positional 10 (Text.digitValues numeral)))
        else .error numeral.length := by
  obtain ⟨hne, hdigits⟩ := digits_of_firstPlace h
  unfold namedLine
  rw [placeNumeral_trim, placeNumeral_eq_some_iff.mpr h]
  dsimp only
  rw [Text.readInteger_of_digits hne hdigits]
  by_cases hlength : numeral.length ≤ maxDigits
  · rw [if_pos hlength, if_pos hlength]
  · rw [if_neg hlength, if_neg hlength]

/-- A message names a line or none, if the numeral of its first place is read. -/
theorem exists_namedLine {message : Text}
    (hread : ∀ numeral, FirstPlace numeral message → numeral.length ≤ maxDigits) :
    ∃ line, namedLine message.trim = .ok line := by
  rcases hplace : placeNumeral? message with _ | numeral
  · unfold namedLine
    rw [placeNumeral_trim, hplace]
    exact ⟨none, rfl⟩
  · have hfirst := placeNumeral_eq_some_iff.mp hplace
    rw [namedLine_of_firstPlace hfirst, if_pos (hread numeral hfirst)]
    exact ⟨_, rfl⟩

end ShaderPlayer.Shader
