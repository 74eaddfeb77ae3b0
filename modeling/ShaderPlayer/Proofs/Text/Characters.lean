/-
Where the characters of cut and changed text come from.

* `mem_mapWords` — replacing words brings in characters of the new words only;
* `mapWords_congr`, `mapWords_of_forall` — replacing looks at the words only, and words that are
  replaced by themselves leave the text alone;
* `mapWords_append_cons` — words on the two sides of another character do not meet;
* `not_isBlank_of_mem_tokens` — no character of a token is blank;
* `trim_eq_iff` — trimming leaves what the blanks around it enclose;
* `isWord_of_isBlank` — none of a word is, either;
* `mem_join` — a joined text has the characters of its pieces and of the separator.
-/
import Mathlib.Data.List.TakeWhile
import ShaderPlayer.Text.Blank
import ShaderPlayer.Text.Word

namespace ShaderPlayer.Text

/-- A run of characters ends where one that does not belong to it follows. -/
theorem span_append_stop {p : Char → Bool} {stop : Text}
    (h : ∀ c, stop.head? = some c → p c = false) (t : Text) :
    (t ++ stop).takeWhile p = t.takeWhile p
      ∧ (t ++ stop).dropWhile p = t.dropWhile p ++ stop := by
  induction t with
  | nil =>
    cases stop with
    | nil => exact ⟨rfl, rfl⟩
    | cons c rest =>
      have hc : ¬ p c = true := by
        rw [h c rfl]
        exact Bool.false_ne_true
      exact ⟨List.takeWhile_cons_of_neg hc, List.dropWhile_cons_of_neg hc⟩
  | cons c rest ih =>
    by_cases hc : p c
    · rw [List.cons_append, List.takeWhile_cons_of_pos hc, List.dropWhile_cons_of_pos hc,
        List.takeWhile_cons_of_pos hc, List.dropWhile_cons_of_pos hc, ih.1, ih.2]
      exact ⟨rfl, rfl⟩
    · rw [List.cons_append, List.takeWhile_cons_of_neg hc, List.dropWhile_cons_of_neg hc,
        List.takeWhile_cons_of_neg hc, List.dropWhile_cons_of_neg hc]
      exact ⟨rfl, rfl⟩

/-! ### Words -/

/-- The maximal words of a text. -/
def words : Text → List Text
  | [] => []
  | c :: rest =>
    if isWord c then (c :: rest.takeWhile isWord) :: words (rest.dropWhile isWord)
    else words rest
termination_by t => t.length
decreasing_by
  · have : (rest.dropWhile isWord).length ≤ rest.length :=
      (List.dropWhile_sublist _).length_le
    rw [List.length_cons]
    omega
  · simp

theorem mem_mapWords {f : Text → Text} {t : Text} {c : Char} (h : c ∈ mapWords f t) :
    c ∈ t ∨ ∃ word ∈ words t, c ∈ f word := by
  fun_induction mapWords f t with
  | case1 => exact absurd h List.not_mem_nil
  | case2 d rest hd ih =>
    rw [words, if_pos hd]
    rcases List.mem_append.mp h with h | h
    · exact .inr ⟨_, List.mem_cons_self, h⟩
    · rcases ih h with h | ⟨word, hword, h⟩
      · exact .inl (List.mem_cons_of_mem d (List.dropWhile_subset _ h))
      · exact .inr ⟨word, List.mem_cons_of_mem _ hword, h⟩
  | case3 d rest hd ih =>
    rw [words, if_neg hd]
    rcases List.mem_cons.mp h with h | h
    · exact .inl (List.mem_cons.mpr (.inl h))
    · exact (ih h).imp_left (List.mem_cons_of_mem d)

theorem mem_of_mem_words {t word : Text} (h : word ∈ words t) {c : Char} (hc : c ∈ word) :
    c ∈ t := by
  fun_induction words t with
  | case1 => exact absurd h List.not_mem_nil
  | case2 d rest hd ih =>
    rcases List.mem_cons.mp h with rfl | h
    · rcases List.mem_cons.mp hc with rfl | hc
      · exact List.mem_cons_self
      · exact List.mem_cons_of_mem d (List.takeWhile_subset _ hc)
    · exact List.mem_cons_of_mem d (List.dropWhile_subset _ (ih h))
  | case3 d rest hd ih => exact List.mem_cons_of_mem d (ih h)

/-- A character between words parts them. -/
theorem words_append_cons {c : Char} (hc : isWord c = false) (t rest : Text) :
    words (t ++ c :: rest) = words t ++ words rest := by
  have hstop : ∀ d, (c :: rest).head? = some d → isWord d = false := by
    intro d hd
    rw [← Option.some.inj hd]
    exact hc
  fun_induction words t with
  | case1 => rw [List.nil_append, words, if_neg (by rw [hc]; exact Bool.false_ne_true), List.nil_append]
  | case2 d more hd ih =>
    obtain ⟨htake, hdrop⟩ := span_append_stop hstop more
    rw [List.cons_append, words, if_pos hd, htake, hdrop, ih]
    rfl
  | case3 d more hd ih => rw [List.cons_append, words, if_neg hd, ih]

/-- A text that begins between words adds its words. -/
theorem words_append {rest : Text} (h : ∀ c, rest.head? = some c → isWord c = false) (t : Text) :
    words (t ++ rest) = words t ++ words rest := by
  cases rest with
  | nil => rw [List.append_nil, words, List.append_nil]
  | cons c rest =>
    have hc : isWord c = false := h c rfl
    have hnot : ¬ isWord c = true := by
      rw [hc]
      exact Bool.false_ne_true
    rw [words_append_cons hc, words.eq_def (c :: rest)]
    simp only [if_neg hnot]

/-- Replacing words looks at the words of the text only. -/
theorem mapWords_congr {f g : Text → Text} {t : Text} (h : ∀ word ∈ words t, f word = g word) :
    mapWords f t = mapWords g t := by
  fun_induction mapWords f t with
  | case1 => rw [mapWords]
  | case2 c rest hc ih =>
    rw [words, if_pos hc, List.forall_mem_cons] at h
    rw [mapWords, if_pos hc, h.1, ih h.2]
  | case3 c rest hc ih =>
    rw [words, if_neg hc] at h
    rw [mapWords, if_neg hc, ih h]

theorem mapWords_of_forall {f : Text → Text} {t : Text} (h : ∀ word ∈ words t, f word = word) :
    mapWords f t = t := by
  fun_induction mapWords f t with
  | case1 => rfl
  | case2 c rest hc ih =>
    rw [words, if_pos hc, List.forall_mem_cons] at h
    rw [h.1, ih h.2, List.cons_append, List.takeWhile_append_dropWhile]
  | case3 c rest hc ih =>
    rw [words, if_neg hc] at h
    rw [ih h]

/-- What is on the two sides of a character between words is replaced by itself. -/
theorem mapWords_append_cons (f : Text → Text) {c : Char} (hc : isWord c = false) (t rest : Text) :
    mapWords f (t ++ c :: rest) = mapWords f t ++ c :: mapWords f rest := by
  have hnot : ¬ isWord c = true := by
    rw [hc]
    exact Bool.false_ne_true
  have hstop : ∀ d, (c :: rest).head? = some d → isWord d = false := by
    intro d hd
    rw [← Option.some.inj hd]
    exact hc
  fun_induction mapWords f t with
  | case1 => rw [List.nil_append, mapWords, if_neg hnot, List.nil_append]
  | case2 d more hd ih =>
    obtain ⟨htake, hdrop⟩ := span_append_stop hstop more
    rw [List.cons_append, mapWords, if_pos hd, htake, hdrop, ih, List.append_assoc]
  | case3 d more hd ih => rw [List.cons_append, mapWords, if_neg hd, ih, List.cons_append]

theorem mapWords_word (f : Text → Text) {word : Text} (hne : word ≠ [])
    (hword : ∀ c ∈ word, isWord c) : mapWords f word = f word := by
  obtain ⟨c, rest, rfl⟩ := List.exists_cons_of_ne_nil hne
  rw [List.forall_mem_cons] at hword
  rw [mapWords, if_pos hword.1, List.takeWhile_eq_self_iff.mpr hword.2,
    List.dropWhile_eq_nil_iff.mpr hword.2, mapWords, List.append_nil]

/-! ### Tokens -/

theorem not_isBlank_of_mem_tokens {t token : Text} (h : token ∈ tokens t) {c : Char}
    (hc : c ∈ token) : isBlank c = false := by
  fun_induction tokens t with
  | case1 => exact absurd h List.not_mem_nil
  | case2 t d rest htrim ih =>
    rcases List.mem_cons.mp h with rfl | h
    · rcases List.mem_cons.mp hc with rfl | hc
      · -- the first character that is left after the blanks is none
        have hhead : (trimLeft t).head? = some c := by rw [htrim, List.head?_cons]
        have hnot := List.head?_dropWhile_not isBlank t
        rw [show t.dropWhile isBlank = trimLeft t from rfl, hhead] at hnot
        simpa using hnot
      · simpa using List.all_eq_true.mp List.all_takeWhile c hc
    · exact ih h

theorem tokens_of_blank {c : Char} (hc : isBlank c = true) (t : Text) :
    tokens (c :: t) = tokens t := by
  have htrim : trimLeft (c :: t) = trimLeft t := List.dropWhile_cons_of_pos hc
  rw [tokens.eq_def, tokens.eq_def t, htrim]

/-- A token ends at the next blank. -/
theorem tokens_append {c : Char} {token rest : Text}
    (htoken : ∀ d ∈ c :: token, isBlank d = false)
    (hstop : ∀ d, rest.head? = some d → isBlank d = true) :
    tokens (c :: (token ++ rest)) = (c :: token) :: tokens rest := by
  rw [List.forall_mem_cons] at htoken
  have htrim : trimLeft (c :: (token ++ rest)) = c :: (token ++ rest) :=
    List.dropWhile_cons_of_neg (by rw [htoken.1]; exact Bool.false_ne_true)
  have hstop' : ∀ d, rest.head? = some d → (!isBlank d) = false := by
    intro d hd
    rw [hstop d hd]
    rfl
  have hall : ∀ d ∈ token, (!isBlank d) = true := by
    intro d hd
    rw [htoken.2 d hd]
    rfl
  obtain ⟨htake, hdrop⟩ := span_append_stop hstop' token
  rw [tokens.eq_def, htrim]
  dsimp only
  rw [htake, hdrop, List.takeWhile_eq_self_iff.mpr hall, List.dropWhile_eq_nil_iff.mpr hall,
    List.nil_append]

theorem tokens_single {c : Char} {token : Text} (htoken : ∀ d ∈ c :: token, isBlank d = false) :
    tokens (c :: token) = [c :: token] := by
  have h := tokens_append (c := c) htoken (fun d (hd : ([] : Text).head? = some d) => by cases hd)
  rw [List.append_nil] at h
  rw [h, tokens.eq_def]
  rfl

/-! ### Trimming -/

/-- A text is another one with blanks around it. -/
def InBlanks (core t : Text) : Prop :=
  ∃ before after, t = before ++ core ++ after
    ∧ (∀ c ∈ before, isBlank c) ∧ ∀ c ∈ after, isBlank c

theorem inBlanks_trim (t : Text) : InBlanks (trim t) t := by
  refine ⟨t.takeWhile isBlank, (t.trimLeft.reverse.takeWhile isBlank).reverse, ?_, ?_, ?_⟩
  · have hright : t.trimLeft = trim t ++ (t.trimLeft.reverse.takeWhile isBlank).reverse := by
      rw [trim, trimRight, ← List.reverse_append, List.takeWhile_append_dropWhile,
        List.reverse_reverse]
    rw [List.append_assoc, ← hright, trimLeft, List.takeWhile_append_dropWhile]
  · exact fun c hc => List.mem_takeWhile_imp hc
  · exact fun c hc => List.mem_takeWhile_imp (List.mem_reverse.mp hc)

/-- The blanks before a character that is none are dropped, and nothing else. -/
theorem dropWhile_blanks {before core rest : Text} (hbefore : ∀ c ∈ before, isBlank c)
    (hne : core ≠ []) (hcore : ∀ c ∈ core, isBlank c = false) :
    (before ++ core ++ rest).dropWhile isBlank = core ++ rest := by
  obtain ⟨c, core, rfl⟩ := List.exists_cons_of_ne_nil hne
  rw [List.append_assoc, List.dropWhile_append_of_pos hbefore, List.cons_append,
    List.dropWhile_cons_of_neg (Bool.eq_false_iff.mp (hcore c List.mem_cons_self))]

/-- Trimming gives a text that has no blanks exactly if there are only blanks around that. -/
theorem trim_eq_iff {t core : Text} (hne : core ≠ []) (hcore : ∀ c ∈ core, isBlank c = false) :
    trim t = core ↔ InBlanks core t := by
  constructor
  · rintro rfl
    exact inBlanks_trim t
  · rintro ⟨before, after, rfl, hbefore, hafter⟩
    have hright : (after.reverse ++ core.reverse ++ []).dropWhile isBlank = core.reverse ++ [] :=
      dropWhile_blanks (fun c hc => hafter c (List.mem_reverse.mp hc))
        (mt List.reverse_eq_nil_iff.mp hne) fun c hc => hcore c (List.mem_reverse.mp hc)
    rw [List.append_nil, List.append_nil, ← List.reverse_append] at hright
    rw [trim, trimLeft, dropWhile_blanks hbefore hne hcore, trimRight, hright,
      List.reverse_reverse]

theorem trim_eq_self {t : Text} (h : ∀ c ∈ t, isBlank c = false) : trim t = t := by
  rcases eq_or_ne t [] with rfl | hne
  · rfl
  · have hnone : ∀ c ∈ ([] : Text), isBlank c := fun c hc => absurd hc List.not_mem_nil
    exact (trim_eq_iff hne h).mpr ⟨[], [], (List.append_nil t).symm, hnone, hnone⟩

/-! ### Joining -/

theorem mem_join {sep : Text} {pieces : List Text} {c : Char} (h : c ∈ join sep pieces) :
    c ∈ sep ∨ ∃ piece ∈ pieces, c ∈ piece := by
  fun_induction join sep pieces with
  | case1 => exact absurd h List.not_mem_nil
  | case2 piece => exact .inr ⟨piece, List.mem_cons_self, h⟩
  | case3 piece pieces _ ih =>
    rcases List.mem_append.mp h with h | h
    · rcases List.mem_append.mp h with h | h
      · exact .inr ⟨piece, List.mem_cons_self, h⟩
      · exact .inl h
    · rcases ih h with h | ⟨p, hp, h⟩
      · exact .inl h
      · exact .inr ⟨p, List.mem_cons_of_mem piece hp, h⟩

/-! ### Letters, digits and blanks -/

/-- What holds of a run of characters, each looked at by its number, holds of a character in it. -/
theorem forall_of_run {p : Char → Prop} {first count : Nat}
    (hall : ∀ i < count, p (Char.ofNat (first + i))) {c : Char} (hle : first ≤ c.toNat)
    (hlt : c.toNat < first + count) : p c := by
  have hp := hall (c.toNat - first) (by omega)
  rwa [Nat.add_sub_cancel' hle, Char.ofNat_toNat] at hp

theorem isAlphanumeric_of_isAlphanum {c : Char} (h : c.isAlphanum) : isAlphanumeric c := by
  have hascii : c.toNat < 128 := by
    unfold Char.isAlphanum Char.isAlpha Char.isUpper Char.isLower Char.isDigit at h
    simp only [Bool.or_eq_true, Bool.and_eq_true, decide_eq_true_eq, ge_iff_le,
      UInt32.le_iff_toNat_le] at h
    change ((65 ≤ c.toNat ∧ c.toNat ≤ 90) ∨ (97 ≤ c.toNat ∧ c.toNat ≤ 122))
      ∨ (48 ≤ c.toNat ∧ c.toNat ≤ 57) at h
    omega
  rw [isAlphanumeric, if_pos hascii, h]

/-- The blanks: where a run of them begins, and how many it has. -/
def blankRuns : List (Nat × Nat) := [(0x9, 5), (0x1c, 5), (0x85, 1), (0xa0, 1), (0x1680, 1),
  (0x2000, 11), (0x2028, 2), (0x202f, 1), (0x205f, 1), (0x3000, 1)]

/-- No word has a blank in it. -/
theorem isWord_of_isBlank {c : Char} (h : isBlank c) : isWord c = false := by
  have hall : ∀ run ∈ blankRuns, ∀ i < run.2, isWord (Char.ofNat (run.1 + i)) = false := by
    decide +kernel
  have hrun : ∃ run ∈ blankRuns, run.1 ≤ c.toNat ∧ c.toNat < run.1 + run.2 := by
    simp only [isBlank, Bool.or_eq_true, Bool.and_eq_true, decide_eq_true_eq, beq_iff_eq] at h
    simp only [blankRuns, List.mem_cons, List.not_mem_nil, or_false, or_and_right, exists_or,
      exists_eq_left]
    omega
  obtain ⟨run, hmem, hlow, hhigh⟩ := hrun
  exact forall_of_run (p := fun c => isWord c = false) (hall run hmem) hlow hhigh

/-! ### Line feeds -/

theorem isBlank_newline : isBlank '\n' = true := by decide

theorem isWord_newline : isWord '\n' = false := isWord_of_isBlank isBlank_newline

theorem newline_not_mem_token {t token : Text} (h : token ∈ tokens t) : '\n' ∉ token := by
  intro hn
  have hblank := not_isBlank_of_mem_tokens h hn
  rw [isBlank_newline] at hblank
  cases hblank

theorem digitChar_ne_newline (n : Nat) : n.digitChar ≠ '\n' :=
  Nat.digitChar_ne '\n' (by decide)

/-- A numeral has digits only. -/
theorem not_mem_toDigits {base : Nat} (hbase : 1 < base) {c : Char} (hc : ∀ d, Nat.digitChar d ≠ c)
    (n : Nat) : c ∉ Nat.toDigits base n := by
  induction n using Nat.strongRecOn with
  | ind n ih =>
    rw [Nat.toDigits_eq_if hbase]
    split
    · rw [List.mem_singleton]
      exact (hc n).symm
    · next hn =>
      have hlt : n / base < n := Nat.div_lt_self (by omega) hbase
      rw [List.mem_append, List.mem_singleton, not_or]
      exact ⟨ih (n / base) hlt, (hc _).symm⟩

theorem newline_not_mem_ofNat (n : Nat) : '\n' ∉ ofNat n :=
  not_mem_toDigits (by decide) digitChar_ne_newline n

theorem newline_not_mem_of_isIdentifier {name : Text} (h : isIdentifier name) : '\n' ∉ name := by
  cases name with
  | nil => exact List.not_mem_nil
  | cons c rest =>
    simp only [isIdentifier, Bool.and_eq_true, List.all_eq_true] at h
    intro hn
    rcases List.mem_cons.mp hn with rfl | hn
    · exact absurd h.1 (by decide)
    · have hword := h.2 '\n' hn
      rw [isWord_newline] at hword
      cases hword

end ShaderPlayer.Text
