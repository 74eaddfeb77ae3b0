/-
Numerals of digits alone.

A run of digits of any script is read by the places of its digits, unless it has more
of them than are read:

* `plainNumeral_of_digit` — the digit of a script becomes the one of ASCII;
* `readInteger_of_digits` — what reading such a run gives;
* `decimalValue_ofNat`, `positional_ofHex` — a numeral that was written has the value it was
  written for, so different numbers have different numerals;
* `map_digitChar_eq_padLeft` — digits are the numeral of their value, padded with zeros, so
  `eq_padLeft_decimalValue` and `map_toLower_eq_ofHex` tell how digits that were read were written.
-/
import Mathlib.Data.List.Induction
import Mathlib.Data.List.TakeWhile
import ShaderPlayer.Number.Reader
import ShaderPlayer.Proofs.Text.Characters

namespace ShaderPlayer.Text

/-- The values of the digits in a text. -/
def digitValues (t : Text) : List Nat := t.filterMap digit?

/-- No digit beyond ASCII is blank. -/
theorem not_isBlank_of_zeroDigit {c : Char} {first : Nat} (hfirst : first ∈ zeroDigits)
    (hle : first ≤ c.toNat) (hlt : c.toNat < first + 10) : isBlank c = false := by
  have hall : ∀ z ∈ zeroDigits, ∀ i < 10, isBlank (Char.ofNat (z + i)) = false := by
    decide +kernel
  exact forall_of_run (p := fun c => isBlank c = false) (hall first hfirst) hle hlt

theorem digitChar_toNat_sub {c : Char} (h : '0' ≤ c ∧ c ≤ '9') :
    c.toNat - '0'.toNat < 10 ∧ Nat.digitChar (c.toNat - '0'.toNat) = c := by
  have hlow : 48 ≤ c.toNat := h.1
  have hhigh : c.toNat ≤ 57 := h.2
  rw [show '0'.toNat = 48 from rfl]
  have hlt : c.toNat - 48 < 10 := by omega
  refine ⟨hlt, Char.toNat_inj.mp ?_⟩
  rw [Nat.toNat_digitChar_of_lt_ten hlt]
  omega

/-- A digit, its value and the ASCII digit it is read as. -/
theorem plainNumeral_of_digit {c : Char} {d : Nat} (h : digit? c = some d) :
    d < 10 ∧ plainNumeral c = Nat.digitChar d ∧ isBlank c = false := by
  unfold digit? at h
  split at h
  · next hascii =>
    split at h
    · next hdigit =>
      cases h
      obtain ⟨hlt, hchar⟩ := digitChar_toNat_sub hdigit
      have hlow : 48 ≤ c.toNat := hdigit.1
      have hhigh : c.toNat ≤ 57 := hdigit.2
      have hplain : c.toNat < 127 := by omega
      refine ⟨hlt, ?_, ?_⟩
      · rw [plainNumeral, if_pos hplain, hchar]
      · simp only [isBlank, Bool.or_eq_false_iff, Bool.and_eq_false_iff, decide_eq_false_iff_not,
          beq_eq_false_iff_ne]
        omega
    · cases h
  · next hascii =>
    obtain ⟨first, hfind, rfl⟩ := Option.map_eq_some_iff.mp h
    have hrange := List.find?_some hfind
    simp only [Bool.and_eq_true, decide_eq_true_eq] at hrange
    have hblank := not_isBlank_of_zeroDigit (List.mem_of_find?_eq_some hfind) hrange.1 hrange.2
    have hplain : ¬ c.toNat < 127 := by omega
    have hdigit : digit? c = some (c.toNat - first) := by
      rw [digit?, if_neg hascii, hfind]
      rfl
    refine ⟨by omega, ?_, hblank⟩
    rw [plainNumeral, if_neg hplain, hblank, if_neg Bool.false_ne_true, hdigit]

theorem underscoresInside_of_digits {t : Text} (h : ∀ c ∈ t, c.isDigit) (after : Bool) :
    underscoresInside after t = true := by
  fun_induction underscoresInside after t with
  | case1 => rfl
  | case2 after c rest ih => exact absurd (h '_' List.mem_cons_self) (by decide)
  | case3 => exact absurd (h '_' List.mem_cons_self) (by decide)
  | case4 after c rest _ _ ih => exact ih fun d hd => h d (List.mem_cons_of_mem c hd)

theorem takeSign_of_digits {t : Text} (h : ∀ c ∈ t, c.isDigit) : takeSign t = (false, t) := by
  unfold takeSign
  split
  · exact absurd (h '-' List.mem_cons_self) (by decide)
  · exact absurd (h '+' List.mem_cons_self) (by decide)
  · rfl

/-- ASCII digits have no blanks around them. -/
theorem dropWhile_blank_of_digits {t : Text} (h : ∀ c ∈ t, c.isDigit) :
    t.dropWhile isNumeralBlank = t := by
  cases t with
  | nil => rfl
  | cons c rest =>
    have hc : isNumeralBlank c = false := by
      have hdigit := h c List.mem_cons_self
      simp only [Char.isDigit, Bool.and_eq_true, decide_eq_true_eq] at hdigit
      have hlow : 48 ≤ c.toNat := hdigit.1
      have hspace : c ≠ ' ' := by
        rintro rfl
        exact absurd hlow (by decide)
      simp only [isNumeralBlank, Bool.or_eq_false_iff, Bool.and_eq_false_iff,
        decide_eq_false_iff_not]
      exact ⟨hspace, by omega⟩
    exact List.dropWhile_cons_of_neg (by rw [hc]; exact Bool.false_ne_true)

theorem numeralBody_of_digits {t : Text} (h : ∀ c ∈ t.map plainNumeral, c.isDigit) :
    numeralBody t = t.map plainNumeral := by
  have hreverse : ∀ c ∈ (t.map plainNumeral).reverse, c.isDigit := fun c hc =>
    h c (List.mem_reverse.mp hc)
  rw [numeralBody, dropWhile_blank_of_digits h, dropWhile_blank_of_digits hreverse,
    List.reverse_reverse]

/-- The digits of any scripts as those of ASCII. -/
theorem map_plainNumeral_of_digits {t : Text} (h : ∀ c ∈ t, (digit? c).isSome) :
    t.map plainNumeral = (digitValues t).map Nat.digitChar ∧ ∀ d ∈ digitValues t, d < 10 := by
  induction t with
  | nil => exact ⟨rfl, fun d hd => absurd hd List.not_mem_nil⟩
  | cons c rest ih =>
    rw [List.forall_mem_cons] at h
    obtain ⟨d, hd⟩ := Option.isSome_iff_exists.mp h.1
    obtain ⟨hlt, hchar, _⟩ := plainNumeral_of_digit hd
    obtain ⟨hmap, hall⟩ := ih h.2
    have hvalues : digitValues (c :: rest) = d :: digitValues rest := List.filterMap_cons_some hd
    rw [hvalues, List.map_cons, List.map_cons, hchar, hmap, List.forall_mem_cons]
    exact ⟨rfl, hlt, hall⟩

/-- Reading digits of any scripts, one after the other and nothing else. -/
theorem readInteger_of_digits {t : Text} (hne : t ≠ []) (h : ∀ c ∈ t, (digit? c).isSome) :
    readInteger t
      = if t.length ≤ maxDigits then .value (positional 10 (digitValues t))
        else .tooLong t.length := by
  obtain ⟨hplain, hvalues⟩ := map_plainNumeral_of_digits h
  have hdigits : ∀ c ∈ t.map plainNumeral, c.isDigit := by
    intro c hc
    rw [hplain] at hc
    obtain ⟨d, hd, rfl⟩ := List.mem_map.mp hc
    rw [Nat.isDigit_digitChar]
    exact decide_eq_true (hvalues d hd)
  have hrun : (t.map plainNumeral).takeWhile (fun c => c.isDigit || c = '_')
      = t.map plainNumeral := by
    rw [List.takeWhile_eq_self_iff]
    intro c hc
    rw [hdigits c hc, Bool.true_or]
  have hfilter : (t.map plainNumeral).filter (·.isDigit) = t.map plainNumeral :=
    List.filter_eq_self.mpr hdigits
  have hvalue : decimalValue (t.map plainNumeral) = positional 10 (digitValues t) := by
    have hback : (digitValues t).map ((fun c => c.toNat - '0'.toNat) ∘ Nat.digitChar)
        = (digitValues t).map id :=
      List.map_congr_left fun d hd => Nat.toNat_digitChar_sub_48_of_lt_ten (hvalues d hd)
    rw [decimalValue, hplain, List.map_map, hback, List.map_id]
  have hempty : (t.map plainNumeral).isEmpty = false := by
    rw [List.isEmpty_eq_false_iff]
    exact fun hnil => hne (List.map_eq_nil_iff.mp hnil)
  unfold readInteger
  simp only [numeralBody_of_digits hdigits, takeSign_of_digits hdigits, hrun, hfilter, hempty,
    underscoresInside_of_digits hdigits, List.length_map, hvalue]
  by_cases hlength : t.length ≤ maxDigits
  · have hnot : ¬ t.length > maxDigits := by omega
    simp [hlength, hnot]
  · have hlong : t.length > maxDigits := by omega
    simp [hlength, hlong]

/-! ### Numerals that were written -/

/-- The numeral of a number has its value. -/
theorem decimalValue_ofNat (n : Nat) : decimalValue (ofNat n) = n := by
  induction n using Nat.strongRecOn with
  | ind n ih =>
    have hdigit : (Nat.digitChar (n % 10)).toNat - '0'.toNat = n % 10 :=
      Nat.toNat_digitChar_sub_48_of_lt_ten (Nat.mod_lt n (by decide))
    rw [ofNat, Nat.toDigits_eq_if (by decide)]
    split
    · next hlt =>
      rw [Nat.mod_eq_of_lt hlt] at hdigit
      rw [decimalValue, List.map_singleton, hdigit, positional, List.foldl_cons, List.foldl_nil,
        Nat.zero_mul, Nat.zero_add]
    · next hge =>
      have hleading : decimalValue (Nat.toDigits 10 (n / 10)) = n / 10 := ih (n / 10) (by omega)
      rw [decimalValue] at hleading
      rw [decimalValue, List.map_append, List.map_singleton, hdigit, positional_append, hleading,
        Nat.mul_comm]
      exact Nat.div_add_mod n 10

theorem ofNat_injective {m n : Nat} (h : ofNat m = ofNat n) : m = n := by
  rw [← decimalValue_ofNat m, h, decimalValue_ofNat]

/-- A numeral ends at the first character that is no digit. -/
theorem takeWhile_isDigit_ofNat (n : Nat) {c : Char} (hc : c.isDigit = false) (rest : Text) :
    (ofNat n ++ c :: rest).takeWhile (·.isDigit) = ofNat n := by
  have hdigits : ∀ d ∈ ofNat n, d.isDigit := fun _ hd =>
    Nat.isDigit_of_mem_toDigits (by decide) (by decide) hd
  rw [List.takeWhile_append_of_pos hdigits,
    List.takeWhile_cons_of_neg (by rw [hc]; exact Bool.false_ne_true), List.append_nil]

/-! ### Leading zeros -/

theorem positional_zeros_append (base n : Nat) (digits : List Nat) :
    positional base (List.replicate n 0 ++ digits) = positional base digits := by
  induction n with
  | zero => rfl
  | succ n ih =>
    rw [List.replicate_succ, List.cons_append, ← ih, positional, List.foldl_cons, Nat.zero_mul,
      Nat.zero_add]
    rfl

theorem digitValues_zeros_append (n : Nat) (t : Text) :
    digitValues (List.replicate n '0' ++ t) = List.replicate n 0 ++ digitValues t := by
  have hzeros : digitValues (List.replicate n '0') = List.replicate n 0 := by
    rw [digitValues, List.filterMap_replicate_of_some (show digit? '0' = some 0 by decide)]
  rw [digitValues, List.filterMap_append, ← digitValues, hzeros]
  rfl

/-! ### Hexadecimal numerals -/

/-- The hexadecimal digits: where a run of them begins, and how many it has. -/
def hexRuns : List (Nat × Nat) := [(0x30, 10), (0x61, 6), (0x41, 6)]

theorem exists_hexRun {c : Char} (h : (hexDigit? c).isSome) :
    ∃ run ∈ hexRuns, run.1 ≤ c.toNat ∧ c.toNat < run.1 + run.2 := by
  unfold hexDigit? at h
  split at h
  · next hdigit => exact ⟨(0x30, 10), by decide, hdigit.1, Nat.lt_succ_of_le hdigit.2⟩
  split at h
  · next hlower => exact ⟨(0x61, 6), by decide, hlower.1, Nat.lt_succ_of_le hlower.2⟩
  split at h
  · next hupper => exact ⟨(0x41, 6), by decide, hupper.1, Nat.lt_succ_of_le hupper.2⟩
  · cases h

theorem mapM_hexDigit {digits : Text} (h : ∀ c ∈ digits, (hexDigit? c).isSome) :
    digits.mapM hexDigit? = some (digits.filterMap hexDigit?) := by
  induction digits with
  | nil => rfl
  | cons c rest ih =>
    rw [List.forall_mem_cons] at h
    obtain ⟨d, hd⟩ := Option.isSome_iff_exists.mp h.1
    rw [List.mapM_cons, ih h.2, hd, List.filterMap_cons_some hd]
    rfl

theorem isSome_of_mapM_hexDigit {digits : Text} {values : List Nat}
    (h : digits.mapM hexDigit? = some values) : ∀ c ∈ digits, (hexDigit? c).isSome := by
  induction digits generalizing values with
  | nil => exact fun c hc => absurd hc List.not_mem_nil
  | cons c rest ih =>
    rw [List.mapM_cons, Option.bind_eq_bind, Option.bind_eq_some_iff] at h
    obtain ⟨d, hd, h⟩ := h
    rw [Option.bind_eq_bind, Option.bind_eq_some_iff] at h
    obtain ⟨ds, hrest, _⟩ := h
    exact List.forall_mem_cons.mpr ⟨by rw [hd]; rfl, ih hrest⟩

theorem hexDigit_digitChar {d : Nat} (h : d < 16) : hexDigit? d.digitChar = some d := by
  have hall : ∀ d < 16, hexDigit? (Nat.digitChar d) = some d := by decide
  exact hall d h

/-- The hexadecimal numeral of a number has its value, however wide it is made. -/
theorem positional_ofHex (width n : Nat) :
    positional 16 ((ofHex width n).filterMap hexDigit?) = n := by
  have hdigits : ∀ n, positional 16 ((Nat.toDigits 16 n).filterMap hexDigit?) = n := by
    intro n
    induction n using Nat.strongRecOn with
    | ind n ih =>
      rw [Nat.toDigits_eq_if (by decide)]
      split
      · next hlt =>
        rw [List.filterMap_cons_some (hexDigit_digitChar hlt), List.filterMap_nil, positional,
          List.foldl_cons, List.foldl_nil, Nat.zero_mul, Nat.zero_add]
      · next hge =>
        have hlast := hexDigit_digitChar (Nat.mod_lt n (show 0 < 16 by decide))
        rw [List.filterMap_append, List.filterMap_cons_some hlast, List.filterMap_nil,
          positional_append, ih (n / 16) (by omega), Nat.mul_comm]
        exact Nat.div_add_mod n 16
  rw [ofHex, padLeft, List.filterMap_append,
    List.filterMap_replicate_of_some (show hexDigit? '0' = some 0 by decide),
    positional_zeros_append, hdigits]

theorem ofHex_injective (width : Nat) {m n : Nat} (h : ofHex width m = ofHex width n) : m = n := by
  rw [← positional_ofHex width m, h, positional_ofHex]

/-- The hexadecimal numeral of a number has hexadecimal digits only. -/
theorem isSome_hexDigit_of_mem_toDigits (n : Nat) :
    ∀ c ∈ Nat.toDigits 16 n, (hexDigit? c).isSome := by
  induction n using Nat.strongRecOn with
  | ind n ih =>
    rw [Nat.toDigits_eq_if (by decide)]
    split
    · next hlt =>
      rw [List.forall_mem_singleton, hexDigit_digitChar hlt]
      rfl
    · rw [List.forall_mem_append, List.forall_mem_singleton,
        hexDigit_digitChar (Nat.mod_lt n (by decide))]
      exact ⟨ih (n / 16) (by omega), rfl⟩

/-! ### Padded numerals -/

theorem padLeft_concat (fill : Char) (width : Nat) (t : Text) (c : Char) :
    padLeft fill (width + 1) (t ++ [c]) = padLeft fill width t ++ [c] := by
  rw [padLeft, padLeft, List.length_append, List.length_singleton, Nat.add_sub_add_right,
    List.append_assoc]

theorem padLeft_ne_nil {fill : Char} {width : Nat} {t : Text} (hne : t ≠ []) :
    padLeft fill width t ≠ [] :=
  List.append_ne_nil_of_right_ne_nil _ hne

theorem isDigit_of_mem_padLeft {width n : Nat} {c : Char} (h : c ∈ padLeft '0' width (ofNat n)) :
    c.isDigit := by
  rcases List.mem_append.mp h with hzero | hdigit
  · rw [List.eq_of_mem_replicate hzero]
    decide
  · exact Nat.isDigit_of_mem_toDigits (by decide) (by decide) hdigit

/-- Digits are the numeral of the number that their places give, padded to as many digits.  The
induction takes off the last digit, as a numeral is made from its last digit on. -/
theorem map_digitChar_eq_padLeft {base : Nat} (hbase : 1 < base) {values : List Nat}
    (hne : values ≠ []) (h : ∀ d ∈ values, d < base) :
    values.map Nat.digitChar
      = padLeft '0' values.length (Nat.toDigits base (positional base values)) := by
  induction values using List.reverseRecOn with
  | nil => exact absurd rfl hne
  | append_singleton values d ih =>
    rw [List.forall_mem_append, List.forall_mem_singleton] at h
    obtain ⟨hvalues, hd⟩ := h
    have hlast : Nat.toDigits base d = [] ++ [d.digitChar] := Nat.toDigits_of_lt_base hd
    rw [List.map_append, List.map_singleton, positional_append, List.length_append,
      List.length_singleton]
    rcases eq_or_ne values [] with rfl | hleading
    · rw [positional, List.foldl_nil, Nat.zero_mul, Nat.zero_add, hlast, padLeft_concat]
      rfl
    rw [ih hleading hvalues]
    rcases Nat.eq_zero_or_pos (positional base values) with hzero | hpos
    · -- zeros so far; the numeral has one of them, which is padding now
      have hzeros : padLeft '0' values.length ['0'] = padLeft '0' values.length [] := by
        obtain ⟨n, hn⟩ := Nat.exists_eq_succ_of_ne_zero (mt List.length_eq_zero_iff.mp hleading)
        rw [hn]
        exact List.replicate_succ'.symm.trans (List.append_nil _).symm
      rw [hzero, Nat.zero_mul, Nat.zero_add, Nat.toDigits_zero, hlast, padLeft_concat, hzeros]
    · rw [Nat.mul_comm, ← Nat.toDigits_append_toDigits hbase hpos hd, hlast, List.nil_append,
        padLeft_concat]

theorem decimalValue_padLeft (width : Nat) (t : Text) :
    decimalValue (padLeft '0' width t) = decimalValue t := by
  rw [decimalValue, padLeft, List.map_append, List.map_replicate, Nat.sub_self,
    positional_zeros_append]
  rfl

/-- Decimal digits are the numeral of their value, padded to as many digits. -/
theorem eq_padLeft_decimalValue {t : Text} (hne : t ≠ []) (h : ∀ c ∈ t, c.isDigit) :
    t = padLeft '0' t.length (ofNat (decimalValue t)) := by
  have hdigit : ∀ c ∈ t, c.toNat - '0'.toNat < 10 ∧ Nat.digitChar (c.toNat - '0'.toNat) = c :=
    fun c hc => digitChar_toNat_sub (Char.isDigit_iff_toNat.mp (h c hc))
  have hvalues : ∀ d ∈ t.map fun c => c.toNat - '0'.toNat, d < 10 := by
    intro d hd
    obtain ⟨c, hc, rfl⟩ := List.mem_map.mp hd
    exact (hdigit c hc).1
  have hpadded := map_digitChar_eq_padLeft (by decide) (mt List.map_eq_nil_iff.mp hne) hvalues
  rw [List.map_map, List.length_map] at hpadded
  calc t = t.map id := (List.map_id t).symm
    _ = t.map (Nat.digitChar ∘ fun c => c.toNat - '0'.toNat) :=
        List.map_congr_left fun c hc => (hdigit c hc).2.symm
    _ = padLeft '0' t.length (ofNat (decimalValue t)) := hpadded

/-! ### Letters of either case -/

theorem hexDigit_toLower (c : Char) : hexDigit? c.toLower = hexDigit? c := by
  by_cases hcapital : 'A'.val ≤ c.val ∧ c.val ≤ 'Z'.val
  · have hall : ∀ i < 26,
        hexDigit? (Char.ofNat (0x41 + i)).toLower = hexDigit? (Char.ofNat (0x41 + i)) := by decide
    exact forall_of_run (p := fun c => hexDigit? c.toLower = hexDigit? c) hall hcapital.1
      (Nat.lt_succ_of_le hcapital.2)
  · have hsame : c.toLower = c := dif_neg hcapital
    rw [hsame]

/-- A hexadecimal digit in lower case is the one that its value is written with. -/
theorem toLower_of_hexDigit {c : Char} {d : Nat} (h : hexDigit? c = some d) :
    d < 16 ∧ c.toLower = d.digitChar := by
  have hall : ∀ run ∈ hexRuns, ∀ i < run.2, ∃ d < 16, hexDigit? (Char.ofNat (run.1 + i)) = some d
      ∧ (Char.ofNat (run.1 + i)).toLower = d.digitChar := by decide
  obtain ⟨run, hmem, hlow, hhigh⟩ := exists_hexRun (Option.isSome_of_eq_some h)
  obtain ⟨e, hlt, hvalue, hlower⟩ := forall_of_run
    (p := fun c => ∃ d < 16, hexDigit? c = some d ∧ c.toLower = d.digitChar)
    (hall run hmem) hlow hhigh
  rw [h] at hvalue
  cases hvalue
  exact ⟨hlt, hlower⟩

theorem map_digitChar_filterMap_hexDigit {t : Text} (h : ∀ c ∈ t, (hexDigit? c).isSome) :
    (t.filterMap hexDigit?).map Nat.digitChar = t.map Char.toLower
      ∧ ∀ d ∈ t.filterMap hexDigit?, d < 16 := by
  induction t with
  | nil => exact ⟨rfl, fun d hd => absurd hd List.not_mem_nil⟩
  | cons c rest ih =>
    rw [List.forall_mem_cons] at h
    obtain ⟨d, hd⟩ := Option.isSome_iff_exists.mp h.1
    obtain ⟨hlt, hlower⟩ := toLower_of_hexDigit hd
    obtain ⟨hmap, hall⟩ := ih h.2
    rw [List.filterMap_cons_some hd, List.map_cons, List.map_cons, hmap, hlower,
      List.forall_mem_cons]
    exact ⟨rfl, hlt, hall⟩

/-- Hexadecimal digits in lower case are the numeral of their value, padded to as many digits. -/
theorem map_toLower_eq_ofHex {t : Text} (hne : t ≠ []) (h : ∀ c ∈ t, (hexDigit? c).isSome) :
    t.map Char.toLower = ofHex t.length (positional 16 (t.filterMap hexDigit?)) := by
  obtain ⟨hmap, hvalues⟩ := map_digitChar_filterMap_hexDigit h
  have hlength : (t.filterMap hexDigit?).length = t.length := by
    rw [← List.length_map Nat.digitChar, hmap, List.length_map]
  have hnonempty : t.filterMap hexDigit? ≠ [] := by
    rw [← List.length_pos_iff, hlength]
    exact List.length_pos_iff.mpr hne
  rw [← hmap, map_digitChar_eq_padLeft (by decide) hnonempty hvalues, hlength]
  rfl

/-- The case of letters does not count. -/
theorem of_map_toLower_eq_ofHex {t : Text} {width n : Nat}
    (h : t.map Char.toLower = ofHex width n) :
    (∀ c ∈ t, (hexDigit? c).isSome) ∧ positional 16 (t.filterMap hexDigit?) = n := by
  constructor
  · intro c hc
    have hmem : c.toLower ∈ ofHex width n := h ▸ List.mem_map_of_mem hc
    rw [← hexDigit_toLower]
    rcases List.mem_append.mp hmem with hzero | hdigit
    · rw [List.eq_of_mem_replicate hzero]
      rfl
    · exact isSome_hexDigit_of_mem_toDigits n _ hdigit
  · have hcase : hexDigit? ∘ Char.toLower = hexDigit? := funext hexDigit_toLower
    have hlower : (t.map Char.toLower).filterMap hexDigit? = t.filterMap hexDigit? := by
      rw [List.filterMap_map, hcase]
    rw [← hlower, h, positional_ofHex]

end ShaderPlayer.Text
