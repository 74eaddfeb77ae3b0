/-
Texts that were written to a file.

A text is written as it is and read with every line ending as a line feed:

* `text_of_encode` — reading a written text gives the text with its line endings unified;
* `unifyNewlines_eq_self_iff` — that is the same text exactly if it holds no carriage return;
* `lines_unifyNewlines_iff` — it has the same lines exactly if no line holds one.
-/
import ShaderPlayer.Outside.FileTree
import ShaderPlayer.Proofs.Text.Lines

namespace ShaderPlayer.Text

/-! ### Bytes and back -/

theorem decodeFrom_cons {b : UInt8} {rest after : Bytes} {position following lo hi code : Nat}
    (hform : sequenceForm b = some (following, lo, hi))
    (hcode : continueSequence lo hi (leadBits following b.toNat) 1 following rest
      = .ok (code, after)) {t : Text}
    (ht : decodeFrom (position + following + 1) after = .ok t) :
    decodeFrom position (b :: rest) = .ok (Char.ofNat code :: t) := by
  rw [decodeFrom, hform]
  dsimp only
  split
  · next h =>
    rw [hcode] at h
    cases h
  · next h =>
    rw [hcode] at h
    cases h
    rw [ht]

/-- A byte that continues a sequence adds its six bits. -/
theorem continueSequence_succ {lo hi code taken n low : Nat} {rest : Bytes} (hlow : low < 64)
    (hlo : lo ≤ low + 128) (hhi : low + 128 ≤ hi) :
    continueSequence lo hi code taken (n + 1) (UInt8.ofNat (low + 128) :: rest)
      = continueSequence 0x80 0xbf (code * 64 + low) (taken + 1) n rest := by
  have hbyte : (UInt8.ofNat (low + 128)).toNat = low + 128 := by
    rw [UInt8.toNat_ofNat']
    omega
  rw [continueSequence, hbyte, if_pos ⟨hlo, hhi⟩]
  congr 1
  omega

/-- A first byte tells how many bytes follow it, and which ones the second may be. -/
theorem sequenceForm_ofNat {v : Nat} (hv : v < 256) :
    sequenceForm (UInt8.ofNat v)
      = if v < 0x80 then some (0, 0x80, 0xbf)
        else if v < 0xc2 then none
        else if v < 0xe0 then some (1, 0x80, 0xbf)
        else if v = 0xe0 then some (2, 0xa0, 0xbf)
        else if v = 0xed then some (2, 0x80, 0x9f)
        else if v < 0xf0 then some (2, 0x80, 0xbf)
        else if v = 0xf0 then some (3, 0x90, 0xbf)
        else if v < 0xf4 then some (3, 0x80, 0xbf)
        else if v = 0xf4 then some (3, 0x80, 0x8f)
        else none := by
  rw [sequenceForm, UInt8.toNat_ofNat', Nat.mod_eq_of_lt hv]

/-- The bytes of a code point are read as it, before what follows them. -/
theorem decodeFrom_codePoint {v : Nat} (hv : v < 0xd800 ∨ 0xdfff < v ∧ v < 0x110000)
    {rest : Bytes} {t : Text} (ht : ∀ position, decodeFrom position rest = .ok t) (position : Nat) :
    decodeFrom position
        ((if v ≤ 127 then [UInt8.ofNat v]
          else if v ≤ 2047 then [UInt8.ofNat (v / 64 % 32 + 192), UInt8.ofNat (v % 64 + 128)]
          else if v ≤ 65535 then
            [UInt8.ofNat (v / 4096 % 16 + 224), UInt8.ofNat (v / 64 % 64 + 128),
              UInt8.ofNat (v % 64 + 128)]
          else
            [UInt8.ofNat (v / 262144 % 8 + 240), UInt8.ofNat (v / 4096 % 64 + 128),
              UInt8.ofNat (v / 64 % 64 + 128), UInt8.ofNat (v % 64 + 128)]) ++ rest)
      = .ok (Char.ofNat v :: t) := by
  have hbyte : ∀ n < 256, (UInt8.ofNat n).toNat = n := by
    intro n hn
    rw [UInt8.toNat_ofNat', Nat.mod_eq_of_lt hn]
  by_cases h1 : v ≤ 127
  · have hform : sequenceForm (UInt8.ofNat v) = some (0, 0x80, 0xbf) := by
      rw [sequenceForm_ofNat (by omega), if_pos (by omega)]
    rw [if_pos h1]
    refine decodeFrom_cons hform ?_ (ht _)
    rw [hbyte v (by omega)]
    rfl
  by_cases h2 : v ≤ 2047
  · have hlead : v / 64 % 32 + 192 < 256 := by omega
    have hform : sequenceForm (UInt8.ofNat (v / 64 % 32 + 192)) = some (1, 0x80, 0xbf) := by
      rw [sequenceForm_ofNat hlead, if_neg (by omega), if_neg (by omega), if_pos (by omega)]
    have hcode : (v / 64 % 32 + 192) % 0x20 * 64 + v % 64 = v := by omega
    rw [if_neg h1, if_pos h2]
    simp only [List.cons_append, List.nil_append]
    refine decodeFrom_cons hform ?_ (ht _)
    rw [continueSequence_succ (by omega) (by omega) (by omega), hbyte _ hlead,
      leadBits, hcode]
    rfl
  by_cases h3 : v ≤ 65535
  · have hlead : v / 4096 % 16 + 224 < 256 := by omega
    -- the second byte keeps overlong forms and surrogates out
    obtain ⟨lo, hi, hform, hlo, hhi⟩ : ∃ lo hi,
        sequenceForm (UInt8.ofNat (v / 4096 % 16 + 224)) = some (2, lo, hi)
          ∧ lo ≤ v / 64 % 64 + 128 ∧ v / 64 % 64 + 128 ≤ hi := by
      rw [sequenceForm_ofNat hlead, if_neg (by omega), if_neg (by omega), if_neg (by omega)]
      by_cases he0 : v / 4096 % 16 + 224 = 0xe0
      · exact ⟨_, _, if_pos he0, by omega, by omega⟩
      rw [if_neg he0]
      by_cases hed : v / 4096 % 16 + 224 = 0xed
      · exact ⟨_, _, if_pos hed, by omega, by omega⟩
      rw [if_neg hed]
      exact ⟨_, _, if_pos (by omega), by omega, by omega⟩
    have hcode : ((v / 4096 % 16 + 224) % 0x10 * 64 + v / 64 % 64) * 64 + v % 64 = v := by omega
    rw [if_neg h1, if_neg h2, if_pos h3]
    simp only [List.cons_append, List.nil_append]
    refine decodeFrom_cons hform ?_ (ht _)
    rw [continueSequence_succ (by omega) hlo hhi,
      continueSequence_succ (by omega) (by omega) (by omega), hbyte _ hlead, leadBits, hcode]
    rfl
  · have hlead : v / 262144 % 8 + 240 < 256 := by omega
    -- here it keeps overlong forms and values past the last code point out
    obtain ⟨lo, hi, hform, hlo, hhi⟩ : ∃ lo hi,
        sequenceForm (UInt8.ofNat (v / 262144 % 8 + 240)) = some (3, lo, hi)
          ∧ lo ≤ v / 4096 % 64 + 128 ∧ v / 4096 % 64 + 128 ≤ hi := by
      rw [sequenceForm_ofNat hlead, if_neg (by omega), if_neg (by omega), if_neg (by omega),
        if_neg (by omega), if_neg (by omega), if_neg (by omega)]
      by_cases hf0 : v / 262144 % 8 + 240 = 0xf0
      · exact ⟨_, _, if_pos hf0, by omega, by omega⟩
      rw [if_neg hf0]
      by_cases hf4 : v / 262144 % 8 + 240 < 0xf4
      · exact ⟨_, _, if_pos hf4, by omega, by omega⟩
      rw [if_neg hf4]
      exact ⟨_, _, if_pos (by omega), by omega, by omega⟩
    have hcode : (((v / 262144 % 8 + 240) % 0x08 * 64 + v / 4096 % 64) * 64 + v / 64 % 64) * 64
        + v % 64 = v := by omega
    rw [if_neg h1, if_neg h2, if_neg h3]
    simp only [List.cons_append, List.nil_append]
    refine decodeFrom_cons hform ?_ (ht _)
    rw [continueSequence_succ (by omega) hlo hhi,
      continueSequence_succ (by omega) (by omega) (by omega),
      continueSequence_succ (by omega) (by omega) (by omega), hbyte _ hlead, leadBits, hcode]
    · rfl
    all_goals omega

/-- The bytes of a text are read as the text. -/
theorem decode_encode (t : Text) : decode (encode t) = .ok t := by
  have h : ∀ position, decodeFrom position (encode t) = .ok t := by
    induction t with
    | nil =>
      intro position
      rw [encode, List.flatMap_nil, decodeFrom]
    | cons c t ih =>
      intro position
      have hvalid : c.toNat < 0xd800 ∨ 0xdfff < c.toNat ∧ c.toNat < 0x110000 := c.valid
      have hc := decodeFrom_codePoint hvalid ih position
      rwa [Char.ofNat_toNat] at hc
  exact h 0

/-! ### Line endings -/

theorem unifyNewlines_append {t : Text} (h : '\r' ∉ t) (rest : Text) :
    unifyNewlines (t ++ rest) = t ++ unifyNewlines rest := by
  induction t with
  | nil => rfl
  | cons c t ih =>
    rw [List.mem_cons, not_or] at h
    have hc : unifyNewlines (c :: (t ++ rest)) = c :: unifyNewlines (t ++ rest) := by
      rw [unifyNewlines.eq_def]
      split <;> simp_all
    rw [List.cons_append, hc, ih h.2, List.cons_append]

theorem unifyNewlines_eq_self_iff {t : Text} : unifyNewlines t = t ↔ '\r' ∉ t := by
  constructor
  · intro h
    rw [← h]
    exact return_not_mem t
  · intro h
    have happend := unifyNewlines_append h []
    rwa [List.append_nil, unifyNewlines, List.append_nil] at happend

/-- A line is itself without the carriage return at its end, and then that if there is one. -/
theorem chompReturn_append (line : Text) :
    ∃ ending, line = chompReturn line ++ ending ∧ (ending = [] ∨ ending = ['\r']) := by
  unfold chompReturn
  by_cases h : line.getLast? = some '\r'
  · obtain ⟨init, rfl⟩ := List.getLast?_eq_some_iff.mp h
    rw [if_pos h, List.dropLast_concat]
    exact ⟨['\r'], rfl, .inr rfl⟩
  · rw [if_neg h]
    exact ⟨[], (List.append_nil line).symm, .inl rfl⟩

theorem chompReturn_of_not_mem {line : Text} (h : '\r' ∉ line) : chompReturn line = line :=
  chompReturn_of_getLast fun hlast => h (List.mem_of_getLast? hlast)

/-- A line is unified by itself, and so is what follows it behind a line feed. -/
theorem unifyNewlines_line {line : Text} (h : '\r' ∉ chompReturn line) (rest : Text) :
    unifyNewlines (line ++ '\n' :: rest) = chompReturn line ++ '\n' :: unifyNewlines rest := by
  obtain ⟨ending, hline, hending⟩ := chompReturn_append line
  generalize chompReturn line = kept at h hline ⊢
  subst hline
  rw [List.append_assoc, unifyNewlines_append h]
  rcases hending with rfl | rfl <;> rfl

/-- A line that is not ended stays as it is, or has a carriage return for its end. -/
theorem unifyNewlines_lastLine {line : Text} (h : '\r' ∉ chompReturn line) :
    unifyNewlines line = line ∨ unifyNewlines line = chompReturn line ++ ['\n'] := by
  obtain ⟨ending, hline, hending⟩ := chompReturn_append line
  generalize chompReturn line = kept at h hline ⊢
  subst hline
  rw [unifyNewlines_append h]
  rcases hending with rfl | rfl
  · exact .inl rfl
  · exact .inr rfl

theorem lines_line {line : Text} (h : '\n' ∉ line) :
    lines (line ++ ['\n']) = [chompReturn line] := by
  rw [lines, splitOn_append_cons h]
  rfl

theorem lines_lastLine {line : Text} (h : '\n' ∉ line) (hne : line ≠ []) :
    lines line = [chompReturn line] := by
  rw [lines, splitOn_of_not_mem h, List.getLast?_singleton, if_neg fun heq => hne (Option.some.inj heq)]
  rfl

/-- Lines without carriage returns do not show how they were ended.  The induction is on the
text, line by line. -/
theorem lines_unifyNewlines {t : Text} (h : ∀ line ∈ lines t, '\r' ∉ line) :
    lines (unifyNewlines t) = lines t := by
  induction hlength : t.length using Nat.strongRecOn generalizing t with
  | ind n ih =>
    by_cases hfeed : '\n' ∈ t
    · obtain ⟨line, rest, rfl, hline⟩ := List.eq_append_cons_of_mem hfeed
      rw [lines_append_newline, lines_line hline] at h ⊢
      have hkept : '\r' ∉ chompReturn line := h _ List.mem_cons_self
      have hkeptFeed : '\n' ∉ chompReturn line := fun hmem => hline (chompReturn_subset line _ hmem)
      have hrest : lines (unifyNewlines rest) = lines rest := by
        refine ih rest.length ?_ (fun l hl => h l (List.mem_cons_of_mem _ hl)) rfl
        rw [← hlength, List.length_append, List.length_cons]
        omega
      rw [unifyNewlines_line hkept, lines_append_newline, lines_line hkeptFeed, hrest,
        chompReturn_of_not_mem hkept]
    · by_cases hne : t = []
      · subst hne
        rfl
      rw [lines_lastLine hfeed hne] at h ⊢
      have hkept : '\r' ∉ chompReturn t := h _ List.mem_cons_self
      have hkeptFeed : '\n' ∉ chompReturn t := fun hmem => hfeed (chompReturn_subset t _ hmem)
      rcases unifyNewlines_lastLine hkept with heq | heq
      · rw [heq, lines_lastLine hfeed hne]
      · rw [heq, lines_line hkeptFeed, chompReturn_of_not_mem hkept]

/-- Reading with unified line endings gives the same lines exactly if none of them holds a
carriage return. -/
theorem lines_unifyNewlines_iff {t : Text} :
    lines (unifyNewlines t) = lines t ↔ ∀ line ∈ lines t, '\r' ∉ line := by
  constructor
  · intro h line hline hmem
    rw [← h] at hline
    exact return_not_mem t (mem_of_mem_lines hline hmem)
  · exact lines_unifyNewlines

/-- Reading a written text gives it with its line endings unified. -/
theorem text_of_encode (t : Text) (modified : Stamp) :
    FileTree.File.text ⟨t.encode, modified⟩ = .ok t.unifyNewlines := by
  rw [FileTree.File.text, decode_encode]

end ShaderPlayer.Text
