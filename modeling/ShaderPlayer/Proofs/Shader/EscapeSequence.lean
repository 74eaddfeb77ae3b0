/-
Escape sequences and macros.

Macros are substituted before strings are decoded, inside literals as elsewhere.  An escape
sequence is written with letters and digits, and these belong to words: the letter behind a
backslash with the word characters that follow it, or the `u` and the digits between braces.

* `substitute_escape` — if none of these words is a macro the sequence stays as it is written, and
  what is before it and behind it is substituted by itself;
* `unescape_spelled` — a body of characters and supported sequences is decoded one by one;
* `escape_rewritten` — a macro for one of the words changes the sequence, and so can a value that
  brings a backslash or a quote in front of it;
* `escape_kept` — but if it stays, and what is substituted around it leaves it in its literal, it
  stands for its own code point in the string that is emitted, whatever the macros are.
-/
import ShaderPlayer.Proofs.Shader.Size
import ShaderPlayer.Proofs.Shader.StringLiteral

namespace ShaderPlayer.Shader

open Text (isWord)

/-! ### Escape sequences -/

/-- An escape sequence that is supported. -/
inductive Escape where
  | simple (c : Char) (code : Nat) (known : simpleEscape? c = some code)
  | braced (digits : Text) (hex : ∀ c ∈ digits, (Text.hexDigit? c).isSome)
      (few : 1 ≤ digits.length ∧ digits.length ≤ 6)
      (inRange : Text.positional 16 (digits.filterMap Text.hexDigit?) < 0x110000)

namespace Escape

/-- The sequence as it is written. -/
def text : Escape → Text
  | simple c _ _ => ['\\', c]
  | braced digits _ _ _ => '\\' :: 'u' :: '\x7b' :: (digits ++ ['\x7d'])

/-- The code point that the sequence stands for. -/
def code : Escape → Nat
  | simple _ code _ => code
  | braced digits _ _ _ => Text.positional 16 (digits.filterMap Text.hexDigit?)

/-- Whether word characters that follow the sequence are in one word with its end. -/
def joins : Escape → Bool
  | simple c _ _ => isWord c
  | braced _ _ _ _ => false

/-- What is in one word with the end of the sequence, of the text behind it. -/
def grown (e : Escape) (last : Text) : Text := if e.joins then last.takeWhile isWord else []

/-- The text behind these words. -/
def left (e : Escape) (last : Text) : Text := if e.joins then last.dropWhile isWord else last

/-- The words that the sequence has a part in, where a text is behind it. -/
def words (e : Escape) (last : Text) : List Text :=
  match e with
  | simple c _ _ => if isWord c then [c :: last.takeWhile isWord] else []
  | braced digits _ _ _ => ["u".toList, digits]

end Escape

/-- A character of a string body, as it is or as an escape sequence. -/
inductive Spelling where
  | char (c : Char) (noQuote : c ≠ '"') (noEscape : c ≠ '\\')
  | escape (e : Escape)

namespace Spelling

def text : Spelling → Text
  | char c _ _ => [c]
  | escape e => e.text

def code : Spelling → Nat
  | char c _ _ => c.toNat
  | escape e => e.code

end Spelling

/-- The body that spells a string. -/
def spelled (spellings : List Spelling) : Text := spellings.flatMap Spelling.text

/-! ### Decoding -/

theorem bracedDigits_digits {digits : Text} (hex : ∀ c ∈ digits, (Text.hexDigit? c).isSome)
    (few : 1 ≤ digits.length ∧ digits.length ≤ 6) (rest : Text) :
    bracedDigits? ('\x7b' :: (digits ++ '\x7d' :: rest))
      = some (digits.filterMap Text.hexDigit?, rest) := by
  have hdigits : (digits ++ '\x7d' :: rest).takeWhile (fun c => (Text.hexDigit? c).isSome)
      = digits := (span_of_forall hex fun c hc => by cases hc; decide).1
  simp only [bracedDigits?, hdigits, List.drop_left, if_pos few]

theorem unescape_escape (e : Escape) (rest : Text) :
    unescape (e.text ++ rest) = (unescape rest).map (e.code :: ·) := by
  cases e with
  | simple c code known =>
    have hletter : c ≠ 'u' := by
      rintro rfl
      cases known
    rw [Escape.text, List.cons_append, List.singleton_append, unescape]
    split
    · next hbraced =>
      rw [if_neg hletter] at hbraced
      cases hbraced
    · rw [known]
      rfl
  | braced digits hex few inRange =>
    have hbraced := bracedDigits_digits hex few rest
    rw [Escape.text, List.cons_append, List.cons_append, List.cons_append, List.append_assoc,
      List.singleton_append, unescape]
    split
    · next read after hread =>
      rw [if_pos rfl, hbraced] at hread
      obtain ⟨rfl, rfl⟩ := Prod.mk.inj (Option.some.inj hread)
      rw [if_pos inRange]
      rfl
    · next hnone =>
      rw [if_pos rfl, hbraced] at hnone
      cases hnone

theorem unescape_spelling (s : Spelling) (rest : Text) :
    unescape (s.text ++ rest) = (unescape rest).map (s.code :: ·) := by
  cases s with
  | char c noQuote noEscape =>
    rw [Spelling.text, List.singleton_append, unescape]
    · rfl
    · exact fun h => absurd h noEscape
    · exact fun _ _ h => absurd h noEscape
  | escape e => exact unescape_escape e rest

/-- A body is decoded one by one. -/
theorem unescape_spelled (spellings : List Spelling) :
    unescape (spelled spellings) = .ok (spellings.map Spelling.code) := by
  induction spellings with
  | nil => rw [spelled, List.flatMap_nil, unescape, List.map_nil]
  | cons s spellings ih =>
    rw [spelled, List.flatMap_cons, ← spelled, unescape_spelling, ih]
    rfl

theorem exists_body_of_chars {t : Text} (hquote : '"' ∉ t) (hescape : '\\' ∉ t) :
    ∃ body : List BodyUnit, bodyText body = t := by
  induction t with
  | nil => exact ⟨[], rfl⟩
  | cons c t ih =>
    rw [List.mem_cons, not_or] at hquote hescape
    obtain ⟨body, hbody⟩ := ih hquote.2 hescape.2
    exact ⟨.char c (Ne.symm hquote.1) (Ne.symm hescape.1) :: body, congrArg (c :: ·) hbody⟩

theorem Escape.exists_body (e : Escape) : ∃ body : List BodyUnit, bodyText body = e.text := by
  cases e with
  | simple c code known =>
    have hfeed : c ≠ '\n' := by
      rintro rfl
      cases known
    exact ⟨[.pair c hfeed], rfl⟩
  | braced digits hex few inRange =>
    have hnot {c : Char} (hc : Text.hexDigit? c = none) (hbrace : c ≠ '\x7b' ∧ c ≠ '\x7d') :
        c ∉ '\x7b' :: (digits ++ ['\x7d']) := by
      have hdigit : c ∉ digits := fun h => by
        have hsome := hex c h
        rw [hc] at hsome
        cases hsome
      simp [hbrace, hdigit]
    obtain ⟨body, hbody⟩ := exists_body_of_chars (hnot (by decide) (by decide))
      (hnot (by decide) (by decide))
    exact ⟨.pair 'u' (by decide) :: body, congrArg ('\\' :: 'u' :: ·) hbody⟩

/-- What spells a string is the body of a literal. -/
theorem exists_body_spelled (spellings : List Spelling) :
    ∃ body : List BodyUnit, bodyText body = spelled spellings := by
  induction spellings with
  | nil => exact ⟨[], rfl⟩
  | cons s spellings ih =>
    obtain ⟨rest, hrest⟩ := ih
    obtain ⟨head, hhead⟩ : ∃ head : List BodyUnit, bodyText head = s.text := by
      cases s with
      | char c noQuote noEscape => exact ⟨[.char c noQuote noEscape], rfl⟩
      | escape e => exact e.exists_body
    refine ⟨head ++ rest, ?_⟩
    rw [bodyText, List.flatMap_append, ← bodyText, ← bodyText, hhead, hrest, spelled, spelled,
      List.flatMap_cons]

theorem exists_spellings_of_words {t : Text} (h : ∀ c ∈ t, isWord c) :
    ∃ spellings, spelled spellings = t ∧ spellings.map Spelling.code = t.map Char.toNat := by
  induction t with
  | nil => exact ⟨[], rfl, rfl⟩
  | cons c t ih =>
    rw [List.forall_mem_cons] at h
    obtain ⟨spellings, htext, hcodes⟩ := ih h.2
    have hnot {d : Char} (hd : isWord d = false) : c ≠ d := by
      rintro rfl
      rw [hd] at h
      exact absurd h.1 Bool.false_ne_true
    exact ⟨.char c (hnot (by decide)) (hnot (by decide)) :: spellings, congrArg (c :: ·) htext,
      congrArg (c.toNat :: ·) hcodes⟩

/-! ### Substitution -/

theorem MacroTable.substitute_word {macros : MacroTable} {word : Text} (hne : word ≠ [])
    (hword : ∀ c ∈ word, isWord c) (hnone : macros.get? word = none) :
    macros.substitute word = word := by
  rw [MacroTable.substitute, Text.mapWords_word _ hne hword, hnone]
  rfl

/-- A sequence none of whose words is a macro stays as it is written, with what is in one word with
it, and what is before these words and behind them is substituted by itself. -/
theorem substitute_escape {macros : MacroTable} {e : Escape} {last : Text}
    (hwords : ∀ word ∈ e.words last, macros.get? word = none) (first : Text) :
    macros.substitute (first ++ (e.text ++ last))
      = macros.substitute first ++ (e.text ++ (e.grown last ++ macros.substitute (e.left last))) := by
  cases e with
  | simple c code known =>
    rw [Escape.text, List.cons_append, macros.substitute_append_cons (by decide),
      List.singleton_append]
    by_cases hc : isWord c
    · have hnone : macros.get? (c :: last.takeWhile isWord) = none := by
        simpa [Escape.words, hc] using hwords
      rw [Escape.grown, Escape.left, Escape.joins, if_pos hc, if_pos hc, MacroTable.substitute,
        MacroTable.substitute, Text.mapWords, if_pos hc, hnone]
      rfl
    · rw [Escape.grown, Escape.left, Escape.joins, if_neg hc, if_neg hc, MacroTable.substitute,
        MacroTable.substitute, Text.mapWords, if_neg hc]
      rfl
  | braced digits hex few inRange =>
    obtain ⟨hletter, hdigits⟩ : macros.get? "u".toList = none ∧ macros.get? digits = none := by
      simpa [Escape.words] using hwords
    have hne : digits ≠ [] := List.ne_nil_of_length_pos few.1
    have hword : ∀ c ∈ digits, isWord c := by
      intro c hc
      obtain ⟨value, hvalue⟩ := Option.isSome_iff_exists.mp (hex c hc)
      exact isWord_of_hexDigit hvalue
    have hline : first ++ ((Escape.braced digits hex few inRange).text ++ last)
        = first ++ '\\' :: ("u".toList ++ '\x7b' :: (digits ++ '\x7d' :: last)) := by
      simp [Escape.text]
    have hkept : macros.substitute "u".toList = "u".toList := by
      refine MacroTable.substitute_word (by decide) (fun c hc => ?_) hletter
      rw [List.mem_singleton.mp hc]
      decide
    rw [hline, macros.substitute_append_cons (by decide), macros.substitute_append_cons (by decide),
      macros.substitute_append_cons (by decide), hkept,
      MacroTable.substitute_word hne hword hdigits]
    simp [Escape.text, Escape.grown, Escape.left, Escape.joins]

/-! ### The string that is emitted -/

/-- A literal of characters and supported sequences, behind the segments of a line and before whatever
follows. -/
theorem encodeStrings_spelled (segments : List Segment) (spellings : List Spelling) (post : Text) :
    encodeStrings (segments.flatMap Segment.text ++ '"' :: (spelled spellings ++ '"' :: post))
      = if (∀ segment ∈ segments, segment.Fits) ∧ spellings.length ≤ maxStringLength then
          (encodeStrings post).map (segments.flatMap Segment.encoded
            ++ stringCall spellings.length (cells (spellings.map Spelling.code)) ++ ·)
        else none := by
  obtain ⟨body, hbody⟩ := exists_body_spelled spellings
  have hdecoded : (Segment.literal body).decoded? = some (spellings.map Spelling.code) := by
    rw [Segment.decoded?, hbody, unescape_spelled]
    rfl
  have hfits : (Segment.literal body).Fits ↔ spellings.length ≤ maxStringLength := by
    simp [Segment.Fits, hdecoded]
  have hencoded : (Segment.literal body).encoded
      = stringCall spellings.length (cells (spellings.map Spelling.code)) := by
    simp only [Segment.encoded, hdecoded, List.length_map]
  have hline : segments.flatMap Segment.text ++ '"' :: (spelled spellings ++ '"' :: post)
      = (segments ++ [Segment.literal body]).flatMap Segment.text ++ post := by
    simp [Segment.text, hbody]
  rw [hline, encodeStrings_segments]
  simp only [List.forall_mem_append, List.forall_mem_singleton, hfits, List.flatMap_append,
    List.flatMap_singleton, hencoded]

/-- What is substituted changes sequences: a macro for the letter behind a backslash; a value that
ends in a backslash, so that there are two before the letter; and a value with a quote, so that the
literal ends before the sequence. -/
theorem escape_rewritten :
    let resolver := Resolver.dictionary [("std/string".toList, [])]
    let emitted (defines : Entries Text) (line : Text) :=
      ((Run.start defines ()).shader resolver ("#include <string>\n".toList ++ line)).1.source.lines
    emitted [] "\"\\n\"".toList = [stringCall 1 (cells [10])]
      ∧ emitted [("n".toList, "t".toList)] "\"\\n\"".toList = [stringCall 1 (cells [9])]
      ∧ emitted [] "\"a\\n\"".toList = [stringCall 2 (cells [97, 10])]
      ∧ emitted [("a".toList, "\\".toList)] "\"a\\n\"".toList = [stringCall 2 (cells [92, 110])]
      ∧ emitted [("a".toList, "\"".toList)] "\"a\\n\"".toList
        = [stringCall 0 (cells []) ++ "\\n\"".toList] := by
  decide +kernel

section Emitted

variable {σ : Type} {resolver : Resolver σ} {defines : Entries Text} {world : σ} {shader : Text}
  {w : Work σ} {origin : Int} {first last post : Text} {rest : List (Int × Text)} {e : Escape}
  {segments : List Segment} {before after : List Spelling}

/-- At every moment of a run where strings are encoded, and whatever macros there are then, let a
supported escape sequence be written in the next line, which is plain.  If no word that it has a part
in is a macro, and if what is substituted around it leaves it in its literal — behind an opening
quote, characters and supported sequences, and before such and a closing quote — it stands for its
own code point: the literal is emitted as the call of a string with this code point, between those of
what is before it and behind it, unless a string of the line is too long. -/
theorem escape_kept (hreached : Work.Reaches resolver (.start defines world shader) w)
    (hstop : w.stop = none) (hlines : w.lines = (origin, first ++ (e.text ++ last)) :: rest)
    (hmode : w.run.stringMode = true)
    (hplain : Plain (w.run.macros.expandLine (first ++ (e.text ++ last))))
    (hwords : ∀ word ∈ e.words last, w.run.macros.get? word = none)
    (hbefore : w.run.macros.substitute first
      = segments.flatMap Segment.text ++ '"' :: spelled before)
    (hafter : w.run.macros.substitute (e.left last) = spelled after ++ '"' :: post) :
    let codes := before.map Spelling.code
      ++ e.code :: ((e.grown last).map Char.toNat ++ after.map Spelling.code)
    let result := (Run.start defines world).shader resolver shader
    (∀ behind, (∀ segment ∈ segments, segment.Fits) → codes.length ≤ maxStringLength →
        encodeStrings post = some behind →
        w.EmitsNext resolver result.1
          ⟨segments.flatMap Segment.encoded ++ stringCall codes.length (cells codes) ++ behind, origin⟩)
      ∧ ((∃ segment ∈ segments, ¬ segment.Fits) ∨ maxStringLength < codes.length
          ∨ encodeStrings post = none →
        result = (w.run, .reported (Cause.stringTooLong.report origin))) := by
  intro codes result
  have hgrown : ∀ c ∈ e.grown last, isWord c := by
    intro c hc
    rw [Escape.grown] at hc
    split at hc
    · exact List.mem_takeWhile_imp hc
    · exact absurd hc List.not_mem_nil
  obtain ⟨word, hword, hwordCodes⟩ := exists_spellings_of_words hgrown
  let spellings := before ++ .escape e :: (word ++ after)
  have hcodes : spellings.map Spelling.code = codes := by
    simp only [spellings, codes, List.map_append, List.map_cons, hwordCodes]
    rfl
  have hlength : spellings.length = codes.length := by rw [← hcodes, List.length_map]
  have hexpanded : w.run.macros.expandLine (first ++ (e.text ++ last))
      = segments.flatMap Segment.text ++ '"' :: (spelled spellings ++ '"' :: post) := by
    rw [expandLine_of_plain hplain, substitute_escape hwords, hbefore, hafter, ← hword]
    simp [spellings, spelled, Spelling.text]
  have hemitted : w.run.emitted? (w.run.macros.expandLine (first ++ (e.text ++ last)))
      = if (∀ segment ∈ segments, segment.Fits) ∧ codes.length ≤ maxStringLength then
          (encodeStrings post).map
            (segments.flatMap Segment.encoded ++ stringCall codes.length (cells codes) ++ ·)
        else none := by
    rw [Run.emitted?, hmode, if_pos rfl, hexpanded, encodeStrings_spelled, hcodes, hlength]
  refine ⟨fun behind hfits hshort hbehind => ?_, fun hlong => ?_⟩
  · refine emitted_plain hreached hstop hlines hplain ?_
    rw [hemitted, if_pos ⟨hfits, hshort⟩, hbehind, Option.map_some]
  · refine stopped_by_string hreached hstop hlines hplain ?_
    rw [hemitted]
    rcases hlong with ⟨segment, hsegment, hlong⟩ | hlong | hlong
    · rw [if_neg fun h => hlong (h.1 segment hsegment)]
    · rw [if_neg fun h => absurd h.2 (Nat.not_le.mpr hlong)]
    · rw [hlong, Option.map_none, ite_self]

/-- The letter of the sequence is a macro, but not the word that it begins; another macro is
substituted before the sequence, inside its literal and outside. -/
theorem escape_kept_in_word :
    let resolver := Resolver.dictionary [("std/string".toList, [])]
    let defines := [("n".toList, "t".toList), ("N".toList, "7".toList)]
    let shader := "#include <string>\nprint(N, \"N\\nx\", 1);".toList
    ∃ w : Work Unit, Work.Reaches resolver (.start defines () shader) w ∧ w.stop = none
      ∧ w.lines = [(2, "print(N, \"N\\nx\", 1);".toList)] ∧ w.run.stringMode = true
      ∧ w.EmitsNext resolver ((Run.start defines ()).shader resolver shader).1
          ⟨"print(7, ".toList ++ stringCall 3 (cells [55, 10, 120]) ++ ", 1);".toList, 2⟩ := by
  intro resolver defines shader
  let start : Work Unit := .start defines () shader
  have hbalanced : start.Balanced := ⟨rfl, Nat.zero_le maxIncludeDepth⟩
  have hlines : start.lines
      = [(1, "#include <string>".toList), (2, "print(N, \"N\\nx\", 1);".toList)] := by
    decide +kernel
  have hreached : Work.Reaches resolver start _ := hbalanced.reaches rfl hlines
  refine ⟨_, hreached, by decide +kernel, rfl, by decide +kernel, ?_⟩
  let e : Escape := .simple 'n' 10 rfl
  let segments : List Segment := [.plain "print(7, ".toList (by decide)]
  let before : List Spelling := [.char '7' (by decide) (by decide)]
  obtain ⟨hemits, _⟩ := escape_kept hreached (by decide +kernel)
    (show _ = (2, "print(N, \"N".toList ++ (e.text ++ "x\", 1);".toList)) :: [] by decide +kernel)
    (by decide +kernel) (by decide +kernel) (by decide +kernel)
    (show _ = segments.flatMap Segment.text ++ '"' :: spelled before by decide +kernel)
    (show _ = spelled [] ++ '"' :: ", 1);".toList by decide +kernel)
  have hbehind : encodeStrings ", 1);".toList = some ", 1);".toList := by decide +kernel
  exact hemits ", 1);".toList (by decide +kernel) (by decide +kernel) hbehind

end Emitted

end ShaderPlayer.Shader
