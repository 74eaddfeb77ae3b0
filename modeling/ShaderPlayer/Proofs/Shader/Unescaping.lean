/-
The grammar of escaped texts.

A text is decoded unit by unit: a unit is a character other than a backslash, a backslash with one
of seven characters, or one to six hexadecimal digits in braces behind a backslash and a `u`.  Every
text begins with units, and what follows them is nothing, one backslash, or a backslash that makes
no unit with what is behind it; and this alone decides what becomes of the text.

* `exists_units` — every text is units and such a tail;
* `unescape_units` — units are decoded one by one, whatever follows them;
* `unescape_of_defective` — a backslash that makes no unit is a defect;
* `EscapeUnit.ofCode` — every code point can be written in braces;
* `unescape_grammar` — so decoding accepts just the texts of units, with a backslash at the end or
  without one.
-/
import ShaderPlayer.Fault
import ShaderPlayer.Proofs.Shader.EscapeSequence

namespace ShaderPlayer.Shader

/-! ### Units -/

/-- The characters that stand for another one behind a backslash, each with that one. -/
def shortEscapes : List (Char × Char) :=
  [('n', '\n'), ('r', '\r'), ('t', '\t'), ('0', '\x00'), ('\\', '\\'), ('"', '"'), ('\'', '\'')]

/-- A unit of an escaped text.  Quotes need no backslash here. -/
inductive EscapeUnit where
  | char (c : Char) (plain : c ≠ '\\')
  | short (c meant : Char) (listed : (c, meant) ∈ shortEscapes)
  | braced (digits : Text) (hex : ∀ c ∈ digits, (Text.hexDigit? c).isSome)
      (few : 1 ≤ digits.length ∧ digits.length ≤ 6)
      (inRange : Text.positional 16 (digits.filterMap Text.hexDigit?) < 0x110000)

namespace EscapeUnit

/-- The unit as it is written. -/
def text : EscapeUnit → Text
  | char c _ => [c]
  | short c _ _ => ['\\', c]
  | braced digits _ _ _ => '\\' :: 'u' :: '\x7b' :: (digits ++ ['\x7d'])

/-- The code point that the unit stands for. -/
def code : EscapeUnit → Nat
  | char c _ => c.toNat
  | short _ meant _ => meant.toNat
  | braced digits _ _ _ => Text.positional 16 (digits.filterMap Text.hexDigit?)

/-- The text of units. -/
def textOf (units : List EscapeUnit) : Text := units.flatMap text

/-- What units stand for. -/
def codesOf (units : List EscapeUnit) : List Nat := units.map code

end EscapeUnit

open EscapeUnit (textOf codesOf)
open Text (isSome_hexDigit_of_mem_toDigits)

/-- A text that can be decoded: units, and a backslash at the end that stands for itself, or none. -/
structure EscapedText where
  units : List EscapeUnit
  trailing : Bool

namespace EscapedText

def text (e : EscapedText) : Text := textOf e.units ++ if e.trailing then ['\\'] else []

def codes (e : EscapedText) : List Nat := codesOf e.units ++ if e.trailing then [92] else []

end EscapedText

/-- A text that begins with a backslash, which makes no unit with what follows it.  Behind a `u` too
many digits in the braces, or none, are as unknown as no braces at all. -/
inductive Defective : EscapeDefect → Text → Prop
  | unknown {c : Char} (rest : Text) (unlisted : ∀ meant, (c, meant) ∉ shortEscapes)
      (unbraced : ∀ digits after, (∀ d ∈ digits, (Text.hexDigit? d).isSome) →
        1 ≤ digits.length ∧ digits.length ≤ 6 →
        c :: rest ≠ 'u' :: '\x7b' :: (digits ++ '\x7d' :: after)) :
      Defective (.unknown c) ('\\' :: c :: rest)
  | outOfRange {digits : Text} (rest : Text) (hex : ∀ c ∈ digits, (Text.hexDigit? c).isSome)
      (few : 1 ≤ digits.length ∧ digits.length ≤ 6)
      (beyond : 0x110000 ≤ Text.positional 16 (digits.filterMap Text.hexDigit?)) :
      Defective .outOfRange ('\\' :: 'u' :: '\x7b' :: (digits ++ '\x7d' :: rest))

/-! ### What is read behind a backslash -/

theorem simpleEscape_eq_some_iff {c : Char} {code : Nat} :
    simpleEscape? c = some code ↔ ∃ meant, (c, meant) ∈ shortEscapes ∧ meant.toNat = code := by
  constructor
  · intro h
    unfold simpleEscape? at h
    split at h
    all_goals cases h
    all_goals exact ⟨_, by simp [shortEscapes]; rfl, by decide⟩
  · rintro ⟨meant, hlisted, rfl⟩
    have hall : ∀ pair ∈ shortEscapes, simpleEscape? pair.1 = some pair.2.toNat := by decide
    exact hall (c, meant) hlisted

theorem simpleEscape_eq_none_iff {c : Char} :
    simpleEscape? c = none ↔ ∀ meant, (c, meant) ∉ shortEscapes := by
  constructor
  · intro h meant hlisted
    rw [simpleEscape_eq_some_iff.mpr ⟨meant, hlisted, rfl⟩] at h
    cases h
  · intro h
    rw [Option.eq_none_iff_forall_not_mem]
    intro code hcode
    obtain ⟨meant, hlisted, _⟩ := simpleEscape_eq_some_iff.mp hcode
    exact h meant hlisted

/-- What is read as digits in braces is written so. -/
theorem eq_of_bracedDigits {t after : Text} {values : List Nat}
    (h : bracedDigits? t = some (values, after)) :
    ∃ digits : Text, t = '\x7b' :: (digits ++ '\x7d' :: after)
      ∧ (∀ c ∈ digits, (Text.hexDigit? c).isSome) ∧ (1 ≤ digits.length ∧ digits.length ≤ 6)
      ∧ values = digits.filterMap Text.hexDigit? := by
  unfold bracedDigits? at h
  split at h
  · next rest =>
    dsimp only at h
    split at h
    · next behind hbehind =>
      split at h
      · next hfew =>
        obtain ⟨rfl, rfl⟩ := Prod.mk.inj (Option.some.inj h)
        refine ⟨rest.takeWhile fun c => (Text.hexDigit? c).isSome, ?_,
          fun c hc => List.mem_takeWhile_imp (p := fun c => (Text.hexDigit? c).isSome) hc,
          hfew, rfl⟩
        have hsplit := List.take_append_drop
          (rest.takeWhile fun c => (Text.hexDigit? c).isSome).length rest
        rw [hbehind, ← List.prefix_iff_eq_take.mp (List.takeWhile_prefix _)] at hsplit
        rw [hsplit]
      · cases h
    · cases h
  · cases h

theorem bracedDigits_eq_none_iff {t : Text} :
    bracedDigits? t = none ↔ ∀ digits after, (∀ d ∈ digits, (Text.hexDigit? d).isSome) →
      1 ≤ digits.length ∧ digits.length ≤ 6 → t ≠ '\x7b' :: (digits ++ '\x7d' :: after) := by
  constructor
  · rintro h digits after hex few rfl
    rw [bracedDigits_digits hex few] at h
    cases h
  · intro h
    rcases hread : bracedDigits? t with _ | ⟨values, after⟩
    · rfl
    · obtain ⟨digits, htext, hex, few, _⟩ := eq_of_bracedDigits hread
      exact absurd htext (h digits after hex few)

/-! ### Decoding -/

/-- A unit is decoded by itself, whatever follows it. -/
theorem unescape_unit (u : EscapeUnit) (rest : Text) :
    unescape (u.text ++ rest) = (unescape rest).map (u.code :: ·) := by
  cases u with
  | char c plain =>
    rw [EscapeUnit.text, List.singleton_append, unescape]
    · rfl
    · exact fun h => absurd h plain
    · exact fun _ _ h => absurd h plain
  | short c meant listed =>
    have hsimple := simpleEscape_eq_some_iff.mpr ⟨meant, listed, rfl⟩
    exact unescape_escape (.simple c meant.toNat hsimple) rest
  | braced digits hex few inRange => exact unescape_escape (.braced digits hex few inRange) rest

theorem unescape_units (units : List EscapeUnit) (rest : Text) :
    unescape (textOf units ++ rest) = (unescape rest).map (codesOf units ++ ·) := by
  induction units with
  | nil =>
    rcases h : unescape rest with defect | codes <;> simp [textOf, codesOf, h, Except.map]
  | cons u units ih =>
    rw [textOf, List.flatMap_cons, ← textOf, List.append_assoc, unescape_unit, ih]
    rcases unescape rest with defect | codes <;> rfl

theorem unescape_text (e : EscapedText) : unescape e.text = .ok e.codes := by
  rw [EscapedText.text, unescape_units, EscapedText.codes]
  rcases e.trailing with _ | _ <;> simp [unescape, Except.map]

theorem unescape_of_defective {defect : EscapeDefect} {t : Text} (h : Defective defect t) :
    unescape t = .error defect := by
  cases h with
  | @unknown c rest unlisted unbraced =>
    have hnone : (if c = 'u' then bracedDigits? rest else none) = none := by
      split
      · next hletter =>
        subst hletter
        exact bracedDigits_eq_none_iff.mpr fun digits after hex few htext =>
          unbraced digits after hex few (congrArg ('u' :: ·) htext)
      · rfl
    rw [unescape]
    split
    · next hread =>
      rw [hnone] at hread
      cases hread
    · rw [simpleEscape_eq_none_iff.mpr unlisted]
  | @outOfRange digits rest hex few beyond =>
    have hbraced := bracedDigits_digits hex few rest
    rw [unescape]
    split
    · next hread =>
      rw [if_pos rfl, hbraced] at hread
      obtain ⟨rfl, rfl⟩ := Prod.mk.inj (Option.some.inj hread)
      rw [if_neg (Nat.not_lt.mpr beyond)]
    · next hread =>
      rw [if_pos rfl, hbraced] at hread
      cases hread

/-! ### Every text -/

/-- What can follow units that nothing is left of but a backslash and what it makes no unit with. -/
inductive EscapeTail : Text → Prop
  | nil : EscapeTail []
  | backslash : EscapeTail ['\\']
  | defective {defect : EscapeDefect} {t : Text} (defective : Defective defect t) : EscapeTail t

/-- A text begins with a unit, or it is such a tail. -/
theorem unit_or_tail (t : Text) :
    EscapeTail t ∨ ∃ (u : EscapeUnit) (rest : Text), t = u.text ++ rest := by
  rcases t with _ | ⟨c, rest⟩
  · exact .inl .nil
  by_cases hplain : c = '\\'
  · subst hplain
    rcases rest with _ | ⟨letter, rest⟩
    · exact .inl .backslash
    rcases hshort : simpleEscape? letter with _ | code
    · -- no short escape has a `u`, so the braces are looked at only here
      have hunlisted := simpleEscape_eq_none_iff.mp hshort
      by_cases hbraced : ∃ digits after, (∀ d ∈ digits, (Text.hexDigit? d).isSome)
          ∧ (1 ≤ digits.length ∧ digits.length ≤ 6)
          ∧ letter :: rest = 'u' :: '\x7b' :: (digits ++ '\x7d' :: after)
      · obtain ⟨digits, after, hex, few, htext⟩ := hbraced
        rw [htext]
        by_cases hrange : Text.positional 16 (digits.filterMap Text.hexDigit?) < 0x110000
        · exact .inr ⟨.braced digits hex few hrange, after, by simp [EscapeUnit.text]⟩
        · exact .inl (.defective (.outOfRange after hex few (Nat.not_lt.mp hrange)))
      · exact .inl (.defective (.unknown rest hunlisted fun digits after hex few htext =>
          hbraced ⟨digits, after, hex, few, htext⟩))
    · obtain ⟨meant, hlisted, _⟩ := simpleEscape_eq_some_iff.mp hshort
      exact .inr ⟨.short letter meant hlisted, rest, rfl⟩
  · exact .inr ⟨.char c hplain, rest, rfl⟩

/-- Every text is units and a tail.  The induction is on its length, since a unit has at least one
character. -/
theorem exists_units (t : Text) : ∃ units rest, t = textOf units ++ rest ∧ EscapeTail rest := by
  induction hlength : t.length using Nat.strongRecOn generalizing t with
  | ind n ih =>
    rcases unit_or_tail t with htail | ⟨u, rest, rfl⟩
    · exact ⟨[], t, rfl, htail⟩
    have hlt : rest.length < n := by
      have hpos : 0 < u.text.length := by cases u <;> simp [EscapeUnit.text]
      rw [List.length_append] at hlength
      omega
    obtain ⟨units, last, rfl, htail⟩ := ih rest.length hlt rest rfl
    refine ⟨u :: units, last, ?_, htail⟩
    rw [textOf, textOf, List.flatMap_cons, List.append_assoc]

/-- A text can be decoded, or it has a defect behind units. -/
theorem escaped_or_defective (t : Text) :
    (∃ e : EscapedText, e.text = t)
      ∨ ∃ units defect rest, t = textOf units ++ rest ∧ Defective defect rest := by
  obtain ⟨units, rest, rfl, htail⟩ := exists_units t
  cases htail with
  | nil => exact .inl ⟨⟨units, false⟩, rfl⟩
  | backslash => exact .inl ⟨⟨units, true⟩, rfl⟩
  | defective hdefective => exact .inr ⟨units, _, rest, rfl, hdefective⟩

theorem unescape_defect {units : List EscapeUnit} {defect : EscapeDefect} {rest : Text}
    (h : Defective defect rest) : unescape (textOf units ++ rest) = .error defect := by
  rw [unescape_units, unescape_of_defective h]
  rfl

/-! ### Code points -/

theorem positional_toDigits (n : Nat) :
    Text.positional 16 ((Nat.toDigits 16 n).filterMap Text.hexDigit?) = n := by
  have hwritten : Text.ofHex 0 n = Nat.toDigits 16 n := by simp [Text.ofHex, Text.padLeft]
  rw [← hwritten, Text.positional_ofHex]

/-- A code point in braces. -/
def EscapeUnit.ofCode (n : Nat) (h : n < 0x110000) : EscapeUnit :=
  .braced (Nat.toDigits 16 n) (isSome_hexDigit_of_mem_toDigits n)
    ⟨Nat.length_toDigits_pos, (Nat.length_toDigits_le_iff (by decide) (by decide)).mpr (by omega)⟩
    ((positional_toDigits n).symm ▸ h)

theorem EscapeUnit.code_ofCode {n : Nat} (h : n < 0x110000) : (ofCode n h).code = n :=
  positional_toDigits n

/-- Every sequence of code points can be written. -/
theorem exists_codesOf {codes : List Nat} (h : ∀ n ∈ codes, n < 0x110000) :
    ∃ units, codesOf units = codes := by
  refine ⟨codes.attach.map fun n => .ofCode n.1 (h n.1 n.2), ?_⟩
  rw [codesOf, List.map_map]
  conv_rhs => rw [← List.attach_map_subtype_val codes]
  exact List.map_congr_left fun n _ => EscapeUnit.code_ofCode (h n.1 n.2)

/-! ### The grammar -/

/-- A text is decoded exactly if it consists of units, with a backslash behind them or without one,
and then to what these stand for.  Any other text is refused for the first backslash that makes no
unit, in the words for it.  So what follows units is decoded by itself, and every sequence of code
points is what some units are decoded to. -/
theorem unescape_grammar :
    (∀ t codes, unescape t = .ok codes ↔ ∃ e : EscapedText, e.text = t ∧ e.codes = codes)
      ∧ (∀ t, (∀ e : EscapedText, e.text ≠ t) → ∃ units defect rest,
          t = textOf units ++ rest ∧ Defective defect rest ∧ unescape t = .error defect
            ∧ (Fault.escape defect.message).family = .value)
      ∧ (∀ units t, unescape (textOf units ++ t)
          = do return (← unescape (textOf units)) ++ (← unescape t))
      ∧ ∀ codes, (∀ n ∈ codes, n < 0x110000) → ∃ units, unescape (textOf units) = .ok codes := by
  have hunits : ∀ units, unescape (textOf units) = .ok (codesOf units) := by
    intro units
    have h := unescape_text ⟨units, false⟩
    rwa [EscapedText.text, EscapedText.codes, if_neg Bool.false_ne_true, if_neg Bool.false_ne_true,
      List.append_nil, List.append_nil] at h
  refine ⟨fun t codes => ⟨fun h => ?_, ?_⟩, fun t h => ?_, fun units t => ?_, fun codes h => ?_⟩
  · rcases escaped_or_defective t with ⟨e, rfl⟩ | ⟨units, defect, rest, rfl, hdefective⟩
    · rw [unescape_text] at h
      exact ⟨e, rfl, Except.ok.inj h⟩
    · rw [unescape_defect hdefective] at h
      cases h
  · rintro ⟨e, rfl, rfl⟩
    exact unescape_text e
  · rcases escaped_or_defective t with ⟨e, htext⟩ | ⟨units, defect, rest, rfl, hdefective⟩
    · exact absurd htext (h e)
    · exact ⟨units, defect, rest, rfl, hdefective, unescape_defect hdefective, rfl⟩
  · rw [unescape_units, hunits]
    rcases unescape t with defect | codes <;> rfl
  · obtain ⟨units, rfl⟩ := exists_codesOf h
    exact ⟨units, hunits units⟩

/-- Digits of either case, a quote and a backslash at the end; braces without digits; and a half of
a surrogate pair, which no character is. -/
theorem unescape_grammar_mixed :
    unescape "\\u\x7b1F60a\x7d\\'\\".toList = .ok [0x1f60a, 39, 92]
      ∧ (∃ units rest, "a\\u\x7b\x7d".toList = textOf units ++ rest ∧ Defective (.unknown 'u') rest)
      ∧ ∃ units, unescape (textOf units) = .ok [0xd800, 0x10ffff] := by
  obtain ⟨hgrammar, hdefect, _, hwritten⟩ := unescape_grammar
  refine ⟨?_, ?_, hwritten [0xd800, 0x10ffff] (by decide)⟩
  · let units : List EscapeUnit := [
      .braced "1F60a".toList (List.all_eq_true.mp (by decide)) (by decide) (by decide),
      .short '\'' '\'' (by decide)]
    exact (hgrammar _ _).mpr ⟨⟨units, true⟩, by decide, by decide⟩
  · have hrefused : unescape "a\\u\x7b\x7d".toList = .error (.unknown 'u') := by decide +kernel
    have hnone : ∀ e : EscapedText, e.text ≠ "a\\u\x7b\x7d".toList := by
      intro e htext
      have hdecoded := (hgrammar _ _).mpr ⟨e, htext, rfl⟩
      rw [hrefused] at hdecoded
      cases hdecoded
    obtain ⟨units, defect, rest, htext, hdefective, herror, _⟩ := hdefect _ hnone
    rw [hrefused] at herror
    cases herror
    exact ⟨units, rest, htext, hdefective⟩

end ShaderPlayer.Shader
