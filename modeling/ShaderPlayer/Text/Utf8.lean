/-
UTF-8.

Files hold bytes; `decode` turns them into text and says, for bytes that are no
UTF-8, where the first malformed sequence stands, how long it is and what is
wrong with it.  A sequence is as long as the bytes that agree with its first one;
surrogates, overlong forms and values past U+10FFFF show at the second byte.
-/
import ShaderPlayer.Text.Basic

namespace ShaderPlayer

/-- A sequence of bytes. -/
abbrev Bytes := List UInt8

namespace Text

/-- What is wrong with a malformed sequence. -/
inductive Defect where
  /-- No sequence starts with this byte. -/
  | start
  /-- The next byte does not continue the sequence. -/
  | continuation
  /-- The bytes end within the sequence. -/
  | truncated
  deriving DecidableEq, Repr

/-- The first malformed sequence of some bytes. -/
structure Malformed where
  /-- Its first byte. -/
  first : UInt8
  /-- The bytes before it. -/
  position : Nat
  /-- The bytes that belong to it. -/
  length : Nat
  defect : Defect
  deriving DecidableEq, Repr

/-- The words for a defect. -/
def Defect.message : Defect → Text
  | .start => "invalid start byte".toList
  | .continuation => "invalid continuation byte".toList
  | .truncated => "unexpected end of data".toList

/-- The description of a malformed sequence. -/
def Malformed.message (m : Malformed) : Text :=
  let place :=
    if m.length = 1 then
      "byte 0x".toList ++ ofHex 2 m.first.toNat ++ " in position ".toList ++ ofNat m.position
    else
      "bytes in position ".toList ++ ofNat m.position ++ ['-']
        ++ ofNat (m.position + m.length - 1)
  "'utf-8' codec can't decode ".toList ++ place ++ ": ".toList ++ m.defect.message

/-- How many bytes follow a first byte, and the least and greatest second byte. -/
def sequenceForm (first : UInt8) : Option (Nat × Nat × Nat) :=
  let n := first.toNat
  if n < 0x80 then some (0, 0x80, 0xbf)
  else if n < 0xc2 then none
  else if n < 0xe0 then some (1, 0x80, 0xbf)
  else if n = 0xe0 then some (2, 0xa0, 0xbf)
  else if n = 0xed then some (2, 0x80, 0x9f)
  else if n < 0xf0 then some (2, 0x80, 0xbf)
  else if n = 0xf0 then some (3, 0x90, 0xbf)
  else if n < 0xf4 then some (3, 0x80, 0xbf)
  else if n = 0xf4 then some (3, 0x80, 0x8f)
  else none

/-- The bits of a first byte that belong to the code point. -/
def leadBits (following first : Nat) : Nat :=
  match following with
  | 0 => first
  | 1 => first % 0x20
  | 2 => first % 0x10
  | _ => first % 0x08

/-- Reads the bytes that continue a sequence.  The next byte has to lie between
`lo` and `hi`, those after it between 80 and BF; `taken` counts the bytes of the
sequence so far.  Answers the code point and the rest, or the defect and the
length of the sequence. -/
def continueSequence (lo hi code taken : Nat) : Nat → Bytes → Except (Defect × Nat) (Nat × Bytes)
  | 0, rest => .ok (code, rest)
  | _ + 1, [] => .error (.truncated, taken)
  | following + 1, b :: rest =>
    if lo ≤ b.toNat ∧ b.toNat ≤ hi then
      continueSequence 0x80 0xbf (code * 0x40 + b.toNat % 0x40) (taken + 1) following rest
    else .error (.continuation, taken)

theorem length_of_continueSequence {lo hi code taken n : Nat} {bs : Bytes} {c : Nat} {rest : Bytes}
    (h : continueSequence lo hi code taken n bs = .ok (c, rest)) : rest.length ≤ bs.length := by
  induction n generalizing lo hi code taken bs with
  | zero =>
    simp only [continueSequence, Except.ok.injEq, Prod.mk.injEq] at h
    simp [h.2]
  | succ n ih =>
    cases bs with
    | nil => simp [continueSequence] at h
    | cons b bs =>
      simp only [continueSequence] at h
      split at h
      · exact Nat.le_succ_of_le (ih h)
      · simp at h

/-- The text of some bytes, `position` bytes into them. -/
def decodeFrom (position : Nat) : Bytes → Except Malformed Text
  | [] => .ok []
  | b :: rest =>
    match sequenceForm b with
    | none => .error ⟨b, position, 1, .start⟩
    | some (following, lo, hi) =>
      match _h : continueSequence lo hi (leadBits following b.toNat) 1 following rest with
      | .error (defect, length) => .error ⟨b, position, length, defect⟩
      | .ok (code, after) =>
        match decodeFrom (position + following + 1) after with
        | .ok t => .ok (Char.ofNat code :: t)
        | .error m => .error m
termination_by bs => bs.length
decreasing_by
  have := length_of_continueSequence _h
  simp only [List.length_cons]
  omega

/-- The text of some bytes, or their first malformed sequence. -/
def decode (bs : Bytes) : Except Malformed Text := decodeFrom 0 bs

/-- The bytes of a text. -/
def encode (t : Text) : Bytes := t.flatMap String.utf8EncodeChar

/-- The number of bytes of a text. -/
def byteLength (t : Text) : Nat := t.foldl (fun n c => n + c.utf8Size) 0

end Text

end ShaderPlayer
