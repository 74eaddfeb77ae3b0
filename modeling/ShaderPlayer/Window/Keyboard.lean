/-
Key codes.

Shaders know a key by a number below 256.  Keys with a name have a code of their own;
a key that types a letter or a number has the code point of its capital form, if that
is small enough.

Main statement: a code is below 256 (`keycode?_lt`).
-/
import ShaderPlayer.Text.Word
import ShaderPlayer.Value

namespace ShaderPlayer.Keyboard

/-- The codes of the keys with a name. -/
def named : List (Text × Nat) := [
  ("Backspace".toList, 8), ("Tab".toList, 9), ("Enter".toList, 13), ("Shift".toList, 16),
  ("Control".toList, 17), ("Alt".toList, 18), ("Escape".toList, 27), (" ".toList, 32),
  ("PageUp".toList, 33), ("PageDown".toList, 34), ("End".toList, 35), ("Home".toList, 36),
  ("ArrowLeft".toList, 37), ("ArrowUp".toList, 38), ("ArrowRight".toList, 39),
  ("ArrowDown".toList, 40), ("Delete".toList, 46)]

/-- The letters whose capital form is two characters. -/
def doubledRanges : List (Nat × Nat) := [
  (0xdf, 0xdf), (0x149, 0x149), (0x1f0, 0x1f0), (0x587, 0x587), (0x1e96, 0x1e9a),
  (0x1f50, 0x1f50), (0x1f80, 0x1faf), (0x1fb2, 0x1fb4), (0x1fb6, 0x1fb6), (0x1fbc, 0x1fbc),
  (0x1fc2, 0x1fc4), (0x1fc6, 0x1fc6), (0x1fcc, 0x1fcc), (0x1fd6, 0x1fd6), (0x1fe4, 0x1fe4),
  (0x1fe6, 0x1fe6), (0x1ff2, 0x1ff4), (0x1ff6, 0x1ff6), (0x1ffc, 0x1ffc), (0xfb00, 0xfb02),
  (0xfb05, 0xfb06), (0xfb13, 0xfb17)]

/-- The letters whose capital form is three characters. -/
def tripledRanges : List (Nat × Nat) := [
  (0x390, 0x390), (0x3b0, 0x3b0), (0x1f52, 0x1f52), (0x1f54, 0x1f54), (0x1f56, 0x1f56),
  (0x1fb7, 0x1fb7), (0x1fc7, 0x1fc7), (0x1fd2, 0x1fd3), (0x1fd7, 0x1fd7), (0x1fe2, 0x1fe3),
  (0x1fe7, 0x1fe7), (0x1ff7, 0x1ff7), (0xfb03, 0xfb04)]

/-- The number of characters of a letter's capital form. -/
def capitalLength (c : Char) : Nat :=
  if Text.inRanges doubledRanges c.toNat then 2
  else if Text.inRanges tripledRanges c.toNat then 3
  else 1

/-- The letters and numbers that are their own capital form, or have none. -/
def fixedRanges : List (Nat × Nat) := [
  (0x30, 0x39), (0x41, 0x5a), (0xaa, 0xaa), (0xb2, 0xb3), (0xb9, 0xba), (0xbc, 0xbe),
  (0xc0, 0xd6), (0xd8, 0xde)]

/-- The letters whose capital form lies 32 below them. -/
def loweredRanges : List (Nat × Nat) := [(0x61, 0x7a), (0xe0, 0xf6), (0xf8, 0xfe)]

/-- The code point of the capital form of a letter or number, if it is below 256.
The dotless i and the long s are the letters beyond 255 that have such a form. -/
def capital? (n : Nat) : Option Nat :=
  if Text.inRanges fixedRanges n then some n
  else if Text.inRanges loweredRanges n then some (n - 32)
  else if n = 0x131 then some 0x49
  else if n = 0x17f then some 0x53
  else none

theorem capital?_lt {n code : Nat} (h : capital? n = some code) : code < 256 := by
  simp only [capital?] at h
  split at h
  · next hn =>
    simp [Text.inRanges, fixedRanges] at hn
    simp only [Option.some.injEq] at h
    omega
  · split at h
    · next hn =>
      simp [Text.inRanges, loweredRanges] at hn
      simp only [Option.some.injEq] at h
      omega
    · split at h
      · simp only [Option.some.injEq] at h
        omega
      · split at h
        · simp only [Option.some.injEq] at h
          omega
        · simp at h

/-- The code of a key, if it has one. -/
def keycode? (key : Text) : Except Fault (Option Nat) :=
  match named.lookup key with
  | some code => .ok (some code)
  | none =>
    match key with
    | [c] =>
      if 1 < capitalLength c then .error (.wideKey (capitalLength c))
      else .ok (capital? c.toNat)
    | _ => .ok none

theorem named_lt {key : Text} {code : Nat} (h : named.lookup key = some code) :
    code < 256 := by
  have all : ∀ e ∈ named, e.2 < 256 := by decide
  obtain ⟨before, after, happ, _⟩ := List.lookup_eq_some_iff.1 h
  exact all (key, code) (by simp [happ])

theorem keycode?_lt {key : Text} {code : Nat} (h : keycode? key = .ok (some code)) :
    code < 256 := by
  unfold keycode? at h
  split at h
  · next hn =>
    simp only [Except.ok.injEq, Option.some.injEq] at h
    exact h ▸ named_lt hn
  · split at h
    · split at h
      · simp at h
      · simp only [Except.ok.injEq] at h
        exact capital?_lt h
    · simp at h

/-- The code of a key that a caller gives. -/
def ofValue? : Value → Except Fault (Option Nat)
  | .text key => keycode? key
  | .list items => .error (.noKey (Value.list items).typeName)
  | .dict fields => .error (.noKey (Value.dict fields).typeName)
  | v => .error (.noLength v.typeName)

end ShaderPlayer.Keyboard
