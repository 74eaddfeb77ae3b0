/-
What comes back from the screen.

Texels are read as half-precision numbers and become bytes, zero to one spread over
0 to 255; what is no number counts as zero.  The counters of failed assertions become
percentages of the screen's threads.

Main statements: a number not below one becomes 255 (`byteOf_of_one_le`), a
negative one zero (`byteOf_of_negative`), and the byte computed from a texel's bits alone
is that of the number they mean (`texelByte_eq`).
-/
import ShaderPlayer.Number.Double
import ShaderPlayer.Text.Utf8

namespace ShaderPlayer.Screen

/-- The smaller of a number and one. -/
def belowOne (x : Rat) : Rat := if x ≤ 1 then x else 1

/-- The byte of a texel's component: its value is kept between zero and one, spread
over 255 and rounded. -/
def byteOf : Format.Datum → UInt8
  | .nan .. => 0
  | .infinite negative => if negative then 0 else 255
  | .finite negative magnitude =>
    if negative then 0 else UInt8.ofNat (belowOne magnitude * 255 + 1 / 2).floor.toNat

theorem byteOf_of_negative (magnitude : Rat) : byteOf (.finite true magnitude) = 0 := rfl

theorem byteOf_of_one_le {magnitude : Rat} (h : 1 ≤ magnitude) :
    byteOf (.finite false magnitude) = 255 := by
  have hmin : belowOne magnitude = 1 := by
    unfold belowOne
    split
    · next h' => exact Rat.le_antisymm h' h
    · rfl
  simp only [byteOf, hmin]
  decide +kernel

/-! ### Texels -/

/-- The magnitude of half-precision bits without their sign, in units of 2 ^ -24. -/
def halfUnits (word : Nat) : Nat :=
  if word < 1024 then word else (1024 + word % 1024) <<< (word / 1024 - 1)

/-- The byte of a component's half-precision bits.  A screen has many of them, so it is
computed in whole units: above the bits of infinity lie only negative numbers and what is
no number, and from those of one on every number is at least one. -/
def texelByte (bits : UInt16) : UInt8 :=
  let word := bits.toNat
  if 0x7c00 < word then 0
  else if 0x3c00 ≤ word then 255
  else UInt8.ofNat ((510 * halfUnits word + 16777216) / 33554432)

/-- The bytes of texels. -/
def texelBytes (components : List UInt16) : Bytes := components.map texelByte

theorem le_halfUnits {w : Nat} (h : 0x3c00 ≤ w) : 16777216 ≤ halfUnits w := by
  unfold halfUnits
  rw [if_neg (by omega), Nat.shiftLeft_eq]
  have : 2 ^ 14 ≤ 2 ^ (w / 1024 - 1) := Nat.pow_le_pow_right (by decide) (by omega)
  calc 16777216 = 1024 * 2 ^ 14 := by decide
    _ ≤ (1024 + w % 1024) * 2 ^ (w / 1024 - 1) := Nat.mul_le_mul (by omega) this

theorem halfUnits_lt {w : Nat} (h : w < 0x3c00) : halfUnits w < 16777216 := by
  unfold halfUnits
  split
  · omega
  · rw [Nat.shiftLeft_eq]
    have : 2 ^ (w / 1024 - 1) ≤ 2 ^ 13 := Nat.pow_le_pow_right (by decide) (by omega)
    calc (1024 + w % 1024) * 2 ^ (w / 1024 - 1) ≤ 2047 * 2 ^ 13 :=
          Nat.mul_le_mul (by omega) this
      _ < 16777216 := by decide

/-- A unit as a fraction. -/
theorem unit_eq : (2 : Rat) ^ (-24 : Int) = 1 / 16777216 := by decide +kernel

theorem floor_eq {x : Rat} {n : Int} (h : (n : Rat) ≤ x) (h' : x < (n : Rat) + 1) :
    x.floor = n := by
  have below : n ≤ x.floor := Rat.le_floor_iff.2 h
  have above : ¬ (n + 1 ≤ x.floor) := by
    rw [Rat.le_floor_iff]
    push_cast
    grind
  omega

theorem floor_units {u k : Nat} (low : 33554432 * k ≤ 510 * u + 16777216)
    (high : 510 * u + 16777216 < 33554432 * (k + 1)) :
    ((u : Rat) * (1 / 16777216) * 255 + 1 / 2).floor = (k : Int) := by
  have low' : (33554432 : Rat) * k ≤ 510 * u + 16777216 := by exact_mod_cast low
  have high' : (510 : Rat) * u + 16777216 < 33554432 * (k + 1) := by exact_mod_cast high
  exact floor_eq (by push_cast; grind) (by push_cast; grind)

theorem byteOf_finite (magnitude : Rat) :
    byteOf (.finite false magnitude) = UInt8.ofNat (belowOne magnitude * 255 + 1 / 2).floor.toNat :=
  rfl

theorem byteOf_units_of_lt {u : Nat} (h : u < 16777216) :
    byteOf (.finite false ((u : Rat) * (2 : Rat) ^ (-24 : Int))) =
      UInt8.ofNat ((510 * u + 16777216) / 33554432) := by
  have hu : (u : Rat) < 16777216 := by exact_mod_cast h
  have hmin : belowOne ((u : Rat) * (1 / 16777216)) = (u : Rat) * (1 / 16777216) := by
    rw [belowOne, if_pos (by grind)]
  rw [unit_eq, byteOf_finite, hmin,
    floor_units (Nat.mul_div_le _ 33554432) (Nat.lt_mul_div_succ _ (by decide)),
    Int.toNat_natCast]

theorem byteOf_units_of_le {u : Nat} (h : 16777216 ≤ u) :
    byteOf (.finite false ((u : Rat) * (2 : Rat) ^ (-24 : Int))) = 255 := by
  have hu : (16777216 : Rat) ≤ u := by exact_mod_cast h
  rw [unit_eq]
  exact byteOf_of_one_le (by grind)

/-- Bits below those of infinity mean so many units. -/
theorem decode_half {w : Nat} (h : w < 0x7c00) :
    Format.half.decode w = .finite false ((halfUnits w : Rat) * (2 : Rat) ^ (-24 : Int)) := by
  have hn : w / 32768 % 2 = 0 := by omega
  have hb : w / 1024 % 32 = w / 1024 := by omega
  have hl : Format.half.leastExponent = -24 := by decide
  have hs : Format.half.signBit = 32768 := rfl
  have hf : 1 <<< Format.half.fraction = 1024 := rfl
  have he : 1 <<< Format.half.exponent = 32 := rfl
  unfold Format.decode
  simp only [hs, hl, hf, he, hn, hb]
  rw [if_neg (by omega)]
  unfold halfUnits
  split
  · rw [if_pos (by omega), Nat.mod_eq_of_lt (by omega)]
    rfl
  · rw [if_neg (by omega)]
    have power (k : Nat) :
        (2 : Rat) ^ (-24 + (k : Int)) = (2 : Rat) ^ k * 2 ^ (-24 : Int) := by
      rw [Rat.zpow_add (by decide), Rat.zpow_natCast, Rat.mul_comm]
    rw [power, Nat.shiftLeft_eq, Rat.natCast_mul, Rat.natCast_pow, Rat.mul_assoc]
    rfl

/-- Above the bits of infinity nothing is positive. -/
theorem byteOf_decode_of_lt {w : Nat} (h : 0x7c00 < w) (h' : w < 65536) :
    byteOf (Format.half.decode w) = 0 := by
  have hs : Format.half.signBit = 32768 := rfl
  have hf : 1 <<< Format.half.fraction = 1024 := rfl
  have he : 1 <<< Format.half.exponent = 32 := rfl
  unfold Format.decode
  simp only [hs, hf, he]
  have nan (hn : w / 32768 % 2 ≠ 1) : w / 1024 % 32 = 31 ∧ w % 1024 ≠ 0 := by omega
  by_cases hn : w / 32768 % 2 = 1
  · simp only [hn, decide_true]
    split
    · split <;> rfl
    · split <;> rfl
  · rw [if_pos (nan hn).1, if_neg (nan hn).2]
    rfl

theorem texelByte_eq (bits : UInt16) :
    texelByte bits = byteOf (Format.half.decode bits.toNat) := by
  have hb : bits.toNat < 65536 := bits.toNat_lt
  unfold texelByte
  generalize bits.toNat = w at hb
  simp only
  split
  · rw [byteOf_decode_of_lt ‹_› hb]
  · split
    · by_cases hw : w = 0x7c00
      · subst hw
        rfl
      · rw [decode_half (by omega), byteOf_units_of_le (le_halfUnits ‹_›)]
    · rw [decode_half (by omega), byteOf_units_of_lt (halfUnits_lt (by omega))]

/-! ### Assertions -/

/-- The percentage of a counter's threads among those of a screen of so many texels,
with two places.  The counter is multiplied in its own 32 bits. -/
def percentage (count : UInt32) (texels : Int) : Text :=
  let hundredfold := (100 * count).toNat
  if texels = 0 then (if hundredfold = 0 then "nan".toList else "inf".toList)
  else
    match ((Double.ofRat hundredfold).div (Double.ofRat texels)).datum with
    | .finite negative magnitude =>
      (if negative then ['-'] else []) ++ Text.ofHundredths magnitude
    | .infinite negative => if negative then "-inf".toList else "inf".toList
    | .nan .. => "nan".toList

/-- What is reported about an assertion that failed. -/
def failureMessage (count : UInt32) (texels : Int) : Text :=
  "Assertion failed in ".toList ++ percentage count texels ++ "% of threads".toList

end ShaderPlayer.Screen
