/-
Integers as doubles.

* `roundMagnitude_lt` — a number below the greatest power of two of a format is not rounded to
  infinity;
* `exists_doubleOfInteger` — so an integer of 64 bits has a double;
* `datum_ofRat_natCast` — which is the integer itself where that is short enough.
-/
import ShaderPlayer.Proofs.Number.Single
import ShaderPlayer.Value
import Mathlib.Algebra.Order.Archimedean.Basic

namespace ShaderPlayer

/-- Rounding does not go beyond an integer above the number. -/
theorem nearestEven_le {x : Rat} {n : Int} (h : x < n) : nearestEven x ≤ n := by
  have hfloor : x.floor < n := Rat.floor_lt_iff.mpr h
  unfold nearestEven
  dsimp only
  split
  · omega
  · split <;> omega

namespace Format

variable {f : Format}

/-- A number below the greatest power of two of a format is rounded to a finite one. -/
theorem roundMagnitude_lt {x : Rat} {k : Int} (hlow : (2 : Rat) ^ k ≤ x)
    (hhigh : x < (2 : Rat) ^ (k + 1))
    (hsteps : (max 0 (k - f.fraction - f.leastExponent)).toNat + 2 < 2 ^ f.exponent - 1) :
    f.roundMagnitude x < f.infinity := by
  have hx : 0 < x := lt_of_lt_of_le (two_zpow_pos k) hlow
  set unit := max f.leastExponent (k - f.fraction) with hunit
  have hscaled : x * (2 : Rat) ^ (-unit) < ((2 ^ (f.fraction + 1) : Nat) : Int) := by
    calc x * (2 : Rat) ^ (-unit) < 2 ^ (k + 1) * 2 ^ (-unit) :=
          mul_lt_mul_of_pos_right hhigh (two_zpow_pos _)
      _ = 2 ^ (k + 1 - unit) := by rw [← zpow_add₀ (by norm_num), Int.sub_eq_add_neg]
      _ ≤ 2 ^ ((f.fraction + 1 : Nat) : Int) := zpow_le_zpow_right₀ (by norm_num) (by omega)
      _ = ((2 ^ (f.fraction + 1) : Nat) : Int) := by push_cast [zpow_natCast]; rfl
  have hdigits : (nearestEven (x * (2 : Rat) ^ (-unit))).toNat ≤ 2 * 2 ^ f.fraction := by
    have hnearest := nearestEven_le hscaled
    rw [Nat.pow_succ, Nat.mul_comm] at hnearest
    omega
  have hexponent : (unit - f.leastExponent).toNat
      = (max 0 (k - f.fraction - f.leastExponent)).toNat := by omega
  unfold roundMagnitude
  rw [if_neg (ne_of_gt hx), binaryExponent_eq hlow hhigh, shiftLeft_one]
  dsimp only
  rw [← hunit, hexponent]
  refine lt_of_le_of_lt (Nat.min_le_right ..) ?_
  set steps := (max 0 (k - f.fraction - f.leastExponent)).toNat
  calc steps * 2 ^ f.fraction + (nearestEven (x * (2 : Rat) ^ (-unit))).toNat
      ≤ steps * 2 ^ f.fraction + 2 * 2 ^ f.fraction := Nat.add_le_add_left hdigits _
    _ = (steps + 2) * 2 ^ f.fraction := (Nat.add_mul ..).symm
    _ < f.infinity := by
      rw [infinity_eq]
      exact Nat.mul_lt_mul_of_pos_right hsteps (Nat.two_pow_pos _)

end Format

namespace Double

open Format

/-- A number of 64 bits before its point has a double. -/
theorem roundMagnitude_lt_infinity {x : Rat} (hx : 0 ≤ x) (h : x < 2 ^ 64) :
    double.roundMagnitude x < double.infinity := by
  rcases hx.eq_or_lt with rfl | hpos
  · rw [roundMagnitude_zero]
    decide
  · obtain ⟨k, hlow, hhigh⟩ := exists_mem_Ico_zpow hpos (by norm_num : (1 : Rat) < 2)
    have hfew : k < 64 := (zpow_lt_zpow_iff_right₀ (by norm_num : (1 : Rat) < 2)).mp
      (lt_of_le_of_lt hlow (by exact_mod_cast h))
    refine roundMagnitude_lt hlow hhigh ?_
    have hleast : double.leastExponent = -1074 := rfl
    have hfraction : (double.fraction : Int) = 52 := rfl
    have hexponent : 2 ^ double.exponent = 2048 := rfl
    rw [hleast, hfraction, hexponent]
    omega

theorem datum_ofMagnitude (negative : Bool) {x : Rat} (hx : 0 ≤ x) (h : x < 2 ^ 64) :
    (ofMagnitude negative x).datum
      = .finite negative (double.value (double.roundMagnitude x)) := by
  have hfinite := roundMagnitude_lt_infinity hx h
  have hsign : double.infinity < double.signBit := by decide
  have hword := withSign_lt double negative (Nat.lt_trans hfinite hsign)
  have hbits : (ofMagnitude negative x).bits.toNat = double.encode negative x :=
    toNat_bits_ofWord hword
  rw [datum, hbits]
  exact decode_finite negative hfinite

/-- An integer that is as short as the numbers of the format is one of them. -/
theorem value_roundMagnitude_natCast {n : Nat} (h : n < 2 ^ 53) :
    double.value (double.roundMagnitude n) = n := by
  rcases Nat.eq_zero_or_pos n with rfl | hpos
  · rw [Nat.cast_zero, roundMagnitude_zero, value_zero]
  · have hrounded := @rounded_of_short n 0 hpos h (by decide) (by decide)
    rw [zpow_zero, mul_one] at hrounded
    exact hrounded.2

theorem datum_ofRat_natCast {n : Nat} (h : n < 2 ^ 53) : (ofRat n).datum = .finite false n := by
  have hlt : (n : Rat) < 2 ^ 64 := by exact_mod_cast Nat.lt_trans h (by decide)
  rw [ofRat, if_neg (not_lt.mpr n.cast_nonneg), datum_ofMagnitude false n.cast_nonneg hlt,
    value_roundMagnitude_natCast h]

end Double

/-- An integer of 64 bits has a double. -/
theorem Value.exists_doubleOfInteger {n : Int} (h : n.natAbs < 2 ^ 64) :
    ∃ x, Value.doubleOfInteger n = .ok x := by
  obtain ⟨negative, hn⟩ : ∃ negative, Double.ofRat n = Double.ofMagnitude negative n.natAbs := by
    unfold Double.ofRat
    by_cases hnegative : (n : Rat) < 0
    · have habs : (n.natAbs : Rat) = -n := by
        rw [Nat.cast_natAbs, Int.cast_abs, abs_of_neg hnegative]
      exact ⟨true, by rw [if_pos hnegative, habs]⟩
    · have habs : (n.natAbs : Rat) = n := by
        rw [Nat.cast_natAbs, Int.cast_abs, abs_of_nonneg (not_lt.mp hnegative)]
      exact ⟨false, by rw [if_neg hnegative, habs]⟩
  have hdatum := Double.datum_ofMagnitude negative (Nat.cast_nonneg n.natAbs) (by exact_mod_cast h)
  refine ⟨Double.ofRat n, ?_⟩
  unfold doubleOfInteger Double.ofInt?
  rw [hn]
  dsimp only
  rw [hdatum]

end ShaderPlayer
