/-
What rounding to a format gives.

The magnitude bits of a format count its numbers in order, and the bits of infinity count as the
power of two behind the greatest of them.  Rounding takes the nearest in this order:

* `value_strictMono` — the numbers grow with their bits;
* `exists_bracket` — a number lies between those of two bits that follow each other, in so many
  units of the first one and the next;
* `strict_of_nearer_below`, `strict_of_nearer_above`, `tie_of_middle` — so one of the two is the
  nearest of all, or both are;
* `nearest_roundMagnitude` — rounding gives the nearest, and the even one of two;
* `roundMagnitude_eq_infinity_iff` — a number is out of range exactly if it is not nearer to the
  greatest number than to the power of two behind it;
* `nearestSingle_toSingle`, `nearestDouble_of_ofInt` — so a double becomes the nearest number of
  single precision, and an integer the nearest double.
-/
import ShaderPlayer.Proofs.Number.Single
import Mathlib.Algebra.Order.Archimedean.Basic

namespace ShaderPlayer.Format

/-- The bits of the number nearest to `x`, the even ones of two.  A number that is nearer to the
power of two behind all numbers of the format is out of range, and infinity is nearest to it. -/
structure Nearest (f : Format) (x : Rat) (bits : Nat) : Prop where
  le : bits ≤ f.infinity
  nearest : ∀ other ≤ f.infinity, |x - f.value bits| ≤ |x - f.value other|
  even : ∀ other ≤ f.infinity, other ≠ bits → |x - f.value bits| = |x - f.value other| → bits % 2 = 0

variable {f : Format}

/-- A number that a format has is the nearest to itself. -/
theorem Nearest.value_eq {x : Rat} {bits other : Nat} (h : f.Nearest x bits)
    (hother : other ≤ f.infinity) (hx : f.value other = x) : f.value bits = x := by
  have hclosest := h.nearest other hother
  rw [hx, sub_self, abs_zero] at hclosest
  have hnone : x - f.value bits = 0 := abs_eq_zero.mp (le_antisymm hclosest (abs_nonneg _))
  linarith

/-! ### Numbers in order -/

/-- Units that carry into the exponent are still read as they are. -/
theorem value_pack_le {units : Nat} {exponent : Int} (hunits : units ≤ 2 ^ (f.fraction + 1))
    (hleast : f.leastExponent ≤ exponent)
    (hfull : exponent = f.leastExponent ∨ 2 ^ f.fraction ≤ units) :
    f.value (f.pack units exponent) = units * 2 ^ exponent := by
  have hpower : 0 < 2 ^ f.fraction := Nat.two_pow_pos _
  rcases Nat.eq_zero_or_pos units with rfl | hpos
  · obtain rfl := hfull.resolve_right (by omega)
    rw [pack, Int.sub_self, Int.toNat_zero, Nat.zero_mul, Nat.add_zero, value_zero, Nat.cast_zero,
      zero_mul]
  rcases Nat.lt_or_eq_of_le hunits with hshort | rfl
  · exact value_pack ⟨hpos, hshort, hleast, hfull⟩
  · have hnormal : f.Normal (2 ^ f.fraction) (exponent + 1) :=
      ⟨hpower, Nat.pow_lt_pow_right (by decide) (Nat.lt_succ_self _), by omega, .inr (le_refl _)⟩
    have hpack : f.pack (2 ^ (f.fraction + 1)) exponent = f.pack (2 ^ f.fraction) (exponent + 1) := by
      have hsteps : (exponent + 1 - f.leastExponent).toNat
          = (exponent - f.leastExponent).toNat + 1 := by omega
      rw [pack, pack, hsteps]
      ring
    rw [hpack, value_pack hnormal, zpow_add_one₀ (by norm_num)]
    push_cast
    ring

theorem value_lt_succ (bits : Nat) : f.value bits < f.value (bits + 1) := by
  have hpower : 0 < 2 ^ f.fraction := Nat.two_pow_pos _
  rcases Nat.eq_zero_or_pos bits with rfl | hpos
  · have hone : f.value (f.pack 1 f.leastExponent) = (1 : Nat) * 2 ^ f.leastExponent :=
      value_pack_le Nat.one_le_two_pow (le_refl _) (.inl rfl)
    rw [pack, Int.sub_self, Int.toNat_zero, Nat.zero_mul, Nat.cast_one, one_mul] at hone
    rw [value_zero, hone]
    exact two_zpow_pos _
  · obtain ⟨units, exponent, hnormal, hpack, _⟩ := exists_normal_of_pos (f := f) hpos
    have hnext : f.value (f.pack (units + 1) exponent) = (units + 1 : Nat) * 2 ^ exponent :=
      value_pack_le hnormal.short hnormal.least (hnormal.full.imp_right fun h => by omega)
    have hsucc : f.pack (units + 1) exponent = f.pack units exponent + 1 := rfl
    rw [hsucc, hpack] at hnext
    rw [hnext, ← hpack, value_pack hnormal]
    push_cast
    linarith [two_zpow_pos exponent]

theorem value_strictMono : StrictMono f.value := strictMono_nat_of_lt_succ value_lt_succ

/-! ### The two numbers around -/

section Between

variable {x : Rat} {bits other : Nat}

theorem sub_le_distance (h : other ≤ bits) : x - f.value bits ≤ |x - f.value other| := by
  have hvalue := (value_strictMono (f := f)).monotone h
  linarith [le_abs_self (x - f.value other)]

theorem sub_lt_distance (h : other < bits) : x - f.value bits < |x - f.value other| := by
  have hvalue := value_strictMono (f := f) h
  linarith [le_abs_self (x - f.value other)]

theorem sub_le_distance_above (h : bits ≤ other) : f.value bits - x ≤ |x - f.value other| := by
  have hvalue := (value_strictMono (f := f)).monotone h
  linarith [neg_abs_le (x - f.value other)]

theorem sub_lt_distance_above (h : bits < other) : f.value bits - x < |x - f.value other| := by
  have hvalue := value_strictMono (f := f) h
  linarith [neg_abs_le (x - f.value other)]

/-- The number below is the nearest of all if it is nearer than the one above. -/
theorem strict_of_nearer_below (hlow : f.value bits ≤ x)
    (hnear : x - f.value bits < f.value (bits + 1) - x) (hother : other ≠ bits) :
    |x - f.value bits| < |x - f.value other| := by
  rw [abs_of_nonneg (sub_nonneg.mpr hlow)]
  rcases Nat.lt_or_gt_of_ne hother with hlt | hgt
  · exact sub_lt_distance hlt
  · exact lt_of_lt_of_le hnear (sub_le_distance_above hgt)

/-- And the one above if it is nearer. -/
theorem strict_of_nearer_above (hhigh : x < f.value (bits + 1))
    (hnear : f.value (bits + 1) - x < x - f.value bits) (hother : other ≠ bits + 1) :
    |x - f.value (bits + 1)| < |x - f.value other| := by
  rw [abs_sub_comm, abs_of_nonneg (sub_nonneg.mpr (le_of_lt hhigh))]
  rcases Nat.lt_or_gt_of_ne hother with hlt | hgt
  · exact lt_of_lt_of_le hnear (sub_le_distance (Nat.le_of_lt_succ hlt))
  · exact sub_lt_distance_above hgt

/-- In the middle there is none nearer than either. -/
theorem tie_of_middle (hlow : f.value bits ≤ x) (hhigh : x < f.value (bits + 1))
    (hmiddle : x - f.value bits = f.value (bits + 1) - x) (other : Nat) :
    |x - f.value bits| ≤ |x - f.value other| ∧ |x - f.value (bits + 1)| ≤ |x - f.value other| := by
  rw [abs_sub_comm x (f.value (bits + 1)), abs_of_nonneg (sub_nonneg.mpr hlow),
    abs_of_nonneg (sub_nonneg.mpr (le_of_lt hhigh)), ← hmiddle, and_self]
  rcases Nat.lt_or_ge bits other with hlt | hge
  · rw [hmiddle]
    exact sub_le_distance_above hlt
  · exact sub_le_distance hge

end Between

theorem Nearest.of_strict {x : Rat} {bits : Nat} (hle : bits ≤ f.infinity)
    (hstrict : ∀ other ≤ f.infinity, other ≠ bits → |x - f.value bits| < |x - f.value other|) :
    f.Nearest x bits where
  le := hle
  nearest other hother := by
    by_cases h : other = bits
    · rw [h]
    · exact le_of_lt (hstrict other hother h)
  even other hother hne heq := absurd heq (ne_of_lt (hstrict other hother hne))

/-! ### Rounding -/

/-- The unit in the last place of a positive number. -/
theorem exists_unit {x : Rat} (hx : 0 < x) :
    ∃ unit, f.leastExponent ≤ unit ∧ x * 2 ^ (-unit) < (2 ^ (f.fraction + 1) : Nat)
      ∧ (unit = f.leastExponent ∨ (2 ^ f.fraction : Nat) ≤ x * 2 ^ (-unit))
      ∧ f.roundMagnitude x = min f.infinity ((unit - f.leastExponent).toNat * 2 ^ f.fraction
          + (nearestEven (x * 2 ^ (-unit))).toNat) := by
  obtain ⟨k, hlow, hhigh⟩ := exists_mem_Ico_zpow hx (by norm_num : (1 : Rat) < 2)
  have hscale (a : Int) : (2 : Rat) ^ a * 2 ^ (-max f.leastExponent (k - f.fraction))
      = 2 ^ (a - max f.leastExponent (k - f.fraction)) := by
    rw [← zpow_add₀ (by norm_num), ← sub_eq_add_neg]
  have hpower := two_zpow_pos (-max f.leastExponent (k - f.fraction))
  refine ⟨max f.leastExponent (k - f.fraction), le_max_left _ _, ?_, ?_, ?_⟩
  · calc x * 2 ^ (-max f.leastExponent (k - f.fraction))
        < 2 ^ (k + 1) * 2 ^ (-max f.leastExponent (k - f.fraction)) :=
          mul_lt_mul_of_pos_right hhigh hpower
      _ ≤ 2 ^ ((f.fraction + 1 : Nat) : Int) := by
          rw [hscale]
          exact zpow_le_zpow_right₀ (by norm_num) (by omega)
      _ = (2 ^ (f.fraction + 1) : Nat) := by rw [zpow_natCast]; push_cast; rfl
  · by_cases hleast : k - f.fraction ≤ f.leastExponent
    · exact .inl (max_eq_left hleast)
    · right
      calc ((2 ^ f.fraction : Nat) : Rat)
          = 2 ^ (k - max f.leastExponent (k - f.fraction)) := by
            rw [max_eq_right (by omega), Int.sub_sub_self, zpow_natCast]
            push_cast
            rfl
        _ ≤ x * 2 ^ (-max f.leastExponent (k - f.fraction)) := by
            rw [← hscale]
            exact mul_le_mul_of_nonneg_right hlow (le_of_lt hpower)
  · rw [roundMagnitude, if_neg (ne_of_gt hx), binaryExponent_eq hlow hhigh, shiftLeft_one]

/-- A positive number lies between the numbers of two bits that follow each other, and is rounded by
how far it is from the one to the next. -/
structure Bracket (f : Format) (x : Rat) (units : Nat) (unit : Int) : Prop where
  low : (units : Rat) ≤ x * 2 ^ (-unit)
  high : x * 2 ^ (-unit) < units + 1
  value : f.value (f.pack units unit) = units * 2 ^ unit
  value_succ : f.value (f.pack units unit + 1) = (units + 1) * 2 ^ unit
  rounded : f.roundMagnitude x = min f.infinity
    (f.pack 0 unit + (nearestEven (x * 2 ^ (-unit))).toNat)

theorem exists_bracket {x : Rat} (hx : 0 < x) : ∃ units unit, f.Bracket x units unit := by
  obtain ⟨unit, hleast, hhigh, hfull, hrounded⟩ := exists_unit (f := f) hx
  have hscaled : 0 ≤ x * 2 ^ (-unit) := le_of_lt (mul_pos hx (two_zpow_pos _))
  set units := ⌊x * (2 : Rat) ^ (-unit)⌋₊ with hunits
  have hlow : (units : Rat) ≤ x * 2 ^ (-unit) := Nat.floor_le hscaled
  have hshort : units + 1 ≤ 2 ^ (f.fraction + 1) := (Nat.floor_lt hscaled).mpr hhigh
  have hmany : unit = f.leastExponent ∨ 2 ^ f.fraction ≤ units :=
    hfull.imp_right fun h => Nat.le_floor h
  refine ⟨units, unit, hlow, Nat.lt_floor_add_one _, ?_, ?_, ?_⟩
  · exact value_pack_le (Nat.le_of_succ_le hshort) hleast hmany
  · have hnext := value_pack_le hshort hleast (hmany.imp_right Nat.le_succ_of_le)
    push_cast at hnext
    exact hnext
  · exact hrounded

theorem eq_mul_unit (x : Rat) (unit : Int) : x = x * 2 ^ (-unit) * 2 ^ unit := by
  rw [mul_assoc, ← zpow_add₀ (by norm_num), neg_add_cancel, zpow_zero, mul_one]

namespace Bracket

variable {x : Rat} {units : Nat} {unit : Int} (h : f.Bracket x units unit)

include h

theorem value_le : f.value (f.pack units unit) ≤ x := by
  rw [h.value, eq_mul_unit x unit]
  exact mul_le_mul_of_nonneg_right h.low (le_of_lt (two_zpow_pos unit))

theorem lt_value_succ : x < f.value (f.pack units unit + 1) := by
  rw [h.value_succ, eq_mul_unit x unit]
  exact mul_lt_mul_of_pos_right h.high (two_zpow_pos unit)

/-- The two distances, in units. -/
theorem distances : x - f.value (f.pack units unit) = (x * 2 ^ (-unit) - units) * 2 ^ unit
    ∧ f.value (f.pack units unit + 1) - x = (units + 1 - x * 2 ^ (-unit)) * 2 ^ unit := by
  rw [h.value, h.value_succ, sub_mul, sub_mul, ← eq_mul_unit x unit]
  exact ⟨rfl, rfl⟩

/-- The bits that rounding takes, before they are cut at infinity: those of the nearer number, and
in the middle the even ones. -/
theorem rounded_cases (hfraction : 0 < f.fraction) :
    (x - f.value (f.pack units unit) < f.value (f.pack units unit + 1) - x
        ∧ f.roundMagnitude x = min f.infinity (f.pack units unit))
      ∨ (f.value (f.pack units unit + 1) - x < x - f.value (f.pack units unit)
        ∧ f.roundMagnitude x = min f.infinity (f.pack units unit + 1))
      ∨ (x - f.value (f.pack units unit) = f.value (f.pack units unit + 1) - x
        ∧ ∃ bits, f.roundMagnitude x = min f.infinity bits ∧ bits % 2 = 0
          ∧ (bits = f.pack units unit ∨ bits = f.pack units unit + 1)) := by
  have hfloor : (x * 2 ^ (-unit)).floor = (units : Int) := by
    show ⌊x * (2 : Rat) ^ (-unit)⌋ = _
    exact Int.floor_eq_iff.mpr ⟨by exact_mod_cast h.low, by exact_mod_cast h.high⟩
  have hcast : (((units : Int) : Rat)) = units := Int.cast_natCast units
  have hpower := two_zpow_pos unit
  have hbits (n : Nat) : f.pack 0 unit + (units + n) = f.pack units unit + n := by
    rw [pack, pack]
    omega
  obtain ⟨hbelow, habove⟩ := h.distances
  have hrounded := h.rounded
  rw [hbelow, habove, mul_lt_mul_iff_left₀ hpower, mul_lt_mul_iff_left₀ hpower,
    mul_left_inj' (ne_of_gt hpower)]
  unfold nearestEven at hrounded
  rw [hfloor] at hrounded
  dsimp only at hrounded
  rw [hcast] at hrounded
  split at hrounded
  · refine .inl ⟨by linarith, ?_⟩
    rw [hrounded, Int.toNat_natCast]
    exact congrArg (min f.infinity) (hbits 0)
  split at hrounded
  · refine .inr (.inl ⟨by linarith, ?_⟩)
    rw [hrounded]
    exact congrArg (min f.infinity) (hbits 1)
  · refine .inr (.inr ⟨by linarith, f.pack units unit + units % 2, ?_, ?_, ?_⟩)
    · rw [hrounded, ← hbits]
      congr 2
    · -- the steps of the exponent are even numbers of bits
      obtain ⟨fraction, hsucc⟩ := Nat.exists_eq_add_one.mpr hfraction
      have heven : f.pack 0 unit % 2 = 0 := by
        rw [pack, hsucc, Nat.pow_succ, Nat.add_zero, ← Nat.mul_assoc]
        exact Nat.mul_mod_left _ _
      have hzero := hbits 0
      omega
    · omega

end Bracket

/-- Rounding takes the nearest number, and of two the one with even bits. -/
theorem nearest_roundMagnitude (hfraction : 0 < f.fraction) {x : Rat} (hx : 0 ≤ x) :
    f.Nearest x (f.roundMagnitude x) := by
  rcases hx.eq_or_lt with rfl | hpos
  · rw [roundMagnitude_zero]
    refine .of_strict (Nat.zero_le _) fun other _ hother => ?_
    rw [value_zero, sub_zero, abs_zero, abs_pos, zero_sub, neg_ne_zero, ← value_zero (f := f)]
    exact fun h => hother (value_strictMono.injective h)
  obtain ⟨units, unit, hbracket⟩ := exists_bracket (f := f) hpos
  have hlow := hbracket.value_le
  have hhigh := hbracket.lt_value_succ
  have hcases := hbracket.rounded_cases hfraction
  set bits := f.pack units unit
  by_cases hrange : bits < f.infinity
  · have hcut : min f.infinity bits = bits := Nat.min_eq_right (le_of_lt hrange)
    have hcut' : min f.infinity (bits + 1) = bits + 1 := Nat.min_eq_right hrange
    rcases hcases with ⟨hnear, heq⟩ | ⟨hnear, heq⟩ | ⟨hmiddle, chosen, heq, heven, hchosen⟩
    · rw [heq, hcut]
      exact .of_strict (le_of_lt hrange) fun _ _ => strict_of_nearer_below hlow hnear
    · rw [heq, hcut']
      exact .of_strict hrange fun _ _ => strict_of_nearer_above hhigh hnear
    · have hle : chosen ≤ f.infinity := by omega
      rw [heq, Nat.min_eq_right hle]
      refine ⟨hle, fun other _ => ?_, fun _ _ _ _ => heven⟩
      have htie := tie_of_middle hlow hhigh hmiddle other
      rcases hchosen with rfl | rfl
      · exact htie.1
      · exact htie.2
  · -- the number is not below infinity, so all that is below infinity is farther
    have hcut (more : Nat) : min f.infinity (bits + more) = f.infinity :=
      Nat.min_eq_left (by omega)
    have heq : f.roundMagnitude x = f.infinity := by
      rcases hcases with ⟨_, heq⟩ | ⟨_, heq⟩ | ⟨_, chosen, heq, _, rfl | rfl⟩
      · exact heq.trans (hcut 0)
      · exact heq.trans (hcut 1)
      · exact heq.trans (hcut 0)
      · exact heq.trans (hcut 1)
    have hinfinity : f.value f.infinity ≤ x :=
      le_trans (value_strictMono.monotone (not_lt.mp hrange)) hlow
    rw [heq]
    refine .of_strict (le_refl _) fun other hother hne => ?_
    rw [abs_of_nonneg (sub_nonneg.mpr hinfinity)]
    exact sub_lt_distance (lt_of_le_of_ne hother hne)

/-- A number is out of range exactly if it is no nearer to the greatest number than to the power of
two behind it. -/
theorem roundMagnitude_eq_infinity_iff (hfraction : 0 < f.fraction) (hexponent : 0 < f.exponent)
    {x : Rat} (hx : 0 ≤ x) :
    f.roundMagnitude x = f.infinity
      ↔ f.value f.infinity - x ≤ x - f.value (f.infinity - 1) := by
  have hnearest := nearest_roundMagnitude hfraction hx
  have hpos : 0 < f.infinity := by
    rw [infinity_eq]
    have htwo : 2 ≤ 2 ^ f.exponent := Nat.le_self_pow (by omega) 2
    exact Nat.mul_pos (by omega) (Nat.two_pow_pos _)
  have heven : f.infinity % 2 = 0 := by
    obtain ⟨fraction, hsucc⟩ := Nat.exists_eq_add_one.mpr hfraction
    rw [infinity_eq, hsucc, Nat.pow_succ, ← Nat.mul_assoc]
    exact Nat.mul_mod_left _ _
  have hstep : f.value (f.infinity - 1) < f.value f.infinity :=
    value_strictMono (Nat.sub_lt hpos Nat.one_pos)
  constructor
  · intro heq
    have hcloser := hnearest.nearest (f.infinity - 1) (Nat.sub_le _ _)
    rw [heq] at hcloser
    rcases abs_cases (x - f.value (f.infinity - 1)) with ⟨habs, _⟩ | ⟨habs, _⟩
    · linarith [neg_abs_le (x - f.value f.infinity)]
    · linarith [neg_abs_le (x - f.value f.infinity)]
  · intro hfar
    by_contra hne
    have hlt := lt_of_le_of_ne hnearest.le hne
    have hvalue := (value_strictMono (f := f)).monotone (Nat.le_sub_one_of_lt hlt)
    have hcloser := hnearest.nearest f.infinity (le_refl _)
    have hbelow : |x - f.value (f.roundMagnitude x)| = x - f.value (f.roundMagnitude x) :=
      abs_of_nonneg (by linarith)
    rcases abs_cases (x - f.value f.infinity) with ⟨habs, _⟩ | ⟨habs, _⟩
    · linarith
    · -- it is as near to infinity, and the bits of the greatest number are odd
      have hlast : f.value (f.roundMagnitude x) = f.value (f.infinity - 1) := by linarith
      have hodd := hnearest.even f.infinity (le_refl _) (Ne.symm hne) (by linarith)
      rw [value_strictMono.injective hlast] at hodd
      omega

end ShaderPlayer.Format

namespace ShaderPlayer.Double

open Format

/-! ### Single precision and integers -/

/-- The bits of single precision nearest to a double: those of infinity for one that is out of range
or infinite, and none of a number for none. -/
def NearestSingle (x : Double) (word : UInt32) : Prop :=
  match x.datum with
  | .finite negative magnitude =>
    ∃ bits, single.Nearest magnitude bits ∧ word.toNat = single.withSign negative bits
  | .infinite negative => word.toNat = single.withSign negative single.infinity
  | .nan negative _ => ∃ payload, single.decode word.toNat = .nan negative payload

/-- The double nearest to an integer that is not out of range. -/
def NearestDouble (n : Int) (x : Double) : Prop :=
  ∃ bits, bits < double.infinity ∧ double.Nearest |(n : Rat)| bits
    ∧ x.bits.toNat = double.withSign (n < 0) bits

theorem magnitude_nonneg {f : Format} {word : Nat} {negative : Bool} {magnitude : Rat}
    (h : f.decode word = .finite negative magnitude) : 0 ≤ magnitude := by
  unfold decode at h
  dsimp only at h
  split at h
  · split at h <;> cases h
  · split at h
    all_goals
      obtain ⟨_, rfl⟩ := Datum.finite.inj h
      positivity

theorem toNat_withSign_single (negative : Bool) {bits : Nat} (hbits : bits < single.signBit) :
    (UInt32.ofNat (single.withSign negative bits)).toNat = single.withSign negative bits := by
  have hlt : single.withSign negative bits < 2 ^ 32 := withSign_lt single negative hbits
  rw [UInt32.toNat_ofNat', Nat.mod_eq_of_lt hlt]

/-- What a double becomes in single precision is the nearest there is. -/
theorem nearestSingle_toSingle (x : Double) : NearestSingle x x.toSingle := by
  have hsign : single.infinity < single.signBit := by decide
  unfold NearestSingle toSingle datum
  rcases hdatum : double.decode x.bits.toNat with ⟨negative, payload⟩ | negative | ⟨negative, magnitude⟩
  · -- the payload keeps its leading bits behind the bit that makes it quiet
    have hquiet : single.infinity + 2 ^ 23 = single.signBit := by decide
    rw [convert_nan hdatum, if_pos (by decide), Nat.add_assoc]
    set kept := payload / 2 ^ (double.fraction - single.fraction) % 2 ^ (single.fraction - 1) with hkept
    have hfew : kept < 2 ^ 22 := Nat.mod_lt _ (by decide)
    have hpayload : 2 ^ (single.fraction - 1) + kept < 2 ^ single.fraction := by
      show 2 ^ 22 + kept < 2 ^ 23
      omega
    have hbits : single.infinity + (2 ^ (single.fraction - 1) + kept) < single.signBit :=
      hquiet ▸ Nat.add_lt_add_left hpayload _
    refine ⟨2 ^ (single.fraction - 1) + kept, ?_⟩
    rw [toNat_withSign_single negative hbits, decode_beyond negative hpayload, if_neg]
    have hsome : 0 < 2 ^ (single.fraction - 1) := by decide
    omega
  · unfold convert
    rw [hdatum]
    exact toNat_withSign_single negative hsign
  · unfold convert
    rw [hdatum]
    have hnearest := nearest_roundMagnitude (f := single) (by decide) (magnitude_nonneg hdatum)
    exact ⟨_, hnearest, toNat_withSign_single negative (Nat.lt_of_le_of_lt hnearest.le hsign)⟩

/-- What an integer becomes as a double is the nearest there is, and no double is given for an
integer that is out of range. -/
theorem nearestDouble_of_ofInt {n : Int} {x : Double} (h : ofInt? n = some x) : NearestDouble n x := by
  have hsign : double.infinity < double.signBit := by decide
  have hnearest := nearest_roundMagnitude (f := double) (by decide) (abs_nonneg (n : Rat))
  have hrat : ofRat n = ofMagnitude (n < 0) |(n : Rat)| := by
    unfold ofRat
    by_cases hnegative : (n : Rat) < 0
    · rw [if_pos hnegative, abs_of_neg hnegative, decide_eq_true (Int.cast_lt_zero.mp hnegative)]
    · have hnot : ¬ n < 0 := fun h => hnegative (Int.cast_lt_zero.mpr h)
      rw [if_neg hnegative, abs_of_nonneg (not_lt.mp hnegative), decide_eq_false hnot]
  have hbits : (ofMagnitude (n < 0) |(n : Rat)|).bits.toNat
      = double.withSign (n < 0) (double.roundMagnitude |(n : Rat)|) :=
    toNat_bits_ofWord (withSign_lt double _ (Nat.lt_of_le_of_lt hnearest.le hsign))
  unfold ofInt? at h
  rw [hrat] at h
  dsimp only at h
  split at h
  · next hfinite =>
    obtain rfl := Option.some.inj h
    refine ⟨_, lt_of_le_of_ne hnearest.le fun heq => ?_, hnearest, hbits⟩
    -- infinity is not finite
    have hunit : 0 < 2 ^ double.fraction := Nat.two_pow_pos _
    have hinfinite := decode_beyond (decide (n < 0)) hunit
    rw [datum, hbits, heq] at hfinite
    rw [Nat.add_zero, hfinite] at hinfinite
    cases hinfinite
  · cases h

end ShaderPlayer.Double
