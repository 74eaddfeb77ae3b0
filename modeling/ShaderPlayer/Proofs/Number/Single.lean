/-
Single-precision numbers as doubles.

The magnitude bits of a word stand for a number of so many units, the unit a power of
two; the bits count these numbers in order.

* `roundMagnitude_value` — a number that a format has is rounded to itself;
* `value_widened` — a double has every number that single precision has;
* `settled_toSingle` — what a double becomes in single precision comes back from it, also
  where it is no number.
-/
import ShaderPlayer.Number.Double
import Mathlib.Algebra.Order.Field.Power
import Mathlib.Data.Rat.Cast.Order
import Mathlib.Tactic.FieldSimp
import Mathlib.Tactic.Linarith
import Mathlib.Tactic.Ring

namespace ShaderPlayer.Format

variable (f : Format)

/-! ### Units -/

theorem two_zpow_pos (k : Int) : (0 : Rat) < 2 ^ k := zpow_pos (by norm_num) k

theorem two_zpow_log2_le {n : Nat} (hn : n ≠ 0) : (2 : Rat) ^ (Nat.log2 n : Int) ≤ n := by
  have hlog : 2 ^ Nat.log2 n ≤ n := Nat.log2_self_le hn
  rw [zpow_natCast]
  exact_mod_cast hlog

theorem lt_two_zpow_log2 (n : Nat) : (n : Rat) < 2 ^ ((Nat.log2 n : Int) + 1) := by
  have hlog : n < 2 ^ (Nat.log2 n + 1) := Nat.lt_log2_self
  have hnat : ((Nat.log2 n : Int) + 1) = ((Nat.log2 n + 1 : Nat) : Int) := by
    push_cast
    rfl
  rw [hnat, zpow_natCast]
  exact_mod_cast hlog

section Quotient

variable {x n d : Rat} {a b : Int} (hquotient : x * d = n)

include hquotient

theorem quotient_lt (hx : 0 < x) (hn : n < 2 ^ (a + 1)) (hd : (2 : Rat) ^ b ≤ d) :
    x < 2 ^ (a - b + 1) := by
  have hsplit : (2 : Rat) ^ (a + 1) = 2 ^ (a - b + 1) * 2 ^ b := by
    rw [← zpow_add₀ (by norm_num)]
    congr 1
    ring
  by_contra hle
  rw [not_lt] at hle
  have hmul := mul_le_mul hle hd (le_of_lt (two_zpow_pos _)) (le_of_lt hx)
  rw [hquotient, ← hsplit] at hmul
  exact absurd hn (not_lt.mpr hmul)

theorem lt_quotient (hpos : 0 < d) (hn : 2 ^ a ≤ n) (hd : d < 2 ^ (b + 1)) :
    (2 : Rat) ^ (a - b - 1) < x := by
  have hsplit : (2 : Rat) ^ a = 2 ^ (a - b - 1) * 2 ^ (b + 1) := by
    rw [← zpow_add₀ (by norm_num)]
    congr 1
    ring
  by_contra hle
  rw [not_lt] at hle
  have hmul : x * d < 2 ^ (a - b - 1) * 2 ^ (b + 1) :=
    mul_lt_mul' hle hd (le_of_lt hpos) (two_zpow_pos _)
  rw [hquotient, ← hsplit] at hmul
  exact absurd hn (not_le.mpr hmul)

end Quotient

/-- The exponent is the one between whose power and the next the number lies. -/
theorem binaryExponent_eq {x : Rat} {k : Int} (hlow : (2 : Rat) ^ k ≤ x)
    (hhigh : x < (2 : Rat) ^ (k + 1)) : binaryExponent x = k := by
  have hx : 0 < x := lt_of_lt_of_le (two_zpow_pos k) hlow
  have hnum : 0 < x.num := Rat.num_pos.mpr hx
  have habs : ((x.num.natAbs : Nat) : Rat) = x.num := by
    rw [Nat.cast_natAbs, abs_of_pos hnum]
  -- the numerator and the denominator lie between powers of two
  have hnumLow := two_zpow_log2_le (n := x.num.natAbs) (by omega)
  have hnumHigh := lt_two_zpow_log2 x.num.natAbs
  have hdenLow := two_zpow_log2_le x.den_nz
  have hdenHigh := lt_two_zpow_log2 x.den
  rw [habs] at hnumLow hnumHigh
  set a := Nat.log2 x.num.natAbs with ha
  set b := Nat.log2 x.den with hb
  have hden : (0 : Rat) < x.den := by exact_mod_cast x.den_pos
  have hquotient : x * x.den = x.num := Rat.mul_den_eq_num x
  -- so the difference of their exponents is off by one at most
  have hguessHigh := quotient_lt hquotient hx hnumHigh hdenLow
  have hguessLow := lt_quotient hquotient hden hnumLow hdenHigh
  have hlt : ∀ {m n : Int}, (2 : Rat) ^ m < 2 ^ n → m < n := fun {m n} h =>
    (zpow_lt_zpow_iff_right₀ (by norm_num)).mp h
  unfold binaryExponent
  dsimp only
  rw [← ha, ← hb]
  -- a comparison with the power tells which of the two it is
  split
  · next hbelow =>
    have hupper := hlt (lt_of_le_of_lt hlow hbelow)
    have hlower := hlt (lt_trans hguessLow hhigh)
    omega
  · next hbelow =>
    have hupper := hlt (lt_of_le_of_lt hlow hguessHigh)
    have hlower := hlt (lt_of_le_of_lt (not_lt.mp hbelow) hhigh)
    omega

/-! ### The numbers of a format -/

theorem shiftLeft_one (n : Nat) : 1 <<< n = 2 ^ n := Nat.one_shiftLeft n

/-- The number that magnitude bits stand for. -/
def value (bits : Nat) : Rat :=
  if bits < 2 ^ f.fraction then bits * 2 ^ f.leastExponent
  else
    (2 ^ f.fraction + bits % 2 ^ f.fraction : Nat)
      * 2 ^ (f.leastExponent + (bits / 2 ^ f.fraction - 1 : Nat))

/-- So many units of a power of two are a number as a format has it: no more digits than
it keeps, and none of them left out unless the unit is the smallest. -/
structure Normal (units : Nat) (exponent : Int) : Prop where
  positive : 0 < units
  short : units < 2 ^ (f.fraction + 1)
  least : f.leastExponent ≤ exponent
  full : exponent = f.leastExponent ∨ 2 ^ f.fraction ≤ units

/-- The magnitude bits of such a number. -/
def pack (units : Nat) (exponent : Int) : Nat :=
  (exponent - f.leastExponent).toNat * 2 ^ f.fraction + units

variable {f} {units : Nat} {exponent : Int}

theorem value_pack (h : f.Normal units exponent) :
    f.value (f.pack units exponent) = units * 2 ^ exponent := by
  obtain ⟨steps, hsteps⟩ := Int.eq_ofNat_of_zero_le (Int.sub_nonneg.mpr h.least)
  have hexponent : exponent = f.leastExponent + steps := by omega
  have hpack : f.pack units exponent = steps * 2 ^ f.fraction + units := by
    rw [pack, hsteps]
    rfl
  have hunit : 0 < 2 ^ f.fraction := Nat.two_pow_pos _
  have hshort : units < 2 ^ f.fraction + 2 ^ f.fraction := by
    have := h.short
    rw [Nat.pow_succ] at this
    omega
  unfold value
  rw [hpack]
  -- with a leading bit, this bit counts one step of the exponent more
  by_cases hfull : 2 ^ f.fraction ≤ units
  · obtain ⟨fraction, hfraction⟩ := Nat.exists_eq_add_of_le hfull
    have hsmall : fraction < 2 ^ f.fraction := by omega
    have hbits : steps * 2 ^ f.fraction + units
        = fraction + 2 ^ f.fraction * (steps + 1) := by
      rw [hfraction]
      ring
    have hlarge : ¬ steps * 2 ^ f.fraction + units < 2 ^ f.fraction := by omega
    rw [if_neg hlarge, hbits, Nat.add_mul_mod_self_left, Nat.mod_eq_of_lt hsmall,
      Nat.add_mul_div_left _ _ hunit, Nat.div_eq_of_lt hsmall, Nat.zero_add,
      Nat.add_sub_cancel, ← hfraction, ← hexponent]
  · have hleast : exponent = f.leastExponent := h.full.resolve_right hfull
    have hzero : steps = 0 := by omega
    have hsmall : steps * 2 ^ f.fraction + units < 2 ^ f.fraction := by
      rw [hzero]
      omega
    rw [if_pos hsmall, hzero, Nat.zero_mul, Nat.zero_add, hleast]

/-- All magnitude bits but zero are those of such a number. -/
theorem exists_normal_of_pos {bits : Nat} (hbits : 0 < bits) :
    ∃ units exponent, f.Normal units exponent ∧ f.pack units exponent = bits
      ∧ exponent = f.leastExponent + (bits / 2 ^ f.fraction - 1 : Nat) := by
  have hunit : 0 < 2 ^ f.fraction := Nat.two_pow_pos _
  by_cases hsmall : bits < 2 ^ f.fraction
  · refine ⟨bits, f.leastExponent, ⟨hbits, ?_, le_refl _, .inl rfl⟩, ?_, ?_⟩
    · rw [Nat.pow_succ]
      omega
    · rw [pack, Int.sub_self]
      simp
    · rw [Nat.div_eq_of_lt hsmall]
      simp
  · have hquotient : 0 < bits / 2 ^ f.fraction := Nat.div_pos (not_lt.mp hsmall) hunit
    have hremainder : bits % 2 ^ f.fraction < 2 ^ f.fraction := Nat.mod_lt _ hunit
    obtain ⟨steps, hsteps⟩ := Nat.exists_eq_add_of_lt hquotient
    have hsub : bits / 2 ^ f.fraction - 1 = steps := by omega
    have hdivide := Nat.div_add_mod bits (2 ^ f.fraction)
    refine ⟨2 ^ f.fraction + bits % 2 ^ f.fraction, f.leastExponent + (steps : Nat),
      ⟨by omega, ?_, by omega, .inr (by omega)⟩, ?_, by rw [hsub]⟩
    · rw [Nat.pow_succ]
      omega
    · have hpack : (f.leastExponent + (steps : Nat) - f.leastExponent).toNat = steps := by omega
      rw [pack, hpack]
      calc steps * 2 ^ f.fraction + (2 ^ f.fraction + bits % 2 ^ f.fraction)
          = 2 ^ f.fraction * (0 + steps + 1) + bits % 2 ^ f.fraction := by ring
        _ = bits := by rw [← hsteps, hdivide]

/-- A number as a format has it is rounded to its own bits. -/
theorem roundMagnitude_of_normal (h : f.Normal units exponent) :
    f.roundMagnitude (units * 2 ^ exponent) = min f.infinity (f.pack units exponent) := by
  have hpower := two_zpow_pos exponent
  have hunits : (0 : Rat) < units := by exact_mod_cast h.positive
  have hne : (units : Rat) * 2 ^ exponent ≠ 0 := ne_of_gt (mul_pos hunits hpower)
  set digits := Nat.log2 units with hdigits
  have hlow : (2 : Rat) ^ (exponent + digits) ≤ units * 2 ^ exponent := by
    have hlog := two_zpow_log2_le (n := units) (Nat.ne_of_gt h.positive)
    rw [add_comm, zpow_add₀ (by norm_num)]
    exact mul_le_mul_of_nonneg_right hlog (le_of_lt hpower)
  have hhigh : units * 2 ^ exponent < (2 : Rat) ^ (exponent + digits + 1) := by
    have hlog := lt_two_zpow_log2 units
    have hsum : exponent + digits + 1 = ((digits : Int) + 1) + exponent := by ring
    rw [hsum, zpow_add₀ (by norm_num)]
    exact mul_lt_mul_of_pos_right hlog hpower
  have hbinary := binaryExponent_eq hlow hhigh
  -- the unit in the last place is that of the number
  have hunit : max f.leastExponent (exponent + digits - f.fraction) = exponent := by
    have hfew : digits < f.fraction + 1 :=
      (Nat.log2_lt (by have := h.positive; omega)).mpr h.short
    rcases h.full with hleast | hfull
    · rw [max_eq_left (by omega), hleast]
    · have hmany : f.fraction ≤ digits :=
        (Nat.le_log2 (by have := h.positive; omega)).mpr hfull
      have hdigits : (digits : Int) = f.fraction := by omega
      rw [hdigits, add_sub_cancel_right, max_eq_right h.least]
  have hscaled : (units : Rat) * 2 ^ exponent * 2 ^ (-exponent) = ((units : Int) : Rat) := by
    rw [mul_assoc, ← zpow_add₀ (by norm_num), add_neg_cancel, zpow_zero, mul_one]
    push_cast
    rfl
  unfold roundMagnitude
  rw [if_neg hne, hbinary]
  dsimp only
  rw [hunit, hscaled, nearestEven_intCast, shiftLeft_one]
  rfl

theorem value_zero : f.value 0 = 0 := by
  unfold value
  rw [if_pos (Nat.two_pow_pos _)]
  simp

theorem roundMagnitude_zero : f.roundMagnitude 0 = 0 := if_pos rfl

/-- A number that a format has is rounded to itself. -/
theorem roundMagnitude_value {bits : Nat} (hbits : bits ≤ f.infinity) :
    f.roundMagnitude (f.value bits) = bits := by
  rcases Nat.eq_zero_or_pos bits with rfl | hpos
  · rw [value_zero, roundMagnitude_zero]
  · obtain ⟨units, exponent, hnormal, hpack, _⟩ := exists_normal_of_pos (f := f) hpos
    rw [← hpack, value_pack hnormal, roundMagnitude_of_normal hnormal, hpack]
    exact Nat.min_eq_right hbits

/-- Units of which there are few may be cut smaller until there are as many as the format
keeps, or the unit is its smallest. -/
theorem exists_normal (hpos : 0 < units) (hshort : units < 2 ^ (f.fraction + 1))
    (hleast : f.leastExponent ≤ exponent) :
    ∃ finer least, f.Normal finer least ∧ least ≤ exponent
      ∧ (finer : Rat) * 2 ^ least = units * 2 ^ exponent := by
  set digits := Nat.log2 units with hdigits
  have hlow : 2 ^ digits ≤ units := Nat.log2_self_le (by omega)
  have hhigh : units < 2 ^ (digits + 1) := Nat.lt_log2_self
  have hfew : digits < f.fraction + 1 := (Nat.log2_lt (by omega)).mpr hshort
  obtain ⟨steps, hsteps⟩ := Int.eq_ofNat_of_zero_le (Int.sub_nonneg.mpr hleast)
  set cut := min (f.fraction - digits) steps with hcut
  have hpower : 0 < 2 ^ cut := Nat.two_pow_pos _
  refine ⟨units * 2 ^ cut, exponent - cut, ⟨Nat.mul_pos hpos hpower, ?_, by omega, ?_⟩,
    by omega, ?_⟩
  · calc units * 2 ^ cut < 2 ^ (digits + 1) * 2 ^ cut := Nat.mul_lt_mul_of_pos_right hhigh hpower
      _ = 2 ^ (digits + 1 + cut) := (Nat.pow_add ..).symm
      _ ≤ 2 ^ (f.fraction + 1) := Nat.pow_le_pow_right (by decide) (by omega)
  · by_cases hcase : steps ≤ f.fraction - digits
    · left
      omega
    · right
      have hexact : digits + cut = f.fraction := by omega
      calc 2 ^ f.fraction = 2 ^ digits * 2 ^ cut := by rw [← hexact, Nat.pow_add]
        _ ≤ units * 2 ^ cut := Nat.mul_le_mul_right _ hlow
  · push_cast
    rw [zpow_sub₀ (by norm_num), zpow_natCast]
    field_simp

/-! ### Words -/

section Words

variable {bits : Nat}

theorem signBit_eq : f.signBit = 2 ^ f.fraction * 2 ^ f.exponent := by
  rw [signBit, shiftLeft_one, Nat.pow_add]

theorem infinity_eq : f.infinity = (2 ^ f.exponent - 1) * 2 ^ f.fraction := by
  rw [infinity, shiftLeft_one, shiftLeft_one]

/-- The sign does not reach into the magnitude bits, nor they into it. -/
theorem fields_withSign (negative : Bool) (hbits : bits < f.signBit) :
    f.withSign negative bits % 2 ^ f.fraction = bits % 2 ^ f.fraction
      ∧ f.withSign negative bits / 2 ^ f.fraction % 2 ^ f.exponent = bits / 2 ^ f.fraction
      ∧ (decide (f.withSign negative bits / f.signBit % 2 = 1)) = negative := by
  rw [signBit_eq] at hbits
  have hfraction : 0 < 2 ^ f.fraction := Nat.two_pow_pos _
  have hexponent : bits / 2 ^ f.fraction < 2 ^ f.exponent :=
    Nat.div_lt_of_lt_mul hbits
  unfold withSign
  cases negative with
  | false =>
    rw [if_neg (by decide), Nat.mod_eq_of_lt hexponent, signBit_eq, Nat.div_eq_of_lt hbits]
    exact ⟨rfl, rfl, rfl⟩
  | true =>
    have hpos : 0 < 2 ^ f.fraction * 2 ^ f.exponent :=
      Nat.mul_pos hfraction (Nat.two_pow_pos _)
    rw [if_pos rfl, signBit_eq, Nat.mul_add_mod, Nat.mul_add_div hfraction, Nat.add_mod_left,
      Nat.mod_eq_of_lt hexponent, Nat.add_div_left _ hpos, Nat.div_eq_of_lt hbits]
    exact ⟨rfl, rfl, rfl⟩

theorem decode_finite (negative : Bool) (hbits : bits < f.infinity) :
    f.decode (f.withSign negative bits) = .finite negative (f.value bits) := by
  have hunit : 0 < 2 ^ f.fraction := Nat.two_pow_pos _
  have hsign : bits < f.signBit := by
    rw [signBit_eq, Nat.mul_comm]
    rw [infinity_eq] at hbits
    exact Nat.lt_of_lt_of_le hbits (Nat.mul_le_mul_right _ (Nat.sub_le _ _))
  obtain ⟨hfraction, hbiased, hnegative⟩ := fields_withSign negative hsign
  rw [infinity_eq] at hbits
  have hfinite : bits / 2 ^ f.fraction ≠ 2 ^ f.exponent - 1 :=
    Nat.ne_of_lt ((Nat.div_lt_iff_lt_mul hunit).mpr hbits)
  unfold decode
  dsimp only
  rw [shiftLeft_one, shiftLeft_one, hfraction, hbiased, hnegative, if_neg hfinite, value]
  by_cases hsmall : bits < 2 ^ f.fraction
  · rw [if_pos (Nat.div_eq_of_lt hsmall), if_pos hsmall, Nat.mod_eq_of_lt hsmall]
  · have hquotient : bits / 2 ^ f.fraction ≠ 0 :=
      Nat.ne_of_gt (Nat.div_pos (not_lt.mp hsmall) hunit)
    rw [if_neg hquotient, if_neg hsmall]

/-- Words from infinity on stand for infinity, or for no number. -/
theorem decode_beyond (negative : Bool) {payload : Nat} (hpayload : payload < 2 ^ f.fraction) :
    f.decode (f.withSign negative (f.infinity + payload))
      = if payload = 0 then .infinite negative else .nan negative payload := by
  have hunit : 0 < 2 ^ f.fraction := Nat.two_pow_pos _
  have hpower : 0 < 2 ^ f.exponent := Nat.two_pow_pos _
  have hsign : f.infinity + payload < f.signBit := by
    rw [signBit_eq, infinity_eq]
    calc (2 ^ f.exponent - 1) * 2 ^ f.fraction + payload
        < (2 ^ f.exponent - 1) * 2 ^ f.fraction + 2 ^ f.fraction := by omega
      _ = (2 ^ f.exponent - 1 + 1) * 2 ^ f.fraction := by ring
      _ = 2 ^ f.fraction * 2 ^ f.exponent := by
        rw [Nat.sub_add_cancel hpower, Nat.mul_comm]
  obtain ⟨hfraction, hbiased, hnegative⟩ := fields_withSign negative hsign
  have hremainder : (f.infinity + payload) % 2 ^ f.fraction = payload := by
    rw [infinity_eq, Nat.mul_add_mod_self_right, Nat.mod_eq_of_lt hpayload]
  have hquotient : (f.infinity + payload) / 2 ^ f.fraction = 2 ^ f.exponent - 1 := by
    rw [infinity_eq, Nat.mul_comm, Nat.mul_add_div hunit, Nat.div_eq_of_lt hpayload, Nat.add_zero]
  unfold decode
  dsimp only
  rw [shiftLeft_one, shiftLeft_one, hfraction, hbiased, hnegative, hremainder, hquotient,
    if_pos rfl]

theorem roundMagnitude_le (x : Rat) : f.roundMagnitude x ≤ f.infinity := by
  unfold roundMagnitude
  split
  · exact Nat.zero_le _
  · exact Nat.min_le_left ..

end Words

end ShaderPlayer.Format

namespace ShaderPlayer.Double

open Format

/-! ### There and back -/

/-- Bits of single precision that come back when they are read as a double. -/
def Settled (word : UInt32) : Prop := (ofSingle word).toSingle = word

theorem toNat_bits_ofWord {word : Nat} (h : word < 2 ^ 64) : (ofWord word).bits.toNat = word := by
  show (UInt64.ofNat word).toNat = word
  rw [UInt64.toNat_ofNat', Nat.mod_eq_of_lt h]

theorem withSign_lt (f : Format) (negative : Bool) {bits : Nat} (h : bits < f.signBit) :
    f.withSign negative bits < 2 * f.signBit := by
  unfold withSign
  split <;> omega

/-- The double of a word, and the word of that double. -/
theorem settled_of_convert {word there : Nat} (hword : word < 2 ^ 32) (hthere : there < 2 ^ 64)
    (hto : convert .single .double word = there) (hfrom : convert .double .single there = word) :
    Settled (UInt32.ofNat word) := by
  have hnat : (UInt32.ofNat word).toNat = word := by
    rw [UInt32.toNat_ofNat', Nat.mod_eq_of_lt hword]
  unfold Settled ofSingle toSingle
  rw [hnat, hto, toNat_bits_ofWord hthere, hfrom]

/-- Double precision has every number of so few units. -/
theorem rounded_of_short {units : Nat} {exponent : Int} (hpos : 0 < units) (hshort : units < 2 ^ 53)
    (hleast : -1074 ≤ exponent) (hmost : exponent ≤ 971) :
    double.roundMagnitude (units * 2 ^ exponent) < double.infinity
      ∧ double.value (double.roundMagnitude (units * 2 ^ exponent)) = units * 2 ^ exponent := by
  have hdouble : double.leastExponent = -1074 := by decide
  obtain ⟨finer, least, hfiner, hle, hvalue⟩ :=
    exists_normal (f := double) hpos hshort (hdouble ▸ hleast)
  have hfit : double.pack finer least < double.infinity := by
    have hfew : finer < 2 ^ 53 := hfiner.short
    have hinfinity : double.infinity = 2047 * 2 ^ 52 := by decide
    have hfraction : double.fraction = 52 := rfl
    rw [pack, hinfinity, hdouble, hfraction]
    omega
  rw [← hvalue, roundMagnitude_of_normal hfiner, Nat.min_eq_right (le_of_lt hfit)]
  exact ⟨hfit, value_pack hfiner⟩

/-- Double precision has every finite number of single precision. -/
theorem value_widened {bits : Nat} (hbits : bits < single.infinity) :
    double.roundMagnitude (single.value bits) < double.infinity
      ∧ double.value (double.roundMagnitude (single.value bits)) = single.value bits := by
  rcases Nat.eq_zero_or_pos bits with rfl | hpos
  · rw [value_zero, roundMagnitude_zero]
    exact ⟨by decide, value_zero⟩
  · obtain ⟨units, exponent, hnormal, hpack, hexponent⟩ := exists_normal_of_pos (f := single) hpos
    have hsingle : single.leastExponent = -149 := by decide
    have hshort : units < 2 ^ 24 := hnormal.short
    have hleast : -149 ≤ exponent := hsingle ▸ hnormal.least
    have hlargest : exponent ≤ 104 := by
      have hinfinity : bits < 255 * 2 ^ 23 := hbits
      have hquotient : bits / 2 ^ 23 < 255 := (Nat.div_lt_iff_lt_mul (by decide)).mpr hinfinity
      have hfraction : single.fraction = 23 := rfl
      rw [hsingle, hfraction] at hexponent
      omega
    rw [← hpack, value_pack hnormal]
    exact rounded_of_short hnormal.positive (by omega) (by omega) (by omega)

theorem settled_finite (negative : Bool) {bits : Nat} (hbits : bits < single.infinity) :
    Settled (UInt32.ofNat (single.withSign negative bits)) := by
  obtain ⟨hfinite, hvalue⟩ := value_widened hbits
  have hsingle : single.infinity < single.signBit := by decide
  have hdouble : double.infinity < double.signBit := by decide
  refine settled_of_convert (withSign_lt single negative (by omega))
    (withSign_lt double negative (Nat.lt_trans hfinite hdouble)) ?_ ?_
  · show convert .single .double _ = double.withSign negative
      (double.roundMagnitude (single.value bits))
    unfold convert
    rw [decode_finite negative hbits]
    rfl
  · unfold convert
    rw [decode_finite negative hfinite, hvalue]
    show single.withSign negative (single.roundMagnitude (single.value bits)) = _
    rw [roundMagnitude_value (le_of_lt hbits)]

theorem settled_infinite (negative : Bool) :
    Settled (UInt32.ofNat (single.withSign negative single.infinity)) := by
  have hsingle : single.infinity < single.signBit := by decide
  have hdouble : double.infinity < double.signBit := by decide
  have hinfinite (f : Format) : f.decode (f.withSign negative f.infinity) = .infinite negative := by
    have hunit : 0 < 2 ^ f.fraction := Nat.two_pow_pos _
    exact decode_beyond negative hunit
  refine settled_of_convert (withSign_lt single negative hsingle)
    (withSign_lt double negative hdouble) ?_ ?_
  all_goals
    unfold convert
    rw [hinfinite]

/-- Of what is no number the leading bits of the payload stay, and it is quiet. -/
theorem convert_nan {source target : Format} {word payload : Nat} {negative : Bool}
    (h : source.decode word = .nan negative payload) :
    convert source target word
      = target.withSign negative (target.infinity + 2 ^ (target.fraction - 1)
          + (if target.fraction ≤ source.fraction then
              payload / 2 ^ (source.fraction - target.fraction)
            else payload * 2 ^ (target.fraction - source.fraction))
              % 2 ^ (target.fraction - 1)) := by
  unfold convert
  rw [h]
  dsimp only
  rw [shiftLeft_one, Nat.shiftRight_eq_div_pow, Nat.shiftLeft_eq]

theorem settled_nan (negative : Bool) {payload : Nat} (hpayload : payload < 2 ^ 22) :
    Settled (UInt32.ofNat (single.withSign negative (single.infinity + (2 ^ 22 + payload)))) := by
  have hsingle : single.infinity + 2 ^ 23 = single.signBit := by decide
  have hdouble : double.infinity + 2 ^ 52 = double.signBit := by decide
  -- the payload, and the bit that makes it quiet, in the one format and in the other
  have hhere : 2 ^ 22 + payload < 2 ^ 23 := by omega
  have hthere : 2 ^ 51 + payload * 2 ^ 29 < 2 ^ 52 := by omega
  have hdecode : single.decode (single.withSign negative (single.infinity + (2 ^ 22 + payload)))
      = .nan negative (2 ^ 22 + payload) := by
    rw [decode_beyond negative (f := single) hhere, if_neg (by omega)]
  have hback : double.decode
      (double.withSign negative (double.infinity + (2 ^ 51 + payload * 2 ^ 29)))
        = .nan negative (2 ^ 51 + payload * 2 ^ 29) := by
    rw [decode_beyond negative (f := double) hthere, if_neg (by omega)]
  have hless : double.infinity + (2 ^ 51 + payload * 2 ^ 29) < double.signBit := by omega
  have hword := withSign_lt double negative hless
  refine settled_of_convert (withSign_lt single negative (by omega)) hword ?_ ?_
  · have hkept : (2 ^ 22 + payload) * 2 ^ 29 % 2 ^ 51 = payload * 2 ^ 29 := by omega
    rw [convert_nan hdecode, if_neg (by decide), Nat.add_assoc]
    exact congrArg (fun kept => double.withSign negative (double.infinity + (2 ^ 51 + kept))) hkept
  · have hkept : (2 ^ 51 + payload * 2 ^ 29) / 2 ^ 29 % 2 ^ 22 = payload := by omega
    rw [convert_nan hback, if_pos (by decide), Nat.add_assoc]
    exact congrArg (fun kept => single.withSign negative (single.infinity + (2 ^ 22 + kept))) hkept

theorem settled_zero : Settled 0 := by
  have hzero : 0 < single.infinity := by decide
  exact settled_finite false hzero

/-- What a double becomes in single precision comes back from there. -/
theorem settled_toSingle (x : Double) : Settled x.toSingle := by
  unfold toSingle convert
  rcases double.decode x.bits.toNat with ⟨negative, payload⟩ | negative | ⟨negative, magnitude⟩
  · dsimp only
    rw [Nat.add_assoc]
    exact settled_nan negative (Nat.mod_lt _ (by decide))
  · exact settled_infinite negative
  · rcases Nat.lt_or_eq_of_le (roundMagnitude_le (f := single) magnitude) with hlt | heq
    · exact settled_finite negative hlt
    · show Settled (UInt32.ofNat (single.withSign negative (single.roundMagnitude magnitude)))
      rw [heq]
      exact settled_infinite negative

end ShaderPlayer.Double
