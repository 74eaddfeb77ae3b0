/-
The percentages of failed assertions.

The counter of an assertion is taken a hundredfold in its own 32 bits, and that is divided by the
texels of the screen in double precision.

* `Screen.hundredfold_exact_iff` — what is divided is a hundred times the counter exactly where
  that has a place in 32 bits;
* `Screen.isShare_percentage` — what is printed is the quotient, as near as doubles are, with two
  places;
* `heard_checkFrom` — each counter that is not zero is reported, in the order of the lines;
* `assertion_percentages` — so the percentages are the shares of the counters up to 42949672;
* `assertion_percentages_wrapped` — and of the next one it is that of four threads in a hundred.
-/
import ShaderPlayer.Proofs.Number.Integer
import ShaderPlayer.Proofs.Number.Nearest
import ShaderPlayer.Proofs.Player.LatestFrame

namespace ShaderPlayer

open Gpu Shader

namespace Screen

open Format

/-! ### Shares -/

/-- A product of 32 bits loses what is beyond them. -/
theorem toNat_hundredfold (count : UInt32) : (100 * count).toNat = 100 * count.toNat % 2 ^ 32 := by
  rw [UInt32.toNat_mul]
  rfl

theorem hundredfold_exact_iff (count : UInt32) :
    (100 * count).toNat = 100 * count.toNat ↔ count.toNat ≤ 42949672 := by
  rw [toNat_hundredfold]
  omega

/-- A text is the share of a screen that hundredfold threads are: two places of the double nearest
to the quotient with the texels, or with the double nearest to these. -/
def IsShare (hundredfold : Nat) (texels : Int) (text : Text) : Prop :=
  ∃ divisor quotient, double.Nearest texels divisor
    ∧ double.Nearest (hundredfold / double.value divisor) quotient
    ∧ text = Text.ofHundredths (double.value quotient)

/-- The double nearest to a number of texels is not below one. -/
theorem one_le_value {texels : Int} (hpos : 0 < texels) {divisor : Nat}
    (h : double.Nearest texels divisor) : 1 ≤ double.value divisor := by
  by_contra hbelow
  rw [not_le] at hbelow
  -- one is a double, and it would be nearer
  have hone : double.value (double.roundMagnitude (1 : Nat)) = (1 : Nat) :=
    Double.value_roundMagnitude_natCast (by decide)
  have hnearest := h.nearest _ (roundMagnitude_le ((1 : Nat) : Rat))
  have htexels : (1 : Rat) ≤ texels := by exact_mod_cast hpos
  rw [hone, Nat.cast_one, abs_of_nonneg (by linarith), abs_of_nonneg (by linarith)] at hnearest
  linarith

/-- What is divided by is the double nearest to the texels. -/
theorem datum_ofRat_texels {texels : Int} (hpos : 0 < texels) {x : Double}
    (hx : Value.doubleOfInteger texels = .ok x) :
    ∃ divisor, double.Nearest texels divisor
      ∧ (Double.ofRat texels).datum = .finite false (double.value divisor) := by
  have hofInt : Double.ofInt? texels = some x := by
    unfold Value.doubleOfInteger at hx
    rcases hx' : Double.ofInt? texels with _ | y
    · rw [hx'] at hx
      cases hx
    · rw [hx'] at hx
      cases hx
      rfl
  have hrat : Double.ofRat texels = x := by
    unfold Double.ofInt? at hofInt
    dsimp only at hofInt
    split at hofInt
    · exact Option.some.inj hofInt
    · cases hofInt
  obtain ⟨divisor, hfinite, hnearest, hbits⟩ := Double.nearestDouble_of_ofInt hofInt
  rw [abs_of_pos (by exact_mod_cast hpos)] at hnearest
  rw [decide_eq_false (not_lt.mpr (le_of_lt hpos))] at hbits
  refine ⟨divisor, hnearest, ?_⟩
  rw [hrat, Double.datum, hbits]
  exact decode_finite false hfinite

theorem isShare_percentage (count : UInt32) {texels : Int} (hpos : 0 < texels) {x : Double}
    (hx : Value.doubleOfInteger texels = .ok x) :
    IsShare (100 * count).toNat texels (percentage count texels) := by
  obtain ⟨divisor, hnearest, htexels⟩ := datum_ofRat_texels hpos hx
  have hdivisor := one_le_value hpos hnearest
  have hword : (100 * count).toNat < 2 ^ 32 := (100 * count).toNat_lt
  unfold percentage
  generalize (100 * count).toNat = n at hword
  have hnumerator := Double.datum_ofRat_natCast (Nat.lt_trans hword (by decide))
  -- the divisor is not below one, so the quotient stays in range
  have hquotient : 0 ≤ (n : Rat) / double.value divisor := by positivity
  have hrange : (n : Rat) / double.value divisor < 2 ^ 64 :=
    calc (n : Rat) / double.value divisor ≤ n := div_le_self n.cast_nonneg hdivisor
      _ < 2 ^ 64 := by exact_mod_cast Nat.lt_trans hword (by decide)
  have hdatum := Double.datum_ofMagnitude false hquotient hrange
  have hrounded := nearest_roundMagnitude (f := double) (by decide) hquotient
  have hdiv : (Double.ofRat n).div (Double.ofRat texels)
      = Double.ofMagnitude false (n / double.value divisor) := by
    unfold Double.div
    rw [hnumerator, htexels]
    rfl
  refine ⟨divisor, _, hnearest, hrounded, ?_⟩
  dsimp only
  rw [if_neg (ne_of_gt hpos), hdiv, hdatum]
  rfl

/-- Where the texels are few enough for a double, the quotient is the one with the texels. -/
theorem IsShare.exact {hundredfold : Nat} {texels : Int} {text : Text}
    (h : IsShare hundredfold texels text) (hpos : 0 < texels) (hfew : texels < 2 ^ 53) :
    ∃ quotient, double.Nearest (hundredfold / texels) quotient
      ∧ text = Text.ofHundredths (double.value quotient) := by
  obtain ⟨divisor, quotient, hdivisor, hquotient, htext⟩ := h
  obtain ⟨n, rfl⟩ := Int.eq_ofNat_of_zero_le (le_of_lt hpos)
  have hvalue : double.value divisor = (n : Int) := by
    refine hdivisor.value_eq (roundMagnitude_le (n : Rat)) ?_
    rw [Double.value_roundMagnitude_natCast (by omega)]
    rfl
  rw [hvalue] at hquotient
  exact ⟨quotient, hquotient, htext⟩

end Screen

namespace Player

/-! ### Reports -/

/-- The lines whose counters are not zero, with these. -/
def failures (counts : List UInt32) (lines : List Int) : List (Int × UInt32) :=
  (lines.zip counts).filter (·.2 ≠ 0)

theorem failures_cons (count : UInt32) (counts : List UInt32) (line : Int) (lines : List Int) :
    failures (count :: counts) (line :: lines)
      = if count = 0 then failures counts lines else (line, count) :: failures counts lines := by
  by_cases hcount : count = 0
  · simp [failures, hcount]
  · simp [failures, hcount]

/-- What the sink is told of a failure. -/
def failureNote (texels : Int) (failure : Int × UInt32) : Note :=
  reportNote ⟨.general, Screen.failureMessage failure.2 texels, failure.1⟩

section Checking

variable {counts : List UInt32} {texels : Int}

theorem checkFrom_of_missing {index : Nat} (h : counts.length ≤ index) (line : Int)
    (lines : List Int) (p : Player) : left (checkFrom counts texels index (line :: lines) p) = p := by
  have hmissing : counterAt counts index = .error (.arrayIndex index counts.length) := by
    rw [counterAt, List.getElem?_eq_none h]
  rw [checkFrom, run_ofExcept_bind_of_error hmissing]
  rfl

/-- Every counter that is not zero is reported in its turn, also where one is missing further on. -/
theorem heard_checkFrom {x : Double} (hx : Value.doubleOfInteger texels = .ok x)
    (lines : List Int) (index : Nat) (p : Player) :
    (left (checkFrom counts texels index lines p)).heard
      = p.heard ++ (failures (counts.drop index) lines).map (failureNote texels) := by
  -- the counters before the index belong to lines that were checked already
  induction lines generalizing index p with
  | nil =>
    have hnone : failures (counts.drop index) [] = [] := by
      rw [failures, List.zip_nil_left, List.filter_nil]
    rw [hnone, List.map_nil, List.append_nil]
    rfl
  | cons line lines ih =>
    rcases Nat.lt_or_ge index counts.length with hindex | hmissing
    · rw [List.drop_eq_getElem_cons hindex, failures_cons, checkFrom,
        run_ofExcept_bind_of_ok (counterAt_of_lt hindex)]
      split
      · exact ih (index + 1) p
      · have hcountable : (discard (MonadExcept.ofExcept (Value.doubleOfInteger texels)) : Op Unit) p
            = .ok () p := by
          rw [hx]
          rfl
        obtain ⟨after, hreport, _, hheard⟩ :=
          report_spec ⟨.general, Screen.failureMessage counts[index] texels, line⟩ p
        rw [run_bind_of_ok hcountable, run_bind_of_ok hreport, left_bind_pure, ih (index + 1) after,
          hheard, List.append_assoc]
        rfl
    · -- what was reported before stays, and no line behind has a counter either
      have hnone : failures (counts.drop index) (line :: lines) = [] := by
        rw [List.drop_eq_nil_of_le hmissing, failures, List.zip_nil_right, List.filter_nil]
      rw [checkFrom_of_missing hmissing, hnone, List.map_nil, List.append_nil]

/-- No share of more texels than a double can count is reported. -/
theorem heard_checkFrom_of_uncountable {fault : Fault}
    (hx : Value.doubleOfInteger texels = .error fault) (lines : List Int) (index : Nat) (p : Player) :
    left (checkFrom counts texels index lines p) = p := by
  induction lines generalizing index with
  | nil => rfl
  | cons line lines ih =>
    rcases Nat.lt_or_ge index counts.length with hindex | hmissing
    · rw [checkFrom, run_ofExcept_bind_of_ok (counterAt_of_lt hindex)]
      split
      · exact ih (index + 1)
      · -- the first failure ends the check, before its report
        have hbroken : (discard (MonadExcept.ofExcept (Value.doubleOfInteger texels)) : Op Unit) p
            = .error fault p := by
          rw [hx]
          rfl
        rw [run_bind_of_error hbroken]
        rfl
    · exact checkFrom_of_missing hmissing line lines p

end Checking

theorem heard_checkAssertions {p : Player} (hp : p.rig.core.Sound) {x : Double}
    (hx : Value.doubleOfInteger (p.size.1 * p.size.2) = .ok x) :
    (left (checkAssertions p)).heard = p.heard
      ++ (failures p.rig.gpu.device.counters p.map.assertLines.toList).map
        (failureNote (p.size.1 * p.size.2)) := by
  obtain ⟨bound, hbound, _⟩ := hp.bound
  obtain ⟨rig, hcheck⟩ := checkAssertions_eq hbound
  rw [hcheck]
  exact heard_checkFrom hx _ 0 { p with rig }

/-- A note tells the share of a failure: that of its counter taken a hundredfold in 32 bits, which is
a hundred times the counter up to a certain one. -/
structure Reported (texels : Int) (failure : Int × UInt32) (note : Note) : Prop where
  share : ∃ share, Screen.IsShare (100 * failure.2.toNat % 2 ^ 32) texels share
    ∧ note = reportNote ⟨.general,
        "Assertion failed in ".toList ++ share ++ "% of threads".toList, failure.1⟩
  exact : 100 * failure.2.toNat % 2 ^ 32 = 100 * failure.2.toNat ↔ failure.2.toNat ≤ 42949672

theorem reported_failureNote {texels : Int} (hpos : 0 < texels) {x : Double}
    (hx : Value.doubleOfInteger texels = .ok x) (failure : Int × UInt32) :
    Reported texels failure (failureNote texels failure) where
  share := by
    have hshare := Screen.isShare_percentage failure.2 hpos hx
    rw [Screen.toNat_hundredfold] at hshare
    exact ⟨_, hshare, rfl⟩
  exact := by
    rw [← Screen.toNat_hundredfold]
    exact Screen.hundredfold_exact_iff failure.2

/-- Checking reports each counter that is not zero, in the order of the lines, and for each the share
that its hundredfold is in 32 bits.  With more texels than a double can count, it reports nothing. -/
theorem assertion_percentages {p : Player} (hp : Reachable p) (hwidth : 0 < p.size.1)
    (hheight : 0 < p.size.2) :
    let texels := p.size.1 * p.size.2
    (∀ x, Value.doubleOfInteger texels = .ok x → ∃ notes,
        (left (checkAssertions p)).heard = p.heard ++ notes
          ∧ List.Forall₂ (Reported texels)
              (failures p.rig.gpu.device.counters p.map.assertLines.toList) notes)
      ∧ ∀ fault, Value.doubleOfInteger texels = .error fault →
          (left (checkAssertions p)).heard = p.heard := by
  have hsound := sound_of_reachable hp
  intro texels
  constructor
  · intro x hx
    refine ⟨_, heard_checkAssertions hsound hx, ?_⟩
    rw [List.forall₂_map_right_iff, List.forall₂_same]
    exact fun failure _ => reported_failureNote (Int.mul_pos hwidth hheight) hx failure
  · intro fault hx
    obtain ⟨bound, hbound, _⟩ := hsound.bound
    obtain ⟨rig, hcheck⟩ := checkAssertions_eq hbound
    rw [hcheck, heard_checkFrom_of_uncountable hx]
    rfl

/-! ### The greatest counter, and the next -/

/-- A player of a small screen whose shader has an assertion in its first line, with such counters. -/
theorem exists_counters (counters : List UInt32) :
    ∃ p, Reachable p ∧ p.rig.gpu.device.counters = counters ∧ p.size = (8, 8)
      ∧ p.map.assertLines.toList = [1] := by
  obtain ⟨drawn, hdrawn, _, hsize⟩ := exists_drawn
  have hmap : drawn.map = earlyMap := map_of_tracked hdrawn
  refine ⟨_, .elsewhere { counters } drawn.outside drawn.clock drawn.logicalSize hdrawn.reachable,
    rfl, hsize, ?_⟩
  show drawn.map.assertLines.toList = [1]
  rw [hmap]
  rfl

theorem assertion_percentages_greatest :
    ∃ p share, Reachable p ∧ p.rig.gpu.device.counters = 42949672 :: List.replicate 9 0
      ∧ p.size = (8, 8) ∧ Screen.IsShare (100 * 42949672) 64 share
      ∧ (left (checkAssertions p)).heard = p.heard ++ [reportNote ⟨.general,
          "Assertion failed in ".toList ++ share ++ "% of threads".toList, 1⟩] := by
  obtain ⟨p, hp, hcounters, hsize, hlines⟩ := exists_counters (42949672 :: List.replicate 9 0)
  have hpercentages := assertion_percentages hp (by rw [hsize]; decide) (by rw [hsize]; decide)
  obtain ⟨x, hx⟩ := (sized_of_size hsize).exists_double
  obtain ⟨notes, hheard, hnotes⟩ := hpercentages.1 x hx
  have hfailures : failures (42949672 :: List.replicate 9 0) [1] = [(1, 42949672)] := by decide
  rw [hcounters, hlines, hfailures, hsize] at hnotes
  obtain ⟨note, rest, ⟨⟨share, hshare, rfl⟩, _⟩, hrest, rfl⟩ := List.forall₂_cons_left_iff.mp hnotes
  cases hrest
  exact ⟨p, share, hp, hcounters, hsize, hshare, hheard⟩

/-- A hundredfold of the next counter is exact as a double, and so is its share of 64 texels. -/
theorem not_isShare_next : ¬ Screen.IsShare (100 * 42949673) 64 "0.06".toList := by
  intro hshare
  obtain ⟨quotient, hquotient, htext⟩ := hshare.exact (by decide) (by decide)
  have hrounded := @Double.rounded_of_short 4294967300 (-6) (by decide) (by decide) (by decide)
    (by decide)
  have hvalue : Format.double.value quotient = ((100 * 42949673 : Nat) : Rat) / (64 : Int) := by
    refine hquotient.value_eq (Format.roundMagnitude_le _) (hrounded.2.trans ?_)
    norm_num
  rw [hvalue] at htext
  exact absurd htext (by decide +kernel)

/-- The hundredfold of the next counter is four in 32 bits, and that is what is reported. -/
theorem assertion_percentages_wrapped :
    ∃ p, Reachable p ∧ p.rig.gpu.device.counters = 42949673 :: List.replicate 9 0
      ∧ p.size = (8, 8)
      ∧ (left (checkAssertions p)).heard = p.heard ++ [reportNote ⟨.general,
          "Assertion failed in 0.06% of threads".toList, 1⟩]
      ∧ ¬ Screen.IsShare (100 * 42949673) 64 "0.06".toList := by
  obtain ⟨p, hp, hcounters, hsize, hlines⟩ := exists_counters (42949673 :: List.replicate 9 0)
  obtain ⟨x, hx⟩ := (sized_of_size hsize).exists_double
  have hheard := heard_checkAssertions (sound_of_reachable hp) hx
  have hfailures : failures (42949673 :: List.replicate 9 0) [1] = [(1, 42949673)] := by decide
  have hmessage : Screen.failureMessage 42949673 64
      = "Assertion failed in 0.06% of threads".toList := by decide +kernel
  rw [hcounters, hlines, hfailures, hsize] at hheard
  refine ⟨p, hp, hcounters, hsize, ?_, not_isShare_next⟩
  rw [← hmessage]
  exact hheard

end Player

end ShaderPlayer
