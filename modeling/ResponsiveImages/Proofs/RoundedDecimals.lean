import ResponsiveImages.Decimal.Reading
import ResponsiveImages.Proofs.DoubleRounding

/-!
# Rounded Decimals

A numeral is read as the double that the decimal is nearest to.

It is read in one of three ways. A short numeral is converted to a double without its
point and divided by a power of ten from a table. A longer one is divided as a whole
number and rounded once. And of one that is out of range nothing is computed. The first
way rounds once as well, for whole numbers of 53 places and the powers in the table
are doubles (`Normal.exists_value`, `Normal.exists_power`). The last one is
never taken here: what is rounded to a normal double is between powers of ten whose
places the reader still counts (`decimal_range`).

So the reader does not matter, and neither does the conversion of a whole number, which
goes through the first two ways only (`roundDecimal_whole`).

## Main definitions

* `Normal.tenSignificand`: The significand of a power of ten.

## Theorems

* `Normal.exists_nearest`: Whole numbers are rounded to normal doubles.
* `Normal.toUInt64_toFloat`: A machine word as a double.
* `ofScientific_of_nearest`, `roundDecimal_of_nearest`: Numerals are read as the nearest
  double.
* `roundDecimal_whole`: A whole number is read as the double it is converted to.
-/

namespace ResponsiveImages

open Float.Model (Format UnpackedFloat totalExponent)
open Float.Model.UnpackedFloat
open Text (decimal)

namespace Normal

/-! ### Whole numbers -/

/-- A whole number moved to 53 places before the point. The digits it has beyond them make
    up the denominator. -/
theorem aligned_bounds {n : Nat} (hpos : 0 < n) :
    2 ^ 52 * 2 ^ (n.log2 - 52) ≤ n * 2 ^ (52 - n.log2)
      ∧ n * 2 ^ (52 - n.log2) < 2 ^ 53 * 2 ^ (n.log2 - 52) := by
  have hpower : 2 ^ 52 * 2 ^ (n.log2 - 52) = 2 ^ n.log2 * 2 ^ (52 - n.log2) := by
    rw [← pow_add, ← pow_add]
    congr 1
    omega
  constructor
  · rw [hpower]
    exact Nat.mul_le_mul_right _ (Nat.log2_self_le hpos.ne')
  · calc n * 2 ^ (52 - n.log2) < 2 ^ (n.log2 + 1) * 2 ^ (52 - n.log2) :=
          Nat.mul_lt_mul_of_pos_right Nat.lt_log2_self (Nat.two_pow_pos _)
      _ = 2 * (2 ^ 52 * 2 ^ (n.log2 - 52)) := by
          rw [hpower, pow_succ, Nat.mul_comm _ 2, Nat.mul_assoc]
      _ = 2 ^ 53 * 2 ^ (n.log2 - 52) := by rw [← Nat.mul_assoc, ← pow_succ']

theorem aligned_value (n : Nat) :
    ((n * 2 ^ (52 - n.log2) : Nat) / (2 ^ (n.log2 - 52) : Nat) : ℚ) * 2 ^ ((n.log2 : Int) - 52)
      = n := by
  have hexponent : (n.log2 : Int) - 52 = (n.log2 - 52 : Nat) - (52 - n.log2 : Nat) := by omega
  rw [hexponent, zpow_sub₀ two_ne_zero, zpow_natCast, zpow_natCast]
  push_cast
  field_simp

/-- A whole number of at most 53 places is a normal double. -/
theorem exists_value {n : Nat} (hpos : 0 < n) (hsmall : n < 2 ^ 53) :
    ∃ x : Normal, x.value = n := by
  have hlog : n.log2 < 53 := (Nat.log2_lt hpos.ne').mpr hsmall
  have hbounds := aligned_bounds hpos
  have hvalue := aligned_value n
  rw [show n.log2 - 52 = 0 by omega, pow_zero, Nat.mul_one, Nat.mul_one] at hbounds
  rw [show n.log2 - 52 = 0 by omega, pow_zero, Nat.cast_one, div_one] at hvalue
  exact ⟨⟨_, (n.log2 : Int) - 52, hbounds.1, hbounds.2, by omega, by omega⟩, hvalue⟩

/-- A whole number of up to 64 places is rounded to a double, far from the ends of their
    range. -/
theorem exists_nearest {n : Nat} (hpos : 0 < n) (hsmall : n < 2 ^ 64) :
    ∃ x : Normal, x.Nearest n ∧ -52 ≤ x.exponent ∧ x.exponent ≤ 12 := by
  have hlog : n.log2 < 64 := (Nat.log2_lt hpos.ne').mpr hsmall
  rcases aligned_bounds hpos with ⟨hlow, hhigh⟩
  rcases exists_nearest_scaled (Nat.two_pow_pos _) hlow hhigh (e := (n.log2 : Int) - 52)
    (by omega) (by omega) with ⟨x, hx, hlower, hupper⟩
  rw [aligned_value] at hx
  exact ⟨x, hx, by omega, by omega⟩

theorem round_whole {n : Nat} (hpos : 0 < n) {z : Normal} (h : z.Nearest n) :
    UnpackedFloat.round .binary64 .positive n 0 = z.unpacked := by
  have htarget : Format.targetExponent .binary64 (totalExponent n 0) = (n.log2 : Int) - 52 := by
    simp only [Format.targetExponent, totalExponent, Format.mantissaBits, Format.minExponent]
    omega
  have hshift : (0 - ((n.log2 : Int) - 52)).toNat = 52 - n.log2 := by omega
  have hfull : 2 ^ 52 * 1 ≤ n * 2 ^ (52 - n.log2) :=
    (Nat.mul_le_mul_left _ (Nat.two_pow_pos _)).trans (aligned_bounds hpos).1
  simp only [UnpackedFloat.round, htarget, decreaseExponent, hshift, Nat.shiftLeft_eq]
  refine roundWithAccuracy_of_nearest (by decide) (ofMantissaAndAccuracy_exact _) hfull z ?_
  -- The digits beyond the 53 places are not cut off here.
  have hvalue : ((n * 2 ^ (52 - n.log2) : Nat) / (1 : Nat)
      * 2 ^ (0 - ((52 - n.log2 : Nat) : Int)) : ℚ) = n := by
    push_cast
    rw [zero_sub, zpow_neg, zpow_natCast]
    field_simp
  rw [hvalue]
  exact h

theorem toUInt64_toFloat {n : Nat} (hpos : 0 < n) (hsmall : n < 2 ^ 53) {x : Normal}
    (h : x.value = n) : n.toUInt64.toFloat = x.toFloat := by
  have hword : n.toUInt64.toNat = n := by
    change n % 2 ^ 64 = n
    omega
  have hcompare : compare (n : Int) 0 = .gt := Int.compare_eq_gt.mpr (by omega)
  change Float.ofModel (.pack (UnpackedFloat.normalize .binary64 n.toUInt64.toNat 0 .positive)) = _
  rw [hword, UnpackedFloat.normalize, hcompare]
  simp only [Int.toNat_natCast]
  rw [round_whole hpos (h ▸ x.nearest_value)]
  rfl

/-! ### Powers of ten -/

theorem toFloat_of_bits {f : Float} (x : Normal)
    (h : f.toBits.toNat = x.biased * 2 ^ 52 + (x.significand - 2 ^ 52)) : f = x.toFloat := by
  rw [← x.toNat_toBits] at h
  exact Float.toBits_inj.mp (UInt64.toNat_inj.mp h)

/-- A power of ten cut into a significand and an exponent. -/
def tenSignificand (p : Nat) : Nat :=
  10 ^ p * 2 ^ (52 - (10 ^ p).log2) / 2 ^ ((10 ^ p).log2 - 52)

/-- The powers of ten in the table are doubles. -/
theorem exists_power {p : Nat} (hp : p < Float.exactlyRepresentablePowersOfTen.size) :
    ∃ x : Normal, x.value = 10 ^ p ∧ Float.exactlyRepresentablePowersOfTen[p] = x.toFloat := by
  have htable : ∀ q, ∀ hq : q < Float.exactlyRepresentablePowersOfTen.size,
      2 ^ 52 ≤ tenSignificand q ∧ tenSignificand q < 2 ^ 53
        ∧ tenSignificand q * 2 ^ ((10 ^ q).log2 - 52) = 10 ^ q * 2 ^ (52 - (10 ^ q).log2)
        ∧ (10 ^ q).log2 ≤ 1000
        ∧ Float.exactlyRepresentablePowersOfTen[q].toBits.toNat
            = ((10 ^ q).log2 + 1023) * 2 ^ 52 + (tenSignificand q - 2 ^ 52) := by
    decide +kernel
  rcases htable p hp with ⟨hleast, hmost, hexact, hlog, hbits⟩
  refine ⟨⟨_, ((10 ^ p).log2 : Int) - 52, hleast, hmost, by omega, by omega⟩, ?_, ?_⟩
  · have hvalue := aligned_value (10 ^ p)
    rw [← hexact, Nat.cast_mul, mul_div_assoc, div_self (by positivity), mul_one] at hvalue
    exact_mod_cast hvalue
  · refine toFloat_of_bits _ (hbits.trans ?_)
    rw [biased]
    simp only
    omega

end Normal

/-! ### Decimals -/

section

variable {c places : Nat} {z : Normal}

/-- The bounds are those beyond which no power of ten is computed, and they are far away. -/
theorem unpacked_ofScientific (hpos : 0 < c) (h : z.Nearest (c / 10 ^ places))
    (hplaces : places ≤ 2048 + c.log2) :
    UnpackedFloat.ofScientific .binary64 c (-places) = z.unpacked := by
  have hbound : (2 ^ Format.exponentBits .binary64 : Int) = 2048 := rfl
  rw [UnpackedFloat.ofScientific, dif_neg hpos.ne', if_neg (by omega), if_neg (by omega)]
  by_cases hzero : 0 < places
  · have hpower : (-(-(places : Int))).toNat = places := by omega
    rw [if_neg (by omega)]
    refine div_finite _ _ ?_
    rw [hpower]
    simpa using h
  · have hzero' : places = 0 := by omega
    rw [hzero', pow_zero, div_one] at h
    have hone : 10 ^ (-(places : Int)).toNat = 1 := by rw [hzero']; rfl
    rw [if_pos (by omega)]
    refine mul_finite _ _ ?_ ?_
    · rw [hone, Nat.mul_one, Nat.shiftLeft_eq]
      exact (Nat.pow_le_pow_right (by decide) (by decide)).trans (Nat.le_mul_of_pos_left _ hpos)
    · rw [hone, Nat.shiftLeft_eq]
      have hvalue : ((c * 2 ^ Format.mantissaBits .binary64 : Nat) : ℚ)
          * 2 ^ (-(Format.mantissaBits .binary64 : Nat) : Int) * ((1 : Nat) * 2 ^ (0 : Int))
          = c := by
        rw [zpow_neg, zpow_natCast]
        push_cast
        field_simp
      rw [hvalue]
      exact h

/-- A decimal is read as the double it is nearest to. -/
theorem ofScientific_of_nearest (hpos : 0 < c) (h : z.Nearest (c / 10 ^ places))
    (hplaces : places ≤ 2048 + c.log2) :
    Float.ofScientific c (decide (0 < places)) places = z.toFloat := by
  rw [Float.ofScientific]
  split
  · next hfast =>
      rcases Normal.exists_value hpos hfast.1 with ⟨x, hx⟩
      have hsize : places < Float.exactlyRepresentablePowersOfTen.size :=
        Nat.lt_succ_of_le hfast.2
      rcases Normal.exists_power hsize with ⟨y, hy, htable⟩
      change (if decide (0 < places) = true
        then c.toUInt64.toFloat / Float.exactlyRepresentablePowersOfTen[places]
        else c.toUInt64.toFloat * Float.exactlyRepresentablePowersOfTen[places]) = _
      rw [Normal.toUInt64_toFloat hpos hfast.1 hx, htable]
      by_cases hzero : 0 < places
      · rw [decide_eq_true hzero, if_pos rfl]
        exact Normal.div_toFloat (by rw [hx, hy]; exact h)
      · have hzero' : places = 0 := by omega
        rw [decide_eq_false hzero, if_neg (by decide)]
        rw [hzero', pow_zero] at hy h
        exact Normal.mul_toFloat (by rw [hx, hy, mul_one]; rwa [div_one] at h)
  · have hexponent : (if decide (0 < places) = true then Int.negOfNat places
        else Int.ofNat places) = -(places : Int) := by
      by_cases hzero : 0 < places
      · rw [decide_eq_true hzero, if_pos rfl, Int.negOfNat_eq]
        rfl
      · rw [decide_eq_false hzero, if_neg (by decide), show places = 0 by omega]
        rfl
    simp only [hexponent, Float.Model.ofScientific, unpacked_ofScientific hpos h hplaces]
    rfl

/-- The number of digits of a numeral. -/
theorem decimal_bounds (hpos : 0 < c) :
    10 ^ ((decimal c).length - 1) ≤ c ∧ c < 10 ^ (decimal c).length := by
  have hlength : 0 < (decimal c).length := Nat.length_toDigits_pos
  have hle : ∀ k, 0 < k → ((decimal c).length ≤ k ↔ c < 10 ^ k) := fun k hk =>
    Nat.length_toDigits_le_iff (by decide) hk
  refine ⟨?_, (hle _ hlength).mp le_rfl⟩
  by_cases hone : (decimal c).length = 1
  · rw [hone]
    exact hpos
  · by_contra hlt
    have hshort := (hle ((decimal c).length - 1) (by omega)).mpr (by omega)
    omega

theorem two_pow_le_ten_pow {j k : Nat} (h : j ≤ 3 * k) : 2 ^ j ≤ 10 ^ k := by
  calc 2 ^ j ≤ 2 ^ (3 * k) := Nat.pow_le_pow_right (by decide) h
    _ = (2 ^ 3) ^ k := pow_mul ..
    _ ≤ 10 ^ k := Nat.pow_le_pow_left (by decide) k

/-- The range of the normal doubles in powers of ten. -/
theorem decimal_range {v : ℚ} (h : z.Nearest v) : 1 ≤ v * 10 ^ 399 ∧ v ≤ 10 ^ 399 := by
  rcases h.range with ⟨hlow, hhigh⟩
  have hpower : (2 : ℚ) ^ (1024 : Int) ≤ 10 ^ 399 := by
    have hnat : (2 ^ 1024 : Nat) ≤ 10 ^ 399 := two_pow_le_ten_pow (by decide)
    exact_mod_cast hnat
  have hleast : (0 : ℚ) ≤ 2 ^ (-1022 : Int) := by positivity
  refine ⟨?_, hhigh.trans hpower⟩
  calc (1 : ℚ) = 2 ^ (-1022 : Int) * 2 ^ (1022 : Int) := by
        rw [← zpow_add₀ two_ne_zero]
        rfl
    _ ≤ 2 ^ (-1022 : Int) * 2 ^ (1024 : Int) :=
        mul_le_mul_of_nonneg_left (zpow_le_zpow_right₀ (by norm_num) (by decide)) hleast
    _ ≤ v * 10 ^ 399 := mul_le_mul hlow hpower (by positivity) (hleast.trans hlow)

/-- A decimal in the range of the normal doubles is not taken for zero or infinite. -/
theorem roundDecimal_of_nearest (h : z.Nearest (c / 10 ^ places)) :
    roundDecimal c (-places) = z.toFloat := by
  rcases decimal_range h with ⟨hlow, hhigh⟩
  have hten : (0 : ℚ) < 10 ^ places := by positivity
  rw [div_mul_eq_mul_div, le_div_iff₀ hten, one_mul] at hlow
  rw [div_le_iff₀ hten] at hhigh
  have hlow' : 10 ^ places ≤ c * 10 ^ 399 := by exact_mod_cast hlow
  have hhigh' : c ≤ 10 ^ 399 * 10 ^ places := by exact_mod_cast hhigh
  have hpos : 0 < c := by
    by_contra hzero
    rw [show c = 0 by omega, Nat.zero_mul] at hlow'
    exact absurd hlow' (Nat.not_le.mpr (Nat.pow_pos (by decide)))
  rcases decimal_bounds hpos with ⟨hleast, hmost⟩
  have hlength : 0 < (decimal c).length := Nat.length_toDigits_pos
  generalize hdigits : (decimal c).length = digits at *
  have hbelow : places < digits + 399 := by
    rw [← Nat.pow_lt_pow_iff_right (show 1 < 10 by decide), pow_add]
    exact hlow'.trans_lt (Nat.mul_lt_mul_of_pos_right hmost (by positivity))
  have habove : digits - 1 ≤ 399 + places := by
    rw [← Nat.pow_le_pow_iff_right (show 1 < 10 by decide), pow_add]
    exact hleast.trans hhigh'
  have hlog : digits - 1 ≤ c.log2 := by
    rw [Nat.le_log2 hpos.ne']
    exact (Nat.pow_le_pow_left (by decide) _).trans hleast
  have hsign : decide (-(places : Int) < 0) = decide (0 < places) := by
    rw [decide_eq_decide]
    omega
  have habs : (-(places : Int)).natAbs = places := by omega
  have hrange : ¬ (c = 0 ∨ -(places : Int) + digits < -400) ∧ ¬ 400 < -(places : Int) + digits := by
    omega
  rw [roundDecimal, habs, hsign, hdigits, if_neg hrange.1, if_neg hrange.2]
  exact ofScientific_of_nearest hpos h (by omega)

end

/-! ### Numerals of whole numbers -/

theorem ofNat_of_nearest {n : Nat} (hpos : 0 < n) {x : Normal} (h : x.Nearest n) :
    Float.ofNat n = x.toFloat := by
  have hwhole : x.Nearest (n / 10 ^ 0) := by rwa [pow_zero, div_one]
  exact ofScientific_of_nearest hpos hwhole (Nat.zero_le _)

/-- A whole number is read from its digits as the double it is converted to. -/
theorem roundDecimal_whole {n : Nat} (hsmall : n < 2 ^ 64) :
    roundDecimal n 0 = Float.ofNat n := by
  by_cases hzero : n = 0
  · rw [hzero]
    decide +kernel
  · have hpos : 0 < n := by omega
    rcases Normal.exists_nearest hpos hsmall with ⟨x, hx, _⟩
    have hwhole : x.Nearest (n / 10 ^ 0) := by rwa [pow_zero, div_one]
    rw [ofNat_of_nearest hpos hx, ← roundDecimal_of_nearest hwhole]
    rfl

end ResponsiveImages
