import ResponsiveImages.Proofs.NormalDoubles

/-!
# Rounding to Doubles

The one step that ends every operation on doubles, `roundWithAccuracy`. It is given the
leading places of the exact result and how what is left compares with a half, and it
has to find the double that the exact result is nearest to.

What is left is kept in two bits, and they change their meaning with every place that is
shifted out. So they are not described at all. `quotient` is the state of the rounding
as a function of two whole numbers: the whole part of their quotient, the bit of a half,
and whether there is more. To shift by a place is to double the denominator
(`shiftRight_quotient`), and to round is to find the whole number next to the quotient
(`rounded_quotient`). A product has the denominator one, and a quotient has the
divisor.

The result is shifted twice, since rounding up may carry into one more place. A number
just below a power of two is taken at the place below that of the double, and gets to
the double by that carry. Hence the place is a parameter in
`roundWithAccuracy_quotient`, and the two cases meet in `roundWithAccuracy_of_nearest`.

## Main definitions

* `RoundsTo`: The whole number a fraction is rounded to.
* `quotient`: The state of the rounding that stands for a fraction.

## Theorems

* `shiftRight_quotient`, `rounded_quotient`: Shifting and rounding a fraction.
* `roundWithAccuracy_of_nearest`: Rounding finds the nearest double.
* `exists_nearest_scaled`: There is a nearest double.
* `Normal.mul_toFloat`, `Normal.div_toFloat`: The product and the quotient of two doubles
  is the double nearest to the exact result.
-/

namespace ResponsiveImages

open Float.Model (Format UnpackedFloat totalExponent)
open Float.Model.UnpackedFloat

/-! ### Rounding to whole numbers -/

/-- The whole number nearest to `w`, and the even one if two are equally near. -/
structure RoundsTo (w : ℚ) (r : Nat) : Prop where
  above : (r : ℚ) - 1 / 2 ≤ w
  below : w ≤ r + 1 / 2
  inside : r % 2 = 1 → (r : ℚ) - 1 / 2 < w ∧ w < r + 1 / 2

/-- The whole part of `num / den`, the bit of a half, and whether anything is left. -/
def quotient (num den : Nat) : ExtendedMantissa where
  mantissa := num / den
  roundBit := 2 * num / den % 2 != 0
  stickyBit := 2 * num % den != 0

theorem ofMantissaAndAccuracy_exact (n : Nat) :
    ExtendedMantissa.ofMantissaAndAccuracy n .exact = quotient n 1 := by
  simp [quotient, ExtendedMantissa.ofMantissaAndAccuracy, Nat.mod_one]

section

variable {num den : Nat}

/-- The whole part is half of the number of halves. -/
theorem div_of_halves (num den : Nat) : num / den = 2 * num / den / 2 := by
  rw [Nat.div_div_eq_div_mul, Nat.mul_comm den 2, Nat.mul_div_mul_left _ _ (by decide)]

/-- To shift by one place is to double the denominator. -/
theorem shiftRightOne_quotient (hden : 0 < den) :
    (quotient num den).shiftRightOne = quotient num (den * 2) := by
  have hmantissa : num / den / 2 = num / (den * 2) := Nat.div_div_eq_div_mul ..
  have hround : 2 * num / (den * 2) = num / den := by
    rw [Nat.mul_comm den 2, Nat.mul_div_mul_left _ _ (by decide)]
  have hleft : 2 * num % (den * 2) = 2 * num % den + den * (2 * num / den % 2) := Nat.mod_mul
  have hsticky : (2 * num / den % 2 != 0 || 2 * num % den != 0) = (2 * num % (den * 2) != 0) := by
    rw [hleft]
    rcases Nat.mod_two_eq_zero_or_one (2 * num / den) with hbit | hbit
    · rw [hbit, Nat.mul_zero, Nat.add_zero]
      rfl
    · have hne : 2 * num % den + den * 1 ≠ 0 := by omega
      rw [hbit, bne_iff_ne.mpr hne]
      rfl
  simp only [quotient, ExtendedMantissa.shiftRightOne, hmantissa, hround, hsticky]

theorem shiftRight_quotient (hden : 0 < den) (n : Nat) :
    quotient num den >>> n = quotient num (den * 2 ^ n) := by
  change n.repeat ExtendedMantissa.shiftRightOne (quotient num den) = _
  induction n with
  | zero => rw [pow_zero, Nat.mul_one]; rfl
  | succ n ih =>
      rw [Nat.repeat, ih, shiftRightOne_quotient (Nat.mul_pos hden (Nat.two_pow_pos n)), pow_succ,
        Nat.mul_assoc]

/-- Rounding to the nearest whole number, with everything in halves. -/
theorem roundedMantissa_of_halves {num den r : Nat} (hden : 0 < den)
    (habove : 2 * r * den ≤ 2 * num + den) (hbelow : 2 * num ≤ (2 * r + 1) * den)
    (hinside : r % 2 = 1 → 2 * r * den < 2 * num + den ∧ 2 * num < (2 * r + 1) * den) :
    (quotient num den).roundedMantissa = r := by
  have hdiv := Nat.div_add_mod (2 * num) den
  have hmod := Nat.mod_lt (2 * num) hden
  rw [quotient, div_of_halves num den]
  generalize 2 * num / den = h at *
  generalize 2 * num % den = s at *
  rw [Nat.mul_comm den h] at hdiv
  have hcases : h + 1 = 2 * r ∨ h = 2 * r ∨ h = 2 * r + 1 := by
    have hle : 2 * r < h + 2 := by
      refine Nat.lt_of_mul_lt_mul_right (a := den) ?_
      rw [Nat.add_mul]
      omega
    have hge : h < 2 * r + 2 := by
      refine Nat.lt_of_mul_lt_mul_right (a := den) ?_
      rw [Nat.add_mul] at hbelow ⊢
      omega
    omega
  rcases hcases with hlow | hsame | hhigh
  · -- A half is missing, or less. If just a half is missing the number is even.
    have hround : (h % 2 != 0) = true := by
      rw [show h % 2 = 1 by omega]
      rfl
    have hnext : h / 2 + 1 = r := by omega
    rw [hround]
    by_cases hs : s = 0
    · have hodd : h / 2 % 2 = 1 := by
        by_contra hodd
        have hstrict := (hinside (by omega)).1
        rw [← hlow, Nat.add_mul] at hstrict
        omega
      rw [hs]
      change h / 2 + h / 2 % 2 = r
      rw [hodd, hnext]
    · rw [bne_iff_ne.mpr hs]
      exact hnext
  · -- Less than a half is left.
    have hround : (h % 2 != 0) = false := by
      rw [show h % 2 = 0 by omega]
      rfl
    have hwhole : h / 2 = r := by omega
    rw [hround]
    by_cases hs : s = 0
    · rw [hs]
      exact hwhole
    · rw [bne_iff_ne.mpr hs]
      exact hwhole
  · -- Just a half is left, and the number is even.
    have hround : (h % 2 != 0) = true := by
      rw [show h % 2 = 1 by omega]
      rfl
    have hwhole : h / 2 = r := by omega
    rw [hhigh] at hdiv
    have hs : s = 0 := by omega
    have heven : r % 2 = 0 := by
      by_contra hodd
      have hstrict := (hinside (by omega)).2
      omega
    rw [hround, hs]
    change h / 2 + h / 2 % 2 = r
    rw [hwhole, heven, Nat.add_zero]

theorem rounded_quotient (hden : 0 < den) {r : Nat} (h : RoundsTo (num / den : ℚ) r) :
    (quotient num den).roundedMantissa = r := by
  have hden' : (0 : ℚ) < den := by exact_mod_cast hden
  have habove : 2 * r * den ≤ 2 * num + den := by
    have h1 := (le_div_iff₀ hden').mp h.above
    have h2 : (2 * r * den : ℚ) ≤ 2 * num + den := by linarith
    exact_mod_cast h2
  have hbelow : 2 * num ≤ (2 * r + 1) * den := by
    have h1 := (div_le_iff₀ hden').mp h.below
    have h2 : (2 * num : ℚ) ≤ (2 * r + 1) * den := by linarith
    exact_mod_cast h2
  have hinside : r % 2 = 1 → 2 * r * den < 2 * num + den ∧ 2 * num < (2 * r + 1) * den := by
    intro hodd
    have h1 := (lt_div_iff₀ hden').mp (h.inside hodd).1
    have h2 := (div_lt_iff₀ hden').mp (h.inside hodd).2
    have h3 : (2 * r * den : ℚ) < 2 * num + den := by linarith
    have h4 : (2 * num : ℚ) < (2 * r + 1) * den := by linarith
    exact ⟨by exact_mod_cast h3, by exact_mod_cast h4⟩
  exact roundedMantissa_of_halves hden habove hbelow hinside

end

theorem floor_quotient (num : Nat) {den : Nat} (hden : 0 < den) :
    ((num / den : Nat) : ℚ) ≤ num / den ∧ (num / den : ℚ) < (num / den : Nat) + 1 := by
  have hden' : (0 : ℚ) < den := by exact_mod_cast hden
  have hle : (num / den) * den ≤ num := Nat.div_mul_le_self num den
  have hlt : num < (num / den + 1) * den := Nat.lt_mul_of_div_lt (Nat.lt_succ_self _) hden
  rw [le_div_iff₀ hden', div_lt_iff₀ hden']
  exact ⟨by exact_mod_cast hle, by exact_mod_cast hlt⟩

theorem exists_roundsTo (num : Nat) {den : Nat} (hden : 0 < den) :
    ∃ r, RoundsTo (num / den : ℚ) r := by
  rcases floor_quotient num hden with ⟨hle, hlt⟩
  generalize (num / den : ℚ) = w at *
  generalize num / den = n at *
  rcases lt_trichotomy w (n + 1 / 2) with hnear | htie | hfar
  · exact ⟨n, by linarith, by linarith, fun _ => ⟨by linarith, hnear⟩⟩
  · by_cases heven : n % 2 = 0
    · exact ⟨n, by linarith, by linarith, fun hodd => by omega⟩
    · exact ⟨n + 1, by push_cast; linarith, by push_cast; linarith, fun hodd => by omega⟩
  · refine ⟨n + 1, by push_cast; linarith, by push_cast; linarith, fun _ => ?_⟩
    push_cast
    exact ⟨by linarith, by linarith⟩

/-! ### Rounding to normal doubles -/

theorem log2_of_scaled {m n : Nat} {q w : ℚ} (hfloor : (m : ℚ) ≤ q ∧ q < m + 1)
    (hq : q = w * 2 ^ n) (hlow : 2 ^ 52 ≤ w) (hhigh : w < 2 ^ 53) : m.log2 = 52 + n := by
  have hpower : (0 : ℚ) < 2 ^ n := by positivity
  have hle : (2 ^ 52 * 2 ^ n : ℚ) < m + 1 := by nlinarith
  have hlt : (m : ℚ) < 2 ^ 53 * 2 ^ n := by nlinarith
  have hle' : 2 ^ 52 * 2 ^ n < m + 1 := by exact_mod_cast hle
  have hlt' : m < 2 ^ 53 * 2 ^ n := by exact_mod_cast hlt
  rw [← pow_add] at hle' hlt'
  have hne : m ≠ 0 := by
    have hpos := Nat.two_pow_pos (52 + n)
    omega
  rw [Nat.log2_eq_iff hne]
  exact ⟨by omega, by rw [show 52 + n + 1 = 53 + n by omega]; exact hlt'⟩

section

variable {num den mantissa : Nat} {accuracy : Accuracy} {exponent : Int}

theorem shiftToTargetExponent_quotient (hden : 0 < den)
    (hem : ExtendedMantissa.ofMantissaAndAccuracy mantissa accuracy = quotient num den) {n : Nat}
    {w : ℚ} (hw : (num / den : ℚ) = w * 2 ^ n) (hlow : 2 ^ 52 ≤ w) (hhigh : w < 2 ^ 53)
    (hexponent : -1074 ≤ exponent + n) :
    shiftToTargetExponent .binary64 mantissa exponent accuracy
      = (quotient num (den * 2 ^ n), exponent + n) := by
  have hmantissa : mantissa = num / den := by
    rcases accuracy with _ | _ | _ | _ <;> exact congrArg ExtendedMantissa.mantissa hem
  have hlog := log2_of_scaled (floor_quotient num hden) hw hlow hhigh
  rw [← hmantissa] at hlog
  have htarget : Format.targetExponent .binary64 (totalExponent mantissa exponent)
      = exponent + n := by
    simp only [Format.targetExponent, totalExponent, hlog, Format.mantissaBits,
      Format.minExponent]
    omega
  have hshift : (exponent + n - exponent).toNat = n := by omega
  simp only [shiftToTargetExponent, htarget, shiftToExponent, hshift, hem,
    shiftRight_quotient hden]

/-- A number is rounded to a double if its significand, taken at the double's own place
    or at the place below, is rounded to that of the double. -/
theorem roundWithAccuracy_quotient (hden : 0 < den)
    (hem : ExtendedMantissa.ofMantissaAndAccuracy mantissa accuracy = quotient num den)
    (x : Normal) {n k : Nat} (hk : k ≤ 1) {w : ℚ} (hw : (num / den : ℚ) = w * 2 ^ n)
    (hexponent : exponent + n + k = x.exponent) (hlow : 2 ^ 52 ≤ w) (hhigh : w < 2 ^ 53)
    (hround : RoundsTo w (x.significand * 2 ^ k)) :
    roundWithAccuracy .binary64 .positive mantissa exponent accuracy = x.unpacked := by
  have hleast : (2 ^ 52 : ℚ) ≤ x.significand := by exact_mod_cast x.least
  have hmost : (x.significand : ℚ) < 2 ^ 53 := by exact_mod_cast x.most
  have hlower := x.lower
  have hfirst : shiftToTargetExponent .binary64 mantissa exponent accuracy
      = (quotient num (den * 2 ^ n), exponent + n) :=
    shiftToTargetExponent_quotient hden hem hw hlow hhigh (by omega)
  have hrounded : (quotient num (den * 2 ^ n)).roundedMantissa = x.significand * 2 ^ k := by
    refine rounded_quotient (Nat.mul_pos hden (Nat.two_pow_pos n)) ?_
    have hscaled : (num / (den * 2 ^ n : Nat) : ℚ) = w := by
      push_cast
      rw [← div_div, hw, mul_div_assoc, div_self (by positivity), mul_one]
    rw [hscaled]
    exact hround
  -- Rounding up may have filled one more place, and the second shift takes it off.
  have hwhole := ofMantissaAndAccuracy_exact (x.significand * 2 ^ k)
  have hsecond : shiftToTargetExponent .binary64 (x.significand * 2 ^ k) (exponent + n) .exact
      = (quotient (x.significand * 2 ^ k) (1 * 2 ^ k), exponent + n + k) :=
    shiftToTargetExponent_quotient (by decide) hwhole (by push_cast; ring) hleast hmost (by omega)
  have hmantissa : (quotient (x.significand * 2 ^ k) (1 * 2 ^ k)).mantissa = x.significand := by
    rw [quotient, Nat.one_mul, Nat.mul_div_cancel _ (Nat.two_pow_pos k)]
  have hpos := x.pos
  simp only [roundWithAccuracy, hfirst, hrounded, hsecond, hmantissa, hexponent]
  rw [dif_neg (by omega)]
  rfl

/-- A quotient of at least 53 places is shifted to the right. -/
theorem exists_shift {q w : ℚ} {d : Int} (hq : q = w * 2 ^ d) (hfull : 2 ^ 52 ≤ q)
    (hhigh : w < 2 ^ 53) : ∃ n : Nat, d = n := by
  refine Int.eq_ofNat_of_zero_le ?_
  by_contra hneg
  have hhalf : (2 : ℚ) ^ d ≤ 2 ^ (-1 : Int) := zpow_le_zpow_right₀ (by norm_num) (by omega)
  have hpos : (0 : ℚ) < 2 ^ d := by positivity
  rw [zpow_neg_one] at hhalf
  nlinarith

/-- Rounding finds the double the number is nearest to. -/
theorem roundWithAccuracy_of_nearest (hden : 0 < den)
    (hem : ExtendedMantissa.ofMantissaAndAccuracy mantissa accuracy = quotient num den)
    (hfull : 2 ^ 52 * den ≤ num) (x : Normal) (h : x.Nearest (num / den * 2 ^ exponent)) :
    roundWithAccuracy .binary64 .positive mantissa exponent accuracy = x.unpacked := by
  have hden' : (0 : ℚ) < den := by exact_mod_cast hden
  have hquotient : (2 ^ 52 : ℚ) ≤ num / den := by
    rw [le_div_iff₀ hden']
    exact_mod_cast hfull
  -- The number in units of the last place of the double.
  have hunits : ∃ w : ℚ, (num / den : ℚ) = w * 2 ^ (x.exponent - exponent) := by
    refine ⟨num / den * 2 ^ (exponent - x.exponent), ?_⟩
    rw [mul_assoc, ← zpow_add₀ two_ne_zero, show exponent - x.exponent + (x.exponent - exponent) = 0
      by omega, zpow_zero, mul_one]
  rcases hunits with ⟨w, hw⟩
  have hvalue : (num / den : ℚ) * 2 ^ exponent = w * 2 ^ x.exponent := by
    rw [hw, mul_assoc, ← zpow_add₀ two_ne_zero, show x.exponent - exponent + exponent = x.exponent
      by omega]
  rw [hvalue] at h
  rcases Normal.nearest_units.mp h with ⟨habove, hbelow, hinside⟩
  have hmost : (x.significand : ℚ) ≤ 2 ^ 53 - 1 := by
    have hle : x.significand + 1 ≤ 2 ^ 53 := x.most
    have hle' : (x.significand : ℚ) + 1 ≤ 2 ^ 53 := by exact_mod_cast hle
    linarith
  by_cases hlow : 2 ^ 52 ≤ w
  · have hhigh : w < 2 ^ 53 := by linarith
    rcases exists_shift hw hquotient hhigh with ⟨n, hn⟩
    have hround : RoundsTo w (x.significand * 2 ^ 0) := by
      rw [pow_zero, Nat.mul_one]
      have hhalf := x.lowerHalf_le
      exact ⟨by linarith, hbelow, fun hodd => ⟨by linarith [hinside hodd], (hinside hodd).2⟩⟩
    rw [hn, zpow_natCast] at hw
    exact roundWithAccuracy_quotient hden hem x (by decide) hw (by push_cast; omega) hlow hhigh
      hround
  · -- Only the least significand has numbers below it that are rounded to it.
    have hsignificand : x.significand = 2 ^ 52 := by
      by_contra hne
      rw [Normal.lowerHalf, if_neg hne] at habove
      have hleast := x.least
      have hnext : 2 ^ 52 + 1 ≤ x.significand := by omega
      have hnext' : (2 ^ 52 + 1 : ℚ) ≤ x.significand := by exact_mod_cast hnext
      linarith
    rw [Normal.lowerHalf, if_pos hsignificand, hsignificand] at habove
    push_cast at habove
    have hhigh : 2 * w < 2 ^ 53 := by linarith
    have hround : RoundsTo (2 * w) (x.significand * 2 ^ 1) := by
      rw [hsignificand]
      refine ⟨?_, ?_, fun hodd => absurd hodd (by decide)⟩ <;> push_cast <;> linarith
    have hdouble : (num / den : ℚ) = 2 * w * 2 ^ (x.exponent - exponent - 1) := by
      rw [hw, zpow_sub_one₀ two_ne_zero]
      ring
    rcases exists_shift hdouble hquotient hhigh with ⟨n, hn⟩
    rw [hn, zpow_natCast] at hdouble
    exact roundWithAccuracy_quotient hden hem x le_rfl hdouble (by push_cast; omega) (by linarith)
      hhigh hround

end

/-- A number of 53 places before the point is rounded to a double. -/
theorem exists_nearest_scaled {num den : Nat} (hden : 0 < den) (hlow : 2 ^ 52 * den ≤ num)
    (hhigh : num < 2 ^ 53 * den) {e : Int} (hlower : -1073 ≤ e) (hupper : e < 971) :
    ∃ x : Normal, x.Nearest (num / den * 2 ^ e) ∧ e ≤ x.exponent ∧ x.exponent ≤ e + 1 := by
  have hden' : (0 : ℚ) < den := by exact_mod_cast hden
  have hlow' : (2 ^ 52 : ℚ) ≤ num / den := by
    rw [le_div_iff₀ hden']
    exact_mod_cast hlow
  have hhigh' : (num / den : ℚ) < 2 ^ 53 := by
    rw [div_lt_iff₀ hden']
    exact_mod_cast hhigh
  have hunit : (0 : ℚ) < 2 ^ e := by positivity
  rcases exists_roundsTo num hden with ⟨r, habove, hbelow, hinside⟩
  generalize (num / den : ℚ) = w at *
  have hleast : 2 ^ 52 ≤ r := by
    have hlt : (2 ^ 52 : ℚ) < r + 1 := by linarith
    have hlt' : 2 ^ 52 < r + 1 := by exact_mod_cast hlt
    omega
  have hmost : r ≤ 2 ^ 53 := by
    have hlt : (r : ℚ) < 2 ^ 53 + 1 := by linarith
    have hlt' : r < 2 ^ 53 + 1 := by exact_mod_cast hlt
    omega
  by_cases hfull : r = 2 ^ 53
  · -- Rounding has carried to the next power of two.
    refine ⟨⟨2 ^ 52, e + 1, le_rfl, by decide, by omega, by omega⟩, ?_, by simp, le_rfl⟩
    have hhalf : w * 2 ^ e = w / 2 * 2 ^ (e + 1) := by
      rw [zpow_add_one₀ two_ne_zero]
      ring
    rw [hhalf]
    refine Normal.nearest_units.mpr ⟨?_, ?_, fun hodd => ?_⟩
    · rw [hfull] at habove
      rw [Normal.lowerHalf, if_pos rfl]
      push_cast at habove ⊢
      linarith
    · push_cast
      linarith
    · exact absurd hodd (show ¬ 2 ^ 52 % 2 = 1 by decide)
  · refine ⟨⟨r, e, hleast, by omega, hlower, hupper.le⟩, ?_, le_rfl, by simp⟩
    refine Normal.nearest_units.mpr ?_
    rw [Normal.lowerHalf]
    simp only
    split
    · next hpower =>
        rw [hpower] at hbelow ⊢
        push_cast at hbelow ⊢
        exact ⟨by linarith, hbelow, fun hodd => absurd hodd (by decide)⟩
    · exact ⟨habove, hbelow, hinside⟩

/-! ### Products and quotients -/

/-- The accuracy of a division is what is left of the quotient. -/
theorem ofMantissaAndAccuracy_div {num den : Nat} (hden : 0 < den) :
    ExtendedMantissa.ofMantissaAndAccuracy (num / den) (accuracyOfFraction (num % den) den)
      = quotient num den := by
  have hmod := Nat.mod_lt num hden
  have hdouble : 2 * num = 2 * (num % den) + den * (2 * (num / den)) := by
    have hdiv := Nat.div_add_mod num den
    have hassoc : den * (2 * (num / den)) = 2 * (den * (num / den)) := Nat.mul_left_comm ..
    omega
  have hhalves : 2 * num / den = 2 * (num % den) / den + 2 * (num / den) := by
    rw [hdouble, Nat.add_mul_div_left _ _ hden]
  have hleft : 2 * num % den = 2 * (num % den) % den := by
    rw [hdouble, Nat.add_mul_mod_self_left]
  have hround : 2 * num / den % 2 = 2 * (num % den) / den % 2 := by omega
  rw [quotient, hleft, hround, accuracyOfFraction]
  generalize num % den = r at *
  by_cases hr : r = 0
  · rw [hr, if_pos rfl]
    simp [ExtendedMantissa.ofMantissaAndAccuracy]
  · rw [if_neg hr]
    rcases Nat.lt_trichotomy (2 * r) den with hlt | heq | hgt
    · rw [Nat.compare_eq_lt.mpr hlt, Nat.div_eq_of_lt hlt, Nat.mod_eq_of_lt hlt]
      simp [ExtendedMantissa.ofMantissaAndAccuracy, hr]
    · rw [Nat.compare_eq_eq.mpr heq, heq, Nat.div_self hden, Nat.mod_self]
      rfl
    · have hone : 2 * r / den = 1 := Nat.div_eq_of_lt_le (by omega) (by omega)
      have hrest : 2 * r % den ≠ 0 := by
        rw [Nat.mod_eq_sub_mod hgt.le, Nat.mod_eq_of_lt (by omega)]
        omega
      rw [Nat.compare_eq_gt.mpr hgt, hone, bne_iff_ne.mpr hrest]
      rfl

/-- A product of positive numbers of enough places. -/
theorem mul_finite {m₁ m₂ : Nat} {e₁ e₂ : Int} (h₁ : 0 < m₁) (h₂ : 0 < m₂)
    (hfull : 2 ^ 52 ≤ m₁ * m₂) {z : Normal} (h : z.Nearest (m₁ * 2 ^ e₁ * (m₂ * 2 ^ e₂))) :
    UnpackedFloat.mul .binary64 (.finite .positive m₁ e₁ h₁) (.finite .positive m₂ e₂ h₂)
      = z.unpacked := by
  refine roundWithAccuracy_of_nearest (by decide) (ofMantissaAndAccuracy_exact _)
    (by rwa [Nat.mul_one]) z ?_
  have hvalue : (m₁ * 2 ^ e₁ * (m₂ * 2 ^ e₂) : ℚ)
      = (m₁ * m₂ : Nat) / (1 : Nat) * 2 ^ (e₁ + e₂) := by
    rw [zpow_add₀ two_ne_zero]
    push_cast
    ring
  rw [← hvalue]
  exact h

/-- The leading places alone make a quotient long enough. -/
theorem long_of_log2 {m₁ m₂ shift : Nat} (h₁ : 0 < m₁)
    (hlog : 53 + m₂.log2 ≤ m₁.log2 + shift) : 2 ^ 52 * m₂ ≤ m₁ * 2 ^ shift := by
  calc 2 ^ 52 * m₂ ≤ 2 ^ 52 * 2 ^ (m₂.log2 + 1) := Nat.mul_le_mul_left _ Nat.lt_log2_self.le
    _ = 2 ^ (52 + (m₂.log2 + 1)) := (pow_add ..).symm
    _ ≤ 2 ^ (m₁.log2 + shift) := Nat.pow_le_pow_right (by decide) (by omega)
    _ = 2 ^ m₁.log2 * 2 ^ shift := pow_add ..
    _ ≤ m₁ * 2 ^ shift := Nat.mul_le_mul_right _ (Nat.log2_self_le h₁.ne')

/-- A quotient that is cut at the least exponent is long enough as well, if it is rounded
    to a normal double. -/
theorem long_of_nearest {num den : Nat} (hden : 0 < den) {e : Int} (hcut : e ≤ -1074)
    {z : Normal} (h : z.Nearest (num / den * 2 ^ e)) : 2 ^ 52 * den ≤ num := by
  have hunit : (2 : ℚ) ^ e ≤ 2 ^ (-1074 : Int) := zpow_le_zpow_right₀ (by norm_num) hcut
  have hleast : (0 : ℚ) < 2 ^ (-1074 : Int) := by positivity
  have hden' : (0 : ℚ) < den := by exact_mod_cast hden
  have hsplit : (2 : ℚ) ^ (-1022 : Int) = 2 ^ 52 * 2 ^ (-1074 : Int) := by
    rw [← zpow_natCast (2 : ℚ) 52, ← zpow_add₀ two_ne_zero]
    rfl
  have hlong : (2 ^ 52 : ℚ) ≤ num / den := by
    refine le_of_mul_le_mul_right ?_ hleast
    calc (2 : ℚ) ^ 52 * 2 ^ (-1074 : Int) = 2 ^ (-1022 : Int) := hsplit.symm
      _ ≤ num / den * 2 ^ e := h.range.1
      _ ≤ num / den * 2 ^ (-1074 : Int) := mul_le_mul_of_nonneg_left hunit (by positivity)
  rw [le_div_iff₀ hden'] at hlong
  exact_mod_cast hlong

theorem div_finite {m₁ m₂ : Nat} {e₁ e₂ : Int} (h₁ : 0 < m₁) (h₂ : 0 < m₂) {z : Normal}
    (h : z.Nearest (m₁ * 2 ^ e₁ / (m₂ * 2 ^ e₂))) :
    UnpackedFloat.div .binary64 (.finite .positive m₁ e₁ h₁) (.finite .positive m₂ e₂ h₂)
      = z.unpacked := by
  rw [UnpackedFloat.div]
  simp only [divCore]
  generalize htarget : min (e₁ - e₂) (Format.targetExponent .binary64
    (totalExponent m₁ e₁ - totalExponent m₂ e₂)) = target
  generalize hshift : (e₁ - e₂ - target).toNat = shift
  have hle : target ≤ e₁ - e₂ := by omega
  have hvalue : (m₁ * 2 ^ e₁ / (m₂ * 2 ^ e₂) : ℚ) = (m₁ <<< shift : Nat) / m₂ * 2 ^ target := by
    have hexponent : e₁ = e₂ + target + (shift : Int) := by omega
    rw [Nat.shiftLeft_eq, hexponent, zpow_add₀ two_ne_zero, zpow_add₀ two_ne_zero, zpow_natCast]
    push_cast
    field_simp
  rw [hvalue] at h
  refine roundWithAccuracy_of_nearest h₂ (ofMantissaAndAccuracy_div h₂) ?_ z h
  by_cases hwide : target ≤ totalExponent m₁ e₁ - totalExponent m₂ e₂ - 53
  · rw [totalExponent, totalExponent] at hwide
    rw [Nat.shiftLeft_eq]
    exact long_of_log2 h₁ (by omega)
  · have hcut : target ≤ -1074 := by
      simp only [Format.targetExponent, Format.mantissaBits, Format.minExponent] at htarget
      omega
    exact long_of_nearest h₂ hcut h

namespace Normal

variable {x y z : Normal}

theorem mul_toFloat (h : z.Nearest (x.value * y.value)) : x.toFloat * y.toFloat = z.toFloat := by
  have hfull : 2 ^ 52 ≤ x.significand * y.significand :=
    x.least.trans (Nat.le_mul_of_pos_right _ y.pos)
  change Float.ofModel (.pack (UnpackedFloat.mul .binary64 _ _)) = _
  rw [unpack_toFloat, unpack_toFloat, unpacked, unpacked, mul_finite x.pos y.pos hfull h]
  rfl

theorem div_toFloat (h : z.Nearest (x.value / y.value)) : x.toFloat / y.toFloat = z.toFloat := by
  change Float.ofModel (.pack (UnpackedFloat.div .binary64 _ _)) = _
  rw [unpack_toFloat, unpack_toFloat, unpacked, unpacked, div_finite x.pos y.pos h]
  rfl

end Normal

end ResponsiveImages
