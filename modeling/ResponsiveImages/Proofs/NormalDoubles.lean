import Mathlib
import ResponsiveImages.Decimal.Shortest

/-!
# Normal Doubles

Doubles by their significands and exponents.

Of a `Float` nothing is visible but its bit pattern. Arithmetic takes the pattern apart,
computes with the parts and packs the result again, so every step of a calculation
would have to be followed through the pattern. A `Normal` keeps the parts, with the
bounds under which the pattern can hold them. Then what has been packed comes out as
it went in (`unpack_toFloat`), and a calculation never meets the pattern.

To which double a number is rounded is said by an interval. `Nearest` holds of the
numbers between two bounds, half a unit of the last place away, and of the bounds
themselves if the significand is even. The digits a double is printed with are chosen
from the same interval, so rounding and printing meet in one condition, and neither of
them has to be carried out.

The interval is not symmetric for the least significand: the doubles below a power of
two lie twice as close. Only below the least exponent they do not, and a `Normal` does
not have that exponent.

## Main definitions

* `Normal`: A significand of 53 places and an exponent.
* `Normal.toFloat`, `Normal.value`: The double, and the number it stands for.
* `Normal.Nearest`: The numbers that are rounded to the double.

## Theorems

* `Normal.nearest_units`: The interval in units of the last place.
* `Normal.Nearest.range`: What is rounded to a normal double is neither tiny nor huge.
* `Normal.toNat_toBits`: The bit pattern.
* `Normal.unpack_toFloat`, `Normal.ofDouble_toFloat`: What is read from the bit pattern.
-/

namespace ResponsiveImages

open Float.Model (Format UnpackedFloat)
open Float.Model.UnpackedFloat

/-! ### Normal doubles -/

/-- A positive normal double. Those with the least exponent are left out, so that the
    next smaller double is a normal one as well. -/
structure Normal where
  significand : Nat
  exponent : Int
  least : 2 ^ 52 ≤ significand
  most : significand < 2 ^ 53
  lower : -1073 ≤ exponent
  upper : exponent ≤ 971

namespace Normal

theorem pos (x : Normal) : 0 < x.significand := by
  have hleast := x.least
  omega

/-- The double as a sign, a significand and an exponent. -/
def unpacked (x : Normal) : UnpackedFloat :=
  .finite .positive x.significand x.exponent x.pos

/-- The double itself. -/
def toFloat (x : Normal) : Float :=
  .ofModel (.pack x.unpacked)

/-- What is printed of the double. -/
def binary (x : Normal) : Binary :=
  ⟨x.significand, x.exponent, decide (x.significand = 2 ^ 52)⟩

/-- The number the double stands for. -/
def value (x : Normal) : ℚ :=
  x.significand * 2 ^ x.exponent

/-- How far below the double the numbers that are rounded to it begin, in units of the last
    place. The next smaller double is nearer if the significand is the least one. -/
def lowerHalf (x : Normal) : ℚ :=
  if x.significand = 2 ^ 52 then 1 / 4 else 1 / 2

/-- The number is rounded to the double. -/
structure Nearest (x : Normal) (v : ℚ) : Prop where
  above : (x.significand - x.lowerHalf) * 2 ^ x.exponent ≤ v
  below : v ≤ (x.significand + 1 / 2) * 2 ^ x.exponent
  inside : x.significand % 2 = 1 →
    (x.significand - x.lowerHalf) * 2 ^ x.exponent < v
      ∧ v < (x.significand + 1 / 2) * 2 ^ x.exponent

theorem lowerHalf_pos (x : Normal) : 0 < x.lowerHalf := by
  rw [lowerHalf]
  split <;> norm_num

theorem lowerHalf_le (x : Normal) : x.lowerHalf ≤ 1 / 2 := by
  rw [lowerHalf]
  split <;> norm_num

/-- What is at least the double, and less than half a unit above it. -/
theorem nearest_of_above {x : Normal} {v : ℚ} (h : x.value ≤ v)
    (h' : v < x.value + 2 ^ x.exponent / 2) : x.Nearest v := by
  have hunit : (0 : ℚ) < 2 ^ x.exponent := by positivity
  have hhalf := x.lowerHalf_pos
  rw [value] at h h'
  have habove : (x.significand - x.lowerHalf) * 2 ^ x.exponent < v := by nlinarith
  have hbelow : v < (x.significand + 1 / 2) * 2 ^ x.exponent := by linarith
  exact ⟨habove.le, hbelow.le, fun _ => ⟨habove, hbelow⟩⟩

/-- A double is nearest to itself. -/
theorem nearest_value (x : Normal) : x.Nearest x.value :=
  nearest_of_above le_rfl (by linarith [show (0 : ℚ) < 2 ^ x.exponent by positivity])

/-- The same in units of the last place. -/
theorem nearest_units {x : Normal} {w : ℚ} :
    x.Nearest (w * 2 ^ x.exponent)
      ↔ x.significand - x.lowerHalf ≤ w ∧ w ≤ x.significand + 1 / 2
        ∧ (x.significand % 2 = 1 →
            x.significand - x.lowerHalf < w ∧ w < x.significand + 1 / 2) := by
  have hunit : (0 : ℚ) < 2 ^ x.exponent := by positivity
  have hle : ∀ a b : ℚ, a * 2 ^ x.exponent ≤ b * 2 ^ x.exponent ↔ a ≤ b := fun a b =>
    mul_le_mul_iff_left₀ hunit
  have hlt : ∀ a b : ℚ, a * 2 ^ x.exponent < b * 2 ^ x.exponent ↔ a < b := fun a b =>
    mul_lt_mul_iff_left₀ hunit
  constructor
  · rintro ⟨habove, hbelow, hinside⟩
    rw [hle] at habove hbelow
    rw [hlt, hlt] at hinside
    exact ⟨habove, hbelow, hinside⟩
  · rintro ⟨habove, hbelow, hinside⟩
    rw [← hle] at habove hbelow
    rw [← hlt, ← hlt w] at hinside
    exact ⟨habove, hbelow, hinside⟩

/-- What is rounded to a normal double is in their range. -/
theorem Nearest.range {x : Normal} {v : ℚ} (h : x.Nearest v) :
    2 ^ (-1022 : Int) ≤ v ∧ v ≤ 2 ^ (1024 : Int) := by
  have hhalf := x.lowerHalf_le
  have hleast : (2 ^ 52 : ℚ) ≤ x.significand := by exact_mod_cast x.least
  have hmost : (x.significand : ℚ) + 1 ≤ 2 ^ 53 := by exact_mod_cast Nat.succ_le_of_lt x.most
  constructor
  · have hunit : (2 : ℚ) ^ (-1073 : Int) ≤ 2 ^ x.exponent :=
      zpow_le_zpow_right₀ (by norm_num) x.lower
    calc (2 : ℚ) ^ (-1022 : Int) = 2 ^ 51 * 2 ^ (-1073 : Int) := by
          rw [← zpow_natCast (2 : ℚ) 51, ← zpow_add₀ two_ne_zero]
          rfl
      _ ≤ (x.significand - x.lowerHalf) * 2 ^ x.exponent :=
          mul_le_mul (by linarith) hunit (by positivity) (by linarith)
      _ ≤ v := h.above
  · have hunit : (2 : ℚ) ^ x.exponent ≤ 2 ^ (971 : Int) :=
      zpow_le_zpow_right₀ (by norm_num) x.upper
    calc v ≤ (x.significand + 1 / 2) * 2 ^ x.exponent := h.below
      _ ≤ 2 ^ 53 * 2 ^ (971 : Int) :=
          mul_le_mul (by linarith) hunit (by positivity) (by positivity)
      _ = 2 ^ (1024 : Int) := by
          rw [← zpow_natCast (2 : ℚ) 53, ← zpow_add₀ two_ne_zero]
          rfl

end Normal

/-! ### Bit patterns -/

theorem toNat_packComponents (exponent : BitVec 11) (mantissa : BitVec 52) :
    (packComponents .binary64 .positive exponent mantissa).toNat
      = exponent.toNat * 2 ^ 52 + mantissa.toNat := by
  change (0#1 ++ exponent ++ mantissa).toNat = _
  rw [BitVec.toNat_append, BitVec.toNat_append, ← Nat.shiftLeft_add_eq_or_of_lt mantissa.isLt,
    Nat.shiftLeft_eq]
  simp

namespace Normal

/-- The exponent as it is stored. -/
def biased (x : Normal) : Nat :=
  (x.exponent + 1075).toNat

theorem pack_unpacked (x : Normal) :
    UnpackedFloat.pack .binary64 x.unpacked
      = packComponents .binary64 .positive (BitVec.ofNat 11 x.biased)
          (BitVec.ofNat 52 x.significand) := by
  have hlog : x.significand.log2 = 52 := (Nat.log2_eq_iff x.pos.ne').mpr ⟨x.least, x.most⟩
  have hupper := x.upper
  have hlower := x.lower
  have hbiased : (x.exponent + (Format.exponentBias .binary64 : Nat) + (52 : Nat)).toNat
      = x.biased := by
    simp only [biased, Format.exponentBias]
    omega
  have hsmall : ¬ 2 ^ 11 ≤ x.biased + 1 := by
    rw [biased]
    omega
  simp only [unpacked, UnpackedFloat.pack, hbiased, hlog]
  rw [if_neg hsmall, if_pos (by decide)]

/-- What is stored of the exponent and the significand. -/
theorem stored (x : Normal) :
    (BitVec.ofNat 11 x.biased).toNat = x.biased
      ∧ (BitVec.ofNat 52 x.significand).toNat = x.significand - 2 ^ 52
      ∧ x.biased < 2047 ∧ 1 < x.biased := by
  have hleast := x.least
  have hmost := x.most
  have hupper := x.upper
  have hlower := x.lower
  rw [biased, BitVec.toNat_ofNat, BitVec.toNat_ofNat]
  omega

theorem toNat_toBits (x : Normal) :
    x.toFloat.toBits.toNat = x.biased * 2 ^ 52 + (x.significand - 2 ^ 52) := by
  rcases x.stored with ⟨hexponent, hmantissa, _⟩
  change (UnpackedFloat.pack .binary64 x.unpacked).toNat = _
  rw [pack_unpacked, toNat_packComponents, hexponent, hmantissa]

/-- The bit pattern is read as what has been packed. -/
theorem ofDouble_toFloat (x : Normal) :
    Bits.ofDouble x.toFloat = .finite false x.binary := by
  rcases x.stored with ⟨_, _, hsmall, hlarge⟩
  have hleast := x.least
  have hmost := x.most
  have hbiased : (x.biased : Int) - 1075 = x.exponent := by
    have hlower := x.lower
    rw [biased]
    omega
  rw [Bits.ofDouble, toNat_toBits]
  have hfraction : (x.biased * 2 ^ 52 + (x.significand - 2 ^ 52)) % Nat.pow 2 52
      = x.significand - 2 ^ 52 := by
    rw [Nat.pow_eq]
    omega
  have hexponent : (x.biased * 2 ^ 52 + (x.significand - 2 ^ 52)) / Nat.pow 2 52 % Nat.pow 2 11
      = x.biased := by
    rw [Nat.pow_eq, Nat.pow_eq]
    omega
  have hsign : (x.biased * 2 ^ 52 + (x.significand - 2 ^ 52)) / Nat.pow 2 (52 + 11) % 2 = 0 := by
    rw [Nat.pow_eq, show 52 + 11 = 63 from rfl]
    omega
  have hsum : Nat.pow 2 52 + (x.significand - 2 ^ 52) = x.significand := by
    rw [Nat.pow_eq]
    omega
  have hfinite : ¬ x.biased = Nat.pow 2 11 - 1 := by
    rw [Nat.pow_eq]
    omega
  have hnarrow : (decide (x.significand - 2 ^ 52 = 0) && decide (1 < x.biased))
      = decide (x.significand = 2 ^ 52) := by
    rw [decide_eq_true hlarge, Bool.and_true, decide_eq_decide]
    omega
  simp only [Bits.ofPattern, hfraction, hexponent, hsign]
  rw [if_neg hfinite, if_neg (by omega), hsum, hbiased, hnarrow]
  rfl

theorem unpack_toFloat (x : Normal) : x.toFloat.toModel.unpack = x.unpacked := by
  rcases x.stored with ⟨hexponent, hmantissa, hsmall, hlarge⟩
  have hleast := x.least
  have hlower := x.lower
  change UnpackedFloat.unpack .binary64 (UnpackedFloat.pack .binary64 x.unpacked) = _
  have hinfinite : ¬ BitVec.ofNat 11 x.biased = -1#11 := by
    intro heq
    have hmost := hexponent.symm.trans (congrArg BitVec.toNat heq)
    change x.biased = 2047 at hmost
    omega
  have hsubnormal : ¬ BitVec.ofNat 11 x.biased = 0#11 := by
    intro heq
    have hzero := hexponent.symm.trans (congrArg BitVec.toNat heq)
    change x.biased = 0 at hzero
    omega
  have hsignificand : (1#1 ++ BitVec.ofNat 52 x.significand).toNat = x.significand := by
    rw [BitVec.toNat_append, ← Nat.shiftLeft_add_eq_or_of_lt (BitVec.isLt _), hmantissa,
      Nat.shiftLeft_eq]
    change 1 * 2 ^ 52 + _ = _
    omega
  have hvalue : (x.biased : Int) - ((Format.exponentBias .binary64 : Nat) + (52 : Nat))
      = x.exponent := by
    simp only [biased, Format.exponentBias]
    omega
  rw [pack_unpacked]
  simp only [UnpackedFloat.unpack, unpackMantissa_packComponents, unpackExponent_packComponents,
    unpackSign_packComponents, hexponent, hvalue, if_neg hinfinite, if_neg hsubnormal, hsignificand]
  rfl

end Normal

end ResponsiveImages
