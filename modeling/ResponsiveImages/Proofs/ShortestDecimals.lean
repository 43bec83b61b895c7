import ResponsiveImages.Proofs.RoundedDecimals
import ResponsiveImages.Proofs.TextPieces

/-!
# Shortest Decimals

What is printed of a double is read back as the double.

Printing takes two steps and both have to be undone. The digits of a decimal are laid
out with the point among them, or behind zeros, or without a point, and
whichever it is, the reader finds the decimal again (`readFloat?_positional`). The
decimal is a hit on the coarsest of twenty grids of powers of ten that has one. A hit
is a multiple that is rounded to the double, so it is read as the double
(`readFloat?_of_nearest`).

The hits are found by comparing whole numbers, in quarters of the last place, so that
halves and the narrow side are whole as well. `Normal.readsBack_iff` turns these
comparisons into those of `Normal.Nearest`. It remains that there is a hit. The first
grid is no coarser than the double is large, and the last one is 19 places
finer, which is finer than half of the last place. There the multiple above the
double is near enough (`Normal.onGrid_isSome`).

## Main definitions

* `Decimal.value`: The number a decimal stands for.
* `Binary.readsBack`: Whether a multiple of a power of ten is a hit.

## Theorems

* `readFloat?_of_isDigits`, `readFloat?_of_point`: Reading digits, and digits with a point.
* `readFloat?_positional`: The numeral of a decimal stands for the decimal.
* `magnitude_le`: A number is at least the power of ten of its magnitude.
* `le_grid_iff`, `grid_le_iff`: Comparing a fraction with a multiple of a power of ten.
* `Normal.readsBack_iff`: The hits are the decimals that are rounded to the double.
* `Normal.nearest_shortest`: The shortest decimal is a hit.
* `readFloat?_floatText`: Printing and reading.
-/

namespace ResponsiveImages

open Text

/-! ### Reading numerals -/

theorem natOfDigits_append (s t : Text) :
    natOfDigits (s ++ t) = 10 ^ t.length * natOfDigits s + natOfDigits t := by
  change Nat.ofDigitChars 10 (s ++ t) 0 = _
  rw [Nat.ofDigitChars_append, Nat.ofDigitChars_eq_ofDigitChars_zero]
  rfl

theorem natOfDigits_zeros (n : Nat) : natOfDigits (List.replicate n '0') = 0 := by
  change Nat.ofDigitChars 10 _ 0 = 0
  rw [Nat.ofDigitChars_replicate_zero, Nat.mul_zero]

theorem natOfDigits_decimal (n : Nat) : natOfDigits (decimal n) = n :=
  Nat.ofDigitChars_ten_toDigits

/-- The sign and the names of the special numbers do not begin with a digit. -/
theorem readFloat?_of_fraction {s whole places : Text} {c : Char} (hc : c.isDigit = true)
    (hhead : s.head? = some c) (hne : whole ≠ []) (h : readFraction s = (whole, places, [])) :
    readFloat? s = some (roundDecimal (natOfDigits (whole ++ places)) (-places.length)) := by
  rcases List.head?_eq_some_iff.mp hhead with ⟨rest, rfl⟩
  have hsign : readSign (c :: rest) = (false, c :: rest) := by
    have hminus := isDigit_ne hc (show '-'.isDigit = false by decide)
    have hplus := isDigit_ne hc (show '+'.isDigit = false by decide)
    rw [readSign.eq_def]
    split
    · next heq => exact absurd (List.cons.inj heq).1 hminus
    · next heq => exact absurd (List.cons.inj heq).1 hplus
    · rfl
  have hspecial : ∀ (x : Char) (name : Text), x.toLower.isDigit = false →
      eqIgnoreCase (c :: rest) (x :: name) = false := by
    intro x name hx
    rw [eqIgnoreCase, beq_eq_false_iff_ne]
    intro heq
    have hsame : c.toLower = x.toLower := (List.cons.inj heq).1
    rw [toLower_of_isDigit hc] at hsame
    exact isDigit_ne hc hx hsame
  have hinf : eqIgnoreCase (c :: rest) "inf".toList = false := hspecial 'i' _ (by decide)
  have hinfinity : eqIgnoreCase (c :: rest) "infinity".toList = false :=
    hspecial 'i' _ (by decide)
  have hnan : eqIgnoreCase (c :: rest) "nan".toList = false := hspecial 'n' _ (by decide)
  have hsome : ¬ (whole ++ places).isEmpty = true := by simp [hne]
  rw [readFloat?, hsign]
  simp only [readUnsigned?, hinf, hinfinity, hnan, h, readExponent?, if_neg hsome]
  simp

theorem readFraction_of_isDigits {s : Text} (hs : ∀ c ∈ s, c.isDigit = true) :
    readFraction s = (s, [], []) := by
  have htake : s.takeWhile Char.isDigit = s := List.takeWhile_eq_self_iff.mpr hs
  have hdrop : s.dropWhile Char.isDigit = [] := List.dropWhile_eq_nil_iff.mpr hs
  rw [readFraction, readDigits, htake, hdrop]

theorem readFraction_of_point {whole places : Text} (hwhole : ∀ c ∈ whole, c.isDigit = true)
    (hplaces : ∀ c ∈ places, c.isDigit = true) :
    readFraction (whole ++ '.' :: places) = (whole, places, []) := by
  have htake : whole.takeWhile Char.isDigit = whole := List.takeWhile_eq_self_iff.mpr hwhole
  have hdrop : whole.dropWhile Char.isDigit = [] := List.dropWhile_eq_nil_iff.mpr hwhole
  have htake' : places.takeWhile Char.isDigit = places := List.takeWhile_eq_self_iff.mpr hplaces
  have hdrop' : places.dropWhile Char.isDigit = [] := List.dropWhile_eq_nil_iff.mpr hplaces
  rw [readFraction, readDigits, takeWhile_append_stop (by decide),
    dropWhile_append_stop (by decide), htake, hdrop]
  simp only [readDigits, htake', hdrop', List.nil_append]

/-- A run of digits is a whole number. -/
theorem readFloat?_of_isDigits {s : Text} (hs : isDigits s = true) :
    readFloat? s = some (roundDecimal (natOfDigits s) 0) := by
  have hdigit := isDigit_of_isDigits hs
  cases s with
  | nil => exact absurd hs (by decide)
  | cons c s =>
      have hread := readFloat?_of_fraction (hdigit c List.mem_cons_self) rfl (List.cons_ne_nil c s)
        (readFraction_of_isDigits hdigit)
      rw [List.append_nil] at hread
      exact hread

/-- A run of digits with a point in it is read without the point, and the digits behind it
    are counted. -/
theorem readFloat?_of_point {whole places : Text} (hne : whole ≠ [])
    (hwhole : ∀ c ∈ whole, c.isDigit = true) (hplaces : ∀ c ∈ places, c.isDigit = true)
    {n k : Nat} (hn : natOfDigits (whole ++ places) = n) (hk : places.length = k) :
    readFloat? (whole ++ '.' :: places) = some (roundDecimal n (-k)) := by
  have hread := readFraction_of_point hwhole hplaces
  rw [← hn, ← hk]
  cases whole with
  | nil => exact absurd rfl hne
  | cons c whole => exact readFloat?_of_fraction (hwhole c List.mem_cons_self) rfl hne hread

/-! ### Writing decimals -/

/-- The numeral of a decimal stands for the decimal. -/
theorem readFloat?_positional (d : Decimal) :
    readFloat? d.positional
      = some (roundDecimal (d.coefficient * 10 ^ d.exponent.toNat)
          (-((-d.exponent).toNat : Int))) := by
  have hdigits : ∀ c ∈ decimal d.coefficient, c.isDigit = true := fun c => decimal_isDigit
  have hzeros : ∀ n, ∀ c ∈ List.replicate n '0', c.isDigit = true := by
    intro n c hc
    rw [List.eq_of_mem_replicate hc]
    rfl
  have hne : decimal d.coefficient ≠ [] := Nat.toDigits_ne_nil
  rw [Decimal.positional]
  by_cases hwhole : 0 ≤ d.exponent
  · have hall : isDigits (decimal d.coefficient ++ List.replicate d.exponent.toNat '0') = true := by
      rw [isDigits, Bool.and_eq_true, List.all_eq_true, List.forall_mem_append]
      exact ⟨by simp [hne], hdigits, hzeros _⟩
    have hvalue : natOfDigits (decimal d.coefficient ++ List.replicate d.exponent.toNat '0')
        = d.coefficient * 10 ^ d.exponent.toNat := by
      rw [natOfDigits_append, natOfDigits_zeros, natOfDigits_decimal, List.length_replicate,
        Nat.mul_comm, Nat.add_zero]
    have hplaces : (-d.exponent).toNat = 0 := by omega
    rw [if_pos hwhole, readFloat?_of_isDigits hall, hvalue, hplaces]
    rfl
  · have hexponent : d.exponent.toNat = 0 := by omega
    rw [if_neg hwhole, hexponent, pow_zero, Nat.mul_one]
    generalize (-d.exponent).toNat = places
    by_cases hshort : places < (decimal d.coefficient).length
    · -- The point stands among the digits.
      rw [if_pos hshort]
      refine readFloat?_of_point ?_ (fun c hc => hdigits c (List.mem_of_mem_take hc))
        (fun c hc => hdigits c (List.mem_of_mem_drop hc)) ?_ ?_
      · rw [ne_eq, List.take_eq_nil_iff, not_or]
        exact ⟨by omega, hne⟩
      · rw [List.take_append_drop, natOfDigits_decimal]
      · rw [List.length_drop]
        omega
    · -- The digits stand behind the point, with zeros in front of them.
      rw [if_neg hshort]
      change readFloat? (['0'] ++ '.' :: (_ ++ _)) = _
      refine readFloat?_of_point (List.cons_ne_nil _ _) (by decide)
        (List.forall_mem_append.mpr ⟨hzeros _, hdigits⟩) ?_ ?_
      · rw [natOfDigits_append, natOfDigits_append, natOfDigits_zeros, natOfDigits_decimal]
        simp [natOfDigits]
      · rw [List.length_append, List.length_replicate]
        omega

/-! ### The shortest decimal -/

/-- The number a decimal stands for. -/
def Decimal.value (d : Decimal) : ℚ :=
  d.coefficient * 10 ^ d.exponent

/-- An integral power as a quotient of whole ones. -/
theorem zpow_eq_div {b : ℚ} (hb : b ≠ 0) (k : Int) : b ^ k = b ^ k.toNat / b ^ (-k).toNat := by
  rw [← zpow_natCast, ← zpow_natCast, ← zpow_sub₀ hb]
  congr 1
  omega

theorem stripZeros_value (fuel : Nat) : ∀ d : Decimal, (d.stripZeros fuel).value = d.value := by
  induction fuel with
  | zero => intro d; rfl
  | succ fuel ih =>
      intro d
      rw [Decimal.stripZeros]
      split
      · next hzero =>
          have hten : d.coefficient = 10 * (d.coefficient / 10) := by omega
          have hten' : (d.coefficient : ℚ) = 10 * (d.coefficient / 10 : Nat) := by
            exact_mod_cast hten
          rw [ih, Decimal.value, Decimal.value, hten', zpow_add_one₀ (by norm_num)]
          ring
      · rfl

/-- What is written is read as the double it is nearest to. -/
theorem readFloat?_of_nearest {d : Decimal} {x : Normal} (h : x.Nearest d.value) :
    readFloat? d.positional = some x.toFloat := by
  rw [readFloat?_positional, roundDecimal_of_nearest (z := x)]
  rw [Decimal.value, zpow_eq_div (by norm_num), ← mul_div_assoc] at h
  exact_mod_cast h

theorem negative_power_le {num den k : Nat} (hden : 0 < den) (h : den ≤ num * 10 ^ k) :
    (10 : ℚ) ^ (-(k : Int)) ≤ num / den := by
  have hden' : (0 : ℚ) < den := by exact_mod_cast hden
  rw [zpow_neg, zpow_natCast, inv_eq_one_div, div_le_div_iff₀ (by positivity) hden', one_mul]
  exact_mod_cast h

/-- The magnitude of a number does not exceed it. -/
theorem magnitude_le {num den : Nat} (hnum : 0 < num) (hden : 0 < den) :
    (10 : ℚ) ^ Binary.magnitude num den ≤ num / den := by
  rw [Binary.magnitude]
  by_cases hlarge : den ≤ num
  · have hbounds := decimal_bounds (Nat.div_pos hlarge hden)
    have hlength : 0 < (decimal (num / den)).length := Nat.length_toDigits_pos
    have hexponent : ((decimal (num / den)).length : Int) - 1
        = ((decimal (num / den)).length - 1 : Nat) := by omega
    rw [if_pos hlarge, hexponent, zpow_natCast]
    calc (10 : ℚ) ^ ((decimal (num / den)).length - 1) ≤ (num / den : Nat) := by
          exact_mod_cast hbounds.1
      _ ≤ num / den := (floor_quotient num hden).1
  · have hbounds := decimal_bounds (Nat.div_pos (by omega : num ≤ den) hnum)
    have hlength : 0 < (decimal (den / num)).length := Nat.length_toDigits_pos
    rw [if_neg hlarge]
    generalize (decimal (den / num)).length = n at *
    by_cases hexact : den ≤ num * Nat.pow 10 (n - 1)
    · have hexponent : (1 : Int) - n = -(n - 1 : Nat) := by omega
      simp only [if_pos hexact, hexponent]
      exact negative_power_le hden hexact
    · simp only [if_neg hexact]
      refine negative_power_le hden ?_
      have hlt : den < num * (den / num + 1) := Nat.lt_mul_div_succ den hnum
      exact hlt.le.trans (Nat.mul_le_mul_left _ hbounds.2)

/-! ### Decimals on a grid -/

namespace Binary

/-- The greatest multiple of `10 ^ place` that is at most the number, as a multiple. -/
def below (b : Binary) (place : Int) : Nat :=
  b.value * Nat.pow 10 (-place).toNat / (b.scaleDown * Nat.pow 10 place.toNat)

/-- Whether a multiple of `10 ^ place` reads back. -/
def readsBack (b : Binary) (place : Int) (c : Nat) : Bool :=
  let up := Nat.pow 10 (-place).toNat
  let unit := b.scaleDown * Nat.pow 10 place.toNat
  if b.significand % 2 = 0 then b.low * up ≤ c * unit && c * unit ≤ b.high * up
  else b.low * up < c * unit && c * unit < b.high * up

/-- Whether the multiple below the number is nearer than the one above it. -/
def nearerBelow (b : Binary) (place : Int) : Bool :=
  let up := Nat.pow 10 (-place).toNat
  let unit := b.scaleDown * Nat.pow 10 place.toNat
  2 * (b.value * up - b.below place * unit) < unit

theorem onGrid_eq (b : Binary) (place : Int) :
    b.onGrid place =
      match b.readsBack place (b.below place), b.readsBack place (b.below place + 1) with
      | true, true => some ⟨if b.nearerBelow place then b.below place else b.below place + 1, place⟩
      | true, false => some ⟨b.below place, place⟩
      | false, true => some ⟨b.below place + 1, place⟩
      | false, false => none := by
  simp only [nearerBelow, decide_eq_true_eq]
  rfl

theorem onGrid_some {b : Binary} {place : Int} {d : Decimal} (h : b.onGrid place = some d) :
    d.exponent = place ∧ b.readsBack place d.coefficient = true := by
  rw [onGrid_eq] at h
  cases hbelow : b.readsBack place (b.below place) <;>
    cases habove : b.readsBack place (b.below place + 1) <;>
    simp only [hbelow, habove, Option.some.injEq, reduceCtorEq] at h <;>
    rw [← h]
  · exact ⟨rfl, habove⟩
  · exact ⟨rfl, hbelow⟩
  · refine ⟨rfl, ?_⟩
    simp only
    split
    · exact hbelow
    · exact habove

theorem onGrid_isSome {b : Binary} {place : Int}
    (h : b.readsBack place (b.below place + 1) = true) : (b.onGrid place).isSome = true := by
  rw [onGrid_eq, h]
  cases b.readsBack place (b.below place) <;> rfl

end Binary

section

variable (num : Nat) {den : Nat} (place : Int) (c : Nat)

/-- A multiple of a power of ten compared with a quotient. -/
theorem le_grid_iff (hden : 0 < den) :
    (num / den : ℚ) ≤ c * 10 ^ place
      ↔ num * Nat.pow 10 (-place).toNat ≤ c * (den * Nat.pow 10 place.toNat) := by
  have hden' : (0 : ℚ) < den := by exact_mod_cast hden
  rw [zpow_eq_div (by norm_num), ← mul_div_assoc, div_le_div_iff₀ hden' (by positivity),
    Nat.mul_comm den, ← Nat.mul_assoc]
  simp only [Nat.pow_eq]
  exact_mod_cast Iff.rfl

theorem grid_le_iff (hden : 0 < den) :
    (c * 10 ^ place : ℚ) ≤ num / den
      ↔ c * (den * Nat.pow 10 place.toNat) ≤ num * Nat.pow 10 (-place).toNat := by
  have hden' : (0 : ℚ) < den := by exact_mod_cast hden
  rw [zpow_eq_div (by norm_num), ← mul_div_assoc, div_le_div_iff₀ (by positivity) hden',
    Nat.mul_comm den, ← Nat.mul_assoc]
  simp only [Nat.pow_eq]
  exact_mod_cast Iff.rfl

end

namespace Normal

variable (x : Normal)

theorem scaleDown_pos : 0 < x.binary.scaleDown := Nat.two_pow_pos _

/-- A quarter of the last place. -/
theorem scale_eq : (x.binary.scaleUp / x.binary.scaleDown : ℚ) = 2 ^ x.exponent / 4 := by
  have hquarter : (2 : ℚ) ^ x.exponent / 4 = 2 ^ (x.exponent - 2) := by
    rw [zpow_sub₀ two_ne_zero]
    norm_num
  have hopposite : (-(x.exponent - 2)).toNat = (2 - x.exponent).toNat := by omega
  rw [hquarter, zpow_eq_div two_ne_zero, hopposite, Binary.scaleUp, Binary.scaleDown]
  simp only [Nat.pow_eq, binary]
  push_cast
  rfl

theorem value_eq : (x.binary.value / x.binary.scaleDown : ℚ) = x.value := by
  rw [Binary.value, Nat.cast_mul, mul_div_assoc, scale_eq, value]
  push_cast
  change 4 * (x.significand : ℚ) * _ = _
  ring

theorem low_eq : (x.binary.low / x.binary.scaleDown : ℚ)
    = (x.significand - x.lowerHalf) * 2 ^ x.exponent := by
  have hleast := x.least
  rw [Binary.low, Nat.cast_mul, mul_div_assoc, scale_eq, lowerHalf]
  simp only [binary, decide_eq_true_eq]
  split <;> rw [Nat.cast_sub (by omega)] <;> push_cast <;> ring

theorem high_eq : (x.binary.high / x.binary.scaleDown : ℚ)
    = (x.significand + 1 / 2) * 2 ^ x.exponent := by
  rw [Binary.high, Nat.cast_mul, mul_div_assoc, scale_eq]
  push_cast
  change (4 * (x.significand : ℚ) + 2) * _ = _
  ring

/-- The multiples that read back are those that are rounded to the double. -/
theorem readsBack_iff (place : Int) (c : Nat) :
    x.binary.readsBack place c = true ↔ x.Nearest (c * 10 ^ place) := by
  have hlow := le_grid_iff x.binary.low place c x.scaleDown_pos
  have hlow' := grid_le_iff x.binary.low place c x.scaleDown_pos
  have hhigh := grid_le_iff x.binary.high place c x.scaleDown_pos
  have hhigh' := le_grid_iff x.binary.high place c x.scaleDown_pos
  rw [low_eq] at hlow hlow'
  rw [high_eq] at hhigh hhigh'
  rw [Binary.readsBack]
  by_cases heven : x.significand % 2 = 0
  · simp only [if_pos (show x.binary.significand % 2 = 0 from heven), Bool.and_eq_true,
      decide_eq_true_eq]
    rw [← hlow, ← hhigh]
    exact ⟨fun h => ⟨h.1, h.2, fun hodd => by omega⟩, fun h => ⟨h.above, h.below⟩⟩
  · -- The ends do not belong to the numbers that are rounded to an odd significand.
    have hodd : x.significand % 2 = 1 := by omega
    simp only [if_neg (show ¬ x.binary.significand % 2 = 0 from heven), Bool.and_eq_true,
      decide_eq_true_eq]
    rw [← Nat.not_le, ← Nat.not_le, ← hlow', ← hhigh', not_le, not_le]
    exact ⟨fun h => ⟨h.1.le, h.2.le, fun _ => h⟩, fun h => h.inside hodd⟩

/-- There is a hit on every grid that is finer than half of the last place. -/
theorem onGrid_isSome (h : (10 : ℚ) ^ place < 2 ^ x.exponent / 2) :
    (x.binary.onGrid place).isSome = true := by
  refine Binary.onGrid_isSome ((x.readsBack_iff _ _).mpr ?_)
  have hunit : 0 < x.binary.scaleDown * Nat.pow 10 place.toNat :=
    Nat.mul_pos x.scaleDown_pos (Nat.pow_pos (by decide))
  have hgrid : (x.binary.value * Nat.pow 10 (-place).toNat : Nat)
      / (x.binary.scaleDown * Nat.pow 10 place.toNat : Nat) * (10 : ℚ) ^ place = x.value := by
    have hscale : (0 : ℚ) < x.binary.scaleDown := by exact_mod_cast x.scaleDown_pos
    rw [zpow_eq_div (by norm_num), ← value_eq]
    simp only [Nat.pow_eq]
    push_cast
    field_simp
  have hten : (0 : ℚ) < 10 ^ place := by positivity
  rcases floor_quotient _ hunit with ⟨hle, hlt⟩
  have hbelow := mul_le_mul_of_nonneg_right hle hten.le
  have habove := mul_lt_mul_of_pos_right hlt hten
  rw [hgrid] at hbelow habove
  -- The multiple above the number is less than one step away.
  rw [Binary.below, Nat.cast_succ]
  exact nearest_of_above habove.le (by linarith)

/-- The shortest decimal is rounded to the double. -/
theorem nearest_shortest : x.Nearest x.binary.shortest.value := by
  have hpos : 0 < x.binary.value :=
    Nat.mul_pos (Nat.mul_pos (by decide) x.pos) (Nat.two_pow_pos _)
  have hmagnitude := magnitude_le hpos x.scaleDown_pos
  have hmost : (x.significand : ℚ) < 2 ^ 53 := by exact_mod_cast x.most
  rw [value_eq, value] at hmagnitude
  rw [Binary.shortest]
  generalize Binary.magnitude x.binary.value x.binary.scaleDown = top at *
  have hfine : (10 : ℚ) ^ (top - (19 : Nat)) < 2 ^ x.exponent / 2 := by
    have hunit : (0 : ℚ) < 2 ^ x.exponent := by positivity
    rw [zpow_sub₀ (by norm_num), zpow_natCast, div_lt_iff₀ (by positivity)]
    nlinarith
  cases hfind : (List.range 20).findSome? fun (k : Nat) => x.binary.onGrid (top - k) with
  | none =>
      have hmiss := List.findSome?_eq_none_iff.mp hfind 19 (by decide)
      have hhit := x.onGrid_isSome hfine
      rw [hmiss] at hhit
      exact absurd hhit (by decide)
  | some d =>
      rcases List.exists_of_findSome?_eq_some hfind with ⟨k, _, hk⟩
      rcases Binary.onGrid_some hk with ⟨hplace, hback⟩
      have hnearest := (x.readsBack_iff _ _).mp hback
      simp only [Decimal.reduced, stripZeros_value]
      rw [Decimal.value, hplace]
      exact hnearest

end Normal

/-- What is written of a double is read as the double. -/
theorem readFloat?_floatText (x : Normal) : readFloat? (floatText x.toFloat) = some x.toFloat := by
  rw [floatText, x.ofDouble_toFloat]
  exact readFloat?_of_nearest x.nearest_shortest

end ResponsiveImages
