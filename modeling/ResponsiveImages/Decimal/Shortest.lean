import ResponsiveImages.Text.Basic

/-!
# Shortest Decimals

A floating-point number is written with the fewest digits that read back as
the same number. The real numbers that read back as `m · 2 ^ e` form an
interval around it (`Binary.low`, `Binary.high`), whose ends belong to it
exactly if `m` is even. `Binary.shortest` asks for 1, 2, 3, … digits whether
one of the two decimals next to the number lies in that interval. The first
grid with a hit wins, of two hits the nearer one, and of two equally near
ones the upper.

All of it is exact arithmetic on natural numbers: the interval is kept as
numerators over one common denominator, four times as fine as the last place
of the significand, so that its ends are whole.

The outcome is a `Decimal`, a whole coefficient times a power of ten, which
`Decimal.positional` writes out without ever using an exponent.

## Main definitions

* `Decimal`: A coefficient and a power of ten.
* `Decimal.positional`: The numeral without an exponent.
* `Binary`: A positive number with its significand and power of two.
* `Binary.shortest`: The shortest decimal that reads back.
* `Bits`: What a bit pattern stands for.
* `Bits.ofPattern`: Reading a bit pattern of a given format.
* `Bits.positional`: The numeral of a bit pattern.
* `floatText`: The numeral of a double.
-/

namespace ResponsiveImages

/-- The number `coefficient · 10 ^ exponent`. -/
structure Decimal where
  coefficient : Nat
  exponent : Int
  deriving DecidableEq, Repr

namespace Decimal

/-- The same number without zeros at the end of the coefficient. The fuel is
    the number of digits. -/
def stripZeros : Nat → Decimal → Decimal
  | 0, d => d
  | fuel + 1, d =>
    if d.coefficient % 10 = 0 ∧ d.coefficient ≠ 0 then
      stripZeros fuel ⟨d.coefficient / 10, d.exponent + 1⟩
    else d

/-- A decimal whose coefficient does not end in zero. -/
def reduced (d : Decimal) : Decimal :=
  stripZeros (Text.decimal d.coefficient).length d

/-- The numeral without an exponent: zeros fill the places up to the point,
    and there is no point after a whole number. -/
def positional (d : Decimal) : Text :=
  let digits := Text.decimal d.coefficient
  if 0 ≤ d.exponent then digits ++ List.replicate d.exponent.toNat '0'
  else
    let places := (-d.exponent).toNat
    if places < digits.length then
      digits.take (digits.length - places) ++ '.' :: digits.drop (digits.length - places)
    else '0' :: '.' :: List.replicate (places - digits.length) '0' ++ digits

end Decimal

/-- The positive number `significand · 2 ^ exponent`. -/
structure Binary where
  significand : Nat
  exponent : Int
  /-- The next smaller number is only half as far away as the next larger one. -/
  narrowBelow : Bool
  deriving DecidableEq, Repr

namespace Binary

/-- A quarter of the last place is `1 / scaleDown` times `scaleUp`. -/
def scaleUp (b : Binary) : Nat :=
  Nat.pow 2 (b.exponent - 2).toNat

/-- The common denominator of the number and the ends of its interval. -/
def scaleDown (b : Binary) : Nat :=
  Nat.pow 2 (2 - b.exponent).toNat

/-- The numerator of the number. -/
def value (b : Binary) : Nat :=
  4 * b.significand * b.scaleUp

/-- The numerator of the lower end of the numbers that read back as this one. -/
def low (b : Binary) : Nat :=
  (4 * b.significand - if b.narrowBelow then 1 else 2) * b.scaleUp

/-- The numerator of the upper end of the numbers that read back as this one. -/
def high (b : Binary) : Nat :=
  (4 * b.significand + 2) * b.scaleUp

/-- The exponent of the greatest power of ten that is at most `num / den`. -/
def magnitude (num den : Nat) : Int :=
  if den ≤ num then (Text.decimal (num / den)).length - 1
  else
    let n := (Text.decimal (den / num)).length
    if den ≤ num * Nat.pow 10 (n - 1) then 1 - n else -n

/-- The decimal on the grid of multiples of `10 ^ place` that is nearest to the
    number among those that read back as it, if there is one. -/
def onGrid (b : Binary) (place : Int) : Option Decimal :=
  let up := Nat.pow 10 (-place).toNat
  let unit := b.scaleDown * Nat.pow 10 place.toNat
  let below := b.value * up / unit
  let readsBack (c : Nat) : Bool :=
    if b.significand % 2 = 0 then b.low * up ≤ c * unit && c * unit ≤ b.high * up
    else b.low * up < c * unit && c * unit < b.high * up
  match readsBack below, readsBack (below + 1) with
  | true, true =>
    some ⟨if 2 * (b.value * up - below * unit) < unit then below else below + 1, place⟩
  | true, false => some ⟨below, place⟩
  | false, true => some ⟨below + 1, place⟩
  | false, false => none

/-- The decimal with the fewest digits that reads back as the number. -/
def shortest (b : Binary) : Decimal :=
  let top := magnitude b.value b.scaleDown
  match (List.range 20).findSome? fun (k : Nat) => b.onGrid (top - k) with
  | some d => d.reduced
  | none => ⟨b.significand * Nat.pow 2 b.exponent.toNat, 0⟩

end Binary

/-- What a floating-point bit pattern stands for. -/
inductive Bits where
  | nan
  | infinite (negative : Bool)
  | zero (negative : Bool)
  | finite (negative : Bool) (magnitude : Binary)
  deriving DecidableEq, Repr

namespace Bits

/-- Reading a bit pattern with the given numbers of fraction and exponent bits.
    The bias shifts the exponent so that the significand is whole. -/
def ofPattern (fractionBits exponentBits : Nat) (bias : Int) (pattern : Nat) : Bits :=
  let fraction := pattern % Nat.pow 2 fractionBits
  let biased := pattern / Nat.pow 2 fractionBits % Nat.pow 2 exponentBits
  let negative := pattern / Nat.pow 2 (fractionBits + exponentBits) % 2 = 1
  if biased = Nat.pow 2 exponentBits - 1 then if fraction = 0 then infinite negative else nan
  else if biased = 0 then
    if fraction = 0 then zero negative
    else finite negative ⟨fraction, 1 - bias, false⟩
  else
    finite negative
      ⟨Nat.pow 2 fractionBits + fraction, biased - bias, fraction = 0 && 1 < biased⟩

/-- The 64-bit format. -/
def ofDouble (x : Float) : Bits :=
  ofPattern 52 11 1075 x.toBits.toNat

/-- The 32-bit format. -/
def ofSingle (x : Float32) : Bits :=
  ofPattern 23 8 150 x.toBits.toNat

/-- A minus sign in front of a negative numeral. -/
def signed (negative : Bool) (s : Text) : Text :=
  if negative then '-' :: s else s

/-- The shortest numeral that reads back, without an exponent. -/
def positional : Bits → Text
  | nan => "NaN".toList
  | infinite negative => signed negative "inf".toList
  | zero negative => signed negative "0".toList
  | finite negative b => signed negative b.shortest.positional

end Bits

/-- The shortest numeral that reads back as the double, without an exponent. -/
def floatText (x : Float) : Text :=
  (Bits.ofDouble x).positional

end ResponsiveImages
