import ResponsiveImages.Decimal.Shortest

/-!
# Numbers in Style Values

Numbers in style values are 32-bit floating-point numbers, written with at
most six significant digits. The digits come from the shortest decimal that
reads back; where that has more than six, it is rounded to six, a half going
up. Very large and very small numbers take an exponent, and what has no
numeral because it is too large is written as the largest number there is.
What is no number is written as the number that its digits would stand for if
the exponents went on.

The exponent is that of the number before it was rounded. A number that is
rounded up to the next power of ten therefore has two digits in front of its
exponent: `10e28` and not `1e29`.

A fraction below one loses the zero in front of its point. The sign of a
negative fraction is written before that zero is looked for, and a numeral
that has none, because it takes an exponent, keeps its own sign behind it.

## Main definitions

* `Decimal.scientific`: The numeral with an exponent.
* `Decimal.brief`: The numeral with few digits.
* `singleText`: The numeral of a 32-bit number.
* `fractionText`: The numeral of a fraction below one.
* `numberText`, `percentText`, `dimensionText`: Numbers as parts of a value.
-/

namespace ResponsiveImages

namespace Decimal

/-- The number of digits of the coefficient. -/
def digits (d : Decimal) : Nat :=
  (Text.decimal d.coefficient).length

/-- A decimal in units of its `n`-th digit, a half rounded up. -/
def roundTo (n : Nat) (d : Decimal) : Decimal :=
  let surplus := d.digits - n
  ⟨(d.coefficient + 5 * Nat.pow 10 surplus / 10) / Nat.pow 10 surplus, d.exponent + surplus⟩

/-- The power of ten of the first digit. -/
def leading (d : Decimal) : Int :=
  d.exponent + d.digits - 1

/-- The numeral with an exponent, rounded to `n` digits. The point stands behind the
    first digit there was before rounding. -/
def scientific (n : Nat) (d : Decimal) : Text :=
  let e := d.leading
  let rounded := d.roundTo n
  (⟨rounded.coefficient, rounded.exponent - e⟩ : Decimal).reduced.positional
    ++ 'e' :: (if e < 0 then ['-'] else []) ++ Text.decimal e.natAbs

end Decimal

/-- The largest 32-bit number. -/
def largestSingle : Float32 :=
  Float32.ofBits 0x7F7FFFFF

/-- A number with the infinite ones replaced by the largest there are. -/
def finiteSingle (x : Float32) : Float32 :=
  if largestSingle < x then largestSingle else if x < -largestSingle then -largestSingle else x

/-- The numeral of a decimal, with at most six significant digits. -/
def Decimal.brief (d : Decimal) : Text :=
  if -7 < d.leading ∧ d.leading < 21 then (d.roundTo 6).reduced.positional else d.scientific 6

/-- What the digits of something that is no number would stand for. -/
def beyondNumbers : Binary where
  significand := 3 * Nat.pow 2 22
  exponent := 105
  narrowBelow := false

/-- The numeral of a 32-bit number, with at most six significant digits. -/
def singleText (x : Float32) : Text :=
  if x.isNaN then beyondNumbers.shortest.brief
  else
    match Bits.ofSingle (finiteSingle x) with
    | .finite negative b => Bits.signed negative b.shortest.brief
    | special => special.positional

/-- The numeral of a fraction without the zero in front of its point. -/
def fractionText (negative : Bool) (s : Text) : Text :=
  match negative, s with
  | true, '-' :: '0' :: rest => '-' :: rest
  | true, s => '-' :: s
  | false, s => s.dropWhile (· == '0')

/-- Whether a number lies strictly between -1 and 1 and is not zero. -/
def isFraction (x : Float32) : Bool :=
  x != 0 && decide (x.abs < 1)

/-- A number with a unit. A zero keeps its sign. -/
def dimensionText (x : Float32) (unit : Text) : Text :=
  (if isFraction x then fractionText (decide (x < 0)) (singleText x) else singleText x) ++ unit

/-- A plain number. -/
def numberText (x : Float32) : Text :=
  if x == 0 then ['0'] else dimensionText x []

/-- A percentage, given as a fraction of one. -/
def percentText (x : Float32) : Text :=
  let s := singleText (x * 100)
  (if x != 0 && decide (x.abs < 0.01) then fractionText (decide (x < 0)) s else s) ++ ['%']

end ResponsiveImages
