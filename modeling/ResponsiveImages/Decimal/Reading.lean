import ResponsiveImages.Text.Basic

/-!
# Reading Decimals

A decimal numeral is an optional sign, digits with at most one point among
them, and an optional exponent. At least one digit stands before the
exponent. `inf`, `infinity` and `nan` are numerals too, in any case. Nothing
may be left over, and white space is not skipped.

`Float.ofScientific` rounds a coefficient and a power of ten to the nearest
double. It is only ever given exponents near the range of doubles: a numeral
far above it is infinite and one far below it is zero (`roundDecimal`).

## Main definitions

* `readDigits`: The leading digits of a text and the rest.
* `roundDecimal`: The double nearest to a coefficient times a power of ten.
* `readExponent?`: An optional exponent at the end of a numeral.
* `readFloat?`: The double a numeral stands for.
-/

namespace ResponsiveImages

/-- The leading digits of a text and what follows them. -/
def readDigits (s : Text) : Text × Text :=
  (s.takeWhile Char.isDigit, s.dropWhile Char.isDigit)

/-- The double nearest to `coefficient · 10 ^ exponent`. -/
def roundDecimal (coefficient : Nat) (exponent : Int) : Float :=
  let top := exponent + (Text.decimal coefficient).length
  if coefficient = 0 ∨ top < -400 then 0.0
  else if 400 < top then 1.0 / 0.0
  else Float.ofScientific coefficient (exponent < 0) exponent.natAbs

/-- The sign at the front of a text: whether it is a minus, and the rest. -/
def readSign : Text → Bool × Text
  | '-' :: s => (true, s)
  | '+' :: s => (false, s)
  | s => (false, s)

/-- The exponent a numeral ends with, zero if it has none. Anything else at the
    end is refused. -/
def readExponent? : Text → Option Int
  | [] => some 0
  | c :: s =>
    if c = 'e' ∨ c = 'E' then
      let (negative, digits) := readSign s
      if Text.isDigits digits then
        let n : Int := Text.natOfDigits digits
        some (if negative then -n else n)
      else none
    else none

/-- The digits around an optional point and what follows: those before the
    point, those after it, and the rest. -/
def readFraction (s : Text) : Text × Text × Text :=
  let (whole, rest) := readDigits s
  match rest with
  | '.' :: rest' =>
    let (places, rest'') := readDigits rest'
    (whole, places, rest'')
  | _ => (whole, [], rest)

/-- The double an unsigned numeral stands for. -/
def readUnsigned? (s : Text) : Option Float :=
  if Text.eqIgnoreCase s "inf".toList || Text.eqIgnoreCase s "infinity".toList then
    some (1.0 / 0.0)
  else if Text.eqIgnoreCase s "nan".toList then some (0.0 / 0.0)
  else
    let (whole, places, rest) := readFraction s
    if (whole ++ places).isEmpty then none
    else (readExponent? rest).map fun exponent =>
      roundDecimal (Text.natOfDigits (whole ++ places)) (exponent - places.length)

/-- The double a numeral stands for. -/
def readFloat? (s : Text) : Option Float :=
  let (negative, rest) := readSign s
  (readUnsigned? rest).map fun x => if negative then -x else x

end ResponsiveImages
