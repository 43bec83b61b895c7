import ResponsiveImages.Css.Quantity

/-!
# Calculations

Lengths, percentages and other measures may be calculated from each other. A
calculation is a tree whose leaves are measures and plain numbers.

Adding two calculations merges leaves that measure the same at once, wherever
they stand in a sum, so that what is left of `1px + 2px` is `3px`, and so are
lengths in units that have a fixed number of pixels. Leaves that depend on
different things stay side by side, in the order in which they came, except
that a negative one goes behind a positive one.

A factor is moved to the leaves of a sum. In front of a function it stays.

The least and the greatest of several calculations, a calculation between two
bounds, and the functions that round, divide or measure are computed at once
if their arguments are leaves that measure the same, and kept otherwise. The
sign and the size of a percentage are not known, since it may stand for
anything.

## Main definitions

* `Measure`: A percentage or a quantity.
* `Calculation`: A calculation.
* `Calculation.add`, `Calculation.scale`: Adding and multiplying.
* `Calculation.combine?`, `Calculation.map?`: Computing with leaves.
* `Calculation.sign?`: The sign of a calculation.
* `Calculation.text`: A calculation as it is written.
-/

namespace ResponsiveImages

namespace Css

open Text

/-- A percentage or a quantity. -/
inductive Measure where
  /-- A percentage, as a fraction of one. -/
  | share (x : Float32)
  | quantity (q : Quantity)
  deriving BEq

namespace Measure

/-- The number in a measure. -/
def number : Measure → Float32
  | share x => x
  | quantity q => q.value

/-- The measure multiplied by a number. -/
def scale (factor : Float32) : Measure → Measure
  | share x => share (x * factor)
  | quantity q => quantity { q with value := q.value * factor }

/-- What two measures give that have a unit in common. -/
def combine? (op : Float32 → Float32 → Float32) : Measure → Measure → Option Measure
  | share x, share y => some (share (op x y))
  | quantity p, quantity q =>
    (p.common? q).map fun (x, y, unit) => quantity ⟨p.dimension, op x y, unit⟩
  | _, _ => none

/-- The values of two measures in a common unit. -/
def values? : Measure → Measure → Option (Float32 × Float32)
  | share x, share y => some (x, y)
  | quantity p, quantity q => (p.common? q).map fun (x, y, _) => (x, y)
  | _, _ => none

/-- A quantity with its value changed. -/
def map? (f : Float32 → Float32) : Measure → Option Measure
  | share _ => none
  | quantity q => some (quantity { q with value := f q.value })

/-- A measure as it is written in a calculation. A length keeps its unit, also if it is
    zero. -/
def text (layout : Layout) : Measure → Text
  | share x => percentText x
  | quantity q => q.text layout

end Measure

/-- The ways to round. -/
inductive Rounding where
  | nearest
  | up
  | down
  | toZero
  deriving DecidableEq, Repr

/-- The number without what stands behind the point. -/
def towardsZero (x : Float32) : Float32 :=
  if x < 0 then x.ceil else x.floor

namespace Rounding

/-- The words for the ways to round. -/
def names : List (Text × Rounding) := [
  ("nearest".toList, nearest), ("up".toList, up), ("down".toList, down), ("to-zero".toList, toZero)]

/-- The word for a way to round. -/
def name : Rounding → Text
  | nearest => "nearest".toList
  | up => "up".toList
  | down => "down".toList
  | toZero => "to-zero".toList

/-- Rounding to a whole number. -/
def round : Rounding → Float32 → Float32
  | nearest => Float32.round
  | up => Float32.ceil
  | down => Float32.floor
  | toZero => towardsZero

/-- Rounding to a multiple of a number. -/
def roundTo (way : Rounding) (x step : Float32) : Float32 :=
  way.round (x / step) * step

end Rounding

/-- What a division rounded towards zero leaves over. It has the sign of the dividend. -/
def remainderOf (x y : Float32) : Float32 :=
  match Bits.ofSingle x, Bits.ofSingle y with
  | .finite negative a, .finite _ b =>
    let e := min a.exponent b.exponent
    let scaled (n : Binary) : Nat := n.significand * Nat.pow 2 (n.exponent - e).toNat
    let r := (Float32.ofNat (scaled a % scaled b)).scaleB e
    if negative then -r else r
  | .finite _ _, .infinite _ => x
  | .zero _, .finite _ _ => x
  | .zero _, .infinite _ => x
  | _, _ => 0 / 0

/-- What a division leaves over, with the sign of the divisor. -/
def modulusOf (x y : Float32) : Float32 :=
  remainderOf (remainderOf x y + y) y

/-- The distance of a point from the origin. -/
def distanceOf (x y : Float32) : Float32 :=
  (x.toFloat * x.toFloat + y.toFloat * y.toFloat).sqrt.toFloat32

/-- The sign of a number. A zero is its own. -/
def signOf (x : Float32) : Float32 :=
  if x < 0 then -1 else if 0 < x then 1 else x

/-- Whether a number carries a minus sign, which a zero may do as well. -/
def hasMinus (x : Float32) : Bool :=
  0x80000000 ≤ x.toBits

/-- A calculation. -/
inductive Calculation where
  | value (m : Measure)
  | number (x : Float32)
  | sum (a b : Calculation)
  /-- A factor in front of something that it cannot be moved into. -/
  | product (factor : Float32) (c : Calculation)
  /-- A calculation in a `calc()` of its own. -/
  | wrapped (c : Calculation)
  | least (cs : List Calculation)
  | greatest (cs : List Calculation)
  | between (low middle high : Calculation)
  | rounded (way : Rounding) (c step : Calculation)
  | remainder (c divisor : Calculation)
  | modulus (c divisor : Calculation)
  | size (c : Calculation)
  | sign (c : Calculation)
  | distance (cs : List Calculation)
  deriving BEq

namespace Calculation

/-- Whether a calculation is a measure of zero, which adds nothing. -/
def isZero : Calculation → Bool
  | value m => m.number == 0
  | _ => false

/-- The sign of calculations that all have the same one. -/
def commonSign? : List (Option Float32) → Option Float32
  | some s :: rest => if rest.all fun r => r == some s then some s else none
  | _ => none

mutual

/-- The sign of a calculation, if it can be told. -/
def sign? : Calculation → Option Float32
  | value m => some (signOf m.number)
  | number x => some (signOf x)
  | sum _ _ => none
  | product x c => c.sign?.map fun s => s * signOf x
  | wrapped c => c.sign?
  | least cs => commonSign? (signs cs)
  | greatest cs => commonSign? (signs cs)
  | between a b c => commonSign? [a.sign?, b.sign?, c.sign?]
  | rounded _ a b => commonSign? [a.sign?, b.sign?]
  | remainder _ _ => none
  | modulus _ _ => none
  | size _ => some 1
  | sign c => c.sign?
  | distance _ => none

/-- The signs of calculations. -/
def signs : List Calculation → List (Option Float32)
  | [] => []
  | c :: rest => c.sign? :: signs rest

end

/-- Whether a calculation is known to be negative. -/
def isNegative (c : Calculation) : Bool :=
  (c.sign?.map hasMinus).getD false

/-- Whether a calculation is known not to be negative. -/
def isPositive (c : Calculation) : Bool :=
  (c.sign?.map fun s => !hasMinus s).getD false

/-- The number of leaves and sums of a calculation. -/
def weight : Calculation → Nat
  | sum a b => a.weight + b.weight + 1
  | _ => 1

/-- The sum with a number, which is added to a number that the sum begins or ends
    with. -/
def addNumber (a b : Calculation) (x : Float32) : Calculation :=
  match a, b with
  | number y, _ => sum (number (y + x)) b
  | _, number y => sum a (number (y + x))
  | _, _ => sum (sum a b) (number x)

/-- The sum of a number and a sum. -/
def addToNumber (x : Float32) (a b : Calculation) : Calculation :=
  match a, b with
  | number y, _ => sum (number (x + y)) b
  | _, number y => sum (number (x + y)) a
  | _, _ => sum (number x) (sum a b)

/-- A calculation as one of the two parts of a sum, with a negative part behind a
    positive one. A part of zero is left out. -/
def besides (a b : Calculation) : Calculation :=
  if a.isZero then b
  else if b.isZero then a
  else
    let (a, b) := if a.isNegative && b.isPositive then (b, a) else (a, b)
    match a, b with
    | number x, number y => number (x + y)
    | sum a₁ a₂, number y => addNumber a₁ a₂ y
    | number x, sum b₁ b₂ => addToNumber x b₁ b₂
    | a, b => sum a b

mutual

/-- The sum of two calculations of measures if a leaf of one can be merged with a leaf of
    the other. -/
def merge? : Nat → Calculation → Calculation → Option Calculation
  | 0, _, _ => none
  | _ + 1, value m, value n => (m.combine? (· + ·) n).map value
  | fuel + 1, sum a b, c =>
    match merge? fuel a c with
    | some merged => some (join fuel merged b)
    | none => (merge? fuel b c).map fun merged => join fuel a merged
  | fuel + 1, value m, sum b c =>
    match merge? fuel (value m) b with
    | some merged => some (join fuel merged c)
    | none => (merge? fuel (value m) c).map fun merged => join fuel b merged
  | _, _, _ => none

/-- The sum of two calculations of measures. -/
def join : Nat → Calculation → Calculation → Calculation
  | 0, a, b => sum a b
  | fuel + 1, a, b => (merge? fuel a b).getD (besides a b)

end

/-- The sum of two calculations. -/
def add (a b : Calculation) : Calculation :=
  let joined := join (2 * (a.weight + b.weight) + 2) a b
  match a, b with
  | value _, value _ => joined
  | value _, sum _ _ => joined
  | sum _ _, value _ => joined
  | sum _ _, sum _ _ => joined
  | number x, number y => number (x + y)
  | sum a₁ a₂, number y => addNumber a₁ a₂ y
  | number x, sum b₁ b₂ => addToNumber x b₁ b₂
  | a, b => sum a b

/-- A calculation multiplied by a number. -/
def scale (factor : Float32) (c : Calculation) : Calculation :=
  if factor == 1 then c
  else
    match c with
    | value m => value (m.scale factor)
    | number x => number (x * factor)
    | sum a b => sum (a.scale factor) (b.scale factor)
    | product x c => if x * factor == 1 then c else product (x * factor) c
    | wrapped c => wrapped (c.scale factor)
    | c => product factor c

/-- What two leaves give that measure the same. -/
def combine? (op : Float32 → Float32 → Float32) : Calculation → Calculation → Option Calculation
  | value m, value n => (m.combine? op n).map value
  | number x, number y => some (number (op x y))
  | _, _ => none

/-- A leaf with its value changed. -/
def map? (f : Float32 → Float32) : Calculation → Option Calculation
  | value m => (m.map? f).map value
  | number x => some (number (f x))
  | _ => none

/-- The order of two measures that can be compared. -/
def compare? (less : Float32 → Float32 → Bool) : Calculation → Calculation → Option Bool
  | value m, value n => (m.values? n).map fun (x, y) => less x y
  | _, _ => none

/-- Whether one leaf is wanted more than another one, if they can be compared. -/
def precedes? (before : Float32 → Float32 → Bool) : Calculation → Calculation → Option Bool
  | value m, value n => (m.values? n).map fun (x, y) => before x y
  | number x, number y => some (before x y)
  | _, _ => none

/-- Calculations of which the one that precedes the others is wanted, with one more of
    them. -/
def addCandidate (before : Float32 → Float32 → Bool) (cs : List Calculation)
    (candidate : Calculation) : List Calculation :=
  match cs with
  | [] => [candidate]
  | c :: rest =>
    match precedes? before candidate c with
    | some true => candidate :: rest
    | some false => c :: rest
    | none => c :: addCandidate before rest candidate

/-- The calculations of which the least or the greatest is wanted, as one. -/
def pick (before : Float32 → Float32 → Bool) (form : List Calculation → Calculation)
    (cs : List Calculation) : Calculation :=
  match cs.foldl (addCandidate before) [] with
  | [c] => c
  | others => form others

/-- The order in which the least value comes first. -/
def isLess (x y : Float32) : Bool :=
  decide (x < y)

/-- The order in which the greatest value comes first. -/
def isGreater (x y : Float32) : Bool :=
  decide (y < x)

/-- A calculation between two bounds. The lower bound wins if they are in the wrong
    order, and a bound that can be compared with the calculation is used at once. -/
def bound (low middle high : Calculation) : Calculation :=
  let (middle, high) : Calculation × Option Calculation :=
    match compare? isGreater middle high with
    | some true => (high, none)
    | some false => (middle, none)
    | none => (middle, some high)
  let (middle, low) : Calculation × Option Calculation :=
    match compare? isLess middle low with
    | some true => (low, none)
    | some false => (middle, none)
    | none => (middle, some low)
  match low, high with
  | none, none => middle
  | some low, none => greatest [low, middle]
  | none, some high => least [middle, high]
  | some low, some high => between low middle high

/-- The distance of a point from the origin. -/
def distanceFrom (cs : List Calculation) : Calculation :=
  let computed : Option Calculation :=
    match cs with
    | [c] => some c
    | [a, b] => a.combine? distanceOf b
    | c :: rest => do
      let first ← c.map? fun x => x * x
      let total ← rest.foldlM (fun total c => total.combine? (fun x y => x + y * y) c) first
      total.map? Float32.sqrt
    | [] => none
  computed.getD (distance cs)

/-- The sign of a calculation as a number, unless it depends on what a percentage stands
    for. -/
def signum (c : Calculation) : Calculation :=
  match c.map? signOf with
  | some (number x) => number x
  | some (value m) => number m.number
  | _ => sign c

/-- A function with its arguments between commas. -/
def callText (layout : Layout) (name : String) (arguments : List Text) : Text :=
  name.toList ++ '(' :: joinWith (',' :: layout.space) arguments ++ [')']

/-- Something with a factor, or with a divisor if the factor is less than one. -/
def factorText (layout : Layout) (factor : Float32) (s : Text) : Text :=
  if factor == 1 then s
  else if factor.abs < 1 then s ++ layout.operator '/' ++ numberText (1 / factor)
  else numberText factor ++ layout.operator '*' ++ s

mutual

/-- A calculation multiplied by one or minus one as it is written. A negative part of a sum
    is subtracted. -/
def textTimes (layout : Layout) (factor : Float32) : Calculation → Text
  | value m => (m.scale factor).text layout
  | number x => numberText (x * factor)
  | sum a b =>
    textTimes layout factor a ++
      if b.isNegative then " - ".toList ++ textTimes layout (-factor) b
      else " + ".toList ++ textTimes layout factor b
  | product x c => factorText layout (x * factor) (textTimes layout 1 c)
  | wrapped c => callText layout "calc" [textTimes layout factor c]
  | least cs => factorText layout factor (callText layout "min" (texts layout cs))
  | greatest cs => factorText layout factor (callText layout "max" (texts layout cs))
  | between low middle high =>
    let low := textTimes layout 1 low
    let middle := textTimes layout 1 middle
    let high := textTimes layout 1 high
    factorText layout factor <|
      match layout with
      | .ordinary => callText layout "clamp" [low, middle, high]
      | .compact => callText layout "max" [low, callText layout "min" [middle, high]]
  | rounded way c step =>
    let arguments := [textTimes layout 1 c, textTimes layout 1 step]
    factorText layout factor <|
      callText layout "round" (if way = .nearest then arguments else way.name :: arguments)
  | remainder c d =>
    factorText layout factor (callText layout "rem" [textTimes layout 1 c, textTimes layout 1 d])
  | modulus c d =>
    factorText layout factor (callText layout "mod" [textTimes layout 1 c, textTimes layout 1 d])
  | size c => factorText layout factor (callText layout "abs" [textTimes layout 1 c])
  | sign c => factorText layout factor (callText layout "sign" [textTimes layout 1 c])
  | distance cs => factorText layout factor (callText layout "hypot" (texts layout cs))

/-- Calculations as they are written. -/
def texts (layout : Layout) : List Calculation → List Text
  | [] => []
  | c :: rest => textTimes layout 1 c :: texts layout rest

end

/-- A calculation as it is written. -/
def text (layout : Layout) (c : Calculation) : Text :=
  c.textTimes layout 1

end Calculation

end Css

end ResponsiveImages
