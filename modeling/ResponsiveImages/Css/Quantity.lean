import ResponsiveImages.Css.Numeral
import ResponsiveImages.Css.Writing

/-!
# Quantities

A number with a unit of length, angle, time or resolution. Units are known in
any case and written in lower case.

A length keeps its unit. An angle in radians is written in degrees, unless it
is too large to be converted. A time is written in seconds or milliseconds,
whichever is shorter: from a tenth of a second on, seconds are.

A number of dots for each pixel has two units that mean the same. The short
one is the younger one.

## Main definitions

* `Dimension`: What a quantity measures.
* `Quantity`: A number with a unit.
* `Quantity.ofUnit?`: The quantity of a number and a unit.
* `Quantity.pixels?`: A length in pixels.
* `Quantity.degrees`, `Quantity.radians`, `Quantity.seconds`: Angles and times.
* `Quantity.common?`: Two quantities in a common unit.
* `Quantity.text`: A quantity as it is written.
-/

namespace ResponsiveImages

namespace Css

open Text

/-- What a quantity measures. -/
inductive Dimension where
  | length
  | angle
  | time
  | resolution
  deriving DecidableEq, Repr

/-- A number with a unit. -/
structure Quantity where
  dimension : Dimension
  value : Float32
  /-- The unit in lower case. -/
  unit : Text
  deriving BEq

/-- The units of length. -/
def lengthUnits : List Text :=
  ["px".toList, "in".toList, "cm".toList, "mm".toList, "q".toList, "pt".toList, "pc".toList,
    "em".toList, "rem".toList, "ex".toList, "rex".toList, "ch".toList, "rch".toList,
    "cap".toList, "rcap".toList, "ic".toList, "ric".toList, "lh".toList, "rlh".toList,
    "vw".toList, "lvw".toList, "svw".toList, "dvw".toList, "vh".toList, "lvh".toList,
    "svh".toList, "dvh".toList, "vi".toList, "svi".toList, "lvi".toList, "dvi".toList,
    "vb".toList, "svb".toList, "lvb".toList, "dvb".toList, "vmin".toList, "svmin".toList,
    "lvmin".toList, "dvmin".toList, "vmax".toList, "svmax".toList, "lvmax".toList,
    "dvmax".toList, "cqw".toList, "cqh".toList, "cqi".toList, "cqb".toList, "cqmin".toList,
    "cqmax".toList]

/-- The units of angles. -/
def angleUnits : List Text :=
  ["deg".toList, "grad".toList, "rad".toList, "turn".toList]

/-- The units of time. -/
def timeUnits : List Text :=
  ["s".toList, "ms".toList]

/-- The units of a number of dots for each pixel. -/
def densityUnits : List Text :=
  ["x".toList, "dppx".toList]

/-- The units of resolution. -/
def resolutionUnits : List Text :=
  ["dpi".toList, "dpcm".toList] ++ densityUnits

/-- The unit that numbers without one count. -/
def pixelUnit : Text :=
  "px".toList

namespace Quantity

/-- What a unit in lower case measures. -/
def dimensionOf? (unit : Text) : Option Dimension :=
  if lengthUnits.contains unit then some .length
  else if angleUnits.contains unit then some .angle
  else if timeUnits.contains unit then some .time
  else if resolutionUnits.contains unit then some .resolution
  else none

/-- The quantity of a number and a unit. -/
def ofUnit? (x : Float32) (unit : Text) : Option Quantity :=
  let u := lower unit
  (dimensionOf? u).map fun dimension => ⟨dimension, x, u⟩

/-- A length in pixels. -/
def ofPixels (x : Float32) : Quantity :=
  ⟨.length, x, pixelUnit⟩

/-- The number of pixels a unit of length has everywhere. -/
def pixelsOf? (unit : Text) : Option Float32 :=
  let inch : Float32 := 96
  let centimetre : Float32 := inch / 2.54
  ([(pixelUnit, 1), ("in".toList, inch), ("cm".toList, centimetre),
    ("mm".toList, centimetre / 10), ("q".toList, centimetre / 40),
    ("pt".toList, inch / 72), ("pc".toList, inch / 6)] : List (Text × Float32)).lookup unit

/-- A length in pixels, if it is the same everywhere. -/
def pixels? (q : Quantity) : Option Float32 :=
  (pixelsOf? q.unit).map (q.value * ·)

/-- An angle in degrees. -/
def degrees (q : Quantity) : Float32 :=
  if q.unit == "rad".toList then q.value * (180 / 3.14159265358979323846)
  else if q.unit == "grad".toList then q.value * 180 / 200
  else if q.unit == "turn".toList then q.value * 360
  else q.value

/-- An angle in radians. -/
def radians (q : Quantity) : Float32 :=
  let unit : Float32 := 3.14159265358979323846 / 180
  if q.unit == "rad".toList then q.value else q.degrees * unit

/-- A time in seconds. -/
def seconds (q : Quantity) : Float32 :=
  if q.unit == ['s'] then q.value else q.value / 1000

/-- A time in milliseconds. -/
def milliseconds (q : Quantity) : Float32 :=
  if q.unit == ['s'] then q.value * 1000 else q.value

/-- The values of two quantities with the unit they have in common. Lengths with
    different units may have none. -/
def common? (p q : Quantity) : Option (Float32 × Float32 × Text) :=
  if p.unit == q.unit then some (p.value, q.value, p.unit)
  else
    match p.dimension with
    | .angle => some (p.degrees, q.degrees, "deg".toList)
    | .time =>
      if p.unit == ['s'] then some (p.value, q.seconds, p.unit)
      else some (p.value, q.milliseconds, p.unit)
    | _ =>
      match p.pixels?, q.pixels? with
      | some x, some y => some (x, y, pixelUnit)
      | _, _ => none

/-- Whether a quantity is zero. -/
def isZero (q : Quantity) : Bool :=
  q.value == 0

/-- An angle as it is written. -/
def angleText (q : Quantity) : Text :=
  if q.unit == "rad".toList && (q.degrees * 100000).isFinite then
    dimensionText q.degrees "deg".toList
  else dimensionText q.value q.unit

/-- A time as it is written. -/
def timeText (q : Quantity) : Text :=
  if q.unit == "s".toList then
    if 0 < q.value ∧ q.value < 0.1 then numberText (q.value * 1000) ++ "ms".toList
    else numberText q.value ++ ['s']
  else if q.value == 0 || decide (100 ≤ q.value) then numberText (q.value / 1000) ++ ['s']
  else numberText q.value ++ "ms".toList

/-- A resolution as it is written. -/
def resolutionText (layout : Layout) (q : Quantity) : Text :=
  let unit :=
    if densityUnits.contains q.unit then
      match layout with
      | .ordinary => ['x']
      | .compact => "dppx".toList
    else q.unit
  dimensionText q.value unit

/-- A quantity as it is written. -/
def text (layout : Layout) (q : Quantity) : Text :=
  match q.dimension with
  | .length => dimensionText q.value q.unit
  | .angle => q.angleText
  | .time => q.timeText
  | .resolution => q.resolutionText layout

end Quantity

end Css

end ResponsiveImages
