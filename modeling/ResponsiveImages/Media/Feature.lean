import ResponsiveImages.Media.Viewport
import ResponsiveImages.Decimal.Shortest
import ResponsiveImages.Decimal.Reading

/-!
# Media Features

A media feature is one parenthesised test such as `(min-width: 320px)`, kept
as the two texts it was written with. What it asks of a viewport is looked up
from its name (`Test.ofName?`); a name the library does not know, or a value
it cannot read, makes a test that no viewport passes.

Directives are written in pixels, while style sheets that should respond to
the reader's font size want ems. `Feature.toEm` restates a size test given in
whole pixels, and leaves every other feature as it is.

## Main definitions

* `Feature`: A test's name and its value, if it has one.
* `Feature.text`: The test as it is written.
* `Feature.ofInner?`: Reading what stands between the parentheses.
* `Side`, `Bound`, `Test`: What can be asked of a viewport.
* `length?`, `ratio?`, `resolution?`: The values a test compares with.
* `Feature.holds`: Whether a viewport passes the test.
* `Feature.wholePixels?`: The number of pixels in a value such as `320px`.
* `Feature.toEm`: A pixel size test restated in ems.
-/

namespace ResponsiveImages

open Text

/-- One parenthesised test of a media query. -/
structure Feature where
  name : Text
  value : Option Text
  deriving DecidableEq, Repr

/-- A side of the window. -/
inductive Side where
  | width
  | height
  deriving DecidableEq, Repr

/-- How a measured quantity has to relate to the value of the test. -/
inductive Bound where
  | atLeast
  | atMost
  | exactly
  deriving DecidableEq, Repr

/-- What a feature asks of a viewport. -/
inductive Test where
  /-- A side of the window compared with a length. -/
  | size (side : Side) (bound : Bound)
  /-- The pixel density compared with a number or a ratio. -/
  | density (bound : Bound)
  /-- The pixel density compared with a resolution. -/
  | resolution (bound : Bound)
  /-- Whether the window is upright or wide. -/
  | orientation
  deriving DecidableEq, Repr

namespace Test

/-- The names of the tests that take a value, in lower case. -/
def names : List (Text × Test) := [
  ("min-width".toList, size .width .atLeast),
  ("max-width".toList, size .width .atMost),
  ("width".toList, size .width .exactly),
  ("min-height".toList, size .height .atLeast),
  ("max-height".toList, size .height .atMost),
  ("height".toList, size .height .exactly),
  ("min--moz-device-pixel-ratio".toList, density .atLeast),
  ("-o-min-device-pixel-ratio".toList, density .atLeast),
  ("-webkit-min-device-pixel-ratio".toList, density .atLeast),
  ("min-device-pixel-ratio".toList, density .atLeast),
  ("max--moz-device-pixel-ratio".toList, density .atMost),
  ("-o-max-device-pixel-ratio".toList, density .atMost),
  ("-webkit-max-device-pixel-ratio".toList, density .atMost),
  ("max-device-pixel-ratio".toList, density .atMost),
  ("min-resolution".toList, resolution .atLeast),
  ("max-resolution".toList, resolution .atMost),
  ("orientation".toList, orientation)]

/-- The test a name stands for. Names are read without regard to case. -/
def ofName? (name : Text) : Option Test :=
  names.lookup (lower name)

end Test

/-- Whether a measured quantity satisfies a bound. -/
def Bound.admits (b : Bound) (measured value : Float) : Bool :=
  match b with
  | .atLeast => decide (value ≤ measured)
  | .atMost => decide (measured ≤ value)
  | .exactly => measured == value

/-- The measure of a side of the window. -/
def Viewport.side (v : Viewport) : Side → Float
  | .width => v.width
  | .height => v.height

/-- The characters the number in front of a unit is made of. -/
def isNumeric (c : Char) : Bool :=
  c.isDigit || c == '.' || c == '-' || c == '+'

/-- The number a value begins with, and its unit in lower case. -/
def splitNumber? (value : Text) : Option (Float × Text) :=
  let s := trim value
  (readFloat? (s.takeWhile isNumeric)).map fun x => (x, lower (trim (s.dropWhile isNumeric)))

/-- A length in CSS pixels. Only zero may go without a unit. -/
def length? (value : Text) : Option Float :=
  (splitNumber? value).bind fun (x, u) =>
    if u = "px".toList then some x
    else if u = "em".toList ∨ u = "rem".toList then some (x * rootFontSize)
    else if u = [] ∧ x == 0.0 then some 0.0
    else none

/-- A number such as `1.3`, or the quotient of a ratio such as `2.6/2`. -/
def ratio? (value : Text) : Option Float :=
  match splitOnce? '/' value with
  | some (num, den) =>
    (readFloat? (trim num)).bind fun x => (readFloat? (trim den)).map fun y => x / y
  | none => readFloat? (trim value)

/-- A resolution in dots per CSS pixel. -/
def resolution? (value : Text) : Option Float :=
  (splitNumber? value).bind fun (x, u) =>
    if u = "dppx".toList ∨ u = "x".toList then some x
    else if u = "dpi".toList then some (x / 96.0)
    else if u = "dpcm".toList then some (x * 2.54 / 96.0)
    else none

/-- Whether a viewport has the named orientation. A square window is upright. -/
def orientation? (v : Viewport) (value : Text) : Option Bool :=
  if lower value = "portrait".toList then some (decide (v.width ≤ v.height))
  else if lower value = "landscape".toList then some (decide (v.height < v.width))
  else none

/-- The outcome of a test with a value, if the value can be read. -/
def Test.outcome? (t : Test) (v : Viewport) (value : Text) : Option Bool :=
  match t with
  | size side bound => (length? value).map (bound.admits (v.side side))
  | density bound => (ratio? value).map (bound.admits v.pixelRatio)
  | resolution bound => (resolution? value).map (bound.admits v.pixelRatio)
  | orientation => orientation? v value

namespace Feature

/-- The test as it is written, parentheses included. -/
def text (f : Feature) : Text :=
  match f.value with
  | some value => '(' :: f.name ++ ": ".toList ++ value ++ [')']
  | none => '(' :: f.name ++ [')']

/-- Reading what stands between the parentheses. There has to be a name, and a
    value if there is a colon. -/
def ofInner? (inner : Text) : Option Feature :=
  match splitOnce? ':' inner with
  | some (name, value) =>
    if (trim name).isEmpty ∨ (trim value).isEmpty then none
    else some ⟨trim name, some (trim value)⟩
  | none => if (trim inner).isEmpty then none else some ⟨trim inner, none⟩

/-- Whether a viewport passes the test. Without a value only `color` is known,
    and every display has it. -/
def holds (f : Feature) (v : Viewport) : Bool :=
  match f.value with
  | none => lower f.name == "color".toList
  | some value => (((Test.ofName? f.name).bind fun t => t.outcome? v value).getD false)

/-- Whether the feature is one of the four size tests of the directive
    language. -/
def isDimension (f : Feature) : Bool :=
  match Test.ofName? f.name with
  | some (.size _ .atLeast) => true
  | some (.size _ .atMost) => true
  | _ => false

/-- The number of pixels in a value such as `320px`. The number has to be whole
    and to fit into 64 bits. -/
def wholePixels? (value : Text) : Option Nat :=
  (beforeSuffix? "px".toList (lower value)).bind fun s =>
    let digits := trimEnd s
    if isDigits digits ∧ natOfDigits digits < Nat.pow 2 64 then some (natOfDigits digits) else none

/-- A number of pixels as a length in ems of the given size. -/
def emText (pixels base : Nat) : Text :=
  floatText (Float.ofNat pixels / Float.ofNat base) ++ "em".toList

/-- A size test in whole pixels restated in ems. Everything else stays. -/
def toEm (base : Nat) (f : Feature) : Feature :=
  if f.isDimension ∧ 0 < base then
    match f.value.bind wholePixels? with
    | some pixels => { f with value := some (emText pixels base) }
    | none => f
  else f

end Feature

end ResponsiveImages
