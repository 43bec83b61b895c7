import ResponsiveImages.Css.Color
import ResponsiveImages.Css.Reader

/-!
# Reading Colors

A color is read from a name, from hexadecimal digits or from a function. The
parts of a function stand between commas in the older form of the oldest
functions and between spaces otherwise, and behind a slash there may be an
opacity. In the older form no part may be left open.

A function may also make its color from another one (`Origin`). Its parts can
then be called by the names of the coordinates of the space it belongs to, and
can be calculated from those.

## Main definitions

* `Origin`: The color that another one is made from.
* `ColorFunction.partsOf`: The reader of the parts of a function for a single space.
* `ColorFunction.mixture`: The reader of mixtures.
* `ColorFunction.colorUpTo`: The reader of colors.
* `Color.ofComponent?`: The color a component stands for.
-/

namespace ResponsiveImages

namespace Css

open Text

/-- What a coordinate of a space is given by. -/
inductive Coordinate where
  | percentage
  | number
  | angle
  deriving DecidableEq, Repr

namespace Coordinate

/-- What the coordinates of a space are given by. -/
def ofSpace : Space → Coordinate × Coordinate × Coordinate
  | .hsl => (angle, percentage, percentage)
  | .hwb => (angle, percentage, percentage)
  | .lab => (percentage, number, number)
  | .oklab => (percentage, number, number)
  | .lch => (percentage, number, angle)
  | .oklch => (percentage, number, angle)
  | _ => (percentage, percentage, percentage)

end Coordinate

/-- The color that another one is made from. -/
structure Origin where
  space : Space
  point : Point

namespace Origin

/-- The coordinate with a name, if it is given by one of some things. -/
def part? (o : Origin) (kinds : List Coordinate) (name : Text) : Option Float32 :=
  let name := lower name
  let names := o.space.names
  let given := Coordinate.ofSpace o.space
  if name == names.1 && kinds.contains given.1 then some o.point.a
  else if name == names.2.1 && kinds.contains given.2.1 then some o.point.b
  else if name == names.2.2 && kinds.contains given.2.2 then some o.point.c
  else if name == "alpha".toList && kinds.contains .percentage then some o.point.alpha
  else none

/-- The terms of a calculation with coordinates that are given by one of some things. -/
def terms (o : Origin) (kinds : List Coordinate) : Terms where
  names name := (o.part? kinds name).map .number

/-- A color in the space of a function that makes another one from it. Nothing is left open,
    and the parts of the functions for a single space can be shown. -/
def ofColor? (s : Space) (c : Color) : Option Origin :=
  c.point?.map fun (from', p) =>
    let p := (p.convert from' s).closed
    ⟨s, if Color.isRgb s || Color.hasFunction s then p.intoGamut s else p⟩

/-- The color with its hue within a full turn. -/
def withinTurn (o : Origin) : Origin :=
  let hue := remainderOf o.point.c 360
  { o with point := { o.point with c := if hue < 0 then hue + 360 else hue } }

end Origin

namespace ColorFunction

open Reader

/-- A coordinate of the color that another one is made from, or a calculation with some of
    its coordinates. -/
def ofOrigin (origin : Option Origin) (kinds more : List Coordinate) : Reader Float32 := do
  match origin with
  | none => failure
  | some o =>
    let named : Reader Float32 :=
      one fun
        | .token (.ident name) => o.part? kinds name
        | _ => none
    let calculated : Reader Float32 := do
      match ← calculation (o.terms more) with
      | .number x => return x
      | _ => failure
    named <|> calculated

/-- A part that is left open. -/
def openOne (openAllowed : Bool) : Reader Float32 := do
  if openAllowed then
    word "none".toList
    return openPart
  else failure

/-- A part given by a percentage. -/
def shareOf (origin : Option Origin) (openAllowed : Bool) : Reader Float32 :=
  first [ofOrigin origin [.percentage] [.percentage], share, openOne openAllowed]

/-- A part given by a number. -/
def numberOf (origin : Option Origin) (openAllowed : Bool) : Reader Float32 :=
  first [ofOrigin origin [.number] [.number], number, openOne openAllowed]

/-- A part given by a number or a percentage, and which of them it is. -/
def part (origin : Option Origin) (openAllowed : Bool) : Reader (Bool × Float32) :=
  first [(fun x => (true, x)) <$> ofOrigin origin [.percentage] [.percentage, .number],
    (fun x => (false, x)) <$> number, (fun x => (true, x)) <$> share,
    (fun x => (false, x)) <$> openOne openAllowed]

/-- A hue in degrees. -/
def hueOf (origin : Option Origin) (openAllowed : Bool) : Reader Float32 :=
  let kinds : List Coordinate := [.angle, .number]
  first [ofOrigin origin kinds kinds, Quantity.degrees <$> quantity .angle, number,
    openOne openAllowed]

/-- An opacity behind a slash. -/
def opacity (origin : Option Origin) : Reader Float32 := do
  match ← maybe slash with
  | some () => return clampUnit (← part origin true).2
  | none => return 1

/-- An opacity behind a comma. -/
def olderOpacity : Reader Float32 := do
  if ← atEnd then return 1
  else
    comma
    return clampUnit (← part none true).2

/-- A number between zero and a bound, rounded. Nothing is done to one that is left open. -/
def wholeUpTo (bound x : Float32) : Float32 :=
  let x := x.round
  if x < 0 then 0 else if bound < x then bound else x

/-- Red, green and blue parts, and whether they are in the older form. -/
def rgbParts (origin : Option Origin) (openAllowed : Bool) :
    Reader (Bool × Float32 × Float32 × Float32) := do
  let (isShare, x) ← part origin openAllowed
  let older ← if origin.isNone && !x.isNaN then maybe comma else pure none
  let unit (isShare : Bool) (x : Float32) : Float32 :=
    if isShare then clampUnit x else wholeUpTo 255 x / 255
  match older with
  | some () =>
    let next : Reader Float32 :=
      if isShare then shareOf none openAllowed else numberOf none openAllowed
    let y ← next
    comma
    let z ← next
    if y.isNaN || z.isNaN then failure
    else return (true, unit isShare x, unit isShare y, unit isShare z)
  | none =>
    let y ← part origin openAllowed
    let z ← part origin openAllowed
    return (false, unit isShare x, unit y.1 y.2, unit z.1 z.2)

/-- A hue and two parts given by percentages, and whether they are in the older form. -/
def hueParts (origin : Option Origin) (openAllowed olderAllowed : Bool) :
    Reader (Bool × Float32 × Float32 × Float32) := do
  let h ← hueOf origin openAllowed
  let older ← if olderAllowed && origin.isNone && !h.isNaN then maybe comma else pure none
  let x := clampUnit (← shareOf origin openAllowed)
  if older.isSome then comma
  let y := clampUnit (← shareOf origin openAllowed)
  if older.isSome && (x.isNaN || y.isNaN) then failure
  else return (older.isSome, h, x, y)

/-- A part that is not negative. -/
def atLeastZero (x : Float32) : Float32 :=
  if x < 0 then 0 else x

/-- The parts of a function for a single space. -/
def partsOf (s : Space) (origin : Option Origin) : Reader Point := do
  let (older, x, y, z) ← match s with
    | .rgb => rgbParts origin true
    | .hsl => hueParts origin true true
    | .hwb => hueParts origin true false
    | .lab => opposing
    | .oklab => opposing
    | _ => circular
  let alpha ← if older then olderOpacity else opacity origin
  return ⟨x, y, z, alpha⟩
where
  /-- A lightness and two pairs of opposing colors. -/
  opposing : Reader (Bool × Float32 × Float32 × Float32) := do
    let l ← shareOf origin true
    let a ← numberOf origin true
    let b ← numberOf origin true
    return (false, atLeastZero l, a, b)
  /-- A lightness, a chroma and a hue. -/
  circular : Reader (Bool × Float32 × Float32 × Float32) := do
    let origin := origin.map Origin.withinTurn
    let l ← shareOf origin true
    let c ← numberOf origin true
    let h ← hueOf origin true
    return (false, atLeastZero l, atLeastZero c, h)

/-- What is made from a color, and from both of a pair for light and dark pages. -/
def fromColor {α : Type} (s : Space) (pair : α → α → α) (c : Color)
    (f : Option Origin → Reader α) : Reader α :=
  match c with
  | .schemes light dark => fun cs => do
    let (l, _) ← (made light).run cs
    let (d, rest) ← (made dark).run cs
    return (pair l d, rest)
  | c => made c
where
  /-- What is made from one color. -/
  made (c : Color) : Reader α := do
    match Origin.ofColor? s c with
    | some o => f (some o)
    | none => failure

/-- The functions for a single space. -/
def ownFunctions : List (Text × Space) := [
  ("rgb".toList, .rgb), ("rgba".toList, .rgb), ("hsl".toList, .hsl), ("hsla".toList, .hsl),
  ("hwb".toList, .hwb), ("lab".toList, .lab), ("oklab".toList, .oklab), ("lch".toList, .lch),
  ("oklch".toList, .oklch)]

/-- The spaces whose names may stand in front of the parts of a color. -/
def profiles : List (Text × Space) := [
  ("srgb".toList, .rgb), ("srgb-linear".toList, .rgbLinear), ("display-p3".toList, .displayP3),
  ("a98-rgb".toList, .a98), ("prophoto-rgb".toList, .prophoto), ("rec2020".toList, .rec2020),
  ("xyz-d50".toList, .xyzD50), ("xyz".toList, .xyzD65), ("xyz-d65".toList, .xyzD65)]

/-- The spaces in which colors can be mixed. -/
def mixingSpaces : List (Text × Space) := [
  ("srgb".toList, .rgb), ("srgb-linear".toList, .rgbLinear), ("lab".toList, .lab),
  ("oklab".toList, .oklab), ("xyz".toList, .xyzD65), ("xyz-d50".toList, .xyzD50),
  ("xyz-d65".toList, .xyzD65), ("hsl".toList, .hsl), ("hwb".toList, .hwb), ("lch".toList, .lch),
  ("oklch".toList, .oklch)]

/-- What a name stands for in a table. -/
def named {α : Type} (table : List (Text × α)) : Reader α := do
  match table.lookup (lower (← ident)) with
  | some a => return a
  | none => failure

/-- Whether the first coordinate or the last one of a space is a hue. -/
def hasHue (s : Space) : Bool :=
  s = .hsl || s = .hwb || s = .lch || s = .oklch

/-- The way around the circle of hues. -/
def huePath (s : Space) : Reader HuePath := do
  if hasHue s then
    match ← maybe (named HuePath.names) with
    | some path =>
      word "hue".toList
      return path
    | none => return .shorter
  else return .shorter

/-- A color with its part of a mixture on either side of it. -/
def mixed (color : Reader Color) : Reader (Color × Option Float32) := do
  let before ← maybe plainShare
  let c ← color
  match before with
  | some x => return (c, some x)
  | none => return (c, ← maybe plainShare)

/-- A mixture of two colors. -/
def mixture (color : Reader Color) : Reader Color := do
  word "in".toList
  let s ← named mixingSpaces
  let path ← huePath s
  comma
  let (c, x?) ← mixed color
  comma
  let (d, y?) ← mixed color
  let (x, y) : Float32 × Float32 :=
    match x?, y? with
    | some x, some y => (x, y)
    | some x, none => (x, 1 - x)
    | none, some y => (1 - y, y)
    | none, none => (0.5, 0.5)
  if x + y == 0 then failure
  else
    match Color.mix? s path x y c d with
    | some c => return c
    | none => failure

/-- The color of a pair for light and dark pages. -/
def schemePair (color : Reader Color) : Reader Color := do
  let light := match ← color with
    | .schemes light _ => light
    | c => c
  comma
  let dark := match ← color with
    | .schemes _ dark => dark
    | c => c
  return .schemes light dark

/-- A color with the name of its space in front of its parts. -/
def profiled (color : Reader Color) : Reader Color := do
  let origin ← behind "from".toList color
  let s ← named profiles
  let coordinate (o : Option Origin) : Reader Float32 :=
    return ((← maybe (part o true)).map Prod.snd).getD 0
  let made (o : Option Origin) : Reader Color := do
    let a ← coordinate o
    let b ← coordinate o
    let c ← coordinate o
    return .profiled s ⟨a, b, c, ← opacity o⟩
  match origin with
  | some c => fromColor s .schemes c made
  | none => made none

/-- A color of a function for a single space. -/
def ownColor (s : Space) (color : Reader Color) : Reader Color := do
  let made (o : Option Origin) : Reader Color := .ofParts s <$> partsOf s o
  match ← behind "from".toList color with
  | some c => fromColor s .schemes c made
  | none => made none

/-- The color of a function with a name in lower case, given the reader of the colors
    inside of it. -/
def colorFunction (name : Text) (color : Reader Color) : Reader Color :=
  match ownFunctions.lookup name with
  | some s => ownColor s color
  | none =>
    if name == "color".toList then profiled color
    else if name == "color-mix".toList then mixture color
    else if name == "light-dark".toList then schemePair color
    else failure

/-- The parts of a function for a single space whose opacity is not among them, or those for
    light pages and those for dark ones. -/
def closedParts (s : Space) (color : Reader Color) :
    Reader (List (Float32 × Float32 × Float32)) := do
  let made (o : Option Origin) : Reader (List (Float32 × Float32 × Float32)) := do
    let (older, parts) ← if s = .rgb then rgbParts o false else hueParts o false false
    if older then failure else return [parts]
  match ← behind "from".toList color with
  | some c => fromColor s (· ++ ·) c made
  | none => made none

/-- A color with others inside of it up to a depth. -/
def colorUpTo : Nat → Reader Color
  | 0 => failure
  | fuel + 1 =>
    one fun
      | .token (.hash _ digits) => (Color.ofHex? digits).map .rgba
      | .token (.ident name) => Color.ofName? name
      | .function name arguments =>
        (colorFunction (lower name) (colorUpTo fuel)).whole? arguments
      | _ => none

end ColorFunction

/-- The color that a component stands for. -/
def Color.ofComponent? (c : Component) : Option Color :=
  (ColorFunction.colorUpTo (c.depth + 1)).whole? [c]

end Css

end ResponsiveImages
