import ResponsiveImages.Text.Basic

/-!
# Spaces of Color

A color is a point of a space with three coordinates and an opacity. A
coordinate that is left open is not a number.

The spaces form a tree with the standard observer's space for daylight at its
root: each one knows how its points lie in the space above it. A point is
carried to another space by way of the closest space above both.

## Main definitions

* `Space`: The spaces of color.
* `Point`: A point of a space, with its opacity.
* `Point.convert`: A point in another space.
* `Point.inGamut`, `Point.intoGamut`: The points that can be shown.
* `mix`: The point between two points of a space.
-/

namespace ResponsiveImages

namespace Css

open Text

/-- The spaces of color. -/
inductive Space where
  /-- Red, green and blue. -/
  | rgb
  /-- Hue, saturation and lightness. -/
  | hsl
  /-- Hue, whiteness and blackness. -/
  | hwb
  | rgbLinear
  | displayP3
  | a98
  | prophoto
  | rec2020
  | xyzD50
  | xyzD65
  /-- Lightness and two pairs of opposing colors. -/
  | lab
  /-- Lightness, chroma and hue. -/
  | lch
  | oklab
  | oklch
  deriving DecidableEq, Repr

/-- A point of a space, with its opacity. -/
structure Point where
  a : Float32
  b : Float32
  c : Float32
  alpha : Float32 := 1
  deriving BEq

/-- The number that stands for a coordinate that is left open. -/
def openPart : Float32 :=
  0 / 0

/-- A coordinate, or zero if it is left open. -/
def closed (x : Float32) : Float32 :=
  if x.isNaN then 0 else x

/-- A number between zero and one. Nothing is done to one that is left open. -/
def clampUnit (x : Float32) : Float32 :=
  if x < 0 then 0 else if 1 < x then 1 else x

/-- A number with the sign of another one. -/
def withSign (sign size : Float32) : Float32 :=
  if sign < 0 then -size else size

/-- The smallest difference that counts. -/
def tiny : Float32 :=
  0.00000011920929

namespace Point

/-- The point with something done to its coordinates. -/
def map (f : Float32 → Float32) (p : Point) : Point :=
  { p with a := f p.a, b := f p.b, c := f p.c }

/-- The point with nothing left open. -/
def closed (p : Point) : Point :=
  { p.map Css.closed with alpha := Css.closed p.alpha }

/-- The point multiplied by the rows of a matrix. -/
def times (x y z : Point) (p : Point) : Point :=
  let row (m : Point) : Float32 := m.a * p.a + m.b * p.b + m.c * p.c
  { p with a := row x, b := row y, c := row z }

end Point

/-- The third power. -/
def cube (x : Float32) : Float32 :=
  x * x * x

/-- The number of degrees of a radian. -/
def degreesPerRadian : Float32 :=
  180 / 3.14159265358979323846

/-- The number of radians of a degree. -/
def radiansPerDegree : Float32 :=
  3.14159265358979323846 / 180

namespace Space

/-- The brightness of a coordinate. -/
def linear (x : Float32) : Float32 :=
  if x.abs < 0.04045 then x / 12.92
  else withSign x (Float32.pow ((x.abs + 0.055) / 1.055) 2.4)

/-- The coordinate of a brightness. -/
def curved (x : Float32) : Float32 :=
  if 0.0031308 < x.abs then withSign x (1.055 * Float32.pow x.abs (1 / 2.4) - 0.055)
  else 12.92 * x

/-- A part of a color, given the extremes of the parts and its hue in thirds of the
    circle. -/
def partOfHue (low high third : Float32) : Float32 :=
  let h := if third < 0 then third + 3 else if 3 < third then third - 3 else third
  if h * 2 < 1 then low + (high - low) * h * 2
  else if h * 2 < 3 then high
  else if h < 2 then low + (high - low) * (2 - h) * 2
  else low

/-- Red, green and blue of a hue, a saturation and a lightness. -/
def rgbOfHsl (p : Point) : Point :=
  let turns := (p.a - 360 * (p.a / 360).floor) / 360
  let high := if p.c ≤ 0.5 then p.c * (p.b + 1) else p.c + p.b - p.c * p.b
  let low := p.c * 2 - high
  { p with
    a := partOfHue low high (turns * 3 + 1)
    b := partOfHue low high (turns * 3)
    c := partOfHue low high (turns * 3 - 1) }

/-- Red, green and blue of a hue, a whiteness and a blackness. -/
def rgbOfHwb (p : Point) : Point :=
  if 1 ≤ p.b + p.c then
    let gray := p.b / (p.b + p.c)
    { p with a := gray, b := gray, c := gray }
  else
    (rgbOfHsl { p with b := 1, c := 0.5 }).map fun x => x * (1 - p.b - p.c) + p.b

/-- The greatest of the coordinates. -/
def greatest (p : Point) : Float32 :=
  let m := if p.a < p.b then p.b else p.a
  if m < p.c then p.c else m

/-- The least of the coordinates. -/
def least (p : Point) : Float32 :=
  let m := if p.b < p.a then p.b else p.a
  if p.c < m then p.c else m

/-- Hue, saturation and lightness. A gray has no hue. -/
def hslOfRgb (p : Point) : Point :=
  let high := greatest p
  let low := least p
  let range := high - low
  let l := (low + high) / 2
  if range == 0 then { p with a := openPart, b := 0, c := l }
  else
    let s :=
      if l == 0 || l == 1 then 0 else (high - l) / (if l < 1 - l then l else 1 - l)
    let sixths :=
      if high == p.a then (p.b - p.c) / range + if p.b < p.c then 6 else 0
      else if high == p.b then (p.c - p.a) / range + 2
      else (p.a - p.b) / range + 4
    { p with a := sixths * 60, b := s, c := l }

/-- Hue, whiteness and blackness. -/
def hwbOfRgb (p : Point) : Point :=
  { p with a := (hslOfRgb p).a, b := least p, c := 1 - greatest p }

/-- The white of paper. -/
def white : Point where
  a := 0.3457 / 0.3585
  b := 1
  c := (1 - 0.3457 - 0.3585) / 0.3585

/-- The bend of the curve of lightness. -/
def bend : Float32 :=
  216 / 24389

/-- The slope of the curve of lightness below its bend. -/
def slope : Float32 :=
  24389 / 27

/-- Lightness and opposing colors under the light of paper. -/
def labOfXyz (p : Point) : Point :=
  let f (x : Float32) : Float32 := if bend < x then x.cbrt else (slope * x + 16) / 116
  let x := f (p.a / white.a)
  let y := f (p.b / white.b)
  let z := f (p.c / white.c)
  { p with a := (116 * y - 16) / 100, b := 500 * (x - y), c := 200 * (y - z) }

/-- The point of a lightness and opposing colors under the light of paper. -/
def xyzOfLab (p : Point) : Point :=
  let l := p.a * 100
  let y := (l + 16) / 116
  let x := p.b / 500 + y
  let z := y - p.c / 200
  let g (f : Float32) : Float32 := if bend < cube f then cube f else (116 * f - 16) / slope
  { p with
    a := g x * white.a
    b := (if slope * bend < l then cube y else l / slope) * white.b
    c := g z * white.c }

/-- Chroma and hue of opposing colors. -/
def polar (p : Point) : Point :=
  let hue := Float32.atan2 p.c p.b * degreesPerRadian
  { p with b := (p.b * p.b + p.c * p.c).sqrt, c := if 0 ≤ hue then hue else hue + 360 }

/-- The opposing colors of a chroma and a hue. -/
def cartesian (p : Point) : Point :=
  let angle := p.c * radiansPerDegree
  { p with b := p.b * angle.cos, c := p.b * angle.sin }

/-- The space above a space. -/
def parent? : Space → Option Space
  | rgb => some rgbLinear
  | hsl => some rgb
  | hwb => some rgb
  | rgbLinear => some xyzD65
  | displayP3 => some xyzD65
  | a98 => some xyzD65
  | prophoto => some xyzD50
  | rec2020 => some xyzD65
  | xyzD50 => some xyzD65
  | xyzD65 => none
  | lab => some xyzD50
  | lch => some lab
  | oklab => some xyzD65
  | oklch => some oklab

/-- The number of spaces above a space. -/
def level : Space → Nat
  | xyzD65 => 0
  | rgbLinear => 1
  | displayP3 => 1
  | a98 => 1
  | rec2020 => 1
  | xyzD50 => 1
  | oklab => 1
  | rgb => 2
  | prophoto => 2
  | lab => 2
  | oklch => 2
  | hsl => 3
  | hwb => 3
  | lch => 3

/-- A point of a space in the space above it. -/
def toParent (s : Space) (p : Point) : Point :=
  match s with
  | rgb => p.map linear
  | hsl => rgbOfHsl p
  | hwb => rgbOfHwb p
  | rgbLinear =>
    p.times ⟨0.41239079926595934, 0.357584339383878, 0.1804807884018343, 1⟩
      ⟨0.21263900587151027, 0.715168678767756, 0.07219231536073371, 1⟩
      ⟨0.01933081871559182, 0.11919477979462598, 0.9505321522496607, 1⟩
  | displayP3 =>
    (p.map linear).times ⟨0.4865709486482162, 0.26566769316909306, 0.1982172852343625, 1⟩
      ⟨0.2289745640697488, 0.6917385218365064, 0.079286914093745, 1⟩
      ⟨0, 0.04511338185890264, 1.043944368900976, 1⟩
  | a98 =>
    (p.map fun x => withSign x (Float32.pow x.abs (563 / 256))).times
      ⟨0.5766690429101305, 0.1855582379065463, 0.1882286462349947, 1⟩
      ⟨0.29734497525053605, 0.6273635662554661, 0.07529145849399788, 1⟩
      ⟨0.02703136138641234, 0.07068885253582723, 0.9913375368376388, 1⟩
  | prophoto =>
    (p.map fun x =>
        if x.abs ≤ 16 / 512 then x / 16 else withSign x (Float32.pow x.abs 1.8)).times
      ⟨0.7977604896723027, 0.13518583717574031, 0.0313493495815248, 1⟩
      ⟨0.2880711282292934, 0.7118432178101014, 0.00008565396060525902, 1⟩
      ⟨0, 0, 0.8251046025104602, 1⟩
  | rec2020 =>
    (p.map fun x =>
        if x.abs < 0.018053968510807 * 4.5 then x / 4.5
        else withSign x
          (Float32.pow ((x.abs + 1.09929682680944 - 1) / 1.09929682680944) (1 / 0.45))).times
      ⟨0.6369580483012914, 0.14461690358620832, 0.1688809751641721, 1⟩
      ⟨0.2627002120112671, 0.6779980715188708, 0.05930171646986196, 1⟩
      ⟨0, 0.028072693049087428, 1.060985057710791, 1⟩
  | xyzD50 =>
    p.times ⟨0.9554734527042182, -0.023098536874261423, 0.0632593086610217, 1⟩
      ⟨-0.028369706963208136, 1.0099954580058226, 0.021041398966943008, 1⟩
      ⟨0.012314001688319899, -0.020507696433477912, 1.3303659366080753, 1⟩
  | xyzD65 => p
  | lab => xyzOfLab p
  | lch => cartesian p
  | oklab =>
    ((p.times ⟨0.99999999845051981432, 0.39633779217376785678, 0.21580375806075880339, 1⟩
        ⟨1.0000000088817607767, -0.1055613423236563494, -0.063854174771705903402, 1⟩
        ⟨1.0000000546724109177, -0.089484182094965759684, -1.2914855378640917399, 1⟩).map
      cube).times ⟨1.2268798733741557, -0.5578149965554813, 0.28139105017721583, 1⟩
      ⟨-0.04057576262431372, 1.1122868293970594, -0.07171106666151701, 1⟩
      ⟨-0.07637294974672142, -0.4214933239627914, 1.5869240244272418, 1⟩
  | oklch => cartesian p

/-- A point of the space above a space in that space. -/
def ofParent (s : Space) (p : Point) : Point :=
  match s with
  | rgb => p.map curved
  | hsl => hslOfRgb p
  | hwb => hwbOfRgb p
  | rgbLinear =>
    p.times ⟨3.2409699419045226, -1.537383177570094, -0.4986107602930034, 1⟩
      ⟨-0.9692436362808796, 1.8759675015077202, 0.04155505740717559, 1⟩
      ⟨0.05563007969699366, -0.20397695888897652, 1.0569715142428786, 1⟩
  | displayP3 =>
    (p.times ⟨2.493496911941425, -0.9313836179191239, -0.40271078445071684, 1⟩
      ⟨-0.8294889695615747, 1.7626640603183463, 0.023624685841943577, 1⟩
      ⟨0.03584583024378447, -0.07617238926804182, 0.9568845240076872, 1⟩).map curved
  | a98 =>
    (p.times ⟨2.0415879038107465, -0.5650069742788596, -0.34473135077832956, 1⟩
      ⟨-0.9692436362808795, 1.8759675015077202, 0.04155505740717557, 1⟩
      ⟨0.013444280632031142, -0.11836239223101838, 1.0151749943912054, 1⟩).map
      fun x => withSign x (Float32.pow x.abs (256 / 563))
  | prophoto =>
    (p.times ⟨1.3457989731028281, -0.25558010007997534, -0.05110628506753401, 1⟩
      ⟨-0.5446224939028347, 1.5082327413132781, 0.02053603239147973, 1⟩
      ⟨0, 0, 1.2119675456389454, 1⟩).map fun x =>
        if 1 / 512 ≤ x.abs then withSign x (Float32.pow x.abs (1 / 1.8)) else 16 * x
  | rec2020 =>
    (p.times ⟨1.7166511879712674, -0.35567078377639233, -0.25336628137365974, 1⟩
      ⟨-0.6666843518324892, 1.6164812366349395, 0.01576854581391113, 1⟩
      ⟨0.017639857445310783, -0.042770613257808524, 0.9421031212354738, 1⟩).map fun x =>
        if 0.018053968510807 < x.abs then
          withSign x (1.09929682680944 * Float32.pow x.abs 0.45 - (1.09929682680944 - 1))
        else 4.5 * x
  | xyzD50 =>
    p.times ⟨1.0479298208405488, 0.022946793341019088, -0.05019222954313557, 1⟩
      ⟨0.029627815688159344, 0.990434484573249, -0.01707382502938514, 1⟩
      ⟨-0.009243058152591178, 0.015055144896577895, 0.7518742899580008, 1⟩
  | xyzD65 => p
  | lab => labOfXyz p
  | lch => polar p
  | oklab =>
    ((p.times ⟨0.8190224432164319, 0.3619062562801221, -0.12887378261216414, 1⟩
        ⟨0.0329836671980271, 0.9292868468965546, 0.03614466816999844, 1⟩
        ⟨0.048177199566046255, 0.26423952494422764, 0.6335478258136937, 1⟩).map
      Float32.cbrt).times ⟨0.2104542553, 0.7936177850, -0.0040720468, 1⟩
      ⟨1.9779984951, -2.4285922050, 0.4505937099, 1⟩
      ⟨0.0259040371, 0.7827717662, -0.8086757660, 1⟩
  | oklch => polar p

/-- Carrying a point to another space, given how many steps there are at most. -/
def carry : Nat → Space → Space → Point → Point
  | 0, _, _, p => p
  | steps + 1, s, t, p =>
    if s = t then p
    else if t.level ≤ s.level then
      match s.parent? with
      | some above => carry steps above t (s.toParent p.closed)
      | none => p
    else
      match t.parent? with
      | some above => t.ofParent (carry steps s above p).closed
      | none => p

/-- The names of the coordinates of a space. -/
def names : Space → Text × Text × Text
  | hsl => (['h'], ['s'], ['l'])
  | hwb => (['h'], ['w'], ['b'])
  | lab => (['l'], ['a'], ['b'])
  | oklab => (['l'], ['a'], ['b'])
  | lch => (['l'], ['c'], ['h'])
  | oklch => (['l'], ['c'], ['h'])
  | xyzD50 => (['x'], ['y'], ['z'])
  | xyzD65 => (['x'], ['y'], ['z'])
  | _ => (['r'], ['g'], ['b'])

end Space

namespace Point

/-- A point in another space. -/
def convert (s t : Space) (p : Point) : Point :=
  Space.carry 8 s t p

/-- Whether a coordinate lies between zero and one. -/
def isUnit (x : Float32) : Bool :=
  decide (0 ≤ x) && decide (x ≤ 1)

/-- Whether a point can be shown in a space, if the space is bounded. -/
def inGamut (s : Space) (p : Point) : Bool :=
  match s with
  | .rgb => isUnit p.a && isUnit p.b && isUnit p.c
  | .rgbLinear => isUnit p.a && isUnit p.b && isUnit p.c
  | .displayP3 => isUnit p.a && isUnit p.b && isUnit p.c
  | .a98 => isUnit p.a && isUnit p.b && isUnit p.c
  | .prophoto => isUnit p.a && isUnit p.b && isUnit p.c
  | .rec2020 => isUnit p.a && isUnit p.b && isUnit p.c
  | .hsl => isUnit p.b && isUnit p.c
  | .hwb => isUnit p.b && isUnit p.c
  | _ => true

/-- The point with its bounded coordinates cut off at their bounds. -/
def clip (s : Space) (p : Point) : Point :=
  match s with
  | .hsl => { p with b := clampUnit p.b, c := clampUnit p.c }
  | .hwb => { p with b := clampUnit p.b, c := clampUnit p.c }
  | _ => p.map clampUnit

/-- The visible difference between a point of a space and a point by lightness, chroma
    and hue. -/
def difference (s : Space) (p q : Point) : Float32 :=
  let p := p.convert s .oklab
  let q := q.convert .oklch .oklab
  let square (x : Float32) : Float32 := x * x
  (square (p.a - q.a) + square (p.b - q.b) + square (p.c - q.c)).sqrt

/-- The search for the greatest chroma between two bounds that can be shown. -/
def searchChroma (s : Space) : Nat → Float32 → Float32 → Point → Point
  | 0, _, _, p => p.convert .oklch s
  | steps + 1, low, high, p =>
    if high - low ≤ 0.00001 then p.convert .oklch s
    else
      let chroma := (low + high) / 2
      let p := { p with b := chroma }
      let shown := p.convert .oklch s
      if shown.inGamut s then searchChroma s steps chroma high p
      else
        let clipped := shown.clip s
        if difference s clipped p < 0.02 then clipped else searchChroma s steps low chroma p

/-- The point that is closest to the eye among those that can be shown. -/
def intoGamut (s : Space) (p : Point) : Point :=
  if p.inGamut s then p
  else
    let q := p.convert s .oklch
    if (q.a - 1).abs < 0.00001 || decide (1 < q.a) then
      convert .oklch s { q with a := 1, b := 0, c := 0 }
    else if q.a < 0.00001 then convert .oklch s { q with a := 0, b := 0, c := 0 }
    else searchChroma s 100 0 q.b q

/-- The point with those coordinates left open that have no effect. -/
def withoutPowerless (s : Space) (p : Point) : Point :=
  let isTiny (x : Float32) : Bool := x.abs < tiny
  match s with
  | .lab => if isTiny p.a then { p with b := openPart, c := openPart } else p
  | .oklab => if isTiny p.a then { p with b := openPart, c := openPart } else p
  | .lch => polarPowerless isTiny p
  | .oklch => polarPowerless isTiny p
  | .hsl =>
    if isTiny p.c || isTiny (p.c - 1) then { p with a := openPart, b := openPart }
    else if isTiny p.b then { p with a := openPart }
    else p
  | .hwb => if isTiny (p.b + p.c - 1) then { p with a := openPart } else p
  | _ => p
where
  /-- Without lightness there is no chroma, and without chroma no hue. -/
  polarPowerless (isTiny : Float32 → Bool) (p : Point) : Point :=
    if isTiny p.a then { p with b := openPart, c := openPart }
    else if isTiny p.b then { p with c := openPart }
    else p

/-- The point with what it leaves open taken from another one. -/
def fill (p q : Point) : Point :=
  let choose (x y : Float32) : Float32 := if x.isNaN then y else x
  ⟨choose p.a q.a, choose p.b q.b, choose p.c q.c, choose p.alpha q.alpha⟩

/-- The coordinates of a space other than its hue multiplied by a number. -/
def scale (s : Space) (f : Float32 → Float32) (p : Point) : Point :=
  match s with
  | .hsl => { p with b := f p.b, c := f p.c }
  | .hwb => { p with b := f p.b, c := f p.c }
  | .lch => { p with a := f p.a, b := f p.b }
  | .oklch => { p with a := f p.a, b := f p.b }
  | _ => p.map f

end Point

/-- The ways around the circle from one hue to another one. -/
inductive HuePath where
  | shorter
  | longer
  | increasing
  | decreasing
  | specified
  deriving DecidableEq, Repr

namespace HuePath

/-- The words for the ways around the circle. -/
def names : List (Text × HuePath) := [
  ("shorter".toList, shorter), ("longer".toList, longer), ("increasing".toList, increasing),
  ("decreasing".toList, decreasing), ("specified".toList, specified)]

/-- Two hues such that the way between them is the straight one. -/
def unwind (path : HuePath) (x y : Float32) : Float32 × Float32 :=
  let d := y - x
  match path with
  | shorter => if 180 < d then (x + 360, y) else if d < -180 then (x, y + 360) else (x, y)
  | longer =>
    if 0 < d ∧ d < 180 then (x + 360, y)
    else if -180 < d ∧ d ≤ 0 then (x, y + 360)
    else (x, y)
  | increasing => if y < x then (x, y + 360) else (x, y)
  | decreasing => if x < y then (x + 360, y) else (x, y)
  | specified => (x, y)

end HuePath

/-- Two points of a space with the way between their hues straight. -/
def unwindHues (s : Space) (path : HuePath) (p q : Point) : Point × Point :=
  let first := path.unwind p.a q.a
  let last := path.unwind p.c q.c
  match s with
  | .hsl => ({ p with a := first.1 }, { q with a := first.2 })
  | .hwb => ({ p with a := first.1 }, { q with a := first.2 })
  | .lch => ({ p with c := last.1 }, { q with c := last.2 })
  | .oklch => ({ p with c := last.1 }, { q with c := last.2 })
  | _ => (p, q)

/-- A point that takes part in a mixture in a space, given the space it comes from. -/
def mixable (from' s : Space) (p : Point) : Point :=
  if from' = s then p else ((p.convert from' s).intoGamut s).withoutPowerless s

/-- The mixture of two points of a space in given parts, which may add up to more or less
    than one. -/
def mix (s : Space) (path : HuePath) (x y : Float32) (p q : Point) : Point :=
  let (p, q) := (p.fill q, q.fill p)
  let (p, q) := unwindHues s path p q
  let faded (p : Point) : Point :=
    if p.alpha.isNaN then p else p.scale s (· * p.alpha)
  let (p, q) := (faded p, faded q)
  let total := x + y
  let (x, y) := if total == 1 then (x, y) else (x / total, y / total)
  let between (u v : Float32) : Float32 := u * x + v * y
  let r : Point :=
    ⟨between p.a q.a, between p.b q.b, between p.c q.c, between p.alpha q.alpha⟩
  if r.alpha.isNaN || r.alpha == 0 then r
  else
    let shown := r.scale s (· / r.alpha)
    { shown with alpha := r.alpha * if 1 < total then 1 else total }

end Css

end ResponsiveImages
