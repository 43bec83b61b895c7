import ResponsiveImages.Css.ColorNames
import ResponsiveImages.Css.ColorSpace
import ResponsiveImages.Css.Numeral
import ResponsiveImages.Css.Writing

/-!
# Colors

A color that has red, green and blue parts is written in the shortest form: by
name if a name is shorter than the digits, by one digit for each part if that
says the same, and by two otherwise. The colors of the other spaces are
written as functions, with a word for a coordinate that is left open.

Digits for the opacity are younger than the rest. In the compact layout a
color that is not opaque is written as a function, with as many decimals as
tell its opacity from its neighbours, or as a keyword if it is black and
fully transparent.

A pair of colors for light and dark pages is younger still. In the compact
layout it is written as two references to properties of which one is empty.

## Main definitions

* `Rgba`: The parts of a color.
* `Color`: A color.
* `Color.ofHex?`, `Color.ofName?`: Reading colors without a function.
* `Color.point?`, `Color.ofPoint`: Colors as points of a space.
* `Color.mix?`: The mixture of two colors.
* `Color.text`: A color as it is written.
-/

namespace ResponsiveImages

namespace Css

open Text

/-- The parts of a color. -/
structure Rgba where
  red : UInt8
  green : UInt8
  blue : UInt8
  alpha : UInt8 := 255
  deriving DecidableEq, Repr

/-- A color. -/
inductive Color where
  /-- The color of the text. -/
  | current
  | rgba (c : Rgba)
  /-- A system color. -/
  | system (name : Text)
  | point (space : Space) (p : Point)
  /-- A point with the name of its space in front of it. -/
  | profiled (space : Space) (p : Point)
  /-- A color for light pages and one for dark pages. -/
  | schemes (light dark : Color)
  deriving BEq

/-- An entry of the table of colors. -/
def colorOfEntry (entry : Text) : Text × Rgba :=
  let n := hexNumber ((entry.dropWhile (· != ':')).drop 1)
  (entry.takeWhile (· != ':'),
    { red := (n / 65536).toUInt8, green := (n / 256).toUInt8, blue := n.toUInt8 })

/-- The names of colors with their parts. -/
def colorNames : List (Text × Rgba) :=
  (colorEntries.flatMap fun line => words line.toList).map colorOfEntry

/-- The names of system colors. -/
def systemColors : List Text :=
  systemColorNames.flatMap fun line => words line.toList

namespace Rgba

/-- Black with no opacity. -/
def transparent : Rgba where
  red := 0
  green := 0
  blue := 0
  alpha := 0

/-- A part between zero and one as a byte. -/
def byteOfUnit (x : Float32) : UInt8 :=
  (closed x * 255).round.toUInt8

/-- A byte as a part between zero and one. -/
def unitOfByte (x : UInt8) : Float32 :=
  x.toNat.toFloat32 / 255

/-- The point of a color. -/
def toPoint (c : Rgba) : Point :=
  ⟨unitOfByte c.red, unitOfByte c.green, unitOfByte c.blue, unitOfByte c.alpha⟩

/-- The color of a point of a space, or the one next to it that can be shown. -/
def ofPoint (s : Space) (p : Point) : Rgba :=
  let shown := (p.convert s .rgb).closed.intoGamut .rgb
  ⟨byteOfUnit shown.a, byteOfUnit shown.b, byteOfUnit shown.c, byteOfUnit shown.alpha⟩

end Rgba

namespace Color

/-- Black with no opacity. -/
def transparent : Color :=
  rgba .transparent

/-- The color of three, four, six or eight hexadecimal digits. -/
def ofHex? (digits : Text) : Option Rgba :=
  if !digits.all isHex then none
  else
    match digits.map fun d => (hexValue d).toUInt8 with
    | [r, g, b] => some ⟨17 * r, 17 * g, 17 * b, 255⟩
    | [r, g, b, a] => some ⟨17 * r, 17 * g, 17 * b, 17 * a⟩
    | [r, r', g, g', b, b'] => some ⟨16 * r + r', 16 * g + g', 16 * b + b', 255⟩
    | [r, r', g, g', b, b', a, a'] =>
      some ⟨16 * r + r', 16 * g + g', 16 * b + b', 16 * a + a'⟩
    | _ => none

/-- The color of a name. -/
def ofName? (name : Text) : Option Color :=
  let name := lower name
  if name == "currentcolor".toList then some current
  else if name == "transparent".toList then some transparent
  else
    match colorNames.lookup name with
    | some c => some (rgba c)
    | none => if systemColors.contains name then some (system name) else none

/-- The point of a color, if it is known. -/
def point? : Color → Option (Space × Point)
  | rgba c => some (.rgb, c.toPoint)
  | point s p => some (s, p)
  | profiled s p => some (s, p)
  | _ => none

/-- The spaces whose points are given by red, green and blue parts. -/
def isRgb (s : Space) : Bool :=
  s = .rgb || s = .hsl || s = .hwb

/-- The color of a point of a space. -/
def ofPoint (s : Space) (p : Point) : Color :=
  if isRgb s then rgba (Rgba.ofPoint s p) else point s p

/-- The color of a point of a space that may be left open in part. -/
def ofParts (s : Space) (p : Point) : Color :=
  if p.a.isNaN || p.b.isNaN || p.c.isNaN || p.alpha.isNaN then point s p else ofPoint s p

/-- The mixture of two colors in a space, each with its part of it. -/
def mixOne? (s : Space) (path : HuePath) (x y : Float32) (c d : Color) : Option Color :=
  match c.point?, d.point? with
  | some (s₁, p), some (s₂, q) =>
    some (ofPoint s (mix s path x y (mixable s₁ s p) (mixable s₂ s q)))
  | _, _ => none

/-- What is made of two colors, for light and dark pages if one of them is. -/
def combine? (f : Color → Color → Option Color) (c d : Color) : Option Color :=
  match c, d with
  | current, _ => none
  | _, current => none
  | schemes l₁ d₁, schemes l₂ d₂ => both (f l₁ l₂) (f d₁ d₂)
  | schemes l₁ d₁, d => both (f l₁ d) (f d₁ d)
  | c, schemes l₂ d₂ => both (f c l₂) (f c d₂)
  | c, d => f c d
where
  /-- A pair of colors, if there are both of them. -/
  both : Option Color → Option Color → Option Color
    | some l, some d => some (schemes l d)
    | _, _ => none

/-- The mixture of two colors in a space, each with its part of it. -/
def mix? (s : Space) (path : HuePath) (x y : Float32) : Color → Color → Option Color :=
  combine? (mixOne? s path x y)

/-- A byte as two hexadecimal digits. -/
def hexByte (x : UInt8) : Text :=
  [Nat.digitChar (x.toNat / 16), Nat.digitChar (x.toNat % 16)]

/-- Bytes as hexadecimal digits, one for each if that is enough. -/
def hexText (bytes : List UInt8) : Text :=
  if bytes.all fun x => x.toNat % 17 = 0 then
    '#' :: bytes.map fun x => Nat.digitChar (x.toNat / 17)
  else '#' :: bytes.flatMap hexByte

/-- The opacity of a byte with as few decimals as read back. -/
def opacityText (alpha : UInt8) : Text :=
  let x : Float32 := alpha.toNat.toFloat32 / 255
  let rounded := (x * 100).round / 100
  numberText (if Rgba.byteOfUnit rounded = alpha then rounded else (x * 1000).round / 1000)

/-- An opaque color: its name if that is shorter than its digits. -/
def opaqueText (c : Rgba) : Text :=
  let hex := hexText [c.red, c.green, c.blue]
  match colorNames.find? fun entry => entry.2 == c with
  | some (name, _) => if name.length < hex.length then name else hex
  | none => hex

/-- A color of red, green and blue parts. -/
def rgbaText (layout : Layout) (c : Rgba) : Text :=
  if c.alpha = 255 then opaqueText c
  else
    match layout with
    | .ordinary => hexText [c.red, c.green, c.blue, c.alpha]
    | .compact =>
      if c = .transparent then "transparent".toList
      else
        "rgba(".toList
          ++ joinWith [',']
            ([c.red, c.green, c.blue].map (decimal ·.toNat) ++ [opacityText c.alpha])
          ++ [')']

/-- The name of a space, in front of its parts. -/
def spaceName : Space → Text
  | .rgb => "srgb".toList
  | .hsl => "hsl".toList
  | .hwb => "hwb".toList
  | .rgbLinear => "srgb-linear".toList
  | .displayP3 => "display-p3".toList
  | .a98 => "a98-rgb".toList
  | .prophoto => "prophoto-rgb".toList
  | .rec2020 => "rec2020".toList
  | .xyzD50 => "xyz-d50".toList
  | .xyzD65 => "xyz".toList
  | .lab => "lab".toList
  | .lch => "lch".toList
  | .oklab => "oklab".toList
  | .oklch => "oklch".toList

/-- Whether the points of a space are written with a function of their own. -/
def hasFunction (s : Space) : Bool :=
  s = .lab || s = .lch || s = .oklab || s = .oklch

/-- A part as it is written, which may be left open. -/
def openText (write : Float32 → Text) (x : Float32) : Text :=
  if x.isNaN then "none".toList else write x

/-- The opacity behind the other parts, if there is less than a full one. -/
def opacityPart (layout : Layout) (alpha : Float32) : Text :=
  if alpha.isNaN || tiny < (alpha - 1).abs then
    layout.operator '/' ++ openText numberText alpha
  else []

/-- A point of a space as it is written. -/
def pointText (layout : Layout) (s : Space) (p : Point) : Text :=
  let parts (first : Float32 → Text) : List Text :=
    [openText first p.a, openText numberText p.b, openText numberText p.c]
  let inner := if hasFunction s then parts percentText else spaceName s :: parts numberText
  let name := if hasFunction s then spaceName s else "color".toList
  name ++ '(' :: joinWith [' '] inner ++ opacityPart layout p.alpha ++ [')']

/-- A value for light pages and one for dark pages. -/
def schemesText (layout : Layout) (light dark : Text) : Text :=
  match layout with
  | .ordinary => "light-dark(".toList ++ light ++ ", ".toList ++ dark ++ [')']
  | .compact =>
    "var(--lightningcss-light,".toList ++ light
      ++ ")var(--lightningcss-dark,".toList ++ dark ++ [')']

/-- A color as it is written. -/
def text (layout : Layout) : Color → Text
  | current => "currentColor".toList
  | rgba c => rgbaText layout c
  | system name => name
  | point s p => if isRgb s then rgbaText layout (Rgba.ofPoint s p) else pointText layout s p
  | profiled s p => pointText layout s p
  | schemes light dark => schemesText layout (light.text layout) (dark.text layout)

end Color

end Css

end ResponsiveImages
