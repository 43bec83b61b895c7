import ResponsiveImages.Css.Atom
import ResponsiveImages.Css.ColorReading

/-!
# Reading Atoms

The readers of the parts that the values of many properties have in common:
keywords, lengths, percentages, angles, times and colors.

## Main definitions

* `Reader.keyword`, `Reader.keywordIn`: Readers of keywords.
* `Reader.length`, `Reader.sizing`, `Reader.angle`, …: Readers of quantities.
* `Reader.color`: The reader of colors.
-/

namespace ResponsiveImages

namespace Css

namespace Reader

/-- One of some keywords. -/
def keyword (ks : List Text) : Reader Atom :=
  Atom.keyword <$> oneOf ks

/-- One of the keywords in a text. -/
def keywordIn (s : String) : Reader Atom :=
  keyword (splitWords s)

/-- A calculation of the given terms. -/
def calculated (terms : Terms) : Reader Atom :=
  Atom.ofCalculation <$> calculation terms

/-- A number that counts pixels. -/
def pixelCount : Reader Atom :=
  .pixels <$> plainNumber

/-- A length. -/
def length : Reader Atom :=
  first [calculated (.quantities .length), .quantity <$> plainQuantity .length, pixelCount]

/-- A length or a percentage. -/
def sizing : Reader Atom :=
  first [calculated (.measures .length), .quantity <$> plainQuantity .length, pixelCount,
    .percentage <$> share]

/-- A length, a percentage or the keyword for a computed one. -/
def sizingOrAuto : Reader Atom :=
  keywordIn "auto" <|> sizing

/-- An angle. -/
def angle : Reader Atom :=
  .quantity <$> quantity .angle

/-- An angle, which may be a zero without a unit. -/
def angleOrZero : Reader Atom := do
  match ← maybe angle with
  | some a => return a
  | none =>
    let x ← plainNumber
    if x == 0 then return .quantity ⟨.angle, 0, "deg".toList⟩ else failure

/-- A time. -/
def time : Reader Atom :=
  .quantity <$> quantity .time

/-- A color. -/
def plainColor : Reader Color :=
  one Color.ofComponent?

/-- A color as an atom. -/
def color : Reader Atom :=
  .color <$> plainColor

/-- A number, or a percentage as it is. -/
def numberOrShare : Reader Atom :=
  (.number <$> number) <|> (.percentage <$> share)

end Reader

end Css

end ResponsiveImages
