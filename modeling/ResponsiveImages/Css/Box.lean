import ResponsiveImages.Css.Image

/-!
# Boxes

Values that shape the box of an element: its size, its sides and corners, its
border, and how it takes part in the layout of the page. Values that are
implied by others are left out: of four sides those that are the same as the
opposite one, of a border the parts that are as they would be anyway.

## Main definitions

* `shortenSides`, `shortenPair`: Sides without those that are implied.
* `Reader.sides`, `Reader.pair`, `Reader.corners`: Values for several sides.
* `Reader.size`, `Reader.ratio`: Sizes.
* `Reader.border`: A border or an outline.
* `Reader.display`: How an element is laid out.
-/

namespace ResponsiveImages

namespace Css

open Text

/-- The sides of a box without those that are implied by others. -/
def shortenSides : List Atom → Option (List Atom)
  | [a] => some [a]
  | [a, b] => some (if a == b then [a] else [a, b])
  | [a, b, c] => some (if a == c then if a == b then [a] else [a, b] else [a, b, c])
  | [a, b, c, d] =>
    some
      (if b == d then if a == c then if a == b then [a] else [a, b] else [a, b, c]
      else [a, b, c, d])
  | _ => none

/-- Two values without the second one if it is the same as the first one. -/
def shortenPair (a b : List Atom) : List Atom :=
  if a == b then a else a ++ b

/-- The word for what is left to be computed. -/
def auto : Text :=
  "auto".toList

/-- The word for nothing. -/
def noWord : Text :=
  "none".toList

/-- The outer and the inner side of how an element is laid out. -/
structure Display where
  outside : Text
  inside : Text
  listItem : Bool

namespace Reader

/-- Values for up to four sides of a box. -/
def sides (r : Reader Atom) : Reader (List Atom) := do
  match shortenSides (← upTo r 4) with
  | some atoms => return atoms
  | none => failure

/-- One or two values. -/
def pair (r : Reader (List Atom)) : Reader (List Atom) := do
  let a ← r
  return shortenPair a ((← maybe r).getD a)

/-- One or two atoms. -/
def pairOf (r : Reader Atom) : Reader (List Atom) :=
  pair (return [← r])

/-- The words for the size of a box that comes from its content or its surroundings. -/
def sizeWords : List Text :=
  splitLines [
    "min-content max-content fit-content stretch contain -webkit-min-content",
    "-moz-min-content -webkit-max-content -moz-max-content -webkit-fit-content",
    "-moz-fit-content -webkit-fill-available -moz-available"]

/-- A size from the content, with a limit. -/
def limitedSize : Reader Atom :=
  call ["fit-content".toList] fun name => return .function name [[← sizing]]

/-- The size of a box, or the given word. -/
def size (w : Text) : Reader Atom :=
  first [keyword (w :: sizeWords), limitedSize, sizing]

/-- The ratio of two numbers. -/
def ratio : Reader (List Atom) := do
  let a ← number
  match ← maybe (do slash; number) with
  | some b => return if b == 1 then [.number a] else [.number a, .slash, .number b]
  | none => return [.number a]

/-- The ratio of the sides of a box. -/
def aspectRatio : Reader (List Atom) := do
  match ← someInAnyOrder [return [← keyword [auto]], ratio] with
  | [computed, fixed] => return computed.getD [] ++ fixed.getD []
  | _ => failure

/-- The words for the width of a line. -/
def lineWidth : Reader Atom :=
  keywordIn "thin medium thick" <|> length

/-- The words for the style of a line. -/
def lineStyle : Reader Atom :=
  keywordIn "none hidden inset groove outset ridge dotted dashed solid double"

/-- The words for the style of an outline. -/
def outlineStyle : Reader Atom :=
  keyword [auto] <|> lineStyle

/-- A border: its width, its style and its color. -/
def border (style : Reader Atom) : Reader (List Atom) := do
  match ← someInAnyOrder [lineWidth, style, color] with
  | [width, style, color] =>
    let shown :=
      (width.filter (· != .keyword "medium".toList)).toList
        ++ (style.filter (· != .keyword noWord)).toList
        ++ (color.filter (· != .color .current)).toList
    return if shown.isEmpty then [.keyword noWord] else shown
  | _ => failure

/-- The radii of the corners of a box, the horizontal ones and, behind a slash, the
    vertical ones. -/
def corners : Reader (List Atom) := do
  let widths ← sides sizing
  match ← maybe (do slash; sides sizing) with
  | some heights => return if widths == heights then widths else widths ++ .slash :: heights
  | none => return widths

/-- The words for how an element is laid out that stand alone. -/
def displayWord : Reader Atom :=
  keyword <| splitLines [
    "none contents table-row-group table-header-group table-footer-group table-row",
    "table-cell table-column-group table-column table-caption ruby-base ruby-text",
    "ruby-base-container ruby-text-container"]

/-- The short words for an inner side inside a line. -/
def inlineWords : List (Text × Text) := [
  ("inline-block".toList, "flow-root".toList),
  ("inline-table".toList, "table".toList),
  ("inline-flex".toList, "flex".toList),
  ("-webkit-inline-flex".toList, "-webkit-flex".toList),
  ("-ms-inline-flexbox".toList, "-ms-flexbox".toList),
  ("-webkit-inline-box".toList, "-webkit-box".toList),
  ("-moz-inline-box".toList, "-moz-box".toList),
  ("inline-grid".toList, "grid".toList)]

/-- The words for the inner side. -/
def insideWords : List Text :=
  splitWords "flow flow-root table flex -webkit-flex -ms-flexbox -webkit-box -moz-box grid ruby"

/-- The inner side that a list item has to have. -/
def itemInsides : List Text :=
  splitWords "flow flow-root"

/-- The outer side that an inner side has unless it says otherwise. -/
def usualOutside (inside : Text) : Text :=
  if inside == "ruby".toList then "inline".toList else "block".toList

/-- The word for a list item. -/
def itemWord : Text :=
  "list-item".toList

/-- The words for the outer side. -/
def outsideWords : List Text :=
  splitWords "block inline run-in"

/-- The two sides of how an element is laid out. Only the word for a list item may be
    repeated. -/
def displaySides : Reader Display := do
  let given ← some1 (oneOf (itemWord :: outsideWords ++ insideWords))
  let outsides := given.filter outsideWords.contains
  let insides := given.filter insideWords.contains
  let inside := insides.head?.getD "flow".toList
  let listItem := given.contains itemWord
  if 1 < outsides.length || 1 < insides.length then failure
  else if listItem && !itemInsides.contains inside then failure
  else return ⟨outsides.head?.getD (usualOutside inside), inside, listItem⟩

/-- The two sides of how an element is laid out, by one short word. -/
def inlineDisplay : Reader Display := do
  match inlineWords.lookup (lower (← ident)) with
  | some inside => return ⟨"inline".toList, inside, false⟩
  | none => failure

/-- The two sides of how an element is laid out, with as few words as possible. -/
def displayAtoms (d : Display) : List Atom :=
  let short := inlineWords.find? fun w =>
    d.outside == "inline".toList && !d.listItem && w.2 == d.inside
  match short with
  | some (w, _) => [.keyword w]
  | none =>
    let flow := d.inside == "flow".toList
    let outside := d.outside != usualOutside d.inside || (flow && !d.listItem)
    (if outside then [.keyword d.outside] else [])
      ++ (if flow then [] else [.keyword d.inside])
      ++ (if d.listItem then [.keyword itemWord] else [])

/-- How an element is laid out. -/
def display : Reader (List Atom) :=
  (displayAtoms <$> (displaySides <|> inlineDisplay)) <|> (return [← displayWord])

end Reader

end Css

end ResponsiveImages
