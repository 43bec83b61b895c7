import ResponsiveImages.Css.Alignment
import ResponsiveImages.Css.Background
import ResponsiveImages.Css.GridTemplate
import ResponsiveImages.Css.Motion
import ResponsiveImages.Css.Shape

/-!
# Properties

A property has a name, possibly with the mark of a vendor in front of it, and
a reader of its values. Names and marks are known in any case.

The value of most properties is a single layer, and often a single atom. Some
take several layers between commas.

## Main definitions

* `Vendor`: The vendors with properties of their own.
* `Property`: A property with the reader of its values.
* `Property.named`: Properties whose values are read the same way.
* `PropertyName`: A name without its mark.
* `Reader.oneLayer`, `Reader.oneAtom`, `Reader.layers`, `Reader.atoms`: Values by
  their layers.
-/

namespace ResponsiveImages

namespace Css

open Text

/-- The vendors with properties of their own. -/
inductive Vendor where
  | webkit
  | moz
  | ms
  | o
  deriving DecidableEq, Repr

namespace Vendor

/-- The mark in front of a name. -/
def mark : Vendor → Text
  | webkit => "-webkit-".toList
  | moz => "-moz-".toList
  | ms => "-ms-".toList
  | o => "-o-".toList

/-- All vendors. -/
def all : List Vendor :=
  [webkit, moz, ms, o]

/-- The vendor whose mark a name begins with in any case, and the name behind it. -/
def split (name : Text) : Option Vendor × Text :=
  (all.findSome? fun v =>
    if (afterPrefix? v.mark (lower name)).isSome then some (some v, name.drop v.mark.length)
    else none).getD (none, name)

end Vendor

/-- A property with the reader of its values. -/
structure Property where
  name : Text
  /-- The vendors whose marks may stand in front of the name, and `none` if it may stand
      alone. -/
  vendors : List (Option Vendor)
  reader : Reader Layers

namespace Property

/-- The properties named in a text, which may also carry the marks of some vendors. -/
def named (names : String) (vendors : List Vendor) (reader : Reader Layers) : List Property :=
  (Reader.splitWords names).map fun name => ⟨name, none :: vendors.map some, reader⟩

/-- The properties named in a text, which have to carry the mark of a vendor. -/
def marked (names : String) (vendors : List Vendor) (reader : Reader Layers) : List Property :=
  (Reader.splitWords names).map fun name => ⟨name, vendors.map some, reader⟩

/-- Whether the property goes by a name. -/
def goesBy (vendor : Option Vendor) (name : Text) (p : Property) : Bool :=
  p.name == name && p.vendors.contains vendor

/-- The one among some properties with a name. -/
def find? (properties : List Property) (name : Text) : Option Property :=
  let (vendor, rest) := Vendor.split name
  properties.find? (goesBy vendor (lower rest))

end Property

namespace Reader

/-- A value of one layer. -/
def oneLayer (r : Reader (List Atom)) : Reader Layers :=
  return [← r]

/-- A value of one atom. -/
def oneAtom (r : Reader Atom) : Reader Layers :=
  return [[← r]]

/-- A value of one layer for each piece between commas. -/
def layers (r : Reader (List Atom)) : Reader Layers :=
  commas r

/-- A value of one atom for each piece between commas. -/
def atoms (r : Reader Atom) : Reader Layers :=
  commas (return [← r])

/-- A value that is one of the keywords in a text. -/
def oneWord (s : String) : Reader Layers :=
  oneAtom (keywordIn s)

/-- A number as an atom. -/
def numberAtom : Reader Atom :=
  .number <$> number

/-- An integer as an atom. -/
def integerAtom : Reader Atom :=
  .integer <$> integer

/-- An opacity. -/
def opacity : Reader Atom :=
  .number <$> factor

/-- A color, or the word for a computed one. -/
def colorOrAuto : Reader Atom :=
  keyword [auto] <|> color

/-- A number, or else a length. -/
def numberOrLength : Reader Atom :=
  numberAtom <|> length

/-- The words for what happens to content that does not fit. -/
def overflow : Reader Atom :=
  keywordIn "visible hidden clip scroll auto"

/-- A place on one axis. -/
def place (axis : Axis) : Reader (List Atom) :=
  (Place.atoms axis) <$> Place.read axis

/-- A place in a box. -/
def position : Reader (List Atom) :=
  Position.atoms <$> Position.read

/-- Images for a pointer, each with the place it points at, and the word for one if
    none of them can be shown. -/
def cursor : Reader Layers := do
  let pictures ← many do
    let picture ← url
    let spot ← maybe (do return [.number (← number), .number (← number)])
    comma
    return .url picture :: spot.getD []
  return pictures ++ [[← keyword cursorWords]]
where
  /-- The words for pointers. -/
  cursorWords : List Text := splitLines [
    "auto default none context-menu help pointer progress wait cell crosshair text",
    "vertical-text alias copy move no-drop not-allowed grab grabbing e-resize n-resize",
    "ne-resize nw-resize s-resize se-resize sw-resize w-resize ew-resize ns-resize",
    "nesw-resize nwse-resize col-resize row-resize all-scroll zoom-in zoom-out"]

/-- The color and the shape of the mark where text is entered. -/
def caret : Reader (List Atom) := do
  match ← inAnyOrder [colorOrAuto, keywordIn "auto bar block underscore"] with
  | [tint, shape] =>
    let usual : Atom := .keyword auto
    let said := beyond [usual] [tint.getD usual] ++ beyond [usual] [shape.getD usual]
    return if said.isEmpty then [usual] else said
  | _ => failure

/-- How a control looks. A word that is not known keeps its case. -/
def appearance : Reader Atom :=
  first [
    keyword <| splitLines [
      "none auto textfield menulist-button button checkbox listbox menulist meter",
      "progress-bar push-button radio searchfield slider-horizontal square-button textarea"],
    .keyword <$> ident]

/-- The paint of a shape: an address with a color in its place, a color, or a word. -/
def paint : Reader (List Atom) :=
  first [
    do
      let address ← url
      return .url address :: (← maybe (keywordIn "none" <|> color)).toList,
    do return [← color],
    do return [← keywordIn "none context-fill context-stroke"]]

/-- The dashes of a line. Lengths in pixels need no unit. -/
def dashes : Reader (List Atom) :=
  first [
    do return [← keyword [noWord]],
    do return ((← sizing) :: (← many dash)).map bare]
where
  /-- The length of a further dash, possibly with a comma in front of it. -/
  dash : Reader Atom := do
    let _ ← maybe comma
    sizing
  /-- A length in pixels as a number. -/
  bare : Atom → Atom
    | .quantity q => if q.unit == pixelUnit then .number q.value else .quantity q
    | a => a

/-- An address or the word for none. -/
def urlOrNone : Reader Atom :=
  keyword [noWord] <|> (.url <$> url)

/-- The schemes of colors that a page supports. The word that there are no others stands at the
    end, behind a space. -/
def colorScheme : Reader (List Atom) := do
  let names := (← some1 ident).map lower
  let has (w : String) : Bool := names.contains w.toList
  if has "normal" then
    if names.length = 1 then return [.keyword normalWord] else failure
  else if names.count "only".toList > 1 then failure
  else if has "only" && names.head? != some "only".toList
      && names.getLast? != some "only".toList then failure
  else
    let schemes := (splitWords "light dark").filter names.contains
    let nothing : List Text := if has "only" then [[]] else [normalWord]
    let shown := if schemes.isEmpty then nothing else schemes
    return (shown ++ if has "only" then ["only".toList] else []).map Atom.keyword

/-- A name of a container. -/
def containerName : Reader Text := do
  let name ← customName
  if (splitWords "none and not or").contains (lower name) then failure else return name

/-- The names of a container. -/
def containerNames : Reader (List Atom) :=
  first [
    do return [← keyword [noWord]],
    do return (← some1 containerName).map Atom.name]

/-- Names that an author has chosen. -/
def customNames : Reader (List Atom) :=
  return (← some1 customName).map Atom.name

/-- The words for the type of a container. -/
def containerType : Reader Atom :=
  keywordIn "normal inline-size size"

/-- A container: its names and, behind a slash, its type. -/
def container : Reader (List Atom) := do
  let names ← containerNames
  match ← maybe (do slash; containerType) with
  | some type => return if type == .keyword normalWord then names else names ++ [.slash, type]
  | none => return names

/-- The thickness of the slices of a border image. -/
def slices : Reader (List Atom) := do
  let before ← maybe (keywordIn "fill")
  let offsets ← sides numberOrShare
  let behind ← maybe (if before.isNone then keywordIn "fill" else failure)
  return offsets ++ (before <|> behind).toList

/-- The widths of the sides of a border image. -/
def sliceWidths : Reader (List Atom) :=
  sides (numberAtom <|> sizingOrAuto)

/-- The words for how the slices of a border image fill its sides. -/
def sliceFilling : Reader (List Atom) :=
  pairOf (keywordIn "stretch repeat round space")

/-- The slices of a border image and, behind slashes, how wide its sides are and how far
    it reaches beyond its box. -/
def slicing : Reader (List Atom) := do
  let offsets ← slices
  let further ← maybe do
    slash
    let widths ← maybe sliceWidths
    let reach ← maybe do
      slash
      sides numberOrLength
    if widths.isNone && reach.isNone then failure else return (widths, reach)
  let (widths, reach) := further.getD (none, none)
  let widths := beyond [.number 1] (widths.getD [.number 1])
  let reach := beyond [.number 0] (reach.getD [.number 0])
  match widths, reach with
  | [], [] => return beyond [.percentage 1] offsets
  | _, [] => return offsets ++ .slash :: widths
  | [], _ => return offsets ++ [.slash, .keyword [], .slash] ++ reach
  | _, _ => return offsets ++ .slash :: widths ++ .slash :: reach

/-- An image for a border, with how it is cut into slices and how these are used. The image
    leaves its place empty if it is not given. -/
def slicedImage (slices source filling : Option (List Atom)) : List Atom :=
  let stretch : List Atom := [.keyword "stretch".toList]
  let nothing : List Atom := [.keyword noWord]
  let picture := source.getD nothing
  (if picture == nothing then [.keyword []] else picture) ++ slices.getD []
    ++ beyond stretch (filling.getD stretch)

/-- An image for a border. -/
def borderImage : Reader (List Atom) := do
  match ← someInAnyOrder [slicing, return [← image], sliceFilling] with
  | [slices, source, filling] => return slicedImage slices source filling
  | _ => failure

/-- The words for what part of its image the mask of a border uses. -/
def maskBorderMode : Reader Atom :=
  keywordIn "luminance alpha"

/-- An image for the mask of a border. -/
def maskBorder : Reader (List Atom) := do
  match ← someInAnyOrder [slicing, return [← image], sliceFilling, return [← maskBorderMode]] with
  | [slices, source, filling, mode] =>
    let alpha : List Atom := [.keyword "alpha".toList]
    return slicedImage slices source filling ++ beyond alpha (mode.getD alpha)
  | _ => failure

end Reader

end Css

end ResponsiveImages
