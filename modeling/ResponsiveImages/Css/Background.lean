import ResponsiveImages.Css.Box

/-!
# Backgrounds

Layers of images behind the content of an element. A layer has a color, an
image, a place and a size for the image, the ways in which it is repeated and
moves with the page, and the boxes it is placed in and drawn in. All of these
can be given at once, in any order; what is as it would be anyway is left out,
and a layer with nothing left is written as `none`, or compactly as its place.

A mask is a layer with boxes of other kinds, and begins with its image.

## Main definitions

* `Reader.backgroundSize`, `Reader.repetition`: Sizes and repetitions.
* `Backdrop`: A layer.
* `Reader.backdrop`, `Backdrop.atoms`: Reading and writing a layer.
* `Reader.mask`: A layer of a mask.
-/

namespace ResponsiveImages

namespace Css

open Text

namespace Reader

/-- The size of a background image. -/
def backgroundSize : Reader (List Atom) :=
  first [
    do
      let width ← sizingOrAuto
      let height ← maybe sizingOrAuto
      return width :: (height.filter (· != .keyword auto)).toList,
    do return [← keywordIn "cover contain"]]

/-- The repetition of a background image on one axis. -/
def repetitionWord : Reader Text :=
  oneOf (splitWords "repeat space round no-repeat")

/-- The repetition of a background image. -/
def repetition : Reader (List Atom) :=
  first [
    do
      let a ← repetitionWord
      let b := (← maybe repetitionWord).getD a
      return [
        if a == b then [.keyword a]
        else if a == "repeat".toList && b == "no-repeat".toList then [.keyword "repeat-x".toList]
        else if a == "no-repeat".toList && b == "repeat".toList then [.keyword "repeat-y".toList]
        else [.keyword a, .keyword b]].flatten,
    do return [← keywordIn "repeat-x repeat-y"]]

/-- The ways in which a background image moves with the page. -/
def attachment : Reader Atom :=
  keywordIn "scroll fixed local"

/-- The boxes a background image can be placed in. -/
def placingBox : Reader Atom :=
  keywordIn "border-box padding-box content-box"

/-- The areas a background can be drawn in. -/
def drawingBox : Reader Atom :=
  keywordIn "border-box padding-box content-box border text"

end Reader

/-- A layer of a background. -/
structure Backdrop where
  color : Color := .transparent
  image : Atom := .keyword noWord
  place : Position := ⟨.at (.pixels 0), .at (.pixels 0)⟩
  size : List Atom := [.keyword auto]
  repetition : List Atom := [.keyword "repeat".toList]
  attachment : Atom := .keyword "scroll".toList
  origin : Atom := .keyword "padding-box".toList
  clip : Atom := .keyword "border-box".toList

namespace Backdrop

/-- A layer with one thing more said about it. -/
abbrev Change := Backdrop → Backdrop

/-- A place, with the size that may stand behind a slash. -/
def readPlace : Reader Change := do
  let place ← Position.read
  let size ← Reader.maybe (do Reader.slash; Reader.backgroundSize)
  return fun b => { b with place, size := size.getD b.size }

/-- Reading a layer. The box an image is placed in is also the one the layer is drawn
    in, unless that is said as well. -/
def read : Reader Backdrop := do
  let changes : List (Reader Change) := [
    do
      let color ← Reader.plainColor
      return fun b => { b with color },
    readPlace,
    do
      let image ← Reader.image
      return fun b => { b with image },
    do
      let repetition ← Reader.repetition
      return fun b => { b with repetition },
    do
      let attachment ← Reader.attachment
      return fun b => { b with attachment },
    do
      let origin ← Reader.placingBox
      return fun b => { b with origin, clip := origin },
    do
      let clip ← Reader.drawingBox
      return fun b => { b with clip }]
  let taken ← Reader.inAnyOrder changes
  return taken.foldl (fun b change => (change.getD id) b) {}

/-- The areas to draw in that are boxes to place in as well. -/
def boxes : List Atom :=
  [.keyword "padding-box".toList, .keyword "content-box".toList]

/-- What is said about a layer beyond the usual. The box to place the image in is also
    written if the area to draw in is such a box and not the usual one. The usual area is only
    written if the box in front of it would be taken for the area too. -/
def saidAtoms (b : Backdrop) : List Atom :=
  let usual : Backdrop := {}
  let sized := b.size != usual.size
  let boxed := b.origin != usual.origin || boxes.contains b.clip
  beyond [.color usual.color] [.color b.color]
    ++ beyond [usual.image] [b.image]
    ++ (if b.place.isOrigin && !sized then []
      else b.place.atoms ++ if sized then .slash :: b.size else [])
    ++ beyond usual.repetition b.repetition
    ++ beyond [usual.attachment] [b.attachment]
    ++ (if boxed then [b.origin] else [])
    ++ (if b.clip != usual.clip || (boxed && b.clip != b.origin) then [b.clip] else [])

/-- A layer as it is written. -/
def atoms (b : Backdrop) : List Atom :=
  let said := b.saidAtoms
  if said.isEmpty then
    [.spelled noWord (Layers.text .compact [b.place.atoms])]
  else said

end Backdrop

namespace Reader

/-- A layer of a background. -/
def backdrop : Reader (List Atom) :=
  Backdrop.atoms <$> Backdrop.read

/-- The boxes of a mask. -/
def maskBox : Reader Atom :=
  keyword <| splitLines [
    "border-box padding-box content-box margin-box fill-box stroke-box view-box"]

/-- The areas a mask can be drawn in. -/
def maskArea : Reader Atom :=
  maskBox <|> keywordIn "no-clip"

/-- How a mask is joined with those below it. -/
def maskJoin : Reader Atom :=
  keywordIn "add subtract intersect exclude"

/-- What part of its image a mask uses. -/
def maskMode : Reader Atom :=
  keywordIn "luminance alpha match-source"

/-- A part of a mask: a place with a size, or something else. -/
inductive MaskPart where
  | place (p : Position) (size : List Atom)
  | atoms (l : List Atom)

/-- The atoms of a part, unless they are the usual ones. -/
def unlessUsual (usual : List Atom) : Option MaskPart → List Atom
  | some (.atoms l) => if l == usual then [] else l
  | _ => []

/-- The place and the size of a mask as they are written. -/
def maskPlace : Option MaskPart → List Atom
  | some (.place p size) =>
    if size == [.keyword auto] then
      if p == ⟨.at (.percentage 0), .at (.percentage 0)⟩ then [] else p.atoms
    else p.atoms ++ .slash :: size
  | _ => []

/-- The atom of a part, or the usual one. -/
def partOr (usual : Atom) : Option MaskPart → Atom
  | some (.atoms [a]) => a
  | _ => usual

/-- A layer of a mask. -/
def mask : Reader (List Atom) := do
  let single (r : Reader Atom) : Reader MaskPart := return .atoms [← r]
  let taken ← inAnyOrder [
    single image,
    do
      let p ← Position.read
      let size ← maybe (do slash; backgroundSize)
      return .place p (size.getD [.keyword auto]),
    do return .atoms (← repetition),
    single maskBox, single maskArea, single maskJoin, single maskMode]
  match taken with
  | [picture, place, repeated, origin, clip, join, mode] =>
    let border : Atom := .keyword "border-box".toList
    let origin := partOr border origin
    let clip := partOr origin clip
    return partOr (.keyword noWord) picture :: maskPlace place
      ++ unlessUsual [.keyword "repeat".toList] repeated
      ++ (if origin == border && clip == border then []
        else origin :: if clip == origin then [] else [clip])
      ++ unlessUsual [.keyword "add".toList] join
      ++ unlessUsual [.keyword "match-source".toList] mode
  | _ => failure

end Reader

end Css

end ResponsiveImages
