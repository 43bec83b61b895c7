import ResponsiveImages.Css.Position

/-!
# Images

What may stand where a value asks for an image: an address, a gradient or a
choice of images for screens of different resolution.

A gradient runs through stops of color. Whatever a reader would assume is left
out: a straight gradient runs down, a round one is an ellipse that reaches the
farthest corner, the middle between two stops needs no hint. In the compact
layout a gradient that runs up and has no lengths in it is turned round. In
the ordinary layout two stops of one color are written as one stop with two
places.

## Main definitions

* `GradientItem`, `readItems`, `itemsText`: What a gradient runs through.
* `Heading`: The direction of a straight gradient.
* `Reader.linearGradient`, `Reader.radialGradient`, `Reader.conicGradient`: Reading
  gradients.
* `Reader.oldGradient`: Reading gradients in their oldest form.
* `Reader.image`: Reading an image.
-/

namespace ResponsiveImages

namespace Css

open Text

/-- What a gradient runs through. -/
inductive GradientItem where
  | stop (color : Color) (place : Option Atom)
  /-- Where the middle between two stops is. -/
  | hint (place : Atom)
  deriving BEq

namespace GradientItem

/-- The items between two commas, given whether a stop comes before them. A stop with
    two places is two stops. -/
def readPiece (place : Reader Atom) (afterStop : Bool) : Reader (List GradientItem) :=
  let stops : Reader (List GradientItem) := do
    let color ← Reader.plainColor
    match ← Reader.maybe place with
    | none => return [.stop color none]
    | some a =>
      match ← Reader.maybe place with
      | none => return [.stop color (some a)]
      | some b => return [.stop color (some a), .stop color (some b)]
  if afterStop then (return [.hint (← place)]) <|> stops else stops

/-- The items of pieces between commas. -/
def readPieces? (place : Reader Atom) : Bool → List (List Component) → Option (List GradientItem)
  | _, [] => some []
  | afterStop, piece :: rest =>
    match (readPiece place afterStop).whole? piece with
    | some items =>
      let hinted :=
        match items with
        | [.hint _] => true
        | _ => false
      (readPieces? place (!hinted) rest).map (items ++ ·)
    | none => none

/-- The items up to the end. -/
def readAll (place : Reader Atom) : Reader (List GradientItem) := fun cs =>
  (readPieces? place false (cs.splitOnP Component.isComma)).map fun items => (items, [])

/-- Whether an item is a hint that changes nothing. -/
def isIdle : GradientItem → Bool
  | hint (.percentage x) => x == 0.5
  | _ => false

/-- An item as it is written. -/
def text (layout : Layout) : GradientItem → Text
  | stop color place => Layers.text layout [.color color :: place.toList]
  | hint place => place.text layout

/-- Items as they are written, given the stop in front of them if a second place may
    be written behind it, and whether they are the first ones. -/
def textFrom (layout : Layout) (before : Option Color) (first : Bool) :
    List GradientItem → Text
  | [] => []
  | item :: rest =>
    let separate := (if first then [] else ',' :: layout.space) ++ item.text layout
    match item with
    | .stop color (some place) =>
      if layout == .ordinary && before == some color then
        ' ' :: place.text layout ++ textFrom layout none false rest
      else separate ++ textFrom layout (some color) false rest
    | _ => separate ++ textFrom layout none false rest

/-- Items as they are written. -/
def textAll (layout : Layout) (items : List GradientItem) : Text :=
  textFrom layout none true (items.filter fun item => !item.isIdle)

/-- An item of a gradient that is turned round, if its place is no length. -/
def flipped? : GradientItem → Option GradientItem
  | stop color none => some (stop color none)
  | stop color (some (.percentage x)) => some (stop color (some (.percentage (1 - x))))
  | hint (.percentage x) => some (hint (.percentage (1 - x)))
  | _ => none

end GradientItem

/-- The direction of a straight gradient. -/
inductive Heading where
  | angle (q : Quantity)
  /-- To the left or the right. -/
  | horizontal (far : Bool)
  /-- To the top or the bottom. -/
  | vertical (far : Bool)
  | corner (right bottom : Bool)

namespace Heading

/-- Reading the side or corner a gradient runs to. -/
def readSides : Reader Heading :=
  Reader.first [
    do return corner (← Place.readSide .horizontal) (← Place.readSide .vertical),
    do return horizontal (← Place.readSide .horizontal),
    do
      let bottom ← Place.readSide .vertical
      return corner (← Place.readSide .horizontal) bottom,
    do return vertical (← Place.readSide .vertical)]

/-- Reading a direction. The older form has no word in front of the side. -/
def read (older : Bool) : Reader Heading :=
  Reader.first [
    do
      match ← Reader.angleOrZero with
      | .quantity q => return angle q
      | _ => failure,
    do
      if !older then Reader.word "to".toList
      readSides]

/-- Whether a direction is straight down. -/
def isDown : Heading → Bool
  | angle q => q.degrees == 180
  | vertical far => far
  | _ => false

/-- Whether a direction is straight up. -/
def isUp : Heading → Bool
  | angle q => q.degrees == 0
  | vertical far => !far
  | _ => false

/-- A direction as it is written. -/
def text (layout : Layout) (older : Bool) (h : Heading) : Text :=
  let towards (names : List Text) : Text :=
    (if older then [] else "to ".toList) ++ joinWith [' '] names
  match h, layout with
  | angle q, _ => q.text layout
  | horizontal far, .ordinary => towards [Axis.horizontal.sideName far]
  | horizontal far, .compact => (if far then "90deg" else "270deg").toList
  | vertical far, .ordinary => towards [Axis.vertical.sideName far]
  | vertical far, .compact => (if far then "180deg" else "0deg").toList
  | corner right bottom, _ =>
    towards [Axis.vertical.sideName bottom, Axis.horizontal.sideName right]

end Heading

/-- A function as an atom, given its arguments as they are written. -/
def writtenFunction (name : Text) (arguments : Layout → Text) : Atom :=
  let text (layout : Layout) : Text := name ++ '(' :: arguments layout ++ [')']
  .spelled (text .ordinary) (text .compact)

namespace Reader

/-- The arguments of a gradient as they are written, with something in front of its
    items. -/
def gradientText (layout : Layout) (front : Text) (items : List GradientItem) : Text :=
  (if front.isEmpty then [] else front ++ ',' :: layout.space)
    ++ GradientItem.textAll layout items

/-- The arguments of a straight gradient. -/
def linearGradient (older : Bool) : Reader (Layout → Text) := do
  let heading ← maybe do
    let heading ← Heading.read older
    comma
    return heading
  let items ← GradientItem.readAll sizing
  let heading := heading.getD (.vertical true)
  return fun layout =>
    if heading.isDown then gradientText layout [] items
    else
      match layout, heading.isUp, items.mapM GradientItem.flipped? with
      | .compact, true, some flipped => gradientText layout [] flipped.reverse
      | _, _, _ => gradientText layout (heading.text layout older) items

/-- The words for how far a round gradient reaches. -/
def extents : List Text :=
  splitWords "closest-side farthest-side closest-corner farthest-corner"

/-- The farthest corner, which a round gradient reaches unless it says otherwise. -/
def farthestCorner : Text :=
  "farthest-corner".toList

/-- A round shape given by a word or by sizes, without the word for what it is. -/
def readEllipse : Reader (List Atom) :=
  let sizes : Reader (List Atom) := do
    let x ← sizing
    return [x, ← sizing]
  let named : Reader Unit := word "ellipse".toList
  first [
    do
      let extent ← keyword extents
      if (← maybe (word "circle".toList)).isSome then failure
      let _ ← maybe named
      return [extent],
    do
      let atoms ← sizes
      let _ ← maybe named
      return atoms,
    do
      named
      first [
        do return [← keyword extents],
        sizes,
        return [.keyword farthestCorner]]]

/-- A circle. -/
def readCircle : Reader (List Atom) :=
  let circle : Atom := .keyword "circle".toList
  let named : Reader Unit := word "circle".toList
  let reaching (extent : Text) : List Atom :=
    if extent == farthestCorner then [circle] else [circle, .keyword extent]
  first [
    do
      let extent ← oneOf extents
      named
      return reaching extent,
    do
      let radius ← length
      let _ ← maybe named
      return [radius],
    do
      named
      first [
        do return reaching (← oneOf extents),
        do return [← length],
        return [circle]]]

/-- Reading a position behind the word for it. -/
def readAt : Reader Position := do
  word "at".toList
  Position.read

/-- What stands in front of the items of a round gradient. -/
def placedText (layout : Layout) (shape : List Atom) (place : Position) : Text :=
  let at' : List Atom := if place.isMiddle then [] else .keyword "at".toList :: place.atoms
  Layers.text layout [shape ++ at']

/-- The arguments of a round gradient. -/
def radialGradient : Reader (Layout → Text) := do
  let shape ← maybe (readEllipse <|> readCircle)
  let place ← maybe readAt
  if shape.isSome || place.isSome then comma
  let items ← GradientItem.readAll sizing
  let shape := (shape.filter (· != [.keyword farthestCorner])).getD []
  let place := place.getD ⟨.middle, .middle⟩
  return fun layout =>
    let front := placedText layout shape place
    if shape.isEmpty && place.isMiddle then gradientText layout [] items
    else gradientText layout front items

/-- An angle or a percentage of the full circle. -/
def anglePart : Reader Atom :=
  first [calculated (.measures .angle), .quantity <$> plainQuantity .angle, .percentage <$> share]

/-- The arguments of a gradient around a point. -/
def conicGradient : Reader (Layout → Text) := do
  let angle ← maybe do
    word "from".toList
    angleOrZero
  let place ← maybe readAt
  if angle.isSome || place.isSome then comma
  let items ← GradientItem.readAll anglePart
  let start :=
    match angle with
    | some a => if a.isZero then [] else [.keyword "from".toList, a]
    | none => []
  let place := place.getD ⟨.middle, .middle⟩
  return fun layout =>
    if start.isEmpty && place.isMiddle then gradientText layout [] items
    else gradientText layout (placedText layout start place) items

/-- A coordinate of a point in the oldest form, which counts pixels without a unit. -/
def oldCoordinate (axis : Axis) : Reader Atom :=
  first [
    do
      word Place.middleWord
      return .spelled Place.middleWord "50%".toList,
    do
      let a ← numberOrShare
      return if a.isZero then .number 0 else a,
    do
      let far ← Place.readSide axis
      return .either (.keyword (axis.sideName far)) (Place.ofSide far)]

/-- A point in the oldest form. -/
def oldPoint : Reader (List Atom) :=
  return [← oldCoordinate .horizontal, ← oldCoordinate .vertical]

/-- The place of a stop in the oldest form, by the name of its function. -/
def oldPlace (name : Text) : Reader Float32 := do
  if name == "from".toList then return 0
  else if name == "to".toList then return 1
  else
    let x ← factor
    comma
    return x

/-- A stop in the oldest form. Those at the ends have functions of their own. -/
def oldStop : Reader Atom :=
  call ["color-stop".toList, "from".toList, "to".toList] fun name => do
    let x ← oldPlace name
    let tint ← color
    return if x == 0 then .call "from".toList [tint]
      else if x == 1 then .call "to".toList [tint]
      else .call "color-stop".toList [.number x, tint]

/-- A gradient in the oldest form, which is given by two points or by two circles. -/
def oldGradient : Reader Layers := do
  let shape ← keywordIn "linear radial"
  comma
  let radius : Reader Layers := do
    if shape == .keyword "radial".toList then
      comma
      return [[.number (← number)]]
    else return []
  let start ← oldPoint
  let inner ← radius
  comma
  let finish ← oldPoint
  let outer ← radius
  comma
  let stops ← commas do return [← oldStop]
  return [shape] :: start :: inner ++ finish :: outer ++ stops

/-- The names of gradients with how their arguments are read. -/
def gradients : List (Text × Reader (Layout → Text)) :=
  let straight : Text := "linear-gradient".toList
  let round : Text := "radial-gradient".toList
  let twice (mark name : Text) (r : Reader (Layout → Text)) :
      List (Text × Reader (Layout → Text)) :=
    [(mark ++ name, r), (mark ++ "repeating-".toList ++ name, r)]
  twice [] straight (linearGradient false) ++ twice [] round radialGradient
    ++ twice [] "conic-gradient".toList conicGradient
    ++ (["-webkit-".toList, "-moz-".toList, "-o-".toList].flatMap fun mark =>
      twice mark straight (linearGradient true) ++ twice mark round radialGradient)
    ++ [("-webkit-gradient".toList, do
      let parts ← oldGradient
      return fun layout => parts.text layout)]

/-- A gradient. -/
def gradient : Reader Atom :=
  call (gradients.map Prod.fst) fun name => do
    match gradients.lookup name with
    | some r => return writtenFunction name (← r)
    | none => failure

/-- A resolution. It is written with the short unit everywhere. -/
def resolution : Reader Atom := do
  let q ← quantity .resolution
  return .spelled (q.resolutionText .ordinary) (q.resolutionText .ordinary)

/-- The type of the file of an image. -/
def fileType : Reader Atom :=
  call ["type".toList] fun name =>
    return .function name [[.string (← string)]]

/-- The resolution and the file type of an image, in either order. -/
def imageTraits : Reader (List Atom) := do
  match ← inAnyOrder [resolution, fileType] with
  | [r, t] => return r.getD (.spelled ['1', 'x'] ['1', 'x']) :: t.toList
  | _ => failure

/-- One of the images to choose from. Addresses are written as strings, except in the
    older form. -/
def imageOption (older : Bool) (image : Reader Atom) : Reader (List Atom) := do
  let address ← maybe (url <|> string)
  let picture ←
    match address with
    | some s => pure (if older then .url s else .string s)
    | none => image
  return picture :: (← imageTraits)

/-- An image, with choices inside of each other up to a depth. -/
def imageUpTo : Nat → Reader Atom
  | 0 => failure
  | depth + 1 =>
    let choice := call ["image-set".toList, "-webkit-image-set".toList] fun name =>
      return .function name (← commas (imageOption (name != "image-set".toList) (imageUpTo depth)))
    first [keywordIn "none", .url <$> url, gradient, choice]

/-- An image. -/
def image : Reader Atom := fun cs =>
  (imageUpTo (depths cs + 1)).run cs

end Reader

end Css

end ResponsiveImages
