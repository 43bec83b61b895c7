import ResponsiveImages.Css.Background

/-!
# Shapes

The shapes that an element is cut to: a box with round corners, a circle, an
ellipse or a polygon. Sizes that a shape has unless it says otherwise are left
out, and so is a place in the middle.

A shape is placed in one of the boxes of the element, of which the one with
the border need not be named.

## Main definitions

* `Reader.basicShape`: A shape by itself.
* `Reader.clipping`: A shape with the box it is placed in.
-/

namespace ResponsiveImages

namespace Css

open Text

namespace Reader

/-- A box at given distances from the sides of another one, possibly with round corners. -/
def insetBox : Reader (List Atom) := do
  let distances ← sides sizing
  let round := "round".toList
  let radii ← maybe do
    word round
    corners
  match beyond [.pixels 0] (radii.getD [.pixels 0]) with
  | [] => return distances
  | shown => return distances ++ .keyword round :: shown

/-- The word for a radius that reaches the closest side. -/
def closestSide : Atom :=
  .keyword "closest-side".toList

/-- The radius of a round shape. -/
def radius : Reader Atom :=
  sizing <|> keywordIn "closest-side farthest-side"

/-- Behind the size of a round shape, the place of it if that is not the middle. -/
def placed (size : List Atom) : Reader (List Atom) := do
  match ← maybe readAt with
  | some place =>
    return if place.isMiddle then size else size ++ .keyword "at".toList :: place.atoms
  | none => return size

/-- A circle by its radius and its place. -/
def circle : Reader (List Atom) := do
  let size := (← maybe radius).getD closestSide
  placed (beyond [closestSide] [size])

/-- An ellipse by its two radii and its place. -/
def ellipse : Reader (List Atom) := do
  let sizes ← maybe do return [← radius, ← radius]
  let usual := [closestSide, closestSide]
  placed (beyond usual (sizes.getD usual))

/-- The words for which points are inside of a shape that crosses itself. -/
def fillRule : Reader Atom :=
  keywordIn "nonzero evenodd"

/-- A polygon by its corners, with what is inside of it in front of them. -/
def polygon : Reader Layers := do
  let rule ← maybe do
    let rule ← fillRule
    comma
    return rule
  let points ← commas do return [← sizing, ← sizing]
  match rule.filter (· != .keyword "nonzero".toList) with
  | some rule => return [rule] :: points
  | none => return points

/-- The shapes by their names. -/
def shapes : List (Text × Reader Layers) :=
  let single (r : Reader (List Atom)) : Reader Layers := return [← r]
  [("inset".toList, single insetBox), ("circle".toList, single circle),
    ("ellipse".toList, single ellipse), ("polygon".toList, polygon)]

/-- A shape by itself. -/
def basicShape : Reader Atom :=
  call (shapes.map Prod.fst) fun name => do
    match shapes.lookup name with
    | some r => return .function name (← r)
    | none => failure

/-- What an element is cut to: an address, a shape, a box, both of them, or nothing. -/
def clipping : Reader (List Atom) :=
  let within (shape box : Atom) : List Atom :=
    shape :: beyond [.keyword "border-box".toList] [box]
  first [
    do return [.url (← url)],
    do
      let shape ← basicShape
      match ← maybe maskBox with
      | some box => return within shape box
      | none => return [shape],
    do
      let box ← maskBox
      match ← maybe basicShape with
      | some shape => return within shape box
      | none => return [box],
    do return [← keyword [noWord]]]

end Reader

end Css

end ResponsiveImages
