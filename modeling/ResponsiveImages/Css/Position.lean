import ResponsiveImages.Css.AtomReading

/-!
# Positions

A place in a box, given on each axis by the middle, by a distance from the
near side, or by a side with a distance from it. An axis that is not mentioned
is in the middle, and the words for the axes may come in either order.

A position is written with as few words as say the same. Sides turn into
percentages where both axes allow it, since a side by itself is at zero or a
hundred percent.

## Main definitions

* `Place`: A place on one axis.
* `Position`: A place in a box.
* `Position.read`: Reading a position.
* `Position.atoms`: A position as it is written.
-/

namespace ResponsiveImages

namespace Css

open Text

/-- A place on one axis. -/
inductive Place where
  | middle
  /-- A distance from the left or the top. -/
  | at (offset : Atom)
  /-- One of the sides, the far one being the right or the bottom, and a distance
      from it. -/
  | side (far : Bool) (offset : Option Atom)
  deriving BEq

/-- A place in a box. -/
structure Position where
  x : Place
  y : Place
  deriving BEq

/-- The sides of the horizontal axis, and those of the vertical one. -/
inductive Axis where
  | horizontal
  | vertical
  deriving DecidableEq, Repr

/-- The word for a side. -/
def Axis.sideName : Axis → Bool → Text
  | horizontal, false => "left".toList
  | horizontal, true => "right".toList
  | vertical, false => "top".toList
  | vertical, true => "bottom".toList

namespace Place

/-- The word for the middle. -/
def middleWord : Text :=
  "center".toList

/-- Reading the word for a side, as whether it is the far one. -/
def readSide (axis : Axis) : Reader Bool :=
  (return (← Reader.word (axis.sideName false), false).2)
    <|> (return (← Reader.word (axis.sideName true), true).2)

/-- Reading a place. -/
def read (axis : Axis) : Reader Place :=
  Reader.first [
    do Reader.word middleWord; return middle,
    do return .at (← Reader.sizing),
    do return side (← readSide axis) (← Reader.maybe Reader.sizing)]

/-- Whether a place is in the middle. -/
def isMiddle : Place → Bool
  | middle => true
  | .at (.percentage x) => x == 0.5
  | _ => false

/-- Whether a place is at the near side without naming it. -/
def isOrigin : Place → Bool
  | .at a => a.isZero
  | _ => false

/-- The distance of a side from the near one. -/
def ofSide (far : Bool) : Atom :=
  if far then .percentage 1 else .pixels 0

/-- A place as a distance from the near side, if it can be written as one. No distance needs
    no unit. -/
def distance? : Place → Option Atom
  | middle => some (.percentage 0.5)
  | .at a => some (shown a)
  | side false none => some (.pixels 0)
  | side false (some a) => some (shown a)
  | side true _ => none
where
  /-- A distance without its unit if it is none. -/
  shown (a : Atom) : Atom := if a.isZero then .pixels 0 else a

/-- A place as it is written by itself. -/
def atoms (axis : Axis) : Place → List Atom
  | middle => [.spelled middleWord "50%".toList]
  | .at a => [a]
  | side far offset => .keyword (axis.sideName far) :: offset.toList

end Place

namespace Position

/-- Reading what follows a word for the horizontal middle. Without a vertical place
    the word is taken for the vertical middle. -/
def readBehindMiddle : Reader Position :=
  (return ⟨.middle, ← Place.read .vertical⟩)
    <|> (return ⟨((← Reader.maybe (Place.read .horizontal)).getD .middle), .middle⟩)

/-- Reading what follows a horizontal distance. -/
def readBehindDistance (x : Place) : Reader Position :=
  Reader.first [
    do return ⟨x, .side (← Place.readSide .vertical) none⟩,
    do return ⟨x, .at (← Reader.sizing)⟩,
    do
      let _ ← Reader.maybe (Reader.word Place.middleWord)
      return ⟨x, .middle⟩]

/-- Reading what follows a horizontal side. A distance that no vertical side follows
    is a vertical one. -/
def readBehindSide (far : Bool) (offset : Option Atom) : Reader Position :=
  Reader.first [
    do
      Reader.word Place.middleWord
      return ⟨.side far offset, .middle⟩,
    do
      let y ← Place.readSide .vertical
      return ⟨.side far offset, .side y (← Reader.maybe Reader.sizing)⟩,
    return ⟨.side far none, (offset.map Place.at).getD .middle⟩]

/-- Reading the horizontal place behind a vertical side. -/
def readCrossed (far : Bool) : Reader Position := do
  let offset ← Reader.maybe Reader.sizing
  let x ← Reader.first [
    do return .side (← Place.readSide .horizontal) (← Reader.maybe Reader.sizing),
    do
      Reader.word Place.middleWord
      return .middle]
  return ⟨x, .side far offset⟩

/-- Reading a position. -/
def read : Reader Position := do
  match ← Reader.maybe (Place.read .horizontal) with
  | some .middle => readBehindMiddle
  | some (.at a) => readBehindDistance (.at a)
  | some (.side far offset) => readBehindSide far offset
  | none =>
    let far ← Place.readSide .vertical
    readCrossed far <|> pure ⟨.middle, .side far none⟩

/-- Whether a position is the near corner without naming its sides. -/
def isOrigin (p : Position) : Bool :=
  p.x.isOrigin && p.y.isOrigin

/-- Whether a position is the middle of the box. -/
def isMiddle (p : Position) : Bool :=
  p.x.isMiddle && p.y.isMiddle

/-- A position written with both of its axes. -/
def bothAtoms (p : Position) : List Atom :=
  match p.x.distance?, p.y.distance? with
  | some x, some y => [x, y]
  | _, _ => p.x.atoms .horizontal ++ p.y.atoms .vertical

/-- A position as it is written. -/
def atoms (p : Position) : List Atom :=
  match p.x, p.y with
  | .side true (some a), y =>
    if y.isMiddle then
      Place.atoms .horizontal (.side true (some a)) ++ [.keyword Place.middleWord]
    else p.bothAtoms
  | .at a, .side true (some b) =>
    .keyword (Axis.horizontal.sideName false) :: a :: Place.atoms .vertical (.side true (some b))
  | x, y =>
    if y.isMiddle then
      if x.isMiddle then x.atoms .horizontal
      else
        match x with
        | .at a => [a]
        | .side far none => [Place.ofSide far]
        | _ => p.bothAtoms
    else
      match x, y with
      | .side far none, .side far' none => [Place.ofSide far, Place.ofSide far']
      | x, .side far none =>
        if x.isMiddle then Place.atoms .vertical (.side far none) else p.bothAtoms
      | _, _ => p.bothAtoms

end Position

end Css

end ResponsiveImages
