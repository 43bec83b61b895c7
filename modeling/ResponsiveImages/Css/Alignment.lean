import ResponsiveImages.Css.Box

/-!
# Alignment

Values that say how elements share the room of a container: how flexible they
are, in which direction they run, how they are aligned, and how wide the gaps
between them are. One value for both axes is enough where the second would be
the same.

## Main definitions

* `Reader.flex`, `Reader.flexFlow`: Flexible boxes.
* `Alignment`, `Alignment.read`: How content or items are aligned.
* `Reader.placeContent`, `Reader.placeSelf`, `Reader.placeItems`: Alignment on both axes.
* `Reader.gap`: The gap between two elements.
* `Reader.gridFlow`: How a grid is filled.
-/

namespace ResponsiveImages

namespace Css

open Text

/-- The word for what is usual. -/
def normalWord : Text :=
  "normal".toList

namespace Reader

/-- The factors by which an element grows and shrinks. -/
def flexFactors : Reader (List Atom) := do
  let grow ← number
  let shrink ← maybe number
  return [.number grow, .number (shrink.getD 1)]

/-- How flexible a box is, with the factors and the basis that are needed. A basis of
    zero without a percent sign could be taken for a factor, so all factors are
    written in front of it. -/
def flexAtoms (grow shrink : Float32) (basis : Atom) : List Atom :=
  if grow == 0 && shrink == 0 && basis == .keyword auto then [.keyword noWord]
  else
    let zeroLength :=
      match basis with
      | .quantity q => q.isZero
      | _ => false
    let zeroShare :=
      match basis with
      | .percentage x => x == 0
      | _ => false
    let factors :=
      if grow != 1 || shrink != 1 || zeroLength || zeroShare then
        .number grow :: if shrink != 1 || zeroLength then [.number shrink] else []
      else []
    factors ++ if zeroShare then [] else [basis]

/-- How flexible a box is. -/
def flex : Reader (List Atom) :=
  first [
    do
      word noWord
      return [.keyword noWord],
    do
      match ← inAnyOrder [flexFactors, return [← sizingOrAuto]] with
      | [factors, basis] =>
        let basis := ((basis.bind List.head?).getD (.percentage 0))
        match factors with
        | some [.number grow, .number shrink] => return flexAtoms grow shrink basis
        | _ => return flexAtoms 1 1 basis
      | _ => failure]

/-- The direction of flexible boxes. -/
def flexDirection : Reader Atom :=
  keywordIn "row row-reverse column column-reverse"

/-- Whether flexible boxes are wrapped. -/
def flexWrap : Reader Atom :=
  keywordIn "nowrap wrap wrap-reverse"

/-- The direction of flexible boxes and whether they are wrapped. -/
def flexFlow : Reader (List Atom) := do
  match ← inAnyOrder [flexDirection, flexWrap] with
  | [direction, wrap] =>
    let direction := direction.getD (.keyword "row".toList)
    let wrap := wrap.filter (· != .keyword "nowrap".toList)
    let shown := direction != .keyword "row".toList || wrap.isNone
    return (if shown then [direction] else []) ++ wrap.toList
  | _ => failure

end Reader

/-- How content or items are aligned, and the words that are allowed for it. -/
structure Alignment where
  /-- Words that stand alone. -/
  alone : List Text
  /-- Words behind which there may be one for what happens if there is no room. -/
  placed : List Text
  /-- Lines of text may be aligned by their baselines. -/
  baselines : Bool := true

namespace Alignment

/-- The words for how room between elements is distributed. -/
def distributions : List Text :=
  Reader.splitWords "space-between space-around space-evenly stretch"

/-- The places in a line or a container. -/
def contentPlaces : List Text :=
  Reader.splitWords "center start end flex-start flex-end"

/-- The places of an item. -/
def selfPlaces : List Text :=
  contentPlaces ++ Reader.splitWords "self-start self-end"

/-- The sides, which are places as well. -/
def sidePlaces : List Text :=
  Reader.splitWords "left right"

/-- The alignment of lines across their direction. -/
def alignContent : Alignment where
  alone := normalWord :: distributions
  placed := contentPlaces

/-- The alignment of lines along their direction. -/
def justifyContent : Alignment where
  alone := normalWord :: distributions
  placed := contentPlaces ++ sidePlaces
  baselines := false

/-- The alignment of an item across its line. -/
def alignSelf : Alignment where
  alone := Reader.splitWords "auto normal stretch"
  placed := selfPlaces

/-- The alignment of an item along its line. -/
def justifySelf : Alignment where
  alone := Reader.splitWords "auto normal stretch"
  placed := selfPlaces ++ sidePlaces

/-- The alignment of all items across their line. -/
def alignItems : Alignment where
  alone := Reader.splitWords "normal stretch"
  placed := selfPlaces

/-- The alignment of all items along their line. -/
def justifyItems : Alignment where
  alone := Reader.splitWords "normal stretch"
  placed := selfPlaces ++ sidePlaces

/-- Alignment by a baseline. The first one needs no word for that. -/
def baseline : Reader (List Atom) :=
  let mark : Text := "baseline".toList
  Reader.first [
    do
      Reader.word mark
      return [.keyword mark],
    do
      Reader.word "first".toList
      Reader.word mark
      return [.keyword mark],
    do
      Reader.word "last".toList
      Reader.word mark
      return [.keyword "last".toList, .keyword mark]]

/-- Reading an alignment. -/
def read (a : Alignment) : Reader (List Atom) :=
  Reader.first [
    do return [← Reader.keyword a.alone],
    do if a.baselines then baseline else failure,
    do
      let overflow ← Reader.maybe (Reader.keywordIn "safe unsafe")
      return overflow.toList ++ [← Reader.keyword a.placed]]

/-- Reading the alignment of items that may follow that of older lists. -/
def readItems : Reader (List Atom) :=
  let older : Atom := .keyword "legacy".toList
  let sides : Reader Atom := Reader.keywordIn "left right center"
  Reader.first [
    do
      Reader.word "legacy".toList
      return [older, ← sides],
    do
      let side ← sides
      Reader.word "legacy".toList
      return [older, side],
    justifyItems.read]

end Alignment

namespace Reader

/-- Alignment on both axes, given what a missing second value stands for and which second
    values go without saying. -/
def placing (across along : Reader (List Atom)) (missing : List Atom → List Atom)
    (implied : List Atom → List Atom → Bool) : Reader (List Atom) := do
  let a ← across
  let b ← if ← atEnd then pure (missing a) else along
  return if implied a b then a else a ++ b

/-- The alignment of lines on both axes. Next to a baseline the second value starts at the
    edge. -/
def placeContent : Reader (List Atom) :=
  let missing (a : List Atom) : List Atom :=
    if a.contains (.keyword "baseline".toList) then [.keyword "start".toList] else a
  placing Alignment.alignContent.read Alignment.justifyContent.read missing (· == ·)

/-- Whether the second of two alignments of items goes without saying. That is so for a computed
    one, and to stretch is implied by what is usual. -/
def impliedAlignment (a b : List Atom) : Bool :=
  if b == [.keyword auto] then true
  else if b == [.keyword "stretch".toList] then a == [.keyword normalWord]
  else a == b

/-- The alignment of an item on both axes. -/
def placeSelf : Reader (List Atom) :=
  placing Alignment.alignSelf.read Alignment.justifySelf.read id impliedAlignment

/-- The alignment of all items on both axes. -/
def placeItems : Reader (List Atom) :=
  placing Alignment.alignItems.read Alignment.readItems id impliedAlignment

/-- The gap between two elements. -/
def gap : Reader Atom :=
  keyword [normalWord] <|> sizing

/-- How a grid is filled. Only in the compact layout no direction is needed next to the word for
    filling holes. -/
def gridFlow : Reader (List Atom) := do
  match ← someInAnyOrder [oneOf (splitWords "row column"), oneOf ["dense".toList]] with
  | [direction, dense] =>
    let row : Text := "row".toList
    let direction := direction.getD row
    if dense.isNone then return [.keyword direction]
    else if direction == row then return [.spelled "row dense".toList "dense".toList]
    else return [.keyword direction, .keyword "dense".toList]
  | _ => failure

end Reader

end Css

end ResponsiveImages
