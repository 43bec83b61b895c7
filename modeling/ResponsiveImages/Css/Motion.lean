import ResponsiveImages.Css.Transform

/-!
# Transitions and Animations

Values that change over time. A transition names the property that changes, an
animation the steps it runs through; both have a duration, a delay and an
easing, and what is as it would be anyway is left out. A delay stands behind a
duration, so that is written with it.

The name of an animation may be a word that also means something else. Then
whatever that word could be taken for is written in front of it.

## Main definitions

* `Reader.easing`: The course of a change.
* `Reader.propertyName`, `Reader.transition`: Transitions.
* `Reader.animationName`, `Reader.animation`: Animations.
-/

namespace ResponsiveImages

namespace Css

open Text

namespace Reader

/-- The words for the course of a change. -/
def easingWords : List Text :=
  splitWords "linear ease ease-in ease-out ease-in-out step-start step-end"

/-- The usual course. -/
def usualEasing : Atom :=
  .keyword "ease".toList

/-- A curve with two points that pull it. Some curves have names. -/
def curve (points : List Float32) : Atom :=
  let named : List (List Float32 × Text) := [
    ([0.25, 0.1, 0.25, 1], "ease".toList), ([0.42, 0, 1, 1], "ease-in".toList),
    ([0, 0, 0.58, 1], "ease-out".toList), ([0.42, 0, 0.58, 1], "ease-in-out".toList)]
  match named.lookup points with
  | some name => .keyword name
  | none => apply "cubic-bezier" (points.map Atom.number)

/-- Where the steps of a change are, by the words for it. -/
def stepPlaces : List (Text × Text) := [
  ("start".toList, "start".toList), ("jump-start".toList, "start".toList),
  ("end".toList, "end".toList), ("jump-end".toList, "end".toList),
  ("jump-none".toList, "jump-none".toList), ("jump-both".toList, "jump-both".toList)]

/-- A change in steps. A single step has a name. -/
def steps (count : Int) (place : Text) : Atom :=
  let start : Text := "start".toList
  let finish : Text := "end".toList
  if count == 1 && place == start then .keyword "step-start".toList
  else if count == 1 && place == finish then .keyword "step-end".toList
  else apply "steps" [.integer count, .keyword place]

/-- The course of a change. -/
def easing : Reader Atom :=
  first [
    keyword easingWords,
    call ["cubic-bezier".toList] fun _ => return curve (← exactly number 4),
    call ["steps".toList] fun _ => do
      let count ← integer
      let place ← maybe (behindComma ident)
      match stepPlaces.lookup (lower (place.getD "end".toList)) with
      | some place => return steps count place
      | none => failure]

/-- No time at all. -/
def noTime : Atom :=
  .quantity ⟨.time, 0, ['s']⟩

/-- The name of a property, as it is always written if it is known. -/
def propertyName (known? : Text → Option Text) : Reader Atom := do
  let name ← ident
  return .keyword ((known? name).getD name)

/-- A change of a property. -/
def transition (known? : Text → Option Text) : Reader (List Atom) := do
  match ← inAnyOrder [time, easing, time, propertyName known?] with
  | [duration, course, delay, property] =>
    let duration := duration.getD noTime
    let delay := delay.getD noTime
    return property.getD (.keyword "all".toList)
      :: (if duration.isZero && delay.isZero then [] else [duration])
      ++ beyond [usualEasing] [course.getD usualEasing]
      ++ (if delay.isZero then [] else [delay])
  | _ => failure

/-- The name of an animation, without quotes unless it would turn into a keyword. -/
def animationName : Reader Atom :=
  first [
    keyword [noWord],
    do
      let s ← string
      return if (noWord :: wideWords).contains (lower s) then .string s else .name s,
    .name <$> customName]

/-- How often an animation runs. -/
def repeats : Reader Atom :=
  keywordIn "infinite" <|> (.number <$> number)

/-- The words for the direction in which an animation runs. -/
def directionWords : List Text :=
  splitWords "normal reverse alternate alternate-reverse"

/-- The words for what an animation does before and after it runs. -/
def fillWords : List Text :=
  splitWords "none forwards backwards both"

/-- The words for whether an animation runs. -/
def stateWords : List Text :=
  splitWords "running paused"

/-- The text of the name of an animation. -/
def nameOf : Atom → Option Text
  | .name s => some s
  | .string s => some s
  | _ => none

/-- A name of an author's own, which begins with two hyphens. -/
def dashedName : Reader Text := do
  let name ← ident
  if (afterPrefix? "--".toList name).isSome then return name else failure

/-- The words for an axis along which something is scrolled. -/
def scrollAxis : Reader Atom :=
  keywordIn "block inline x y"

/-- The axis along which something is scrolled unless another one is given. -/
def usualAxis : List Atom :=
  [.keyword "block".toList]

/-- What drives an animation instead of time. -/
def timeline : Reader Atom :=
  first [
    keywordIn "auto none",
    .name <$> dashedName,
    call ["scroll".toList] fun name => do
      match ← inAnyOrder [keywordIn "root nearest self", scrollAxis] with
      | [scroller, axis] =>
        let nearest : Atom := .keyword "nearest".toList
        return .function name [beyond [nearest] [scroller.getD nearest]
          ++ beyond usualAxis (axis.toList ++ if axis.isNone then usualAxis else [])]
      | _ => failure,
    call ["view".toList] fun name => do
      match ← inAnyOrder [return [← scrollAxis], pairOf sizingOrAuto] with
      | [axis, inset] =>
        let whole : List Atom := [.keyword auto]
        return .function name [beyond usualAxis (axis.getD usualAxis)
          ++ beyond whole (inset.getD whole)]
      | _ => failure]

/-- A part of a timeline: a word for the usual one, a place, or a named range with a place
    in it. -/
inductive RangeEnd where
  | normal
  | place (a : Atom)
  | named (name offset : Atom)
  deriving BEq

namespace RangeEnd

/-- Reading an end of a range, given the place in a named range that it has unless it says
    otherwise. -/
def read (usual : Float32) : Reader RangeEnd :=
  first [
    do
      word "normal".toList
      return normal,
    do return place (← sizing),
    do
      let name ← keywordIn "cover contain entry exit entry-crossing exit-crossing"
      return named name ((← maybe sizing).getD (.percentage usual))]

/-- An end of a range as it is written, given the place in a named range that it has unless it
    says otherwise. -/
def atoms (usual : Float32) : RangeEnd → List Atom
  | normal => [.keyword "normal".toList]
  | place a => [a]
  | named name offset => name :: beyond [.percentage usual] [offset]

/-- The end of a range that is given by its start alone. -/
def following : RangeEnd → RangeEnd
  | named name _ => named name (.percentage 1)
  | _ => normal

end RangeEnd

/-- The start of a range. -/
def rangeStart : Reader (List Atom) :=
  (RangeEnd.atoms 0) <$> RangeEnd.read 0

/-- The end of a range. -/
def rangeEnd : Reader (List Atom) :=
  (RangeEnd.atoms 1) <$> RangeEnd.read 1

/-- A part of a timeline. The place of its end in a named range is not taken for the usual
    one. -/
def range : Reader (List Atom) := do
  let start ← RangeEnd.read 0
  let finish := (← maybe (RangeEnd.read 0)).getD start.following
  return start.atoms 0 ++ if finish == start.following then [] else finish.atoms 1

/-- An animation. Without a name the rest does not matter. -/
def animation : Reader (List Atom) := do
  let taken ← inAnyOrder [time, easing, time, repeats, keyword directionWords,
    keyword fillWords, keyword stateWords, animationName, timeline]
  match taken with
  | [duration, course, delay, count, direction, fill, state, name, driver] =>
    match name.bind nameOf with
    | none => return [.keyword noWord]
    | some s =>
      let word := lower s
      let means (words : List Text) : Bool := words.contains word
      let duration := duration.getD noTime
      let delay := delay.getD noTime
      let given (atom : Option Atom) (usual : Atom) (needed : Bool) : List Atom :=
        if needed || atom.getD usual != usual then [atom.getD usual] else []
      return (if duration.isZero && delay.isZero then [] else [duration])
        ++ given course usualEasing (easingWords.contains s)
        ++ (if delay.isZero then [] else [delay])
        ++ given count (.number 1) (s == "infinite".toList)
        ++ given direction (.keyword "normal".toList) (means directionWords)
        ++ given fill (.keyword noWord) (means fillWords && word != noWord)
        ++ given state (.keyword "running".toList) (means stateWords)
        ++ name.toList
        ++ given driver (.keyword auto) false
  | _ => failure

end Reader

end Css

end ResponsiveImages
