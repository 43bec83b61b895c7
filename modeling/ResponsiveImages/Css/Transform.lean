import ResponsiveImages.Css.Typography

/-!
# Transforms and Filters

Functions that move, turn, stretch and skew an element, and functions that
change how it looks. Both are lists of functions, of which only those of a
filter have space between them.

Arguments that say nothing new are left out. The compact layout also uses the
shortest of several functions that do the same: a move along one axis needs
one argument.

## Main definitions

* `Reader.transforms`: A list of functions that transform.
* `Reader.movement`, `Reader.rotation`, `Reader.scaling`: A single transform by
  its arguments.
* `Reader.filters`: A list of functions that filter.
-/

namespace ResponsiveImages

namespace Css

open Text

namespace Reader

/-- Something behind a comma. -/
def behindComma {α : Type} (r : Reader α) : Reader α := do
  comma
  r

/-- A number of values between commas. -/
def valuesBetweenCommas {α : Type} (r : Reader α) : Nat → Reader (List α)
  | 0 => return []
  | n + 1 => return (← r) :: (← upTo (behindComma r) n)

/-- Exactly that many values between commas. -/
def exactly {α : Type} (r : Reader α) (n : Nat) : Reader (List α) := do
  let values ← valuesBetweenCommas r n
  if values.length = n then return values else failure

/-- The function with a name in ordinary case. -/
def apply (name : String) (arguments : List Atom) : Atom :=
  .call name.toList arguments

/-- A move along two axes. -/
def move (x y : Atom) : Atom :=
  let plain := apply "translate" (x :: if y.isZero then [] else [y])
  if x.isZero && !y.isZero then .either plain (apply "translateY" [y]) else plain

/-- A move along three axes. -/
def moveInSpace (x y z : Atom) : Atom :=
  .either (apply "translate3d" [x, y, z]) <|
    match x.isZero, y.isZero, z.isZero with
    | false, true, true => apply "translate" [x]
    | true, false, true => apply "translateY" [y]
    | true, true, false => apply "translateZ" [z]
    | _, _, true => apply "translate" [x, y]
    | _, _, false => apply "translate3d" [x, y, z]

/-- A stretch along two axes. -/
def stretch (x y : Float32) : Atom :=
  let plain := apply "scale" (.number x :: if y == x then [] else [.number y])
  .either plain <|
    if x == 1 && y != 1 then apply "scaleY" [.number y]
    else if x != 1 && y == 1 then apply "scaleX" [.number x]
    else plain

/-- A stretch along three axes. -/
def stretchInSpace (x y z : Float32) : Atom :=
  let plain := apply "scale3d" [.number x, .number y, .number z]
  .either plain <|
    if z == 1 && x == y then apply "scale" [.number x]
    else if x != 1 && y == 1 && z == 1 then apply "scaleX" [.number x]
    else if x == 1 && y != 1 && z == 1 then apply "scaleY" [.number y]
    else if x == 1 && y == 1 && z != 1 then apply "scaleZ" [.number z]
    else if z == 1 then apply "scale" [.number x, .number y]
    else plain

/-- A turn around an axis in space. -/
def turnInSpace (x y z : Float32) (angle : Atom) : Atom :=
  let plain := apply "rotate3d" [.number x, .number y, .number z, angle.bareZero]
  .either plain <|
    if x == 1 && y == 0 && z == 0 then apply "rotateX" [angle.bareZero]
    else if x == 0 && y == 1 && z == 0 then apply "rotateY" [angle.bareZero]
    else if x == 0 && y == 0 && z == 1 then apply "rotate" [angle.bareZero]
    else plain

/-- A skew along two axes. Its angles keep their units. -/
def skew (x y : Atom) : Atom :=
  let plain := apply "skew" (x :: if y.isZero then [] else [y])
  if x.isZero && !y.isZero then .either plain (apply "skewY" [y]) else plain

/-- The functions that transform, by their names in lower case. -/
def transformFunctions : List (Text × Reader Atom) := [
  ("matrix".toList, return apply "matrix" ((← exactly number 6).map Atom.number)),
  ("matrix3d".toList, return apply "matrix3d" ((← exactly number 16).map Atom.number)),
  ("translate".toList, do
    let x ← sizing
    return move x ((← maybe (behindComma sizing)).getD (.pixels 0))),
  ("translatex".toList, do
    let x ← sizing
    return .either (apply "translateX" [x]) (apply "translate" [x])),
  ("translatey".toList, return apply "translateY" [← sizing]),
  ("translatez".toList, return apply "translateZ" [← length]),
  ("translate3d".toList, do
    let x ← sizing
    let y ← behindComma sizing
    return moveInSpace x y (← behindComma length)),
  ("scale".toList, do
    let x ← factor
    return stretch x ((← maybe (behindComma factor)).getD x)),
  ("scalex".toList, return apply "scaleX" [← numberOrShare]),
  ("scaley".toList, return apply "scaleY" [← numberOrShare]),
  ("scalez".toList, return apply "scaleZ" [← numberOrShare]),
  ("scale3d".toList, do
    let x ← factor
    let y ← behindComma factor
    return stretchInSpace x y (← behindComma factor)),
  ("rotate".toList, return apply "rotate" [(← angleOrZero).bareZero]),
  ("rotatex".toList, return apply "rotateX" [(← angleOrZero).bareZero]),
  ("rotatey".toList, return apply "rotateY" [(← angleOrZero).bareZero]),
  ("rotatez".toList, do
    let angle := (← angleOrZero).bareZero
    return .either (apply "rotateZ" [angle]) (apply "rotate" [angle])),
  ("rotate3d".toList, do
    let x ← number
    let y ← behindComma number
    let z ← behindComma number
    return turnInSpace x y z (← behindComma angleOrZero)),
  ("skew".toList, do
    let x ← angleOrZero
    return skew x ((← maybe (behindComma angleOrZero)).getD (.pixels 0))),
  ("skewx".toList, do
    let angle := (← angleOrZero).bareZero
    return .either (apply "skewX" [angle]) (apply "skew" [angle])),
  ("skewy".toList, return apply "skewY" [(← angleOrZero).bareZero]),
  ("perspective".toList, return apply "perspective" [← length])]

/-- One of some functions. -/
def callOf (functions : List (Text × Reader Atom)) : Reader Atom :=
  call (functions.map Prod.fst) fun name => (functions.lookup name).getD failure

/-- A list of functions that transform, or the word for none. -/
def transforms : Reader (List Atom) :=
  first [
    do return [← keyword [noWord]],
    do return [.run false (← some1 (callOf transformFunctions))]]

/-- A move by its distances. -/
def movement : Reader (List Atom) :=
  first [
    do return [← keyword [noWord]],
    do
      let x ← sizing
      match ← maybe sizing with
      | some y =>
        let z := (← maybe length).getD (.pixels 0)
        return if !z.isZero then [x, y, z] else if !y.isZero then [x, y] else [x]
      | none => return [x]]

/-- The axis of a turn. -/
def axis : Reader (Float32 × Float32 × Float32) :=
  first [
    do word ['x']; return (1, 0, 0),
    do word ['y']; return (0, 1, 0),
    do word ['z']; return (0, 0, 1),
    do return (← number, ← number, ← number)]

/-- A turn by its axis and its angle, in either order. -/
def rotation : Reader (List Atom) :=
  first [
    do return [← keyword [noWord]],
    do
      let before ← maybe angle
      let (x, y, z) := (← maybe axis).getD (0, 0, 1)
      let angle ←
        match before with
        | some a => pure a
        | none => angle
      return around x y z angle]
where
  /-- A turn with the shortest form of its axis. -/
  around (x y z : Float32) (angle : Atom) : List Atom :=
    if x == 0 && y == 0 && z == 1 then if angle.isZero then [.keyword noWord] else [angle]
    else if x == 1 && y == 0 && z == 0 then [.keyword ['x'], angle]
    else if x == 0 && y == 1 && z == 0 then [.keyword ['y'], angle]
    else [.number x, .number y, .number z, angle]

/-- The number that an atom stands for as a factor. -/
def factorOf : Atom → Float32
  | .number x => x
  | .percentage x => x
  | _ => 1

/-- A stretch by its factors. -/
def scaling : Reader (List Atom) :=
  first [
    do return [← keyword [noWord]],
    do
      let x ← numberOrShare
      match ← maybe numberOrShare with
      | some y =>
        let z := (← maybe numberOrShare).getD (.number 1)
        return if factorOf z != 1 then [x, y, z] else if y == x then [x] else [x, y]
      | none => return [x]]

/-- A distance from which an element is seen. -/
def perspective : Reader Atom :=
  keyword [noWord] <|> length

/-- A function with at most one argument, which is left out if it is the usual one. -/
def optional (name : String) (r : Reader Atom) (usual : Atom → Bool) : Text × Reader Atom :=
  (name.toList, return apply name ((← maybe r).filter fun a => !usual a).toList)

/-- The functions that filter. -/
def filterFunctions : List (Text × Reader Atom) :=
  optional "blur" length (· == .pixels 0)
    :: optional "hue-rotate" angleOrZero Atom.isZero
    :: ("drop-shadow".toList, return .function "drop-shadow".toList [← shadow false false])
    :: (["brightness", "contrast", "grayscale", "invert", "opacity", "saturate", "sepia"].map
      fun name => optional name numberOrShare fun a => factorOf a == 1)

/-- A list of functions that filter, or the word for none. -/
def filters : Reader (List Atom) :=
  first [
    do return [← keyword [noWord]],
    do return [.run true (← some1 ((.url <$> url) <|> callOf filterFunctions))]]

end Reader

end Css

end ResponsiveImages
