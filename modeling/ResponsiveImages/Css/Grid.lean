import ResponsiveImages.Css.Alignment

/-!
# Grids

Values that divide a container into tracks between lines, and that place an
element between two of the lines.

A list of tracks has the names of lines in square brackets, which need no
space in front of them. A line is given by its number, its name or both, or by how
many lines it is away from the opposite one. The line at the end is left out
if it follows from the one at the start.

## Main definitions

* `TrackList`: The tracks of a grid.
* `Reader.trackList`, `Reader.trackSizes`: Reading tracks.
* `GridLine`: One side of a place in a grid.
* `Reader.gridSpan`, `Reader.gridArea`: A place in a grid.
-/

namespace ResponsiveImages

namespace Css

open Text

/-- A track with the names of the line in front of it. -/
structure Track where
  names : List Text
  size : Atom
  /-- It stands for several tracks. -/
  repeated : Bool
  deriving BEq

/-- Tracks with the names of the line behind the last one. -/
structure TrackList where
  tracks : List Track
  last : List Text
  deriving BEq

/-- The names of a line as they are written. No names leave nothing behind. -/
def lineNamesText (names : List Text) : Text :=
  if names.isEmpty then [] else '[' :: joinWith [' '] (names.map identText) ++ [']']

namespace TrackList

/-- Tracks as they are written, given whether they are the first ones. -/
def textFrom (layout : Layout) (first : Bool) : List Track → Text
  | [] => []
  | t :: rest =>
    let gap := if !t.names.isEmpty then layout.space else if first then [] else [' ']
    lineNamesText t.names ++ gap ++ t.size.text layout ++ textFrom layout false rest

/-- A list of tracks as it is written. -/
def text (layout : Layout) (l : TrackList) : Text :=
  textFrom layout true l.tracks ++ lineNamesText l.last

/-- A list of tracks as an atom. -/
def atom (l : TrackList) : Atom :=
  .spelled (l.text .ordinary) (l.text .compact)

end TrackList

namespace Reader

/-- A share of the room that is left, in its own unit. -/
def fraction : Reader Atom :=
  one fun
    | .token (.dimension n unit) =>
      let x := n.value.toFloat32
      if eqIgnoreCase unit "fr".toList && decide (0 ≤ x) then
        some (.spelled (dimensionText x "fr".toList) (dimensionText x "fr".toList))
      else none
    | _ => none

/-- The width of a track, except that it may not be a share. -/
def fixedBreadth : Reader Atom :=
  sizing <|> keywordIn "auto min-content max-content"

/-- The width of a track. -/
def breadth : Reader Atom :=
  first [sizing, fraction, fixedBreadth]

/-- The size of a track. -/
def trackSize : Reader Atom :=
  first [
    breadth,
    call ["minmax".toList] fun name => do
      let least ← fixedBreadth
      comma
      return .call name [least, ← breadth],
    limitedSize]

/-- The names of a line. -/
def lineNames : Reader (List Text) :=
  one fun
    | .block .square body => (many customName).whole? body
    | _ => none

/-- The names of a line, if there are any. -/
def lineNamesIfAny : Reader (List Text) :=
  return (← maybe lineNames).getD []

/-- Tracks up to a number of them. -/
def tracksUpTo (size : Reader (Atom × Bool)) : Nat → Reader TrackList
  | 0 => return ⟨[], []⟩
  | n + 1 => do
    let names ← lineNamesIfAny
    match ← maybe size with
    | some (size', repeated) =>
      let l ← tracksUpTo size n
      return { l with tracks := ⟨names, size', repeated⟩ :: l.tracks }
    | none => return ⟨[], names⟩

/-- As many tracks as there are. -/
def tracks (size : Reader (Atom × Bool)) : Reader TrackList := do
  tracksUpTo size ((← get).length + 1)

/-- Tracks that are repeated. -/
def repeatedTracks : Reader Atom :=
  call ["repeat".toList] fun name => do
    let count ← keywordIn "auto-fill auto-fit" <|> (.integer <$> integer)
    comma
    return .call name [count, (← tracks (return (← trackSize, false))).atom]

/-- A list of at least one track. -/
def trackListGiven : Reader TrackList := do
  let l ← tracks ((return (← trackSize, false)) <|> return (← repeatedTracks, true))
  if l.tracks.isEmpty then failure else return l

/-- A list of tracks, or the word for none. -/
def trackList : Reader (Option TrackList) :=
  first [
    do
      word noWord
      return none,
    some <$> trackListGiven]

/-- Sizes of tracks. Without any there is one that is computed. -/
def trackSizes : Reader (List Atom) := do
  let sizes ← many trackSize
  return if sizes.isEmpty then [.keyword auto] else sizes

end Reader

/-- A list of tracks, or the word for none, as it is written. -/
def trackListText (layout : Layout) (l : Option TrackList) : Text :=
  (l.map (TrackList.text layout)).getD noWord

/-- One side of a place in a grid. -/
inductive GridLine where
  | auto
  /-- The side of a named area. -/
  | area (name : Text)
  | line (index : Int) (name : Option Text)
  /-- A number of lines away from the opposite side. -/
  | span (count : Int) (name : Option Text)
  deriving BEq

namespace GridLine

/-- Reading a number and a name in either order, of which one may be missing. -/
def readIndex : Reader (Option Int × Option Text) :=
  Reader.first [
    do
      let index ← Reader.integer
      return (some index, ← Reader.maybe Reader.customName),
    do
      let name ← Reader.customName
      return (← Reader.maybe Reader.integer, some name)]

/-- Reading a line by its number, its name or both. -/
def readLine : Reader GridLine := do
  match ← readIndex with
  | (some index, name) => return line index name
  | (none, some name) => return area name
  | (none, none) => failure

/-- Reading a line. -/
def read : Reader GridLine := do
  match ← Reader.maybe (Reader.word Css.auto) with
  | some () => return auto
  | none =>
    match ← Reader.behind "span".toList readIndex with
    | some (count, name) => return span (count.getD 1) name
    | none => readLine

/-- A line as it is written. -/
def atoms : GridLine → List Atom
  | auto => [.keyword Css.auto]
  | area name => [.name name]
  | line index name => .integer index :: (name.map Atom.name).toList
  | span count name =>
    .keyword "span".toList
      :: (if count == 1 && name.isSome then [] else [.integer count])
      ++ (name.map Atom.name).toList

/-- The opposite line, unless it is given. -/
def opposite : GridLine → GridLine
  | area name => area name
  | _ => auto

/-- Lines as they are written, without those that follow from earlier ones. Each line
    comes with the one that it follows from. -/
def joined : List (GridLine × GridLine) → List Atom
  | [] => []
  | (l, source) :: rest =>
    let behind := joined rest
    if behind.isEmpty && l == source.opposite then []
    else .slash :: l.atoms ++ behind

end GridLine

namespace Reader

/-- A line behind a slash, or else the one that follows from another line. -/
def oppositeOf (l : GridLine) : Reader GridLine := do
  return (← maybe (do slash; GridLine.read)).getD l.opposite

/-- A place on one axis of a grid. -/
def gridSpan : Reader (List Atom) := do
  let first ← GridLine.read
  let last ← oppositeOf first
  return first.atoms ++ GridLine.joined [(last, first)]

/-- A place in a grid. -/
def gridArea : Reader (List Atom) := do
  let top ← GridLine.read
  let left ← oppositeOf top
  let bottom ← oppositeOf top
  let right ← oppositeOf left
  return top.atoms ++ GridLine.joined [(left, top), (bottom, top), (right, left)]

end Reader

end Css

end ResponsiveImages
