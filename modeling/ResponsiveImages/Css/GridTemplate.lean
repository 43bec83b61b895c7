import ResponsiveImages.Css.Grid

/-!
# Grid Templates

A template draws the areas of a grid with strings: each string is a row, and
each word in it names the area that a cell belongs to. Dots stand for a cell
of no area. Next to each row there may be its size and the names of the lines
around it, and behind a slash there are the columns.

In the ordinary layout every row stands on a line of its own, below the first
one. In the compact layout rows need no space between them, and neither does a
dot next to a word.

## Main definitions

* `AreaRow`, `areaRow?`: The cells of a row.
* `GridTemplate`: Rows, columns and areas.
* `GridTemplate.read`, `GridTemplate.text`: Reading and writing a template.
* `Reader.gridAreas`, `Reader.gridTemplate`, `Reader.grid`: The values of properties.
-/

namespace ResponsiveImages

namespace Css

open Text

/-- The cells of a row, each with the area it belongs to. -/
abbrev AreaRow := List (Option Text)

/-- The characters that the name of an area consists of. -/
def inAreaName (c : Char) : Bool :=
  c.isAlphanum || c == '_' || c == '-' || 128 ≤ c.toNat

/-- The characters between the cells of a row. -/
def betweenAreas (c : Char) : Bool :=
  c == ' ' || c == '\t' || c == '\n' || c == '\x0c' || c == '\r'

/-- The cells of a row up to a number of them. -/
def areaCells? : Nat → Text → Option AreaRow
  | 0, _ => none
  | fuel + 1, s =>
    match s.dropWhile betweenAreas with
    | [] => some []
    | c :: rest =>
      if c = '.' then (areaCells? fuel (rest.dropWhile (· == '.'))).map (none :: ·)
      else if inAreaName c then
        (areaCells? fuel (rest.dropWhile inAreaName)).map
          (some (c :: rest.takeWhile inAreaName) :: ·)
      else none

/-- The cells of a row, of which there has to be one. -/
def areaRow? (s : Text) : Option AreaRow :=
  (areaCells? (s.length + 1) s).filter fun cells => !cells.isEmpty

/-- The cells of a row as they are written, given the one in front of them. -/
def areaCellsText (layout : Layout) (before : Option Text) : AreaRow → Text
  | [] => []
  | cell :: rest =>
    let apart := layout == .ordinary || before.isSome == cell.isSome
    (if apart then [' '] else []) ++ cell.getD ['.'] ++ areaCellsText layout cell rest

/-- A row as it is written. -/
def areaRowText (layout : Layout) : AreaRow → Text
  | [] => "\x22\x22".toList
  | cell :: rest => '\x22' :: cell.getD ['.'] ++ areaCellsText layout cell rest ++ ['\x22']

/-- A row of areas, with its size and the names of the line in front of it. -/
structure TemplateRow where
  names : List Text
  cells : AreaRow
  size : Atom

/-- Rows, columns and areas. -/
inductive GridTemplate where
  /-- Rows and columns without areas. -/
  | plain (rows columns : Option TrackList)
  /-- Rows of areas, the names of the line behind the last one, and columns. -/
  | areas (rows : List TemplateRow) (last : List Text) (columns : Option TrackList)

namespace GridTemplate

open Reader

/-- A row of cells. -/
def readCells : Reader AreaRow := do
  match areaRow? (← string) with
  | some cells => return cells
  | none => failure

/-- Rows of areas up to a number of them, given the names of the line in front of them, and the
    names of the line behind them. The names on both sides of a line end belong together. -/
def readRows : Nat → List Text → Reader (List TemplateRow × List Text)
  | 0, names => return ([], names)
  | fuel + 1, names => do
    let names := names ++ (← lineNamesIfAny)
    match ← maybe readCells with
    | some cells =>
      let size := (← maybe trackSize).getD (.keyword auto)
      let (rows, last) ← readRows fuel (← lineNamesIfAny)
      return (⟨names, cells, size⟩ :: rows, last)
    | none => return ([], names)

/-- Whether all rows have the same number of cells. -/
def isEven (rows : List TemplateRow) : Bool :=
  match rows with
  | [] => true
  | r :: rest => rest.all fun r' => r'.cells.length = r.cells.length

/-- Reading a template of areas. Its columns may not be repeated. -/
def readAreas : Reader GridTemplate := do
  let (rows, last) ← readRows ((← get).length + 1) []
  if rows.isEmpty || !isEven rows then failure
  match ← maybe slash with
  | some () =>
    let columns ← trackListGiven
    if columns.tracks.any Track.repeated then failure
    return areas rows last (some columns)
  | none => return areas rows last none

/-- Whether there is a string among components. -/
def hasString (cs : List Component) : Bool :=
  cs.any fun
    | .token (.string _) => true
    | _ => false

/-- Reading a template. The word for none in place of the rows stands for all of it. -/
def read : Reader GridTemplate := do
  match ← maybe (word noWord) with
  | some () => if ← atEnd then return plain none none else failure
  | none =>
    if hasString (← get) then readAreas
    else
      let rows ← trackListGiven
      slash
      return plain (some rows) (← trackList)

/-- What stands between two rows: the end of a line, and room to stand below the first one. -/
def lineEnd (layout : Layout) (indent : Nat) : Text :=
  match layout with
  | .ordinary => '\n' :: List.replicate indent ' '
  | .compact => []

/-- The names of the line in front of a row as they are written, given whether it is the first
    row. Two names are taken for the end of one row and the beginning of the next. -/
def rowNamesText (layout : Layout) (indent : Nat) (first : Bool) (names : List Text) : Text :=
  match layout, names with
  | _, [] => if first then [] else lineEnd layout indent
  | .ordinary, [a, b] =>
    ' ' :: lineNamesText [a] ++ lineEnd layout indent ++ lineNamesText [b] ++ [' ']
  | _, names =>
    (if first then [] else lineEnd layout indent) ++ lineNamesText names ++ layout.space

/-- Rows as they are written, given whether they are the first ones. -/
def rowsText (layout : Layout) (indent : Nat) (first : Bool) : List TemplateRow → Text
  | [] => []
  | r :: rest =>
    let size := if r.size == .keyword auto then [] else layout.space ++ r.size.text layout
    rowNamesText layout indent first r.names ++ areaRowText layout r.cells ++ size
      ++ rowsText layout indent false rest

/-- A template as it is written, with further lines below the first one. -/
def text (layout : Layout) (indent : Nat) : GridTemplate → Text
  | plain none none => noWord
  | plain rows columns =>
    trackListText layout rows ++ layout.operator '/' ++ trackListText layout columns
  | areas rows last columns =>
    let broken := 1 < rows.length || rows.any fun r => r.names.length == 2
    rowsText layout indent true rows
      ++ (if last.isEmpty then [] else layout.space ++ lineNamesText last)
      ++ match columns with
        | some l =>
          lineEnd layout (if broken then indent else 0) ++ '/' :: layout.space ++ l.text layout
        | none => []

/-- A template as an atom. -/
def atom (indent : Nat) (t : GridTemplate) : Atom :=
  .spelled (t.text .ordinary indent) (t.text .compact indent)

end GridTemplate

namespace Reader

/-- The areas of a grid as they are written. -/
def areasText (layout : Layout) : List AreaRow → Text
  | [] => []
  | row :: rest =>
    areaRowText layout row
      ++ rest.flatMap fun r => GridTemplate.lineEnd layout 21 ++ areaRowText layout r

/-- The areas of a grid. Further rows stand below the first one, behind the name of the
    property. -/
def gridAreas : Reader Atom :=
  first [
    keyword [noWord],
    do
      let rows ← many GridTemplate.readCells
      let columns := (rows.head?.map List.length).getD 0
      if rows.all fun r => r.length = columns then
        return .spelled (areasText .ordinary rows) (areasText .compact rows)
      else failure]

/-- The rows, columns and areas of a grid. -/
def gridTemplate : Reader Atom :=
  (GridTemplate.atom 15) <$> GridTemplate.read

/-- The word for tracks that are made as they are needed, and whether holes are filled. -/
def autoFlow : Reader (List Atom) :=
  let flow : Text := "auto-flow".toList
  let dense : Text := "dense".toList
  first [
    do
      word flow
      match ← maybe (word dense) with
      | some () => return [.keyword flow, .keyword dense]
      | none => return [.keyword flow],
    do
      word dense
      word flow
      return [.keyword flow, .keyword dense]]

/-- The sizes of tracks that are made as they are needed, unless they are computed. -/
def autoSizes : Reader (List Atom) :=
  return beyond [.keyword auto] (← trackSizes)

/-- Tracks as an atom. -/
def trackListAtom : Reader Atom := do
  let l ← trackList
  return .spelled (trackListText .ordinary l) (trackListText .compact l)

/-- A grid: a template, or tracks on one axis while those on the other are made as they are
    needed. -/
def grid : Reader (List Atom) :=
  first [
    do
      let template ← GridTemplate.read
      return [template.atom 6],
    do
      let rows ← trackListAtom
      slash
      let flow ← autoFlow
      return rows :: .slash :: flow ++ (← autoSizes),
    do
      let flow ← autoFlow
      let sizes ← autoSizes
      slash
      let columns ← trackList
      if flow.length = 1 && sizes.isEmpty then
        return [(GridTemplate.plain none columns).atom 6]
      else
        return flow ++ sizes
          ++ [.slash, .spelled (trackListText .ordinary columns) (trackListText .compact columns)]]

end Reader

end Css

end ResponsiveImages
