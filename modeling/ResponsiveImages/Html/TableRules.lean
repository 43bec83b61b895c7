import ResponsiveImages.Html.BodyRules

/-!
# Rules for Tables and Selections

What tokens mean inside a table, where parts that were not written are
supplied and everything else is moved in front of the table, and inside a
`select` element, which holds options and text only.

Text in a table is collected until something else comes. If it is all white
space it stays; otherwise its chunks are moved out one by one.

## Main definitions

* `foster`: A token handled as in the body, with its content moved out of the
  table.
* `inTable`, `inTableText`, `inCaption`, `inColumnGroup`, `inTableBody`,
  `inRow`, `inCell`: The rules inside a table.
* `inSelect`, `inSelectInTable`: The rules inside a `select` element.
-/

namespace ResponsiveImages

namespace Html

open Text

/-- The tags of groups of rows. -/
def rowGroupTags : List Text :=
  ["tbody".toList, "tfoot".toList, "thead".toList]

/-- The tags of cells. -/
def cellTags : List Text :=
  ["td".toList, "th".toList]

/-- The tags that come between the table and its rows. -/
def columnTags : List Text :=
  ["caption".toList, "col".toList, "colgroup".toList]

/-- The tags of the parts of a table. -/
def partTags : List Text :=
  columnTags ++ rowGroupTags ++ cellTags ++ ["tr".toList]

/-- The tags of the elements around everything. -/
def outerTags : List Text :=
  ["body".toList, "html".toList]

namespace Construction

/-- The state with elements ended down to an element with one of the tags, or
    the root. -/
def clearTo (c : Construction) (tags : List Text) : Construction :=
  c.popDownTo (tags ++ ["html".toList, "template".toList])

/-- The state with an open caption ended. -/
def closeCaption (c : Construction) : Construction :=
  { (c.popTo ["caption".toList]).clearToMarker with mode := .inTable }

/-- The state with an open cell ended. -/
def closeCell (c : Construction) : Construction :=
  { (c.popTo cellTags).clearToMarker with mode := .inRow }

/-- The state with an open row ended. -/
def closeRow (c : Construction) : Construction :=
  { (c.clearTo ["tr".toList]).pop with mode := .inTableBody }

/-- The state with an open group of rows ended. -/
def closeRowGroup (c : Construction) : Construction :=
  { (c.clearTo rowGroupTags).pop with mode := .inTable }

/-- The state with an open table ended. -/
def closeTable (c : Construction) : Construction :=
  (c.popTo ["table".toList]).resetMode

/-- The state with an open selection ended. -/
def closeSelect (c : Construction) : Construction :=
  (c.popTo ["select".toList]).resetMode

/-- Whether an element with one of the tags is open in the innermost table. -/
def inTableScope (c : Construction) (tags : List Text) : Bool :=
  c.inScope .table tags

end Construction

/-- The outcome with its state changed. -/
def Outcome.map (f : Construction → Construction) : Outcome → Outcome
  | taken c => .taken (f c)
  | again c => .again (f c)

/-- A token handled as in the body, with its content moved out of the table. -/
def foster (c : Construction) (token : Token) : Outcome :=
  (inBody { c with fostering := true } token).map fun c => { c with fostering := false }

/-- Whether a tag is that of a hidden input field. -/
def Tag.hiddenInput (t : Tag) : Bool :=
  t.name == "input".toList
    && eqIgnoreCase ((t.attributes.lookup "type".toList).getD []) "hidden".toList

/-- A start tag in a table. -/
def startInTable (c : Construction) (t : Tag) : Outcome :=
  let cleared := c.clearTo ["table".toList]
  if t.name == "caption".toList then
    .taken { cleared.mark.insert t with mode := .inCaption }
  else if t.name == "colgroup".toList then .taken { cleared.insert t with mode := .inColumnGroup }
  else if t.name == "col".toList then
    .again { cleared.insertImplied "colgroup".toList with mode := .inColumnGroup }
  else if rowGroupTags.contains t.name then
    .taken { cleared.insert t with mode := .inTableBody }
  else if cellTags.contains t.name || t.name == "tr".toList then
    .again { cleared.insertImplied "tbody".toList with mode := .inTableBody }
  else if t.name == "table".toList then
    if c.inTableScope ["table".toList] then .again c.closeTable else .taken c
  else if t.isAny ["style".toList, "script".toList] then .taken ((c.headContent? t).getD c)
  else if t.hiddenInput then .taken (c.insertVoid t)
  else if t.name == "form".toList then
    if c.form.isSome then .taken c
    else
      let (c, i) := c.insertNumbered t
      .taken { c.pop with form := some i }
  else foster c (.startTag t)

/-- The rules for a table. -/
def inTable (c : Construction) (token : Token) : Outcome :=
  let collecting :=
    if c.currentIs tableParts then
      Outcome.again { c with tableText := [], outerMode := c.mode, mode := .inTableText }
    else foster c token
  match token with
  | .text _ => collecting
  | .null => collecting
  | .comment s => .taken (c.insertComment s)
  | .startTag t => startInTable c t
  | .endTag t =>
    if t.name == "table".toList then
      .taken (if c.inTableScope ["table".toList] then c.closeTable else c)
    else if (outerTags ++ partTags).contains t.name then .taken c
    else foster c token
  | .doctype _ | .fault => .taken c
  | .finish => inBody c token

/-- The state with a chunk of text moved out of the table. -/
def fosterText (c : Construction) (s : Text) : Construction :=
  match foster c (.text s) with
  | .taken c' => c'
  | .again c' => c'

/-- The rules for text in a table. -/
def inTableText (c : Construction) : Token → Outcome
  | .null => .taken c
  | .text s => .taken { c with tableText := s :: c.tableText }
  | _ =>
    let chunks := c.tableText.reverse
    let c := { c with tableText := [] }
    let c :=
      if chunks.all allSpace then chunks.foldl Construction.insertText c
      else chunks.foldl fosterText c
    .again { c with mode := c.outerMode }

/-- The rules for the caption of a table. -/
def inCaption (c : Construction) (token : Token) : Outcome :=
  let isOpen := c.inTableScope ["caption".toList]
  match token with
  | .startTag t =>
    if partTags.contains t.name then if isOpen then .again c.closeCaption else .taken c
    else inBody c token
  | .endTag t =>
    if t.name == "caption".toList then .taken (if isOpen then c.closeCaption else c)
    else if t.name == "table".toList then if isOpen then .again c.closeCaption else .taken c
    else if (outerTags ++ partTags).contains t.name then .taken c
    else inBody c token
  | _ => inBody c token

/-- The rules for a group of columns. -/
def inColumnGroup (c : Construction) (token : Token) : Outcome :=
  let isCurrent := c.currentIs ["colgroup".toList]
  let closed := { c.pop with mode := .inTable }
  let ended := if isCurrent then Outcome.again closed else .taken c
  match token with
  | .text s => if allSpace s then .taken (c.insertText s) else ended
  | .comment s => .taken (c.insertComment s)
  | .startTag t =>
    if t.name == "html".toList then .taken (c.mergeRoot t)
    else if t.name == "col".toList then .taken (c.insertVoid t)
    else ended
  | .endTag t =>
    if t.name == "colgroup".toList then .taken (if isCurrent then closed else c)
    else if t.name == "col".toList then .taken c
    else ended
  | .doctype _ | .fault => .taken c
  | .finish => inBody c token
  | .null => ended

/-- The rules for a group of rows. -/
def inTableBody (c : Construction) (token : Token) : Outcome :=
  let cleared := c.clearTo rowGroupTags
  let ended :=
    if c.inTableScope rowGroupTags then Outcome.again c.closeRowGroup else .taken c
  match token with
  | .startTag t =>
    if t.name == "tr".toList then .taken { cleared.insert t with mode := .inRow }
    else if cellTags.contains t.name then
      .again { cleared.insertImplied "tr".toList with mode := .inRow }
    else if (columnTags ++ rowGroupTags).contains t.name then ended
    else inTable c token
  | .endTag t =>
    if rowGroupTags.contains t.name then
      .taken (if c.inTableScope [t.name] then c.closeRowGroup else c)
    else if t.name == "table".toList then ended
    else if (outerTags ++ partTags).contains t.name then .taken c
    else inTable c token
  | _ => inTable c token

/-- The rules for a row. -/
def inRow (c : Construction) (token : Token) : Outcome :=
  let isOpen := c.inTableScope ["tr".toList]
  let ended := if isOpen then Outcome.again c.closeRow else .taken c
  match token with
  | .startTag t =>
    if cellTags.contains t.name then
      .taken { ((c.clearTo ["tr".toList]).insert t).mark with mode := .inCell }
    else if partTags.contains t.name then ended
    else inTable c token
  | .endTag t =>
    if t.name == "tr".toList then .taken (if isOpen then c.closeRow else c)
    else if t.name == "table".toList then ended
    else if rowGroupTags.contains t.name then
      if c.inTableScope [t.name] then ended else .taken c
    else if (outerTags ++ partTags).contains t.name then .taken c
    else inTable c token
  | _ => inTable c token

/-- The rules for a cell. -/
def inCell (c : Construction) (token : Token) : Outcome :=
  match token with
  | .startTag t =>
    if partTags.contains t.name then
      if c.inTableScope cellTags then .again c.closeCell else .taken c
    else inBody c token
  | .endTag t =>
    if cellTags.contains t.name then
      if c.inTableScope [t.name] then
        .taken { (c.popTo [t.name]).clearToMarker with mode := .inRow }
      else .taken c
    else if (outerTags ++ columnTags).contains t.name then .taken c
    else if t.isAny (["table".toList, "tr".toList] ++ rowGroupTags) then
      if c.inTableScope [t.name] then .again c.closeCell else .taken c
    else inBody c token
  | _ => inBody c token

/-- The state with an open option ended. -/
def closeOption (c : Construction) : Construction :=
  if c.currentIs ["option".toList] then c.pop else c

/-- A start tag in a selection. -/
def startInSelect (c : Construction) (t : Tag) : Outcome :=
  let isOpen := c.inScope .select ["select".toList]
  if t.name == "html".toList then .taken (c.mergeRoot t)
  else if t.name == "option".toList then .taken ((closeOption c).insert t)
  else if t.name == "optgroup".toList then
    let c := closeOption c
    .taken ((if c.currentIs ["optgroup".toList] then c.pop else c).insert t)
  else if t.name == "hr".toList then
    let c := closeOption c
    .taken ((if c.currentIs ["optgroup".toList] then c.pop else c).insertVoid t)
  else if t.name == "select".toList then .taken (if isOpen then c.closeSelect else c)
  else if t.isAny ["input".toList, "keygen".toList, "textarea".toList] then
    if isOpen then .again c.closeSelect else .taken c
  else if t.name == "script".toList then .taken ((c.headContent? t).getD c)
  else .taken c

/-- An end tag in a selection. -/
def endInSelect (c : Construction) (t : Tag) : Construction :=
  if t.name == "optgroup".toList then
    let inGroup := (c.stack[1]?).map c.tagOf == some "optgroup".toList
    let c := if inGroup then closeOption c else c
    if c.currentIs ["optgroup".toList] then c.pop else c
  else if t.name == "option".toList then closeOption c
  else if t.name == "select".toList && c.inScope .select ["select".toList] then c.closeSelect
  else c

/-- The rules for a selection. -/
def inSelect (c : Construction) : Token → Outcome
  | .text s => .taken (c.insertText s)
  | .comment s => .taken (c.insertComment s)
  | .startTag t => startInSelect c t
  | .endTag t => .taken (endInSelect c t)
  | _ => .taken c

/-- The tags that end a selection in a table. -/
def endsSelection : List Text :=
  ["caption".toList, "table".toList, "tr".toList] ++ rowGroupTags ++ cellTags

/-- The rules for a selection in a table. -/
def inSelectInTable (c : Construction) (token : Token) : Outcome :=
  match token with
  | .startTag t =>
    if endsSelection.contains t.name then .again c.closeSelect else inSelect c token
  | .endTag t =>
    if endsSelection.contains t.name then
      if c.inTableScope [t.name] then .again c.closeSelect else .taken c
    else inSelect c token
  | _ => inSelect c token

end Html

end ResponsiveImages
