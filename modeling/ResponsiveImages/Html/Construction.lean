import ResponsiveImages.Html.Token
import ResponsiveImages.Document.Builder

/-!
# Documents under Construction

The state in which markup is turned into a document. Elements whose end has
not been seen yet form a stack. What the next token means depends on a mode,
which says roughly where in the document its place would be, and on the stack:
many rules look for an element on it, but only down to elements that no
search may cross (`Boundary`).

Formatting elements that were never ended come back in later blocks. They are
kept in a list of their own, in which markers separate what belongs to
different table cells and embedded objects.

In a table there is no place for text and most elements. While `fostering` is
set, they are inserted in front of the table instead.

## Main definitions

* `Mode`: Where the next token has its place.
* `Construction`: The state.
* `Boundary`, `Construction.inScope`: Looking for an open element.
* `Construction.insert`, `Construction.insertText`: Adding to the document.
* `Construction.popTo`, `Construction.popImplied`: Ending elements.
* `Construction.reconstruct`: Reopening formatting elements.
-/

namespace ResponsiveImages

namespace Html

open Text

/-- Where the next token has its place. -/
inductive Mode where
  | initial
  | beforeHtml
  | beforeHead
  | inHead
  | afterHead
  | inBody
  /-- Inside an element that holds nothing but text. -/
  | inText
  | inTable
  | inTableText
  | inCaption
  | inColumnGroup
  | inTableBody
  | inRow
  | inCell
  | inSelect
  | inSelectInTable
  | afterBody
  | afterAfterBody
  deriving DecidableEq, Repr

/-- A formatting element, or a marker that ends the search for one. -/
inductive Formatting where
  | marker
  | element (i : NodeId) (t : Tag)
  deriving DecidableEq, Repr

/-- Whether a formatting entry has the name and the attributes of a tag, the latter
    in any order. -/
def Formatting.alike (t : Tag) : Formatting → Bool
  | .marker => false
  | .element _ t' =>
    t'.name == t.name && t'.attributes.length == t.attributes.length
      && t'.attributes.all t.attributes.contains

/-- The state in which markup is turned into a document. -/
structure Construction where
  document : Document := {}
  mode : Mode := .initial
  /-- The mode to go back to from text. -/
  outerMode : Mode := .initial
  /-- How the text after the current token is read. -/
  textMode : TextMode := .ordinary
  /-- The open elements, the innermost first. -/
  stack : List NodeId := []
  /-- The formatting elements and markers, the latest first. -/
  formatting : List Formatting := []
  head : Option NodeId := none
  form : Option NodeId := none
  /-- Content of tables that has no place there is inserted in front of them. -/
  fostering : Bool := false
  /-- The chunks of text read in a table, the latest first. -/
  tableText : List Text := []
  /-- A line feed at the beginning of the next chunk is dropped. -/
  dropNewline : Bool := false
  /-- The document is laid out by the rules of old. -/
  oldLayout : Bool := false

namespace Construction

/-- The tag of an element. -/
def tagOf (c : Construction) (i : NodeId) : Text :=
  ((c.document.element? i).map Element.tag).getD []

/-- The innermost open element. -/
def current? (c : Construction) : Option NodeId :=
  c.stack.head?

/-- The tag of the innermost open element. -/
def currentTag (c : Construction) : Text :=
  (c.current?.map c.tagOf).getD []

/-- Whether the innermost open element has one of the given tags. -/
def currentIs (c : Construction) (tags : List Text) : Bool :=
  tags.contains c.currentTag

end Construction

/-- The tags a search of the stack stops at. -/
inductive Boundary where
  | ordinary
  | listItem
  | button
  | table
  | select
  deriving DecidableEq, Repr

/-- The tags that end every ordinary search. -/
def scopeTags : List Text :=
  ["applet".toList, "caption".toList, "html".toList, "table".toList, "td".toList,
    "th".toList, "marquee".toList, "object".toList, "template".toList]

/-- Whether a search ends at a tag. -/
def Boundary.stopsAt (b : Boundary) (tag : Text) : Bool :=
  match b with
  | ordinary => scopeTags.contains tag
  | listItem => scopeTags.contains tag || ["ol".toList, "ul".toList].contains tag
  | button => scopeTags.contains tag || tag == "button".toList
  | table => ["html".toList, "table".toList, "template".toList].contains tag
  | select => tag != "optgroup".toList && tag != "option".toList

/-- The tags of table parts, around which text has no place. -/
def tableParts : List Text :=
  ["table".toList, "tbody".toList, "tfoot".toList, "thead".toList, "tr".toList]

/-- The tags of headings. -/
def headingTags : List Text :=
  ["h1".toList, "h2".toList, "h3".toList, "h4".toList, "h5".toList, "h6".toList]

/-- The tags of elements that end without an end tag. -/
def impliedEndTags : List Text :=
  ["dd".toList, "dt".toList, "li".toList, "option".toList, "optgroup".toList, "p".toList,
    "rb".toList, "rp".toList, "rt".toList, "rtc".toList]

/-- The tags of elements that are more than formatting and phrases. -/
def specialTags : List Text :=
  ["address".toList, "applet".toList, "area".toList, "article".toList, "aside".toList,
    "base".toList, "basefont".toList, "bgsound".toList, "blockquote".toList, "body".toList,
    "br".toList, "button".toList, "caption".toList, "center".toList, "col".toList,
    "colgroup".toList, "dd".toList, "details".toList, "dir".toList, "div".toList,
    "dl".toList, "dt".toList, "embed".toList, "fieldset".toList, "figcaption".toList,
    "figure".toList, "footer".toList, "form".toList, "frame".toList, "frameset".toList,
    "h1".toList, "h2".toList, "h3".toList, "h4".toList, "h5".toList, "h6".toList,
    "head".toList, "header".toList, "hgroup".toList, "hr".toList, "html".toList,
    "iframe".toList, "img".toList, "input".toList, "isindex".toList, "li".toList,
    "link".toList, "listing".toList, "main".toList, "marquee".toList, "menu".toList,
    "meta".toList, "nav".toList, "noembed".toList, "noframes".toList, "noscript".toList,
    "object".toList, "ol".toList, "p".toList, "param".toList, "plaintext".toList,
    "pre".toList, "script".toList, "search".toList, "section".toList, "select".toList,
    "source".toList, "style".toList, "summary".toList, "table".toList, "tbody".toList, "td".toList,
    "template".toList, "textarea".toList, "tfoot".toList, "th".toList, "thead".toList,
    "title".toList, "tr".toList, "track".toList, "ul".toList, "wbr".toList, "xmp".toList]

namespace Construction

/-- The first of some open elements that meets a condition, looked for down to a
    boundary. The boundary itself may still meet it. -/
def search? (c : Construction) (b : Boundary) (p : NodeId → Bool) : List NodeId → Option NodeId
  | [] => none
  | i :: rest =>
    if p i then some i
    else if b.stopsAt (c.tagOf i) then none
    else search? c b p rest

/-- Whether an open element with one of the tags is found before a boundary. -/
def inScope (c : Construction) (b : Boundary) (tags : List Text) : Bool :=
  (c.search? b (fun i => tags.contains (c.tagOf i)) c.stack).isSome

/-- Whether an open element is found before an ordinary boundary. -/
def nodeInScope (c : Construction) (node : NodeId) : Bool :=
  (c.search? .ordinary (· == node) c.stack).isSome

/-- The state with the innermost element ended. -/
def pop (c : Construction) : Construction :=
  { c with stack := c.stack.drop 1 }

/-- The state with elements ended up to and including one that has one of the
    given tags. -/
def popTo (c : Construction) (tags : List Text) : Construction :=
  { c with stack := (c.stack.dropWhile fun i => !tags.contains (c.tagOf i)).drop 1 }

/-- The state with elements ended down to one that has one of the given tags,
    which stays open. -/
def popDownTo (c : Construction) (tags : List Text) : Construction :=
  { c with stack := c.stack.dropWhile fun i => !tags.contains (c.tagOf i) }

/-- The state with the innermost elements ended that need no end tag, except for
    some. -/
def popImplied (c : Construction) (except : List Text) : Construction :=
  { c with
    stack := c.stack.dropWhile fun i =>
      impliedEndTags.contains (c.tagOf i) && !except.contains (c.tagOf i) }

/-- The state with an open paragraph ended, if there is one. -/
def closeParagraph (c : Construction) : Construction :=
  if c.inScope .button ["p".toList] then c.popTo ["p".toList] else c

/-- The innermost open table and the element around it. -/
def innermostTable? (c : Construction) : List NodeId → Option (NodeId × NodeId)
  | i :: outer :: rest =>
    if c.tagOf i == "table".toList then some (i, outer)
    else innermostTable? c (outer :: rest)
  | _ => none

/-- The state with a piece at the place for new content. -/
def insertPiece (c : Construction) (piece : Piece) : Construction :=
  match c.current? with
  | none => c
  | some current =>
    if c.fostering && tableParts.contains (c.tagOf current) then
      match c.innermostTable? c.stack with
      | some (table, outer) =>
        { c with document := c.document.insertNear table outer piece }
      | none => { c with document := c.document.appendPiece current piece }
    else { c with document := c.document.appendPiece current piece }

/-- The state with text at the place for new content. -/
def insertText (c : Construction) (s : Text) : Construction :=
  if s.isEmpty then c else c.insertPiece (.text s)

/-- The state with a new node that is nowhere yet, and its number. -/
def create (c : Construction) (content : Content) : Construction × NodeId :=
  let (document, i) := c.document.create content
  ({ c with document }, i)

/-- The state with a comment at the end of a node. -/
def commentIn (c : Construction) (parent : NodeId) (s : Text) : Construction :=
  { c with document := (c.document.appendNew parent (.comment s)).1 }

/-- The state with a comment at the place for new content. -/
def insertComment (c : Construction) (s : Text) : Construction :=
  let (c, i) := c.create (.comment s)
  c.insertPiece (.node i)

/-- The element of a tag. -/
def elementOf (t : Tag) : Element where
  tag := t.name
  attributes := t.attributes

/-- The state with the element of a tag inserted and open, and its number. -/
def insertNumbered (c : Construction) (t : Tag) : Construction × NodeId :=
  let (c, i) := c.create (.element (elementOf t))
  let c := c.insertPiece (.node i)
  ({ c with stack := i :: c.stack }, i)

/-- The state with the element of a tag inserted and open. -/
def insert (c : Construction) (t : Tag) : Construction :=
  (c.insertNumbered t).1

/-- The state with the element of a tag inserted and ended. -/
def insertVoid (c : Construction) (t : Tag) : Construction :=
  (c.insert t).pop

/-- The state with an element inserted and open that no tag was written for. -/
def insertImplied (c : Construction) (name : Text) : Construction :=
  c.insert { name }

/-- The state with an element inserted that holds text only. -/
def insertTextHolder (c : Construction) (t : Tag) (textMode : TextMode) : Construction :=
  { c.insert t with mode := .inText, outerMode := c.mode, textMode }

/-- Whether a formatting entry is in need of being reopened. -/
def needsReopening (c : Construction) : Formatting → Bool
  | .marker => false
  | .element i _ => !c.stack.contains i

/-- The state with formatting elements reopened that were ended by the end of
    some other element. The latest entries that are not open are reopened, from
    the earliest of them on. -/
def reconstruct (c : Construction) : Construction :=
  let closed := c.formatting.takeWhile c.needsReopening
  let kept := c.formatting.dropWhile c.needsReopening
  closed.reverse.foldl
    (fun c entry =>
      match entry with
      | .marker => c
      | .element _ t =>
        let (c, i) := c.insertNumbered t
        { c with formatting := .element i t :: c.formatting })
    { c with formatting := kept }

/-- The formatting entries with room for one more with a tag: of three that are
    alike since the last marker, the earliest is left out. -/
def makeRoom (t : Tag) (entries : List Formatting) : List Formatting :=
  let recent := entries.takeWhile (· != .marker)
  if (recent.filter (Formatting.alike t)).length < 3 then entries
  else
    let later := recent.reverse.dropWhile fun entry => !entry.alike t
    let earlier := recent.reverse.takeWhile fun entry => !entry.alike t
    (earlier ++ later.drop 1).reverse ++ entries.dropWhile (· != .marker)

/-- The state with a formatting element inserted and remembered. -/
def insertFormatting (c : Construction) (t : Tag) : Construction :=
  let c := c.reconstruct
  let (c, i) := { c with formatting := makeRoom t c.formatting }.insertNumbered t
  { c with formatting := .element i t :: c.formatting }

/-- The state with a marker among the formatting elements. -/
def mark (c : Construction) : Construction :=
  { c with formatting := .marker :: c.formatting }

/-- The state without the formatting elements since the last marker. -/
def clearToMarker (c : Construction) : Construction :=
  { c with formatting := (c.formatting.dropWhile (· != .marker)).drop 1 }

/-- The latest formatting element with a tag, since the last marker. -/
def activeFormatting? (c : Construction) (name : Text) : Option NodeId :=
  (c.formatting.takeWhile (· != .marker)).findSome? fun entry =>
    match entry with
    | .element i t => if t.name == name then some i else none
    | .marker => none

/-- The state with a node forgotten as a formatting element. -/
def forget (c : Construction) (i : NodeId) : Construction :=
  { c with
    formatting := c.formatting.filter fun entry =>
      match entry with
      | .element j _ => i != j
      | .marker => true }

/-- The state with attributes added to an element that does not have them. -/
def addMissing (c : Construction) (i : NodeId) (t : Tag) : Construction :=
  { c with document := c.document.addMissingAttributes i t.attributes }

end Construction

end Html

end ResponsiveImages
