import ResponsiveImages.Html.Construction

/-!
# Rules for Head and Body

What tokens mean in the head and in the body of a document. Nothing is ever
refused: missing elements are supplied, and tags without a meaning are
dropped.

A rule either takes the token, or changes the state and has the token read
again under the rules of the new mode (`Outcome`).

A formatting element whose end tag comes after the beginning of a block it
contains stays open; only ends that nest properly, or that end other phrases
along with them, have an effect.

## Main definitions

* `Outcome`: The outcome of a rule.
* `Construction.headContent?`: Elements that belong into the head.
* `Construction.resetMode`: The mode that the open elements call for.
* `startInBody`, `endInBody`, `inBody`: The rules for the body.
* `initial`, `beforeHtml`, `beforeHead`, `inHead`, `afterHead`, `inText`,
  `afterBody`, `afterAfterBody`: The rules for the other modes outside tables.
-/

namespace ResponsiveImages

namespace Html

open Text

/-- The outcome of a rule. -/
inductive Outcome where
  | taken (c : Construction)
  /-- The token is to be read again. -/
  | again (c : Construction)

/-- Whether a text holds nothing but the white space of markup. -/
def allSpace (s : Text) : Bool :=
  s.all isSpace

/-- Whether a tag has one of the given names. -/
def Tag.isAny (t : Tag) (names : List Text) : Bool :=
  names.contains t.name

/-- Whether a token is the end tag of one of the elements that stand in for a
    missing body. -/
def endsOutside (t : Tag) : Bool :=
  t.isAny ["body".toList, "html".toList, "br".toList]

namespace Construction

/-- The state with the attributes of a repeated root tag added to the root. -/
def mergeRoot (c : Construction) (t : Tag) : Construction :=
  match c.stack.getLast? with
  | some i => c.addMissing i t
  | none => c

/-- The state with the attributes of a repeated body tag added to the body. -/
def mergeBody (c : Construction) (t : Tag) : Construction :=
  match c.stack.dropLast.getLast? with
  | some i => if c.tagOf i == "body".toList then c.addMissing i t else c
  | none => c

/-- The state with the root element created. -/
def insertRoot (c : Construction) (t : Tag) : Construction :=
  let (c, i) := c.create (.element (elementOf t))
  { c with
    document := c.document.append Document.root i
    stack := [i]
    mode := .beforeHead }

/-- The state with the head created. -/
def insertHead (c : Construction) (t : Tag) : Construction :=
  let (c, i) := c.insertNumbered t
  { c with head := some i, mode := .inHead }

/-- The state with the content of the head added that a tag begins, if it begins
    any. -/
def headContent? (c : Construction) (t : Tag) : Option Construction :=
  if t.isAny ["base".toList, "basefont".toList, "bgsound".toList, "link".toList,
      "meta".toList] then
    some (c.insertVoid t)
  else if t.name == "title".toList then some (c.insertTextHolder t (.escapable t.name))
  else if t.isAny ["noframes".toList, "style".toList, "noscript".toList] then
    some (c.insertTextHolder t (.raw t.name))
  else if t.name == "script".toList then some (c.insertTextHolder t .script)
  else none

/-- The mode that an open element calls for, if it calls for one. -/
def modeOf? (c : Construction) (tag : Text) (outer : List NodeId) : Option Mode :=
  if tag == "select".toList then
    some
      (if outer.any fun i => c.tagOf i == "table".toList then .inSelectInTable else .inSelect)
  else if ["td".toList, "th".toList].contains tag then some .inCell
  else if tag == "tr".toList then some .inRow
  else if ["tbody".toList, "thead".toList, "tfoot".toList].contains tag then some .inTableBody
  else if tag == "caption".toList then some .inCaption
  else if tag == "colgroup".toList then some .inColumnGroup
  else if tag == "table".toList then some .inTable
  else if tag == "head".toList then some .inHead
  else if tag == "body".toList then some .inBody
  else if tag == "html".toList then some (if c.head.isSome then .afterHead else .beforeHead)
  else none

/-- The mode that the innermost of some open elements calls for. -/
def modeOfAll (c : Construction) : List NodeId → Mode
  | [] => .inBody
  | i :: outer =>
    match c.modeOf? (c.tagOf i) outer with
    | some m => m
    | none => modeOfAll c outer

/-- The state with the mode that the open elements call for. -/
def resetMode (c : Construction) : Construction :=
  { c with mode := c.modeOfAll c.stack }

/-- The state with an open list item ended so that the next one can begin. The
    search for it ends at the innermost block that may hold a list. -/
def closeItem (c : Construction) (items : List Text) : Construction :=
  let stops (i : NodeId) : Bool :=
    items.contains (c.tagOf i) ||
      (specialTags.contains (c.tagOf i)
        && !(["address".toList, "div".toList, "p".toList].contains (c.tagOf i)))
  match c.stack.find? stops with
  | some i => if items.contains (c.tagOf i) then c.popTo [c.tagOf i] else c
  | none => c

/-- The state with an element ended by an end tag that has no rule of its own. A
    block that is open inside it keeps it open. -/
def closeAny (c : Construction) (name : Text) : Construction :=
  match c.stack.find? fun i => c.tagOf i == name || specialTags.contains (c.tagOf i) with
  | some i => if c.tagOf i == name then c.popTo [name] else c
  | none => c

/-- The state with a formatting element ended. -/
def closeFormatting (c : Construction) (name : Text) : Construction :=
  match c.activeFormatting? name with
  | none => c.closeAny name
  | some i =>
    if !c.stack.contains i then c.forget i
    else if !c.nodeInScope i then c
    else if (c.stack.takeWhile (· != i)).any fun j => specialTags.contains (c.tagOf j) then c
    else { c.forget i with stack := (c.stack.dropWhile (· != i)).drop 1 }

/-- The state with the open form ended. -/
def closeForm (c : Construction) : Construction :=
  match c.form with
  | none => c
  | some i =>
    let c := { c with form := none }
    if c.nodeInScope i then
      let c := c.popImplied []
      { c with stack := c.stack.filter (· != i) }
    else c

end Construction

/-- The tags of blocks, which end a paragraph. -/
def blockTags : List Text :=
  ["address".toList, "article".toList, "aside".toList, "blockquote".toList,
    "center".toList, "details".toList, "dialog".toList, "dir".toList, "div".toList,
    "dl".toList, "fieldset".toList, "figcaption".toList, "figure".toList, "footer".toList,
    "header".toList, "hgroup".toList, "main".toList, "menu".toList, "nav".toList,
    "ol".toList, "p".toList, "search".toList, "section".toList, "summary".toList,
    "ul".toList]

/-- The tags of elements whose end tag ends whatever is open inside them. -/
def containerTags : List Text :=
  ["button".toList, "listing".toList, "pre".toList]
    ++ blockTags.filter (· != "p".toList)

/-- The tags of formatting elements. -/
def formattingTags : List Text :=
  ["a".toList, "b".toList, "big".toList, "code".toList, "em".toList, "font".toList,
    "i".toList, "nobr".toList, "s".toList, "small".toList, "strike".toList,
    "strong".toList, "tt".toList, "u".toList]

/-- The tags of embedded objects, which formatting does not reach into. -/
def objectTags : List Text :=
  ["applet".toList, "marquee".toList, "object".toList]

/-- The tags of elements without content that stand among text. -/
def inlineVoidTags : List Text :=
  ["area".toList, "br".toList, "embed".toList, "img".toList, "input".toList,
    "keygen".toList, "wbr".toList]

/-- The tags of table parts, which mean nothing outside a table. -/
def strayTags : List Text :=
  ["caption".toList, "col".toList, "colgroup".toList, "frame".toList, "frameset".toList,
    "head".toList, "tbody".toList, "td".toList, "tfoot".toList, "th".toList,
    "thead".toList, "tr".toList]

/-- The modes inside a table. -/
def tableModes : List Mode :=
  [.inTable, .inCaption, .inTableBody, .inRow, .inCell]

/-- A start tag in the body that begins a block. -/
def startBlock? (c : Construction) (t : Tag) : Option Construction :=
  if blockTags.contains t.name then some (c.closeParagraph.insert t)
  else if headingTags.contains t.name then
    let c := c.closeParagraph
    some ((if c.currentIs headingTags then c.pop else c).insert t)
  else if t.isAny ["pre".toList, "listing".toList] then
    some { c.closeParagraph.insert t with dropNewline := true }
  else if t.name == "form".toList then
    if c.form.isSome then some c
    else
      let (c, i) := c.closeParagraph.insertNumbered t
      some { c with form := some i }
  else if t.name == "li".toList then
    some (((c.closeItem ["li".toList]).closeParagraph).insert t)
  else if t.isAny ["dd".toList, "dt".toList] then
    some (((c.closeItem ["dd".toList, "dt".toList]).closeParagraph).insert t)
  else if t.name == "plaintext".toList then
    some { c.closeParagraph.insert t with textMode := .plain }
  else if t.name == "table".toList then
    let c := if c.oldLayout then c else c.closeParagraph
    some { c.insert t with mode := .inTable }
  else if t.name == "hr".toList then some (c.closeParagraph.insertVoid t)
  else if t.name == "xmp".toList then
    some (c.closeParagraph.reconstruct.insertTextHolder t (.raw t.name))
  else none

/-- A start tag in the body that begins a phrase. -/
def startPhrase? (c : Construction) (t : Tag) : Option Construction :=
  if t.name == "button".toList then
    let c :=
      if c.inScope .ordinary ["button".toList] then c.popTo ["button".toList] else c
    some (c.reconstruct.insert t)
  else if t.isAny ["a".toList, "nobr".toList] then
    let c :=
      match c.activeFormatting? t.name with
      | some i =>
        let c := c.closeFormatting t.name
        if t.name == "a".toList then { c.forget i with stack := c.stack.filter (· != i) } else c
      | none => c
    some (c.insertFormatting t)
  else if formattingTags.contains t.name then some (c.insertFormatting t)
  else if objectTags.contains t.name then some (c.reconstruct.insert t).mark
  else if inlineVoidTags.contains t.name then some (c.reconstruct.insertVoid t)
  else if t.name == "image".toList then
    some (c.reconstruct.insertVoid { t with name := "img".toList })
  else if t.isAny ["param".toList, "source".toList, "track".toList] then some (c.insertVoid t)
  else if t.name == "textarea".toList then
    some { c.insertTextHolder t (.escapable t.name) with dropNewline := true }
  else if t.isAny ["iframe".toList, "noembed".toList] then
    some (c.insertTextHolder t (.raw t.name))
  else if t.name == "select".toList then
    let mode := if tableModes.contains c.mode then Mode.inSelectInTable else .inSelect
    some { c.reconstruct.insert t with mode }
  else if t.isAny ["optgroup".toList, "option".toList] then
    let c := if c.currentIs ["option".toList] then c.pop else c
    some (c.reconstruct.insert t)
  else if t.isAny ["rb".toList, "rtc".toList] then
    let c := if c.inScope .ordinary ["ruby".toList] then c.popImplied [] else c
    some (c.insert t)
  else if t.isAny ["rp".toList, "rt".toList] then
    let c := if c.inScope .ordinary ["ruby".toList] then c.popImplied ["rtc".toList] else c
    some (c.insert t)
  else none

/-- A start tag in the body. -/
def startInBody (c : Construction) (t : Tag) : Construction :=
  if t.name == "html".toList then c.mergeRoot t
  else if t.name == "body".toList then c.mergeBody t
  else
    match c.headContent? t <|> startBlock? c t <|> startPhrase? c t with
    | some c' => c'
    | none => if strayTags.contains t.name then c else c.reconstruct.insert t

/-- An end tag in the body. -/
def endInBody (c : Construction) (t : Tag) : Outcome :=
  let closeIf (b : Boundary) (tags : List Text) : Construction :=
    if c.inScope b tags then c.popTo tags else c
  if t.isAny ["body".toList, "html".toList] then
    if c.inScope .ordinary ["body".toList] then
      let c := { c with mode := .afterBody }
      if t.name == "html".toList then .again c else .taken c
    else .taken c
  else if t.name == "p".toList then
    let c :=
      if c.inScope .button ["p".toList] then c else c.insertImplied "p".toList
    .taken c.closeParagraph
  else if containerTags.contains t.name then .taken (closeIf .ordinary [t.name])
  else if t.name == "form".toList then .taken c.closeForm
  else if t.name == "li".toList then .taken (closeIf .listItem [t.name])
  else if t.isAny ["dd".toList, "dt".toList] then .taken (closeIf .ordinary [t.name])
  else if headingTags.contains t.name then .taken (closeIf .ordinary headingTags)
  else if formattingTags.contains t.name then .taken (c.closeFormatting t.name)
  else if objectTags.contains t.name then
    .taken
      (if c.inScope .ordinary [t.name] then (c.popTo [t.name]).clearToMarker else c)
  else if t.name == "br".toList then .taken (c.reconstruct.insertVoid { name := t.name })
  else .taken (c.closeAny t.name)

/-- The rules for the body. -/
def inBody (c : Construction) : Token → Outcome
  | .text s => .taken (c.reconstruct.insertText s)
  | .comment s => .taken (c.insertComment s)
  | .startTag t => .taken (startInBody c t)
  | .endTag t => endInBody c t
  | _ => .taken c

/-- The public identifiers of document types that are laid out by the rules of old,
    in lower case. -/
def oldDoctypes : List Text :=
  ["-//w3o//dtd w3 html strict 3.0//en//".toList, "-/w3c/dtd html 4.0 transitional/en".toList,
    "html".toList]

/-- The parts between the slashes of the system identifiers of such document types. -/
def oldSystems : List (List Text) :=
  [["http:".toList, [], "www.ibm.com".toList, "data".toList, "dtd".toList, "v11".toList,
    "ibmxhtml1-transitional.dtd".toList]]

/-- The beginnings of the public identifiers of old document types: the owners, and
    the names of the types up to the slashes behind them. -/
def oldDoctypeOwners : List (Text × List Text) := [
  ("advasoft ltd".toList, ["html 3.0 aswedit + extensions".toList]),
  ("as".toList, ["html 3.0 aswedit + extensions".toList]),
  ("ietf".toList,
    ["html 2.0 level 1".toList, "html 2.0 level 2".toList, "html 2.0 strict level 1".toList,
      "html 2.0 strict level 2".toList, "html 2.0 strict".toList, "html 2.0".toList,
      "html 2.1e".toList, "html 3.0".toList, "html 3.2 final".toList, "html 3.2".toList,
      "html 3".toList, "html level 0".toList, "html level 1".toList, "html level 2".toList,
      "html level 3".toList, "html strict level 0".toList, "html strict level 1".toList,
      "html strict level 2".toList, "html strict level 3".toList, "html strict".toList,
      "html".toList]),
  ("metrius".toList, ["metrius presentational".toList]),
  ("microsoft".toList,
    ["internet explorer 2.0 html strict".toList, "internet explorer 2.0 html".toList,
      "internet explorer 2.0 tables".toList, "internet explorer 3.0 html strict".toList,
      "internet explorer 3.0 html".toList, "internet explorer 3.0 tables".toList]),
  ("netscape comm. corp.".toList, ["html".toList, "strict html".toList]),
  ("o\x27reilly and associates".toList,
    ["html 2.0".toList, "html extended 1.0".toList, "html extended relaxed 1.0".toList]),
  ("softquad software".toList,
    ["hotmetal pro 6.0::19990601::extensions to html 4.0".toList]),
  ("softquad".toList, ["hotmetal pro 4.0::19971010::extensions to html 4.0".toList]),
  ("spyglass".toList, ["html 2.0 extended".toList]),
  ("sq".toList, ["html 2.0 hotmetal + extensions".toList]),
  ("sun microsystems corp.".toList, ["hotjava html".toList, "hotjava strict html".toList]),
  ("w3c".toList,
    ["html 3 1995-03-24".toList, "html 3.2 draft".toList, "html 3.2 final".toList,
      "html 3.2".toList, "html 3.2s draft".toList, "html 4.0 frameset".toList,
      "html 4.0 transitional".toList, "html experimental 19960712".toList,
      "html experimental 970421".toList, "w3 html".toList]),
  ("w3o".toList, ["w3 html 3.0".toList]),
  ("webtechs".toList, ["mozilla html 2.0".toList, "mozilla html".toList])]

/-- The beginnings of public identifiers that mean the rules of old unless a system
    identifier goes with them. -/
def transitionalDoctypes : List Text :=
  ["-//w3c//dtd html 4.01 frameset//".toList, "-//w3c//dtd html 4.01 transitional//".toList]

/-- Whether a public identifier means the layout rules of old by itself. -/
def isOldDoctype (publicId : Text) : Bool :=
  oldDoctypes.contains publicId ||
    oldDoctypeOwners.any fun (owner, types) =>
      match afterPrefix? ("-//".toList ++ owner ++ "//dtd ".toList) publicId with
      | some rest => types.any fun type => (type ++ "//".toList).isPrefixOf rest
      | none => false

/-- Whether a system identifier means the layout rules of old. -/
def isOldSystem (systemId : Text) : Bool :=
  oldSystems.contains (systemId.splitOn '/')

/-- Whether a document type asks for the layout rules of old. -/
def DoctypeToken.asksForOldLayout (d : DoctypeToken) : Bool :=
  let publicId := lower d.doctype.publicId
  d.malformed || d.doctype.name != "html".toList || isOldDoctype publicId
    || isOldSystem (lower d.doctype.systemId)
    || (!d.hasSystemId && transitionalDoctypes.any fun p => p.isPrefixOf publicId)

/-- The rules for the very beginning. -/
def initial (c : Construction) : Token → Outcome
  | .text s =>
    if allSpace s then .taken c else .again { c with oldLayout := true, mode := .beforeHtml }
  | .comment s => .taken (c.commentIn Document.root s)
  | .doctype d =>
    .taken { c with
      document := { c.document with doctype := some d.doctype }
      oldLayout := d.asksForOldLayout
      mode := .beforeHtml }
  | _ => .again { c with oldLayout := true, mode := .beforeHtml }

/-- The rules in front of the root element. -/
def beforeHtml (c : Construction) (token : Token) : Outcome :=
  let supplied := Outcome.again (c.insertRoot { name := "html".toList })
  match token with
  | .text s => if allSpace s then .taken c else supplied
  | .comment s => .taken (c.commentIn Document.root s)
  | .startTag t => if t.name == "html".toList then .taken (c.insertRoot t) else supplied
  | .endTag t => if endsOutside t || t.name == "head".toList then supplied else .taken c
  | .doctype _ => .taken c
  | _ => supplied

/-- The rules between the root element and the head. -/
def beforeHead (c : Construction) (token : Token) : Outcome :=
  let supplied := Outcome.again (c.insertHead { name := "head".toList })
  match token with
  | .text s => if allSpace s then .taken c else supplied
  | .comment s => .taken (c.insertComment s)
  | .startTag t =>
    if t.name == "html".toList then .taken (c.mergeRoot t)
    else if t.name == "head".toList then .taken (c.insertHead t)
    else supplied
  | .endTag t => if endsOutside t || t.name == "head".toList then supplied else .taken c
  | .doctype _ => .taken c
  | _ => supplied

/-- The rules for the head. -/
def inHead (c : Construction) (token : Token) : Outcome :=
  let ended := { c.pop with mode := .afterHead }
  match token with
  | .text s => if allSpace s then .taken (c.insertText s) else .again ended
  | .comment s => .taken (c.insertComment s)
  | .startTag t =>
    if t.name == "html".toList then .taken (c.mergeRoot t)
    else if t.name == "head".toList then .taken c
    else
      match c.headContent? t with
      | some c' => .taken c'
      | none => .again ended
  | .endTag t =>
    if t.name == "head".toList then .taken ended
    else if endsOutside t then .again ended
    else .taken c
  | .doctype _ => .taken c
  | _ => .again ended

/-- Content of the head that comes after it. It is put into the head all the
    same. -/
def lateHeadContent? (c : Construction) (t : Tag) : Option Construction :=
  match c.head with
  | some head =>
    if t.name == "noscript".toList then none
    else
      let reopened : Construction := { c with stack := head :: c.stack }
      (reopened.headContent? t).map fun c' =>
        { c' with stack := c'.stack.filter (· != head) }
  | none => none

/-- The rules between the head and the body. -/
def afterHead (c : Construction) (token : Token) : Outcome :=
  let supplied := Outcome.again { c.insertImplied "body".toList with mode := .inBody }
  match token with
  | .text s => if allSpace s then .taken (c.insertText s) else supplied
  | .comment s => .taken (c.insertComment s)
  | .startTag t =>
    if t.name == "html".toList then .taken (c.mergeRoot t)
    else if t.name == "body".toList then .taken { c.insert t with mode := .inBody }
    else if t.name == "head".toList then .taken c
    else
      match lateHeadContent? c t with
      | some c' => .taken c'
      | none => supplied
  | .endTag t => if endsOutside t then supplied else .taken c
  | .doctype _ => .taken c
  | _ => supplied

/-- The rules inside an element that holds text only. -/
def inText (c : Construction) : Token → Outcome
  | .text s => .taken (c.insertText s)
  | .endTag _ => .taken { c.pop with mode := c.outerMode, textMode := .ordinary }
  | _ => .again { c.pop with mode := c.outerMode, textMode := .ordinary }

/-- The rules after the body. -/
def afterBody (c : Construction) (token : Token) : Outcome :=
  let reopened := Outcome.again { c with mode := .inBody }
  match token with
  | .text s => if allSpace s then inBody c token else reopened
  | .comment s =>
    match c.stack.getLast? with
    | some i => .taken (c.commentIn i s)
    | none => .taken c
  | .startTag t => if t.name == "html".toList then .taken (c.mergeRoot t) else reopened
  | .endTag t =>
    if t.name == "html".toList then .taken { c with mode := .afterAfterBody } else reopened
  | .doctype _ => .taken c
  | .finish => .taken c
  | _ => reopened

/-- The rules after the root element. -/
def afterAfterBody (c : Construction) (token : Token) : Outcome :=
  let reopened := Outcome.again { c with mode := .inBody }
  match token with
  | .text s => if allSpace s then inBody c token else reopened
  | .comment s => .taken (c.commentIn Document.root s)
  | .startTag t => if t.name == "html".toList then .taken (c.mergeRoot t) else reopened
  | .doctype _ => .taken c
  | .finish => .taken c
  | _ => reopened

end Html

end ResponsiveImages
