import ResponsiveImages.Document.Basic

/-!
# Writing Markup

A document written out as HTML text: the document type on a line of its own,
then every node in document order.

Two kinds of HTML elements are written in a special way. Void elements have
no end tag and their child elements are left out together with their tags,
while text below them is still written. Raw text elements hold their text as
it is; everywhere else the characters that would be read as markup are
escaped.

## Main definitions

* `escapeText`, `escapeAttribute`: Text with markup characters escaped.
* `voidTags`, `rawTags`: The special HTML elements.
* `Enclosing`: What writing a node depends on above it.
* `Tree.write`: The text of a tree.
* `Doctype.text`: The document type declaration.
* `Document.markup`: The text of a document.
-/

namespace ResponsiveImages

/-- The escape of a character that is special both in text and in attributes. -/
def escapeCommon? (c : Char) : Option Text :=
  if c = '&' then some "&amp;".toList
  else if c = '\u00A0' then some "&nbsp;".toList
  else none

/-- Text between tags. -/
def escapeText (s : Text) : Text :=
  s.flatMap fun c =>
    match escapeCommon? c with
    | some e => e
    | none =>
      if c = '<' then "&lt;".toList
      else if c = '>' then "&gt;".toList
      else [c]

/-- Text between double quotes. -/
def escapeAttribute (s : Text) : Text :=
  s.flatMap fun c =>
    match escapeCommon? c with
    | some e => e
    | none => if c = '\x22' then "&quot;".toList else [c]

/-- The HTML elements that have no end tag. -/
def voidTags : List Text :=
  ["area".toList, "base".toList, "basefont".toList, "bgsound".toList, "br".toList,
    "col".toList, "embed".toList, "frame".toList, "hr".toList, "img".toList,
    "input".toList, "keygen".toList, "link".toList, "meta".toList, "param".toList,
    "source".toList, "track".toList, "wbr".toList]

/-- The HTML elements whose text is written as it is. -/
def rawTags : List Text :=
  ["style".toList, "script".toList, "xmp".toList, "iframe".toList, "noembed".toList,
    "noframes".toList, "plaintext".toList, "noscript".toList]

/-- What writing a node depends on above it. -/
structure Enclosing where
  /-- Text is written as it is. -/
  raw : Bool := false
  /-- Elements are written without their tags. -/
  void : Bool := false
  deriving DecidableEq, Repr

/-- What an element is to the nodes below it. -/
def Element.enclosing (e : Element) (outer : Enclosing) : Enclosing where
  raw := e.vocabulary == .html && rawTags.contains e.tag
  void := outer.void || (e.vocabulary == .html && voidTags.contains e.tag)

/-- The start tag of an element. -/
def Element.startTag (e : Element) : Text :=
  '<' :: e.tag
    ++ e.attributes.flatMap (fun a =>
      ' ' :: a.1 ++ "=\"".toList ++ escapeAttribute a.2 ++ ['\x22'])
    ++ ['>']

/-- The end tag of an element. -/
def Element.endTag (e : Element) : Text :=
  "</".toList ++ e.tag ++ ['>']

mutual

/-- The text of a tree. -/
def Tree.write (outer : Enclosing) : Tree → Text
  | .element e children =>
    let inner := e.enclosing outer
    (if outer.void then [] else e.startTag)
      ++ Tree.writeAll inner children
      ++ (if inner.void then [] else e.endTag)
  | .text s => if outer.raw then s else escapeText s
  | .comment s => "<!--".toList ++ s ++ "-->".toList

/-- The texts of trees, one after the other. -/
def Tree.writeAll (outer : Enclosing) : List Tree → Text
  | [] => []
  | t :: rest => Tree.write outer t ++ Tree.writeAll outer rest

end

/-- The document type declaration on a line of its own. -/
def Doctype.text (t : Doctype) : Text :=
  let quoted (s : Text) : Text := '\x22' :: s ++ ['\x22']
  let identifiers :=
    match t.publicId.isEmpty, t.systemId.isEmpty with
    | true, true => []
    | false, true => " PUBLIC ".toList ++ quoted t.publicId
    | false, false => " PUBLIC ".toList ++ quoted t.publicId ++ ' ' :: quoted t.systemId
    | true, false => " SYSTEM ".toList ++ quoted t.systemId
  "<!DOCTYPE ".toList ++ t.name ++ identifiers ++ ">\n".toList

/-- The text of a document. -/
def Document.markup (d : Document) : Text :=
  (match d.doctype with
    | some t => t.text
    | none => [])
    ++ Tree.writeAll {} d.trees

end ResponsiveImages
