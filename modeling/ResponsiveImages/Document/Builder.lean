import ResponsiveImages.Document.Basic

/-!
# Building Documents from Markup

The operations by which a reader of markup builds a document. Text arrives in
chunks of any size, and neighbouring chunks at the end of a child list become
one node. Content that does not belong in a table is inserted in front of
the table instead (`insertBefore`); what arrives there is always a node of
its own.

What is inserted is a `Piece`: a node that exists already, or a chunk of text
that becomes a node if it is not merged into one.

## Main definitions

* `Piece`: A node or a chunk of text.
* `Document.mergeInto?`: A document with text added to a text node.
* `Document.appendPiece`: Inserting at the end of a child list.
* `Document.insertBefore`: Inserting in front of a sibling.
* `Document.insertNear`: Inserting in front of a node, or elsewhere if it has
  no parent.
* `Document.addMissingAttributes`: Adding attributes that are not there yet.
* `Document.moveChildren`: Moving all children of a node to another.
* `instruction`: The comment a processing instruction is kept as.
-/

namespace ResponsiveImages

/-- What is inserted into a document. -/
inductive Piece where
  | node (i : NodeId)
  | text (s : Text)
  deriving DecidableEq, Repr

/-- The text of the comment a processing instruction is kept as. -/
def instruction (target data : Text) : Text :=
  '?' :: target ++ ' ' :: data

/-- A list with a node in front of the first occurrence of a sibling, or at the
    end if it does not occur. -/
def placeBefore (sibling new : NodeId) : List NodeId → List NodeId
  | [] => [new]
  | i :: rest => if i = sibling then new :: i :: rest else i :: placeBefore sibling new rest

namespace Document

/-- The document with text added to the end of a text node. Other nodes take
    none. -/
def mergeInto? (d : Document) (i : NodeId) (s : Text) : Option Document :=
  match d.content? i with
  | some (.text _) =>
    some (d.modify i fun n =>
      match n.content with
      | .text old => { n with content := .text (old ++ s) }
      | _ => n)
  | _ => none

/-- The document with a node for a piece, and the number of that node. -/
def materialize (d : Document) : Piece → Document × NodeId
  | .node i => (d, i)
  | .text s => d.create (.text s)

/-- The document with text added to the last child of a node, if that is text. -/
def mergeAtEnd? (d : Document) (parent : NodeId) (s : Text) : Option Document :=
  (d.children parent).getLast?.bind fun last => d.mergeInto? last s

/-- The document with a piece at the end of the children of a node. -/
def appendPiece (d : Document) (parent : NodeId) : Piece → Document
  | .node i => d.append parent i
  | .text s =>
    match d.mergeAtEnd? parent s with
    | some merged => merged
    | none =>
      let (d', i) := d.create (.text s)
      d'.append parent i

/-- The document with a piece in front of a sibling. Without a parent link of
    the sibling nothing happens, and only an element takes the new node in. -/
def insertBefore (d : Document) (sibling : NodeId) (piece : Piece) : Document :=
  match d.parent? sibling with
  | none => d
  | some parent =>
    let (d', i) := d.materialize piece
    let d'' := d'.link i (some parent)
    match d''.element? parent with
    | some _ => d''.modify parent (editChildren (placeBefore sibling i))
    | none => d''

/-- The document with a piece in front of a node that has a parent, and else at
    the end of another node. -/
def insertNear (d : Document) (node other : NodeId) (piece : Piece) : Document :=
  match d.parent? node with
  | some _ => d.insertBefore node piece
  | none => d.appendPiece other piece

/-- The document with attributes added to an element that does not have them. -/
def addMissingAttributes (d : Document) (i : NodeId) (entries : List (Text × Text)) :
    Document :=
  d.modify i fun n =>
    match n.content with
    | .element e =>
      { n with content := .element { e with attributes := e.attributes.addMissing entries } }
    | _ => n

/-- The document with all children of a node moved to the end of another. -/
def moveChildren (d : Document) (old new : NodeId) : Document :=
  (d.children old).foldl (fun d i => d.append new i) (d.modify old (editChildren fun _ => []))

end Document

end ResponsiveImages
