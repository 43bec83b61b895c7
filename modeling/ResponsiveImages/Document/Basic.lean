import ResponsiveImages.Document.Attributes

/-!
# Documents

A document is a store of numbered nodes. Node 0 is the root, and each node
keeps the list of its children. An element also keeps a link to its parent,
because selectors look at ancestors; text and comments do not.

Child lists and parent links are kept apart on purpose. Appending a node does
not take it out of the list it was in, and a new link overwrites the old one,
so the two can come to disagree: a caller who moves a node detaches it first.
Where an operation needs the two to agree, its theorems say so.

Nodes are never deleted. A node that is not reached from the root any more
is no longer part of the document (`Document.contains`), though somebody may
still hold it (`Document.keeps`).

All walks are bounded by the number of nodes, which no walk over a proper
tree exceeds.

## Main definitions

* `Vocabulary`: The markup language an element belongs to.
* `Element`, `Content`, `Node`: What a node holds and how it is linked.
* `Document`: The nodes and the document type.
* `Document.create`, `Document.append`, `Document.detach`: Building a tree.
* `Document.preorder`: The nodes of the document in document order.
* `Document.elements`: The elements among them.
* `Document.ancestors`: The nodes above a node, nearest first.
* `Document.documentElement?`: The first element at the top.
* `Tree`, `Document.ofTrees`, `Document.trees`: Documents as nested trees.
-/

namespace ResponsiveImages

/-- The number of a node. -/
abbrev NodeId := Nat

/-- The markup language an element belongs to. -/
inductive Vocabulary where
  | html
  | svg
  | mathml
  deriving DecidableEq, Repr

/-- An element without its links. -/
structure Element where
  tag : Text
  vocabulary : Vocabulary := .html
  attributes : Attributes := []
  deriving DecidableEq, Repr

namespace Element

/-- Whether the element has the given tag in any case. -/
def isTag (e : Element) (tag : Text) : Bool :=
  Text.eqIgnoreCase e.tag tag

/-- Whether the element has a class. -/
def hasClass (e : Element) (name : Text) : Bool :=
  e.attributes.hasClass name

/-- The element with an attribute set. -/
def setAttribute (e : Element) (name value : Text) : Element :=
  { e with attributes := e.attributes.set name value }

end Element

/-- What a node holds. -/
inductive Content where
  | root
  | element (e : Element)
  | text (s : Text)
  | comment (s : Text)
  deriving DecidableEq, Repr

namespace Content

/-- The element, if the node is one. -/
def element? : Content → Option Element
  | element e => some e
  | _ => none

/-- Whether the node keeps a list of children. -/
def holdsChildren : Content → Bool
  | root => true
  | element _ => true
  | _ => false

end Content

/-- A node with its links. -/
structure Node where
  content : Content
  children : List NodeId := []
  parent : Option NodeId := none
  deriving DecidableEq, Repr

/-- The document type declaration. -/
structure Doctype where
  name : Text
  publicId : Text
  systemId : Text
  deriving DecidableEq, Repr

/-- A store of nodes, the first of which is the root. -/
structure Document where
  nodes : Array Node := #[{ content := .root }]
  doctype : Option Doctype := none
  deriving DecidableEq, Repr

namespace Document

/-- The number of the root. -/
def root : NodeId := 0

/-- A node. -/
def node? (d : Document) (i : NodeId) : Option Node :=
  d.nodes[i]?

/-- What a node holds. -/
def content? (d : Document) (i : NodeId) : Option Content :=
  (d.node? i).map Node.content

/-- The element with a number, if the node is one. -/
def element? (d : Document) (i : NodeId) : Option Element :=
  (d.content? i).bind Content.element?

/-- The children of a node. -/
def children (d : Document) (i : NodeId) : List NodeId :=
  match d.node? i with
  | some n => n.children
  | none => []

/-- The parent link of a node. -/
def parent? (d : Document) (i : NodeId) : Option NodeId :=
  (d.node? i).bind Node.parent

/-- The document with one node changed. -/
def modify (d : Document) (i : NodeId) (f : Node → Node) : Document :=
  { d with nodes := d.nodes.modify i f }

/-- The document with a new node that is not linked to any other, and the number
    of that node. -/
def create (d : Document) (content : Content) : Document × NodeId :=
  ({ d with nodes := d.nodes.push { content } }, d.nodes.size)

/-- A node with its parent link set. Only elements have one. -/
def linkNode (parent : Option NodeId) (n : Node) : Node :=
  match n.content with
  | .element _ => { n with parent }
  | _ => n

/-- The document with the parent link of a node set. -/
def link (d : Document) (i : NodeId) (parent : Option NodeId) : Document :=
  d.modify i (linkNode parent)

/-- A node with its list of children changed, if it keeps one. -/
def editChildren (f : List NodeId → List NodeId) (n : Node) : Node :=
  if n.content.holdsChildren then { n with children := f n.children } else n

/-- The document with a node added at the end of the children of another. It
    also stays wherever it was listed before. -/
def append (d : Document) (parent child : NodeId) : Document :=
  (d.link child (some parent)).modify parent (editChildren (· ++ [child]))

/-- The document with a node taken out of the children of the parent it is
    linked to, or nothing without such a link. -/
def detach? (d : Document) (i : NodeId) : Option Document :=
  (d.parent? i).map fun p =>
    (d.modify p (editChildren (·.filter (· != i)))).link i none

/-- The document with an attribute of an element set. -/
def setAttribute (d : Document) (i : NodeId) (name value : Text) : Document :=
  d.modify i fun n =>
    match n.content with
    | .element e => { n with content := .element (e.setAttribute name value) }
    | _ => n

/-- The value of an attribute of an element. -/
def attribute? (d : Document) (i : NodeId) (name : Text) : Option Text :=
  (d.element? i).bind fun e => e.attributes.get? name

/-- A node and the nodes below it in document order, down to a given depth. -/
def walk (d : Document) : Nat → NodeId → List NodeId
  | 0, _ => []
  | depth + 1, i => i :: (d.children i).flatMap (walk d depth)

/-- The nodes of the document in document order. The bound on the depth is one
    more than a proper tree can need, so that a tree that loops back on itself
    repeats a node. -/
def preorder (d : Document) : List NodeId :=
  d.walk (d.nodes.size + 1) root

/-- The elements of the document in document order. -/
def elements (d : Document) : List (NodeId × Element) :=
  d.preorder.filterMap fun i => (d.element? i).map (i, ·)

/-- Whether a node is part of the document. -/
def contains (d : Document) (i : NodeId) : Bool :=
  d.preorder.contains i

/-- The nodes above a node, nearest first, up to a given number of steps. -/
def climb (d : Document) : Nat → NodeId → List NodeId
  | 0, _ => []
  | steps + 1, i =>
    match d.parent? i with
    | some p => p :: climb d steps p
    | none => []

/-- The nodes above a node, nearest first. -/
def ancestors (d : Document) (i : NodeId) : List NodeId :=
  d.climb d.nodes.size i

/-- The first element at the top of the document. -/
def documentElement? (d : Document) : Option NodeId :=
  (d.children root).find? fun i => (d.element? i).isSome

/-- Whether the first element at the top has a class. -/
def rootHasClass (d : Document) (name : Text) : Bool :=
  match d.documentElement?.bind d.element? with
  | some e => e.hasClass name
  | none => false

end Document

/-- A node together with everything below it. -/
inductive Tree where
  | element (e : Element) (children : List Tree)
  | text (s : Text)
  | comment (s : Text)

namespace Document

/-- The document with a new node at the end of the children of another, and the
    number of the new node. -/
def appendNew (d : Document) (parent : NodeId) (content : Content) : Document × NodeId :=
  let (d', i) := d.create content
  (d'.append parent i, i)

mutual

/-- The document with a tree added at the end of the children of a node. The new
    nodes are numbered in document order. -/
def addTree (d : Document) (parent : NodeId) : Tree → Document
  | .element e children =>
    let (d', i) := d.appendNew parent (.element e)
    addTrees d' i children
  | .text s => (d.appendNew parent (.text s)).1
  | .comment s => (d.appendNew parent (.comment s)).1

/-- The document with trees added at the end of the children of a node. -/
def addTrees (d : Document) (parent : NodeId) : List Tree → Document
  | [] => d
  | t :: rest => addTrees (addTree d parent t) parent rest

end

/-- The document that has the given trees at the top. -/
def ofTrees (doctype : Option Doctype) (trees : List Tree) : Document :=
  addTrees { doctype } root trees

/-- The tree below a node, down to a given depth. -/
def treeAt? (d : Document) : Nat → NodeId → Option Tree
  | 0, _ => none
  | depth + 1, i =>
    match d.node? i with
    | some n =>
      match n.content with
      | .element e => some (.element e (n.children.filterMap (treeAt? d depth)))
      | .text s => some (.text s)
      | .comment s => some (.comment s)
      | .root => none
    | none => none

/-- The trees at the top of the document. -/
def trees (d : Document) : List Tree :=
  (d.children root).filterMap (d.treeAt? d.nodes.size)

end Document

end ResponsiveImages
