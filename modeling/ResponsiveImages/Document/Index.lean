import ResponsiveImages.Document.Basic
import ResponsiveImages.Text.Casing

/-!
# Indexes

The elements of a document by class and by tag, each list in document order.
The index is filled in one pass over the document. An element that names a
class twice is entered once: only the last entry has to be looked at, since
the entries of one element come one after the other.

Class names are kept as written and tags in lower case.

## Main definitions

* `Groups`: Node lists by key.
* `Groups.get`: The nodes with a key.
* `Groups.add`, `Groups.addNew`: A node entered under a key.
* `Index`: The two groupings of a document.
* `Index.ofDocument`: The index of a document.
* `Index.byClass`, `Index.firstByTag?`: Looking elements up.
-/

namespace ResponsiveImages

/-- Lists of nodes by key. A key occurs once. -/
abbrev Groups := List (Text × List NodeId)

namespace Groups

/-- The nodes with a key, in the order they were entered. -/
def get (g : Groups) (key : Text) : List NodeId :=
  (g.lookup key).getD []

/-- The groups with the nodes of one key changed. -/
def edit (f : List NodeId → List NodeId) : Groups → Text → Groups
  | [], key => [(key, f [])]
  | (k, nodes) :: rest, key =>
    if k = key then (k, f nodes) :: rest else (k, nodes) :: edit f rest key

/-- A node entered under a key. -/
def add (g : Groups) (key : Text) (i : NodeId) : Groups :=
  edit (· ++ [i]) g key

/-- A node entered under a key unless it was the last one entered there. -/
def addNew (g : Groups) (key : Text) (i : NodeId) : Groups :=
  edit (fun nodes => if nodes.getLast? = some i then nodes else nodes ++ [i]) g key

end Groups

/-- The elements of a document by class and by tag in lower case. -/
structure Index where
  classes : Groups := []
  tags : Groups := []
  deriving DecidableEq, Repr

namespace Index

/-- The index with one more element. -/
def addElement (x : Index) (entry : NodeId × Element) : Index where
  tags := x.tags.add (Text.toLowerCase entry.2.tag) entry.1
  classes := entry.2.attributes.classes.foldl (fun g c => g.addNew c entry.1) x.classes

/-- The index of a document. -/
def ofDocument (d : Document) : Index :=
  d.elements.foldl addElement {}

/-- The elements that have a class. -/
def byClass (x : Index) (name : Text) : List NodeId :=
  x.classes.get name

/-- The first element with a tag, in any case. -/
def firstByTag? (x : Index) (tag : Text) : Option NodeId :=
  (x.tags.get (Text.toLowerCase tag)).head?

end Index

end ResponsiveImages
