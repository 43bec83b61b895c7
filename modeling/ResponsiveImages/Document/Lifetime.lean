import ResponsiveImages.Document.Basic

/-!
# Lifetimes of Nodes

A node is there as long as it is held. It is held from outside by everybody who
keeps a handle of it, and it is held by each node that lists it and is still
there itself. A link to a parent holds nothing: when the parent goes, the link
leads nowhere.

A store keeps all nodes, so which of them are still there has to be found out.
This is done by clearing in rounds. In each round the nodes go that nobody
outside holds and that no node which is left lists. More rounds than there are
nodes clear all that will ever be cleared (`Document.keeps`). What stays then is
held from outside, or is listed by nodes that list each other in a circle: these
never go, even if nobody can get at them any more.

## Main definitions

* `Document.listers`: The nodes that list a node.
* `Document.outlasts`: What is left after some rounds of clearing.
* `Document.keeps`: What is still there.
* `Document.clearLinks`: Links to nodes that have gone lead nowhere.
-/

namespace ResponsiveImages

namespace Document

/-- The nodes that list a node among their children. -/
def listers (d : Document) (i : NodeId) : List NodeId :=
  (List.range d.nodes.size).filter fun p => (d.children p).contains i

/-- Whether a node is left after a number of rounds of clearing, given the nodes that
    are held from outside. -/
def outlasts (d : Document) (held : List NodeId) : Nat → NodeId → Bool
  | 0, _ => true
  | rounds + 1, i => held.contains i || (d.listers i).any (outlasts d held rounds)

/-- Whether a node is still there, given the nodes that are held from outside. -/
def keeps (d : Document) (held : List NodeId) (i : NodeId) : Bool :=
  d.outlasts held (d.nodes.size + 1) i

/-- The document in which links lead only to parents that are still there. -/
def clearLinks (d : Document) (there : NodeId → Bool) : Document :=
  { d with nodes := d.nodes.map fun n => { n with parent := n.parent.filter there } }

end Document

end ResponsiveImages
