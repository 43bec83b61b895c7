import ResponsiveImages.Selector.Basic
import ResponsiveImages.Document.Basic

/-!
# Matching Selectors

Whether a selector matches a node of a document. The compound for the node
itself is checked first. The others are then looked for among the ancestors,
nearest first, and each is satisfied by the nearest ancestor that fits; the
search goes on above that one and never comes back (`matchesChain`). Taking
the nearest leaves the most ancestors for the rest, so nothing is lost by it.

## Main definitions

* `Compound.accepts`: Whether an element meets the conditions of a compound.
* `Document.accepts`: The same for a node, which has to be an element.
* `matchesChain`: Whether compounds are met along a chain of nodes.
* `Document.satisfies`: Whether a complex selector matches a node.
-/

namespace ResponsiveImages

/-- Whether an element meets all conditions of a compound. -/
def Compound.accepts (c : Compound) (e : Element) : Bool :=
  (match c.tag with
    | some t => e.isTag t
    | none => true)
    && c.classes.all e.hasClass
    && c.attributes.all fun a => e.attributes.get? a.name == some a.value

/-- Whether compounds are met along a chain of nodes, in order and each by a
    node of its own. -/
def matchesChain (accepts : NodeId → Compound → Bool) : List NodeId → List Compound → Bool
  | _, [] => true
  | [], _ :: _ => false
  | i :: chain, c :: rest =>
    if accepts i c then matchesChain accepts chain rest
    else matchesChain accepts chain (c :: rest)

namespace Document

/-- Whether a node is an element that meets the conditions of a compound. -/
def accepts (d : Document) (i : NodeId) (c : Compound) : Bool :=
  match d.element? i with
  | some e => c.accepts e
  | none => false

/-- Whether a complex selector matches a node. -/
def satisfies (d : Document) (i : NodeId) (s : Complex) : Bool :=
  d.accepts i s.key && matchesChain d.accepts (d.ancestors i) s.ancestors

end Document

end ResponsiveImages
