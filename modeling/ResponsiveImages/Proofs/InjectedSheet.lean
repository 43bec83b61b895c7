import ResponsiveImages.Page.Injection
import ResponsiveImages.Proofs.DocumentOrder
import ResponsiveImages.Proofs.Edits

/-!
# The Injected Style Sheet

What becomes of a document into which a style sheet has been put, node by node
(`Injected`). Two nodes are new, they have the next numbers, and nothing links to
them but the head.

In a proper document this leaves the order of the other nodes alone
(`Document.filter_preorder`). The obstacle is the bound of the walk. A larger
document is walked to a larger depth, and that this makes no difference is only true
if the walk has not been cut off before (`Document.Ordered.walk_root`).

## Main definitions

* `Injected`: A document with a style sheet put in.
* `Document.linkedNode`: A node when a child is added.

## Theorems

* `firstByTag?_of_sameBut`: The first head of a document that has been written.
* `injected_of_inject`: What injection does, node by node.
* `Document.filter_preorder`: The order of the nodes that were there.
-/

namespace ResponsiveImages

open Text

/-- A document into which a style sheet has been put, under a given head. -/
structure Injected (css : Text) (head : NodeId) (d d' : Document) : Prop where
  doctype : d'.doctype = d.doctype
  size : d'.nodes.size = d.nodes.size + 2
  style : d'.node? d.nodes.size
    = some ⟨.element styleElement, [d.nodes.size + 1], some head⟩
  text : d'.node? (d.nodes.size + 1) = some { content := .text css }
  old : ∀ i n, d.node? i = some n → d'.node? i
    = some { n with children := if i = head then n.children ++ [d.nodes.size] else n.children }

namespace Document

/-- What becomes of the node at a number when a child is added to a parent. -/
def linkedNode (parent child i : NodeId) (n : Node) : Node :=
  let linked := if child = i then linkNode (some parent) n else n
  if parent = i then editChildren (· ++ [child]) linked else linked

theorem node?_create (d : Document) (content : Content) (i : NodeId) :
    (d.create content).1.node? i
      = if i = d.nodes.size then some { content } else d.node? i := by
  rw [create, node?, Array.getElem?_push]
  rfl

theorem snd_create (d : Document) (content : Content) :
    (d.create content).2 = d.nodes.size := rfl

theorem linkedNode_of_ne {parent child i : NodeId} (hparent : parent ≠ i) (hchild : child ≠ i)
    (n : Node) : linkedNode parent child i n = n := by
  rw [linkedNode, if_neg hchild, if_neg hparent]

theorem linkedNode_parent {parent child i : NodeId} (hchild : child ≠ i) (hparent : parent = i)
    (n : Node) : linkedNode parent child i n = editChildren (· ++ [child]) n := by
  rw [linkedNode, if_neg hchild, if_pos hparent]

theorem size_append (d : Document) (parent child : NodeId) :
    (d.append parent child).nodes.size = d.nodes.size := by
  rw [append, modify, link, modify, Array.size_modify, Array.size_modify]

theorem size_create (d : Document) (content : Content) :
    (d.create content).1.nodes.size = d.nodes.size + 1 :=
  Array.size_push _

/-- The node at a number after a child has been added to a parent. -/
theorem node?_append (d : Document) (parent child i : NodeId) :
    (d.append parent child).node? i = (d.node? i).map (linkedNode parent child i) := by
  rw [append, node?_modify, link, node?_modify]
  cases d.node? i with
  | none => split <;> split <;> rfl
  | some n => split <;> split <;> simp [linkedNode, *]

end Document

/-- The first element with a tag is the same one in documents that differ only in some
    attributes. -/
theorem firstByTag?_of_sameBut {names : List Text} {d d' : Document}
    (h : Document.SameBut names d d') (tag : Text) :
    (Index.ofDocument d').firstByTag? tag = (Index.ofDocument d).firstByTag? tag := by
  have htags : ∀ nodes : List NodeId,
      ((nodes.filterMap fun i => (d'.element? i).map (i, ·)).find?
          fun entry => toLowerCase entry.2.tag == toLowerCase tag).map Prod.fst
        = ((nodes.filterMap fun i => (d.element? i).map (i, ·)).find?
          fun entry => toLowerCase entry.2.tag == toLowerCase tag).map Prod.fst := by
    intro nodes
    induction nodes with
    | nil => rfl
    | cons i nodes ih =>
        rw [List.filterMap_cons, List.filterMap_cons]
        cases he : d.element? i with
        | none =>
            rw [h.noElement i he]
            exact ih
        | some e =>
            rcases h.element i e he with ⟨e', he', hsame⟩
            simp only [he', Option.map_some, List.find?_cons, hsame.tag]
            split
            · rfl
            · exact ih
  rw [firstByTag?_eq, firstByTag?_eq, Document.elements, Document.elements, h.preorder, htags]

/-- A node after a style sheet has been put in: two nodes are created, and each is
    linked to the one above it. -/
theorem node?_inject (d : Document) (css : Text) (head i : NodeId) :
    ((((d.create (.element styleElement)).1.appendNew d.nodes.size (.text css)).1).append head
        d.nodes.size).node? i
      = ((if i = d.nodes.size + 1 then some { content := .text css }
            else if i = d.nodes.size then some { content := .element styleElement }
            else d.node? i).map
          (Document.linkedNode d.nodes.size (d.nodes.size + 1) i)).map
        (Document.linkedNode head d.nodes.size i) := by
  simp only [Document.appendNew]
  rw [Document.node?_append, Document.node?_append, Document.node?_create,
    Document.node?_create, Document.size_create, Document.snd_create, Document.size_create]

/-- What injection does to a document, node by node. -/
theorem injected_of_inject {d d' : Document} {css : Text}
    (h : d.injectStylesheet? css = some d') :
    ∃ head, (Index.ofDocument d).firstByTag? "head".toList = some head
      ∧ Injected css head d d' := by
  rcases Option.map_eq_some_iff.mp h with ⟨head, hhead, heq⟩
  refine ⟨head, hhead, ?_⟩
  rcases element_of_firstByTag? hhead with ⟨e, he⟩
  rw [Document.element?_eq] at he
  rcases Option.bind_eq_some_iff.mp he with ⟨n, hn, hcontent⟩
  have hlt : head < d.nodes.size := (Array.getElem?_eq_some_iff.mp hn).1
  have hnode := fun i => node?_inject d css head i
  replace heq : (((d.create (.element styleElement)).1.appendNew d.nodes.size
      (.text css)).1).append head d.nodes.size = d' := heq
  rw [heq] at hnode
  exact
    { doctype := by
        rw [← heq]
        rfl
      size := by
        rw [← heq]
        simp only [Document.appendNew]
        rw [Document.size_append, Document.size_append, Document.size_create,
          Document.size_create]
      style := by
        rw [hnode, if_neg (Nat.ne_of_lt (Nat.lt_succ_self _)), if_pos rfl, Option.map_some,
          Option.map_some, Document.linkedNode_parent (Nat.succ_ne_self _) rfl,
          Document.linkedNode, if_pos rfl, if_neg (Nat.ne_of_lt hlt)]
        rfl
      text := by
        rw [hnode, if_pos rfl, Option.map_some, Option.map_some,
          Document.linkedNode_of_ne (Nat.ne_of_lt (hlt.trans (Nat.lt_succ_self _)))
            (Nat.ne_of_lt (Nat.lt_succ_self _)),
          Document.linkedNode, if_pos rfl, if_neg (Nat.ne_of_lt (Nat.lt_succ_self _))]
        rfl
      old := by
        intro i n' hn'
        have hi : i < d.nodes.size := (Array.getElem?_eq_some_iff.mp hn').1
        have hstyle : d.nodes.size ≠ i := Nat.ne_of_gt hi
        have htext : d.nodes.size + 1 ≠ i := Nat.ne_of_gt (hi.trans (Nat.lt_succ_self _))
        rw [hnode, if_neg htext.symm, if_neg hstyle.symm, hn', Option.map_some,
          Option.map_some, Document.linkedNode_of_ne hstyle htext]
        by_cases hhere : i = head
        · -- The head is an element, so it takes the new child.
          rw [hhere, hn, Option.some.injEq] at hn'
          rw [if_pos hhere, Document.linkedNode_parent hstyle hhere.symm,
            Document.editChildren, ← hn', Content.eq_of_element? hcontent,
            Content.holdsChildren, if_pos rfl]
        · rw [if_neg hhere, Document.linkedNode_of_ne (Ne.symm hhere) hstyle] }

theorem Injected.element? {css : Text} {head : NodeId} {d d' : Document}
    (h : Injected css head d d') {i : NodeId} {e : Element} (he : d.element? i = some e) :
    d'.element? i = some e := by
  rw [Document.element?_eq] at he
  rcases Option.bind_eq_some_iff.mp he with ⟨n, hn, hcontent⟩
  rw [Document.element?_eq, h.old i n hn, Option.bind_some, hcontent]

/-! ### The order of the nodes -/

namespace Document

section

variable {d d' : Document} {head : NodeId}
  (hold : ∀ i < d.nodes.size,
    d'.children i = d.children i ++ if i = head then [d.nodes.size] else [])
  (hstyle : d'.children d.nodes.size = [d.nodes.size + 1])
  (htext : d'.children (d.nodes.size + 1) = [])

include hstyle htext

/-- A walk from the new node at the top meets new nodes only. -/
theorem filter_walk_style (depth : Nat) :
    (d'.walk depth d.nodes.size).filter (fun i => decide (i < d.nodes.size)) = [] := by
  refine List.filter_eq_nil_iff.mpr fun i hi => ?_
  have hge : d.nodes.size ≤ i := by
    cases depth with
    | zero => exact absurd hi List.not_mem_nil
    | succ depth =>
        rw [walk, hstyle, List.flatMap_singleton] at hi
        rcases List.mem_cons.mp hi with heq | hi
        · exact Nat.le_of_eq heq.symm
        · cases depth with
          | zero => exact absurd hi List.not_mem_nil
          | succ depth =>
              rw [walk, htext, List.flatMap_nil, List.mem_singleton] at hi
              rw [hi]
              exact Nat.le_succ _
  rw [decide_eq_true_eq]
  exact Nat.not_lt_of_le hge

include hold

/-- A walk meets the nodes that were there in the order they had. -/
theorem filter_walk (depth : Nat) :
    ∀ i, (∀ j ∈ d.walk depth i, j < d.nodes.size) →
      (d'.walk depth i).filter (fun i => decide (i < d.nodes.size)) = d.walk depth i := by
  induction depth with
  | zero => exact fun i _ => rfl
  | succ depth ih =>
      intro i hmem
      rw [walk] at hmem
      rcases List.forall_mem_cons.mp hmem with ⟨hi, hbelow⟩
      rw [walk, walk, List.filter_cons, if_pos (decide_eq_true hi), hold i hi, List.flatMap_append,
        List.filter_append]
      congr 1
      have hnew : ((if i = head then [d.nodes.size] else []).flatMap (d'.walk depth)).filter
          (fun i => decide (i < d.nodes.size)) = [] := by
        by_cases hhead : i = head
        · rw [if_pos hhead, List.flatMap_singleton, filter_walk_style hstyle htext]
        · rw [if_neg hhead]
          rfl
      rw [hnew, List.append_nil, List.filter_flatMap]
      exact List.flatMap_congr fun c hc =>
        ih c fun j hj => hbelow j (List.mem_flatMap.mpr ⟨c, hc, hj⟩)

/-- The order of the nodes that were there, in a document where each occurs once. -/
theorem filter_preorder (hsize : d'.nodes.size = d.nodes.size + 2)
    (hnodup : d.preorder.Nodup) (hstored : ∀ i ∈ d.preorder, i < d.nodes.size) :
    d'.preorder.filter (fun i => decide (i < d.nodes.size)) = d.preorder := by
  -- The larger document is walked two steps further down.
  have hwalk : d.walk (d'.nodes.size + 1) root = d.preorder :=
    (ordered_preorder hnodup).walk_root hnodup (by omega)
  rw [preorder, filter_walk hold hstyle htext, hwalk]
  rw [hwalk]
  exact hstored

end

end Document

end ResponsiveImages
