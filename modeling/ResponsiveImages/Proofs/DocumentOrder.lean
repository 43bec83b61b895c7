import Mathlib.Data.List.Nodup
import Mathlib.Data.List.Perm.Subperm
import ResponsiveImages.Proofs.ElementsByClass

/-!
# Document Order

What it means that a list holds the nodes of a document in document order. After a node
comes what is below it, and after that come the nodes next to it, each with what is below
it in turn (`Document.Ordered`). No bound on the depth has a part in this. There is at
most one such list, and none if the document loops back on itself.

The order that is computed has a bound, and has to be shown to be this one. Wherever the
walk goes down it comes through one more node, so it cannot be cut off before it has come
through more nodes than there are. A walk that meets no node twice has not been cut off
(`Document.ordered_preorder`), and where there is an order that names no node twice the
walk finds it (`Document.preorder_eq`).

The groups of an index can then be read off the order: the elements with a class are what
is left of it when everything else is left out, and the first element with a tag is the
first one in it.

## Main definitions

* `Document.Ordered`: Nodes and what is below them, in document order.

## Theorems

* `Document.Ordered.unique`: There is one order.
* `Document.Ordered.walk`: A walk that may go deep enough finds the order.
* `Document.ordered_walk`: A walk that meets no node twice is in order.
* `Document.nodup_preorder_iff`: The documents in which each node occurs once.
* `firstByTag?_eq_find?`: The first element with a tag.
* `groups_in_document_order`: Elements by class and by tag, in document order.
-/

namespace ResponsiveImages

open Text

namespace Document

variable {d : Document}

/-- Nodes with all that is below them, in document order. -/
inductive Ordered (d : Document) : List NodeId → List NodeId → Prop where
  | nil : Ordered d [] []
  | cons {i : NodeId} {rest below later : List NodeId} (hbelow : Ordered d (d.children i) below)
      (hlater : Ordered d rest later) : Ordered d (i :: rest) (i :: (below ++ later))

/-- Different nodes below a bound. -/
theorem length_le_of_nodup {nodes : List NodeId} {bound : Nat} (hnodup : nodes.Nodup)
    (hbound : ∀ j ∈ nodes, j < bound) : nodes.length ≤ bound := by
  have hrange : nodes ⊆ List.range bound := fun j hj => List.mem_range.mpr (hbound j hj)
  have hlength := (List.Nodup.subperm hnodup hrange).length_le
  rwa [List.length_range] at hlength

/-- Nothing is below a number that is no node's. -/
theorem children_of_size_le {i : NodeId} (h : d.nodes.size ≤ i) : d.children i = [] := by
  rw [children, node?, Array.getElem?_eq_none h]

theorem Ordered.unique {tops nodes others : List NodeId} (h : d.Ordered tops nodes)
    (h' : d.Ordered tops others) : others = nodes := by
  induction h generalizing others with
  | nil =>
      cases h'
      rfl
  | cons _ _ ihbelow ihlater =>
      rcases h' with _ | ⟨hbelow, hlater⟩
      rw [ihbelow hbelow, ihlater hlater]

/-- What is in order below each of some nodes is in order below all of them. -/
theorem ordered_flatMap {f : NodeId → List NodeId} (tops : List NodeId) :
    (∀ c ∈ tops, d.Ordered [c] (f c)) → d.Ordered tops (tops.flatMap f) := by
  induction tops with
  | nil => exact fun _ => .nil
  | cons c tops ih =>
      intro h
      rcases List.forall_mem_cons.mp h with ⟨hfirst, hrest⟩
      rw [List.flatMap_cons]
      -- The order from one node on is that node and the order of its children.
      generalize f c = nodes at hfirst
      rcases hfirst with _ | ⟨hbelow, hnone⟩
      rcases hnone with _ | _
      rw [List.append_nil, List.cons_append]
      exact .cons hbelow (ih hrest)

/-- A walk finds the order if it may go down further than there are nodes with something
    below them. -/
theorem Ordered.walk {tops nodes : List NodeId} (h : d.Ordered tops nodes) :
    ∀ depth, (nodes.filter fun j => decide (j < d.nodes.size)).length < depth →
      tops.flatMap (d.walk depth) = nodes := by
  induction h with
  | nil => exact fun _ _ => rfl
  | @cons i rest below later hbelow _ ihbelow ihlater =>
      intro depth hdepth
      cases depth with
      | zero => exact absurd hdepth (Nat.not_lt_zero _)
      | succ depth =>
          rw [List.filter_cons, List.filter_append] at hdepth
          -- A node takes one step off the depth, and is one of those counted unless
          -- nothing is below it.
          have hfirst : (d.children i).flatMap (d.walk depth) = below := by
            by_cases hi : i < d.nodes.size
            · rw [if_pos (decide_eq_true hi), List.length_cons, List.length_append] at hdepth
              exact ihbelow depth (by omega)
            · rw [children_of_size_le (Nat.le_of_not_lt hi)] at hbelow ⊢
              exact hbelow.unique .nil
          have hrest : rest.flatMap (d.walk (depth + 1)) = later := by
            refine ihlater (depth + 1) (Nat.lt_of_le_of_lt ?_ hdepth)
            split
            · rw [List.length_cons, List.length_append]
              omega
            · rw [List.length_append]
              exact Nat.le_add_left _ _
          rw [List.flatMap_cons, Document.walk, hfirst, hrest, List.cons_append]

/-- A walk that meets no node twice is in document order, if it may go on for as many
    steps as there are nodes it has not come through. -/
theorem ordered_walk (depth : Nat) :
    ∀ (i : NodeId) (above : List NodeId), above.Nodup → (∀ j ∈ above, j < d.nodes.size) →
      (d.walk depth i).Nodup → (∀ j ∈ d.walk depth i, j ∉ above) →
      d.nodes.size < above.length + depth → d.Ordered [i] (d.walk depth i) := by
  induction depth with
  | zero =>
      intro i above hnodup hstored _ _ hlt
      exact absurd (length_le_of_nodup hnodup hstored) (Nat.not_le_of_lt hlt)
  | succ depth ih =>
      intro i above hnodup hstored hwalk hnew hlt
      rw [walk] at hwalk hnew ⊢
      rcases List.nodup_cons.mp hwalk with ⟨hnot, honce⟩
      have hbelow : d.Ordered (d.children i) ((d.children i).flatMap (d.walk depth)) := by
        by_cases hi : i < d.nodes.size
        · refine ordered_flatMap _ fun c hc => ?_
          -- The walk below a child has come through one node more.
          refine ih c (i :: above)
            (List.nodup_cons.mpr ⟨hnew i List.mem_cons_self, hnodup⟩)
            (List.forall_mem_cons.mpr ⟨hi, hstored⟩) ((List.nodup_flatMap.mp honce).1 c hc)
            (fun j hj hmem => ?_) ?_
          · have hj' : j ∈ (d.children i).flatMap (d.walk depth) :=
              List.mem_flatMap.mpr ⟨c, hc, hj⟩
            rcases List.mem_cons.mp hmem with heq | habove
            · exact hnot (heq ▸ hj')
            · exact hnew j (List.mem_cons_of_mem i hj') habove
          · rw [List.length_cons]
            omega
        · rw [children_of_size_le (Nat.le_of_not_lt hi)]
          exact .nil
      rw [← List.append_nil (List.flatMap _ _)]
      exact .cons hbelow .nil

theorem ordered_preorder (hnodup : d.preorder.Nodup) : d.Ordered [root] d.preorder := by
  refine ordered_walk (d.nodes.size + 1) root [] List.nodup_nil
    (fun _ hj => absurd hj List.not_mem_nil) hnodup (fun _ _ => List.not_mem_nil) ?_
  rw [List.length_nil, Nat.zero_add]
  exact Nat.lt_succ_self _

/-- A walk from the top that may go down further than there are nodes finds the order, if
    it names no node twice. -/
theorem Ordered.walk_root {nodes : List NodeId} (h : d.Ordered [root] nodes)
    (hnodup : nodes.Nodup) {depth : Nat} (hdepth : d.nodes.size < depth) :
    d.walk depth root = nodes := by
  have hfew : (nodes.filter fun j => decide (j < d.nodes.size)).length ≤ d.nodes.size :=
    length_le_of_nodup (hnodup.filter _) fun j hj => of_decide_eq_true (List.mem_filter.mp hj).2
  rw [← h.walk depth (Nat.lt_of_le_of_lt hfew hdepth), List.flatMap_singleton]

theorem Ordered.preorder_eq {nodes : List NodeId} (h : d.Ordered [root] nodes)
    (hnodup : nodes.Nodup) : d.preorder = nodes :=
  h.walk_root hnodup (Nat.lt_succ_self _)

/-- The documents in which each node occurs once. -/
theorem nodup_preorder_iff :
    d.preorder.Nodup ↔ ∃ nodes, d.Ordered [root] nodes ∧ nodes.Nodup := by
  constructor
  · exact fun hnodup => ⟨d.preorder, ordered_preorder hnodup, hnodup⟩
  · rintro ⟨nodes, h, hnodup⟩
    rw [h.preorder_eq hnodup]
    exact hnodup

end Document

/-- The first element with a tag is the first one in document order. -/
theorem firstByTag?_eq_find? (d : Document) (tag : Text) :
    (Index.ofDocument d).firstByTag? tag
      = d.preorder.find? fun i => (d.element? i).any fun e =>
          toLowerCase e.tag == toLowerCase tag := by
  rw [firstByTag?_eq, Document.elements]
  induction d.preorder with
  | nil => rfl
  | cons i rest ih =>
      rw [List.filterMap_cons, List.find?_cons]
      cases d.element? i with
      | none => exact ih
      | some e =>
          rw [Option.map_some, List.find?_cons, Option.any_some]
          cases toLowerCase e.tag == toLowerCase tag with
          | true => rfl
          | false => exact ih

/-- If a list holds the nodes of a document in document order and each once, the elements
    that have a class are found in this order and each once, and the first one in it that
    has a tag, in any case, is found by the tag. -/
theorem groups_in_document_order {d : Document} {nodes : List NodeId}
    (h : d.Ordered [Document.root] nodes) (hnodup : nodes.Nodup) :
    (∀ name, (Index.ofDocument d).byClass name
        = nodes.filter fun i => (d.element? i).any fun e => e.hasClass name)
      ∧ (∀ name, ((Index.ofDocument d).byClass name).Nodup)
      ∧ ∀ tag, (Index.ofDocument d).firstByTag? tag
        = nodes.find? fun i => (d.element? i).any fun e =>
            toLowerCase e.tag == toLowerCase tag := by
  have horder := h.preorder_eq hnodup
  have hclass : ∀ name, (Index.ofDocument d).byClass name
      = nodes.filter fun i => (d.element? i).any fun e => e.hasClass name := by
    intro name
    rw [byClass_eq (horder ▸ hnodup), Document.withClass, horder]
  refine ⟨hclass, fun name => ?_, fun tag => ?_⟩
  · rw [hclass]
    exact hnodup.filter _
  · rw [firstByTag?_eq_find?, horder]

/-- A page on which marked elements are nested and name classes more than once, in
    different orders and next to a text. -/
def repeatedMarks : Document :=
  let box (tag classes : String) : Element :=
    { tag := tag.toList, attributes := [("class".toList, classes.toList)] }
  Document.ofTrees none [
    .element { tag := "HTML".toList } [
      .element (box "div" "b a b") [
        .element (box "img" "a a") [],
        .text "a".toList],
      .element (box "Img" "b\ta") []]]

/-- The elements are found in document order and each once. -/
theorem groups_of_repeatedMarks :
    (Index.ofDocument repeatedMarks).byClass "a".toList = [2, 3, 5]
      ∧ (Index.ofDocument repeatedMarks).byClass "b".toList = [2, 5]
      ∧ (Index.ofDocument repeatedMarks).firstByTag? "IMG".toList = some 3
      ∧ (Index.ofDocument repeatedMarks).firstByTag? "head".toList = none := by
  have hnodup : repeatedMarks.preorder.Nodup := by decide +kernel
  rcases groups_in_document_order (Document.ordered_preorder hnodup) hnodup with
    ⟨hclass, _, htag⟩
  rw [hclass, hclass, htag, htag]
  decide +kernel

end ResponsiveImages
