import ResponsiveImages.Proofs.BuiltDocument

/-!
# Insertion in Front of a Sibling

Where a node ends up that is inserted in front of another one.

The sibling knows its parent by its link, and its place by the list of that parent. In
that list the new node is put immediately in front of it, the others keep their order,
and a new element is linked to the parent (`inserted_in_front_of_sibling`). This does
by hand what appending does (`Document.append`), and it does not do all of it. The link is set
whatever the parent is, but only an element takes the node into its list. In front of an
element at the top of a document nothing is inserted, and an element that should have
been is linked to a root that does not list it (`root_takes_nothing_in`).

The sibling may be listed more than once in a document whose links and lists do not
agree. It is the first place that counts then.

## Theorems

* `placeBefore_append`, `placeBefore_cons_self`: The place in a list.
* `insertBefore_node`: What is written when a node is inserted.
* `children_insertBefore`, `parent?_insertBefore`, `content?_insertBefore`: Lists, links
  and contents afterwards.
* `inserted_in_front_of_sibling`: Where the node is then.
-/

namespace ResponsiveImages

/-! ### The place in a list -/

theorem placeBefore_append {sibling : NodeId} {front : List NodeId} (hfront : sibling ∉ front)
    (new : NodeId) (back : List NodeId) :
    placeBefore sibling new (front ++ back) = front ++ placeBefore sibling new back := by
  induction front with
  | nil => rfl
  | cons i front ih =>
      have hi : i ≠ sibling := fun heq => hfront (heq ▸ List.mem_cons_self)
      have hrest := ih fun hmem => hfront (List.mem_cons_of_mem _ hmem)
      rw [List.cons_append, placeBefore, if_neg hi, hrest, List.cons_append]

theorem placeBefore_cons_self (sibling new : NodeId) (back : List NodeId) :
    placeBefore sibling new (sibling :: back) = new :: sibling :: back := by
  rw [placeBefore, if_pos rfl]

namespace Document

/-- Elements keep lists of children. -/
theorem holds_of_isElement {d : Document} {i : NodeId} (h : d.isElement i = true) :
    d.holds i = true := by
  rcases Option.isSome_iff_exists.mp h with ⟨e, he⟩
  rcases Option.bind_eq_some_iff.mp he with ⟨content, hcontent, helement⟩
  rw [holds, hcontent, Content.eq_of_element? helement]
  rfl

variable {d : Document} {sibling p c : NodeId}

/-! ### What is written -/

section

variable (hp : d.parent? sibling = some p)

include hp

/-- What is written when a node is inserted. The link is set in any case. -/
theorem insertBefore_node (c : NodeId) :
    d.insertBefore sibling (.node c)
      = if d.isElement p = true
        then (d.link c (some p)).modify p (editChildren (placeBefore sibling c))
        else d.link c (some p) := by
  have hkinds := (sameKinds_link d c (some p)).isElement p
  rw [insertBefore, hp]
  simp only [materialize]
  cases he : (d.link c (some p)).element? p with
  | none =>
      rw [isElement, he] at hkinds
      rw [if_neg (by rw [← hkinds]; exact Bool.false_ne_true)]
  | some e =>
      rw [isElement, he, Option.isSome_some] at hkinds
      rw [if_pos hkinds.symm]

theorem content?_insertBefore (c i : NodeId) :
    (d.insertBefore sibling (.node c)).content? i = d.content? i := by
  have hlink : (d.link c (some p)).content? i = d.content? i :=
    map_node?_modify d c i (linkNode_content _)
  rw [insertBefore_node hp]
  split
  · rw [← hlink]
    exact map_node?_modify (d.link c (some p)) p i (editChildren_content _)
  · exact hlink

/-- The links are those that appending the node to the parent would set. -/
theorem parent?_insertBefore (c i : NodeId) :
    (d.insertBefore sibling (.node c)).parent? i
      = if i = c ∧ d.isElement i = true then some p else d.parent? i := by
  rw [← parent?_link, insertBefore_node hp]
  split
  · rw [parent?_editChildren]
  · rfl

theorem children_insertBefore (c q : NodeId) :
    (d.insertBefore sibling (.node c)).children q
      = if p = q ∧ d.isElement p = true then placeBefore sibling c (d.children p)
        else d.children q := by
  rw [insertBefore_node hp]
  by_cases helement : d.isElement p = true
  · have hholds : d.holds p = true := holds_of_isElement helement
    rw [if_pos helement, children_placed hholds]
    by_cases hpq : p = q
    · rw [if_pos hpq, if_pos ⟨hpq, helement⟩]
    · rw [if_neg hpq, if_neg fun hboth => hpq hboth.1]
  · rw [if_neg helement, if_neg fun hboth => helement hboth.2, children_link]

end

end Document

/-! ### Where the node is then -/

/-- A node that is in no list and not above another one is inserted in front of that. If
    the parent of the sibling is an element, the node is listed once, immediately in front
    of the sibling, and links and lists stay in agreement. If it is the root of the document, no
    list takes the node in. A new element is linked to the parent in either case, and all else
    stays as it is. -/
theorem inserted_in_front_of_sibling {d : Document} {sibling p c : NodeId}
    (hp : d.parent? sibling = some p) (hlisted : sibling ∈ d.children p)
    (hc : d.Insertable p c) :
    let d' := d.insertBefore sibling (.node c)
    (d.isElement c = true → d'.parent? c = some p)
      ∧ (d.isElement p = true →
          (∃ front back, sibling ∉ front ∧ d.children p = front ++ sibling :: back
            ∧ d'.children p = front ++ c :: sibling :: back)
          ∧ (d'.children p).count c = 1
          ∧ (d.Linked → d'.Linked))
      ∧ (d.isElement p = false → ∀ q < d.nodes.size, c ∉ d'.children q)
      ∧ (∀ q, (q = p → d.isElement p = false) → d'.children q = d.children q)
      ∧ (∀ i ≠ c, d'.parent? i = d.parent? i)
      ∧ (∀ i, d'.content? i = d.content? i) := by
  intro d'
  have hstored : p < d.nodes.size := by
    rw [Document.children] at hlisted
    cases hn : d.node? p with
    | none =>
        rw [hn] at hlisted
        exact absurd hlisted List.not_mem_nil
    | some n => exact (Array.getElem?_eq_some_iff.mp hn).1
  have hkept : ∀ q, (q = p → d.isElement p = false) → d'.children q = d.children q := by
    intro q hq
    rw [Document.children_insertBefore hp, if_neg]
    rintro ⟨hpq, helement⟩
    rw [hq hpq.symm] at helement
    exact Bool.false_ne_true helement
  refine ⟨?_, ?_, ?_, hkept, ?_, Document.content?_insertBefore hp c⟩
  · intro helement
    rw [Document.parent?_insertBefore hp, if_pos ⟨rfl, helement⟩]
  · intro helement
    rcases List.eq_append_cons_of_mem hlisted with ⟨front, back, hsplit, hfront⟩
    have hplaced : d'.children p = front ++ c :: sibling :: back := by
      rw [Document.children_insertBefore hp, if_pos ⟨rfl, helement⟩, hsplit,
        placeBefore_append hfront, placeBefore_cons_self]
    refine ⟨⟨front, back, hfront, hsplit, hplaced⟩, ?_, fun hlinked => ?_⟩
    · -- The node was not listed before.
      have hperm : (d'.children p).Perm (c :: d.children p) := by
        rw [hplaced, hsplit]
        exact List.perm_middle
      rw [hperm.count_eq, List.count_cons_self,
        List.count_eq_zero_of_not_mem (hc.unlisted p hstored)]
    · refine hlinked.insertBefore fun p' hp' => ?_
      rw [hp, Option.mem_def, Option.some.injEq] at hp'
      rw [← hp']
      exact ⟨helement, Document.holds_of_isElement helement, hc⟩
  · intro helement q hq
    rw [hkept q fun _ => helement]
    exact hc.unlisted q hq
  · intro i hi
    rw [Document.parent?_insertBefore hp, if_neg fun hboth => hi hboth.1]

/-- A page with a table in its body, and a paragraph that is nowhere yet. -/
def pageWithLooseParagraph : Document :=
  let element (tag : Text) : BuilderCall := .createElement { tag }
  [ element "html".toList, .append 0 (.node 1),
    element "body".toList, .append 1 (.node 2),
    .append 2 (.text "a".toList), element "table".toList, .append 2 (.node 4),
    element "p".toList ].foldl BuilderCall.perform {}

/-- The paragraph in front of the table, behind the text. -/
theorem paragraph_in_front_of_table :
    let d := pageWithLooseParagraph
    d.parent? 4 = some 2 ∧ d.Insertable 2 5
      ∧ (d.insertBefore 4 (.node 5)).parent? 5 = some 2
      ∧ (d.insertBefore 4 (.node 5)).children 2 = [3, 5, 4] := by
  have hp : pageWithLooseParagraph.parent? 4 = some 2 := by decide +kernel
  have hc : pageWithLooseParagraph.Insertable 2 5 := by decide +kernel
  have h := inserted_in_front_of_sibling hp (by decide +kernel) hc
  exact ⟨hp, hc, h.1 (by decide +kernel), by decide +kernel⟩

/-- In front of the topmost element there is no place for the paragraph. It is linked to the
    root, which does not list it. -/
theorem root_takes_nothing_in :
    let d := pageWithLooseParagraph
    d.parent? 1 = some Document.root ∧ 1 ∈ d.children Document.root
      ∧ d.Insertable Document.root 5
      ∧ (d.insertBefore 1 (.node 5)).parent? 5 = some Document.root
      ∧ 5 ∉ (d.insertBefore 1 (.node 5)).children Document.root := by
  decide +kernel

end ResponsiveImages
