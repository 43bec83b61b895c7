import ResponsiveImages.Document.Index

/-!
# Elements by Class

Which elements an index lists under a class. It is filled in document order,
and an element is entered once for every class it names. If it names a class
twice it is still listed once, since it is the last entry there already
(`Groups.get_addNew_same`). So the elements with a class are a part of the
document, in its order (`byClass_sublist`), and they are those that have the class
(`mem_byClass`, `mem_byClass_of_hasClass`). A document that lists a node twice, with
others in between, would have it found twice. If it lists every node once, each is
found once (`byClass_eq`), and what is found is the document with everything else
left out (`Document.withClass`).

Under a tag an element is entered once in any case, so the first one that is listed
is the first one in the document (`firstByTag?_eq`).

## Main definitions

* `Document.withClass`: The elements with a class, read off the document.

## Theorems

* `Groups.get_edit`: A group after a group has been changed.
* `Groups.get_addNew`: A group after an element has been entered.
* `byClass_sublist`: The elements with a class are found in document order.
* `mem_byClass`: An element that is found by its class has it.
* `mem_byClass_of_hasClass`: An element that has a class is found by it.
* `byClass_eq`: The elements with a class, if every node occurs once.
* `firstByTag?_eq`: The first element with a tag.
-/

namespace ResponsiveImages

open Text

namespace Groups

theorem get_edit (f : List NodeId → List NodeId) (g : Groups) (key name : Text) :
    (edit f g key).get name = if key = name then f (g.get name) else g.get name := by
  have hcons : ∀ (k : Text) (nodes : List NodeId) (rest : Groups),
      Groups.get ((k, nodes) :: rest) name = if k = name then nodes else rest.get name := by
    intro k nodes rest
    rw [Groups.get, List.lookup_cons]
    by_cases h : k = name
    · rw [if_pos h, h, beq_self_eq_true]
      rfl
    · rw [if_neg h, beq_false_of_ne (Ne.symm h)]
      rfl
  induction g with
  | nil =>
      rw [edit, hcons]
      rfl
  | cons entry rest ih =>
      rcases entry with ⟨k, nodes⟩
      by_cases hk : k = key
      · rw [edit, if_pos hk, hcons, hcons, hk]
        by_cases h : key = name
        · rw [if_pos h, if_pos h, if_pos h]
        · rw [if_neg h, if_neg h, if_neg h]
      · rw [edit, if_neg hk, hcons, hcons, ih]
        by_cases h : key = name
        · have hk' : ¬ k = name := h ▸ hk
          rw [if_pos h, if_neg hk', if_neg hk', if_pos h]
        · rw [if_neg h, if_neg h]

/-- A node that was entered last is not entered again. -/
theorem get_addNew_same (i : NodeId) (name : Text) (classes : List Text) :
    ∀ g : Groups, (g.get name).getLast? = some i →
      (classes.foldl (fun g c => g.addNew c i) g).get name = g.get name := by
  induction classes with
  | nil => intro g _; rfl
  | cons c classes ih =>
      intro g hlast
      have hsame : (g.addNew c i).get name = g.get name := by
        rw [addNew, get_edit, if_pos hlast, ite_self]
      rw [List.foldl_cons, ih _ (by rw [hsame, hlast]), hsame]

/-- Entering a node under the classes of its element adds it at most once. -/
theorem get_addNew (i : NodeId) (name : Text) (classes : List Text) :
    ∀ g : Groups, (classes.foldl (fun g c => g.addNew c i) g).get name
      = if name ∈ classes ∧ (g.get name).getLast? ≠ some i then g.get name ++ [i]
        else g.get name := by
  induction classes with
  | nil => intro g; exact (if_neg fun h => absurd h.1 List.not_mem_nil).symm
  | cons c classes ih =>
      intro g
      by_cases hlast : (g.get name).getLast? = some i
      · rw [get_addNew_same i name (c :: classes) g hlast, if_neg fun h => h.2 hlast]
      have hadd : (g.addNew c i).get name = if c = name then g.get name ++ [i] else g.get name := by
        rw [addNew, get_edit, if_neg hlast]
      rw [List.foldl_cons]
      by_cases hc : c = name
      · -- It is entered now, and later mentions of the class add nothing.
        rw [if_pos hc] at hadd
        rw [get_addNew_same i name classes _ (by rw [hadd, List.getLast?_concat]), hadd,
          if_pos ⟨hc ▸ List.mem_cons_self, hlast⟩]
      · rw [if_neg hc] at hadd
        have hmem : name ∈ c :: classes ↔ name ∈ classes := by
          rw [List.mem_cons, or_iff_right (Ne.symm hc)]
        rw [ih, hadd]
        simp only [hmem]

/-- What has been entered stays there. -/
theorem mem_get_addNew {i j : NodeId} {name : Text} {classes : List Text} {g : Groups}
    (h : j ∈ g.get name) : j ∈ (classes.foldl (fun g c => g.addNew c i) g).get name := by
  rw [get_addNew]
  split
  · exact List.mem_append_left _ h
  · exact h

/-- A node is entered under each of the classes of its element. -/
theorem mem_get_addNew_of_mem (i : NodeId) {name : Text} {classes : List Text} (g : Groups)
    (h : name ∈ classes) : i ∈ (classes.foldl (fun g c => g.addNew c i) g).get name := by
  rw [get_addNew]
  by_cases hlast : (g.get name).getLast? = some i
  · -- It was the last one entered there already.
    rw [if_neg fun h => h.2 hlast]
    exact List.mem_of_getLast? hlast
  · rw [if_pos ⟨h, hlast⟩]
    exact List.mem_append_right _ (List.mem_singleton_self i)

end Groups

/-- The elements with a class after one more element has been entered. -/
theorem byClass_addElement (x : Index) (entry : NodeId × Element) (name : Text) :
    (x.addElement entry).byClass name
      = if entry.2.hasClass name = true ∧ (x.byClass name).getLast? ≠ some entry.1
        then x.byClass name ++ [entry.1] else x.byClass name := by
  rw [Index.byClass, Index.addElement, Groups.get_addNew, Element.hasClass, Attributes.hasClass]
  simp only [List.contains_iff_mem]
  rfl

/-- The elements with a class, in an index that is being filled. -/
theorem byClass_foldl (name : Text) (entries : List (NodeId × Element)) :
    ∀ (done : List (NodeId × Element)) (x : Index),
      (x.byClass name).Sublist (done.map Prod.fst) →
      (∀ i ∈ x.byClass name, ∃ e, (i, e) ∈ done ∧ e.hasClass name = true) →
        ((entries.foldl Index.addElement x).byClass name).Sublist
            ((done ++ entries).map Prod.fst)
          ∧ ∀ i ∈ (entries.foldl Index.addElement x).byClass name,
            ∃ e, (i, e) ∈ done ++ entries ∧ e.hasClass name = true := by
  induction entries with
  | nil =>
      intro done x hsub hmem
      rw [List.append_nil]
      exact ⟨hsub, hmem⟩
  | cons entry entries ih =>
      intro done x hsub hmem
      have hnext := ih (done ++ [entry]) (x.addElement entry)
      rw [List.append_assoc, List.singleton_append] at hnext
      rw [List.foldl_cons]
      have hold : ∀ i ∈ x.byClass name,
          ∃ e, (i, e) ∈ done ++ [entry] ∧ e.hasClass name = true := by
        intro i hi
        rcases hmem i hi with ⟨e, he, hclass⟩
        exact ⟨e, List.mem_append_left _ he, hclass⟩
      rw [List.map_append] at hnext
      -- The list stays or grows by the element that is entered.
      have hget := byClass_addElement x entry name
      by_cases hnew : entry.2.hasClass name = true ∧ (x.byClass name).getLast? ≠ some entry.1
      · rw [if_pos hnew] at hget
        rw [hget] at hnext
        refine hnext (hsub.append (List.Sublist.refl _)) fun i hi => ?_
        rcases List.mem_append.mp hi with hi | hi
        · exact hold i hi
        · rw [List.mem_singleton.mp hi]
          exact ⟨entry.2, List.mem_append_right _ (List.mem_singleton_self _), hnew.1⟩
      · rw [if_neg hnew] at hget
        rw [hget] at hnext
        exact hnext (hsub.trans (List.sublist_append_left _ _)) hold

/-- The nodes of the elements of a document are found in document order. -/
theorem elements_sublist (d : Document) : (d.elements.map Prod.fst).Sublist d.preorder := by
  rw [Document.elements]
  induction d.preorder with
  | nil => exact List.Sublist.refl _
  | cons i rest ih =>
      rw [List.filterMap_cons]
      cases d.element? i with
      | none => exact ih.cons i
      | some e => exact ih.cons_cons i

/-- The elements with a class are found in document order. -/
theorem byClass_sublist (d : Document) (name : Text) :
    ((Index.ofDocument d).byClass name).Sublist d.preorder :=
  ((byClass_foldl name d.elements [] {} (List.Sublist.refl _)
    fun _ hi => absurd hi List.not_mem_nil).1).trans (elements_sublist d)

/-- An element that is found by its class has it. -/
theorem mem_byClass {d : Document} {name : Text} {i : NodeId}
    (h : i ∈ (Index.ofDocument d).byClass name) :
    i ∈ d.preorder ∧ ∃ e, d.element? i = some e ∧ e.hasClass name = true := by
  have hfold := (byClass_foldl name d.elements [] {} (List.Sublist.refl _)
    fun i hi => absurd hi List.not_mem_nil).2
  rcases hfold i h with ⟨e, he, hclass⟩
  refine ⟨(byClass_sublist d name).subset h, e, ?_, hclass⟩
  rw [List.nil_append, Document.elements] at he
  rcases List.mem_filterMap.mp he with ⟨j, _, hj⟩
  rcases Option.map_eq_some_iff.mp hj with ⟨e', he', heq⟩
  rw [Prod.mk.injEq] at heq
  rw [← heq.1, ← heq.2, he']

theorem mem_elements {d : Document} {i : NodeId} {e : Element} :
    (i, e) ∈ d.elements ↔ i ∈ d.preorder ∧ d.element? i = some e := by
  rw [Document.elements, List.mem_filterMap]
  constructor
  · rintro ⟨j, hj, hentry⟩
    rcases Option.map_eq_some_iff.mp hentry with ⟨e', he', heq⟩
    rw [Prod.mk.injEq] at heq
    rw [← heq.1, ← heq.2]
    exact ⟨hj, he'⟩
  · rintro ⟨hi, he⟩
    exact ⟨i, hi, by rw [he, Option.map_some]⟩

theorem mem_byClass_foldl {name : Text} {i : NodeId} (entries : List (NodeId × Element)) :
    ∀ x : Index,
      i ∈ x.byClass name ∨ (∃ e, (i, e) ∈ entries ∧ e.hasClass name = true) →
        i ∈ (entries.foldl Index.addElement x).byClass name := by
  induction entries with
  | nil =>
      intro x h
      exact h.resolve_right fun ⟨_, hmem, _⟩ => absurd hmem List.not_mem_nil
  | cons entry entries ih =>
      intro x h
      refine ih (x.addElement entry) ?_
      rcases h with hbefore | ⟨e, hmem, hclass⟩
      · exact Or.inl (Groups.mem_get_addNew hbefore)
      · rcases List.mem_cons.mp hmem with hnow | hlater
        · refine Or.inl ?_
          rw [← hnow]
          exact Groups.mem_get_addNew_of_mem i _ (List.contains_iff_mem.mp hclass)
        · exact Or.inr ⟨e, hlater, hclass⟩

/-- An element of the document that has a class is found by it. -/
theorem mem_byClass_of_hasClass {d : Document} {name : Text} {i : NodeId} {e : Element}
    (hi : i ∈ d.preorder) (he : d.element? i = some e) (hclass : e.hasClass name = true) :
    i ∈ (Index.ofDocument d).byClass name :=
  mem_byClass_foldl d.elements {} (Or.inr ⟨e, mem_elements.mpr ⟨hi, he⟩, hclass⟩)

theorem byClass_foldl_of_nodup (name : Text) (entries : List (NodeId × Element)) :
    ∀ x : Index, (entries.map Prod.fst).Nodup →
      (∀ i, (x.byClass name).getLast? = some i → i ∉ entries.map Prod.fst) →
      (entries.foldl Index.addElement x).byClass name
        = x.byClass name ++ (entries.filter fun entry => entry.2.hasClass name).map Prod.fst := by
  induction entries with
  | nil => exact fun x _ _ => (List.append_nil _).symm
  | cons entry entries ih =>
      intro x hnodup hlast
      rw [List.map_cons, List.nodup_cons] at hnodup
      have hfresh : (x.byClass name).getLast? ≠ some entry.1 := fun h =>
        hlast entry.1 h List.mem_cons_self
      have hget := byClass_addElement x entry name
      rw [List.foldl_cons, List.filter_cons]
      by_cases hclass : entry.2.hasClass name = true
      · rw [if_pos ⟨hclass, hfresh⟩] at hget
        rw [ih _ hnodup.2 ?_, hget, if_pos hclass, List.map_cons, List.append_assoc]
        · rfl
        · -- The element that has just been entered does not come again.
          intro i hi
          rw [hget, List.getLast?_concat, Option.some.injEq] at hi
          exact hi ▸ hnodup.1
      · rw [if_neg fun h => hclass h.1] at hget
        rw [ih _ hnodup.2 ?_, hget, if_neg hclass]
        intro i hi
        rw [hget] at hi
        exact fun hmem => hlast i hi (List.mem_cons_of_mem _ hmem)

/-- The elements of a document that have a class, in document order. -/
def Document.withClass (d : Document) (name : Text) : List NodeId :=
  d.preorder.filter fun i => (d.element? i).any fun e => e.hasClass name

theorem mem_withClass {d : Document} {name : Text} {i : NodeId} :
    i ∈ d.withClass name
      ↔ i ∈ d.preorder ∧ ∃ e, d.element? i = some e ∧ e.hasClass name = true := by
  rw [Document.withClass, List.mem_filter, Option.any_eq_true]

/-- If every node of a document occurs once, an element is found by its classes once. -/
theorem byClass_eq {d : Document} (hnodup : d.preorder.Nodup) (name : Text) :
    (Index.ofDocument d).byClass name = d.withClass name := by
  have hfilter : ∀ nodes : List NodeId,
      ((nodes.filterMap fun i => (d.element? i).map (i, ·)).filter
          fun entry => entry.2.hasClass name).map Prod.fst
        = nodes.filter fun i => (d.element? i).any fun e => e.hasClass name := by
    intro nodes
    induction nodes with
    | nil => rfl
    | cons i nodes ih =>
        rw [List.filterMap_cons, List.filter_cons]
        cases d.element? i with
        | none => exact ih
        | some e =>
            simp only [Option.map_some, Option.any_some, List.filter_cons]
            by_cases hclass : e.hasClass name = true
            · simp only [if_pos hclass, List.map_cons, ih]
            · simp only [if_neg hclass, ih]
  rw [Index.ofDocument, byClass_foldl_of_nodup name d.elements {}
    ((elements_sublist d).nodup hnodup) fun i hi => absurd hi (by simp [Index.byClass, Groups.get])]
  exact hfilter d.preorder

theorem tags_foldl (key : Text) (entries : List (NodeId × Element)) :
    ∀ x : Index, (entries.foldl Index.addElement x).tags.get key
      = x.tags.get key
        ++ (entries.filter fun entry => toLowerCase entry.2.tag == key).map Prod.fst := by
  induction entries with
  | nil => exact fun x => (List.append_nil _).symm
  | cons entry entries ih =>
      intro x
      rw [List.foldl_cons, ih, Index.addElement, Groups.add, Groups.get_edit, List.filter_cons]
      by_cases h : toLowerCase entry.2.tag = key
      · rw [if_pos h, if_pos (beq_iff_eq.mpr h), List.map_cons, List.append_assoc]
        rfl
      · rw [if_neg h, if_neg (by rwa [beq_iff_eq])]

/-- The first element with a tag, in document order. -/
theorem firstByTag?_eq (d : Document) (tag : Text) :
    (Index.ofDocument d).firstByTag? tag
      = (d.elements.find? fun entry => toLowerCase entry.2.tag == toLowerCase tag).map
          Prod.fst := by
  rw [Index.firstByTag?, Index.ofDocument, tags_foldl, List.head?_append, List.head?_map,
    List.head?_filter]
  rfl

theorem element_of_firstByTag? {d : Document} {tag : Text} {i : NodeId}
    (h : (Index.ofDocument d).firstByTag? tag = some i) : ∃ e, d.element? i = some e := by
  rw [firstByTag?_eq] at h
  rcases Option.map_eq_some_iff.mp h with ⟨⟨j, e⟩, hfind, hj⟩
  exact ⟨e, hj ▸ (mem_elements.mp (List.mem_of_find?_eq_some hfind)).2⟩

end ResponsiveImages
