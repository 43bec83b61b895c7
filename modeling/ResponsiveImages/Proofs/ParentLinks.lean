import Mathlib.Logic.Relation
import Mathlib.Order.WellFounded
import ResponsiveImages.Document.Lifetime
import ResponsiveImages.Proofs.InjectedSheet

/-!
# Parent Links

When the parent links of a document agree with its lists of children, and what keeps
them in agreement.

Lists and links are kept apart, and the operations that build a document write to them
in different ways. `Linked` says what has to hold between them. That one operation or
another restores it is not shown for each of them from the beginning. They all do one
thing: certain nodes leave the lists they are in and enter that of a target, if there
is one (`Relinked`), and from there on it does not matter how the lists were written.

The obstacle is that a new link may close a loop. It does not if no element that moves
is the target or above it. Then nothing has changed on the way up from the target, and
a way up that meets a moved element goes on from the target (`Relinked.ends`).

Nodes above a node are looked for up to a bound, the number of nodes. Where there are no
loops a walk upwards meets different nodes, so that the bound leaves none of them out
(`mem_ancestors`).

## Main definitions

* `Document.holds`, `Document.isElement`: The kinds of nodes.
* `Document.SameKinds`: Documents with the same nodes, of the same kinds.
* `Document.Linked`: Links and lists that agree.
* `Document.Relinked`: Nodes that have been moved.

## Theorems

* `parent?_link`, `children_editChildren`: Links and lists after a write.
* `mem_ancestors`: The bound on the walk upwards.
* `Relinked.ends`: Moving nodes closes no loop.
* `Linked.relinked`, `Linked.parted`: Moving nodes keeps the agreement.
* `Linked.create`, `Linked.modify`: So do new nodes and new contents.
-/

namespace ResponsiveImages

open Relation

/-! ### What is seen of a node -/

theorem linkNode_content (parent : Option NodeId) (n : Node) :
    (Document.linkNode parent n).content = n.content := by
  rcases n with ⟨content, children, link⟩
  cases content <;> rfl

theorem linkNode_children (parent : Option NodeId) (n : Node) :
    (Document.linkNode parent n).children = n.children := by
  rcases n with ⟨content, children, link⟩
  cases content <;> rfl

theorem linkNode_parent (parent : Option NodeId) (n : Node) :
    (Document.linkNode parent n).parent
      = if n.content.element?.isSome then parent else n.parent := by
  rcases n with ⟨content, children, link⟩
  cases content <;> rfl

theorem editChildren_content (f : List NodeId → List NodeId) (n : Node) :
    (Document.editChildren f n).content = n.content := by
  rw [Document.editChildren]
  split <;> rfl

theorem editChildren_parent (f : List NodeId → List NodeId) (n : Node) :
    (Document.editChildren f n).parent = n.parent := by
  rw [Document.editChildren]
  split <;> rfl

namespace Document

/-- Whether a node is an element. -/
def isElement (d : Document) (i : NodeId) : Bool :=
  (d.element? i).isSome

/-- Whether a node keeps a list of children. -/
def holds (d : Document) (i : NodeId) : Bool :=
  (d.content? i).any Content.holdsChildren

/-- Whether a node is the parent of another by the link of that. -/
def IsParent (d : Document) (p i : NodeId) : Prop :=
  d.parent? i = some p

/-- Documents with the same nodes, of the same kinds. -/
structure SameKinds (d d' : Document) : Prop where
  size : d'.nodes.size = d.nodes.size
  isElement : ∀ i, d'.isElement i = d.isElement i
  holds : ∀ i, d'.holds i = d.holds i

theorem SameKinds.refl (d : Document) : SameKinds d d :=
  ⟨rfl, fun _ => rfl, fun _ => rfl⟩

theorem SameKinds.trans {d d' d'' : Document} (h : SameKinds d d') (h' : SameKinds d' d'') :
    SameKinds d d'' :=
  ⟨h'.size.trans h.size, fun i => (h'.isElement i).trans (h.isElement i),
    fun i => (h'.holds i).trans (h.holds i)⟩

/-- What a change of one node leaves alone. -/
theorem map_node?_modify {α : Type} (d : Document) (i j : NodeId) {f : Node → Node}
    {g : Node → α} (h : ∀ n, g (f n) = g n) :
    ((d.modify i f).node? j).map g = (d.node? j).map g := by
  rw [node?_modify]
  split
  · rw [Option.map_map, show g ∘ f = g from funext h]
  · rfl

theorem children_eq (d : Document) (i : NodeId) :
    d.children i = ((d.node? i).map Node.children).getD [] := by
  rw [children]
  cases d.node? i <;> rfl

theorem parent?_eq (d : Document) (i : NodeId) :
    d.parent? i = ((d.node? i).map Node.parent).join := by
  rw [parent?]
  cases d.node? i <;> rfl

theorem isElement_eq (d : Document) (i : NodeId) :
    d.isElement i = ((d.node? i).map fun n => n.content.element?.isSome).getD false := by
  rw [isElement, element?_eq]
  cases d.node? i <;> rfl

theorem holds_eq (d : Document) (i : NodeId) :
    d.holds i = ((d.node? i).map fun n => n.content.holdsChildren).getD false := by
  rw [holds, content?]
  cases d.node? i <;> rfl

theorem children_modify {d : Document} {f : Node → Node} (h : ∀ n, (f n).children = n.children)
    (i j : NodeId) : (d.modify i f).children j = d.children j := by
  rw [children_eq, map_node?_modify d i j h, ← children_eq]

theorem parent?_modify {d : Document} {f : Node → Node} (h : ∀ n, (f n).parent = n.parent)
    (i j : NodeId) : (d.modify i f).parent? j = d.parent? j := by
  rw [parent?_eq, map_node?_modify d i j h, ← parent?_eq]

theorem size_modify (d : Document) (i : NodeId) (f : Node → Node) :
    (d.modify i f).nodes.size = d.nodes.size :=
  Array.size_modify

theorem sameKinds_of_content {d d' : Document} (hsize : d'.nodes.size = d.nodes.size)
    (h : ∀ i, d'.content? i = d.content? i) : SameKinds d d' :=
  ⟨hsize, fun i => by rw [isElement, element?, h, isElement, element?],
    fun i => by rw [holds, h, holds]⟩

theorem sameKinds_link (d : Document) (i : NodeId) (parent : Option NodeId) :
    SameKinds d (d.link i parent) :=
  sameKinds_of_content (size_modify _ _ _) fun j =>
    map_node?_modify d i j (linkNode_content parent)

theorem sameKinds_editChildren (d : Document) (i : NodeId) (f : List NodeId → List NodeId) :
    SameKinds d (d.modify i (editChildren f)) :=
  sameKinds_of_content (size_modify _ _ _) fun j =>
    map_node?_modify d i j (editChildren_content f)

theorem children_link (d : Document) (i : NodeId) (parent : Option NodeId) (j : NodeId) :
    (d.link i parent).children j = d.children j :=
  children_modify (linkNode_children parent) i j

/-- Links to parents are no matter for lists. -/
theorem children_clearLinks (d : Document) (there : NodeId → Bool) (i : NodeId) :
    (d.clearLinks there).children i = d.children i := by
  rw [children, children, node?, node?, clearLinks, Array.getElem?_map]
  cases d.nodes[i]? <;> rfl

/-- The parent links after one of them has been set. -/
theorem parent?_link (d : Document) (i : NodeId) (parent : Option NodeId) (j : NodeId) :
    (d.link i parent).parent? j
      = if j = i ∧ d.isElement j = true then parent else d.parent? j := by
  rw [link, parent?, node?_modify, isElement, element?_eq, parent?]
  by_cases h : i = j
  · rw [if_pos h]
    cases d.node? j with
    | none => simp
    | some n => simp [h, linkNode_parent]
  · rw [if_neg h, if_neg fun hboth => h hboth.1.symm]

/-- The lists of children after one of them has been changed. -/
theorem children_editChildren (d : Document) (i : NodeId) (f : List NodeId → List NodeId)
    (j : NodeId) :
    (d.modify i (editChildren f)).children j
      = if i = j ∧ d.holds j = true then f (d.children j) else d.children j := by
  rw [children, node?_modify, holds, content?, children]
  by_cases h : i = j
  · rw [if_pos h]
    cases d.node? j with
    | none => simp
    | some n =>
        simp only [Option.map_some, Option.any_some, editChildren, h, true_and]
        split <;> rfl
  · rw [if_neg h, if_neg fun hboth => h hboth.1]

theorem parent?_editChildren (d : Document) (i : NodeId) (f : List NodeId → List NodeId)
    (j : NodeId) : (d.modify i (editChildren f)).parent? j = d.parent? j :=
  parent?_modify (editChildren_parent f) i j

/-! ### Links and lists that agree -/

/-- A document in which parent links and lists of children agree. -/
structure Linked (d : Document) : Prop where
  /-- The root and elements list children, and what they list are nodes. -/
  listed : ∀ p i, i ∈ d.children p → d.holds p = true ∧ i < d.nodes.size
  /-- An element is linked to the node that lists it. -/
  parent : ∀ i, d.isElement i = true → ∀ p, d.parent? i = some p ↔ i ∈ d.children p
  /-- No other node has a link. -/
  unlinked : ∀ i, d.isElement i = false → d.parent? i = none
  /-- A list has no repetitions. -/
  once : ∀ p, (d.children p).Nodup
  /-- No node is in two lists. -/
  single : ∀ p q i, i ∈ d.children p → i ∈ d.children q → p = q
  /-- There is an end to following links. -/
  ends : WellFounded d.IsParent

variable {d d' : Document}

theorem lt_of_parent? {i p : NodeId} (h : d.parent? i = some p) : i < d.nodes.size := by
  rcases Option.bind_eq_some_iff.mp h with ⟨n, hn, _⟩
  exact (Array.getElem?_eq_some_iff.mp hn).1

theorem lt_of_holds {i : NodeId} (h : d.holds i = true) : i < d.nodes.size := by
  cases hn : d.node? i with
  | none =>
      rw [holds, content?, hn] at h
      exact absurd h Bool.false_ne_true
  | some n => exact (Array.getElem?_eq_some_iff.mp hn).1

namespace Linked

/-- A node with a link is an element in the list of its parent. -/
theorem mem_children (h : Linked d) {i p : NodeId} (hp : d.parent? i = some p) :
    d.isElement i = true ∧ i ∈ d.children p := by
  cases helement : d.isElement i with
  | true => exact ⟨rfl, (h.parent i helement p).mp hp⟩
  | false =>
      rw [h.unlinked i helement] at hp
      exact absurd hp (Option.some_ne_none p).symm

theorem holds_parent (h : Linked d) {i p : NodeId} (hp : d.parent? i = some p) :
    d.holds p = true :=
  (h.listed p i (h.mem_children hp).2).1

end Linked

/-! ### The nodes above a node -/

theorem above_of_mem_climb (steps : Nat) :
    ∀ i j, j ∈ d.climb steps i → TransGen d.IsParent j i := by
  induction steps with
  | zero => exact fun i j h => absurd h List.not_mem_nil
  | succ steps ih =>
      intro i j h
      rw [climb] at h
      cases hp : d.parent? i with
      | none =>
          rw [hp] at h
          exact absurd h List.not_mem_nil
      | some p =>
          rw [hp] at h
          rcases List.mem_cons.mp h with rfl | h
          · exact TransGen.single hp
          · exact (ih p j h).tail hp

/-- A climb that meets a node goes on from there as a climb from that node. -/
theorem exists_climb_through {i j : NodeId} (h : TransGen d.IsParent j i) (steps : Nat) :
    ∃ total, (j :: d.climb steps j).Sublist (d.climb total i) := by
  induction h with
  | @single i hp =>
      refine ⟨steps + 1, ?_⟩
      rw [climb, hp]
  | @tail p i _ hp ih =>
      rcases ih with ⟨total, hsub⟩
      refine ⟨total + 1, ?_⟩
      rw [climb, hp]
      exact hsub.cons p

/-- More steps only add to a climb. -/
theorem climb_sublist (steps more : Nat) :
    ∀ i, (d.climb steps i).Sublist (d.climb (steps + more) i) := by
  induction steps with
  | zero => exact fun i => List.nil_sublist _
  | succ steps ih =>
      intro i
      rw [Nat.succ_add, climb, climb]
      cases d.parent? i with
      | none => exact List.Sublist.refl _
      | some p => exact (ih p).cons_cons p

/-- A climb that has come to an end goes no further. -/
theorem climb_of_length_le (steps : Nat) :
    ∀ i, (d.climb (steps + 1) i).length ≤ steps →
      ∀ more, d.climb (steps + more) i = d.climb steps i := by
  induction steps with
  | zero =>
      intro i h more
      rw [climb] at h
      cases hp : d.parent? i with
      | none =>
          cases more with
          | zero => rfl
          | succ more => simp only [climb, hp]
      | some p =>
          rw [hp] at h
          exact absurd h (Nat.not_succ_le_zero _)
  | succ steps ih =>
      intro i h more
      rw [Nat.succ_add]
      rw [climb] at h ⊢
      rw [climb]
      cases hp : d.parent? i with
      | none => rfl
      | some p =>
          rw [hp] at h
          exact congrArg (List.cons p) (ih p (Nat.le_of_succ_le_succ h) more)

/-- The nodes of a climb that goes on have links, so they are stored. The last one that
    is met may be missing. -/
theorem stored_of_climb (steps : Nat) :
    ∀ i, steps < (d.climb (steps + 1) i).length →
      steps ≤ (d.climb steps i).length ∧ ∀ k ∈ i :: d.climb steps i, k < d.nodes.size := by
  induction steps with
  | zero =>
      intro i h
      rw [climb] at h
      cases hp : d.parent? i with
      | none =>
          rw [hp] at h
          exact absurd h (Nat.lt_irrefl 0)
      | some p =>
          refine ⟨Nat.zero_le _, fun k hk => ?_⟩
          rw [List.mem_singleton.mp hk]
          exact lt_of_parent? hp
  | succ steps ih =>
      intro i h
      rw [climb] at h ⊢
      cases hp : d.parent? i with
      | none =>
          rw [hp] at h
          exact absurd h (Nat.not_lt_zero _)
      | some p =>
          rw [hp] at h
          rcases ih p (Nat.lt_of_succ_lt_succ h) with ⟨hlength, hstored⟩
          exact ⟨Nat.succ_le_succ hlength, List.forall_mem_cons.mpr ⟨lt_of_parent? hp, hstored⟩⟩

/-! ### Where following links comes to an end -/

section Ends

variable (hends : WellFounded d.IsParent)

include hends

/-- No node is above itself. -/
theorem not_above_self (i : NodeId) : ¬ TransGen d.IsParent i i :=
  hends.transGen.irrefl.irrefl i

/-- A climb meets different nodes. -/
theorem nodup_climb (steps : Nat) : ∀ i, (d.climb steps i).Nodup := by
  induction steps with
  | zero => exact fun _ => List.nodup_nil
  | succ steps ih =>
      intro i
      rw [climb]
      cases d.parent? i with
      | none => exact List.nodup_nil
      | some p =>
          exact List.nodup_cons.mpr
            ⟨fun hmem => not_above_self hends p (above_of_mem_climb steps p p hmem), ih p⟩

/-- The bound on the walk upwards cuts nothing off. -/
theorem climb_size_add (i : NodeId) (more : Nat) :
    d.climb (d.nodes.size + more) i = d.ancestors i := by
  refine climb_of_length_le _ i (Nat.le_of_not_lt fun hlong => ?_) more
  -- The node and those above it would be more nodes than there are.
  rcases stored_of_climb _ i hlong with ⟨hlength, hstored⟩
  have hnodup : (i :: d.climb d.nodes.size i).Nodup :=
    List.nodup_cons.mpr
      ⟨fun hmem => not_above_self hends i (above_of_mem_climb _ i i hmem), nodup_climb hends _ i⟩
  have hfew := length_le_of_nodup hnodup hstored
  rw [List.length_cons] at hfew
  exact absurd (Nat.le_trans hfew hlength) (Nat.not_succ_le_self _)

/-- All of a climb is found among the nodes above. -/
theorem climb_sublist_ancestors (steps : Nat) (i : NodeId) :
    (d.climb steps i).Sublist (d.ancestors i) := by
  rw [← climb_size_add hends i steps, Nat.add_comm]
  exact climb_sublist steps _ i

/-- The bound on the walk upwards leaves out none of the nodes above. -/
theorem mem_ancestors {i j : NodeId} : j ∈ d.ancestors i ↔ TransGen d.IsParent j i := by
  refine ⟨above_of_mem_climb _ i j, fun habove => ?_⟩
  rcases exists_climb_through habove 0 with ⟨total, hsub⟩
  exact (climb_sublist_ancestors hends total i).subset (hsub.subset List.mem_cons_self)

end Ends

/-! ### Nodes that move -/

/-- Certain nodes have left the lists they were in, and have been put into the list of
    a target if there is one. Elements are linked accordingly. -/
structure Relinked (moved : List NodeId) (target : Option NodeId) (d d' : Document) : Prop where
  kinds : SameKinds d d'
  moved_mem : ∀ i ∈ moved, ∀ p, i ∈ d'.children p ↔ target = some p
  kept_mem : ∀ i ∉ moved, ∀ p, i ∈ d'.children p ↔ i ∈ d.children p
  parent : ∀ i, d'.parent? i
    = if i ∈ moved ∧ d.isElement i = true then target else d.parent? i
  once : ∀ p, (d'.children p).Nodup

section

variable {moved : List NodeId} {target : Option NodeId}
  (hfree : ∀ t, target = some t → ∀ j, ReflTransGen d.IsParent j t → j ∈ moved →
    d.isElement j = false)

include hfree

/-- There still is an end to following links if no element is moved that is the target
    or above it. -/
theorem Relinked.ends (h : Linked d) (hr : Relinked moved target d d') :
    WellFounded d'.IsParent := by
  -- Nothing has changed on the way up from the target.
  have htarget : ∀ j, ∀ t, target = some t → ReflTransGen d.IsParent j t →
      Acc d'.IsParent j := by
    intro j
    induction j using h.ends.induction with
    | _ j ih =>
        intro t ht hj
        refine Acc.intro j fun p hp => ?_
        have hkept : ¬ (j ∈ moved ∧ d.isElement j = true) := by
          rintro ⟨hmoved, helement⟩
          rw [hfree t ht j hj hmoved] at helement
          exact Bool.false_ne_true helement
        rw [IsParent, hr.parent, if_neg hkept] at hp
        exact ih p hp t ht (ReflTransGen.head hp hj)
  refine ⟨fun i => ?_⟩
  induction i using h.ends.induction with
  | _ i ih =>
      refine Acc.intro i fun p hp => ?_
      by_cases hmoved : i ∈ moved ∧ d.isElement i = true
      · rw [IsParent, hr.parent, if_pos hmoved] at hp
        exact htarget p p hp ReflTransGen.refl
      · rw [IsParent, hr.parent, if_neg hmoved] at hp
        exact ih p hp

/-- Moving nodes keeps links and lists in agreement. -/
theorem Linked.relinked (h : Linked d) (hr : Relinked moved target d d')
    (htarget : ∀ t, target = some t → d.holds t = true)
    (hstored : ∀ t, target = some t → ∀ i ∈ moved, i < d.nodes.size) : Linked d' where
  listed p i hmem := by
    rw [hr.kinds.holds, hr.kinds.size]
    by_cases hmoved : i ∈ moved
    · have ht := (hr.moved_mem i hmoved p).mp hmem
      exact ⟨htarget p ht, hstored p ht i hmoved⟩
    · exact h.listed p i ((hr.kept_mem i hmoved p).mp hmem)
  parent i helement p := by
    rw [hr.kinds.isElement] at helement
    rw [hr.parent]
    by_cases hmoved : i ∈ moved
    · rw [if_pos ⟨hmoved, helement⟩, hr.moved_mem i hmoved]
    · rw [if_neg fun hboth => hmoved hboth.1, hr.kept_mem i hmoved, h.parent i helement]
  unlinked i helement := by
    rw [hr.kinds.isElement] at helement
    rw [hr.parent, helement, if_neg fun hboth => Bool.false_ne_true hboth.2,
      h.unlinked i helement]
  once := hr.once
  single p q i hp hq := by
    by_cases hmoved : i ∈ moved
    · have hsame := ((hr.moved_mem i hmoved p).mp hp).symm.trans ((hr.moved_mem i hmoved q).mp hq)
      exact Option.some.inj hsame
    · exact h.single p q i ((hr.kept_mem i hmoved p).mp hp) ((hr.kept_mem i hmoved q).mp hq)
  ends := hr.ends hfree h

end

/-- Nodes that leave their lists and enter no other. -/
theorem Linked.parted {moved : List NodeId} (h : Linked d) (hr : Relinked moved none d d') :
    Linked d' := by
  refine h.relinked ?_ hr ?_ ?_ <;> exact fun _ ht => nomatch ht

/-! ### New nodes and new contents -/

theorem children_create (d : Document) (content : Content) (i : NodeId) :
    (d.create content).1.children i = d.children i := by
  rw [children, node?_create, children]
  by_cases h : i = d.nodes.size
  · rw [if_pos h, h, node?, Array.getElem?_size]
  · rw [if_neg h]

theorem parent?_create (d : Document) (content : Content) (i : NodeId) :
    (d.create content).1.parent? i = d.parent? i := by
  rw [parent?, node?_create, parent?]
  by_cases h : i = d.nodes.size
  · rw [if_pos h, h, node?, Array.getElem?_size]
    rfl
  · rw [if_neg h]

theorem content?_create (d : Document) (content : Content) (i : NodeId) :
    (d.create content).1.content? i
      = if i = d.nodes.size then some content else d.content? i := by
  rw [content?, node?_create, content?]
  by_cases h : i = d.nodes.size
  · rw [if_pos h, if_pos h]
    rfl
  · rw [if_neg h, if_neg h]

/-- A node that is there keeps its kind when another one is created. -/
theorem holds_create (d : Document) (content : Content) {i : NodeId} (hi : i < d.nodes.size) :
    (d.create content).1.holds i = d.holds i := by
  rw [holds, content?_create, if_neg (Nat.ne_of_lt hi), holds]

theorem isElement_create (d : Document) (content : Content) {i : NodeId}
    (hi : i ≠ d.nodes.size) : (d.create content).1.isElement i = d.isElement i := by
  rw [isElement, element?, content?_create, if_neg hi, isElement, element?]

/-- A new node is in no list. -/
theorem Linked.new_unlisted (h : Linked d) (p : NodeId) : d.nodes.size ∉ d.children p :=
  fun hmem => Nat.lt_irrefl _ (h.listed p _ hmem).2

theorem parent?_new (d : Document) : d.parent? d.nodes.size = none := by
  rw [parent?, node?, Array.getElem?_size]
  rfl

/-- Creating a node keeps links and lists in agreement. -/
theorem Linked.create (h : Linked d) (content : Content) : Linked (d.create content).1 where
  listed p i hmem := by
    rw [children_create] at hmem
    have hp := (h.listed p i hmem).1
    rw [holds_create d content (lt_of_holds hp), size_create]
    exact ⟨hp, (h.listed p i hmem).2.trans (Nat.lt_succ_self _)⟩
  parent i helement p := by
    rw [parent?_create, children_create]
    by_cases hi : i = d.nodes.size
    · rw [hi, parent?_new]
      exact iff_of_false (Option.some_ne_none p).symm (h.new_unlisted p)
    · rw [isElement_create d content hi] at helement
      exact h.parent i helement p
  unlinked i helement := by
    rw [parent?_create]
    by_cases hi : i = d.nodes.size
    · rw [hi, parent?_new]
    · rw [isElement_create d content hi] at helement
      exact h.unlinked i helement
  once p := by
    rw [children_create]
    exact h.once p
  single p q i hp hq := by
    rw [children_create] at hp hq
    exact h.single p q i hp hq
  ends := by
    refine Subrelation.wf (fun {p i} hp => ?_) h.ends
    rw [IsParent, parent?_create] at hp
    exact hp

/-- Changing what nodes hold, and not their kinds, keeps links and lists in agreement. -/
theorem Linked.rewritten (h : Linked d) (hkinds : SameKinds d d')
    (hchildren : ∀ i, d'.children i = d.children i) (hparent : ∀ i, d'.parent? i = d.parent? i) :
    Linked d' := by
  have hr : Relinked [] none d d' :=
    { kinds := hkinds
      moved_mem := fun _ h => absurd h List.not_mem_nil
      kept_mem := fun i _ p => by rw [hchildren]
      parent := fun i => by
        rw [hparent, if_neg fun hboth => List.not_mem_nil hboth.1]
      once := fun p => by
        rw [hchildren]
        exact h.once p }
  exact h.parted hr

/-- Changing the content of one node, and not its kind. -/
theorem Linked.modify (h : Linked d) (i : NodeId) {f : Node → Node}
    (hchildren : ∀ n, (f n).children = n.children) (hparent : ∀ n, (f n).parent = n.parent)
    (helement : ∀ n, (f n).content.element?.isSome = n.content.element?.isSome)
    (hholds : ∀ n, (f n).content.holdsChildren = n.content.holdsChildren) :
    Linked (d.modify i f) := by
  refine h.rewritten ⟨size_modify d i f, fun j => ?_, fun j => ?_⟩
    (children_modify hchildren i) (parent?_modify hparent i)
  · rw [isElement_eq, map_node?_modify d i j (g := fun n => n.content.element?.isSome) helement,
      ← isElement_eq]
  · rw [holds_eq, map_node?_modify d i j (g := fun n => n.content.holdsChildren) hholds,
      ← holds_eq]

end Document

end ResponsiveImages
