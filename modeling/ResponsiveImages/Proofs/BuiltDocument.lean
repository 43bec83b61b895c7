import ResponsiveImages.Document.Builder
import ResponsiveImages.Proofs.ParentLinks

/-!
# Built Documents

The parent links of a document that is built call by call.

Whoever builds a document has to take some care. A node is put into a list only if it
is in none, and not below itself; in front of another node it is put only if the parent
of that is an element, since the root takes no node in there; and the children of a
node are not moved below themselves. Calls that keep to this are proper
(`BuilderCall.Proper`), and after each of them links and lists agree
(`links_agree_with_lists`).

Above a node are those that its links lead to. Text and the root have no link, even where
they are listed, so there are fewer nodes above another by links than by lists, and fewer
calls are ruled out.

Nodes of a document are never deleted, but a builder may give up the last hold on a node
that is in no list. From then on the links to that node lead nowhere. This counts as a
call as well (`BuilderCall.release`), and it may come at any time.

## Main definitions

* `Document.release`: A document when nobody holds a node any more.
* `Document.Insertable`, `Document.Takes`: What may be put into a list.
* `BuilderCall`, `BuilderCall.perform`: What can happen to a document.
* `BuilderCall.Proper`, `BuilderCall.ProperAll`: What a caller sees to.

## Theorems

* `relinked_place`, `relinked_detach`, `relinked_release`, `relinked_moveChildren`: What
  each operation moves.
* `Linked.place`: Putting a piece into a list.
* `linked_perform`: A proper call keeps links and lists in agreement.
* `links_agree_with_lists`: Links and lists at any time.
-/

namespace ResponsiveImages

open Relation

namespace Document

variable {d d' : Document}

/-! ### Operations -/

/-- The document once nobody holds a node any more. Its list is gone, and links to it
    lead nowhere. -/
def release (d : Document) (i : NodeId) : Document :=
  let emptied := d.modify i (editChildren fun _ => [])
  { emptied with nodes := emptied.nodes.map fun n => { n with parent := n.parent.filter (· != i) } }

section

variable {t c : NodeId} {f : List NodeId → List NodeId} (hholds : d.holds t = true)

include hholds

/-- The lists after a node has been put into one of them. -/
theorem children_placed (p : NodeId) :
    ((d.link c (some t)).modify t (editChildren f)).children p
      = if t = p then f (d.children t) else d.children p := by
  rw [children_editChildren, children_link, (sameKinds_link d c (some t)).holds]
  by_cases htp : t = p
  · rw [if_pos ⟨htp, htp ▸ hholds⟩, if_pos htp, htp]
  · rw [if_neg fun hboth => htp hboth.1, if_neg htp]

/-- Putting a node into a list, in whatever place, if it is in none. -/
theorem relinked_place (h : Linked d) (hunlisted : ∀ q, c ∉ d.children q)
    (hplace : (f (d.children t)).Perm (c :: d.children t)) :
    Relinked [c] (some t) d ((d.link c (some t)).modify t (editChildren f)) where
  kinds := (sameKinds_link d c (some t)).trans (sameKinds_editChildren _ _ _)
  moved_mem i hi p := by
    rw [children_placed hholds, List.mem_singleton.mp hi]
    by_cases htp : t = p
    · rw [if_pos htp, hplace.mem_iff, htp]
      exact iff_of_true List.mem_cons_self rfl
    · rw [if_neg htp, Option.some.injEq]
      exact iff_of_false (hunlisted p) htp
  kept_mem i hi p := by
    rw [children_placed hholds]
    by_cases htp : t = p
    · rw [if_pos htp, hplace.mem_iff, List.mem_cons, ← htp]
      exact or_iff_right fun heq => hi (List.mem_singleton.mpr heq)
    · rw [if_neg htp]
  parent i := by
    rw [parent?_editChildren, parent?_link]
    simp only [List.mem_singleton]
  once p := by
    rw [children_placed hholds]
    by_cases htp : t = p
    · -- The list has not had the node before.
      rw [if_pos htp]
      exact hplace.nodup_iff.mpr (List.nodup_cons.mpr ⟨hunlisted t, h.once t⟩)
    · rw [if_neg htp]
      exact h.once p

end

/-- The lists after an element has been taken out of that of its parent. -/
theorem Linked.children_detached (h : Linked d) {i p : NodeId} (hp : d.parent? i = some p)
    (q : NodeId) :
    ((d.modify p (editChildren (·.filter (· != i)))).link i none).children q
      = (d.children q).filter (· != i) := by
  rw [children_link, children_editChildren]
  by_cases hpq : p = q
  · rw [if_pos ⟨hpq, hpq ▸ h.holds_parent hp⟩]
  · -- No other list has the element.
    rw [if_neg fun hboth => hpq hboth.1, List.filter_eq_self.mpr]
    intro j hj
    rw [bne_iff_ne]
    rintro rfl
    exact hpq (h.single p q j (h.mem_children hp).2 hj)

theorem relinked_detach {i p : NodeId} (h : Linked d) (hp : d.parent? i = some p) :
    Relinked [i] none d ((d.modify p (editChildren (·.filter (· != i)))).link i none) where
  kinds := (sameKinds_editChildren d p _).trans (sameKinds_link _ _ _)
  moved_mem j hj q := by
    rw [h.children_detached hp, List.mem_filter, List.mem_singleton.mp hj, bne_self_eq_false]
    exact iff_of_false (fun hboth => Bool.false_ne_true hboth.2) (Option.some_ne_none q).symm
  kept_mem j hj q := by
    rw [h.children_detached hp, List.mem_filter, bne_iff_ne]
    exact and_iff_left fun heq => hj (List.mem_singleton.mpr heq)
  parent j := by
    rw [parent?_link, (sameKinds_editChildren d p _).isElement, parent?_editChildren]
    simp only [List.mem_singleton]
  once q := by
    rw [h.children_detached hp]
    exact (h.once q).filter _

/-- The lists after one of them has been emptied. -/
theorem Linked.children_emptied (h : Linked d) (i p : NodeId) :
    (d.modify i (editChildren fun _ => [])).children p = if i = p then [] else d.children p := by
  rw [children_editChildren]
  by_cases hip : i = p
  · rw [if_pos hip]
    by_cases hholds : d.holds p = true
    · rw [if_pos ⟨hip, hholds⟩]
    · -- A node that keeps no list has no children.
      rw [if_neg fun hboth => hholds hboth.2]
      exact List.eq_nil_iff_forall_not_mem.mpr fun j hj => hholds (h.listed p j hj).1
  · rw [if_neg hip, if_neg fun hboth => hip hboth.1]

theorem mem_emptied {i j : NodeId} (hj : j ∉ d.children i) (p : NodeId) :
    j ∈ (if i = p then [] else d.children p) ↔ j ∈ d.children p := by
  by_cases hip : i = p
  · rw [if_pos hip, ← hip]
    exact iff_of_false List.not_mem_nil hj
  · rw [if_neg hip]

theorem not_mem_emptied (h : Linked d) {i j : NodeId} (hj : j ∈ d.children i) (p : NodeId) :
    j ∉ (if i = p then [] else d.children p) := by
  by_cases hip : i = p
  · rw [if_pos hip]
    exact List.not_mem_nil
  · rw [if_neg hip]
    exact fun hmem => hip (h.single i p j hj hmem)

theorem nodup_emptied (h : Linked d) (i p : NodeId) :
    (if i = p then [] else d.children p).Nodup := by
  split
  · exact List.nodup_nil
  · exact h.once p

theorem node?_release (d : Document) (i j : NodeId) :
    (d.release i).node? j
      = ((d.modify i (editChildren fun _ => [])).node? j).map
          fun n => { n with parent := n.parent.filter (· != i) } :=
  Array.getElem?_map

theorem Linked.children_released (h : Linked d) (i p : NodeId) :
    (d.release i).children p = if i = p then [] else d.children p := by
  have hkept : (d.release i).children p = (d.modify i (editChildren fun _ => [])).children p :=
    children_clearLinks _ (· != i) p
  rw [hkept, h.children_emptied]

theorem parent?_released (d : Document) (i j : NodeId) :
    (d.release i).parent? j = (d.parent? j).filter (· != i) := by
  rw [← parent?_editChildren d i (fun _ => []) j, parent?, node?_release, parent?]
  cases (d.modify i (editChildren fun _ => [])).node? j <;> rfl

theorem sameKinds_release (d : Document) (i : NodeId) : SameKinds d (d.release i) := by
  refine sameKinds_of_content ?_ fun j => ?_
  · rw [release, Array.size_map, size_modify]
  · rw [content?, node?_release, Option.map_map]
    exact map_node?_modify d i j (editChildren_content _)

/-- The children of a node that is dropped are left without a parent. -/
theorem relinked_release (h : Linked d) (i : NodeId) :
    Relinked (d.children i) none d (d.release i) where
  kinds := sameKinds_release d i
  moved_mem j hj p := by
    rw [h.children_released]
    exact iff_of_false (not_mem_emptied h hj p) (Option.some_ne_none p).symm
  kept_mem j hj p := by
    rw [h.children_released, mem_emptied hj]
  parent j := by
    rw [parent?_released]
    cases hp : d.parent? j with
    | none => rw [Option.filter_none, ite_self]
    | some p =>
        -- The link leads to the dropped node exactly if that lists the element.
        rcases h.mem_children hp with ⟨helement, hmem⟩
        by_cases hpi : p = i
        · have hcut : ¬ (p != i) = true := by
            rw [hpi, bne_self_eq_false]
            exact Bool.false_ne_true
          rw [Option.filter_some, if_neg hcut, if_pos ⟨hpi ▸ hmem, helement⟩]
        · rw [Option.filter_some, if_pos (bne_iff_ne.mpr hpi),
            if_neg fun hboth => hpi (h.single p i j hmem hboth.1)]
  once p := by
    rw [h.children_released]
    exact nodup_emptied h i p

/-- Nodes that are appended to one node, one after the other. -/
theorem foldl_append (t : NodeId) (nodes : List NodeId) :
    ∀ d : Document, d.holds t = true →
      let d' := nodes.foldl (fun d i => d.append t i) d
      SameKinds d d'
        ∧ (∀ p, d'.children p = if t = p then d.children p ++ nodes else d.children p)
        ∧ ∀ j, d'.parent? j
          = if j ∈ nodes ∧ d.isElement j = true then some t else d.parent? j := by
  induction nodes with
  | nil => exact fun d _ => ⟨SameKinds.refl d, fun p => by simp, fun j => by simp⟩
  | cons i nodes ih =>
      intro d hholds
      have hkinds : SameKinds d (d.append t i) :=
        (sameKinds_link d i (some t)).trans (sameKinds_editChildren _ _ _)
      rcases ih (d.append t i) ((hkinds.holds t).trans hholds) with ⟨hlater, hchildren, hparent⟩
      refine ⟨hkinds.trans hlater, fun p => ?_, fun j => ?_⟩
      · rw [List.foldl_cons, hchildren, append, children_placed hholds]
        by_cases htp : t = p
        · rw [if_pos htp, if_pos htp, if_pos htp, List.append_assoc, htp]
          rfl
        · rw [if_neg htp, if_neg htp, if_neg htp]
      · rw [List.foldl_cons, hparent, hkinds.isElement, append, parent?_editChildren, parent?_link]
        by_cases helement : d.isElement j = true
        · by_cases hnow : i = j
          · simp [hnow, helement]
          · simp [Ne.symm hnow]
        · simp [helement]

section

variable {old new : NodeId} (hholds : d.holds new = true)

include hholds

theorem Linked.children_moved (h : Linked d) (p : NodeId) :
    (d.moveChildren old new).children p
      = (if old = p then [] else d.children p) ++ if new = p then d.children old else [] := by
  have hempty := sameKinds_editChildren d old fun _ => []
  rcases foldl_append new (d.children old) _ ((hempty.holds new).trans hholds)
    with ⟨_, happended, _⟩
  rw [moveChildren, happended, h.children_emptied]
  by_cases hnew : new = p
  · rw [if_pos hnew, if_pos hnew]
  · rw [if_neg hnew, if_neg hnew, List.append_nil]

/-- The children of a node are moved to another, which may be the same one. -/
theorem relinked_moveChildren (h : Linked d) :
    Relinked (d.children old) (some new) d (d.moveChildren old new) := by
  have hempty := sameKinds_editChildren d old fun _ => []
  rcases foldl_append new (d.children old) _ ((hempty.holds new).trans hholds)
    with ⟨hlater, _, hparent⟩
  exact
    { kinds := hempty.trans hlater
      moved_mem := by
        intro i hi p
        rw [h.children_moved hholds, List.mem_append, or_iff_right (not_mem_emptied h hi p),
          Option.some.injEq]
        by_cases hnew : new = p
        · rw [if_pos hnew]
          exact iff_of_true hi hnew
        · rw [if_neg hnew]
          exact iff_of_false List.not_mem_nil hnew
      kept_mem := by
        intro i hi p
        have hnot : i ∉ (if new = p then d.children old else []) := by
          split
          · exact hi
          · exact List.not_mem_nil
        rw [h.children_moved hholds, List.mem_append, or_iff_left hnot, mem_emptied hi]
      parent := by
        intro i
        rw [moveChildren, hparent, hempty.isElement, parent?_editChildren]
      once := by
        intro p
        rw [h.children_moved hholds]
        by_cases hnew : new = p
        · rw [if_pos hnew]
          exact (nodup_emptied h old p).append (h.once old)
            fun i hi hmem => not_mem_emptied h hmem p hi
        · rw [if_neg hnew, List.append_nil]
          exact nodup_emptied h old p }

end

/-! ### What is put into a list -/

theorem perm_placeBefore (sibling new : NodeId) (nodes : List NodeId) :
    (placeBefore sibling new nodes).Perm (new :: nodes) := by
  induction nodes with
  | nil => exact List.Perm.refl _
  | cons i nodes ih =>
      rw [placeBefore]
      split
      · exact List.Perm.refl _
      · exact (ih.cons i).trans (List.Perm.swap new i nodes)

/-- A node that may be put into the list of another: it is in no list, and is neither
    that node nor above it. -/
structure Insertable (d : Document) (parent i : NodeId) : Prop where
  stored : i < d.nodes.size
  unlisted : ∀ q < d.nodes.size, i ∉ d.children q
  ne : i ≠ parent
  not_above : i ∉ d.ancestors parent

instance (d : Document) (parent i : NodeId) : Decidable (d.Insertable parent i) :=
  decidable_of_iff (i < d.nodes.size ∧ (∀ q < d.nodes.size, i ∉ d.children q) ∧ i ≠ parent
      ∧ i ∉ d.ancestors parent)
    ⟨fun ⟨hstored, hunlisted, hne, hnot⟩ => ⟨hstored, hunlisted, hne, hnot⟩,
      fun h => ⟨h.stored, h.unlisted, h.ne, h.not_above⟩⟩

/-- A node that keeps a list may take a piece: new text, or a node that may be put there. -/
def Takes (d : Document) (parent : NodeId) : Piece → Prop
  | .node i => d.holds parent = true ∧ d.Insertable parent i
  | .text _ => d.holds parent = true

instance (d : Document) (parent : NodeId) : (piece : Piece) → Decidable (d.Takes parent piece)
  | .node i => inferInstanceAs (Decidable (d.holds parent = true ∧ d.Insertable parent i))
  | .text _ => inferInstanceAs (Decidable (d.holds parent = true))

namespace Linked

theorem not_up (h : Linked d) {i t : NodeId} (hne : i ≠ t) (hnot : i ∉ d.ancestors t) :
    ¬ ReflTransGen d.IsParent i t := by
  intro hup
  rcases reflTransGen_iff_eq_or_transGen.mp hup with heq | habove
  · exact hne heq.symm
  · exact hnot ((mem_ancestors h.ends).mpr habove)

/-- What a piece has become before it is put into a list. -/
theorem materialize {t : NodeId} {piece : Piece} (h : Linked d) (htakes : d.Takes t piece) :
    let d' := (d.materialize piece).1
    let c := (d.materialize piece).2
    Linked d' ∧ d'.holds t = true ∧ c < d'.nodes.size ∧ (∀ q, c ∉ d'.children q)
      ∧ (d'.isElement c = true → ¬ ReflTransGen d'.IsParent c t) := by
  cases piece with
  | node i =>
      rcases htakes with ⟨hholds, hi⟩
      exact ⟨h, hholds, hi.stored,
        fun q hq => hi.unlisted q (lt_of_holds (h.listed q i hq).1) hq,
        fun _ => h.not_up hi.ne hi.not_above⟩
  | text s =>
      have hholds : d.holds t = true := htakes
      refine ⟨h.create (.text s), ?_, ?_, fun q hq => ?_, fun helement => ?_⟩
      · exact (holds_create d _ (lt_of_holds hholds)).trans hholds
      · rw [Document.materialize, size_create]
        exact Nat.lt_succ_self _
      · rw [Document.materialize, children_create] at hq
        exact h.new_unlisted q hq
      · -- Text is no element.
        rw [Document.materialize, isElement, element?, content?_create, if_pos (snd_create d _)]
          at helement
        exact absurd helement Bool.false_ne_true

/-- Putting a piece somewhere into the list of a node. -/
theorem place {t : NodeId} {piece : Piece} (h : Linked d) (htakes : d.Takes t piece)
    {f : NodeId → List NodeId → List NodeId} (hplace : ∀ c nodes, (f c nodes).Perm (c :: nodes)) :
    let d' := (d.materialize piece).1
    let c := (d.materialize piece).2
    Linked ((d'.link c (some t)).modify t (editChildren (f c))) := by
  intro d' c
  rcases h.materialize htakes with ⟨hlinked, hholds, hstored, hunlisted, hfree⟩
  refine hlinked.relinked ?_ (relinked_place hholds hlinked hunlisted (hplace c _)) ?_ ?_
  · rintro _ ⟨⟩ j hj hmoved
    rw [List.mem_singleton.mp hmoved] at hj ⊢
    exact Bool.eq_false_iff.mpr fun helement => hfree helement hj
  · rintro _ ⟨⟩
    exact hholds
  · intro _ _ i hmoved
    rw [List.mem_singleton.mp hmoved]
    exact hstored

theorem mergeInto? (h : Linked d) {i : NodeId} {s : Text} (hmerged : d.mergeInto? i s = some d') :
    Linked d' := by
  rw [Document.mergeInto?] at hmerged
  split at hmerged
  · rw [← Option.some.inj hmerged]
    refine h.modify i ?_ ?_ ?_ ?_ <;>
      · rintro ⟨content, children, parent⟩
        cases content <;> rfl
  · exact absurd hmerged (by simp)

theorem appendPiece (h : Linked d) {t : NodeId} {piece : Piece} (htakes : d.Takes t piece) :
    Linked (d.appendPiece t piece) := by
  have hplaced := h.place htakes (f := fun c nodes => nodes ++ [c]) fun c nodes =>
    List.perm_append_singleton c nodes
  cases piece with
  | node i => exact hplaced
  | text s =>
      rw [Document.appendPiece]
      cases hmerged : d.mergeAtEnd? t s with
      | none => exact hplaced
      | some d' =>
          rcases Option.bind_eq_some_iff.mp hmerged with ⟨last, _, hmerged⟩
          exact h.mergeInto? hmerged

theorem insertBefore (h : Linked d) {sibling : NodeId} {piece : Piece}
    (htakes : ∀ p ∈ d.parent? sibling, d.isElement p = true ∧ d.Takes p piece) :
    Linked (d.insertBefore sibling piece) := by
  rw [Document.insertBefore]
  cases hp : d.parent? sibling with
  | none => exact h
  | some p =>
      rcases htakes p hp with ⟨helement, htakes⟩
      have hplaced := h.place htakes (f := placeBefore sibling) (perm_placeBefore sibling)
      -- An element takes the node in.
      have hthere : (((d.materialize piece).1.link (d.materialize piece).2
          (some p)).element? p).isSome = true := by
        rw [← isElement, (sameKinds_link _ _ _).isElement]
        cases piece with
        | node i => exact helement
        | text s =>
            exact (isElement_create d _ (Nat.ne_of_lt (lt_of_holds htakes))).trans helement
      rcases Option.isSome_iff_exists.mp hthere with ⟨e, he⟩
      simp only [he]
      exact hplaced

end Linked

end Document

/-! ### Calls -/

/-- What can happen to a document while it is built. -/
inductive BuilderCall where
  | createElement (e : Element)
  | createComment (s : Text)
  | createInstruction (target data : Text)
  | append (parent : NodeId) (piece : Piece)
  | insertBefore (sibling : NodeId) (piece : Piece)
  | insertNear (node other : NodeId) (piece : Piece)
  | addAttributes (i : NodeId) (entries : List (Text × Text))
  | remove (i : NodeId)
  | moveChildren (old new : NodeId)
  /-- A node that is in no list is held by nobody any more. -/
  | release (i : NodeId)

namespace BuilderCall

/-- The document after a call. -/
def perform (d : Document) : BuilderCall → Document
  | createElement e => (d.create (.element e)).1
  | createComment s => (d.create (.comment s)).1
  | createInstruction target data => (d.create (.comment (instruction target data))).1
  | append parent piece => d.appendPiece parent piece
  | insertBefore sibling piece => d.insertBefore sibling piece
  | insertNear node other piece => d.insertNear node other piece
  | addAttributes i entries => d.addMissingAttributes i entries
  | remove i => (d.detach? i).getD d
  | moveChildren old new => d.moveChildren old new
  | release i => d.release i

/-- What a caller sees to. A node is put into a list only if it may be put there, in
    front of a node only if the parent of that is an element, and children are not
    moved below themselves. -/
def Proper (d : Document) : BuilderCall → Prop
  | createElement _ => True
  | createComment _ => True
  | createInstruction _ _ => True
  | append parent piece => d.Takes parent piece
  | insertBefore sibling piece =>
    ∀ p ∈ d.parent? sibling, d.isElement p = true ∧ d.Takes p piece
  | insertNear node other piece =>
    (∀ p ∈ d.parent? node, d.isElement p = true ∧ d.Takes p piece)
      ∧ (d.parent? node = none → d.Takes other piece)
  | addAttributes _ _ => True
  | remove _ => True
  | moveChildren old new => d.holds new = true ∧ old ∉ d.ancestors new
  | release i => i ≠ Document.root ∧ ∀ q < d.nodes.size, i ∉ d.children q

instance (d : Document) : (call : BuilderCall) → Decidable (call.Proper d)
  | createElement _ => inferInstanceAs (Decidable True)
  | createComment _ => inferInstanceAs (Decidable True)
  | createInstruction _ _ => inferInstanceAs (Decidable True)
  | append parent piece => inferInstanceAs (Decidable (d.Takes parent piece))
  | insertBefore sibling piece =>
    inferInstanceAs (Decidable (∀ p ∈ d.parent? sibling, d.isElement p = true ∧ d.Takes p piece))
  | insertNear node other piece =>
    inferInstanceAs (Decidable
      ((∀ p ∈ d.parent? node, d.isElement p = true ∧ d.Takes p piece)
        ∧ (d.parent? node = none → d.Takes other piece)))
  | addAttributes _ _ => inferInstanceAs (Decidable True)
  | remove _ => inferInstanceAs (Decidable True)
  | moveChildren old new =>
    inferInstanceAs (Decidable (d.holds new = true ∧ old ∉ d.ancestors new))
  | release i =>
    inferInstanceAs (Decidable (i ≠ Document.root ∧ ∀ q < d.nodes.size, i ∉ d.children q))

/-- Each call of a sequence is proper when its turn comes. -/
def ProperAll : Document → List BuilderCall → Prop
  | _, [] => True
  | d, call :: calls => call.Proper d ∧ ProperAll (call.perform d) calls

instance decidableProperAll :
    (d : Document) → (calls : List BuilderCall) → Decidable (ProperAll d calls)
  | _, [] => inferInstanceAs (Decidable True)
  | d, call :: calls =>
    @instDecidableAnd (call.Proper d) (ProperAll (call.perform d) calls) inferInstance
      (decidableProperAll (call.perform d) calls)

variable {d : Document}

/-- A proper call keeps links and lists in agreement. -/
theorem linked_perform (h : d.Linked) {call : BuilderCall} (hproper : call.Proper d) :
    (call.perform d).Linked := by
  cases call with
  | createElement e => exact h.create _
  | createComment s => exact h.create _
  | createInstruction target data => exact h.create _
  | append parent piece => exact h.appendPiece hproper
  | insertBefore sibling piece => exact h.insertBefore hproper
  | insertNear node other piece =>
      rw [perform, Document.insertNear]
      cases hp : d.parent? node with
      | none => exact h.appendPiece (hproper.2 hp)
      | some p => exact h.insertBefore hproper.1
  | addAttributes i entries =>
      refine h.modify i ?_ ?_ ?_ ?_ <;>
        · rintro ⟨content, children, parent⟩
          cases content <;> rfl
  | remove i =>
      rw [perform, Document.detach?]
      cases hp : d.parent? i with
      | none => exact h
      | some p => exact h.parted (Document.relinked_detach h hp)
  | moveChildren old new =>
      rcases hproper with ⟨hholds, hnot⟩
      refine h.relinked ?_ (Document.relinked_moveChildren hholds h) ?_
        fun _ _ i hi => (h.listed old i hi).2
      · -- Above the new parent there is no element that the old one lists.
        rintro _ ⟨⟩ j hj hmem
        refine Bool.eq_false_iff.mpr fun helement => hnot ((Document.mem_ancestors h.ends).mpr ?_)
        exact Relation.TransGen.head' ((h.parent j helement old).mpr hmem) hj
      · rintro _ ⟨⟩
        exact hholds
  | release i => exact h.parted (Document.relinked_release h i)

/-- Proper calls keep links and lists in agreement at all times. -/
theorem linked_calls (calls : List BuilderCall) :
    ∀ d : Document, d.Linked → ProperAll d calls →
      ∀ done, done <+: calls → (done.foldl perform d).Linked := by
  induction calls with
  | nil =>
      intro d h _ done hdone
      rw [List.prefix_nil.mp hdone]
      exact h
  | cons call calls ih =>
      intro d h hproper done hdone
      rcases List.prefix_cons_iff.mp hdone with rfl | ⟨rest, rfl, hrest⟩
      · exact h
      · exact ih _ (linked_perform h hproper.1) hproper.2 rest hrest

/-- A document without nodes but its root. -/
theorem linked_empty : ({} : Document).Linked := by
  have hchildren : ∀ p, ({} : Document).children p = [] := by
    rintro (_ | p) <;> rfl
  have hparent : ∀ i, ({} : Document).parent? i = none := by
    rintro (_ | i) <;> rfl
  have hnone : ∀ p i, i ∉ ({} : Document).children p := by
    intro p i
    rw [hchildren]
    exact List.not_mem_nil
  exact
    { listed := fun p i h => absurd h (hnone p i)
      parent := fun i _ p => by
        rw [hparent]
        exact iff_of_false (Option.some_ne_none p).symm (hnone p i)
      unlinked := fun i _ => hparent i
      once := fun p => by
        rw [hchildren]
        exact List.nodup_nil
      single := fun p _ i h => absurd h (hnone p i)
      ends := ⟨fun i => Acc.intro i fun p h => by
        rw [Document.IsParent, hparent] at h
        exact absurd h (Option.some_ne_none p).symm⟩ }

end BuilderCall

/-- A document that is built by proper calls. At any time, an element has a link to a
    node exactly if that lists it, and it is listed there once. No node is in two
    lists, and following links comes to an end. So the element that a call removes is
    in the list of its parent, and is taken out of it while all else stays. -/
theorem links_agree_with_lists (calls : List BuilderCall)
    (hproper : BuilderCall.ProperAll {} calls) (done : List BuilderCall) (hdone : done <+: calls) :
    let d := done.foldl BuilderCall.perform {}
    (∀ i, d.isElement i = true → ∀ p, d.parent? i = some p ↔ i ∈ d.children p)
      ∧ (∀ p, (d.children p).Nodup)
      ∧ (∀ p q i, i ∈ d.children p → i ∈ d.children q → p = q)
      ∧ WellFounded d.IsParent
      ∧ ∀ i p, d.parent? i = some p →
        let d' := (BuilderCall.remove i).perform d
        d'.parent? i = none
          ∧ (∃ before after, d.children p = before ++ i :: after
            ∧ d'.children p = before ++ after)
          ∧ (∀ q ≠ p, d'.children q = d.children q)
          ∧ ∀ j ≠ i, d'.parent? j = d.parent? j := by
  intro d
  have h : d.Linked :=
    BuilderCall.linked_calls calls {} BuilderCall.linked_empty hproper done hdone
  refine ⟨h.parent, h.once, h.single, h.ends, ?_⟩
  intro i p hp d'
  have hd' : d' = (d.modify p (Document.editChildren (·.filter (· != i)))).link i none := by
    rw [show d' = (d.detach? i).getD d from rfl, Document.detach?, hp]
    rfl
  have hr := Document.relinked_detach h hp
  rcases h.mem_children hp with ⟨helement, hmem⟩
  rw [hd']
  refine ⟨?_, ?_, ?_, ?_⟩
  · rw [hr.parent, if_pos ⟨List.mem_singleton_self i, helement⟩]
  · rcases List.append_of_mem hmem with ⟨before, after, hsplit⟩
    refine ⟨before, after, hsplit, ?_⟩
    have honce := h.once p
    rw [hsplit] at honce
    have hbefore : i ∉ before := fun hi =>
      (List.disjoint_of_nodup_append honce) hi List.mem_cons_self
    rw [h.children_detached hp, hsplit, ← honce.erase_eq_filter,
      List.erase_append_right _ hbefore, List.erase_cons_head]
  · intro q hq
    rw [h.children_detached hp, List.filter_eq_self]
    intro j hj
    rw [bne_iff_ne]
    rintro rfl
    exact hq (h.single q p j hj hmem)
  · intro j hj
    rw [hr.parent, if_neg fun hboth => hj (List.mem_singleton.mp hboth.1)]

/-- A page on which everything happens: a paragraph and text are put in front of a
    table, the list of the body is moved into a new element, the paragraph is removed,
    and an element is dropped whose child is used elsewhere. -/
def busyCalls : List BuilderCall :=
  let element (tag : Text) : BuilderCall := .createElement { tag }
  [ element "html".toList, .append 0 (.node 1),
    element "body".toList, .append 1 (.node 2),
    element "table".toList, .append 2 (.node 3),
    element "p".toList, .insertBefore 3 (.node 4),
    .insertNear 3 2 (.text "a".toList),
    .append 2 (.text "b".toList), .append 2 (.text "c".toList),
    element "div".toList, .moveChildren 2 7, .append 2 (.node 7),
    .remove 4, .createComment "x".toList, .append 4 (.node 8),
    element "b".toList, .append 4 (.node 9), .release 4, .append 7 (.node 9) ]

/-- What the calls leave. -/
theorem lists_after_busy_calls :
    BuilderCall.ProperAll {} busyCalls
      ∧ let d := busyCalls.foldl BuilderCall.perform {}
        d.children 0 = [1] ∧ d.children 1 = [2] ∧ d.children 2 = [7]
          ∧ d.children 7 = [5, 3, 6, 9] ∧ d.parent? 9 = some 7 ∧ WellFounded d.IsParent := by
  have hproper : BuilderCall.ProperAll {} busyCalls := by decide +kernel
  have h := links_agree_with_lists busyCalls hproper busyCalls (List.prefix_refl _)
  exact ⟨hproper, by decide +kernel, by decide +kernel, by decide +kernel, by decide +kernel,
    (h.1 9 (by decide +kernel) 7).mpr (by decide +kernel), h.2.2.2.1⟩

end ResponsiveImages
