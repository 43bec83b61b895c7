import ResponsiveImages.Selector.Matching
import ResponsiveImages.Proofs.ParentLinks

/-!
# Chains of Ancestors

What it takes for a selector with several compounds to match. The compounds in front
of the last one have to be met by nodes above, each above the one before. The search
takes the nearest node that meets a compound and does not come back to that choice,
so it could miss a chain that begins with a node further up.

It does not. In a chain that exists the first node may be exchanged for the nearest one
that meets the same compound: all that comes after the first node is above that one too
(`matchesChain_iff`). The list that is searched stands for the whole way up, so what is
picked from it in order is just what is above one another (`sublist_ancestors_iff`).
This is where following links has to come to an end.

## Main definitions

* `Document.Meets`: A node is an element that meets a compound.

## Theorems

* `matchesChain_iff`: Taking the nearest node misses no chain.
* `sublist_ancestors_iff`: What is picked from the nodes above.
* `satisfies_iff_chain`: When a selector matches.
* `isParent_wellFounded`: Links that lead to smaller numbers come to an end.
-/

namespace ResponsiveImages

open Relation

/-- Compounds are met along a list of nodes exactly if they are met one by one by nodes
    picked from it in order. -/
theorem matchesChain_iff (accepts : NodeId → Compound → Bool) (nodes : List NodeId) :
    ∀ compounds : List Compound,
      matchesChain accepts nodes compounds = true
        ↔ ∃ chain : List NodeId, chain.Sublist nodes
          ∧ List.Forall₂ (fun a c => accepts a c = true) chain compounds := by
  induction nodes with
  | nil =>
      intro compounds
      cases compounds with
      | nil => exact ⟨fun _ => ⟨[], List.Sublist.refl [], List.Forall₂.nil⟩, fun _ => rfl⟩
      | cons c rest =>
          refine ⟨fun h => absurd h (by simp [matchesChain]), ?_⟩
          rintro ⟨chain, hsub, hmet⟩
          rw [List.sublist_nil.mp hsub] at hmet
          exact absurd hmet (by simp)
  | cons i nodes ih =>
      intro compounds
      cases compounds with
      | nil => exact ⟨fun _ => ⟨[], List.nil_sublist _, List.Forall₂.nil⟩, fun _ => rfl⟩
      | cons c rest =>
          rw [matchesChain]
          by_cases hi : accepts i c = true
          · rw [if_pos hi, ih rest]
            constructor
            · rintro ⟨chain, hsub, hmet⟩
              exact ⟨i :: chain, hsub.cons_cons i, hmet.cons hi⟩
            · rintro ⟨chain, hsub, hmet⟩
              -- Whichever node begins the chain, the rest of it is found behind this one.
              rcases List.forall₂_cons_right_iff.mp hmet with ⟨a, tail, _, hrest, heq⟩
              rw [heq] at hsub
              exact ⟨tail, hsub.of_cons_cons, hrest⟩
          · rw [if_neg hi, ih (c :: rest)]
            constructor
            · rintro ⟨chain, hsub, hmet⟩
              exact ⟨chain, hsub.cons i, hmet⟩
            · rintro ⟨chain, hsub, hmet⟩
              refine ⟨chain, ?_, hmet⟩
              -- The chain does not begin with a node that does not meet the compound.
              rcases List.sublist_cons_iff.mp hsub with hlater | ⟨tail, heq, _⟩
              · exact hlater
              · rw [heq] at hmet
                exact absurd (List.forall₂_cons.mp hmet).1 hi

namespace Document

variable {d : Document}

/-- A node is an element that meets a compound. -/
def Meets (d : Document) (i : NodeId) (c : Compound) : Prop :=
  ∃ e, d.element? i = some e ∧ c.accepts e = true

theorem accepts_iff (d : Document) (i : NodeId) (c : Compound) :
    d.accepts i c = true ↔ d.Meets i c := by
  rw [accepts, Meets]
  cases d.element? i with
  | none => simp
  | some e => simp

/-- On the way up every node is above those that were met before it. -/
theorem pairwise_climb (d : Document) (steps : Nat) :
    ∀ i, (i :: d.climb steps i).Pairwise fun low high => TransGen d.IsParent high low := by
  induction steps with
  | zero => exact fun i => List.pairwise_singleton _ i
  | succ steps ih =>
      intro i
      refine List.pairwise_cons.mpr ⟨fun j hj => above_of_mem_climb _ i j hj, ?_⟩
      rw [climb]
      cases d.parent? i with
      | none => exact List.Pairwise.nil
      | some p => exact ih p

/-- Nodes each of which is above the one before are met in this order on a way up that is
    long enough. -/
theorem exists_climb_of_chain (chain : List NodeId) :
    ∀ i, (i :: chain).IsChain (fun low high => TransGen d.IsParent high low) →
      ∃ steps, chain.Sublist (d.climb steps i) := by
  induction chain with
  | nil => exact fun i _ => ⟨0, List.nil_sublist _⟩
  | cons a chain ih =>
      intro i h
      rw [List.isChain_cons_cons] at h
      rcases ih a h.2 with ⟨steps, hsub⟩
      rcases exists_climb_through h.1 steps with ⟨total, hthrough⟩
      exact ⟨total, (hsub.cons_cons a).trans hthrough⟩

/-- The nodes that can be picked in order from those above a node: each is above the one
    before. -/
theorem sublist_ancestors_iff (hends : WellFounded d.IsParent) (i : NodeId)
    (chain : List NodeId) :
    chain.Sublist (d.ancestors i)
      ↔ (i :: chain).IsChain fun low high => TransGen d.IsParent high low := by
  constructor
  · intro hsub
    exact ((pairwise_climb d d.nodes.size i).sublist (hsub.cons_cons i)).isChain
  · intro hchain
    rcases exists_climb_of_chain chain i hchain with ⟨steps, hsub⟩
    exact hsub.trans (climb_sublist_ancestors hends steps i)

end Document

/-- A selector matches a node exactly if the node meets the compound for it, and nodes
    above it, each above the one before, meet the others. -/
theorem satisfies_iff_chain {d : Document} (hends : WellFounded d.IsParent) (i : NodeId)
    (s : Complex) :
    d.satisfies i s = true
      ↔ d.Meets i s.key
        ∧ ∃ chain : List NodeId, List.Forall₂ d.Meets chain s.ancestors
          ∧ (i :: chain).IsChain fun low high => TransGen d.IsParent high low := by
  have hmeets : (fun a c => d.accepts a c = true) = d.Meets :=
    funext fun a => funext fun c => propext (d.accepts_iff a c)
  rw [Document.satisfies, Bool.and_eq_true, d.accepts_iff, matchesChain_iff, hmeets]
  simp only [Document.sublist_ancestors_iff hends, and_comm]

/-- If links always lead to smaller numbers, following them comes to an end. -/
theorem isParent_wellFounded {d : Document}
    (h : ∀ i < d.nodes.size, ∀ p ∈ d.parent? i, p < i) : WellFounded d.IsParent :=
  Subrelation.wf (fun {p i} hp => h i (Document.lt_of_parent? hp) p hp) Nat.lt_wfRel.wf

/-- Boxes inside each other, two of which carry a mark more than once on the way up. -/
def nestedBoxes : Document :=
  .ofTrees none [
    .element { tag := "div".toList, attributes := [("class".toList, "outer".toList)] } [
      .element { tag := "div".toList, attributes := [("class".toList, "outer box".toList)] } [
        .element { tag := "div".toList, attributes := [("class".toList, "box".toList)] } [
          .element { tag := "img".toList } []]]]]

/-- The nearest box and the nearest outer one above it are found for the image. For the
    box itself there is only one outer node above the next box. -/
theorem chains_of_nested_boxes :
    WellFounded nestedBoxes.IsParent
      ∧ nestedBoxes.satisfies 4 (Complex.read ".outer .box img".toList) = true
      ∧ (∃ chain, List.Forall₂ nestedBoxes.Meets chain
            (Complex.read ".outer .box img".toList).ancestors
          ∧ (4 :: chain).IsChain fun low high => TransGen nestedBoxes.IsParent high low)
      ∧ ¬ ∃ chain, List.Forall₂ nestedBoxes.Meets chain
            (Complex.read ".outer .outer .box .box".toList).ancestors
          ∧ (3 :: chain).IsChain fun low high => TransGen nestedBoxes.IsParent high low := by
  have hends : WellFounded nestedBoxes.IsParent := isParent_wellFounded (by decide +kernel)
  have hmatches : nestedBoxes.satisfies 4 (Complex.read ".outer .box img".toList) = true := by
    decide +kernel
  refine ⟨hends, hmatches, ((satisfies_iff_chain hends 4 _).mp hmatches).2, fun hchain => ?_⟩
  have hkey : nestedBoxes.Meets 3 (Complex.read ".outer .outer .box .box".toList).key :=
    (nestedBoxes.accepts_iff 3 _).mp (by decide +kernel)
  have hnone : nestedBoxes.satisfies 3 (Complex.read ".outer .outer .box .box".toList) = false := by
    decide +kernel
  rw [(satisfies_iff_chain hends 3 _).mpr ⟨hkey, hchain⟩] at hnone
  exact absurd hnone (by decide)

end ResponsiveImages
