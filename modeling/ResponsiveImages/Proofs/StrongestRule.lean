import Mathlib.Data.List.Sort
import Mathlib.Data.Prod.Lex
import ResponsiveImages.Proofs.Cascade

/-!
# The Strongest Rule

Which rule decides about a property after a cascade, for any rules in any order. The
order of the cascade leaves ties: rules of one rank may come from one place. A stable
sort breaks them by the positions in the list it is given, and so the order it sorts by
is one of four numbers (`cascadeRank`). No two entries of a list agree in all four.

Rules are entered in that order, and what is entered last wins. So the value of a
property is that of the greatest entry among those that declare it, and there is one as
soon as any rule declares the property (`get?_cascade_iff`). The position is only asked
for when all else is equal. If the places of the rules differ it never is, and the rules
may be given in any order (`cascade_of_perm`).

## Main definitions

* `MatchedRule.Declares`: A rule has a declaration for a property.
* `cascadeRank`: The numbers by which the rules in a list are compared.
* `Strongest`: The greatest of the rules that declare a property.

## Theorems

* `specificity_eq`: The rank of a selector, counted over its compounds.
* `zipIdxLE_notAbove_iff`: The order a stable sort sorts by.
* `isSome_get?_cascade`: When a property has a value.
* `get?_cascade_iff`: Where the value of a property comes from.
* `cascade_of_perm`: Rules in another order.
* `cascade_of_strongest`: All of it together.
-/

namespace ResponsiveImages

open Text

/-- The rank of a selector: the classes and attribute conditions of all its compounds,
    then the tags of all of them. -/
theorem specificity_eq (c : Complex) :
    c.specificity = ⟨((c.key :: c.ancestors).flatMap Compound.classes).length
        + ((c.key :: c.ancestors).flatMap Compound.attributes).length,
      ((c.key :: c.ancestors).filterMap Compound.tag).length⟩ := by
  have hfold : ∀ (compounds : List Compound) (s : Specificity),
      compounds.foldl (fun s a => s.add a.specificity) s
        = ⟨s.conditions + ((compounds.flatMap Compound.classes).length
            + (compounds.flatMap Compound.attributes).length),
          s.tags + (compounds.filterMap Compound.tag).length⟩ := by
    intro compounds
    induction compounds with
    | nil => exact fun s => rfl
    | cons a compounds ih =>
        intro s
        rw [List.foldl_cons, ih, Specificity.add, Compound.specificity, Specificity.mk.injEq]
        simp only [List.flatMap_cons, List.length_append, List.filterMap_cons]
        cases a.tag with
        | none => exact ⟨by omega, by simp⟩
        | some tag => exact ⟨by omega, by simp; omega⟩
  have hstart : c.specificity
      = (c.key :: c.ancestors).foldl (fun s a => s.add a.specificity) ⟨0, 0⟩ := by
    rw [List.foldl_cons, Complex.specificity, Specificity.add, Nat.zero_add, Nat.zero_add]
  rw [hstart, hfold, Nat.zero_add, Nat.zero_add]

/-- A rule has a declaration for a property. -/
def MatchedRule.Declares (q : Text) (m : MatchedRule) : Prop :=
  ∃ d ∈ m.declarations, d.1 = q

theorem isSome_lastValue? (q : Text) (m : MatchedRule) :
    (lastValue? q m.declarations).isSome = true ↔ m.Declares q := by
  rw [lastValue?, List.getLast?_isSome, ne_eq, List.map_eq_nil_iff, List.filter_eq_nil_iff,
    MatchedRule.Declares]
  simp

theorem lastValue?_eq_none (q : Text) (m : MatchedRule) :
    lastValue? q m.declarations = none ↔ ¬ m.Declares q := by
  rw [← isSome_lastValue?, Bool.not_eq_true, Option.isSome_eq_false_iff, Option.isNone_iff_eq_none]

/-! ### The order of the entries -/

/-- The numbers by which the rules in a list are compared: the conditions and the tags of
    the selector, the place in the style sheet and the position in the list. -/
def cascadeRank (entry : MatchedRule × Nat) : Nat ×ₗ Nat ×ₗ Nat ×ₗ Nat :=
  toLex (entry.1.specificity.conditions, toLex (entry.1.specificity.tags,
    toLex (entry.1.sourceOrder, entry.2)))

/-- A stable sort compares positions where the order of the cascade leaves a tie. -/
theorem zipIdxLE_notAbove_iff (a b : MatchedRule × Nat) :
    List.zipIdxLE MatchedRule.notAbove a b = true ↔ cascadeRank a ≤ cascadeRank b := by
  have hle : List.zipIdxLE MatchedRule.notAbove a b = true
      ↔ a.1.notAbove b.1 = true ∧ (b.1.notAbove a.1 = true → a.2 ≤ b.2) := by
    rw [List.zipIdxLE]
    by_cases hab : a.1.notAbove b.1 = true
    · by_cases hba : b.1.notAbove a.1 = true
      · simp [hab, hba]
      · simp [hab, hba]
    · simp [hab]
  rw [hle, MatchedRule.notAbove_iff, MatchedRule.notAbove_iff]
  simp only [cascadeRank, Prod.Lex.toLex_le_toLex]
  omega

/-- The rules of a list, sorted together with their positions. -/
def sortedEntries (rules : List MatchedRule) : List (MatchedRule × Nat) :=
  rules.zipIdx.mergeSort (List.zipIdxLE MatchedRule.notAbove)

theorem mem_sortedEntries {rules : List MatchedRule} {entry : MatchedRule × Nat} :
    entry ∈ sortedEntries rules ↔ entry ∈ rules.zipIdx :=
  (List.mergeSort_perm _ _).mem_iff

theorem sortedEntries_ascending (rules : List MatchedRule) :
    (sortedEntries rules).Pairwise fun a b => cascadeRank a ≤ cascadeRank b :=
  (List.pairwise_mergeSort (List.zipIdxLE_trans MatchedRule.notAbove_trans)
    (List.zipIdxLE_total MatchedRule.notAbove_total) _).imp
      fun h => (zipIdxLE_notAbove_iff _ _).mp h

/-- The value of a property is the one that is entered last. -/
theorem get?_cascade_sorted (q : Text) (rules : List MatchedRule) :
    (cascade rules).get? q
      = (sortedEntries rules).reverse.findSome? fun entry =>
          lastValue? q entry.1.declarations := by
  rw [cascade, ← List.mergeSort_zipIdx, get?_enterAll, List.filterMap_map,
    List.getLast?_filterMap, show Style.get? [] q = none from rfl, Option.or_none]
  rfl

/-- Entries of a list that agree in their numbers are one entry. -/
theorem cascadeRank_injective {rules : List MatchedRule} {a b : MatchedRule × Nat}
    (ha : a ∈ rules.zipIdx) (hb : b ∈ rules.zipIdx) (h : cascadeRank a = cascadeRank b) :
    a = b := by
  have hposition : a.2 = b.2 := by
    simp only [cascadeRank, toLex_inj, Prod.mk.injEq] at h
    exact h.2.2.2
  rw [List.mem_zipIdx_iff_getElem?] at ha hb
  rw [hposition, hb, Option.some.injEq] at ha
  exact Prod.ext ha.symm hposition

/-! ### The value of a property -/

/-- The greatest of the rules that declare a property, with its position. -/
structure Strongest (q : Text) (rules : List MatchedRule) (top : MatchedRule × Nat) : Prop where
  mem : top ∈ rules.zipIdx
  declares : top.1.Declares q
  greatest : ∀ other ∈ rules.zipIdx, other.1.Declares q → other ≠ top →
    cascadeRank other < cascadeRank top

theorem Strongest.unique {q : Text} {rules : List MatchedRule} {a b : MatchedRule × Nat}
    (ha : Strongest q rules a) (hb : Strongest q rules b) : a = b := by
  by_contra hne
  exact lt_asymm (ha.greatest b hb.mem hb.declares (Ne.symm hne))
    (hb.greatest a ha.mem ha.declares hne)

/-- A property has a value if some rule declares it. -/
theorem isSome_get?_cascade (q : Text) (rules : List MatchedRule) :
    ((cascade rules).get? q).isSome = true ↔ ∃ m ∈ rules, m.Declares q := by
  rw [get?_cascade_sorted, List.isSome_findSome?, List.any_eq_true]
  simp only [isSome_lastValue?, List.mem_reverse, mem_sortedEntries]
  constructor
  · rintro ⟨entry, hentry, hdeclares⟩
    exact ⟨entry.1, List.fst_mem_of_mem_zipIdx hentry, hdeclares⟩
  · rintro ⟨m, hm, hdeclares⟩
    rcases List.getElem_of_mem hm with ⟨position, hposition, heq⟩
    refine ⟨(m, position), List.mem_zipIdx_iff_getElem?.mpr ?_, hdeclares⟩
    rw [List.getElem?_eq_getElem hposition, heq]

/-- A value comes from the greatest of the rules that declare the property. -/
theorem strongest_of_get? {q value : Text} {rules : List MatchedRule}
    (h : (cascade rules).get? q = some value) :
    ∃ top, Strongest q rules top ∧ lastValue? q top.1.declarations = some value := by
  rw [get?_cascade_sorted, List.findSome?_eq_some_iff] at h
  rcases h with ⟨later, top, earlier, hsplit, hvalue, hlater⟩
  have hsorted := List.pairwise_reverse.mpr (sortedEntries_ascending rules)
  have hmem : ∀ entry, entry ∈ rules.zipIdx ↔ entry ∈ later ++ top :: earlier := by
    intro entry
    rw [← hsplit, List.mem_reverse, mem_sortedEntries]
  have htop : top ∈ rules.zipIdx :=
    (hmem top).mpr (List.mem_append_right _ List.mem_cons_self)
  rw [hsplit, List.pairwise_append, List.pairwise_cons] at hsorted
  refine ⟨top, ⟨htop, ?_, fun other hother hdeclares hne => ?_⟩, hvalue⟩
  · rw [← isSome_lastValue?, hvalue]
    rfl
  · -- An entry that is entered later does not declare the property.
    rcases List.mem_append.mp ((hmem other).mp hother) with hmemLater | hmemRest
    · exact absurd hdeclares ((lastValue?_eq_none q other.1).mp (hlater other hmemLater))
    · have hle := hsorted.2.1.1 other ((List.mem_cons.mp hmemRest).resolve_left hne)
      exact lt_of_le_of_ne hle fun heq => hne (cascadeRank_injective hother htop heq)

/-- The value of a property is the last one that the greatest of the rules that declare
    it gives to it. -/
theorem get?_cascade_iff (q value : Text) (rules : List MatchedRule) :
    (cascade rules).get? q = some value
      ↔ ∃ top, Strongest q rules top ∧ lastValue? q top.1.declarations = some value := by
  refine ⟨strongest_of_get?, ?_⟩
  rintro ⟨top, htop, hvalue⟩
  have hsome := (isSome_get?_cascade q rules).mpr
    ⟨top.1, List.fst_mem_of_mem_zipIdx htop.mem, htop.declares⟩
  rcases Option.isSome_iff_exists.mp hsome with ⟨found, hfound⟩
  rcases strongest_of_get? hfound with ⟨top', htop', hvalue'⟩
  rw [htop'.unique htop, hvalue] at hvalue'
  rw [hfound, hvalue']

/-- Rules from different places may be given in any order. -/
theorem cascade_of_perm {rules others : List MatchedRule}
    (hplaces : (rules.map MatchedRule.sourceOrder).Nodup) (hperm : others.Perm rules) :
    cascade others = cascade rules := by
  have hsorted : others.mergeSort MatchedRule.notAbove = rules.mergeSort MatchedRule.notAbove := by
    refine List.Perm.eq_of_pairwise (fun a b ha hb hab hba => ?_)
      (List.pairwise_mergeSort MatchedRule.notAbove_trans MatchedRule.notAbove_total others)
      (List.pairwise_mergeSort MatchedRule.notAbove_trans MatchedRule.notAbove_total rules)
      ((List.mergeSort_perm _ _).trans (hperm.trans (List.mergeSort_perm _ _).symm))
    -- Rules that compare both ways come from one place.
    rw [MatchedRule.notAbove_iff] at hab hba
    exact List.inj_on_of_nodup_map hplaces
      (hperm.mem_iff.mp (List.mem_mergeSort.mp ha)) (List.mem_mergeSort.mp hb) (by omega)
  rw [cascade, cascade, hsorted]

/-- A property has a value exactly if some rule declares it. The value is the last one in
    the rule that is greatest among those that declare it, by the conditions and then by
    the tags of its selector, by its place and by its position. So if the places differ
    the order in which the rules are given does not matter. -/
theorem cascade_of_strongest (rules : List MatchedRule) :
    (∀ q, ((cascade rules).get? q).isSome = true ↔ ∃ m ∈ rules, m.Declares q)
      ∧ (∀ q value, (cascade rules).get? q = some value
          ↔ ∃ top, Strongest q rules top ∧ lastValue? q top.1.declarations = some value)
      ∧ ((rules.map MatchedRule.sourceOrder).Nodup →
          ∀ others : List MatchedRule, others.Perm rules → cascade others = cascade rules)
      ∧ ∀ c : Complex, c.specificity
          = ⟨((c.key :: c.ancestors).flatMap Compound.classes).length
              + ((c.key :: c.ancestors).flatMap Compound.attributes).length,
            ((c.key :: c.ancestors).filterMap Compound.tag).length⟩ :=
  ⟨fun q => isSome_get?_cascade q rules, fun q value => get?_cascade_iff q value rules,
    fun hplaces _ hperm => cascade_of_perm hplaces hperm, specificity_eq⟩

/-- Rules of one rank, the last two of which come from one place, and a rule with more tags
    from a later place. -/
def tiedRules : List MatchedRule := [
  ⟨⟨0, 2⟩, [("height".toList, "0".toList), ("color".toList, "black".toList)], 9⟩,
  ⟨⟨1, 0⟩, [("color".toList, "red".toList)], 3⟩,
  ⟨⟨1, 0⟩, [("color".toList, "blue".toList), ("width".toList, "auto".toList)], 7⟩,
  ⟨⟨1, 0⟩, [("color".toList, "green".toList), ("color".toList, "white".toList)], 7⟩]

/-- The position settles the tie, and without the tied rule the order does not matter. -/
theorem ties_settled_by_position :
    (cascade tiedRules).get? "color".toList = some "white".toList
      ∧ ((tiedRules.take 3).map MatchedRule.sourceOrder).Nodup
      ∧ cascade (tiedRules.take 3).reverse = cascade (tiedRules.take 3) := by
  have hplaces : ((tiedRules.take 3).map MatchedRule.sourceOrder).Nodup := by decide
  have hgreatest : ∀ other ∈ tiedRules.zipIdx, other ≠ (tiedRules[3], 3) →
      cascadeRank other < cascadeRank (tiedRules[3], 3) := by
    simp only [cascadeRank, Prod.Lex.toLex_lt_toLex]
    decide
  have htop : Strongest "color".toList tiedRules (tiedRules[3], 3) :=
    ⟨by decide, ⟨_, List.mem_cons_self, rfl⟩, fun other hother _ => hgreatest other hother⟩
  exact ⟨((cascade_of_strongest tiedRules).2.1 _ _).mpr ⟨_, htop, by decide⟩, hplaces,
    (cascade_of_strongest (tiedRules.take 3)).2.2.1 hplaces _ (List.reverse_perm _)⟩

end ResponsiveImages
