import Mathlib.Data.List.Forall2
import ResponsiveImages.Proofs.StrongestRule

/-!
# Selectors in Another Order

What the order of the selectors of a rule has to do with the style of an element.

A rule may be written with several selectors, and a node need only match one of them. So
whether the rule applies, and with which declarations, does not depend on how they are
arranged (`matched_of_reordered`), nor does the question which properties get a value.
The rank at which it takes part in the cascade does depend on it. It is the rank of the
first selector that matches, not of the strongest (`StyleRule.rank?`), and behind a weak
selector a strong one goes unnoticed.

The order therefore matters by that one number. If the first selector that matches has the
same rank before and after, the style is the same (`computedStyle_of_ranks`), and this is
so if in both orders no selector that matches is stronger than it
(`rank?_eq_of_leads`). If the rank changes there is a style sheet that shows it: a second
rule with one of the selectors, behind the first one, wins in one order and loses in the
other (`differs_of_ranks`).

## Main definitions

* `StyleRule.Reordered`, `Stylesheet.Reordered`: Rules with their selectors rearranged.
* `StyleRule.rank?`: The rank at which a rule takes part in the cascade.
* `Specificity.key`: A rank as a pair that is compared from the left.
* `StyleRule.LeadsByRank`: No selector that matches is stronger than the first one.
* `MatchedRule.SameButRank`: Rules that differ in nothing but the rank.

## Theorems

* `matched?_ofRule_eq`: How a rule takes part in the cascade.
* `matched_of_reordered`: The rules that take part, whatever the order.
* `isSome_resolvedProperty?_of_reordered`: The properties that have a value.
* `computedStyle_of_ranks`: The style if the ranks stay.
* `rank?_eq_of_leads`: The ranks if the strongest selectors come first.
* `exists_rank?_eq`: A rule with one of the selectors of another one.
* `resolvedProperty?_pair`: Which of two rules wins.
* `differs_of_ranks`: A style sheet that shows a change of rank.
* `style_of_reordered_selectors`: All of it together.
-/

namespace ResponsiveImages

open Text

/-! ### Ranks -/

/-- The two numbers of a rank, to be compared from the left. -/
def Specificity.key (s : Specificity) : Nat ×ₗ Nat :=
  toLex (s.conditions, s.tags)

theorem Specificity.key_injective {a b : Specificity} (h : a.key = b.key) : a = b := by
  simp only [key, toLex_inj, Prod.mk.injEq] at h
  rcases a with ⟨conditions, tags⟩
  rcases b with ⟨conditions', tags'⟩
  rw [Specificity.mk.injEq]
  exact h

/-- The rank at which a rule takes part in the cascade for a node: that of the first of
    its selectors that matches, in the order they are written in. -/
def StyleRule.rank? (r : StyleRule) (d : Document) (i : NodeId) : Option Specificity :=
  (((r.selector.splitOn ',').map Complex.read).find? fun c => d.satisfies i c).map
    Complex.specificity

/-- A rule takes part with its rank, with its declarations in normal form and from its
    place. -/
theorem matched?_ofRule_eq (place : Nat) (r : StyleRule) (d : Document) (i : NodeId) :
    (OwnedRule.ofRule place r).matched? d i
      = (r.rank? d i).map fun rank => ⟨rank, normalize r.declarations, place⟩ := by
  rw [StyleRule.rank?, Option.map_map]
  rfl

theorem isSome_rank? (r : StyleRule) (d : Document) (i : NodeId) :
    (r.rank? d i).isSome = r.selects d i := by
  rw [← isSome_matched? 0 r, matched?_ofRule_eq, Option.isSome_map]

/-- The rank of a rule is that of a selector that matches. -/
theorem exists_of_rank? {r : StyleRule} {d : Document} {i : NodeId} {rank : Specificity}
    (h : r.rank? d i = some rank) :
    ∃ c ∈ (r.selector.splitOn ',').map Complex.read,
      d.satisfies i c = true ∧ c.specificity = rank := by
  rcases Option.map_eq_some_iff.mp h with ⟨c, hfind, hrank⟩
  exact ⟨c, List.mem_of_find?_eq_some hfind, List.find?_some hfind, hrank⟩

/-! ### Rearranged rules -/

/-- A rule that differs from another one at most in the order in which its selectors are
    written, and in the white space around them. -/
structure StyleRule.Reordered (r r' : StyleRule) : Prop where
  selectors : ((r'.selector.splitOn ',').map Complex.read).Perm
    ((r.selector.splitOn ',').map Complex.read)
  declarations : r'.declarations = r.declarations
  media : r'.media = r.media

/-- A style sheet that differs from another one at most in the order in which the selectors
    of each rule are written. -/
def Stylesheet.Reordered (s s' : Stylesheet) : Prop :=
  List.Forall₂ StyleRule.Reordered s.rules s'.rules

theorem StyleRule.Reordered.selects {r r' : StyleRule} (h : r.Reordered r') (d : Document)
    (i : NodeId) : r'.selects d i = r.selects d i :=
  h.selectors.any_eq

/-- Both rules take part, each with its own rank, or neither does. -/
theorem StyleRule.Reordered.rank? {r r' : StyleRule} (h : r.Reordered r') (d : Document)
    (i : NodeId) :
    (r.rank? d i = none ∧ r'.rank? d i = none)
      ∨ ∃ rank rank', r.rank? d i = some rank ∧ r'.rank? d i = some rank' := by
  have hselects := h.selects d i
  rw [← isSome_rank?, ← isSome_rank?] at hselects
  cases hrank : r.rank? d i with
  | none =>
      rw [hrank, Option.isSome_none, Option.isSome_eq_false_iff, Option.isNone_iff_eq_none]
        at hselects
      exact Or.inl ⟨rfl, hselects⟩
  | some rank =>
      rw [hrank, Option.isSome_some, Option.isSome_iff_exists] at hselects
      rcases hselects with ⟨rank', hrank'⟩
      exact Or.inr ⟨rank, rank', rfl, hrank'⟩

/-- Rules that differ in nothing but the rank they take part with. -/
structure MatchedRule.SameButRank (m m' : MatchedRule) : Prop where
  declarations : m'.declarations = m.declarations
  sourceOrder : m'.sourceOrder = m.sourceOrder

theorem declarations_of_sameButRank {rules rules' : List MatchedRule}
    (h : List.Forall₂ MatchedRule.SameButRank rules rules') :
    rules'.map MatchedRule.declarations = rules.map MatchedRule.declarations := by
  induction h with
  | nil => rfl
  | cons hsame _ ih => rw [List.map_cons, List.map_cons, hsame.declarations, ih]

/-- Rules take part with the places they have in the list. -/
theorem matched_eq (s : Stylesheet) (v : Viewport) (d : Document) (i : NodeId) :
    s.matched v d i = s.rules.zipIdx.filterMap fun entry =>
      if mediaHolds entry.1.media v then (OwnedRule.ofRule entry.2 entry.1).matched? d i
      else none := by
  rw [Stylesheet.matched, List.filterMap_filter, Stylesheet.own, List.mapIdx_eq_zipIdx_map,
    List.filterMap_map]
  refine List.filterMap_congr fun entry _ => ?_
  rw [Function.comp_apply, active_ofRule]

theorem forall₂_zipIdx {R : StyleRule → StyleRule → Prop} {rules rules' : List StyleRule}
    (h : List.Forall₂ R rules rules') :
    ∀ start, List.Forall₂ (fun entry entry' => R entry.1 entry'.1 ∧ entry'.2 = entry.2)
      (rules.zipIdx start) (rules'.zipIdx start) := by
  induction h with
  | nil => exact fun _ => .nil
  | cons hfirst _ ih => exact fun start => .cons ⟨hfirst, rfl⟩ (ih (start + 1))

/-- What relates the rules of two style sheets, place by place, relates the rules that take
    part in the cascade. -/
theorem forall₂_matched {R : StyleRule → StyleRule → Prop} {T : MatchedRule → MatchedRule → Prop}
    {v : Viewport} {d : Document} {i : NodeId}
    (hmedia : ∀ r r', R r r' → r'.media = r.media)
    (hmatched : ∀ place r r', R r r' → mediaHolds r.media v = true →
      Option.Rel T ((OwnedRule.ofRule place r).matched? d i)
        ((OwnedRule.ofRule place r').matched? d i))
    {s s' : Stylesheet} (h : List.Forall₂ R s.rules s'.rules) :
    List.Forall₂ T (s.matched v d i) (s'.matched v d i) := by
  rw [matched_eq, matched_eq]
  refine List.rel_filterMap ?_ (forall₂_zipIdx h 0)
  rintro ⟨r, place⟩ ⟨r', place'⟩ ⟨hr, hplace⟩
  dsimp only at hr hplace ⊢
  rw [hplace, hmedia r r' hr]
  by_cases hholds : mediaHolds r.media v = true
  · rw [if_pos hholds, if_pos hholds]
    exact hmatched place r r' hr hholds
  · rw [if_neg hholds, if_neg hholds]
    exact .none

section

variable {s s' : Stylesheet} (h : s.Reordered s') (v : Viewport) (d : Document) (i : NodeId)

include h

/-- The rules that take part in the cascade are the same, apart from their ranks. -/
theorem matched_of_reordered :
    List.Forall₂ MatchedRule.SameButRank (s.matched v d i) (s'.matched v d i) := by
  refine forall₂_matched (fun r r' hr => hr.media) (fun place r r' hr _ => ?_) h
  rw [matched?_ofRule_eq, matched?_ofRule_eq, hr.declarations]
  rcases hr.rank? d i with ⟨hrank, hrank'⟩ | ⟨rank, rank', hrank, hrank'⟩
  · rw [hrank, hrank']
    exact .none
  · rw [hrank, hrank']
    exact .some ⟨rfl, rfl⟩

/-- The same properties get a value. -/
theorem isSome_resolvedProperty?_of_reordered (q : Text) :
    (resolvedProperty? s'.own v d i q).isSome = (resolvedProperty? s.own v d i q).isSome := by
  have hdeclarations : (s'.matched v d i).map MatchedRule.declarations
      = (s.matched v d i).map MatchedRule.declarations :=
    declarations_of_sameButRank (matched_of_reordered h v d i)
  -- Whether a property is declared can be seen without the ranks.
  have hdeclares : ∀ rules : List MatchedRule, (∃ m ∈ rules, m.Declares q)
      ↔ ∃ declarations ∈ rules.map MatchedRule.declarations, ∃ entry ∈ declarations, entry.1 = q := by
    intro rules
    simp only [List.mem_map, exists_exists_and_eq_and, MatchedRule.Declares]
  rw [Bool.eq_iff_iff]
  show ((cascade (s'.matched v d i)).get? q).isSome = true
    ↔ ((cascade (s.matched v d i)).get? q).isSome = true
  rw [isSome_get?_cascade, isSome_get?_cascade, hdeclares, hdeclares, hdeclarations]

/-- If every rule whose media query holds keeps its rank, the style is the same. -/
theorem computedStyle_of_ranks
    (hranks : ∀ pair ∈ s.rules.zip s'.rules, mediaHolds pair.1.media v = true →
      pair.2.rank? d i = pair.1.rank? d i) :
    computedStyle s'.own v d i = computedStyle s.own v d i := by
  have hrules : List.Forall₂ (fun r r' => r.Reordered r' ∧
      (mediaHolds r.media v = true → r'.rank? d i = r.rank? d i)) s.rules s'.rules := by
    rw [Stylesheet.Reordered, List.forall₂_iff_zip] at h
    exact List.forall₂_iff_zip.mpr ⟨h.1, fun hpair => ⟨h.2 hpair, hranks _ hpair⟩⟩
  have hsame : List.Forall₂ Eq (s.matched v d i) (s'.matched v d i) := by
    refine forall₂_matched (fun r r' hr => hr.1.media) (fun place r r' hr hholds => ?_) hrules
    rw [matched?_ofRule_eq, matched?_ofRule_eq, hr.1.declarations, hr.2 hholds]
    cases r.rank? d i with
    | none => exact .none
    | some rank => exact .some rfl
  show cascade (s'.matched v d i) = cascade (s.matched v d i)
  rw [List.forall₂_eq_eq_eq] at hsame
  rw [hsame]

end

/-- No selector that matches a node is stronger than the first one that does. -/
def StyleRule.LeadsByRank (r : StyleRule) (d : Document) (i : NodeId) : Prop :=
  ∀ rank ∈ r.rank? d i, ∀ c ∈ (r.selector.splitOn ',').map Complex.read,
    d.satisfies i c = true → c.specificity.key ≤ rank.key

/-- If in both orders no selector that matches is stronger than the first one, the rank is
    that of the strongest selectors, which are the same. -/
theorem rank?_eq_of_leads {r r' : StyleRule} (h : r.Reordered r') {d : Document} {i : NodeId}
    (hleads : r.LeadsByRank d i) (hleads' : r'.LeadsByRank d i) :
    r'.rank? d i = r.rank? d i := by
  rcases h.rank? d i with ⟨hrank, hrank'⟩ | ⟨rank, rank', hrank, hrank'⟩
  · rw [hrank, hrank']
  · rcases exists_of_rank? hrank with ⟨c, hmem, hmatches, hspecificity⟩
    rcases exists_of_rank? hrank' with ⟨c', hmem', hmatches', hspecificity'⟩
    have hle := hleads' rank' hrank' c (h.selectors.mem_iff.mpr hmem) hmatches
    have hge := hleads rank hrank c' (h.selectors.mem_iff.mp hmem') hmatches'
    rw [hspecificity] at hle
    rw [hspecificity'] at hge
    rw [hrank, hrank', Specificity.key_injective (le_antisymm hge hle)]

/-! ### A change of rank -/

/-- A piece between separators holds none of them. -/
theorem not_mem_of_mem_splitOn {sep : Char} (s : Text) :
    ∀ piece ∈ s.splitOn sep, sep ∉ piece := by
  induction s with
  | nil =>
      intro piece hpiece
      rw [List.mem_singleton.mp hpiece]
      exact List.not_mem_nil
  | cons c s ih =>
      rw [List.splitOn, List.splitOnP_cons_eq_if_modifyHead]
      split
      · exact List.forall_mem_cons.mpr ⟨List.not_mem_nil, ih⟩
      · -- A character that does not separate goes to the first piece of what follows.
        next hc =>
          rcases List.exists_cons_of_ne_nil (List.splitOnP_ne_nil (· == sep) s) with
            ⟨first, rest, hpieces⟩
          rw [List.splitOn, hpieces, List.forall_mem_cons] at ih
          rw [hpieces, List.modifyHead_cons, List.forall_mem_cons, List.mem_cons, not_or]
          exact ⟨⟨fun heq => hc (beq_iff_eq.mpr heq.symm), ih.1⟩, ih.2⟩

/-- A rule with one of the selectors of another rule takes part with the rank of that
    selector. -/
theorem exists_rank?_eq {r : StyleRule} {d : Document} {i : NodeId} {c : Complex}
    (hmem : c ∈ (r.selector.splitOn ',').map Complex.read) (hmatches : d.satisfies i c = true)
    (declarations : List Declaration) :
    ∃ selector ∈ r.selector.splitOn ',',
      StyleRule.rank? { selector, declarations } d i = some c.specificity := by
  rcases List.mem_map.mp hmem with ⟨selector, hselector, hread⟩
  have hone : selector.splitOn ',' = [selector] :=
    List.splitOn_eq_singleton (not_mem_of_mem_splitOn r.selector selector hselector)
  refine ⟨selector, hselector, ?_⟩
  rw [StyleRule.rank?, hone, List.map_singleton, hread, List.find?_singleton, if_pos hmatches,
    Option.map_some]

/-- Of two rules that declare a property the stronger one wins, and the second one if they
    have one rank. -/
theorem resolvedProperty?_pair {r t : StyleRule} {v : Viewport} {d : Document} {i : NodeId}
    (hmedia : mediaHolds r.media v = true) (hmedia' : mediaHolds t.media v = true)
    {rank rank' : Specificity} (hrank : r.rank? d i = some rank) (hrank' : t.rank? d i = some rank')
    {q value other : Text} (hvalue : lastValue? q (normalize r.declarations) = some value)
    (hother : lastValue? q (normalize t.declarations) = some other) :
    resolvedProperty? (Stylesheet.own ⟨[r, t]⟩) v d i q
      = if rank.key ≤ rank'.key then some other else some value := by
  have hmatched : Stylesheet.matched ⟨[r, t]⟩ v d i
      = [⟨rank, normalize r.declarations, 0⟩, ⟨rank', normalize t.declarations, 1⟩] := by
    rw [matched_eq]
    simp only [List.zipIdx_cons, List.zipIdx_nil, List.filterMap_cons, List.filterMap_nil,
      hmedia, hmedia', if_true, matched?_ofRule_eq, hrank, hrank', Option.map_some]
  show (cascade (Stylesheet.matched ⟨[r, t]⟩ v d i)).get? q = _
  rw [hmatched]
  -- The second rule comes from the later place, so it wins a tie.
  simp only [Specificity.key, Prod.Lex.toLex_le_toLex]
  split
  · next hle =>
      refine get?_cascade_of_strongest q (List.mem_cons_of_mem _ List.mem_cons_self) hother ?_
      rw [List.forall_mem_cons, List.forall_mem_singleton]
      refine ⟨Or.inr ?_, Or.inl fun x hx => ?_⟩
      · rw [← Bool.not_eq_true, MatchedRule.notAbove_iff]
        dsimp only
        omega
      · rw [hother, Option.mem_some_iff] at hx
        exact hx.symm
  · next hlt =>
      refine get?_cascade_of_strongest q List.mem_cons_self hvalue ?_
      rw [List.forall_mem_cons, List.forall_mem_singleton]
      refine ⟨Or.inl fun x hx => ?_, Or.inr ?_⟩
      · rw [hvalue, Option.mem_some_iff] at hx
        exact hx.symm
      · rw [← Bool.not_eq_true, MatchedRule.notAbove_iff]
        dsimp only
        omega

/-- If the order of its selectors changes the rank of a rule, a second rule with one of
    them makes a difference of it. -/
theorem differs_of_ranks {r r' : StyleRule} (h : r.Reordered r') {v : Viewport} {d : Document}
    {i : NodeId} (hmedia : mediaHolds r.media v = true) (hranks : r'.rank? d i ≠ r.rank? d i)
    {q value other : Text} {declarations : List Declaration}
    (hvalue : lastValue? q (normalize r.declarations) = some value)
    (hother : lastValue? q (normalize declarations) = some other) (hne : value ≠ other) :
    ∃ selector ∈ r.selector.splitOn ',',
      resolvedProperty? (Stylesheet.own ⟨[r', { selector, declarations }]⟩) v d i q
        ≠ resolvedProperty? (Stylesheet.own ⟨[r, { selector, declarations }]⟩) v d i q := by
  have hmedia' : mediaHolds r'.media v = true := by rw [h.media, hmedia]
  have hvalue' : lastValue? q (normalize r'.declarations) = some value := by
    rw [h.declarations, hvalue]
  rcases h.rank? d i with ⟨hrank, hrank'⟩ | ⟨rank, rank', hrank, hrank'⟩
  · rw [hrank, hrank'] at hranks
    exact absurd rfl hranks
  rw [hrank, hrank', ne_eq, Option.some.injEq] at hranks
  -- The second rule gets the selector of the weaker rank: it beats that one and loses to
  -- the other.
  rcases lt_or_gt_of_ne fun heq => hranks (Specificity.key_injective heq.symm) with
    hlt | hgt
  · rcases exists_of_rank? hrank with ⟨c, hmem, hmatches, hspecificity⟩
    rcases exists_rank?_eq hmem hmatches declarations with ⟨selector, hselector, hsecond⟩
    rw [hspecificity] at hsecond
    refine ⟨selector, hselector, ?_⟩
    rw [resolvedProperty?_pair hmedia rfl hrank hsecond hvalue hother,
      resolvedProperty?_pair hmedia' rfl hrank' hsecond hvalue' hother, if_pos le_rfl,
      if_neg (not_le_of_gt hlt), ne_eq, Option.some.injEq]
    exact hne
  · rcases exists_of_rank? hrank' with ⟨c, hmem, hmatches, hspecificity⟩
    rcases exists_rank?_eq (h.selectors.mem_iff.mp hmem) hmatches declarations with
      ⟨selector, hselector, hsecond⟩
    rw [hspecificity] at hsecond
    refine ⟨selector, hselector, ?_⟩
    rw [resolvedProperty?_pair hmedia rfl hrank hsecond hvalue hother,
      resolvedProperty?_pair hmedia' rfl hrank' hsecond hvalue' hother, if_pos le_rfl,
      if_neg (not_le_of_gt hgt), ne_eq, Option.some.injEq]
    exact hne.symm

/-- Rules whose selectors are rearranged take part in the cascade for the same nodes, with
    the same declarations and from the same places, and give values to the same
    properties. The style is the same if the rules keep their ranks, and so it is if in both
    orders the first selector that matches is the strongest one. If a rule does not keep
    its rank, the style of a sheet with this rule and a second one is not the same. -/
theorem style_of_reordered_selectors {s s' : Stylesheet} (h : s.Reordered s') (v : Viewport)
    (d : Document) (i : NodeId) :
    List.Forall₂ MatchedRule.SameButRank (s.matched v d i) (s'.matched v d i)
      ∧ (∀ q, (resolvedProperty? s'.own v d i q).isSome
          = (resolvedProperty? s.own v d i q).isSome)
      ∧ ((∀ pair ∈ s.rules.zip s'.rules, mediaHolds pair.1.media v = true →
            pair.2.rank? d i = pair.1.rank? d i) →
          computedStyle s'.own v d i = computedStyle s.own v d i)
      ∧ ((∀ r ∈ s.rules ++ s'.rules, mediaHolds r.media v = true → r.LeadsByRank d i) →
          computedStyle s'.own v d i = computedStyle s.own v d i)
      ∧ ∀ pair ∈ s.rules.zip s'.rules, mediaHolds pair.1.media v = true →
          pair.2.rank? d i ≠ pair.1.rank? d i →
          ∀ q value other declarations,
            lastValue? q (normalize pair.1.declarations) = some value →
            lastValue? q (normalize declarations) = some other → value ≠ other →
            ∃ selector ∈ pair.1.selector.splitOn ',',
              resolvedProperty? (Stylesheet.own ⟨[pair.2, { selector, declarations }]⟩) v d i q
                ≠ resolvedProperty? (Stylesheet.own ⟨[pair.1, { selector, declarations }]⟩)
                    v d i q := by
  have hpairs : ∀ pair ∈ s.rules.zip s'.rules, pair.1.Reordered pair.2 := fun pair hpair =>
    (List.forall₂_iff_zip.mp h).2 hpair
  refine ⟨matched_of_reordered h v d i, isSome_resolvedProperty?_of_reordered h v d i,
    computedStyle_of_ranks h v d i, fun hleads => ?_,
    fun pair hpair hmedia hranks q value other declarations hvalue hother hne =>
      differs_of_ranks (hpairs pair hpair) hmedia hranks hvalue hother hne⟩
  refine computedStyle_of_ranks h v d i fun pair hpair hmedia => ?_
  have hmem := List.of_mem_zip hpair
  refine rank?_eq_of_leads (hpairs pair hpair)
    (hleads pair.1 (List.mem_append_left _ hmem.1) hmedia)
    (hleads pair.2 (List.mem_append_right _ hmem.2) ?_)
  rw [(hpairs pair hpair).media, hmedia]

/-- A page with an image that has two classes, which is node 3. -/
def wideImagePage : Document :=
  let image : Element :=
    { tag := "img".toList, attributes := [("class".toList, "rwdimage wide".toList)] }
  Document.ofTrees none [
    .element { tag := "html".toList } [.element { tag := "body".toList } [.element image []]]]

/-- A rule that gives an image to what the selectors select. -/
def imageRule (selectors image : String) : StyleRule :=
  { selector := selectors.toList, declarations := [⟨sourceProperty, image.toList⟩] }

/-- A rule with several selectors and then one with a single class. -/
def imageRules (selectors : String) : Stylesheet :=
  ⟨[imageRule selectors "url(w.png)", imageRule ".rwdimage" "url(n.png)"]⟩

/-- The weaker of two selectors, a tag and two classes, comes first. -/
theorem reordered_imageRules :
    (imageRules "img, .rwdimage.wide").Reordered (imageRules ".rwdimage.wide, img") :=
  .cons ⟨by decide +kernel, rfl, rfl⟩ (.cons ⟨.refl _, rfl, rfl⟩ .nil)

/-- Behind a weak selector a strong one goes unnoticed. -/
theorem strong_selector_unnoticed :
    ¬ ∀ (s s' : Stylesheet) (v : Viewport) (d : Document) (i : NodeId), s.Reordered s' →
      computedStyle s'.own v d i = computedStyle s.own v d i := by
  intro hclaim
  have hwide : lastValue? sourceProperty (normalize (imageRule "" "url(w.png)").declarations)
      = some "url(\x22w.png\x22)".toList := by
    decide +kernel
  have hsource : ∀ selectors rank,
      (imageRule selectors "url(w.png)").rank? wideImagePage 3 = some rank →
      resolvedProperty? (imageRules selectors).own {} wideImagePage 3 sourceProperty
        = if rank.key ≤ (Specificity.mk 1 0).key then some "url(\x22n.png\x22)".toList
          else some "url(\x22w.png\x22)".toList := fun selectors rank hrank =>
    resolvedProperty?_pair rfl rfl hrank (by decide +kernel) hwide (by decide +kernel)
  have hweak := hsource "img, .rwdimage.wide" ⟨0, 1⟩ (by decide +kernel)
  have hstrong := hsource ".rwdimage.wide, img" ⟨2, 0⟩ (by decide +kernel)
  rw [resolvedProperty?, ← hclaim _ _ {} wideImagePage 3 reordered_imageRules] at hweak
  rw [resolvedProperty?, hweak] at hstrong
  exact absurd hstrong (by decide +kernel)

/-- Selectors of one rank may be written in any order, and so may those behind the first one
    that matches. A tag in front of two classes makes a difference. -/
theorem sources_of_reordered_selectors :
    computedStyle (imageRules "table,.rwdimage,.wide").own {} wideImagePage 3
        = computedStyle (imageRules ".wide, .rwdimage, table").own {} wideImagePage 3
      ∧ computedStyle (imageRules "img,.rwdimage.wide,table").own {} wideImagePage 3
        = computedStyle (imageRules "img, table, .rwdimage.wide").own {} wideImagePage 3
      ∧ ∃ selector ∈ "img, .rwdimage.wide".toList.splitOn ',',
        resolvedProperty?
            (Stylesheet.own ⟨[imageRule ".rwdimage.wide, img" "url(w.png)",
              { selector, declarations := [⟨sourceProperty, "url(n.png)".toList⟩] }]⟩)
            {} wideImagePage 3 sourceProperty
          ≠ resolvedProperty?
            (Stylesheet.own ⟨[imageRule "img, .rwdimage.wide" "url(w.png)",
              { selector, declarations := [⟨sourceProperty, "url(n.png)".toList⟩] }]⟩)
            {} wideImagePage 3 sourceProperty := by
  have hequal : (imageRules ".wide, .rwdimage, table").Reordered
      (imageRules "table,.rwdimage,.wide") :=
    .cons ⟨by decide +kernel, rfl, rfl⟩ (.cons ⟨.refl _, rfl, rfl⟩ .nil)
  have hbehind : (imageRules "img, table, .rwdimage.wide").Reordered
      (imageRules "img,.rwdimage.wide,table") :=
    .cons ⟨by decide +kernel, rfl, rfl⟩ (.cons ⟨.refl _, rfl, rfl⟩ .nil)
  refine ⟨(style_of_reordered_selectors hequal {} wideImagePage 3).2.2.2.1 ?_,
    (style_of_reordered_selectors hbehind {} wideImagePage 3).2.2.1 (by decide +kernel), ?_⟩
  · simp only [StyleRule.LeadsByRank]
    decide +kernel
  · exact (style_of_reordered_selectors reordered_imageRules {} wideImagePage 3).2.2.2.2
      _ List.mem_cons_self rfl (by decide +kernel) sourceProperty "url(\x22w.png\x22)".toList
      "url(\x22n.png\x22)".toList _ (by decide +kernel) (by decide +kernel) (by decide +kernel)

end ResponsiveImages
