import Mathlib.Data.List.Sort
import ResponsiveImages.Stylesheet.Computed
import ResponsiveImages.Proofs.QueryText

/-!
# The Winning Declaration

Which value a property has after the cascade. Entering declarations one after
the other leaves the last of them (`get?_putAll`), so what counts is the order
the rules are entered in.

The cascade sorts by rank and place. Rules of one rank that are given by
ascending place are in order already, and a sort does not move them past each
other, whatever else is sorted with them (`filter_mergeSort`). If all rules
that declare a property have one rank, the value is therefore the last one by
place, and the sort can be forgotten (`resolvedProperty?_own`).

If one of the rules outranks all others that declare the property, places do not
matter at all, since the sort puts that rule behind the others
(`get?_cascade_of_strongest`).

What a rule does not select it does not touch. Taking such rules out moves the
places of those behind them, but a cascade asks only which of two places comes
first, so rules may be numbered anew (`cascade_renumbered`) and the style is that
of the rules that apply (`computedStyle_own_congr`).

## Main definitions

* `lastValue?`: The last value that declarations give to a property.
* `MatchedRule.Placed`: Rules that are given by ascending place.
* `StyleRule.selects`: Whether one of the selectors of a rule matches a node.
* `Stylesheet.matched`: The rules that take part in the cascade for a node.
* `StyleRule.EntersAs`: How a rule takes part in the cascade for a node.

## Theorems

* `get?_putAll`: The value after declarations have been entered.
* `notAbove_trans`, `notAbove_total`: The order of the cascade.
* `filter_mergeSort`: Rules in order are not moved by a sort.
* `get?_cascade`: The value after rules in order have been entered.
* `get?_cascade_of_strongest`: The value if one rule outranks the others.
* `cascade_renumbered`: Only the order of places counts.
* `isSome_matched?`: When a rule takes part in the cascade.
* `sourceOrder_own`: The rules of a style sheet by place.
* `filterMap_own`, `values_matched`: What the rules of a style sheet enter.
* `mem_matched`, `exists_matched`: Where the rules of a cascade come from.
* `resolvedProperty?_own`: The value of a property that one rank declares.
* `computedStyle_own_congr`: The style is that of the rules that apply.
-/

namespace ResponsiveImages

open Text

/-- The last value that declarations give to a property. -/
def lastValue? (property : Text) (declarations : List (Text × Text)) : Option Text :=
  ((declarations.filter fun d => d.1 == property).map Prod.snd).getLast?

namespace Style

theorem get?_cons (p value : Text) (rest : Style) (q : Text) :
    get? ((p, value) :: rest) q = if p = q then some value else get? rest q := by
  rw [get?, List.lookup_cons]
  by_cases h : p = q
  · rw [if_pos h, h, beq_self_eq_true]
  · rw [if_neg h, beq_false_of_ne (Ne.symm h)]
    rfl

theorem get?_put (style : Style) (p value q : Text) :
    (style.put p value).get? q = if p = q then some value else style.get? q := by
  induction style with
  | nil => rw [put, get?_cons]
  | cons entry rest ih =>
      rcases entry with ⟨n, v⟩
      by_cases hname : n = p
      · rw [put, if_pos hname, get?_cons, get?_cons, hname]
        by_cases h : p = q
        · rw [if_pos h, if_pos h]
        · rw [if_neg h, if_neg h, if_neg h]
      · rw [put, if_neg hname, get?_cons, get?_cons, ih]
        by_cases h : p = q
        · rw [if_pos h, if_pos h, if_neg (h ▸ hname)]
        · rw [if_neg h, if_neg h]

/-- The value after declarations have been entered. -/
theorem get?_putAll (declarations : List (Text × Text)) (q : Text) :
    ∀ style : Style,
      (style.putAll declarations).get? q = (lastValue? q declarations).or (style.get? q) := by
  induction declarations with
  | nil => intro style; rfl
  | cons entry rest ih =>
      intro style
      -- What the rest declares is entered later and wins.
      have hrest := ih (style.put entry.1 entry.2)
      rw [putAll] at hrest ⊢
      rw [List.foldl_cons, hrest, get?_put, lastValue?, lastValue?, List.filter_cons]
      by_cases h : entry.1 = q
      · rw [if_pos h, if_pos (by simpa using h), List.map_cons, List.getLast?_cons]
        cases ((rest.filter fun d => d.1 == q).map Prod.snd).getLast? with
        | none => rfl
        | some value => rfl
      · rw [if_neg h, if_neg (by simpa using h)]

end Style

namespace MatchedRule

/-- The order of the cascade as one comparison of numbers in three digits. -/
theorem notAbove_iff (a b : MatchedRule) :
    a.notAbove b = true ↔
      a.specificity.conditions < b.specificity.conditions
        ∨ a.specificity.conditions = b.specificity.conditions
          ∧ (a.specificity.tags < b.specificity.tags
            ∨ a.specificity.tags = b.specificity.tags ∧ a.sourceOrder ≤ b.sourceOrder) := by
  unfold notAbove
  by_cases hconditions : a.specificity.conditions = b.specificity.conditions
  · rw [if_neg (not_not.mpr hconditions)]
    by_cases htags : a.specificity.tags = b.specificity.tags
    · rw [if_neg (not_not.mpr htags), decide_eq_true_eq]
      omega
    · rw [if_pos htags, decide_eq_true_eq]
      omega
  · rw [if_pos hconditions, decide_eq_true_eq]
    omega

theorem notAbove_trans (a b c : MatchedRule) (hab : a.notAbove b = true)
    (hbc : b.notAbove c = true) : a.notAbove c = true := by
  rw [notAbove_iff] at hab hbc ⊢
  omega

theorem notAbove_total (a b : MatchedRule) : (a.notAbove b || b.notAbove a) = true := by
  rw [Bool.or_eq_true, notAbove_iff, notAbove_iff]
  omega

end MatchedRule

/-- Rules that are in order are not moved past each other by a sort, whatever else
    is sorted with them. -/
theorem filter_mergeSort (p : MatchedRule → Bool) (rules : List MatchedRule)
    (hp : (rules.filter p).Pairwise fun a b => a.notAbove b = true) :
    (rules.mergeSort MatchedRule.notAbove).filter p = rules.filter p := by
  -- Rules in order stay in order, and a sort neither adds nor loses any.
  have hperm := List.mergeSort_perm rules MatchedRule.notAbove
  have hsub := List.sublist_mergeSort MatchedRule.notAbove_trans MatchedRule.notAbove_total hp
    (List.filter_sublist (p := p) (l := rules))
  have hfilter := hsub.filter p
  rw [List.filter_filter] at hfilter
  simp only [Bool.and_self] at hfilter
  exact (hfilter.eq_of_length (hperm.filter p).length_eq.symm).symm

/-- The value after the rules of a cascade have been entered in some order. -/
theorem get?_enterAll (q : Text) (rules : List MatchedRule) :
    ∀ style : Style,
      (rules.foldl (fun s r => s.putAll r.declarations) style).get? q
        = ((rules.filterMap fun r => lastValue? q r.declarations).getLast?).or (style.get? q) := by
  induction rules with
  | nil => intro style; rfl
  | cons r rules ih =>
      intro style
      rw [List.foldl_cons, ih, Style.get?_putAll, List.filterMap_cons]
      cases lastValue? q r.declarations with
      | none => rw [Option.none_or]
      | some value =>
          rw [Option.some_or, List.getLast?_cons]
          cases (rules.filterMap fun r => lastValue? q r.declarations).getLast? with
          | none => rfl
          | some later => rfl

/-- The value of a property if the rules that declare it are in order. -/
theorem get?_cascade (q : Text) (rules : List MatchedRule)
    (hordered : (rules.filter fun r => (lastValue? q r.declarations).isSome).Pairwise
      fun a b => a.notAbove b = true) :
    (cascade rules).get? q
      = (rules.filterMap fun r => lastValue? q r.declarations).getLast? := by
  -- Only the rules that declare the property have a say.
  have hdeclaring : ∀ rules : List MatchedRule,
      (rules.filterMap fun r => lastValue? q r.declarations)
        = (rules.filter fun r => (lastValue? q r.declarations).isSome).filterMap
            fun r => lastValue? q r.declarations := by
    intro rules
    rw [List.filterMap_filter]
    refine List.filterMap_congr fun r _ => ?_
    cases lastValue? q r.declarations with
    | none => rfl
    | some value => rfl
  rw [cascade, get?_enterAll, hdeclaring, filter_mergeSort _ rules hordered, ← hdeclaring,
    show Style.get? [] q = none from rfl, Option.or_none]

/-- The value of a property if one of the rules comes after all others that give it
    a value of their own. -/
theorem get?_cascade_of_strongest (q : Text) {rules : List MatchedRule} {top : MatchedRule}
    (htop : top ∈ rules) {value : Text} (hvalue : lastValue? q top.declarations = some value)
    (hothers : ∀ m ∈ rules, (∀ other ∈ lastValue? q m.declarations, other = value)
      ∨ top.notAbove m = false) :
    (cascade rules).get? q = some value := by
  have hperm := List.mergeSort_perm rules MatchedRule.notAbove
  have hsorted := List.pairwise_mergeSort MatchedRule.notAbove_trans MatchedRule.notAbove_total
    rules
  rcases List.append_of_mem (hperm.mem_iff.mpr htop) with ⟨weaker, rest, hsplit⟩
  rw [hsplit, List.pairwise_append, List.pairwise_cons] at hsorted
  -- Behind the strongest rule no other value is given.
  have hrest : ∀ other ∈ rest.filterMap fun r => lastValue? q r.declarations, other = value := by
    intro other hother
    rcases List.mem_filterMap.mp hother with ⟨m, hm, hgives⟩
    have hmem : m ∈ rules := by
      rw [← hperm.mem_iff, hsplit]
      exact List.mem_append_right _ (List.mem_cons_of_mem _ hm)
    rcases hothers m hmem with hsame | hbelow
    · exact hsame other hgives
    · rw [hsorted.2.1.1 m hm] at hbelow
      exact absurd hbelow (by decide)
  have hlast : ∀ values : List Text, (∀ other ∈ values, other = value) →
      (value :: values).getLast? = some value := by
    intro values hvalues
    rw [List.getLast?_cons]
    cases hend : values.getLast? with
    | none => rfl
    | some other => exact congrArg some (hvalues other (List.mem_of_getLast? hend))
  rw [cascade, get?_enterAll, hsplit, List.filterMap_append, List.filterMap_cons, hvalue,
    List.getLast?_append, hlast _ hrest]
  rfl

namespace MatchedRule

/-- Rules that are given by ascending place. -/
def Placed (rules : List MatchedRule) : Prop :=
  rules.Pairwise fun a b => a.sourceOrder < b.sourceOrder

/-- What a rule brings into a cascade apart from its place. -/
def content (m : MatchedRule) : Specificity × List (Text × Text) :=
  (m.specificity, m.declarations)

/-- The rule that brings given contents from a given place. -/
def ofContent (place : Nat) (content : Specificity × List (Text × Text)) : MatchedRule :=
  ⟨content.1, content.2, place⟩

end MatchedRule

/-- Rules that are given by ascending place may be numbered anew: only the order of
    their places counts. -/
theorem cascade_renumbered {rules : List MatchedRule} (hplaced : MatchedRule.Placed rules) :
    cascade rules = cascade ((rules.map MatchedRule.content).mapIdx MatchedRule.ofContent) := by
  let renumber (entry : MatchedRule × Nat) := MatchedRule.ofContent entry.2 entry.1.content
  have horder : ∀ a ∈ rules.zipIdx, ∀ b ∈ rules.zipIdx,
      a.1.notAbove b.1 = (renumber a).notAbove (renumber b) := by
    intro a ha b hb
    rw [List.mem_zipIdx_iff_getElem?, List.getElem?_eq_some_iff] at ha hb
    rcases ha with ⟨hi, ha⟩
    rcases hb with ⟨hj, hb⟩
    have hascending := List.pairwise_iff_getElem.mp hplaced
    -- Places compare as positions do.
    have hplaces : a.1.sourceOrder ≤ b.1.sourceOrder ↔ a.2 ≤ b.2 := by
      rw [← ha, ← hb]
      rcases Nat.lt_trichotomy a.2 b.2 with hlt | heq | hgt
      · have := hascending _ _ hi hj hlt
        omega
      · simp only [heq]
        omega
      · have := hascending _ _ hj hi hgt
        omega
    rw [Bool.eq_iff_iff, MatchedRule.notAbove_iff, MatchedRule.notAbove_iff, hplaces]
    rfl
  have hrules : rules = rules.zipIdx.map Prod.fst := (List.zipIdx_map_fst 0 rules).symm
  have hrenumbered : (rules.map MatchedRule.content).mapIdx MatchedRule.ofContent
      = rules.zipIdx.map renumber := by
    rw [List.mapIdx_eq_zipIdx_map, List.zipIdx_map, List.map_map]
    rfl
  -- Both sorts move the same entries to the same places.
  have hsorted : rules.mergeSort MatchedRule.notAbove
      = (rules.zipIdx.mergeSort fun a b => a.1.notAbove b.1).map Prod.fst := by
    rw [List.map_mergeSort (s := MatchedRule.notAbove) fun a _ b _ => rfl, ← hrules]
  rw [hrenumbered, cascade, cascade, hsorted, ← List.map_mergeSort horder, List.foldl_map,
    List.foldl_map]
  rfl

/-! ### Style sheets -/

/-- Whether one of the selectors of a rule matches a node. -/
def StyleRule.selects (r : StyleRule) (d : Document) (i : NodeId) : Bool :=
  ((r.selector.splitOn ',').map Complex.read).any fun c => d.satisfies i c

theorem active_ofRule (place : Nat) (r : StyleRule) (v : Viewport) :
    (OwnedRule.ofRule place r).active v = mediaHolds r.media v := by
  rcases r with ⟨selector, declarations, media⟩
  cases media with
  | none => rfl
  | some m => rfl

/-- A rule takes part in the cascade if one of its selectors matches, with its
    declarations in any case. -/
theorem matched?_ofRule (place : Nat) (r : StyleRule) (d : Document) (i : NodeId) :
    ((OwnedRule.ofRule place r).matched? d i).map MatchedRule.declarations
      = if r.selects d i then some (normalize r.declarations) else none := by
  rw [OwnedRule.matched?, OwnedRule.ofRule, StyleRule.selects, Option.map_map]
  cases h : ((r.selector.splitOn ',').map Complex.read).find? fun c => d.satisfies i c with
  | none =>
      rw [List.find?_eq_none] at h
      rw [if_neg (by rw [List.any_eq_false.mpr h]; decide)]
      rfl
  | some c =>
      have hc : d.satisfies i c = true := by simpa using List.find?_some h
      rw [if_pos (List.any_eq_true.mpr ⟨c, List.mem_of_find?_eq_some h, hc⟩)]
      rfl

/-- A rule takes part in the cascade if one of its selectors matches. -/
theorem isSome_matched? (place : Nat) (r : StyleRule) (d : Document) (i : NodeId) :
    ((OwnedRule.ofRule place r).matched? d i).isSome = r.selects d i := by
  have hdeclarations := congrArg Option.isSome (matched?_ofRule place r d i)
  rw [Option.isSome_map] at hdeclarations
  rw [hdeclarations]
  cases r.selects d i with
  | false => rfl
  | true => rfl

theorem place_of_matched? {r : OwnedRule} {d : Document} {i : NodeId} {m : MatchedRule}
    (h : r.matched? d i = some m) : m.sourceOrder = r.sourceOrder := by
  rcases Option.map_eq_some_iff.mp h with ⟨c, _, heq⟩
  rw [← heq]

/-- The rules of a style sheet are read with ascending places. -/
theorem sourceOrder_own (s : Stylesheet) :
    s.own.Pairwise fun a b => a.sourceOrder < b.sourceOrder := by
  rw [Stylesheet.own, List.pairwise_iff_getElem]
  intro i j hi hj hij
  simp only [List.getElem_mapIdx]
  exact hij

/-- The rules of a style sheet that take part in the cascade for a node. -/
def Stylesheet.matched (s : Stylesheet) (v : Viewport) (d : Document) (i : NodeId) :
    List MatchedRule :=
  (s.own.filter fun r => r.active v).filterMap fun r => r.matched? d i

theorem place_matched (s : Stylesheet) (v : Viewport) (d : Document) (i : NodeId) :
    MatchedRule.Placed (s.matched v d i) := by
  refine ((sourceOrder_own s).filter _).filterMap _ fun a b hab m hm m' hm' => ?_
  rw [place_of_matched? hm, place_of_matched? hm']
  exact hab

/-- How a rule takes part in the cascade for a node: with its declarations, and with
    the rank of one of its selectors that matches. -/
structure StyleRule.EntersAs (r : StyleRule) (d : Document) (i : NodeId) (m : MatchedRule) :
    Prop where
  declarations : m.declarations = normalize r.declarations
  rank : ∃ c ∈ (r.selector.splitOn ',').map Complex.read,
    d.satisfies i c = true ∧ m.specificity = c.specificity

theorem StyleRule.EntersAs.selects {r : StyleRule} {d : Document} {i : NodeId}
    {m : MatchedRule} (h : r.EntersAs d i m) : r.selects d i = true := by
  rcases h.rank with ⟨c, hc, hsatisfies, _⟩
  exact List.any_eq_true.mpr ⟨c, hc, hsatisfies⟩

theorem entersAs_of_matched? {place : Nat} {r : StyleRule} {d : Document} {i : NodeId}
    {m : MatchedRule} (h : (OwnedRule.ofRule place r).matched? d i = some m) :
    r.EntersAs d i m := by
  rcases Option.map_eq_some_iff.mp h with ⟨c, hfind, heq⟩
  rw [← heq]
  exact ⟨rfl, c, List.mem_of_find?_eq_some hfind, by simpa using List.find?_some hfind, rfl⟩

/-- A rule that takes part in the cascade is one of the style sheet. -/
theorem mem_matched {s : Stylesheet} {v : Viewport} {d : Document} {i : NodeId}
    {m : MatchedRule} (hm : m ∈ s.matched v d i) : ∃ r ∈ s.rules, r.EntersAs d i m := by
  rcases List.mem_filterMap.mp hm with ⟨owned, howned, hmatch⟩
  rcases List.mem_mapIdx.mp (List.mem_of_mem_filter howned) with ⟨place, hplace, heq⟩
  rw [← heq] at hmatch
  exact ⟨_, List.getElem_mem hplace, entersAs_of_matched? hmatch⟩

/-- A rule of the style sheet takes part in the cascade if its query holds and one of
    its selectors matches. -/
theorem exists_matched {s : Stylesheet} {v : Viewport} {d : Document} {i : NodeId}
    {r : StyleRule} (hr : r ∈ s.rules) (hmedia : mediaHolds r.media v = true)
    (hselects : r.selects d i = true) : ∃ m ∈ s.matched v d i, r.EntersAs d i m := by
  rcases List.getElem_of_mem hr with ⟨place, hplace, heq⟩
  rw [← isSome_matched? place] at hselects
  rcases Option.isSome_iff_exists.mp hselects with ⟨m, hm⟩
  refine ⟨m, List.mem_filterMap.mpr ⟨_, List.mem_filter.mpr ⟨?_, ?_⟩, hm⟩, entersAs_of_matched? hm⟩
  · exact List.mem_mapIdx.mpr ⟨place, hplace, by rw [heq]⟩
  · rw [active_ofRule, hmedia]

theorem rank_matched (s : Stylesheet) (v : Viewport) (d : Document) (i : NodeId) (q : Text)
    (rank : Specificity)
    (hrank : ∀ r ∈ s.rules, (lastValue? q (normalize r.declarations)).isSome = true →
      ∀ c ∈ (r.selector.splitOn ',').map Complex.read, d.satisfies i c = true →
        c.specificity = rank) :
    ∀ m ∈ s.matched v d i, (lastValue? q m.declarations).isSome = true →
      m.specificity = rank := by
  intro m hm hdeclares
  rcases mem_matched hm with ⟨r, hr, henters⟩
  rcases henters.rank with ⟨c, hc, hsatisfies, hspecificity⟩
  rw [henters.declarations] at hdeclares
  rw [hspecificity, hrank r hr hdeclares c hc hsatisfies]

/-- What is asked of the rules of a style sheet once they have been read, if it has
    nothing to do with their places, can be asked before. -/
theorem filterMap_own {β : Type} {f : OwnedRule → Option β} {g : StyleRule → Option β}
    (h : ∀ place r, f (OwnedRule.ofRule place r) = g r) (s : Stylesheet) :
    s.own.filterMap f = s.rules.filterMap g := by
  -- Forgetting the places leaves the rules.
  have hplaces := List.filterMap_map (f := Prod.fst) (g := g) (l := s.rules.zipIdx)
  rw [List.zipIdx_map_fst] at hplaces
  rw [hplaces, Stylesheet.own, List.mapIdx_eq_zipIdx_map, List.filterMap_map]
  exact List.filterMap_congr fun entry _ => h entry.2 entry.1

/-- The value that a rule enters for a node, if it is active and matches. -/
theorem value_ofRule (v : Viewport) (d : Document) (i : NodeId) (q : Text) (place : Nat)
    (r : StyleRule) :
    (if (OwnedRule.ofRule place r).active v then
        ((OwnedRule.ofRule place r).matched? d i).bind fun m => lastValue? q m.declarations
      else none)
      = if mediaHolds r.media v && r.selects d i then lastValue? q (normalize r.declarations)
        else none := by
  have hmatched : (((OwnedRule.ofRule place r).matched? d i).bind
      fun m => lastValue? q m.declarations)
        = (((OwnedRule.ofRule place r).matched? d i).map MatchedRule.declarations).bind
            (lastValue? q) := by
    rw [Option.bind_map]
    rfl
  rw [active_ofRule, hmatched, matched?_ofRule]
  by_cases hmedia : mediaHolds r.media v = true
  · by_cases hselects : r.selects d i = true
    · rw [if_pos hmedia, if_pos hselects, if_pos (by rw [hmedia, hselects]; rfl),
        Option.bind_some]
    · rw [if_pos hmedia, if_neg hselects, if_neg (by simp [hselects]), Option.bind_none]
  · rw [if_neg hmedia, if_neg (by simp [hmedia])]

/-- The values that the rules of a style sheet enter, in order. -/
theorem values_matched (s : Stylesheet) (v : Viewport) (d : Document) (i : NodeId) (q : Text) :
    ((s.matched v d i).filterMap fun m => lastValue? q m.declarations)
      = (s.rules.filter fun r => mediaHolds r.media v && r.selects d i).filterMap
          fun r => lastValue? q (normalize r.declarations) := by
  rw [Stylesheet.matched, List.filterMap_filterMap, List.filterMap_filter, List.filterMap_filter]
  exact filterMap_own (value_ofRule v d i q) s

/-- The value of a property for a node, if all the rules that declare it match the
    node with selectors of one rank: the value of the last rule that applies. -/
theorem resolvedProperty?_own (s : Stylesheet) (v : Viewport) (d : Document) (i : NodeId)
    (q : Text) (rank : Specificity)
    (hrank : ∀ r ∈ s.rules, (lastValue? q (normalize r.declarations)).isSome = true →
      ∀ c ∈ (r.selector.splitOn ',').map Complex.read, d.satisfies i c = true →
        c.specificity = rank) :
    resolvedProperty? s.own v d i q
      = ((s.rules.filter fun r => mediaHolds r.media v && r.selects d i).filterMap
          fun r => lastValue? q (normalize r.declarations)).getLast? := by
  have hordered : ((s.matched v d i).filter
      fun m => (lastValue? q m.declarations).isSome).Pairwise
        fun a b => a.notAbove b = true := by
    -- With one rank for all of them, the places decide.
    refine ((place_matched s v d i).filter _).imp_of_mem fun {a b} ha hb hab => ?_
    rcases List.mem_filter.mp ha with ⟨ha, hdeclaresA⟩
    rcases List.mem_filter.mp hb with ⟨hb, hdeclaresB⟩
    rw [MatchedRule.notAbove_iff, rank_matched s v d i q rank hrank a ha hdeclaresA,
      rank_matched s v d i q rank hrank b hb hdeclaresB]
    exact Or.inr ⟨rfl, Or.inr ⟨rfl, Nat.le_of_lt hab⟩⟩
  rw [← values_matched]
  exact get?_cascade q _ hordered

/-- What a rule brings into the cascade for a node, if it is active and matches. -/
theorem content_ofRule (v : Viewport) (d : Document) (i : NodeId) (place : Nat)
    (r : StyleRule) :
    (if (OwnedRule.ofRule place r).active v then
        ((OwnedRule.ofRule place r).matched? d i).map MatchedRule.content
      else none)
      = if mediaHolds r.media v && r.selects d i then
          ((OwnedRule.ofRule 0 r).matched? d i).map MatchedRule.content
        else none := by
  -- The place is no part of the content.
  have hplace : ((OwnedRule.ofRule place r).matched? d i).map MatchedRule.content
      = ((OwnedRule.ofRule 0 r).matched? d i).map MatchedRule.content := by
    rw [OwnedRule.matched?, OwnedRule.matched?, Option.map_map, Option.map_map]
    rfl
  rw [active_ofRule, hplace]
  by_cases hselects : r.selects d i = true
  · rw [hselects, Bool.and_true]
  · have hnone : (OwnedRule.ofRule 0 r).matched? d i = none := by
      rw [← isSome_matched? 0 r, Option.not_isSome_iff_eq_none] at hselects
      exact hselects
    rw [hnone, Option.map_none, ite_self, ite_self]

/-- What the rules of a style sheet bring into the cascade for a node, in order. -/
theorem content_matched (s : Stylesheet) (v : Viewport) (d : Document) (i : NodeId) :
    (s.matched v d i).map MatchedRule.content
      = (s.rules.filter fun r => mediaHolds r.media v && r.selects d i).filterMap
          fun r => ((OwnedRule.ofRule 0 r).matched? d i).map MatchedRule.content := by
  rw [Stylesheet.matched, List.map_filterMap, List.filterMap_filter, List.filterMap_filter]
  exact filterMap_own (content_ofRule v d i) s

/-- The style of a node is that of the rules that apply to it, in their order. -/
theorem computedStyle_own_congr {s s' : Stylesheet} {v : Viewport} {d : Document} {i : NodeId}
    (h : (s.rules.filter fun r => mediaHolds r.media v && r.selects d i)
      = s'.rules.filter fun r => mediaHolds r.media v && r.selects d i) :
    computedStyle s.own v d i = computedStyle s'.own v d i := by
  have hcontent : (s.matched v d i).map MatchedRule.content
      = (s'.matched v d i).map MatchedRule.content := by
    rw [content_matched, content_matched, h]
  show cascade (s.matched v d i) = cascade (s'.matched v d i)
  rw [cascade_renumbered (place_matched s v d i), cascade_renumbered (place_matched s' v d i),
    hcontent]

end ResponsiveImages
