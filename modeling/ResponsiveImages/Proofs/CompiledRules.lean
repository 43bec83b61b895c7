import Mathlib.Data.List.Induction
import ResponsiveImages.Proofs.Cascade

/-!
# Compiled Rules

Which image the rules of one element give it, by the clauses they were compiled
from. What a style sheet does with the rules does not matter yet; all that is
asked is which of them hold in a viewport, and what the last of those says.

Without a fallback, an element has the rules of its clauses, in their order
(`rules_compileElement`). A clause contributes one rule or two, since the
duplicate of a rule stands right behind it. So the rules of a clause come before
those of the next one, and what they give together depends on that clause alone
(`lastImage?_rulesOfClause`): the duplicate holds where its rule does and the
display is dense, and it takes over just there.

## Main definitions

* `rulesInEffect`: The rules of an element whose tests hold.
* `lastImage?`: The value the last of some rules gives to the source property.
* `ElementRule.awaiting`: A rule as it is compiled for a lazy loader or without.
* `rulesOfClause`: The rules a clause is compiled to.
* `writtenImages`: The values that declarations give to the source property, as
  they are written.
* `Options.served`, `Clause.served`: What is served under a viewport.
* `Clause.applies`, `Clause.image?`: When a clause applies and what it names.
* `decidingClause?`: The last clause that applies and names an image.

## Theorems

* `media_of_duplicate`: When the duplicate of a rule holds, and its queries.
* `mem_rules`, `mem_clauseRules`: What an element is compiled to.
* `rules_compileElement`: What an element without a fallback is compiled to.
* `getLast?_flatMap`: The last entry of lists put behind each other.
* `writtenImages_suffixedAll`: The images in a duplicate.
* `lastImage?_duplicated`: The image of a rule and its duplicate.
* `lastImage?_rulesOfClause`, `lastImage?_clauseRules`: The image by the clauses.
* `media_of_compiled`: The tests of the rules of an element.
* `rulesInEffect_congr`, `rulesInEffect_of_none_applies`: The rules that hold, by
  the clauses that apply.
-/

namespace ResponsiveImages

open Text

/-! ### What an element is compiled to -/

/-- A value with the suffix put in wherever it can be. -/
def suffixed (suffix value : Text) : Text :=
  (insertBeforeExtension? suffix value).getD value

/-- Declarations with the suffix put into their images wherever it can be. -/
def suffixedAll (suffix : Text) (declarations : List Declaration) : List Declaration :=
  declarations.map fun d => (d.dense? suffix).getD d

/-- The duplicate of a rule. -/
theorem denseVariant?_some {suffix : Text} {r r' : ElementRule}
    (h : r.denseVariant? suffix = some r') :
    r'.media = some (denseMedia r.media) ∧ r'.selector = r.selector
      ∧ r'.declarations = suffixedAll suffix r.declarations := by
  rw [ElementRule.denseVariant?] at h
  by_cases hany : (r.declarations.any fun d => (d.dense? suffix).isSome) = true
  · rw [if_pos hany, Option.some.injEq] at h
    rw [← h]
    exact ⟨rfl, rfl, rfl⟩
  · rw [if_neg hany] at h
    exact absurd h (by simp)

theorem condition?_dense : denseQueries.map condition? = denseFeatures.map fun f => some [f] := by
  rw [denseQueries_eq, List.map_map]
  refine List.map_congr_left fun f hf => ?_
  rw [Function.comp_apply, condition?, (reads_dense hf).2]
  rfl

/-- The media text of a duplicate. On top of a test it reads as five queries, one
    for each family of browsers, that conjoin the features of the test with one
    feature of dense displays. So it holds where the test of the original does and
    one of the tests of dense displays does, and without a test of the original it
    holds where one of those does. -/
theorem media_of_duplicate {suffix : Text} {r r' : ElementRule}
    (h : r.denseVariant? suffix = some r') :
    ∃ media, r'.media = some media
      ∧ denseQueries.map condition? = denseFeatures.map (fun f => some [f])
      ∧ (∀ test fs, r.media = some test → condition? test = some fs →
          (QueryList.read media).queries = denseFeatures.map (fun f => { features := fs ++ [f] })
            ∧ (QueryList.read media).queries.length = 5
            ∧ ∀ v, (QueryList.read media).holds v = true
                ↔ (QueryList.read test).holds v = true
                  ∧ ∃ q ∈ denseQueries, (QueryList.read q).holds v = true)
      ∧ (r.media = none → ∀ v, (QueryList.read media).holds v = true
          ↔ ∃ q ∈ denseQueries, (QueryList.read q).holds v = true) := by
  have hdense : ∀ v, dense v = true ↔ ∃ q ∈ denseQueries, (QueryList.read q).holds v = true :=
    fun v => List.any_eq_true
  refine ⟨denseMedia r.media, (denseVariant?_some h).1, condition?_dense, ?_, ?_⟩
  · intro test fs htest hcondition
    have hqueries := congrArg QueryList.queries (read_denseMedia hcondition)
    have haccepted : ∀ s, r.media = some s → (condition? s).isSome = true := by
      intro s hs
      rw [htest, Option.some.injEq] at hs
      rw [← hs, hcondition]
      rfl
    have hholds := holds_denseMedia r.media haccepted
    rw [htest] at hholds ⊢
    refine ⟨hqueries, ?_, fun v => ?_⟩
    · rw [hqueries, List.length_map]
      rfl
    · rw [hholds v, Bool.and_eq_true, hdense]
      rfl
  · intro hnone v
    -- Without a test of the original nothing is asked on top.
    rw [holds_denseMedia r.media (fun s hs => absurd (hnone.symm.trans hs) (by simp)) v, hnone,
      mediaHolds, Bool.true_and, hdense]

/-- A rule whose test has a word in front, and a comma and parentheses inside. -/
def nestedTestRule : ElementRule where
  media := some " ONLY (min-width: max(1px, 2em))and(color) ".toList
  selector := { id := 3 }
  declarations := [⟨sourceProperty, "url(a.png)".toList⟩]

/-- The queries of its duplicate. -/
theorem media_of_nested_duplicate :
    ∃ r' media, nestedTestRule.denseVariant? "@2x".toList = some r' ∧ r'.media = some media
      ∧ (QueryList.read media).queries.map (fun q => q.features.map Feature.name)
        = denseFeatures.map fun f => ["min-width".toList, "color".toList, f.name] := by
  have hvariant : (nestedTestRule.denseVariant? "@2x".toList).isSome = true := by
    decide +kernel
  rcases Option.isSome_iff_exists.mp hvariant with ⟨r', h⟩
  have hcondition : condition? " ONLY (min-width: max(1px, 2em))and(color) ".toList
      = some [⟨"min-width".toList, some "max(1px, 2em)".toList⟩, ⟨"color".toList, none⟩] := by
    decide +kernel
  rcases media_of_duplicate h with ⟨media, hmedia, _, htests, _⟩
  rcases htests _ _ rfl hcondition with ⟨hqueries, _, _⟩
  refine ⟨r', media, h, hmedia, ?_⟩
  rw [hqueries, List.map_map]
  rfl

/-- The rules a clause is compiled to. -/
def rulesOfClause (id : Nat) (o : Options) (c : Clause) : List ElementRule :=
  if o.retina then c.rule id :: ((c.rule id).denseVariant? o.retinaSuffix).toList
  else [c.rule id]

theorem clauseRules_eq (id : Nat) (clauses : List Clause) (o : Options) :
    clauseRules id clauses o = clauses.flatMap (rulesOfClause id o) := by
  unfold clauseRules rulesOfClause
  by_cases hretina : o.retina = true
  · simp only [if_pos hretina, duplicateForDense, List.flatMap_map]
  · simp only [if_neg hretina, List.map_eq_flatMap]

/-- A rule of the clauses is that of one of them, or its duplicate. -/
theorem mem_clauseRules {id : Nat} {clauses : List Clause} {o : Options} {r : ElementRule}
    (hr : r ∈ clauseRules id clauses o) :
    ∃ c ∈ clauses, r = c.rule id ∨ (c.rule id).denseVariant? o.retinaSuffix = some r := by
  rw [clauseRules_eq] at hr
  rcases List.mem_flatMap.mp hr with ⟨c, hc, hrule⟩
  refine ⟨c, hc, ?_⟩
  unfold rulesOfClause at hrule
  by_cases hretina : o.retina = true
  · rw [if_pos hretina] at hrule
    rcases List.mem_cons.mp hrule with hself | hvariant
    · exact Or.inl hself
    · exact Or.inr (Option.mem_toList.mp hvariant)
  · rw [if_neg hretina] at hrule
    exact Or.inl (List.mem_singleton.mp hrule)

/-- A rule as it is compiled for an element that awaits a lazy loader, or for one
    that does not. -/
def ElementRule.awaiting (lazyLoad : Bool) (r : ElementRule) : ElementRule :=
  if lazyLoad then r.whenLoaded else r

@[simp]
theorem ElementRule.awaiting_media (lazyLoad : Bool) (r : ElementRule) :
    (r.awaiting lazyLoad).media = r.media := by
  cases lazyLoad with
  | false => rfl
  | true => rfl

@[simp]
theorem ElementRule.awaiting_declarations (lazyLoad : Bool) (r : ElementRule) :
    (r.awaiting lazyLoad).declarations = r.declarations := by
  cases lazyLoad with
  | false => rfl
  | true => rfl

/-- An element has the rules of its clauses and its fallback rule, all of which may
    have to await a lazy loader. -/
theorem rules_eq (id : Nat) (clauses : List Clause) (o : Options) :
    (compileElement id clauses o).rules
      = (clauseRules id clauses o ++ fallbackRules id o).map
          (ElementRule.awaiting o.lazyLoad) := by
  simp only [compileElement]
  by_cases hlazy : o.lazyLoad = true
  · rw [if_pos hlazy, hlazy]
    rfl
  · rw [if_neg hlazy, Bool.not_eq_true _ |>.mp hlazy]
    exact (List.map_id _).symm

theorem awaiting_mem_rules {id : Nat} {clauses : List Clause} {o : Options} {r : ElementRule}
    (hr : r ∈ clauseRules id clauses o) :
    r.awaiting o.lazyLoad ∈ (compileElement id clauses o).rules := by
  rw [rules_eq]
  exact List.mem_map_of_mem (List.mem_append_left _ hr)

/-- Without a fallback, an element has the rules of its clauses. -/
theorem rules_compileElement {id : Nat} {clauses : List Clause} {o : Options}
    (hfallback : o.fallback = none) :
    (compileElement id clauses o).rules
      = (clauseRules id clauses o).map (ElementRule.awaiting o.lazyLoad) := by
  rw [rules_eq]
  simp only [fallbackRules, hfallback, List.append_nil]

/-- The selector of a rule that awaits a lazy loader, or does not. -/
theorem ElementRule.awaiting_selector (lazyLoad : Bool) {r : ElementRule}
    (hloaded : r.selector.lazyLoaded = false) :
    (r.awaiting lazyLoad).selector = { r.selector with lazyLoaded := lazyLoad } := by
  cases lazyLoad with
  | false =>
      rcases r with ⟨media, ⟨id, lazyLoaded, fallbackClass⟩, declarations⟩
      simp only at hloaded
      rw [hloaded]
      rfl
  | true => rfl

/-- The selector of the rules of clauses. -/
theorem selector_of_clauseRules {id : Nat} {clauses : List Clause} {o : Options}
    {r : ElementRule} (hr : r ∈ clauseRules id clauses o) : r.selector = { id } := by
  rcases mem_clauseRules hr with ⟨c, _, hself | hvariant⟩
  · rw [hself]
    rfl
  · rw [(denseVariant?_some hvariant).2.1]
    rfl

/-- A compiled rule is one of a clause, or the fallback rule. -/
theorem mem_rules {id : Nat} {clauses : List Clause} {o : Options} {r : ElementRule}
    (hr : r ∈ (compileElement id clauses o).rules) :
    (∃ r' ∈ clauseRules id clauses o, r = r'.awaiting o.lazyLoad
        ∧ r.selector = { id, lazyLoaded := o.lazyLoad })
      ∨ ∃ body, o.fallback = some body
        ∧ r = (fallbackRule id body o.fallbackClass).awaiting o.lazyLoad
        ∧ r.selector
          = { id, lazyLoaded := o.lazyLoad, fallbackClass := some o.fallbackClass } := by
  rw [rules_eq] at hr
  rcases List.mem_map.mp hr with ⟨r', hr', heq⟩
  rcases List.mem_append.mp hr' with hclause | hfallback
  · have hselector := selector_of_clauseRules hclause
    refine Or.inl ⟨r', hclause, heq.symm, ?_⟩
    rw [← heq, ElementRule.awaiting_selector _ (by rw [hselector]), hselector]
  · right
    rw [fallbackRules] at hfallback
    cases hbody : o.fallback with
    | none =>
        rw [hbody] at hfallback
        exact absurd hfallback List.not_mem_nil
    | some body =>
        rw [hbody] at hfallback
        rw [List.mem_singleton.mp hfallback] at heq
        refine ⟨body, rfl, heq.symm, ?_⟩
        rw [← heq, ElementRule.awaiting_selector _ rfl]
        rfl

/-- The selector of every rule compiled for an element without a fallback. -/
theorem selector_of_compiled {id : Nat} {clauses : List Clause} {o : Options}
    (hfallback : o.fallback = none) :
    ∀ r ∈ (compileElement id clauses o).rules, r.selector = { id, lazyLoaded := o.lazyLoad } := by
  intro r hr
  rcases mem_rules hr with ⟨_, _, _, hselector⟩ | ⟨body, hbody, _⟩
  · exact hselector
  · rw [hfallback] at hbody
    exact absurd hbody (by simp)

/-- The tests of the rules of an element are those of its clauses, or ask for a
    dense display on top. -/
theorem media_of_compiled {id : Nat} {clauses : List Clause} {o : Options}
    (hfallback : o.fallback = none) :
    ∀ r ∈ (compileElement id clauses o).rules,
      ∃ c ∈ clauses, r.media = c.mediaTest ∨ r.media = some (denseMedia c.mediaTest) := by
  intro r hr
  rw [rules_compileElement hfallback] at hr
  rcases List.mem_map.mp hr with ⟨r', hr', heq⟩
  rw [← heq, ElementRule.awaiting_media]
  rcases mem_clauseRules hr' with ⟨c, hc, hself | hvariant⟩
  · refine ⟨c, hc, Or.inl ?_⟩
    rw [hself]
    rfl
  · exact ⟨c, hc, Or.inr (denseVariant?_some hvariant).1⟩

/-! ### The images of clauses -/

/-- The values that declarations give to the source property, as they are
    written. -/
def writtenImages (declarations : List Declaration) : List Text :=
  (declarations.filter fun d => eqIgnoreCase d.property sourceProperty).map Declaration.value

namespace Options

/-- Whether an element asks for suffixes and the display is dense. -/
def suffixes (o : Options) (v : Viewport) : Bool :=
  o.retina && dense v

/-- A value as it is served under a viewport. -/
def served (o : Options) (v : Viewport) (value : Text) : Text :=
  if o.suffixes v then suffixed o.retinaSuffix value else value

end Options

namespace Clause

/-- Whether a clause applies in a viewport. -/
def applies (c : Clause) (v : Viewport) : Bool :=
  mediaHolds c.mediaTest v

/-- The last image a clause names. -/
def image? (c : Clause) : Option Text :=
  (writtenImages (readDeclarations c.declarations)).getLast?

/-- The declarations of a clause as they are served under a viewport. -/
def served (c : Clause) (o : Options) (v : Viewport) : List Declaration :=
  if o.suffixes v then suffixedAll o.retinaSuffix (readDeclarations c.declarations)
  else readDeclarations c.declarations

end Clause

/-- The last clause that applies and names an image. -/
def decidingClause? (clauses : List Clause) (v : Viewport) : Option Clause :=
  (clauses.filter fun c => c.applies v && c.image?.isSome).getLast?

theorem dense?_getD (suffix : Text) (d : Declaration) :
    (d.dense? suffix).getD d
      = if eqIgnoreCase d.property sourceProperty then { d with value := suffixed suffix d.value }
        else d := by
  rw [Declaration.dense?]
  by_cases h : eqIgnoreCase d.property sourceProperty = true
  · rw [if_pos h, if_pos h, suffixed]
    cases insertBeforeExtension? suffix d.value with
    | none => rfl
    | some value => rfl
  · rw [if_neg h, if_neg h, Option.getD_none]

/-- Putting the suffix into declarations puts it into their images. -/
theorem writtenImages_suffixedAll (suffix : Text) (declarations : List Declaration) :
    writtenImages (suffixedAll suffix declarations)
      = (writtenImages declarations).map (suffixed suffix) := by
  induction declarations with
  | nil => rfl
  | cons d declarations ih =>
      rw [writtenImages, suffixedAll] at ih ⊢
      rw [List.map_cons, List.filter_cons, dense?_getD, writtenImages, List.filter_cons]
      by_cases h : eqIgnoreCase d.property sourceProperty = true
      · simp only [if_pos h, List.map_cons, ih]
        rfl
      · simp only [if_neg h, ih]
        rfl

/-- Nothing takes the suffix in the declarations of a rule without a duplicate. -/
theorem suffixedAll_of_no_variant {suffix : Text} {r : ElementRule}
    (h : r.denseVariant? suffix = none) : suffixedAll suffix r.declarations = r.declarations := by
  rw [ElementRule.denseVariant?] at h
  by_cases hany : (r.declarations.any fun d => (d.dense? suffix).isSome) = true
  · rw [if_pos hany] at h
    exact absurd h (by simp)
  · refine (List.map_congr_left fun d hd => ?_).trans (List.map_id _)
    cases htakes : d.dense? suffix with
    | none => rfl
    | some d' => exact absurd (List.any_eq_true.mpr ⟨d, hd, by rw [htakes]; rfl⟩) hany

/-- The last entry of lists put behind each other. -/
theorem getLast?_flatMap {α β : Type} (f : α → List β) (g : α → Option β) (l : List α)
    (h : ∀ a ∈ l, (f a).getLast? = g a) : (l.flatMap f).getLast? = (l.filterMap g).getLast? := by
  induction l with
  | nil => rfl
  | cons a l ih =>
      have hrest := ih fun b hb => h b (List.mem_cons_of_mem _ hb)
      rw [List.flatMap_cons, List.getLast?_append, hrest, h a List.mem_cons_self,
        List.filterMap_cons]
      cases g a with
      | none => exact Option.or_none
      | some b => rw [List.getLast?_cons, Option.or_some]

/-- The last value is that of the last entry with a value. -/
theorem getLast?_filterMap_eq_bind {α β : Type} (g : α → Option β) (l : List α) :
    (l.filterMap g).getLast? = ((l.filter fun a => (g a).isSome).getLast?).bind g := by
  -- Seen from the end, the first entry with a value decides.
  induction l using List.reverseRecOn with
  | nil => rfl
  | append_singleton l a ih =>
      rw [List.filterMap_append, List.filter_append, List.getLast?_append, List.getLast?_append,
        ih]
      cases h : g a with
      | none => simp [h]
      | some b => simp [h]

/-! ### The last image -/

/-- The rules of an element whose tests hold. -/
def rulesInEffect (rules : List ElementRule) (v : Viewport) : List ElementRule :=
  rules.filter fun r => mediaHolds r.media v

/-- The value the last of some rules gives to the source property. -/
def lastImage? (rules : List ElementRule) : Option Text :=
  (rules.filterMap fun r => lastValue? sourceProperty (normalize r.declarations)).getLast?

/-- A rule loses to those behind it. -/
theorem lastImage?_cons (r : ElementRule) (rules : List ElementRule) (v : Viewport) :
    lastImage? (rulesInEffect (r :: rules) v)
      = (lastImage? (rulesInEffect rules v)).or
          (if mediaHolds r.media v then lastValue? sourceProperty (normalize r.declarations)
            else none) := by
  rw [rulesInEffect, List.filter_cons]
  by_cases hmedia : mediaHolds r.media v = true
  · rw [if_pos hmedia, if_pos hmedia, lastImage?, List.filterMap_cons]
    cases lastValue? sourceProperty (normalize r.declarations) with
    | none => exact Option.or_none.symm
    | some value =>
        rw [List.getLast?_cons, Option.or_some]
        rfl
  · rw [if_neg hmedia, if_neg hmedia, Option.or_none]
    rfl

theorem lastImage?_nil (v : Viewport) : lastImage? (rulesInEffect [] v) = none := rfl

/-- Awaiting a lazy loader changes neither when rules hold nor what they declare. -/
theorem lastImage?_compiled (id : Nat) (clauses : List Clause) (o : Options)
    (hfallback : o.fallback = none) (v : Viewport) :
    lastImage? (rulesInEffect (compileElement id clauses o).rules v)
      = lastImage? (rulesInEffect (clauseRules id clauses o) v) := by
  rw [rules_compileElement hfallback, rulesInEffect, List.filter_map, lastImage?,
    List.filterMap_map]
  simp only [Function.comp_def, ElementRule.awaiting_media, ElementRule.awaiting_declarations]
  rfl

section

variable {norm : List Declaration → Text → Text} {o : Options} {id : Nat}

/-- What a rule and its duplicate give together. The duplicate holds only where
    the rule does, so it never takes over in a viewport that is not for it. -/
theorem lastImage?_duplicated (suffix : Text) (r : ElementRule)
    (htest : ∀ s, r.media = some s → (condition? s).isSome = true)
    (hnorm : ∀ r' ∈ r :: (r.denseVariant? suffix).toList,
      lastValue? sourceProperty (normalize r'.declarations)
        = (writtenImages r'.declarations).getLast?.map (norm r'.declarations))
    (v : Viewport) :
    lastImage? (rulesInEffect (r :: (r.denseVariant? suffix).toList) v)
      = if mediaHolds r.media v then
          (writtenImages r.declarations).getLast?.map fun value =>
            if dense v then norm (suffixedAll suffix r.declarations) (suffixed suffix value)
            else norm r.declarations value
        else none := by
  have himages := congrArg List.getLast? (writtenImages_suffixedAll suffix r.declarations)
  rw [List.getLast?_map] at himages
  rw [lastImage?_cons, hnorm r List.mem_cons_self]
  cases hvariant : r.denseVariant? suffix with
  | none =>
      -- Nothing takes the suffix, so the image is served as it is written.
      rw [suffixedAll_of_no_variant hvariant] at himages
      rw [Option.toList_none, lastImage?_nil, Option.none_or]
      by_cases hdense : dense v = true
      · simp only [if_pos hdense, suffixedAll_of_no_variant hvariant]
        rw [← Function.comp_def, ← Option.map_map, ← himages]
      · simp only [if_neg hdense]
  | some r' =>
      rcases denseVariant?_some hvariant with ⟨hmedia, _, hdeclarations⟩
      -- The duplicate asks for the test of its rule and for a dense display.
      have hdup : mediaHolds r'.media v = (mediaHolds r.media v && dense v) := by
        rw [hmedia]
        exact holds_denseMedia r.media htest v
      have hvalue := hnorm r' (by
        rw [hvariant, Option.toList_some]
        exact List.mem_cons_of_mem _ List.mem_cons_self)
      rw [hdeclarations, himages, Option.map_map] at hvalue
      rw [Option.toList_some, lastImage?_cons, lastImage?_nil, Option.none_or, hdup,
        hdeclarations, hvalue]
      cases mediaHolds r.media v with
      | false => rfl
      | true =>
          by_cases hdense : dense v = true
          · -- Rule and duplicate name images in the same places, so it takes over.
            simp only [hdense, Bool.and_self, if_true]
            cases (writtenImages r.declarations).getLast? with
            | none => rfl
            | some value => rfl
          · simp only [if_neg hdense, Bool.true_and, Option.none_or]

/-- What the rules of one clause give together. -/
theorem lastImage?_rulesOfClause (c : Clause)
    (htest : ∀ s, c.mediaTest = some s → (condition? s).isSome = true)
    (hnorm : ∀ r ∈ rulesOfClause id o c,
      lastValue? sourceProperty (normalize r.declarations)
        = (writtenImages r.declarations).getLast?.map (norm r.declarations))
    (v : Viewport) :
    lastImage? (rulesInEffect (rulesOfClause id o c) v)
      = if c.applies v then c.image?.map fun value => norm (c.served o v) (o.served v value)
        else none := by
  unfold Options.served Clause.served Options.suffixes
  by_cases hretina : o.retina = true
  · rw [rulesOfClause, if_pos hretina] at hnorm ⊢
    have hboth := lastImage?_duplicated o.retinaSuffix (c.rule id) htest hnorm v
    simp only [hretina, Bool.true_and]
    by_cases hdense : dense v = true
    · simp only [if_pos hdense] at hboth ⊢
      exact hboth
    · simp only [if_neg hdense] at hboth ⊢
      exact hboth
  · rw [rulesOfClause, if_neg hretina] at hnorm ⊢
    rw [lastImage?_cons, lastImage?_nil, Option.none_or, hnorm _ List.mem_cons_self]
    rw [Bool.not_eq_true] at hretina
    simp only [hretina, Bool.false_and, Bool.false_eq_true, if_false]
    rfl

/-- The image by the clauses of the element. -/
theorem lastImage?_clauseRules (clauses : List Clause)
    (htests : ∀ c ∈ clauses, ∀ s, c.mediaTest = some s → (condition? s).isSome = true)
    (hnorm : ∀ r ∈ clauseRules id clauses o,
      lastValue? sourceProperty (normalize r.declarations)
        = (writtenImages r.declarations).getLast?.map (norm r.declarations))
    (v : Viewport) :
    lastImage? (rulesInEffect (clauseRules id clauses o) v)
      = (decidingClause? clauses v).bind fun c =>
          c.image?.map fun value => norm (c.served o v) (o.served v value) := by
  let given (c : Clause) : Option Text :=
    if c.applies v then c.image?.map fun value => norm (c.served o v) (o.served v value) else none
  have hclause : ∀ c ∈ clauses,
      lastImage? (rulesInEffect (rulesOfClause id o c) v) = given c := by
    intro c hc
    refine lastImage?_rulesOfClause c (htests c hc) (fun r hr => hnorm r ?_) v
    rw [clauseRules_eq]
    exact List.mem_flatMap.mpr ⟨c, hc, hr⟩
  have hgiven : ∀ c, (given c).isSome = (c.applies v && c.image?.isSome) := by
    intro c
    by_cases happlies : c.applies v = true
    · simp only [given, if_pos happlies, Option.isSome_map, happlies, Bool.true_and]
    · simp only [given, if_neg happlies, Bool.not_eq_true _ |>.mp happlies, Bool.false_and,
        Option.isSome_none]
  have hlast := getLast?_flatMap _ _ clauses hclause
  rw [getLast?_filterMap_eq_bind, List.filter_congr fun c _ => hgiven c] at hlast
  rw [clauseRules_eq, lastImage?, rulesInEffect, List.filter_flatMap, List.filterMap_flatMap]
  refine hlast.trans ?_
  rw [decidingClause?]
  cases hdeciding : (clauses.filter fun c => c.applies v && c.image?.isSome).getLast? with
  | none => rfl
  | some c =>
      -- The deciding clause applies, or it would not be one.
      have happlies := List.of_mem_filter (List.mem_of_getLast? hdeciding)
      rw [Bool.and_eq_true] at happlies
      simp only [Option.bind_some, given, if_pos happlies.1]

end

section

variable {clauses : List Clause} {o : Options}
  (htests : ∀ c ∈ clauses, ∀ s, c.mediaTest = some s → (condition? s).isSome = true)
  (hfallback : o.fallback = none)

include htests hfallback

/-- Which rules of an element hold depends on which clauses apply and on whether
    the display is dense. -/
theorem rulesInEffect_congr (id : Nat) {v v' : Viewport}
    (happlies : ∀ c ∈ clauses, c.applies v = c.applies v') (hdense : dense v = dense v') :
    rulesInEffect (compileElement id clauses o).rules v
      = rulesInEffect (compileElement id clauses o).rules v' := by
  refine List.filter_congr fun r hr => ?_
  rcases media_of_compiled hfallback r hr with ⟨c, hc, hmedia | hmedia⟩
  · rw [hmedia]
    exact happlies c hc
  · -- A duplicate holds by its clause and by the density of the display.
    have hboth : ∀ v, mediaHolds r.media v = (c.applies v && dense v) := by
      intro v
      rw [hmedia]
      exact holds_denseMedia c.mediaTest (htests c hc) v
    rw [hboth, hboth, happlies c hc, hdense]

/-- Without a clause that applies none of the rules holds. -/
theorem rulesInEffect_of_none_applies (id : Nat) {v : Viewport}
    (hnone : ∀ c ∈ clauses, c.applies v = false) :
    rulesInEffect (compileElement id clauses o).rules v = [] := by
  refine List.filter_eq_nil_iff.mpr fun r hr => ?_
  rcases media_of_compiled hfallback r hr with ⟨c, hc, hmedia | hmedia⟩
  · rw [hmedia, show mediaHolds c.mediaTest v = c.applies v from rfl, hnone c hc]
    decide
  · rw [hmedia]
    rw [show mediaHolds (some (denseMedia c.mediaTest)) v = (c.applies v && dense v) from
      holds_denseMedia c.mediaTest (htests c hc) v, hnone c hc, Bool.false_and]
    decide

end

end ResponsiveImages
