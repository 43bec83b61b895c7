import ResponsiveImages.Live.Start
import ResponsiveImages.Proofs.CompiledRules
import ResponsiveImages.Proofs.SelectorText

/-!
# The Image of an Element

Which image the assembled style sheet gives to an element. The clauses of a
directive say it directly: of all clauses that apply in the viewport and name
an image, the last one wins. The style sheet says it in a roundabout way,
through printed selectors, duplicated rules and the cascade, and the two agree
(`image_of_last_applying_clause`).

The rules every page gets name no image, and those compiled for other elements
do not select this one, since numbers are told apart by their numerals. What is
left are the rules of the element itself. They have one rank, so their order
decides (`sourceValue?_compiled`), and what their order decides is a matter of
the clauses (`lastImage?_clauseRules`).

How values are normalized does not matter. All that is asked of normalization is
that a rule of the element declares an image after it if the rule names one, and
that this image depends on the last one that is named and on what stands next to
it.

## Main definitions

* `IsOther`: What was compiled for some other element, without a fallback.
* `imagesFor`: What style rules give to the source property of a node.

## Theorems

* `baseline_declares_no_image`: The rules every page gets name no image.
* `selects_of_compiled`: Which nodes a compiled rule selects.
* `imagesFor_assembled`, `compiled_of_selects`, `rank_assembled`: Only the rules of
  an element count, and without a fallback they have one rank.
* `sourceValue?_compiled`: The image of an element by its own rules.
* `image_of_last_applying_clause`: The image of an element by its clauses.
-/

namespace ResponsiveImages

open Text

/-- What was compiled for some other element, without a fallback rule. -/
def IsOther (id : Nat) (compiled : CompiledElement) : Prop :=
  ∃ (id' : Nat) (clauses : List Clause) (o : Options),
    id' ≠ id ∧ o.fallback = none ∧ compiled = compileElement id' clauses o

/-- The rules every page gets name no image. -/
theorem baseline_declares_no_image (marker : Text) (live : Bool) :
    ∀ r ∈ baselineRules marker live,
      lastValue? sourceProperty (normalize r.declarations) = none := by
  -- The class of the elements stands in the selectors alone.
  have hbox : ∀ r ∈ baselineRules marker live,
      r.declarations ∈ (baselineRules [] true).map StyleRule.declarations := by
    intro r hr
    cases live with
    | false =>
        rw [List.mem_singleton.mp hr]
        exact List.mem_cons_self
    | true =>
        rcases List.mem_cons.mp hr with hbox | hdriven
        · rw [hbox]
          exact List.mem_cons_self
        · rw [List.mem_singleton.mp hdriven]
          exact List.mem_cons_of_mem _ List.mem_cons_self
  have hnone : ∀ ds ∈ (baselineRules [] true).map StyleRule.declarations,
      ((normalize ds).filter fun d => d.1 == sourceProperty) = [] := by
    decide +kernel
  intro r hr
  rw [lastValue?, hnone _ (hbox r hr), List.map_nil, List.getLast?_nil]

/-- The complex selectors of a compiled rule without a fallback class. -/
theorem complexes_of_compiled {r : ElementRule} {id : Nat} {lazyLoaded : Bool}
    (hr : r.selector = { id, lazyLoaded }) :
    (r.styleRule.selector.splitOn ',').map Complex.read = [elementComplex r.selector] :=
  complexes_styleRule r fun c hc => by
    rw [hr] at hc
    exact absurd hc (by simp)

/-- Which nodes a compiled rule without a fallback class selects. -/
theorem selects_of_compiled {r : ElementRule} {id : Nat} {lazyLoaded : Bool}
    (hr : r.selector = { id, lazyLoaded }) {d : Document} {i : NodeId} {e : Element}
    (he : d.element? i = some e) :
    r.styleRule.selects d i
      = ((!lazyLoaded || e.hasClass lazyLoadedClass)
        && e.attributes.get? Attribute.id == some (decimal id)) := by
  rw [StyleRule.selects, complexes_of_compiled hr, List.any_cons, List.any_nil, Bool.or_false,
    satisfies_elementComplex d i e he, hr]
  simp only [Option.all_none, Bool.and_true]

/-- What style rules give to the source property of a node, in order. -/
def imagesFor (v : Viewport) (d : Document) (i : NodeId) (rules : List StyleRule) : List Text :=
  (rules.filter fun r => mediaHolds r.media v && r.selects d i).filterMap
    fun r => lastValue? sourceProperty (normalize r.declarations)

theorem imagesFor_append (v : Viewport) (d : Document) (i : NodeId)
    (rules rules' : List StyleRule) :
    imagesFor v d i (rules ++ rules') = imagesFor v d i rules ++ imagesFor v d i rules' := by
  rw [imagesFor, List.filter_append, List.filterMap_append]
  rfl

theorem imagesFor_baseline (v : Viewport) (d : Document) (i : NodeId) (marker : Text)
    (live : Bool) : imagesFor v d i (baselineRules marker live) = [] := by
  rw [imagesFor, List.filterMap_eq_nil_iff]
  intro r hr
  exact baseline_declares_no_image marker live r (List.mem_of_mem_filter hr)

section

variable {d : Document} {i : NodeId} {e : Element} {id : Nat}
  (he : d.element? i = some e) (hid : e.attributes.get? Attribute.id = some (decimal id))

include he hid

theorem selects_other {compiled : CompiledElement} (hother : IsOther id compiled) :
    ∀ r ∈ compiled.rules, r.styleRule.selects d i = false := by
  rcases hother with ⟨id', clauses, o, hne, hfallback, heq⟩
  intro r hr
  rw [heq] at hr
  rw [selects_of_compiled (selector_of_compiled hfallback r hr) he, hid]
  -- Different numbers have different numerals.
  have hdecimal : (some (decimal id) == some (decimal id')) = false := by
    rw [beq_eq_false_iff_ne]
    exact fun h => hne (decimal_injective (Option.some.inj h)).symm
  rw [hdecimal, Bool.and_false]

theorem imagesFor_others (v : Viewport) (others : List CompiledElement)
    (hothers : ∀ c ∈ others, IsOther id c) :
    imagesFor v d i (others.flatMap fun c => c.rules.map ElementRule.styleRule) = [] := by
  have hnone : (others.flatMap fun c => c.rules.map ElementRule.styleRule).filter
      (fun r => mediaHolds r.media v && r.selects d i) = [] := by
    rw [List.filter_eq_nil_iff]
    intro r hr
    rcases List.mem_flatMap.mp hr with ⟨c, hc, hrule⟩
    rcases List.mem_map.mp hrule with ⟨er, her, heq⟩
    rw [← heq, selects_other he hid (hothers c hc) er her, Bool.and_false]
    decide
  rw [imagesFor, hnone, List.filterMap_nil]

theorem imagesFor_compiled (v : Viewport) (clauses : List Clause) (o : Options)
    (hfallback : o.fallback = none) :
    (imagesFor v d i
        ((compileElement id clauses o).rules.map ElementRule.styleRule)).getLast?
      = if o.lazyLoad && !e.hasClass lazyLoadedClass then none
        else lastImage? (rulesInEffect (compileElement id clauses o).rules v) := by
  have hselects : ∀ r ∈ (compileElement id clauses o).rules,
      r.styleRule.selects d i = !(o.lazyLoad && !e.hasClass lazyLoadedClass) := by
    intro r hr
    rw [selects_of_compiled (selector_of_compiled hfallback r hr) he, hid, beq_self_eq_true,
      Bool.and_true, Bool.not_and, Bool.not_not]
  rw [imagesFor, List.filter_map, List.filterMap_map]
  rw [List.filter_congr (q := fun r => mediaHolds r.media v
    && !(o.lazyLoad && !e.hasClass lazyLoadedClass)) fun r hr => by
      rw [Function.comp_apply, hselects r hr]
      rfl]
  by_cases hheld : (o.lazyLoad && !e.hasClass lazyLoadedClass) = true
  · -- An element that has not been released is selected by none of its rules.
    rw [if_pos hheld, hheld]
    simp
  · rw [if_neg hheld, Bool.not_eq_true _ |>.mp hheld]
    simp only [Bool.not_false, Bool.and_true]
    rfl

section

variable {before after : List CompiledElement} (clauses : List Clause) {o : Options}
  (hbefore : ∀ c ∈ before, IsOther id c) (hafter : ∀ c ∈ after, IsOther id c)
  (hfallback : o.fallback = none)

include hbefore hafter

/-- Only the rules compiled for an element give it images. -/
theorem imagesFor_assembled (marker : Text) (live : Bool) (v : Viewport) :
    imagesFor v d i
        (Stylesheet.assemble marker live (before ++ compileElement id clauses o :: after)).rules
      = imagesFor v d i ((compileElement id clauses o).rules.map ElementRule.styleRule) := by
  have hothers := imagesFor_others he hid v
  rw [Stylesheet.assemble, List.flatMap_append, List.flatMap_cons, imagesFor_append,
    imagesFor_append, imagesFor_append, imagesFor_baseline, hothers before hbefore,
    hothers after hafter, List.nil_append, List.nil_append, List.append_nil]

/-- A rule that selects an element and names an image was compiled for the
    element. -/
theorem compiled_of_selects {marker : Text} {live : Bool} {r : StyleRule}
    (hr : r ∈ (Stylesheet.assemble marker live
      (before ++ compileElement id clauses o :: after)).rules)
    (hdeclares : (lastValue? sourceProperty (normalize r.declarations)).isSome = true)
    (hselects : r.selects d i = true) :
    ∃ er ∈ (compileElement id clauses o).rules, er.styleRule = r := by
  rcases List.mem_append.mp hr with hbase | helement
  · rw [baseline_declares_no_image marker live r hbase] at hdeclares
    exact absurd hdeclares (by decide)
  rcases List.mem_flatMap.mp helement with ⟨compiled, hcompiled, hrule⟩
  rcases List.mem_map.mp hrule with ⟨er, her, heq⟩
  have hnot : ¬ IsOther id compiled := by
    intro hother
    rw [← heq, selects_other he hid hother er her] at hselects
    exact absurd hselects (by decide)
  rcases List.mem_append.mp hcompiled with hmem | hmem
  · exact absurd (hbefore _ hmem) hnot
  rcases List.mem_cons.mp hmem with hself | hmem
  · exact ⟨er, hself ▸ her, heq⟩
  · exact absurd (hafter _ hmem) hnot

include hfallback

/-- All rules that give an image to an element have one rank. -/
theorem rank_assembled (marker : Text) (live : Bool) :
    ∀ r ∈ (Stylesheet.assemble marker live
        (before ++ compileElement id clauses o :: after)).rules,
      (lastValue? sourceProperty (normalize r.declarations)).isSome = true →
        ∀ c ∈ (r.selector.splitOn ',').map Complex.read, d.satisfies i c = true →
          c.specificity = (elementComplex { id, lazyLoaded := o.lazyLoad }).specificity := by
  intro r hr hdeclares c hc hsatisfies
  have hselects : r.selects d i = true := List.any_eq_true.mpr ⟨c, hc, hsatisfies⟩
  rcases compiled_of_selects he hid clauses hbefore hafter hr hdeclares hselects
    with ⟨er, her, heq⟩
  have hselector := selector_of_compiled hfallback er her
  rw [← heq, complexes_of_compiled hselector, List.mem_singleton, hselector] at hc
  rw [hc]

/-- The image of an element is decided by the rules compiled for it, in their
    order. -/
theorem sourceValue?_compiled (marker : Text) (live : Bool) (v : Viewport) :
    sourceValue?
        (Stylesheet.assemble marker live (before ++ compileElement id clauses o :: after)).own
        v d i
      = if o.lazyLoad && !e.hasClass lazyLoadedClass then none
        else lastImage? (rulesInEffect (compileElement id clauses o).rules v) := by
  have hlast := resolvedProperty?_own _ v d i sourceProperty _
    (rank_assembled he hid clauses hbefore hafter hfallback marker live)
  rw [← imagesFor_compiled he hid v clauses o hfallback,
    ← imagesFor_assembled he hid clauses hbefore hafter marker live v]
  exact hlast

end

end

/-- The image the style sheet gives to an element: it is named by the last clause
    that applies in the viewport and names one, and takes the suffix on dense
    displays. An element that waits for a lazy loader has none. -/
theorem image_of_last_applying_clause (norm : List Declaration → Text → Text) (marker : Text)
    (live : Bool) (before after : List CompiledElement) (id : Nat) (clauses : List Clause)
    (o : Options) (hbefore : ∀ c ∈ before, IsOther id c) (hafter : ∀ c ∈ after, IsOther id c)
    (hfallback : o.fallback = none)
    (htests : ∀ c ∈ clauses, ∀ s, c.mediaTest = some s → (condition? s).isSome = true)
    (hnorm : ∀ r ∈ (compileElement id clauses o).rules,
      lastValue? sourceProperty (normalize r.declarations)
        = (writtenImages r.declarations).getLast?.map (norm r.declarations))
    (v : Viewport) (d : Document) (i : NodeId) (e : Element) (he : d.element? i = some e)
    (hid : e.attributes.get? Attribute.id = some (decimal id)) :
    resolvedProperty?
        (Stylesheet.assemble marker live (before ++ compileElement id clauses o :: after)).own
        v d i sourceProperty
      = if o.lazyLoad && !e.hasClass lazyLoadedClass then none
        else (decidingClause? clauses v).bind fun c =>
          c.image?.map fun value => norm (c.served o v) (o.served v value) := by
  have hnorm' : ∀ r ∈ clauseRules id clauses o,
      lastValue? sourceProperty (normalize r.declarations)
        = (writtenImages r.declarations).getLast?.map (norm r.declarations) := by
    intro r hr
    have hcompiled : r.awaiting o.lazyLoad ∈ (compileElement id clauses o).rules := by
      rw [rules_compileElement hfallback]
      exact List.mem_map_of_mem hr
    have hawaiting := hnorm _ hcompiled
    rw [ElementRule.awaiting_declarations] at hawaiting
    exact hawaiting
  -- Forget the style sheet, then the rules.
  have hcompiled := sourceValue?_compiled he hid clauses hbefore hafter hfallback marker live v
  rw [lastImage?_compiled id clauses o hfallback, lastImage?_clauseRules clauses htests hnorm' v]
    at hcompiled
  exact hcompiled

/-- The normal form of an image in a rule of its own. -/
def normalImage (value : Text) : Text :=
  (lastValue? sourceProperty (normalize [⟨sourceProperty, value⟩])).getD value

/-- Three clauses, the last of which applies nowhere. -/
def sampleClauses : List Clause := [
  ⟨none, "src: url(a.png)".toList⟩,
  ⟨some "(color)".toList, "src: url(b.png); width: 50%".toList⟩,
  ⟨some "(monochrome)".toList, "src: url(c.png)".toList⟩]

/-- The options of the sample. -/
def sampleOptions : Options where
  retina := true
  lazyLoad := true

/-- An image that a lazy loader has released. -/
def sampleImage : Element where
  tag := imageTag
  attributes := [(Attribute.id, decimal 7), ("class".toList, "hero lazy-loaded".toList)]

/-- The sample on a page with a neighbour. -/
theorem image_of_released_sample :
    resolvedProperty?
        (Stylesheet.assemble "rwdimage".toList true
          ([compileElement 6 sampleClauses {}]
            ++ compileElement 7 sampleClauses sampleOptions :: [])).own
        {} (Document.ofTrees none [.element sampleImage []]) 1 sourceProperty
      = some (normalImage (sampleOptions.served {} "url(b.png)".toList)) := by
  have hothers : ∀ c ∈ [compileElement 6 sampleClauses {}], IsOther 7 c := by
    intro c hc
    exact ⟨6, sampleClauses, {}, by decide, rfl, List.mem_singleton.mp hc⟩
  have htests : ∀ c ∈ sampleClauses, ∀ s, c.mediaTest = some s →
      (condition? s).isSome = true := by
    have hall : ∀ c ∈ sampleClauses, c.mediaTest.all fun s => (condition? s).isSome := by
      decide +kernel
    intro c hc s hs
    have htest := hall c hc
    rw [hs] at htest
    exact htest
  have hnorm : ∀ r ∈ (compileElement 7 sampleClauses sampleOptions).rules,
      lastValue? sourceProperty (normalize r.declarations)
        = (writtenImages r.declarations).getLast?.map ((fun _ => normalImage) r.declarations) := by
    decide +kernel
  have himage := image_of_last_applying_clause (fun _ => normalImage) "rwdimage".toList true
    [compileElement 6 sampleClauses {}] [] 7 sampleClauses sampleOptions hothers
    (fun c hc => absurd hc List.not_mem_nil) rfl htests hnorm {}
    (Document.ofTrees none [.element sampleImage []]) 1 sampleImage (by decide +kernel)
    (by decide +kernel)
  have hdeciding : decidingClause? sampleClauses {}
      = some ⟨some "(color)".toList, "src: url(b.png); width: 50%".toList⟩ := by
    decide +kernel
  have hwritten : Clause.image? ⟨some "(color)".toList, "src: url(b.png); width: 50%".toList⟩
      = some "url(b.png)".toList := by
    decide +kernel
  have hreleased : (sampleOptions.lazyLoad && !sampleImage.hasClass lazyLoadedClass) = false := by
    decide +kernel
  rw [himage, hreleased, hdeciding, Option.bind_some, hwritten]
  rfl

end ResponsiveImages
