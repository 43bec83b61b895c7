import ResponsiveImages.Proofs.ElementStyle

/-!
# Precedence of the Fallback Rule

A browser without media queries is told by a class above the images, and there
the fallback image has to win whatever the clauses of the element say. The order
of the rules is no help. A sort by place would be upset by the next rule that is
put behind the fallback, and the fallback rule stands under no query that could
keep the others away.

What makes it win is the class itself. It stands in the selector of the fallback
rule on top of all that stands in the selectors of the clauses, so the fallback
rule has one condition more than any other rule that gives the element an image,
with a lazy loader and without (`conditions_of_selector`). Duplicates for dense
displays take the selector of their original and do not outrank it either.

Where no element above carries the class, the rule selects nothing. Taking it out
of the style sheet moves the rules behind it, which no cascade can tell.

How values are normalized does not matter here either, if the fallback rule keeps
its declarations in place.

## Main definitions

* `NormalizedInPlace`: Declarations that keep their places in normal form.
* `normalizedImage?`: The image that declarations name last, in normal form.

## Theorems

* `lastValue?_normalize`, `isSome_normalizedImage?`: The image of declarations that
  keep their places.
* `selects_fallback`: When the fallback rule selects an element.
* `conditions_of_selector`: How many conditions a selector has.
* `fallback_by_class_above`: The element under the class and without it.
-/

namespace ResponsiveImages

open Text

/-- Declarations whose normal form keeps them one for one and in order, with names
    in lower case. -/
def NormalizedInPlace (declarations : List Declaration) : Prop :=
  (normalize declarations).map Prod.fst = declarations.map fun d => lower d.property

/-- The normal form of the last of the declarations that name an image. -/
def normalizedImage? (declarations : List Declaration) : Option Text :=
  (((declarations.zip (normalize declarations)).filter fun entry =>
    eqIgnoreCase entry.1.property sourceProperty).map fun entry => entry.2.2).getLast?

theorem filter_zip_of_names (q : Text) (ds : List Declaration) :
    ∀ ns : List (Text × Text), (ns.map Prod.fst = ds.map fun d => lower d.property) →
      ((ds.zip ns).filter fun entry => lower entry.1.property == q).map (fun entry => entry.2.2)
        = (ns.filter fun n => n.1 == q).map Prod.snd := by
  induction ds with
  | nil =>
      intro ns hnames
      rw [List.map_eq_nil_iff.mp hnames]
      rfl
  | cons d ds ih =>
      intro ns hnames
      rcases List.map_eq_cons_iff.mp hnames with ⟨n, ns, hns, hname, hrest⟩
      replace hname : n.1 = lower d.property := hname
      rw [hns, List.zip_cons_cons, List.filter_cons, List.filter_cons, hname]
      by_cases h : (lower d.property == q) = true
      · rw [if_pos h, if_pos h, List.map_cons, List.map_cons, ih ns hrest]
      · rw [if_neg h, if_neg h, ih ns hrest]

/-- Declarations that keep their places give the image they name last. -/
theorem lastValue?_normalize {declarations : List Declaration}
    (h : NormalizedInPlace declarations) :
    lastValue? sourceProperty (normalize declarations) = normalizedImage? declarations := by
  have hfold : lower sourceProperty = sourceProperty := by decide
  rw [lastValue?, ← filter_zip_of_names sourceProperty declarations _ h, normalizedImage?]
  simp only [eqIgnoreCase, hfold]

theorem isSome_normalizedImage? {declarations : List Declaration}
    (h : NormalizedInPlace declarations)
    (hnamed : ∃ d ∈ declarations, eqIgnoreCase d.property sourceProperty = true) :
    (normalizedImage? declarations).isSome = true := by
  rcases hnamed with ⟨d, hd, hname⟩
  -- The name is found in the normal form as well.
  have hmem : lower d.property ∈ (normalize declarations).map Prod.fst := by
    rw [h]
    exact List.mem_map_of_mem hd
  rcases List.mem_map.mp hmem with ⟨n, hn, heq⟩
  have hsource : (n.1 == sourceProperty) = true := by
    rw [heq]
    exact hname
  rw [← lastValue?_normalize h, lastValue?, List.getLast?_isSome]
  exact List.ne_nil_of_mem (List.mem_map_of_mem (List.mem_filter.mpr ⟨hn, hsource⟩))

section

variable {d : Document} {i : NodeId} {e : Element} {id : Nat}
  (he : d.element? i = some e) (hid : e.attributes.get? Attribute.id = some (decimal id))

/-- The selector of the fallback rule of an element. -/
theorem selector_fallback (id : Nat) (body name : Text) (lazyLoad : Bool) :
    ((fallbackRule id body name).awaiting lazyLoad).selector
      = { id, lazyLoaded := lazyLoad, fallbackClass := some name } :=
  ElementRule.awaiting_selector lazyLoad rfl

theorem complexes_fallback {name : Text} (hplain : PlainName name) (id : Nat) (body : Text)
    (lazyLoad : Bool) :
    (((fallbackRule id body name).awaiting lazyLoad).styleRule.selector.splitOn ',').map
        Complex.read
      = [elementComplex { id, lazyLoaded := lazyLoad, fallbackClass := some name }] := by
  rw [← selector_fallback id body name lazyLoad]
  refine complexes_styleRule _ fun c hc => ?_
  rw [selector_fallback, Option.some.injEq] at hc
  rw [← hc]
  exact hplain

include he hid in
/-- The fallback rule selects its element if the class is found above it and a lazy
    loader, if there is one, has released it. -/
theorem selects_fallback {name : Text} (hplain : PlainName name) (body : Text)
    (lazyLoad : Bool) :
    ((fallbackRule id body name).awaiting lazyLoad).styleRule.selects d i
      = ((!lazyLoad || e.hasClass lazyLoadedClass) && d.anyAbove i name) := by
  rw [StyleRule.selects, complexes_fallback hplain, List.any_cons, List.any_nil, Bool.or_false,
    satisfies_elementComplex d i e he, hid, beq_self_eq_true, Bool.and_true, Option.all_some]

/-- A selector has a condition for the number, one for the release and one for the
    class above. -/
theorem conditions_of_selector (s : ElementSelector) :
    (elementComplex s).specificity.conditions
      = 1 + (if s.lazyLoaded then 1 else 0) + if s.fallbackClass.isSome then 1 else 0 := by
  rcases s with ⟨id, lazyLoaded, fallbackClass⟩
  cases lazyLoaded <;> cases fallbackClass <;> rfl

/-- The rank a compiled rule enters the cascade with, if its class is plain. -/
theorem rank_of_enters {r : ElementRule} {m : MatchedRule} (henters : r.styleRule.EntersAs d i m)
    (hplain : ∀ c, r.selector.fallbackClass = some c → PlainName c) :
    m.specificity = (elementComplex r.selector).specificity := by
  rcases henters.rank with ⟨c, hc, _, hrank⟩
  rw [complexes_styleRule r hplain, List.mem_singleton] at hc
  rw [hrank, hc]

section

variable {before after : List CompiledElement} (clauses : List Clause) {o : Options}
  {body : Text} (hbody : o.fallback = some body) (hplain : PlainName o.fallbackClass)

include hbody

theorem fallback_mem_rules :
    (fallbackRule id body o.fallbackClass).awaiting o.lazyLoad
      ∈ (compileElement id clauses o).rules := by
  rw [rules_eq, fallbackRules, hbody]
  exact List.mem_map_of_mem (List.mem_append_right _ (List.mem_singleton_self _))

include he hid hplain

/-- Under the class, an element that no lazy loader holds back has the image of its
    fallback rule. -/
theorem image_under_class (hbefore : ∀ c ∈ before, IsOther id c)
    (hafter : ∀ c ∈ after, IsOther id c) {value : Text}
    (hvalue : lastValue? sourceProperty (normalize (readDeclarations body)) = some value)
    (hreleased : o.lazyLoad = true → e.hasClass lazyLoadedClass = true)
    (habove : d.anyAbove i o.fallbackClass = true) (marker : Text) (live : Bool)
    (v : Viewport) :
    resolvedProperty?
        (Stylesheet.assemble marker live (before ++ compileElement id clauses o :: after)).own
        v d i sourceProperty
      = some value := by
  let fallback := (fallbackRule id body o.fallbackClass).awaiting o.lazyLoad
  have hdeclarations : fallback.styleRule.declarations = readDeclarations body :=
    ElementRule.awaiting_declarations _ _
  have hselects : fallback.styleRule.selects d i = true := by
    rw [selects_fallback he hid hplain, habove, Bool.and_true]
    cases hlazy : o.lazyLoad with
    | false => rfl
    | true => exact hreleased hlazy
  have hmem : fallback.styleRule ∈ (Stylesheet.assemble marker live
      (before ++ compileElement id clauses o :: after)).rules := by
    refine List.mem_append_right _
      (List.mem_flatMap.mpr ⟨compileElement id clauses o, ?_, ?_⟩)
    · exact List.mem_append_right _ List.mem_cons_self
    · exact List.mem_map_of_mem (fallback_mem_rules clauses hbody)
  have hmedia : mediaHolds fallback.styleRule.media v = true := by
    rw [show fallback.styleRule.media = none from ElementRule.awaiting_media _ _]
    rfl
  rcases exists_matched hmem hmedia hselects with ⟨top, htop, henters⟩
  have hrank : top.specificity.conditions = 1 + (if o.lazyLoad then 1 else 0) + 1 := by
    rw [rank_of_enters henters, selector_fallback, conditions_of_selector]
    · rfl
    · intro c hc
      rw [selector_fallback, Option.some.injEq] at hc
      exact hc ▸ hplain
  refine get?_cascade_of_strongest sourceProperty htop
    (by rw [henters.declarations, hdeclarations, hvalue]) fun m hm => ?_
  -- What else names an image is a rule of a clause, and lacks the class.
  rcases mem_matched hm with ⟨r, hr, hentersR⟩
  by_cases hdeclares : (lastValue? sourceProperty (normalize r.declarations)).isSome = true
  · rcases compiled_of_selects he hid clauses hbefore hafter hr hdeclares hentersR.selects
      with ⟨er, her, heq⟩
    rw [← heq] at hentersR
    rcases mem_rules her with ⟨_, _, _, hselector⟩ | ⟨body', hbody', hself, _⟩
    · right
      have hrank' : m.specificity.conditions = 1 + if o.lazyLoad then 1 else 0 := by
        rw [rank_of_enters hentersR fun c hc => absurd (hselector ▸ hc) (by simp), hselector,
          conditions_of_selector]
        rfl
      rw [Bool.eq_false_iff, ne_eq, MatchedRule.notAbove_iff, hrank, hrank']
      omega
    · left
      have hsame : body' = body := Option.some.inj (hbody'.symm.trans hbody)
      intro other hother
      rw [hentersR.declarations, hself, hsame, hdeclarations, hvalue] at hother
      exact (Option.some.inj hother).symm
  · left
    intro other hother
    rw [Option.not_isSome_iff_eq_none] at hdeclares
    rw [hentersR.declarations, hdeclares] at hother
    exact absurd hother (by simp)

/-- Without the class, an element has the style it would have without a fallback. -/
theorem style_without_class (habove : d.anyAbove i o.fallbackClass = false) (marker : Text)
    (live : Bool) (v : Viewport) :
    computedStyle
        (Stylesheet.assemble marker live (before ++ compileElement id clauses o :: after)).own
        v d i
      = computedStyle
          (Stylesheet.assemble marker live
            (before ++ compileElement id clauses { o with fallback := none } :: after)).own
          v d i := by
  have hselects : ((fallbackRule id body o.fallbackClass).awaiting o.lazyLoad).styleRule.selects
      d i = false := by
    rw [selects_fallback he hid hplain, habove, Bool.and_false]
  have hrules : (compileElement id clauses o).rules
      = (compileElement id clauses { o with fallback := none }).rules
        ++ [(fallbackRule id body o.fallbackClass).awaiting o.lazyLoad] := by
    rw [rules_eq, rules_eq, fallbackRules, hbody, List.map_append, List.map_append]
    simp only [fallbackRules, List.map_nil, List.append_nil]
    rfl
  -- The style sheets differ in a rule that does not apply.
  refine computedStyle_own_congr ?_
  simp only [Stylesheet.assemble, List.flatMap_append, List.flatMap_cons, List.filter_append,
    hrules, List.map_append, List.map_cons, List.map_nil, List.filter_cons, List.filter_nil,
    hselects, Bool.and_false, Bool.false_eq_true, if_false, List.append_nil]

end

end

/-- An element with a fallback. If an element above it carries the fallback class, its
    image is the one its fallback declarations name last, whatever its clauses and
    their duplicates say. If none does, it has the style that it would have without a
    fallback. -/
theorem fallback_by_class_above (marker : Text) (live : Bool)
    (before after : List CompiledElement) (id : Nat) (clauses : List Clause) (o : Options)
    (body : Text) (hbefore : ∀ c ∈ before, IsOther id c) (hafter : ∀ c ∈ after, IsOther id c)
    (hbody : o.fallback = some body) (hplain : PlainName o.fallbackClass)
    (hnamed : ∃ declared ∈ readDeclarations body,
      eqIgnoreCase declared.property sourceProperty = true)
    (hnorm : NormalizedInPlace (readDeclarations body))
    (v : Viewport) (d : Document) (i : NodeId) (e : Element) (he : d.element? i = some e)
    (hid : e.attributes.get? Attribute.id = some (decimal id))
    (hreleased : o.lazyLoad = true → e.hasClass lazyLoadedClass = true) :
    let rules (o : Options) := (Stylesheet.assemble marker live
      (before ++ compileElement id clauses o :: after)).own
    (d.anyAbove i o.fallbackClass = true →
        ∃ value, normalizedImage? (readDeclarations body) = some value
          ∧ resolvedProperty? (rules o) v d i sourceProperty = some value)
      ∧ (d.anyAbove i o.fallbackClass = false →
        computedStyle (rules o) v d i
          = computedStyle (rules { o with fallback := none }) v d i) := by
  intro rules
  refine ⟨fun habove => ?_, fun habove => ?_⟩
  · rcases Option.isSome_iff_exists.mp (isSome_normalizedImage? hnorm hnamed)
      with ⟨value, hvalue⟩
    refine ⟨value, hvalue, ?_⟩
    rw [← lastValue?_normalize hnorm] at hvalue
    exact image_under_class he hid clauses hbody hplain hbefore hafter hvalue hreleased habove
      marker live v
  · exact style_without_class he hid clauses hbody hplain habove marker live v

/-- The sample options with a fallback that names two images. -/
def fallbackSampleOptions : Options where
  retina := true
  lazyLoad := true
  fallback := some "src: url(x.png); SRC: url(f.png)".toList
  fallbackClass := "no-mq".toList

/-- The sample image on a page whose root has a class. -/
def classedPage (rootClass : Text) : Document :=
  Document.ofTrees none [
    .element { tag := "html".toList, attributes := [("class".toList, rootClass)] } [
      .element sampleImage []]]

/-- The sample under the class and without it. -/
theorem fallback_of_classed_pages :
    let rules (o : Options) := (Stylesheet.assemble "rwdimage".toList true
      ([compileElement 6 sampleClauses {}] ++ compileElement 7 sampleClauses o :: [])).own
    resolvedProperty? (rules fallbackSampleOptions) {} (classedPage "js no-mq".toList) 2
        sourceProperty
      = some "url(\x22f.png\x22)".toList
    ∧ computedStyle (rules fallbackSampleOptions) {} (classedPage "js".toList) 2
      = computedStyle (rules { fallbackSampleOptions with fallback := none }) {}
          (classedPage "js".toList) 2 := by
  have hothers : ∀ c ∈ [compileElement 6 sampleClauses {}], IsOther 7 c := by
    intro c hc
    exact ⟨6, sampleClauses, {}, by decide, rfl, List.mem_singleton.mp hc⟩
  have hnamed : ∃ declared ∈ readDeclarations "src: url(x.png); SRC: url(f.png)".toList,
      eqIgnoreCase declared.property sourceProperty = true := by
    decide +kernel
  have hnorm : NormalizedInPlace (readDeclarations "src: url(x.png); SRC: url(f.png)".toList) := by
    rw [NormalizedInPlace]
    decide +kernel
  have hsample (rootClass : Text) (he : (classedPage rootClass).element? 2 = some sampleImage) :=
    fallback_by_class_above "rwdimage".toList true [compileElement 6 sampleClauses {}] [] 7
      sampleClauses fallbackSampleOptions "src: url(x.png); SRC: url(f.png)".toList hothers
      (fun c hc => absurd hc List.not_mem_nil) rfl (by decide +kernel) hnamed hnorm {}
      (classedPage rootClass) 2 sampleImage he (by decide +kernel) (fun _ => by decide +kernel)
  refine ⟨?_, (hsample "js".toList (by decide +kernel)).2 (by decide +kernel)⟩
  rcases (hsample "js no-mq".toList (by decide +kernel)).1 (by decide +kernel)
    with ⟨value, hvalue, hresolved⟩
  have hknown : normalizedImage? (readDeclarations "src: url(x.png); SRC: url(f.png)".toList)
      = some "url(\x22f.png\x22)".toList := by
    decide +kernel
  rw [hresolved, ← hvalue, hknown]

end ResponsiveImages
