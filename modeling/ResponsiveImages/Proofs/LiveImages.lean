import ResponsiveImages.Proofs.ElementStyle
import ResponsiveImages.Proofs.FallbackMode
import ResponsiveImages.Proofs.RestatedTests
import ResponsiveImages.Proofs.SyncRun

/-!
# Images Stay in Step

A page that is scanned and then followed through changes of the viewport, by a
synchronizer that reads the scanned style sheet and listens to a matcher. The
source of an image is written only when one of its queries starts to hold, but
its style may change whenever the viewport does. The two stay in step as long
as no query of the image stops to hold (`live_image_in_step`).

Two facts carry this. The style of an image changes only with the clauses that
apply to it and with the density of the display, although the rules for dense
displays are registered nowhere (`imageUnder_congr`). And an image that is not
resolved at the start has no clause that applies, so its style names nothing
that its source could differ from (`imageUnder_of_none_applies`).

From there on it is an induction along the run. If none of the queries of the
image starts to hold, the same clauses apply as before and the style stays what
it was. If one does, the image is resolved.

## Main definitions

* `imageUnder`: The value of the source property of an element, by viewport.
* `KeepsQueries`: Changes of the viewport that no query stops to hold in.
* `followAll`: The state after the start and changes of the viewport.
* `ManagedImage.FollowedTo`: The style and the source of an image after such changes.

## Theorems

* `compiled_split`: What was compiled for an element, and for the others.
* `sourceValue?_scanned`: The value a scanned style sheet gives.
* `imageUnder_congr`, `imageUnder_of_none_applies`: When that value changes.
* `inStep_start`: An image is in step after the start.
* `inStep_resize`: It stays in step when the viewport changes.
* `live_image_in_step`: It is in step along a run.
-/

namespace ResponsiveImages

open Text

/-! ### The style sheet of a scan -/

section

variable {config : Config} {d : Document} {p : ScanProgress}

/-- What was compiled for one element, in the midst of what was compiled for the
    others. An element without a directive counts as one without clauses. -/
theorem compiled_split (hscanned : Scanned config d (markedEntries config d) p)
    (hfallback : ∀ entry ∈ markedEntries config d, ∀ e, d.element? entry.1 = some e →
      e.options.fallback = none)
    {node : NodeId} {k : Nat} {e : Element} (hentry : (node, k) ∈ markedEntries config d)
    (he : d.element? node = some e) (marker : Text) (live : Bool) :
    ∃ before after, (∀ c ∈ before, IsOther k c) ∧ (∀ c ∈ after, IsOther k c)
      ∧ Stylesheet.assemble marker live p.compiled
        = Stylesheet.assemble marker live
            (before ++ compileElement k e.clauses e.options :: after) := by
  rcases List.append_of_mem hentry with ⟨pre, post, hsplit⟩
  -- Entries are numbered by their places, so no two of them share a number.
  have hnumbers : ((markedEntries config d).map Prod.snd).Nodup := by
    rw [markedEntries, List.zipIdx_map_snd]
    exact List.nodup_range'
  rw [hsplit, List.map_append, List.map_cons, List.nodup_append] at hnumbers
  rcases hnumbers with ⟨_, hpost, hpre⟩
  have hother : ∀ entries : List (NodeId × Nat),
      (∀ entry ∈ entries, entry ∈ markedEntries config d) → (∀ entry ∈ entries, entry.2 ≠ k) →
        ∀ c ∈ entries.filterMap (fun entry =>
          (d.element? entry.1).bind fun e => e.compiled? entry.2), IsOther k c := by
    intro entries hmarked hne c hc
    rcases List.mem_filterMap.mp hc with ⟨entry, hmem, hcompiled⟩
    rcases Option.bind_eq_some_iff.mp hcompiled with ⟨e', he', hc'⟩
    rw [compiled?_eq] at hc'
    rcases Option.map_eq_some_iff.mp hc' with ⟨_, _, heq⟩
    exact ⟨entry.2, e'.clauses, e'.options, hne entry hmem,
      hfallback entry (hmarked entry hmem) e' he', heq.symm⟩
  refine ⟨_, _, hother pre ?_ ?_, hother post ?_ ?_, ?_⟩
  · intro entry hmem
    rw [hsplit]
    exact List.mem_append_left _ hmem
  · intro entry hmem
    exact hpre entry.2 (List.mem_map_of_mem hmem) k List.mem_cons_self
  · intro entry hmem
    rw [hsplit]
    exact List.mem_append_right _ (List.mem_cons_of_mem _ hmem)
  · intro entry hmem heq
    exact (List.nodup_cons.mp hpost).1 (List.mem_map.mpr ⟨entry, hmem, heq⟩)
  · rw [hscanned.compiled, hsplit, List.filterMap_append, List.filterMap_cons, he,
      Option.bind_some, compiled?_eq]
    cases hdirective : e.attributes.get? Attribute.directive with
    | some directive => rfl
    | none =>
        -- Nothing was compiled, and no clauses compile to no rules.
        have hclauses : e.clauses = [] := by
          rw [Element.clauses, hdirective]
        have hrules : (compileElement k [] e.options).rules = [] := by
          simp only [compileElement, clauseRules, List.map_nil, duplicateForDense,
            List.flatMap_nil, ite_self, fallbackRules, hfallback _ hentry e he, restrictToLoaded,
            List.append_nil]
        rw [hclauses]
        simp only [Option.map_none, Stylesheet.assemble, List.flatMap_append, List.flatMap_cons,
          hrules, List.map_nil, List.nil_append]

/-- The value of the source property that the rules of an element give it. -/
def imageUnder (e : Element) (k : Nat) (v : Viewport) : Option Text :=
  if e.options.lazyLoad && !e.hasClass lazyLoadedClass then none
  else lastImage? (rulesInEffect (compileElement k e.clauses e.options).rules v)

/-- The value that a scanned style sheet gives to an element, whatever sources have
    been written since, with one of the numbers the element is marked by. -/
theorem sourceValue?_scanned (hscanned : Scanned config d (markedEntries config d) p)
    (hfallback : ∀ entry ∈ markedEntries config d, ∀ e, d.element? entry.1 = some e →
      e.options.fallback = none)
    {node : NodeId} {j : Nat} {e : Element} (hentry : (node, j) ∈ markedEntries config d)
    (he : d.element? node = some e) (marker : Text) (live : Bool) :
    ∃ k, (node, k) ∈ markedEntries config d
      ∧ ∀ d', Document.SameBut syncEdits p.document d' → ∀ v,
        sourceValue? (Stylesheet.assemble marker live p.compiled).own v d' node
          = imageUnder e k v := by
  rcases hscanned.numbered (node, j) hentry e he with ⟨k, hk, hid⟩
  rcases hscanned.same.element node e he with ⟨e', he', hsame⟩
  rw [Document.attribute?, he', Option.bind_some] at hid
  rcases compiled_split hscanned hfallback hk he marker live with
    ⟨before, after, hbefore, hafter, hsheet⟩
  refine ⟨k, hk, fun d' hd' v => ?_⟩
  rcases hd'.element node e' he' with ⟨e'', he'', hsame'⟩
  -- Neither the number nor the classes are written by a resolution.
  have hid' : e''.attributes.get? Attribute.id = some (decimal k) := by
    rw [hsame'.get? Attribute.id (by decide), hid]
  have hclass : e''.hasClass lazyLoadedClass = e.hasClass lazyLoadedClass := by
    rw [hsame'.hasClass (by decide), hsame.hasClass class_not_scanEdits]
  rw [hsheet, sourceValue?_compiled he'' hid' e.clauses hbefore hafter (hfallback _ hk e he) marker
    live v, hclass]
  rfl

end

section

variable {e : Element}
  (htests : ∀ c ∈ e.clauses, ∀ s, c.mediaTest = some s → (condition? s).isSome = true)
  (hfallback : e.options.fallback = none)

include htests hfallback

/-- The value changes only with the clauses that apply and with the density of the
    display. -/
theorem imageUnder_congr (k : Nat) {v v' : Viewport}
    (happlies : ∀ c ∈ e.clauses, c.applies v = c.applies v')
    (hratio : v.pixelRatio = v'.pixelRatio) : imageUnder e k v = imageUnder e k v' := by
  rw [imageUnder, rulesInEffect_congr htests hfallback k happlies (dense_congr hratio),
    imageUnder]

/-- Without a clause that applies there is no value. -/
theorem imageUnder_of_none_applies (k : Nat) {v : Viewport}
    (hnone : ∀ c ∈ e.clauses, c.applies v = false) : imageUnder e k v = none := by
  rw [imageUnder, rulesInEffect_of_none_applies htests hfallback k hnone]
  exact ite_self none

omit hfallback

variable {config : Config} {d : Document} {entry : NodeId × Nat}

/-- An image listens to the test of each of its clauses. -/
theorem mem_listensTo {c : Clause} (hc : c ∈ e.clauses) {s : Text} (hs : c.mediaTest = some s) :
    s ∈ (recordOf config d entry e).listensTo := by
  have hquery : s ∈ (recordOf config d entry e).queries :=
    List.mem_filterMap.mpr ⟨c.breakpoint, List.mem_map_of_mem hc, hs⟩
  refine List.mem_filter.mpr ⟨hquery, ?_⟩
  rw [not_blank_of_condition (htests c hc s hs)]
  rfl

/-- Which clauses apply is a matter of the queries an image listens to. -/
theorem applies_congr {v v' : Viewport}
    (h : ∀ q ∈ (recordOf config d entry e).listensTo,
      (QueryList.read q).holds v = (QueryList.read q).holds v') :
    ∀ c ∈ e.clauses, c.applies v = c.applies v' := by
  intro c hc
  rw [Clause.applies, Clause.applies]
  cases htest : c.mediaTest with
  | none => rfl
  | some s => exact h s (mem_listensTo htests hc htest)

/-- An image without a plain clause has no clause that applies if it listens to
    nothing that holds. -/
theorem none_applies {v : Viewport}
    (hplain : (recordOf config d entry e).hasUnconditional = false)
    (hnone : ∀ q ∈ (recordOf config d entry e).listensTo, (QueryList.read q).holds v = false) :
    ∀ c ∈ e.clauses, c.applies v = false := by
  intro c hc
  rw [Clause.applies]
  cases htest : c.mediaTest with
  | none =>
      have hunconditional : (recordOf config d entry e).hasUnconditional = true := by
        refine List.any_eq_true.mpr ⟨c.breakpoint, List.mem_map_of_mem hc, ?_⟩
        rw [Breakpoint.unconditional, Clause.breakpoint, htest]
        rfl
      rw [hplain] at hunconditional
      exact absurd hunconditional (by decide)
  | some s => exact hnone s (mem_listensTo htests hc htest)

end

/-! ### Steps of the start -/

theorem subscribe_mem_startSteps {images : List ManagedImage} {m : ManagedImage}
    (hm : m ∈ images) (hmode : m.fallbackMode = false) {q : Text} (hq : q ∈ m.listensTo) :
    StartStep.subscribe m q ∈ startSteps true images := by
  refine List.mem_flatMap.mpr ⟨m, hm, ?_⟩
  rw [ManagedImage.startSteps, hmode, if_pos (by decide)]
  exact List.mem_append_right _ (List.mem_map_of_mem hq)

theorem resolve_mem_startSteps {images : List ManagedImage} {m : ManagedImage}
    (hm : m ∈ images) (hmode : m.fallbackMode = false)
    (hfirst : m.listensTo.isEmpty = true ∨ m.hasUnconditional = true) :
    StartStep.resolve m ∈ startSteps true images := by
  refine List.mem_flatMap.mpr ⟨m, hm, ?_⟩
  rw [ManagedImage.startSteps, hmode, if_pos (by decide), if_pos (by simpa using hfirst)]
  exact List.mem_append_left _ (List.mem_singleton_self _)

/-- The registrations of the start. -/
def startRegistrations (images : List ManagedImage) : List (Registration ManagedImage) :=
  (startSteps true images).flatMap StartStep.registration

theorem mem_startRegistrations {images : List ManagedImage} {m : ManagedImage}
    (hm : m ∈ images) (hmode : m.fallbackMode = false) {q : Text} (hq : q ∈ m.listensTo) :
    (QueryList.read q, m) ∈ startRegistrations images :=
  List.mem_flatMap.mpr ⟨_, subscribe_mem_startSteps hm hmode hq, List.mem_singleton_self _⟩

/-- An image that is not resolved at the start has neither a plain clause nor a
    query that holds. -/
theorem of_not_resolved {images : List ManagedImage} {m : ManagedImage} {v : Viewport}
    (hm : m ∈ images) (hmode : m.fallbackMode = false)
    (hnot : m ∉ (startSteps true images).flatMap (StartStep.resolved v)) :
    m.hasUnconditional = false
      ∧ ∀ q ∈ m.listensTo, (QueryList.read q).holds v = false := by
  refine ⟨?_, fun q hq => ?_⟩
  · by_contra hplain
    rw [Bool.not_eq_false] at hplain
    exact hnot (List.mem_flatMap.mpr
      ⟨_, resolve_mem_startSteps hm hmode (Or.inr hplain), List.mem_singleton_self m⟩)
  · by_contra hholds
    rw [Bool.not_eq_false] at hholds
    refine hnot (List.mem_flatMap.mpr ⟨_, subscribe_mem_startSteps hm hmode hq, ?_⟩)
    rw [StartStep.resolved, if_pos hholds]
    exact List.mem_singleton_self m

/-! ### Runs -/

/-- Changes of the viewport that keep the density of the display and in which no
    query that an image listens to stops to hold. -/
def KeepsQueries (m : ManagedImage) : Viewport → List Viewport → Prop
  | _, [] => True
  | v, v' :: rest =>
    v'.pixelRatio = v.pixelRatio
      ∧ (∀ q ∈ m.listensTo, (QueryList.read q).holds v = true →
          (QueryList.read q).holds v' = true)
      ∧ KeepsQueries m v' rest

/-- The state after the start and changes of the viewport. -/
def followAll (rules : List OwnedRule) (images : List ManagedImage) (d : Document)
    (v : Viewport) (resizes : List Viewport) : LiveState :=
  resizes.foldl (fun state v' => (LiveState.resize rules v' state).2)
    (LiveState.start rules true images ({ viewport := v }, { document := d })).2

section

variable {rules : List OwnedRule} {d d₀ : Document} {config : Config} {e e₀ : Element}
  {k : Nat} {images : List ManagedImage} {entry : NodeId × Nat}
  (he : d.element? entry.1 = some e) (himage : e.isImage = true)
  (hcontains : d.contains entry.1 = true)
  (htests : ∀ c ∈ e₀.clauses, ∀ s, c.mediaTest = some s → (condition? s).isSome = true)
  (hfallback : e₀.options.fallback = none)
  (hvalue : ∀ d', Document.SameBut syncEdits d d' → ∀ v,
    sourceValue? rules v d' entry.1 = imageUnder e₀ k v)
  (hm : recordOf config d₀ entry e₀ ∈ images)
  (hmode : (recordOf config d₀ entry e₀).fallbackMode = false)

include he himage hcontains htests hfallback hvalue hm hmode

/-- An image is in step after the start. -/
theorem inStep_start (v : Viewport) :
    ∃ s, followAll rules images d v [] = (Matcher.settled v (startRegistrations images), s)
      ∧ Following d s ∧ InStep (imageUnder e₀ k v) s.document entry.1 := by
  have hstart : Following d (({ document := d } : Session).reset images) :=
    ⟨Document.SameBut.refl syncEdits d, rfl⟩
  refine ⟨_, start_settled rules true images v _, ?_⟩
  refine inStep_resolveAll he himage hcontains (fun d' hd' => hvalue d' hd' v) _ _ hstart ?_
  by_cases hresolved : recordOf config d₀ entry e₀
      ∈ (startSteps true images).flatMap (StartStep.resolved v)
  · exact Or.inl ⟨_, hresolved, rfl⟩
  · -- Nothing applies, so there is nothing to be in step with.
    rcases of_not_resolved hm hmode hresolved with ⟨hplain, hnone⟩
    refine Or.inr fun source hsource => ?_
    rw [imageUnder_of_none_applies htests hfallback k (none_applies htests hplain hnone)]
      at hsource
    exact absurd hsource (by simp)

/-- An image stays in step when the viewport changes and no query that it listens
    to stops to hold. -/
theorem inStep_resize {v v' : Viewport} {s : Session}
    (hs : Following d s) (hstep : InStep (imageUnder e₀ k v) s.document entry.1)
    (hratio : v'.pixelRatio = v.pixelRatio)
    (hkeeps : ∀ q ∈ (recordOf config d₀ entry e₀).listensTo,
      (QueryList.read q).holds v = true → (QueryList.read q).holds v' = true) :
    ∃ s', (LiveState.resize rules v' (Matcher.settled v (startRegistrations images), s)).2
        = (Matcher.settled v' (startRegistrations images), s')
      ∧ Following d s' ∧ InStep (imageUnder e₀ k v') s'.document entry.1 := by
  refine ⟨_, resize_resolves rules v v' _ s, ?_⟩
  refine inStep_resolveAll he himage hcontains (fun d' hd' => hvalue d' hd' v') _ _ hs ?_
  by_cases hwoken : recordOf config d₀ entry e₀ ∈ woken v v' (startRegistrations images)
  · exact Or.inl ⟨_, hwoken, rfl⟩
  · -- None of its queries starts to hold, and none stops: the same clauses apply.
    have hsame : ∀ q ∈ (recordOf config d₀ entry e₀).listensTo,
        (QueryList.read q).holds v = (QueryList.read q).holds v' := by
      intro q hq
      have hrises : ¬ MatcherCall.rises (QueryList.read q) v v' = true := fun hrises =>
        hwoken (mem_woken v v' _ (mem_startRegistrations hm hmode hq) hrises)
      rw [MatcherCall.rises, Bool.and_eq_true, Bool.not_eq_true'] at hrises
      have hkept := hkeeps q hq
      cases hold : (QueryList.read q).holds v with
      | true => rw [hkept hold]
      | false =>
          cases hnew : (QueryList.read q).holds v' with
          | true => exact absurd ⟨hold, hnew⟩ hrises
          | false => rfl
    rw [← imageUnder_congr htests hfallback k (applies_congr htests hsame) hratio.symm]
    exact Or.inr hstep

/-- An image is in step along a run. -/
theorem inStep_run (resizes : List Viewport) :
    ∀ (v : Viewport) (s : Session), Following d s →
      InStep (imageUnder e₀ k v) s.document entry.1 →
      KeepsQueries (recordOf config d₀ entry e₀) v resizes →
        ∃ s', resizes.foldl (fun state v' => (LiveState.resize rules v' state).2)
              (Matcher.settled v (startRegistrations images), s)
            = (Matcher.settled (resizes.getLastD v) (startRegistrations images), s')
          ∧ Following d s'
          ∧ InStep (imageUnder e₀ k (resizes.getLastD v)) s'.document entry.1 := by
  induction resizes with
  | nil =>
      intro v s hs hstep _
      exact ⟨s, rfl, hs, hstep⟩
  | cons next resizes ih =>
      intro v s hs hstep hkeeps
      rcases hkeeps with ⟨hratio, hqueries, hrest⟩
      rcases inStep_resize he himage hcontains htests hfallback hvalue hm hmode hs hstep hratio
        hqueries with ⟨s', hresize, hs', hstep'⟩
      rw [List.foldl_cons, hresize, List.getLastD_cons]
      exact ih next s' hs' hstep' hrest

end

/-- A marked element is one of the elements of the document. -/
theorem mem_elements_of_marked {config : Config} {d : Document} {entry : NodeId × Nat}
    (hentry : entry ∈ markedEntries config d) {e : Element}
    (he : d.element? entry.1 = some e) :
    (entry.1, e) ∈ d.elements ∧ e.hasClass config.markerClass = true := by
  rcases mem_byClass (node_of_marked hentry) with ⟨hpreorder, e', he', hclass⟩
  rw [he, Option.some.injEq] at he'
  exact ⟨mem_elements.mpr ⟨hpreorder, he⟩, he' ▸ hclass⟩

/-- The tests of the clauses of an element, from its directive as it is written. -/
theorem tests_of_clauses {e : Element}
    (h : ∀ directive, e.attributes.get? Attribute.directive = some directive →
      ∀ c ∈ readDirective .pixels directive, ∀ s, c.mediaTest = some s →
        (condition? s).isSome = true) :
    ∀ c ∈ e.clauses, ∀ s, c.mediaTest = some s → (condition? s).isSome = true := by
  intro c hc
  rw [Element.clauses] at hc
  cases hdirective : e.attributes.get? Attribute.directive with
  | none =>
      rw [hdirective] at hc
      exact absurd hc List.not_mem_nil
  | some directive =>
      rw [hdirective] at hc
      exact tests_of_readDirective (h directive hdirective) e.options.units c hc

/-- Where no marked element has a fallback, none of the entries of a scan has one. -/
theorem fallback_of_marked {config : Config} {d : Document}
    (hfallback : ∀ entry ∈ d.elements, entry.2.hasClass config.markerClass = true →
      entry.2.options.fallback = none) :
    ∀ entry ∈ markedEntries config d, ∀ e, d.element? entry.1 = some e →
      e.options.fallback = none := by
  intro entry hentry e he
  rcases mem_elements_of_marked hentry he with ⟨hmem, hclass⟩
  exact hfallback _ hmem hclass

/-- Along a run of a synchronizer on a scanned page, an image that is not in
    fallback mode is in step: whenever the style it has at the moment names a
    source, that is its source. Nothing but sources has changed on the page since the
    scan, and the image is still on it. The page has no fallbacks and its tests are
    accepted, the changes of the viewport keep the density of the display, and none
    of the queries of the image stops to hold in one of them. -/
theorem live_image_in_step {config : Config} {d : Document} {scanned : ScanOutcome}
    (h : scan config d = .ok scanned)
    (hfallback : ∀ entry ∈ d.elements, entry.2.hasClass config.markerClass = true →
      entry.2.options.fallback = none)
    (htests : ∀ entry ∈ d.elements, entry.2.hasClass config.markerClass = true →
      ∀ directive, entry.2.attributes.get? Attribute.directive = some directive →
        ∀ c ∈ readDirective .pixels directive, ∀ s, c.mediaTest = some s →
          (condition? s).isSome = true)
    {m : ManagedImage} (hm : m ∈ scanned.images) (himage : m.isImage = true)
    (hmode : m.fallbackMode = false) (v : Viewport) (resizes : List Viewport)
    (hkeeps : KeepsQueries m v resizes) :
    let rules := scanned.stylesheet.own
    let state := followAll rules scanned.images scanned.document v resizes
    state.1.viewport = resizes.getLastD v
      ∧ Document.SameBut syncEdits scanned.document state.2.document
      ∧ state.2.held = true ∧ state.2.document.contains m.node = true
      ∧ state.2.alive m.node = true
      ∧ InStep (sourceValue? rules state.1.viewport state.2.document m.node)
          state.2.document m.node := by
  rcases scanned_of_scan h with ⟨p, hscanned, hdocument, himages, live, hstylesheet⟩
  rw [hdocument, himages, hstylesheet]
  rw [himages] at hm
  -- The image is a record of a marked element.
  have hrecorded := hm
  rw [hscanned.images] at hrecorded
  rcases List.mem_filterMap.mp hrecorded with ⟨entry, hentry, hrecord⟩
  rcases Option.map_eq_some_iff.mp hrecord with ⟨e₀, he₀, heq⟩
  rw [← heq] at hm himage hmode hkeeps ⊢
  have hnone := fallback_of_marked hfallback
  have htests₀ : ∀ c ∈ e₀.clauses, ∀ s, c.mediaTest = some s → (condition? s).isSome = true := by
    rcases mem_elements_of_marked hentry he₀ with ⟨hmem, hclass⟩
    exact tests_of_clauses (htests _ hmem hclass)
  rcases hscanned.same.element entry.1 e₀ he₀ with ⟨e, he, hsame⟩
  have himage' : e.isImage = true := by
    rw [Element.isImage, hsame.isTag]
    exact himage
  have hcontains : p.document.contains entry.1 = true := by
    rw [hscanned.same.contains, Document.contains, List.contains_iff_mem]
    exact (mem_byClass (node_of_marked hentry)).1
  rcases sourceValue?_scanned hscanned hnone hentry he₀ config.markerClass live
    with ⟨k, _, hvalue⟩
  -- The start leads to step, and the changes of the viewport keep it.
  rcases inStep_start he himage' hcontains htests₀ (hnone entry hentry e₀ he₀) hvalue hm hmode v
    with ⟨s₁, hstart, hs₁, hstep₁⟩
  rcases inStep_run he himage' hcontains htests₀ (hnone entry hentry e₀ he₀) hvalue hm hmode
    resizes v s₁ hs₁ hstep₁ hkeeps with ⟨s', hrun, hs', hstep'⟩
  have hstate : followAll (Stylesheet.assemble config.markerClass live p.compiled).own p.images
      p.document v resizes
        = (Matcher.settled (resizes.getLastD v) (startRegistrations p.images), s') := by
    rw [← hrun, ← hstart]
    rfl
  simp only [hstate]
  refine ⟨rfl, hs'.same, hs'.held, (hs'.same.contains _).trans hcontains,
    hs'.alive hcontains, ?_⟩
  · have hnow := hvalue s'.document hs'.same (resizes.getLastD v)
    show InStep (sourceValue? _ (resizes.getLastD v) s'.document entry.1) s'.document entry.1
    rw [hnow]
    exact hstep'

/-- An image that listens to the width of the window. -/
def followedElement : Element where
  tag := imageTag
  attributes := [
    ("class".toList, "rwdimage".toList),
    (Attribute.directive,
      "src: url(s.png), (min-width: 480px) \x7b src: url(m.png) \x7d".toList)]

/-- A page with this image. -/
def followedPage : Document :=
  Document.ofTrees none [.element { tag := "html".toList } [.element followedElement []]]

/-- When a narrow window has been changed to others, the style of an image has a certain
    value, which names the source that the image has by then. -/
def ManagedImage.FollowedTo (m : ManagedImage) (scanned : ScanOutcome) (resizes : List Viewport)
    (value source : Text) : Prop :=
  let rules := scanned.stylesheet.own
  let state := followAll rules scanned.images scanned.document { width := 320 } resizes
  let now := sourceValue? rules state.1.viewport state.2.document m.node
  InStep now state.2.document m.node ∧ now = some value ∧ extractSource? value = some source
    ∧ state.2.document.attribute? m.node sourceAttribute = some source

/-- The image of the page when the window is narrow, and after it has become wide enough
    for the query of the image, and then lower. -/
theorem followed_image_in_step :
    let query := QueryList.read "(min-width: 480px)".toList
    query.holds { width := 320 } = false ∧ query.holds { width := 1024 } = true
      ∧ ∃ scanned, scan {} followedPage = .ok scanned
        ∧ ∃ m ∈ scanned.images, m.listensTo = ["(min-width: 480px)".toList]
          ∧ m.FollowedTo scanned [] "url(\x22s.png\x22)".toList "s.png".toList
          ∧ m.FollowedTo scanned [{ width := 1024 }, { width := 1024, height := 600 }]
              "url(\x22m.png\x22)".toList "m.png".toList := by
  have hfound : (scan {} followedPage).toOption.map (fun s =>
      s.images.map fun m => (m.node, m.isImage, m.fallbackMode,
        m.listensTo == ["(min-width: 480px)".toList]))
        = some [(2, true, false, true)] := by
    decide +kernel
  rcases scan_single hfound with ⟨scanned, h, m, hm, hfacts⟩
  simp only [Prod.mk.injEq, beq_iff_eq] at hfacts
  rcases hfacts with ⟨hnode, himage, hmode, hlistens⟩
  have hfallback : ∀ entry ∈ followedPage.elements,
      entry.2.hasClass ({} : Config).markerClass = true →
        entry.2.options.fallback = none := by
    decide +kernel
  have htests : ∀ entry ∈ followedPage.elements,
      entry.2.hasClass ({} : Config).markerClass = true →
        ∀ directive ∈ entry.2.attributes.get? Attribute.directive,
          ∀ c ∈ readDirective .pixels directive, ∀ s ∈ c.mediaTest,
            (condition? s).isSome = true := by
    decide +kernel
  -- The only element that is marked has the number 0.
  have hmarked : (2, 0) ∈ markedEntries {} followedPage := by decide +kernel
  have honly : ∀ entry ∈ markedEntries {} followedPage, entry.2 = 0 := by decide +kernel
  rcases scanned_of_scan h with ⟨p, hscanned, hdocument, _, live, hstylesheet⟩
  rcases sourceValue?_scanned hscanned (fallback_of_marked hfallback) hmarked
    (e := followedElement) (by decide +kernel) ({} : Config).markerClass live
    with ⟨k, hk, hvalue⟩
  rw [← hstylesheet, ← hdocument, show k = 0 from honly _ hk, ← hnode] at hvalue
  have hfollowed : ∀ resizes value source, KeepsQueries m { width := 320 } resizes →
      imageUnder followedElement 0 (resizes.getLastD { width := 320 }) = some value →
        extractSource? value = some source → m.FollowedTo scanned resizes value source := by
    intro resizes value source hkeeps hstyle hsource
    rcases live_image_in_step h hfallback
      (fun entry hentry hclass directive hdirective c hc s hs =>
        htests entry hentry hclass directive hdirective c hc s hs)
      hm himage hmode { width := 320 } resizes hkeeps with ⟨hviewport, hsame, _, _, _, hstep⟩
    -- Only sources have changed, so the style is that of the scanned page.
    have hnow := hvalue _ hsame (resizes.getLastD { width := 320 })
    rw [hstyle, ← hviewport] at hnow
    exact ⟨hstep, hnow, hsource, hstep source (by rw [hnow, Option.bind_some, hsource])⟩
  have hwide : (QueryList.read "(min-width: 480px)".toList).holds { width := 1024 } = true := by
    decide +kernel
  have hlow : (QueryList.read "(min-width: 480px)".toList).holds { width := 1024, height := 600 }
      = true := by
    decide +kernel
  have hall : ∀ v, (QueryList.read "(min-width: 480px)".toList).holds v = true →
      ∀ q ∈ m.listensTo, (QueryList.read q).holds v = true := by
    intro v hv q hq
    rw [hlistens] at hq
    rw [List.mem_singleton.mp hq]
    exact hv
  refine ⟨by decide +kernel, hwide, scanned, h, m, hm, hlistens, ?_, ?_⟩
  · exact hfollowed [] _ _ trivial (by decide +kernel) (by decide +kernel)
  · exact hfollowed _ _ _
      ⟨rfl, fun q hq _ => hall _ hwide q hq, rfl, fun q hq _ => hall _ hlow q hq, trivial⟩
      (by decide +kernel) (by decide +kernel)

end ResponsiveImages
