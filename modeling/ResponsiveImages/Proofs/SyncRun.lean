import ResponsiveImages.Live.Start
import ResponsiveImages.Proofs.Edits
import ResponsiveImages.Proofs.Lifetimes
import ResponsiveImages.Proofs.RisingEdges

/-!
# Runs of a Synchronizer

What a synchronizer does to the document, from the start on and through
changes of the viewport.

Its callbacks leave the matcher alone, so a run is that of the matcher
(`Matcher.settled`) next to a sequence of resolutions. At the start the images
are resolved that are asked for at once or that listen to a query which holds
already (`start_settled`), and at a change of the viewport those that listen to
a query which starts to hold (`resize_resolves`).

A resolution writes one attribute of one element, and after it that attribute
names what the style of the element said (`inStep_resolve`). Styles do not look
at the attribute. An element whose style keeps its value is therefore in step
from its first resolution on, whatever else is resolved (`inStep_resolveAll`).

## Main definitions

* `resolveAll`: Images resolved one after the other.
* `StartStep.registration`, `StartStep.resolved`: What a step of the start does.
* `woken`: The images that a change of the viewport resolves.
* `InStep`: The source of an element is the one a style value names.
* `Following`: A session on a document whose sources may have been written.

## Theorems

* `start_settled`: The state after the start.
* `resize_resolves`: The state after a change of the viewport.
* `mem_woken`: Who is resolved at a change of the viewport.
* `sameBut_resolve`: What a resolution leaves alone.
* `inStep_resolve`: The source after a resolution.
* `inStep_resolveAll`: When an element is in step after resolutions.
-/

namespace ResponsiveImages

open Text

/-! ### The matcher and the session -/

/-- The effect of an entered breakpoint on the session: the image is resolved under
    the viewport of the moment. -/
def resolveUnder (rules : List OwnedRule) (m : ManagedImage) (v : Viewport) (s : Session) :
    Session :=
  s.resolve (sourceValue? rules v) m

/-- Images resolved one after the other under one viewport. -/
def resolveAll (rules : List OwnedRule) (v : Viewport) (images : List ManagedImage)
    (s : Session) : Session :=
  images.foldl (fun s m => resolveUnder rules m v s) s

namespace StartStep

/-- What a step of the start subscribes. -/
def registration : StartStep → List (Registration ManagedImage)
  | resolve _ => []
  | subscribe m query => [(QueryList.read query, m)]

/-- The image that a step of the start resolves, if it does. -/
def resolved (v : Viewport) : StartStep → List ManagedImage
  | resolve m => [m]
  | subscribe m query => if (QueryList.read query).holds v then [m] else []

end StartStep

theorem enter_eq_outside (rules : List OwnedRule) :
    LiveState.enter rules = Running.outside (resolveUnder rules) := rfl

/-- Telling callbacks under one viewport resolves their images. -/
theorem tellAll_resolve (rules : List OwnedRule) (v : Viewport)
    (log : List (Firing ManagedImage)) (hlog : ∀ f ∈ log, f.viewport = v) :
    ∀ s, tellAll (resolveUnder rules) log s = resolveAll rules v (log.map Firing.callback) s := by
  induction log with
  | nil => intro s; rfl
  | cons f log ih =>
      intro s
      have hrest := ih fun g hg => hlog g (List.mem_cons_of_mem _ hg)
      show tellAll (resolveUnder rules) log (resolveUnder rules f.callback f.viewport s) = _
      rw [hrest, hlog f List.mem_cons_self]
      rfl

theorem resolveAll_append (rules : List OwnedRule) (v : Viewport)
    (images images' : List ManagedImage) (s : Session) :
    resolveAll rules v (images ++ images') s
      = resolveAll rules v images' (resolveAll rules v images s) := by
  rw [resolveAll, List.foldl_append]
  rfl

/-- How an image comes to listen to a query. -/
def listenTo (rules : List OwnedRule) (m : ManagedImage) (query : Text) (state : LiveState) :
    LiveState :=
  (Matcher.subscribe (LiveState.enter rules) query m state).2

/-- One step of the start. -/
theorem perform_step (rules : List OwnedRule) (v : Viewport)
    (regs : List (Registration ManagedImage)) (s : Session) (step : StartStep) :
    StartStep.perform (LiveState.enter rules) (listenTo rules) (Matcher.settled v regs, s) step
      = (Matcher.settled v (regs ++ step.registration),
          resolveAll rules v (step.resolved v) s) := by
  cases step with
  | resolve m =>
      rw [StartStep.registration, List.append_nil]
      rfl
  | subscribe m query =>
      rw [StartStep.perform, listenTo, enter_eq_outside, subscribe_settled]
      simp only [StartStep.registration, StartStep.resolved, MatcherCall.firings]
      by_cases h : (QueryList.read query).holds v = true
      · rw [if_pos h, if_pos h]
        rfl
      · rw [if_neg h, if_neg h]
        rfl

/-- The steps of the start, one after the other. -/
theorem foldl_perform (rules : List OwnedRule) (v : Viewport) (steps : List StartStep) :
    ∀ (regs : List (Registration ManagedImage)) (s : Session),
      steps.foldl (StartStep.perform (LiveState.enter rules) (listenTo rules))
          (Matcher.settled v regs, s)
        = (Matcher.settled v (regs ++ steps.flatMap StartStep.registration),
            resolveAll rules v (steps.flatMap (StartStep.resolved v)) s) := by
  induction steps with
  | nil =>
      intro regs s
      rw [List.flatMap_nil, List.append_nil]
      rfl
  | cons step steps ih =>
      intro regs s
      rw [List.foldl_cons, perform_step, ih, List.flatMap_cons, List.flatMap_cons,
        List.append_assoc, resolveAll_append]

/-- The state after the start. -/
theorem start_settled (rules : List OwnedRule) (live : Bool) (images : List ManagedImage)
    (v : Viewport) (s : Session) :
    (LiveState.start rules live images ({ viewport := v }, s)).2
      = (Matcher.settled v ((startSteps live images).flatMap StartStep.registration),
          resolveAll rules v ((startSteps live images).flatMap (StartStep.resolved v))
            (s.reset images)) := by
  -- A synchronizer starts on a matcher without subscriptions.
  have hsteps := foldl_perform rules v (startSteps live images) [] (s.reset images)
  rw [List.nil_append] at hsteps
  exact hsteps

/-- The images that listen to a query which a change of the viewport takes to
    holding, in the order they are told. -/
def woken (v v' : Viewport) (regs : List (Registration ManagedImage)) : List ManagedImage :=
  (told v v' regs 0).map Firing.callback

/-- The state after a change of the viewport. -/
theorem resize_resolves (rules : List OwnedRule) (v v' : Viewport)
    (regs : List (Registration ManagedImage)) (s : Session) :
    (LiveState.resize rules v' (Matcher.settled v regs, s)).2
      = (Matcher.settled v' regs, resolveAll rules v' (woken v v' regs) s) := by
  rw [LiveState.resize, enter_eq_outside, resize_settled]
  simp only
  rw [show (MatcherCall.resize v').firings v regs = told v v' regs 0 from rfl,
    tellAll_resolve rules v' _ fun f hf => (mem_told v v' regs 0 f hf).2.1]
  rfl

/-- An image that listens to a query is woken when the query starts to hold. -/
theorem mem_woken (v v' : Viewport) (regs : List (Registration ManagedImage))
    {q : QueryList} {m : ManagedImage} (hr : (q, m) ∈ regs)
    (hrises : MatcherCall.rises q v v' = true) : m ∈ woken v v' regs := by
  rcases List.mem_iff_getElem?.mp hr with ⟨k, hk⟩
  refine List.mem_map.mpr ⟨⟨k, m, v'⟩, ?_, rfl⟩
  rw [told]
  refine List.mem_map.mpr ⟨((q, m), k), List.mem_filter.mpr ⟨?_, hrises⟩, rfl⟩
  exact List.mem_zipIdx_iff_getElem?.mpr hk

/-! ### Sources -/

/-- The attribute that resolutions write. -/
def syncEdits : List Text :=
  [sourceAttribute]

/-- The source of an element is the one a style value names, if that names one. -/
def InStep (value : Option Text) (d : Document) (i : NodeId) : Prop :=
  ∀ source, value.bind extractSource? = some source →
    d.attribute? i sourceAttribute = some source

section

variable (read : Document → NodeId → Option Text)

theorem document_resolveSource (d : Document) (i : NodeId) :
    (resolveSource read d i).document = d
      ∨ ∃ source, (resolveSource read d i).document = d.setAttribute i sourceAttribute source := by
  unfold resolveSource
  cases d.element? i with
  | none => exact Or.inl rfl
  | some e =>
      by_cases himage : e.isImage = true
      · simp only [if_pos himage]
        cases e.newSource? (read d i) with
        | none => exact Or.inl rfl
        | some source => exact Or.inr ⟨source, rfl⟩
      · refine Or.inl ?_
        simp only [if_neg himage]

/-- What the resolution of a source leaves alone. -/
theorem sameBut_resolveSource (d : Document) (i : NodeId) :
    Document.SameBut syncEdits d (resolveSource read d i).document := by
  rcases document_resolveSource read d i with hkept | ⟨source, hset⟩
  · rw [hkept]
    exact Document.SameBut.refl syncEdits d
  · rw [hset]
    exact Document.sameBut_setAttribute (by decide) d i source

theorem element?_resolveSource_of_ne (d : Document) {i j : NodeId} (hne : i ≠ j) :
    (resolveSource read d i).document.element? j = d.element? j := by
  rcases document_resolveSource read d i with hkept | ⟨source, hset⟩
  · rw [hkept]
  · rw [hset, Document.element?_setAttribute_of_ne d hne]

/-- The source after it has been resolved. -/
theorem inStep_resolveSource {d : Document} {i : NodeId} {e : Element}
    (he : d.element? i = some e) (himage : e.isImage = true) :
    InStep (read d i) (resolveSource read d i).document i := by
  intro source hsource
  have hnew : e.newSource? (read d i)
      = if e.attributes.get? sourceAttribute != some source then some source else none := by
    rw [Element.newSource?, hsource, Option.filter_some]
  unfold resolveSource
  simp only [he, if_pos himage, hnew]
  by_cases hsame : e.attributes.get? sourceAttribute = some source
  · -- The attribute says so already and is left alone.
    rw [if_neg (by rw [hsame]; simp)]
    rw [Document.attribute?, he]
    exact hsame
  · rw [if_pos (by simpa using hsame)]
    simp only [Document.attribute?, Document.element?_setAttribute d i e he]
    exact Attributes.get?_set_self e.attributes sourceAttribute source

end

/-! ### Resolutions of images -/

/-- What a resolution leaves alone. -/
theorem sameBut_resolve (rules : List OwnedRule) (m : ManagedImage) (v : Viewport)
    (s : Session) :
    Document.SameBut syncEdits s.document (resolveUnder rules m v s).document
      ∧ (resolveUnder rules m v s).held = s.held := by
  unfold resolveUnder Session.resolve
  by_cases halive : s.alive m.node = true
  · rw [if_pos halive]
    exact ⟨sameBut_resolveSource (sourceValue? rules v) s.document m.node, rfl⟩
  · rw [if_neg halive]
    exact ⟨Document.SameBut.refl syncEdits s.document, rfl⟩

/-- A session on a document whose sources may have been written since. -/
structure Following (d : Document) (s : Session) : Prop where
  same : Document.SameBut syncEdits d s.document
  held : s.held = true

/-- The elements of the document stay there. -/
theorem Following.alive {d : Document} {s : Session} (h : Following d s) {i : NodeId}
    (hcontains : d.contains i = true) : s.alive i = true :=
  Session.alive_of_contains h.held ((h.same.contains i).trans hcontains)

theorem following_resolve {d : Document} {s : Session} (h : Following d s)
    (rules : List OwnedRule) (m : ManagedImage) (v : Viewport) :
    Following d (resolveUnder rules m v s) where
  same := h.same.trans (sameBut_resolve rules m v s).1
  held := (sameBut_resolve rules m v s).2.trans h.held

section

variable {rules : List OwnedRule} {d : Document} {i : NodeId} {e : Element} {v : Viewport}
  {value : Option Text} (he : d.element? i = some e) (himage : e.isImage = true)
  (hcontains : d.contains i = true)
  (hvalue : ∀ d', Document.SameBut syncEdits d d' → sourceValue? rules v d' i = value)

include he himage hcontains hvalue

/-- An element is in step after its resolution, and stays in step when another one
    is resolved. -/
theorem inStep_resolve {s : Session} (hs : Following d s) (m : ManagedImage)
    (hstep : m.node = i ∨ InStep value s.document i) :
    InStep value (resolveUnder rules m v s).document i := by
  have halive : s.alive i = true := hs.alive hcontains
  unfold resolveUnder Session.resolve
  by_cases hnode : m.node = i
  · -- The image is that of the element, whose style has kept its value.
    rcases hs.same.element i e he with ⟨e', he', hsame⟩
    have himage' : e'.isImage = true := by
      rw [Element.isImage, hsame.isTag, ← Element.isImage, himage]
    have hresolved := inStep_resolveSource (sourceValue? rules v) he' himage'
    rw [hvalue s.document hs.same] at hresolved
    rw [hnode, if_pos halive]
    exact hresolved
  · -- The source of some other element is written.
    have hkept : InStep value s.document i := hstep.resolve_left hnode
    by_cases hother : s.alive m.node = true
    · rw [if_pos hother]
      intro source hsource
      rw [Document.attribute?, element?_resolveSource_of_ne _ _ hnode]
      exact hkept source hsource
    · rw [if_neg hother]
      exact hkept

/-- An element is in step after resolutions if it was before, or if one of them was
    its own. -/
theorem inStep_resolveAll (images : List ManagedImage) :
    ∀ s : Session, Following d s →
      ((∃ m ∈ images, m.node = i) ∨ InStep value s.document i) →
        Following d (resolveAll rules v images s)
          ∧ InStep value (resolveAll rules v images s).document i := by
  induction images with
  | nil =>
      intro s hs hstep
      refine ⟨hs, hstep.resolve_left ?_⟩
      rintro ⟨m, hm, _⟩
      exact absurd hm List.not_mem_nil
  | cons m images ih =>
      intro s hs hstep
      have hnext := following_resolve hs rules m v
      -- From its first resolution on, the element stays in step.
      by_cases hnow : m.node = i ∨ InStep value s.document i
      · exact ih _ hnext
          (Or.inr (inStep_resolve he himage hcontains hvalue hs m hnow))
      · refine ih _ hnext (Or.inl ?_)
        rcases hstep with ⟨m', hm', hnode⟩ | hkept
        · rcases List.mem_cons.mp hm' with hself | hlater
          · exact absurd (Or.inl (hself ▸ hnode)) hnow
          · exact ⟨m', hlater, hnode⟩
        · exact absurd (Or.inr hkept) hnow

end

end ResponsiveImages
