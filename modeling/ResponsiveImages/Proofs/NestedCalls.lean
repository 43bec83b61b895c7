import ResponsiveImages.Proofs.RisingEdges

/-!
# Calls from Callbacks

What a matcher knows about its subscriptions when callbacks call it themselves.

A callback is described by its script: a state around the matcher and the calls
that the callback makes, both of which may depend on all there is when it is
entered. Scripts nest, since the calls of a script enter further callbacks
(`Running.scripted`). Every call, nested or not, is noted down when it returns,
together with the viewport it was made under and the matcher it left.

The flags of a matcher are to say which queries hold. They do not survive every
script. A resize compares the queries with the viewport it was called for, also
after a callback has moved the viewport on, and a subscription enters the flag
that was found before its callback ran. When such a call returns, the flags
speak of a viewport that is past (`flags_lag_behind`).

What decides is whether the callbacks of a call leave a viewport under which
the same queries hold (`Returned.Undisturbed`). If all calls of a script are
undisturbed, the script carries the flags on (`CarriedOn`): each of them is right
at the end, or was there before, under the same viewport. This is what a resize
needs of the callbacks it enters, at any place of its loop. A resize asks nothing
of the flags it finds, so an undisturbed resize also repairs those that lag
behind.

## Main definitions

* `Returned`, `Recorded`: Calls that have returned.
* `MatcherCall.performRecorded`, `recordAll`, `recordHistory`: Calls that are noted
  down.
* `Running.scripted`: The effect of callbacks with scripts.
* `Running.enter`: The effect of a callback that may be running already.
* `Matcher.flags`, `Matcher.FlagsRight`: The queries of a matcher with their flags.
* `Returned.Undisturbed`: A call whose callbacks leave the viewport as it was, as
  far as the queries can tell.
* `During`: What follows from the calls in between being undisturbed.
* `CarriedOn`: What a script makes of the flags.
* `Visited`: The flags in the middle of a resize.

## Theorems

* `visited_visit`: Visiting one subscription of a resize.
* `right_resize`: A resize sets all flags right.
* `carriedOn_call`, `carriedOn_scripted`: Calls and scripts carry the flags on.
* `Matcher.FlagsRight.fired_resize`: Whom a resize tells if the flags are right.
* `flags_of_undisturbed_calls`: The flags after a history of calls.
* `flags_lag_behind`: Histories that leave wrong flags.
-/

namespace ResponsiveImages

open MatcherCall (rises)

variable {κ σ : Type}

/-- A call that has returned. -/
structure Returned (κ : Type) where
  call : MatcherCall κ
  /-- The viewport when the call was made. -/
  before : Viewport
  /-- The position of the new subscription, or the number of callbacks that were
      entered. -/
  answer : Nat
  /-- The matcher when the call returned. -/
  after : Matcher κ

/-- A state around a matcher, with the calls that have returned so far. -/
abbrev Recorded (κ σ : Type) := σ × List (Returned κ)

/-- Making a call and noting it down when it returns. -/
def MatcherCall.performRecorded (run : Running κ (Recorded κ σ))
    (state : Matcher κ × Recorded κ σ) (call : MatcherCall κ) : Matcher κ × Recorded κ σ :=
  let (answer, (m, (s, log))) := call.perform run state
  (m, (s, log ++ [⟨call, state.1.viewport, answer, m⟩]))

/-- Making calls, one after the other. -/
def recordAll (run : Running κ (Recorded κ σ)) (calls : List (MatcherCall κ))
    (state : Matcher κ × Recorded κ σ) : Matcher κ × Recorded κ σ :=
  calls.foldl (MatcherCall.performRecorded run) state

/-- A new matcher after calls, and all that has been noted down. -/
def recordHistory (run : Running κ (Recorded κ σ)) (v₀ : Viewport) (s₀ : σ)
    (calls : List (MatcherCall κ)) : Matcher κ × Recorded κ σ :=
  recordAll run calls ({ viewport := v₀ }, (s₀, []))

/-- The effect of callbacks with scripts that nest to a given depth. At the bottom
    a callback makes no calls. -/
def Running.scripted (script : κ → Matcher κ × σ → σ × List (MatcherCall κ)) :
    Nat → Running κ (Recorded κ σ)
  | 0, callback, (m, (s, log)) => (m, ((script callback (m, s)).1, log))
  | depth + 1, callback, (m, (s, log)) =>
    let (s', calls) := script callback (m, s)
    recordAll (scripted script depth) calls (m, (s', log))

/-- What a resize does with the callback it takes out of a subscription. -/
def Running.enter (run : Running κ σ) (callback : Option κ) (state : Matcher κ × σ) :
    Matcher κ × σ :=
  match callback with
  | some callback => run callback state
  | none => state

/-- The queries of a matcher, each with its flag. -/
def Matcher.flags (m : Matcher κ) : List (QueryList × Bool) :=
  m.subscriptions.toList.map fun s => (s.query, s.matching)

/-- The callbacks of a call may have moved the viewport, but not so that a query
    could tell it from the viewport the call was made for. -/
def Returned.Undisturbed (r : Returned κ) : Prop :=
  ∀ f ∈ r.after.flags, f.1.holds r.after.viewport = f.1.holds (r.call.viewportAfter r.before)

instance (r : Returned κ) : Decidable r.Undisturbed :=
  inferInstanceAs (Decidable (∀ f ∈ r.after.flags,
    f.1.holds r.after.viewport = f.1.holds (r.call.viewportAfter r.before)))

/-- Every flag says whether its query holds. -/
def Matcher.FlagsRight (m : Matcher κ) : Prop :=
  ∀ f ∈ m.flags, f.2 = f.1.holds m.viewport

instance (m : Matcher κ) : Decidable m.FlagsRight :=
  inferInstanceAs (Decidable (∀ f ∈ m.flags, f.2 = f.1.holds m.viewport))

/-- A later state has only added to the calls, and a property holds if the calls
    that were added are undisturbed. -/
def During (state state' : Matcher κ × Recorded κ σ) (p : Prop) : Prop :=
  ∃ added, state'.2.2 = state.2.2 ++ added ∧ ((∀ r ∈ added, r.Undisturbed) → p)

/-- Every flag of the later matcher is right, or nothing has changed for it. -/
def CarriedOn (m m' : Matcher κ) : Prop :=
  ∀ (i : Nat) (f : QueryList × Bool), m'.flags[i]? = some f →
    f.2 = f.1.holds m'.viewport ∨ (m'.viewport = m.viewport ∧ m.flags[i]? = some f)

/-- A matcher in the middle of a resize that found a number of subscriptions and has
    visited the first ones. The flags it has visited, and those that were added
    meanwhile, have been compared with the viewport of the resize or with that of the
    moment. -/
def Visited (v : Viewport) (found visited : Nat) (m : Matcher κ) : Prop :=
  ∀ (i : Nat) (f : QueryList × Bool), m.flags[i]? = some f → (i < visited ∨ found ≤ i) →
    f.2 = f.1.holds v ∨ f.2 = f.1.holds m.viewport

/-! ### Flags -/

theorem flags_getElem? (m : Matcher κ) (i : Nat) :
    m.flags[i]? = (m.subscriptions[i]?).map fun s => (s.query, s.matching) := by
  rw [Matcher.flags, List.getElem?_map, Array.getElem?_toList]

theorem length_flags (m : Matcher κ) : m.flags.length = m.size := by
  rw [Matcher.flags, List.length_map, Array.length_toList, Matcher.size]

theorem flags_compared (m : Matcher κ) (index : Nat) (now : Bool) :
    (m.modify index fun entry => entry.compared now).flags
      = m.flags.modify index fun f => (f.1, now) := by
  apply List.ext_getElem?
  intro i
  rw [flags_getElem?, List.getElem?_modify, flags_getElem?, Matcher.modify,
    Array.getElem?_modify]
  by_cases h : index = i
  · simp [h, Subscription.compared, Function.comp_def]
  · simp [h]

theorem flags_put_back (m : Matcher κ) (index : Nat) (callback : Option κ) :
    (m.modify index fun entry => { entry with callback }).flags = m.flags := by
  apply List.ext_getElem?
  intro i
  rw [flags_getElem?, flags_getElem?, Matcher.modify, Array.getElem?_modify]
  by_cases h : index = i
  · rw [if_pos h, Option.map_map]
    rfl
  · rw [if_neg h]

/-- Visiting a subscription. Its callback, if it is told, finds the flag set. -/
theorem visit_eq (run : Running κ σ) (v : Viewport) {m : Matcher κ} {index : Nat}
    {subscription : Subscription κ} (hget : m.subscriptions[index]? = some subscription)
    (fired : Nat) (s : σ) :
    Matcher.visit run v (fired, (m, s)) index
      = let m' := m.modify index fun entry => entry.compared (subscription.query.holds v)
        let told := Running.enter run subscription.callback (m', s)
        if (subscription.query.holds v && !subscription.matching) = true then
          (fired + 1,
            (told.1.modify index fun entry => { entry with callback := subscription.callback },
              told.2))
        else (fired, (m', s)) := by
  simp only [Matcher.visit, hget]
  rfl

theorem flags_push (m : Matcher κ) (s : Subscription κ) :
    ({ m with subscriptions := m.subscriptions.push s } : Matcher κ).flags
      = m.flags ++ [(s.query, s.matching)] := by
  rw [Matcher.flags, Array.toList_push, List.map_append]
  rfl

/-- A subscription tells its callback, if at all, before it is entered. -/
theorem subscribe_eq (run : Running κ σ) (query : Text) (callback : κ)
    (state : Matcher κ × σ) :
    Matcher.subscribe run query callback state
      = let matching := (QueryList.read query).holds state.1.viewport
        let told := Running.enter run (if matching then some callback else none) state
        (told.1.size,
          ({ told.1 with
              subscriptions := told.1.subscriptions.push
                ⟨QueryList.read query, matching, some callback⟩ }, told.2)) := by
  by_cases h : (QueryList.read query).holds state.1.viewport = true
  · simp only [Matcher.subscribe, h, if_true, Running.enter]
  · simp only [Matcher.subscribe, h, Running.enter, Bool.false_eq_true, if_false]

/-! ### Calls in between -/

variable {a b c : Matcher κ × Recorded κ σ} {p q : Prop}

theorem During.of_eq (h : b.2.2 = a.2.2) (hp : p) : During a b p :=
  ⟨[], by rw [h, List.append_nil], fun _ => hp⟩

theorem During.trans (hab : During a b p) (hbc : During b c q) : During a c (p ∧ q) := by
  rcases hab with ⟨added, heq, hp⟩
  rcases hbc with ⟨added', heq', hq⟩
  refine ⟨added ++ added', by rw [heq', heq, List.append_assoc], fun hall => ?_⟩
  exact ⟨hp fun r hr => hall r (List.mem_append_left _ hr),
    hq fun r hr => hall r (List.mem_append_right _ hr)⟩

theorem During.imp (h : During a b p) (hpq : p → q) : During a b q := by
  rcases h with ⟨added, heq, hp⟩
  exact ⟨added, heq, fun hall => hpq (hp hall)⟩

theorem CarriedOn.refl (m : Matcher κ) : CarriedOn m m :=
  fun _ _ hget => Or.inr ⟨rfl, hget⟩

theorem CarriedOn.trans {m m' m'' : Matcher κ} (h : CarriedOn m m') (h' : CarriedOn m' m'') :
    CarriedOn m m'' := by
  intro i f hget
  rcases h' i f hget with hright | ⟨hview', hget'⟩
  · exact Or.inl hright
  · -- Nothing has changed since the matcher in between.
    rw [hview']
    exact h i f hget'

/-! ### A resize -/

section

variable {run : Running κ (Recorded κ σ)}
  (hrun : ∀ callback state, During state (run callback state)
    (CarriedOn state.1 (run callback state).1))

include hrun in
theorem During.enter (callback : Option κ) (state : Matcher κ × Recorded κ σ) :
    During state (Running.enter run callback state)
      (CarriedOn state.1 (Running.enter run callback state).1) := by
  cases callback with
  | none => exact During.of_eq rfl (CarriedOn.refl _)
  | some callback => exact hrun callback state

/-- What a callback makes of a matcher in the middle of a resize. -/
theorem Visited.carriedOn {v : Viewport} {found visited : Nat} {m m' : Matcher κ}
    (h : Visited v found visited m) (hcarried : CarriedOn m m') :
    Visited v found visited m' := by
  intro i f hget hi
  rcases hcarried i f hget with hright | ⟨hview, hget'⟩
  · exact Or.inr hright
  · rw [hview]
    exact h i f hget' hi

theorem Visited.compared {v : Viewport} {found visited : Nat} {m : Matcher κ}
    (h : Visited v found visited m) {f : QueryList × Bool} (hf : m.flags[visited]? = some f) :
    Visited v found (visited + 1)
      (m.modify visited fun entry => entry.compared (f.1.holds v)) := by
  intro i g hget hi
  rw [flags_compared, List.getElem?_modify] at hget
  by_cases hturn : visited = i
  · -- The flag whose turn it is has just been compared.
    rw [← hturn, hf, Option.map_eq_map, Option.map_some, if_pos rfl, Option.some.injEq] at hget
    left
    rw [← hget]
  · simp only [hturn, if_false, Option.map_eq_map, Option.map_id'] at hget
    exact h i g hget (by omega)

include hrun in
/-- Visiting one subscription of a resize. -/
theorem visited_visit (v : Viewport) (found visited : Nat)
    (progress : Nat × (Matcher κ × Recorded κ σ)) :
    During progress.2 (Matcher.visit run v progress visited).2
      (Visited v found visited progress.2.1 →
        Visited v found (visited + 1) (Matcher.visit run v progress visited).2.1) := by
  rcases progress with ⟨fired, m, s⟩
  cases hget : m.subscriptions[visited]? with
  | none =>
      have hvisit : Matcher.visit run v (fired, (m, s)) visited = (fired, (m, s)) := by
        simp only [Matcher.visit, hget]
      rw [hvisit]
      refine During.of_eq rfl fun h i f hf hi => h i f hf ?_
      -- There is no such subscription, so there is no such flag.
      have hne : i ≠ visited := by
        intro heq
        rw [heq, flags_getElem?, hget] at hf
        exact absurd hf (by simp)
      omega
  | some subscription =>
      have hflag : m.flags[visited]? = some (subscription.query, subscription.matching) := by
        rw [flags_getElem?, hget, Option.map_some]
      rw [visit_eq run v hget]
      by_cases hedge : (subscription.query.holds v && !subscription.matching) = true
      · -- The callback finds the flag set already, so it counts as visited by then.
        rw [if_pos hedge]
        rcases During.enter hrun subscription.callback
          (m.modify visited fun entry => entry.compared (subscription.query.holds v), s)
          with ⟨added, heq, hcarried⟩
        refine ⟨added, heq, fun hall h i f hf hi => ?_⟩
        rw [flags_put_back] at hf
        exact (h.compared hflag).carriedOn (hcarried hall) i f hf hi
      · rw [if_neg hedge]
        exact During.of_eq rfl fun h => h.compared hflag

include hrun in
theorem visited_visits (v : Viewport) (found : Nat) (rest : Nat) :
    ∀ (visited : Nat) (progress : Nat × (Matcher κ × Recorded κ σ)),
      During progress.2 ((List.range' visited rest).foldl (Matcher.visit run v) progress).2
        (Visited v found visited progress.2.1 →
          Visited v found (visited + rest)
            ((List.range' visited rest).foldl (Matcher.visit run v) progress).2.1) := by
  induction rest with
  | zero =>
      intro visited progress
      exact During.of_eq rfl fun h => h
  | succ rest ih =>
      intro visited progress
      rw [List.range'_succ, List.foldl_cons]
      refine During.imp ((visited_visit hrun v found visited progress).trans (ih _ _)) ?_
      intro hsteps h
      -- What is added by the first visit and by the rest is undisturbed.
      have hrest := hsteps.2 (hsteps.1 h)
      rw [show visited + 1 + rest = visited + (rest + 1) by omega] at hrest
      exact hrest

include hrun in
/-- After a resize, the flags speak of the viewport of the resize or of that of the
    moment, whatever they were before. -/
theorem visited_resize (v : Viewport) (state : Matcher κ × Recorded κ σ) :
    During state (Matcher.resize run v state).2
      (∀ f ∈ (Matcher.resize run v state).2.1.flags,
        f.2 = f.1.holds v ∨ f.2 = f.1.holds (Matcher.resize run v state).2.1.viewport) := by
  let start : Matcher κ := { state.1 with viewport := v }
  have hvisits := visited_visits hrun v start.size start.size 0 (0, (start, state.2))
  rw [← List.range_eq_range', Nat.zero_add] at hvisits
  refine During.imp hvisits fun h f hf => ?_
  rcases List.mem_iff_getElem?.mp hf with ⟨i, hget⟩
  refine h ?_ i f hget (by omega)
  -- At the start, nothing has been visited and nothing added.
  intro j g hg hj
  have hlt : j < start.size := by
    rw [← length_flags]
    exact (List.getElem?_eq_some_iff.mp hg).1
  exact absurd hj (by omega)

/-! ### Calls and scripts -/

/-- A call is noted down when it returns. -/
theorem During.noted (h : During a b p) {r : Returned κ} (hc : c.2.2 = b.2.2 ++ [r]) :
    During a c (r.Undisturbed ∧ p) := by
  rcases h with ⟨added, heq, hp⟩
  refine ⟨added ++ [r], by rw [hc, heq, List.append_assoc], fun hall => ⟨?_, hp fun r' hr' => ?_⟩⟩
  · exact hall r (List.mem_append_right _ (List.mem_singleton_self r))
  · exact hall r' (List.mem_append_left _ hr')

include hrun in
/-- A resize sets all flags right. -/
theorem right_resize (v : Viewport) (state : Matcher κ × Recorded κ σ) :
    During state (MatcherCall.performRecorded run state (.resize v))
      (MatcherCall.performRecorded run state (.resize v)).1.FlagsRight := by
  refine During.imp ((visited_resize hrun v state).noted rfl) fun hnoted f hf => ?_
  -- The two viewports a flag may speak of are the same for its query.
  rcases hnoted.2 f hf with hold | hnow
  · rw [hold]
    exact (hnoted.1 f hf).symm
  · exact hnow

include hrun in
/-- A subscription carries the flags on, and enters one of its own. -/
theorem carriedOn_subscribe (query : Text) (callback : κ) (state : Matcher κ × Recorded κ σ) :
    During state (MatcherCall.performRecorded run state (.subscribe query callback))
      (CarriedOn state.1
        (MatcherCall.performRecorded run state (.subscribe query callback)).1) := by
  let matching := (QueryList.read query).holds state.1.viewport
  let told := Running.enter run (if matching then some callback else none) state
  rw [MatcherCall.performRecorded, MatcherCall.perform, subscribe_eq]
  refine During.imp ((During.enter hrun _ state).noted rfl) fun hnoted i f hget => ?_
  rw [flags_push] at hget
  rcases Nat.lt_or_ge i told.1.flags.length with hlt | hge
  · -- A subscription that was there when the callback had run.
    rw [List.getElem?_append_left hlt] at hget
    exact hnoted.2 i f hget
  · -- The new one. Its flag was found before the callback ran.
    have hf : f = (QueryList.read query, matching) := by
      rw [List.getElem?_append_right hge] at hget
      exact List.mem_singleton.mp (List.mem_of_getElem? hget)
    have hundisturbed := hnoted.1 (QueryList.read query, matching) (by
      rw [flags_push]
      exact List.mem_append_right _ (List.mem_singleton_self _))
    left
    rw [hf]
    exact hundisturbed.symm

include hrun in
theorem carriedOn_call (call : MatcherCall κ) (state : Matcher κ × Recorded κ σ) :
    During state (MatcherCall.performRecorded run state call)
      (CarriedOn state.1 (MatcherCall.performRecorded run state call).1) := by
  cases call with
  | subscribe query callback => exact carriedOn_subscribe hrun query callback state
  | resize v =>
      -- Nothing of what was before needs to be looked at.
      refine During.imp (right_resize hrun v state) fun hright i f hget => Or.inl ?_
      exact hright f (List.mem_of_getElem? hget)

include hrun in
theorem carriedOn_calls (calls : List (MatcherCall κ)) :
    ∀ state : Matcher κ × Recorded κ σ,
      During state (recordAll run calls state) (CarriedOn state.1 (recordAll run calls state).1) := by
  induction calls with
  | nil =>
      intro state
      exact During.of_eq rfl (CarriedOn.refl _)
  | cons call calls ih =>
      intro state
      refine During.imp ((carriedOn_call hrun call state).trans (ih _)) fun h => ?_
      exact h.1.trans h.2

end

/-- The script of a callback carries the flags on. -/
theorem carriedOn_scripted (script : κ → Matcher κ × σ → σ × List (MatcherCall κ)) (depth : Nat) :
    ∀ (callback : κ) (state : Matcher κ × Recorded κ σ),
      During state (Running.scripted script depth callback state)
        (CarriedOn state.1 (Running.scripted script depth callback state).1) := by
  induction depth with
  | zero =>
      intro callback state
      exact During.of_eq rfl (CarriedOn.refl _)
  | succ depth ih =>
      intro callback state
      rcases state with ⟨m, s, log⟩
      -- The callbacks that the script enters nest one level less.
      have hcalls := carriedOn_calls ih (script callback (m, s)).2
        (m, ((script callback (m, s)).1, log))
      exact hcalls

/-! ### Histories -/

theorem Matcher.FlagsRight.carriedOn {m m' : Matcher κ} (h : m.FlagsRight)
    (hcarried : CarriedOn m m') : m'.FlagsRight := by
  intro f hf
  rcases List.mem_iff_getElem?.mp hf with ⟨i, hget⟩
  rcases hcarried i f hget with hright | ⟨hview, hget'⟩
  · exact hright
  · rw [hview]
    exact h f (List.mem_of_getElem? hget')

theorem recordHistory_append (run : Running κ (Recorded κ σ)) (v₀ : Viewport) (s₀ : σ)
    (before calls : List (MatcherCall κ)) :
    recordHistory run v₀ s₀ (before ++ calls)
      = recordAll run calls (recordHistory run v₀ s₀ before) :=
  List.foldl_append

theorem During.of_drop (h : During a b p)
    (hall : ∀ r ∈ b.2.2.drop a.2.2.length, r.Undisturbed) : p := by
  rcases h with ⟨added, heq, hp⟩
  rw [heq, List.drop_left] at hall
  exact hp hall

/-- Visiting one subscription of a resize whose callbacks leave the matcher alone. -/
theorem flags_visit_outside (effect : κ → Viewport → σ → σ) (v : Viewport)
    {progress : Nat × (Matcher κ × σ)} {f : QueryList × Bool}
    {visited rest : List (QueryList × Bool)}
    (hflags : progress.2.1.flags = visited ++ f :: rest) :
    (Matcher.visit (Running.outside effect) v progress visited.length).1
        = progress.1 + (f.1.holds v && !f.2).toNat
      ∧ (Matcher.visit (Running.outside effect) v progress visited.length).2.1.flags
        = visited ++ (f.1, f.1.holds v) :: rest := by
  rcases progress with ⟨fired, m, s⟩
  have hget : m.flags[visited.length]? = some f := by
    rw [hflags, List.getElem?_append_right (Nat.le_refl _), Nat.sub_self]
    rfl
  have hcompared : (m.modify visited.length fun entry => entry.compared (f.1.holds v)).flags
      = visited ++ (f.1, f.1.holds v) :: rest := by
    rw [flags_compared, hflags, modify_at_length]
  rw [flags_getElem?] at hget
  rcases Option.map_eq_some_iff.mp hget with ⟨subscription, hsubscription, heq⟩
  have hleft : (Running.enter (Running.outside effect) subscription.callback
      (m.modify visited.length fun entry => entry.compared (f.1.holds v), s)).1
        = m.modify visited.length fun entry => entry.compared (f.1.holds v) := by
    cases subscription.callback with
    | none => rfl
    | some callback => rfl
  rw [visit_eq _ v hsubscription, ← heq]
  rw [← heq] at hcompared hleft
  by_cases hedge : (subscription.query.holds v && !subscription.matching) = true
  · rw [if_pos hedge, hedge, flags_put_back, hleft]
    exact ⟨rfl, hcompared⟩
  · rw [if_neg hedge, Bool.not_eq_true _ |>.mp hedge]
    exact ⟨rfl, hcompared⟩

/-- Visiting the subscriptions that have not been visited tells those whose query
    holds and whose flag denies it. -/
theorem fired_visits_outside (effect : κ → Viewport → σ → σ) (v : Viewport)
    (rest : List (QueryList × Bool)) :
    ∀ (visited : List (QueryList × Bool)) (progress : Nat × (Matcher κ × σ)),
      progress.2.1.flags = visited ++ rest →
        ((List.range' visited.length rest.length).foldl
            (Matcher.visit (Running.outside effect) v) progress).1
          = progress.1 + rest.countP fun f => f.1.holds v && !f.2 := by
  induction rest with
  | nil =>
      intro visited progress _
      rfl
  | cons f rest ih =>
      intro visited progress hflags
      rcases flags_visit_outside effect v hflags with ⟨hfired, hvisited⟩
      have hrest := ih (visited ++ [(f.1, f.1.holds v)])
        (Matcher.visit (Running.outside effect) v progress visited.length) (by
          rw [hvisited, List.append_assoc, List.singleton_append])
      rw [List.length_append, List.length_singleton] at hrest
      rw [List.length_cons, List.range'_succ, List.foldl_cons, hrest, hfired, List.countP_cons]
      cases (f.1.holds v && !f.2) with
      | false => simp
      | true => simp; omega

/-- A resize whose callbacks leave the matcher alone, from a matcher with the right
    flags, enters the subscriptions whose query starts to hold. -/
theorem Matcher.FlagsRight.fired_resize {m : Matcher κ} (h : m.FlagsRight)
    (effect : κ → Viewport → σ → σ) (v : Viewport) (s : σ) :
    (Matcher.resize (Running.outside effect) v (m, s)).1
      = m.flags.countP fun f => rises f.1 m.viewport v := by
  have hvisits := fired_visits_outside effect v m.flags [] (0, ({ m with viewport := v }, s)) rfl
  rw [List.length_nil, length_flags, ← List.range_eq_range', Nat.zero_add] at hvisits
  have hcount : (m.flags.countP fun f => f.1.holds v && !f.2)
      = m.flags.countP fun f => rises f.1 m.viewport v := by
    apply List.countP_congr
    intro f hf
    rw [h f hf, rises, Bool.and_comm]
  rw [← hcount, ← hvisits]
  rfl

/-- The flags after any calls on a new matcher whose callbacks perform scripts of
    calls themselves. If all calls were undisturbed, nested or not, then every flag
    says whether its query holds under the viewport of the moment. It is enough that
    they were since some resize that was not nested. A further resize whose callbacks
    leave the matcher alone tells of a query exactly if it starts to hold. -/
theorem flags_of_undisturbed_calls
    (script : κ → Matcher κ × σ → σ × List (MatcherCall κ)) (depth : Nat)
    (v₀ : Viewport) (s₀ : σ) (before calls : List (MatcherCall κ))
    (hcalls : before = [] ∨ ∃ v rest, calls = .resize v :: rest)
    (hundisturbed :
      ∀ r ∈ (recordHistory (Running.scripted script depth) v₀ s₀ (before ++ calls)).2.2.drop
        (recordHistory (Running.scripted script depth) v₀ s₀ before).2.2.length,
      r.Undisturbed) :
    let m := (recordHistory (Running.scripted script depth) v₀ s₀ (before ++ calls)).1
    (∀ f ∈ m.flags, f.2 = f.1.holds m.viewport)
      ∧ ∀ (effect : κ → Viewport → σ → σ) (v : Viewport) (s : σ),
        (Matcher.resize (Running.outside effect) v (m, s)).1
          = m.flags.countP fun f => rises f.1 m.viewport v := by
  have hrun := carriedOn_scripted script depth
  rw [recordHistory_append] at hundisturbed ⊢
  have hright : Matcher.FlagsRight (recordAll (Running.scripted script depth) calls
      (recordHistory (Running.scripted script depth) v₀ s₀ before)).1 := by
    rcases hcalls with hnew | ⟨v, rest, hresize⟩
    · have hnothing : (recordHistory (Running.scripted script depth) v₀ s₀ before).1.FlagsRight := by
        rw [hnew]
        exact fun f hf => absurd hf List.not_mem_nil
      exact hnothing.carriedOn ((carriedOn_calls hrun calls _).of_drop hundisturbed)
    · -- The resize repairs what may have gone wrong before.
      rw [hresize] at hundisturbed ⊢
      rcases ((right_resize hrun v _).trans (carriedOn_calls hrun rest _)).of_drop hundisturbed
        with ⟨hrepaired, hcarried⟩
      exact hrepaired.carriedOn hcarried
  exact ⟨hright, fun effect v s => hright.fired_resize effect v s⟩

/-! ### Histories with nested resizes -/

/-- Callbacks that resize the matcher. -/
def resizing (callback : List Viewport) (_ : Matcher (List Viewport) × Unit) :
    Unit × List (MatcherCall (List Viewport)) :=
  ((), callback.map .resize)

/-- A history on a matcher of middle size whose callbacks resize it. -/
def resizingHistory (calls : List (MatcherCall (List Viewport))) :
    Matcher (List Viewport) × Recorded (List Viewport) Unit :=
  recordHistory (Running.scripted resizing 2) { width := 600 } () calls

/-- A callback that moves the viewport to where its own query does not hold, and then
    one whose query cannot tell. The first leaves a wrong flag, which is right again
    in the end. -/
theorem flags_of_small_resizes :
    let disturbed : List (MatcherCall (List Viewport)) :=
      [.subscribe "(max-width: 650px)".toList [{ width := 800 }]]
    let calls : List (MatcherCall (List Viewport)) :=
      [.resize { width := 900 },
        .subscribe "(min-width: 700px)".toList [{ width := 1000 }],
        .resize { width := 660 }, .resize { width := 1200 }]
    let m := (resizingHistory (disturbed ++ calls)).1
    (∃ f ∈ (resizingHistory disturbed).1.flags,
        f.2 ≠ f.1.holds (resizingHistory disturbed).1.viewport)
      ∧ (∀ r ∈ (resizingHistory (disturbed ++ calls)).2.2.drop
          (resizingHistory disturbed).2.2.length, r.Undisturbed)
      ∧ (∀ f ∈ m.flags, f.2 = f.1.holds m.viewport)
      ∧ (Matcher.resize (Running.outside fun _ _ s => s) { width := 600 } (m, ())).1 = 1 := by
  intro disturbed calls m
  have hundisturbed : ∀ r ∈ (resizingHistory (disturbed ++ calls)).2.2.drop
      (resizingHistory disturbed).2.2.length, r.Undisturbed := by decide +kernel
  rcases flags_of_undisturbed_calls resizing 2 { width := 600 } () disturbed calls
    (Or.inr ⟨_, _, rfl⟩) hundisturbed with ⟨hright, hfired⟩
  exact ⟨by decide +kernel, hundisturbed, hright, (hfired _ _ _).trans (by decide +kernel)⟩

/-- Two histories that leave wrong flags, the first of them by a resize from within a
    subscription and the second by one from within a resize. The next resize then
    passes over a query that starts to hold, and tells of one that has held before. -/
theorem flags_lag_behind :
    let missed := resizingHistory
      [.resize { width := 1200 }, .subscribe "(min-width: 1000px)".toList [{ width := 320 }]]
    let repeated := resizingHistory
      [.subscribe "(min-width: 1000px)".toList [{ width := 320 }],
        .subscribe "(max-width: 400px)".toList [],
        .resize { width := 1200 }]
    ¬ missed.1.FlagsRight
      ∧ (missed.1.flags.countP fun f => rises f.1 missed.1.viewport { width := 1200 }) = 1
      ∧ (Matcher.resize (Running.scripted resizing 2) { width := 1200 } missed).1 = 0
      ∧ ¬ repeated.1.FlagsRight
      ∧ (repeated.1.flags.countP fun f => rises f.1 repeated.1.viewport { width := 300 }) = 0
      ∧ (Matcher.resize (Running.scripted resizing 2) { width := 300 } repeated).1 = 1 := by
  decide +kernel

end ResponsiveImages
