import ResponsiveImages.Live.Trial
import ResponsiveImages.Proofs.SyncHistory

/-!
# Trials as Histories

A trial drives a synchronizer event by event, in one of two ways: values come
from a table and queries are announced by hand, or both come from the rules of a
style sheet and a viewport. Both are histories in which little of what could
happen does happen.

A trial and a synchronizer system are at the same point if they share their
session, their images and the images of their callbacks, and if the system is
answered as the trial reads. With a table nothing fires during the start
(`FollowsTable`). With rules the matcher of the trial is settled, and a
registration fires at once if its query holds already (`FollowsRules`). From such
a point each event of the trial is matched by events of the system, and so what
holds after every history holds after every trial (`trial_is_history`).

## Main definitions

* `Trial.runAll`: A run of a trial.
* `FollowsTable`, `FollowsRules`, `Follows`: A system at the same point as a trial.
* `TrialEvent.byPage`: Events that the page brings about.
* `firedAt`: Whom a matcher that follows a viewport fires at a registration.

## Theorems

* `exists_fires`: Images are resolved by firing their callbacks.
* `foldl_steps`: The start with a matcher that follows a viewport.
* `followsTable_step`, `followsRules_step`, `follows_step`: Each event of a trial is
  matched.
* `trial_is_history`: Every trial on a scanned page is a history.
-/

namespace ResponsiveImages

/-- A trial after some events. -/
def Trial.runAll (events : List TrialEvent) (t : Trial) : Trial :=
  events.foldl (fun t event => (t.step event).2) t

/-- A system at the point of a trial with a table. -/
structure FollowsTable (t : Trial) (s : SyncSystem) : Prop where
  source : t.source = .table
  session : s.session = t.session
  images : s.registries = [t.images]
  answers : s.answers = fun _ => t.tableValue?
  callbacks : s.callbacks = t.registered.map Prod.snd
  /-- Nothing listens to the viewport. -/
  matcher : ∃ v, t.state.1 = Matcher.settled v []

/-- A system at the point of a trial with rules. -/
structure FollowsRules (rs : List OwnedRule) (v : Viewport)
    (regs : List (Registration ManagedImage)) (t : Trial) (s : SyncSystem) : Prop where
  source : t.source = .rules rs
  session : s.session = t.session
  images : s.registries = [t.images]
  answers : s.answers = fun _ => sourceValue? rs v
  callbacks : s.callbacks = regs.map Prod.snd
  matcher : t.state.1 = Matcher.settled v regs
  /-- Nothing is registered by hand. -/
  registered : t.registered = []

/-- A system at the point of a trial. -/
def Follows (t : Trial) (s : SyncSystem) : Prop :=
  FollowsTable t s ∨ ∃ rs v regs, FollowsRules rs v regs t s

namespace SyncSystem

theorem run_append (events events' : List SyncEvent) (s : SyncSystem) :
    s.run (events ++ events') = (s.run events).run events' :=
  List.foldl_append

theorem run_start {s : SyncSystem} {images : List ManagedImage} (h : s.registries = [images])
    (matcher : Option (Nat → List Nat)) :
    s.run [.start 0 matcher] = s.start matcher images := by
  simp only [run, List.foldl_cons, List.foldl_nil, step, h, List.getElem?_cons_zero]

/-- Images are resolved, one after the other, by firing their callbacks. -/
theorem exists_fires (read : Document → NodeId → Option Text) (images : List ManagedImage) :
    ∀ s : SyncSystem, s.answers = (fun _ => read) → (∀ m ∈ images, m ∈ s.callbacks) →
      ∃ events attempts, s.run events
        = { s with
            session := images.foldl (fun session m => session.resolve read m) s.session
            attempts } := by
  induction images with
  | nil => exact fun s _ _ => ⟨[], s.attempts, rfl⟩
  | cons m images ih =>
      intro s hanswers hmem
      rcases List.mem_iff_getElem?.mp (hmem m List.mem_cons_self) with ⟨k, hk⟩
      rcases ih (s.resolve m) hanswers fun m' hm' => hmem m' (List.mem_cons_of_mem _ hm')
        with ⟨events, attempts, hrun⟩
      refine ⟨.fire k :: events, attempts, ?_⟩
      have hfire : s.fire k = s.resolve m := by
        rw [fire, hk]
      -- The others are registered still, and values are read as before.
      have hcons : s.run (.fire k :: events) = (s.resolve m).run events :=
        congrArg (fun s => run events s) hfire
      rw [hcons, hrun]
      simp only [resolve, hanswers]
      rfl

/-- One step of a start whose matcher fires a callback that is registered if its
    query holds. -/
theorem perform_step (rs : List OwnedRule) (v : Viewport) (fired : Nat → List Nat)
    (step : StartStep) {regs : List (Registration ManagedImage)} {s : SyncSystem}
    (hanswers : s.answers = fun _ => sourceValue? rs v)
    (hcallbacks : s.callbacks = regs.map Prod.snd)
    (hfired : ∀ r ∈ step.registration,
      fired regs.length = if r.1.holds v then [regs.length] else []) :
    ∃ attempts, StartStep.perform resolve (listen fired) s step
      = { s with
          session := resolveAll rs v (step.resolved v) s.session
          callbacks := (regs ++ step.registration).map Prod.snd
          attempts } := by
  cases step with
  | resolve m =>
      refine ⟨(s.resolve m).attempts, ?_⟩
      rw [StartStep.registration, List.append_nil, ← hcallbacks, StartStep.perform]
      simp only [resolve, hanswers]
      rfl
  | subscribe m query =>
      have hlength : s.callbacks.length = regs.length := by
        rw [hcallbacks, List.length_map]
      have hregistered : s.callbacks ++ [m]
          = (regs ++ [(QueryList.read query, m)]).map Prod.snd := by
        rw [hcallbacks, List.map_append]
        rfl
      have hnew : (s.callbacks ++ [m])[regs.length]? = some m := by
        rw [← hlength, List.getElem?_append_right (Nat.le_refl _), Nat.sub_self]
        rfl
      -- The callback has the next free place, and that is what the matcher may fire.
      have hnow := hfired _ (List.mem_singleton_self _)
      rw [StartStep.perform, listen, hlength, hnow]
      by_cases hholds : (QueryList.read query).holds v = true
      · refine ⟨({ s with callbacks := s.callbacks ++ [m] } : SyncSystem).resolve m |>.attempts, ?_⟩
        rw [if_pos hholds, List.foldl_cons, List.foldl_nil, fire]
        simp only [hnew]
        simp only [resolve, hanswers, StartStep.resolved, hholds, if_true, StartStep.registration,
          ← hregistered]
        rfl
      · refine ⟨s.attempts, ?_⟩
        rw [if_neg hholds, List.foldl_nil]
        simp only [StartStep.resolved, hholds, StartStep.registration, ← hregistered]
        rfl

/-- A start whose matcher fires the callbacks whose query holds when they are
    registered. -/
theorem foldl_steps (rs : List OwnedRule) (v : Viewport) (fired : Nat → List Nat)
    (steps : List StartStep) :
    ∀ (regs : List (Registration ManagedImage)) (s : SyncSystem),
      s.answers = (fun _ => sourceValue? rs v) → s.callbacks = regs.map Prod.snd →
      (∀ n r, regs.length ≤ n → (regs ++ steps.flatMap StartStep.registration)[n]? = some r →
        fired n = if r.1.holds v then [n] else []) →
      ∃ attempts, steps.foldl (StartStep.perform resolve (listen fired)) s
        = { s with
            session := resolveAll rs v (steps.flatMap (StartStep.resolved v)) s.session
            callbacks := (regs ++ steps.flatMap StartStep.registration).map Prod.snd
            attempts } := by
  induction steps with
  | nil =>
      intro regs s _ hcallbacks _
      refine ⟨s.attempts, ?_⟩
      rw [List.flatMap_nil, List.flatMap_nil, List.append_nil, ← hcallbacks]
      rfl
  | cons step steps ih =>
      intro regs s hanswers hcallbacks hfired
      rw [List.flatMap_cons, ← List.append_assoc] at hfired
      have hnow : ∀ r ∈ step.registration,
          fired regs.length = if r.1.holds v then [regs.length] else [] := by
        intro r hr
        refine hfired regs.length r (Nat.le_refl _) ?_
        cases step with
        | resolve m => exact absurd hr List.not_mem_nil
        | subscribe m query =>
            rw [List.mem_singleton.mp hr, StartStep.registration, List.append_assoc,
              List.getElem?_append_right (Nat.le_refl _), Nat.sub_self]
            rfl
      rcases perform_step rs v fired step hanswers hcallbacks hnow with ⟨attempts, hstep⟩
      rcases ih (regs ++ step.registration) { s with
          session := resolveAll rs v (step.resolved v) s.session
          callbacks := (regs ++ step.registration).map Prod.snd
          attempts } hanswers rfl (fun n r hn hget => hfired n r (by
            rw [List.length_append] at hn
            omega) hget) with ⟨attempts', hrest⟩
      refine ⟨attempts', ?_⟩
      rw [List.foldl_cons, hstep, hrest, List.flatMap_cons, List.flatMap_cons, resolveAll_append,
        List.append_assoc]

end SyncSystem

/-! ### The page -/

/-- Whether an event of a trial is one of the page, or of those who keep handles. -/
def TrialEvent.byPage : TrialEvent → Bool
  | .setAttribute _ _ _ => true
  | .detach _ => true
  | .keep _ => true
  | .letGo _ => true
  | .dropDocument => true
  | _ => false

/-- What the page and those who keep handles do in a trial concerns the session only. -/
theorem page_event (t : Trial) (s : SyncSystem) {event : TrialEvent}
    (hpage : event.byPage = true) :
    ∃ change events, (t.step event).2 = t.mapSession change
      ∧ s.run events = { s with session := change s.session } := by
  cases event with
  | setAttribute id name value =>
      rw [Trial.step]
      cases t.aliveNode? id with
      | none => exact ⟨fun session => session, [], rfl, rfl⟩
      | some i =>
          exact ⟨fun session =>
              { session with document := session.document.setAttribute i name value },
            [.edit fun d => d.setAttribute i name value], rfl, rfl⟩
  | detach id =>
      rw [Trial.step]
      cases t.aliveNode? id with
      | none => exact ⟨fun session => session, [], rfl, rfl⟩
      | some i =>
          exact ⟨fun session => (session.detach? i).getD session, [.detach i], rfl, rfl⟩
  | keep id =>
      rw [Trial.step]
      cases t.aliveNode? id with
      | none => exact ⟨fun session => session, [], rfl, rfl⟩
      | some i => exact ⟨Session.keep i, [.keep i], rfl, rfl⟩
  | letGo id =>
      rw [Trial.step]
      cases t.aliveNode? id with
      | none => exact ⟨fun session => session, [], rfl, rfl⟩
      | some i => exact ⟨Session.letGo i, [.letGo i], rfl, rfl⟩
  | dropDocument => exact ⟨Session.drop, [.dropDocument], rfl, rfl⟩
  | start => exact absurd hpage (by decide)
  | setValue id value => exact absurd hpage (by simp [TrialEvent.byPage])
  | fire query => exact absurd hpage (by simp [TrialEvent.byPage])
  | resize v => exact absurd hpage (by simp [TrialEvent.byPage])

/-! ### Trials with a table -/

section

variable {t : Trial} {s : SyncSystem}

theorem FollowsTable.mapSession (h : FollowsTable t s) (change : Session → Session)
    (attempts : List Attempt) :
    FollowsTable (t.mapSession change) { s with session := change s.session, attempts } where
  source := h.source
  session := congrArg change h.session
  images := h.images
  answers := h.answers
  callbacks := h.callbacks
  matcher := h.matcher

theorem foldl_resolve (images : List ManagedImage) :
    ∀ t : Trial, images.foldl (fun t m => t.resolve m) t
      = t.mapSession fun session =>
          images.foldl (fun session m => session.resolve t.tableValue? m) session := by
  induction images with
  | nil => exact fun t => rfl
  | cons m images ih =>
      intro t
      rw [List.foldl_cons, ih]
      rfl

theorem followsTable_steps (steps : List StartStep) :
    ∀ (t : Trial) (s : SyncSystem), FollowsTable t s →
      FollowsTable (steps.foldl (StartStep.perform Trial.resolve Trial.listen) t)
        (steps.foldl (StartStep.perform SyncSystem.resolve (SyncSystem.listen fun _ => [])) s) := by
  induction steps with
  | nil => exact fun t s h => h
  | cons step steps ih =>
      intro t s h
      refine ih _ _ ?_
      cases step with
      | resolve m =>
          have hresolve : s.resolve m
              = { s with
                  session := s.session.resolve t.tableValue? m
                  attempts := (s.resolve m).attempts } := by
            simp only [SyncSystem.resolve, h.answers]
          rw [StartStep.perform, StartStep.perform, hresolve]
          exact h.mapSession (fun session => session.resolve t.tableValue? m) _
      | subscribe m query =>
          exact
            { h with
              callbacks := by
                show s.callbacks ++ [m] = (t.registered ++ [(query, m)]).map Prod.snd
                rw [h.callbacks, List.map_append]
                rfl }

/-- The start of a trial with a table. -/
theorem followsTable_start (h : FollowsTable t s) :
    ∃ events, FollowsTable (t.step .start).2 (s.run events) := by
  have hmatcher : ∃ matcher : Option (Nat → List Nat), matcher.isSome = t.live
      ∧ (matcher.getD fun _ => []) = fun _ => [] := by
    cases t.live with
    | true => exact ⟨some fun _ => [], rfl, rfl⟩
    | false => exact ⟨none, rfl, rfl⟩
  rcases hmatcher with ⟨matcher, hlive, hfired⟩
  have hreset : FollowsTable (t.mapSession fun session => session.reset t.images)
      { s with
        session := s.session.reset t.images
        started := some t.images
        attempts := []
        earlier := s.earlier ++ s.attempts } :=
    { h with session := congrArg (fun session => session.reset t.images) h.session }
  have hsteps := followsTable_steps (startSteps t.live t.images) _ _ hreset
  refine ⟨[.start 0 matcher], ?_⟩
  rw [SyncSystem.run_start h.images, SyncSystem.start, hlive, hfired, Trial.step, Trial.start,
    h.source]
  exact hsteps

/-- Each event of a trial with a table is matched. -/
theorem followsTable_step (h : FollowsTable t s) (event : TrialEvent) :
    ∃ events, FollowsTable (t.step event).2 (s.run events) := by
  have hpage : event.byPage = true → ∃ events, FollowsTable (t.step event).2 (s.run events) := by
    intro hevent
    rcases page_event t s hevent with ⟨change, events, hstep, hrun⟩
    refine ⟨events, ?_⟩
    rw [hstep, hrun]
    exact h.mapSession change s.attempts
  cases event with
  | start => exact followsTable_start h
  | setValue id value =>
      -- Laying down a value changes the answers.
      refine ⟨[.answer fun _ => (t.step (.setValue id value)).2.tableValue?], ?_⟩
      exact { h with answers := rfl }
  | fire query =>
      -- The registrations of a query are some of the callbacks.
      have hmem : ∀ m ∈ t.registrations query, m ∈ s.callbacks := by
        intro m hm
        rcases List.mem_map.mp hm with ⟨r, hr, heq⟩
        rw [h.callbacks, ← heq]
        exact List.mem_map_of_mem (List.mem_filter.mp hr).1
      rcases SyncSystem.exists_fires t.tableValue? _ s h.answers hmem
        with ⟨events, attempts, hrun⟩
      refine ⟨events, ?_⟩
      rw [hrun, Trial.step, foldl_resolve]
      exact h.mapSession (fun session => (t.registrations query).foldl
        (fun session m => session.resolve t.tableValue? m) session) attempts
  | resize v =>
      -- Nothing listens to the viewport.
      refine ⟨[], ?_⟩
      rcases h.matcher with ⟨v₀, hmatcher⟩
      have hresize := resize_resolves [] v₀ v [] t.state.2
      have hstate : t.state = (Matcher.settled v₀ [], t.state.2) := by
        rw [← hmatcher]
      rw [← hstate] at hresize
      rw [Trial.step, Trial.resize, h.source]
      simp only [hresize]
      exact { h with source := rfl, matcher := ⟨v, rfl⟩ }
  | setAttribute id name value => exact hpage rfl
  | detach id => exact hpage rfl
  | keep id => exact hpage rfl
  | letGo id => exact hpage rfl
  | dropDocument => exact hpage rfl

/-! ### Trials with rules -/

variable {rs : List OwnedRule} {v : Viewport} {regs : List (Registration ManagedImage)}

theorem FollowsRules.mapSession (h : FollowsRules rs v regs t s) (change : Session → Session)
    (attempts : List Attempt) :
    FollowsRules rs v regs (t.mapSession change)
      { s with session := change s.session, attempts } where
  source := h.source
  session := congrArg change h.session
  images := h.images
  answers := h.answers
  callbacks := h.callbacks
  matcher := h.matcher
  registered := h.registered

/-- Whom a matcher fires at a registration: the callback itself if its query holds. -/
def firedAt (v : Viewport) (regs : List (Registration ManagedImage)) (n : Nat) : List Nat :=
  if (regs[n]?).any fun r => r.1.holds v then [n] else []

/-- Without live matching nothing is registered. -/
theorem registrations_of_not_live (images : List ManagedImage) :
    (startSteps false images).flatMap StartStep.registration = [] := by
  rw [List.flatMap_eq_nil_iff]
  intro step hstep
  rcases List.mem_flatMap.mp hstep with ⟨m, _, hstep⟩
  rw [ManagedImage.startSteps, if_neg (by simp)] at hstep
  rw [List.mem_singleton.mp hstep]
  rfl

/-- The matcher of a start from certain registrations. -/
theorem exists_matcher (live : Bool) (v : Viewport) (regs : List (Registration ManagedImage))
    (images : List ManagedImage) :
    ∃ matcher : Option (Nat → List Nat), matcher.isSome = live
      ∧ ∀ n r, regs.length ≤ n →
        (regs ++ (startSteps live images).flatMap StartStep.registration)[n]? = some r →
          (matcher.getD fun _ => []) n = if r.1.holds v then [n] else [] := by
  cases live with
  | true =>
      refine ⟨some (firedAt v (regs ++ (startSteps true images).flatMap StartStep.registration)),
        rfl, ?_⟩
      intro n r _ hget
      rw [Option.getD_some, firedAt, hget, Option.any_some]
  | false =>
      refine ⟨none, rfl, ?_⟩
      intro n r hn hget
      rw [registrations_of_not_live, List.append_nil, List.getElem?_eq_none hn] at hget
      exact absurd hget (by simp)

/-- The start of a trial with rules. -/
theorem followsRules_start (h : FollowsRules rs v regs t s) :
    ∃ v' regs' events, FollowsRules rs v' regs' (t.step .start).2 (s.run events) := by
  rcases exists_matcher t.live v regs t.images with ⟨matcher, hlive, hfired⟩
  rcases SyncSystem.foldl_steps rs v (matcher.getD fun _ => []) (startSteps t.live t.images) regs
    { s with
      session := s.session.reset t.images
      started := some t.images
      attempts := []
      earlier := s.earlier ++ s.attempts } h.answers h.callbacks hfired with ⟨attempts, hsteps⟩
  have hstart : (LiveState.start rs t.live t.images t.state).2
      = (Matcher.settled v
            (regs ++ (startSteps t.live t.images).flatMap StartStep.registration),
          resolveAll rs v ((startSteps t.live t.images).flatMap (StartStep.resolved v))
            (t.state.2.reset t.images)) := by
    rw [← foldl_perform, ← h.matcher]
    rfl
  refine ⟨v, regs ++ (startSteps t.live t.images).flatMap StartStep.registration,
    [.start 0 matcher], ?_⟩
  rw [SyncSystem.run_start h.images, SyncSystem.start, hlive, hsteps, Trial.step, Trial.start, h.source]
  simp only [hstart]
  exact
    { h with
      source := rfl
      session := by
        rw [h.session]
        rfl
      callbacks := rfl
      matcher := rfl }

/-- Each event of a trial with rules is matched. -/
theorem followsRules_step (h : FollowsRules rs v regs t s) (event : TrialEvent) :
    ∃ v' regs' events, FollowsRules rs v' regs' (t.step event).2 (s.run events) := by
  have hstate : t.state = (Matcher.settled v regs, t.state.2) := by
    rw [← h.matcher]
  have hpage : event.byPage = true →
      ∃ v' regs' events, FollowsRules rs v' regs' (t.step event).2 (s.run events) := by
    intro hevent
    rcases page_event t s hevent with ⟨change, events, hstep, hrun⟩
    refine ⟨v, regs, events, ?_⟩
    rw [hstep, hrun]
    exact h.mapSession change s.attempts
  cases event with
  | start => exact followsRules_start h
  | setValue id value =>
      -- Nobody reads the table.
      exact ⟨v, regs, [], { h with }⟩
  | fire query =>
      have hnobody : t.registrations query = [] := by
        rw [Trial.registrations, h.registered]
        rfl
      refine ⟨v, regs, [], ?_⟩
      rw [Trial.step, hnobody]
      exact h
  | resize v' =>
      -- From now on values are read under the new viewport.
      have hmem : ∀ m ∈ woken v v' regs, m ∈ s.callbacks := by
        intro m hm
        rcases List.mem_map.mp hm with ⟨f, hf, heq⟩
        rcases Option.map_eq_some_iff.mp (mem_told v v' regs 0 f hf).2.2 with ⟨r, hr, hcallback⟩
        rw [h.callbacks, ← heq, ← hcallback]
        exact List.mem_map_of_mem (List.mem_of_getElem? hr)
      rcases SyncSystem.exists_fires (sourceValue? rs v') (woken v v' regs)
        { s with answers := fun _ => sourceValue? rs v' } rfl hmem with ⟨events, attempts, hrun⟩
      refine ⟨v', regs, .answer (fun _ => sourceValue? rs v') :: events, ?_⟩
      have hresize := resize_resolves rs v v' regs t.state.2
      rw [← hstate] at hresize
      have hcons : s.run (.answer (fun _ => sourceValue? rs v') :: events)
          = ({ s with answers := fun _ => sourceValue? rs v' } : SyncSystem).run events := rfl
      rw [hcons, hrun, Trial.step, Trial.resize, h.source]
      simp only [hresize]
      exact
        { h with
          source := rfl
          session := by
            show resolveAll rs v' (woken v v' regs) s.session = _
            rw [h.session]
            rfl
          answers := rfl
          matcher := rfl }
  | setAttribute id name value => exact hpage rfl
  | detach id => exact hpage rfl
  | keep id => exact hpage rfl
  | letGo id => exact hpage rfl
  | dropDocument => exact hpage rfl

/-! ### Runs -/

/-- Each event of a trial is matched. -/
theorem follows_step (h : Follows t s) (event : TrialEvent) :
    ∃ events, Follows (t.step event).2 (s.run events) := by
  rcases h with htable | ⟨rs, v, regs, hrules⟩
  · rcases followsTable_step htable event with ⟨events, hstep⟩
    exact ⟨events, Or.inl hstep⟩
  · rcases followsRules_step hrules event with ⟨v', regs', events, hstep⟩
    exact ⟨events, Or.inr ⟨rs, v', regs', hstep⟩⟩

theorem follows_runAll (events : List TrialEvent) :
    ∀ (t : Trial) (s : SyncSystem), Follows t s →
      ∃ history, Follows (t.runAll events) (s.run history) := by
  induction events with
  | nil => exact fun t s h => ⟨[], h⟩
  | cons event events ih =>
      intro t s h
      rcases follows_step h event with ⟨now, hnow⟩
      rcases ih _ _ hnow with ⟨later, hlater⟩
      exact ⟨now ++ later, SyncSystem.run_append now later s ▸ hlater⟩

end

/-- Every trial on a scanned page is a history of a synchronizer on that page. -/
theorem trial_is_history {config : Config} {d : Document} {scanned : ScanOutcome}
    (h : scan config d = .ok scanned) (live : Bool) (source : StyleSource) (v : Viewport)
    (events : List TrialEvent) :
    ∃ answers history,
      let t := Trial.runAll events
        { images := scanned.images
          live
          source
          state := ({ viewport := v }, { document := scanned.document }) }
      let s := (SyncSystem.ofDocument answers d).run history
      s.session = t.session ∧ s.registries = [t.images] := by
  have hscan : ∀ answers, (SyncSystem.ofDocument answers d).run [.scan config]
      = { session := { document := scanned.document }
          answers
          registries := [scanned.images] } := by
    intro answers
    simp only [SyncSystem.run, List.foldl_cons, List.foldl_nil, SyncSystem.step,
      SyncSystem.ofDocument, h, List.nil_append]
  have hstart : ∃ answers, Follows
      { images := scanned.images
        live
        source
        state := ({ viewport := v }, { document := scanned.document }) }
      ((SyncSystem.ofDocument answers d).run [.scan config]) := by
    cases source with
    | table =>
        -- The table is still empty.
        refine ⟨fun _ _ _ => none, Or.inl ?_⟩
        rw [hscan]
        refine ⟨rfl, rfl, rfl, ?_, rfl, v, rfl⟩
        funext _ d' i
        rw [Trial.tableValue?]
        cases d'.attribute? i Attribute.id with
        | none => rfl
        | some id => rfl
    | rules rs =>
        refine ⟨fun _ => sourceValue? rs v, Or.inr ⟨rs, v, [], ?_⟩⟩
        rw [hscan]
        exact ⟨rfl, rfl, rfl, rfl, rfl, rfl, rfl⟩
  rcases hstart with ⟨answers, hstart⟩
  rcases follows_runAll events _ _ hstart with ⟨history, hrun⟩
  refine ⟨answers, .scan config :: history, ?_⟩
  rcases hrun with htable | ⟨_, _, _, hrules⟩
  · exact ⟨htable.session, htable.images⟩
  · exact ⟨hrules.session, hrules.images⟩

end ResponsiveImages
