import ResponsiveImages.Live.Start
import ResponsiveImages.Proofs.SyncHistory

/-!
# The Ledger of a Start

Which images a start resolves, which queries it registers, and what is left for the
events behind it.

The loop of a start decides image by image, but it does not act alone. A matcher may
fire callbacks in the middle of a registration, so that the list of attempts is not
that of the start itself, and a callback says nothing of the query it was registered
for. `StartLedger` keeps both apart: next to the system stand the attempts that the
start makes on its own account and the registrations in their order. Keeping books
changes nothing (`system_start`).

What can be said about an image that was never registered follows from one remark.
Between two starts, attempts are made by callbacks alone (`Onward`). So all attempts
on an image without a callback are found in the ledger, no matter what happens after
the start or during it (`Booked`).

## Main definitions

* `StartStep.upFront?`, `StartStep.registered?`: What a step of the start does.
* `ManagedImage.passive`: An image that waits for nothing.
* `Attempt.asked`: An attempt that asks for a style value.
* `StartLedger`, `StartLedger.start`: A start with its ledger.
* `Onward`: What happens between two starts.
* `Booked`: What the ledger says about the system.
* `SingleStart`: A start and all that follows it.

## Theorems

* `upFront_startSteps`, `registered_startSteps`: The steps of a start, image by image.
* `reads_resolve`: What an attempt asks for.
* `StartLedger.system_start`: The ledger keeps to the start.
* `onward_step`, `onward_run`: Events that are no start.
* `booked_steps`: The ledger of a start.
* `start_of_new_synchronizer`: A single start on a scanned page.
-/

namespace ResponsiveImages

open Text

/-! ### The steps of a start -/

namespace StartStep

/-- The image that a step resolves. -/
def upFront? : StartStep → Option ManagedImage
  | resolve m => some m
  | subscribe _ _ => none

/-- The image and the query that a step registers. -/
def registered? : StartStep → Option (ManagedImage × Text)
  | resolve _ => none
  | subscribe m query => some (m, query)

end StartStep

/-- An image that is resolved at the start and waits for nothing: without live
    matching any image, and else those in fallback mode. -/
def ManagedImage.passive (live : Bool) (m : ManagedImage) : Bool :=
  !live || m.fallbackMode

theorem startSteps_of_passive {live : Bool} {m : ManagedImage} (h : m.passive live = true) :
    m.startSteps live = [.resolve m] := by
  have hlive : (live && !m.fallbackMode) = false := by
    cases live <;> simp_all [ManagedImage.passive]
  rw [ManagedImage.startSteps, hlive, if_neg Bool.false_ne_true]

theorem startSteps_of_driven {live : Bool} {m : ManagedImage} (h : m.passive live = false) :
    m.startSteps live
      = (if m.listensTo.isEmpty || m.hasUnconditional then [.resolve m] else [])
        ++ m.listensTo.map (.subscribe m) := by
  have hlive : (live && !m.fallbackMode) = true := by
    cases live <;> simp_all [ManagedImage.passive]
  rw [ManagedImage.startSteps, if_pos hlive]

/-- The images that are resolved at the start, in order. -/
theorem upFront_startSteps (live : Bool) (images : List ManagedImage) :
    (startSteps live images).filterMap StartStep.upFront?
      = images.filter fun m => m.passive live || m.listensTo.isEmpty || m.hasUnconditional := by
  induction images with
  | nil => rfl
  | cons m images ih =>
      rw [startSteps] at ih
      rw [startSteps, List.flatMap_cons, List.filterMap_append, ih, List.filter_cons]
      cases hpassive : m.passive live with
      | true =>
          rw [startSteps_of_passive hpassive, Bool.true_or, Bool.true_or, if_pos rfl]
          rfl
      | false =>
          -- Registrations resolve nothing.
          have hnone : (m.listensTo.map (StartStep.subscribe m)).filterMap StartStep.upFront?
              = [] := by
            rw [List.filterMap_map, List.filterMap_eq_nil_iff]
            exact fun _ _ => rfl
          rw [startSteps_of_driven hpassive, List.filterMap_append, hnone, List.append_nil,
            Bool.false_or]
          by_cases hnow : (m.listensTo.isEmpty || m.hasUnconditional) = true
          · rw [if_pos hnow, if_pos hnow]
            rfl
          · rw [if_neg hnow, if_neg hnow]
            rfl

/-- The registrations of the start, in order. -/
theorem registered_startSteps (live : Bool) (images : List ManagedImage) :
    (startSteps live images).filterMap StartStep.registered?
      = (images.filter fun m => !m.passive live).flatMap
          fun m => m.listensTo.map fun query => (m, query) := by
  induction images with
  | nil => rfl
  | cons m images ih =>
      rw [startSteps] at ih
      rw [startSteps, List.flatMap_cons, List.filterMap_append, ih, List.filter_cons]
      cases hpassive : m.passive live with
      | true =>
          rw [startSteps_of_passive hpassive, Bool.not_true, if_neg Bool.false_ne_true]
          rfl
      | false =>
          have hall : (m.listensTo.map (StartStep.subscribe m)).filterMap StartStep.registered?
              = m.listensTo.map fun query => (m, query) := by
            rw [List.filterMap_map, ← List.filterMap_eq_map]
            rfl
          have hfirst : (if (m.listensTo.isEmpty || m.hasUnconditional) = true
              then [StartStep.resolve m] else []).filterMap StartStep.registered? = [] := by
            split <;> rfl
          rw [startSteps_of_driven hpassive, List.filterMap_append, hfirst, hall, List.nil_append,
            Bool.not_false, if_pos rfl, List.flatMap_cons]

/-- The report counts the steps of each kind. -/
theorem report_eq (steps : List StartStep) :
    SyncReport.ofSteps steps
      = ⟨(steps.filterMap StartStep.upFront?).length,
          (steps.filterMap StartStep.registered?).length⟩ := by
  rw [SyncReport.ofSteps, List.length_filterMap_eq_countP, List.length_filterMap_eq_countP]
  congr 1
  · exact List.countP_congr fun step _ => by cases step <;> simp [StartStep.upFront?]
  · exact List.countP_congr fun step _ => by cases step <;> simp [StartStep.registered?]

/-! ### Attempts -/

/-- The attempt asks for a style value: it finds an image element. -/
def Attempt.asked (a : Attempt) : Bool :=
  a.alive && (a.before.document.element? a.image.node).any Element.isImage

section

variable (read : Document → NodeId → Option Text)

theorem asked_resolveSource (d : Document) (i : NodeId) :
    (resolveSource read d i).asked = (d.element? i).any Element.isImage := by
  unfold resolveSource
  cases d.element? i with
  | none => rfl
  | some e =>
      rw [Option.any_some]
      by_cases himage : e.isImage = true
      · simp only [himage]
        cases e.newSource? (read d i) <;> rfl
      · simp only [if_neg himage]
        exact (Bool.not_eq_true _ |>.mp himage).symm

/-- An attempt costs one question if it finds an image element, and none else. -/
theorem reads_resolve (s : Session) (m : ManagedImage) :
    (s.resolve read m).reads
      = s.reads + (Attempt.asked ⟨m, s, s.resolve read m⟩).toNat := by
  by_cases halive : s.alive m.node = true
  · rw [Attempt.asked, Attempt.alive]
    simp only [halive, Bool.true_and]
    rw [resolve_of_alive read halive, asked_resolveSource]
  · rw [resolve_of_gone read (Bool.not_eq_true _ |>.mp halive), Attempt.asked, Attempt.alive]
    simp only [halive, Bool.false_and, Bool.toNat_false, Nat.add_zero]

end

/-! ### The ledger -/

/-- A system in the midst of a start, with what the start has done so far. -/
structure StartLedger where
  system : SyncSystem
  /-- The attempts of the start itself. -/
  upFront : List Attempt := []
  registered : List (ManagedImage × Text) := []

namespace StartLedger

/-- The start resolves an image. -/
def resolve (m : ManagedImage) (l : StartLedger) : StartLedger :=
  let system := l.system.resolve m
  { l with
    system
    upFront := l.upFront ++ [⟨m, l.system.session, system.session⟩] }

/-- The start registers an image for a query. -/
def listen (fired : Nat → List Nat) (m : ManagedImage) (query : Text) (l : StartLedger) :
    StartLedger :=
  { l with
    system := l.system.listen fired m query
    registered := l.registered ++ [(m, query)] }

/-- One step of the start. -/
def step (fired : Nat → List Nat) : StartLedger → StartStep → StartLedger :=
  StartStep.perform resolve (listen fired)

/-- The ledger before the first step. -/
def opened (images : List ManagedImage) (s : SyncSystem) : StartLedger where
  system := { s with
    session := s.session.reset images
    started := some images
    attempts := []
    earlier := s.earlier ++ s.attempts }

/-- The start on some images, with its report. -/
def start (matcher : Option (Nat → List Nat)) (images : List ManagedImage) (s : SyncSystem) :
    SyncReport × StartLedger :=
  let steps := startSteps matcher.isSome images
  (SyncReport.ofSteps steps, steps.foldl (step (matcher.getD fun _ => [])) (opened images s))

/-- Keeping a ledger does not change the start. -/
theorem system_start (matcher : Option (Nat → List Nat)) (images : List ManagedImage)
    (s : SyncSystem) : (start matcher images s).2.system = s.start matcher images := by
  refine (List.foldl_hom StartLedger.system fun l step => ?_).symm
  cases step <;> rfl

/-- The ledger lists what the steps do. -/
theorem entries_steps (fired : Nat → List Nat) (steps : List StartStep) :
    ∀ l : StartLedger,
      (steps.foldl (step fired) l).upFront.map Attempt.image
          = l.upFront.map Attempt.image ++ steps.filterMap StartStep.upFront?
        ∧ (steps.foldl (step fired) l).registered
          = l.registered ++ steps.filterMap StartStep.registered? := by
  induction steps with
  | nil =>
      intro l
      rw [List.foldl_nil, List.filterMap_nil, List.filterMap_nil, List.append_nil,
        List.append_nil]
      exact ⟨rfl, rfl⟩
  | cons now steps ih =>
      intro l
      rcases ih (step fired l now) with ⟨hupFront, hregistered⟩
      rw [List.foldl_cons, hupFront, hregistered]
      cases now with
      | resolve m =>
          refine ⟨?_, rfl⟩
          show (l.upFront ++ [_]).map Attempt.image ++ _ = _
          rw [List.map_append, List.append_assoc]
          rfl
      | subscribe m query =>
          refine ⟨rfl, ?_⟩
          show l.registered ++ [(m, query)] ++ _ = _
          rw [List.append_assoc]
          rfl

end StartLedger

/-! ### Between two starts -/

/-- The event is a start. -/
def SyncEvent.starts : SyncEvent → Bool
  | start _ _ => true
  | _ => false

/-- What happens to a system without a start. Nothing is registered, and attempts are
    made by callbacks. -/
structure Onward (more : List Attempt) (s s' : SyncSystem) : Prop where
  callbacks : s'.callbacks = s.callbacks
  registries : s.registries <+: s'.registries
  log : s'.log = s.log ++ more
  known : ∀ a ∈ more, a.image ∈ s.callbacks
  reads : s'.session.reads = s.session.reads + more.countP Attempt.asked

namespace Onward

variable {more more' : List Attempt} {s s' s'' : SyncSystem}

theorem refl (s : SyncSystem) : Onward [] s s :=
  ⟨rfl, List.prefix_refl _, (List.append_nil _).symm, fun _ h => absurd h List.not_mem_nil, rfl⟩

theorem trans (h : Onward more s s') (h' : Onward more' s' s'') :
    Onward (more ++ more') s s'' where
  callbacks := h'.callbacks.trans h.callbacks
  registries := h.registries.trans h'.registries
  log := by rw [h'.log, h.log, List.append_assoc]
  known := by
    intro a ha
    rcases List.mem_append.mp ha with hfirst | hlater
    · exact h.known a hfirst
    · exact h.callbacks ▸ h'.known a hlater
  reads := by rw [h'.reads, h.reads, List.countP_append, Nat.add_assoc]

end Onward

namespace SyncSystem

theorem reads_after_resolve (m : ManagedImage) (s : SyncSystem) :
    (s.resolve m).session.reads
      = s.session.reads
        + [(⟨m, s.session, (s.resolve m).session⟩ : Attempt)].countP Attempt.asked := by
  rw [List.countP_singleton]
  refine (reads_resolve (s.answers s.session.reads) s.session m).trans ?_
  cases h : Attempt.asked ⟨m, s.session, (s.resolve m).session⟩ with
  | false => exact congrArg (fun asked : Bool => s.session.reads + asked.toNat) h
  | true => exact congrArg (fun asked : Bool => s.session.reads + asked.toNat) h

theorem onward_fire (s : SyncSystem) (callback : Nat) :
    ∃ more, Onward more s (s.fire callback) := by
  rw [fire]
  cases hget : s.callbacks[callback]? with
  | none => exact ⟨[], Onward.refl s⟩
  | some m =>
      refine ⟨[⟨m, s.session, (s.resolve m).session⟩], rfl, List.prefix_refl _, log_resolve m s,
        ?_, reads_after_resolve m s⟩
      intro a ha
      rw [List.mem_singleton.mp ha]
      exact List.mem_of_getElem? hget

theorem onward_fires (callbacks : List Nat) :
    ∀ s : SyncSystem, ∃ more, Onward more s (callbacks.foldl fire s) := by
  induction callbacks with
  | nil => exact fun s => ⟨[], Onward.refl s⟩
  | cons callback callbacks ih =>
      intro s
      rcases onward_fire s callback with ⟨first, hfirst⟩
      rcases ih (s.fire callback) with ⟨later, hlater⟩
      exact ⟨first ++ later, hfirst.trans hlater⟩

/-- What the page does concerns neither the callbacks nor the attempts. -/
theorem onward_of_page {s s' : SyncSystem} (hcallbacks : s'.callbacks = s.callbacks)
    (hregistries : s.registries <+: s'.registries) (hlog : s'.log = s.log)
    (hreads : s'.session.reads = s.session.reads) : Onward [] s s' :=
  ⟨hcallbacks, hregistries, hlog.trans (List.append_nil _).symm,
    fun _ h => absurd h List.not_mem_nil, hreads⟩

/-- An event that is no start. -/
theorem onward_step (s : SyncSystem) {event : SyncEvent} (h : event.starts = false) :
    ∃ more, Onward more s (s.step event) := by
  cases event with
  | scan config =>
      rw [step]
      cases ResponsiveImages.scan config s.session.document with
      | error reason => exact ⟨[], Onward.refl s⟩
      | ok scanned => exact ⟨[], onward_of_page rfl (List.prefix_append _ _) rfl rfl⟩
  | start registry matcher => exact absurd h (by simp [SyncEvent.starts])
  | fire callback => exact onward_fire s callback
  | answer answers => exact ⟨[], onward_of_page rfl (List.prefix_refl _) rfl rfl⟩
  | edit change => exact ⟨[], onward_of_page rfl (List.prefix_refl _) rfl rfl⟩
  | keep i =>
      exact ⟨[], onward_of_page rfl (List.prefix_refl _) rfl (s.session.sameLedger_keep i).reads⟩
  | letGo i => exact ⟨[], onward_of_page rfl (List.prefix_refl _) rfl rfl⟩
  | detach i =>
      exact ⟨[],
        onward_of_page rfl (List.prefix_refl _) rfl (s.session.sameLedger_detach i).reads⟩
  | dropDocument => exact ⟨[], onward_of_page rfl (List.prefix_refl _) rfl rfl⟩

theorem onward_run (events : List SyncEvent) :
    ∀ s : SyncSystem, (∀ event ∈ events, event.starts = false) →
      ∃ more, Onward more s (s.run events) := by
  induction events with
  | nil => exact fun s _ => ⟨[], Onward.refl s⟩
  | cons event events ih =>
      intro s h
      rcases onward_step s (h event List.mem_cons_self) with ⟨first, hfirst⟩
      rcases ih (s.step event) fun event' h' => h event' (List.mem_cons_of_mem _ h')
        with ⟨later, hlater⟩
      exact ⟨first ++ later, hfirst.trans hlater⟩

end SyncSystem

/-! ### What the ledger says -/

/-- What the ledger of a start says about the system, given which elements were alive
    when the start began. -/
structure Booked (there : NodeId → Bool) (l : StartLedger) : Prop where
  callbacks : l.system.callbacks = l.registered.map Prod.fst
  alive : ∀ i, l.system.session.alive i = there i
  upFront : ∀ a ∈ l.upFront, a.alive = there a.image.node
  /-- On images that have no callback, there are no attempts but those of the start. -/
  log : ∀ p : ManagedImage → Bool, (∀ m ∈ l.system.callbacks, p m = false) →
    l.system.log.filter (fun a => p a.image) = l.upFront.filter fun a => p a.image
  reads : l.system.session.reads = l.system.log.countP Attempt.asked

theorem filter_of_onward {more : List Attempt} {s s' : SyncSystem} (h : Onward more s s')
    {p : ManagedImage → Bool} (hp : ∀ m ∈ s.callbacks, p m = false) :
    s'.log.filter (fun a => p a.image) = s.log.filter fun a => p a.image := by
  have hnone : more.filter (fun a => p a.image) = [] := by
    rw [List.filter_eq_nil_iff]
    intro a ha
    rw [hp _ (h.known a ha)]
    exact Bool.false_ne_true
  rw [h.log, List.filter_append, hnone, List.append_nil]

/-- One step of the start. -/
theorem booked_step {there : NodeId → Bool} (fired : Nat → List Nat) {l : StartLedger}
    (h : Booked there l) (step : StartStep) : Booked there (l.step fired step) := by
  cases step with
  | resolve m =>
      refine ⟨h.callbacks, fun i => (alive_resolve _ _ m i).trans (h.alive i), ?_, ?_, ?_⟩
      · intro a ha
        rcases List.mem_append.mp ha with hbefore | hnow
        · exact h.upFront a hbefore
        · rw [List.mem_singleton.mp hnow]
          exact h.alive m.node
      · intro p hp
        show (l.system.resolve m).log.filter _ = (l.upFront ++ [_]).filter _
        rw [SyncSystem.log_resolve, List.filter_append, List.filter_append, h.log p hp]
        rfl
      · show (l.system.resolve m).session.reads = (l.system.resolve m).log.countP _
        rw [SyncSystem.log_resolve, List.countP_append, ← h.reads]
        exact SyncSystem.reads_after_resolve m l.system
  | subscribe m query =>
      -- The callback is there before anything is fired.
      let registered : SyncSystem :=
        { l.system with callbacks := l.system.callbacks ++ [m] }
      rcases SyncSystem.onward_fires (fired l.system.callbacks.length) registered
        with ⟨more, hmore⟩
      refine ⟨?_, ?_, h.upFront, ?_, ?_⟩
      · refine hmore.callbacks.trans ?_
        show l.system.callbacks ++ [m] = (l.registered ++ [(m, query)]).map Prod.fst
        rw [h.callbacks, List.map_append]
        rfl
      · intro i
        exact (SyncSystem.alive_fires _ i registered).trans (h.alive i)
      · intro p hp
        have hp' : ∀ m' ∈ registered.callbacks, p m' = false := hmore.callbacks ▸ hp
        refine (filter_of_onward hmore hp').trans ?_
        exact h.log p fun m' hm' => hp' m' (List.mem_append_left _ hm')
      · refine hmore.reads.trans ?_
        show _ = (List.foldl SyncSystem.fire registered _).log.countP _
        rw [hmore.log, List.countP_append]
        exact congrArg (fun n => n + more.countP Attempt.asked) h.reads

theorem booked_steps {there : NodeId → Bool} (fired : Nat → List Nat) (steps : List StartStep) :
    ∀ l : StartLedger, Booked there l → Booked there (steps.foldl (StartLedger.step fired) l) := by
  induction steps with
  | nil => exact fun _ h => h
  | cons step steps ih => exact fun l h => ih _ (booked_step fired h step)

/-- The ledger before the first step, if nothing has been registered or attempted. -/
theorem booked_opened (images : List ManagedImage) {s : SyncSystem} (hcallbacks : s.callbacks = [])
    (hlog : s.log = []) (hreads : s.session.reads = 0) :
    Booked s.session.alive (StartLedger.opened images s) := by
  have hopened : (StartLedger.opened images s).system.log = [] := by
    rw [SyncSystem.log]
    exact (List.append_nil _).trans hlog
  refine ⟨hcallbacks, fun _ => rfl, fun _ h => absurd h List.not_mem_nil, ?_, ?_⟩
  · intro p _
    rw [hopened]
    rfl
  · rw [hopened]
    exact hreads

/-- Attempts on different images are told apart by their images. -/
theorem filter_attempts {attempts : List Attempt} (hnodup : (attempts.map Attempt.image).Nodup)
    {m : ManagedImage} (hm : m ∈ attempts.map Attempt.image) :
    ∃ a ∈ attempts, attempts.filter (fun b => b.image == m) = [a] := by
  have himages : (attempts.filter fun b => b.image == m).map Attempt.image = [m] := by
    have hcount := List.count_eq_one_of_mem hnodup hm
    rw [show (fun b : Attempt => b.image == m) = (fun x => x == m) ∘ Attempt.image from rfl,
      ← List.filter_map, List.filter_beq, hcount]
    rfl
  rcases List.map_eq_singleton_iff.mp himages with ⟨a, hfilter, _⟩
  refine ⟨a, ?_, hfilter⟩
  refine List.mem_of_mem_filter (p := fun b => b.image == m) ?_
  rw [hfilter]
  exact List.mem_singleton_self a

/-! ### A single start -/

/-- A system after a start and whatever has followed it, with the report and the ledger
    of the start, given its images and the system before it. -/
structure SingleStart (live : Bool) (images : List ManagedImage) (before : SyncSystem)
    (report : SyncReport) (ledger : StartLedger) (s : SyncSystem) : Prop where
  report : report = ⟨ledger.upFront.length, ledger.registered.length⟩
  upFront : ledger.upFront.map Attempt.image
    = images.filter fun m => m.passive live || m.listensTo.isEmpty || m.hasUnconditional
  /-- The start finds the elements that were there when it began. -/
  alive : ∀ a ∈ ledger.upFront, a.alive = before.session.alive a.image.node
  registered : ledger.registered = (images.filter fun m => !m.passive live).flatMap
    fun m => m.listensTo.map fun query => (m, query)
  callbacks : s.callbacks = ledger.registered.map Prod.fst
  /-- A passive image is attempted once and never again. -/
  once : ∀ m ∈ images, m.passive live = true →
    ∃ a ∈ ledger.upFront, s.log.filter (fun b => b.image == m) = [a]
  /-- Without live matching nothing else is attempted. -/
  nothing_else : live = false → s.log = ledger.upFront
  /-- An attempt resolves an image that is alive, and costs one question if that is an
      image element. -/
  attempts : ∀ a ∈ s.log, (∃ read, a.after = a.before.resolve read a.image)
    ∧ (a.alive = false → a.after = a.before)
    ∧ a.after.reads = a.before.reads + a.asked.toNat
  reads : s.session.reads = s.log.countP Attempt.asked

theorem passive_not_registered {live : Bool} {images : List ManagedImage} {m : ManagedImage}
    (hm : m ∈ ((images.filter fun m => !m.passive live).flatMap
      fun m => m.listensTo.map fun query => (m, query)).map Prod.fst) :
    m.passive live = false := by
  rcases List.mem_map.mp hm with ⟨entry, hentry, hfst⟩
  rcases List.mem_flatMap.mp hentry with ⟨m', hm', hquery⟩
  rcases List.mem_map.mp hquery with ⟨query, _, heq⟩
  rw [← hfst, ← heq]
  simpa using List.of_mem_filter hm'

/-- A start of a system that has neither registered nor attempted anything. -/
theorem singleStart_of_new {s : SyncSystem} (hcallbacks : s.callbacks = []) (hlog : s.log = [])
    (hreads : s.session.reads = 0) (matcher : Option (Nat → List Nat))
    {images : List ManagedImage} (himages : images.Nodup) {more : List Attempt}
    {s' : SyncSystem} (hlater : Onward more (StartLedger.start matcher images s).2.system s')
    (hattempts : ∀ a ∈ s'.log, ∃ read, a.after = a.before.resolve read a.image) :
    SingleStart matcher.isSome images s (StartLedger.start matcher images s).1
      (StartLedger.start matcher images s).2 s' := by
  have hbooked : Booked s.session.alive (StartLedger.start matcher images s).2 :=
    booked_steps _ _ _ (booked_opened images hcallbacks hlog hreads)
  have hentries := StartLedger.entries_steps (matcher.getD fun _ => [])
    (startSteps matcher.isSome images) (StartLedger.opened images s)
  have hupFront : (StartLedger.start matcher images s).2.upFront.map Attempt.image
      = (startSteps matcher.isSome images).filterMap StartStep.upFront? := hentries.1
  have hregistered : (StartLedger.start matcher images s).2.registered
      = (startSteps matcher.isSome images).filterMap StartStep.registered? := hentries.2
  have hreport : (StartLedger.start matcher images s).1
      = SyncReport.ofSteps (startSteps matcher.isSome images) := rfl
  generalize StartLedger.start matcher images s = started at *
  have hpassive : ∀ m ∈ started.2.system.callbacks, m.passive matcher.isSome = false := by
    intro m hm
    rw [hbooked.callbacks, hregistered, registered_startSteps] at hm
    exact passive_not_registered hm
  have hfilter : ∀ p : ManagedImage → Bool, (∀ m ∈ started.2.system.callbacks, p m = false) →
      s'.log.filter (fun a => p a.image) = started.2.upFront.filter fun a => p a.image :=
    fun p hp => (filter_of_onward hlater hp).trans (hbooked.log p hp)
  exact
    { report := by
        rw [hreport, report_eq, ← hupFront, ← hregistered, List.length_map]
      upFront := by rw [hupFront, upFront_startSteps]
      alive := hbooked.upFront
      registered := by rw [hregistered, registered_startSteps]
      callbacks := hlater.callbacks.trans hbooked.callbacks
      once := by
        intro m hm hmode
        have hmem : m ∈ started.2.upFront.map Attempt.image := by
          rw [hupFront, upFront_startSteps, List.mem_filter, hmode]
          exact ⟨hm, rfl⟩
        have hnodup : (started.2.upFront.map Attempt.image).Nodup := by
          rw [hupFront, upFront_startSteps]
          exact himages.filter _
        rw [hfilter (fun m' => m' == m) fun m' hm' => ?_]
        · exact filter_attempts hnodup hmem
        · -- Whoever has a callback is not passive.
          rw [beq_eq_false_iff_ne]
          rintro rfl
          rw [hpassive m' hm'] at hmode
          exact absurd hmode (by decide)
      nothing_else := by
        intro hlive
        have hnone : ∀ m ∈ started.2.system.callbacks, true = false := by
          intro m hm
          rw [← hpassive m hm, hlive]
          rfl
        simpa using hfilter (fun _ => true) hnone
      attempts := by
        intro a ha
        rcases hattempts a ha with ⟨read, hafter⟩
        refine ⟨⟨read, hafter⟩, fun hgone => ?_, ?_⟩
        · rw [hafter]
          exact resolve_of_gone read hgone
        · have hcost := reads_resolve read a.before a.image
          rw [← hafter] at hcost
          exact hcost
      reads := by
        rw [hlater.reads, hlater.log, List.countP_append, hbooked.reads] }

/-- What an image waits for is written in the clauses of its element. -/
theorem queries_of_image {config : Config} {d : Document} {p : ScanProgress}
    (hscanned : Scanned config d (markedEntries config d) p) {m : ManagedImage}
    (hm : m ∈ p.images) :
    ∃ e, d.element? m.node = some e
      ∧ m.listensTo = (e.clauses.filterMap Clause.mediaTest).filter (fun q => !blank q)
      ∧ m.hasUnconditional = e.clauses.any fun c => !c.conditional := by
  rcases element_of_image hscanned hm with ⟨e, he⟩
  refine ⟨e, he, ?_⟩
  rw [(mem_images hscanned hm he).2]
  refine ⟨?_, ?_⟩
  · rw [ManagedImage.listensTo, ManagedImage.queries, recordOf, List.filterMap_map]
    rfl
  · rw [ManagedImage.hasUnconditional, recordOf, List.any_map]
    refine List.any_congr rfl fun c => ?_
    rw [Clause.conditional, Option.not_isSome]
    rfl

/-- A system that has scanned its page and has not been started, whatever else has
    happened. -/
theorem new_of_scanned {config : Config} {d : Document} {scanned : ScanOutcome}
    (h : scan config d = .ok scanned) (answers : Answers) {before : List SyncEvent}
    (hbefore : ∀ event ∈ before, event.starts = false) :
    let s := (SyncSystem.ofDocument answers d).run (.scan config :: before)
    s.callbacks = [] ∧ s.log = [] ∧ s.session.reads = 0
      ∧ s.registries[0]? = some scanned.images := by
  intro s
  have hscan : (SyncSystem.ofDocument answers d).step (.scan config)
      = { session := { document := scanned.document }
          answers
          registries := [scanned.images] } := by
    simp only [SyncSystem.step, SyncSystem.ofDocument, h, List.nil_append]
  rcases SyncSystem.onward_run before ((SyncSystem.ofDocument answers d).step (.scan config))
    hbefore with ⟨more, hmore⟩
  replace hmore : Onward more _ s := hmore
  rw [hscan] at hmore
  -- Nothing has been registered, so nothing can have been attempted.
  have hnone : more = [] :=
    List.eq_nil_iff_forall_not_mem.mpr fun a ha => absurd (hmore.known a ha) List.not_mem_nil
  rw [hnone] at hmore
  refine ⟨hmore.callbacks, hmore.log, hmore.reads, ?_⟩
  rcases hmore.registries with ⟨later, hregistries⟩
  rw [← hregistries]
  rfl

/-- A single start of a synchronizer on the images of a scan, after anything the page
    may have done, and before any run of callbacks. What it reports is what it does. It
    resolves passive images, those that listen to nothing and those with a plain
    clause, and registers the others for each of their queries that is not blank, image
    by image and clause by clause. A passive image is not attempted again. -/
theorem start_of_new_synchronizer {config : Config} {d : Document} {scanned : ScanOutcome}
    (h : scan config d = .ok scanned) (answers : Answers) (before after : List SyncEvent)
    (hbefore : ∀ event ∈ before, event.starts = false)
    (hafter : ∀ event ∈ after, event.starts = false) (matcher : Option (Nat → List Nat)) :
    let s₀ := (SyncSystem.ofDocument answers d).run (.scan config :: before)
    let started := StartLedger.start matcher scanned.images s₀
    let s := (SyncSystem.ofDocument answers d).run
      (.scan config :: before ++ .start 0 matcher :: after)
    s = started.2.system.run after
      ∧ (∀ rules state,
          (LiveState.start rules matcher.isSome scanned.images state).1 = started.1)
      ∧ scanned.images.map ManagedImage.id = List.range scanned.images.length
      ∧ (∀ m ∈ scanned.images, ∃ e, d.element? m.node = some e
          ∧ m.listensTo = (e.clauses.filterMap Clause.mediaTest).filter (fun q => !blank q)
          ∧ m.hasUnconditional = e.clauses.any fun c => !c.conditional)
      ∧ SingleStart matcher.isSome scanned.images s₀ started.1 started.2 s := by
  intro s₀ started s
  rcases scanned_of_scan h with ⟨p, hscanned, _, himages, _⟩
  rcases new_of_scanned h answers hbefore with ⟨hcallbacks, hlog, hreads, hregistry⟩
  have hids : scanned.images.map ManagedImage.id = List.range scanned.images.length := by
    rw [himages]
    exact ids_of_images hscanned
  have hnodup : scanned.images.Nodup := by
    refine List.Nodup.of_map ManagedImage.id ?_
    rw [hids]
    exact List.nodup_range
  have hrun : s = started.2.system.run after := by
    have hstep : s₀.step (.start 0 matcher) = started.2.system := by
      rw [StartLedger.system_start, SyncSystem.step, hregistry]
    rw [← hstep]
    exact List.foldl_append
  rcases SyncSystem.onward_run after started.2.system hafter with ⟨more, hmore⟩
  rcases SyncSystem.sound_run (.scan config :: before ++ .start 0 matcher :: after) _ _
    (SyncSystem.sound_ofDocument answers d) with ⟨_, hsound⟩
  refine ⟨hrun, fun _ _ => rfl, hids, fun m hm => queries_of_image hscanned (himages ▸ hm), ?_⟩
  exact singleStart_of_new hcallbacks hlog hreads matcher hnodup (hrun ▸ hmore)
    fun a ha => (hsound.attempts a ha).2

/-- A page with an image in fallback mode, an image with a plain clause and a query, and
    another element with two queries. -/
def mixedPage : Document :=
  let marked (tag own directive : Text) : Element := {
    tag
    attributes := [
      ("class".toList, "rwdimage".toList),
      (Attribute.fallbackClass, own),
      (Attribute.directive, directive)] }
  Document.ofTrees none [
    .element { tag := "html".toList, attributes := [("class".toList, "no-mq".toList)] } [
      .element (marked imageTag "no-mq".toList "(min-width: 480px) \x7b src: url(a.png) \x7d".toList)
        [],
      .element (marked imageTag defaultFallbackClass
        "src: url(s.png), (min-width: 480px) \x7b src: url(m.png) \x7d".toList) [],
      .element (marked "div".toList defaultFallbackClass
        "(min-width: 480px) \x7b \x7d, (max-width: 99px) \x7b \x7d".toList) []]]

/-- What a scan of the page records. -/
def mixedImages : List ManagedImage := [
  ⟨0, 2, true, [⟨some "(min-width: 480px)".toList⟩], true⟩,
  ⟨1, 3, true, [⟨none⟩, ⟨some "(min-width: 480px)".toList⟩], false⟩,
  ⟨2, 4, false, [⟨some "(min-width: 480px)".toList⟩, ⟨some "(max-width: 99px)".toList⟩], false⟩]

/-- A start on the page with a matcher that fires the first callback at each
    registration, and some firing after it. -/
theorem start_on_mixed_page :
    ∃ scanned, scan {} mixedPage = .ok scanned
      ∧ let s₀ := (SyncSystem.ofDocument (fun _ _ _ => none) mixedPage).run [.scan {}]
        let started := StartLedger.start (some fun _ => [0]) scanned.images s₀
        let s := started.2.system.run [.fire 2, .fire 0]
        started.1 = ⟨2, 3⟩ ∧ s.callbacks.map ManagedImage.id = [1, 2, 2]
          ∧ ∃ m ∈ scanned.images, m.id = 0 ∧ (s.log.countP fun a => a.image == m) = 1 := by
  have hfound : (scan {} mixedPage).toOption.map (fun s => s.images.map fun m => m)
      = some mixedImages := by
    decide +kernel
  rcases scan_of_images (f := fun _ m => m) hfound with ⟨scanned, h, himages⟩
  rw [List.map_id'] at himages
  rcases start_of_new_synchronizer h (fun _ _ _ => none) [] [.fire 2, .fire 0] (by decide)
    (by decide) (some fun _ => [0]) with ⟨hrun, _, _, _, hstart⟩
  rw [hrun, himages] at hstart
  refine ⟨scanned, h, ?_⟩
  rw [himages]
  refine ⟨?_, ?_, ?_⟩
  · rw [hstart.report, ← List.length_map (f := Attempt.image), hstart.upFront, hstart.registered]
    decide +kernel
  · rw [hstart.callbacks, hstart.registered]
    decide +kernel
  · rcases hstart.once ⟨0, 2, true, [⟨some "(min-width: 480px)".toList⟩], true⟩
      List.mem_cons_self (by decide) with ⟨a, _, hfilter⟩
    refine ⟨_, List.mem_cons_self, rfl, ?_⟩
    rw [List.countP_eq_length_filter]
    exact congrArg List.length hfilter

end ResponsiveImages
