import ResponsiveImages.Proofs.ScannedPage
import ResponsiveImages.Proofs.SyncRun

/-!
# Histories of a Synchronizer

What the states and the counter of a synchronizer mean after anything that can
happen to it.

A synchronizer shares its states and its counter with the callbacks it has
registered, and these stay with the matcher after a further start. So an image
of an earlier registry may be resolved in the middle of a later one, where its
number stands for another image or for none. Elements may have gone in the
meantime, and the page may have edited others.

`SyncSystem` is a synchronizer in the midst of all that. Nothing is assumed of
the world around it (`SyncEvent`). The page may edit its document in any way, take
elements out of it and drop it, and anybody may keep handles of nodes meanwhile.
The answer to each question for a style value may be a different function of the
document, and these answers may change at any time (`Answers`). A matcher may fire
whatever has been registered with it, during a registration as well.

Next to the session stands the list of all attempts to resolve an image. The
invariant says what the session makes of them (`SyncSystem.Sound`). Only a
resolution changes it, so there is one lemma that looks into a resolution
(`sound_resolve`) and the others follow by the recursion of the events. Who holds
what decides whether an attempt finds its element, but is no matter for the
states and counters (`Session.SameLedger`).

## Main definitions

* `Attempt`: An attempt to resolve an image.
* `SyncSystem`: A synchronizer with all that has been registered and attempted.
* `Answers`: The answers to questions for style values.
* `SyncSystem.resolve`, `SyncSystem.fire`, `SyncSystem.listen`, `SyncSystem.start`:
  What a synchronizer does.
* `SyncEvent`, `SyncSystem.step`, `SyncSystem.run`: What can happen.
* `SyncEvent.AddsNothing`: Events that put no node into a list.
* `SyncSystem.Sound`: What the session says about the attempts.

## Theorems

* `updates_resolve`: The counter counts the sources that were changed.
* `states_resolve`: A resolution among the states.
* `alive_resolve`: A resolution takes no hold of anything.
* `sound_resolve`, `sound_start`, `sound_step`: The invariant is kept.
* `states_of_attempts`: The session after any history.
* `alive_of_alive_run`: What has gone does not come back.
-/

namespace ResponsiveImages

open Relation

/-- An attempt to resolve an image, with the session before and after it. -/
structure Attempt where
  image : ManagedImage
  before : Session
  after : Session

namespace Attempt

/-- The element of the image was still there. -/
def alive (a : Attempt) : Bool :=
  a.before.alive a.image.node

/-- The source of the element was changed. -/
def rewrote (a : Attempt) : Bool :=
  a.after.document.attribute? a.image.node sourceAttribute
    != a.before.document.attribute? a.image.node sourceAttribute

end Attempt

/-- The answers to questions for style values, in the order they are asked. -/
abbrev Answers := Nat → Document → NodeId → Option Text

/-- A synchronizer, with all that has been registered and attempted. -/
structure SyncSystem where
  session : Session
  answers : Answers
  /-- The images found by each scan. -/
  registries : List (List ManagedImage) := []
  /-- The image of each registered callback. -/
  callbacks : List ManagedImage := []
  /-- The images of the latest start. -/
  started : Option (List ManagedImage) := none
  /-- What has been attempted since the latest start. -/
  attempts : List Attempt := []
  /-- What was attempted before. -/
  earlier : List Attempt := []

/-- What can happen around a synchronizer. -/
inductive SyncEvent where
  | scan (config : Config)
  /-- A start on the images of a scan. If there is a matcher, it fires certain
      callbacks at each registration. -/
  | start (registry : Nat) (matcher : Option (Nat → List Nat))
  | fire (callback : Nat)
  /-- From now on questions are answered differently. -/
  | answer (answers : Answers)
  /-- The page edits attributes or changes anything else about its nodes. -/
  | edit (change : Document → Document)
  /-- Somebody keeps a handle of a node. -/
  | keep (i : NodeId)
  | letGo (i : NodeId)
  /-- A node is taken out of the list of its parent. -/
  | detach (i : NodeId)
  | dropDocument

namespace SyncSystem

/-- A synchronizer that has not been started. -/
def ofDocument (answers : Answers) (d : Document) : SyncSystem where
  session := { document := d }
  answers

/-- The same when somebody keeps handles of some nodes. -/
def keeping (kept : List NodeId) (s : SyncSystem) : SyncSystem :=
  { s with session := { s.session with kept } }

/-- Attempting to resolve an image. -/
def resolve (m : ManagedImage) (s : SyncSystem) : SyncSystem :=
  let after := s.session.resolve (s.answers s.session.reads) m
  { s with session := after, attempts := s.attempts ++ [⟨m, s.session, after⟩] }

/-- Firing a callback. -/
def fire (s : SyncSystem) (callback : Nat) : SyncSystem :=
  match s.callbacks[callback]? with
  | some m => s.resolve m
  | none => s

/-- Registering a callback, whereupon the matcher may fire. -/
def listen (fired : Nat → List Nat) (m : ManagedImage) (_ : Text)
    (s : SyncSystem) : SyncSystem :=
  (fired s.callbacks.length).foldl fire { s with callbacks := s.callbacks ++ [m] }

/-- The start on some images. -/
def start (matcher : Option (Nat → List Nat)) (images : List ManagedImage)
    (s : SyncSystem) : SyncSystem :=
  (startSteps matcher.isSome images).foldl
    (StartStep.perform resolve (listen (matcher.getD fun _ => [])))
    { s with
      session := s.session.reset images
      started := some images
      attempts := []
      earlier := s.earlier ++ s.attempts }

/-- One event. -/
def step (s : SyncSystem) : SyncEvent → SyncSystem
  | .scan config =>
    match ResponsiveImages.scan config s.session.document with
    | .ok scanned =>
      { s with
        session := { s.session with document := scanned.document }
        registries := s.registries ++ [scanned.images] }
    | .error _ => s
  | .start registry matcher =>
    match s.registries[registry]? with
    | some images => s.start matcher images
    | none => s
  | .fire callback => s.fire callback
  | .answer answers => { s with answers }
  | .edit change => { s with session := { s.session with document := change s.session.document } }
  | .keep i => { s with session := s.session.keep i }
  | .letGo i => { s with session := s.session.letGo i }
  | .detach i => { s with session := (s.session.detach? i).getD s.session }
  | .dropDocument => { s with session := s.session.drop }

/-- A history. -/
def run (events : List SyncEvent) (s : SyncSystem) : SyncSystem :=
  events.foldl step s

/-- All that has been attempted. -/
def log (s : SyncSystem) : List Attempt :=
  s.earlier ++ s.attempts

/-- What the session of a synchronizer says about the attempts, given the images of
    each scan. -/
structure Sound (scans : List (List ManagedImage)) (s : SyncSystem) : Prop where
  registries : s.registries = scans
  /-- Images are numbered by their places. -/
  ids : ∀ images ∈ scans, images.map ManagedImage.id = List.range images.length
  started : ∀ images, s.started = some images → images ∈ scans
  callbacks : ∀ m ∈ s.callbacks, ∃ images ∈ scans, m ∈ images
  attempts : ∀ a ∈ s.log, (∃ images ∈ scans, a.image ∈ images)
    ∧ ∃ read, a.after = a.before.resolve read a.image
  /-- There is a state for each image of the latest start. -/
  length : s.session.states.length = (s.started.getD []).length
  /-- An image is resolved by an attempt that found its element. -/
  resolved : ∀ i < s.session.states.length, s.session.states[i]? = some .resolved
    ↔ ∃ a ∈ s.attempts, a.image.id = i ∧ a.alive = true
  updates : s.session.updates = s.log.countP Attempt.rewrote

end SyncSystem

/-! ### Resolutions -/

section

variable (read : Document → NodeId → Option Text)

theorem resolve_of_gone {s : Session} {m : ManagedImage} (h : s.alive m.node = false) :
    s.resolve read m = s := by
  rw [Session.resolve, h]
  simp only [Bool.false_eq_true, if_false]

theorem resolve_of_alive {s : Session} {m : ManagedImage} (h : s.alive m.node = true) :
    s.resolve read m
      = { s with
          document := (resolveSource read s.document m.node).document
          states := s.states.set m.id .resolved
          updates := s.updates + (resolveSource read s.document m.node).changed.toNat
          reads := s.reads + (resolveSource read s.document m.node).asked.toNat } := by
  rw [Session.resolve, if_pos h]

theorem element?_resolve_of_ne (s : Session) (m : ManagedImage) {j : NodeId} (hne : j ≠ m.node) :
    (s.resolve read m).document.element? j = s.document.element? j := by
  by_cases halive : s.alive m.node = true
  · rw [resolve_of_alive read halive]
    exact element?_resolveSource_of_ne read s.document hne.symm
  · rw [resolve_of_gone read (Bool.not_eq_true _ |>.mp halive)]

/-- A source counts as replaced if its attribute has a new value. -/
theorem changed_resolveSource (d : Document) (i : NodeId) :
    (resolveSource read d i).changed
      = ((resolveSource read d i).document.attribute? i sourceAttribute
          != d.attribute? i sourceAttribute) := by
  unfold resolveSource
  cases he : d.element? i with
  | none => simp only [bne_self_eq_false]
  | some e =>
      by_cases himage : e.isImage = true
      · simp only [if_pos himage]
        cases hnew : e.newSource? (read d i) with
        | none => simp only [bne_self_eq_false]
        | some source =>
            have hset : (d.setAttribute i sourceAttribute source).attribute? i sourceAttribute
                = some source := by
              rw [Document.attribute?, Document.element?_setAttribute d i e he, Option.bind_some]
              exact Attributes.get?_set_self e.attributes sourceAttribute source
            -- A new source differs from the one that is there.
            have hdiffers := (Option.filter_eq_some_iff.mp hnew).2
            rw [bne_iff_ne] at hdiffers
            simp only [hset]
            rw [Document.attribute?, he, Option.bind_some]
            exact (bne_iff_ne.mpr hdiffers.symm).symm
      · simp only [if_neg himage, bne_self_eq_false]

/-- The counter counts the sources that were changed. -/
theorem updates_resolve (s : Session) (m : ManagedImage) :
    (s.resolve read m).updates
      = s.updates + (Attempt.rewrote ⟨m, s, s.resolve read m⟩).toNat := by
  by_cases halive : s.alive m.node = true
  · rw [resolve_of_alive read halive, changed_resolveSource]
    rfl
  · rw [resolve_of_gone read (Bool.not_eq_true _ |>.mp halive), Attempt.rewrote]
    simp only [bne_self_eq_false, Bool.toNat_false, Nat.add_zero]

/-- The states after an attempt to resolve an image. -/
theorem states_resolve (s : Session) (m : ManagedImage) (i : Nat) (hi : i < s.states.length) :
    (s.resolve read m).states[i]? = some .resolved
      ↔ s.states[i]? = some .resolved ∨ (m.id = i ∧ s.alive m.node = true) := by
  by_cases halive : s.alive m.node = true
  · rw [resolve_of_alive read halive, List.getElem?_set]
    by_cases hid : m.id = i
    · simp [hid, hi, halive]
    · simp [hid]
  · rw [resolve_of_gone read (Bool.not_eq_true _ |>.mp halive)]
    simp [halive]

/-- A resolution takes no hold of anything. -/
theorem alive_resolve (s : Session) (m : ManagedImage) (i : NodeId) :
    (s.resolve read m).alive i = s.alive i := by
  by_cases halive : s.alive m.node = true
  · rw [resolve_of_alive read halive]
    exact Document.keeps_congr (sameBut_resolveSource read s.document m.node).children i
  · rw [resolve_of_gone read (Bool.not_eq_true _ |>.mp halive)]

theorem length_states_resolve (s : Session) (m : ManagedImage) :
    (s.resolve read m).states.length = s.states.length := by
  by_cases halive : s.alive m.node = true
  · rw [resolve_of_alive read halive, List.length_set]
  · rw [resolve_of_gone read (Bool.not_eq_true _ |>.mp halive)]

end

/-- An image among images that are numbered by their places. -/
theorem getElem?_of_ids {images : List ManagedImage}
    (hids : images.map ManagedImage.id = List.range images.length) {m : ManagedImage}
    (hm : m ∈ images) : images[m.id]? = some m := by
  rcases List.getElem_of_mem hm with ⟨k, hk, hget⟩
  -- The number at its place is that place.
  have hid := congrArg (fun l => l[k]?) hids
  simp only [List.getElem?_map, List.getElem?_range hk, List.getElem?_eq_getElem hk, hget,
    Option.map_some, Option.some.injEq] at hid
  rw [hid, List.getElem?_eq_getElem hk, hget]

/-! ### Holding and letting go -/

/-- Sessions with the same states and counters. -/
structure Session.SameLedger (s s' : Session) : Prop where
  states : s'.states = s.states
  updates : s'.updates = s.updates
  reads : s'.reads = s.reads

namespace Session

theorem sameLedger_keep (s : Session) (i : NodeId) : SameLedger s (s.keep i) := by
  rw [keep]
  split <;> exact ⟨rfl, rfl, rfl⟩

theorem sameLedger_letGo (s : Session) (i : NodeId) : SameLedger s (s.letGo i) :=
  ⟨rfl, rfl, rfl⟩

theorem sameLedger_detach (s : Session) (i : NodeId) :
    SameLedger s ((s.detach? i).getD s) := by
  rw [detach?]
  split
  · cases s.document.detach? i <;> exact ⟨rfl, rfl, rfl⟩
  · exact ⟨rfl, rfl, rfl⟩

theorem sameLedger_drop (s : Session) : SameLedger s s.drop :=
  ⟨rfl, rfl, rfl⟩

end Session

/-! ### The invariant -/

/-- The image that a step of the start is about. -/
def StartStep.image : StartStep → ManagedImage
  | resolve m => m
  | subscribe m _ => m

/-- A start is about its images. -/
theorem image_of_startSteps {live : Bool} {images : List ManagedImage} {step : StartStep}
    (hstep : step ∈ startSteps live images) : step.image ∈ images := by
  rcases List.mem_flatMap.mp hstep with ⟨m, hm, hstep⟩
  have himage : step.image = m := by
    rw [ManagedImage.startSteps] at hstep
    by_cases hlive : (live && !m.fallbackMode) = true
    · rw [if_pos hlive] at hstep
      rcases List.mem_append.mp hstep with hfirst | hlistens
      · by_cases hnow : (m.listensTo.isEmpty || m.hasUnconditional) = true
        · rw [if_pos hnow] at hfirst
          rw [List.mem_singleton.mp hfirst]
          rfl
        · rw [if_neg hnow] at hfirst
          exact absurd hfirst List.not_mem_nil
      · rcases List.mem_map.mp hlistens with ⟨q, _, heq⟩
        rw [← heq]
        rfl
    · rw [if_neg hlive] at hstep
      rw [List.mem_singleton.mp hstep]
      rfl
  rw [himage]
  exact hm

namespace SyncSystem

variable {scans : List (List ManagedImage)} {s : SyncSystem}

theorem log_resolve (m : ManagedImage) (s : SyncSystem) :
    (s.resolve m).log
      = s.log ++ [⟨m, s.session, s.session.resolve (s.answers s.session.reads) m⟩] :=
  (List.append_assoc _ _ _).symm

/-- An attempt to resolve an image keeps the invariant. -/
theorem sound_resolve (h : Sound scans s) {m : ManagedImage}
    (hm : ∃ images ∈ scans, m ∈ images) : Sound scans (s.resolve m) where
  registries := h.registries
  ids := h.ids
  started := h.started
  callbacks := h.callbacks
  attempts := by
    intro a ha
    rw [log_resolve] at ha
    rcases List.mem_append.mp ha with hbefore | hnow
    · exact h.attempts a hbefore
    · rw [List.mem_singleton.mp hnow]
      exact ⟨hm, s.answers s.session.reads, rfl⟩
  length := (length_states_resolve _ _ _).trans h.length
  resolved := by
    intro i hi
    have hi' : i < s.session.states.length := by
      rw [← length_states_resolve (s.answers s.session.reads) s.session m]
      exact hi
    -- The attempt is the last one, and may be the one that counts.
    simp only [resolve, states_resolve _ _ _ i hi', h.resolved i hi', List.mem_append,
      List.mem_singleton, or_and_right, exists_or, exists_eq_left]
    rfl
  updates := by
    rw [log_resolve, List.countP_append, ← h.updates, List.countP_singleton]
    have hupdates := updates_resolve (s.answers s.session.reads) s.session m
    rw [resolve]
    simp only [hupdates]
    cases Attempt.rewrote _ with
    | false => rfl
    | true => rfl

theorem sound_fire (h : Sound scans s) (callback : Nat) :
    Sound scans (s.fire callback) := by
  rw [fire]
  cases hget : s.callbacks[callback]? with
  | none => exact h
  | some m => exact sound_resolve h (h.callbacks m (List.mem_of_getElem? hget))

theorem sound_fires (callbacks : List Nat) :
    ∀ s, Sound scans s → Sound scans (callbacks.foldl fire s) := by
  induction callbacks with
  | nil => exact fun s h => h
  | cons callback callbacks ih => exact fun s h => ih _ (sound_fire h callback)

theorem sound_listen (h : Sound scans s) (fired : Nat → List Nat) {m : ManagedImage}
    (hm : ∃ images ∈ scans, m ∈ images) (query : Text) :
    Sound scans (s.listen fired m query) := by
  -- The new callback is known before anything is fired.
  refine sound_fires _ _ { h with callbacks := fun m' hm' => ?_ }
  rcases List.mem_append.mp hm' with hbefore | hnow
  · exact h.callbacks m' hbefore
  · rw [List.mem_singleton.mp hnow]
    exact hm

theorem sound_steps (fired : Nat → List Nat) (steps : List StartStep) :
    ∀ s, Sound scans s → (∀ step ∈ steps, ∃ images ∈ scans, step.image ∈ images) →
      Sound scans (steps.foldl (StartStep.perform resolve (listen fired)) s) := by
  induction steps with
  | nil => exact fun s h _ => h
  | cons step steps ih =>
      intro s h hsteps
      have hstep := hsteps step List.mem_cons_self
      refine ih _ ?_ fun step' hstep' => hsteps step' (List.mem_cons_of_mem _ hstep')
      cases step with
      | resolve m => exact sound_resolve h hstep
      | subscribe m query => exact sound_listen h fired hstep query

/-- With a start, all images of its registry are unresolved and nothing has been
    attempted. -/
theorem sound_start (h : Sound scans s) (matcher : Option (Nat → List Nat))
    {images : List ManagedImage} (himages : images ∈ scans) :
    Sound scans (s.start matcher images) := by
  -- The steps keep what holds after the reset.
  refine sound_steps _ _ _ ?_ fun step hstep => ⟨images, himages, image_of_startSteps hstep⟩
  exact
    { registries := h.registries
      ids := h.ids
      started := fun images' heq => Option.some.inj heq ▸ himages
      callbacks := h.callbacks
      attempts := by
        rw [log, List.append_nil]
        exact h.attempts
      length := List.length_map _
      resolved := by
        intro i _
        constructor
        · -- No image has a resolved state yet.
          intro hget
          rw [Session.reset, List.getElem?_map] at hget
          rcases Option.map_eq_some_iff.mp hget with ⟨_, _, heq⟩
          exact absurd heq (by decide)
        · rintro ⟨a, ha, _⟩
          exact absurd ha List.not_mem_nil
      updates := by
        rw [log, List.append_nil]
        exact h.updates }

/-- What a session holds is no matter for the invariant. -/
theorem Sound.withSession (h : Sound scans s) {session : Session}
    (hsame : s.session.SameLedger session) : Sound scans { s with session } :=
  { h with
    length := (congrArg List.length hsame.states).trans h.length
    resolved := by
      simp only [hsame.states]
      exact h.resolved
    updates := hsame.updates.trans h.updates }

/-- One more scan. -/
theorem Sound.scanned (h : Sound scans s) {images : List ManagedImage}
    (hids : images.map ManagedImage.id = List.range images.length) :
    Sound (scans ++ [images]) { s with registries := s.registries ++ [images] } :=
  { h with
    registries := by
      rw [h.registries]
    ids := by
      intro images' hmem
      rcases List.mem_append.mp hmem with hbefore | hnow
      · exact h.ids images' hbefore
      · rw [List.mem_singleton.mp hnow]
        exact hids
    started := fun images' heq => List.mem_append_left _ (h.started images' heq)
    callbacks := by
      intro m hm
      rcases h.callbacks m hm with ⟨images', hmem, hm'⟩
      exact ⟨images', List.mem_append_left _ hmem, hm'⟩
    attempts := by
      intro a ha
      rcases h.attempts a ha with ⟨⟨images', hmem, himage⟩, hread⟩
      exact ⟨⟨images', List.mem_append_left _ hmem, himage⟩, hread⟩ }

theorem sound_step (h : Sound scans s) (event : SyncEvent) :
    ∃ scans', Sound scans' (s.step event) := by
  cases event with
  | scan config =>
      rw [step]
      cases hscan : ResponsiveImages.scan config s.session.document with
      | error reason => exact ⟨scans, h⟩
      | ok scanned =>
          rcases scanned_of_scan hscan with ⟨p, hscanned, _, himages, _⟩
          -- A scan numbers its images and edits the document.
          have hids := ids_of_images hscanned
          rw [← himages] at hids
          have hedited : Sound scans
              { s with session := { s.session with document := scanned.document } } :=
            h.withSession ⟨rfl, rfl, rfl⟩
          exact ⟨_, hedited.scanned hids⟩
  | start registry matcher =>
      rw [step]
      cases hget : s.registries[registry]? with
      | none => exact ⟨scans, h⟩
      | some images =>
          rw [h.registries] at hget
          exact ⟨scans, sound_start h matcher (List.mem_of_getElem? hget)⟩
  | fire callback => exact ⟨scans, sound_fire h callback⟩
  | answer answers => exact ⟨scans, { h with }⟩
  | edit change => exact ⟨scans, h.withSession ⟨rfl, rfl, rfl⟩⟩
  | keep i => exact ⟨scans, h.withSession (s.session.sameLedger_keep i)⟩
  | letGo i => exact ⟨scans, h.withSession (s.session.sameLedger_letGo i)⟩
  | detach i => exact ⟨scans, h.withSession (s.session.sameLedger_detach i)⟩
  | dropDocument => exact ⟨scans, h.withSession s.session.sameLedger_drop⟩

theorem sound_run (events : List SyncEvent) :
    ∀ s scans, Sound scans s → ∃ scans', Sound scans' (s.run events) := by
  induction events with
  | nil => exact fun s scans h => ⟨scans, h⟩
  | cons event events ih =>
      intro s scans h
      rcases sound_step h event with ⟨scans', h'⟩
      exact ih _ _ h'

theorem sound_ofDocument (answers : Answers) (d : Document) : Sound [] (ofDocument answers d) where
  registries := rfl
  ids := fun _ h => absurd h List.not_mem_nil
  started := fun _ h => absurd h (by simp [ofDocument])
  callbacks := fun _ h => absurd h List.not_mem_nil
  attempts := fun _ h => absurd h List.not_mem_nil
  length := rfl
  resolved := fun _ h => absurd h (Nat.not_lt_zero _)
  updates := rfl

end SyncSystem

/-- A synchronizer after any history, whatever the page did and the answers were, and
    whoever kept handles of nodes from the beginning or later on. There is a state for
    each image of the latest start and for no other number. An image is resolved exactly
    if some attempt since then, by the start or by a callback, found its element alive,
    and the counter counts the attempts that changed a source. An element is alive as
    long as it is reached through lists from a node that somebody holds, or from one that
    is above itself. No attempt touches another element, and none touches anything or
    asks for anything if its element is gone. -/
theorem states_of_attempts (answers : Answers) (d : Document) (kept : List NodeId)
    (events : List SyncEvent) :
    let s := ((SyncSystem.ofDocument answers d).keeping kept).run events
    (∀ i, s.session.states[i]? = none
        ↔ ∀ images, s.started = some images → images.length ≤ i)
      ∧ (∀ images, s.started = some images → images ∈ s.registries
          ∧ ∀ i < images.length, s.session.states[i]? = some .resolved
            ↔ ∃ a ∈ s.attempts, a.image.id = i ∧ a.alive = true)
      ∧ s.session.updates = s.log.countP Attempt.rewrote
      ∧ ∀ a ∈ s.log,
          (∃ images ∈ s.registries, images[a.image.id]? = some a.image)
            ∧ (a.alive = true ↔ ∃ h,
              (h ∈ a.before.holders ∨ TransGen a.before.document.Lists h h)
                ∧ ReflTransGen a.before.document.Lists h a.image.node)
            ∧ (∀ j ≠ a.image.node,
                a.after.document.element? j = a.before.document.element? j)
            ∧ (a.alive = false → a.after = a.before) := by
  intro s
  have hstart : SyncSystem.Sound [] ((SyncSystem.ofDocument answers d).keeping kept) :=
    (SyncSystem.sound_ofDocument answers d).withSession ⟨rfl, rfl, rfl⟩
  rcases SyncSystem.sound_run events _ _ hstart with ⟨scans, hsound⟩
  have hregistries : s.registries = scans := hsound.registries
  rw [hregistries]
  refine ⟨?_, ?_, hsound.updates, ?_⟩
  · intro i
    rw [List.getElem?_eq_none_iff, hsound.length]
    cases hstarted : s.started with
    | none => simp
    | some images => simp
  · intro images hstarted
    have hlength : s.session.states.length = images.length := by
      rw [hsound.length, hstarted, Option.getD_some]
    exact ⟨hsound.started images hstarted, fun i hi => hsound.resolved i (hlength ▸ hi)⟩
  · intro a ha
    rcases hsound.attempts a ha with ⟨⟨images, hmem, himage⟩, read, hafter⟩
    refine ⟨⟨images, hmem, getElem?_of_ids (hsound.ids images hmem) himage⟩,
      Session.alive_iff, ?_, ?_⟩
    · intro j hj
      rw [hafter]
      exact element?_resolve_of_ne read a.before a.image hj
    · intro hgone
      rw [hafter]
      exact resolve_of_gone read hgone

/-- A page with an image that listens to the width of the window. -/
def heroPage : Document :=
  Document.ofTrees none [
    .element { tag := "html".toList } [
      .element {
        tag := imageTag
        attributes := [
          ("class".toList, "rwdimage".toList),
          (Attribute.directive, "(min-width: 480px) \x7b src: url(m.png) \x7d".toList)] } []]]

/-- The callback of the image is fired when its element has been taken out of the
    document while somebody keeps a handle of it, and again, under another style, when
    the handle has been given up. -/
def heroEvents : List SyncEvent :=
  [ .scan {}, .start 0 (some fun _ => []), .keep 2, .detach 2, .fire 0,
    .letGo 2, .answer fun _ _ _ => some "url(l.png)".toList, .fire 0 ]

/-- What these events lead to. -/
def heroSystem : SyncSystem :=
  ((SyncSystem.ofDocument (fun _ _ _ => some "url(m.png)".toList) heroPage).keeping []).run
    heroEvents

/-- The element is alive for the first firing and is given its source. It is gone for
    the second one, which leaves everything as it was. -/
theorem hero_resolved_while_kept :
    heroSystem.session.states[0]? = some .resolved ∧ heroSystem.session.updates = 1
      ∧ heroSystem.session.document.attribute? 2 sourceAttribute = some "m.png".toList
      ∧ heroSystem.log.map (fun a => (a.before.document.contains 2, a.alive))
        = [(false, true), (false, false)]
      ∧ ∃ a ∈ heroSystem.log, a.alive = false ∧ a.after = a.before := by
  have hall := states_of_attempts (fun _ _ _ => some "url(m.png)".toList) heroPage [] heroEvents
  rw [← heroSystem] at hall
  rcases hall with ⟨_, hstates, hupdates, hlog⟩
  -- The attempts are computed, and the theorem says what they mean for state and counter.
  refine ⟨?_, ?_, by decide +kernel, by decide +kernel, ?_⟩
  · have hstarted : heroSystem.started.map List.length = some 1 := by decide +kernel
    have hfound : (heroSystem.attempts.any fun a => a.image.id == 0 && a.alive) = true := by
      decide +kernel
    rcases Option.map_eq_some_iff.mp hstarted with ⟨images, himages, hlength⟩
    rcases List.any_eq_true.mp hfound with ⟨a, ha, hboth⟩
    rw [Bool.and_eq_true, beq_iff_eq] at hboth
    have hone : 0 < images.length := hlength ▸ Nat.one_pos
    exact ((hstates images himages).2 0 hone).mpr ⟨a, ha, hboth⟩
  · rw [hupdates]
    decide +kernel
  · have hgone : (heroSystem.log.any fun a => !a.alive) = true := by decide +kernel
    rcases List.any_eq_true.mp hgone with ⟨a, ha, halive⟩
    rw [Bool.not_eq_true'] at halive
    exact ⟨a, ha, halive, (hlog a ha).2.2.2 halive⟩

/-! ### What has gone -/

/-- Events that put no node into a list. -/
def SyncEvent.AddsNothing : SyncEvent → Prop
  | edit change => ∀ d p i, (change d).Lists p i → d.Lists p i
  | _ => True

namespace SyncSystem

theorem alive_fire (s : SyncSystem) (callback : Nat) (i : NodeId) :
    (s.fire callback).session.alive i = s.session.alive i := by
  rw [fire]
  cases s.callbacks[callback]? with
  | none => rfl
  | some m => exact alive_resolve _ s.session m i

theorem alive_fires (callbacks : List Nat) (i : NodeId) :
    ∀ s : SyncSystem, (callbacks.foldl fire s).session.alive i = s.session.alive i := by
  induction callbacks with
  | nil => exact fun _ => rfl
  | cons callback callbacks ih => exact fun s => (ih _).trans (alive_fire s callback i)

theorem alive_steps (fired : Nat → List Nat) (steps : List StartStep) (i : NodeId) :
    ∀ s : SyncSystem,
      (steps.foldl (StartStep.perform resolve (listen fired)) s).session.alive i
        = s.session.alive i := by
  induction steps with
  | nil => exact fun _ => rfl
  | cons step steps ih =>
      intro s
      refine (ih _).trans ?_
      cases step with
      | resolve m => exact alive_resolve _ s.session m i
      | subscribe m query => exact alive_fires _ i _

/-- What is there after an event that puts no node into a list was there before. -/
theorem alive_of_alive_step (s : SyncSystem) {event : SyncEvent} (h : event.AddsNothing)
    {i : NodeId} (hi : (s.step event).session.alive i = true) : s.session.alive i = true := by
  cases event with
  | scan config =>
      rw [step] at hi
      cases hscan : ResponsiveImages.scan config s.session.document with
      | error reason =>
          rw [hscan] at hi
          exact hi
      | ok scanned =>
          -- A scan writes attributes and leaves the lists alone.
          rcases scanned_of_scan hscan with ⟨p, hscanned, hdocument, _⟩
          have hchildren : ∀ p, scanned.document.children p = s.session.document.children p := by
            rw [hdocument]
            exact hscanned.same.children
          rw [hscan] at hi
          exact (Document.keeps_congr hchildren i).symm.trans hi
  | start registry matcher =>
      rw [step] at hi
      cases hget : s.registries[registry]? with
      | none =>
          rw [hget] at hi
          exact hi
      | some images =>
          rw [hget] at hi
          -- Before the steps only states are reset.
          have hsteps := alive_steps (matcher.getD fun _ => [])
            (startSteps matcher.isSome images) i
            { s with
              session := s.session.reset images
              started := some images
              attempts := []
              earlier := s.earlier ++ s.attempts }
          exact hsteps.symm.trans hi
  | fire callback => exact (alive_fire s callback i).symm.trans hi
  | answer answers => exact hi
  | edit change =>
      exact Document.keeps_of_keeps (fun _ hk => Session.alive_of_mem_holders hk)
        (h s.session.document) hi
  | keep j => exact Session.alive_of_alive_keep hi
  | letGo j => exact Session.alive_of_alive_letGo hi
  | detach j =>
      rw [step] at hi
      cases hdetach : s.session.detach? j with
      | none =>
          rw [hdetach] at hi
          exact hi
      | some session =>
          rw [hdetach] at hi
          exact Session.alive_of_alive_detach hdetach hi
  | dropDocument => exact Session.alive_of_alive_drop hi

/-- What has gone does not come back, as long as nobody puts nodes into lists. -/
theorem alive_of_alive_run (events : List SyncEvent) :
    ∀ s : SyncSystem, (∀ event ∈ events, event.AddsNothing) →
      ∀ i, (s.run events).session.alive i = true → s.session.alive i = true := by
  induction events with
  | nil => exact fun _ _ _ hi => hi
  | cons event events ih =>
      intro s h i hi
      have hlater : ∀ event' ∈ events, event'.AddsNothing :=
        fun event' h' => h event' (List.mem_cons_of_mem _ h')
      exact alive_of_alive_step s (h event List.mem_cons_self) (ih (s.step event) hlater i hi)

end SyncSystem

end ResponsiveImages
