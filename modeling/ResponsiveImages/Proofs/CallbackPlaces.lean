import Mathlib.Data.List.Induction
import ResponsiveImages.Proofs.NestedCalls

/-!
# The Places of Callbacks

That a matcher loses no callback and enters none twice, whatever its callbacks do.

A resize takes a callback out of its place, runs it, and puts back what it has taken. In
the meantime the callback may resize the same matcher, so that another resize comes to the
empty place, takes nothing out of it and puts nothing back. It may also subscribe others,
which moves the end of the matcher but no place in it.

Callbacks are told apart by the number of the call that subscribed them (`Numbered`), for
two of them may do the same. All that happens is written down in a chronicle
(`Happening`): each call for a subscription, each callback that is entered, with the
matcher as it finds it, and each call that returns, with the matcher it leaves. Scripts
are as in `Running.scripted`, and a callback performs its script each time it is entered.

The chronicle alone decides what stands in each place. It is the callback whose
subscription returned with this place, unless that callback is running, and then the place
is empty (`placesOf`). Every entry keeps to that (`Happening.Fits`). Two lists have to be
known besides. The callbacks that are running include one that has been taken out and is
about to be entered, and those that wait for their subscription to return hold no place
yet (`InPlace`). Both are as they were when a call returns (`Carried`), so nothing runs and
nothing waits once no call is being made.

## Main definitions

* `Numbered`: A callback with the number of its subscription.
* `Happening`: What happens around a matcher.
* `MatcherCall.chronicle`, `chronicleAll`, `chronicleHistory`: Calls that are written
  down.
* `Running.chronicled`: The effect of callbacks with scripts.
* `askedFor`, `runningIn`, `ownersIn`: What a chronicle says.
* `Matcher.places`, `placesOf`: What stands in each place, and what should.
* `Happening.Fits`, `Orderly`: Entries that keep to that.
* `InPlace`, `Carried`, `Entering`: What is kept by calls, and by callbacks.

## Theorems

* `InPlace.takenOut`, `InPlace.putBack`: A callback and its place.
* `InPlace.asked`, `InPlace.subscribed`: A subscription gets its place.
* `carried_visit`, `carried_resize`, `carried_subscribe`: Calls keep callbacks in place.
* `entering_chronicled`: So do scripts.
* `Orderly.owner`, `Orderly.positions`: The places that subscriptions return with.
* `callbacks_keep_their_places`: The chronicle of a new matcher.
-/

namespace ResponsiveImages

variable {κ σ : Type}

/-- A callback with the number of the call that subscribed it. -/
structure Numbered (κ : Type) where
  number : Nat
  callback : κ

/-- What happens around a matcher. -/
inductive Happening (κ : Type) where
  /-- A subscription is asked for. -/
  | asked (c : Numbered κ) (query : Text)
  /-- A callback is entered and finds the matcher in some state. -/
  | entered (c : Numbered κ) (found : Matcher (Numbered κ))
  | left (c : Numbered κ)
  /-- A subscription returns with a position and leaves the matcher in some state. -/
  | subscribed (c : Numbered κ) (query : Text) (position : Nat)
      (after : Matcher (Numbered κ))
  /-- A resize returns with a number of callbacks that it entered. -/
  | resized (v : Viewport) (fired : Nat) (after : Matcher (Numbered κ))

/-- A state around a matcher, with the chronicle of what has happened so far. -/
abbrev Chronicled (κ σ : Type) := σ × List (Happening κ)

/-! ### Chronicles -/

namespace Happening

/-- Whether a subscription is asked for. -/
def isAsked : Happening κ → Bool
  | asked _ _ => true
  | _ => false

/-- The callbacks that are running afterwards, given those that were before. -/
def runningAfter (before : List Nat) : Happening κ → List Nat
  | entered c _ => c.number :: before
  | left c => before.erase c.number
  | _ => before

/-- The callback and the query of a subscription that returns. -/
def owner? : Happening κ → Option (Numbered κ × Text)
  | subscribed c query _ _ => some (c, query)
  | _ => none

/-- The position that a subscription returns with. -/
def position? : Happening κ → Option Nat
  | subscribed _ _ position _ => some position
  | _ => none

/-- The matcher that is seen. -/
def matcher? : Happening κ → Option (Matcher (Numbered κ))
  | entered _ found => some found
  | subscribed _ _ _ after => some after
  | resized _ _ after => some after
  | _ => none

end Happening

/-- The number of subscriptions that have been asked for. -/
def askedFor (log : List (Happening κ)) : Nat :=
  log.countP Happening.isAsked

/-- The callbacks that have been entered and not left, the latest first. -/
def runningIn (log : List (Happening κ)) : List Nat :=
  log.foldl Happening.runningAfter []

/-- The callbacks whose subscriptions have returned, in that order, with their queries. -/
def ownersIn (log : List (Happening κ)) : List (Numbered κ × Text) :=
  log.filterMap Happening.owner?

/-- Making a call and writing down what happens. A subscription is numbered when it is
    asked for. -/
def MatcherCall.chronicle (run : Running (Numbered κ) (Chronicled κ σ))
    (state : Matcher (Numbered κ) × Chronicled κ σ) :
    MatcherCall κ → Matcher (Numbered κ) × Chronicled κ σ
  | subscribe query callback =>
    let c : Numbered κ := ⟨askedFor state.2.2, callback⟩
    let (position, (m, (s, log))) :=
      Matcher.subscribe run query c (state.1, (state.2.1, state.2.2 ++ [.asked c query]))
    (m, (s, log ++ [.subscribed c query position m]))
  | resize v =>
    let (fired, (m, (s, log))) := Matcher.resize run v state
    (m, (s, log ++ [.resized v fired m]))

/-- Making calls, one after the other. -/
def chronicleAll (run : Running (Numbered κ) (Chronicled κ σ)) (calls : List (MatcherCall κ))
    (state : Matcher (Numbered κ) × Chronicled κ σ) : Matcher (Numbered κ) × Chronicled κ σ :=
  calls.foldl (MatcherCall.chronicle run) state

/-- A new matcher after calls, and the chronicle of them. -/
def chronicleHistory (run : Running (Numbered κ) (Chronicled κ σ)) (v₀ : Viewport) (s₀ : σ)
    (calls : List (MatcherCall κ)) : Matcher (Numbered κ) × Chronicled κ σ :=
  chronicleAll run calls ({ viewport := v₀ }, (s₀, []))

/-- The effect of callbacks with scripts that nest to a given depth. At the bottom a
    callback makes no calls. -/
def Running.chronicled (script : κ → Matcher (Numbered κ) × σ → σ × List (MatcherCall κ)) :
    Nat → Running (Numbered κ) (Chronicled κ σ)
  | 0, c, (m, (s, log)) => (m, ((script c.callback (m, s)).1, log ++ [.entered c m] ++ [.left c]))
  | depth + 1, c, (m, (s, log)) =>
    let (s', calls) := script c.callback (m, s)
    let (m', (s'', log')) :=
      chronicleAll (chronicled script depth) calls (m, (s', log ++ [.entered c m]))
    (m', (s'', log' ++ [.left c]))

/-! ### Places -/

/-- What stands in the places of a matcher, with the query of each. -/
def Matcher.places (m : Matcher κ) : List (QueryList × Option κ) :=
  m.subscriptions.toList.map fun s => (s.query, s.callback)

/-- What should stand in the places that callbacks own, given which ones are running. -/
def placesOf (owners : List (Numbered κ × Text)) (running : List Nat) :
    List (QueryList × Option (Numbered κ)) :=
  owners.map fun owner =>
    (QueryList.read owner.2, if owner.1.number ∈ running then none else some owner.1)

/-- What happens keeps to the chronicle before it: no callback is entered that is running,
    a subscription returns with the next place, and the places of the matcher are what they
    should be. -/
def Happening.Fits (before : List (Happening κ)) (h : Happening κ) : Prop :=
  (∀ c found, h = entered c found → c.number ∉ runningIn before)
    ∧ (∀ position, h.position? = some position → position = (ownersIn before).length)
    ∧ ∀ m, h.matcher? = some m →
        m.places = placesOf (ownersIn (before ++ [h])) (runningIn (before ++ [h]))

/-- Every entry of a chronicle keeps to what stands before it. -/
def Orderly (log : List (Happening κ)) : Prop :=
  ∀ before h after, log = before ++ h :: after → h.Fits before

/-- All callbacks are where they should be, given those that are running and those whose
    subscriptions have been asked for and have not returned. -/
structure InPlace (pending running : List Nat) (m : Matcher (Numbered κ))
    (log : List (Happening κ)) : Prop where
  orderly : Orderly log
  /-- Every callback has a place or waits for one. -/
  numbers : ((ownersIn log).map (fun owner => owner.1.number) ++ pending).Perm
    (List.range (askedFor log))
  known : ∀ n ∈ running, n < askedFor log
  places : m.places = placesOf (ownersIn log) running

/-- What is done between two states leaves callbacks in place if they were, whichever of
    them wait. In the end the same ones are running, and there are only more places. Some
    callbacks may have been taken out beforehand. -/
def Carried (taken : List Nat) (a b : Matcher (Numbered κ) × Chronicled κ σ) : Prop :=
  ∀ pending, InPlace pending (taken ++ runningIn a.2.2) a.1 a.2.2 →
    runningIn b.2.2 = runningIn a.2.2 ∧ ownersIn a.2.2 <+: ownersIn b.2.2
      ∧ InPlace pending (taken ++ runningIn b.2.2) b.1 b.2.2

/-- A callback that is not running may be entered when it has been taken out. -/
def Entering (run : Running (Numbered κ) (Chronicled κ σ)) : Prop :=
  ∀ (c : Numbered κ) (state : Matcher (Numbered κ) × Chronicled κ σ),
    c.number ∉ runningIn state.2.2 → Carried [c.number] state (run c state)

/-! ### One more entry -/

section

variable {log : List (Happening κ)} {h : Happening κ}

theorem askedFor_append : askedFor (log ++ [h]) = askedFor log + h.isAsked.toNat := by
  rw [askedFor, List.countP_append, List.countP_singleton, askedFor]
  cases h.isAsked <;> rfl

theorem runningIn_append : runningIn (log ++ [h]) = h.runningAfter (runningIn log) := by
  rw [runningIn, List.foldl_append]
  rfl

theorem ownersIn_append : ownersIn (log ++ [h]) = ownersIn log ++ h.owner?.toList := by
  rw [ownersIn, List.filterMap_append, ownersIn]
  cases h <;> rfl

theorem Orderly.append (horderly : Orderly log) (hfits : h.Fits log) : Orderly (log ++ [h]) := by
  intro before h' after heq
  rcases List.eq_nil_or_concat after with hnil | ⟨after', last, hlast⟩
  · rw [hnil] at heq
    rcases List.append_inj' heq rfl with ⟨hbefore, hh⟩
    rw [← hbefore, ← List.head_eq_of_cons_eq hh]
    exact hfits
  · rw [hlast, List.concat_eq_append, ← List.cons_append, ← List.append_assoc] at heq
    exact horderly before h' after' (List.append_inj' heq rfl).1

end

/-! ### Places -/

section

variable {m : Matcher κ}

theorem places_getElem? (m : Matcher κ) (i : Nat) :
    m.places[i]? = (m.subscriptions[i]?).map fun s => (s.query, s.callback) := by
  rw [Matcher.places, List.getElem?_map, Array.getElem?_toList]

theorem length_places (m : Matcher κ) : m.places.length = m.size := by
  rw [Matcher.places, List.length_map, Array.length_toList, Matcher.size]

theorem places_push (s : Subscription κ) :
    ({ m with subscriptions := m.subscriptions.push s } : Matcher κ).places
      = m.places ++ [(s.query, s.callback)] := by
  rw [Matcher.places, Array.toList_push, List.map_append]
  rfl

/-- Changing a subscription in a way that keeps its query. -/
theorem places_modify (index : Nat) (f : Subscription κ → Subscription κ)
    (callback : Option κ) (hquery : ∀ s, (f s).query = s.query)
    (hcallback : ∀ s, m.subscriptions[index]? = some s → (f s).callback = callback) :
    (m.modify index f).places = m.places.modify index fun p => (p.1, callback) := by
  apply List.ext_getElem?
  intro i
  rw [places_getElem?, List.getElem?_modify, places_getElem?, Matcher.modify,
    Array.getElem?_modify]
  by_cases h : index = i
  · rw [if_pos h]
    cases hget : m.subscriptions[i]? with
    | none => rfl
    | some s => simp [h, hquery, hcallback s (h ▸ hget)]
  · simp [h]

end

/-! ### Callbacks in their places -/

section

variable {owners : List (Numbered κ × Text)} {taken : List Nat}

theorem placesOf_getElem? (owners : List (Numbered κ × Text)) (taken : List Nat) (i : Nat) :
    (placesOf owners taken)[i]? = (owners[i]?).map fun owner =>
      (QueryList.read owner.2, if owner.1.number ∈ taken then none else some owner.1) := by
  rw [placesOf, List.getElem?_map]

/-- Callbacks that own no place may be taken out or not. -/
theorem placesOf_unowned {n : Nat} (h : n ∉ owners.map fun owner => owner.1.number) :
    placesOf owners (n :: taken) = placesOf owners taken := by
  refine List.map_congr_left fun owner howner => ?_
  have hne : owner.1.number ≠ n := fun heq => h (List.mem_map.mpr ⟨owner, howner, heq⟩)
  simp only [List.mem_cons, hne, false_or]

variable {c : Numbered κ} {query : Text} {i : Nat}
  (hnodup : (owners.map fun owner => owner.1.number).Nodup)
  (howner : owners[i]? = some (c, query))

include hnodup howner

/-- The place of a callback that is taken out. -/
theorem placesOf_cons :
    placesOf owners (c.number :: taken)
      = (placesOf owners taken).modify i fun p => (p.1, none) := by
  apply List.ext_getElem?
  intro j
  rw [List.getElem?_modify, placesOf_getElem?, placesOf_getElem?]
  by_cases hj : i = j
  · rw [← hj, howner]
    simp
  · cases hget : owners[j]? with
    | none => simp
    | some owner =>
        -- Another place has another owner.
        have hne : owner.1.number ≠ c.number := by
          intro heq
          have hlt : i < (owners.map fun owner => owner.1.number).length := by
            rw [List.length_map]
            exact (List.getElem?_eq_some_iff.mp howner).1
          refine hj ((List.getElem?_inj hlt hnodup).mp ?_)
          rw [List.getElem?_map, List.getElem?_map, howner, hget]
          simp [heq]
        simp [hj, hne]

/-- The place of a callback that is put back. -/
theorem placesOf_of_cons (hc : c.number ∉ taken) :
    (placesOf owners (c.number :: taken)).modify i (fun p => (p.1, some c))
      = placesOf owners taken := by
  rw [placesOf_cons hnodup howner]
  apply List.ext_getElem?
  intro j
  rw [List.getElem?_modify, List.getElem?_modify, placesOf_getElem?]
  by_cases hj : i = j
  · rw [← hj, howner]
    simp [hc]
  · simp [hj]

end

namespace InPlace

variable {pending taken : List Nat} {m : Matcher (Numbered κ)} {log : List (Happening κ)}

theorem nodup (h : InPlace pending taken m log) :
    ((ownersIn log).map (fun owner => owner.1.number) ++ pending).Nodup :=
  h.numbers.nodup_iff.mpr List.nodup_range

/-- A callback that waits has no place. -/
theorem unowned (h : InPlace pending taken m log) {n : Nat} (hn : n ∈ pending) :
    n ∉ (ownersIn log).map fun owner => owner.1.number :=
  fun hmem => (List.nodup_append.mp h.nodup).2.2 n hmem n hn rfl

/-- The subscription in a place, and the owner of the place. -/
theorem owner (h : InPlace pending taken m log) {i : Nat} {s : Subscription (Numbered κ)}
    (hget : m.subscriptions[i]? = some s) :
    ∃ c query, (ownersIn log)[i]? = some (c, query) ∧ s.query = QueryList.read query
      ∧ s.callback = if c.number ∈ taken then none else some c := by
  have hplace := congrArg (fun places => places[i]?) h.places
  simp only [places_getElem?, hget, Option.map_some, placesOf_getElem?] at hplace
  rcases Option.map_eq_some_iff.mp hplace.symm with ⟨⟨c, query⟩, howner, heq⟩
  rw [Prod.mk.injEq] at heq
  exact ⟨c, query, howner, heq.1.symm, heq.2.symm⟩

theorem size (h : InPlace pending taken m log) : m.size = (ownersIn log).length := by
  rw [← length_places, h.places, placesOf, List.length_map]

/-- Callbacks stay in place when the places stay as they are. -/
theorem of_places (h : InPlace pending taken m log) {m' : Matcher (Numbered κ)}
    (hplaces : m'.places = m.places) : InPlace pending taken m' log :=
  { h with places := hplaces.trans h.places }

/-! ### Entries -/

/-- An entry that gives no place away. The matcher it shows, if any, is the one there is,
    and the callbacks that have been taken out are those that it says are running. -/
theorem noted (h : InPlace pending taken m log) {event : Happening κ}
    (hasked : event.isAsked = false) (howner : event.owner? = none)
    (hentered : ∀ c found, event = .entered c found → c.number ∉ runningIn log)
    (hmatcher : ∀ m', event.matcher? = some m' →
      m' = m ∧ taken = event.runningAfter (runningIn log)) :
    InPlace pending taken m (log ++ [event]) where
  orderly := by
    refine h.orderly.append ⟨hentered, fun position heq => ?_, fun m' heq => ?_⟩
    · cases event with
      | subscribed => exact absurd howner (by simp [Happening.owner?])
      | asked | entered | left | resized => exact absurd heq (by simp [Happening.position?])
    · rcases hmatcher m' heq with ⟨hm, htaken⟩
      rw [hm, h.places, ownersIn_append, howner, runningIn_append, htaken, Option.toList_none,
        List.append_nil]
  numbers := by
    rw [ownersIn_append, howner, askedFor_append, hasked, Option.toList_none, List.append_nil]
    exact h.numbers
  known := by
    rw [askedFor_append, hasked]
    exact h.known
  places := by
    rw [ownersIn_append, howner, Option.toList_none, List.append_nil]
    exact h.places

/-- A subscription that is asked for waits. -/
theorem asked (h : InPlace pending taken m log) (callback : κ) (query : Text) :
    InPlace (askedFor log :: pending) taken m
      (log ++ [.asked ⟨askedFor log, callback⟩ query]) := by
  have howners : ownersIn (log ++ [.asked ⟨askedFor log, callback⟩ query]) = ownersIn log :=
    ownersIn_append.trans (List.append_nil _)
  have hasked : askedFor (log ++ [.asked ⟨askedFor log, callback⟩ query]) = askedFor log + 1 :=
    askedFor_append
  exact
    { orderly := h.orderly.append
        ⟨fun _ _ heq => absurd heq (by simp),
          fun _ heq => absurd heq (by simp [Happening.position?]),
          fun _ heq => absurd heq (by simp [Happening.matcher?])⟩
      numbers := by
        rw [howners, hasked, List.range_succ]
        refine List.perm_middle.trans ((h.numbers.cons _).trans ?_)
        exact (List.perm_append_singleton _ _).symm
      known := by
        rw [hasked]
        exact fun n hn => Nat.lt_succ_of_lt (h.known n hn)
      places := by
        rw [howners]
        exact h.places }

/-- A subscription that returns gets the next place. -/
theorem subscribed {c : Numbered κ} (h : InPlace (c.number :: pending) (runningIn log) m log)
    (hc : c.number ∉ runningIn log) {query : Text} {m' : Matcher (Numbered κ)}
    (hm : m'.places = m.places ++ [(QueryList.read query, some c)]) :
    InPlace pending (runningIn log) m' (log ++ [.subscribed c query m.size m']) := by
  have hplaces : m'.places = placesOf (ownersIn log ++ [(c, query)]) (runningIn log) := by
    rw [hm, h.places, placesOf, placesOf, List.map_append, List.map_singleton, if_neg hc]
  have howners : ownersIn (log ++ [.subscribed c query m.size m']) = ownersIn log ++ [(c, query)] :=
    ownersIn_append
  exact
    { orderly := by
        refine h.orderly.append ⟨fun _ _ heq => absurd heq (by simp), fun position heq => ?_,
          fun m'' heq => ?_⟩
        · rw [← Option.some.inj heq, h.size]
        · rw [← Option.some.inj heq, howners, runningIn_append]
          exact hplaces
      numbers := by
        rw [howners, List.map_append, List.map_singleton, List.append_assoc, askedFor_append]
        exact h.numbers
      known := by
        rw [askedFor_append]
        exact h.known
      places := by
        rw [howners]
        exact hplaces }

/-- A callback is taken out of its place. -/
theorem takenOut (h : InPlace pending taken m log) {i : Nat} {c : Numbered κ} {query : Text}
    (howner : (ownersIn log)[i]? = some (c, query)) {m' : Matcher (Numbered κ)}
    (hplaces : m'.places = m.places.modify i fun p => (p.1, none)) :
    InPlace pending (c.number :: taken) m' log :=
  { h with
    known := by
      refine List.forall_mem_cons.mpr ⟨?_, h.known⟩
      have hmem : c.number ∈ (ownersIn log).map fun owner => owner.1.number :=
        List.mem_map.mpr ⟨_, List.mem_of_getElem? howner, rfl⟩
      exact List.mem_range.mp (h.numbers.mem_iff.mp (List.mem_append_left pending hmem))
    places := by
      rw [hplaces, h.places]
      exact (placesOf_cons (List.nodup_append.mp h.nodup).1 howner).symm }

/-- A callback is put back into its place. -/
theorem putBack {c : Numbered κ} (h : InPlace pending (c.number :: taken) m log) {i : Nat}
    {query : Text} (howner : (ownersIn log)[i]? = some (c, query)) (hc : c.number ∉ taken)
    {m' : Matcher (Numbered κ)}
    (hplaces : m'.places = m.places.modify i fun p => (p.1, some c)) :
    InPlace pending taken m' log :=
  { h with
    known := (List.forall_mem_cons.mp h.known).2
    places := by
      rw [hplaces, h.places]
      exact placesOf_of_cons (List.nodup_append.mp h.nodup).1 howner hc }

/-- A callback that waits for its place may be entered and left without being in one. -/
theorem taken_iff {n : Nat} (hn : n ∈ pending) :
    InPlace pending (n :: taken) m log ↔ InPlace pending taken m log := by
  constructor
  · intro h
    have hunowned := h.unowned hn
    exact { h with
      known := (List.forall_mem_cons.mp h.known).2
      places := h.places.trans (placesOf_unowned hunowned) }
  · intro h
    have hunowned := h.unowned hn
    exact { h with
      known := List.forall_mem_cons.mpr
        ⟨List.mem_range.mp (h.numbers.mem_iff.mp (List.mem_append_right _ hn)), h.known⟩
      places := h.places.trans (placesOf_unowned hunowned).symm }

end InPlace

/-! ### Calls -/

theorem Carried.refl (taken : List Nat) (a : Matcher (Numbered κ) × Chronicled κ σ) :
    Carried taken a a :=
  fun _ h => ⟨rfl, List.prefix_refl _, h⟩

theorem Carried.trans {taken : List Nat} {a b c : Matcher (Numbered κ) × Chronicled κ σ}
    (hab : Carried taken a b) (hbc : Carried taken b c) : Carried taken a c := by
  intro pending h
  rcases hab pending h with ⟨hrunning, howners, hb⟩
  rcases hbc pending hb with ⟨hrunning', howners', hc⟩
  exact ⟨hrunning'.trans hrunning, howners.trans howners', hc⟩

theorem places_put_back (m : Matcher κ) (index : Nat) (callback : Option κ) :
    (m.modify index fun entry => { entry with callback }).places
      = m.places.modify index fun p => (p.1, callback) :=
  places_modify index _ callback (fun _ => rfl) fun _ _ => rfl

/-- Putting into a place what stands there already. -/
theorem modify_places_self {places : List (QueryList × Option κ)} {i : Nat} {q : QueryList}
    {callback : Option κ} (h : places[i]? = some (q, callback)) :
    (places.modify i fun p => (p.1, callback)) = places := by
  apply List.ext_getElem?
  intro j
  rw [List.getElem?_modify]
  by_cases hj : i = j
  · rw [← hj, h]
    simp
  · simp [hj]

section

variable {run : Running (Numbered κ) (Chronicled κ σ)} (hrun : Entering run)

include hrun

/-- Visiting one subscription of a resize. -/
theorem carried_visit (v : Viewport)
    (progress : Nat × (Matcher (Numbered κ) × Chronicled κ σ)) (index : Nat) :
    Carried [] progress.2 (Matcher.visit run v progress index).2 := by
  rcases progress with ⟨fired, m, s, log⟩
  cases hget : m.subscriptions[index]? with
  | none =>
      have hvisit : Matcher.visit run v (fired, (m, (s, log))) index = (fired, (m, (s, log))) := by
        simp only [Matcher.visit, hget]
      rw [hvisit]
      exact Carried.refl _ _
  | some subscription =>
      rcases subscription with ⟨queries, matching, callback⟩
      intro pending h
      rw [visit_eq run v hget]
      rcases h.owner hget with ⟨c, query, howner, _, hcallback⟩
      have hplace : m.places[index]? = some (queries, callback) := by
        rw [places_getElem?, hget, Option.map_some]
      have hcompared : ∀ now, (m.modify index fun entry => entry.compared now).places
          = m.places.modify index fun p =>
            (p.1, if (now && !matching) = true then none else callback) :=
        fun now => places_modify index _ _ (fun _ => rfl) fun entry hentry => by
          rw [hget, Option.some.injEq] at hentry
          rw [← hentry]
          rfl
      by_cases hedge : (queries.holds v && !matching) = true
      · have htaken := hcompared (queries.holds v)
        rw [if_pos hedge] at htaken
        rw [if_pos hedge]
        by_cases hc : c.number ∈ runningIn log
        · -- The place is empty, and stays so.
          obtain rfl : callback = none := hcallback.trans (if_pos hc)
          rw [modify_places_self hplace] at htaken
          refine ⟨rfl, List.prefix_refl _, h.of_places ?_⟩
          rw [places_put_back]
          exact (congrArg _ htaken).trans (modify_places_self hplace)
        · obtain rfl : callback = some c := hcallback.trans (if_neg hc)
          let m' := m.modify index fun entry => entry.compared (queries.holds v)
          rcases hrun c (m', (s, log)) hc pending (h.takenOut howner htaken)
            with ⟨hrunning, howners, hleft⟩
          -- The place still has the owner it had.
          have howner' : (ownersIn (run c (m', (s, log))).2.2)[index]? = some (c, query) := by
            rcases howners with ⟨more, hmore⟩
            rw [← hmore, List.getElem?_append_left (List.getElem?_eq_some_iff.mp howner).1]
            exact howner
          exact ⟨hrunning, howners,
            hleft.putBack howner' (by rw [hrunning]; exact hc) (places_put_back _ index _)⟩
      · rw [if_neg hedge]
        refine ⟨rfl, List.prefix_refl _, h.of_places ?_⟩
        rw [hcompared, if_neg hedge, modify_places_self hplace]

theorem carried_visits (v : Viewport) (indices : List Nat) :
    ∀ progress : Nat × (Matcher (Numbered κ) × Chronicled κ σ),
      Carried [] progress.2 (indices.foldl (Matcher.visit run v) progress).2 := by
  induction indices with
  | nil => exact fun progress => Carried.refl _ _
  | cons index indices ih =>
      exact fun progress => (carried_visit hrun v progress index).trans (ih _)

theorem carried_resize (v : Viewport) (state : Matcher (Numbered κ) × Chronicled κ σ) :
    Carried [] state (MatcherCall.chronicle run state (.resize v)) := by
  intro pending h
  rcases carried_visits hrun v _ (0, ({ state.1 with viewport := v }, state.2)) pending
    (h.of_places rfl) with ⟨hrunning, howners, hafter⟩
  refine ⟨runningIn_append.trans hrunning, ?_, ?_⟩
  · rw [MatcherCall.chronicle, ownersIn_append]
    exact howners.trans (List.prefix_append _ _)
  · rw [MatcherCall.chronicle, runningIn_append]
    exact hafter.noted rfl rfl (fun _ _ heq => absurd heq (by simp))
      fun m' heq => ⟨(Option.some.inj heq).symm, rfl⟩

/-- A subscription enters its callback, if at all, before it has a place. -/
theorem carried_subscribe (query : Text) (callback : κ)
    (state : Matcher (Numbered κ) × Chronicled κ σ) :
    Carried [] state (MatcherCall.chronicle run state (.subscribe query callback)) := by
  rcases state with ⟨m, s, log⟩
  intro pending h
  let c : Numbered κ := ⟨askedFor log, callback⟩
  let matching := (QueryList.read query).holds m.viewport
  let asking : Matcher (Numbered κ) × Chronicled κ σ := (m, (s, log ++ [.asked c query]))
  let told := Running.enter run (if matching then some c else none) asking
  have hasking : InPlace (c.number :: pending) (runningIn asking.2.2) m asking.2.2 := by
    rw [runningIn_append]
    exact h.asked callback query
  have hnew : c.number ∉ runningIn asking.2.2 := by
    rw [runningIn_append]
    exact fun hmem => absurd (h.known _ hmem) (Nat.lt_irrefl _)
  have htold : runningIn told.2.2 = runningIn asking.2.2
      ∧ ownersIn asking.2.2 <+: ownersIn told.2.2
      ∧ InPlace (c.number :: pending) (runningIn told.2.2) told.1 told.2.2 := by
    by_cases hmatching : matching = true
    · have htold : told = run c asking := by simp only [told, if_pos hmatching, Running.enter]
      rcases hrun c asking hnew _ ((InPlace.taken_iff List.mem_cons_self).mpr hasking)
        with ⟨hrunning, howners, hleft⟩
      rw [htold]
      exact ⟨hrunning, howners, (InPlace.taken_iff List.mem_cons_self).mp hleft⟩
    · have htold : told = asking := by simp only [told, if_neg hmatching, Running.enter]
      rw [htold]
      exact ⟨rfl, List.prefix_refl _, hasking⟩
  rcases htold with ⟨hrunning, howners, hafter⟩
  let m' : Matcher (Numbered κ) :=
    { told.1 with
      subscriptions := told.1.subscriptions.push ⟨QueryList.read query, matching, some c⟩ }
  have hresult : MatcherCall.chronicle run (m, (s, log)) (.subscribe query callback)
      = (m', (told.2.1, told.2.2 ++ [.subscribed c query told.1.size m'])) := by
    rw [MatcherCall.chronicle, subscribe_eq]
  have hasked : runningIn asking.2.2 = runningIn log := runningIn_append
  have hreturned : runningIn (told.2.2 ++ [.subscribed c query told.1.size m'])
      = runningIn told.2.2 := runningIn_append
  rw [hresult]
  refine ⟨hreturned.trans (hrunning.trans hasked), ?_, ?_⟩
  · have hbefore : ownersIn asking.2.2 = ownersIn log :=
      ownersIn_append.trans (List.append_nil _)
    rw [ownersIn_append]
    exact (hbefore ▸ howners).trans (List.prefix_append _ _)
  · rw [hreturned]
    exact hafter.subscribed (hrunning ▸ hnew) (places_push _)

theorem carried_call (call : MatcherCall κ) (state : Matcher (Numbered κ) × Chronicled κ σ) :
    Carried [] state (MatcherCall.chronicle run state call) := by
  cases call with
  | subscribe query callback => exact carried_subscribe hrun query callback state
  | resize v => exact carried_resize hrun v state

theorem carried_calls (calls : List (MatcherCall κ)) :
    ∀ state : Matcher (Numbered κ) × Chronicled κ σ,
      Carried [] state (chronicleAll run calls state) := by
  induction calls with
  | nil => exact fun state => Carried.refl _ _
  | cons call calls ih => exact fun state => (carried_call hrun call state).trans (ih _)

end

/-! ### Scripts -/

/-- A callback that has been taken out is entered, does something that leaves the others in
    place, and is left. -/
theorem Carried.entered {c : Numbered κ} {m : Matcher (Numbered κ)} {s s' : σ}
    {log : List (Happening κ)} (hc : c.number ∉ runningIn log)
    {b : Matcher (Numbered κ) × Chronicled κ σ}
    (h : Carried [] (m, (s', log ++ [.entered c m])) b) :
    Carried [c.number] (m, (s, log)) (b.1, (b.2.1, b.2.2 ++ [.left c])) := by
  intro pending htaken
  have hentered : runningIn (log ++ [.entered c m]) = c.number :: runningIn log :=
    runningIn_append
  have howners : ownersIn (log ++ [.entered c m]) = ownersIn log :=
    ownersIn_append.trans (List.append_nil _)
  have hnoted : InPlace pending (runningIn (log ++ [.entered c m])) m (log ++ [.entered c m]) := by
    rw [hentered]
    exact htaken.noted rfl rfl (fun c' found heq => (Happening.entered.inj heq).1 ▸ hc)
      fun m' heq => ⟨(Option.some.inj heq).symm, rfl⟩
  rcases h pending hnoted with ⟨hrunning, hmore, hafter⟩
  rw [hentered] at hrunning
  -- The callback that is left is the one that was entered last.
  have hleft : runningIn (b.2.2 ++ [.left c]) = runningIn log := by
    rw [runningIn_append, hrunning]
    exact List.erase_cons_head _ _
  refine ⟨hleft, ?_, ?_⟩
  · rw [ownersIn_append, ← howners]
    exact hmore.trans (List.prefix_append _ _)
  · rw [hleft, List.singleton_append, ← hrunning]
    exact hafter.noted rfl rfl (fun _ _ heq => absurd heq (by simp))
      fun m' heq => absurd heq (by simp [Happening.matcher?])

theorem entering_chronicled (script : κ → Matcher (Numbered κ) × σ → σ × List (MatcherCall κ))
    (depth : Nat) : Entering (Running.chronicled script depth) := by
  induction depth with
  | zero =>
      rintro c ⟨m, s, log⟩ hc
      exact (Carried.refl [] (m, ((script c.callback (m, s)).1, log ++ [.entered c m]))).entered hc
  | succ depth ih =>
      rintro c ⟨m, s, log⟩ hc
      exact (carried_calls ih (script c.callback (m, s)).2 _).entered hc

/-! ### Histories -/

theorem inPlace_new (v₀ : Viewport) :
    InPlace [] [] ({ viewport := v₀ } : Matcher (Numbered κ)) ([] : List (Happening κ)) where
  orderly := fun before h after heq => absurd heq (by simp)
  numbers := List.Perm.refl _
  known := List.forall_mem_nil _
  places := rfl

/-- When no call is being made, no callback is running and none waits. -/
theorem inPlace_history (script : κ → Matcher (Numbered κ) × σ → σ × List (MatcherCall κ))
    (depth : Nat) (v₀ : Viewport) (s₀ : σ) (calls : List (MatcherCall κ)) :
    let final := chronicleHistory (Running.chronicled script depth) v₀ s₀ calls
    InPlace [] [] final.1 final.2.2 := by
  intro final
  rcases carried_calls (entering_chronicled script depth) calls ({ viewport := v₀ }, (s₀, [])) []
    (inPlace_new v₀) with ⟨hrunning, _, hafter⟩
  rw [hrunning] at hafter
  exact hafter

namespace Orderly

variable {log : List (Happening κ)}

theorem of_append {more : List (Happening κ)} (h : Orderly (log ++ more)) : Orderly log := by
  intro before event after heq
  refine h before event (after ++ more) ?_
  rw [heq, List.append_assoc, List.cons_append]

/-- A subscription owns the place it has returned with. -/
theorem owner (h : Orderly log) {c : Numbered κ} {query : Text} {position : Nat}
    {after : Matcher (Numbered κ)} (hmem : .subscribed c query position after ∈ log) :
    (ownersIn log)[position]? = some (c, query) := by
  rcases List.append_of_mem hmem with ⟨before, later, heq⟩
  have hposition := (h before _ later heq).2.1 position rfl
  have howners : ownersIn log = ownersIn before ++ (c, query) :: ownersIn later := by
    rw [heq, ownersIn, List.filterMap_append]
    rfl
  rw [howners, hposition, List.getElem?_append_right (Nat.le_refl _), Nat.sub_self,
    List.getElem?_cons_zero]

/-- Subscriptions return with one place after the other. -/
theorem positions (h : Orderly log) :
    log.filterMap Happening.position? = List.range (ownersIn log).length := by
  induction log using List.reverseRecOn with
  | nil => rfl
  | append_singleton log event ih =>
      have hfits := h log event [] rfl
      rw [List.filterMap_append, ih h.of_append, ownersIn_append]
      cases event with
      | subscribed c query position after =>
          rw [hfits.2.1 position rfl, List.length_append]
          exact List.range_succ.symm
      | asked | entered | left | resized =>
          exact (List.append_nil _).trans (by rw [List.length_append]; rfl)

end Orderly

/-- The subscription in the place that a callback owns. -/
theorem subscription_of_owner {m : Matcher (Numbered κ)} {owners : List (Numbered κ × Text)}
    {taken : List Nat} (hplaces : m.places = placesOf owners taken) {position : Nat}
    {c : Numbered κ} {query : Text} (howner : owners[position]? = some (c, query)) :
    ∃ s, m.subscriptions[position]? = some s ∧ s.query = QueryList.read query
      ∧ s.callback = if c.number ∈ taken then none else some c := by
  have hplace := congrArg (fun places => places[position]?) hplaces
  simp only [places_getElem?, placesOf_getElem?, howner, Option.map_some] at hplace
  rcases Option.map_eq_some_iff.mp hplace with ⟨s, hs, heq⟩
  rw [Prod.mk.injEq] at heq
  exact ⟨s, hs, heq.1, heq.2⟩

/-- Any calls on a new matcher whose callbacks perform scripts of calls themselves. No
    callback is entered that is running. Whenever the matcher is seen, each subscription
    that has returned is at the position it returned with, and holds its callback or, while
    that is running, nothing. The positions are all different, one for each subscription
    that has been asked for. When the calls have returned, every subscription holds its
    callback. -/
theorem callbacks_keep_their_places
    (script : κ → Matcher (Numbered κ) × σ → σ × List (MatcherCall κ)) (depth : Nat)
    (v₀ : Viewport) (s₀ : σ) (calls : List (MatcherCall κ)) :
    let final := chronicleHistory (Running.chronicled script depth) v₀ s₀ calls
    let m := final.1
    let log := final.2.2
    (∀ before c found after, log = before ++ .entered c found :: after →
        c.number ∉ runningIn before)
      ∧ (∀ before event after seen, log = before ++ event :: after →
          event.matcher? = some seen → ∀ c query position left,
            .subscribed c query position left ∈ before ++ [event] →
              ∃ s, seen.subscriptions[position]? = some s ∧ s.query = QueryList.read query
                ∧ s.callback = if c.number ∈ runningIn (before ++ [event]) then none else some c)
      ∧ log.filterMap Happening.position? = List.range m.size
      ∧ m.size = askedFor log
      ∧ ∀ c query position left, .subscribed c query position left ∈ log →
          ∃ s, m.subscriptions[position]? = some s ∧ s.query = QueryList.read query
            ∧ s.callback = some c := by
  intro final m log
  have hfinal : InPlace [] [] m log := inPlace_history script depth v₀ s₀ calls
  refine ⟨?_, ?_, ?_, ?_, ?_⟩
  · intro before c found after heq
    exact (hfinal.orderly before _ after heq).1 c found rfl
  · intro before event after seen heq hseen c query position left hmem
    have horderly : Orderly (before ++ [event]) := by
      refine Orderly.of_append (?_ : Orderly ((before ++ [event]) ++ after))
      rw [List.append_assoc, List.singleton_append, ← heq]
      exact hfinal.orderly
    have hplaces := (hfinal.orderly before event after heq).2.2 seen hseen
    exact subscription_of_owner hplaces (horderly.owner hmem)
  · rw [hfinal.orderly.positions, hfinal.size]
  · have hlength := hfinal.numbers.length_eq
    rw [List.append_nil, List.length_map, List.length_range] at hlength
    rw [hfinal.size, hlength]
  · intro c query position left hmem
    exact subscription_of_owner hfinal.places (hfinal.orderly.owner hmem)

/-- A callback that leaves its query and enters it again. The inner resize counts it, but
    it comes to an empty place. -/
example :
    let log := (chronicleHistory
      (Running.chronicled (fun callback _ => ((), callback.map .resize)) 3) { width := 600 } ()
      [.subscribe "(min-width: 1000px)".toList [{ width := 320 }, { width := 1200 }],
        .resize { width := 1200 }]).2.2
    (log.filterMap fun | .entered c _ => some c.number | _ => none) = [0]
      ∧ (log.filterMap fun | .resized _ fired _ => some fired | _ => none) = [0, 1, 1] := by
  decide +kernel

end ResponsiveImages
