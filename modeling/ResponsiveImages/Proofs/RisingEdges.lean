import ResponsiveImages.Live.Matcher

/-!
# Rising Edges

What a matcher tells its subscribers over a whole history of calls, as long
as the callbacks leave the matcher alone.

A callback that does not call the matcher can still see the viewport, which
it shares with the matcher. `Running.outside` is the effect of such callbacks:
it is handed the viewport of the moment and the state around the matcher, and
only the latter changes.

Between calls a matcher has a closed form (`Matcher.settled`). Every
subscription has its callback back, and its flag says whether its query holds
in the viewport of the moment. Both kinds of calls lead from one settled
matcher to the next, so the history of a matcher is that of its viewport and
of its registrations. A resize is settled again only at its end; in between,
the subscriptions it has visited are compared with the new viewport and the
others with the old one (`Matcher.halfway`).

Who is told what is said by `firingLog`, which knows nothing about flags. A
subscriber is told at its registration if its query holds then, and at every
resize that takes its query from not holding to holding.

## Main definitions

* `Running.outside`: The effect of callbacks that leave the matcher alone.
* `MatcherCall`, `MatcherCall.perform`: A call on a matcher.
* `performAll`: A history of calls.
* `Registration`, `registrations`: What has been subscribed.
* `viewportAfter`: The viewport a history leads to.
* `Firing`, `MatcherCall.firings`, `firingLog`: Who is told, and when.
* `risingEdges`: How often a history takes a query to holding.
* `timesTold`: How often a log tells a position.
* `Matcher.settled`, `Matcher.halfway`: The forms of a matcher.

## Theorems

* `subscribe_settled`: A subscription leads from settled to settled.
* `visit_halfway`: Visiting one subscription of a resize.
* `resize_settled`: A resize leads from settled to settled.
* `performAll_settled`: So does a history, by the effects of its log.
* `timesTold_subscribe`: How often a subscription is told.
* `mem_firingLog`, `pairwise_told`: Who is told, and in which order.
* `matcher_fires_on_rising_edges`: The history of a new matcher.
-/

namespace ResponsiveImages

variable {κ σ : Type}

/-- The effect of callbacks that leave the matcher alone: they see the viewport
    of the moment and change the state around the matcher. -/
def Running.outside (effect : κ → Viewport → σ → σ) : Running κ σ :=
  fun callback state => (state.1, effect callback state.1.viewport state.2)

/-- A call on a matcher. -/
inductive MatcherCall (κ : Type) where
  | subscribe (query : Text) (callback : κ)
  | resize (v : Viewport)

/-- A query together with the callback that was subscribed to it. -/
abbrev Registration (κ : Type) := QueryList × κ

/-- A callback that is told that its query has started to hold. -/
structure Firing (κ : Type) where
  /-- The position of the subscription. -/
  position : Nat
  callback : κ
  /-- The viewport the callback sees. -/
  viewport : Viewport

namespace MatcherCall

/-- Making a call. The answer is the position of the new subscription, or the
    number of callbacks that were entered. -/
def perform (run : Running κ σ) (state : Matcher κ × σ) :
    MatcherCall κ → Nat × (Matcher κ × σ)
  | subscribe query callback => Matcher.subscribe run query callback state
  | resize v => Matcher.resize run v state

/-- The viewport after a call. -/
def viewportAfter (v : Viewport) : MatcherCall κ → Viewport
  | subscribe _ _ => v
  | resize v' => v'

/-- What a call registers. -/
def registrations : MatcherCall κ → List (Registration κ)
  | subscribe query callback => [(QueryList.read query, callback)]
  | resize _ => []

/-- Whether a resize takes a query from not holding to holding. -/
def rises (q : QueryList) (v v' : Viewport) : Bool :=
  !q.holds v && q.holds v'

/-- Who is told by a call, given the viewport and the registrations before it. -/
def firings (v : Viewport) (regs : List (Registration κ)) : MatcherCall κ → List (Firing κ)
  | subscribe query callback =>
    if (QueryList.read query).holds v then [⟨regs.length, callback, v⟩] else []
  | resize v' =>
    (regs.zipIdx.filter fun r => rises r.1.1 v v').map fun r => ⟨r.2, r.1.2, v'⟩

end MatcherCall

/-- A history of calls on a matcher. -/
def performAll (run : Running κ σ) (calls : List (MatcherCall κ)) (state : Matcher κ × σ) :
    Matcher κ × σ :=
  calls.foldl (fun state call => (call.perform run state).2) state

/-- The viewport after a history of calls. -/
def viewportAfter (v : Viewport) (calls : List (MatcherCall κ)) : Viewport :=
  calls.foldl MatcherCall.viewportAfter v

/-- What a history of calls registers, in order. -/
def registrations (calls : List (MatcherCall κ)) : List (Registration κ) :=
  calls.flatMap MatcherCall.registrations

/-- Who is told over a history of calls, given the viewport and the registrations
    before it. -/
def firingLog : Viewport → List (Registration κ) → List (MatcherCall κ) → List (Firing κ)
  | _, _, [] => []
  | v, regs, call :: rest =>
    call.firings v regs
      ++ firingLog (call.viewportAfter v) (regs ++ call.registrations) rest

/-- The state after callbacks have been told, one after the other. -/
def tellAll (effect : κ → Viewport → σ → σ) (log : List (Firing κ)) (s : σ) : σ :=
  log.foldl (fun s f => effect f.callback f.viewport s) s

/-- The number of resizes in a history that take a query from not holding to
    holding. -/
def risingEdges (q : QueryList) : Viewport → List (MatcherCall κ) → Nat
  | _, [] => 0
  | v, call :: rest =>
    (MatcherCall.rises q v (call.viewportAfter v)).toNat
      + risingEdges q (call.viewportAfter v) rest

/-- The subscription of a registration that was last compared with a viewport. -/
def Registration.settled (v : Viewport) (r : Registration κ) : Subscription κ :=
  ⟨r.1, r.1.holds v, some r.2⟩

namespace Matcher

/-- A matcher between calls. -/
def settled (v : Viewport) (regs : List (Registration κ)) : Matcher κ where
  viewport := v
  subscriptions := (regs.map (Registration.settled v)).toArray

/-- A matcher in the middle of a resize, which has visited some subscriptions. -/
def halfway (v v' : Viewport) (visited rest : List (Registration κ)) : Matcher κ where
  viewport := v'
  subscriptions :=
    (visited.map (Registration.settled v') ++ rest.map (Registration.settled v)).toArray

end Matcher

open MatcherCall (rises)

variable (effect : κ → Viewport → σ → σ)

theorem tellAll_append (log log' : List (Firing κ)) (s : σ) :
    tellAll effect (log ++ log') s = tellAll effect log' (tellAll effect log s) := by
  simp only [tellAll, List.foldl_append]

/-- A subscription leads from settled to settled. The callback runs before the
    subscription is entered, but it cannot tell. -/
theorem subscribe_settled (v : Viewport) (regs : List (Registration κ)) (query : Text)
    (callback : κ) (s : σ) :
    Matcher.subscribe (Running.outside effect) query callback (Matcher.settled v regs, s)
      = (regs.length,
          (Matcher.settled v (regs ++ [(QueryList.read query, callback)]),
            tellAll effect ((MatcherCall.subscribe query callback).firings v regs) s)) := by
  by_cases h : (QueryList.read query).holds v = true
  · simp [Matcher.subscribe, Matcher.settled, Matcher.size, Running.outside,
      MatcherCall.firings, tellAll, Registration.settled, h]
  · simp [Matcher.subscribe, Matcher.settled, Matcher.size, MatcherCall.firings, tellAll,
      Registration.settled, h]

theorem modify_at_length {α : Type} (f : α → α) (l rest : List α) (x : α) :
    (l ++ x :: rest).modify l.length f = l ++ f x :: rest := by
  induction l with
  | nil => rfl
  | cons y l ih =>
      simp only [List.cons_append, List.length_cons, List.modify_succ_cons, ih]

/-- The matcher halfway through a resize, with the first subscription that has not
    been visited in any form. -/
def Matcher.halfwayAt (v v' : Viewport) (visited : List (Registration κ))
    (current : Subscription κ) (rest : List (Registration κ)) : Matcher κ where
  viewport := v'
  subscriptions :=
    (visited.map (Registration.settled v')
      ++ current :: rest.map (Registration.settled v)).toArray

theorem modify_halfwayAt (v v' : Viewport) (visited rest : List (Registration κ))
    (current : Subscription κ) (f : Subscription κ → Subscription κ) :
    (Matcher.halfwayAt v v' visited current rest).modify visited.length f
      = Matcher.halfwayAt v v' visited (f current) rest := by
  have hmod := modify_at_length f (visited.map (Registration.settled v'))
    (rest.map (Registration.settled v)) current
  rw [List.length_map] at hmod
  simp only [Matcher.modify, Matcher.halfwayAt, List.modify_toArray, hmod]

/-- Visiting the first subscription of a resize that has not been visited. Its
    callback is out while it runs and back afterwards. -/
theorem visit_halfway (v v' : Viewport) (visited rest : List (Registration κ))
    (r : Registration κ) (fired : Nat) (s : σ) :
    Matcher.visit (Running.outside effect) v'
        (fired, (Matcher.halfway v v' visited (r :: rest), s)) visited.length
      = (fired + (rises r.1 v v').toNat,
          (Matcher.halfway v v' (visited ++ [r]) rest,
            if rises r.1 v v' then effect r.2 v' s else s)) := by
  have hstart : Matcher.halfway v v' visited (r :: rest)
      = Matcher.halfwayAt v v' visited (Registration.settled v r) rest := rfl
  have hend : Matcher.halfway v v' (visited ++ [r]) rest
      = Matcher.halfwayAt v v' visited (Registration.settled v' r) rest := by
    simp [Matcher.halfway, Matcher.halfwayAt]
  have hget : (Matcher.halfwayAt v v' visited (Registration.settled v r) rest).subscriptions[
      visited.length]? = some (Registration.settled v r) := by
    simp [Matcher.halfwayAt]
  rw [hstart, hend]
  unfold Matcher.visit
  simp only [hget, modify_halfwayAt]
  by_cases hedge : rises r.1 v v' = true
  · -- The query starts to hold: the callback is taken out, runs and is put back.
    rcases Bool.and_eq_true_iff.mp hedge with ⟨hold, hnew⟩
    simp only [Registration.settled, Subscription.compared, hold, hnew, hedge, Bool.and_true,
      if_true, Bool.toNat_true, Running.outside, modify_halfwayAt]
    rfl
  · have hnow : ¬ (r.1.holds v' && !r.1.holds v) = true := by
      rw [Bool.and_comm]
      exact hedge
    rw [Bool.not_eq_true] at hedge hnow
    simp only [Registration.settled, hnow, hedge, Bool.false_eq_true, if_false,
      Bool.toNat_false, Nat.add_zero, Subscription.compared]

/-- The registrations that a resize tells, with their positions, when the first of
    them has a given position. -/
def told (v v' : Viewport) (regs : List (Registration κ)) (first : Nat) : List (Firing κ) :=
  ((regs.zipIdx first).filter fun r => rises r.1.1 v v').map fun r => ⟨r.2, r.1.2, v'⟩

theorem told_cons (v v' : Viewport) (r : Registration κ) (regs : List (Registration κ))
    (first : Nat) :
    told v v' (r :: regs) first
      = (if rises r.1 v v' then [⟨first, r.2, v'⟩] else []) ++ told v v' regs (first + 1) := by
  by_cases h : rises r.1 v v' = true
  · simp [told, List.zipIdx_cons, h]
  · simp [told, List.zipIdx_cons, h]

/-- Visiting all subscriptions of a resize that have not been visited. -/
theorem foldl_visit_halfway (v v' : Viewport) (rest : List (Registration κ)) :
    ∀ (visited : List (Registration κ)) (fired : Nat) (s : σ),
      (List.range' visited.length rest.length).foldl
          (Matcher.visit (Running.outside effect) v')
          (fired, (Matcher.halfway v v' visited rest, s))
        = (fired + (told v v' rest visited.length).length,
            (Matcher.halfway v v' (visited ++ rest) [],
              tellAll effect (told v v' rest visited.length) s)) := by
  induction rest with
  | nil =>
      intro visited fired s
      simp [told, tellAll]
  | cons r rest ih =>
      intro visited fired s
      -- One registration moves from the rest to those that have been visited.
      rw [List.length_cons, List.range'_succ, List.foldl_cons, visit_halfway]
      have hrest := ih (visited ++ [r]) (fired + (rises r.1 v v').toNat)
        (if rises r.1 v v' then effect r.2 v' s else s)
      rw [List.length_append, List.length_singleton] at hrest
      rw [hrest, told_cons, tellAll_append, List.append_assoc, List.singleton_append,
        List.length_append, Nat.add_assoc]
      by_cases h : rises r.1 v v' = true
      · simp only [h, if_true, Bool.toNat_true, List.length_singleton, tellAll, List.foldl_cons,
          List.foldl_nil]
      · rw [Bool.not_eq_true] at h
        simp only [h, Bool.false_eq_true, if_false, Bool.toNat_false, List.length_nil, tellAll,
          List.foldl_nil]

/-- A resize leads from settled to settled. The new viewport is set before the
    first subscription is visited. -/
theorem resize_settled (v v' : Viewport) (regs : List (Registration κ)) (s : σ) :
    Matcher.resize (Running.outside effect) v' (Matcher.settled v regs, s)
      = (((MatcherCall.resize v').firings v regs).length,
          (Matcher.settled v' regs,
            tellAll effect ((MatcherCall.resize v').firings v regs) s)) := by
  have hsize : (Matcher.settled v regs).size = regs.length := by
    simp only [Matcher.size, Matcher.settled, List.size_toArray, List.length_map]
  have hstart : { Matcher.settled v regs with viewport := v' }
      = Matcher.halfway v v' [] regs := rfl
  have hend : Matcher.halfway v v' regs [] = Matcher.settled v' regs := by
    simp only [Matcher.halfway, Matcher.settled, List.map_nil, List.append_nil]
  -- A resize is halfway at both of its ends: with nothing visited, and with all.
  have hvisits := foldl_visit_halfway effect v v' regs [] 0 s
  rw [List.length_nil, ← List.range_eq_range', Nat.zero_add, List.nil_append, hend] at hvisits
  rw [Matcher.resize, hstart]
  have hsize' : (Matcher.halfway v v' [] regs).size = regs.length := hsize
  rw [hsize', hvisits]
  rfl

/-- A call leads from settled to settled. -/
theorem perform_settled (v : Viewport) (regs : List (Registration κ)) (call : MatcherCall κ)
    (s : σ) :
    (call.perform (Running.outside effect) (Matcher.settled v regs, s)).2
      = (Matcher.settled (call.viewportAfter v) (regs ++ call.registrations),
          tellAll effect (call.firings v regs) s) := by
  cases call with
  | subscribe query callback =>
      rw [MatcherCall.perform, subscribe_settled]
      rfl
  | resize v' =>
      rw [MatcherCall.perform, resize_settled]
      simp only [MatcherCall.viewportAfter, MatcherCall.registrations, List.append_nil]

/-- A history leads from settled to settled, and the state around the matcher
    changes by what the log says and nothing else. -/
theorem performAll_settled (calls : List (MatcherCall κ)) :
    ∀ (v : Viewport) (regs : List (Registration κ)) (s : σ),
      performAll (Running.outside effect) calls (Matcher.settled v regs, s)
        = (Matcher.settled (viewportAfter v calls) (regs ++ registrations calls),
            tellAll effect (firingLog v regs calls) s) := by
  induction calls with
  | nil =>
      intro v regs s
      simp only [performAll, List.foldl_nil, viewportAfter, registrations, List.flatMap_nil,
        List.append_nil, firingLog, tellAll]
  | cons call calls ih =>
      intro v regs s
      -- The rest of the history starts where the call leads to.
      have hstep := perform_settled effect v regs call s
      have hrest := ih (call.viewportAfter v) (regs ++ call.registrations)
        (tellAll effect (call.firings v regs) s)
      simp only [performAll, List.foldl_cons, viewportAfter, registrations, List.flatMap_cons,
        firingLog, tellAll_append] at hrest ⊢
      rw [hstep, hrest, List.append_assoc]

/-! ### Counting -/

/-- The number of times a log tells the subscription at a position. -/
def timesTold (position : Nat) (log : List (Firing κ)) : Nat :=
  log.countP fun f => f.position == position

theorem timesTold_append (position : Nat) (log log' : List (Firing κ)) :
    timesTold position (log ++ log') = timesTold position log + timesTold position log' := by
  simp only [timesTold, List.countP_append]

theorem rises_self (q : QueryList) (v : Viewport) : rises q v v = false := by
  simp only [rises, Bool.not_and_self]

/-- How often a resize tells a position: once if it is that of a registration
    whose query starts to hold, and not at all otherwise. -/
theorem timesTold_told (v v' : Viewport) (regs : List (Registration κ)) :
    ∀ (first position : Nat),
      timesTold position (told v v' regs first)
        = if first ≤ position then
            (regs[position - first]?.any fun r => rises r.1 v v').toNat
          else 0 := by
  induction regs with
  | nil =>
      intro first position
      simp [told, timesTold]
  | cons r regs ih =>
      intro first position
      have hhead : timesTold position (if rises r.1 v v' then [⟨first, r.2, v'⟩] else [])
          = if first = position then (rises r.1 v v').toNat else 0 := by
        by_cases h : rises r.1 v v' = true
        · simp [timesTold, List.countP_cons, h]
        · simp [timesTold, h]
      rw [told_cons, timesTold_append, hhead, ih]
      by_cases heq : first = position
      · -- The position is that of the first registration, which comes up once.
        subst heq
        rw [if_pos rfl, if_neg (by omega), if_pos (Nat.le_refl _), Nat.sub_self]
        simp only [List.getElem?_cons_zero, Option.any_some, Nat.add_zero]
      · -- Any other position is counted among the rest, which start one later.
        rw [if_neg heq, Nat.zero_add]
        by_cases hle : first + 1 ≤ position
        · rw [if_pos hle, if_pos (by omega),
            show position - first = (position - (first + 1)) + 1 by omega,
            List.getElem?_cons_succ]
        · rw [if_neg hle, if_neg (by omega)]

/-- How often a call tells a position that has been registered. -/
theorem timesTold_firings (v : Viewport) (regs : List (Registration κ)) (call : MatcherCall κ)
    (k : Nat) (r : Registration κ) (hget : regs[k]? = some r) :
    timesTold k (call.firings v regs) = (rises r.1 v (call.viewportAfter v)).toNat := by
  have hlt : k < regs.length := (List.getElem?_eq_some_iff.mp hget).1
  cases call with
  | subscribe query callback =>
      -- A subscription tells its own position and changes no viewport.
      have hne : ¬ regs.length = k := by omega
      rw [MatcherCall.viewportAfter, rises_self, MatcherCall.firings]
      by_cases h : (QueryList.read query).holds v = true
      · simp [timesTold, h, hne]
      · simp [timesTold, h]
  | resize v' =>
      have htold := timesTold_told v v' regs 0 k
      rw [if_pos (Nat.zero_le k), Nat.sub_zero, hget, Option.any_some] at htold
      exact htold

/-- How often a call tells a position that is not given away yet. -/
theorem timesTold_firings_of_le (v : Viewport) (regs : List (Registration κ))
    (call : MatcherCall κ) (k : Nat)
    (hle : regs.length + call.registrations.length ≤ k) :
    timesTold k (call.firings v regs) = 0 := by
  cases call with
  | subscribe query callback =>
      have hne : ¬ regs.length = k := by
        simp only [MatcherCall.registrations, List.length_singleton] at hle
        omega
      rw [MatcherCall.firings]
      by_cases h : (QueryList.read query).holds v = true
      · simp [timesTold, h, hne]
      · simp [timesTold, h]
  | resize v' =>
      have htold := timesTold_told v v' regs 0 k
      rw [if_pos (Nat.zero_le k), Nat.sub_zero, List.getElem?_eq_none (by omega),
        Option.any_none] at htold
      exact htold

/-- Over a history, a registration made before it is told at its rising edges. -/
theorem timesTold_firingLog (calls : List (MatcherCall κ)) :
    ∀ (v : Viewport) (regs : List (Registration κ)) (k : Nat) (r : Registration κ),
      regs[k]? = some r → timesTold k (firingLog v regs calls) = risingEdges r.1 v calls := by
  induction calls with
  | nil => intro v regs k r _; rfl
  | cons call calls ih =>
      intro v regs k r hget
      have hlt : k < regs.length := (List.getElem?_eq_some_iff.mp hget).1
      have hrest := ih (call.viewportAfter v) (regs ++ call.registrations) k r
        (by rw [List.getElem?_append_left hlt, hget])
      rw [firingLog, timesTold_append, timesTold_firings v regs call k r hget, hrest,
        risingEdges]

/-- Over a history, a position that is not given away by its end is not told. -/
theorem timesTold_firingLog_of_le (calls : List (MatcherCall κ)) :
    ∀ (v : Viewport) (regs : List (Registration κ)) (k : Nat),
      regs.length + (registrations calls).length ≤ k →
        timesTold k (firingLog v regs calls) = 0 := by
  induction calls with
  | nil => intro v regs k _; rfl
  | cons call calls ih =>
      intro v regs k hle
      rw [registrations, List.flatMap_cons, List.length_append] at hle
      rw [firingLog, timesTold_append, timesTold_firings_of_le v regs call k (by omega),
        ih _ _ k (by rw [List.length_append, registrations]; omega)]

/-- The log of two histories, one after the other. -/
theorem firingLog_append (calls calls' : List (MatcherCall κ)) :
    ∀ (v : Viewport) (regs : List (Registration κ)),
      firingLog v regs (calls ++ calls')
        = firingLog v regs calls
          ++ firingLog (viewportAfter v calls) (regs ++ registrations calls) calls' := by
  induction calls with
  | nil =>
      intro v regs
      simp only [List.nil_append, firingLog, viewportAfter, List.foldl_nil, registrations,
        List.flatMap_nil, List.append_nil]
  | cons call calls ih =>
      intro v regs
      simp only [List.cons_append, firingLog, ih, viewportAfter, List.foldl_cons, registrations,
        List.flatMap_cons, List.append_assoc]

/-- How often a subscription is told: at its registration if its query holds
    then, and at its rising edges from there on. -/
theorem timesTold_subscribe (v : Viewport) (before after : List (MatcherCall κ))
    (query : Text) (callback : κ) :
    timesTold (registrations before).length
        (firingLog v [] (before ++ .subscribe query callback :: after))
      = ((QueryList.read query).holds (viewportAfter v before)).toNat
        + risingEdges (QueryList.read query) (viewportAfter v before) after := by
  -- Nobody is told at the position before it is given away.
  have hbefore : timesTold (registrations before).length (firingLog v [] before) = 0 :=
    timesTold_firingLog_of_le before v [] _ (by rw [List.length_nil]; omega)
  have hafter := timesTold_firingLog after (viewportAfter v before)
    (registrations before ++ [(QueryList.read query, callback)]) (registrations before).length
    (QueryList.read query, callback) (by simp)
  rw [firingLog_append, timesTold_append, hbefore, Nat.zero_add, List.nil_append, firingLog,
    timesTold_append]
  simp only [MatcherCall.viewportAfter, MatcherCall.registrations, hafter]
  congr 1
  by_cases h : (QueryList.read query).holds (viewportAfter v before) = true
  · simp [MatcherCall.firings, timesTold, h]
  · simp [MatcherCall.firings, timesTold, h]

/-! ### Order -/

/-- What a resize tells a position is told the callback registered there, under the
    new viewport. -/
theorem mem_told (v v' : Viewport) (regs : List (Registration κ)) :
    ∀ (first : Nat) (f : Firing κ), f ∈ told v v' regs first →
      first ≤ f.position ∧ f.viewport = v'
        ∧ (regs[f.position - first]?).map Prod.snd = some f.callback := by
  induction regs with
  | nil => intro first f hf; simp [told] at hf
  | cons r regs ih =>
      intro first f hf
      rw [told_cons, List.mem_append] at hf
      rcases hf with hhead | htail
      · by_cases h : rises r.1 v v' = true
        · rw [if_pos h, List.mem_singleton] at hhead
          rw [hhead]
          simp
        · rw [if_neg h] at hhead
          exact absurd hhead (List.not_mem_nil)
      · rcases ih (first + 1) f htail with ⟨hle, hview, hget⟩
        refine ⟨by omega, hview, ?_⟩
        rw [show f.position - first = (f.position - (first + 1)) + 1 by omega,
          List.getElem?_cons_succ, hget]

/-- A resize tells positions in ascending order. -/
theorem pairwise_told (v v' : Viewport) (regs : List (Registration κ)) :
    ∀ (first : Nat), (told v v' regs first).Pairwise fun f g => f.position < g.position := by
  induction regs with
  | nil => intro first; simp [told]
  | cons r regs ih =>
      intro first
      rw [told_cons, List.pairwise_append]
      refine ⟨?_, ih (first + 1), ?_⟩
      · by_cases h : rises r.1 v v' = true
        · rw [if_pos h]
          exact List.pairwise_singleton _ _
        · rw [if_neg h]
          exact List.Pairwise.nil
      · -- What the rest tells has later positions.
        intro f hf g hg
        have hlater := (mem_told v v' regs (first + 1) g hg).1
        by_cases h : rises r.1 v v' = true
        · rw [if_pos h, List.mem_singleton] at hf
          rw [hf]
          exact hlater
        · rw [if_neg h] at hf
          exact absurd hf (List.not_mem_nil)

/-- What a call tells a position is told the callback registered there, the
    registration of the call itself included. -/
theorem mem_firings (v : Viewport) (regs : List (Registration κ)) (call : MatcherCall κ)
    (f : Firing κ) (hf : f ∈ call.firings v regs) :
    ((regs ++ call.registrations)[f.position]?).map Prod.snd = some f.callback := by
  cases call with
  | subscribe query callback =>
      rw [MatcherCall.firings] at hf
      by_cases h : (QueryList.read query).holds v = true
      · rw [if_pos h, List.mem_singleton] at hf
        rw [hf]
        simp [MatcherCall.registrations]
      · rw [if_neg h] at hf
        exact absurd hf (List.not_mem_nil)
  | resize v' =>
      have hget := (mem_told v v' regs 0 f hf).2.2
      rw [MatcherCall.registrations, List.append_nil]
      exact hget

/-- What is told over a history goes to the callback registered at the position. -/
theorem mem_firingLog (calls : List (MatcherCall κ)) :
    ∀ (v : Viewport) (regs : List (Registration κ)) (f : Firing κ),
      f ∈ firingLog v regs calls →
        ((regs ++ registrations calls)[f.position]?).map Prod.snd = some f.callback := by
  induction calls with
  | nil => intro v regs f hf; exact absurd hf (List.not_mem_nil)
  | cons call calls ih =>
      intro v regs f hf
      rw [registrations, List.flatMap_cons, ← List.append_assoc]
      rcases List.mem_append.mp hf with hnow | hlater
      · -- The call itself told it, so the position is among those known by then.
        have hget := mem_firings v regs call f hnow
        rcases Option.map_eq_some_iff.mp hget with ⟨r, hr, _⟩
        rw [List.getElem?_append_left (List.getElem?_eq_some_iff.mp hr).1]
        exact hget
      · exact ih _ _ f hlater

/-- The history of a new matcher whose callbacks leave it alone, after any calls
    and at any further resize. Every subscription has its callback back and a flag
    that says whether its query holds in the viewport of the moment. The state
    around the matcher has been changed by the log and nothing else, the log tells
    callbacks at their own positions, and it tells a position once at its
    registration if the query holds then and once at each later rising edge. A
    resize adds what it tells in the order of registration, all under the new
    viewport, and answers how many that are. -/
theorem matcher_fires_on_rising_edges (v₀ : Viewport) (s₀ : σ)
    (calls : List (MatcherCall κ)) :
    let run := Running.outside effect
    let log := firingLog v₀ [] calls
    let state := performAll run calls ({ viewport := v₀ }, s₀)
    state.1.viewport = viewportAfter v₀ calls
      ∧ state.1.subscriptions.toList
          = (registrations calls).map (fun r =>
              { query := r.1
                matching := r.1.holds state.1.viewport
                callback := some r.2 })
      ∧ state.2 = tellAll effect log s₀
      ∧ (∀ f ∈ log, ((registrations calls)[f.position]?).map Prod.snd = some f.callback)
      ∧ (∀ before query callback after, calls = before ++ .subscribe query callback :: after →
          timesTold (registrations before).length log
            = ((QueryList.read query).holds (viewportAfter v₀ before)).toNat
              + risingEdges (QueryList.read query) (viewportAfter v₀ before) after)
      ∧ ∀ v, ∃ told : List (Firing κ),
          firingLog v₀ [] (calls ++ [.resize v]) = log ++ told
            ∧ (∀ f ∈ told, f.viewport = v)
            ∧ told.Pairwise (fun f g => f.position < g.position)
            ∧ (Matcher.resize run v state).1 = told.length
            ∧ (Matcher.resize run v state).2.2 = tellAll effect told state.2 := by
  intro run log state
  have hstate : state = (Matcher.settled (viewportAfter v₀ calls) (registrations calls),
      tellAll effect log s₀) := performAll_settled effect calls v₀ [] s₀
  refine ⟨by rw [hstate]; rfl, by rw [hstate]; rfl, by rw [hstate], ?_, ?_, ?_⟩
  · intro f hf
    exact mem_firingLog calls v₀ [] f hf
  · intro before query callback after hcalls
    have hcount := timesTold_subscribe v₀ before after query callback
    rw [← hcalls] at hcount
    exact hcount
  · intro v
    refine ⟨told (viewportAfter v₀ calls) v (registrations calls) 0, ?_, ?_, ?_, ?_, ?_⟩
    · rw [firingLog_append, List.nil_append, firingLog, firingLog, List.append_nil]
      rfl
    · intro f hf
      exact (mem_told _ v _ 0 f hf).2.1
    · exact pairwise_told _ v _ 0
    · rw [hstate, resize_settled]
      rfl
    · rw [hstate, resize_settled]
      rfl

end ResponsiveImages
