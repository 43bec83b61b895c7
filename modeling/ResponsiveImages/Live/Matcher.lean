import ResponsiveImages.Media.Query

/-!
# Viewport Matchers

A matcher follows a viewport through its changes and tells its subscribers
when their media query starts to hold. A subscriber whose query holds from
the start is told at once.

What a callback does is not the matcher's business. A callback is a value of
some type `κ`, and running it is a function on the matcher together with
whatever else there is to change (`Running`). A callback may therefore call
the matcher itself. Two rules keep that in order. The subscription of a
running callback holds `none` until the callback has returned, so nothing can
enter it a second time; and a resize visits the subscriptions there were when
it began, by position, each in the state it has when its turn comes.

A resize compares every query with the viewport it was called with, even if a
callback has moved the viewport on in the meantime.

## Main definitions

* `Subscription`: A query, whether it held when last compared, and a callback.
* `Matcher`: The current viewport and the subscriptions.
* `Running`: The effect of callbacks.
* `Matcher.subscribe`: A new subscription.
* `Matcher.visit`, `Matcher.resize`: A change of the viewport.
-/

namespace ResponsiveImages

/-- A registered query with its callback. -/
structure Subscription (κ : Type) where
  query : QueryList
  /-- Whether the query held when it was last compared with a viewport. -/
  matching : Bool
  /-- The callback, or `none` while it is running. -/
  callback : Option κ

/-- The current viewport and the subscriptions in the order they were made. -/
structure Matcher (κ : Type) where
  viewport : Viewport
  subscriptions : Array (Subscription κ) := #[]

/-- The effect of callbacks on a matcher and on the state around it. -/
abbrev Running (κ σ : Type) := κ → Matcher κ × σ → Matcher κ × σ

namespace Subscription

variable {κ : Type}

/-- The subscription after its query has been compared with a viewport. The
    callback is taken out if the query has started to hold. -/
def compared (s : Subscription κ) (now : Bool) : Subscription κ where
  query := s.query
  matching := now
  callback := if now && !s.matching then none else s.callback

end Subscription

namespace Matcher

variable {κ σ : Type}

/-- The number of subscriptions. -/
def size (m : Matcher κ) : Nat :=
  m.subscriptions.size

/-- The matcher with one subscription changed. -/
def modify (m : Matcher κ) (index : Nat) (f : Subscription κ → Subscription κ) : Matcher κ :=
  { m with subscriptions := m.subscriptions.modify index f }

/-- A new subscription at the end. The callback runs first if the query holds,
    and whatever it subscribes itself comes before. The answer is the position
    of the new subscription. -/
def subscribe (run : Running κ σ) (query : Text) (callback : κ) (state : Matcher κ × σ) :
    Nat × (Matcher κ × σ) :=
  let queries := QueryList.read query
  let matching := queries.holds state.1.viewport
  let (m, s) := if matching then run callback state else state
  (m.size,
    ({ m with subscriptions := m.subscriptions.push ⟨queries, matching, some callback⟩ }, s))

/-- Comparing the subscription at one position with a viewport, and running its
    callback if its query has started to hold. The count of callbacks run goes
    along. -/
def visit (run : Running κ σ) (v : Viewport) (progress : Nat × (Matcher κ × σ))
    (index : Nat) : Nat × (Matcher κ × σ) :=
  let (fired, (m, s)) := progress
  match m.subscriptions[index]? with
  | none => progress
  | some subscription =>
    let now := subscription.query.holds v
    let m' := m.modify index fun entry => entry.compared now
    if now && !subscription.matching then
      let (m'', s') :=
        match subscription.callback with
        | some callback => run callback (m', s)
        | none => (m', s)
      (fired + 1,
        (m''.modify index fun entry => { entry with callback := subscription.callback }, s'))
    else (fired, (m', s))

/-- A change of the viewport. The answer is the number of callbacks that were
    entered. -/
def resize (run : Running κ σ) (v : Viewport) (state : Matcher κ × σ) :
    Nat × (Matcher κ × σ) :=
  let m := { state.1 with viewport := v }
  (List.range m.size).foldl (visit run v) (0, (m, state.2))

end Matcher

end ResponsiveImages
