import ResponsiveImages.Live.Synchronizer
import ResponsiveImages.Live.Matcher
import ResponsiveImages.Stylesheet.Computed

/-!
# Following the Viewport

A synchronizer at work: the values it reads come from the style sheet of the
page, and its queries are matched against the viewport. Both use the viewport
the matcher is at. When a breakpoint is entered, the viewport has moved
already, so the value that is read is the one that holds from now on.

## Main definitions

* `StartStep.perform`: Performing a step of the start.
* `sourceValue?`: The value of the source property under a viewport.
* `LiveState`: A matcher together with the session it drives.
* `LiveState.enter`: What happens when a breakpoint is entered.
* `LiveState.start`, `LiveState.resize`: The start and a change of the
  viewport.
-/

namespace ResponsiveImages

/-- Performing a step of the start, given how an image is resolved and how it
    comes to listen to a query. -/
def StartStep.perform {σ : Type} (resolve : ManagedImage → σ → σ)
    (listen : ManagedImage → Text → σ → σ) (state : σ) : StartStep → σ
  | .resolve m => resolve m state
  | .subscribe m query => listen m query state

/-- The value of the source property of a node under a viewport. -/
def sourceValue? (rules : List OwnedRule) (v : Viewport) (d : Document) (i : NodeId) :
    Option Text :=
  resolvedProperty? rules v d i sourceProperty

/-- A matcher together with the session it drives. -/
abbrev LiveState := Matcher ManagedImage × Session

namespace LiveState

/-- The image of an entered breakpoint is resolved under the viewport the
    matcher is at. -/
def enter (rules : List OwnedRule) : Running ManagedImage Session :=
  fun m state => (state.1, state.2.resolve (sourceValue? rules state.1.viewport) m)

/-- The start. Without live matching nothing listens. -/
def start (rules : List OwnedRule) (live : Bool) (images : List ManagedImage)
    (state : LiveState) : SyncReport × LiveState :=
  let steps := startSteps live images
  let listen (m : ManagedImage) (query : Text) (state : LiveState) : LiveState :=
    (Matcher.subscribe (enter rules) query m state).2
  (SyncReport.ofSteps steps,
    steps.foldl (StartStep.perform (enter rules) listen) (state.1, state.2.reset images))

/-- A change of the viewport, with the number of breakpoints that were
    entered. -/
def resize (rules : List OwnedRule) (v : Viewport) (state : LiveState) : Nat × LiveState :=
  Matcher.resize (enter rules) v state

end LiveState

end ResponsiveImages
