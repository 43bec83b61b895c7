import ResponsiveImages.Live.Start

/-!
# Trials of a Synchronizer

A synchronizer driven by hand, event by event. Besides the events a real page
knows, a trial has two of its own: the value an image reads can be laid down
in a table, and a query can be announced as entered without any viewport.

A trial either reads values from the rules of a style sheet and follows a
viewport, or reads them from the table and keeps a list of registrations.
The registrations with exactly the announced query are then entered, each
once and in the order they were made.

## Main definitions

* `StyleSource`: Where values are read from.
* `Trial`: The state of a trial.
* `TrialEvent`, `TrialAnswer`: Events and their answers.
* `Trial.step`: One event.
-/

namespace ResponsiveImages

open Text

/-- Where the values of the source property are read from. -/
inductive StyleSource where
  /-- A table of values by the number written on the element. -/
  | table
  /-- The rules of a style sheet. -/
  | rules (rs : List OwnedRule)

/-- A trial of a synchronizer on the images of a page. -/
structure Trial where
  images : List ManagedImage
  live : Bool
  source : StyleSource
  state : LiveState
  /-- The values in the table. -/
  values : List (Text × Text) := []
  /-- The queries registered by hand. -/
  registered : List (Text × ManagedImage) := []

/-- An event of a trial. -/
inductive TrialEvent where
  | start
  /-- A value is laid down for a number, or taken away. -/
  | setValue (id : Nat) (value : Option Text)
  /-- A query is announced as entered. -/
  | fire (query : Text)
  | resize (v : Viewport)
  /-- An attribute of an image is edited. -/
  | setAttribute (id : Nat) (name value : Text)
  /-- The element of an image is taken out of the list of its parent. -/
  | detach (id : Nat)
  /-- Somebody keeps a handle of the element of an image. -/
  | keep (id : Nat)
  | letGo (id : Nat)
  | dropDocument

/-- The answer to an event. -/
inductive TrialAnswer where
  | nothing
  | report (r : SyncReport)
  | fired (n : Nat)
  | detached (done : Bool)
  deriving DecidableEq, Repr

namespace Trial

/-- The session of a trial. -/
def session (t : Trial) : Session :=
  t.state.2

/-- The trial with its session changed. -/
def mapSession (f : Session → Session) (t : Trial) : Trial :=
  { t with state := (t.state.1, f t.state.2) }

/-- The trial with its document changed. -/
def mapDocument (f : Document → Document) (t : Trial) : Trial :=
  t.mapSession fun s => { s with document := f s.document }

/-- The value in the table for the number written on an element. -/
def tableValue? (t : Trial) (d : Document) (i : NodeId) : Option Text :=
  (d.attribute? i Attribute.id).bind fun id => t.values.lookup id

/-- An image is resolved by the table. -/
def resolve (m : ManagedImage) (t : Trial) : Trial :=
  t.mapSession fun s => s.resolve t.tableValue? m

/-- An image is registered for a query. -/
def listen (m : ManagedImage) (query : Text) (t : Trial) : Trial :=
  { t with registered := t.registered ++ [(query, m)] }

/-- The start. -/
def start (t : Trial) : SyncReport × Trial :=
  match t.source with
  | .rules rs =>
    let (report, state) := LiveState.start rs t.live t.images t.state
    (report, { t with state })
  | .table =>
    let steps := startSteps t.live t.images
    (SyncReport.ofSteps steps,
      steps.foldl (StartStep.perform resolve listen) (t.mapSession fun s => s.reset t.images))

/-- The registrations with exactly the given query. -/
def registrations (t : Trial) (query : Text) : List ManagedImage :=
  (t.registered.filter fun r => r.1 == query).map Prod.snd

/-- A change of the viewport. -/
def resize (t : Trial) (v : Viewport) : Nat × Trial :=
  let rs :=
    match t.source with
    | .rules rs => rs
    | .table => []
  let (fired, state) := LiveState.resize rs v t.state
  (fired, { t with state })

/-- The node of an image that is still there. -/
def aliveNode? (t : Trial) (id : Nat) : Option NodeId :=
  ((t.images[id]?).map ManagedImage.node).filter t.session.alive

/-- One event. -/
def step (t : Trial) : TrialEvent → TrialAnswer × Trial
  | .start =>
    let (report, t') := t.start
    (.report report, t')
  | .setValue id value =>
    let others := t.values.filter fun entry => entry.1 != decimal id
    (.nothing, { t with values := others ++ (value.map fun v => (decimal id, v)).toList })
  | .fire query =>
    let entered := t.registrations query
    (.fired entered.length, entered.foldl (fun t m => t.resolve m) t)
  | .resize v =>
    let (fired, t') := t.resize v
    (.fired fired, t')
  | .setAttribute id name value =>
    match t.aliveNode? id with
    | some i => (.nothing, t.mapDocument fun d => d.setAttribute i name value)
    | none => (.nothing, t)
  | .detach id =>
    match t.aliveNode? id with
    | some i =>
      (.detached (t.session.detach? i).isSome, t.mapSession fun s => (s.detach? i).getD s)
    | none => (.nothing, t)
  | .keep id =>
    match t.aliveNode? id with
    | some i => (.nothing, t.mapSession (Session.keep i))
    | none => (.nothing, t)
  | .letGo id =>
    match t.aliveNode? id with
    | some i => (.nothing, t.mapSession (Session.letGo i))
    | none => (.nothing, t)
  | .dropDocument => (.nothing, t.mapSession Session.drop)

end Trial

end ResponsiveImages
