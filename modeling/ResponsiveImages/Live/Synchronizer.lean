import ResponsiveImages.Document.Lifetime
import ResponsiveImages.Page.Scan

/-!
# Keeping Sources in Step

A synchronizer resolves the sources of managed images when the page is loaded
and again whenever one of their breakpoints is entered.

What it does at the start is decided beforehand, as a list of steps
(`startSteps`). Without live matching, and for images in fallback mode, there
is one resolution and that is all. Any other image listens to each of its
conditional queries that is not blank, and is resolved at once if it listens
to none or has a clause that always applies; the images that remain show
their placeholder until a breakpoint is entered.

A synchronizer does not hold the elements of its images. An element is alive
as long as somebody else holds it (`Session.alive`): the document, which holds
its root until it is dropped, or whoever keeps a handle of the element or of a
node above it. So an element that is taken out of its document is gone at once
if nobody keeps a handle, and is served like any other as long as somebody
does. Resolving an image whose element is gone changes nothing and asks for
nothing.

## Main definitions

* `SyncState`: Whether the source of an image has been resolved.
* `Session`: The document with the states and counters of a synchronizer.
* `Session.holders`, `Session.alive`: Who holds what, and what is there for it.
* `Session.keep`, `Session.letGo`, `Session.detach?`, `Session.drop`: How holding
  changes.
* `Session.resolve`: Resolving an image.
* `StartStep`, `startSteps`: What happens at the start.
* `SyncReport`, `SyncReport.ofSteps`: A summary of the start.
-/

namespace ResponsiveImages

open Text

/-- Whether the source of an image has been resolved since the start. -/
inductive SyncState where
  | unresolved
  | resolved
  deriving DecidableEq, Repr

/-- A document with the states and counters of a synchronizer. -/
structure Session where
  document : Document
  /-- The document has not been dropped. -/
  held : Bool := true
  /-- The nodes of which somebody keeps a handle, once for each handle. -/
  kept : List NodeId := []
  /-- The state of each image, or nothing before the start. -/
  states : List SyncState := []
  /-- The number of sources that were replaced. -/
  updates : Nat := 0
  /-- The number of times a style value was asked for. -/
  reads : Nat := 0

namespace Session

/-- The nodes that are held from outside. A document holds its root until it is
    dropped. -/
def holders (s : Session) : List NodeId :=
  if s.held then Document.root :: s.kept else s.kept

/-- Whether a node is still there, held from outside or by a node that is there. -/
def alive (s : Session) (i : NodeId) : Bool :=
  s.document.keeps s.holders i

/-- The session in which links to nodes that have gone lead nowhere. -/
def swept (s : Session) : Session :=
  { s with document := s.document.clearLinks s.alive }

/-- Somebody keeps a handle of a node, if it is still there. -/
def keep (i : NodeId) (s : Session) : Session :=
  if s.alive i then { s with kept := i :: s.kept } else s

/-- Somebody gives up a handle of a node. -/
def letGo (i : NodeId) (s : Session) : Session :=
  { s with kept := s.kept.erase i }.swept

/-- A node that is still there is taken out of the list of its parent, if it has a
    link to one. -/
def detach? (i : NodeId) (s : Session) : Option Session :=
  if s.alive i then (s.document.detach? i).map fun d => { s with document := d }.swept else none

/-- The document is dropped. -/
def drop (s : Session) : Session :=
  { s with held := false }.swept

/-- The session at the start, when no image has been resolved. -/
def reset (s : Session) (images : List ManagedImage) : Session :=
  { s with states := images.map fun _ => .unresolved }

/-- Resolving an image by the value its style is found to have. -/
def resolve (read : Document → NodeId → Option Text) (s : Session) (m : ManagedImage) :
    Session :=
  if s.alive m.node then
    let r := resolveSource read s.document m.node
    { s with
      document := r.document
      states := s.states.set m.id .resolved
      updates := s.updates + r.changed.toNat
      reads := s.reads + r.asked.toNat }
  else s

end Session

/-- One step of the start. -/
inductive StartStep where
  | resolve (m : ManagedImage)
  | subscribe (m : ManagedImage) (query : Text)
  deriving DecidableEq, Repr

/-- The queries an image listens to. -/
def ManagedImage.listensTo (m : ManagedImage) : List Text :=
  m.queries.filter fun q => !blank q

/-- What happens to one image at the start. -/
def ManagedImage.startSteps (live : Bool) (m : ManagedImage) : List StartStep :=
  if live && !m.fallbackMode then
    (if m.listensTo.isEmpty || m.hasUnconditional then [.resolve m] else [])
      ++ m.listensTo.map (.subscribe m)
  else [.resolve m]

/-- What happens at the start, image by image. -/
def startSteps (live : Bool) (images : List ManagedImage) : List StartStep :=
  images.flatMap (ManagedImage.startSteps live)

/-- A summary of the start. -/
structure SyncReport where
  initialResolutions : Nat := 0
  subscriptions : Nat := 0
  deriving DecidableEq, Repr

namespace SyncReport

/-- The number of steps of each kind. -/
def ofSteps (steps : List StartStep) : SyncReport where
  initialResolutions := steps.countP fun
    | .resolve _ => true
    | .subscribe _ _ => false
  subscriptions := steps.countP fun
    | .resolve _ => false
    | .subscribe _ _ => true

end SyncReport

end ResponsiveImages
