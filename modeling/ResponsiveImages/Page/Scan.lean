import ResponsiveImages.Page.Config
import ResponsiveImages.Document.Index
import ResponsiveImages.Stylesheet.Rule
import ResponsiveImages.Live.Source

/-!
# Scanning a Page

A scan numbers the marked elements of a document in document order and
compiles their directives. Each element is edited on the way: it gets its
number, an image without a source gets a blank one, and an element that live
matching will drive gets a mark.

An element is in fallback mode if the root carries the fallback class of the
page or the element's own. An element is held while it is edited, and its own
fallback class is looked up on the root only if it differs from that of the
page. The lookup inspects the nodes at the top one by one, and it cannot
inspect the held one: if the root itself is marked and has a fallback class
of its own, the scan fails (`ScanError.elementHeld`).

## Main definitions

* `ManagedImage`: A marked element as a scan records it.
* `ScanError`: The reason a scan fails.
* `blankSource`: The source of images that have none.
* `rootHasClassWhile`: Looking for a class on the root while a node is held.
* `Element.numbered`, `Element.marked`: The edits of an element.
* `scanElement`: Scanning one element.
* `ScanOutcome`, `scan`: Scanning a document.
-/

namespace ResponsiveImages

open Text

/-- A marked element as a scan records it. -/
structure ManagedImage where
  id : Nat
  node : NodeId
  isImage : Bool
  breakpoints : List Breakpoint
  /-- The root carried the fallback class of the page or of the element. -/
  fallbackMode : Bool
  deriving DecidableEq, Repr

namespace ManagedImage

/-- The media queries of the conditional breakpoints, in order. -/
def queries (m : ManagedImage) : List Text :=
  m.breakpoints.filterMap Breakpoint.mediaQuery

/-- Whether one of the breakpoints always applies. -/
def hasUnconditional (m : ManagedImage) : Bool :=
  m.breakpoints.any Breakpoint.unconditional

end ManagedImage

/-- The reason a scan fails. -/
inductive ScanError where
  /-- The element being edited had to be inspected. -/
  | elementHeld
  deriving DecidableEq, Repr

/-- The source of marked images that have none: a transparent pixel. -/
def blankSource : Text :=
  ("data:image/gif;base64,R0lGODlhAQABAIAAAP///wAAACH5BAEHAAAALAAAAAABAAEAAAICRAEAOw==").toList

namespace Document

/-- The first element in a list of nodes, inspected one by one while a node is
    held. -/
def firstElementWhile (d : Document) (held : NodeId) :
    List NodeId → Except ScanError (Option Element)
  | [] => .ok none
  | i :: rest =>
    if i = held then .error .elementHeld
    else
      match d.element? i with
      | some e => .ok (some e)
      | none => firstElementWhile d held rest

/-- Whether the root has a class, found out while a node is held. -/
def rootHasClassWhile (d : Document) (held : NodeId) (name : Text) : Except ScanError Bool :=
  (d.firstElementWhile held (d.children root)).map fun
    | some e => e.hasClass name
    | none => false

end Document

namespace Element

/-- An element with its number, and with a blank source if it is an image that
    has none. -/
def numbered (id : Nat) (e : Element) : Element :=
  let e' := e.setAttribute Attribute.id (decimal id)
  if e'.isImage && ((e'.attributes.get? sourceAttribute).getD []).isEmpty then
    e'.setAttribute sourceAttribute blankSource
  else e'

/-- An element with the mark of live matching, if that drives it. -/
def marked (driven : Bool) (e : Element) : Element :=
  if driven then e.setAttribute Attribute.hasEnquire "true".toList else e

/-- What the directive of an element compiles to, if it has one. -/
def compiled? (id : Nat) (e : Element) : Option CompiledElement :=
  (e.attributes.get? Attribute.directive).map fun directive =>
    let o := Options.ofAttributes e.attributes
    compileElement id (readDirective o.units directive) o

end Element

/-- Whether an element is in fallback mode, given whether the page is. -/
def fallbackModeOf (config : Config) (pageFallback : Bool) (d : Document) (node : NodeId)
    (o : Options) : Except ScanError Bool :=
  if pageFallback then .ok true
  else if o.fallbackClass = config.fallbackClass then .ok false
  else d.rootHasClassWhile node o.fallbackClass

/-- What a scan has found so far. -/
structure ScanProgress where
  document : Document
  images : List ManagedImage := []
  compiled : List CompiledElement := []

/-- Scanning the marked element at a node, which gets the given number. -/
def scanElement (config : Config) (pageFallback : Bool) (p : ScanProgress)
    (entry : NodeId × Nat) : Except ScanError ScanProgress :=
  let (node, id) := entry
  match p.document.element? node with
  | none => .ok p
  | some e =>
    let e := e.numbered id
    let o := Options.ofAttributes e.attributes
    (fallbackModeOf config pageFallback p.document node o).map fun fallbackMode =>
      let e := e.marked (config.live && !fallbackMode)
      let compiled := e.compiled? id
      { document := p.document.modify node fun n => { n with content := .element e }
        images := p.images ++ [{
          id, node, fallbackMode
          isImage := e.isImage
          breakpoints := (compiled.map CompiledElement.breakpoints).getD [] }]
        compiled := p.compiled ++ compiled.toList }

/-- The result of scanning a document. -/
structure ScanOutcome where
  /-- The document with its marked elements edited. -/
  document : Document
  images : List ManagedImage
  stylesheet : Stylesheet
  /-- The page or one of its images is in fallback mode. -/
  fallbackMode : Bool
  /-- At least one image is driven by live matching. -/
  live : Bool

/-- Scanning a document. -/
def scan (config : Config) (d : Document) : Except ScanError ScanOutcome :=
  let pageFallback := d.rootHasClass config.fallbackClass
  let nodes := (Index.ofDocument d).byClass config.markerClass
  (nodes.zipIdx.foldlM (scanElement config pageFallback) { document := d }).map fun p =>
    let live := config.live && p.images.any fun m => !m.fallbackMode
    { document := p.document
      images := p.images
      stylesheet := Stylesheet.assemble config.markerClass live p.compiled
      fallbackMode := pageFallback || p.images.any ManagedImage.fallbackMode
      live }

end ResponsiveImages
