import ResponsiveImages.Document.Basic

/-!
# Image Sources

The image of an element is decided by the cascade, which leaves it in the
value of a style property. An `img` element shows what its `src` attribute
says, so the location is taken out of the value and copied into that
attribute.

Reading a value is lenient: an address in any quoting, a bare quoted text and
a bare text all name a source, and only `none` and nothing at all do not.
Writing is frugal: an attribute that has the value already is left alone,
which makes a second resolution with the same answer do nothing.

## Main definitions

* `extractSource?`: The location a style value names.
* `Element.newSource?`: The source an image element has to be given.
* `Resolution`: The outcome of resolving the source of a node.
* `resolveSource`: Resolving the source of a node.
-/

namespace ResponsiveImages

open Text

/-- The attribute an image element takes its location from. -/
def sourceAttribute : Text :=
  "src".toList

/-- The tag of image elements. -/
def imageTag : Text :=
  "img".toList

/-- A value without `url(...)` and without white space around it. -/
def unwrapUrl (value : Text) : Text :=
  match enclosed? "url(".toList ")".toList (trim value) with
  | some inner => trim inner
  | none => trim value

/-- The location a style value names, if it names one. -/
def extractSource? (value : Text) : Option Text :=
  let source := unquote (unwrapUrl value)
  if source.isEmpty || source == "none".toList then none else some source

/-- Whether an element shows an image. -/
def Element.isImage (e : Element) : Bool :=
  e.isTag imageTag

/-- The source an element has to be given so that it shows what a style value
    names. There is none if it has it already. -/
def Element.newSource? (e : Element) (value : Option Text) : Option Text :=
  (value.bind extractSource?).filter fun source =>
    e.attributes.get? sourceAttribute != some source

/-- The outcome of resolving the source of a node. -/
structure Resolution where
  document : Document
  /-- The value of the style property was asked for. -/
  asked : Bool
  /-- The source was replaced. -/
  changed : Bool

/-- Resolving the source of a node by the value its style is found to have. Only
    image elements have one. -/
def resolveSource (read : Document → NodeId → Option Text) (d : Document) (i : NodeId) :
    Resolution :=
  match d.element? i with
  | some e =>
    if e.isImage then
      match e.newSource? (read d i) with
      | some source => ⟨d.setAttribute i sourceAttribute source, true, true⟩
      | none => ⟨d, true, false⟩
    else ⟨d, false, false⟩
  | none => ⟨d, false, false⟩

end ResponsiveImages
