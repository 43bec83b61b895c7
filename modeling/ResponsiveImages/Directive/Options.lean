import ResponsiveImages.Directive.Clause
import ResponsiveImages.Document.Attributes

/-!
# Options of an Element

An element steers the compilation of its directive through further
`data-rwdimage-*` attributes. A flag is on only for the exact value `true`,
and an empty value counts as absent.

The em base is read from the digits at the front of its value, so `18px`
means 18. A base of zero, one that does not fit into 32 bits, and one without
digits all give the default.

## Main definitions

* `Attribute.directive` and the others: The names of the attributes.
* `Options`: The options of an element.
* `leadingNumber?`: The number a value begins with.
* `Options.ofAttributes`: Reading the options.
* `Options.units`: The units the tests of the directive are given in.
-/

namespace ResponsiveImages

open Text

namespace Attribute

/-- The attribute that holds the directive. -/
def directive : Text := "data-rwdimage".toList

/-- The attribute that turns on em units. -/
def em : Text := "data-rwdimage-em".toList

/-- The attribute that sets the size of an em. -/
def emBase : Text := "data-rwdimage-em-base".toList

/-- The attribute that turns on images for dense displays. -/
def retina : Text := "data-rwdimage-retina".toList

/-- The attribute that sets the suffix of such images. -/
def retinaSuffix : Text := "data-rwdimage-retina-suffix".toList

/-- The attribute that holds the fallback declarations. -/
def fallback : Text := "data-rwdimage-fallback".toList

/-- The attribute that sets the class for fallback declarations. -/
def fallbackClass : Text := "data-rwdimage-fallback-class".toList

/-- The attribute that defers an image to a lazy loader. -/
def lazyLoad : Text := "data-rwdimage-lazy-load".toList

/-- The attribute that numbers an element. It is written, never read. -/
def id : Text := "data-rwdimage-id".toList

/-- The attribute that marks an element driven by live matching. -/
def hasEnquire : Text := "data-rwdimage-has-enquire".toList

end Attribute

/-- The class whose presence on the root asks for fallback declarations. -/
def defaultFallbackClass : Text :=
  "ltie9".toList

/-- The options of one element. -/
structure Options where
  em : Bool := false
  emBase : Nat := 16
  retina : Bool := false
  retinaSuffix : Text := "@2x".toList
  /-- The declarations that apply under the fallback class. -/
  fallback : Option Text := none
  /-- The fallback class, without a dot. -/
  fallbackClass : Text := defaultFallbackClass
  lazyLoad : Bool := false
  deriving DecidableEq, Repr

/-- The number at the front of a value, if it fits into 32 bits. -/
def leadingNumber? (value : Text) : Option Nat :=
  let digits := (trimStart value).takeWhile Char.isDigit
  if isDigits digits ∧ natOfDigits digits < Nat.pow 2 32 then some (natOfDigits digits) else none

namespace Options

/-- The value of an attribute, if it is not empty. -/
def nonEmpty? (attributes : Attributes) (name : Text) : Option Text :=
  (attributes.get? name).filter fun v => !v.isEmpty

/-- Whether an attribute is exactly `true`. -/
def flag (attributes : Attributes) (name : Text) : Bool :=
  attributes.get? name == some "true".toList

/-- The em base: the number at the front of its attribute if that is positive. -/
def emBaseOf (attributes : Attributes) : Nat :=
  (((nonEmpty? attributes Attribute.emBase).bind leadingNumber?).filter (0 < ·)).getD 16

/-- Reading the options of an element. -/
def ofAttributes (attributes : Attributes) : Options where
  em := flag attributes Attribute.em
  emBase := emBaseOf attributes
  retina := flag attributes Attribute.retina
  retinaSuffix := (nonEmpty? attributes Attribute.retinaSuffix).getD "@2x".toList
  fallback := nonEmpty? attributes Attribute.fallback
  fallbackClass := (nonEmpty? attributes Attribute.fallbackClass).getD defaultFallbackClass
  lazyLoad := flag attributes Attribute.lazyLoad

/-- The units the tests of the directive are given in. -/
def units (o : Options) : Units :=
  if o.em then .ems o.emBase else .pixels

end Options

end ResponsiveImages
