import ResponsiveImages.Document.Index

/-!
# Injecting a Style Sheet

A compiled style sheet is put into the page it was compiled from, as a
`style` element at the end of the first `head`. A page without a `head` can
take none.

## Main definitions

* `styleElement`: The element that carries a style sheet.
* `Document.injectStylesheet?`: A document with a style sheet put in.
-/

namespace ResponsiveImages

/-- The element that carries a style sheet. -/
def styleElement : Element where
  tag := "style".toList
  attributes := [("type".toList, "text/css".toList)]

namespace Document

/-- The document with a style sheet at the end of its first head, if it has
    one. -/
def injectStylesheet? (d : Document) (css : Text) : Option Document :=
  ((Index.ofDocument d).firstByTag? "head".toList).map fun head =>
    let (d, style) := d.create (.element styleElement)
    ((d.appendNew style (.text css)).1).append head style

end Document

end ResponsiveImages
