import ResponsiveImages.Css.StyleAttribute
import ResponsiveImages.Directive.Declaration

/-!
# Normalized Declarations

What a page reports of a style value is not the text an author wrote but a
normal form: `url(a.png)` reads back as `url("a.png")`. The declarations of a
rule are written out as a style attribute and read again. If that fails for
any of them, all stay as they are, except that property names are in lower
case.

## Main definitions

* `attributeText`: Declarations written as a style attribute.
* `rawPairs`: Declarations as they are.
* `normalize`: Declarations in normal form.
-/

namespace ResponsiveImages

open Text

/-- Declarations written as a style attribute. -/
def attributeText (declarations : List Declaration) : Text :=
  joinWith "; ".toList (declarations.map Declaration.text)

/-- Declarations as they are, with property names in lower case. -/
def rawPairs (declarations : List Declaration) : List (Text × Text) :=
  declarations.map fun d => (lower d.property, d.value)

/-- The property and value of a declaration that has been read. -/
def Css.Entry.pair (e : Css.Entry) : Text × Text :=
  (e.property, e.value.text .ordinary)

/-- Declarations in normal form, the important ones last. -/
def normalize (declarations : List Declaration) : List (Text × Text) :=
  match Css.readEntries? (Css.components (attributeText declarations)) with
  | some entries => (Css.byImportance entries).map Css.Entry.pair
  | none => rawPairs declarations

end ResponsiveImages
