import ResponsiveImages.Directive.Ratio
import ResponsiveImages.Text.Nesting

/-!
# Declarations

The body of a clause is a list of `property: value` declarations between
semicolons. Two shorthands are replaced on the way in: the property `src`
stands for `background-image`, and `ratio(a/b)` in a value stands for a
percentage.

A piece without a colon is kept as a property without a value. Such a
declaration is printed as the property alone.

## Main definitions

* `Declaration`: A property and its value.
* `Declaration.text`: The declaration as it is written.
* `sourceProperty`: The property that carries the image of an element.
* `Declaration.ofPiece`: Reading one piece.
* `readDeclarations`: The declarations of a body.
-/

namespace ResponsiveImages

open Text

/-- A property and its value. -/
structure Declaration where
  property : Text
  value : Text
  deriving DecidableEq, Repr

/-- The property that carries the image of an element. -/
def sourceProperty : Text :=
  "background-image".toList

namespace Declaration

/-- The declaration as it is written. Without a value it is the property alone. -/
def text (d : Declaration) : Text :=
  if d.value.isEmpty then d.property else d.property ++ ": ".toList ++ d.value

/-- The property a name in a directive stands for. -/
def propertyOf (name : Text) : Text :=
  if eqIgnoreCase name "src".toList then sourceProperty else name

/-- Reading the trimmed text between two semicolons. -/
def ofPiece (s : Text) : Declaration :=
  match splitOnce? ':' s with
  | some (name, value) => ⟨propertyOf (trim name), expandRatios (trim value)⟩
  | none => ⟨expandRatios s, []⟩

end Declaration

/-- The declarations of a body, with or without braces around it. -/
def readDeclarations (body : Text) : List Declaration :=
  let pieces := (splitTopLevel ';' (unwrapBraces body)).map trim
  (pieces.filter fun s => !s.isEmpty).map Declaration.ofPiece

end ResponsiveImages
