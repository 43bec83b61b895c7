import ResponsiveImages.Css.Kept
import ResponsiveImages.Css.PropertyTable

/-!
# Property Values

A value is read by the grammar of its property, which brings it into normal
form: keywords in lower case, lengths with their unit, whatever is implied
left out. A value that does not fit the grammar is kept token by token, and so
is every value of a property without a grammar.

## Main definitions

* `Value`: A value in normal form or kept token by token.
* `Value.read?`: The value of a property.
* `Value.text`: A value as it is written.
-/

namespace ResponsiveImages

namespace Css

open Text

/-- A value in normal form, or one that is kept token by token. -/
inductive Value where
  | layers (ls : Layers)
  | kept (parts : List Part)

namespace Value

/-- The value of a property with the given name. A value with a token that no value
    may contain is refused. -/
def read? (name : Text) (cs : List Component) : Option Value :=
  if (Property.known? name).map Prod.snd == some Property.allName then
    (Property.wideValue.whole? cs).map layers
  else
    match (Property.ofName? name).bind fun p => p.reader.whole? cs with
    | some ls => some (layers ls)
    | none => (partsOf? cs).map kept

/-- A value as it is written. -/
def text (layout : Layout) : Value → Text
  | layers ls => ls.text layout
  | kept parts => writeParts layout parts

end Value

end Css

end ResponsiveImages
