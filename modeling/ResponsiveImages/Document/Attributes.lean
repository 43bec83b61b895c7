import ResponsiveImages.Text.Basic

/-!
# Attributes

The attributes of an element are a list of names and values in the order they
were written. Names may repeat and differ in case, and the list is never
cleaned up: reading and writing both go to the first entry whose name is the
given one in any case, so that a later entry of the same name stays hidden.

## Main definitions

* `Attributes`: The names and values in order.
* `Attributes.get?`: The value of the first entry with a name.
* `Attributes.set`: A list with that value replaced, or a new entry at the end.
* `Attributes.addMissing`: A list with the entries added whose names are new.
* `Attributes.classes`: The class names in the `class` attribute.
* `Attributes.hasClass`: Whether a class is among them.
-/

namespace ResponsiveImages

open Text

/-- The attributes of an element, in order. -/
abbrev Attributes := List (Text × Text)

namespace Attributes

/-- The value of the first attribute with the given name in any case. -/
def get? (attributes : Attributes) (name : Text) : Option Text :=
  (attributes.find? fun entry => eqIgnoreCase entry.1 name).map Prod.snd

/-- The attributes with a value set: the first entry of that name keeps its
    spelling and place, and without one an entry is added at the end. -/
def set : Attributes → Text → Text → Attributes
  | [], name, value => [(name, value)]
  | (n, v) :: rest, name, value =>
    if eqIgnoreCase n name then (n, value) :: rest else (n, v) :: set rest name value

/-- The attributes with one entry added unless its name is there already. -/
def addIfMissing (attributes : Attributes) (entry : Text × Text) : Attributes :=
  match attributes.get? entry.1 with
  | some _ => attributes
  | none => attributes ++ [entry]

/-- The attributes with those entries added whose names are not there yet. -/
def addMissing (attributes : Attributes) (entries : List (Text × Text)) : Attributes :=
  entries.foldl addIfMissing attributes

/-- The class names of an element, in order and with repetitions. -/
def classes (attributes : Attributes) : List Text :=
  words ((attributes.get? "class".toList).getD [])

/-- Whether an element has a class. -/
def hasClass (attributes : Attributes) (name : Text) : Bool :=
  (attributes.classes).contains name

end Attributes

end ResponsiveImages
