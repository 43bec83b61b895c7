import ResponsiveImages.Css.Value

/-!
# Style Attributes

A block of declarations as it stands in a style attribute: properties with
their values between semicolons. Each declaration has a name, a colon and a
value, and may end with an importance mark. A brace block ends the value of
any property that is not custom, and nothing may follow it. Closing braces
without an open one are skipped in front of a declaration.

The name of a known property is taken apart into the mark of a vendor and the
name proper, in lower case. Other names stay as they are.

## Main definitions

* `Entry`: A declaration with its value read.
* `Entry.read?`: Reading the components between two semicolons.
* `readEntries?`: Reading a block, refused as a whole if one entry is.
* `byImportance`: Declarations in the order in which they take effect.
-/

namespace ResponsiveImages

namespace Css

open Text

/-- A declaration with its value read. -/
structure Entry where
  /-- The vendor whose mark the name carries. -/
  vendor : Option Vendor := none
  property : Text
  value : Value
  important : Bool

/-- Whether a property name is custom, that is, begins with two hyphens. -/
def isCustom (name : Text) : Bool :=
  (afterPrefix? "--".toList name).isSome

/-- The mark and the name proper of a property. -/
def splitName (name : Text) : Option Vendor × Text :=
  (Property.known? name).getD (none, name)

/-- Whether a component ends the value of a property. -/
def endsValue (custom : Bool) : Component → Bool
  | .token (.delim '!') => true
  | .block .curly _ => !custom
  | _ => false

/-- Whether what follows a value is nothing, or else the importance mark. Other
    things may not follow. -/
def importance? (cs : List Component) : Option Bool :=
  match significant cs with
  | [] => some false
  | [mark, word] =>
    if mark.isDelim '!' && word.isKeyword "important".toList then some true else none
  | _ => none

/-- The declaration between two semicolons. -/
def Entry.read? (cs : List Component) : Option Entry :=
  match cs with
  | .token (.ident name) :: rest =>
    match rest.dropWhile Component.isWhite with
    | .token .colon :: cs' =>
      let isEnd := endsValue (isCustom name)
      let (vendor, property) := splitName name
      match Value.read? name (cs'.takeWhile fun c => !isEnd c),
          importance? (cs'.dropWhile fun c => !isEnd c) with
      | some value, some important => some ⟨vendor, property, value, important⟩
      | _, _ => none
    | _ => none
  | _ => none

/-- Whether a component is skipped in front of a declaration. -/
def betweenEntries : Component → Bool
  | .token (.white _) => true
  | .token (.comment _) => true
  | .token .semicolon => true
  | .token (.closing .curly) => true
  | _ => false

/-- The components of each declaration, between semicolons. -/
def entryComponents (cs : List Component) : List (List Component) :=
  ((cs.splitOnP Component.isSemicolon).map fun piece => piece.dropWhile betweenEntries).filter
    fun piece => !piece.isEmpty

/-- The declarations of a block, if all of them can be read. -/
def readEntries? (cs : List Component) : Option (List Entry) :=
  (entryComponents cs).mapM Entry.read?

/-- Declarations in the order in which they take effect: the important ones
    last. -/
def byImportance (entries : List Entry) : List Entry :=
  (entries.filter fun e => !e.important) ++ entries.filter fun e => e.important

end Css

end ResponsiveImages
