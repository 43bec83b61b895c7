import ResponsiveImages.Css.Calculation
import ResponsiveImages.Css.Color

/-!
# Atoms of Values

A value in normal form is a list of layers between commas, each a list of
atoms. Atoms have a space between them, except around a slash, where only the
ordinary layout has space. An atom may itself hold others, as the arguments of
a function, or in a run with less space between them.

Where the layouts do not only differ in space, an atom has a spelling for
each: `bold` is `700` in the compact layout.

## Main definitions

* `Atom`: A part of a value.
* `Atom.ofCalculation`: The atom of a calculation.
* `Atom.text`, `Layers.text`: Atoms and layers as they are written.
* `Atom.call`, `Atom.either`: Functions, and atoms that depend on the layout.
* `beyond`: Atoms without those that go without saying.
-/

namespace ResponsiveImages

namespace Css

open Text

/-- A part of a value. -/
inductive Atom where
  /-- A keyword in lower case. -/
  | keyword (k : Text)
  /-- A name that the author of a page has chosen. -/
  | name (s : Text)
  | string (s : Text)
  | url (s : Text)
  | number (x : Float32)
  | integer (n : Int)
  /-- A percentage, as a fraction of one. -/
  | percentage (x : Float32)
  | quantity (q : Quantity)
  | calculation (c : Calculation)
  | color (c : Color)
  | slash
  /-- A part with a spelling for each layout. -/
  | spelled (ordinary compact : Text)
  | function (name : Text) (arguments : List (List Atom))
  /-- Parts with space between them in the ordinary layout only, if at all. -/
  | run (spaced : Bool) (parts : List Atom)
  deriving BEq

/-- The layers of a value. -/
abbrev Layers := List (List Atom)

namespace Atom

/-- A length in pixels. -/
def pixels (x : Float32) : Atom :=
  quantity (Quantity.ofPixels x)

/-- Whether an atom is a length, a percentage or another quantity of zero. -/
def isZero : Atom → Bool
  | quantity q => q.isZero
  | percentage x => x == 0
  | _ => false

/-- The atom of a percentage or a quantity. -/
def ofMeasure : Measure → Atom
  | .share x => percentage x
  | .quantity q => quantity q

/-- The atom of a calculation. A single term needs no calculation any more. -/
def ofCalculation : Calculation → Atom
  | .number x => number x
  | .value m => ofMeasure m
  | c => calculation c

/-- The text of an atom without others in it. A length of zero has no unit. -/
def plainText (layout : Layout) : Atom → Text
  | keyword k => k
  | name s => identText s
  | string s => stringText s
  | url s => urlText layout s
  | number x => numberText x
  | integer n => toString n |>.toList
  | percentage x => percentText x
  | quantity q => if q.dimension == .length && q.isZero then ['0'] else q.text layout
  | calculation c => c.text layout
  | color c => c.text layout
  | slash => ['/']
  | spelled ordinary compact =>
    match layout with
    | .ordinary => ordinary
    | .compact => compact
  | function _ _ => []
  | run _ _ => []

/-- The space between two neighbours. -/
def gap (layout : Layout) (a b : Atom) : Text :=
  if a == slash || b == slash then layout.space else [' ']

mutual

/-- An atom as it is written. -/
def text (layout : Layout) : Atom → Text
  | function f arguments => f ++ '(' :: layersTextFrom layout arguments ++ [')']
  | run spaced parts => runText layout spaced parts
  | a => a.plainText layout

/-- Atoms as they are written, one behind the other. -/
def layerTextFrom (layout : Layout) : List Atom → Text
  | [] => []
  | [a] => a.text layout
  | a :: b :: rest => a.text layout ++ gap layout a b ++ layerTextFrom layout (b :: rest)

/-- The parts of a run as they are written. -/
def runText (layout : Layout) (spaced : Bool) : List Atom → Text
  | [] => []
  | [a] => a.text layout
  | a :: rest =>
    a.text layout ++ (if spaced then layout.space else []) ++ runText layout spaced rest

/-- Layers as they are written, between commas. -/
def layersTextFrom (layout : Layout) : List (List Atom) → Text
  | [] => []
  | [l] => layerTextFrom layout l
  | l :: rest => layerTextFrom layout l ++ ',' :: layout.space ++ layersTextFrom layout rest

end

end Atom

/-- Layers as they are written. -/
def Layers.text (layout : Layout) (ls : Layers) : Text :=
  Atom.layersTextFrom layout ls

namespace Atom

/-- A function of single atoms. -/
def call (name : Text) (arguments : List Atom) : Atom :=
  function name (arguments.map fun a => [a])

/-- An atom that the compact layout writes as another one. -/
def either (ordinary compact : Atom) : Atom :=
  spelled (ordinary.text .ordinary) (compact.text .compact)

/-- An atom that needs no unit if it is zero. -/
def bareZero (a : Atom) : Atom :=
  if a.isZero then number 0 else a

end Atom

/-- Atoms that are left out if they are the usual ones. -/
def beyond (usual given : List Atom) : List Atom :=
  if given == usual then [] else given

end Css

end ResponsiveImages
