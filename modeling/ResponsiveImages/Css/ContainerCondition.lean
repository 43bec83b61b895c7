import ResponsiveImages.Css.MediaTest
import ResponsiveImages.Css.RuleBody

/-!
# Container Queries

A rule may apply only inside of a container with a certain size or with
certain values of its properties. Tests of the size are like those of the
media, but they are written with signs. Tests of values stand inside of a
function and are declarations, or names of properties alone, combined in their
own right.

## Main definitions

* `StyleTest`: A test of the value of a property.
* `ContainerTest`: A test of a container.
* `ContainerCondition`, `ContainerCondition.read?`, `ContainerCondition.text`: Combinations
  of them, reading and writing them.
-/

namespace ResponsiveImages

namespace Css

open Text

/-- A test of the value of a property. -/
inductive StyleTest where
  | declared (e : Entry)
  /-- The property has some value of its own. -/
  | mentioned (vendor : Option Vendor) (property : Text)

namespace StyleTest

/-- The value of a property in front of an importance mark, if there is one. A mark keeps the
    grammar of the property from being used. -/
def value? (name : Text) (cs : List Component) : Option Value :=
  let isEnd (c : Component) : Bool := c.isDelim '!'
  let before := cs.takeWhile fun c => !isEnd c
  match cs.dropWhile fun c => !isEnd c with
  | [] => Value.read? name before
  | behind =>
    if importance? behind = some true then (partsOf? before).map Value.kept else none

/-- Reading a test. -/
def read? (cs : List Component) : Option StyleTest :=
  match cs.dropWhile Component.isWhite with
  | .token (.ident name) :: rest =>
    let (vendor, property) := splitName name
    match rest.dropWhile Component.isWhite with
    | [] => some (mentioned vendor property)
    | .token .colon :: rest =>
      (value? name rest).map fun value => declared ⟨vendor, property, value, false⟩
    | _ => none
  | _ => none

/-- A test as it is written compactly. -/
def text : StyleTest → Text
  | declared e => e.text
  | mentioned vendor property => (vendor.map Vendor.mark).getD [] ++ identText property

/-- How tests of values are read. -/
def reading : TestReading StyleTest where
  between? := read?
  ofFunction? := fun _ _ => none

/-- How tests of values are written. -/
def writing : TestWriting StyleTest where
  text := text
  needsParens := fun _ _ => true

end StyleTest

/-- A test of a container. -/
inductive ContainerTest where
  | size (t : MediaTest)
  | style (c : Condition StyleTest)

/-- A combination of tests of a container. -/
abbrev ContainerCondition := Condition ContainerTest

namespace ContainerTest

/-- The features of the size of a container. -/
def features : FeatureTable := [
  ("width".toList, .length), ("height".toList, .length), ("inline-size".toList, .length),
  ("block-size".toList, .length), ("aspect-ratio".toList, .ratio),
  ("orientation".toList, .keyword)]

/-- The test that a function stands for. -/
def ofFunction? (name : Text) (arguments : List Component) : Option ContainerTest :=
  if eqIgnoreCase name "style".toList then
    ((Condition.read? StyleTest.reading arguments)
      <|> (StyleTest.read? arguments).map Condition.test).map style
  else none

/-- A test as it is written compactly. -/
def text : ContainerTest → Text
  | size t => t.signText
  | style c => "style(".toList ++ Condition.text StyleTest.writing c ++ [')']

end ContainerTest

namespace ContainerCondition

/-- How tests of a container are read. -/
def reading : TestReading ContainerTest where
  between? := fun body => (MediaTest.read? ContainerTest.features body).map .size
  ofFunction? := ContainerTest.ofFunction?

/-- How tests of a container are written. -/
def writing : TestWriting ContainerTest where
  text := ContainerTest.text
  needsParens := fun _ _ => false

/-- Reading a condition. -/
def read? (cs : List Component) : Option ContainerCondition :=
  Condition.read? reading cs

/-- A condition as it is written compactly. -/
def text (c : ContainerCondition) : Text :=
  Condition.text writing c

end ContainerCondition

end Css

end ResponsiveImages
