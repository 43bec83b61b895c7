import ResponsiveImages.Css.Box
import ResponsiveImages.Css.Condition
import ResponsiveImages.Css.Kept

/-!
# Media Tests in Style Text

A test in the media query of a style sheet, read by the rules of CSS. Other
than the tests of a directive, these have typed values: a known feature only
takes a value of its type, and its name is written in lower case. A feature
that is not known takes any value, and every feature takes what is left to the
surroundings of the page.

A test compares its feature with a value, either by a bound in front of its
name (`min-width: 480px`) or by a sign (`width >= 480px`), or with two values
at once (`480px <= width < 960px`). Old readers know bounds alone. Both forms
become the same comparison. Comparisons are written with bounds for all readers,
`width > 480px` being what `max-width: 480px` denies, or else with signs.

## Main definitions

* `FeatureType`, `FeatureTable`, `mediaFeatures`: The known features.
* `FeatureType.reader`: Reading their values.
* `FeatureValue`: A value of a feature.
* `FeatureName`: A feature, and the bound in front of its name.
* `Comparison`: How a feature is compared with a value.
* `MediaTest`, `MediaTest.read?`, `MediaTest.text`: A test, reading and
  writing it.
-/

namespace ResponsiveImages

namespace Css

open Text

/-- What kind of value a feature takes. -/
inductive FeatureType where
  | length
  | number
  | integer
  | ratio
  | resolution
  | switch
  | keyword
  deriving DecidableEq, Repr

/-- Whether values of the type have an order. -/
def FeatureType.ordered : FeatureType → Bool
  | switch => false
  | keyword => false
  | _ => true

/-- The features that take a keyword. -/
def keywordFeatures : List Text :=
  ["orientation".toList, "overflow-block".toList, "overflow-inline".toList,
    "display-mode".toList, "scan".toList, "update".toList, "environment-blending".toList,
    "color-gamut".toList, "dynamic-range".toList, "inverted-colors".toList,
    "pointer".toList, "hover".toList, "any-pointer".toList, "any-hover".toList,
    "nav-controls".toList, "video-color-gamut".toList, "video-dynamic-range".toList,
    "scripting".toList, "prefers-reduced-motion".toList,
    "prefers-reduced-transparency".toList, "prefers-contrast".toList,
    "forced-colors".toList, "prefers-color-scheme".toList, "prefers-reduced-data".toList]

/-- The features that are known in some place, with their types. -/
abbrev FeatureTable := List (Text × FeatureType)

/-- The features of the media a page is shown on. -/
def mediaFeatures : FeatureTable := [
  ("width".toList, .length), ("height".toList, .length),
  ("device-width".toList, .length), ("device-height".toList, .length),
  ("aspect-ratio".toList, .ratio), ("device-aspect-ratio".toList, .ratio),
  ("resolution".toList, .resolution),
  ("-webkit-device-pixel-ratio".toList, .number),
  ("-moz-device-pixel-ratio".toList, .number),
  ("horizontal-viewport-segments".toList, .integer),
  ("vertical-viewport-segments".toList, .integer),
  ("color".toList, .integer), ("color-index".toList, .integer),
  ("monochrome".toList, .integer), ("grid".toList, .switch)]
  ++ keywordFeatures.map fun name => (name, .keyword)

namespace FeatureType

/-- Two numbers around a slash. -/
def readRatio : Reader (List Atom) := do
  let a ← Reader.number
  Reader.slash
  return [.number a, .slash, .number (← Reader.number)]

/-- A resolution. -/
def readResolution : Reader (List Atom) :=
  return [.quantity (← Reader.quantity .resolution)]

/-- A name, in any case. -/
def readName : Reader (List Atom) :=
  return [.name (← Reader.ident)]

/-- Reading a value of the type, or any value if the type is not known. A number may
    stand for a length, which counts pixels then, and for its ratio to one. -/
def reader : Option FeatureType → Reader (List Atom)
  | some length => return [← Reader.length]
  | some number => return [.number (← Reader.number)]
  | some integer => return [.integer (← Reader.integer)]
  | some ratio => Reader.ratio
  | some resolution => readResolution
  | some switch => do
    let n ← Reader.integer
    if n = 0 ∨ n = 1 then return [.integer n] else failure
  | some keyword => readName
  | none =>
    Reader.first [
      withoutOne <$> readRatio,
      return [.number (← Reader.number)],
      return [← Reader.length],
      readResolution,
      readName]
where
  /-- A ratio to one as a number. -/
  withoutOne : List Atom → List Atom
    | [a, _, .number b] => if b == 1 then [a] else [a, .slash, .number b]
    | atoms => atoms

end FeatureType

/-- A value of a feature. -/
inductive FeatureValue where
  | typed (atoms : List Atom)
  /-- A value that the surroundings of the page give. -/
  | surrounding (p : Part)

namespace FeatureValue

/-- The value that the surroundings give in front of some components, and the components
    behind it. -/
def takeSurrounding? : List Component → Option (FeatureValue × List Component)
  | .function name arguments :: rest =>
    if lower name == "env".toList then
      (functionPart? (4 * (weights arguments + 1)) "env".toList arguments).map fun p =>
        (surrounding p, rest)
    else none
  | _ => none

/-- The value of a type in front of some components, and the components behind it. -/
def take? (type : Option FeatureType) (cs : List Component) :
    Option (FeatureValue × List Component) :=
  match (FeatureType.reader type).run cs with
  | some (atoms, rest) => some (typed atoms, rest)
  | none => takeSurrounding? cs

/-- A value as it is written compactly. -/
def text : FeatureValue → Text
  | typed atoms => Layers.text .compact [atoms]
  | surrounding p => writeParts .compact [p]

end FeatureValue

/-- How a feature is compared with a value. -/
inductive Comparison where
  | equal
  | above
  | atLeast
  | below
  | atMost
  deriving DecidableEq, Repr

namespace Comparison

/-- The comparison with its sides exchanged. -/
def swapped : Comparison → Comparison
  | equal => equal
  | above => below
  | atLeast => atMost
  | below => above
  | atMost => atLeast

/-- The comparison that holds where another one does not. -/
def denied? : Comparison → Option Comparison
  | equal => none
  | above => some atMost
  | atLeast => some below
  | below => some atLeast
  | atMost => some above

/-- Whether the comparison leaves out the value itself. -/
def strict : Comparison → Bool
  | above => true
  | below => true
  | _ => false

/-- Whether two comparisons around a feature point the same way. -/
def aligned : Comparison → Comparison → Bool
  | above, b => b == above || b == atLeast
  | atLeast, b => b == above || b == atLeast
  | below, b => b == below || b == atMost
  | atMost, b => b == below || b == atMost
  | equal, _ => false

/-- The bound that allows what the comparison allows, or, of a strict one, what it
    leaves out. -/
def bound : Comparison → Text
  | equal => []
  | above => "max-".toList
  | atLeast => "min-".toList
  | below => "min-".toList
  | atMost => "max-".toList

/-- The sign of a comparison. -/
def sign : Comparison → Text
  | equal => ['=']
  | above => ['>']
  | atLeast => ['>', '=']
  | below => ['<']
  | atMost => ['<', '=']

/-- The sign in front of some components, and the components behind it. -/
def take? : List Component → Option (Comparison × List Component)
  | .token (.delim '>') :: .token (.delim '=') :: rest => some (atLeast, rest)
  | .token (.delim '>') :: rest => some (above, rest)
  | .token (.delim '<') :: .token (.delim '=') :: rest => some (atMost, rest)
  | .token (.delim '<') :: rest => some (below, rest)
  | .token (.delim '=') :: rest => some (equal, rest)
  | _ => none

end Comparison

/-- The vendor mark that comes in front of `min-` and `max-`. -/
def vendorMark : Text :=
  "-webkit-".toList

/-- A feature. -/
structure FeatureName where
  /-- The name without a bound, in lower case if the feature is known. -/
  name : Text
  /-- `none` if the feature is not known. -/
  type : Option FeatureType

namespace FeatureName

/-- A name without the bound in it, and the comparison that the bound means. -/
def splitBound (name : Text) : Text × Option Comparison :=
  let (mark, inner) :=
    match afterPrefix? vendorMark name with
    | some inner => (vendorMark, inner)
    | none => ([], name)
  match afterPrefix? "min-".toList inner, afterPrefix? "max-".toList inner with
  | some feature, _ => (mark ++ feature, some .atLeast)
  | none, some feature => (mark ++ feature, some .atMost)
  | none, none => (name, none)

/-- The feature that a word names, and the comparison if the word holds a bound. Only
    known features have bounds. -/
def ofWord (known : FeatureTable) (w : Text) : FeatureName × Option Comparison :=
  let (name, comparison) := splitBound (lower w)
  match known.lookup name with
  | some type => (⟨name, some type⟩, comparison)
  | none => (⟨w, none⟩, none)

/-- Whether the feature may be compared. -/
def ordered (f : FeatureName) : Bool :=
  f.type.all FeatureType.ordered

/-- The value that the feature takes in front of some components, and the
    components behind it. -/
def takeValue? (f : FeatureName) (cs : List Component) :
    Option (FeatureValue × List Component) :=
  FeatureValue.take? f.type cs

/-- The name with a bound. -/
def textWith (bound : Text) (f : FeatureName) : Text :=
  match afterPrefix? vendorMark f.name with
  | some inner => if f.type.isSome then vendorMark ++ bound ++ inner else bound ++ identText f.name
  | none => bound ++ identText f.name

end FeatureName

/-- A test of a feature. -/
inductive MediaTest where
  /-- The name alone. -/
  | named (f : FeatureName)
  /-- The name with a value behind a colon. -/
  | valued (f : FeatureName) (v : FeatureValue)
  | compared (f : FeatureName) (c : Comparison) (v : FeatureValue)
  /-- Both comparisons have the feature on their right. -/
  | between (f : FeatureName) (low high : Comparison × FeatureValue)

namespace MediaTest

/-- A test that begins with the name of its feature. -/
def readNameFirst? (known : FeatureTable) (name : Text) (rest : List Component) :
    Option MediaTest :=
  let (f, bound) := FeatureName.ofWord known name
  match rest with
  | [] => some (named f)
  | .token .colon :: value =>
    match f.takeValue? value, bound with
    | some (v, []), some c => if f.ordered then some (compared f c v) else none
    | some (v, []), none => some (valued f v)
    | _, _ => none
  | _ =>
    match Comparison.take? rest, bound with
    | some (c, value), none =>
      match f.takeValue? value with
      | some (v, []) => if f.ordered then some (compared f c v) else none
      | _ => none
    | _, _ => none

/-- The feature named first in some components. -/
def firstFeature? (known : FeatureTable) : List Component → Option FeatureName
  | [] => none
  | .token (.ident name) :: _ =>
    match FeatureName.ofWord known name with
    | (f, none) => some f
    | (_, some _) => none
  | _ :: rest => firstFeature? known rest

/-- A test that begins with a value. -/
def readValueFirst? (known : FeatureTable) (cs : List Component) : Option MediaTest := do
  let f ← firstFeature? known cs
  let (v, rest) ← f.takeValue? cs
  let (c, rest) ← Comparison.take? rest
  match rest with
  | [.token (.ident _)] => if f.ordered then some (compared f c.swapped v) else none
  | .token (.ident _) :: rest =>
    let (c', rest) ← Comparison.take? rest
    match f.takeValue? rest with
    | some (v', []) =>
      if f.ordered && c.aligned c' then some (between f (c.swapped, v) (c', v')) else none
    | _ => none
  | _ => none

/-- The test between two parentheses. -/
def read? (known : FeatureTable) (body : List Component) : Option MediaTest :=
  match significant body with
  | .token (.ident name) :: rest => readNameFirst? known name rest
  | cs => readValueFirst? known cs

/-- A comparison as it is written with a bound. The bound of a strict comparison is
    denied. -/
def boundText (f : FeatureName) (c : Comparison) (v : FeatureValue) : Text :=
  (if c.strict then "not ".toList else [])
    ++ '(' :: f.textWith c.bound ++ ':' :: v.text ++ [')']

/-- One of two comparisons. A denial stands in parentheses of its own. -/
def sideText (f : FeatureName) (side : Comparison × FeatureValue) : Text :=
  if side.1.strict then '(' :: boundText f side.1 side.2 ++ [')']
  else boundText f side.1 side.2

/-- The test that holds where another one does not, if it is a comparison as well. -/
def denied? : MediaTest → Option MediaTest
  | compared f c v => c.denied?.map fun d => compared f d v
  | _ => none

/-- A test as it is written compactly with bounds. -/
def text : MediaTest → Text
  | named f => '(' :: f.textWith [] ++ [')']
  | valued f v => boundText f .equal v
  | compared f c v => boundText f c v
  | between f low high => sideText f low ++ " and ".toList ++ sideText f high

/-- Whether a test written with bounds needs parentheses as an operand of a connective or,
    without one, of a denial. A strict comparison is written as a denial, and two comparisons as
    a conjunction. -/
def needsParens (parent : Option Connective) : MediaTest → Bool
  | named _ => false
  | valued _ _ => false
  | compared _ c _ => c.strict
  | between _ _ _ => parent != some .conjunction

/-- A test as it is written compactly with signs. -/
def signText : MediaTest → Text
  | named f => '(' :: f.textWith [] ++ [')']
  | valued f v => boundText f .equal v
  | compared f c v => '(' :: f.textWith [] ++ c.sign ++ v.text ++ [')']
  | between f low high =>
    '(' :: low.2.text ++ low.1.swapped.sign ++ f.textWith [] ++ high.1.sign ++ high.2.text ++ [')']

end MediaTest

end Css

end ResponsiveImages
