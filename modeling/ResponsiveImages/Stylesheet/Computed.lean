import ResponsiveImages.Stylesheet.Normalized
import ResponsiveImages.Stylesheet.Cascade
import ResponsiveImages.Stylesheet.Rule
import ResponsiveImages.Selector.Matching

/-!
# Computed Styles

A style sheet is read once into `OwnedRule`s: media queries and selectors
parsed, declarations normalized. The style of an element is then computed
from the rules whose media queries hold and of whose selectors one matches.
A rule takes part with the first of its selectors that matches.

## Main definitions

* `OwnedRule`: A rule ready to be matched.
* `OwnedRule.text`: A summary of the rule.
* `Stylesheet.own`: Reading a style sheet.
* `OwnedRule.matched?`: The rule as it takes part in the cascade.
* `computedStyle`: The style of an element.
* `resolvedProperty?`: One property of it.
-/

namespace ResponsiveImages

open Text

/-- A rule with its parts read. -/
structure OwnedRule where
  /-- `none` if the rule holds everywhere. -/
  media : Option QueryList
  selectors : List Complex
  /-- The properties and values in normal form. -/
  declarations : List (Text × Text)
  sourceOrder : Nat
  deriving DecidableEq, Repr

namespace OwnedRule

/-- A summary of the rule with its declarations, one a line. -/
def text (r : OwnedRule) : Text :=
  "Rule #".toList ++ decimal r.sourceOrder ++ " (".toList ++ decimal r.selectors.length
    ++ " selectors, media: ".toList
    ++ (if r.media.isSome then "true".toList else "false".toList) ++ ")\n".toList
    ++ r.declarations.flatMap fun d => "  ".toList ++ d.1 ++ ": ".toList ++ d.2 ++ ['\n']

/-- Reading a rule that stands at a given place in its style sheet. -/
def ofRule (place : Nat) (r : StyleRule) : OwnedRule where
  media := r.media.map QueryList.read
  selectors := (r.selector.splitOn ',').map Complex.read
  declarations := normalize r.declarations
  sourceOrder := place

/-- Whether the media queries of the rule hold. -/
def active (r : OwnedRule) (v : Viewport) : Bool :=
  match r.media with
  | some queries => queries.holds v
  | none => true

/-- The rule as it takes part in the cascade for a node, if one of its selectors
    matches. -/
def matched? (r : OwnedRule) (d : Document) (i : NodeId) : Option MatchedRule :=
  (r.selectors.find? fun s => d.satisfies i s).map fun s =>
    ⟨s.specificity, r.declarations, r.sourceOrder⟩

end OwnedRule

/-- Reading a style sheet. -/
def Stylesheet.own (s : Stylesheet) : List OwnedRule :=
  s.rules.mapIdx OwnedRule.ofRule

/-- The style that rules give to a node under a viewport. -/
def computedStyle (rules : List OwnedRule) (v : Viewport) (d : Document) (i : NodeId) : Style :=
  cascade ((rules.filter fun r => r.active v).filterMap fun r => r.matched? d i)

/-- One property of the style of a node. -/
def resolvedProperty? (rules : List OwnedRule) (v : Viewport) (d : Document) (i : NodeId)
    (property : Text) : Option Text :=
  (computedStyle rules v d i).get? property

end ResponsiveImages
