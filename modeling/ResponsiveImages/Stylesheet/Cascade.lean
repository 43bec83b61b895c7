import ResponsiveImages.Selector.Basic

/-!
# The Cascade

Several rules may match one element and declare the same property. The rules
are ordered by the rank of their selectors, then by their place in the style
sheet, and their declarations are entered one after the other, so that the
last one entered wins. The sort is stable: rules that agree in both keep the
order they were given in.

## Main definitions

* `Style`: The property values of an element.
* `Style.get?`, `Style.put`: Reading and entering a value.
* `MatchedRule`: A rule that matches the element at hand.
* `MatchedRule.notAbove`: The order of the cascade.
* `cascade`: The style that matched rules give together.
-/

namespace ResponsiveImages

/-- The property values of an element. A property occurs once. -/
abbrev Style := List (Text × Text)

namespace Style

/-- The value of a property. -/
def get? (style : Style) (property : Text) : Option Text :=
  style.lookup property

/-- The style with a value entered over any earlier one. -/
def put : Style → Text → Text → Style
  | [], property, value => [(property, value)]
  | (p, v) :: rest, property, value =>
    if p = property then (p, value) :: rest else (p, v) :: put rest property value

/-- The style with declarations entered one after the other. -/
def putAll (style : Style) (declarations : List (Text × Text)) : Style :=
  declarations.foldl (fun s d => s.put d.1 d.2) style

end Style

/-- A rule that matches the element at hand. -/
structure MatchedRule where
  specificity : Specificity
  /-- The properties and values in the order they were written. -/
  declarations : List (Text × Text)
  sourceOrder : Nat
  deriving DecidableEq, Repr

namespace MatchedRule

/-- Whether the first rule does not come after the second one. -/
def notAbove (a b : MatchedRule) : Bool :=
  if a.specificity.conditions ≠ b.specificity.conditions then
    a.specificity.conditions < b.specificity.conditions
  else if a.specificity.tags ≠ b.specificity.tags then
    a.specificity.tags < b.specificity.tags
  else a.sourceOrder ≤ b.sourceOrder

end MatchedRule

/-- The style that rules give together, the strongest of them last. -/
def cascade (rules : List MatchedRule) : Style :=
  (rules.mergeSort MatchedRule.notAbove).foldl (fun s r => s.putAll r.declarations) []

end ResponsiveImages
