import ResponsiveImages.Directive.Rule

/-!
# Style Sheets

The style sheet of a page is a list of rules in cascade order: first the
rules every page gets, then the rules of its elements in document order. It
is printed one rule a line, and a rule under a media query is wrapped in an
`@media` block on the same line.

## Main definitions

* `StyleRule`: A selector, declarations and an optional media query.
* `StyleRule.text`: The line a rule is printed as.
* `baselineRules`: The rules every page gets.
* `ElementRule.styleRule`: A compiled rule with its selector printed.
* `Stylesheet`: A list of rules.
* `Stylesheet.assemble`: The style sheet of a page.
* `Stylesheet.text`: The style sheet as it is printed.
-/

namespace ResponsiveImages

open Text

/-- A rule of a style sheet. -/
structure StyleRule where
  selector : Text
  declarations : List Declaration
  media : Option Text := none
  deriving DecidableEq, Repr

/-- The line a rule is printed as. -/
def StyleRule.text (r : StyleRule) : Text :=
  let body :=
    trimEnd r.selector ++ " \x7b".toList
      ++ r.declarations.flatMap (fun d => ' ' :: d.text ++ [';'])
      ++ " \x7d".toList
  match r.media with
  | some m => "@media ".toList ++ m ++ " \x7b ".toList ++ body ++ " \x7d\n".toList
  | none => body ++ ['\n']

/-- The rules every page gets. With live matching, images it drives take their
    natural size. -/
def baselineRules (markerClass : Text) (live : Bool) : List StyleRule :=
  let box : StyleRule := {
    selector := '.' :: markerClass
    declarations := [
      ⟨"background-repeat".toList, "no-repeat".toList⟩,
      ⟨"background-size".toList, "contain".toList⟩,
      ⟨"height".toList, "0".toList⟩,
      ⟨"width".toList, "100%".toList⟩] }
  let driven : StyleRule := {
    selector :=
      "img.".toList ++ markerClass ++ '[' :: Attribute.hasEnquire ++ "=\"true\"]".toList
    declarations := [
      ⟨"height".toList, "auto".toList⟩,
      ⟨"width".toList, "auto".toList⟩] }
  if live then [box, driven] else [box]

/-- A compiled rule with its selector printed. -/
def ElementRule.styleRule (r : ElementRule) : StyleRule where
  selector := r.selector.text
  declarations := r.declarations
  media := r.media

/-- A list of rules in cascade order. -/
structure Stylesheet where
  rules : List StyleRule := []
  deriving DecidableEq, Repr

namespace Stylesheet

/-- The style sheet of a page whose elements have been compiled. -/
def assemble (markerClass : Text) (live : Bool) (elements : List CompiledElement) :
    Stylesheet where
  rules := baselineRules markerClass live
    ++ elements.flatMap fun e => e.rules.map ElementRule.styleRule

/-- The style sheet as it is printed. -/
def text (s : Stylesheet) : Text :=
  s.rules.flatMap StyleRule.text

end Stylesheet

end ResponsiveImages
