import ResponsiveImages.Directive.Declaration
import ResponsiveImages.Directive.Suffix
import ResponsiveImages.Directive.Options

/-!
# Compiled Elements

The clauses of one element become style rules that select it by its number,
together with the list of breakpoints that live matching listens for.

Each extra works on whole lists of rules. For dense displays every rule with
an image gets a duplicate right behind it, gated on the display: that keeps
the duplicate of an early clause from beating a later clause. The fallback
rule comes last and needs a class on an ancestor. Lazy loading then restricts
all rules to elements a loader has released.

## Main definitions

* `ElementSelector`, `ElementSelector.text`: The selector of a compiled rule.
* `ElementRule`: A compiled rule.
* `denseQueries`: The tests that recognise a dense display.
* `ElementRule.denseVariant?`: The duplicate of a rule for dense displays.
* `duplicateForDense`: A list of rules with their duplicates.
* `fallbackRule`: The rule for pages in fallback mode.
* `restrictToLoaded`: Rules restricted to released elements.
* `Clause.rule`: The rule of a clause.
* `CompiledElement`: The rules and breakpoints of an element.
* `compileElement`: Compiling the clauses of an element.
-/

namespace ResponsiveImages

open Text

/-- The class a lazy loader puts on an element it has released. -/
def lazyLoadedClass : Text :=
  "lazy-loaded".toList

/-- The selector of a rule compiled for one element. -/
structure ElementSelector where
  id : Nat
  lazyLoaded : Bool := false
  /-- The class some ancestor has to carry. -/
  fallbackClass : Option Text := none
  deriving DecidableEq, Repr

/-- The condition that selects an element by its number. -/
def idCondition (id : Nat) : Text :=
  '[' :: Attribute.id ++ "=\"".toList ++ decimal id ++ "\"]".toList

/-- The selector as it is written, with a space at the end. -/
def ElementSelector.text (s : ElementSelector) : Text :=
  (match s.fallbackClass with
    | some c => '.' :: c ++ [' ']
    | none => [])
    ++ (if s.lazyLoaded then '.' :: lazyLoadedClass else [])
    ++ idCondition s.id ++ [' ']

/-- A rule for one element. -/
structure ElementRule where
  media : Option Text
  selector : ElementSelector
  declarations : List Declaration
  deriving DecidableEq, Repr

/-- The tests that recognise a dense display, one for each family of browsers. -/
def denseQueries : List Text := [
  "(min--moz-device-pixel-ratio: 1.3)".toList,
  "(-o-min-device-pixel-ratio: 2.6/2)".toList,
  "(-webkit-min-device-pixel-ratio: 1.3)".toList,
  "(min-device-pixel-ratio: 1.3)".toList,
  "(min-resolution: 1.3dppx)".toList]

/-- The media text that asks for a dense display on top of a test. -/
def denseMedia (media : Option Text) : Text :=
  joinWith ", ".toList <|
    match media with
    | some test => denseQueries.map fun q => test ++ " and ".toList ++ q
    | none => denseQueries

/-- A declaration with the suffix put into its image, if it has one. -/
def Declaration.dense? (suffix : Text) (d : Declaration) : Option Declaration :=
  if eqIgnoreCase d.property sourceProperty then
    (insertBeforeExtension? suffix d.value).map fun v => { d with value := v }
  else none

namespace ElementRule

/-- The duplicate of a rule that serves suffixed images to dense displays. A rule
    in which nothing takes the suffix has none. -/
def denseVariant? (suffix : Text) (r : ElementRule) : Option ElementRule :=
  if r.declarations.any fun d => (d.dense? suffix).isSome then
    some {
      media := some (denseMedia r.media)
      selector := r.selector
      declarations := r.declarations.map fun d => (d.dense? suffix).getD d }
  else none

/-- The rule for elements that a lazy loader has released. -/
def whenLoaded (r : ElementRule) : ElementRule :=
  { r with selector := { r.selector with lazyLoaded := true } }

end ElementRule

/-- Every rule, followed by its duplicate if it has one. -/
def duplicateForDense (suffix : Text) (rules : List ElementRule) : List ElementRule :=
  rules.flatMap fun r => r :: (r.denseVariant? suffix).toList

/-- The rule that applies if an ancestor carries the fallback class. -/
def fallbackRule (id : Nat) (body fallbackClass : Text) : ElementRule where
  media := none
  selector := { id, fallbackClass := some fallbackClass }
  declarations := readDeclarations body

/-- Rules restricted to elements that a lazy loader has released. -/
def restrictToLoaded (rules : List ElementRule) : List ElementRule :=
  rules.map ElementRule.whenLoaded

/-- The rule of a clause. -/
def Clause.rule (id : Nat) (c : Clause) : ElementRule where
  media := c.mediaTest
  selector := { id }
  declarations := readDeclarations c.declarations

/-- The media query a clause contributes to live matching. -/
structure Breakpoint where
  mediaQuery : Option Text
  deriving DecidableEq, Repr

/-- Whether the clause of the breakpoint always applies. -/
def Breakpoint.unconditional (b : Breakpoint) : Bool :=
  b.mediaQuery.isNone

/-- The breakpoint of a clause. -/
def Clause.breakpoint (c : Clause) : Breakpoint :=
  ⟨c.mediaTest⟩

/-- What is compiled for one element. -/
structure CompiledElement where
  rules : List ElementRule
  breakpoints : List Breakpoint
  deriving DecidableEq, Repr

/-- The rules of the clauses, with their duplicates if the options ask for them. -/
def clauseRules (id : Nat) (clauses : List Clause) (o : Options) : List ElementRule :=
  let rules := clauses.map (Clause.rule id)
  if o.retina then duplicateForDense o.retinaSuffix rules else rules

/-- The fallback rule, if there are fallback declarations. -/
def fallbackRules (id : Nat) (o : Options) : List ElementRule :=
  match o.fallback with
  | some body => [fallbackRule id body o.fallbackClass]
  | none => []

/-- Compiling the clauses of an element. -/
def compileElement (id : Nat) (clauses : List Clause) (o : Options) : CompiledElement where
  rules :=
    let rules := clauseRules id clauses o ++ fallbackRules id o
    if o.lazyLoad then restrictToLoaded rules else rules
  breakpoints := clauses.map Clause.breakpoint

end ResponsiveImages
