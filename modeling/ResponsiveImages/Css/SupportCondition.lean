import ResponsiveImages.Css.Condition
import ResponsiveImages.Css.Property
import ResponsiveImages.Css.PropertyTable
import ResponsiveImages.Css.RuleBody

/-!
# Conditions on What Is Supported

A rule may apply only where the browser supports some declarations. What the
condition asks for is kept as it was written, since it is the browser that has
to understand it.

Declarations that differ in the mark of a vendor alone become one that stands
for any of them. Groups that are neither conditions nor declarations are kept
with their parentheses.

## Main definitions

* `SupportCondition`: A condition on what is supported.
* `SupportCondition.read?`: Reading a condition.
* `SupportCondition.ofDeclaration?`: The condition that a declaration is supported.
* `SupportCondition.text`: Writing.
-/

namespace ResponsiveImages

namespace Css

open Text

/-- A condition on what is supported. -/
inductive SupportCondition where
  | negation (c : SupportCondition)
  | all (cs : List SupportCondition)
  | any (cs : List SupportCondition)
  /-- A declaration, by its property without the mark of a vendor, with one of some marks. -/
  | declaration (vendors : List (Option Vendor)) (property : Text) (value : Text)
  | selector (written : Text)
  /-- Something in parentheses that has no meaning yet. -/
  | unknown (written : Text)

namespace SupportCondition

/-- Whether components hold none that may stand nowhere. -/
def isSound (cs : List Spelled) : Bool :=
  (verbatimFrom? (unspelled cs)).isSome

/-- The condition that a declaration is supported. -/
def ofDeclaration? (cs : List Spelled) : Option SupportCondition :=
  match cs.dropWhile Spelled.isWhite with
  | name :: rest =>
    match name.component, rest.dropWhile Spelled.isWhite with
    | .token (.ident name), colon :: rest =>
      match colon.component with
      | .token .colon =>
        let (vendor, property) := splitName name
        if isSound rest then
          some (declaration [vendor] property (writtenAs (rest.dropWhile Spelled.isWhite)))
        else none
      | _ => none
    | _, _ => none
  | [] => none

/-- Conditions with one more. A declaration that differs in its vendor alone from one of them
    joins it. -/
def add (c : SupportCondition) : List SupportCondition → List SupportCondition
  | [] => [c]
  | d :: rest =>
    match c, d with
    | declaration vendors property value, declaration vendors' property' value' =>
      if property == property' && value == value' then
        declaration (vendors' ++ vendors) property value :: rest
      else d :: add c rest
    | _, _ => d :: add c rest

/-- Conditions joined by a connective. A single one stands for itself. -/
def join (k : Connective) : List SupportCondition → SupportCondition
  | [c] => c
  | cs =>
    match k with
    | .conjunction => all cs
    | .disjunction => any cs

/-- How the front of components is read. -/
abbrev Taking := List Spelled → Option (SupportCondition × List Spelled)

/-- The condition in a pair of parentheses or in a function, and what stands behind it. -/
def takeGroup? (inner : Taking) (cs : List Spelled) : Option (SupportCondition × List Spelled) :=
  match cs.dropWhile Spelled.isWhite with
  | [] => none
  | c :: rest =>
    let kept : Option (SupportCondition × List Spelled) :=
      if isSound c.inner then some (unknown (writtenAs [c]), rest) else none
    match c.component with
    | .function name _ =>
      if eqIgnoreCase name "selector".toList && isSound c.inner then
        some (selector (writtenAs c.inner), rest)
      else kept
    | .block .round _ =>
      match inner c.inner with
      | some (d, rest') => if rest'.all Spelled.isWhite then some (d, rest) else kept
      | none =>
        match ofDeclaration? c.inner with
        | some d => some (d, rest)
        | none => kept
    | _ => none

/-- The word at the front of components, and what stands behind it. -/
def takeWord? (cs : List Spelled) : Option (Text × List Spelled) :=
  match cs.dropWhile Spelled.isWhite with
  | c :: rest =>
    match c.component with
    | .token (.ident w) => some (w, rest)
    | _ => none
  | [] => none

/-- The connective and the group at the front of components, and what stands behind them. Once
    there was a connective, it has to be the same again. -/
def takeOperand? (inner : Taking) (k? : Option Connective) (cs : List Spelled) :
    Option (Connective × SupportCondition × List Spelled) := do
  let (w, rest) ← takeWord? cs
  let k ← Connective.ofWord? w
  if k?.all (· = k) then
    let (c, rest) ← takeGroup? inner rest
    return (k, c, rest)
  else none

/-- Further operands behind some conditions, up to a number of them. -/
def takeOperands (inner : Taking) : Nat → Option Connective → List SupportCondition →
    List Spelled → SupportCondition × List Spelled
  | 0, k?, taken, cs => (join (k?.getD .conjunction) taken, cs)
  | fuel + 1, k?, taken, cs =>
    match takeOperand? inner k? cs with
    | some (k, c, rest) => takeOperands inner fuel (some k) (add c taken) rest
    | none => (join (k?.getD .conjunction) taken, cs)

/-- The condition at the front of components, and what stands behind it, with groups inside of
    each other up to a depth. -/
def takeUpTo : Nat → Taking
  | 0, _ => none
  | depth + 1, cs =>
    match takeWord? cs with
    | some (w, rest) =>
      if eqIgnoreCase w "not".toList then
        (takeGroup? (takeUpTo depth) rest).map fun (c, rest) => (negation c, rest)
      else none
    | none =>
      (takeGroup? (takeUpTo depth) cs).map fun (c, rest) =>
        takeOperands (takeUpTo depth) rest.length none [c] rest

/-- The condition at the front of components, and what stands behind it. -/
def take? : Taking := fun cs =>
  takeUpTo (depths (unspelled cs) + 1) cs

/-- Reading a condition. -/
def read? (cs : List Spelled) : Option SupportCondition :=
  match take? cs with
  | some (c, rest) => if rest.all Spelled.isWhite then some c else none
  | none => none

/-- Whether a condition needs parentheses as an operand of another one. -/
def needsParens (parent : SupportCondition) : SupportCondition → Bool
  | negation _ => true
  | all _ =>
    match parent with
    | all _ => false
    | _ => true
  | any _ =>
    match parent with
    | any _ => false
    | _ => true
  | _ => false

/-- The marks of some vendors, in the order in which they are written. -/
def marks (vendors : List (Option Vendor)) : List Text :=
  let inOrder : List (Option Vendor) := Vendor.all.map some ++ [none]
  (inOrder.filter vendors.contains).map fun v => (v.map Vendor.mark).getD []

/-- A declaration as it is written, with the mark of each vendor in turn. -/
def declarationText (vendors : List (Option Vendor)) (property value : Text) : Text :=
  let written (mark : Text) : Text :=
    mark ++ property.flatMap nameChar ++ ':' :: value
  let alternatives := joinWith ") or (".toList ((marks vendors).map written)
  if marks vendors == [[]] then '(' :: alternatives ++ [')']
  else '(' :: '(' :: alternatives ++ [')', ')']

/-- A text in parentheses if it needs them. -/
def wrap (needed : Bool) (s : Text) : Text :=
  if needed then '(' :: s ++ [')'] else s

mutual

/-- A condition as it is written compactly. -/
def text : SupportCondition → Text
  | negation c => "not ".toList ++ wrap (needsParens (negation c) c) (text c)
  | all cs => joinWith " and ".toList (operandTexts (all []) cs)
  | any cs => joinWith " or ".toList (operandTexts (any []) cs)
  | declaration vendors property value => declarationText vendors property value
  | selector written => "selector(".toList ++ written ++ [')']
  | unknown written => written

/-- The operands of a condition as they are written. -/
def operandTexts (parent : SupportCondition) : List SupportCondition → List Text
  | [] => []
  | c :: rest => wrap (needsParens parent c) (text c) :: operandTexts parent rest

end

/-- Whether a condition is a declaration, which brings its own parentheses. -/
def isDeclaration : SupportCondition → Bool
  | declaration _ _ _ => true
  | _ => false

end SupportCondition

end Css

end ResponsiveImages
