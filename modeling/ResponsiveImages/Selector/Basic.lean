import ResponsiveImages.Text.Alphabetic

/-!
# Selectors

A compound selector is a tag name, class names and exact attribute
conditions, and a complex selector is a compound for the element itself plus
compounds for some of its ancestors, separated by white space. That is all
the generated style sheets use; other combinators are not told apart from
compounds, and characters a compound has no use for are skipped.

A compound is read part by part (`parts`): a part begins with a dot or a
bracket and ends before the next one. The classes of a compound are a set,
kept as an ascending list without repetitions so that equal sets are equal
lists.

## Main definitions

* `AttributeCondition`: An attribute and the exact value it must have.
* `Compound`: The conditions on one element.
* `Complex`: The conditions on an element and its ancestors.
* `SelectorPart`, `parts`: The parts of a compound in order.
* `Compound.read`, `Complex.read`: Reading selectors.
* `Specificity`: The two counts by which selectors are ranked.
* `Compound.specificity`, `Complex.specificity`: The rank of a selector.
-/

namespace ResponsiveImages

open Text

/-- An attribute and the exact value it must have. -/
structure AttributeCondition where
  name : Text
  value : Text
  deriving DecidableEq, Repr

/-- The conditions on one element. -/
structure Compound where
  tag : Option Text := none
  /-- In ascending order of code points and without repetitions. -/
  classes : List Text := []
  attributes : List AttributeCondition := []
  deriving DecidableEq, Repr

/-- The conditions on an element and on some of its ancestors, nearest first. -/
structure Complex where
  key : Compound
  ancestors : List Compound := []
  deriving DecidableEq, Repr

/-- A part of a compound. -/
inductive SelectorPart where
  | className (name : Text)
  | condition (inner : Text)
  deriving DecidableEq, Repr

/-- The characters of a name. -/
def inName (c : Char) : Bool :=
  c != '.' && c != '['

/-- The parts of a compound after its tag. A bracket that is not closed runs to
    the end. -/
def parts (s : Text) : List SelectorPart :=
  match s with
  | [] => []
  | c :: cs =>
    if c = '.' then .className (cs.takeWhile inName) :: parts (cs.dropWhile inName)
    else if c = '[' then
      .condition (cs.takeWhile (· != ']')) :: parts ((cs.dropWhile (· != ']')).drop 1)
    else parts cs
termination_by s.length
decreasing_by
  · have := (List.dropWhile_sublist inName (l := cs)).length_le
    simp only [List.length_cons]
    omega
  · have := (List.dropWhile_sublist (· != ']') (l := cs)).length_le
    simp only [List.length_drop, List.length_cons]
    omega
  · simp

/-- The condition between two brackets: a name and a value around an equals
    sign. -/
def AttributeCondition.ofInner? (inner : Text) : Option AttributeCondition :=
  (splitOnce? '=' inner).bind fun (name, value) =>
    if (trim name).isEmpty then none else some ⟨trim name, unquote (trim value)⟩

/-- Order of texts by code points. -/
def precedes : Text → Text → Bool
  | [], [] => false
  | [], _ :: _ => true
  | _ :: _, [] => false
  | a :: as, b :: bs => a.toNat < b.toNat || (a == b && precedes as bs)

/-- An ascending list with one more member. -/
def insertName (name : Text) : List Text → List Text
  | [] => [name]
  | n :: rest =>
    if name = n then n :: rest
    else if precedes name n then name :: n :: rest
    else n :: insertName name rest

namespace Compound

/-- The compound with one more part. An empty class name and a condition without
    a name or an equals sign are left out. -/
def addPart (c : Compound) : SelectorPart → Compound
  | .className name =>
    if name.isEmpty then c else { c with classes := insertName name c.classes }
  | .condition inner =>
    match AttributeCondition.ofInner? inner with
    | some a => { c with attributes := c.attributes ++ [a] }
    | none => c

/-- Whether a compound begins with a tag name. -/
def opensTag : Text → Bool
  | [] => false
  | c :: _ => isAlphabetic c || c == '*'

/-- The tag a compound begins with. `*` stands for any tag. -/
def tagOf (s : Text) : Option Text :=
  if opensTag s ∧ s.takeWhile inName ≠ ['*'] then some (s.takeWhile inName) else none

/-- Reading a compound selector. -/
def read (s : Text) : Compound :=
  let rest := if opensTag s then s.dropWhile inName else s
  (parts rest).foldl addPart { tag := tagOf s }

end Compound

/-- Reading a complex selector. An empty one matches every element. -/
def Complex.read (s : Text) : Complex :=
  match (words s).reverse with
  | [] => { key := Compound.read [] }
  | key :: ancestors => { key := Compound.read key, ancestors := ancestors.map Compound.read }

/-- The rank of a selector: the number of its classes and attribute conditions,
    then the number of its tags. -/
structure Specificity where
  conditions : Nat
  tags : Nat
  deriving DecidableEq, Repr

namespace Specificity

/-- The counts of two selectors taken together. -/
def add (a b : Specificity) : Specificity :=
  ⟨a.conditions + b.conditions, a.tags + b.tags⟩

end Specificity

/-- The rank of a compound selector. -/
def Compound.specificity (c : Compound) : Specificity :=
  ⟨c.classes.length + c.attributes.length, if c.tag.isSome then 1 else 0⟩

/-- The rank of a complex selector: its compounds taken together. -/
def Complex.specificity (c : Complex) : Specificity :=
  c.ancestors.foldl (fun s a => s.add a.specificity) c.key.specificity

end ResponsiveImages
