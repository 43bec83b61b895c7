import ResponsiveImages.Css.Kept
import ResponsiveImages.Css.Property

/-!
# Selectors in Style Text

Selectors as they stand in a style sheet, and how they are written compactly.
A selector is a chain of compounds, each a run of simple selectors, with a
combinator between neighbours. What stands behind a part of an element is a
compound of its own, with a combinator in front of it that is not written.

The value of an attribute condition is written as a name or as a string,
whichever is shorter, and as a string if both are the same length. A condition
on the place among siblings is written with as few characters as possible, and
alternatives with only one left among them without their function.

Inside of a rule `&` stands for the selectors of that rule, outside of all
rules for the whole page.

## Main definitions

* `Simple`: A condition on one element.
* `Combinator`: How neighbouring compounds are related.
* `Chain`: A selector.
* `Scope`: What `&` stands for.
* `Chain.text`, `chainsText`: Selectors written compactly.
* `Scope.within`: The scope inside of a rule.
-/

namespace ResponsiveImages

namespace Css

open Text

/-- How a compound is related to the one before it. -/
inductive Combinator where
  | descendant
  | child
  | nextSibling
  | laterSibling
  /-- The compound is about a part of the element. -/
  | part
  /-- The compound is about a part that the element has named itself. -/
  | namedPart
  /-- The compound is about what is put in place of the element. -/
  | slotted
  deriving DecidableEq, Repr

namespace Combinator

/-- A combinator as it is written compactly. -/
def text : Combinator → Text
  | descendant => [' ']
  | child => ['>']
  | nextSibling => ['+']
  | laterSibling => ['~']
  | part => []
  | namedPart => []
  | slotted => []

/-- Whether the compound in front belongs to the part or the place behind it, so that it need
    not say anything. -/
def belongsBehind : Combinator → Bool
  | part => true
  | slotted => true
  | _ => false

/-- The combinator a character stands for. -/
def ofChar? (c : Char) : Option Combinator :=
  if c = '>' then some child
  else if c = '+' then some nextSibling
  else if c = '~' then some laterSibling
  else none

end Combinator

/-- The value an attribute is tested for. -/
structure AttributeTest where
  operator : Text
  value : Text
  /-- The letter for whether case matters. -/
  flag : Option Char
  deriving DecidableEq, Repr

/-- Whether a name has no capital letters. -/
def isLower (name : Text) : Bool :=
  lower name == name

/-- An attribute value as a name or as a string, whichever is shorter. -/
def shortestText (value : Text) : Text :=
  let name := identText value
  let string := stringText value
  if !name.isEmpty && byteLength name < byteLength string then name else string

/-- What is counted, and from which end. -/
inductive Counting where
  | children
  | childrenFromEnd
  | types
  | typesFromEnd
  | columns
  | columnsFromEnd
  | onlyChild
  | onlyType
  deriving DecidableEq, Repr

namespace Counting

/-- The names of conditions with a number. -/
def names : List (Text × Counting) := [
  ("nth-child".toList, children), ("nth-last-child".toList, childrenFromEnd),
  ("nth-of-type".toList, types), ("nth-last-of-type".toList, typesFromEnd),
  ("nth-col".toList, columns), ("nth-last-col".toList, columnsFromEnd)]

/-- The names of conditions for the first one. -/
def firstNames : List (Text × Counting) := [
  ("first-child".toList, children), ("last-child".toList, childrenFromEnd),
  ("only-child".toList, onlyChild), ("first-of-type".toList, types),
  ("last-of-type".toList, typesFromEnd), ("only-of-type".toList, onlyType)]

/-- What a condition with a number begins with. -/
def opening (c : Counting) : Text :=
  match names.find? fun entry => entry.2 = c with
  | some (name, _) => ':' :: name ++ ['(']
  | none => []

/-- The condition for the first one. Columns have no name for it, and then nothing but the
    beginning of the function is written. -/
def firstText (c : Counting) : Text :=
  match firstNames.find? fun entry => entry.2 = c with
  | some (name, _) => ':' :: name
  | none => c.opening

end Counting

/-- The places `step * n + offset` among siblings. -/
structure Places where
  step : Int
  offset : Int
  deriving DecidableEq, Repr

/-- Places as they are written. -/
def Places.text (p : Places) : Text :=
  let plain (n : Int) : Text := (toString n).toList
  let signed : Text :=
    if p.offset < 0 then plain p.offset
    else if p.offset = 0 then []
    else '+' :: plain p.offset
  if p.step = 0 then plain p.offset
  else if p.step = 2 ∧ p.offset = 1 then "odd".toList
  else if p.step = 1 then 'n' :: signed
  else if p.step = -1 then '-' :: 'n' :: signed
  else plain p.step ++ 'n' :: signed

/-- What a list of selectors says about an element. -/
inductive Grouping where
  /-- One of them applies. -/
  | any
  /-- One of them applies, which does not count for the rank. -/
  | where'
  | none
  /-- One of them applies to an element that is found from this one. -/
  | has
  /-- One of them applies, in the words of a vendor. -/
  | vendorAny (vendor : Vendor)
  deriving DecidableEq, Repr

/-- The name of a grouping. -/
def Grouping.name : Grouping → Text
  | any => "is".toList
  | where' => "where".toList
  | none => "not".toList
  | has => "has".toList
  | vendorAny vendor => vendor.mark ++ "any".toList

/-- The space of names that the name of an element is taken from. -/
inductive NameSpace where
  /-- It is not mentioned. -/
  | implied
  | any
  | none
  | named (name : Text)
  deriving DecidableEq, Repr

/-- A space of names in front of a name. -/
def NameSpace.text : NameSpace → Text
  | implied => []
  | any => ['*', '|']
  | none => ['|']
  | named name => identText name ++ ['|']

/-- The test of an attribute as it is written. The value of one with capital letters in its name
    or with a space of names in front of it is a string. -/
def AttributeTest.text (space : NameSpace) (name : Text) (t : AttributeTest) : Text :=
  t.operator
    ++ (if isLower name && space = .implied then shortestText t.value else stringText t.value)
    ++ (match t.flag with
      | some c => [' ', c]
      | none => [])

mutual

/-- A condition on one element. -/
inductive Simple where
  /-- The name of the element, or any name. -/
  | element (space : NameSpace) (name : Option Text)
  | className (name : Text)
  | id (name : Text)
  | attribute (space : NameSpace) (name : Text) (test : Option AttributeTest)
  /-- What the rule around this one applies to. -/
  | parent
  /-- A state of an element, by its name or as it is written. -/
  | state (written : Text)
  /-- A part of an element, as it is written. -/
  | part (written : Text)
  /-- A place among the siblings. -/
  | nth (counting : Counting) (places : Places)
  /-- A place among the siblings to which selectors apply. -/
  | nthAmong (counting : Counting) (places : Places) (among : List Chain)
  | group (grouping : Grouping) (chains : List Chain)
  /-- A function that takes a single selector, by what it begins with. -/
  | inside (opening : Text) (chain : Chain)

/-- A selector. -/
inductive Chain where
  | compound (simples : List Simple)
  | linked (front : Chain) (link : Combinator) (simples : List Simple)

end

namespace Simple

/-- Whether the condition is on the name of an element. -/
def isType : Simple → Bool
  | element _ _ => true
  | _ => false

/-- Whether the condition is met by every element. -/
def isUniversal : Simple → Bool
  | element _ none => true
  | _ => false

/-- Whether the condition is met by every element and says no more than that. -/
def isIdle : Simple → Bool
  | element .implied none => true
  | _ => false

/-- Whether the condition is what the rule around this one applies to. -/
def isParent : Simple → Bool
  | parent => true
  | _ => false

/-- The condition on the element that a selector is asked about. -/
def scope : Simple :=
  state ":scope".toList

/-- Whether the condition is on the element that a selector is asked about. -/
def isScope : Simple → Bool
  | state written => written == ":scope".toList
  | _ => false

end Simple

/-- What `&` stands for. -/
structure Scope where
  /-- Its text at the start of a selector. -/
  leading : Text
  /-- Its text anywhere else. -/
  inner : Text

/-- The scope outside of all rules. -/
def Scope.page : Scope :=
  ⟨":scope".toList, ":scope".toList⟩

namespace Chain

/-- The compound a selector begins with. -/
def firstCompound : Chain → List Simple
  | compound simples => simples
  | linked front _ _ => front.firstCompound

/-- Whether a selector begins with the name of an element. -/
def beginsWithType (c : Chain) : Bool :=
  (c.firstCompound.head?.map Simple.isType).getD false

/-- Whether a selector is a single compound. -/
def isSingle : Chain → Bool
  | compound _ => true
  | linked _ _ _ => false

/-- Whether a selector can stand within a compound. -/
def fitsInCompound (c : Chain) : Bool :=
  !c.beginsWithType && c.isSingle

/-- The combinators of a selector. -/
def links : Chain → List Combinator
  | compound _ => []
  | linked front link _ => front.links ++ [link]

end Chain

/-- The text of conditions, except for those that every element meets. -/
def conditionsText (written : List (Simple × Text)) : Text :=
  (written.filter fun w => !w.1.isIdle).flatMap Prod.snd

/-- A compound as it is written, given whether it is the first one and the combinator behind it.
    A condition that every element meets is written only if it is the only one, and the name of
    an element comes first. -/
def compoundText (scope : Scope) (leading : Bool) (behind : Option Combinator)
    (compound : List (Simple × Text)) : Text :=
  let alone := !(behind.map Combinator.belongsBehind).getD false
  match compound with
  | [] => []
  | [w] =>
    if leading && w.1.isParent then scope.leading
    else if alone && w.1.isUniversal then w.2
    else conditionsText [w]
  | w :: w' :: rest =>
    if leading && w.1.isParent then
      if w'.1.isType then w'.2 ++ w.2 ++ conditionsText rest
      else scope.leading ++ conditionsText (w' :: rest)
    else conditionsText (w :: w' :: rest)

/-- The text of a combinator, if there is one. -/
def linkText (link : Option Combinator) : Text :=
  (link.map Combinator.text).getD []

/-- Compounds with the combinators between them as they are written. In a selector that is read
    from some element, the condition on that element is left out, and the next combinator is
    written in its place. -/
def linkedText (scope : Scope) : Bool → Bool → List Combinator → List (List (Simple × Text)) → Text
  | _, _, _, [] => []
  | relative, first, links, compound :: rest =>
    let skips := relative && (compound.head?.map fun w => w.1.isScope).getD false
    let before := if skips then linkText links.head? else []
    let links := if skips then links.drop 1 else links
    let compound := if skips then compound.drop 1 else compound
    let relative := relative && !skips
    if compound.isEmpty then before ++ linkedText scope relative first links rest
    else
      before ++ compoundText scope first links.head? compound ++ linkText links.head?
        ++ linkedText scope relative false (links.drop 1) rest

mutual

/-- A condition as it is written. -/
def Simple.text (scope : Scope) : Simple → Text
  | .element space name => space.text ++ (name.map identText).getD ['*']
  | .className name => '.' :: identText name
  | .id name => '#' :: identText name
  | .attribute space name test =>
    let tested := (test.map (AttributeTest.text space name)).getD []
    '[' :: space.text ++ identText name ++ tested ++ [']']
  | .parent => scope.inner
  | .state written => written
  | .part written => written
  | .nth counting places =>
    if places = ⟨0, 1⟩ then counting.firstText else counting.opening ++ places.text ++ [')']
  | .nthAmong counting places among =>
    counting.opening ++ places.text ++ " of ".toList ++ Chain.listText scope false among ++ [')']
  | .group grouping chains =>
    let inner := Chain.listText scope (grouping = .has) chains
    match grouping, chains with
    | .any, [c] => if c.fitsInCompound then inner else ":is(".toList ++ inner ++ [')']
    | grouping, _ => ':' :: grouping.name ++ '(' :: inner ++ [')']
  | .inside opening chain => opening ++ chain.text scope false ++ [')']

/-- Conditions, each with its text. -/
def Simple.written (scope : Scope) : List Simple → List (Simple × Text)
  | [] => []
  | s :: rest => (s, s.text scope) :: Simple.written scope rest

/-- The compounds of a selector, each condition with its text. -/
def Chain.written (scope : Scope) : Chain → List (List (Simple × Text))
  | .compound simples => [Simple.written scope simples]
  | .linked front _ simples => front.written scope ++ [Simple.written scope simples]

/-- A selector as it is written compactly, which may be read from some element. -/
def Chain.text (scope : Scope) (relative : Bool) : Chain → Text
  | .compound simples => linkedText scope relative true [] [Simple.written scope simples]
  | .linked front link simples =>
    linkedText scope relative true (front.links ++ [link])
      (front.written scope ++ [Simple.written scope simples])

/-- Selectors as they are written, between commas. -/
def Chain.listText (scope : Scope) (relative : Bool) : List Chain → Text
  | [] => []
  | [c] => c.text scope relative
  | c :: c' :: rest =>
    c.text scope relative ++ ',' :: Chain.listText scope relative (c' :: rest)

end

/-- Selectors as they are written compactly. -/
def chainsText (scope : Scope) (chains : List Chain) : Text :=
  Chain.listText scope false chains

/-- The scope inside of a rule with the given selectors. -/
def Scope.within (scope : Scope) (chains : List Chain) : Scope :=
  let grouped : Text := ":is(".toList ++ chainsText scope chains ++ [')']
  match chains with
  | [c] =>
    let text := c.text scope false
    ⟨text, if c.fitsInCompound then text else grouped⟩
  | _ => ⟨grouped, grouped⟩

mutual

/-- Whether a condition mentions `&`. -/
def Simple.mentionsParent : Simple → Bool
  | .parent => true
  | .nthAmong _ _ among => Chain.anyMentionsParent among
  | .group _ chains => Chain.anyMentionsParent chains
  | .inside _ chain => chain.mentionsParent
  | _ => false

/-- Whether one of some conditions mentions `&`. -/
def Simple.anyMentionsParent : List Simple → Bool
  | [] => false
  | s :: rest => s.mentionsParent || Simple.anyMentionsParent rest

/-- Whether a selector mentions `&`. -/
def Chain.mentionsParent : Chain → Bool
  | .compound simples => Simple.anyMentionsParent simples
  | .linked front _ simples => front.mentionsParent || Simple.anyMentionsParent simples

/-- Whether one of some selectors mentions `&`. -/
def Chain.anyMentionsParent : List Chain → Bool
  | [] => false
  | c :: rest => c.mentionsParent || Chain.anyMentionsParent rest

end

namespace Chain

/-- A selector with a compound in front of it. -/
def behind (front : List Simple) (link : Combinator) : Chain → Chain
  | compound simples => linked (compound front) link simples
  | linked front' link' simples => linked (behind front link front') link' simples

end Chain

end Css

end ResponsiveImages
