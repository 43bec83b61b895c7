import ResponsiveImages.Css.Descriptor
import ResponsiveImages.Css.Transform

/-!
# Registered Properties

A custom property may be registered with the syntax of its values, whether it
is inherited, and the value it begins with. The syntax is a string of its own:
alternatives between bars, each the name of a type in angle brackets or a word
that stands for itself, possibly followed by a mark for a list. An asterisk
allows everything.

The value that the property begins with has to fit one of the alternatives.
Only a property that allows everything can do without one.

## Main definitions

* `SyntaxAlternative`, `ValueSyntax`: The syntax of values.
* `ValueSyntax.read?`, `ValueSyntax.text`: Reading and writing it.
* `ValueSyntax.value?`: The value in the form of a syntax.
* `Registration`: What is said about a registered property.
-/

namespace ResponsiveImages

namespace Css

open Text

/-- How often a value of a type occurs. -/
inductive Repetition where
  | once
  | spaced
  | separated
  deriving DecidableEq, Repr

/-- The mark of a repetition. -/
def Repetition.mark : Repetition → Text
  | once => []
  | spaced => ['+']
  | separated => ['#']

/-- One of the forms a value may have. -/
structure SyntaxAlternative where
  /-- A type stands in angle brackets, and any other name for itself. -/
  isType : Bool
  name : Text
  repetition : Repetition

/-- The white space of a syntax. -/
def isBlank (c : Char) : Bool :=
  c == ' ' || c == '\t'

/-- The syntax of values. -/
inductive ValueSyntax where
  | universal
  | alternatives (as : List SyntaxAlternative)

namespace SyntaxAlternative

/-- The types of values with their readers. -/
def types : List (Text × Reader (List Atom)) := [
  ("length".toList, return [← Reader.length]),
  ("number".toList, return [.number (← Reader.number)]),
  ("percentage".toList, return [.percentage (← Reader.share)]),
  ("length-percentage".toList, return [← Reader.sizing]),
  ("string".toList, return [.string (← Reader.string)]),
  ("color".toList, return [← Reader.color]),
  ("image".toList, return [← Reader.image]),
  ("url".toList, return [.url (← Reader.url)]),
  ("integer".toList, return [.integer (← Reader.integer)]),
  ("angle".toList, return [← Reader.angle]),
  ("time".toList, return [← Reader.time]),
  ("resolution".toList, return [.quantity (← Reader.quantity .resolution)]),
  ("transform-function".toList, return [← Reader.callOf Reader.transformFunctions]),
  ("transform-list".toList, Reader.transforms),
  ("custom-ident".toList, return [.name (← Reader.customName)])]

/-- The name of the type whose values are lists already. -/
def listType : Text :=
  "transform-list".toList

/-- The repetition that a mark at the front of a text stands for, and what is behind it. -/
def takeRepetition : Text → Repetition × Text
  | '+' :: rest => (.spaced, rest)
  | '#' :: rest => (.separated, rest)
  | rest => (.once, rest)

/-- The alternative at the front of a text, and what is behind it. -/
def take? (s : Text) : Option (SyntaxAlternative × Text) :=
  match s.dropWhile isBlank with
  | '<' :: rest =>
    match splitOnce? '>' rest with
    | some (name, rest) =>
      let name := lower name
      if name == listType then some (⟨true, name, .once⟩, rest)
      else if (types.lookup name).isSome then
        let (repetition, rest) := takeRepetition rest
        some (⟨true, name, repetition⟩, rest)
      else none
    | none => none
  | c :: rest =>
    if startsName c then
      let (repetition, rest') := takeRepetition (rest.dropWhile inName)
      some (⟨false, c :: rest.takeWhile inName, repetition⟩, rest')
    else none
  | [] => none

/-- The value of an alternative at the front of components, without regard to repetition. -/
def single (a : SyntaxAlternative) : Reader (List Atom) :=
  if a.isType then (types.lookup a.name).getD failure
  else do
    if (← Reader.ident) == a.name then return [.name a.name] else failure

/-- The value of an alternative at the front of components. -/
def reader (a : SyntaxAlternative) : Reader Layers :=
  match a.repetition with
  | .once => return [← a.single]
  | .spaced => do
    let parts ← Reader.some1 a.single
    if ← Reader.atEnd then return [parts.flatten] else failure
  | .separated => do
    let front ← Reader.many do
      let value ← a.single
      Reader.comma
      return value
    let last ← a.single
    if ← Reader.atEnd then return front ++ [last] else failure

/-- An alternative as it is written. -/
def text (a : SyntaxAlternative) : Text :=
  (if a.isType then '<' :: a.name ++ ['>'] else a.name) ++ a.repetition.mark

end SyntaxAlternative

namespace ValueSyntax

/-- The alternatives in a text, up to a number of them. -/
def takeAll? : Nat → Text → Option (List SyntaxAlternative)
  | 0, _ => none
  | fuel + 1, s =>
    match SyntaxAlternative.take? s with
    | none => none
    | some (a, rest) =>
      match rest.dropWhile isBlank with
      | [] => some [a]
      | '|' :: rest => (takeAll? fuel rest).map (a :: ·)
      | _ => none

/-- Reading a syntax. -/
def read? (s : Text) : Option ValueSyntax :=
  let trimmed := (((s.dropWhile isBlank).reverse).dropWhile isBlank).reverse
  if trimmed == ['*'] then some universal
  else (takeAll? (s.length + 1) trimmed).map alternatives

/-- A syntax as it is written. -/
def text : ValueSyntax → Text
  | universal => "\x22*\x22".toList
  | alternatives as =>
    '\x22' :: joinWith ['|'] (as.map SyntaxAlternative.text) ++ ['\x22']

/-- The value of a syntax at the front of components. What follows it does not count. -/
def value? (s : ValueSyntax) (cs : List Component) : Option Value :=
  match s with
  | universal => (partsOf? cs).map Value.kept
  | alternatives as =>
    as.findSome? fun a =>
      (a.reader.run (significant cs)).map fun (ls, _) => Value.layers ls

end ValueSyntax

/-- What is said about a registered property. -/
structure Registration where
  valueSyntax : ValueSyntax
  inherits : Bool
  initial : Option Value

namespace Registration

/-- What a registration says so far. -/
structure Draft where
  valueSyntax : Option ValueSyntax := none
  inherits : Option Bool := none
  initial : Option (List Component) := none

/-- A draft with one more declaration. One that cannot be read spoils the whole. -/
def Draft.add? (d : Draft) (item : BodyItem) : Option Draft :=
  match item with
  | .declaration cs =>
    match unspelled cs with
    | .token (.ident name) :: rest =>
      match rest.dropWhile Component.isWhite with
      | .token .colon :: value =>
        let name := lower name
        if name == "syntax".toList then
          ((Reader.string.whole? value).bind ValueSyntax.read?).map fun s =>
            { d with valueSyntax := some s }
        else if name == "inherits".toList then
          ((Reader.oneOf (Reader.splitWords "true false")).whole? value).map fun w =>
            { d with inherits := some (w == "true".toList) }
        else if name == "initial-value".toList then some { d with initial := some value }
        else none
      | _ => none
    | _ => none
  | _ => none

/-- Reading the registration of a property from its body. -/
def read? (body : List Spelled) : Option Registration := do
  let draft ← (bodyItems body).foldlM Draft.add? {}
  let valueSyntax ← draft.valueSyntax
  let inherits ← draft.inherits
  match valueSyntax, draft.initial with
  | .universal, none => return ⟨valueSyntax, inherits, none⟩
  | .universal, some cs =>
    if cs.all Component.isWhite then
      return ⟨valueSyntax, inherits, some (.kept [])⟩
    else return ⟨valueSyntax, inherits, some (← valueSyntax.value? cs)⟩
  | .alternatives _, some cs =>
    return ⟨valueSyntax, inherits, some (← valueSyntax.value? cs)⟩
  | .alternatives _, none => none

/-- The body of a registration as it is written compactly. -/
def text (r : Registration) : Text :=
  let initial : List Text :=
    match r.initial with
    | some value => ["initial-value:".toList ++ value.text .compact]
    | none => []
  bracedText (
    ["syntax:".toList ++ r.valueSyntax.text,
      "inherits:".toList ++ (if r.inherits then "true".toList else "false".toList)]
    ++ initial)

end Registration

end Css

end ResponsiveImages
