import ResponsiveImages.Css.MediaTest

/-!
# Media Queries in Style Text

The media queries of a style sheet read by the rules of CSS, so that they can
be written compactly.

A query that cannot be read makes its whole list unreadable. A query that is
merely cut short, where the text ends and something has to follow, ends the
list instead: the queries in front of it count, and without any the list holds
everywhere.

## Main definitions

* `MediaCondition`: A combination of media tests.
* `MediaCondition.simplified`: A condition without needless denials.
* `MediaQuery.ofTokens`, `MediaQuery.text`: Reading and writing a query.
* `readQueries?`, `queriesText`: Lists of queries.
-/

namespace ResponsiveImages

namespace Css

open Text

/-- A combination of media tests. -/
abbrev MediaCondition := Condition MediaTest

namespace MediaCondition

/-- How media tests are read. -/
def reading : TestReading MediaTest where
  between? := MediaTest.read? mediaFeatures
  ofFunction? := fun _ _ => none

/-- How media tests are written. -/
def writing : TestWriting MediaTest where
  text := MediaTest.text
  needsParens := MediaTest.needsParens

/-- A condition without denials that can be avoided: that of a denial, and that of a
    comparison, which turns round. -/
def simplified : MediaCondition → MediaCondition
  | .test t => .test t
  | .negation (.negation c) => simplified c
  | .negation (.test t) => ((MediaTest.denied? t).map .test).getD (.negation (.test t))
  | .negation (.joined k a b) => .negation (.joined k (simplified a) (simplified b))
  | .joined k a b => .joined k (simplified a) (simplified b)

/-- A condition as it is written compactly. -/
def text (c : MediaCondition) : Text :=
  Condition.text writing c

end MediaCondition

/-- A media query. -/
structure MediaQuery where
  /-- `not` or `only`. -/
  qualifier : Option Text := none
  /-- `all` is left out. -/
  medium : Option Text := none
  condition : Option MediaCondition := none

namespace MediaQuery

/-- The media type a word stands for. -/
def mediumOf? (w : Text) : Option Text :=
  let w' := lower w
  if w' == "all".toList then none
  else if ["print".toList, "screen".toList].contains w' then some w'
  else some w

/-- The query of a media type with whatever follows it. -/
def ofMedium (qualifier : Option Text) (w : Text) :
    List (ConditionToken MediaTest) → Except QueryFault MediaQuery
  | [] => .ok { qualifier, medium := mediumOf? w }
  | .word a :: rest =>
    if eqIgnoreCase a "and".toList then
      (Condition.ofTokens false rest).map fun c =>
        { qualifier, medium := mediumOf? w, condition := some c }
    else .error .unreadable
  | _ => .error .unreadable

/-- The words in front of a media type. -/
def qualifiers : List Text :=
  ["not".toList, "only".toList]

/-- The query of a condition alone. -/
def ofCondition (tokens : List (ConditionToken MediaTest)) : Except QueryFault MediaQuery :=
  (Condition.ofTokens true tokens).map fun c => { condition := some c }

/-- The query that words and groups stand for. -/
def ofTokens : List (ConditionToken MediaTest) → Except QueryFault MediaQuery
  | .word q :: rest =>
    if qualifiers.contains (lower q) then
      match rest with
      | .word w :: rest' => ofMedium (some (lower q)) w rest'
      | _ => ofCondition (.word q :: rest)
    else ofMedium none q rest
  | tokens => ofCondition tokens

/-- Reading a query. -/
def read (cs : List Component) : Except QueryFault MediaQuery :=
  match Condition.tokensOf? MediaCondition.reading cs with
  | some tokens => ofTokens tokens
  | none => .error .unreadable

/-- Whether the query holds everywhere. -/
def trivial (q : MediaQuery) : Bool :=
  q.qualifier.isNone && q.medium.isNone && q.condition.isNone

/-- Whether a condition needs parentheses behind a media type. -/
def needsParens : MediaCondition → Bool
  | .joined .disjunction _ _ => true
  | _ => false

/-- A query as it is written compactly. -/
def text (q : MediaQuery) : Text :=
  let medium :=
    match q.medium with
    | some m => m
    | none => if q.qualifier.isSome || q.condition.isNone then "all".toList else []
  (match q.qualifier with
    | some word => word ++ [' ']
    | none => [])
    ++ medium
    ++ (match q.condition.map MediaCondition.simplified with
      | some c =>
        if medium.isEmpty then MediaCondition.text c
        else " and ".toList ++ Condition.wrap (needsParens c) (MediaCondition.text c)
      | none => [])

end MediaQuery

/-- The queries in pieces of text, up to one that is cut short. That has to be the
    last one. -/
def queriesOf? : List (List Component) → Option (List MediaQuery)
  | [] => some []
  | cs :: rest =>
    match MediaQuery.read cs with
    | .ok q => (queriesOf? rest).map (q :: ·)
    | .error .cutShort => if rest.isEmpty then some [] else none
    | .error .unreadable => none

/-- Reading queries between commas. -/
def readQueries? (cs : List Component) : Option (List MediaQuery) :=
  queriesOf? (cs.splitOnP Component.isComma)

/-- Queries as they are written compactly. No queries at all are never met. -/
def queriesText (queries : List MediaQuery) : Text :=
  if queries.isEmpty then "not all".toList
  else joinWith [','] (queries.map MediaQuery.text)

end Css

end ResponsiveImages
