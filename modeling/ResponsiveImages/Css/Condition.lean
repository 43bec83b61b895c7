import ResponsiveImages.Css.Component

/-!
# Conditions

Tests combined by the words `not`, `and` and `or`. Media queries and queries
of containers are such combinations. They differ in what a test is, and in how
it is read and written, so both are given along.

A condition has no precedence of its connectives: where two different ones
meet, or a denial is an operand, there have to be parentheses. Writing them
puts parentheses exactly there.

## Main definitions

* `Connective`, `Condition`: A combination of tests.
* `TestReading`: How the tests of a condition are read.
* `ConditionToken`, `Condition.tokensOf?`: The words and groups of a condition.
* `QueryFault`: Why a condition cannot be read.
* `Condition.ofTokens`: Reading words and groups.
* `TestWriting`, `Condition.text`: Writing.
-/

namespace ResponsiveImages

namespace Css

open Text

/-- A word that joins conditions. -/
inductive Connective where
  | conjunction
  | disjunction
  deriving DecidableEq, Repr

namespace Connective

/-- A connective as it is written. -/
def text : Connective → Text
  | conjunction => "and".toList
  | disjunction => "or".toList

/-- The connective a word stands for. -/
def ofWord? (w : Text) : Option Connective :=
  [conjunction, disjunction].find? fun k => eqIgnoreCase w k.text

end Connective

/-- A combination of tests. -/
inductive Condition (τ : Type) where
  | test (t : τ)
  | negation (c : Condition τ)
  | joined (k : Connective) (a b : Condition τ)

/-- A word or a group in parentheses. -/
inductive ConditionToken (τ : Type) where
  | word (w : Text)
  | group (c : Condition τ)

/-- How the tests of a condition are read. -/
structure TestReading (τ : Type) where
  /-- The test between two parentheses. -/
  between? : List Component → Option τ
  /-- The test that a function with its arguments stands for. -/
  ofFunction? : Text → List Component → Option τ

/-- How the tests of a condition are written. -/
structure TestWriting (τ : Type) where
  text : τ → Text
  /-- Whether a test needs parentheses as an operand of a connective or, without one, of a
      denial. -/
  needsParens : Option Connective → τ → Bool

/-- Why a condition cannot be read. -/
inductive QueryFault where
  /-- The text ends where something has to follow. -/
  | cutShort
  | unreadable
  deriving DecidableEq, Repr

namespace Condition

variable {τ : Type}

/-- The condition with further operands joined by one and the same connective. -/
def extend (k : Connective) :
    Condition τ → List (ConditionToken τ) → Except QueryFault (Condition τ)
  | c, [] => .ok c
  | c, .word w :: rest =>
    if Connective.ofWord? w = some k then
      match rest with
      | [] => .error .cutShort
      | .group d :: rest' => extend k (joined k c d) rest'
      | _ => .error .unreadable
    else .error .unreadable
  | _, _ => .error .unreadable

/-- The condition that words and groups stand for. Not every place allows a
    disjunction. -/
def ofTokens (disjunctions : Bool) :
    List (ConditionToken τ) → Except QueryFault (Condition τ)
  | [] => .error .cutShort
  | .word w :: rest =>
    if eqIgnoreCase w "not".toList then
      match rest with
      | [] => .error .cutShort
      | [.group c] => .ok (negation c)
      | _ => .error .unreadable
    else .error .unreadable
  | [.group c] => .ok c
  | .group c :: .word w :: rest =>
    match Connective.ofWord? w with
    | some k =>
      if k = .disjunction ∧ !disjunctions then .error .unreadable
      else extend k c (.word w :: rest)
    | none => .error .unreadable
  | _ => .error .unreadable

mutual

/-- The condition that a group in parentheses or a function stands for. -/
def ofComponent? (r : TestReading τ) : Component → Option (Condition τ)
  | .block .round body =>
    match (tokensOf? r body).map (ofTokens true) with
    | some (.ok c) => some c
    | _ => (r.between? body).map test
  | .function name arguments => (r.ofFunction? name arguments).map test
  | _ => none

/-- The words and groups that components stand for. -/
def tokensOf? (r : TestReading τ) : List Component → Option (List (ConditionToken τ))
  | [] => some []
  | c :: rest =>
    if c.isWhite then tokensOf? r rest
    else
      match c with
      | .token (.ident w) => (tokensOf? r rest).map (.word w :: ·)
      | _ =>
        match ofComponent? r c, tokensOf? r rest with
        | some d, some tokens => some (.group d :: tokens)
        | _, _ => none

end

/-- Reading a condition. -/
def read? (r : TestReading τ) (cs : List Component) : Option (Condition τ) :=
  match (tokensOf? r cs).map (ofTokens true) with
  | some (.ok c) => some c
  | _ => none

/-- Whether a condition needs parentheses as an operand of a connective or, without one, of a
    denial. -/
def needsParens (w : TestWriting τ) (parent : Option Connective) : Condition τ → Bool
  | test t => w.needsParens parent t
  | negation _ => true
  | joined k _ _ => parent != some k

/-- A text in parentheses if it needs them. -/
def wrap (needed : Bool) (s : Text) : Text :=
  if needed then '(' :: s ++ [')'] else s

/-- A condition as it is written compactly. -/
def text (w : TestWriting τ) : Condition τ → Text
  | test t => w.text t
  | negation c => "not ".toList ++ wrap (c.needsParens w none) (c.text w)
  | joined k a b =>
    wrap (a.needsParens w (some k)) (a.text w) ++ ' ' :: k.text
      ++ ' ' :: wrap (b.needsParens w (some k)) (b.text w)

end Condition

end Css

end ResponsiveImages
