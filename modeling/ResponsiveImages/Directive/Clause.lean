import ResponsiveImages.Text.Nesting
import ResponsiveImages.Media.Query

/-!
# Clauses of a Directive

A directive is a comma-separated list of clauses. A clause is a block of
declarations, and a conditional clause has a size test in front of it:

    { src: url(s.png) }, (min-width: 480px) { src: url(m.png) }

Every top-level comma starts a new clause, so a directive has as many clauses
as it has segments and an empty one has a single empty clause. Nothing is
ever refused; a segment that does not look like a clause is taken as the
declarations of a plain one.

A clause counts as conditional if it opens with a parenthesis followed by
`min` or `max`. Only the tests of conditional clauses are converted to ems,
and only if they are a plain conjunction of features.

## Main definitions

* `Units`: How sizes in tests are expressed.
* `Clause`: A test, if there is one, and the text of the declarations.
* `convertUnits`: A test with its sizes restated.
* `opensCondition`: Whether a segment is a conditional clause.
* `Clause.ofSegment`: Reading one segment.
* `readDirective`: The clauses of a directive.
-/

namespace ResponsiveImages

open Text

/-- How sizes in the tests of a directive are expressed in the style sheet. -/
inductive Units where
  /-- Tests stay as they are written. -/
  | pixels
  /-- Whole pixel sizes are divided by the base and written in ems. -/
  | ems (base : Nat)
  deriving DecidableEq, Repr

/-- One comma-separated segment of a directive. -/
structure Clause where
  /-- The test in front of the block, or `none` for a plain clause. -/
  mediaTest : Option Text
  /-- The text between the braces. -/
  declarations : Text
  deriving DecidableEq, Repr

/-- A test with its sizes in the given units. A test that is not a conjunction
    of features stays as it is. -/
def convertUnits (units : Units) (test : Text) : Text :=
  match units with
  | .pixels => test
  | .ems base =>
    match condition? test with
    | some features =>
      joinWith " and ".toList (features.map fun f => (f.toEm base).text)
    | none => test

/-- Whether a segment opens with a parenthesis followed by `min` or `max`. -/
def opensCondition : Text → Bool
  | '(' :: rest =>
    let head := (trimStart rest).take 3
    eqIgnoreCase head "min".toList || eqIgnoreCase head "max".toList
  | _ => false

namespace Clause

/-- Whether the clause depends on a test. -/
def conditional (c : Clause) : Bool :=
  c.mediaTest.isSome

/-- Reading a conditional segment. Without a block it has no declarations. -/
def ofCondition (units : Units) (s : Text) : Clause :=
  match splitBlock s with
  | some b => ⟨some (convertUnits units (trim b.before)), trim b.body⟩
  | none => ⟨some (convertUnits units (trim s)), []⟩

/-- Reading one segment of a directive. -/
def ofSegment (units : Units) (segment : Text) : Clause :=
  let s := trimStart segment
  if opensCondition s then ofCondition units s else ⟨none, unwrapBraces s⟩

end Clause

/-- The clauses of a directive, in order. -/
def readDirective (units : Units) (directive : Text) : List Clause :=
  (splitTopLevel ',' directive).map (Clause.ofSegment units)

end ResponsiveImages
