import ResponsiveImages.Text.Basic

/-!
# Nesting of Brackets and Quotes

A directive separates its clauses with commas and its declarations with
semicolons, yet both characters also occur inside `url(...)`, inside braces
and inside quoted strings. A `Nesting` is what one has to remember about the
text read so far to tell these apart: how many parentheses and braces are
open, and which quote, if any.

Inside a quote only the same quote character means anything. A closing
bracket with nothing to close is ignored, so no text is ever refused; the
counters stop at zero instead.

`splitTopLevel` cuts a text at every separator that stands at top level, and
`splitBlock` finds the first brace block. A block that is never closed runs
to the end of the text, which `Block.after` records as `none`.

## Main definitions

* `Nesting`: Open parentheses, open braces and the open quote.
* `Nesting.step`: Reading one character.
* `Nesting.after`: Reading a whole text.
* `splitTopLevel`: The pieces between top-level separators.
* `Block`: A brace block with the text around it.
* `splitBlock`: The first brace block of a text.
* `unwrapBraces`: The inside of a text that is one brace block.
-/

namespace ResponsiveImages

/-- What is open after the text read so far. -/
structure Nesting where
  parens : Nat := 0
  braces : Nat := 0
  quote : Option Char := none
  deriving DecidableEq, Repr

namespace Nesting

/-- The two characters that open and close a quoted string. -/
def isQuote (c : Char) : Bool :=
  c = '\x22' || c = '\x27'

/-- Nothing is open. -/
def topLevel (n : Nesting) : Bool :=
  n.quote.isNone && n.parens == 0 && n.braces == 0

/-- Reading one character. Inside a quote all but the closing quote is inert,
    and a closing bracket with nothing to close changes nothing. -/
def step (n : Nesting) (c : Char) : Nesting :=
  match n.quote with
  | some q => if c = q then { n with quote := none } else n
  | none =>
    if isQuote c then { n with quote := some c }
    else if c = '(' then { n with parens := n.parens + 1 }
    else if c = ')' then { n with parens := n.parens - 1 }
    else if c = '{' then { n with braces := n.braces + 1 }
    else if c = '}' then { n with braces := n.braces - 1 }
    else n

/-- The nesting after reading a text. -/
def after (n : Nesting) (s : Text) : Nesting :=
  s.foldl step n

end Nesting

namespace Text

/-- Put a character in front of the first piece. -/
def consFirst (c : Char) : List Text → List Text
  | [] => [[c]]
  | piece :: pieces => (c :: piece) :: pieces

/-- The pieces of a text between the separators at top level, given what is
    open where the text starts. -/
def splitTopLevelFrom (sep : Char) : Nesting → Text → List Text
  | _, [] => [[]]
  | n, c :: cs =>
    if c = sep && n.topLevel then [] :: splitTopLevelFrom sep n cs
    else consFirst c (splitTopLevelFrom sep (n.step c) cs)

/-- The pieces of a text between the separators at top level. There is always
    at least one piece. -/
def splitTopLevel (sep : Char) (s : Text) : List Text :=
  splitTopLevelFrom sep {} s

/-- A brace block together with what stands before and after it. -/
structure Block where
  before : Text
  body : Text
  /-- The text after the closing brace, or `none` if there is no closing brace. -/
  after : Option Text
  deriving DecidableEq, Repr

/-- The text before the first top-level `{` and the text after it. -/
def openBrace? : Nesting → Text → Option (Text × Text)
  | _, [] => none
  | n, c :: cs =>
    if c = '{' && n.topLevel then some ([], cs)
    else (openBrace? (n.step c) cs).map fun (before, rest) => (c :: before, rest)

/-- The text up to the `}` that brings the nesting back to top level, and the
    text after that brace if it is there. -/
def closeBrace : Nesting → Text → Text × Option Text
  | _, [] => ([], none)
  | n, c :: cs =>
    let n' := n.step c
    if c = '}' && n'.topLevel then ([], some cs)
    else
      let (body, rest) := closeBrace n' cs
      (c :: body, rest)

/-- The first brace block of a text, if there is a `{` at top level. -/
def splitBlock (s : Text) : Option Block :=
  (openBrace? {} s).map fun (before, rest) =>
    let (body, after) := closeBrace (Nesting.step {} '{') rest
    { before, body, after }

/-- Whether the block is all of the text it was found in, up to white space
    in front. -/
def Block.whole (b : Block) : Bool :=
  blank b.before && (b.after.getD []).isEmpty

/-- The trimmed inside of a text that is a single brace block, and the trimmed
    text itself otherwise. -/
def unwrapBraces (s : Text) : Text :=
  match splitBlock (trim s) with
  | some b => if b.whole then trim b.body else trim s
  | none => trim s

end Text

end ResponsiveImages
