import ResponsiveImages.Css.Token

/-!
# Style Components

Tokens grouped by their brackets. A block or function that is still open at
the end of the text ends there. A closing bracket that matches none of the
open ones it stands in stays a token, which makes any value that holds it
unreadable.

## Main definitions

* `Component`: A token, a block, or a function with its arguments.
* `nest`: Grouping tokens.
* `components`: The components of a text.
* `Component.isWhite`, `Component.isComma`: Recognising separators.
* `depths`, `weights`: How deep components stand inside of each other, and how many
  there are.
* `significant`: Components without the white space between them.
-/

namespace ResponsiveImages

namespace Css

/-- A token, a block, or a function with its arguments. -/
inductive Component where
  | token (t : Token)
  | block (b : Bracket) (body : List Component)
  | function (name : Text) (arguments : List Component)

/-- The components up to a closing bracket, and the tokens after it. -/
def nestFrom : Nat → Option Bracket → List Token → List Component × List Token
  | 0, _, tokens => ([], tokens)
  | _ + 1, _, [] => ([], [])
  | fuel + 1, closer, t :: tokens =>
    match t with
    | .closing b =>
      if closer = some b then ([], tokens)
      else
        let (siblings, rest) := nestFrom fuel closer tokens
        (.token t :: siblings, rest)
    | .opening b =>
      let (body, rest) := nestFrom fuel (some b) tokens
      let (siblings, rest') := nestFrom fuel closer rest
      (.block b body :: siblings, rest')
    | .function name =>
      let (arguments, rest) := nestFrom fuel (some .round) tokens
      let (siblings, rest') := nestFrom fuel closer rest
      (.function name arguments :: siblings, rest')
    | _ =>
      let (siblings, rest) := nestFrom fuel closer tokens
      (.token t :: siblings, rest)

/-- The components that tokens form. -/
def nest (tokens : List Token) : List Component :=
  (nestFrom (tokens.length + 1) none tokens).1

/-- The components of a text. -/
def components (s : Text) : List Component :=
  nest (tokenize s)

namespace Component

/-- Whether a component is white space. -/
def isSpace : Component → Bool
  | token (.white _) => true
  | _ => false

/-- Whether a component is a comment. -/
def isComment : Component → Bool
  | token (.comment _) => true
  | _ => false

/-- Whether a component is white space or a comment. Nearly everywhere these are the
    same. -/
def isWhite (c : Component) : Bool :=
  c.isSpace || c.isComment

/-- Whether a component is a comma. -/
def isComma : Component → Bool
  | token .comma => true
  | _ => false

/-- Whether a component is a semicolon. -/
def isSemicolon : Component → Bool
  | token .semicolon => true
  | _ => false

/-- Whether a component is a given single character. -/
def isDelim (c : Char) : Component → Bool
  | token (.delim d) => d == c
  | _ => false

/-- Whether a component is a given keyword in any case. -/
def isKeyword (k : Text) : Component → Bool
  | token (.ident name) => Text.eqIgnoreCase name k
  | _ => false

end Component

mutual

/-- The depth to which functions and blocks stand inside of a component. -/
def Component.depth : Component → Nat
  | .token _ => 0
  | .block _ body => depths body + 1
  | .function _ arguments => depths arguments + 1

/-- The depth to which functions and blocks stand inside of components. -/
def depths : List Component → Nat
  | [] => 0
  | c :: rest => max c.depth (depths rest)

end

mutual

/-- The number of components in a component. -/
def Component.weight : Component → Nat
  | .token _ => 1
  | .block _ body => 1 + weights body
  | .function _ arguments => 1 + weights arguments

/-- The number of components in some components. -/
def weights : List Component → Nat
  | [] => 0
  | c :: rest => c.weight + weights rest

end

/-- The words that stand for no value of their own in any property. -/
def wideWords : List Text :=
  ["initial".toList, "inherit".toList, "unset".toList, "default".toList, "revert".toList,
    "revert-layer".toList]

/-- Components without the white space between them. -/
def significant (cs : List Component) : List Component :=
  cs.filter fun c => !c.isWhite

end Css

end ResponsiveImages
