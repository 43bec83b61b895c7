import ResponsiveImages.Css.Component
import ResponsiveImages.Css.Numeral
import ResponsiveImages.Css.Writing

/-!
# Verbatim Text

Components written as they came, with their white space and their comments.
Only names, strings and numbers take the form they always have. A number keeps
its sign, and the sign that it was not whole.

## Main definitions

* `numeralText`, `percentNumeralText`: Numbers as they came.
* `Token.verbatim?`, `verbatim?`: Tokens and components as they came.
-/

namespace ResponsiveImages

namespace Css

open Text

/-- The opening bracket of a kind. -/
def Bracket.openText : Bracket → Text
  | round => ['(']
  | square => ['[']
  | curly => ['\x7b']

/-- The closing bracket of a kind. -/
def Bracket.closeText : Bracket → Text
  | round => [')']
  | square => [']']
  | curly => ['\x7d']

/-- Whether a number is not below zero, or is the zero without a minus sign. -/
def hasPlainSign (x : Float32) : Bool :=
  x.toBits < 0x80000000

/-- The value of a number with the signs it was written with: its plus, and that it was not
    whole. -/
def numeralText (n : Numeral) (x : Float32) : Text :=
  let s := singleText x
  (if n.signed && hasPlainSign x then ['+'] else []) ++ s
    ++ (if !n.whole && x.floor == x && !s.contains '.' && !s.contains 'e' then ".0".toList
      else [])

/-- A percentage with the signs it was written with. -/
def percentNumeralText (n : Numeral) : Text :=
  numeralText n ((n.value / 100.0).toFloat32 * 100) ++ ['%']

/-- A token as it came, or `none` for those that may stand nowhere. -/
def Token.verbatim? : Token → Option Text
  | .ident name => some (identText name)
  | .function name => some (identText name ++ ['('])
  | .atKeyword name => some ('@' :: identText name)
  | .hash isName name => some ('#' :: if isName then identText name else name.flatMap nameChar)
  | .string s => some (stringText s)
  | .badString => none
  | .url s => some (bareUrlText s)
  | .badUrl => none
  | .delim c => some [c]
  | .comparison c => some [c, '=']
  | .number n => some (numeralText n n.value.toFloat32)
  | .percentage n => some (percentNumeralText n)
  | .dimension n unit => some (numeralText n n.value.toFloat32 ++ unitText unit)
  | .white s => some s
  | .comment s => some ("/*".toList ++ s ++ "*/".toList)
  | .comma => some [',']
  | .colon => some [':']
  | .semicolon => some [';']
  | .opening b => some b.openText
  | .closing _ => none
  | .commentOpen => some "<!--".toList
  | .commentClose => some "-->".toList

mutual

/-- A component as it came. -/
def Component.verbatim? : Component → Option Text
  | .token t => t.verbatim?
  | .block b body => (verbatimFrom? body).map fun s => b.openText ++ s ++ b.closeText
  | .function name arguments =>
    (verbatimFrom? arguments).map fun s => identText name ++ '(' :: s ++ [')']

/-- Components as they came, however deep they are. -/
def verbatimFrom? : List Component → Option Text
  | [] => some []
  | c :: rest =>
    match c.verbatim?, verbatimFrom? rest with
    | some s, some s' => some (s ++ s')
    | _, _ => none

end

/-- How deep components may stand inside of each other. -/
def maximalDepth : Nat :=
  500

/-- Components as they came, unless they are too deep or hold what may stand nowhere. -/
def verbatim? (cs : List Component) : Option Text :=
  if maximalDepth < depths cs then none else verbatimFrom? cs

end Css

end ResponsiveImages
