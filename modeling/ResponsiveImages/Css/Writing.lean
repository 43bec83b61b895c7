import ResponsiveImages.Css.Token

/-!
# Writing Style Text

How names, strings and addresses are written. Style text comes in two
layouts: the ordinary one has a space after separators, and the compact one
leaves out all that can be left out. The compact layout is for old readers
too, so it avoids what is younger than they are.

A string is quoted with double quotes. An address is quoted too, except in
the compact layout, where quotes are only written if they make it shorter.

## Main definitions

* `Layout`: The ordinary and the compact layout.
* `identText`, `stringText`, `urlText`: Names, strings and addresses.
* `unitText`: A unit behind a number.
-/

namespace ResponsiveImages

namespace Css

open Text

/-- The two ways style text is laid out. -/
inductive Layout where
  | ordinary
  | compact
  deriving DecidableEq, Repr

namespace Layout

/-- Space that only the ordinary layout has. -/
def space : Layout → Text
  | ordinary => [' ']
  | compact => []

end Layout

/-- An operator with the space around it that only the ordinary layout has. -/
def Layout.operator (layout : Layout) (c : Char) : Text :=
  layout.space ++ c :: layout.space

/-- The hexadecimal escape of a character. -/
def hexEscape (c : Char) : Text :=
  '\\' :: Nat.toDigits 16 c.toNat ++ [' ']

/-- The characters that are only written as hexadecimal escapes. -/
def isControl (c : Char) : Bool :=
  (1 ≤ c.toNat && c.toNat ≤ 31) || c.toNat == 127

/-- One character of a name. -/
def nameChar (c : Char) : Text :=
  if c.toNat = 0 then [replacement]
  else if inName c then [c]
  else if isControl c then hexEscape c
  else ['\\', c]

/-- An identifier, escaped so that it reads back. -/
def identText : Text → Text
  | '-' :: '-' :: rest => '-' :: '-' :: rest.flatMap nameChar
  | ['-'] => ['\\', '-']
  | '-' :: c :: rest =>
    '-' :: (if c.isDigit then hexEscape c else nameChar c) ++ rest.flatMap nameChar
  | c :: rest => (if c.isDigit then hexEscape c else nameChar c) ++ rest.flatMap nameChar
  | [] => []

/-- A string in double quotes. -/
def stringText (s : Text) : Text :=
  '\x22' :: s.flatMap (fun c =>
    if c = '\x22' ∨ c = '\\' then ['\\', c]
    else if c.toNat = 0 then [replacement]
    else if isControl c then hexEscape c
    else [c]) ++ ['\x22']

/-- An address without quotes. -/
def bareUrlText (s : Text) : Text :=
  "url(".toList ++ s.flatMap (fun c =>
    if c.toNat ≤ 32 ∨ c.toNat = 127 then hexEscape c
    else if c = '(' ∨ c = ')' ∨ c = '\x22' ∨ c = '\x27' ∨ c = '\\' then ['\\', c]
    else [c]) ++ [')']

/-- An address in double quotes. -/
def quotedUrlText (s : Text) : Text :=
  "url(".toList ++ stringText s ++ [')']

/-- The number of bytes a text takes. -/
def byteLength (s : Text) : Nat :=
  s.foldl (fun size c => size + c.utf8Size) 0

/-- An address. -/
def urlText (layout : Layout) (s : Text) : Text :=
  match layout with
  | .ordinary => quotedUrlText s
  | .compact =>
    if byteLength (quotedUrlText s) < byteLength (bareUrlText s) then quotedUrlText s
    else bareUrlText s

/-- Whether a unit could be taken for the exponent of the number before it. -/
def looksLikeExponent : Text → Bool
  | [c] => c == 'e' || c == 'E'
  | c :: '-' :: _ => c == 'e' || c == 'E'
  | _ => false

/-- A unit as it is written. The first letter of one that looks like an exponent is
    escaped. -/
def unitText (unit : Text) : Text :=
  if looksLikeExponent unit then hexEscape 'e' ++ (unit.drop 1).flatMap nameChar
  else identText unit

end Css

end ResponsiveImages
