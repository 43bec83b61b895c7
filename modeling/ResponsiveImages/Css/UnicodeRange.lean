import ResponsiveImages.Css.RuleBody

/-!
# Ranges of Characters

The characters a font is used for, as ranges of code points. A range is
written as two numbers, as one, or as one whose last digits are question
marks, which stand for any digit.

The notation was never made for tokens: what is one range for its author may
be a name, a number with an exponent and some single characters. So the tokens
only tell how far a range reaches, and the range is read from its text.

## Main definitions

* `CharacterRange`: A range of code points.
* `CharacterRange.read?`: Reading a range.
* `CharacterRange.text`: Writing a range, with question marks where that is possible.
-/

namespace ResponsiveImages

namespace Css

open Text

/-- A range of code points. -/
structure CharacterRange where
  first : Nat
  last : Nat
  deriving DecidableEq, Repr

namespace CharacterRange

/-- The last code point. -/
def lastCode : Nat := 0x10FFFF

/-- The number of components of a range behind its first letter. -/
def length? (cs : List Component) : Option Nat :=
  match cs with
  | .token (.delim '+') :: .token (.ident _) :: rest => some (2 + marks rest)
  | .token (.delim '+') :: .token (.delim '?') :: rest => some (2 + marks rest)
  | .token (.dimension _ _) :: rest => some (1 + marks rest)
  | .token (.number _) :: .token (.dimension _ _) :: _ => some 2
  | .token (.number _) :: .token (.number _) :: _ => some 2
  | .token (.number _) :: rest => some (1 + marks rest)
  | _ => none
where
  /-- The number of question marks at the front. -/
  marks (cs : List Component) : Nat :=
    (cs.takeWhile fun c => c.isDelim '?').length

/-- At most six hexadecimal digits at the front of a text, and what is behind them. -/
def takeDigits? (s : Text) : Option (Text × Text) :=
  let digits := s.takeWhile isHex
  if digits.length ≤ 6 then some (digits, s.drop digits.length) else none

/-- The range between two code points. -/
def between? (first last : Nat) : Option CharacterRange :=
  if first ≤ last ∧ last ≤ lastCode then some ⟨first, last⟩ else none

/-- The range that a text behind its plus sign stands for. -/
def ofText? (s : Text) : Option CharacterRange := do
  let (digits, rest) ← takeDigits? s
  let marks := (rest.takeWhile (· == '?')).length
  let size := digits.length + marks
  let first := hexNumber digits
  if size = 0 ∨ 6 < size then none
  else
    match marks, rest.drop marks with
    | 0, [] => between? first first
    | 0, '-' :: rest =>
      match takeDigits? rest with
      | some (last, []) => if last.isEmpty then none else between? first (hexNumber last)
      | _ => none
    | marks, [] =>
      let scale := Nat.pow 16 marks
      between? (first * scale) ((first + 1) * scale - 1)
    | _, _ => none

/-- Reading a range. -/
def read? (cs : List Spelled) : Option CharacterRange :=
  match cs.dropWhile Spelled.isWhite with
  | letter :: rest =>
    if letter.component.isKeyword ['u'] then
      match length? (unspelled rest), writtenAs (rest.take ((length? (unspelled rest)).getD 0)) with
      | some n, '+' :: s => if (rest.drop n).all Spelled.isWhite then ofText? s else none
      | _, _ => none
    else none
  | [] => none

/-- A number in hexadecimal digits. -/
def hexText (n : Nat) : Text :=
  (Nat.toDigits 16 n).map Char.toUpper

/-- The number of last digits that may be anything in a range, among so many digits at most. Of
    the first code point all of these are the lowest digit, of the last one the highest. -/
def openDigits (r : CharacterRange) : Nat → Option Nat
  | 0 => none
  | n + 1 =>
    let scale := Nat.pow 16 n
    if r.first / scale % 16 = r.last / scale % 16 ∧ n ≠ 0 then openDigits r n
    else
      let scale := Nat.pow 16 (n + 1)
      if r.first % scale = 0 ∧ r.last % scale = scale - 1 then some (n + 1) else none

/-- A range as it is written. -/
def text (r : CharacterRange) : Text :=
  let plain := 'U' :: '+' :: hexText r.first
  if r.first = r.last then plain
  else
    match openDigits r 7 with
    | some n =>
      let front := r.first / Nat.pow 16 n
      'U' :: '+' :: (if front = 0 then [] else hexText front) ++ List.replicate n '?'
    | none => plain ++ '-' :: hexText r.last

/-- Reading ranges between commas. -/
def readAll? (cs : List Spelled) : Option (List CharacterRange) :=
  (cs.splitOnP fun c => c.component.isComma).mapM read?

end CharacterRange

end Css

end ResponsiveImages
