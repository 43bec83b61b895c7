import ResponsiveImages.Html.CharacterNames

/-!
# Character References

A reference stands for one or two characters. It is an ampersand followed by
a number sign and a code point, or by a name. A text that only looks like a
reference stands for itself, ampersand and all.

A name runs over letters and digits. If it is ended by a semicolon and known,
the whole of it counts. Otherwise the longest beginning counts that is one of
the names that need no semicolon; in an attribute value not even that does if
a letter, a digit or an equals sign follows, so that addresses with query
strings stay as they are.

Code points that are no characters are replaced, and the ones between 80 and
9F, which hold no printable characters, are read as in the Windows code page
1252.

## Main definitions

* `namedCharacters`, `unended`: The tables of names.
* `characterOf`: The character of a numeric reference.
* `readReference?`: Reading a reference.
* `failedReference`, `surplus`: What is read on the way and given back.
* `decodeReferences`: A text with its references replaced.
-/

namespace ResponsiveImages

namespace Html

open Text

/-- The value of a hexadecimal digit. -/
def hexDigit? (c : Char) : Option Nat :=
  if c.isDigit then some (c.toNat - 48)
  else if 'a' ≤ c ∧ c ≤ 'f' then some (c.toNat - 87)
  else if 'A' ≤ c ∧ c ≤ 'F' then some (c.toNat - 55)
  else none

/-- Whether a character is a hexadecimal digit. -/
def isHexDigit (c : Char) : Bool :=
  (hexDigit? c).isSome

/-- The number a run of hexadecimal digits stands for. -/
def natOfHex (s : Text) : Nat :=
  s.foldl (fun n c => 16 * n + (hexDigit? c).getD 0) 0

/-- The characters an entry of the table names stand for. -/
def entryOf (entry : Text) : Text × Text :=
  (entry.takeWhile (· != ':'),
    (((entry.dropWhile (· != ':')).drop 1).splitOn '+').map fun code =>
      Char.ofNat (natOfHex code))

/-- The names of characters with the characters. -/
def namedCharacters : List (Text × Text) :=
  (characterNames.flatMap fun line => words line.toList).map entryOf

/-- The names that need no semicolon. -/
def unended : List Text :=
  unendedNames.flatMap fun line => words line.toList

/-- The replacement for what is no character. -/
def replacement : Char :=
  '\uFFFD'

/-- The characters of the code page 1252 from 80 to 9F. A zero stands for a place
    that is not assigned. -/
def codePage : List Nat :=
  [0x20AC, 0, 0x201A, 0x0192, 0x201E, 0x2026, 0x2020, 0x2021, 0x02C6, 0x2030, 0x0160, 0x2039,
    0x0152, 0, 0x017D, 0, 0, 0x2018, 0x2019, 0x201C, 0x201D, 0x2022, 0x2013, 0x2014, 0x02DC,
    0x2122, 0x0161, 0x203A, 0x0153, 0, 0x017E, 0x0178]

/-- The character a numeric reference stands for. -/
def characterOf (n : Nat) : Char :=
  if n = 0 ∨ 0x10FFFF < n ∨ (0xD800 ≤ n ∧ n ≤ 0xDFFF) then replacement
  else if 0x80 ≤ n ∧ n ≤ 0x9F then
    let assigned := (codePage[n - 0x80]?).getD 0
    Char.ofNat (if assigned = 0 then n else assigned)
  else Char.ofNat n

/-- A text without the semicolon it may begin with. -/
def dropSemicolon : Text → Text
  | ';' :: rest => rest
  | s => s

/-- A numeric reference, given the text after the number sign. -/
def readNumeric? (s : Text) : Option (Text × Text) :=
  let (isDigit, value, s) : (Char → Bool) × (Text → Nat) × Text :=
    match s with
    | 'x' :: rest => (isHexDigit, natOfHex, rest)
    | 'X' :: rest => (isHexDigit, natOfHex, rest)
    | _ => (Char.isDigit, natOfDigits, s)
  let digits := s.takeWhile isDigit
  if digits.isEmpty then none
  else some ([characterOf (value digits)], dropSemicolon (s.dropWhile isDigit))

/-- Whether a name that was not ended by a semicolon is part of a longer word of
    an attribute value. -/
def continues : Text → Bool
  | [] => false
  | c :: _ => c == '=' || c.isAlphanum

/-- The longest of the names that need no semicolon which a text begins with. -/
def longestUnended? (s : Text) : Option Text :=
  (unended.filter fun name => name.isPrefixOf s).foldl
    (fun best name =>
      match best with
      | some b => if b.length < name.length then some name else best
      | none => some name)
    none

/-- A named reference that is not ended by a semicolon. -/
def readUnended? (inAttribute : Bool) (s : Text) : Option (Text × Text) :=
  (longestUnended? s).bind fun name =>
    let rest := s.drop name.length
    if inAttribute && continues rest then none
    else (namedCharacters.lookup name).map fun cs => (cs, rest)

/-- A named reference. -/
def readNamed? (inAttribute : Bool) (s : Text) : Option (Text × Text) :=
  match s.dropWhile Char.isAlphanum with
  | ';' :: rest =>
    match namedCharacters.lookup (s.takeWhile Char.isAlphanum) with
    | some cs => some (cs, rest)
    | none => readUnended? inAttribute s
  | _ => readUnended? inAttribute s

/-- The characters a reference stands for and the text after it, given the text
    after the ampersand. -/
def readReference? (inAttribute : Bool) : Text → Option (Text × Text)
  | '#' :: rest => readNumeric? rest
  | s => readNamed? inAttribute s

/-- Whether a reference is a number that no semicolon ends, given the text after the
    ampersand. -/
def isUnendedNumber : Text → Bool
  | '#' :: rest =>
    match readNumeric? rest with
    | some (_, rest') => (rest.take (rest.length - rest'.length)).getLast? != some ';'
    | none => false
  | _ => false

/-- The text that is read to see that no reference begins, given the text after the
    ampersand. A name is read together with the character that ends it. -/
def failedReference : Text → Text
  | '#' :: c :: _ => if c = 'x' ∨ c = 'X' then ['#', c] else ['#']
  | ['#'] => ['#']
  | s =>
    let name := s.takeWhile Char.isAlphanum
    if name.isEmpty then [] else s.take (name.length + 1)

/-- The number of characters of a text that some of the names begin with. -/
def commonLength : List Text → Text → Nat
  | _, [] => 0
  | names, c :: rest =>
    let rests := (names.filter fun name => name.head? == some c).map List.tail
    if rests.isEmpty then 0 else commonLength rests rest + 1

/-- The names of characters with the semicolon that ends them. -/
def endedNames : List Text :=
  namedCharacters.map fun entry => entry.1 ++ [';']

/-- The text behind a reference that is read to see that no longer name matches,
    given the text after the ampersand and the text after the reference. -/
def surplus : Text → Text → Text
  | '#' :: _, _ => []
  | s, rest => (s.take (commonLength endedNames s + 1)).drop (s.length - rest.length)

/-- A text with its references replaced, up to a number of steps. -/
def decodeFrom (inAttribute : Bool) : Nat → Text → Text
  | 0, s => s
  | _ + 1, [] => []
  | fuel + 1, c :: rest =>
    if c = '&' then
      match readReference? inAttribute rest with
      | some (cs, rest') => cs ++ decodeFrom inAttribute fuel rest'
      | none => c :: decodeFrom inAttribute fuel rest
    else c :: decodeFrom inAttribute fuel rest

/-- A text with its references replaced. -/
def decodeReferences (inAttribute : Bool) (s : Text) : Text :=
  decodeFrom inAttribute s.length s

end Html

end ResponsiveImages
