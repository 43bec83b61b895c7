import ResponsiveImages.Text.Basic

/-!
# Style Tokens

Style text is cut into tokens by the rules of CSS. A token is read off the
front of the text by looking at most three characters ahead; a comment is one
token, and so is white space of any length.

Nothing is refused at this level. A string that is broken by a line end and
an address with a stray quote become tokens of their own (`badString`,
`badUrl`), which no value may contain.

Reading a token consumes at least one character, so the length of the text
bounds the number of steps.

## Main definitions

* `Bracket`: The three kinds of brackets.
* `Numeral`: A number as it was written.
* `Token`: A style token.
* `readEscape`, `readName`, `readString`, `readUrl`, `readNumeral`: Reading
  the lexical forms.
* `Token.readFrom`: Reading one token.
* `lex`, `tokenize`: The tokens of a text.
-/

namespace ResponsiveImages

namespace Css

open Text

/-- A kind of brackets. -/
inductive Bracket where
  | round
  | square
  | curly
  deriving DecidableEq, Repr

/-- A number as it was written. -/
structure Numeral where
  value : Float
  /-- Neither a point nor an exponent was written. -/
  whole : Bool
  /-- A sign was written. -/
  signed : Bool

/-- A style token. -/
inductive Token where
  | ident (name : Text)
  | function (name : Text)
  | atKeyword (name : Text)
  /-- A name behind a hash sign, and whether it could stand without that. -/
  | hash (isName : Bool) (name : Text)
  | string (s : Text)
  | badString
  | url (s : Text)
  | badUrl
  | delim (c : Char)
  /-- One of the two-character operators that end in an equals sign. -/
  | comparison (c : Char)
  | number (n : Numeral)
  | percentage (n : Numeral)
  | dimension (n : Numeral) (unit : Text)
  | white (s : Text)
  /-- A comment, which separates other tokens. -/
  | comment (s : Text)
  | comma
  | colon
  | semicolon
  | opening (b : Bracket)
  | closing (b : Bracket)
  /-- An opening comment mark of a markup document. -/
  | commentOpen
  /-- A closing comment mark of a markup document. -/
  | commentClose

/-- The line ends of style text. -/
def isNewline (c : Char) : Bool :=
  c == '\n' || c == '\r' || c == '\x0c'

/-- The white space of style text. -/
def isWhite (c : Char) : Bool :=
  c == ' ' || c == '\t' || isNewline c

/-- The replacement for characters that cannot be represented. -/
def replacement : Char :=
  '\uFFFD'

/-- The characters a name may begin with. -/
def startsName (c : Char) : Bool :=
  c.isAlpha || c == '_' || c.toNat == 0 || 128 ≤ c.toNat

/-- The characters a name may consist of. -/
def inName (c : Char) : Bool :=
  startsName c || c.isDigit || c == '-'

/-- Whether a backslash with this text behind it is an escape. -/
def opensEscape : Text → Bool
  | [] => true
  | c :: _ => !isNewline c

/-- Whether a text begins with an identifier. -/
def opensIdent : Text → Bool
  | [] => false
  | '-' :: rest =>
    match rest with
    | [] => false
    | '-' :: _ => true
    | '\\' :: rest' => opensEscape rest'
    | c :: _ => startsName c
  | '\\' :: rest => opensEscape rest
  | c :: _ => startsName c

/-- Whether a text begins with a number. -/
def opensNumber : Text → Bool
  | [] => false
  | c :: rest =>
    if c = '+' ∨ c = '-' then
      match rest with
      | '.' :: d :: _ => d.isDigit
      | d :: _ => d.isDigit
      | [] => false
    else if c = '.' then
      match rest with
      | d :: _ => d.isDigit
      | [] => false
    else c.isDigit

/-- The value of a hexadecimal digit. -/
def hexValue (c : Char) : Nat :=
  if c.isDigit then c.toNat - 48
  else if 'a' ≤ c then c.toNat - 87
  else c.toNat - 55

/-- The number a run of hexadecimal digits stands for. -/
def hexNumber (s : Text) : Nat :=
  s.foldl (fun n d => 16 * n + hexValue d) 0

/-- Whether a character is a hexadecimal digit. -/
def isHex (c : Char) : Bool :=
  c.isDigit || ('a' ≤ c && c ≤ 'f') || ('A' ≤ c && c ≤ 'F')

/-- The character with a code point, or the replacement if there is none. -/
def charOfCode (n : Nat) : Char :=
  if n = 0 ∨ (0xD800 ≤ n ∧ n ≤ 0xDFFF) ∨ 0x10FFFF < n then replacement else Char.ofNat n

/-- One white space character skipped, a carriage return together with its line
    feed. -/
def skipOneWhite : Text → Text
  | '\r' :: '\n' :: rest => rest
  | c :: rest => if isWhite c then rest else c :: rest
  | [] => []

/-- The character an escape stands for and the text after it, given the text
    after the backslash. -/
def readEscape (s : Text) : Char × Text :=
  match s with
  | [] => (replacement, [])
  | c :: rest =>
    if isHex c then
      let digits := (s.take 6).takeWhile isHex
      (charOfCode (hexNumber digits), skipOneWhite (s.drop digits.length))
    else (if c.toNat = 0 then replacement else c, rest)

/-- A name and the text after it. -/
def readName : Nat → Text → Text × Text
  | 0, s => ([], s)
  | _ + 1, [] => ([], [])
  | fuel + 1, c :: rest =>
    if inName c then
      let (name, rest') := readName fuel rest
      ((if c.toNat = 0 then replacement else c) :: name, rest')
    else if c = '\\' && opensEscape rest then
      let (e, rest') := readEscape rest
      let (name, rest'') := readName fuel rest'
      (e :: name, rest'')
    else ([], c :: rest)

/-- The contents of a string up to its closing quote and the text after it. A
    line end breaks the string, which is then `none`. -/
def readString (quote : Char) : Nat → Text → Option Text × Text
  | 0, s => (some [], s)
  | _ + 1, [] => (some [], [])
  | fuel + 1, c :: rest =>
    if c = quote then (some [], rest)
    else if isNewline c then (none, c :: rest)
    else if c = '\\' then
      match rest with
      | [] => (some [], [])
      | d :: _ =>
        if isNewline d then readString quote fuel (skipOneWhite rest)
        else
          let (e, rest') := readEscape rest
          let (s, rest'') := readString quote fuel rest'
          (s.map (e :: ·), rest'')
    else
      let (s, rest') := readString quote fuel rest
      (s.map ((if c.toNat = 0 then replacement else c) :: ·), rest')

/-- The text after the parenthesis that ends a broken address. -/
def skipBadUrl : Nat → Text → Text
  | 0, s => s
  | _ + 1, [] => []
  | fuel + 1, c :: rest =>
    if c = ')' then rest
    else if c = '\\' then skipBadUrl fuel (rest.drop 1)
    else skipBadUrl fuel rest

/-- The characters that break an address. -/
def breaksUrl (c : Char) : Bool :=
  c == '\x22' || c == '\x27' || c == '(' || (1 ≤ c.toNat && c.toNat ≤ 8) || c.toNat == 11 ||
    (14 ≤ c.toNat && c.toNat ≤ 31) || c.toNat == 127

/-- The contents of an unquoted address and the text after it, given the text
    after its leading white space. A broken address is `none`. -/
def readUrl : Nat → Text → Option Text × Text
  | 0, s => (some [], s)
  | _ + 1, [] => (some [], [])
  | fuel + 1, c :: rest =>
    if c = ')' then (some [], rest)
    else if isWhite c then
      match rest.dropWhile isWhite with
      | [] => (some [], [])
      | ')' :: rest' => (some [], rest')
      | rest' => (none, skipBadUrl fuel rest')
    else if breaksUrl c then (none, skipBadUrl fuel rest)
    else if c = '\\' then
      if opensEscape rest then
        let (e, rest') := readEscape rest
        let (s, rest'') := readUrl fuel rest'
        (s.map (e :: ·), rest'')
      else (none, skipBadUrl fuel rest)
    else
      let (s, rest') := readUrl fuel rest
      (s.map ((if c.toNat = 0 then replacement else c) :: ·), rest')

/-- The number a run of digits stands for, digit by digit. -/
def floatOfDigits (s : Text) : Float :=
  s.foldl (fun x c => x * 10.0 + Float.ofNat (c.toNat - 48)) 0.0

/-- The fraction a run of digits after the point stands for. -/
def fractionOfDigits (s : Text) : Float :=
  (s.foldl (fun (x, place) c => (x + Float.ofNat (c.toNat - 48) * place, place * 0.1))
    ((0.0 : Float), (0.1 : Float))).1

/-- An exponent with at least one digit and the text after it. -/
def readExponentDigits (sign : Float) (s : Text) : Option (Float × Text) :=
  let digits := s.takeWhile Char.isDigit
  if digits.isEmpty then none
  else some (sign * floatOfDigits digits, s.dropWhile Char.isDigit)

/-- The exponent a number ends with and the text after it, if there is one. -/
def readExponent : Text → Option (Float × Text)
  | c :: rest =>
    if c = 'e' ∨ c = 'E' then
      match rest with
      | '+' :: d :: rest' => readExponentDigits 1.0 (d :: rest')
      | '-' :: d :: rest' => readExponentDigits (-1.0) (d :: rest')
      | rest' => readExponentDigits 1.0 rest'
    else none
  | [] => none

/-- A number and the text after it. -/
def readNumeral (s : Text) : Numeral × Text :=
  let (signed, sign, s) : Bool × Float × Text :=
    match s with
    | '-' :: rest => (true, -1.0, rest)
    | '+' :: rest => (true, 1.0, rest)
    | _ => (false, 1.0, s)
  let integral := floatOfDigits (s.takeWhile Char.isDigit)
  let s := s.dropWhile Char.isDigit
  let (fractional, whole, s) : Float × Bool × Text :=
    match s with
    | '.' :: d :: rest =>
      if d.isDigit then
        (fractionOfDigits ((d :: rest).takeWhile Char.isDigit), false,
          (d :: rest).dropWhile Char.isDigit)
      else (0.0, true, s)
    | _ => (0.0, true, s)
  let value := sign * (integral + fractional)
  match readExponent s with
  | some (exponent, rest) => (⟨value * Float.pow 10.0 exponent, false, signed⟩, rest)
  | none => (⟨value, whole, signed⟩, s)

namespace Token

/-- A token that begins with a number. -/
def readNumeric (s : Text) : Token × Text :=
  let (n, rest) := readNumeral s
  match rest with
  | '%' :: rest' => (percentage n, rest')
  | _ =>
    if opensIdent rest then
      let (unit, rest') := readName rest.length rest
      (dimension n unit, rest')
    else (number n, rest)

/-- A token that begins with a name. An address is one token unless its contents
    are quoted. -/
def readIdent (s : Text) : Token × Text :=
  let (name, rest) := readName s.length s
  match rest with
  | '(' :: rest' =>
    if eqIgnoreCase name "url".toList then
      match rest'.dropWhile isWhite with
      | '\x22' :: _ => (function name, rest')
      | '\x27' :: _ => (function name, rest')
      | inner =>
        match readUrl inner.length inner with
        | (some address, rest'') => (url address, rest'')
        | (none, rest'') => (badUrl, rest'')
    else (function name, rest')
  | _ => (ident name, rest)

/-- The brackets and separators that are tokens by themselves. -/
def punctuation? (c : Char) : Option Token :=
  if c = '(' then some (opening .round)
  else if c = ')' then some (closing .round)
  else if c = '[' then some (opening .square)
  else if c = ']' then some (closing .square)
  else if c = '{' then some (opening .curly)
  else if c = '}' then some (closing .curly)
  else if c = ',' then some comma
  else if c = ':' then some colon
  else if c = ';' then some semicolon
  else none

/-- A string token, given the text after its opening quote. -/
def readQuoted (quote : Char) (s : Text) : Token × Text :=
  match readString quote s.length s with
  | (some contents, rest) => (string contents, rest)
  | (none, rest) => (badString, rest)

/-- The first token of a text with first character `c`. -/
def readFrom (c : Char) (rest : Text) : Token × Text :=
  if isWhite c then (white (c :: rest.takeWhile isWhite), rest.dropWhile isWhite)
  else if c = '\x22' || c = '\x27' then readQuoted c rest
  else if opensNumber (c :: rest) then readNumeric (c :: rest)
  else
    match punctuation? c with
    | some t => (t, rest)
    | none =>
      if afterPrefix? "-->".toList (c :: rest) ≠ none then (commentClose, rest.drop 2)
      else if opensIdent (c :: rest) then readIdent (c :: rest)
      else if c = '#' then
        match rest with
        | d :: _ =>
          if inName d || opensIdent rest then
            let (name, rest') := readName rest.length rest
            (hash (opensIdent rest) name, rest')
          else (delim c, rest)
        | [] => (delim c, rest)
      else if c = '@' && opensIdent rest then
        let (name, rest') := readName rest.length rest
        (atKeyword name, rest')
      else if c = '<' && afterPrefix? "!--".toList rest ≠ none then (commentOpen, rest.drop 3)
      else
        match rest with
        | '=' :: rest' =>
          if c = '$' || c = '*' || c = '^' || c = '|' || c = '~' then (comparison c, rest')
          else (delim c, rest)
        | _ => (delim c, rest)

end Token

/-- The contents of a comment and the text after its end. -/
def readComment : Text → Text × Text
  | [] => ([], [])
  | '*' :: '/' :: rest => ([], rest)
  | c :: rest =>
    let (s, rest') := readComment rest
    (c :: s, rest')

/-- The first token of a text that is not empty, and the text after it. -/
def takeToken (c : Char) (rest : Text) : Token × Text :=
  match c, rest with
  | '/', '*' :: rest' =>
    let (s, rest'') := readComment rest'
    (.comment s, rest'')
  | c, rest => Token.readFrom c rest

/-- The tokens of a text, each with the text from there on, up to a number of steps. -/
def lexFrom : Nat → Text → List (Token × Text)
  | 0, _ => []
  | _ + 1, [] => []
  | fuel + 1, c :: rest =>
    let (t, rest') := takeToken c rest
    (t, c :: rest) :: lexFrom fuel rest'

/-- The tokens of a text, each with the text from there on. -/
def lex (s : Text) : List (Token × Text) :=
  lexFrom s.length s

/-- The tokens of a text. -/
def tokenize (s : Text) : List Token :=
  (lex s).map Prod.fst

end Css

end ResponsiveImages
