import ResponsiveImages.Html.Reference
import ResponsiveImages.Document.Basic

/-!
# Markup Tokens

Markup is cut into tokens: tags, comments, document types and chunks of text.
How text is read depends on the element it stands in (`TextMode`), which is
for the caller to keep track of: inside `title` and `textarea` only references
are special, inside `style` and its like nothing is, and inside `script`
comment marks hide end tags. All of these end at the matching end tag.

Ordinary text comes in chunks. A line end is a chunk of its own and so is
every character of a reference. What had to be read ahead to find the end of
something, and the one character that follows a carriage return or a
less-than sign without a meaning, are not joined with the text after them. A
zero character is a token by itself, since most places drop it.

A tag without a name and a number reference without its semicolon are mistakes,
which are tokens of their own, since a line feed behind a mistake is kept where
it would be dropped behind a tag.

Whatever a tag lacks at the end of the text is gone: a tag that is not closed
is dropped, while comments and document types end with the text.

## Main definitions

* `Tag`, `Token`: Tokens.
* `TextMode`: How text is read.
* `readAttributes`: The attributes of a tag.
* `readComment`, `readDoctype`: Comments and document types.
* `readMarkup`: Reading what a less-than sign begins.
* `readRaw`: Reading up to a matching end tag.
* `Token.next`: The next tokens of a text.
-/

namespace ResponsiveImages

namespace Html

open Text

/-- A tag. -/
structure Tag where
  name : Text
  attributes : Attributes := []
  deriving DecidableEq, Repr

/-- A document type with what it says about the layout mode. -/
structure DoctypeToken where
  doctype : Doctype := ⟨[], [], []⟩
  /-- The declaration is malformed. -/
  malformed : Bool := false
  /-- A system identifier was written. -/
  hasSystemId : Bool := false
  deriving DecidableEq, Repr

/-- A token of markup. -/
inductive Token where
  | text (s : Text)
  /-- A zero character in ordinary text. -/
  | null
  | startTag (t : Tag)
  | endTag (t : Tag)
  | comment (s : Text)
  | doctype (d : DoctypeToken)
  /-- A mistake that stands for nothing. -/
  | fault
  /-- The end of the text. -/
  | finish
  deriving DecidableEq, Repr

/-- How text is read. -/
inductive TextMode where
  | ordinary
  /-- References are read, up to the end tag of the element. -/
  | escapable (tag : Text)
  /-- Nothing is special, up to the end tag of the element. -/
  | raw (tag : Text)
  /-- Like raw text, but comment marks hide end tags. -/
  | script
  /-- Nothing is special any more. -/
  | plain
  deriving DecidableEq, Repr

/-- The white space of markup. -/
def isSpace (c : Char) : Bool :=
  c == ' ' || c == '\t' || c == '\n' || c == '\x0c' || c == '\r'

/-- A text with every line end a single line feed. -/
def unifyLineEnds : Text → Text
  | [] => []
  | '\r' :: '\n' :: rest => '\n' :: unifyLineEnds rest
  | '\r' :: rest => '\n' :: unifyLineEnds rest
  | c :: rest => c :: unifyLineEnds rest

/-- A text with its zero characters replaced. -/
def replaceNulls (s : Text) : Text :=
  s.map fun c => if c.toNat = 0 then replacement else c

/-- A text that is taken as it is, apart from line ends and zero characters. -/
def literalText (s : Text) : Text :=
  replaceNulls (unifyLineEnds s)

/-- The characters of a tag name. -/
def inTagName (c : Char) : Bool :=
  !(isSpace c || c == '/' || c == '>')

/-- The characters of an attribute name after its first one. -/
def inAttributeName (c : Char) : Bool :=
  inTagName c && c != '='

/-- The characters of a value without quotes. -/
def inBareValue (c : Char) : Bool :=
  !(isSpace c || c == '>')

/-- The value of an attribute and the text after it, given the text after the
    equals sign. -/
def readValue (s : Text) : Text × Text :=
  match s.dropWhile isSpace with
  | [] => ([], [])
  | c :: rest =>
    if c = '\x22' ∨ c = '\x27' then
      (rest.takeWhile (· != c), (rest.dropWhile (· != c)).drop 1)
    else ((c :: rest).takeWhile inBareValue, (c :: rest).dropWhile inBareValue)

/-- The attributes with one more, unless its name is there already. -/
def addAttribute (attributes : Attributes) (name value : Text) : Attributes :=
  if (attributes.lookup name).isSome then attributes
  else attributes ++ [(name, replaceNulls (decodeReferences true (unifyLineEnds value)))]

/-- The attributes of a tag and the text after the tag. There is none if the text
    ends first. -/
def readAttributes : Nat → Attributes → Text → Option (Attributes × Text)
  | 0, _, _ => none
  | _ + 1, _, [] => none
  | fuel + 1, attributes, c :: rest =>
    if isSpace c || c == '/' then readAttributes fuel attributes rest
    else if c = '>' then some (attributes, rest)
    else
      let name := lower (replaceNulls (c :: rest.takeWhile inAttributeName))
      let s := rest.dropWhile inAttributeName
      match s.dropWhile isSpace with
      | '=' :: s' =>
        let (value, s'') := readValue s'
        readAttributes fuel (addAttribute attributes name value) s''
      | _ => readAttributes fuel (addAttribute attributes name []) s

/-- A tag and the text after it, given the text after its opening mark. -/
def readTag? (s : Text) : Option (Tag × Text) :=
  let name := lower (replaceNulls (s.takeWhile inTagName))
  (readAttributes (s.length + 1) [] (s.dropWhile inTagName)).map
    fun (attributes, rest) => (⟨name, attributes⟩, rest)

/-- A comment whose end is missing, without the beginning of an end mark. -/
def trimOpenEnd (s : Text) : Text :=
  match beforeSuffix? "--!".toList s, beforeSuffix? "--".toList s, beforeSuffix? "-".toList s with
  | some r, _, _ => r
  | none, some r, _ => r
  | none, none, some r => r
  | none, none, none => s

/-- The text of a comment up to its end mark and the text after it, given what
    was read of the comment in reverse. -/
def readCommentFrom : Text → Text → Text × Text
  | read, [] => (trimOpenEnd read.reverse, [])
  | read, '-' :: '-' :: '>' :: rest => (read.reverse, rest)
  | read, '-' :: '-' :: '!' :: '>' :: rest => (read.reverse, rest)
  | read, c :: rest => readCommentFrom (c :: read) rest

/-- A comment and the text after it, given the text after the opening mark. -/
def readComment : Text → Text × Text
  | '>' :: rest => ([], rest)
  | '-' :: '>' :: rest => ([], rest)
  | s => readCommentFrom [] s

/-- Anything up to the next greater-than sign, and the text after it. -/
def readToClose (s : Text) : Text × Text :=
  (s.takeWhile (· != '>'), (s.dropWhile (· != '>')).drop 1)

/-- An identifier in quotes and the text after it. A greater-than sign cuts it
    short, which makes the declaration malformed. -/
def readIdentifier? : Text → Option (Text × Bool × Text)
  | c :: rest =>
    if c = '\x22' ∨ c = '\x27' then
      let inside (d : Char) : Bool := d != c && d != '>'
      match rest.dropWhile inside with
      | d :: rest' =>
        if d = c then some (literalText (rest.takeWhile inside), true, rest')
        else some (literalText (rest.takeWhile inside), false, d :: rest')
      | [] => some (literalText (rest.takeWhile inside), false, [])
    else none
  | [] => none

/-- The end of a document type declaration. Nothing but white space should stand
    in front of it. -/
def closeDoctype (d : DoctypeToken) (s : Text) : DoctypeToken × Text :=
  (if s.isEmpty then { d with malformed := true } else d, (readToClose s).2)

/-- A document type declaration from its system identifier on. -/
def readSystemId (required : Bool) (d : DoctypeToken) (s : Text) : DoctypeToken × Text :=
  let s := s.dropWhile isSpace
  match readIdentifier? s with
  | some (systemId, closed, rest) =>
    let d := { d with
      doctype := { d.doctype with systemId }
      hasSystemId := true
      malformed := d.malformed || !closed }
    closeDoctype d (rest.dropWhile isSpace)
  | none =>
    let malformed := d.malformed || required || s.head? != some '>'
    closeDoctype { d with malformed } s

/-- A document type declaration from its public identifier on. -/
def readPublicId (d : DoctypeToken) (s : Text) : DoctypeToken × Text :=
  let s := s.dropWhile isSpace
  match readIdentifier? s with
  | some (publicId, closed, rest) =>
    let d := { d with
      doctype := { d.doctype with publicId }
      malformed := !closed }
    if closed then readSystemId false d rest else closeDoctype d rest
  | none => closeDoctype { d with malformed := true } s

/-- A document type declaration and the text after it, given the text after the
    opening word. -/
def readDoctype (s : Text) : DoctypeToken × Text :=
  let s := s.dropWhile isSpace
  let inName (c : Char) : Bool := !(isSpace c || c == '>')
  let name := lower (replaceNulls (s.takeWhile inName))
  let d : DoctypeToken := { doctype := ⟨name, [], []⟩, malformed := name.isEmpty }
  let s := (s.dropWhile inName).dropWhile isSpace
  if eqIgnoreCase (s.take 6) "public".toList then readPublicId d (s.drop 6)
  else if eqIgnoreCase (s.take 6) "system".toList then readSystemId true d (s.drop 6)
  else
    let malformed := d.malformed || s.head? != some '>'
    closeDoctype { d with malformed } s

/-- What an exclamation mark behind a less-than sign begins, and the text after
    it. -/
def readDeclaration (s : Text) : Token × Text :=
  match s with
  | '-' :: '-' :: rest =>
    let (contents, rest') := readComment rest
    (.comment (literalText contents), rest')
  | _ =>
    if eqIgnoreCase (s.take 7) "doctype".toList then
      let (d, rest) := readDoctype (s.drop 7)
      (.doctype d, rest)
    else
      let (contents, rest) := readToClose s
      (.comment (literalText contents), rest)

/-- The characters that interrupt a chunk of ordinary text. -/
def interrupts (c : Char) : Bool :=
  c == '<' || c == '&' || c == '\n' || c == '\r' || c.toNat == 0

/-- A text token, unless the text is empty. -/
def Token.ofText (s : Text) : List Token :=
  if s.isEmpty then [] else [text s]

/-- The tokens with one more chunk behind them: as much of a text as is not
    interrupted, up to a number of characters. -/
def withChunk (tokens : List Token) (n : Nat) (s : Text) : List Token × Text :=
  let chunk := (s.take n).takeWhile fun c => !interrupts c
  (tokens ++ Token.ofText chunk, s.drop chunk.length)

/-- What a less-than sign begins, and the text after it, given the text after the
    sign. -/
def readMarkup (s : Text) : List Token × Text :=
  match s with
  | '!' :: rest =>
    let (t, rest') := readDeclaration rest
    ([t], rest')
  | '/' :: c :: rest =>
    if c.isAlpha then
      match readTag? (c :: rest) with
      | some (t, rest') => ([.endTag t], rest')
      | none => ([], [])
    else if c = '>' then ([.fault], rest)
    else
      let (contents, rest') := readToClose (c :: rest)
      ([.comment (literalText contents)], rest')
  | '?' :: rest =>
    let (contents, rest') := readToClose ('?' :: rest)
    ([.comment (literalText contents)], rest')
  | c :: rest =>
    if c.isAlpha then
      match readTag? (c :: rest) with
      | some (t, rest') => ([.startTag t], rest')
      | none => ([], [])
    else withChunk [.text ['<']] 1 (c :: rest)
  | [] => ([.text ['<']], [])

/-- The text after an opening mark and a tag name, if that is what a text begins
    with. -/
def afterTagName? (mark tag s : Text) : Option Text :=
  (afterPrefix? mark s).bind fun rest =>
    if eqIgnoreCase (rest.take tag.length) tag then
      match rest.drop tag.length with
      | [] => none
      | c :: rest' => if inTagName c then none else some (c :: rest')
    else none

/-- The text after the name of a matching end tag, if that is what a text begins
    with. -/
def afterEndName? (tag s : Text) : Option Text :=
  afterTagName? "</".toList tag s

/-- Text up to a matching end tag, and the text after the name in that tag if
    there is one. What was read is given in reverse. -/
def readRaw (tag : Text) : Text → Text → Text × Option Text
  | read, [] => (read.reverse, none)
  | read, c :: rest =>
    match afterEndName? tag (c :: rest) with
    | some rest' => (read.reverse, some rest')
    | none => readRaw tag (c :: read) rest

/-- How far end tags are hidden inside a script. -/
inductive ScriptDepth where
  | shown
  /-- Inside a comment mark. -/
  | marked
  /-- Inside a script tag inside a comment mark, where an end tag is hidden. -/
  | hidden
  deriving DecidableEq, Repr

/-- Where the text of a script is after one more character. -/
def ScriptDepth.step (depth : ScriptDepth) (s : Text) : ScriptDepth :=
  let starts (p : Text) : Bool := p.isPrefixOf s
  match depth with
  | .shown => if starts "!--".toList then .marked else .shown
  | .marked =>
    if starts "-->".toList then .shown
    else if (afterTagName? ['<'] "script".toList s).isSome then .hidden
    else .marked
  | .hidden =>
    if starts "-->".toList then .shown
    else if (afterEndName? "script".toList s).isSome then .marked
    else .hidden

/-- The text of a script, read like raw text. -/
def readScript : ScriptDepth → Text → Text → Text × Option Text
  | _, read, [] => (read.reverse, none)
  | depth, read, c :: rest =>
    match depth, afterEndName? "script".toList (c :: rest) with
    | .shown, some rest' => (read.reverse, some rest')
    | .marked, some rest' => (read.reverse, some rest')
    | _, _ =>
      let depth' :=
        match depth with
        | .shown => if c = '<' then ScriptDepth.step .shown rest else .shown
        | _ => depth.step (c :: rest)
      readScript depth' (c :: read) rest

namespace Token

/-- The tokens of text in front of an end tag, and the end tag. -/
def ofRaw (tag contents : Text) (rest : Option Text) : List Token × Text :=
  match rest with
  | none => (ofText contents, [])
  | some rest =>
    match readAttributes (rest.length + 1) [] rest with
    | some (attributes, rest') => (ofText contents ++ [endTag ⟨tag, attributes⟩], rest')
    | none => (ofText contents, [])

/-- The mistake in a reference, given the text after the ampersand. -/
def faultOf (s : Text) : List Token :=
  if isUnendedNumber s then [fault] else []

/-- The mistake at the very beginning of a text with references. -/
def firstFault : Text → List Token
  | '&' :: rest => faultOf rest
  | _ => []

/-- The next tokens of ordinary text behind an ampersand. -/
def nextReference (s : Text) : List Token × Text :=
  match readReference? false s with
  | some (cs, rest) =>
    withChunk (faultOf s ++ cs.map fun c => text [c]) (surplus s rest).length rest
  | none => withChunk [text ['&']] (failedReference s).length s

/-- The next tokens of ordinary text that begins with `c`. -/
def nextOrdinary (c : Char) (rest : Text) : List Token × Text :=
  if c = '<' then readMarkup rest
  else if c = '&' then nextReference rest
  else if c = '\n' then ([text [c]], rest)
  else if c = '\r' then
    withChunk [text ['\n']] 1 (if rest.head? = some '\n' then rest.drop 1 else rest)
  else if c.toNat = 0 then ([null], rest)
  else withChunk [] (rest.length + 1) (c :: rest)

/-- The next tokens of a text and what follows them. -/
def next (mode : TextMode) (s : Text) : List Token × Text :=
  match s with
  | [] => ([finish], [])
  | c :: rest =>
    match mode with
    | .ordinary => nextOrdinary c rest
    | .escapable tag =>
      let (contents, rest') := readRaw tag [] s
      let (tokens, rest'') := ofRaw tag (decodeReferences false (literalText contents)) rest'
      (firstFault contents ++ tokens, rest'')
    | .raw tag =>
      let (contents, rest') := readRaw tag [] s
      ofRaw tag (literalText contents) rest'
    | .script =>
      let (contents, rest') := readScript .shown [] s
      ofRaw "script".toList (literalText contents) rest'
    | .plain => (ofText (literalText s), [])

end Token

end Html

end ResponsiveImages
