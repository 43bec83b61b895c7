import ResponsiveImages.Html.TableRules

/-!
# Reading Markup

The document a text of markup stands for. Tokens are read one after the other,
and each is handled by the rules of the mode the state is in. A rule may have
its token read again in another mode; every such step ends an open element or
moves on towards the body, so their number is bounded by the number of open
elements.

At the end the nodes are numbered anew in document order.

## Main definitions

* `Construction.apply`: A token handled once.
* `Construction.handle`: A token handled until it is taken.
* `Construction.receive`: A token as it comes from the text.
* `Construction.read`: All tokens of a text.
* `Document.ofMarkup`: The document of a text.
-/

namespace ResponsiveImages

namespace Html

open Text

namespace Construction

/-- A token handled once, by the rules of the mode. -/
def apply (c : Construction) (token : Token) : Outcome :=
  match c.mode with
  | .initial => initial c token
  | .beforeHtml => beforeHtml c token
  | .beforeHead => beforeHead c token
  | .inHead => inHead c token
  | .afterHead => afterHead c token
  | .inBody => inBody c token
  | .inText => inText c token
  | .inTable => inTable c token
  | .inTableText => inTableText c token
  | .inCaption => inCaption c token
  | .inColumnGroup => inColumnGroup c token
  | .inTableBody => inTableBody c token
  | .inRow => inRow c token
  | .inCell => inCell c token
  | .inSelect => inSelect c token
  | .inSelectInTable => inSelectInTable c token
  | .afterBody => afterBody c token
  | .afterAfterBody => afterAfterBody c token

/-- A token handled until it is taken, at most the given number of times. -/
def handleUpTo : Nat → Construction → Token → Construction
  | 0, c, _ => c
  | fuel + 1, c, token =>
    match c.apply token with
    | .taken c' => c'
    | .again c' => handleUpTo fuel c' token

/-- A token handled until it is taken. -/
def handle (c : Construction) (token : Token) : Construction :=
  handleUpTo (2 * c.stack.length + 20) c token

/-- The modes in which white space is treated unlike other text. -/
def spaceMatters : List Mode :=
  [.initial, .beforeHtml, .beforeHead, .inHead, .afterHead, .inColumnGroup, .afterBody,
    .afterAfterBody]

/-- The characters at the beginning of a text that are all white space, or all
    none. -/
def firstRun : Text → Text
  | [] => []
  | c :: rest => c :: rest.takeWhile fun d => isSpace d == isSpace c

/-- A chunk of text handled, in at most the given number of pieces. Where white
    space is treated unlike other text, the chunk is cut at its border. -/
def handleTextUpTo : Nat → Construction → Text → Construction
  | 0, c, _ => c
  | fuel + 1, c, s =>
    if s.isEmpty then c
    else if spaceMatters.contains c.mode then
      let run := firstRun s
      handleTextUpTo fuel (c.handle (.text run)) (s.drop run.length)
    else c.handle (.text s)

/-- A chunk of text handled. -/
def handleText (c : Construction) (s : Text) : Construction :=
  handleTextUpTo s.length c s

/-- A text without the line feed it may begin with. -/
def withoutNewline : Text → Text
  | '\n' :: rest => rest
  | s => s

/-- A token as it comes from the text. A mistake means nothing, and neither does a
    document type once anything else was read. -/
def receive (c : Construction) (token : Token) : Construction :=
  let dropping := c.dropNewline
  let c := { c with dropNewline := false }
  match token with
  | .text s => c.handleText (if dropping then withoutNewline s else s)
  | .doctype _ => if c.mode = .initial then c.handle token else c
  | .fault => c
  | _ => c.handle token

/-- The tokens of a text, up to a number of steps. -/
def readUpTo : Nat → Construction → Text → Construction
  | 0, c, _ => c
  | fuel + 1, c, s =>
    let (tokens, rest) := Token.next c.textMode s
    let c' := tokens.foldl receive c
    if s.isEmpty then c' else readUpTo fuel c' rest

/-- The tokens of a text. -/
def read (c : Construction) (s : Text) : Construction :=
  readUpTo (s.length + 1) c s

end Construction

/-- A text without the mark of the byte order it may begin with. -/
def withoutOrderMark : Text → Text
  | '\uFEFF' :: rest => rest
  | s => s

end Html

/-- The document a text of markup stands for. -/
def Document.ofMarkup (s : Text) : Document :=
  let c := Html.Construction.read {} (Html.withoutOrderMark s)
  ofTrees c.document.doctype c.document.trees

end ResponsiveImages
