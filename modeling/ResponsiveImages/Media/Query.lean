import ResponsiveImages.Media.Feature
import ResponsiveImages.Text.Nesting

/-!
# Media Queries

A media query is read in two steps. `QueryToken.lex?` cuts the text into
words and parenthesised tests, and `Query.ofTokens?` reads the tokens from
left to right. The second step is a machine with one bit of memory besides
the query built so far: whether an operand is due. `and` asks for one, and a
test or a media type provides it; `only` and `not` may stand in front of the
first. A query has to end with no operand due.

A test ends at the parenthesis that closes it, so tests may hold further
parentheses. A word ends at white space or at an opening parenthesis.

`QueryList.read` cuts a text at the commas outside parentheses and keeps the
queries it can read. A list matches if one of its queries does, so a text
with nothing readable in it never matches.

## Main definitions

* `QueryToken`: A word, or the inside of a parenthesised test.
* `QueryToken.closeParen?`: The inside of an opened parenthesis.
* `QueryToken.lex?`: The tokens of a text.
* `Query`: A negation mark, a media type and the features.
* `Query.step?`, `Query.ofTokens?`: Reading tokens.
* `Query.read?`: The query a text stands for.
* `Query.text`: The query as it is written.
* `Query.holds`: Whether a viewport satisfies a query.
* `QueryList.split`: The pieces of a text between commas.
* `QueryList.read`, `QueryList.holds`: The same for lists of queries.
* `condition?`: The features of a query that is nothing but features.
-/

namespace ResponsiveImages

open Text

/-- A token of a media query. -/
inductive QueryToken where
  | word (w : Text)
  | test (inner : Text)
  deriving DecidableEq, Repr

namespace QueryToken

/-- The text up to the parenthesis that closes `depth + 1` open ones, and the
    text after it. -/
def closeParen? : Nat → Text → Option (Text × Text)
  | _, [] => none
  | depth, c :: cs =>
    if c = ')' then
      match depth with
      | 0 => some ([], cs)
      | d + 1 => (closeParen? d cs).map fun (inner, rest) => (c :: inner, rest)
    else
      (closeParen? (if c = '(' then depth + 1 else depth) cs).map
        fun (inner, rest) => (c :: inner, rest)

/-- What follows a closing parenthesis is shorter than the text it was found
    in. -/
theorem length_of_closeParen? {s inner rest : Text} {depth : Nat}
    (h : closeParen? depth s = some (inner, rest)) : rest.length < s.length := by
  induction s generalizing depth inner with
  | nil => simp [closeParen?] at h
  | cons c cs ih =>
    simp only [closeParen?] at h
    split at h
    · split at h
      · simp only [Option.some.injEq, Prod.mk.injEq] at h
        simp [← h.2]
      · simp only [Option.map_eq_some_iff, Prod.mk.injEq, Prod.exists] at h
        rcases h with ⟨a, b, hab, _, rfl⟩
        have := ih hab
        simp only [List.length_cons]
        omega
    · simp only [Option.map_eq_some_iff, Prod.mk.injEq, Prod.exists] at h
      rcases h with ⟨a, b, hab, _, rfl⟩
      have := ih hab
      simp only [List.length_cons]
      omega

/-- The characters a word consists of. -/
def inWord (c : Char) : Bool :=
  !isBlank c && c != '('

/-- The tokens of a text. A parenthesis that is never closed refuses it. -/
def lex? (s : Text) : Option (List QueryToken) :=
  match s with
  | [] => some []
  | c :: cs =>
    if isBlank c then lex? cs
    else if c = '(' then
      match _h : closeParen? 0 cs with
      | none => none
      | some (inner, rest) => (lex? rest).map (test inner :: ·)
    else (lex? (cs.dropWhile inWord)).map (word (c :: cs.takeWhile inWord) :: ·)
termination_by s.length
decreasing_by
  · simp
  · have := length_of_closeParen? _h
    simp only [List.length_cons]
    omega
  · have := (List.dropWhile_sublist inWord (l := cs)).length_le
    simp only [List.length_cons]
    omega

end QueryToken

/-- A media query. -/
structure Query where
  negated : Bool := false
  mediaType : Option Text := none
  features : List Feature := []
  deriving DecidableEq, Repr

namespace Query

/-- Nothing but negation marks has been read. -/
def bare (q : Query) : Bool :=
  q.mediaType.isNone && q.features.isEmpty

/-- Reading one token. The flag says whether an operand is due. -/
def step? : Query × Bool → QueryToken → Option (Query × Bool)
  | (q, due), .test inner =>
    if due then
      (Feature.ofInner? inner).map fun f => ({ q with features := q.features ++ [f] }, false)
    else none
  | (q, due), .word w =>
    if eqIgnoreCase w "and".toList then if due then none else some (q, true)
    else if eqIgnoreCase w "only".toList && q.bare then some (q, due)
    else if eqIgnoreCase w "not".toList && q.bare then some ({ q with negated := true }, due)
    else if due && q.bare then some ({ q with mediaType := some w }, false)
    else none

/-- Reading tokens one after the other. -/
def run? (s : Query × Bool) (tokens : List QueryToken) : Option (Query × Bool) :=
  tokens.foldlM step? s

/-- The query that tokens stand for. An operand is due at the start and must
    not be due at the end. -/
def ofTokens? (tokens : List QueryToken) : Option Query :=
  match run? ({}, true) tokens with
  | some (q, due) => if due || q.bare then none else some q
  | none => none

/-- The query a text stands for. -/
def read? (s : Text) : Option Query :=
  (QueryToken.lex? s).bind ofTokens?

/-- The query as it is written. A negation mark is written in front of the
    media type and lost without one. -/
def text (q : Query) : Text :=
  let medium :=
    match q.mediaType with
    | some m => [if q.negated then "not ".toList ++ m else m]
    | none => []
  joinWith " and ".toList (medium ++ q.features.map Feature.text)

/-- Whether a media type is one of a window on a screen. -/
def onScreen (mediaType : Option Text) : Bool :=
  match mediaType with
  | none => true
  | some m => eqIgnoreCase m "all".toList || eqIgnoreCase m "screen".toList

/-- Whether a viewport satisfies the query. -/
def holds (q : Query) (v : Viewport) : Bool :=
  (onScreen q.mediaType && q.features.all fun f => f.holds v) != q.negated

end Query

/-- A list of media queries, any of which may hold. -/
structure QueryList where
  queries : List Query
  deriving DecidableEq, Repr

namespace QueryList

/-- The pieces of a text between the commas outside parentheses, given how many
    parentheses are open. Closing one that is not open changes nothing. -/
def splitFrom : Nat → Text → List Text
  | _, [] => [[]]
  | depth, c :: cs =>
    if c = ',' && depth == 0 then [] :: splitFrom depth cs
    else
      let depth' := if c = '(' then depth + 1 else if c = ')' then depth - 1 else depth
      consFirst c (splitFrom depth' cs)

/-- The pieces of a text between the commas outside parentheses. -/
def split (s : Text) : List Text :=
  splitFrom 0 s

/-- The queries of a text, leaving out those that cannot be read. -/
def read (s : Text) : QueryList :=
  ⟨(split s).filterMap Query.read?⟩

/-- Whether a viewport satisfies one of the queries. -/
def holds (l : QueryList) (v : Viewport) : Bool :=
  l.queries.any fun q => q.holds v

end QueryList

/-- The features of a query that is neither negated nor bound to a media type. -/
def condition? (s : Text) : Option (List Feature) :=
  (Query.read? s).bind fun q => if q.negated || q.mediaType.isSome then none else some q.features

end ResponsiveImages
