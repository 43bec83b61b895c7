/-!
# Text

Everything the library reads is short text cut apart character by character,
so a text is the list of its characters. `String` is left to the edge of the
program: a literal enters as `"...".toList`, and the command line turns
results back.

Two notions of equality are in play. Names that come from markup or style
sheets compare without regard to ASCII case (`eqIgnoreCase`), and nothing
beyond ASCII is ever folded by that comparison. All trimming and word
splitting uses `isBlank`, the white space characters of the Unicode
`White_Space` property.

## Main definitions

* `Text`: A text as a list of characters.
* `isBlank`: The white space characters.
* `trimStart`, `trimEnd`, `trim`: A text without its outer white space.
* `words`: The maximal runs of non-blank characters.
* `splitOnce?`: The text before and after the first occurrence of a character.
* `lower`, `eqIgnoreCase`: ASCII case folding and the comparison it gives.
* `afterPrefix?`, `beforeSuffix?`: A text with a known beginning or end removed.
* `enclosed?`: What stands between a known beginning and a known end.
* `unquote`: A text without the pair of quotes around it.
* `decimal`: The decimal numeral of a natural number.
* `natOfDigits`: The number a run of digits stands for.
-/

namespace ResponsiveImages

/-- A text is the list of its characters. -/
abbrev Text := List Char

namespace Text

/-- The white space characters: the Unicode `White_Space` property. -/
def isBlank (c : Char) : Bool :=
  let n := c.toNat
  (9 ≤ n && n ≤ 13) || n == 32 || n == 0x85 || n == 0xA0 || n == 0x1680 ||
    (0x2000 ≤ n && n ≤ 0x200A) || n == 0x2028 || n == 0x2029 || n == 0x202F ||
    n == 0x205F || n == 0x3000

/-- The text from its first non-blank character on. -/
def trimStart (s : Text) : Text :=
  s.dropWhile isBlank

/-- The text up to its last non-blank character. -/
def trimEnd (s : Text) : Text :=
  (s.reverse.dropWhile isBlank).reverse

/-- The text without white space at either end. -/
def trim (s : Text) : Text :=
  trimEnd (trimStart s)

/-- Whether a text holds nothing but white space. -/
def blank (s : Text) : Bool :=
  s.all isBlank

/-- The maximal runs of non-blank characters, in order. -/
def words (s : Text) : List Text :=
  (s.splitOnP isBlank).filter fun w => !w.isEmpty

/-- The text before the first `c` and the text after it, if there is one. -/
def splitOnce? (c : Char) : Text → Option (Text × Text)
  | [] => none
  | x :: xs =>
    if x = c then some ([], xs)
    else (splitOnce? c xs).map fun (before, after) => (x :: before, after)

/-- ASCII letters in lower case, everything else as it is. -/
def lower (s : Text) : Text :=
  s.map Char.toLower

/-- Equality that takes ASCII letters of either case as the same. -/
def eqIgnoreCase (a b : Text) : Bool :=
  lower a == lower b

/-- The rest of a text that begins with `p`. -/
def afterPrefix? (p s : Text) : Option Text :=
  p.isPrefixOf? s

/-- The beginning of a text that ends with `q`. -/
def beforeSuffix? (q s : Text) : Option Text :=
  q.isSuffixOf? s

/-- What stands between the beginning `p` and the end `q` of a text. The two
    must not overlap. -/
def enclosed? (p q s : Text) : Option Text :=
  (afterPrefix? p s).bind (beforeSuffix? q)

/-- A text without the pair of double or single quotes around it. -/
def unquote (s : Text) : Text :=
  match enclosed? ['\x22'] ['\x22'] s with
  | some inner => inner
  | none => (enclosed? ['\x27'] ['\x27'] s).getD s

/-- The pieces with `sep` written between neighbours. -/
def joinWith (sep : Text) (pieces : List Text) : Text :=
  sep.intercalate pieces

/-- Whether a text is a non-empty run of ASCII digits. -/
def isDigits (s : Text) : Bool :=
  !s.isEmpty && s.all Char.isDigit

/-- The number a run of digits stands for. -/
def natOfDigits (s : Text) : Nat :=
  s.foldl (fun n c => 10 * n + (c.toNat - 48)) 0

/-- The decimal numeral of a natural number. -/
def decimal (n : Nat) : Text :=
  Nat.toDigits 10 n

end Text

end ResponsiveImages
