import ResponsiveImages.Text.Basic

/-!
# File Name Suffixes

The image for a dense display has the name of the ordinary one with a suffix
in front of the file extension: `img/a.png` becomes `img/a@2x.png`. The name
stands inside a style value, so the extension may be followed by the
parenthesis or quote that ends the value, or by further values.

A query string or fragment is not part of the name, so only the text before
the first `?` or `#` is searched. Of several dots the last one that can begin
an extension counts. A dot cannot if nothing or a separator stands in front
of it, as in `.htaccess` or `../a`, or if no alphanumeric run of ASCII
follows up to the end of the name.

## Main definitions

* `beginsName`: Whether the text before a dot can be a file name.
* `isExtension`: Whether the text after a dot begins with an extension.
* `splitExtension?`: A name cut in front of the dot of its extension.
* `insertBeforeExtension?`: A value with the suffix put in.
-/

namespace ResponsiveImages

open Text

/-- Whether a file name may end where this text does. It is given in reverse. -/
def beginsName : Text → Bool
  | [] => false
  | c :: _ => !(c == '/' || c == '(' || c == '\x22' || c == '\x27' || c == '.')

/-- Whether a name ends in front of this text. -/
def endsName : Text → Bool
  | [] => true
  | c :: _ => c == ')' || c == '\x22' || c == '\x27' || c == ' ' || c == ','

/-- Whether a text begins with an extension that ends the name. -/
def isExtension (s : Text) : Bool :=
  !(s.takeWhile Char.isAlphanum).isEmpty && endsName (s.dropWhile Char.isAlphanum)

/-- A text cut in front of the last dot that begins an extension, given in
    reverse what stands before the text. -/
def splitExtensionAfter? : Text → Text → Option (Text × Text)
  | _, [] => none
  | before, c :: cs =>
    match splitExtensionAfter? (c :: before) cs with
    | some cut => some cut
    | none =>
      if c = '.' && beginsName before && isExtension cs then some (before.reverse, c :: cs)
      else none

/-- A text cut in front of the last dot that begins an extension. -/
def splitExtension? (s : Text) : Option (Text × Text) :=
  splitExtensionAfter? [] s

/-- The characters in front of a query string or fragment. -/
def inPath (c : Char) : Bool :=
  c != '?' && c != '#'

/-- A value with the suffix in front of its file extension, if it has one. -/
def insertBeforeExtension? (suffix value : Text) : Option Text :=
  (splitExtension? (value.takeWhile inPath)).map fun (stem, extension) =>
    stem ++ suffix ++ extension ++ value.dropWhile inPath

end ResponsiveImages
