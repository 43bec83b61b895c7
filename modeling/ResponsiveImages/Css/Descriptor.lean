import ResponsiveImages.Css.Typography
import ResponsiveImages.Css.UnicodeRange

/-!
# Descriptors

Declarations that do not style elements but describe something: a font, its
palettes, its features, a change between pages. Each kind of description has
descriptors of its own, whose values are read by their grammars.

The descriptions of fonts take any descriptor and keep what they cannot read.
The other ones refuse descriptors they do not know, and values of which only
the beginning can be read.

## Main definitions

* `Descriptor`: A descriptor with its value.
* `Description`: The descriptors of a kind of description.
* `Description.read`: Reading the body of a description.
* `fontFaceDescription`, `paletteDescription`, `transitionDescription`: The kinds.
* `FeatureSet`: The names of some features of a font.
-/

namespace ResponsiveImages

namespace Css

open Text

/-- A descriptor with its value. -/
structure Descriptor where
  name : Text
  value : Value

/-- A descriptor as it is written compactly. -/
def Descriptor.text (d : Descriptor) : Text :=
  d.name ++ ':' :: d.value.text .compact

/-- What a grammar makes of a value. -/
inductive Grasp where
  | whole (ls : Layers)
  /-- There is more behind what can be read. -/
  | beginning
  /-- The value is against the rules. -/
  | refused
  | nothing

namespace Grasp

/-- What a reader makes of a value. -/
def ofReader (r : Reader Layers) (cs : List Spelled) : Grasp :=
  match r.run (significant (unspelled cs)) with
  | some (ls, []) => whole ls
  | some (_, _ :: _) => beginning
  | none => nothing

/-- What is made of a value by a reader that does not care for the beginning of values. -/
def ofWhole (r : Reader Layers) (cs : List Spelled) : Grasp :=
  match r.whole? (unspelled cs) with
  | some ls => whole ls
  | none => nothing

/-- What is made of a value, if it does not break a rule. -/
def refusedIf (breaks : Layers → Bool) : Grasp → Grasp
  | whole ls => if breaks ls then refused else whole ls
  | g => g

end Grasp

/-- The descriptors of a kind of description. -/
structure Description where
  known : List (Text × (List Spelled → Grasp))
  /-- Other descriptors are kept. -/
  isOpen : Bool

namespace Description

/-- A value that is kept as it is. -/
def kept? (name : Text) (cs : List Spelled) : Option Descriptor :=
  if cs.any fun c => c.component.isDelim '!' then none
  else (partsOf? (unspelled cs)).map fun parts => ⟨name, .kept parts⟩

/-- The descriptor with a name and a value. -/
def descriptor? (d : Description) (name : Text) (cs : List Spelled) : Option Descriptor :=
  match d.known.lookup (lower name) with
  | some grasp =>
    match grasp cs with
    | .whole ls => some ⟨lower name, .layers ls⟩
    | .beginning => none
    | .refused => none
    | .nothing => kept? name cs
  | none => if d.isOpen then kept? name cs else none

/-- Reading a descriptor. -/
def readOne? (d : Description) : List Spelled → Option Descriptor
  | [] => none
  | c :: rest =>
    match c.component, rest.dropWhile Spelled.isWhite with
    | .token (.ident name), colon :: value =>
      match colon.component with
      | .token .colon => d.descriptor? name value
      | _ => none
    | _, _ => none

/-- Reading the body of a description. Descriptors that cannot be read are left out. -/
def read (d : Description) (body : List Spelled) : List Descriptor :=
  (declarationsIn body).filterMap d.readOne?

end Description

namespace Reader

/-- The name of a font, even if it is a word that stands for a kind of fonts. -/
def fontName : Reader Atom :=
  familyName <$> (string <|> (joinWith [' '] <$> some1 ident))

/-- The format of the file of a font, which is written as a string. -/
def fontFormat : Reader Atom :=
  call ["format".toList] fun name => do
    let format ← ident <|> string
    let known := splitLines ["woff woff2 truetype opentype embedded-opentype collection svg"]
    let format := if known.contains (lower format) then lower format else format
    return .function name [[.string format]]

/-- The technologies that a font needs. -/
def fontTechnology : Reader Atom :=
  call ["tech".toList] fun name =>
    return .function name (← commas (return [← keyword technologies]))
where
  /-- The known technologies. -/
  technologies : List Text := splitLines [
    "features-opentype features-aat features-graphite color-colrv0 color-colrv1 color-svg",
    "color-sbix color-cbdt variations palettes incremental"]

/-- Where a font comes from. -/
def fontSource : Reader (List Atom) :=
  first [
    do
      let address ← url
      let format ← maybe fontFormat
      let technology ← maybe fontTechnology
      return [.run true (.url address :: format.toList ++ technology.toList)],
    return [← call ["local".toList] fun name => return .function name [← fontFamily]]]

/-- The slopes a font has. A second angle is the upper one of a range. -/
def fontSlopes : Reader (List Atom) := do
  let style ← keywordIn "normal italic oblique"
  if style == .keyword "oblique".toList then
    let usual : Atom := .quantity ⟨.angle, 14, "deg".toList⟩
    let low := (← maybe angle).getD usual
    let high := (← maybe angle).getD low
    return style :: if low == usual && high == usual then [] else shortenPair [low] [high]
  else return [style]

/-- A number in sixteen bits. One that is too large begins again at zero. -/
def shortInteger : Reader Atom := do
  let n ← integer
  if n < 0 then failure else return .integer (n % 65536)

/-- The types of a change between pages, or the word for none. -/
def transitionTypes : Reader (List Atom) :=
  first [
    do if (← ident) == noWord then return [.keyword noWord] else failure,
    do
      let names ← many customName
      if names.contains noWord then failure else return names.map Atom.name]

/-- A color of a palette by its number, with the color in its place. -/
def paletteColor : Reader (List Atom) :=
  return [← shortInteger, ← color]

end Reader

/-- The description of a font. -/
def fontFaceDescription : Description where
  known := [
    ("src".toList, Grasp.ofWhole (Reader.layers Reader.fontSource)),
    ("font-family".toList, Grasp.ofWhole (Reader.oneLayer Reader.fontFamily)),
    ("font-weight".toList, Grasp.ofWhole (Reader.oneLayer (Reader.pairOf Reader.fontWeight))),
    ("font-style".toList, Grasp.ofWhole (Reader.oneLayer Reader.fontSlopes)),
    ("font-stretch".toList, Grasp.ofWhole (Reader.oneLayer (Reader.pairOf Reader.fontWidth))),
    ("unicode-range".toList, ranges)]
  isOpen := true
where
  /-- The characters of a font. -/
  ranges (cs : List Spelled) : Grasp :=
    match CharacterRange.readAll? cs with
    | some rs => .whole (rs.map fun r => [.spelled r.text r.text])
    | none => .nothing

/-- Whether a value has a word for a kind of fonts. -/
def isGenericFont (ls : Layers) : Bool :=
  ls.any fun l => l.any fun
    | .keyword _ => true
    | _ => false

/-- Whether a value depends on the color of the text. -/
def usesCurrentColor (ls : Layers) : Bool :=
  ls.any fun l => l.contains (.color .current)

/-- The description of a palette of a font. -/
def paletteDescription : Description where
  known := [
    ("font-family".toList, fun cs =>
      (Grasp.ofReader (Reader.oneLayer Reader.fontFamily) cs).refusedIf isGenericFont),
    ("base-palette".toList,
      Grasp.ofReader (Reader.oneAtom (Reader.shortInteger <|> Reader.keywordIn "light dark"))),
    ("override-colors".toList, fun cs =>
      (Grasp.ofReader (Reader.layers Reader.paletteColor) cs).refusedIf usesCurrentColor)]
  isOpen := false

/-- The description of the change from one page to another one. -/
def transitionDescription : Description where
  known := [
    ("navigation".toList, Grasp.ofReader (Reader.oneWord "none auto")),
    ("types".toList, Grasp.ofReader (Reader.oneLayer Reader.transitionTypes))]
  isOpen := false

/-- Some features of a font with the names an author has given them. -/
structure FeatureSet where
  kind : Text
  /-- The features by their numbers. -/
  names : List (Text × List Int)

namespace FeatureSet

/-- The kinds of features with names. -/
def kinds : List Text :=
  Reader.splitLines [
    "stylistic historical-forms styleset character-variant swash ornaments annotation"]

/-- A list with a pair put in place of the one with the same key, or at the end. -/
def put {α : Type} (key : Text) (a : α) : List (Text × α) → List (Text × α)
  | [] => [(key, a)]
  | (key', a') :: rest => if key' == key then (key, a) :: rest else (key', a') :: put key a rest

/-- The name of a feature and its numbers. -/
def named? (cs : List Spelled) : Option (Text × List Int) :=
  match significant (unspelled cs) with
  | .token (.ident name) :: .token .colon :: value =>
    ((Reader.some1 Reader.integer).whole? value).map fun ns => (name, ns)
  | _ => none

/-- The names in a body. The last one of those that are the same counts. -/
def namesIn (body : List Spelled) : List (Text × List Int) :=
  ((declarationsIn body).filterMap named?).foldl (fun all (name, ns) => put name ns all) []

/-- The set that an item of a body is. -/
def ofItem? : BodyItem → Option FeatureSet
  | .atRule name front (some body) =>
    if kinds.contains (lower name) && front.all Spelled.isWhite then
      some ⟨lower name, namesIn body⟩
    else none
  | _ => none

/-- The sets in a body. The last one of those of the same kind counts. -/
def read (body : List Spelled) : List FeatureSet :=
  let sets := ((bodyItems body).filterMap ofItem?).foldl
    (fun all (s : FeatureSet) => put s.kind s.names all) []
  sets.map fun (kind, names) => ⟨kind, names⟩

/-- A set as it is written compactly. -/
def text (s : FeatureSet) : Text :=
  '@' :: s.kind ++ bracedText (s.names.map fun (name, ns) =>
    identText name ++ ':' :: joinWith [' '] (ns.map fun n => (toString n).toList))

end FeatureSet

end Css

end ResponsiveImages
