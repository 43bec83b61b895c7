import ResponsiveImages.Css.ColorReading
import ResponsiveImages.Css.Verbatim

/-!
# Kept Values

A value the library has no grammar for is kept as a list of `Part`s and
written token by token. Colors and quantities are recognised all the same, and
so are the colors of which only the opacity is not known. The white space next
to an operator or a comma is not kept, since writing them restores it. Every
other piece of white space is, and so is every comment, as a space.

A reference to a custom property or to the surroundings of a page has a
fallback that is a kept value of its own.

## Main definitions

* `Part`: A token of a kept value.
* `partsOf?`: The parts of a value.
* `writeParts`: The text of a kept value.
-/

namespace ResponsiveImages

namespace Css

open Text

/-- A token of a kept value. -/
inductive Part where
  | white
  | delim (c : Char)
  | comma
  | closing (b : Bracket)
  | url (s : Text)
  | color (c : Color)
  /-- A color of red, green and blue, or of a hue, a saturation and a lightness, whose
      opacity is not known. -/
  | openColor (space : Space) (a b c : Float32) (alpha : List Part)
  /-- A value for light pages and one for dark pages. -/
  | schemes (light dark : List Part)
  | quantity (q : Quantity)
  /-- A reference to a custom property. -/
  | reference (name : Text) (fallback : Option (List Part))
  /-- A reference to the surroundings of a page. -/
  | surrounding (name : Text) (indices : List Int) (fallback : Option (List Part))
  | function (name : Text) (arguments : List Part)
  /-- A token whose text does not depend on its place. -/
  | literal (s : Text)

namespace Part

/-- Whether a part is white space. -/
def isWhite : Part → Bool
  | white => true
  | _ => false

end Part

/-- The text of a token that is written the same everywhere, or `none` for the
    tokens with a part of their own and those that no value may contain. -/
def literalText? : Token → Option Text
  | .ident name => some (identText name)
  | .atKeyword name => some ('@' :: identText name)
  | .hash _ name => some ('#' :: name.flatMap nameChar)
  | .string s => some (stringText s)
  | .comparison c => some [c, '=']
  | .number n => some (numberText n.value.toFloat32)
  | .percentage n => some (percentNumeralText n)
  | .dimension n unit => some (dimensionText n.value.toFloat32 (unitText unit))
  | .colon => some [':']
  | .semicolon => some [';']
  | .commentOpen => some "<!--".toList
  | .commentClose => some "-->".toList
  | _ => none

/-- Whether a component is an operator or a comma, which absorb white space. -/
def absorbs : Component → Bool
  | .token (.delim _) => true
  | .token .comma => true
  | _ => false

/-- Parts without white space at either end. A single part stays as it is. -/
def trimParts : List Part → List Part
  | [] => []
  | [p] => [p]
  | ps =>
    let ps := if (ps.head?.map Part.isWhite).getD false then ps.drop 1 else ps
    if (ps.getLast?.map Part.isWhite).getD false then ps.dropLast else ps

/-- What the surroundings of a page provide everywhere. -/
def surroundingNames : List Text :=
  ["safe-area-inset-top".toList, "safe-area-inset-right".toList,
    "safe-area-inset-bottom".toList, "safe-area-inset-left".toList,
    "viewport-segment-width".toList, "viewport-segment-height".toList,
    "viewport-segment-top".toList, "viewport-segment-left".toList,
    "viewport-segment-bottom".toList, "viewport-segment-right".toList]

/-- A name of something about the surroundings of a page as it is written. -/
def surroundingName? (name : Text) : Option Text :=
  if surroundingNames.contains (lower name) then some (lower name)
  else if wideWords.contains (lower name) then none
  else some name

/-- The whole numbers in front of components, and what is behind them. -/
def leadingIntegers : List Component → List Int × List Component
  | [] => ([], [])
  | c :: rest =>
    if c.isWhite then leadingIntegers rest
    else
      match Reader.integer.run [c] with
      | some (n, _) =>
        let (ns, rest') := leadingIntegers rest
        (n :: ns, rest')
      | none => ([], c :: rest)

/-- The components behind a comma, if there is a comma, and `none` if there is anything
    else. -/
def fallback? (cs : List Component) : Option (Option (List Component)) :=
  match cs.dropWhile Component.isWhite with
  | [] => some none
  | .token .comma :: rest => some (some rest)
  | _ => none

/-- The spaces of the colors whose opacity may be unknown. -/
def openSpaces : List (Text × Space) := [("rgb".toList, .rgb), ("hsl".toList, .hsl)]

/-- The parts of a color that stand in front of an opacity that is not known, and the
    components of the opacity. -/
def openColor? (s : Space) (arguments : List Component) :
    Option (List (Float32 × Float32 × Float32) × List Component) :=
  let isSlash (c : Component) : Bool := c.isDelim '/'
  let before := arguments.takeWhile fun c => !isSlash c
  match arguments.dropWhile fun c => !isSlash c with
  | _ :: alpha =>
    ((ColorFunction.closedParts s (ColorFunction.colorUpTo (depths before + 1))).whole? before).map
      fun colors => (colors, alpha)
  | [] => none

/-- The color of parts whose opacity is not known, or a pair of two such colors. -/
def Part.ofOpenColor (s : Space) (alpha : List Part) :
    List (Float32 × Float32 × Float32) → Option Part
  | [(a, b, c)] => some (openColor s a b c alpha)
  | [(a, b, c), (a', b', c')] =>
    some (schemes [openColor s a b c alpha] [openColor s a' b' c' alpha])
  | _ => none

mutual

/-- The parts of a component, and whether white space behind them counts. -/
def partsOfOne? : Nat → Component → Option (List Part × Bool)
  | 0, _ => none
  | _ + 1, .token (.white _) => some ([.white], true)
  | _ + 1, .token (.comment _) => some ([.white], true)
  | _ + 1, .token (.delim c) => some ([.delim c], false)
  | _ + 1, .token .comma => some ([.comma], false)
  | _ + 1, .token (.url s) => some ([.url s], true)
  | _ + 1, .token (.hash isName digits) =>
    match Color.ofHex? digits with
    | some c => some ([.color (.rgba c)], true)
    | none => (literalText? (.hash isName digits)).map fun s => ([.literal s], true)
  | _ + 1, .token (.dimension n unit) =>
    match Quantity.ofUnit? n.value.toFloat32 unit with
    | some q => some ([.quantity q], true)
    | none => (literalText? (.dimension n unit)).map fun s => ([.literal s], true)
  | _ + 1, .token t => (literalText? t).map fun s => ([.literal s], true)
  | fuel + 1, .block b body =>
    (partsFrom? fuel false body).map fun inner =>
      (.literal b.openText :: inner ++ [.closing b], false)
  | fuel + 1, .function name arguments =>
    match Color.ofComponent? (.function name arguments) with
    | some c => some ([.color c], true)
    | none =>
      match openPart? fuel (lower name) arguments with
      | some p => some ([p], false)
      | none =>
        if name == "url".toList then
          match significant arguments with
          | [.token (.string s)] => some ([.url s], true)
          | _ => none
        else (functionPart? fuel name arguments).map fun p => ([p], false)

/-- A color of which something is not known. -/
def openPart? : Nat → Text → List Component → Option Part
  | 0, _, _ => none
  | fuel + 1, name, arguments =>
    match openSpaces.lookup name with
    | some s =>
      match openColor? s arguments with
      | some (colors, alpha) =>
        (partsFrom? fuel false alpha).bind fun ps => Part.ofOpenColor s (trimParts ps) colors
      | none => none
    | none =>
      if name == "light-dark".toList then
        match arguments.dropWhile fun c => !c.isComma with
        | _ :: dark =>
          match partsFrom? fuel false (arguments.takeWhile fun c => !c.isComma),
              partsFrom? fuel false dark with
          | some l, some d => some (.schemes (trimParts l) (trimParts d))
          | _, _ => none
        | [] => none
      else none

/-- A function other than those that stand for colors and addresses. -/
def functionPart? : Nat → Text → List Component → Option Part
  | 0, _, _ => none
  | fuel + 1, name, arguments =>
    if name == "var".toList then
      match arguments.dropWhile Component.isWhite with
      | .token (.ident property) :: rest =>
        if (afterPrefix? "--".toList property).isSome then
          (fallbackParts? fuel rest).map (Part.reference property)
        else none
      | _ => none
    else if name == "env".toList then
      match arguments.dropWhile Component.isWhite with
      | .token (.ident property) :: rest =>
        let (indices, rest) := leadingIntegers rest
        match surroundingName? property, fallbackParts? fuel rest with
        | some property, some fallback => some (.surrounding property indices fallback)
        | _, _ => none
      | _ => none
    else (partsFrom? fuel false arguments).map fun inner => .function name (trimParts inner)

/-- The parts of a fallback, if there is one. -/
def fallbackParts? : Nat → List Component → Option (Option (List Part))
  | 0, _ => none
  | fuel + 1, cs =>
    match fallback? cs with
    | some (some rest) => (partsFrom? fuel false rest).map fun ps => some (trimParts ps)
    | some none => some none
    | none => none

/-- The parts of components, given whether the part before them absorbs white
    space. -/
def partsFrom? : Nat → Bool → List Component → Option (List Part)
  | 0, _, _ => none
  | _ + 1, _, [] => some []
  | fuel + 1, absorbed, c :: rest =>
    if c.isWhite then
      if absorbed then partsFrom? fuel absorbed rest
      else if (rest.head?.map absorbs).getD false then partsFrom? fuel false rest
      else (partsFrom? fuel false rest).map (Part.white :: ·)
    else
      match partsOfOne? fuel c with
      | some (parts, counts) => (partsFrom? fuel (!counts) rest).map (parts ++ ·)
      | none => none

end

/-- The parts of a value, or `none` if it holds a token no value may contain or is too
    deep. -/
def partsOf? (cs : List Component) : Option (List Part) :=
  if maximalDepth < depths cs then none
  else (partsFrom? (4 * (weights cs + 1)) false cs).map trimParts

/-- Whether a space has to separate a bracket from the part after it. -/
def needsSpace (layout : Layout) : List Part → Bool
  | [] => false
  | .comma :: _ => false
  | .closing .round :: _ => false
  | _ :: _ => layout == .ordinary

/-- Whether parts are nothing but white space that the layout leaves out. -/
def isHidden : Layout → List Part → Bool
  | .ordinary, [.white] => true
  | _, _ => false

/-- Behind a text in brackets, a space if it has to be separated from the parts after it,
    and whether there is one. -/
def spacedOff (layout : Layout) (next : List Part) (s : Text) : Text × Bool :=
  if needsSpace layout next then (s ++ [' '], true) else (s, false)

/-- The color function of three parts and the text of an opacity. -/
def openColorText (layout : Layout) (s : Space) (a b c : Float32) (alpha : Text) : Text :=
  let byte (x : Float32) : Text := decimal (Rgba.byteOfUnit (clampUnit x)).toNat
  let (name, parts) : Text × List Text :=
    if s = .rgb then ("rgb".toList, [byte a, byte b, byte c])
    else ("hsl".toList, [numberText a, percentText b, percentText c])
  match layout with
  | .ordinary => name ++ '(' :: joinWith [' '] parts ++ " / ".toList ++ alpha ++ [')']
  | .compact => name ++ 'a' :: '(' :: joinWith [','] (parts ++ [alpha]) ++ [')']

mutual

/-- The text of one part, and whether it ends in space, given the parts after it
    and whether space stands in front of it. -/
def writePart (layout : Layout) (spaced : Bool) (next : List Part) : Part → Text × Bool
  | .white => ([' '], true)
  | .delim c =>
    if c = '+' ∨ c = '-' then ([' ', c, ' '], true)
    else
      let before := if !spaced && (c == '/' || c == '*') then layout.space else []
      (before ++ c :: layout.space, true)
  | .comma => (',' :: layout.space, true)
  | .closing b => spacedOff layout next b.closeText
  | .url s => (urlText layout s, false)
  | .color c => (c.text layout, false)
  | .openColor s a b c alpha => (openColorText layout s a b c (writeParts layout alpha), false)
  | .schemes light dark =>
    (Color.schemesText layout (writeParts layout light) (writeParts layout dark), false)
  | .quantity q => (q.text layout, false)
  | .reference name fallback =>
    spacedOff layout next
      ("var(".toList ++ identText name ++ writeFallback layout fallback ++ [')'])
  | .surrounding name indices fallback =>
    spacedOff layout next
      ("env(".toList ++ identText name ++ indices.flatMap (fun n => ' ' :: (toString n).toList)
        ++ writeFallback layout fallback ++ [')'])
  | .function name arguments =>
    spacedOff layout next (identText name ++ '(' :: writeParts layout arguments ++ [')'])
  | .literal s => (s, false)

/-- The text of a fallback behind a comma. -/
def writeFallback (layout : Layout) : Option (List Part) → Text
  | some parts => ',' :: layout.space ++ writeParts layout parts
  | none => []

/-- The text of parts, given whether space stands in front of them. -/
def writePartsFrom (layout : Layout) : Bool → List Part → Text
  | _, [] => []
  | spaced, p :: rest =>
    let (s, spaced') := writePart layout spaced rest p
    s ++ writePartsFrom layout spaced' rest

/-- The text of a kept value. White space alone is not written in the ordinary layout. -/
def writeParts (layout : Layout) (parts : List Part) : Text :=
  if isHidden layout parts then [] else writePartsFrom layout false parts

end

end Css

end ResponsiveImages
