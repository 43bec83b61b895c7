import ResponsiveImages.Css.Box

/-!
# Fonts and Text

Values that say how text is set: its font, its decoration and emphasis, its
shadows, the marks of its lists, and how it is broken into lines. A value for
several things at once leaves out those that are as they would be anyway.

The weight and the width of a font have words and numbers that mean the same,
of which the compact layout uses the numbers. The name of a font is written
without quotes if that is shorter and does not turn it into a keyword.

## Main definitions

* `Reader.fontWeight`, `Reader.fontWidth`, `Reader.fontFamily`, `Reader.font`: Fonts.
* `Reader.decorationLine`, `Reader.decoration`: Lines at text.
* `Reader.emphasisStyle`, `Reader.emphasis`: Marks above text.
* `Reader.shadow`: Shadows of boxes and text.
* `Reader.textTransform`, `Reader.textIndent`: Further ways of setting text.
* `Reader.listStyle`: The marks of lists.
-/

namespace ResponsiveImages

namespace Css

open Text

namespace Reader

/-- The weight of a font. -/
def fontWeight : Reader Atom :=
  first [
    .number <$> number,
    do
      word normalWord
      return .spelled normalWord "400".toList,
    do
      word "bold".toList
      return .spelled "bold".toList "700".toList,
    keywordIn "bolder lighter"]
where
  /-- The word for what is usual. -/
  normalWord : Text := "normal".toList

/-- The words for the width of a font with the percentages they stand for. -/
def widthWords : List (Text × Float32) := [
  ("normal".toList, 1), ("ultra-condensed".toList, 0.5), ("extra-condensed".toList, 0.625),
  ("condensed".toList, 0.75), ("semi-condensed".toList, 0.875),
  ("semi-expanded".toList, 1.125), ("expanded".toList, 1.25), ("extra-expanded".toList, 1.5),
  ("ultra-expanded".toList, 2)]

/-- A word for the width of a font. -/
def widthWord : Reader Atom := do
  let name := lower (← ident)
  match widthWords.lookup name with
  | some x => return .spelled name (percentText x)
  | none => failure

/-- The width of a font. -/
def fontWidth : Reader Atom :=
  widthWord <|> (.percentage <$> share)

/-- The size of a font. -/
def fontSize : Reader Atom :=
  first [
    keywordIn "xx-small x-small small medium large x-large xx-large xxx-large smaller larger",
    sizing]

/-- The slope of a font. Fourteen degrees are the usual angle. -/
def fontStyle : Reader (List Atom) :=
  first [
    do return [← keywordIn "normal italic"],
    do
      let style ← keywordIn "oblique"
      match ← maybe angle with
      | some (.quantity q) =>
        return if q == ⟨.angle, 14, "deg".toList⟩ then [style] else [style, .quantity q]
      | _ => return [style]]

/-- The variants of capital letters. -/
def fontCaps : Reader Atom :=
  keywordIn "normal small-caps all-small-caps petite-caps all-petite-caps unicase titling-caps"

/-- The height of a line. -/
def lineHeight : Reader Atom :=
  first [keywordIn "normal", .number <$> number, sizing]

/-- The words that are no names of fonts. -/
def familyWords : List Text :=
  wideWords ++ splitLines [
    "serif sans-serif cursive fantasy monospace system-ui emoji math fangsong ui-serif",
    "ui-sans-serif ui-monospace ui-rounded"]

/-- A word that is no name of a font. -/
def familyWord : Reader Atom :=
  keyword familyWords

/-- The name of a font, without quotes if that is shorter and does not read as a word. -/
def familyName (s : Text) : Atom :=
  let bare := joinWith [' '] ((s.splitOn ' ').map identText)
  let isWord := (familyWord.whole? (components s)).isSome
  if s.isEmpty || isWord || byteLength s + 2 ≤ byteLength bare then
    .string s
  else .spelled bare bare

/-- A font. -/
def fontFamily : Reader (List Atom) :=
  first [
    do return [← familyWord],
    do return [familyName (← string)],
    do return [familyName (joinWith [' '] (← some1 ident))]]

/-- What may stand in front of the size of a font. -/
def fontTraits : Nat → List (Slot (List Atom)) → Reader (Nat × List (Slot (List Atom)))
  | 0, slots => return (0, slots)
  | n + 1, slots => do
    match ← maybe (word "normal".toList) with
    | some _ =>
      let (count, slots) ← fontTraits n slots
      return (count + 1, slots)
    | none =>
      match ← maybe (fillOne slots) with
      | some slots =>
        let (count, slots) ← fontTraits n slots
        return (count + 1, slots)
      | none => return (0, slots)

/-- A font with its size, and possibly more about it. -/
def font : Reader Layers := do
  let (_, slots) ← fontTraits 4 [
    (fontStyle, none),
    (do return [← fontWeight], none),
    (do return [← keywordIn "small-caps"], none),
    (do return [← widthWord], none)]
  let size ← fontSize
  let height ← maybe (do slash; lineHeight)
  let families ← commas fontFamily
  let trait (i : Nat) : List Atom := ((slots[i]?.bind Prod.snd).getD [])
  let front := trait 0 ++ trait 2 ++ trait 1 ++ trait 3 ++ [size]
    ++ match height.filter (· != .keyword "normal".toList) with
      | some h => [.slash, h]
      | none => []
  match families with
  | [] => failure
  | family :: rest => return (front ++ family) :: rest

/-- How high a box of text stands in its line. -/
def verticalAlign : Reader Atom :=
  first [
    keywordIn "baseline sub super top text-top middle bottom text-bottom",
    sizing]

/-- Additional space between letters or words. -/
def spacing : Reader Atom :=
  keywordIn "normal" <|> length

/-- The width of a tabulator, in characters or as a length. -/
def tabSize : Reader Atom :=
  (.number <$> number) <|> length

/-- The indent of the first line. -/
def textIndent : Reader (List Atom) := do
  match ← inAnyOrder [sizing, keywordIn "hanging", keywordIn "each-line"] with
  | [some value, hanging, each] => return value :: hanging.toList ++ each.toList
  | _ => failure

/-- The ways to change letters besides their case, in the order in which they are written. -/
def letterWords : List Text :=
  splitWords "full-width full-size-kana"

/-- The case and the width of letters. A word for nothing cancels the widths in front of it. -/
def textTransform : Reader (List Atom) := do
  let before ← many (oneOf letterWords)
  let letterCase ← maybe (oneOf (splitWords "none uppercase lowercase capitalize"))
  if letterCase == some noWord then return [.keyword noWord]
  let behind ← many (oneOf letterWords)
  let others := letterWords.filter (before ++ behind).contains
  let shown := letterCase.toList ++ others
  return (if shown.isEmpty then [noWord] else shown).map Atom.keyword

/-- The kinds of lines at text, in the order in which they are written. -/
def lineWords : List Text :=
  splitWords "underline overline line-through blink"

/-- The lines that mark errors, which stand alone. -/
def errorWords : List Text :=
  splitWords "spelling-error grammar-error"

/-- One more kind of line behind some others. The word for none and the lines that mark errors
    may only stand in front of all others. -/
def furtherLines : Nat → List Text → Reader (List Text)
  | 0, taken => return taken
  | fuel + 1, taken => do
    let front := if taken.isEmpty then noWord :: errorWords else []
    match ← maybe (oneOf (front ++ lineWords)) with
    | some w => furtherLines fuel (if w == noWord then taken else w :: taken)
    | none => return taken

/-- The lines at text. -/
def decorationLine : Reader (List Atom) := do
  let before := (← get).length
  let taken ← furtherLines before []
  if (← get).length = before then failure
  let shown := (errorWords.filter taken.contains).take 1
  let lines := if shown.isEmpty then lineWords.filter taken.contains else shown
  return (if lines.isEmpty then [noWord] else lines).map Atom.keyword

/-- The style of lines at text. -/
def decorationStyle : Reader Atom :=
  keywordIn "solid double dotted dashed wavy"

/-- The thickness of lines at text. -/
def decorationThickness : Reader Atom :=
  keywordIn "auto from-font" <|> sizing

/-- Lines at text. Without a line the rest does not matter. -/
def decoration : Reader (List Atom) := do
  let single (r : Reader Atom) : Reader (List Atom) := return [← r]
  let taken ← inAnyOrder
    [decorationLine, single decorationThickness, single decorationStyle, single color]
  match taken with
  | [line, thickness, style, color] =>
    let line := line.getD [.keyword noWord]
    let rest := beyond [.keyword auto] (thickness.getD [.keyword auto])
      ++ beyond [.keyword "solid".toList] (style.getD [.keyword "solid".toList])
      ++ beyond [.color .current] (color.getD [.color .current])
    return if line == [.keyword noWord] then line else line ++ rest
  | _ => failure

/-- The marks above text. A filled mark needs no word for that. -/
def emphasisStyle : Reader (List Atom) :=
  first [
    do
      word noWord
      return [.keyword noWord],
    do return [.string (← string)],
    do
      match ← someInAnyOrder
          [keywordIn "filled open", keywordIn "dot circle double-circle triangle sesame"] with
      | [fill, shape] =>
        let filled : Atom := .keyword "filled".toList
        let fill := fill.getD filled
        return (if fill != filled || shape.isNone then [fill] else []) ++ shape.toList
      | _ => failure]

/-- The marks above text and their color. -/
def emphasis : Reader (List Atom) := do
  match ← inAnyOrder [emphasisStyle, return [← color]] with
  | [style, color] =>
    let style := style.getD [.keyword noWord]
    let color := beyond [.color .current] (color.getD [.color .current])
    return if style == [.keyword noWord] then style else style ++ color
  | _ => failure

/-- The side of the line on which marks stand. The right one needs no word. -/
def emphasisPosition : Reader (List Atom) := do
  match ← inAnyOrder [keywordIn "over under", keywordIn "left right"] with
  | [some vertical, horizontal] =>
    return vertical :: (horizontal.filter (· == .keyword "left".toList)).toList
  | _ => failure

/-- The lengths of a shadow. Zeros at the end are left out. -/
def shadowLengths (spread : Bool) : Reader (List Atom) := do
  let x ← length
  let y ← length
  let blur := (← maybe length).getD (.pixels 0)
  let spread' := ((← maybe (if spread then length else failure)).getD (.pixels 0))
  return [x, y] ++ if spread' != .pixels 0 then [blur, spread'] else beyond [.pixels 0] [blur]

/-- A shadow, which may be inside of its box or wider than it. -/
def shadow (inset spread : Bool) : Reader (List Atom) := do
  let single (r : Reader Atom) : Reader (List Atom) := return [← r]
  let inside := if inset then single (keywordIn "inset") else failure
  match ← inAnyOrder [inside, shadowLengths spread, single color] with
  | [inside, some lengths, color] =>
    return inside.getD [] ++ lengths ++ beyond [.color .current] (color.getD [.color .current])
  | _ => failure

/-- The marks of a list spelled out one by one, with the rule for going on behind the last
    of them, of which the usual one is left out. -/
def symbols : Reader Atom :=
  call ["symbols".toList] fun _ => do
    let rule ← maybe (keywordIn "cyclic numeric alphabetic symbolic fixed")
    let marks ← many ((.string <$> string) <|> image)
    let usual := Atom.keyword "symbolic".toList
    return .function "symbols".toList [beyond [usual] [rule.getD usual] ++ marks]

/-- A name, a text or a list of symbols for the marks of a list. -/
def markStyle : Reader Atom :=
  first [
    keyword markWords,
    .string <$> string,
    symbols,
    .name <$> customName]
where
  /-- The known names of marks. -/
  markWords : List Text := splitLines [
    "none decimal decimal-leading-zero arabic-indic armenian upper-armenian lower-armenian",
    "bengali cambodian khmer cjk-decimal devanagari georgian gujarati gurmukhi hebrew",
    "kannada lao malayalam mongolian myanmar oriya persian lower-roman upper-roman tamil",
    "telugu thai tibetan lower-alpha lower-latin upper-alpha upper-latin lower-greek",
    "hiragana hiragana-iroha katakana katakana-iroha disc circle square disclosure-open",
    "disclosure-closed cjk-earthly-branch cjk-heavenly-stem japanese-informal",
    "japanese-formal korean-hangul-formal korean-hanja-informal korean-hanja-formal",
    "simp-chinese-informal simp-chinese-formal trad-chinese-informal trad-chinese-formal",
    "ethiopic-numeric"]

/-- The side of a list item on which its mark stands. -/
def markPosition : Reader Atom :=
  keywordIn "inside outside"

/-- The marks of a list: where they stand, and the picture or else the style that they have.
    The word for no mark may mean both of the latter. Once, it stands for the one that is not
    given, or for both if none is given; twice, for both. -/
def listStyle : Reader (List Atom) := do
  let nothing := keyword [noWord]
  match ← someInAnyOrder [nothing, nothing, nothing, markPosition, image, markStyle] with
  | [none', again, third, position, picture, style] =>
    let nones := ([none', again, third].filter Option.isSome).length
    let given := ([picture, style].filter Option.isSome).length
    if 2 < nones + given then failure else
      let without := if nones = 0 then .keyword "disc".toList else .keyword noWord
      let said := beyond [outside] [position.getD outside]
        ++ beyond [.keyword noWord] [picture.getD (.keyword noWord)]
        ++ beyond [.keyword "disc".toList] [style.getD without]
      return if said.isEmpty then [outside] else said
  | _ => failure
where
  /-- The usual place of a mark. -/
  outside : Atom := .keyword "outside".toList

end Reader

end Css

end ResponsiveImages
