import ResponsiveImages.Css.ContainerCondition
import ResponsiveImages.Css.Descriptor
import ResponsiveImages.Css.MediaCondition
import ResponsiveImages.Css.SelectorReading
import ResponsiveImages.Css.SupportCondition

/-!
# Heads of At-Rules

An at-rule has a name and a head in front of its block or its semicolon. What
the head says depends on the name: conditions for the rules in the block, a
name for what the block describes, or all there is to say.

Which names are known depends on the place. Some rules only stand in the sheet
itself, and of these, imports have to come before other rules. What describes
something for the whole page does not stand inside of a rule with selectors.
An at-rule with a name that is not known is kept as it is.

## Main definitions

* `Stage`, `RulePlace`: Where a rule stands.
* `LayerName`, `ImportedSheet`, `PageSelector`: Parts of heads.
* `AtHead`: What an at-rule says in front of its block.
* `AtHead.read?`, `AtHead.text`: Reading and writing a head.
-/

namespace ResponsiveImages

namespace Css

open Text

/-- What a sheet has held so far, as far as it matters for what may follow. -/
inductive Stage where
  | start
  | layers
  | imports
  | nameSpaces
  | rules
  deriving DecidableEq, Repr

namespace Stage

/-- Whether imports may follow. -/
def allowsImports (s : Stage) : Bool :=
  s == start || s == layers || s == imports

/-- Whether spaces of names may follow. -/
def allowsNameSpaces (s : Stage) : Bool :=
  s != rules

end Stage

/-- Where a rule stands. -/
inductive RulePlace where
  /-- In the sheet itself. -/
  | sheet (s : Stage)
  /-- In the block of an at-rule. -/
  | block
  /-- Somewhere inside of a rule with selectors. -/
  | style
  deriving DecidableEq, Repr

/-- The name of a cascade layer, part by part. -/
abbrev LayerName := List Text

namespace LayerName

/-- Further parts of a name, behind points without space around them. -/
def takeParts : List Component → LayerName × List Component
  | .token (.delim '.') :: .token (.ident part) :: rest =>
    let (parts, rest) := takeParts rest
    (part :: parts, rest)
  | rest => ([], rest)

/-- Reading a name. -/
def read? (cs : List Component) : Option LayerName :=
  match (cs.filter fun c => !c.isComment).dropWhile Component.isWhite with
  | .token (.ident part) :: rest =>
    let (parts, rest) := takeParts rest
    if rest.all Component.isWhite then some (part :: parts) else none
  | _ => none

/-- Reading the names in pieces between commas. If nothing stands behind the last comma, none of
    the names counts. -/
def ofPieces? : List (List Component) → Option (List LayerName)
  | [] => some []
  | [cs] => if cs.all Component.isWhite then some [] else (read? cs).map fun name => [name]
  | cs :: rest =>
    match read? cs, ofPieces? rest with
    | some name, some (other :: names) => some (name :: other :: names)
    | some _, some [] => some []
    | _, _ => none

/-- A name as it is written. -/
def text (name : LayerName) : Text :=
  joinWith ['.'] (name.map identText)

end LayerName

/-- A sheet that is imported. -/
structure ImportedSheet where
  address : Text
  /-- The layer it is put into, which may have no name. -/
  layer : Option (Option LayerName)
  support : Option SupportCondition
  media : List MediaQuery

namespace ImportedSheet

/-- The address that a component stands for. -/
def addressOf? (c : Component) : Option Text :=
  (Reader.whole? (Reader.url <|> Reader.string)) [c]

/-- The layer at the front of components, if there is one, and what is behind it. -/
def takeLayer? : List Spelled → Option (Option (Option LayerName) × List Spelled)
  | [] => some (none, [])
  | c :: rest =>
    let layerWord := "layer".toList
    match c.component with
    | .token (.ident w) =>
      if eqIgnoreCase w layerWord then some (some none, rest) else some (none, c :: rest)
    | .function name arguments =>
      if eqIgnoreCase name layerWord then
        (LayerName.read? arguments).map fun name => (some (some name), rest)
      else some (none, c :: rest)
    | _ => some (none, c :: rest)

/-- The condition in the parentheses of a function. -/
def supportOf? (cs : List Spelled) : Option SupportCondition :=
  match SupportCondition.take? cs with
  | some (s, rest) => if rest.all Spelled.isWhite then some s else none
  | none => SupportCondition.ofDeclaration? cs

/-- The condition at the front of components, if there is one, and what is behind it. -/
def takeSupport? : List Spelled → Option (Option SupportCondition × List Spelled)
  | [] => some (none, [])
  | c :: rest =>
    match c.component with
    | .function name _ =>
      if eqIgnoreCase name "supports".toList then
        (supportOf? c.inner).map fun s => (some s, rest)
      else some (none, c :: rest)
    | _ => some (none, c :: rest)

/-- Reading what is imported. -/
def read? (cs : List Spelled) : Option ImportedSheet :=
  match cs.filter fun c => !c.isWhite with
  | [] => none
  | c :: rest => do
    let address ← addressOf? c.component
    let (layer, rest) ← takeLayer? rest
    let (support, rest) ← takeSupport? rest
    return ⟨address, layer, support, ← readQueries? (unspelled rest)⟩

/-- The text of a condition in the parentheses of a function. A declaration has parentheses
    already. -/
def supportText (s : SupportCondition) : Text :=
  " supports".toList ++ SupportCondition.wrap (!s.isDeclaration) s.text

/-- What is imported as it is written. -/
def text (s : ImportedSheet) : Text :=
  let layer : Text :=
    match s.layer with
    | none => []
    | some none => " layer".toList
    | some (some name) => " layer(".toList ++ name.text ++ [')']
  stringText s.address ++ layer ++ (s.support.map supportText).getD []
    ++ if s.media.isEmpty then [] else ' ' :: queriesText s.media

end ImportedSheet

/-- The pages that a rule for pages applies to. -/
structure PageSelector where
  name : Option Text
  states : List Text

namespace PageSelector

/-- The states of pages behind colons. -/
def states? : List Component → Option (List Text)
  | [] => some []
  | .token .colon :: .token (.ident w) :: rest =>
    if (Reader.splitWords "left right first last blank").contains (lower w) then
      (states? rest).map (lower w :: ·)
    else none
  | _ => none

/-- Reading a selector. -/
def read? (cs : List Component) : Option PageSelector :=
  match significant cs with
  | .token (.ident name) :: rest => (states? rest).map fun states => ⟨some name, states⟩
  | rest =>
    match states? rest with
    | some [] => none
    | some states => some ⟨none, states⟩
    | none => none

/-- Reading selectors between commas. There may be none at all. -/
def readAll? (cs : List Component) : Option (List PageSelector) :=
  if cs.all Component.isWhite then some []
  else (cs.splitOnP Component.isComma).mapM read?

/-- A selector as it is written. -/
def text (s : PageSelector) : Text :=
  s.name.getD [] ++ s.states.flatMap (':' :: ·)

/-- Selectors as they are written behind the name of the rule. Space is needed in front of a
    name only. -/
def listText (ss : List PageSelector) : Text :=
  (if (ss.head?.bind PageSelector.name).isSome then [' '] else []) ++ joinWith [','] (ss.map text)

end PageSelector

/-- What an at-rule says in front of its block. -/
inductive AtHead where
  | imports (s : ImportedSheet)
  | nameSpace (mark : Option Text) (address : Text)
  /-- The encoding of the sheet, which is known by now. -/
  | encoding
  | property (name : Text)
  | media (queries : List MediaQuery)
  | supports (c : SupportCondition)
  | container (name : Option Text) (c : ContainerCondition)
  | layers (names : List LayerName)
  | startingStyle
  | scope (start stop : Option (List Chain))
  /-- The rules are for the readers of one vendor. -/
  | vendorDocument
  /-- The block belongs to a rule with selectors around it. -/
  | nest (chains : List Chain)
  | fontFace
  | fontFeatures (families : List Atom)
  | fontPalette (name : Text)
  | counterStyle (name : Text)
  | viewport (vendor : Option Vendor)
  | keyframes (vendor : Option Vendor) (name : Text)
  | page (selectors : List PageSelector)
  | viewTransition
  | unknown (name : Text) (front : List Part)

namespace AtHead

/-- How the head of an at-rule with a known name is read. -/
abbrev HeadReading := List Spelled → Option AtHead

/-- A head that says nothing. -/
def bare (head : AtHead) : HeadReading := fun cs =>
  if cs.all Spelled.isWhite then some head else none

/-- A head that is a single name or string. -/
def single (r : Reader Text) (head : Text → AtHead) : HeadReading := fun cs =>
  (r.whole? (unspelled cs)).map head

/-- A name with two hyphens in front. -/
def dashedName : Reader Text := do
  let name ← Reader.ident
  if isCustom name then return name else failure

/-- The name of a sequence of steps. A string may be any name. -/
def stepsName : Reader Text := do
  match ← Reader.maybe Reader.customName with
  | some name => if lower name == noWord then failure else return name
  | none => Reader.string

/-- The head of a space of names. -/
def readNameSpace? : HeadReading := fun cs =>
  let named : Reader AtHead := do
    let mark ← Reader.maybe Reader.ident
    return nameSpace mark (← Reader.url <|> Reader.string)
  named.whole? (unspelled cs)

/-- The head of a container query. -/
def readContainer? : HeadReading := fun cs =>
  let cs := significant (unspelled cs)
  match Reader.containerName.run cs with
  | some (name, rest) => (ContainerCondition.read? rest).map (container (some name))
  | none => (ContainerCondition.read? cs).map (container none)

/-- The selectors in the parentheses of a scope. Those that cannot be read are left out. -/
def scopeChains (cs : List Component) : List Chain :=
  let cs := cs.filter fun c => !c.isComment
  InnerReading.lenient (fun st cs => InnerReading.relative? (readingOf cs) st .scope cs) {} cs

/-- The head of a scope. -/
def readScope? : HeadReading := fun cs =>
  let limit? (rest : List Component) : Option (Option (List Chain)) :=
    match rest with
    | [] => some none
    | [w, .block .round body] =>
      if w.isKeyword "to".toList then some (some (scopeChains body)) else none
    | _ => none
  match significant (unspelled cs) with
  | .block .round body :: rest => (limit? rest).map (scope (some (scopeChains body)))
  | rest => (limit? rest).map (scope none)

/-- The head of rules for the readers of one vendor, who are told by a function without
    meaning. -/
def readDocument? : HeadReading := fun cs =>
  match significant (unspelled cs) with
  | [.function name arguments] =>
    if eqIgnoreCase name "url-prefix".toList then
      match significant arguments with
      | [] => some vendorDocument
      | [.token (.string [])] => some vendorDocument
      | _ => none
    else none
  | _ => none

/-- The head of a block that belongs to a rule around it, whose selectors it has to mention. -/
def readNest? : HeadReading := fun cs =>
  (readChains? (unspelled cs)).bind fun chains =>
    if chains.all Chain.mentionsParent then some (nest chains) else none

/-- The heads that are known in the sheet itself only. -/
def sheetHeads (s : Stage) : List (Text × HeadReading) := [
  ("import".toList, fun cs =>
    if s.allowsImports then (ImportedSheet.read? cs).map imports else none),
  ("namespace".toList, fun cs => if s.allowsNameSpaces then readNameSpace? cs else none),
  ("charset".toList, single Reader.string fun _ => encoding),
  ("property".toList, single dashedName property)]

/-- The heads that are known everywhere. -/
def commonHeads : List (Text × HeadReading) := [
  ("media".toList, fun cs => (readQueries? (unspelled cs)).map media),
  ("supports".toList, fun cs => (SupportCondition.read? cs).map supports),
  ("container".toList, readContainer?),
  ("layer".toList, fun cs =>
    (LayerName.ofPieces? ((unspelled cs).splitOnP Component.isComma)).map layers),
  ("starting-style".toList, bare startingStyle),
  ("scope".toList, readScope?),
  ("-moz-document".toList, readDocument?),
  ("font-face".toList, bare fontFace),
  ("font-feature-values".toList, fun cs =>
    ((Reader.commas Reader.fontName).whole? (unspelled cs)).map fontFeatures),
  ("font-palette-values".toList, single dashedName fontPalette),
  ("counter-style".toList, single Reader.customName counterStyle),
  ("viewport".toList, bare (viewport none)),
  ("-ms-viewport".toList, bare (viewport (some .ms))),
  ("keyframes".toList, single stepsName (keyframes none)),
  ("-webkit-keyframes".toList, single stepsName (keyframes (some .webkit))),
  ("-moz-keyframes".toList, single stepsName (keyframes (some .moz))),
  ("-o-keyframes".toList, single stepsName (keyframes (some .o))),
  ("page".toList, fun cs => (PageSelector.readAll? (unspelled cs)).map page),
  ("view-transition".toList, bare viewTransition)]

/-- The heads that are known in a place. -/
def headsIn : RulePlace → List (Text × HeadReading)
  | .sheet s => sheetHeads s ++ commonHeads
  | .block => commonHeads
  | .style => ("nest".toList, readNest?) :: commonHeads

/-- Whether a rule may stand inside of a rule with selectors. -/
def fitsInStyle : AtHead → Bool
  | media _ => true
  | supports _ => true
  | container _ _ => true
  | layers _ => true
  | startingStyle => true
  | scope _ _ => true
  | vendorDocument => true
  | nest _ => true
  | unknown _ _ => true
  | _ => false

/-- The head of an at-rule with a name that is not known. -/
def readUnknown? (name : Text) : HeadReading := fun cs =>
  (partsOf? ((unspelled cs).dropWhile Component.isWhite)).map (unknown name)

/-- Reading the head of an at-rule. -/
def read? (place : RulePlace) (name : Text) (front : List Spelled) : Option AtHead :=
  let head :=
    match (headsIn place).lookup (lower name) with
    | some reading => reading front
    | none => readUnknown? name front
  head.filter fun h => place != .style || h.fitsInStyle

/-- The selectors of a scope as they are written. The ones it ends at are seen from those it
    begins at. -/
def scopeText (around : Scope) (start stop : Option (List Chain)) : Text :=
  let inner := (start.map around.within).getD .page
  (start.map fun chains => '(' :: chainsText around chains ++ [')']).getD []
    ++ (stop.map fun chains => " to (".toList ++ chainsText inner chains ++ [')']).getD []

/-- The name of a sequence of steps as it is written. Words with another meaning are strings. -/
def stepsNameText (name : Text) : Text :=
  if (noWord :: wideWords).contains (lower name) then stringText name else identText name

/-- A head as it is written compactly, given the scope around it. -/
def text (around : Scope) : AtHead → Text
  | imports s => "@import ".toList ++ s.text
  | nameSpace mark address =>
    "@namespace ".toList ++ ((mark.map fun m => identText m ++ [' ']).getD []) ++ stringText address
  | encoding => []
  | property name => "@property ".toList ++ identText name
  | media queries => "@media ".toList ++ queriesText queries
  | supports c => "@supports ".toList ++ c.text
  | container name c =>
    "@container ".toList ++ ((name.map fun n => identText n ++ [' ']).getD []) ++ c.text
  | layers [] => "@layer".toList
  | layers names => "@layer ".toList ++ joinWith [','] (names.map LayerName.text)
  | startingStyle => "@starting-style".toList
  | scope start stop => "@scope".toList ++ scopeText around start stop
  | vendorDocument => "@-moz-document url-prefix()".toList
  | nest chains => chainsText around chains
  | fontFace => "@font-face".toList
  | fontFeatures families =>
    "@font-feature-values ".toList ++ Layers.text .compact (families.map fun f => [f])
  | fontPalette name => "@font-palette-values ".toList ++ identText name
  | counterStyle name => "@counter-style ".toList ++ identText name
  | viewport vendor => '@' :: (vendor.map Vendor.mark).getD [] ++ "viewport".toList
  | keyframes vendor name =>
    '@' :: (vendor.map Vendor.mark).getD [] ++ "keyframes ".toList ++ stepsNameText name
  | page selectors => "@page".toList ++ PageSelector.listText selectors
  | viewTransition => "@view-transition".toList
  | unknown name front =>
    '@' :: name ++ if front.isEmpty then [] else ' ' :: writeParts .compact front

end AtHead

end Css

end ResponsiveImages
