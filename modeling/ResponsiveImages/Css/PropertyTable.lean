import ResponsiveImages.Css.Property

/-!
# The Known Properties

All properties with a reader, by what they are about. Any other property is
kept token by token, and its name keeps its case.

## Main definitions

* `Property.table`: The known properties.
* `Property.ofName?`: The property with a name.
* `Property.wideValue`: The values that every property takes.
-/

namespace ResponsiveImages

namespace Css

open Text

namespace Property

open Reader

/-- Backgrounds and masks. -/
def layerTable : List Property :=
  named "background-color" [] (oneAtom color)
    ++ named "background-image" [] (atoms image)
    ++ named "background-position-x" [] (layers (place .horizontal))
    ++ named "background-position-y" [] (layers (place .vertical))
    ++ named "background-position" [] (layers position)
    ++ named "background-size" [] (layers backgroundSize)
    ++ named "background-repeat" [] (layers repetition)
    ++ named "background-attachment" [] (atoms attachment)
    ++ named "background-clip" [.webkit, .moz] (atoms drawingBox)
    ++ named "background-origin" [] (atoms placingBox)
    ++ named "background" [] (layers backdrop)
    ++ named "mask-image" [.webkit] (atoms image)
    ++ named "mask-mode" [] (atoms maskMode)
    ++ named "mask-repeat" [.webkit] (layers repetition)
    ++ named "mask-position-x" [] (layers (place .horizontal))
    ++ named "mask-position-y" [] (layers (place .vertical))
    ++ named "mask-position" [.webkit] (layers position)
    ++ named "mask-clip" [.webkit] (atoms maskArea)
    ++ named "mask-origin" [.webkit] (atoms maskBox)
    ++ named "mask-size" [.webkit] (layers backgroundSize)
    ++ named "mask-composite" [] (atoms maskJoin)
    ++ named "mask-type" [] (oneWord "luminance alpha")
    ++ named "mask" [.webkit] (layers mask)
    ++ marked "mask-source-type" [.webkit] (atoms (keywordIn "auto luminance alpha"))
    ++ named "mask-border-source" [] (oneAtom image)
    ++ named "mask-border-mode" [] (oneAtom maskBorderMode)
    ++ named "mask-border-slice" [] (oneLayer slices)
    ++ named "mask-border-width" [] (oneLayer sliceWidths)
    ++ named "mask-border-outset" [] (oneLayer (sides numberOrLength))
    ++ named "mask-border-repeat" [] (oneLayer sliceFilling)
    ++ named "mask-border" [] (oneLayer maskBorder)
    ++ marked "mask-box-image-source" [.webkit] (oneAtom image)
    ++ marked "mask-box-image-slice" [.webkit] (oneLayer slices)
    ++ marked "mask-box-image-width" [.webkit] (oneLayer sliceWidths)
    ++ marked "mask-box-image-outset" [.webkit] (oneLayer (sides numberOrLength))
    ++ marked "mask-box-image-repeat" [.webkit] (oneLayer sliceFilling)
    ++ marked "mask-box-image" [.webkit] (oneLayer borderImage)

/-- Sizes, places and the flow of boxes. -/
def boxTable : List Property :=
  named "width height min-width min-height block-size inline-size" [] (oneAtom (size auto))
    ++ named "min-block-size min-inline-size" [] (oneAtom (size auto))
    ++ named "max-width max-height max-block-size max-inline-size" [] (oneAtom (size noWord))
    ++ named "box-sizing" [.webkit, .moz] (oneWord "content-box border-box")
    ++ named "aspect-ratio" [] (oneLayer aspectRatio)
    ++ named "display" [] (oneLayer display)
    ++ named "visibility" [] (oneWord "visible hidden collapse")
    ++ named "position" [] (oneWord "static relative absolute fixed sticky -webkit-sticky")
    ++ named "top bottom left right inset-block-start inset-block-end" [] (oneAtom sizingOrAuto)
    ++ named "inset-inline-start inset-inline-end" [] (oneAtom sizingOrAuto)
    ++ named "inset-block inset-inline" [] (oneLayer (pairOf sizingOrAuto))
    ++ named "inset" [] (oneLayer (sides sizingOrAuto))
    ++ named "overflow" [] (oneLayer (pairOf overflow))
    ++ named "overflow-x overflow-y" [] (oneAtom overflow)
    ++ named "z-index" [] (oneAtom (keyword [auto] <|> integerAtom))
    ++ named "box-decoration-break" [.webkit] (oneWord "slice clone")
    ++ named "resize" [] (oneWord "none both horizontal vertical block inline")
    ++ named "container-type" [] (oneAtom containerType)
    ++ named "container-name" [] (oneLayer containerNames)
    ++ named "container" [] (oneLayer container)

/-- The spaces inside and outside of boxes. -/
def spaceTable : List Property :=
  ["margin", "padding", "scroll-margin", "scroll-padding"].flatMap fun space =>
    let of (ends : List String) (r : Reader Layers) : List Property :=
      ends.map fun s => ⟨(space ++ s).toList, [none], r⟩
    of [""] (oneLayer (sides sizingOrAuto))
      ++ of ["-block", "-inline"] (oneLayer (pairOf sizingOrAuto))
      ++ of ["-top", "-bottom", "-left", "-right", "-block-start", "-block-end",
        "-inline-start", "-inline-end"] (oneAtom sizingOrAuto)

/-- The sides of a border, and the sides of its other names. -/
def borderSides : List String :=
  ["top", "bottom", "left", "right", "block-start", "block-end", "inline-start", "inline-end"]

/-- Borders, corners and outlines. -/
def borderTable : List Property :=
  (borderSides.flatMap fun side =>
    let of (s : String) (r : Reader Layers) : Property :=
      ⟨("border-" ++ side ++ s).toList, [none], r⟩
    [of "" (oneLayer (border lineStyle)), of "-color" (oneAtom color),
      of "-style" (oneAtom lineStyle), of "-width" (oneAtom lineWidth)])
    ++ named "border border-block border-inline" [] (oneLayer (border lineStyle))
    ++ named "border-color" [] (oneLayer (sides color))
    ++ named "border-style" [] (oneLayer (sides lineStyle))
    ++ named "border-width" [] (oneLayer (sides lineWidth))
    ++ named "border-block-color border-inline-color" [] (oneLayer (pairOf color))
    ++ named "border-block-style border-inline-style" [] (oneLayer (pairOf lineStyle))
    ++ named "border-block-width border-inline-width" [] (oneLayer (pairOf lineWidth))
    ++ named "border-top-left-radius border-top-right-radius" [.webkit, .moz]
      (oneLayer (pairOf sizing))
    ++ named "border-bottom-left-radius border-bottom-right-radius" [.webkit, .moz]
      (oneLayer (pairOf sizing))
    ++ named "border-start-start-radius border-start-end-radius" [] (oneLayer (pairOf sizing))
    ++ named "border-end-start-radius border-end-end-radius" [] (oneLayer (pairOf sizing))
    ++ named "border-radius" [.webkit, .moz] (oneLayer corners)
    ++ named "border-spacing" [] (oneLayer (pairOf length))
    ++ named "border-image-source" [] (oneAtom image)
    ++ named "border-image-outset" [] (oneLayer (sides numberOrLength))
    ++ named "border-image-repeat" [] (oneLayer sliceFilling)
    ++ named "border-image-width" [] (oneLayer sliceWidths)
    ++ named "border-image-slice" [] (oneLayer slices)
    ++ named "border-image" [.webkit, .moz, .o] (oneLayer borderImage)
    ++ named "outline" [] (oneLayer (border outlineStyle))
    ++ named "outline-color" [] (oneAtom color)
    ++ named "outline-style" [] (oneAtom outlineStyle)
    ++ named "outline-width" [] (oneAtom lineWidth)

/-- Flexible boxes, their older forms, and alignment. -/
def alignmentTable : List Property :=
  named "flex-direction" [.webkit, .ms] (oneAtom flexDirection)
    ++ named "flex-wrap" [.webkit, .ms] (oneAtom flexWrap)
    ++ named "flex-flow" [.webkit, .ms] (oneLayer flexFlow)
    ++ named "flex-grow flex-shrink" [.webkit] (oneAtom numberAtom)
    ++ named "flex-basis" [.webkit] (oneAtom sizingOrAuto)
    ++ named "flex" [.webkit, .ms] (oneLayer flex)
    ++ named "order" [.webkit] (oneAtom integerAtom)
    ++ named "align-content" [.webkit] (oneLayer Alignment.alignContent.read)
    ++ named "justify-content" [.webkit] (oneLayer Alignment.justifyContent.read)
    ++ named "align-self" [.webkit] (oneLayer Alignment.alignSelf.read)
    ++ named "justify-self" [] (oneLayer Alignment.justifySelf.read)
    ++ named "align-items" [.webkit] (oneLayer Alignment.alignItems.read)
    ++ named "justify-items" [] (oneLayer Alignment.readItems)
    ++ named "place-content" [] (oneLayer placeContent)
    ++ named "place-self" [] (oneLayer placeSelf)
    ++ named "place-items" [] (oneLayer placeItems)
    ++ named "row-gap column-gap" [] (oneAtom gap)
    ++ named "gap" [] (oneLayer (pairOf gap))
    ++ marked "box-orient" [.webkit, .moz] (oneWord "horizontal vertical inline-axis block-axis")
    ++ marked "box-direction" [.webkit, .moz] (oneWord "normal reverse")
    ++ marked "box-ordinal-group" [.webkit, .moz] (oneAtom integerAtom)
    ++ marked "box-align" [.webkit, .moz] (oneWord "start end center baseline stretch")
    ++ marked "box-flex" [.webkit, .moz] (oneAtom numberAtom)
    ++ marked "box-flex-group" [.webkit] (oneAtom integerAtom)
    ++ marked "box-pack" [.webkit, .moz] (oneWord "start end center justify")
    ++ marked "box-lines" [.webkit, .moz] (oneWord "single multiple")
    ++ marked "flex-pack" [.ms] (oneWord "start end center justify distribute")
    ++ marked "flex-order" [.ms] (oneAtom integerAtom)
    ++ marked "flex-align" [.ms] (oneWord "start end center baseline stretch")
    ++ marked "flex-item-align" [.ms] (oneWord "auto start end center baseline stretch")
    ++ marked "flex-line-pack" [.ms] (oneWord "start end center justify distribute stretch")
    ++ marked "flex-positive flex-negative" [.ms] (oneAtom numberAtom)
    ++ marked "flex-preferred-size" [.ms] (oneAtom sizingOrAuto)

/-- Grids. -/
def gridTable : List Property :=
  named "grid-template-columns grid-template-rows" [] (oneAtom trackListAtom)
    ++ named "grid-auto-columns grid-auto-rows" [] (oneLayer trackSizes)
    ++ named "grid-auto-flow" [] (oneLayer gridFlow)
    ++ named "grid-template-areas" [] (oneAtom gridAreas)
    ++ named "grid-template" [] (oneAtom gridTemplate)
    ++ named "grid" [] (oneLayer grid)
    ++ named "grid-row-start grid-row-end grid-column-start grid-column-end" []
      (oneLayer (GridLine.atoms <$> GridLine.read))
    ++ named "grid-row grid-column" [] (oneLayer gridSpan)
    ++ named "grid-area" [] (oneLayer gridArea)

/-- Fonts, and how text is broken and aligned. -/
def fontTable : List Property :=
  named "font-weight" [] (oneAtom fontWeight)
    ++ named "font-size" [] (oneAtom fontSize)
    ++ named "font-stretch" [] (oneAtom fontWidth)
    ++ named "font-family" [] (layers fontFamily)
    ++ named "font-style" [] (oneLayer fontStyle)
    ++ named "font-variant-caps" [] (oneAtom fontCaps)
    ++ named "line-height" [] (oneAtom lineHeight)
    ++ named "font" [] font
    ++ named "vertical-align" [] (oneAtom verticalAlign)
    ++ named "font-palette" [] (oneAtom (.name <$> dashedName))
    ++ named "text-overflow" [.o] (oneWord "clip ellipsis")
    ++ named "text-transform" [] (oneLayer textTransform)
    ++ named "white-space" [] (oneWord "normal pre nowrap pre-wrap break-spaces pre-line")
    ++ named "tab-size" [.moz, .o] (oneAtom tabSize)
    ++ named "word-break" [] (oneWord "normal keep-all break-all break-word")
    ++ named "line-break" [] (oneWord "auto loose normal strict anywhere")
    ++ named "hyphens" [.webkit, .moz, .ms] (oneWord "none manual auto")
    ++ named "overflow-wrap word-wrap" [] (oneWord "normal anywhere break-word")
    ++ named "text-align" []
      (oneWord "start end left right center justify match-parent justify-all")
    ++ named "text-align-last" [.moz]
      (oneWord "auto start end left right center justify match-parent")
    ++ named "text-justify" [] (oneWord "auto none inter-word inter-character")
    ++ named "word-spacing letter-spacing" [] (oneAtom spacing)
    ++ named "text-indent" [] (oneLayer textIndent)
    ++ named "text-size-adjust" [.webkit, .moz, .ms]
      (oneAtom (keywordIn "auto none" <|> (.percentage <$> share)))
    ++ named "direction" [] (oneWord "ltr rtl")
    ++ named "unicode-bidi" []
      (oneWord "normal embed isolate bidi-override isolate-override plaintext")

/-- The decoration of text and of lists. -/
def decorationTable : List Property :=
  named "text-decoration-line" [.webkit, .moz] (oneLayer decorationLine)
    ++ named "text-decoration-style" [.webkit, .moz] (oneAtom decorationStyle)
    ++ named "text-decoration-color" [.webkit, .moz] (oneAtom color)
    ++ named "text-decoration-thickness" [] (oneAtom decorationThickness)
    ++ named "text-decoration" [.webkit, .moz] (oneLayer decoration)
    ++ named "text-decoration-skip-ink" [.webkit] (oneWord "auto none all")
    ++ named "text-emphasis-style" [.webkit] (oneLayer emphasisStyle)
    ++ named "text-emphasis-color" [.webkit] (oneAtom color)
    ++ named "text-emphasis" [.webkit] (oneLayer emphasis)
    ++ named "text-emphasis-position" [.webkit] (oneLayer emphasisPosition)
    ++ named "text-shadow" [] (layers (shadow false true))
    ++ named "box-shadow" [.webkit, .moz] (layers (shadow true true))
    ++ named "list-style-type" [] (oneAtom markStyle)
    ++ named "list-style-image" [] (oneAtom image)
    ++ named "list-style-position" [] (oneAtom markPosition)
    ++ named "list-style" [] (oneLayer listStyle)
    ++ named "marker-side" [] (oneWord "match-self match-parent")

/-- What a user sees and does: colors, pointers and controls. -/
def interfaceTable : List Property :=
  named "color" [] (oneAtom color)
    ++ named "opacity fill-opacity stroke-opacity" [] (oneAtom opacity)
    ++ named "cursor" [] cursor
    ++ named "caret-color accent-color" [] (oneAtom colorOrAuto)
    ++ named "caret-shape" [] (oneWord "auto bar block underscore")
    ++ named "caret" [] (oneLayer caret)
    ++ named "user-select" [.webkit, .moz, .ms] (oneWord "auto text none contain all")
    ++ named "appearance" [.webkit, .moz, .ms] (oneAtom appearance)
    ++ named "color-scheme" [] (oneLayer colorScheme)

/-- Shapes, and what changes how an element is drawn. -/
def shapeTable : List Property :=
  named "fill stroke" [] (oneLayer paint)
    ++ named "fill-rule clip-rule" [] (oneAtom fillRule)
    ++ named "stroke-width stroke-dashoffset" [] (oneAtom sizing)
    ++ named "stroke-linecap" [] (oneWord "butt round square")
    ++ named "stroke-linejoin" [] (oneWord "miter miter-clip round bevel arcs")
    ++ named "stroke-miterlimit" [] (oneAtom numberAtom)
    ++ named "stroke-dasharray" [] (oneLayer dashes)
    ++ named "marker-start marker-mid marker-end marker" [] (oneAtom urlOrNone)
    ++ named "color-interpolation color-interpolation-filters" []
      (oneWord "auto srgb linear-rgb")
    ++ named "color-rendering image-rendering" []
      (oneWord "auto optimize-speed optimize-quality")
    ++ named "shape-rendering" []
      (oneWord "auto optimize-speed crisp-edges geometric-precision")
    ++ named "text-rendering" []
      (oneWord "auto optimize-speed optimize-legibility geometric-precision")
    ++ named "clip-path" [.webkit] (oneLayer clipping)
    ++ named "filter backdrop-filter" [.webkit] (oneLayer filters)
    ++ named "transform" [.webkit, .moz, .ms, .o] (oneLayer transforms)
    ++ named "transform-origin" [.webkit, .moz, .ms, .o] (oneLayer position)
    ++ named "transform-style" [.webkit, .moz] (oneWord "flat preserve-3-d")
    ++ named "transform-box" []
      (oneWord "content-box border-box fill-box stroke-box view-box")
    ++ named "backface-visibility" [.webkit, .moz] (oneWord "visible hidden")
    ++ named "perspective" [.webkit, .moz] (oneAtom perspective)
    ++ named "perspective-origin" [.webkit, .moz] (oneLayer position)
    ++ named "translate" [] (oneLayer movement)
    ++ named "rotate" [] (oneLayer rotation)
    ++ named "scale" [] (oneLayer scaling)

/-- Animations. -/
def animationTable : List Property :=
  let vendors : List Vendor := [.webkit, .moz, .o]
  named "animation-name" vendors (atoms animationName)
    ++ named "animation-duration animation-delay" vendors (atoms time)
    ++ named "animation-timing-function" vendors (atoms easing)
    ++ named "animation-iteration-count" vendors (atoms repeats)
    ++ named "animation-direction" vendors (atoms (keyword directionWords))
    ++ named "animation-play-state" vendors (atoms (keyword stateWords))
    ++ named "animation-fill-mode" vendors (atoms (keyword fillWords))
    ++ named "animation-composition" [] (atoms (keywordIn "replace add accumulate"))
    ++ named "animation-timeline" [] (atoms timeline)
    ++ named "animation-range-start" [] (layers rangeStart)
    ++ named "animation-range-end" [] (layers rangeEnd)
    ++ named "animation-range" [] (layers range)
    ++ named "animation" vendors (layers animation)
    ++ named "transition-duration transition-delay" [.webkit, .moz, .ms] (atoms time)
    ++ named "transition-timing-function" [.webkit, .moz, .ms] (atoms easing)

/-- What is shown while a page changes into another one. -/
def changeTable : List Property :=
  named "view-transition-name" [] (oneAtom (keywordIn "none auto" <|> (.name <$> customName)))
    ++ named "view-transition-class" [] (oneLayer customNames)
    ++ named "view-transition-group" []
      (oneAtom (keywordIn "normal contain nearest" <|> (.name <$> customName)))

/-- The properties with values of their own. -/
def ownTable : List Property :=
  layerTable ++ boxTable ++ spaceTable ++ borderTable ++ alignmentTable ++ gridTable
    ++ fontTable ++ decorationTable ++ interfaceTable ++ shapeTable ++ animationTable
    ++ changeTable

/-- The properties with values that name other properties, given how known ones are
    written. -/
def transitionTable (known? : Text → Option Text) : List Property :=
  named "transition-property" [.webkit, .moz, .ms] (atoms (propertyName known?))
    ++ named "transition" [.webkit, .moz, .ms] (layers (transition known?))

/-- The property that stands for all others. -/
def allName : Text :=
  "all".toList

/-- The mark and the name proper of a known property, in lower case. The property that stands
    for all others has no mark, whatever is in front of it. -/
def known? (name : Text) : Option (Option Vendor × Text) :=
  let (vendor, rest) := Vendor.split name
  if lower rest == allName then some (none, allName)
  else if (find? (ownTable ++ transitionTable fun _ => none) name).isSome then
    some (vendor, lower rest)
  else none

/-- The name of a known property with its mark. -/
def knownText? (name : Text) : Option Text :=
  (known? name).map fun (vendor, rest) => (vendor.map Vendor.mark).getD [] ++ rest

/-- The known properties. -/
def table : List Property :=
  ownTable ++ transitionTable knownText?

/-- The property with a name. -/
def ofName? (name : Text) : Option Property :=
  find? table name

/-- The words that every property takes. The one that stands for all others takes
    nothing else. -/
def wideValue : Reader Layers :=
  oneWord "initial inherit unset revert revert-layer"

end Property

end Css

end ResponsiveImages
