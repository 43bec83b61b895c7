import ResponsiveImages.Css.AtHead
import ResponsiveImages.Css.Registration

/-!
# Bodies of At-Rules

The blocks of at-rules that describe something and hold no rules for elements:
descriptors, declarations for pages, the steps of an animation.

## Main definitions

* `Step`: A step of an animation.
* `PageBody`: The declarations for pages and for the boxes in their margins.
* `AtBody`: The block of an at-rule.
* `AtBody.read?`, `AtBody.text`: Reading and writing a block.
-/

namespace ResponsiveImages

namespace Css

open Text

/-- A step of an animation, at some points of its time. -/
structure Step where
  points : Layers
  entries : List Entry

namespace Step

/-- A point of the time of an animation. -/
def point : Reader (List Atom) :=
  Reader.first [
    do
      let x ← Reader.share
      return [.spelled (percentText x) (if x == 1 then finish else percentText x)],
    do
      Reader.word start
      return [.spelled start (percentText 0)],
    return [← Reader.keyword [finish]],
    do
      let range ← Reader.keywordIn "cover contain entry exit entry-crossing exit-crossing"
      return [range, .percentage (← Reader.share)]]
where
  /-- The word for the beginning. -/
  start : Text := "from".toList
  /-- The word for the end. -/
  finish : Text := "to".toList

/-- Reading a step. One with a declaration that cannot be read is refused. -/
def read? (r : RawRule) : Option Step :=
  match r.atRule?, r.body with
  | none, some body => do
    let points ← (Reader.commas point).whole? (unspelled r.head)
    return ⟨points, ← (bodyItems body).mapM BodyItem.entry?⟩
  | _, _ => none

/-- Reading the steps in a block. -/
def readAll (body : List Spelled) : List Step :=
  (cutRules betweenEntries [] body).filterMap read?

/-- A step as it is written compactly. -/
def text (s : Step) : Text :=
  s.points.text .compact ++ entriesText s.entries

end Step

/-- The declarations for pages, and those for the boxes in their margins. -/
structure PageBody where
  entries : List Entry
  margins : List (Text × List Entry)

namespace PageBody

/-- The boxes in the margins of a page. -/
def marginBoxes : List Text :=
  Reader.splitLines [
    "top-left-corner top-left top-center top-right top-right-corner left-top left-middle",
    "left-bottom right-top right-middle right-bottom bottom-left-corner bottom-left",
    "bottom-center bottom-right bottom-right-corner"]

/-- The box in the margin that an item of a body is for. -/
def margin? : BodyItem → Option (Text × List Entry)
  | .atRule name front (some body) =>
    if marginBoxes.contains (lower name) && front.all Spelled.isWhite then
      some (lower name, readableEntries body)
    else none
  | _ => none

/-- Reading the block of a rule for pages. -/
def read (body : List Spelled) : PageBody where
  entries := readableEntries body
  margins := (bodyItems body).filterMap margin?

/-- The block as it is written compactly. -/
def text (b : PageBody) : Text :=
  let entries := (byImportance b.entries).map Entry.text
  let margins := b.margins.flatMap fun (name, entries) => '@' :: name ++ entriesText entries
  let last : List Text := if margins.isEmpty then [] else [margins]
  bracedText (entries ++ last)

end PageBody

/-- The block of an at-rule that describes something. -/
inductive AtBody where
  | descriptors (ds : List Descriptor)
  | features (sets : List FeatureSet)
  | entries (es : List Entry)
  | page (b : PageBody)
  | steps (ss : List Step)
  | registration (r : Registration)
  /-- The block of a rule that is not known. -/
  | unknown (parts : List Part)

namespace AtBody

/-- Reading the block behind a head. -/
def read? (head : AtHead) (body : List Spelled) : Option AtBody :=
  match head with
  | .fontFace => some (descriptors (fontFaceDescription.read body))
  | .fontPalette _ => some (descriptors (paletteDescription.read body))
  | .viewTransition => some (descriptors (transitionDescription.read body))
  | .fontFeatures _ => some (features (FeatureSet.read body))
  | .counterStyle _ => some (entries (readableEntries body))
  | .viewport _ => some (entries (readableEntries body))
  | .page _ => some (page (PageBody.read body))
  | .keyframes _ _ => some (steps (Step.readAll body))
  | .property _ => (Registration.read? body).map registration
  | .unknown _ _ => (partsOf? (unspelled body)).map unknown
  | _ => none

/-- A block as it is written compactly. -/
def text : AtBody → Text
  | descriptors ds => bracedText (ds.map Descriptor.text)
  | features sets => '\x7b' :: sets.flatMap FeatureSet.text ++ ['\x7d']
  | entries es => entriesText es
  | page b => b.text
  | steps ss => '\x7b' :: ss.flatMap Step.text ++ ['\x7d']
  | registration r => r.text
  | unknown parts => '\x7b' :: writeParts .compact parts ++ ['\x7d']

end AtBody

end Css

end ResponsiveImages
