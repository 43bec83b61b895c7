import ResponsiveImages.Page.Injection
import ResponsiveImages.Page.Scan
import ResponsiveImages.Live.Start
import ResponsiveImages.Stylesheet.Compact
import ResponsiveImages.Document.Markup

/-!
# Processing a Page

The whole run over one document: scanning, injecting the compiled style sheet,
setting the sources for the initial viewport, and replaying the configured
changes of the viewport. A page without marked elements is left as it is.

Changes of the viewport are replayed only if at least one image is driven by
live matching.

## Main definitions

* `PageError`, `PageError.message`: The reasons processing fails.
* `ProcessedPage`: The outcome of processing.
* `Stylesheet.textFor`: A style sheet in the layout the settings ask for.
* `synchronize`: Setting the sources and replaying the viewport changes.
* `process`: Processing a document.
-/

namespace ResponsiveImages

/-- The reason processing a page fails. -/
inductive PageError where
  /-- There is no place to put the style sheet. -/
  | missingHead
  /-- The scan failed. -/
  | scanFailed (reason : ScanError)
  deriving DecidableEq, Repr

/-- The wording of an error. -/
def PageError.message : PageError → Text
  | missingHead => "document has no <head> element to receive the stylesheet".toList
  | scanFailed .elementHeld => "the element being edited had to be inspected".toList

/-- The outcome of processing a page. -/
structure ProcessedPage where
  document : Document
  /-- The injected style sheet as text. -/
  css : Text
  stylesheet : Stylesheet
  images : List ManagedImage
  fallbackMode : Bool
  live : Bool
  report : SyncReport
  /-- The number of sources that were replaced. -/
  updates : Nat

/-- The page as markup. -/
def ProcessedPage.markup (p : ProcessedPage) : Text :=
  p.document.markup

/-- The style sheet as text in the layout the settings ask for. -/
def Stylesheet.textFor (s : Stylesheet) (config : Config) : Text :=
  if config.minify then s.compactText else s.text

/-- Setting the sources of the scanned images in a document and replaying the
    changes of the viewport. -/
def synchronize (config : Config) (scanned : ScanOutcome) (d : Document) :
    SyncReport × Session :=
  let rules := scanned.stylesheet.own
  let (report, state) :=
    LiveState.start rules scanned.live scanned.images
      ({ viewport := config.viewport }, { document := d })
  let resizes := if scanned.live then config.resizes else []
  (report, (resizes.foldl (fun state v => (LiveState.resize rules v state).2) state).2)

/-- Processing a document. -/
def process (config : Config) (d : Document) : Except PageError ProcessedPage :=
  match scan config d with
  | .error reason => .error (.scanFailed reason)
  | .ok scanned =>
    if scanned.images.isEmpty then
      .ok {
        document := scanned.document
        css := []
        stylesheet := {}
        images := []
        fallbackMode := scanned.fallbackMode
        live := scanned.live
        report := {}
        updates := 0 }
    else
      let css := scanned.stylesheet.textFor config
      match scanned.document.injectStylesheet? css with
      | none => .error .missingHead
      | some d' =>
        let (report, session) := synchronize config scanned d'
        .ok {
          document := session.document
          css
          stylesheet := scanned.stylesheet
          images := scanned.images
          fallbackMode := scanned.fallbackMode
          live := scanned.live
          report
          updates := session.updates }

end ResponsiveImages
