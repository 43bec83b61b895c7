import ResponsiveImages.Media.Viewport
import ResponsiveImages.Directive.Options

/-!
# Page Settings

The settings of one run over a page.

## Main definitions

* `Config`: The settings of a run.
-/

namespace ResponsiveImages

/-- The settings of one run over a page. -/
structure Config where
  /-- The class of the elements to manage. -/
  markerClass : Text := "rwdimage".toList
  /-- The class on the root that puts the whole page into fallback mode. -/
  fallbackClass : Text := defaultFallbackClass
  /-- The viewport when the page is loaded. -/
  viewport : Viewport := {}
  /-- Live matching of breakpoints is available. -/
  live : Bool := true
  /-- Changes of the viewport after loading, in order. -/
  resizes : List Viewport := []
  /-- The style sheet is written compactly. -/
  minify : Bool := false

end ResponsiveImages
