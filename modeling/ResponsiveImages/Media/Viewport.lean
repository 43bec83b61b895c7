/-!
# Viewports

The environment a page is shown in: the size of the window in CSS pixels and
the density of the display. Sizes are doubles, so a viewport may be infinite
or not a number; every comparison with the latter fails.

## Main definitions

* `Viewport`: The size and pixel density of a window.
* `rootFontSize`: The length of `1em` inside a media query.
-/

namespace ResponsiveImages

/-- The size of a window in CSS pixels and the density of its display. -/
structure Viewport where
  width : Float := 1024
  height : Float := 768
  pixelRatio : Float := 1

/-- The length of `1em` inside a media query, in CSS pixels. -/
def rootFontSize : Float := 16

end ResponsiveImages
