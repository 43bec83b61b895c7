import ResponsiveImages.Stylesheet.Rule
import ResponsiveImages.Stylesheet.SheetRule

/-!
# Compact Style Sheets

A style sheet written with as few characters as its rules allow. The text of
the sheet is read again by the rules of CSS and written in the compact
layout. Rules stay as they are and in their order, also those that could be
joined with a neighbour. A media block whose queries hold everywhere is
written without its query.

## Main definitions

* `Stylesheet.compactText`: A style sheet written compactly.
-/

namespace ResponsiveImages

/-- A style sheet written compactly. -/
def Stylesheet.compactText (s : Stylesheet) : Text :=
  Css.SheetRule.listText .page (Css.readSheet (Css.spell s.text))

end ResponsiveImages
