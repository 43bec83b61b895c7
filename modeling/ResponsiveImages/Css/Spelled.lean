import ResponsiveImages.Css.Component

/-!
# Spelled Components

Components that still know how they were written. A condition on what a
browser supports, for instance, is not interpreted but handed on letter by
letter, with the quotes, the escapes and the comments of its author, none of
which a component has.

A spelled component does not hold its own text. It holds the text from its
beginning on and the text behind it, which is shared with its neighbours, and
the part between them is cut out when it is asked for.

## Main definitions

* `Spelled`: A component with the text around it.
* `spell`: The components of a text with the text around them.
* `writtenAs`: The text of components that stand next to each other.
-/

namespace ResponsiveImages

namespace Css

/-- A component with the text from it on, the text behind it and what stands inside of it. -/
inductive Spelled where
  | mk (component : Component) (start stop : Text) (inner : List Spelled)

namespace Spelled

/-- The component itself. -/
def component : Spelled → Component
  | mk c _ _ _ => c

/-- The text from the component on. -/
def start : Spelled → Text
  | mk _ s _ _ => s

/-- The text behind the component. -/
def stop : Spelled → Text
  | mk _ _ s _ => s

/-- What stands inside of a block or a function. -/
def inner : Spelled → List Spelled
  | mk _ _ _ cs => cs

end Spelled

/-- The components themselves. -/
def unspelled (cs : List Spelled) : List Component :=
  cs.map Spelled.component

/-- The text from the next token on. -/
def nextSource (sources : List Text) : Text :=
  sources.head?.getD []

mutual

/-- A component with the text around it, given the text from each token on, and what of that
    is left behind it. -/
def spellOne : Component → List Text → Spelled × List Text
  | .token t, sources =>
    (.mk (.token t) (nextSource sources) (nextSource (sources.drop 1)) [], sources.drop 1)
  | .block b body, sources =>
    let (inner, rest) := spellAll body (sources.drop 1)
    (.mk (.block b body) (nextSource sources) (nextSource (rest.drop 1)) inner, rest.drop 1)
  | .function name arguments, sources =>
    let (inner, rest) := spellAll arguments (sources.drop 1)
    (.mk (.function name arguments) (nextSource sources) (nextSource (rest.drop 1)) inner,
      rest.drop 1)

/-- Components with the text around them, given the text from each token on, and what of that
    is left behind them. -/
def spellAll : List Component → List Text → List Spelled × List Text
  | [], sources => ([], sources)
  | c :: cs, sources =>
    let (first, rest) := spellOne c sources
    let (others, rest') := spellAll cs rest
    (first :: others, rest')

end

/-- The components of a text with the text around them. -/
def spell (s : Text) : List Spelled :=
  let lexemes := lex s
  (spellAll (nest (lexemes.map Prod.fst)) (lexemes.map Prod.snd)).1

/-- The text from one place on up to another one behind it. -/
def textBetween (start stop : Text) : Text :=
  start.take (start.length - stop.length)

/-- The text of components that stand next to each other. -/
def writtenAs (cs : List Spelled) : Text :=
  match cs.head?, cs.getLast? with
  | some first, some last => textBetween first.start last.stop
  | _, _ => []

end Css

end ResponsiveImages
