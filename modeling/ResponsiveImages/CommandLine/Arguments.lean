import ResponsiveImages.Page.Config
import ResponsiveImages.Decimal.Reading

/-!
# Command Line Arguments

A run is given two paths, for the page and for the result, and options among
them. An option with a number takes it behind an equals sign or as the next
argument, which must not look like an option. A bare double hyphen ends the
options. Only `--resize` may be given more than once.

Anything else is a usage error, and so is an empty path.

## Main definitions

* `NumberOption`, `Switch`: The options.
* `Draft`: The arguments read so far.
* `Arguments`: The arguments of a run.
* `Arguments.read?`: Reading the arguments.
* `Arguments.config`: The settings they ask for.
-/

namespace ResponsiveImages

open Text

/-- An option with a number. -/
inductive NumberOption where
  | width
  | height
  | pixelRatio
  | resize
  deriving DecidableEq, Repr

/-- The option with a name. -/
def NumberOption.ofName? (name : Text) : Option NumberOption :=
  [("width".toList, width), ("height".toList, height), ("dpr".toList, pixelRatio),
    ("resize".toList, resize)].lookup name

/-- An option without a value. -/
inductive Switch where
  | noLive
  | cssOnly
  | minify
  deriving DecidableEq, Repr

/-- The switch with a name. -/
def Switch.ofName? (name : Text) : Option Switch :=
  [("no-live".toList, noLive), ("css-only".toList, cssOnly), ("minify".toList, minify)].lookup
    name

/-- The arguments read so far. -/
structure Draft where
  paths : List Text := []
  numbers : List (NumberOption × Float) := []
  switches : List Switch := []

/-- Whether an argument looks like an option. A single hyphen is a path. -/
def looksLikeOption : Text → Bool
  | '-' :: _ :: _ => true
  | _ => false

namespace Draft

/-- The draft with one more path. -/
def addPath? (d : Draft) (path : Text) : Option Draft :=
  if path.isEmpty then none else some { d with paths := d.paths ++ [path] }

/-- The draft with a number set. -/
def setNumber? (d : Draft) (o : NumberOption) (value : Text) : Option Draft :=
  if o ≠ .resize ∧ (d.numbers.any fun entry => entry.1 = o) then none
  else (readFloat? value).map fun x => { d with numbers := d.numbers ++ [(o, x)] }

/-- The draft with a switch set. -/
def setSwitch? (d : Draft) (s : Switch) : Option Draft :=
  if d.switches.contains s then none else some { d with switches := d.switches ++ [s] }

/-- The draft with an option that has its value behind an equals sign. -/
def setJoined? (d : Draft) (name value : Text) : Option Draft :=
  (NumberOption.ofName? name).bind fun o => d.setNumber? o value

/-- The draft with the arguments that follow. -/
def read? (d : Draft) : List Text → Option Draft
  | [] => some d
  | argument :: rest =>
    match afterPrefix? "--".toList argument with
    | some [] => rest.foldlM addPath? d
    | some body =>
      match splitOnce? '=' body with
      | some (name, value) => (d.setJoined? name value).bind fun d' => d'.read? rest
      | none =>
        match NumberOption.ofName? body with
        | some o =>
          match rest with
          | [] => none
          | value :: rest' =>
            if looksLikeOption value then none
            else (d.setNumber? o value).bind fun d' => d'.read? rest'
        | none =>
          ((Switch.ofName? body).bind d.setSwitch?).bind fun d' => d'.read? rest
    | none =>
      if looksLikeOption argument then none
      else (d.addPath? argument).bind fun d' => d'.read? rest

/-- The number of an option that is given at most once. -/
def number (d : Draft) (o : NumberOption) (default : Float) : Float :=
  ((d.numbers.find? fun entry => entry.1 = o).map Prod.snd).getD default

end Draft

/-- The arguments of a run. -/
structure Arguments where
  /-- The path of the page. -/
  input : Text
  /-- The path the result is written to. -/
  output : Text
  viewport : Viewport
  live : Bool
  /-- The widths the window is given after loading. -/
  widths : List Float
  /-- The result is the style sheet instead of the page. -/
  cssOnly : Bool
  minify : Bool

namespace Arguments

/-- The arguments a finished draft stands for. -/
def ofDraft? (d : Draft) : Option Arguments :=
  match d.paths with
  | [input, output] =>
    some {
      input, output
      viewport := {
        width := d.number .width 1024
        height := d.number .height 768
        pixelRatio := d.number .pixelRatio 1 }
      live := !d.switches.contains .noLive
      widths := (d.numbers.filter fun entry => entry.1 = .resize).map Prod.snd
      cssOnly := d.switches.contains .cssOnly
      minify := d.switches.contains .minify }
  | _ => none

/-- Reading the arguments of a run. There are none if they are not used right. -/
def read? (arguments : List Text) : Option Arguments :=
  (({} : Draft).read? arguments).bind ofDraft?

/-- The settings the arguments ask for. A change of the width leaves the rest of
    the viewport as it is. -/
def config (a : Arguments) : Config where
  viewport := a.viewport
  live := a.live
  resizes := a.widths.map fun width => { a.viewport with width }
  minify := a.minify

end Arguments

end ResponsiveImages
