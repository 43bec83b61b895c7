import ResponsiveImages.Css.CalculationReading

/-!
# Readers of Values

A reader takes what it understands from the front of the components of a
value, from which the white space has been left out, and fails if that is not
what stands there. A value is read if nothing is left of it.

Several properties take their parts in any order. For these there is a list of
readers, each of which is used at most once, and at every step the first one
in the list that can go on does (`inAnyOrder`).

## Main definitions

* `Reader`: Something that takes components from the front.
* `Reader.whole?`: What a reader makes of a whole value.
* `Reader.inAnyOrder`, `Reader.many`, `Reader.commas`: Combining readers.
* `Reader.ident`, `Reader.number`, `Reader.quantity`, …: Readers of single parts.
-/

namespace ResponsiveImages

namespace Css

open Text

/-- Something that takes components from the front of a value. -/
abbrev Reader (α : Type) := StateT (List Component) Option α

namespace Reader

variable {α β : Type}

/-- What a reader makes of components, if it leaves none of them. -/
def whole? (r : Reader α) (cs : List Component) : Option α :=
  match r.run (significant cs) with
  | some (a, []) => some a
  | _ => none

/-- The next component. -/
def component : Reader Component := fun
  | [] => none
  | c :: rest => some (c, rest)

/-- What the next component stands for. -/
def one (f : Component → Option α) : Reader α := do
  match f (← component) with
  | some a => return a
  | none => failure

/-- What a reader takes, if it takes anything. -/
def maybe (r : Reader α) : Reader (Option α) :=
  (some <$> r) <|> pure none

/-- Whether nothing is left. -/
def atEnd : Reader Bool :=
  return (← get).isEmpty

/-- What a reader takes, up to a number of times. -/
def upTo (r : Reader α) : Nat → Reader (List α)
  | 0 => return []
  | n + 1 => do
    match ← maybe r with
    | some a => return a :: (← upTo r n)
    | none => return []

/-- What a reader takes, as often as it can. -/
def many (r : Reader α) : Reader (List α) := do
  upTo r (← get).length

/-- What a reader takes, as often as it can and at least once. -/
def some1 (r : Reader α) : Reader (List α) :=
  return (← r) :: (← many r)

/-- What a reader makes of each of the pieces between commas up to the end. -/
def commas (r : Reader α) : Reader (List α) := fun cs =>
  ((cs.splitOnP Component.isComma).mapM (whole? r)).map fun as => (as, [])

/-- One of several readers. -/
def first : List (Reader α) → Reader α
  | [] => failure
  | r :: rest => r <|> first rest

/-- A reader with what it has taken. -/
abbrev Slot (α : Type) := Reader α × Option α

/-- The slots with the first free one filled that can be. -/
def fillOne : List (Slot α) → Reader (List (Slot α))
  | [] => failure
  | (r, some a) :: rest => return (r, some a) :: (← fillOne rest)
  | (r, none) :: rest =>
    (return (r, some (← r)) :: rest) <|> (return (r, none) :: (← fillOne rest))

/-- The slots with as many of them filled as can be. -/
def fill : Nat → List (Slot α) → Reader (List (Slot α))
  | 0, slots => return slots
  | n + 1, slots => do
    match ← maybe (fillOne slots) with
    | some slots' => fill n slots'
    | none => return slots

/-- What several readers take in any order, each at most once. -/
def inAnyOrder (rs : List (Reader α)) : Reader (List (Option α)) :=
  return (← fill rs.length (rs.map fun r => (r, none))).map Prod.snd

/-- What several readers take in any order, if that is anything at all. -/
def someInAnyOrder (rs : List (Reader α)) : Reader (List (Option α)) := do
  let taken ← inAnyOrder rs
  if taken.any Option.isSome then return taken else failure

/-- A given word in any case. -/
def word (w : Text) : Reader Unit :=
  one fun c => if c.isKeyword w then some () else none

/-- What stands behind a word, if the word is there. -/
def behind (w : Text) (r : Reader α) : Reader (Option α) := do
  match ← maybe (word w) with
  | some () => some <$> r
  | none => return none

/-- A slash. -/
def slash : Reader Unit :=
  one fun c => if c.isDelim '/' then some () else none

/-- A comma. -/
def comma : Reader Unit :=
  one fun c => if c.isComma then some () else none

/-- A name. -/
def ident : Reader Text :=
  one fun
    | .token (.ident name) => some name
    | _ => none

/-- One of some keywords in any case. -/
def oneOf (ks : List Text) : Reader Text := do
  let name ← ident
  if ks.contains (lower name) then return lower name else failure

/-- The words of a text. -/
def splitWords (s : String) : List Text :=
  words s.toList

/-- The words of some lines. -/
def splitLines (lines : List String) : List Text :=
  lines.flatMap splitWords

/-- What a reader makes of the arguments of a function with one of some names. The
    name is given to it in lower case. -/
def call (names : List Text) (inner : Text → Reader α) : Reader α :=
  one fun
    | .function name arguments =>
      let name := lower name
      if names.contains name then (inner name).whole? arguments else none
    | _ => none

/-- A calculation of the given terms. -/
def calculation (terms : Terms) : Reader Calculation :=
  one fun
    | .function name arguments => Calculation.ofFunction? terms name arguments
    | _ => none

/-- A number that is written as such. -/
def plainNumber : Reader Float32 :=
  one fun
    | .token (.number n) => some n.value.toFloat32
    | _ => none

/-- A percentage that is written as such, as a fraction of one. -/
def plainShare : Reader Float32 :=
  one fun
    | .token (.percentage n) => some (n.value / 100.0).toFloat32
    | _ => none

/-- A quantity of the given dimension that is written as such. -/
def plainQuantity (d : Dimension) : Reader Quantity :=
  one fun
    | .token (.dimension n unit) =>
      (Quantity.ofUnit? n.value.toFloat32 unit).filter fun q => q.dimension == d
    | _ => none

/-- A number that is calculated from numbers. -/
def calculatedNumber : Reader Float32 := do
  match ← calculation .numbers with
  | .number x => return x
  | _ => failure

/-- A number. -/
def number : Reader Float32 :=
  calculatedNumber <|> plainNumber

/-- A percentage that is calculated from percentages. -/
def calculatedShare : Reader Float32 := do
  match ← calculation .shares with
  | .value (.share x) => return x
  | _ => failure

/-- A percentage, as a fraction of one. -/
def share : Reader Float32 :=
  calculatedShare <|> plainShare

/-- A number, of which a percentage is a hundredth part each. -/
def factor : Reader Float32 :=
  number <|> share

/-- A quantity of the given dimension that is calculated from such quantities. -/
def calculatedQuantity (d : Dimension) : Reader Quantity := do
  match ← calculation (.quantities d) with
  | .value (.quantity q) => return q
  | _ => failure

/-- A quantity of the given dimension. -/
def quantity (d : Dimension) : Reader Quantity :=
  calculatedQuantity d <|> plainQuantity d

/-- A whole number of 32 bits. -/
def integer : Reader Int :=
  one fun
    | .token (.number n) =>
      if n.whole then
        let x := n.value.abs.floor
        let size : Int := if x < 2147483648.0 then x.toUInt64.toNat else 2147483648
        some (if n.value < 0.0 then -size else min size 2147483647)
      else none
    | _ => none

/-- A string. -/
def string : Reader Text :=
  one fun
    | .token (.string s) => some s
    | _ => none

/-- An address. -/
def url : Reader Text :=
  one fun
    | .token (.url s) => some s
    | .function name arguments =>
      match eqIgnoreCase name "url".toList, significant arguments with
      | true, [.token (.string s)] => some s
      | _, _ => none
    | _ => none

/-- A name that an author has chosen. -/
def customName : Reader Text := do
  let name ← ident
  if wideWords.contains (lower name) then failure else return name

end Reader

end Css

end ResponsiveImages
