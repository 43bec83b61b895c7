import ResponsiveImages.Css.Calculation
import ResponsiveImages.Css.Component

/-!
# Reading Calculations

A calculation is read from the function it is written as. A sum is made of
products, with white space around each operator. One of the factors of a
product is a number, and so is a divisor.

Where arguments of a function are read one by one, no white space may stand in
front of the comma between them. Where a function takes any number of
arguments, it may.

The functions of angles and those of plain numbers take arguments of their
own kind, whatever the calculation around them measures.

## Main definitions

* `Terms`: What a calculation is made of.
* `readSum?`, `readProduct?`, `readTerm?`, `readFunction?`: The grammar.
* `Calculation.ofFunction?`: The calculation that a function stands for.
-/

namespace ResponsiveImages

namespace Css

open Text

/-- What a calculation is made of. -/
structure Terms where
  /-- What quantities measure, if there are any. -/
  dimension : Option Dimension := none
  percentages : Bool := false
  /-- What names stand for. -/
  names : Text → Option Calculation := fun _ => none

namespace Terms

/-- Plain numbers. -/
def numbers : Terms := { }

/-- Percentages. -/
def shares : Terms := { percentages := true }

/-- Quantities that measure the same. -/
def quantities (d : Dimension) : Terms := { dimension := some d }

/-- Quantities that measure the same, and percentages of them. -/
def measures (d : Dimension) : Terms := { dimension := some d, percentages := true }

/-- Plain numbers, with the names that stand for numbers. -/
def numbersOf (terms : Terms) : Terms where
  names name :=
    match terms.names name with
    | some (.number x) => some (.number x)
    | _ => none

/-- Angles, with the names that stand for angles and numbers. -/
def anglesOf (terms : Terms) : Terms where
  dimension := some .angle
  names name :=
    match terms.names name with
    | some (.number x) => some (.number x)
    | some (.value (.quantity q)) =>
      if q.dimension = .angle then some (.value (.quantity q)) else none
    | _ => none

/-- An angle in radians, if angles are among what is calculated. -/
def ofRadians? (terms : Terms) (x : Float32) : Option Calculation :=
  if terms.dimension == some .angle then some (.value (.quantity ⟨.angle, x, "rad".toList⟩))
  else none

end Terms

/-- The names of numbers. -/
def constants : List (Text × Float32) := [
  ("e".toList, 2.71828182845904523536), ("pi".toList, 3.14159265358979323846),
  ("infinity".toList, 1 / 0), ("-infinity".toList, -1 / 0),
  ("nan".toList, Float32.ofBits 0x7FC00000)]

/-- The functions from angles to numbers. -/
def angleFunctions : List (Text × (Float32 → Float32)) := [
  ("sin".toList, Float32.sin), ("cos".toList, Float32.cos), ("tan".toList, Float32.tan)]

/-- The functions from numbers to angles. -/
def inverseFunctions : List (Text × (Float32 → Float32)) := [
  ("asin".toList, Float32.asin), ("acos".toList, Float32.acos), ("atan".toList, Float32.atan)]

/-- The functions from a number to a number. -/
def numberFunctions : List (Text × (Float32 → Float32)) := [
  ("sqrt".toList, Float32.sqrt), ("exp".toList, Float32.exp)]

/-- The pieces between commas. -/
def commaPieces (cs : List Component) : List (List Component) :=
  cs.splitOnP Component.isComma

/-- Whether components end with white space. -/
def endInSpace (cs : List Component) : Bool :=
  (cs.reverse.takeWhile Component.isWhite).any Component.isSpace

/-- The pieces between commas with no white space in front of the commas. -/
def closePieces? (cs : List Component) : Option (List (List Component)) :=
  let pieces := commaPieces cs
  if pieces.dropLast.any endInSpace then none else some pieces

/-- The way in which a word in front of some arguments says to round, and the arguments
    behind it. -/
def roundingOf (arguments : List Component) : Rounding × List Component :=
  match arguments.dropWhile Component.isWhite with
  | .token (.ident name) :: rest =>
    match Rounding.names.lookup (lower name), rest.dropWhile Component.isWhite with
    | some way, .token .comma :: rest' => (way, rest')
    | _, _ => (.nearest, arguments)
  | _ => (.nearest, arguments)

/-- The kinds of measures whose relation to each other gives an angle. -/
def relatedTerms (terms : Terms) : List Terms :=
  [.quantities .length, .shares, .quantities .angle, .quantities .time, terms.numbersOf]

/-- The angle of a point, given by two leaves that measure the same. -/
def angleOf? (y x : Calculation) : Option Float32 :=
  match y, x with
  | .value m, .value n => (m.values? n).map fun (b, a) => Float32.atan2 b a
  | .number b, .number a => some (Float32.atan2 b a)
  | _, _ => none

mutual

/-- A term in front of components, and what is behind it. -/
def readTerm? (terms : Terms) : Nat → List Component → Option (Calculation × List Component)
  | 0, _ => none
  | fuel + 1, cs =>
    match cs.dropWhile Component.isWhite with
    | .function name arguments :: rest =>
      (readFunction? terms fuel (lower name) arguments).map fun
        | .wrapped c => (c, rest)
        | c => (c, rest)
    | .block .round body :: rest => (readSum? terms fuel body).map fun c => (c, rest)
    | .token (.number n) :: rest => some (.number n.value.toFloat32, rest)
    | .token (.ident name) :: rest =>
      match constants.lookup (lower name) with
      | some x => some (.number x, rest)
      | none => (terms.names name).map fun c => (c, rest)
    | .token (.percentage n) :: rest =>
      if terms.percentages then some (.value (.share (n.value / 100.0).toFloat32), rest) else none
    | .token (.dimension n unit) :: rest =>
      match Quantity.ofUnit? n.value.toFloat32 unit with
      | some q =>
        if terms.dimension == some q.dimension then some (.value (.quantity q), rest) else none
      | none => none
    | _ => none

/-- The factors and divisors behind a term, and what is behind them. -/
def readFactors? (terms : Terms) :
    Nat → Calculation → List Component → Option (Calculation × List Component)
  | 0, c, cs => some (c, cs)
  | fuel + 1, c, cs =>
    match cs.dropWhile Component.isWhite with
    | .token (.delim operator) :: rest =>
      if operator = '*' then
        match c, readTerm? terms fuel rest with
        | _, some (.number x, rest') => readFactors? terms fuel (c.scale x) rest'
        | .number x, some (c', rest') => readFactors? terms fuel (c'.scale x) rest'
        | _, _ => none
      else if operator = '/' then
        match readTerm? terms fuel rest with
        | some (.number x, rest') =>
          if x == 0 then none else readFactors? terms fuel (c.scale (1 / x)) rest'
        | _ => none
      else some (c, cs)
    | _ => some (c, cs)

/-- A product in front of components, and what is behind it. -/
def readProduct? (terms : Terms) : Nat → List Component → Option (Calculation × List Component)
  | 0, _ => none
  | fuel + 1, cs => (readTerm? terms fuel cs).bind fun (c, rest) => readFactors? terms fuel c rest

/-- The products behind a sum up to the end. -/
def readSummands? (terms : Terms) : Nat → Calculation → List Component → Option Calculation
  | 0, _, _ => none
  | fuel + 1, c, cs =>
    match cs.dropWhile Component.isComment with
    | [] => some c
    | space :: rest =>
      match space.isSpace, rest.dropWhile Component.isWhite with
      | true, [] => some c
      | true, .token (.delim operator) :: rest' =>
        let factor : Option Float32 :=
          if operator = '+' then some 1 else if operator = '-' then some (-1) else none
        match factor, readProduct? terms fuel rest' with
        | some x, some (c', rest'') => readSummands? terms fuel (c.add (c'.scale x)) rest''
        | _, _ => none
      | _, _ => none

/-- The sum that components stand for. -/
def readSum? (terms : Terms) : Nat → List Component → Option Calculation
  | 0, _ => none
  | fuel + 1, cs =>
    (readProduct? terms fuel cs).bind fun (c, rest) => readSummands? terms fuel c rest

/-- The sums that pieces stand for. -/
def readSums? (terms : Terms) : Nat → List (List Component) → Option (List Calculation)
  | 0, _ => none
  | _ + 1, [] => some []
  | fuel + 1, piece :: rest =>
    match readSum? terms fuel piece, readSums? terms fuel rest with
    | some c, some cs => some (c :: cs)
    | _, _ => none

/-- The sums that some arguments stand for, which are read one by one. -/
def readEach? (terms : Terms) : Nat → List Component → Option (List Calculation)
  | 0, _ => none
  | fuel + 1, arguments => (closePieces? arguments).bind (readSums? terms fuel)

/-- The angle of a point, read with the first of some kinds of terms that it fits. -/
def readAngle? : Nat → List Terms → List Component → Option Float32
  | 0, _, _ => none
  | _ + 1, [], _ => none
  | fuel + 1, terms :: rest, arguments =>
    let angle :=
      match readEach? terms fuel arguments with
      | some [y, x] => angleOf? y x
      | _ => none
    angle <|> readAngle? fuel rest arguments

/-- What a function with a name in lower case stands for. -/
def readFunction? (terms : Terms) : Nat → Text → List Component → Option Calculation
  | 0, _, _ => none
  | fuel + 1, name, arguments =>
    let one (f : Calculation → Option Calculation) : Option Calculation :=
      (readSum? terms fuel arguments).bind f
    let two (op : Float32 → Float32 → Float32)
        (form : Calculation → Calculation → Calculation) (arguments : List Component) :
        Option Calculation :=
      match readEach? terms fuel arguments with
      | some [a, b] => some ((a.combine? op b).getD (form a b))
      | _ => none
    match angleFunctions.lookup name, inverseFunctions.lookup name,
        numberFunctions.lookup name with
    | some f, _, _ =>
      match readSum? terms.anglesOf fuel arguments with
      | some (.value (.quantity q)) => some (.number (f q.radians))
      | some (.number x) => some (.number (f x))
      | _ => none
    | _, some f, _ =>
      match readSum? terms.anglesOf fuel arguments with
      | some (.number x) =>
        if (f x).isNaN then some (.number (f x)) else terms.ofRadians? (f x)
      | _ => none
    | _, _, some f =>
      match readSum? terms.numbersOf fuel arguments with
      | some (.number x) => some (.number (f x))
      | _ => none
    | none, none, none =>
      if name == "calc".toList then
        one fun
          | .value m => some (.value m)
          | .number x => some (.number x)
          | c => some (.wrapped c)
      else if name == "min".toList then
        (readSums? terms fuel (commaPieces arguments)).map
          (Calculation.pick Calculation.isLess .least)
      else if name == "max".toList then
        (readSums? terms fuel (commaPieces arguments)).map
          (Calculation.pick Calculation.isGreater .greatest)
      else if name == "clamp".toList then
        match readEach? terms fuel arguments with
        | some [low, middle, high] => some (Calculation.bound low middle high)
        | _ => none
      else if name == "round".toList then
        let (way, arguments) := roundingOf arguments
        two way.roundTo (.rounded way) arguments
      else if name == "rem".toList then two remainderOf .remainder arguments
      else if name == "mod".toList then two modulusOf .modulus arguments
      else if name == "abs".toList then one fun c => some ((c.map? Float32.abs).getD (.size c))
      else if name == "sign".toList then one fun c => some c.signum
      else if name == "hypot".toList then
        (readSums? terms fuel (commaPieces arguments)).map Calculation.distanceFrom
      else if name == "atan2".toList then
        (readAngle? fuel (relatedTerms terms) arguments).bind terms.ofRadians?
      else if name == "pow".toList then
        match readEach? terms.numbersOf fuel arguments with
        | some [.number x, .number y] => some (.number (Float32.pow x y))
        | _ => none
      else if name == "log".toList then
        match readEach? terms.numbersOf fuel arguments with
        | some [.number x] => some (.number (Float32.log x))
        | some [.number x, .number base] => some (.number (Float32.log x / Float32.log base))
        | _ => none
      else none

end

namespace Calculation

/-- The calculation that a function stands for. Each component takes at most ten
    steps. -/
def ofFunction? (terms : Terms) (name : Text) (arguments : List Component) :
    Option Calculation :=
  readFunction? terms (10 * (weights arguments + 2)) (lower name) arguments

end Calculation

end Css

end ResponsiveImages
