import ResponsiveImages.Css.Selectors

/-!
# Reading Selectors in Style Text

A selector is read compound by compound, with the combinators and the white
space between them. A selector with anything else in it is refused.

States and parts of elements are known in any case and then written in lower
case; other names of states and parts stay as they are, and so do the
arguments of functions that are not known. Four parts are as old as states and
may be written like them, which is also the shorter way.

What may stand behind a part of an element depends on the part (`Standing`).
Behind most parts only what a user does to it can be asked for, behind a part
that is not known there may be anything.

Inside of a rule a selector may begin with a combinator, and one that does not
mention the selectors of the rule is about elements inside of theirs.

## Main definitions

* `userStates`, `structureStates`, `otherStates`: Names of states.
* `PartKind`, `knownPart?`: Parts of elements.
* `Places.read?`: Places among siblings.
* `Standing`: What stands in front of a condition.
* `SelectorItem`, `Chain.ofItems`: The selector that items form.
* `chainIn?`: Reading a selector, given what stands in front of it.
* `readChains?`, `readRelativeChains?`: Reading selectors between commas.
-/

namespace ResponsiveImages

namespace Css

open Text

/-- What a user can do to an element or a part of it. -/
def userStates : List Text :=
  Reader.splitWords "hover active focus focus-visible focus-within"

/-- The states that depend on the place of an element in its tree and need no number. -/
def structureStates : List Text :=
  Reader.splitWords "root empty scope host"

/-- The states of the parts of scroll bars. -/
def scrollbarStates : List Text :=
  Reader.splitLines [
    "horizontal vertical decrement increment start end double-button",
    "single-button no-button corner-present window-inactive"]

/-- The names of further states. -/
def otherStates : List Text :=
  Reader.splitLines [
    "current past future playing paused seeking buffering stalled muted",
    "volume-locked fullscreen -webkit-full-screen -moz-full-screen -ms-fullscreen open closed",
    "modal picture-in-picture popover-open defined any-link -webkit-any-link -moz-any-link",
    "link local-link target target-within visited enabled disabled read-only -moz-read-only",
    "read-write -moz-read-write placeholder-shown -moz-placeholder-shown",
    "-ms-placeholder-shown default checked indeterminate blank valid invalid in-range",
    "out-of-range required optional user-valid user-invalid autofill -webkit-autofill",
    "-o-autofill active-view-transition"]

/-- The names of parts that may also be written like states. -/
def agedParts : List Text :=
  Reader.splitWords "before after first-line first-letter"

/-- The names of other parts. -/
def youngerParts : List Text :=
  Reader.splitLines [
    "cue cue-region selection -moz-selection placeholder -webkit-input-placeholder",
    "-moz-placeholder -ms-input-placeholder marker backdrop -webkit-backdrop",
    "file-selector-button -webkit-file-upload-button -ms-browse view-transition"]

/-- The names of the parts of scroll bars. -/
def scrollbarParts : List Text :=
  Reader.splitLines [
    "-webkit-scrollbar -webkit-scrollbar-button -webkit-scrollbar-track",
    "-webkit-scrollbar-track-piece -webkit-scrollbar-thumb -webkit-scrollbar-corner",
    "-webkit-resizer"]

/-- The names of the parts that may stand behind what is put in place of an element. -/
def slottedParts : List Text :=
  Reader.splitLines [
    "before after marker placeholder -webkit-input-placeholder -moz-placeholder",
    "-ms-input-placeholder file-selector-button -webkit-file-upload-button -ms-browse"]

/-- The names of the parts of a page that changes into another one. -/
def transitionParts : List Text :=
  Reader.splitLines [
    "view-transition-group view-transition-image-pair view-transition-old view-transition-new"]

/-- The kinds of parts, by what may stand behind them. -/
inductive PartKind where
  | known
  | scrollbar
  | transition
  | unknown
  deriving DecidableEq, Repr

namespace Places

/-- The numbers that places are given by, at most. -/
def bound : Int :=
  2147483647

/-- A number of places within the bounds. -/
def clamp (n : Int) : Int :=
  max (-bound - 1) (min n bound)

/-- The whole number of a numeral. -/
def whole (n : Numeral) : Int :=
  let size : Int := n.value.abs.floor.toUInt64.toNat
  clamp (if n.value < 0.0 then -size else size)

/-- A whole number, if it has a sign or not, as asked for. -/
def readWhole (signed : Bool) : Reader Int :=
  Reader.one fun
    | .token (.number n) => if n.whole && n.signed == signed then some (whole n) else none
    | _ => none

/-- The offset behind a sign that stands by itself. -/
def readSigned (step : Int) (negative : Bool) : Reader Places := do
  let n ← readWhole false
  return ⟨step, if negative then -n else n⟩

/-- The offset behind a step, if there is one. -/
def readOffset (step : Int) : Reader Places := do
  match ← get with
  | .token (.delim '+') :: rest =>
    set rest
    readSigned step false
  | .token (.delim '-') :: rest =>
    set rest
    readSigned step true
  | _ => return ⟨step, (← Reader.maybe (readWhole true)).getD 0⟩

/-- What follows a step with its letter and whatever stands behind that. -/
def readBehindStep (step : Int) (letters : Text) : Reader Places :=
  match lower letters with
  | ['n'] => readOffset step
  | ['n', '-'] => readSigned step true
  | 'n' :: '-' :: digits =>
    if digits.all Char.isDigit then
      let size : Nat := digits.foldl (fun n d => 10 * n + (d.toNat - 48)) 0
      return ⟨step, clamp (-size)⟩
    else failure
  | _ => failure

/-- A step that is a word. -/
def readWord (name : Text) : Reader Places :=
  match lower name with
  | '-' :: rest => readBehindStep (-1) rest
  | w =>
    if w == "even".toList then return ⟨2, 0⟩
    else if w == "odd".toList then return ⟨2, 1⟩
    else readBehindStep 1 w

/-- Reading places. -/
def read : Reader Places := do
  match ← Reader.component with
  | .token (.number n) => if n.whole then return ⟨0, whole n⟩ else failure
  | .token (.dimension n unit) =>
    if n.whole then readBehindStep (whole n) unit else failure
  | .token (.ident name) => readWord name
  | .token (.delim '+') => readBehindStep 1 (← Reader.ident)
  | _ => failure

/-- Whether a sign at the front is apart from what follows it. -/
def hasLooseSign (cs : List Component) : Bool :=
  match cs.dropWhile Component.isWhite with
  | .token (.delim '+') :: rest =>
    ((rest.dropWhile Component.isComment).head?.map Component.isSpace).getD false
  | _ => false

/-- The places that components stand for. -/
def read? (cs : List Component) : Option Places :=
  if hasLooseSign cs then none else read.whole? cs

end Places

/-- What stands in front of a condition, and what may not follow any more. -/
structure Standing where
  behindSlotted : Bool := false
  /-- A part that the element has named itself. -/
  behindNamedPart : Bool := false
  behindPart : Bool := false
  behindScrollbar : Bool := false
  behindTransition : Bool := false
  withoutLinks : Bool := false
  withoutParts : Bool := false

namespace Standing

/-- Whether the condition is about something else than an element. -/
def isBehind (st : Standing) : Bool :=
  st.behindSlotted || st.behindNamedPart || st.behindPart

/-- Whether the element can be asked for a part of it. -/
def allowsParts (st : Standing) : Bool :=
  !st.behindPart && !st.withoutParts

/-- Inside of a list of selectors for the same element. -/
def listed (st : Standing) : Standing :=
  { st with withoutParts := true }

/-- Inside of a function for a single compound. -/
def single (st : Standing) : Standing :=
  { st with withoutParts := true, withoutLinks := true }

/-- Behind a part of a kind. -/
def behind (st : Standing) (kind : PartKind) : Standing :=
  match kind with
  | .known => { st with behindPart := true }
  | .scrollbar => { st with behindPart := true, behindScrollbar := true }
  | .transition => { st with behindPart := true, behindTransition := true }
  | .unknown => st

end Standing

/-- An item of a selector. -/
inductive SelectorItem where
  | simple (s : Simple)
  | link (c : Combinator)

/-- The selector that items form. -/
def Chain.ofItems (items : List SelectorItem) : Chain :=
  let add : Chain → SelectorItem → Chain
    | compound simples, .simple s => compound (simples ++ [s])
    | linked front link simples, .simple s => linked front link (simples ++ [s])
    | c, .link link => linked c link []
  items.foldl add (compound [])

/-- How a selector inside of a function is read. -/
abbrev InnerReading := Standing → List Component → Option Chain

/-- The space of names and the name at the front of components, and what is behind them. In the
    name of an attribute there has to be a name. -/
def takeName? (inAttribute : Bool) :
    List Component → Option (NameSpace × Option Text × List Component)
  | .token (.ident space) :: .token (.delim '|') :: rest => explicit (.named space) rest
  | .token (.ident name) :: rest => some (.implied, some name, rest)
  | .token (.delim '*') :: .token (.delim '|') :: rest => explicit .any rest
  | .token (.delim '*') :: rest => if inAttribute then none else some (.implied, none, rest)
  | .token (.delim '|') :: rest => explicit .none rest
  | _ => none
where
  /-- The name behind a space of names. -/
  explicit (space : NameSpace) : List Component → Option (NameSpace × Option Text × List Component)
    | .token (.ident name) :: rest => some (space, some name, rest)
    | .token (.delim '*') :: rest => if inAttribute then none else some (space, none, rest)
    | _ => none

/-- Whether components begin with the name of an element, be it a good one or not. -/
def beginsWithName : List Component → Bool
  | .token (.ident _) :: _ => true
  | .token (.delim c) :: _ => c == '*' || c == '|'
  | _ => false

/-- The test behind the name of an attribute. -/
def attributeTest : Reader (Option AttributeTest) := do
  if ← Reader.atEnd then return none
  let operator ← Reader.one fun
    | .token (.delim '=') => some ['=']
    | .token (.comparison c) => some [c, '=']
    | _ => none
  let value ← Reader.ident <|> Reader.string
  let flag ← Reader.maybe (Reader.oneOf [['i'], ['s']])
  return some ⟨operator, value, flag.bind List.head?⟩

/-- The condition between two square brackets. -/
def attributeOf? (body : List Component) : Option Simple :=
  match takeName? true (body.dropWhile Component.isSpace) with
  | some (space, some name, rest) =>
    let space := if space = .none then .implied else space
    (attributeTest.whole? rest).map (Simple.attribute space name)
  | _ => none

namespace InnerReading

/-- Selectors between commas, or `none` for each that cannot be read. -/
def pieces (inner : InnerReading) (st : Standing) (cs : List Component) : List (Option Chain) :=
  (cs.splitOnP Component.isComma).map (inner st)

/-- Those of the selectors between commas that can be read. -/
def lenient (inner : InnerReading) (st : Standing) (cs : List Component) : List Chain :=
  (pieces inner st cs).filterMap id

/-- The condition that a list of places stands for, behind which there may be selectors. -/
def nth? (inner : InnerReading) (st : Standing) (counting : Counting)
    (arguments : List Component) : Option Simple :=
  if st.isBehind then none
  else
    let isOf (c : Component) : Bool := c.isKeyword "of".toList
    let places := Places.read? (arguments.takeWhile fun c => !isOf c)
    match arguments.dropWhile fun c => !isOf c with
    | [] => places.map (Simple.nth counting)
    | _ :: among =>
      if counting == .children || counting == .childrenFromEnd then
        places.map fun p => .nthAmong counting p (lenient inner st.listed among)
      else none

/-- The grouping with a name, among those that leave out what they cannot read. -/
def lenientGroupings : List (Text × Grouping) := [
  ("is".toList, .any), ("where".toList, .where'), ("-webkit-any".toList, .vendorAny .webkit),
  ("-moz-any".toList, .vendorAny .moz)]

/-- A selector that may begin with a combinator. Then it is about what is found from the element
    that is asked about. -/
def relative? (inner : InnerReading) (st : Standing) (front : Simple) (cs : List Component) :
    Option Chain :=
  match cs.dropWhile Component.isSpace with
  | .token (.delim c) :: rest =>
    match Combinator.ofChar? c with
    | some link => (inner st rest).map (Chain.behind [front] link)
    | none => inner st cs
  | _ => inner st cs

/-- A function that is known for states, with its argument as it is written. -/
def ownFunction? (name : Text) (arguments : List Component) : Option Simple :=
  let names (r : Reader Text) (inner : List Component) : Option Text :=
    ((Reader.commas r).whole? inner).map fun names => joinWith [','] (names.map identText)
  let written (s : Text) : Simple := .state (':' :: name ++ '(' :: s ++ [')'])
  if name == "lang".toList then
    (names (Reader.ident <|> Reader.string) arguments).map written
  else if name == "dir".toList then
    ((Reader.oneOf (Reader.splitWords "ltr rtl")).whole? arguments).map written
  else if name == "active-view-transition-type".toList then
    (names Reader.customName arguments).map written
  else none

/-- The names of the functions that are known for states. -/
def ownFunctions : List Text :=
  Reader.splitWords "lang dir active-view-transition-type"

/-- The condition that a function stands for. -/
def function? (inner : InnerReading) (st : Standing) (name : Text)
    (arguments : List Component) : Option Simple :=
  let known := lower name
  match Counting.names.lookup known, lenientGroupings.lookup known with
  | some counting, _ => nth? inner st counting arguments
  | none, some grouping => some (.group grouping (lenient inner st.listed arguments))
  | none, none =>
    if known == "not".toList then
      ((pieces inner st.listed arguments).mapM id).map (.group .none)
    else if known == "has".toList then
      some (.group .has (lenient (fun st cs => relative? inner st .scope cs) st arguments))
    else if st.isBehind then none
    else if known == "host".toList then
      (inner st.single arguments).map (.inside ":host(".toList)
    else if ownFunctions.contains known then ownFunction? known arguments
    else
      (verbatim? arguments).map fun s => .state (':' :: name ++ '(' :: s ++ [')'])

end InnerReading

/-- The condition on a state. -/
def stateOf? (st : Standing) (name : Text) : Option Simple :=
  let known := lower name
  let shown : Simple := .state (':' :: known)
  if st.behindSlotted then none
  else
    match Counting.firstNames.lookup known with
    | some counting =>
      if !st.isBehind || (st.behindTransition && counting == .onlyChild) then
        some (.nth counting ⟨0, 1⟩)
      else other known
    | none => if !st.isBehind && structureStates.contains known then some shown else other known
where
  /-- A state that does not depend on the tree. -/
  other (known : Text) : Option Simple :=
    let ofScrollbar := scrollbarStates.contains known
    let byUser := userStates.contains known
    let shown : Simple :=
      if ofScrollbar || byUser || otherStates.contains known then .state (':' :: known)
      else .state (':' :: name)
    let allowed :=
      if st.behindScrollbar then
        ofScrollbar || (Reader.splitWords "enabled disabled hover active").contains known
      else if st.behindPart then byUser
      else !ofScrollbar
    if allowed then some shown else none

/-- The part with a name, as it is written, and its kind. -/
def partOf (name : Text) : Text × PartKind :=
  let known := lower name
  if agedParts.contains known then (':' :: known, .known)
  else if youngerParts.contains known then (':' :: ':' :: known, .known)
  else if scrollbarParts.contains known then (':' :: ':' :: known, .scrollbar)
  else (':' :: ':' :: name, .unknown)

/-- The classes of a part of a page that changes into another one. -/
def partClasses? : List Component → Option Text
  | [] => some []
  | .token (.delim '.') :: .token (.ident name) :: rest =>
    (partClasses? rest).map fun s => '.' :: identText name ++ s
  | _ => none

/-- The part of a page that changes into another one, by its name and its classes. -/
def transitionPart? (arguments : List Component) : Option Text :=
  match arguments.dropWhile Component.isWhite with
  | .token (.delim '*') :: rest => (partClasses? rest).map ('*' :: ·)
  | .token (.ident name) :: rest =>
    if wideWords.contains (lower name) then none
    else (partClasses? rest).map (identText name ++ ·)
  | rest => partClasses? rest

/-- The part that a function stands for, and its kind. -/
def partFunction? (inner : InnerReading) (name : Text) (arguments : List Component) :
    Option (Simple × PartKind) :=
  let known := lower name
  let opening (name : Text) : Text := ':' :: ':' :: name ++ ['(']
  if known == "cue".toList || known == "cue-region".toList then
    (inner {} arguments).map fun c => (.inside (opening known) c, .known)
  else if transitionParts.contains known then
    (transitionPart? arguments).map fun s => (.part (opening known ++ s ++ [')']), .transition)
  else
    (verbatim? arguments).map fun s => (.part (opening name ++ s ++ [')']), .unknown)

/-- The items of a part, and what stands in front of whatever follows it. -/
def partItems (st : Standing) (part : Simple) (kind : PartKind) :
    List SelectorItem × Standing :=
  ((if kind = .unknown then [] else [.link .part]) ++ [.simple part], st.behind kind)

/-- A part by its name. -/
def readPart? (st : Standing) (name : Text) : Option (List SelectorItem × Standing) :=
  let (written, kind) := partOf name
  if !st.allowsParts || (st.behindSlotted && !slottedParts.contains (lower name)) then none
  else some (partItems st (.part written) kind)

/-- A part that is given by a function. -/
def readPartFunction? (inner : InnerReading) (st : Standing) (name : Text)
    (arguments : List Component) : Option (List SelectorItem × Standing) :=
  let known := lower name
  if !st.allowsParts then none
  else if known == "part".toList then
    if st.isBehind then none
    else
      ((Reader.some1 Reader.ident).whole? arguments).map fun names =>
        let s := joinWith [' '] (names.map identText)
        ([.link .namedPart, .simple (.part ("::part(".toList ++ s ++ [')']))],
          { st with behindNamedPart := true })
  else if known == "slotted".toList then
    if st.isBehind then none
    else
      (inner st.single arguments).map fun c =>
        ([.link .slotted, .simple (.inside "::slotted(".toList c)],
          { st with behindSlotted := true })
  else if st.behindSlotted then none
  else (partFunction? inner name arguments).map fun (part, kind) => partItems st part kind

/-- What a reading of a condition finds at the front of components: nothing it could be, or the
    items of it, what stands in front of whatever follows, and the components behind it. -/
abbrev Found := Option (List SelectorItem × Standing × List Component)

/-- The condition at the front of components, or `none` if what stands there is refused. -/
def takeSimple? (inner : InnerReading) (st : Standing) : List Component → Option Found
  | .token (.hash true name) :: rest => plain (.id name) rest
  | .token (.delim '.') :: .token (.ident name) :: rest => plain (.className name) rest
  | .token (.delim '.') :: _ => none
  | .block .square body :: rest => (attributeOf? body).bind fun s => plain s rest
  | .token (.delim '&') :: rest => some (some ([.simple .parent], st, rest))
  | .token .colon :: .token .colon :: .token (.ident name) :: rest =>
    found (readPart? st name) rest
  | .token .colon :: .token .colon :: .function name arguments :: rest =>
    found (readPartFunction? inner st name arguments) rest
  | .token .colon :: .token (.ident name) :: rest =>
    if agedParts.contains (lower name) then found (readPart? st name) rest
    else (stateOf? st name).map fun s => some ([.simple s], st, rest)
  | .token .colon :: .function name arguments :: rest =>
    if agedParts.contains (lower name) then
      found (readPartFunction? inner st name arguments) rest
    else (inner.function? st name arguments).map fun s => some ([.simple s], st, rest)
  | .token .colon :: _ => none
  | _ => some none
where
  /-- A condition on an element, which may not be about a part of it. -/
  plain (s : Simple) (rest : List Component) : Option Found :=
    if st.isBehind then none else some (some ([.simple s], st, rest))
  /-- A part. -/
  found (part : Option (List SelectorItem × Standing)) (rest : List Component) : Option Found :=
    part.map fun (items, st) => some (items, st, rest)

/-- The conditions at the front of components. -/
def takeSimples? (inner : InnerReading) : Nat → Standing → List Component →
    Option (List SelectorItem × Standing × List Component)
  | 0, _, _ => none
  | fuel + 1, st, cs =>
    match takeSimple? inner st cs with
    | none => none
    | some none => some ([], st, cs)
    | some (some (items, st, rest)) =>
      (takeSimples? inner fuel st rest).map fun (others, st, rest) => (items ++ others, st, rest)

/-- The compound at the front of components. -/
def takeCompound? (inner : InnerReading) (st : Standing) (cs : List Component) :
    Option (List SelectorItem × Standing × List Component) :=
  let cs := cs.dropWhile Component.isSpace
  let (parents, cs) : List SelectorItem × List Component :=
    match cs with
    | .token (.delim '&') :: rest => ([.simple .parent], rest)
    | cs => ([], cs)
  let name : Option (List SelectorItem × List Component) :=
    if beginsWithName cs then
      if st.isBehind then none
      else (takeName? false cs).map fun (space, name, rest) => ([.simple (.element space name)], rest)
    else some ([], cs)
  name.bind fun (names, rest) =>
    (takeSimples? inner (rest.length + 1) st rest).bind fun (others, st, rest) =>
      let items := parents ++ names ++ others
      if items.isEmpty then none else some (items, st, rest)

/-- The combinator in front of more components, and the components behind it. At the end there is
    none, and anything else is refused. -/
def takeLink? (cs : List Component) : Option (Option (Combinator × List Component)) :=
  match cs.dropWhile Component.isSpace with
  | [] => some none
  | .token (.delim c) :: rest =>
    match Combinator.ofChar? c with
    | some link => some (some (link, rest))
    | none => spaced (.token (.delim c) :: rest)
  | rest => spaced rest
where
  /-- White space in front of something else stands for being inside of it. -/
  spaced (rest : List Component) : Option (Option (Combinator × List Component)) :=
    if (cs.head?.map Component.isSpace).getD false then some (some (.descendant, rest)) else none

/-- The items of a selector. -/
def itemsOf? (inner : InnerReading) : Nat → Standing → List Component → Option (List SelectorItem)
  | 0, _, _ => none
  | fuel + 1, st, cs =>
    match takeCompound? inner st cs with
    | none => none
    | some (items, st, rest) =>
      if st.isBehind then if rest.all Component.isSpace then some items else none
      else
        match takeLink? rest with
        | none => none
        | some none => some items
        | some (some (link, rest)) =>
          if st.withoutLinks then none
          else (itemsOf? inner fuel st rest).map fun others => items ++ .link link :: others

/-- A selector with functions inside of each other up to a depth. Comments do not separate
    anything. -/
def chainIn? : Nat → InnerReading
  | 0 => fun _ _ => none
  | depth + 1 => fun st cs =>
    let cs := cs.filter fun c => !c.isComment
    (itemsOf? (chainIn? depth) (cs.length + 1) st cs).map Chain.ofItems

/-- How a selector is read whose functions are as deep as those of some components. -/
def readingOf (cs : List Component) : InnerReading :=
  chainIn? (depths cs + 1)

/-- Reading selectors between commas. All of them have to be readable. -/
def readChains? (cs : List Component) : Option (List Chain) :=
  (cs.splitOnP Component.isComma).mapM (readingOf cs {})

/-- Reading a selector of a rule inside of another one. -/
def readRelativeChain? (cs : List Component) : Option Chain :=
  let cs := cs.filter fun c => !c.isComment
  let begins : Bool :=
    match cs.dropWhile Component.isSpace with
    | .token (.delim c) :: _ => (Combinator.ofChar? c).isSome
    | _ => false
  (InnerReading.relative? (readingOf cs) {} .parent cs).map fun chain =>
    if begins || chain.mentionsParent then chain else chain.behind [.parent] .descendant

/-- Reading the selectors of a rule inside of another one. -/
def readRelativeChains? (cs : List Component) : Option (List Chain) :=
  (cs.splitOnP Component.isComma).mapM readRelativeChain?

end Css

end ResponsiveImages
