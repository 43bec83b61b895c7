import ResponsiveImages.Css.AtBody

/-!
# Rules of a Sheet

The rules a style sheet is made of once it has been read by the rules of CSS:
rules with selectors, which may hold further rules, and at-rules, which may
hold rules too.

What cannot be read is left out: rules with an unreadable selector, and
at-rules with an unreadable head. Something unreadable in the body of a rule
with selectors takes the declarations in front of it along.

Rules inside of a rule with selectors are written behind it, with its
selectors worked into theirs. The declarations of that rule stay together in
front of them, also those that come later.

## Main definitions

* `SheetRule`: A rule.
* `Body`, `readBody`: The body of a rule with selectors.
* `SheetRule.ofRaw?`, `SheetRule.text`: Reading and writing a rule.
* `readSheet`: The rules of a sheet.
-/

namespace ResponsiveImages

open Text

namespace Css

/-- A rule. -/
inductive SheetRule where
  /-- Declarations for the elements that selectors apply to, and inner rules. -/
  | style (selectors : List Chain) (entries : List Entry) (inner : List SheetRule)
  /-- An at-rule around other rules. -/
  | around (head : AtHead) (inner : List SheetRule)
  /-- An at-rule that describes something. -/
  | described (head : AtHead) (body : AtBody)
  /-- An at-rule without a block. -/
  | statement (head : AtHead)

/-- The body of a rule with selectors, as far as it is read. -/
structure Body where
  entries : List Entry := []
  inner : List SheetRule := []

/-- The body with one more rule, or, if that could not be read, without the declarations in
    front. -/
def Body.add (b : Body) : Option SheetRule → Body
  | some r => { b with inner := b.inner ++ [r] }
  | none => { b with entries := [] }

/-- The rule at the front of the body of another one, and the components behind it. -/
def takeRule (rule? : RawRule → Option SheetRule) (cs : List Spelled) :
    Option SheetRule × List Spelled :=
  let (head, body, rest) := takeAtRule cs
  match body with
  | some body => (rule? ⟨head, some body⟩, rest)
  | none => (if beginsAtRule head then rule? ⟨head, none⟩ else none, rest)

/-- The declaration at the front of a body, and the components behind it. -/
def takeDeclaration? (cs : List Spelled) : Option (Entry × List Spelled) :=
  (Entry.read? (unspelled (cs.takeWhile fun c => !c.isSemicolon))).map fun e =>
    (e, cs.dropWhile fun c => !c.isSemicolon)

/-- Reading the body of a rule with selectors. What is no declaration is an inner rule. -/
def readBody (rule? : RawRule → Option SheetRule) : Nat → Body → List Spelled → Body
  | 0, b, _ => b
  | fuel + 1, b, cs =>
    match cs.dropWhile fun c => betweenEntries c.component with
    | [] => b
    | c :: cs =>
      match takeDeclaration? (c :: cs) with
      | some (e, rest) => readBody rule? fuel { b with entries := b.entries ++ [e] } rest
      | none =>
        let (r, rest) := takeRule rule? (c :: cs)
        readBody rule? fuel (b.add r) rest

namespace SheetRule

/-- The rules in the block of an at-rule. Declarations are allowed inside of a rule with
    selectors, and are for the elements of that one. -/
def rulesIn (place : RulePlace) (rule? : RawRule → Option SheetRule) (body : List Spelled) :
    List SheetRule :=
  if place = .style then
    let b := readBody rule? (body.length + 1) {} body
    if b.entries.isEmpty then b.inner
    else style [.compound [.parent]] b.entries [] :: b.inner
  else (cutRules betweenEntries [] body).filterMap rule?

/-- The rule with a head and a block, given how the rules and the bodies of rules with selectors
    in it are read. -/
def ofBlock? (head : AtHead) (body : List Spelled) (rules : List Spelled → List SheetRule)
    (content : List Spelled → Body) : Option SheetRule :=
  match head with
  | .media _ => some (around head (rules body))
  | .supports _ => some (around head (rules body))
  | .container _ _ => some (around head (rules body))
  | .startingStyle => some (around head (rules body))
  | .scope _ _ => some (around head (rules body))
  | .vendorDocument => some (around head (rules body))
  | .layers names => if names.length ≤ 1 then some (around head (rules body)) else none
  | .nest chains =>
    let b := content body
    some (style chains b.entries b.inner)
  | head => (AtBody.read? head body).map (described head)

/-- The rule with a head that ends at a semicolon. -/
def ofStatement? (place : RulePlace) (head : AtHead) : Option SheetRule :=
  match head with
  | .imports _ => some (statement head)
  | .nameSpace _ _ => some (statement head)
  | .layers names => if names.isEmpty || place = .style then none else some (statement head)
  | .unknown _ _ => some (statement head)
  | _ => none

/-- The place inside of the block of an at-rule. -/
def placeWithin : RulePlace → RulePlace
  | .style => .style
  | _ => .block

/-- Reading a rule in some place. The depth bounds how far rules stand inside of each other. -/
def ofRaw? : Nat → RulePlace → RawRule → Option SheetRule
  | 0, _, _ => none
  | depth + 1, place, r =>
    let content (body : List Spelled) : Body :=
      readBody (ofRaw? depth .style) (body.length + 1) {} body
    match r.atRule?, r.body with
    | some (name, front), some body =>
      (AtHead.read? place name front).bind fun head =>
        let inner := placeWithin place
        ofBlock? head body (rulesIn inner (ofRaw? depth inner)) content
    | some (name, front), none => (AtHead.read? place name front).bind (ofStatement? place)
    | none, some body =>
      let head := unspelled r.head
      (if place = .style then readRelativeChains? head else readChains? head).map fun chains =>
        let b := content body
        style chains b.entries b.inner
    | none, none => none

/-- The scope inside of an at-rule. A scope of its own begins anew. -/
def scopeWithin (scope : Scope) : AtHead → Scope
  | .scope _ _ => .page
  | _ => scope

/-- Whether the rules in the block of an at-rule apply everywhere, so that it need not be
    written. -/
def isIdle : AtHead → Bool
  | .media queries => queries.all MediaQuery.trivial
  | _ => false

mutual

/-- A rule as it is written, given what `&` stands for in it. -/
def text (scope : Scope) : SheetRule → Text
  | style selectors entries inner =>
    (if entries.isEmpty && !inner.isEmpty then []
      else chainsText scope selectors ++ entriesText entries)
      ++ listText (scope.within selectors) inner
  | around head inner =>
    let rules := listText (scopeWithin scope head) inner
    if isIdle head then rules
    else head.text scope ++ '\x7b' :: rules ++ ['\x7d']
  | described head body => head.text scope ++ body.text
  | statement head => head.text scope ++ [';']

/-- Rules as they are written, one behind the other. -/
def listText (scope : Scope) : List SheetRule → Text
  | [] => []
  | r :: rest => r.text scope ++ listText scope rest

end

end SheetRule

/-- What a sheet has held after a rule with a head. -/
def Stage.after (s : Stage) (hasBlock : Bool) : AtHead → Stage
  | .imports _ => if hasBlock then rules else imports
  | .nameSpace _ _ => if hasBlock then rules else nameSpaces
  | .layers _ =>
    if !hasBlock && (s == start || s == layers) then layers else rules
  | _ => if hasBlock then rules else s

/-- What a sheet has held after a rule. A head that cannot be read leaves no trace. -/
def Stage.next (s : Stage) (r : RawRule) : Stage :=
  match r.atRule? with
  | some (name, front) =>
    ((AtHead.read? (.sheet s) name front).map (s.after r.body.isSome)).getD s
  | none => rules

/-- The rules of a sheet, given what it has held before. -/
def readRules (depth : Nat) : Stage → List RawRule → List SheetRule
  | _, [] => []
  | s, r :: rest =>
    (SheetRule.ofRaw? depth (.sheet s) r).toList ++ readRules depth (s.next r) rest

/-- Whether a component is skipped in front of a rule of a sheet. -/
def betweenRules : Component → Bool
  | .token (.white _) => true
  | .token (.comment _) => true
  | .token .commentOpen => true
  | .token .commentClose => true
  | _ => false

/-- Rules without the encoding that they may begin with. -/
def withoutEncoding : List RawRule → List RawRule
  | [] => []
  | r :: rest =>
    match r.atRule? with
    | some (name, _) => if eqIgnoreCase name "charset".toList then rest else r :: rest
    | none => r :: rest

/-- The rules of a sheet. -/
def readSheet (cs : List Spelled) : List SheetRule :=
  readRules (depths (unspelled cs) + 1) .start (withoutEncoding (cutRules betweenRules [] cs))

end Css

end ResponsiveImages
