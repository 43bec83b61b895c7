import ResponsiveImages.Css.Spelled
import ResponsiveImages.Css.StyleAttribute

/-!
# Bodies of Rules

What stands between the braces of a rule that holds declarations and at-rules
but no rules with selectors: the description of a font, a page, a step of an
animation. Such a body is cut into items. A declaration begins with a name and
ends in front of a semicolon, an at-rule ends at a semicolon or with its
block, and anything else is skipped up to a semicolon.

Rules differ in what an item that cannot be read does to the others. Mostly it
is left out and they stay (`readableEntries`).

## Main definitions

* `BodyItem`, `bodyItems`: The items of a body.
* `RawRule`, `cutRules`: The rules of a body that holds rules.
* `declarationsIn`, `readableEntries`: The declarations of a body.
* `Entry.text`, `bracedText`: Declarations written compactly.
-/

namespace ResponsiveImages

namespace Css

open Text

/-- An item of the body of a rule. -/
inductive BodyItem where
  | declaration (cs : List Spelled)
  | atRule (name : Text) (front : List Spelled) (body : Option (List Spelled))
  | other

namespace Spelled

/-- Whether a component is white space or a comment. -/
def isWhite (c : Spelled) : Bool :=
  c.component.isWhite

/-- Whether a component is a semicolon. -/
def isSemicolon (c : Spelled) : Bool :=
  c.component.isSemicolon

/-- Whether a component is a block in braces. -/
def isBraces (c : Spelled) : Bool :=
  match c.component with
  | .block .curly _ => true
  | _ => false

/-- The name of an at-rule that begins here. -/
def atName? (c : Spelled) : Option Text :=
  match c.component with
  | .token (.atKeyword name) => some name
  | _ => none

/-- Whether a component is a name. -/
def isIdent (c : Spelled) : Bool :=
  match c.component with
  | .token (.ident _) => true
  | _ => false

end Spelled

/-- What stands in front of the block or the semicolon that ends an at-rule, the block, and
    what follows. -/
def takeAtRule (cs : List Spelled) : List Spelled × Option (List Spelled) × List Spelled :=
  let isEnd (c : Spelled) : Bool := c.isSemicolon || c.isBraces
  let front := cs.takeWhile fun c => !isEnd c
  match cs.dropWhile fun c => !isEnd c with
  | [] => (front, none, [])
  | c :: rest => (front, if c.isBraces then some c.inner else none, rest)

/-- The items of a body, up to a number of them. -/
def bodyItemsUpTo : Nat → List Spelled → List BodyItem
  | 0, _ => []
  | fuel + 1, cs =>
    match cs.dropWhile fun c => betweenEntries c.component with
    | [] => []
    | c :: rest =>
      match c.atName? with
      | some name =>
        let (front, body, rest') := takeAtRule rest
        .atRule name front body :: bodyItemsUpTo fuel rest'
      | none =>
        let piece := rest.takeWhile fun d => !d.isSemicolon
        (if c.isIdent then .declaration (c :: piece) else .other)
          :: bodyItemsUpTo fuel (rest.drop piece.length)

/-- The items of a body. -/
def bodyItems (cs : List Spelled) : List BodyItem :=
  bodyItemsUpTo (cs.length + 1) cs

/-- The declaration that an item is. -/
def BodyItem.declaration? : BodyItem → Option (List Spelled)
  | declaration cs => some cs
  | _ => none

/-- The declarations of a body. -/
def declarationsIn (cs : List Spelled) : List (List Spelled) :=
  (bodyItems cs).filterMap BodyItem.declaration?

/-- The entry that an item is. -/
def BodyItem.entry? (item : BodyItem) : Option Entry :=
  item.declaration?.bind fun cs => Entry.read? (unspelled cs)

/-- The declarations of a body that can be read. -/
def readableEntries (cs : List Spelled) : List Entry :=
  (bodyItems cs).filterMap BodyItem.entry?

/-- What stands in front of a block in braces, and the block, which an at-rule that ends at a
    semicolon does not have. -/
structure RawRule where
  head : List Spelled
  body : Option (List Spelled)

namespace RawRule

/-- The name of the at-rule that the rule is, and what stands behind the name. -/
def atRule? (r : RawRule) : Option (Text × List Spelled) :=
  match r.head with
  | c :: front => c.atName?.map fun name => (name, front)
  | [] => none

end RawRule

/-- Whether components begin an at-rule. -/
def beginsAtRule (cs : List Spelled) : Bool :=
  (cs.head?.bind Spelled.atName?).isSome

/-- The rules that stand one behind the other, given what is skipped in front of them and what
    stands in front of the next block so far. An at-rule may end at a semicolon. -/
def cutRules (skipped : Component → Bool) : List Spelled → List Spelled → List RawRule
  | head, [] => if beginsAtRule head then [⟨head, none⟩] else []
  | head, c :: rest =>
    if c.isBraces then ⟨head, some c.inner⟩ :: cutRules skipped [] rest
    else if head.isEmpty && skipped c.component then cutRules skipped [] rest
    else if c.isSemicolon && beginsAtRule head then ⟨head, none⟩ :: cutRules skipped [] rest
    else cutRules skipped (head ++ [c]) rest

/-- A declaration as it is written compactly. -/
def Entry.text (e : Entry) : Text :=
  (e.vendor.map Vendor.mark).getD [] ++ identText e.property ++ ':' :: e.value.text .compact
    ++ (if e.important then "!important".toList else [])

/-- Texts between braces, with semicolons between them. -/
def bracedText (written : List Text) : Text :=
  '\x7b' :: joinWith [';'] written ++ ['\x7d']

/-- Declarations in braces, the important ones last. -/
def entriesText (entries : List Entry) : Text :=
  bracedText ((byImportance entries).map Entry.text)

end Css

end ResponsiveImages
