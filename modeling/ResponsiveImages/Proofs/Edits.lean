import ResponsiveImages.Proofs.SelectorText
import ResponsiveImages.Directive.Options

/-!
# Edits of Attributes

What stays the same in a document when attributes of its elements are edited.

Scanning and synchronizing edit documents in one way only: they set attributes
from a short list of names. Two elements are the same but for some names
(`Element.SameBut`) if they have one tag and agree on every other attribute,
names being compared without regard to case. Two documents are
(`Document.SameBut`) if they have the same nodes in the same places and
elements that are the same but for those names.

Everything that is asked about a document without looking at an edited
attribute has the same answer before and after: its order, the nodes above a
node, the classes of elements, and whatever is decided by them.

## Main definitions

* `Element.SameBut`, `Document.SameBut`: The same but for some attributes.

## Theorems

* `get?_set_self`, `get?_set_of_ne`, `get?_set`: Reading after an attribute has been set.
* `Element.sameBut_setAttribute`: Setting an attribute of an element.
* `Document.modify_modify`, `Document.element?_modify`: Changing a node.
* `Document.sameBut_modify`: Changing an element at a node.
* `Document.sameBut_setAttribute`: Setting an attribute at a node.
* `Document.SameBut.preorder`, `Document.SameBut.ancestors`: Places of nodes.
* `Document.SameBut.hasClass`, `Document.SameBut.rootHasClass`: Classes.
-/

namespace ResponsiveImages

open Text

/-! ### Attributes -/

theorem eqIgnoreCase_self (a : Text) : eqIgnoreCase a a = true := by
  rw [eqIgnoreCase, beq_self_eq_true]

/-- A name that differs from one name differs from its other spellings. -/
theorem eqIgnoreCase_congr {a b : Text} (h : eqIgnoreCase a b = true) (c : Text) :
    eqIgnoreCase a c = eqIgnoreCase b c := by
  rw [eqIgnoreCase, beq_iff_eq] at h
  rw [eqIgnoreCase, eqIgnoreCase, h]

namespace Attributes

theorem get?_cons (n value : Text) (rest : Attributes) (name : Text) :
    Attributes.get? ((n, value) :: rest) name
      = if eqIgnoreCase n name then some value else Attributes.get? rest name := by
  rw [get?, List.find?_cons]
  by_cases h : eqIgnoreCase n name = true
  · simp only [h, if_true, Option.map_some]
  · rw [Bool.not_eq_true] at h
    simp only [h, Bool.false_eq_true, if_false]
    rfl

/-- Reading the attribute that has been set. -/
theorem get?_set_self (attributes : Attributes) (name value : Text) :
    (attributes.set name value).get? name = some value := by
  induction attributes with
  | nil => rw [set, get?_cons, if_pos (eqIgnoreCase_self name)]
  | cons entry rest ih =>
      rcases entry with ⟨n, v⟩
      by_cases h : eqIgnoreCase n name = true
      · rw [set, if_pos h, get?_cons, if_pos h]
      · rw [set, if_neg h, get?_cons, if_neg h, ih]

/-- Reading another attribute than the one that has been set. -/
theorem get?_set_of_ne (attributes : Attributes) {name other : Text} (value : Text)
    (hne : eqIgnoreCase name other = false) :
    (attributes.set name value).get? other = attributes.get? other := by
  induction attributes with
  | nil =>
      rw [set, get?_cons, hne]
      rfl
  | cons entry rest ih =>
      rcases entry with ⟨n, v⟩
      by_cases h : eqIgnoreCase n name = true
      · -- The entry that is written is not the one that is read.
        have hother : eqIgnoreCase n other = false := by
          rw [eqIgnoreCase_congr h other, hne]
        rw [set, if_pos h, get?_cons, get?_cons, hother]
        rfl
      · rw [set, if_neg h, get?_cons, get?_cons, ih]

/-- An attribute is read by any spelling of its name. -/
theorem get?_congr (attributes : Attributes) {name other : Text}
    (h : eqIgnoreCase name other = true) : attributes.get? name = attributes.get? other := by
  rw [eqIgnoreCase, beq_iff_eq] at h
  rw [get?, get?]
  simp only [eqIgnoreCase, h]

/-- Reading any attribute after one has been set. -/
theorem get?_set (attributes : Attributes) (name value other : Text) :
    (attributes.set name value).get? other
      = if eqIgnoreCase name other then some value else attributes.get? other := by
  by_cases h : eqIgnoreCase name other = true
  · rw [if_pos h, ← get?_congr _ h, get?_set_self]
  · rw [if_neg h, get?_set_of_ne _ _ (Bool.not_eq_true _ ▸ h)]

end Attributes

/-! ### Elements -/

namespace Element

/-- Elements that have one tag and agree on all attributes but some. -/
structure SameBut (names : List Text) (e e' : Element) : Prop where
  tag : e'.tag = e.tag
  get? : ∀ name, (∀ n ∈ names, eqIgnoreCase n name = false) →
    e'.attributes.get? name = e.attributes.get? name

theorem SameBut.refl (names : List Text) (e : Element) : SameBut names e e :=
  ⟨rfl, fun _ _ => rfl⟩

theorem SameBut.trans {names : List Text} {e e' e'' : Element} (h : SameBut names e e')
    (h' : SameBut names e' e'') : SameBut names e e'' := by
  refine ⟨h'.tag.trans h.tag, fun name hname => ?_⟩
  rw [h'.get? name hname, h.get? name hname]

/-- Setting an attribute of an element. -/
theorem sameBut_setAttribute {names : List Text} {name : Text} (hname : name ∈ names)
    (e : Element) (value : Text) : SameBut names e (e.setAttribute name value) :=
  ⟨rfl, fun _ hother => Attributes.get?_set_of_ne e.attributes value (hother name hname)⟩

/-- Setting an attribute of both elements to one value. -/
theorem SameBut.setAttribute {names : List Text} {e e' : Element} (h : SameBut names e e')
    (name value : Text) :
    SameBut names (e.setAttribute name value) (e'.setAttribute name value) := by
  refine ⟨h.tag, fun other hother => ?_⟩
  rw [Element.setAttribute, Element.setAttribute, Attributes.get?_set, Attributes.get?_set,
    h.get? other hother]

theorem SameBut.isTag {names : List Text} {e e' : Element} (h : SameBut names e e')
    (tag : Text) : e'.isTag tag = e.isTag tag := by
  rw [Element.isTag, h.tag, Element.isTag]

theorem SameBut.hasClass {names : List Text} {e e' : Element} (h : SameBut names e e')
    (hclass : ∀ n ∈ names, eqIgnoreCase n "class".toList = false) (name : Text) :
    e'.hasClass name = e.hasClass name := by
  rw [Element.hasClass, Attributes.hasClass, Attributes.classes, h.get? _ hclass]
  rfl

end Element

/-! ### Documents -/

theorem Content.eq_of_element? {c : Content} {e : Element} (h : c.element? = some e) :
    c = .element e := by
  cases c with
  | element e' => rw [Option.some.inj h]
  | root => exact absurd h (by simp [Content.element?])
  | text s => exact absurd h (by simp [Content.element?])
  | comment s => exact absurd h (by simp [Content.element?])

namespace Document

/-- Documents with the same nodes in the same places, whose elements are the same
    but for some attributes. -/
structure SameBut (names : List Text) (d d' : Document) : Prop where
  size : d'.nodes.size = d.nodes.size
  children : ∀ i, d'.children i = d.children i
  parent : ∀ i, d'.parent? i = d.parent? i
  element : ∀ i e, d.element? i = some e →
    ∃ e', d'.element? i = some e' ∧ Element.SameBut names e e'
  noElement : ∀ i, d.element? i = none → d'.element? i = none

theorem SameBut.refl (names : List Text) (d : Document) : SameBut names d d :=
  ⟨rfl, fun _ => rfl, fun _ => rfl, fun _ e he => ⟨e, he, Element.SameBut.refl names e⟩,
    fun _ h => h⟩

theorem SameBut.trans {names : List Text} {d d' d'' : Document} (h : SameBut names d d')
    (h' : SameBut names d' d'') : SameBut names d d'' where
  size := h'.size.trans h.size
  children i := (h'.children i).trans (h.children i)
  parent i := (h'.parent i).trans (h.parent i)
  element i e he := by
    rcases h.element i e he with ⟨e', he', hsame⟩
    rcases h'.element i e' he' with ⟨e'', he'', hsame'⟩
    exact ⟨e'', he'', hsame.trans hsame'⟩
  noElement i hi := h'.noElement i (h.noElement i hi)

theorem node?_modify (d : Document) (i j : NodeId) (f : Node → Node) :
    (d.modify i f).node? j = if i = j then (d.node? j).map f else d.node? j := by
  rw [node?, modify, Array.getElem?_modify]
  rfl

theorem element?_eq (d : Document) (i : NodeId) :
    d.element? i = (d.node? i).bind fun n => n.content.element? := by
  rw [element?, content?]
  cases d.node? i with
  | none => rfl
  | some n => rfl

theorem eq_of_node? {d d' : Document} (hdoctype : d'.doctype = d.doctype)
    (h : ∀ i, d'.node? i = d.node? i) : d' = d := by
  rcases d with ⟨nodes, doctype⟩
  rcases d' with ⟨nodes', doctype'⟩
  have hnodes : nodes' = nodes := Array.ext_getElem? h
  rw [hnodes, show doctype' = doctype from hdoctype]

/-- Changing a node twice. -/
theorem modify_modify (d : Document) (i : NodeId) (f g : Node → Node) :
    (d.modify i f).modify i g = d.modify i fun n => g (f n) := by
  refine eq_of_node? rfl fun j => ?_
  rw [node?_modify, node?_modify, node?_modify]
  by_cases hij : i = j
  · rw [if_pos hij, if_pos hij, if_pos hij, Option.map_map]
    rfl
  · rw [if_neg hij, if_neg hij, if_neg hij]

/-- The element at a node that has been changed. -/
theorem element?_modify {d : Document} {i : NodeId} {e e' : Element} {f : Node → Node}
    (he : d.element? i = some e)
    (hf : ∀ n, n.content = .element e → (f n).content = .element e') :
    (d.modify i f).element? i = some e' := by
  rw [element?_eq] at he
  rcases Option.bind_eq_some_iff.mp he with ⟨n, hn, hcontent⟩
  rw [element?_eq, node?_modify, if_pos rfl, hn, Option.map_some, Option.bind_some,
    hf n (Content.eq_of_element? hcontent)]
  rfl

/-- Changing an element at a node. -/
theorem sameBut_modify {names : List Text} (d : Document) (i : NodeId) (f : Node → Node)
    (hchildren : ∀ n, (f n).children = n.children) (hparent : ∀ n, (f n).parent = n.parent)
    (helement : ∀ n e, d.node? i = some n → n.content.element? = some e →
      ∃ e', (f n).content.element? = some e' ∧ Element.SameBut names e e')
    (hother : ∀ n, d.node? i = some n → n.content.element? = none →
      (f n).content.element? = none) :
    SameBut names d (d.modify i f) where
  size := Array.size_modify
  children j := by
    rw [Document.children, node?_modify, Document.children]
    by_cases h : i = j
    · rw [if_pos h]
      cases d.node? j with
      | none => rfl
      | some n => exact hchildren n
    · rw [if_neg h]
  parent j := by
    rw [parent?, node?_modify, parent?]
    by_cases h : i = j
    · rw [if_pos h]
      cases d.node? j with
      | none => rfl
      | some n => exact hparent n
    · rw [if_neg h]
  element j e he := by
    rw [element?_eq] at he
    rcases Option.bind_eq_some_iff.mp he with ⟨n, hn, hcontent⟩
    rw [element?_eq, node?_modify]
    by_cases h : i = j
    · rw [if_pos h, hn]
      exact helement n e (h ▸ hn) hcontent
    · rw [if_neg h, hn]
      exact ⟨e, hcontent, Element.SameBut.refl names e⟩
  noElement j hj := by
    rw [element?_eq] at hj ⊢
    rw [node?_modify]
    by_cases h : i = j
    · rw [if_pos h]
      cases hn : d.node? j with
      | none => rfl
      | some n =>
          rw [hn] at hj
          exact hother n (h ▸ hn) hj
    · rw [if_neg h]
      exact hj

/-- Setting an attribute at a node. -/
theorem sameBut_setAttribute {names : List Text} {name : Text} (hname : name ∈ names)
    (d : Document) (i : NodeId) (value : Text) :
    SameBut names d (d.setAttribute i name value) := by
  refine sameBut_modify d i _ ?_ ?_ ?_ ?_
  · rintro ⟨content, children, parent⟩
    cases content <;> rfl
  · rintro ⟨content, children, parent⟩
    cases content <;> rfl
  · rintro ⟨content, children, parent⟩ e _ he
    obtain rfl : content = .element e := Content.eq_of_element? he
    exact ⟨_, rfl, Element.sameBut_setAttribute hname e value⟩
  · -- What is no element has no attributes and stays as it is.
    rintro ⟨content, children, parent⟩ _ hnone
    cases content with
    | element e' => exact absurd hnone (by simp [Content.element?])
    | root => rfl
    | text s => rfl
    | comment s => rfl

/-- The element at a node after one of its attributes has been set. -/
theorem element?_setAttribute (d : Document) (i : NodeId) (e : Element)
    (he : d.element? i = some e) (name value : Text) :
    (d.setAttribute i name value).element? i = some (e.setAttribute name value) := by
  refine element?_modify he ?_
  rintro ⟨content, children, parent⟩ rfl
  rfl

/-- The other elements after an attribute has been set. -/
theorem element?_setAttribute_of_ne (d : Document) {i j : NodeId} (hne : i ≠ j)
    (name value : Text) : (d.setAttribute i name value).element? j = d.element? j := by
  rw [element?_eq, setAttribute, node?_modify, if_neg hne, ← element?_eq]

/-- Whether the first element at the top, if there is one, has a class. -/
theorem rootHasClass_eq (d : Document) (name : Text) :
    d.rootHasClass name
      = (d.documentElement?.bind d.element?).any fun e => e.hasClass name := by
  rw [Document.rootHasClass]
  cases d.documentElement?.bind d.element? with
  | none => rfl
  | some e => rfl

namespace SameBut

variable {names : List Text} {d d' : Document} (h : SameBut names d d')

include h

theorem walk (depth : Nat) : ∀ i, d'.walk depth i = d.walk depth i := by
  induction depth with
  | zero => intro i; rfl
  | succ depth ih =>
      intro i
      rw [Document.walk, Document.walk, h.children i,
        show d'.walk depth = d.walk depth from funext ih]

theorem preorder : d'.preorder = d.preorder := by
  rw [Document.preorder, h.size, h.walk, Document.preorder]

theorem contains (i : NodeId) : d'.contains i = d.contains i := by
  rw [Document.contains, h.preorder, Document.contains]

theorem climb (steps : Nat) : ∀ i, d'.climb steps i = d.climb steps i := by
  induction steps with
  | zero => intro i; rfl
  | succ steps ih =>
      intro i
      rw [Document.climb, Document.climb, h.parent i]
      -- The way up is the same one step at a time.
      cases d.parent? i with
      | none => rfl
      | some p =>
          simp only [ih p]

theorem ancestors (i : NodeId) : d'.ancestors i = d.ancestors i := by
  rw [Document.ancestors, h.size, h.climb, Document.ancestors]

theorem isSome_element? (i : NodeId) : (d'.element? i).isSome = (d.element? i).isSome := by
  cases he : d.element? i with
  | none => rw [h.noElement i he]
  | some e =>
      rcases h.element i e he with ⟨e', he', _⟩
      rw [he']
      rfl

theorem documentElement? : d'.documentElement? = d.documentElement? := by
  rw [Document.documentElement?, h.children, Document.documentElement?]
  congr 1
  funext i
  exact h.isSome_element? i

variable (hclass : ∀ n ∈ names, eqIgnoreCase n "class".toList = false)

include hclass

/-- Whether the element at a node, if there is one, has a class. -/
theorem any_hasClass (i : NodeId) (name : Text) :
    ((d'.element? i).any fun e => e.hasClass name)
      = (d.element? i).any fun e => e.hasClass name := by
  cases he : d.element? i with
  | none => rw [h.noElement i he]
  | some e =>
      rcases h.element i e he with ⟨e', he', hsame⟩
      rw [he', Option.any_some, Option.any_some, hsame.hasClass hclass]

theorem anyAbove (i : NodeId) (name : Text) : d'.anyAbove i name = d.anyAbove i name := by
  rw [Document.anyAbove, h.ancestors, Document.anyAbove]
  exact List.any_congr rfl fun a => h.any_hasClass hclass a name

theorem rootHasClass (name : Text) : d'.rootHasClass name = d.rootHasClass name := by
  rw [rootHasClass_eq, rootHasClass_eq, h.documentElement?]
  cases d.documentElement? with
  | none => rfl
  | some i => exact h.any_hasClass hclass i name

end SameBut

end Document

end ResponsiveImages
