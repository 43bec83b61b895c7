import ResponsiveImages.Proofs.Edits

/-!
# Writes to a Document

What is left of a document in which attributes have been written, entry by entry.

That two elements agree on all attributes but some (`Element.SameBut`) is about
what can be read. It does not see the order of the entries, nor an entry that is
hidden behind another of the same name. `Attributes.Written` sees both. All
entries keep their names and places, those that are added stand at the end, and an
entry with a new value is the first of its name. Whatever is hidden stays as it is,
since a write goes where a read would go.

Which names may be written differs from node to node (`Document.WrittenAt`), and
where none may, nothing has changed.

## Main definitions

* `Attributes.Written`: Attributes of which some have been written.
* `Element.Written`, `Content.Written`, `Node.Written`: Likewise for what holds them.
* `Document.WrittenAt`: A document in which each node may be written under certain
  names.

## Theorems

* `Attributes.Written.trans`, `Attributes.written_set`: One write after the other.
* `Content.Written.eq_of_none`: Without names nothing has changed.
* `Document.writtenAt_modify`, `Document.writtenAt_setAttribute`: Writing at a node.
* `Document.WrittenAt.element?`: An element that has been written.
-/

namespace ResponsiveImages

open Text

/-! ### Attributes -/

namespace Attributes

/-- Attributes of which some, under given names, have been written. -/
structure Written (names : List Text) (a a' : Attributes) : Prop where
  /-- The entries keep their names and places, and others may be added behind them. -/
  entries : ∃ added, a'.map Prod.fst = a.map Prod.fst ++ added ∧ added ⊆ names
  /-- Whatever differs is the first entry of a name that may be written. -/
  changed : ∀ k, a'[k]? ≠ a[k]? →
    ∃ name ∈ names, (a'.map Prod.fst).findIdx? (fun n => eqIgnoreCase n name) = some k

theorem Written.refl (names : List Text) (a : Attributes) : Written names a a :=
  ⟨⟨[], (List.append_nil _).symm, List.nil_subset _⟩, fun _ h => absurd rfl h⟩

theorem Written.trans {names : List Text} {a a' a'' : Attributes} (h : Written names a a')
    (h' : Written names a' a'') : Written names a a'' := by
  rcases h.entries with ⟨added, hentries, hadded⟩
  rcases h'.entries with ⟨added', hentries', hadded'⟩
  refine ⟨⟨added ++ added', ?_, List.append_subset.mpr ⟨hadded, hadded'⟩⟩, fun k hk => ?_⟩
  · rw [hentries', hentries, List.append_assoc]
  · by_cases hlater : a''[k]? = a'[k]?
    · -- The first entry of a name stays the first one.
      rcases h.changed k (hlater ▸ hk) with ⟨name, hname, hfirst⟩
      refine ⟨name, hname, ?_⟩
      rw [hentries', List.findIdx?_append, hfirst]
      rfl
    · exact h'.changed k hlater

theorem Written.mono {names names' : List Text} {a a' : Attributes} (h : Written names a a')
    (hsub : names ⊆ names') : Written names' a a' := by
  rcases h.entries with ⟨added, hentries, hadded⟩
  refine ⟨⟨added, hentries, List.Subset.trans hadded hsub⟩, fun k hk => ?_⟩
  rcases h.changed k hk with ⟨name, hname, hfirst⟩
  exact ⟨name, hsub hname, hfirst⟩

/-- Writing one value. -/
theorem written_set (a : Attributes) (name value : Text) :
    Written [name] a (a.set name value) := by
  induction a with
  | nil =>
      refine ⟨⟨[name], rfl, List.Subset.refl _⟩, fun k hk => ⟨name, List.mem_cons_self, ?_⟩⟩
      cases k with
      | zero => simp [set, eqIgnoreCase_self]
      | succ k => exact absurd rfl hk
  | cons entry rest ih =>
      rcases entry with ⟨n, v⟩
      by_cases h : eqIgnoreCase n name = true
      · rw [set, if_pos h]
        refine ⟨⟨[], (List.append_nil _).symm, List.nil_subset _⟩, fun k hk => ?_⟩
        refine ⟨name, List.mem_cons_self, ?_⟩
        cases k with
        | zero => rw [List.map_cons, List.findIdx?_cons, if_pos h]
        | succ k => exact absurd rfl hk
      · rw [set, if_neg h]
        rcases ih.entries with ⟨added, hentries, hadded⟩
        refine ⟨⟨added, congrArg (List.cons n) hentries, hadded⟩, fun k hk => ?_⟩
        cases k with
        | zero => exact absurd rfl hk
        | succ k =>
            rcases ih.changed k hk with ⟨name', hname, hfirst⟩
            rw [List.mem_singleton.mp hname] at hfirst
            refine ⟨name, List.mem_cons_self, ?_⟩
            rw [List.map_cons, List.findIdx?_cons, if_neg h, hfirst]
            rfl

theorem Written.eq_of_none {a a' : Attributes} (h : Written [] a a') : a' = a := by
  refine List.ext_getElem? fun k => ?_
  by_contra hk
  rcases h.changed k hk with ⟨_, hname, _⟩
  exact absurd hname List.not_mem_nil

end Attributes

/-! ### Elements and nodes -/

/-- Elements that have one tag and belong to one vocabulary, with written attributes. -/
structure Element.Written (names : List Text) (e e' : Element) : Prop where
  tag : e'.tag = e.tag
  vocabulary : e'.vocabulary = e.vocabulary
  attributes : Attributes.Written names e.attributes e'.attributes

namespace Element

theorem Written.refl (names : List Text) (e : Element) : Written names e e :=
  ⟨rfl, rfl, Attributes.Written.refl names _⟩

theorem Written.trans {names : List Text} {e e' e'' : Element} (h : Written names e e')
    (h' : Written names e' e'') : Written names e e'' :=
  ⟨h'.tag.trans h.tag, h'.vocabulary.trans h.vocabulary, h.attributes.trans h'.attributes⟩

theorem written_setAttribute {names : List Text} {name : Text} (hname : name ∈ names)
    (e : Element) (value : Text) : Written names e (e.setAttribute name value) :=
  ⟨rfl, rfl, (Attributes.written_set e.attributes name value).mono
    (List.cons_subset.mpr ⟨hname, List.nil_subset _⟩)⟩

theorem Written.isTag {names : List Text} {e e' : Element} (h : Written names e e')
    (tag : Text) : e'.isTag tag = e.isTag tag := by
  rw [Element.isTag, h.tag, Element.isTag]

end Element

/-- What a node holds, with written attributes if that is an element. -/
inductive Content.Written (names : List Text) : Content → Content → Prop where
  | same (c : Content) : Written names c c
  | element {e e' : Element} (h : Element.Written names e e') :
      Written names (.element e) (.element e')

namespace Content

theorem Written.trans {names : List Text} {c c' c'' : Content} (h : Written names c c')
    (h' : Written names c' c'') : Written names c c'' := by
  cases h with
  | same => exact h'
  | element h =>
      cases h' with
      | same => exact .element h
      | element h' => exact .element (h.trans h')

/-- Where an element is found there was one before. -/
theorem Written.element? {names : List Text} {c c' : Content} (h : Written names c c')
    {e' : Element} (he' : c'.element? = some e') :
    ∃ e, c.element? = some e ∧ Element.Written names e e' := by
  cases h with
  | same => exact ⟨e', he', Element.Written.refl names e'⟩
  | @element e _ h =>
      rw [Content.element?, Option.some.injEq] at he'
      exact ⟨e, rfl, he' ▸ h⟩

/-- An element stays an element. -/
theorem Written.of_element {names : List Text} {e : Element} {c' : Content}
    (h : Written names (.element e) c') :
    ∃ e', c' = .element e' ∧ Element.Written names e e' := by
  cases h with
  | same => exact ⟨e, rfl, Element.Written.refl names e⟩
  | @element _ e' h => exact ⟨e', rfl, h⟩

/-- Where no name may be written, nothing has changed. -/
theorem Written.eq_of_none {c c' : Content} (h : Written [] c c') : c' = c := by
  cases h with
  | same => rfl
  | @element e e' h =>
      rcases e with ⟨tag, vocabulary, attributes⟩
      rcases e' with ⟨tag', vocabulary', attributes'⟩
      rcases h with ⟨htag, hvocabulary, hattributes⟩
      rw [show tag' = tag from htag, show vocabulary' = vocabulary from hvocabulary,
        show attributes' = attributes from hattributes.eq_of_none]

end Content

/-- Nodes with one place in the document, whose content has been written. -/
structure Node.Written (names : List Text) (n n' : Node) : Prop where
  children : n'.children = n.children
  parent : n'.parent = n.parent
  content : Content.Written names n.content n'.content

namespace Node

theorem Written.refl (names : List Text) (n : Node) : Written names n n :=
  ⟨rfl, rfl, .same _⟩

theorem Written.trans {names : List Text} {n n' n'' : Node} (h : Written names n n')
    (h' : Written names n' n'') : Written names n n'' :=
  ⟨h'.children.trans h.children, h'.parent.trans h.parent, h.content.trans h'.content⟩

theorem Written.eq_of_none {n n' : Node} (h : Written [] n n') : n' = n := by
  rcases n with ⟨content, children, parent⟩
  rcases n' with ⟨content', children', parent'⟩
  rw [show children' = children from h.children, show parent' = parent from h.parent,
    show content' = content from h.content.eq_of_none]

end Node

/-! ### Documents -/

namespace Document

/-- Documents with the same nodes in the same places, each of which may have been
    written under certain names. -/
structure WrittenAt (names : NodeId → List Text) (d d' : Document) : Prop where
  doctype : d'.doctype = d.doctype
  size : d'.nodes.size = d.nodes.size
  node : ∀ i n, d.node? i = some n → ∃ n', d'.node? i = some n' ∧ Node.Written (names i) n n'

theorem WrittenAt.refl (names : NodeId → List Text) (d : Document) : WrittenAt names d d :=
  ⟨rfl, rfl, fun i n hn => ⟨n, hn, Node.Written.refl (names i) n⟩⟩

theorem WrittenAt.trans {names : NodeId → List Text} {d d' d'' : Document}
    (h : WrittenAt names d d') (h' : WrittenAt names d' d'') : WrittenAt names d d'' where
  doctype := h'.doctype.trans h.doctype
  size := h'.size.trans h.size
  node i n hn := by
    rcases h.node i n hn with ⟨n', hn', hwritten⟩
    rcases h'.node i n' hn' with ⟨n'', hn'', hwritten'⟩
    exact ⟨n'', hn'', hwritten.trans hwritten'⟩

/-- The element at a node that has been written. -/
theorem WrittenAt.element? {names : NodeId → List Text} {d d' : Document}
    (h : WrittenAt names d d') {i : NodeId} {e' : Element} (he' : d'.element? i = some e') :
    ∃ e, d.element? i = some e ∧ Element.Written (names i) e e' := by
  rw [element?_eq] at he'
  rcases Option.bind_eq_some_iff.mp he' with ⟨n', hn', hcontent⟩
  have hi : i < d.nodes.size := by
    rw [← h.size]
    exact (Array.getElem?_eq_some_iff.mp hn').1
  rcases h.node i d.nodes[i] (Array.getElem?_eq_getElem hi) with ⟨n'', hn'', hwritten⟩
  rw [hn', Option.some.injEq] at hn''
  rw [← hn''] at hwritten
  rw [element?_eq, node?, Array.getElem?_eq_getElem hi, Option.bind_some]
  exact hwritten.content.element? hcontent

/-- Changing a node. -/
theorem writtenAt_modify {names : NodeId → List Text} {d : Document} {i : NodeId}
    {f : Node → Node} (h : ∀ n, d.node? i = some n → Node.Written (names i) n (f n)) :
    WrittenAt names d (d.modify i f) := by
  refine ⟨rfl, Array.size_modify, fun j n hn => ?_⟩
  rw [node?_modify]
  by_cases hij : i = j
  · rw [if_pos hij, hn, Option.map_some]
    exact ⟨f n, rfl, hij ▸ h n (hij ▸ hn)⟩
  · rw [if_neg hij]
    exact ⟨n, hn, Node.Written.refl (names j) n⟩

/-- Setting an attribute at a node. -/
theorem writtenAt_setAttribute {names : NodeId → List Text} (d : Document) {i : NodeId}
    {name : Text} (hname : name ∈ names i) (value : Text) :
    WrittenAt names d (d.setAttribute i name value) := by
  refine writtenAt_modify ?_
  rintro ⟨content, children, parent⟩ _
  cases content with
  | element e => exact ⟨rfl, rfl, .element (Element.written_setAttribute hname e value)⟩
  | root => exact Node.Written.refl _ _
  | text s => exact Node.Written.refl _ _
  | comment s => exact Node.Written.refl _ _

end Document

end ResponsiveImages
