import ResponsiveImages.Proofs.FiringOrder

/-!
# Sources Resolved in Turn

The source of one node, resolved again and again while the style of the node changes.

Attributes may repeat a name, and may spell it in any case. A resolution looks at the
source and then writes it, and nothing would come of that if the two went to different
entries: the source would never be what the style names, and the next resolution would
write once more. They both go to the first entry (`Attributes.firstSet_iff`), so what
has been written is what is read, and a repeated answer finds nothing to do.

Each resolution sets that one entry or nothing at all (`SourceWritten`). Setting an entry
twice is setting it once, to the later value, so the same can be said of all resolutions
together (`SourceWritten.trans`), and in the end the source is the last one that an
answer has named (`source_resolvedInTurn`).

An answer may depend on the document and so on what has been written before. Readers are
therefore given in place of answers.

## Main definitions

* `Attributes.FirstSet`: The first attribute of a name has been set.
* `Document.SourceSet`, `Document.SourceWritten`: The source of a node has been set.
* `StyleReader`: Who is asked for the style of a node.
* `resolvedInTurn`, `answersInTurn`: Resolutions of a node, one after the other.

## Theorems

* `Attributes.firstSet_iff`: Which entry is written.
* `SourceWritten.trans`: One write after the other.
* `sourceWritten_resolveSource`: What a resolution writes.
* `resolveSource_of_repeated`: A resolution with the same answer as the one before.
* `source_resolvedInTurn`: The source after resolutions.
* `each_resolution_in_turn`: Each resolution of a sequence.
-/

namespace ResponsiveImages

open Text

/-! ### The first attribute of a name -/

namespace Attributes

/-- Attributes before and after the first one of a name has been given a value. If none
    has the name, there is a new one at the end. -/
inductive FirstSet (name value : Text) : Attributes → Attributes → Prop where
  | replaced (front : Attributes) (n old : Text) (back : Attributes)
      (hfront : ∀ entry ∈ front, eqIgnoreCase entry.1 name = false)
      (hn : eqIgnoreCase n name = true) :
      FirstSet name value (front ++ (n, old) :: back) (front ++ (n, value) :: back)
  | added (a : Attributes) (hnone : ∀ entry ∈ a, eqIgnoreCase entry.1 name = false) :
      FirstSet name value a (a ++ [(name, value)])

/-- Attributes in front of which the name does not occur. -/
theorem set_append {front : Attributes} {name : Text}
    (hfront : ∀ entry ∈ front, eqIgnoreCase entry.1 name = false) (back : Attributes)
    (value : Text) : (front ++ back).set name value = front ++ back.set name value := by
  induction front with
  | nil => rfl
  | cons entry front ih =>
      rcases entry with ⟨n, v⟩
      rcases List.forall_mem_cons.mp hfront with ⟨hn, hfront⟩
      have hne : ¬ eqIgnoreCase n name = true := by
        rw [show eqIgnoreCase n name = false from hn]
        exact Bool.false_ne_true
      rw [List.cons_append, set, if_neg hne, ih hfront, List.cons_append]

theorem firstSet_cons {n v name value : Text} {a a' : Attributes}
    (hn : eqIgnoreCase n name = false) (h : FirstSet name value a a') :
    FirstSet name value ((n, v) :: a) ((n, v) :: a') := by
  cases h with
  | replaced front n' old back hfront hn' =>
      exact .replaced ((n, v) :: front) n' old back (List.forall_mem_cons.mpr ⟨hn, hfront⟩) hn'
  | added _ hnone => exact .added ((n, v) :: a) (List.forall_mem_cons.mpr ⟨hn, hnone⟩)

/-- Setting an attribute sets the first one of the name, and nothing else does. -/
theorem firstSet_iff {name value : Text} {a a' : Attributes} :
    FirstSet name value a a' ↔ a' = a.set name value := by
  constructor
  · intro h
    cases h with
    | replaced front n old back hfront hn =>
        rw [set_append hfront, set, if_pos hn]
    | added _ hnone =>
        have hset := set_append hnone [] value
        rw [List.append_nil] at hset
        rw [hset, set]
  · rintro rfl
    induction a with
    | nil => exact .added [] fun _ h => absurd h List.not_mem_nil
    | cons entry a ih =>
        rcases entry with ⟨n, v⟩
        by_cases hn : eqIgnoreCase n name = true
        · rw [set, if_pos hn]
          exact .replaced [] n v a (fun _ h => absurd h List.not_mem_nil) hn
        · rw [set, if_neg hn]
          exact firstSet_cons ((Bool.not_eq_true _).mp hn) ih

/-- Of two values for one attribute, the later one stays. -/
theorem set_set (a : Attributes) (name value value' : Text) :
    (a.set name value).set name value' = a.set name value' := by
  induction a with
  | nil =>
      have hname := eqIgnoreCase_self name
      simp only [set, hname, if_true]
  | cons entry a ih =>
      rcases entry with ⟨n, v⟩
      by_cases hn : eqIgnoreCase n name = true
      · rw [set, if_pos hn, set, if_pos hn, set, if_pos hn]
      · rw [set, if_neg hn, set, if_neg hn, set, if_neg hn, ih]

theorem FirstSet.trans {name value value' : Text} {a a' a'' : Attributes}
    (h : FirstSet name value a a') (h' : FirstSet name value' a' a'') :
    FirstSet name value' a a'' := by
  rw [firstSet_iff] at h h' ⊢
  rw [h', h, set_set]

end Attributes

/-! ### The source of a node -/

namespace Document

/-- Documents that agree in everything but the source of the element at a node, which has
    been set. -/
structure SourceSet (i : NodeId) (source : Text) (d d' : Document) : Prop where
  doctype : d'.doctype = d.doctype
  size : d'.nodes.size = d.nodes.size
  others : ∀ j ≠ i, d'.node? j = d.node? j
  node : ∃ n e a, d.node? i = some n ∧ n.content = .element e
    ∧ Attributes.FirstSet sourceAttribute source e.attributes a
    ∧ d'.node? i = some { n with content := .element { e with attributes := a } }

/-- Documents that agree in everything but the source of the element at a node, which may
    have been set. -/
def SourceWritten (i : NodeId) (d d' : Document) : Prop :=
  d' = d ∨ ∃ source, SourceSet i source d d'

variable {d d' d'' : Document} {i : NodeId}

theorem SourceSet.trans {source source' : Text} (h : SourceSet i source d d')
    (h' : SourceSet i source' d' d'') : SourceSet i source' d d'' := by
  refine ⟨h'.doctype.trans h.doctype, h'.size.trans h.size,
    fun j hj => (h'.others j hj).trans (h.others j hj), ?_⟩
  rcases h.node with ⟨n, e, a, hn, he, hset, hn'⟩
  rcases h'.node with ⟨n', e', a', hfound, he', hset', hn''⟩
  -- What the second write has found is what the first one has left.
  rw [hn', Option.some.injEq] at hfound
  subst hfound
  rw [← Content.element.inj he'] at hset' hn''
  exact ⟨n, e, a', hn, he, hset.trans hset', hn''⟩

theorem SourceWritten.trans (h : SourceWritten i d d') (h' : SourceWritten i d' d'') :
    SourceWritten i d d'' := by
  rcases h' with rfl | ⟨source', h'⟩
  · exact h
  · rcases h with rfl | ⟨source, h⟩
    · exact Or.inr ⟨source', h'⟩
    · exact Or.inr ⟨source', h.trans h'⟩

theorem sourceSet_setAttribute {e : Element} (he : d.element? i = some e) (source : Text) :
    SourceSet i source d (d.setAttribute i sourceAttribute source) := by
  rw [element?_eq] at he
  rcases Option.bind_eq_some_iff.mp he with ⟨n, hn, hcontent⟩
  have hcontent := Content.eq_of_element? hcontent
  refine ⟨rfl, Array.size_modify, fun j hj => ?_, n, e, _, hn, hcontent,
    Attributes.firstSet_iff.mpr rfl, ?_⟩
  · rw [setAttribute, node?_modify, if_neg hj.symm]
  · rw [setAttribute, node?_modify, if_pos rfl, hn, Option.map_some, hcontent]
    rfl

/-- Whether there is an image element at a node. -/
def isImageAt (d : Document) (i : NodeId) : Bool :=
  (d.element? i).any Element.isImage

/-- A written source leaves an element what it is. -/
theorem SourceWritten.isImageAt (h : SourceWritten i d d') (j : NodeId) :
    d'.isImageAt j = d.isImageAt j := by
  rcases h with rfl | ⟨source, h⟩
  · rfl
  · rcases h.node with ⟨n, e, a, hn, he, _, hn'⟩
    rw [Document.isImageAt, Document.isImageAt, element?_eq, element?_eq]
    by_cases hj : j = i
    · rw [hj, hn', hn, Option.bind_some, Option.bind_some, he]
      rfl
    · rw [h.others j hj]

end Document

/-! ### One resolution -/

/-- Who is asked for the value that the style of a node gives to the source property. -/
abbrev StyleReader := Document → NodeId → Option Text

section

variable (read : StyleReader) {d : Document} {i : NodeId}

theorem sourceWritten_resolveSource (d : Document) (i : NodeId) :
    Document.SourceWritten i d (resolveSource read d i).document := by
  rw [(Document.resolveSource_eq read d i).1]
  cases hnew : d.newSource? i (read d i) with
  | none => exact Or.inl rfl
  | some source =>
      -- Only an element needs a source.
      rcases Option.bind_eq_some_iff.mp hnew with ⟨e, he, _⟩
      exact Or.inr ⟨source, Document.sourceSet_setAttribute he source⟩

theorem resolveSource_of_no_image (h : d.isImageAt i = false) :
    resolveSource read d i = ⟨d, false, false⟩ := by
  rw [Document.isImageAt] at h
  unfold resolveSource
  cases he : d.element? i with
  | none => rfl
  | some e =>
      rw [he, Option.any_some] at h
      simp only [h, Bool.false_eq_true, if_false]

/-- A resolution asks whoever is asked for nothing but one answer. The same answer once
    more has nothing to do. -/
theorem resolveSource_of_repeated {read' : StyleReader}
    (hsame : read' (resolveSource read d i).document i = read d i) :
    resolveSource read' (resolveSource read d i).document i
      = ⟨(resolveSource read d i).document, (resolveSource read d i).asked, false⟩ := by
  have hwritten := sourceWritten_resolveSource read d i
  have hdone : (resolveSource read d i).document.newSource? i (read d i) = none := by
    rw [(Document.resolveSource_eq read d i).1]
    exact Document.newSource?_writeSource_self d i (read d i)
  rcases Document.resolveSource_eq read' (resolveSource read d i).document i
    with ⟨hdocument, hchanged⟩
  rw [hsame, hdone] at hdocument hchanged
  have hasked : (resolveSource read' (resolveSource read d i).document i).asked
      = (resolveSource read d i).asked := by
    rw [asked_resolveSource, asked_resolveSource]
    exact hwritten.isImageAt i
  calc resolveSource read' (resolveSource read d i).document i
      = ⟨(resolveSource read' (resolveSource read d i).document i).document,
          (resolveSource read' (resolveSource read d i).document i).asked,
          (resolveSource read' (resolveSource read d i).document i).changed⟩ := rfl
    _ = ⟨(resolveSource read d i).document, (resolveSource read d i).asked, false⟩ := by
        rw [hasked, hchanged, hdocument]
        rfl

/-- The source of an image element after a resolution: the one that the answer names, or
    else the one there was. -/
theorem source_resolveSource (himage : d.isImageAt i = true) :
    (resolveSource read d i).document.attribute? i sourceAttribute
      = ((read d i).bind extractSource?).or (d.attribute? i sourceAttribute) := by
  rcases (Option.any_eq_true _ _).mp himage with ⟨e, he, himage⟩
  cases hsource : (read d i).bind extractSource? with
  | some source =>
      rw [Option.some_or]
      exact inStep_resolveSource read he himage source hsource
  | none =>
      have hnew : d.newSource? i (read d i) = none := by
        rw [Document.newSource?, he, Option.bind_some, if_pos himage, Element.newSource?, hsource,
          Option.filter_none]
      rw [Option.none_or, (Document.resolveSource_eq read d i).1, hnew]
      rfl

end

/-! ### Resolutions in turn -/

/-- The document after the source of a node has been resolved with one reader after the
    other. -/
def resolvedInTurn (i : NodeId) (readers : List StyleReader) (d : Document) : Document :=
  readers.foldl (fun d read => (resolveSource read d i).document) d

/-- What the readers answer, each one on the document that the others before it have
    left. -/
def answersInTurn (i : NodeId) : List StyleReader → Document → List (Option Text)
  | [], _ => []
  | read :: rest, d => read d i :: answersInTurn i rest (resolveSource read d i).document

/-- The last source that one of some answers names. -/
def lastSource? (answers : List (Option Text)) : Option Text :=
  (answers.filterMap fun answer => answer.bind extractSource?).getLast?

section

variable {i : NodeId} (readers : List StyleReader)

/-- What resolutions write is one source. -/
theorem sourceWritten_resolvedInTurn :
    ∀ d, Document.SourceWritten i d (resolvedInTurn i readers d) := by
  induction readers with
  | nil => exact fun d => Or.inl rfl
  | cons read readers ih =>
      intro d
      exact (sourceWritten_resolveSource read d i).trans (ih (resolveSource read d i).document)

theorem resolvedInTurn_of_no_image {d : Document} (h : d.isImageAt i = false) :
    resolvedInTurn i readers d = d := by
  induction readers with
  | nil => rfl
  | cons read readers ih =>
      rw [resolvedInTurn, List.foldl_cons, resolveSource_of_no_image read h]
      exact ih

theorem lastSource?_cons (answer : Option Text) (answers : List (Option Text)) :
    lastSource? (answer :: answers) = (lastSource? answers).or (answer.bind extractSource?) := by
  rw [lastSource?, lastSource?, List.filterMap_cons]
  cases answer.bind extractSource? with
  | none => rw [Option.or_none]
  | some source => rw [List.getLast?_cons, Option.or_some]

/-- The source of an image element after resolutions: the last one that an answer has
    named, or else the one there was. -/
theorem source_resolvedInTurn :
    ∀ d : Document, d.isImageAt i = true →
      (resolvedInTurn i readers d).attribute? i sourceAttribute
        = (lastSource? (answersInTurn i readers d)).or (d.attribute? i sourceAttribute) := by
  induction readers with
  | nil => exact fun d _ => rfl
  | cons read readers ih =>
      intro d himage
      have hkept := (sourceWritten_resolveSource read d i).isImageAt i
      have hrest := ih (resolveSource read d i).document (hkept.trans himage)
      rw [source_resolveSource read himage] at hrest
      rw [answersInTurn, lastSource?_cons, Option.or_assoc]
      exact hrest

end

/-- Each resolution of a sequence, whatever the answers are. It sets the source of the node
    or nothing, and so do all of them together. It says that it has changed something exactly if
    the source reads differently. With the same answer as the one before, it changes
    nothing. If the node is an image, one answer is asked for, the source that it names is
    read back, and in the end that is the last one named. If not, nothing happens at all. -/
theorem each_resolution_in_turn (d : Document) (i : NodeId) (done : List StyleReader)
    (read : StyleReader) :
    let before := resolvedInTurn i done d
    let r := resolveSource read before i
    Document.SourceWritten i before r.document
      ∧ Document.SourceWritten i d r.document
      ∧ (r.changed = true ↔ r.document.attribute? i sourceAttribute
          ≠ before.attribute? i sourceAttribute)
      ∧ (∀ read', read' r.document i = read before i →
          resolveSource read' r.document i = ⟨r.document, r.asked, false⟩)
      ∧ (d.isImageAt i = true →
          r.asked = true
            ∧ (∀ source, (read before i).bind extractSource? = some source →
                r.document.attribute? i sourceAttribute = some source)
            ∧ r.document.attribute? i sourceAttribute
              = (lastSource? (answersInTurn i (done ++ [read]) d)).or
                  (d.attribute? i sourceAttribute))
      ∧ (d.isImageAt i = false → ∀ read', resolveSource read' before i = ⟨d, false, false⟩) := by
  intro before r
  have hdone : Document.SourceWritten i d before := sourceWritten_resolvedInTurn done d
  have hr : Document.SourceWritten i before r.document := sourceWritten_resolveSource read before i
  refine ⟨hr, hdone.trans hr, ?_, fun read' => resolveSource_of_repeated read, ?_, ?_⟩
  · rw [changed_resolveSource, bne_iff_ne]
  · intro himage
    have hbefore : before.isImageAt i = true := (hdone.isImageAt i).trans himage
    refine ⟨(asked_resolveSource read before i).trans hbefore, fun source hsource => ?_, ?_⟩
    · rw [source_resolveSource read hbefore, hsource, Option.some_or]
    · have hall := source_resolvedInTurn (done ++ [read]) d himage
      rw [resolvedInTurn, List.foldl_append] at hall
      exact hall
  · intro hother read'
    have hkept : before = d := resolvedInTurn_of_no_image done hother
    rw [hkept]
    exact resolveSource_of_no_image read' hother

end ResponsiveImages
