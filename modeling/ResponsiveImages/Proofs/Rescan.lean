import ResponsiveImages.Proofs.ScannedPage

/-!
# Scanning Again

A page that has been scanned can be scanned again, and nothing comes of it. What is
recorded of an element is read from attributes a scan does not write, so it is the
same in any later state of the document. What remains is that the edits of an element
do nothing to an element that has them already (`afterScan_afterScan`), and this is
so because every attribute is set to a value that does not depend on what was there.
The blank source is the one exception: it is only given to an image that has none, and
an image that has been scanned has one.

Elements that were scanned before an element and after it have both been edited when
it is scanned again. Only the root is looked at from elsewhere, and only for its
classes, so that this makes no difference (`Document.SameBut.fallbackModeOf`). But the element
itself must not have been edited once more under another number, which is where it
matters that every node occurs once (`rescan_run`).

## Theorems

* `Attributes.set_eq_self`: Setting an attribute to its value.
* `afterScan_afterScan`: Editing an element that has been edited.
* `rescan_element`: Scanning an element again.
* `rescan_run`: Scanning elements again.
* `scan_scanned`: Scanning a document again.
-/

namespace ResponsiveImages

open Text

/-! ### Elements -/

/-- Setting an attribute to the value it has. -/
theorem Attributes.set_eq_self (attributes : Attributes) {name value : Text}
    (h : attributes.get? name = some value) : attributes.set name value = attributes := by
  induction attributes with
  | nil => exact absurd h (by simp [Attributes.get?])
  | cons entry rest ih =>
      rcases entry with ⟨n, v⟩
      rw [Attributes.get?_cons] at h
      by_cases hname : eqIgnoreCase n name = true
      · rw [if_pos hname, Option.some.injEq] at h
        rw [Attributes.set, if_pos hname, h]
      · rw [if_neg hname] at h
        rw [Attributes.set, if_neg hname, ih h]

theorem Element.setAttribute_eq_self {e : Element} {name value : Text}
    (h : e.attributes.get? name = some value) : e.setAttribute name value = e := by
  rw [Element.setAttribute, Attributes.set_eq_self e.attributes h]

/-- An element that has its number and, as an image, a source is not changed by being
    numbered. -/
theorem numbered_eq_self {id : Nat} {e : Element}
    (hid : e.attributes.get? Attribute.id = some (decimal id))
    (hsource : e.isImage = true → ((e.attributes.get? sourceAttribute).getD []).isEmpty = false) :
    e.numbered id = e := by
  rw [Element.numbered, Element.setAttribute_eq_self hid]
  refine if_neg fun hblank => ?_
  rw [Bool.and_eq_true] at hblank
  rw [hsource hblank.1] at hblank
  exact absurd hblank.2 (by simp)

/-- A numbered image has a source. -/
theorem source_numbered (id : Nat) {e : Element} (himage : e.isImage = true) :
    (((e.numbered id).attributes.get? sourceAttribute).getD []).isEmpty = false := by
  have himage' : (e.setAttribute Attribute.id (decimal id)).isImage = true := himage
  rw [Element.numbered]
  simp only [himage', Bool.true_and]
  by_cases hblank : (((e.setAttribute Attribute.id (decimal id)).attributes.get?
      sourceAttribute).getD []).isEmpty = true
  · rw [if_pos hblank, Element.setAttribute, Attributes.get?_set_self, Option.getD_some]
    decide
  · rw [if_neg hblank]
    rwa [Bool.not_eq_true] at hblank

theorem marked_marked (driven : Bool) (e : Element) :
    (e.marked driven).marked driven = e.marked driven := by
  cases driven with
  | true => exact Element.setAttribute_eq_self (Attributes.get?_set_self e.attributes _ _)
  | false => rfl

/-- An element that has been scanned is not changed by being scanned again under its
    number and in its mode. -/
theorem afterScan_afterScan (config : Config) (id : Nat) (mode : Bool) (e : Element) :
    (e.afterScan config id mode).afterScan config id mode = e.afterScan config id mode := by
  have himage : (e.afterScan config id mode).isImage = e.isImage :=
    (sameBut_afterScan config id mode e).isTag imageTag
  have hnumbered : (e.afterScan config id mode).numbered id = e.afterScan config id mode := by
    refine numbered_eq_self ?_ fun h => ?_
    · rw [Element.afterScan, get?_marked _ _ (by decide), id_numbered]
    · rw [himage] at h
      rw [Element.afterScan, get?_marked _ _ (by decide), source_numbered id h]
  rw [Element.afterScan, hnumbered, Element.afterScan, marked_marked]

/-! ### Documents -/

/-- Writing the element that is there. -/
theorem modify_eq_self {d : Document} {i : NodeId} {e : Element} (he : d.element? i = some e) :
    (d.modify i fun n => { n with content := .element e }) = d := by
  refine Document.eq_of_node? rfl fun j => ?_
  rw [Document.node?_modify]
  by_cases hij : i = j
  · rw [Document.element?_eq] at he
    rcases Option.bind_eq_some_iff.mp he with ⟨n, hn, hcontent⟩
    rw [if_pos hij, ← hij, hn, Option.map_some, ← Content.eq_of_element? hcontent]
  · rw [if_neg hij]

/-! ### Scanning -/

/-- Scanning an element again, in a document in which it is as its scan left it. -/
theorem rescan_element {config : Config} {pageFallback : Bool} {p next : ScanProgress}
    {entry : NodeId × Nat} (hstep : scanElement config pageFallback p entry = .ok next)
    {d : Document} (hsame : Document.SameBut scanEdits p.document d)
    (hleft : d.element? entry.1 = next.document.element? entry.1) :
    scanElement config pageFallback { p with document := d } entry
      = .ok { next with document := d } := by
  rcases scanElement_ok hstep with ⟨hnone, heq⟩ | ⟨e, mode, he, hmode, heq⟩
  · rw [heq] at hleft ⊢
    exact scanElement_none (hleft.trans hnone)
  · have he' : d.element? entry.1 = some (e.afterScan config entry.2 mode) := by
      rw [hleft, heq, ScanProgress.next, element?_replace _ _ _ _ _ he, if_pos rfl]
    have hsame' := sameBut_afterScan config entry.2 mode e
    rw [scanElement_eq (p := { p with document := d }) he', options_of_sameBut hsame',
      hsame.fallbackModeOf class_not_scanEdits, hmode, Except.map, heq]
    -- The same is recorded, and what is written stands there already.
    have himage : (e.afterScan config entry.2 mode).isImage = e.isImage := hsame'.isTag imageTag
    simp only [ScanProgress.next, afterScan_afterScan, modify_eq_self he', himage,
      clauses_of_sameBut hsame', compiled?_of_sameBut hsame']

/-- Scanning elements again, in the document their scans have left. -/
theorem rescan_run {config : Config} {pageFallback : Bool} (entries : List (NodeId × Nat)) :
    ∀ p p' : ScanProgress, (entries.map Prod.fst).Nodup →
      entries.foldlM (scanElement config pageFallback) p = .ok p' →
        entries.foldlM (scanElement config pageFallback) { p with document := p'.document }
          = .ok p' := by
  induction entries with
  | nil =>
      intro p p' _ hrun
      rw [List.foldlM_nil] at hrun ⊢
      rw [← Except.ok.inj hrun]
      rfl
  | cons entry entries ih =>
      intro p p' hnodup hrun
      rw [List.map_cons, List.nodup_cons] at hnodup
      have hsame := sameBut_of_run hrun
      rw [List.foldlM_cons] at hrun ⊢
      cases hstep : scanElement config pageFallback p entry with
      | error reason =>
          rw [hstep] at hrun
          exact absurd hrun (by simp [bind, Except.bind])
      | ok next =>
          rw [hstep] at hrun
          have hrest : entries.foldlM (scanElement config pageFallback) next = .ok p' := hrun
          -- No later element has the same node, so this one is as it was left.
          rw [rescan_element hstep hsame (element?_of_run hnodup.1 hrest)]
          exact ih next p' hnodup.2 hrest

/-- The marked elements are found again, with the same numbers. -/
theorem markedEntries_sameBut {d d' : Document} (h : Document.SameBut scanEdits d d')
    (hnodup : d.preorder.Nodup) (config : Config) :
    markedEntries config d' = markedEntries config d :=
  h.markedEntries class_not_scanEdits hnodup config

/-- Scanning a scanned document gives the same images, the same style sheet and the same
    flags again, and does not change the document. -/
theorem scan_scanned {config : Config} {d : Document} {scanned : ScanOutcome}
    (hnodup : d.preorder.Nodup) (h : scan config d = .ok scanned) :
    scan config scanned.document = .ok scanned := by
  rcases scan_ok_iff.mp h with ⟨p, hrun, houtcome⟩
  have hdocument : scanned.document = p.document := by rw [houtcome]; rfl
  have hsame : Document.SameBut scanEdits d scanned.document := by
    rw [hdocument]
    exact sameBut_of_run hrun
  have hnodes : ((markedEntries config d).map Prod.fst).Nodup := by
    rw [markedEntries, List.zipIdx_map_fst]
    exact (byClass_sublist d config.markerClass).nodup hnodup
  refine scan_ok_iff.mpr ⟨p, ?_, ?_⟩
  · rw [markedEntries_sameBut hsame hnodup, hsame.rootHasClass class_not_scanEdits, hdocument]
    exact rescan_run (markedEntries config d) { document := d } p hnodes hrun
  · rw [hsame.rootHasClass class_not_scanEdits, houtcome]

/-- An image with an empty source, driven by live matching, and inside a marked element
    one that is in fallback mode and has a number and a mark already. -/
def mixedModes : Document :=
  .ofTrees none [
    .element { tag := "html".toList, attributes := [("class".toList, "no-mq".toList)] } [
      .element {
        tag := imageTag
        attributes := [("class".toList, "rwdimage".toList), ("SRC".toList, []),
          (Attribute.directive, "src: url(a.png)".toList)] } [],
      .element { tag := "div".toList, attributes := [("Class".toList, "rwdimage".toList)] } [
        .element {
          tag := imageTag
          attributes := [(Attribute.id, "7".toList), (Attribute.id, "8".toList),
            (Attribute.hasEnquire, "false".toList), ("class".toList, "rwdimage".toList),
            (Attribute.fallbackClass, "no-mq".toList), (sourceAttribute, "b.png".toList)] } []]]]

/-- The mode an image is recorded in, and the source and the mark of its element. -/
def ScanOutcome.left (s : ScanOutcome) (m : ManagedImage) : Bool × Option Text × Option Text :=
  (m.fallbackMode, s.document.attribute? m.node sourceAttribute,
    s.document.attribute? m.node Attribute.hasEnquire)

theorem mixed_modes_scanned_again :
    ∃ scanned, scan {} mixedModes = .ok scanned
      ∧ scanned.images.map scanned.left
        = [(false, some blankSource, some "true".toList), (false, none, some "true".toList),
          (true, some "b.png".toList, some "false".toList)]
      ∧ scan {} scanned.document = .ok scanned := by
  have hleft : (scan {} mixedModes).toOption.map (fun s => s.images.map s.left)
      = some [(false, some blankSource, some "true".toList), (false, none, some "true".toList),
          (true, some "b.png".toList, some "false".toList)] := by
    decide +kernel
  rcases scan_of_images hleft with ⟨scanned, hscan, hfacts⟩
  exact ⟨scanned, hscan, hfacts, scan_scanned (by decide +kernel) hscan⟩

end ResponsiveImages
