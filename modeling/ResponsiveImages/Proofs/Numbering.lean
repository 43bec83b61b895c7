import Mathlib.Data.List.Nodup
import ResponsiveImages.Proofs.ScannedPage

/-!
# Numbers of Marked Elements

A number on an element is what ties the style sheet, the rules of live matching and
the list of images together, so it has to say which image is meant. It does if every
node of the document occurs once: an element is then found by the marker class once,
whatever its place in the tree and however often it names the class, and the numbers
are given out in the order of the document (`scan_numbers_marked`).

Numbers that stand on the page before do not matter. That of a marked element is
replaced, in whichever case the attribute is written, and an element without the
marker class keeps its own, which then may be the number of an image too.

## Theorems

* `element?_of_unmarked`: The elements that are not marked.
* `scan_numbers_marked`: Images, their numbers and the marked elements.
-/

namespace ResponsiveImages

open Text

/-- An element without the marker class is left alone, and so is a number on it. -/
theorem element?_of_unmarked {config : Config} {d : Document} {scanned : ScanOutcome}
    (h : scan config d = .ok scanned) {i : NodeId} {e : Element} (he : d.element? i = some e)
    (hclass : e.hasClass config.markerClass = false) :
    scanned.document.element? i = some e := by
  rcases run_of_scan h with ⟨p, hrun, hdocument, _⟩
  have hi : i ∉ (markedEntries config d).map Prod.fst := by
    intro hmem
    rcases List.mem_map.mp hmem with ⟨entry, hentry, hnode⟩
    rcases (mem_byClass (node_of_marked hentry)).2 with ⟨e', he', hmarked⟩
    rw [hnode, he, Option.some.injEq] at he'
    rw [← he', hclass] at hmarked
    exact absurd hmarked (by simp)
  rw [hdocument, element?_of_run hi hrun, he]

/-- A scan records the marked elements in document order, numbers them by their places
    and writes the numbers to them. -/
theorem scan_numbers_marked {config : Config} {d : Document} {scanned : ScanOutcome}
    (hnodup : d.preorder.Nodup) (h : scan config d = .ok scanned) :
    scanned.images.length = (d.withClass config.markerClass).length
      ∧ (∀ (place : Nat) (node : NodeId),
          (d.withClass config.markerClass)[place]? = some node →
            ∃ m, scanned.images[place]? = some m ∧ m.id = place ∧ m.node = node
              ∧ scanned.document.attribute? node Attribute.id = some (decimal place))
      ∧ scanned.images.map ManagedImage.id = List.range scanned.images.length
      ∧ ∀ i e, i ∈ d.preorder → d.element? i = some e → e.hasClass config.markerClass = true →
          ∃! m, m ∈ scanned.images ∧ m.node = i := by
  rcases scanned_of_scan h with ⟨p, hscanned, hdocument, himages, _⟩
  rw [hdocument, himages]
  have hnodes := nodes_of_images hscanned
  rw [byClass_eq hnodup] at hnodes
  have hlength : p.images.length = (d.withClass config.markerClass).length := by
    rw [← hnodes, List.length_map]
  refine ⟨hlength, ?_, ids_of_images hscanned, ?_⟩
  · intro place node hnode
    rw [← hnodes, List.getElem?_map] at hnode
    rcases Option.map_eq_some_iff.mp hnode with ⟨m, hm, hmnode⟩
    have hmem := List.mem_of_getElem? hm
    have hid := id_of_place hscanned hm
    rcases element_of_image hscanned hmem with ⟨e, he⟩
    have hnumber := number_of_image hscanned hnodup hmem he
    rw [hmnode, hid] at hnumber
    exact ⟨m, hm, hid, hmnode, hnumber⟩
  · intro i e hi he hclass
    have hmarked : i ∈ p.images.map ManagedImage.node := by
      rw [hnodes]
      exact mem_withClass.mpr ⟨hi, e, he, hclass⟩
    rcases List.mem_map.mp hmarked with ⟨m, hm, hnode⟩
    refine ⟨m, ⟨hm, hnode⟩, ?_⟩
    rintro m' ⟨hm', hnode'⟩
    have hdistinct : (p.images.map ManagedImage.node).Nodup := by
      rw [hnodes, Document.withClass]
      exact hnodup.filter _
    exact List.inj_on_of_nodup_map hdistinct hm' hm (hnode'.trans hnode.symm)

/-- A marked element that names the class twice, with a marked one inside it. Both
    have numbers already, and so has an element that only looks marked. -/
def staleNumbers : Document :=
  .ofTrees none [
    .element { tag := "html".toList } [
      .element {
        tag := "div".toList
        attributes := [("class".toList, "rwdimage hero rwdimage".toList),
          ("DATA-RWDIMAGE-ID".toList, "1".toList)] } [
        .element {
          tag := imageTag
          attributes := [(Attribute.id, "0".toList), ("class".toList, "rwdimage".toList)] } [],
        .element {
          tag := "p".toList
          attributes := [("class".toList, "rwdimages".toList),
            (Attribute.id, "0".toList)] } []]]]

/-- The marked elements are numbered from zero, as if nothing had stood there. -/
theorem stale_numbers_replaced :
    ∃ scanned, scan {} staleNumbers = .ok scanned
      ∧ scanned.images.map ManagedImage.node = [2, 3]
      ∧ scanned.document.attribute? 2 Attribute.id = some "0".toList
      ∧ scanned.document.attribute? 3 Attribute.id = some "1".toList := by
  have hnodup : staleNumbers.preorder.Nodup := by decide +kernel
  have hmarked : staleNumbers.withClass "rwdimage".toList = [2, 3] := by decide +kernel
  have hcompletes : (scan {} staleNumbers).toOption.map (fun s => s.images.map ManagedImage.node)
      = some [2, 3] := by
    decide +kernel
  rcases scan_of_images hcompletes with ⟨scanned, hscan, hnodes⟩
  have hplaces := (scan_numbers_marked hnodup hscan).2.1
  rw [hmarked] at hplaces
  rcases hplaces 0 2 rfl with ⟨_, _, _, _, houter⟩
  rcases hplaces 1 3 rfl with ⟨_, _, _, _, hinner⟩
  exact ⟨scanned, hscan, hnodes, houter, hinner⟩

end ResponsiveImages
