import ResponsiveImages.Proofs.Cascade
import ResponsiveImages.Proofs.CompiledRules
import ResponsiveImages.Proofs.ScannedPage

/-!
# Rules Keep to Their Image

The rules of all images stand in one style sheet, and each of them is meant for
one element. What keeps them apart is the number of the image: it is written
into the document, printed into the selector, and read back from it.

The number stands in the last compound of the selector, and the last compound is
what the element itself has to meet. A fallback class is printed in front of it
with a blank between them. Whatever the class consists of, the blank ends it, so
brackets and dots in the class and even further blanks only add compounds for
the nodes above (`complexes_of_noComma`). A comma is the one exception, since it
ends the selector.

Hence no rule selects the element of another image, in a document in which every
node occurs once. Without that a node could be listed under two numbers and carry
but one of them. And nothing but a missing release keeps a rule that was compiled
from a clause from selecting its own element (`rules_keep_to_their_image`).

## Theorems

* `selects_of_noComma`: What a rule selects whose class has no comma.
* `not_selects_of_other_number`: A rule does not select another number.
* `selects_own_number`: When the rule of a clause selects its own number.
* `rules_keep_to_their_image`: The rules of the images of a scanned page.
-/

namespace ResponsiveImages

open Text

section

variable {r : ElementRule} {d : Document} {i : NodeId}

theorem selects_of_noComma (hcomma : ∀ c, r.selector.fallbackClass = some c → ',' ∉ c) :
    r.styleRule.selects d i
      = (d.accepts i (elementKey r.selector.lazyLoaded r.selector.id)
        && matchesChain d.accepts (d.ancestors i) (compoundsAbove r.selector.fallbackClass)) := by
  rw [StyleRule.selects, complexes_of_noComma r hcomma, List.any_cons, List.any_nil,
    Bool.or_false, Document.satisfies]

/-- A rule does not select an element that carries another number than its own. -/
theorem not_selects_of_other_number
    (hcomma : ∀ c, r.selector.fallbackClass = some c → ',' ∉ c) {number : Nat}
    (hnumber : d.attribute? i Attribute.id = some (decimal number))
    (hne : number ≠ r.selector.id) : r.styleRule.selects d i = false := by
  rcases Option.bind_eq_some_iff.mp hnumber with ⟨e, he, hid⟩
  -- Different numbers have different numerals.
  have hdecimal : (some (decimal number) == some (decimal r.selector.id)) = false := by
    rw [beq_eq_false_iff_ne]
    exact fun h => hne (decimal_injective (Option.some.inj h))
  rw [selects_of_noComma hcomma, Document.accepts, he]
  simp only [accepts_elementKey, hid, hdecimal, Bool.and_false, Bool.false_and]

/-- A rule without a fallback class selects the element that carries its number,
    unless it waits for a release that the element does not have. -/
theorem selects_own_number (hclass : r.selector.fallbackClass = none) {e : Element}
    (he : d.element? i = some e)
    (hid : e.attributes.get? Attribute.id = some (decimal r.selector.id)) :
    r.styleRule.selects d i = (!r.selector.lazyLoaded || e.hasClass lazyLoadedClass) := by
  have hcomma : ∀ c, r.selector.fallbackClass = some c → ',' ∉ c := by
    intro c hc
    rw [hclass] at hc
    exact absurd hc (by simp)
  rw [selects_of_noComma hcomma, Document.accepts, he, hclass]
  simp only [accepts_elementKey, hid, beq_self_eq_true, Bool.and_true, compoundsAbove]
  -- Nothing is asked of the nodes above.
  rw [matchesChain, Bool.and_true]

end

/-- The rules that the images of a page are compiled to. They stand in the style
    sheet, each is that of a clause or its duplicate, or the fallback rule, and
    unless a fallback class has a comma in it none of them matches the element of
    another image. The rule of a clause and its duplicate match the element of
    their own image, except that with lazy loading they wait for the class of the
    loader. -/
theorem rules_keep_to_their_image {config : Config} {d : Document} {scanned : ScanOutcome}
    (hnodup : d.preorder.Nodup) (h : scan config d = .ok scanned) {m : ManagedImage}
    (hm : m ∈ scanned.images) {e : Element} (he : d.element? m.node = some e)
    {compiled : CompiledElement} (hcompiled : e.compiled? m.id = some compiled)
    {r : ElementRule} (hr : r ∈ compiled.rules) :
    (∃ place, OwnedRule.ofRule place r.styleRule ∈ scanned.stylesheet.own)
      ∧ ((∃ r' ∈ clauseRules m.id e.clauses e.options, r = r'.awaiting e.options.lazyLoad)
        ∨ ∃ body, e.options.fallback = some body
          ∧ r = (fallbackRule m.id body e.options.fallbackClass).awaiting e.options.lazyLoad)
      ∧ ((∀ c, r.selector.fallbackClass = some c → ',' ∉ c) →
          ∀ other ∈ scanned.images, other ≠ m → ∀ place,
            (OwnedRule.ofRule place r.styleRule).matched? scanned.document other.node = none)
      ∧ ∀ r' ∈ clauseRules m.id e.clauses e.options, r = r'.awaiting e.options.lazyLoad →
          ∀ place,
            ((OwnedRule.ofRule place r.styleRule).matched? scanned.document m.node).isSome = true
              ↔ ¬ (e.options.lazyLoad = true ∧ e.hasClass lazyLoadedClass = false) := by
  rcases scanned_of_scan h with ⟨p, hscanned, hdocument, himages, live, hstylesheet⟩
  rw [himages] at hm
  have hrules : compiled = compileElement m.id e.clauses e.options := by
    rw [compiled?_eq] at hcompiled
    rcases Option.map_eq_some_iff.mp hcompiled with ⟨_, _, heq⟩
    exact heq.symm
  rw [hrules] at hr
  have hnumber : r.selector.id = m.id := by
    rcases mem_rules hr with ⟨_, _, _, hselector⟩ | ⟨_, _, _, hselector⟩
    · rw [hselector]
    · rw [hselector]
  refine ⟨?_, ?_, ?_, ?_⟩
  · rw [hstylesheet]
    exact compiled_rule_mem hscanned hm he hcompiled (hrules ▸ hr) live
  · rcases mem_rules hr with ⟨r', hr', heq, _⟩ | ⟨body, hbody, heq, _⟩
    · exact Or.inl ⟨r', hr', heq⟩
    · exact Or.inr ⟨body, hbody, heq⟩
  · intro hcomma other hother hne place
    rw [himages] at hother
    -- The other image carries its own number, which is not the one printed.
    rcases element_of_image hscanned hother with ⟨e', he'⟩
    have hcarried := number_of_image hscanned hnodup hother he'
    have hid : other.id ≠ r.selector.id := by
      rw [hnumber]
      exact fun hsame => hne (image_of_id hscanned hm hother hsame)
    have hselects := not_selects_of_other_number hcomma hcarried hid
    rw [← isSome_matched? place, ← hdocument, Option.isSome_eq_false_iff,
      Option.isNone_iff_eq_none] at hselects
    exact hselects
  · intro r' hr' heq place
    have hselector : r.selector = { id := m.id, lazyLoaded := e.options.lazyLoad } := by
      have hclause := selector_of_clauseRules hr'
      rw [heq, ElementRule.awaiting_selector _ (by rw [hclause]), hclause]
    rcases hscanned.same.element m.node e he with ⟨e', he', hsame⟩
    have hid := number_of_image hscanned hnodup hm he
    rw [Document.attribute?, he', Option.bind_some, ← hnumber] at hid
    rw [hdocument, isSome_matched?, selects_own_number (by rw [hselector]) he' hid,
      hsame.hasClass class_not_scanEdits, hselector]
    show (!e.options.lazyLoad || e.hasClass lazyLoadedClass) = true ↔ _
    cases e.options.lazyLoad <;> cases e.hasClass lazyLoadedClass <;> decide

/-- A marked image on a page of its own kind: with a fallback under a class that is
    no name, and waiting for a lazy loader. -/
def guardedImage (classes : Text) : Element where
  tag := imageTag
  attributes := [
    ("class".toList, "rwdimage ".toList ++ classes),
    (Attribute.directive, "src: url(s.png), (color) \x7b src: url(m.png) \x7d".toList),
    (Attribute.retina, "true".toList),
    (Attribute.lazyLoad, "true".toList),
    (Attribute.fallback, "src: url(f.png)".toList),
    (Attribute.fallbackClass, "a] b.c[data-rwdimage-id=1".toList)]

/-- Two such images, one of which has been released. -/
def guardedPage : Document :=
  Document.ofTrees none [
    .element { tag := "html".toList } [
      .element (guardedImage "lazy-loaded".toList) [],
      .element (guardedImage []) []]]

theorem noComma_of_rules {id : Nat} {clauses : List Clause} {o : Options} {r : ElementRule}
    (hr : r ∈ (compileElement id clauses o).rules) (hclass : ',' ∉ o.fallbackClass) :
    ∀ c, r.selector.fallbackClass = some c → ',' ∉ c := by
  intro c hc
  rcases mem_rules hr with ⟨_, _, _, hselector⟩ | ⟨_, _, _, hselector⟩
  · rw [hselector] at hc
    exact absurd hc (by simp)
  · rw [hselector] at hc
    rw [← Option.some.inj hc]
    exact hclass

theorem guardedImage_compiled? (classes : Text) (id : Nat) :
    (guardedImage classes).compiled? id
      = some (compileElement id (guardedImage classes).clauses (guardedImage classes).options) := by
  rw [compiled?_eq]
  rfl

/-- On that page the rules of the clause and of its duplicate match the image that
    has been released, and those of the image that waits do not match it. No rule of
    either image matches the other one. -/
theorem guarded_rules_keep_to_their_image :
    guardedPage.preorder.Nodup
      ∧ ∃ scanned, scan {} guardedPage = .ok scanned
        ∧ ∃ m ∈ scanned.images, ∃ waiting ∈ scanned.images, m.node = 2 ∧ waiting.node = 3
          ∧ (∀ r ∈ (compileElement m.id (guardedImage "lazy-loaded".toList).clauses
                (guardedImage "lazy-loaded".toList).options).rules, ∀ place,
              (OwnedRule.ofRule place r.styleRule).matched? scanned.document waiting.node = none)
          ∧ (∀ r ∈ (compileElement waiting.id (guardedImage []).clauses
                (guardedImage []).options).rules, ∀ place,
              (OwnedRule.ofRule place r.styleRule).matched? scanned.document m.node = none)
          ∧ (∀ r ∈ clauseRules m.id (guardedImage "lazy-loaded".toList).clauses
                (guardedImage "lazy-loaded".toList).options, ∀ place,
              ((OwnedRule.ofRule place (r.awaiting true).styleRule).matched?
                scanned.document m.node).isSome = true)
          ∧ ∀ r ∈ clauseRules waiting.id (guardedImage []).clauses (guardedImage []).options,
              ∀ place, ((OwnedRule.ofRule place (r.awaiting true).styleRule).matched?
                scanned.document waiting.node).isSome = false := by
  have hnodup : guardedPage.preorder.Nodup := by decide +kernel
  have hfound : (scan {} guardedPage).toOption.map (fun s => s.images.map ManagedImage.node)
      = some [2, 3] := by decide +kernel
  rcases scan_of_images hfound with ⟨scanned, hscan, hnodes⟩
  rcases List.map_eq_cons_iff.mp hnodes with ⟨m, rest, himages, hm, hrest⟩
  rcases List.map_eq_singleton_iff.mp hrest with ⟨waiting, hsingle, hwaiting⟩
  have hmem : m ∈ scanned.images := by
    rw [himages]
    exact List.mem_cons_self
  have hmem' : waiting ∈ scanned.images := by
    rw [himages, hsingle]
    exact List.mem_cons_of_mem _ List.mem_cons_self
  have hne : waiting ≠ m := by
    intro h
    rw [h, hm] at hwaiting
    exact absurd hwaiting (by decide)
  have he : guardedPage.element? m.node = some (guardedImage "lazy-loaded".toList) := by
    rw [hm]
    decide +kernel
  have he' : guardedPage.element? waiting.node = some (guardedImage []) := by
    rw [hwaiting]
    decide +kernel
  have hlazy : (guardedImage "lazy-loaded".toList).options.lazyLoad = true
      ∧ (guardedImage []).options.lazyLoad = true := by decide +kernel
  have hclass : ',' ∉ (guardedImage "lazy-loaded".toList).options.fallbackClass
      ∧ ',' ∉ (guardedImage []).options.fallbackClass := by decide +kernel
  refine ⟨hnodup, scanned, hscan, m, hmem, waiting, hmem', hm, hwaiting, ?_, ?_, ?_, ?_⟩
  · intro r hr
    have hkeep := rules_keep_to_their_image hnodup hscan hmem he (guardedImage_compiled? _ _) hr
    exact hkeep.2.2.1 (noComma_of_rules hr hclass.1) waiting hmem' hne
  · intro r hr
    have hkeep := rules_keep_to_their_image hnodup hscan hmem' he' (guardedImage_compiled? _ _) hr
    exact hkeep.2.2.1 (noComma_of_rules hr hclass.2) m hmem hne.symm
  · intro r hr place
    have hkeep := rules_keep_to_their_image hnodup hscan hmem he (guardedImage_compiled? _ _)
      (awaiting_mem_rules hr)
    have hmatches := hkeep.2.2.2 r hr rfl place
    rw [hlazy.1] at hmatches
    exact hmatches.mpr fun hwaits => absurd hwaits.2 (by decide +kernel)
  · intro r hr place
    have hkeep := rules_keep_to_their_image hnodup hscan hmem' he' (guardedImage_compiled? _ _)
      (awaiting_mem_rules hr)
    have hmatches := hkeep.2.2.2 r hr rfl place
    rw [hlazy.2] at hmatches
    rw [← Bool.not_eq_true, hmatches, not_not]
    exact ⟨rfl, by decide +kernel⟩

end ResponsiveImages
