import ResponsiveImages.Proofs.Cascade
import ResponsiveImages.Proofs.ScannedPage

/-!
# Fallback Mode and the Fallback Rule

Two parts of the library decide whether an element falls back. A scan compares
classes of the root with two names, that of the page and that of the element,
and records the outcome. The style sheet prints the name of the element into a
selector, reads it back and looks for the class on any element above.

They are not the same question, and the answers differ by design. The class of
the page puts every element into fallback mode, but the rule of an element
waits for the class of that element alone. And the selector is content with any
element above, while a scan asks the root (`mode_and_rule_differ`).

What is true of both is said by `fallback_mode_and_rule`, for proper documents.
The scan answers by the two classes of the root, whatever they are called. The
rule, if its class has a plain name, answers by the classes above the element.
The two agree if nothing but the root could tell them apart.

## Main definitions

* `readFallbackRule`: The fallback rule of an element as it is read back.
* `FallsBack`: What becomes of an image with a fallback on a small page.

## Theorems

* `readFallbackRule_mem`: The rule stands in the style sheet.
* `matched?_readFallbackRule`: When the rule matches.
* `anyAbove_of_root`: When the root decides about the classes above a node.
* `fallback_mode_and_rule`: The recorded mode and the rule together.
* `mode_and_rule_differ`: Pages on which they differ.
-/

namespace ResponsiveImages

open Text

/-- The fallback rule of an element as it is read back from some place of the style
    sheet. -/
def readFallbackRule (place id : Nat) (body fallbackClass : Text) : OwnedRule :=
  OwnedRule.ofRule place (fallbackRule id body fallbackClass).styleRule

section

variable {config : Config} {d : Document} {p : ScanProgress} {m : ManagedImage} {e : Element}

/-- The fallback rule of an image with a directive stands in the style sheet. -/
theorem readFallbackRule_mem (hscanned : Scanned config d (markedEntries config d) p)
    (hm : m ∈ p.images) (he : d.element? m.node = some e) {body : Text}
    (hbody : e.options.fallback = some body) (hlazy : e.options.lazyLoad = false)
    (hdirective : (e.attributes.get? Attribute.directive).isSome = true) (live : Bool) :
    ∃ place, readFallbackRule place m.id body e.options.fallbackClass
      ∈ (Stylesheet.assemble config.markerClass live p.compiled).own := by
  rcases Option.isSome_iff_exists.mp hdirective with ⟨directive, hget⟩
  have hcompiled : e.compiled? m.id = some (compileElement m.id e.clauses e.options) := by
    rw [compiled?_eq, hget]
    rfl
  refine compiled_rule_mem hscanned hm he hcompiled ?_ live
  simp only [compileElement, fallbackRules, hbody, hlazy, Bool.false_eq_true, if_false]
  exact List.mem_append_right _ (List.mem_singleton_self _)

/-- The fallback rule of an image matches if its class, which has to be plain, is
    found above the element. -/
theorem matched?_readFallbackRule (hscanned : Scanned config d (markedEntries config d) p)
    (hnodup : d.preorder.Nodup) (hm : m ∈ p.images) (he : d.element? m.node = some e)
    {own : Text} (hplain : PlainName own) (body : Text) (place : Nat) :
    ((readFallbackRule place m.id body own).matched? p.document m.node).isSome
      = d.anyAbove m.node own := by
  rcases hscanned.same.element m.node e he with ⟨e', he', _⟩
  have hid := number_of_image hscanned hnodup hm he
  rw [Document.attribute?, he', Option.bind_some] at hid
  -- A plain name is read back, so the selector is the one that was meant.
  have hselector : ∀ c, (fallbackRule m.id body own).selector.fallbackClass = some c →
      PlainName c := by
    intro c hc
    rw [← Option.some.inj hc]
    exact hplain
  rw [readFallbackRule, isSome_matched?, StyleRule.selects, complexes_styleRule _ hselector,
    List.any_cons, List.any_nil, Bool.or_false, satisfies_elementComplex _ _ e' he']
  -- The number is that of the element. What is left is asked of the nodes above.
  simp only [fallbackRule, Bool.not_false, Bool.true_or, hid, beq_self_eq_true, Bool.true_and,
    Option.all_some]
  exact hscanned.same.anyAbove class_not_scanEdits m.node own

end

/-- If nothing but the root could carry a class above a node, the root decides. -/
theorem anyAbove_of_root {d : Document} {i root : NodeId} {name : Text}
    (hroot : d.documentElement? = some root) (habove : root ∈ d.ancestors i)
    (hothers : ∀ j ∈ d.ancestors i, j ≠ root →
      (d.element? j).any (fun above => above.hasClass name) = false) :
    d.anyAbove i name = d.rootHasClass name := by
  rw [Document.rootHasClass_eq, hroot, Option.bind_some, Document.anyAbove, Bool.eq_iff_iff,
    List.any_eq_true]
  constructor
  · rintro ⟨j, hj, hclass⟩
    -- The class is found on the root, or on a node that does not carry it.
    by_cases hne : j = root
    · rw [← hne]
      exact hclass
    · rw [hothers j hj hne] at hclass
      exact absurd hclass (by decide)
  · intro hclass
    exact ⟨root, habove, hclass⟩

/-- The recorded mode of an image with a fallback, and its fallback rule. The mode
    is that of the root, by the class of the page or of the image. The rule follows
    the class of the image on any element above it. If the root is the only element
    above that could carry that class, and does so wherever it carries the class of
    the page, the two agree. -/
theorem fallback_mode_and_rule {config : Config} {d : Document} {scanned : ScanOutcome}
    (hnodup : d.preorder.Nodup) (h : scan config d = .ok scanned) {m : ManagedImage}
    (hm : m ∈ scanned.images) {e : Element} (he : d.element? m.node = some e) {body : Text}
    (hbody : e.options.fallback = some body) (hlazy : e.options.lazyLoad = false) :
    let own := e.options.fallbackClass
    (m.fallbackMode = true
        ↔ d.rootHasClass config.fallbackClass = true ∨ d.rootHasClass own = true)
      ∧ ((e.attributes.get? Attribute.directive).isSome = true →
          ∃ place, readFallbackRule place m.id body own ∈ scanned.stylesheet.own)
      ∧ (PlainName own → ∀ place,
          (((readFallbackRule place m.id body own).matched? scanned.document m.node).isSome = true
            ↔ d.anyAbove m.node own = true))
      ∧ (PlainName own → ∀ root, d.documentElement? = some root →
          root ∈ d.ancestors m.node →
          (∀ i ∈ d.ancestors m.node, i ≠ root →
            (d.element? i).any (fun above => above.hasClass own) = false) →
          (d.rootHasClass config.fallbackClass = true → d.rootHasClass own = true) →
          ∀ place, (m.fallbackMode = true
            ↔ ((readFallbackRule place m.id body own).matched?
                scanned.document m.node).isSome = true)) := by
  intro own
  rcases scanned_of_scan h with ⟨p, hscanned, hdocument, himages, live, hstylesheet⟩
  rw [himages] at hm
  have hmode : m.fallbackMode = true
      ↔ d.rootHasClass config.fallbackClass = true ∨ d.rootHasClass own = true := by
    rw [(mem_images hscanned hm he).2, ← Bool.or_eq_true]
    rfl
  have hrule : PlainName own → ∀ place,
      ((readFallbackRule place m.id body own).matched? scanned.document m.node).isSome
        = d.anyAbove m.node own := by
    intro hplain place
    rw [hdocument]
    exact matched?_readFallbackRule hscanned hnodup hm he hplain body place
  refine ⟨hmode, ?_, ?_, ?_⟩
  · intro hdirective
    rw [hstylesheet]
    exact readFallbackRule_mem hscanned hm he hbody hlazy hdirective live
  · intro hplain place
    rw [hrule hplain place]
  · -- Both sides now ask for classes of the root.
    intro hplain root hroot habove hothers hpage place
    have hany := anyAbove_of_root hroot habove hothers
    rw [hmode, hrule hplain place, hany]
    exact ⟨fun hclass => hclass.elim hpage fun hown => hown, Or.inr⟩

/-- An image with a fallback rule under a class of its own. -/
def fallbackImage (own : Text) : Element where
  tag := imageTag
  attributes := [
    ("class".toList, "rwdimage".toList),
    (Attribute.directive, "src: url(s.png)".toList),
    (Attribute.fallback, "src: url(f.png)".toList),
    (Attribute.fallbackClass, own)]

/-- A page with that image and the given classes on the root and above the image. -/
def fallbackPage (own rootClass bodyClass : Text) : Document :=
  Document.ofTrees none [
    .element { tag := "html".toList, attributes := [("class".toList, rootClass)] } [
      .element { tag := "body".toList, attributes := [("class".toList, bodyClass)] } [
        .element (fallbackImage own) []]]]

/-- Scanning the page records the image with a given mode, and its fallback rule
    matches it or not. -/
def FallsBack (own rootClass bodyClass : Text) (recorded matching : Bool) : Prop :=
  let page := fallbackPage own rootClass bodyClass
  page.preorder.Nodup ∧ page.documentElement? ≠ some 3
    ∧ ∃ scanned, scan {} page = .ok scanned
      ∧ ∃ m ∈ scanned.images, m.node = 3 ∧ m.fallbackMode = recorded
        ∧ ((readFallbackRule 0 m.id "src: url(f.png)".toList own).matched?
            scanned.document m.node).isSome = matching

/-- The outcome of a scan that records a single image, by what is to be known of
    it. -/
theorem scan_single {α : Type} {config : Config} {d : Document}
    {f : ScanOutcome → ManagedImage → α} {a : α}
    (h : (scan config d).toOption.map (fun s => s.images.map (f s)) = some [a]) :
    ∃ scanned, scan config d = .ok scanned ∧ ∃ m ∈ scanned.images, f scanned m = a := by
  rcases scan_of_images h with ⟨scanned, hscan, hfacts⟩
  rcases List.map_eq_singleton_iff.mp hfacts with ⟨m, himages, hf⟩
  refine ⟨scanned, hscan, m, ?_, hf⟩
  rw [himages]
  exact List.mem_singleton_self m

/-- With the class of the image on the root, the mode and the rule agree. -/
theorem own_class_on_root_falls_back :
    FallsBack "no-mq".toList "no-mq".toList [] true true := by
  have hnodup : (fallbackPage "no-mq".toList "no-mq".toList []).preorder.Nodup := by
    decide +kernel
  have hfound : (scan {} (fallbackPage "no-mq".toList "no-mq".toList [])).toOption.map
      (fun s => s.images.map ManagedImage.node) = some [3] := by
    decide +kernel
  rcases scan_single hfound with ⟨scanned, h, m, hm, hnode⟩
  have he : (fallbackPage "no-mq".toList "no-mq".toList []).element? m.node
      = some (fallbackImage "no-mq".toList) := by
    rw [hnode]
    decide +kernel
  have hbody : (fallbackImage "no-mq".toList).options.fallback
      = some "src: url(f.png)".toList := by
    decide +kernel
  have hboth := fallback_mode_and_rule hnodup h hm he hbody (by decide +kernel)
  have hplain : PlainName (fallbackImage "no-mq".toList).options.fallbackClass := by
    decide +kernel
  have hmode := hboth.1.mpr (Or.inr (by decide +kernel))
  have hagree := hboth.2.2.2 hplain 1 (by decide +kernel) (by rw [hnode]; decide +kernel)
    (by rw [hnode]; decide +kernel) (by decide +kernel) 0
  exact ⟨hnodup, by decide +kernel, scanned, h, m, hm, hnode, hmode, hagree.mp hmode⟩

theorem fallsBack_of_scan {own rootClass bodyClass : Text} {recorded matching : Bool}
    (hnodup : (fallbackPage own rootClass bodyClass).preorder.Nodup)
    (hroot : (fallbackPage own rootClass bodyClass).documentElement? ≠ some 3)
    (h : (scan {} (fallbackPage own rootClass bodyClass)).toOption.map (fun s =>
      s.images.map fun m => (m.node, m.fallbackMode,
        ((readFallbackRule 0 m.id "src: url(f.png)".toList own).matched? s.document m.node).isSome))
      = some [(3, recorded, matching)]) :
    FallsBack own rootClass bodyClass recorded matching := by
  rcases scan_single h with ⟨scanned, hscan, m, hm, hfacts⟩
  simp only [Prod.mk.injEq] at hfacts
  exact ⟨hnodup, hroot, scanned, hscan, m, hm, hfacts⟩

/-- Three pages on which the recorded mode and the rule differ: with the class of
    the page on the root, with the class of the image between the root and the
    image, and with a class on the root whose name is no plain one. -/
theorem mode_and_rule_differ :
    FallsBack "no-mq".toList defaultFallbackClass [] true false
      ∧ FallsBack "no-mq".toList [] "no-mq".toList false true
      ∧ FallsBack "v1.2".toList "v1.2".toList [] true false := by
  refine ⟨?_, ?_, ?_⟩
  · exact fallsBack_of_scan (by decide +kernel) (by decide +kernel) (by decide +kernel)
  · exact fallsBack_of_scan (by decide +kernel) (by decide +kernel) (by decide +kernel)
  · exact fallsBack_of_scan (by decide +kernel) (by decide +kernel) (by decide +kernel)

end ResponsiveImages
