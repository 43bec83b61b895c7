import ResponsiveImages.Proofs.ScannedPage

/-!
# When a Scan Fails

A scan holds an element while it edits it, and it may want to look at the root in the
meantime. It fails if the root is the element it holds.

To look for a class on the root is to inspect the nodes at the top up to the first
element. What stands in front of that is no element and is never held, and what stands
behind it is not inspected, so the held element is in the way only if it is that first
one (`firstElementWhile_error_iff`). So there is a single element at which a scan can
fail, and whether it does is known from the start: no edit changes the classes of the
root or the options of an element (`Document.SameBut.blocks_iff`). A scan that has come
as far as that element fails there, however many it has edited before, and a scan that
never comes to it completes (`run_error_iff`).

## Main definitions

* `Document.Blocks`: Scanning the element at a node fails.
* `Document.BlocksItself`: The root is an element at which a scan fails.

## Theorems

* `rootHasClassWhile_error_iff`: When the root cannot be looked at.
* `scanElement_error_iff`: When scanning one element fails.
* `run_error_iff`: When scanning elements fails.
* `mem_preorder_of_documentElement?`: The first element at the top is in the document.
* `scan_fails_iff`: When a scan fails, and when it completes.
-/

namespace ResponsiveImages

open Text

namespace Document

variable {d : Document}

/-! ### Looking at the root -/

/-- A held element is in the way of a search if it is the element that would be found. -/
theorem firstElementWhile_error_iff {held : NodeId} (hheld : (d.element? held).isSome = true)
    (nodes : List NodeId) :
    d.firstElementWhile held nodes = .error .elementHeld
      ↔ (nodes.find? fun i => (d.element? i).isSome) = some held := by
  induction nodes with
  | nil => exact ⟨fun h => (by cases h), fun h => by cases h⟩
  | cons i nodes ih =>
      rw [firstElementWhile, List.find?_cons]
      by_cases hi : i = held
      · rw [if_pos hi, hi, hheld]
        exact ⟨fun _ => rfl, fun _ => rfl⟩
      · rw [if_neg hi]
        cases he : d.element? i with
        | none => exact ih
        | some e =>
            -- The search ends here, at another element.
            exact ⟨fun h => (by cases h), fun h => absurd (Option.some.inj h) hi⟩

theorem rootHasClassWhile_error_iff {held : NodeId} (hheld : (d.element? held).isSome = true)
    (name : Text) :
    d.rootHasClassWhile held name = .error .elementHeld
      ↔ d.documentElement? = some held := by
  rw [rootHasClassWhile, documentElement?, ← firstElementWhile_error_iff hheld]
  cases d.firstElementWhile held (d.children root) with
  | error reason =>
      cases reason
      exact ⟨fun _ => rfl, fun _ => rfl⟩
  | ok first => exact ⟨fun h => (by cases h), fun h => by cases h⟩

end Document

theorem fallbackModeOf_error_iff (config : Config) {d : Document} {node : NodeId}
    (hnode : (d.element? node).isSome = true) (pageFallback : Bool) (o : Options) :
    fallbackModeOf config pageFallback d node o = .error .elementHeld
      ↔ pageFallback = false ∧ o.fallbackClass ≠ config.fallbackClass
        ∧ d.documentElement? = some node := by
  rw [fallbackModeOf, ← Document.rootHasClassWhile_error_iff hnode o.fallbackClass]
  by_cases hpage : pageFallback = true
  · rw [if_pos hpage, hpage]
    exact ⟨fun h => (by cases h), fun h => absurd h.1 (by decide)⟩
  · rw [if_neg hpage]
    rw [Bool.not_eq_true] at hpage
    rw [hpage]
    by_cases hown : o.fallbackClass = config.fallbackClass
    · rw [if_pos hown]
      exact ⟨fun h => (by cases h), fun h => absurd hown h.2.1⟩
    · rw [if_neg hown]
      exact ⟨fun h => ⟨rfl, hown, h⟩, fun h => h.2.2⟩

/-! ### Scanning elements -/

/-- Scanning the element at a node fails: it is the root, and its own fallback class has
    to be looked for there. -/
def Document.Blocks (config : Config) (d : Document) (node : NodeId) : Prop :=
  d.documentElement? = some node ∧ d.rootHasClass config.fallbackClass = false
    ∧ ∃ e, d.element? node = some e ∧ e.options.fallbackClass ≠ config.fallbackClass

/-- No edit of a scan makes a difference to where a scan fails. -/
theorem Document.SameBut.blocks_iff {d d' : Document} (h : Document.SameBut scanEdits d d')
    (config : Config) (node : NodeId) : d'.Blocks config node ↔ d.Blocks config node := by
  rw [Document.Blocks, h.documentElement?, h.rootHasClass class_not_scanEdits, Document.Blocks]
  refine and_congr_right fun _ => and_congr_right fun _ => ?_
  cases he : d.element? node with
  | none => rw [h.noElement node he]
  | some e =>
      rcases h.element node e he with ⟨e', he', hsame⟩
      simp only [he', Option.some.injEq, exists_eq_left', options_of_sameBut hsame]

theorem scanElement_error_iff (config : Config) {d : Document} {p : ScanProgress}
    (hsame : Document.SameBut scanEdits d p.document) (entry : NodeId × Nat) :
    scanElement config (d.rootHasClass config.fallbackClass) p entry = .error .elementHeld
      ↔ d.Blocks config entry.1 := by
  -- What has been edited so far does not matter, so the question is asked of `p.document`.
  rw [← hsame.blocks_iff, Document.Blocks, hsame.rootHasClass class_not_scanEdits]
  cases he : p.document.element? entry.1 with
  | none =>
      rw [scanElement_none he]
      exact ⟨fun h => (by cases h), fun ⟨_, _, _, h, _⟩ => by cases h⟩
  | some e =>
      have hsome : (p.document.element? entry.1).isSome = true := by rw [he]; rfl
      have hmode := fallbackModeOf_error_iff config hsome
        (d.rootHasClass config.fallbackClass) e.options
      rw [scanElement_eq he]
      simp only [Option.some.injEq, exists_eq_left']
      cases hresult : fallbackModeOf config (d.rootHasClass config.fallbackClass) p.document
          entry.1 e.options with
      | error reason =>
          rcases hmode.mp hresult with ⟨hpage, hown, hroot⟩
          exact ⟨fun _ => ⟨hroot, hpage, hown⟩, fun _ => rfl⟩
      | ok mode =>
          refine ⟨fun h => (by cases h), fun ⟨hroot, hpage, hown⟩ => ?_⟩
          rw [hmode.mpr ⟨hpage, hown, hroot⟩] at hresult
          cases hresult

/-- Scanning elements one after the other, by induction along the list. The elements that
    have been scanned are edited, which does not change where a scan fails. -/
theorem run_error_iff (config : Config) {d : Document} (entries : List (NodeId × Nat)) :
    ∀ p : ScanProgress, Document.SameBut scanEdits d p.document →
      (entries.foldlM (scanElement config (d.rootHasClass config.fallbackClass)) p
          = .error .elementHeld
        ↔ ∃ entry ∈ entries, d.Blocks config entry.1) := by
  induction entries with
  | nil =>
      intro p _
      rw [List.foldlM_nil]
      exact ⟨fun h => (by cases h), fun ⟨_, h, _⟩ => absurd h List.not_mem_nil⟩
  | cons entry entries ih =>
      intro p hsame
      have hfirst := scanElement_error_iff config hsame entry
      rw [List.foldlM_cons, List.exists_mem_cons_iff]
      cases hstep : scanElement config (d.rootHasClass config.fallbackClass) p entry with
      | error reason => exact ⟨fun _ => Or.inl (hfirst.mp hstep), fun _ => rfl⟩
      | ok next =>
          have hnext := hsame.trans (sameBut_of_scanElement hstep)
          have hpass : ¬ d.Blocks config entry.1 := fun hblocks => by
            rw [hfirst.mpr hblocks] at hstep
            cases hstep
          rw [or_iff_right hpass]
          exact ih next hnext

/-! ### Scanning a document -/

theorem mem_preorder_of_documentElement? {d : Document} {i : NodeId}
    (h : d.documentElement? = some i) : i ∈ d.preorder := by
  have hchild : i ∈ d.children Document.root := List.mem_of_find?_eq_some h
  rw [Document.preorder, Document.walk]
  refine List.mem_cons_of_mem _ (List.mem_flatMap.mpr ⟨i, hchild, ?_⟩)
  -- A document with a child has a node, so the walk goes down one step at least.
  cases hsize : d.nodes.size with
  | zero =>
      rw [Document.children, Document.node?, Array.getElem?_eq_none (by omega)] at hchild
      exact absurd hchild List.not_mem_nil
  | succ size => exact List.mem_cons_self

/-- The root is marked, and it has a fallback class of its own that has to be looked for
    on it, since it does not have that of the page. -/
def Document.BlocksItself (config : Config) (d : Document) : Prop :=
  ∃ node e, d.documentElement? = some node ∧ d.element? node = some e
    ∧ e.hasClass config.markerClass = true ∧ e.hasClass config.fallbackClass = false
    ∧ e.options.fallbackClass ≠ config.fallbackClass

theorem blocks_marked_iff {config : Config} {d : Document} :
    (∃ entry ∈ markedEntries config d, d.Blocks config entry.1) ↔ d.BlocksItself config := by
  constructor
  · rintro ⟨entry, hentry, hroot, hpage, e, he, hown⟩
    rcases (mem_byClass (node_of_marked hentry)).2 with ⟨e', he', hmarked⟩
    rw [he, Option.some.injEq] at he'
    rw [Document.rootHasClass_eq, hroot, Option.bind_some, he, Option.any_some] at hpage
    exact ⟨entry.1, e, hroot, he, he' ▸ hmarked, hpage, hown⟩
  · rintro ⟨node, e, hroot, he, hmarked, hpage, hown⟩
    -- A marked root is among the elements that are scanned, under some number.
    have hnode := mem_byClass_of_hasClass (mem_preorder_of_documentElement? hroot) he hmarked
    rcases List.mem_iff_getElem?.mp hnode with ⟨id, hid⟩
    refine ⟨(node, id), List.mem_zipIdx_iff_getElem?.mpr hid, hroot, ?_, e, he, hown⟩
    rw [Document.rootHasClass_eq, hroot, Option.bind_some, he, Option.any_some, hpage]

/-- A scan fails exactly if the root is marked, does not have the fallback class of the
    page, and has another one as its own. Otherwise it completes. -/
theorem scan_fails_iff (config : Config) (d : Document) :
    (scan config d = .error .elementHeld ↔ d.BlocksItself config)
      ∧ ((∃ scanned, scan config d = .ok scanned) ↔ ¬ d.BlocksItself config) := by
  have hrun := (run_error_iff config (markedEntries config d) { document := d }
    (Document.SameBut.refl scanEdits d)).trans blocks_marked_iff
  rw [← hrun]
  have hscan : scan config d = ((markedEntries config d).foldlM
      (scanElement config (d.rootHasClass config.fallbackClass)) { document := d }).map
        (ScanProgress.outcome config (d.rootHasClass config.fallbackClass)) := rfl
  rw [hscan]
  cases (markedEntries config d).foldlM
      (scanElement config (d.rootHasClass config.fallbackClass)) { document := d } with
  | error reason =>
      cases reason
      exact ⟨⟨fun _ => rfl, fun _ => rfl⟩, fun ⟨_, h⟩ => (by cases h), fun h => absurd rfl h⟩
  | ok p =>
      exact ⟨⟨fun h => (by cases h), fun h => by cases h⟩, fun _ h => (by cases h),
        fun _ => ⟨_, rfl⟩⟩

end ResponsiveImages
