import ResponsiveImages.Page.Process
import ResponsiveImages.Proofs.InjectedSheet
import ResponsiveImages.Proofs.ScannedPage
import ResponsiveImages.Proofs.SyncHistory
import ResponsiveImages.Proofs.Writes

/-!
# What Processing Does to a Page

A page is processed in three phases that all write to one document: the scan, the
injection of the style sheet, and the resolutions at the start and at every replayed
change of the viewport. Still little of the document differs afterwards
(`Processed`). The style sheet is there as two new nodes, and marked elements may
have new values under two or three names (`Element.writes`). Everything else is what
it was, and where it was (`process_writes`).

The scan and the resolutions write attributes only, and only those names
(`written_scan`, `written_resolve`). A resolution is asked for a node by the image
that was recorded there, but it looks anew at what the node is. It finds an image
element where there was one before, since no phase changes a tag.

What is kept by every resolution is kept by any number of viewport changes
(`synchronize_keeps`): the callbacks of the matcher only ever resolve images of the
scan.

## Main definitions

* `Element.writes`: The attributes that processing may write at a marked element.
* `Document.markedAt?`: The marked element at a node of the document.
* `writable`: The attributes that may be written at a node.
* `Processed`: A document that a page has been processed to.

## Theorems

* `written_scanElement`, `written_scan`: What a scan writes.
* `synchronize_keeps`: What is kept by every resolution.
* `written_resolve`: What a resolution writes.
* `process_writes`: What processing does to a document.
-/

namespace ResponsiveImages

open Text

/-! ### What may be written -/

/-- The attributes that processing may write at a marked element. -/
def Element.writes (e : Element) : List Text :=
  [Attribute.id, Attribute.hasEnquire] ++ if e.isImage then [sourceAttribute] else []

/-- The marked element at a node of the document, if there is one. -/
def Document.markedAt? (config : Config) (d : Document) (i : NodeId) : Option Element :=
  (d.element? i).filter fun e => d.contains i && e.hasClass config.markerClass

/-- The attributes that processing may write at a node. -/
def writable (config : Config) (d : Document) (i : NodeId) : List Text :=
  ((d.markedAt? config i).map Element.writes).getD []

theorem markedAt?_of_byClass {config : Config} {d : Document} {i : NodeId} {e : Element}
    (h : i ∈ (Index.ofDocument d).byClass config.markerClass) (he : d.element? i = some e) :
    d.markedAt? config i = some e := by
  rcases mem_byClass h with ⟨hcontains, e', he', hclass⟩
  rw [he, Option.some.injEq] at he'
  rw [Document.markedAt?, he, Option.filter_some, Document.contains,
    List.contains_iff_mem.mpr hcontains, he', hclass]
  rfl

theorem byClass_of_markedAt? {config : Config} {d : Document} {i : NodeId} {e : Element}
    (h : d.markedAt? config i = some e) :
    i ∈ (Index.ofDocument d).byClass config.markerClass ∧ d.element? i = some e := by
  rcases Option.filter_eq_some_iff.mp h with ⟨he, hmarked⟩
  rw [Bool.and_eq_true] at hmarked
  exact ⟨mem_byClass_of_hasClass (List.contains_iff_mem.mp hmarked.1) he hmarked.2, he⟩

theorem writable_of_marked {config : Config} {d : Document} {i : NodeId} {e : Element}
    (h : d.markedAt? config i = some e) : writable config d i = e.writes := by
  rw [writable, h]
  rfl

theorem writable_of_unmarked {config : Config} {d : Document} {i : NodeId}
    (h : d.markedAt? config i = none) : writable config d i = [] := by
  rw [writable, h]
  rfl

/-- Beyond the nodes of the document there is nothing to write. -/
theorem writable_of_size_le {config : Config} {d : Document} {i : NodeId}
    (h : d.nodes.size ≤ i) : writable config d i = [] := by
  refine writable_of_unmarked ?_
  rw [Document.markedAt?, Document.element?_eq, Document.node?, Array.getElem?_eq_none h]
  rfl

/-! ### Scanning -/

theorem writes_of_written {names : List Text} {e e' : Element} (h : Element.Written names e e') :
    e'.writes = e.writes := by
  rw [Element.writes, Element.isImage, h.isTag, Element.writes, Element.isImage]

theorem written_numbered (id : Nat) (e : Element) :
    Element.Written e.writes e (e.numbered id) := by
  have hid : Element.Written e.writes e (e.setAttribute Attribute.id (decimal id)) :=
    Element.written_setAttribute List.mem_cons_self e _
  unfold Element.numbered
  simp only
  split
  · next hblank =>
      -- Only an image gets a blank source.
      rw [Bool.and_eq_true, Element.isImage, hid.isTag, ← Element.isImage] at hblank
      refine hid.trans (Element.written_setAttribute ?_ _ blankSource)
      rw [Element.writes, if_pos hblank.1]
      exact List.mem_append_right _ (List.mem_singleton_self _)
  · exact hid

theorem written_marked (driven : Bool) (e : Element) :
    Element.Written e.writes e (e.marked driven) := by
  cases driven with
  | false => exact Element.Written.refl _ e
  | true =>
      exact Element.written_setAttribute (List.mem_cons_of_mem _ List.mem_cons_self) e _

theorem written_afterScan (config : Config) (id : Nat) (mode : Bool) (e : Element) :
    Element.Written e.writes e (e.afterScan config id mode) := by
  have hnumbered := written_numbered id e
  have hmarked := written_marked (config.live && !mode) (e.numbered id)
  rw [writes_of_written hnumbered] at hmarked
  exact hnumbered.trans hmarked

/-- Scanning one element. -/
theorem written_scanElement {config : Config} {d : Document} {pageFallback : Bool}
    {p p' : ScanProgress} {entry : NodeId × Nat} (hentry : entry ∈ markedEntries config d)
    (hdone : Document.WrittenAt (writable config d) d p.document)
    (hstep : scanElement config pageFallback p entry = .ok p') :
    Document.WrittenAt (writable config d) d p'.document := by
  rcases scanElement_ok hstep with ⟨_, heq⟩ | ⟨e, mode, he, _, heq⟩
  · rw [heq]
    exact hdone
  · rcases hdone.element? he with ⟨e₀, he₀, hwritten⟩
    have hwritable : writable config d entry.1 = e.writes := by
      rw [writable_of_marked (markedAt?_of_byClass (node_of_marked hentry) he₀),
        writes_of_written hwritten]
    rw [heq]
    refine hdone.trans (Document.writtenAt_modify fun n hn => ⟨rfl, rfl, ?_⟩)
    have hcontent : n.content = .element e := by
      rw [Document.element?_eq, hn, Option.bind_some] at he
      exact Content.eq_of_element? he
    rw [hcontent, hwritable]
    exact .element (written_afterScan config entry.2 mode e)

/-- What a scan writes. -/
theorem written_scan {config : Config} {d : Document} {scanned : ScanOutcome}
    (h : scan config d = .ok scanned) :
    Document.WrittenAt (writable config d) d scanned.document := by
  rcases run_of_scan h with ⟨p, hrun, hdocument, _⟩
  rw [hdocument]
  exact run_keeps (P := fun _ p => Document.WrittenAt (writable config d) d p.document)
    (markedEntries config d) [] { document := d } p
    (fun _ _ hentry _ _ hdone hstep => written_scanElement hentry hdone hstep)
    (Document.WrittenAt.refl _ d) hrun

/-! ### Synchronizing -/

/-- What is kept by the resolution of each image is kept when they are resolved one
    after the other. -/
theorem resolveAll_keeps {rules : List OwnedRule} {images : List ManagedImage}
    {P : Session → Prop}
    (hkeeps : ∀ m ∈ images, ∀ v s, P s → P (resolveUnder rules m v s)) (v : Viewport)
    (asked : List ManagedImage) :
    asked ⊆ images → ∀ s, P s → P (resolveAll rules v asked s) := by
  induction asked with
  | nil => exact fun _ s hs => hs
  | cons m asked ih =>
      intro hsub s hs
      rcases List.cons_subset.mp hsub with ⟨hm, hrest⟩
      exact ih hrest _ (hkeeps m hm v s hs)

/-- A change of the viewport wakes images that have been registered. -/
theorem woken_subset (v v' : Viewport) (regs : List (Registration ManagedImage)) :
    woken v v' regs ⊆ regs.map Prod.snd := by
  intro m hm
  rcases List.mem_map.mp hm with ⟨f, hf, heq⟩
  rcases Option.map_eq_some_iff.mp (mem_told v v' regs 0 f hf).2.2 with ⟨r, hr, hcallback⟩
  rw [← heq, ← hcallback]
  exact List.mem_map_of_mem (List.mem_of_getElem? hr)

/-- The start registers and resolves images that it is given. -/
theorem startSteps_subset (live : Bool) (images : List ManagedImage) (v : Viewport) :
    ((startSteps live images).flatMap StartStep.registration).map Prod.snd ⊆ images
      ∧ (startSteps live images).flatMap (StartStep.resolved v) ⊆ images := by
  constructor
  · intro m hm
    rcases List.mem_map.mp hm with ⟨r, hr, heq⟩
    rcases List.mem_flatMap.mp hr with ⟨step, hstep, hr⟩
    have himage := image_of_startSteps hstep
    cases step with
    | resolve m' => exact absurd hr List.not_mem_nil
    | subscribe m' query =>
        rw [StartStep.registration, List.mem_singleton] at hr
        rw [← heq, hr]
        exact himage
  · intro m hm
    rcases List.mem_flatMap.mp hm with ⟨step, hstep, hm⟩
    have himage := image_of_startSteps hstep
    cases step with
    | resolve m' =>
        rw [StartStep.resolved, List.mem_singleton] at hm
        rw [hm]
        exact himage
    | subscribe m' query =>
        rw [StartStep.resolved] at hm
        split at hm
        · rw [List.mem_singleton.mp hm]
          exact himage
        · exact absurd hm List.not_mem_nil

/-- What is kept by the resolution of each image of a scan is kept by the start and
    by all changes of the viewport. -/
theorem synchronize_keeps {config : Config} {scanned : ScanOutcome} {d : Document}
    {P : Session → Prop} (hstart : P (({ document := d } : Session).reset scanned.images))
    (hkeeps : ∀ m ∈ scanned.images, ∀ v s, P s →
      P (resolveUnder scanned.stylesheet.own m v s)) :
    P (synchronize config scanned d).2 := by
  have hsubset := startSteps_subset scanned.live scanned.images config.viewport
  -- Between changes of the viewport the matcher is settled, with what has been
  -- registered at the start.
  have hresizes : ∀ (resizes : List Viewport) (v : Viewport) (s : Session), P s →
      P (resizes.foldl (fun state v => (LiveState.resize scanned.stylesheet.own v state).2)
        (Matcher.settled v
          ((startSteps scanned.live scanned.images).flatMap StartStep.registration), s)).2 := by
    intro resizes
    induction resizes with
    | nil => exact fun _ s hs => hs
    | cons v' resizes ih =>
        intro v s hs
        rw [List.foldl_cons, resize_resolves]
        exact ih v' _ (resolveAll_keeps hkeeps v' _
          (List.Subset.trans (woken_subset v v' _) hsubset.1) s hs)
  unfold synchronize
  simp only [start_settled]
  exact hresizes _ _ _ (resolveAll_keeps hkeeps _ _ hsubset.2 _ hstart)

section

variable {names : NodeId → List Text}

theorem written_resolveSource (read : Document → NodeId → Option Text) {d : Document}
    {i : NodeId}
    (hsource : ∀ e, d.element? i = some e → e.isImage = true → sourceAttribute ∈ names i) :
    Document.WrittenAt names d (resolveSource read d i).document := by
  unfold resolveSource
  cases he : d.element? i with
  | none => exact Document.WrittenAt.refl names d
  | some e =>
      simp only
      split
      · next himage =>
          cases e.newSource? (read d i) with
          | none => exact Document.WrittenAt.refl names d
          | some source => exact Document.writtenAt_setAttribute d (hsource e he himage) source
      · exact Document.WrittenAt.refl names d

/-- What a resolution writes, in a document that has been written before. -/
theorem written_resolve (rules : List OwnedRule) {m : ManagedImage} (v : Viewport)
    {d : Document} {s : Session}
    (hsource : ∀ e, d.element? m.node = some e → e.isImage = true →
      sourceAttribute ∈ names m.node)
    (hs : Document.WrittenAt names d s.document) :
    Document.WrittenAt names d (resolveUnder rules m v s).document := by
  unfold resolveUnder Session.resolve
  split
  · refine hs.trans (written_resolveSource _ fun e' he' himage => ?_)
    -- What is an image element now was one before.
    rcases hs.element? he' with ⟨e, he, hwritten⟩
    rw [Element.isImage, hwritten.isTag] at himage
    exact hsource e he himage
  · exact hs

end

/-! ### The page -/

/-- A document that a page with marked elements has been processed to, when its first
    head is at a given node. -/
structure Processed (config : Config) (d : Document) (css : Text) (head : NodeId)
    (d' : Document) : Prop where
  doctype : d'.doctype = d.doctype
  size : d'.nodes.size = d.nodes.size + 2
  /-- The first of the new nodes is an element for the style sheet. -/
  style : d'.node? d.nodes.size = some {
    content := .element {
      tag := "style".toList, vocabulary := .html
      attributes := [("type".toList, "text/css".toList)] }
    children := [d.nodes.size + 1], parent := some head }
  /-- The other one is its text. -/
  text : d'.node? (d.nodes.size + 1) = some { content := .text css }
  /-- All nodes are where they were, and the first head has one more child. -/
  places : ∀ i n, d.node? i = some n → ∃ n', d'.node? i = some n' ∧ n'.parent = n.parent
    ∧ n'.children = n.children ++ if i = head then [d.nodes.size] else []
  /-- What is no marked element has not changed. -/
  unmarked : ∀ i < d.nodes.size, d.markedAt? config i = none → d'.content? i = d.content? i
  /-- At a marked element only some attributes have been written. -/
  marked : ∀ i e, d.markedAt? config i = some e →
    ∃ e', d'.element? i = some e' ∧ Element.Written e.writes e e'
  /-- The nodes of a proper document keep their order. -/
  order : d.preorder.Nodup → (∀ i ∈ d.preorder, i < d.nodes.size) →
    d'.preorder.filter (fun i => decide (i < d.nodes.size)) = d.preorder

section

variable {config : Config} {d scanned injected d' : Document} {css : Text} {head : NodeId}
  (hscanned : Document.WrittenAt (writable config d) d scanned)
  (hinjected : Injected css head scanned injected)
  (hresolved : Document.WrittenAt (writable config d) injected d')

include hscanned hinjected hresolved

/-- A node that was there, after all phases. -/
theorem node_of_phases {i : NodeId} {n : Node} (hn : d.node? i = some n) :
    ∃ n', d'.node? i = some n' ∧ n'.parent = n.parent
      ∧ n'.children = n.children ++ (if i = head then [d.nodes.size] else [])
      ∧ Content.Written (writable config d i) n.content n'.content := by
  rcases hscanned.node i n hn with ⟨n₁, hn₁, hwritten₁⟩
  rcases hresolved.node i _ (hinjected.old i n₁ hn₁) with ⟨n', hn', hwritten'⟩
  refine ⟨n', hn', hwritten'.parent.trans hwritten₁.parent, ?_,
    hwritten₁.content.trans hwritten'.content⟩
  rw [hwritten'.children, hwritten₁.children, hscanned.size]
  split
  · rfl
  · exact (List.append_nil _).symm

/-- The style sheet is put in between, and nothing is written at its nodes. -/
theorem sheet_of_phases :
    d'.node? d.nodes.size = some ⟨.element styleElement, [d.nodes.size + 1], some head⟩
      ∧ d'.node? (d.nodes.size + 1) = some { content := .text css } := by
  have hkept : ∀ i n, d.nodes.size ≤ i → injected.node? i = some n → d'.node? i = some n := by
    intro i n hi hn
    rcases hresolved.node i n hn with ⟨n', hn', hwritten⟩
    rw [writable_of_size_le hi] at hwritten
    rw [hn', hwritten.eq_of_none]
  have hstyle := hinjected.style
  have htext := hinjected.text
  rw [hscanned.size] at hstyle htext
  exact ⟨hkept _ _ (Nat.le_refl _) hstyle, hkept _ _ (Nat.le_succ _) htext⟩

/-- A document that has been written, given a style sheet and written again. -/
theorem processed_of_phases : Processed config d css head d' := by
  have hold := fun i n (hn : d.node? i = some n) =>
    node_of_phases hscanned hinjected hresolved hn
  have hget : ∀ i (hi : i < d.nodes.size), d.node? i = some d.nodes[i] :=
    fun i hi => Array.getElem?_eq_getElem hi
  rcases sheet_of_phases hscanned hinjected hresolved with ⟨hstyle, htext⟩
  have hsize : d'.nodes.size = d.nodes.size + 2 := by
    rw [hresolved.size, hinjected.size, hscanned.size]
  exact
    { doctype := by rw [hresolved.doctype, hinjected.doctype, hscanned.doctype]
      size := hsize
      style := hstyle
      text := htext
      places := by
        intro i n hn
        rcases hold i n hn with ⟨n', hn', hparent, hchildren, _⟩
        exact ⟨n', hn', hparent, hchildren⟩
      unmarked := by
        intro i hi hunmarked
        rcases hold i _ (hget i hi) with ⟨n', hn', _, _, hwritten⟩
        rw [writable_of_unmarked hunmarked] at hwritten
        rw [Document.content?, hn', Document.content?, hget i hi, Option.map_some,
          Option.map_some, hwritten.eq_of_none]
      marked := by
        intro i e hmarked
        have he := (byClass_of_markedAt? hmarked).2
        rw [Document.element?_eq] at he
        rcases Option.bind_eq_some_iff.mp he with ⟨n, hn, hcontent⟩
        rcases hold i n hn with ⟨n', hn', _, _, hwritten⟩
        rw [Content.eq_of_element? hcontent, writable_of_marked hmarked] at hwritten
        rcases hwritten.of_element with ⟨e', he', hwritten⟩
        refine ⟨e', ?_, hwritten⟩
        rw [Document.element?_eq, hn', Option.bind_some, he']
        rfl
      order := by
        intro hnodup hstored
        have hchildren : ∀ i < d.nodes.size, d'.children i
            = d.children i ++ if i = head then [d.nodes.size] else [] := by
          intro i hi
          rcases hold i _ (hget i hi) with ⟨n', hn', _, hchildren, _⟩
          rw [Document.children, hn', Document.children, hget i hi]
          exact hchildren
        refine Document.filter_preorder hchildren ?_ ?_ hsize hnodup hstored
        · rw [Document.children, hstyle]
        · rw [Document.children, htext] }

end

section

variable {config : Config} {d : Document} {scanned : ScanOutcome}

/-- Without marked elements a scan does nothing. -/
theorem scan_of_unmarked (h : scan config d = .ok scanned)
    (hunmarked : ∀ i, d.markedAt? config i = none) :
    scanned.document = d ∧ scanned.images = [] := by
  have hnodes : (Index.ofDocument d).byClass config.markerClass = [] := by
    refine List.eq_nil_iff_forall_not_mem.mpr fun i hi => ?_
    rcases mem_byClass hi with ⟨_, e, he, _⟩
    have hmarked := markedAt?_of_byClass hi he
    rw [hunmarked i] at hmarked
    exact absurd hmarked (by simp)
  rcases run_of_scan h with ⟨p, hrun, hdocument, himages, _⟩
  rw [markedEntries, hnodes, List.zipIdx_nil, List.foldlM_nil] at hrun
  rw [hdocument, himages, ← Except.ok.inj hrun]
  exact ⟨rfl, rfl⟩

/-- A marked element leads to an image. -/
theorem images_of_marked (h : scan config d = .ok scanned) {i : NodeId} {e : Element}
    (hmarked : d.markedAt? config i = some e) : scanned.images ≠ [] := by
  rcases byClass_of_markedAt? hmarked with ⟨hi, he⟩
  rcases scanned_of_scan h with ⟨p, hscanned, _, himages, _⟩
  rcases List.mem_iff_getElem?.mp hi with ⟨k, hk⟩
  have hrecord : recordOf config d (i, k) e ∈ scanned.images := by
    rw [himages, hscanned.images]
    exact List.mem_filterMap.mpr
      ⟨(i, k), List.mem_zipIdx_iff_getElem?.mpr hk, by rw [he, Option.map_some]⟩
  exact List.ne_nil_of_mem hrecord

/-- An image is recorded at a marked element. -/
theorem marked_of_image (h : scan config d = .ok scanned) {m : ManagedImage}
    (hm : m ∈ scanned.images) : ∃ e, d.markedAt? config m.node = some e := by
  rcases scanned_of_scan h with ⟨p, hscanned, _, himages, _⟩
  rw [himages] at hm
  rcases element_of_image hscanned hm with ⟨e, he⟩
  exact ⟨e, markedAt?_of_byClass (node_of_marked (mem_images hscanned hm he).1) he⟩

/-- The first element with a tag is the same one after a scan. -/
theorem firstByTag?_of_scan (h : scan config d = .ok scanned) (tag : Text) :
    (Index.ofDocument scanned.document).firstByTag? tag
      = (Index.ofDocument d).firstByTag? tag := by
  rcases scanned_of_scan h with ⟨p, hscanned, hdocument, _⟩
  rw [hdocument, firstByTag?_of_sameBut hscanned.same]

/-- What synchronizing writes in a document that has been scanned and given a style
    sheet. -/
theorem written_synchronize (h : scan config d = .ok scanned) {css : Text} {head : NodeId}
    {injected : Document} (hinjected : Injected css head scanned.document injected) :
    Document.WrittenAt (writable config d) injected
      (synchronize config scanned injected).2.document := by
  refine synchronize_keeps (P := fun s => Document.WrittenAt (writable config d) injected
    s.document) (Document.WrittenAt.refl _ injected) fun m hm v s hs => ?_
  refine written_resolve _ v (fun e he himage => ?_) hs
  rcases marked_of_image h hm with ⟨e₀, hmarked⟩
  rcases scanned_of_scan h with ⟨p, hscanned, hdocument, _⟩
  -- The element at the node has the tag it had at first.
  rcases hscanned.same.element m.node e₀ (byClass_of_markedAt? hmarked).2 with ⟨e₁, he₁, hsame⟩
  rw [hinjected.element? (hdocument ▸ he₁), Option.some.injEq] at he
  rw [← he, Element.isImage, hsame.isTag, ← Element.isImage] at himage
  rw [writable_of_marked hmarked, Element.writes, if_pos himage]
  exact List.mem_append_right _ (List.mem_singleton_self _)

end

/-- The phases of a run that succeeds. -/
theorem phases_of_process {config : Config} {d : Document} {page : ProcessedPage}
    (h : process config d = .ok page) :
    ∃ scanned, scan config d = .ok scanned
      ∧ (scanned.images = [] → page.document = scanned.document)
      ∧ (scanned.images ≠ [] → ∃ injected,
        scanned.document.injectStylesheet? page.css = some injected
          ∧ page.document = (synchronize config scanned injected).2.document) := by
  rw [process] at h
  cases hscan : scan config d with
  | error reason =>
      rw [hscan] at h
      exact absurd h (by simp)
  | ok scanned =>
      rw [hscan] at h
      refine ⟨scanned, rfl, fun hnone => ?_, fun hsome => ?_⟩
      · simp only [hnone, List.isEmpty_nil, if_true, Except.ok.injEq] at h
        rw [← h]
      · simp only [List.isEmpty_iff, if_neg hsome] at h
        cases hinject : scanned.document.injectStylesheet? (scanned.stylesheet.textFor config) with
        | none =>
            rw [hinject] at h
            exact absurd h (by simp)
        | some injected =>
            simp only [hinject, Except.ok.injEq] at h
            rw [← h]
            exact ⟨injected, hinject, rfl⟩

/-- What processing does to a document. Without marked elements it does nothing.
    Otherwise the style sheet is put into the first head, and beyond that only some
    attributes of the marked elements are written. -/
theorem process_writes {config : Config} {d : Document} {page : ProcessedPage}
    (h : process config d = .ok page) :
    ((∀ i, d.markedAt? config i = none) → page.document = d)
      ∧ ((∃ i e, d.markedAt? config i = some e) →
        ∃ head e, d.elements.find? (fun entry => toLowerCase entry.2.tag == "head".toList)
            = some (head, e)
          ∧ Processed config d page.css head page.document) := by
  rcases phases_of_process h with ⟨scanned, hscan, hnone, hsome⟩
  refine ⟨fun hunmarked => ?_, ?_⟩
  · rcases scan_of_unmarked hscan hunmarked with ⟨hdocument, himages⟩
    rw [hnone himages, hdocument]
  · rintro ⟨i, e, hmarked⟩
    rcases hsome (images_of_marked hscan hmarked) with ⟨injected, hinject, hdocument⟩
    rcases injected_of_inject hinject with ⟨head, hhead, hinjected⟩
    rw [firstByTag?_of_scan hscan, firstByTag?_eq,
      show toLowerCase "head".toList = "head".toList by decide +kernel] at hhead
    rcases Option.map_eq_some_iff.mp hhead with ⟨⟨i', e'⟩, hfirst, heq⟩
    refine ⟨head, e', ?_, ?_⟩
    · rw [hfirst, ← heq]
    · rw [hdocument]
      exact processed_of_phases (written_scan hscan) hinjected
        (written_synchronize hscan hinjected)

/-- A page with marked elements inside each other, one of which is its head, and an
    image with two sources. -/
def nestedMarks : Document :=
  .ofTrees (some ⟨"html".toList, [], []⟩) [
    .element { tag := "html".toList } [
      .element {
        tag := "head".toList, attributes := [("class".toList, "rwdimage".toList)] } [
        .element {
          tag := "style".toList, attributes := [("CLASS".toList, "rwdimage".toList)] } [
          .text "p { margin: 0 }".toList]],
      .element { tag := "body".toList } [
        .element {
          tag := "div".toList
          attributes := [("class".toList, "rwdimage".toList),
            (Attribute.directive, "* { src: url(a.png) }".toList)] } [
          .element {
            tag := imageTag
            attributes := [("class".toList, "rwdimage".toList), ("SRC".toList, []),
              (sourceAttribute, "b.png".toList)] } []]]]]

/-- The page is processed, and its nodes keep their order. -/
theorem nested_marks_processed :
    ∃ page, process {} nestedMarks = .ok page
      ∧ Processed {} nestedMarks page.css 2 page.document
      ∧ page.document.preorder.filter (fun i => decide (i < 8)) = [0, 1, 2, 3, 4, 5, 6, 7] := by
  have hcompletes : (process {} nestedMarks).toOption.isSome = true := by decide +kernel
  have hmarked : ∃ e, nestedMarks.markedAt? {} 7 = some e :=
    Option.isSome_iff_exists.mp (by decide +kernel)
  have hhead : nestedMarks.elements.find?
        (fun entry => toLowerCase entry.2.tag == "head".toList)
      = some (2, { tag := "head".toList
                   attributes := [("class".toList, "rwdimage".toList)] }) := by
    decide +kernel
  cases hpage : process {} nestedMarks with
  | error reason =>
      rw [hpage] at hcompletes
      exact absurd hcompletes (by simp [Except.toOption])
  | ok page =>
      rcases (process_writes hpage).2 ⟨7, hmarked⟩ with ⟨head, e, hfirst, hprocessed⟩
      rw [hhead, Option.some.injEq, Prod.mk.injEq] at hfirst
      rw [← hfirst.1] at hprocessed
      refine ⟨page, rfl, hprocessed, ?_⟩
      have hsize : nestedMarks.nodes.size = 8 := by decide +kernel
      have horder := hprocessed.order (by decide +kernel) (by decide +kernel)
      rw [hsize] at horder
      rw [horder]
      decide +kernel

end ResponsiveImages
