import Mathlib.Data.List.Nodup
import ResponsiveImages.Page.Scan
import ResponsiveImages.Proofs.Edits
import ResponsiveImages.Proofs.ElementsByClass

/-!
# What a Scan Leaves Behind

A scan goes through the marked elements one after the other and edits them on
the way, so what it finds at one element could depend on what it has done to
others. It does not. None of the attributes it writes (`scanEdits`) is one
that it reads to record or to compile an element, and so everything it records
can be said of the document it was given (`Scanned`, `scanned_of_scan`).

A node may be listed more than once if the document lists it more than once.
It is then recorded under several numbers, and carries the last one. This is
why the number on an element is only said to be one of those it was recorded
under (`Scanned.numbered`). If every node occurs once it is the number of its
record (`id_of_nodup`).

## Main definitions

* `scanEdits`: The attributes a scan writes.
* `Element.options`, `Element.clauses`: What is read from an element.
* `recordOf`: What a scan records of an element.
* `Element.afterScan`: An element as a scan leaves it.
* `ScanProgress.next`: What has been found after one more element.
* `Scanned`: What has been done after some elements.
* `markedEntries`: The marked elements, each with its number.
* `ScanProgress.outcome`: What is returned after the last of them.

## Theorems

* `Element.SameBut.options`, `Element.SameBut.compiled?`: What is read from elements that
  are the same but for some attributes.
* `options_of_sameBut`, `clauses_of_sameBut`: Nothing that is written is read.
* `rootHasClassWhile_ok`: Looking for a class on the root while a node is held.
* `Document.SameBut.fallbackModeOf`, `Document.SameBut.markedEntries`: What is asked of
  the document on the way.
* `scanElement_eq`, `scanElement_ok`: What scanning one element does.
* `scanned_step`: Scanning one more element.
* `run_keeps`: Scanning elements one after the other.
* `element?_of_run`, `sameBut_of_scanElement`, `sameBut_of_run`: What is left alone.
* `scan_ok_iff`, `run_of_scan`: A scan is a run through the marked elements.
* `scanned_of_run`, `scanned_of_scan`: The outcome of a scan.
* `id_of_nodup`: The number on an element of a proper document.
* `mem_images`: What the images of a scan are records of.
* `nodes_of_images`, `ids_of_images`: The nodes and the numbers of the images.
* `image_of_id`: An image is known by its number.
* `number_of_image`: The number on the element of an image.
* `compiled_rule_mem`: The rules of an image stand in the style sheet.
-/

namespace ResponsiveImages

open Text

/-! ### What a scan reads and writes -/

/-- The attributes a scan writes. -/
def scanEdits : List Text :=
  [Attribute.id, sourceAttribute, Attribute.hasEnquire]

/-- The options of an element. -/
def Element.options (e : Element) : Options :=
  Options.ofAttributes e.attributes

/-- The clauses of the directive of an element. Without a directive there are
    none. -/
def Element.clauses (e : Element) : List Clause :=
  match e.attributes.get? Attribute.directive with
  | some directive => readDirective e.options.units directive
  | none => []

/-- Whether an element is in fallback mode: the root has the fallback class of the
    page or the one of the element. -/
def fallbackModeIn (config : Config) (d : Document) (e : Element) : Bool :=
  d.rootHasClass config.fallbackClass || d.rootHasClass e.options.fallbackClass

/-- What a scan records of the element at a node. -/
def recordOf (config : Config) (d : Document) (entry : NodeId × Nat) (e : Element) :
    ManagedImage where
  id := entry.2
  node := entry.1
  isImage := e.isImage
  breakpoints := e.clauses.map Clause.breakpoint
  fallbackMode := fallbackModeIn config d e

/-- An element as a scan leaves it, given whether it is in fallback mode. -/
def Element.afterScan (config : Config) (id : Nat) (fallbackMode : Bool) (e : Element) : Element :=
  (e.numbered id).marked (config.live && !fallbackMode)

/-- What a scan has found after one more element, given its mode. -/
def ScanProgress.next (config : Config) (entry : NodeId × Nat) (e : Element)
    (fallbackMode : Bool) (p : ScanProgress) : ScanProgress where
  document := p.document.modify entry.1 fun n =>
    { n with content := .element (e.afterScan config entry.2 fallbackMode) }
  images := p.images ++ [{
    id := entry.2
    node := entry.1
    isImage := e.isImage
    breakpoints := e.clauses.map Clause.breakpoint
    fallbackMode }]
  compiled := p.compiled ++ (e.compiled? entry.2).toList

theorem class_not_scanEdits : ∀ n ∈ scanEdits, eqIgnoreCase n "class".toList = false := by
  decide

theorem directive_not_scanEdits :
    ∀ n ∈ scanEdits, eqIgnoreCase n Attribute.directive = false := by
  decide

/-- What the directive of an element is compiled to. -/
theorem compiled?_eq (id : Nat) (e : Element) :
    e.compiled? id = (e.attributes.get? Attribute.directive).map fun _ =>
      compileElement id e.clauses e.options := by
  rw [Element.compiled?, Element.clauses]
  cases e.attributes.get? Attribute.directive with
  | none => rfl
  | some directive => rfl

theorem breakpoints_of_compiled? (id : Nat) (e : Element) :
    ((e.compiled? id).map CompiledElement.breakpoints).getD []
      = e.clauses.map Clause.breakpoint := by
  rw [compiled?_eq, Element.clauses]
  cases e.attributes.get? Attribute.directive with
  | none => rfl
  | some directive => rfl

/-- The attributes that the options of an element are read from. -/
def optionNames : List Text :=
  [Attribute.em, Attribute.emBase, Attribute.retina, Attribute.retinaSuffix, Attribute.fallback,
    Attribute.fallbackClass, Attribute.lazyLoad]

theorem options_not_scanEdits :
    ∀ n ∈ scanEdits, ∀ name ∈ optionNames, eqIgnoreCase n name = false := by
  decide

namespace Element.SameBut

variable {names : List Text} {e e' : Element} (h : Element.SameBut names e e')
  (hoptions : ∀ n ∈ names, ∀ name ∈ optionNames, eqIgnoreCase n name = false)

include h hoptions

/-- The options of elements that agree on all attributes they are read from. -/
theorem options : e'.options = e.options := by
  have hget : ∀ name ∈ optionNames, e'.attributes.get? name = e.attributes.get? name :=
    fun name hname => h.get? name fun n hn => hoptions n hn name hname
  simp only [optionNames, List.forall_mem_cons] at hget
  rcases hget with ⟨hem, hemBase, hretina, hsuffix, hfallback, hclass, hlazy, _⟩
  simp only [Element.options, Options.ofAttributes, Options.flag, Options.emBaseOf,
    Options.nonEmpty?, hem, hemBase, hretina, hsuffix, hfallback, hclass, hlazy]

variable (hdirective : ∀ n ∈ names, eqIgnoreCase n Attribute.directive = false)

include hdirective

theorem clauses : e'.clauses = e.clauses := by
  rw [Element.clauses, h.get? _ hdirective, h.options hoptions, Element.clauses]

theorem compiled? (id : Nat) : e'.compiled? id = e.compiled? id := by
  rw [compiled?_eq, compiled?_eq, h.get? _ hdirective, h.clauses hoptions hdirective,
    h.options hoptions]

end Element.SameBut

section

variable {e e' : Element} (h : Element.SameBut scanEdits e e')

include h

/-- None of the options is written by a scan. -/
theorem options_of_sameBut : e'.options = e.options :=
  h.options options_not_scanEdits

theorem clauses_of_sameBut : e'.clauses = e.clauses :=
  h.clauses options_not_scanEdits directive_not_scanEdits

theorem compiled?_of_sameBut (id : Nat) : e'.compiled? id = e.compiled? id :=
  h.compiled? options_not_scanEdits directive_not_scanEdits id

end

/-! ### One element -/

theorem sameBut_numbered (id : Nat) (e : Element) :
    Element.SameBut scanEdits e (e.numbered id) := by
  have hid : Element.SameBut scanEdits e (e.setAttribute Attribute.id (decimal id)) :=
    Element.sameBut_setAttribute (by decide) e (decimal id)
  unfold Element.numbered
  simp only
  split
  · exact hid.trans (Element.sameBut_setAttribute (by decide) _ blankSource)
  · exact hid

theorem id_numbered (id : Nat) (e : Element) :
    (e.numbered id).attributes.get? Attribute.id = some (decimal id) := by
  have hid : (e.setAttribute Attribute.id (decimal id)).attributes.get? Attribute.id
      = some (decimal id) := Attributes.get?_set_self e.attributes _ _
  unfold Element.numbered
  simp only
  split
  · rw [Element.setAttribute, Attributes.get?_set_of_ne _ _ (by decide), hid]
  · exact hid

theorem sameBut_marked (driven : Bool) (e : Element) :
    Element.SameBut scanEdits e (e.marked driven) := by
  rw [Element.marked]
  cases driven with
  | true => exact Element.sameBut_setAttribute (by decide) e _
  | false => exact Element.SameBut.refl scanEdits e

/-- The mark does not touch other attributes. -/
theorem get?_marked (driven : Bool) (e : Element) {name : Text}
    (hne : eqIgnoreCase Attribute.hasEnquire name = false) :
    (e.marked driven).attributes.get? name = e.attributes.get? name := by
  rw [Element.marked]
  cases driven with
  | true => exact Attributes.get?_set_of_ne _ _ hne
  | false => rfl

theorem sameBut_afterScan (config : Config) (id : Nat) (mode : Bool) (e : Element) :
    Element.SameBut scanEdits e (e.afterScan config id mode) :=
  (sameBut_numbered id e).trans (sameBut_marked _ _)

/-- Scanning an element. Only its mode is looked for in the document. -/
theorem scanElement_eq {config : Config} {pageFallback : Bool} {p : ScanProgress}
    {entry : NodeId × Nat} {e : Element} (he : p.document.element? entry.1 = some e) :
    scanElement config pageFallback p entry
      = (fallbackModeOf config pageFallback p.document entry.1 e.options).map
          (p.next config entry e) := by
  have hoptions : Options.ofAttributes (e.numbered entry.2).attributes = e.options :=
    options_of_sameBut (sameBut_numbered entry.2 e)
  rw [scanElement, he]
  simp only
  rw [hoptions]
  congr 1
  funext mode
  -- Nothing that is recorded depends on what has been written.
  have hsame := sameBut_afterScan config entry.2 mode e
  have himage : (e.afterScan config entry.2 mode).isImage = e.isImage := hsame.isTag imageTag
  have hcompiled := compiled?_of_sameBut hsame entry.2
  rw [Element.afterScan] at himage hcompiled
  rw [himage, hcompiled, breakpoints_of_compiled?]
  rfl

theorem scanElement_none {config : Config} {pageFallback : Bool} {p : ScanProgress}
    {entry : NodeId × Nat} (hnone : p.document.element? entry.1 = none) :
    scanElement config pageFallback p entry = .ok p := by
  rw [scanElement, hnone]

/-- Scanning one element, if it succeeds. -/
theorem scanElement_ok {config : Config} {pageFallback : Bool} {p p' : ScanProgress}
    {entry : NodeId × Nat} (h : scanElement config pageFallback p entry = .ok p') :
    (p.document.element? entry.1 = none ∧ p' = p)
      ∨ ∃ e mode, p.document.element? entry.1 = some e
        ∧ fallbackModeOf config pageFallback p.document entry.1 e.options = .ok mode
        ∧ p' = p.next config entry e mode := by
  cases he : p.document.element? entry.1 with
  | none =>
      rw [scanElement_none he, Except.ok.injEq] at h
      exact Or.inl ⟨rfl, h.symm⟩
  | some e =>
      rw [scanElement_eq he] at h
      cases hmode : fallbackModeOf config pageFallback p.document entry.1 e.options with
      | error reason =>
          rw [hmode] at h
          exact absurd h (by simp [Except.map])
      | ok mode =>
          rw [hmode, Except.map, Except.ok.injEq] at h
          exact Or.inr ⟨e, mode, rfl, hmode, h.symm⟩

/-- Looking for a class on the root while a node is held finds what there is, if
    it succeeds. -/
theorem rootHasClassWhile_ok {d : Document} {held : NodeId} {name : Text} {found : Bool}
    (h : d.rootHasClassWhile held name = .ok found) : found = d.rootHasClass name := by
  have hfirst : ∀ (nodes : List NodeId) (first : Option Element),
      d.firstElementWhile held nodes = .ok first →
        first = (nodes.find? fun i => (d.element? i).isSome).bind d.element? := by
    intro nodes
    induction nodes with
    | nil =>
        intro first hnil
        rw [Document.firstElementWhile, Except.ok.injEq] at hnil
        exact hnil.symm
    | cons i nodes ih =>
        intro first hcons
        rw [Document.firstElementWhile] at hcons
        by_cases hheld : i = held
        · rw [if_pos hheld] at hcons
          exact absurd hcons (by simp)
        · rw [if_neg hheld] at hcons
          rw [List.find?_cons]
          cases he : d.element? i with
          | none =>
              rw [he] at hcons
              exact ih first hcons
          | some e =>
              rw [he, Except.ok.injEq] at hcons
              rw [← hcons]
              exact he.symm
  rw [Document.rootHasClassWhile] at h
  rw [Document.rootHasClass_eq, Document.documentElement?]
  cases hroot : d.firstElementWhile held (d.children Document.root) with
  | error reason =>
      rw [hroot] at h
      exact absurd h (by simp [Except.map])
  | ok first =>
      rw [hroot, Except.map, Except.ok.injEq] at h
      rw [← h, ← hfirst _ first hroot]
      -- What is left is the same question asked of the same element.
      cases first with
      | none => rfl
      | some e => rfl

namespace Document.SameBut

variable {names : List Text} {d d' : Document} (h : Document.SameBut names d d')
  (hclass : ∀ n ∈ names, eqIgnoreCase n "class".toList = false)

include h hclass

/-- What is found out about the classes of the root while a node is held. -/
theorem rootHasClassWhile (held : NodeId) (name : Text) :
    d'.rootHasClassWhile held name = d.rootHasClassWhile held name := by
  rw [Document.rootHasClassWhile, Document.rootHasClassWhile, h.children]
  induction d.children Document.root with
  | nil => rfl
  | cons i nodes ih =>
      rw [Document.firstElementWhile, Document.firstElementWhile]
      by_cases hheld : i = held
      · rw [if_pos hheld, if_pos hheld]
      · rw [if_neg hheld, if_neg hheld]
        -- The first element ends the search in both documents.
        cases he : d.element? i with
        | none =>
            rw [h.noElement i he]
            exact ih
        | some e =>
            rcases h.element i e he with ⟨e', he', hsame⟩
            rw [he']
            simp only [Except.map, hsame.hasClass hclass]

theorem fallbackModeOf (config : Config) (pageFallback : Bool) (node : NodeId) (o : Options) :
    fallbackModeOf config pageFallback d' node o
      = ResponsiveImages.fallbackModeOf config pageFallback d node o := by
  rw [ResponsiveImages.fallbackModeOf, h.rootHasClassWhile hclass,
    ResponsiveImages.fallbackModeOf]

end Document.SameBut

theorem fallbackModeOf_ok {config : Config} {d d' : Document}
    (hsame : Document.SameBut scanEdits d d') {node : NodeId} {e : Element} {mode : Bool}
    (h : fallbackModeOf config (d.rootHasClass config.fallbackClass) d' node e.options = .ok mode) :
    mode = fallbackModeIn config d e := by
  rw [fallbackModeOf] at h
  rw [fallbackModeIn]
  by_cases hpage : d.rootHasClass config.fallbackClass = true
  · rw [if_pos hpage, Except.ok.injEq] at h
    rw [hpage, Bool.true_or, h]
  rw [if_neg hpage] at h
  rw [Bool.not_eq_true] at hpage
  rw [hpage, Bool.false_or]
  -- A class of the same name is not looked for a second time.
  by_cases hown : e.options.fallbackClass = config.fallbackClass
  · rw [if_pos hown, Except.ok.injEq] at h
    rw [hown, hpage, h]
  · rw [if_neg hown] at h
    rw [rootHasClassWhile_ok h, hsame.rootHasClass class_not_scanEdits]

/-- What has been done after some elements, each listed with its number. -/
structure Scanned (config : Config) (d : Document) (done : List (NodeId × Nat))
    (p : ScanProgress) : Prop where
  same : Document.SameBut scanEdits d p.document
  images : p.images
    = done.filterMap fun entry => (d.element? entry.1).map (recordOf config d entry)
  compiled : p.compiled
    = done.filterMap fun entry => (d.element? entry.1).bind fun e => e.compiled? entry.2
  numbered : ∀ entry ∈ done, ∀ e, d.element? entry.1 = some e →
    ∃ k, (entry.1, k) ∈ done ∧ p.document.attribute? entry.1 Attribute.id = some (decimal k)

/-- The document after an element has been replaced by an edited one. -/
theorem sameBut_replace (d : Document) (node : NodeId) (e e' : Element)
    (he : d.element? node = some e) (hsame : Element.SameBut scanEdits e e') :
    Document.SameBut scanEdits d
      (d.modify node fun n => { n with content := .element e' }) := by
  rw [Document.element?_eq] at he
  rcases Option.bind_eq_some_iff.mp he with ⟨n₀, hn₀, hcontent⟩
  refine Document.sameBut_modify d node _ (fun _ => rfl) (fun _ => rfl) ?_ ?_
  · intro n e₁ hn he₁
    rw [hn₀, Option.some.injEq] at hn
    rw [← hn, hcontent, Option.some.injEq] at he₁
    exact ⟨e', rfl, he₁ ▸ hsame⟩
  · intro n hn hnone
    rw [hn₀, Option.some.injEq] at hn
    rw [← hn, hcontent] at hnone
    exact absurd hnone (by simp)

theorem element?_replace (d : Document) (node i : NodeId) (e e' : Element)
    (he : d.element? node = some e) :
    (d.modify node fun n => { n with content := .element e' }).element? i
      = if node = i then some e' else d.element? i := by
  by_cases h : node = i
  · rw [if_pos h, ← h]
    exact Document.element?_modify he fun _ _ => rfl
  · rw [if_neg h, Document.element?_eq, Document.node?_modify, if_neg h, ← Document.element?_eq]

/-- Scanning one more element. -/
theorem scanned_step {config : Config} {d : Document} {done : List (NodeId × Nat)}
    {p p' : ScanProgress} (entry : NodeId × Nat) (hdone : Scanned config d done p)
    (hstep : scanElement config (d.rootHasClass config.fallbackClass) p entry = .ok p') :
    Scanned config d (done ++ [entry]) p' := by
  cases he : d.element? entry.1 with
  | none =>
      have hnone := hdone.same.noElement entry.1 he
      rcases scanElement_ok hstep with ⟨_, heq⟩ | ⟨e, _, hsome, _⟩
      · rw [heq]
        refine ⟨hdone.same, ?_, ?_, ?_⟩
        · rw [List.filterMap_append, hdone.images]
          simp [he]
        · rw [List.filterMap_append, hdone.compiled]
          simp [he]
        · intro x hx e hsome
          rcases List.mem_append.mp hx with hold | hnew
          · rcases hdone.numbered x hold e hsome with ⟨k, hk, hid⟩
            exact ⟨k, List.mem_append_left _ hk, hid⟩
          · rw [List.mem_singleton.mp hnew, he] at hsome
            exact absurd hsome (by simp)
      · rw [hnone] at hsome
        exact absurd hsome (by simp)
  | some e =>
      -- The element may have been edited before, if its node is listed twice.
      rcases hdone.same.element entry.1 e he with ⟨e₀, he₀, hsame₀⟩
      rcases scanElement_ok hstep with ⟨hnone, _⟩ | ⟨e₁, mode, he₁, hmode, heq⟩
      · rw [he₀] at hnone
        exact absurd hnone (by simp)
      rw [he₀, Option.some.injEq] at he₁
      rw [← he₁, options_of_sameBut hsame₀] at hmode
      have hmode' := fallbackModeOf_ok hdone.same hmode
      rw [← he₁] at heq
      rw [heq, ScanProgress.next]
      refine ⟨?_, ?_, ?_, ?_⟩
      · exact hdone.same.trans
          (sameBut_replace p.document entry.1 e₀ _ he₀ (sameBut_afterScan _ _ _ e₀))
      · rw [List.filterMap_append, hdone.images]
        simp only [List.filterMap_cons, he, Option.map_some, List.filterMap_nil]
        rw [recordOf, clauses_of_sameBut hsame₀, hmode', Element.isImage, hsame₀.isTag]
        rfl
      · rw [List.filterMap_append, hdone.compiled]
        simp only [List.filterMap_cons, he, Option.bind_some]
        rw [compiled?_of_sameBut hsame₀]
        cases e.compiled? entry.2 with
        | none => rfl
        | some c => rfl
      · intro x hx e₂ hsome
        simp only [Document.attribute?, element?_replace _ _ _ _ _ he₀]
        -- The element carries its new number, the others those they had.
        by_cases hnode : entry.1 = x.1
        · refine ⟨entry.2, ?_, ?_⟩
          · rw [← hnode]
            exact List.mem_append_right _ (List.mem_singleton_self _)
          · rw [if_pos hnode, Option.bind_some, Element.afterScan, get?_marked _ _ (by decide),
              id_numbered]
        · rcases List.mem_append.mp hx with hold | hnew
          · rcases hdone.numbered x hold e₂ hsome with ⟨k, hk, hid⟩
            rw [if_neg hnode]
            exact ⟨k, List.mem_append_left _ hk, hid⟩
          · rw [List.mem_singleton.mp hnew] at hnode
            exact absurd rfl hnode

/-- Scanning elements one after the other keeps what is kept by scanning each, as
    something said of the elements done so far. -/
theorem run_keeps {config : Config} {pageFallback : Bool}
    {P : List (NodeId × Nat) → ScanProgress → Prop} (entries : List (NodeId × Nat)) :
    ∀ (done : List (NodeId × Nat)) (p p' : ScanProgress),
      (∀ done, ∀ entry ∈ entries, ∀ p p', P done p →
        scanElement config pageFallback p entry = .ok p' → P (done ++ [entry]) p') →
      P done p → entries.foldlM (scanElement config pageFallback) p = .ok p' →
        P (done ++ entries) p' := by
  induction entries with
  | nil =>
      intro done p p' _ hdone hrun
      rw [List.foldlM_nil] at hrun
      rw [List.append_nil, ← Except.ok.inj hrun]
      exact hdone
  | cons entry entries ih =>
      intro done p p' hkeeps hdone hrun
      rw [List.foldlM_cons] at hrun
      cases hstep : scanElement config pageFallback p entry with
      | error reason =>
          rw [hstep] at hrun
          exact absurd hrun (by simp [bind, Except.bind])
      | ok next =>
          rw [hstep] at hrun
          have hnext := ih (done ++ [entry]) next p'
            (fun done e he => hkeeps done e (List.mem_cons_of_mem _ he))
            (hkeeps done entry List.mem_cons_self p next hdone hstep) hrun
          rw [List.append_assoc] at hnext
          exact hnext

/-- Scanning elements leaves the others as they are. -/
theorem element?_of_run {config : Config} {pageFallback : Bool} {entries : List (NodeId × Nat)}
    {p p' : ScanProgress} {i : NodeId} (hi : i ∉ entries.map Prod.fst)
    (hrun : entries.foldlM (scanElement config pageFallback) p = .ok p') :
    p'.document.element? i = p.document.element? i := by
  refine run_keeps (P := fun _ q => q.document.element? i = p.document.element? i)
    entries [] p p' (fun _ entry hentry q q' hq hstep => ?_) rfl hrun
  rcases scanElement_ok hstep with ⟨_, heq⟩ | ⟨e, mode, he, _, heq⟩
  · rw [heq, hq]
  · have hne : entry.1 ≠ i := fun h => hi (h ▸ List.mem_map_of_mem hentry)
    rw [heq, ScanProgress.next, element?_replace _ _ _ _ _ he, if_neg hne, hq]

/-- Scanning one element changes nothing but what a scan writes. -/
theorem sameBut_of_scanElement {config : Config} {pageFallback : Bool} {entry : NodeId × Nat}
    {p p' : ScanProgress} (hstep : scanElement config pageFallback p entry = .ok p') :
    Document.SameBut scanEdits p.document p'.document := by
  rcases scanElement_ok hstep with ⟨_, heq⟩ | ⟨e, mode, he, _, heq⟩
  · rw [heq]
    exact Document.SameBut.refl scanEdits p.document
  · rw [heq]
    exact sameBut_replace p.document entry.1 e _ he (sameBut_afterScan _ _ _ e)

/-- Scanning elements changes nothing but what a scan writes. -/
theorem sameBut_of_run {config : Config} {pageFallback : Bool} {entries : List (NodeId × Nat)}
    {p p' : ScanProgress} (hrun : entries.foldlM (scanElement config pageFallback) p = .ok p') :
    Document.SameBut scanEdits p.document p'.document :=
  run_keeps (P := fun _ q => Document.SameBut scanEdits p.document q.document) entries [] p p'
    (fun _ _ _ _ _ hq hstep => hq.trans (sameBut_of_scanElement hstep))
    (Document.SameBut.refl scanEdits p.document) hrun

/-- The marked elements of a document, each with its number. -/
def markedEntries (config : Config) (d : Document) : List (NodeId × Nat) :=
  ((Index.ofDocument d).byClass config.markerClass).zipIdx

theorem node_of_marked {config : Config} {d : Document} {entry : NodeId × Nat}
    (hentry : entry ∈ markedEntries config d) :
    entry.1 ∈ (Index.ofDocument d).byClass config.markerClass :=
  List.fst_mem_of_mem_zipIdx hentry

/-- The marked elements are found with the same numbers. -/
theorem Document.SameBut.markedEntries {names : List Text} {d d' : Document}
    (h : Document.SameBut names d d')
    (hclass : ∀ n ∈ names, eqIgnoreCase n "class".toList = false) (hnodup : d.preorder.Nodup)
    (config : Config) : markedEntries config d' = markedEntries config d := by
  have hwith : d'.withClass config.markerClass = d.withClass config.markerClass := by
    rw [Document.withClass, h.preorder, Document.withClass]
    simp only [h.any_hasClass hclass]
  have hnodup' : d'.preorder.Nodup := h.preorder ▸ hnodup
  rw [ResponsiveImages.markedEntries, ResponsiveImages.markedEntries, byClass_eq hnodup',
    byClass_eq hnodup, hwith]

/-- What a scan returns after it has gone through the marked elements. -/
def ScanProgress.outcome (config : Config) (pageFallback : Bool) (p : ScanProgress) :
    ScanOutcome :=
  let live := config.live && p.images.any fun m => !m.fallbackMode
  { document := p.document
    images := p.images
    stylesheet := Stylesheet.assemble config.markerClass live p.compiled
    fallbackMode := pageFallback || p.images.any ManagedImage.fallbackMode
    live }

/-- A scan is a run through the marked elements. -/
theorem scan_ok_iff {config : Config} {d : Document} {scanned : ScanOutcome} :
    scan config d = .ok scanned ↔
      ∃ p, (markedEntries config d).foldlM
          (scanElement config (d.rootHasClass config.fallbackClass)) { document := d } = .ok p
        ∧ scanned = p.outcome config (d.rootHasClass config.fallbackClass) := by
  have hscan : scan config d = ((markedEntries config d).foldlM
      (scanElement config (d.rootHasClass config.fallbackClass)) { document := d }).map
        (ScanProgress.outcome config (d.rootHasClass config.fallbackClass)) := rfl
  rw [hscan]
  cases hrun : (markedEntries config d).foldlM
      (scanElement config (d.rootHasClass config.fallbackClass)) { document := d } with
  | error reason => simp [Except.map]
  | ok p =>
      rw [Except.map, Except.ok.injEq]
      exact ⟨fun h => ⟨p, rfl, h.symm⟩, fun ⟨_, hp, h⟩ => by rw [h, Except.ok.inj hp]⟩

/-- What is known of the outcome of a scan is known of the progress it ends with. -/
theorem run_of_scan {config : Config} {d : Document} {scanned : ScanOutcome}
    (h : scan config d = .ok scanned) :
    ∃ p, (markedEntries config d).foldlM
        (scanElement config (d.rootHasClass config.fallbackClass)) { document := d } = .ok p
      ∧ scanned.document = p.document ∧ scanned.images = p.images
      ∧ ∃ live, scanned.stylesheet = Stylesheet.assemble config.markerClass live p.compiled := by
  rcases scan_ok_iff.mp h with ⟨p, hrun, houtcome⟩
  rw [houtcome]
  exact ⟨p, hrun, rfl, rfl, _, rfl⟩

/-- What has been done after a run through the marked elements. -/
theorem scanned_of_run {config : Config} {d : Document} {p : ScanProgress}
    (hrun : (markedEntries config d).foldlM
      (scanElement config (d.rootHasClass config.fallbackClass)) { document := d } = .ok p) :
    Scanned config d (markedEntries config d) p := by
  have hstart : Scanned config d [] { document := d } :=
    ⟨Document.SameBut.refl scanEdits d, rfl, rfl, fun _ h => absurd h List.not_mem_nil⟩
  exact run_keeps (markedEntries config d) [] { document := d } p
    (fun _ entry _ _ _ hdone hstep => scanned_step entry hdone hstep) hstart hrun

/-- The outcome of a scan. -/
theorem scanned_of_scan {config : Config} {d : Document} {scanned : ScanOutcome}
    (h : scan config d = .ok scanned) :
    ∃ p, Scanned config d (markedEntries config d) p
      ∧ scanned.document = p.document ∧ scanned.images = p.images
      ∧ ∃ live, scanned.stylesheet = Stylesheet.assemble config.markerClass live p.compiled := by
  rcases run_of_scan h with ⟨p, hrun, houtcome⟩
  exact ⟨p, scanned_of_run hrun, houtcome⟩

/-- A scan completes if something is known of its images. -/
theorem scan_of_images {α : Type} {config : Config} {d : Document}
    {f : ScanOutcome → ManagedImage → α} {facts : List α}
    (h : (scan config d).toOption.map (fun s => s.images.map (f s)) = some facts) :
    ∃ scanned, scan config d = .ok scanned ∧ scanned.images.map (f scanned) = facts := by
  cases hscan : scan config d with
  | error reason =>
      rw [hscan] at h
      exact absurd h (by simp [Except.toOption])
  | ok scanned =>
      rw [hscan] at h
      exact ⟨scanned, rfl, Option.some.inj h⟩

/-- In a proper document every marked element has one number. -/
theorem id_of_nodup {config : Config} {d : Document} (hnodup : d.preorder.Nodup)
    {i : NodeId} {j k : Nat} (hj : (i, j) ∈ markedEntries config d)
    (hk : (i, k) ∈ markedEntries config d) : j = k := by
  -- An entry is numbered by its place, and the nodes in these places differ.
  have hnodes := (byClass_sublist d config.markerClass).nodup hnodup
  have hj' := List.mem_zipIdx_iff_getElem?.mp hj
  have hk' := List.mem_zipIdx_iff_getElem?.mp hk
  rcases List.getElem?_eq_some_iff.mp hj' with ⟨hjlt, hjget⟩
  rcases List.getElem?_eq_some_iff.mp hk' with ⟨hklt, hkget⟩
  exact (List.Nodup.getElem_inj_iff hnodes).mp (hjget.trans hkget.symm)

/-! ### The images of a scan -/

section

variable {config : Config} {d : Document} {p : ScanProgress} {m : ManagedImage} {e : Element}

/-- An image is a record of the element at its node. -/
theorem mem_images (hscanned : Scanned config d (markedEntries config d) p)
    (hm : m ∈ p.images) (he : d.element? m.node = some e) :
    (m.node, m.id) ∈ markedEntries config d ∧ m = recordOf config d (m.node, m.id) e := by
  rw [hscanned.images] at hm
  rcases List.mem_filterMap.mp hm with ⟨entry, hentry, hrecord⟩
  rcases Option.map_eq_some_iff.mp hrecord with ⟨e', he', heq⟩
  rw [← heq] at he ⊢
  have hsame : e' = e := Option.some.inj (he'.symm.trans he)
  rw [← hsame]
  exact ⟨hentry, rfl⟩

/-- An image is recorded at an element. -/
theorem element_of_image (hscanned : Scanned config d (markedEntries config d) p)
    (hm : m ∈ p.images) : ∃ e, d.element? m.node = some e := by
  rw [hscanned.images] at hm
  rcases List.mem_filterMap.mp hm with ⟨entry, _, hrecord⟩
  rcases Option.map_eq_some_iff.mp hrecord with ⟨e, he, heq⟩
  rw [← heq]
  exact ⟨e, he⟩

/-- Every marked element leads to one image, which has its node and its number. -/
theorem entries_of_images (hscanned : Scanned config d (markedEntries config d) p) :
    p.images.map (fun m => (m.node, m.id)) = markedEntries config d := by
  have hall : ∀ entries : List (NodeId × Nat), entries ⊆ markedEntries config d →
      (entries.filterMap fun entry => (d.element? entry.1).map (recordOf config d entry)).map
        (fun m => (m.node, m.id)) = entries := by
    intro entries hmarked
    induction entries with
    | nil => rfl
    | cons entry entries ih =>
        have hentry := hmarked List.mem_cons_self
        rcases (mem_byClass (node_of_marked hentry)).2 with ⟨e, he, _⟩
        rw [List.filterMap_cons, he, Option.map_some, List.map_cons,
          ih fun x hx => hmarked (List.mem_cons_of_mem _ hx)]
        rfl
  rw [hscanned.images]
  exact hall _ (List.Subset.refl _)

/-- The images are recorded in the order in which the elements are found. -/
theorem nodes_of_images (hscanned : Scanned config d (markedEntries config d) p) :
    p.images.map ManagedImage.node = (Index.ofDocument d).byClass config.markerClass := by
  have hnodes := congrArg (List.map Prod.fst) (entries_of_images hscanned)
  rw [List.map_map, markedEntries, List.zipIdx_map_fst] at hnodes
  exact hnodes

/-- The images are numbered by their places. -/
theorem ids_of_images (hscanned : Scanned config d (markedEntries config d) p) :
    p.images.map ManagedImage.id = List.range p.images.length := by
  have hids := congrArg (List.map Prod.snd) (entries_of_images hscanned)
  rw [List.map_map, markedEntries, List.zipIdx_map_snd, ← nodes_of_images hscanned,
    List.length_map, ← List.range_eq_range'] at hids
  exact hids

/-- The number of an image is its place. -/
theorem id_of_place (hscanned : Scanned config d (markedEntries config d) p) {place : Nat}
    (hm : p.images[place]? = some m) : m.id = place := by
  have hids := congrArg (·[place]?) (ids_of_images hscanned)
  rcases List.getElem?_eq_some_iff.mp hm with ⟨hlt, _⟩
  simp only [List.getElem?_map, hm, Option.map_some, List.getElem?_range hlt,
    Option.some.injEq] at hids
  exact hids

/-- An image is known by its number. -/
theorem image_of_id (hscanned : Scanned config d (markedEntries config d) p)
    {m' : ManagedImage} (hm : m ∈ p.images) (hm' : m' ∈ p.images) (hid : m'.id = m.id) :
    m' = m := by
  rcases element_of_image hscanned hm with ⟨e, he⟩
  rcases element_of_image hscanned hm' with ⟨e', he'⟩
  rcases mem_images hscanned hm he with ⟨hentry, hrecord⟩
  rcases mem_images hscanned hm' he' with ⟨hentry', hrecord'⟩
  -- A number stands for a place among the marked elements.
  have hplace := List.mem_zipIdx_iff_getElem?.mp hentry
  have hplace' := List.mem_zipIdx_iff_getElem?.mp hentry'
  rw [hid] at hplace'
  have hnode : m'.node = m.node := Option.some.inj (hplace'.symm.trans hplace)
  rw [hnode, he, Option.some.injEq] at he'
  rw [hrecord, hrecord', hid, hnode, he']

/-- The number on the element of an image, if every node of the document occurs
    once. -/
theorem number_of_image (hscanned : Scanned config d (markedEntries config d) p)
    (hnodup : d.preorder.Nodup) (hm : m ∈ p.images) (he : d.element? m.node = some e) :
    p.document.attribute? m.node Attribute.id = some (decimal m.id) := by
  have hentry := (mem_images hscanned hm he).1
  -- The node carries a number it was recorded under, and there is only one.
  rcases hscanned.numbered (m.node, m.id) hentry e he with ⟨k, hk, hid⟩
  rw [id_of_nodup hnodup hk hentry] at hid
  exact hid

/-- The rules an image is compiled to stand in the style sheet. -/
theorem compiled_rule_mem (hscanned : Scanned config d (markedEntries config d) p)
    (hm : m ∈ p.images) (he : d.element? m.node = some e) {compiled : CompiledElement}
    (hcompiled : e.compiled? m.id = some compiled) {r : ElementRule} (hr : r ∈ compiled.rules)
    (live : Bool) :
    ∃ place, OwnedRule.ofRule place r.styleRule
      ∈ (Stylesheet.assemble config.markerClass live p.compiled).own := by
  have hmem : compiled ∈ p.compiled := by
    rw [hscanned.compiled]
    refine List.mem_filterMap.mpr ⟨(m.node, m.id), (mem_images hscanned hm he).1, ?_⟩
    rw [he, Option.bind_some, hcompiled]
  have hstyle : r.styleRule
      ∈ (Stylesheet.assemble config.markerClass live p.compiled).rules :=
    List.mem_append_right _ (List.mem_flatMap.mpr ⟨_, hmem, List.mem_map_of_mem hr⟩)
  rcases List.getElem_of_mem hstyle with ⟨place, hplace, hget⟩
  refine ⟨place, List.mem_mapIdx.mpr ⟨place, hplace, ?_⟩⟩
  rw [hget]

end

end ResponsiveImages
