import ResponsiveImages.Proofs.ScannedPage

/-!
# A Directive Concerns One Image

The text of a directive is whatever the author of a page has put into an attribute, and it
may be anything: quotes that are never closed, braces that do not match, commas in a row.
A scan reads it, compiles it and goes on to the next element with what it has found so far.
So there is something that a bad text could spoil: the document that is edited on the
way, the rules collected so far, and the classes that are looked for on the root while an
element is held.

Two documents are therefore scanned side by side that differ in one directive only
(`Document.SameButAt`). Each step takes both to documents that differ in nothing else
again. This is because what is written to an element depends on its number, its tag and
its source, and on its mode, and a directive is none of these
(`scanElement_sameButAt`). In particular one scan completes if the other does.

What is recorded is then compared element by element. All elements but one read the same
in both documents, and of that one only the clauses differ, which show in its breakpoints
and its rules. Since every node is listed once these are in one place of each list, with
the same entries in front of it and behind it (`images_of_split`, `rules_of_split`).

All of this is about the rules as they are listed. Bad text in a rule is printed as it is,
and what a browser makes of the lines that follow is not asked here.

## Main definitions

* `Document.SameButAt`: Documents that differ in some attributes of one node.
* `Document.rulesAt`: The rules that the element at a node is compiled to.

## Theorems

* `Document.sameButAt_setAttribute`: Setting an attribute.
* `Document.SameButAt.sameBut_of_ne`: The elements at the other nodes.
* `Element.SameBut.afterScan`: What a scan makes of elements that differ little.
* `scanElement_sameButAt`, `run_sameButAt`: Two scans side by side.
* `marked_split`: The place of a marked element.
* `images_of_split`, `rules_of_split`: What is recorded in the two scans.
* `directive_concerns_one_image`: The outcomes of the two scans.
-/

namespace ResponsiveImages

open Text

/-! ### Documents that differ at one node -/

namespace Document

/-- Documents that are the same but for some attributes of one node. -/
structure SameButAt (node : NodeId) (names : List Text) (d d' : Document) : Prop where
  same : SameBut names d d'
  others : ∀ i, i ≠ node → ∀ name, d'.attribute? i name = d.attribute? i name

theorem sameButAt_setAttribute (d : Document) (node : NodeId) (name value : Text) :
    SameButAt node [name] d (d.setAttribute node name value) where
  same := sameBut_setAttribute (List.mem_singleton_self name) d node value
  others i hi other := by
    rw [attribute?, element?_setAttribute_of_ne d (Ne.symm hi), attribute?]

namespace SameButAt

variable {node : NodeId} {names : List Text} {d d' : Document}

theorem sameBut_of_ne (h : SameButAt node names d d') {i : NodeId} (hi : i ≠ node)
    {e e' : Element} (he : d.element? i = some e) (he' : d'.element? i = some e') :
    Element.SameBut [] e e' := by
  rcases h.same.element i e he with ⟨e₁, he₁, hsame⟩
  rw [he', Option.some.injEq] at he₁
  refine ⟨he₁ ▸ hsame.tag, fun name _ => ?_⟩
  have hattribute := h.others i hi name
  rw [attribute?, attribute?, he, he'] at hattribute
  exact hattribute

/-- An attribute that is none of those can be read at any node. -/
theorem attribute? (h : SameButAt node names d d') (i : NodeId) {name : Text}
    (hname : ∀ n ∈ names, eqIgnoreCase n name = false) :
    d'.attribute? i name = d.attribute? i name := by
  rw [Document.attribute?, Document.attribute?]
  cases he : d.element? i with
  | none => rw [h.same.noElement i he]
  | some e =>
      rcases h.same.element i e he with ⟨e', he', hsame⟩
      rw [he', Option.bind_some, Option.bind_some, hsame.get? name hname]

end SameButAt

end Document

/-! ### Two scans side by side -/

/-- What a scan writes to an element depends on its tag and its source. -/
theorem Element.SameBut.afterScan {names : List Text} {e e' : Element}
    (h : Element.SameBut names e e')
    (hsource : ∀ n ∈ names, eqIgnoreCase n sourceAttribute = false) (config : Config)
    (id : Nat) (mode : Bool) :
    Element.SameBut names (e.afterScan config id mode) (e'.afterScan config id mode) := by
  have hid := h.setAttribute Attribute.id (decimal id)
  have hnumbered : Element.SameBut names (e.numbered id) (e'.numbered id) := by
    have himage : (e'.setAttribute Attribute.id (decimal id)).isImage
        = (e.setAttribute Attribute.id (decimal id)).isImage := hid.isTag imageTag
    unfold Element.numbered
    simp only [himage, hid.get? sourceAttribute hsource]
    split
    · exact hid.setAttribute sourceAttribute blankSource
    · exact hid
  rw [Element.afterScan, Element.afterScan, Element.marked, Element.marked]
  split
  · exact hnumbered.setAttribute Attribute.hasEnquire _
  · exact hnumbered

/-- Elements at one node of two documents are replaced by edited ones. -/
theorem Document.SameBut.replace {names : List Text} {d d' : Document}
    (h : Document.SameBut names d d') {i : NodeId} {e e' f f' : Element}
    (he : d.element? i = some e) (he' : d'.element? i = some e')
    (hedit : Element.SameBut scanEdits e f) (hedit' : Element.SameBut scanEdits e' f')
    (hsame : Element.SameBut names f f') :
    Document.SameBut names (d.modify i fun n => { n with content := .element f })
      (d'.modify i fun n => { n with content := .element f' }) := by
  -- Neither document moves a node when an element is edited.
  have hd := sameBut_replace d i e f he hedit
  have hd' := sameBut_replace d' i e' f' he' hedit'
  refine ⟨?_, fun j => ?_, fun j => ?_, fun j x hx => ?_, fun j hj => ?_⟩
  · rw [hd'.size, h.size, hd.size]
  · rw [hd'.children, h.children, hd.children]
  · rw [hd'.parent, h.parent, hd.parent]
  · rw [element?_replace d i j e f he] at hx
    rw [element?_replace d' i j e' f' he']
    by_cases hij : i = j
    · rw [if_pos hij, Option.some.injEq] at hx
      rw [if_pos hij, ← hx]
      exact ⟨f', rfl, hsame⟩
    · rw [if_neg hij] at hx ⊢
      exact h.element j x hx
  · rw [element?_replace d i j e f he] at hj
    rw [element?_replace d' i j e' f' he']
    by_cases hij : i = j
    · rw [if_pos hij] at hj
      exact absurd hj (by simp)
    · rw [if_neg hij] at hj ⊢
      exact h.noElement j hj

/-! A directive is none of the attributes that a scan asks for to edit an element, and none
that it writes. -/

theorem options_not_directive :
    ∀ n ∈ [Attribute.directive], ∀ name ∈ optionNames, eqIgnoreCase n name = false := by
  decide

theorem source_not_directive :
    ∀ n ∈ [Attribute.directive], eqIgnoreCase n sourceAttribute = false := by
  decide

theorem class_not_directive :
    ∀ n ∈ [Attribute.directive], eqIgnoreCase n "class".toList = false := by
  decide

theorem scanEdits_not_directive :
    ∀ name ∈ scanEdits, ∀ n ∈ [Attribute.directive], eqIgnoreCase n name = false := by
  decide

section

variable {config : Config} {pageFallback : Bool} {node : NodeId} {q : ScanProgress}

/-- Scanning one element of both documents. -/
theorem scanElement_sameButAt {p p' : ScanProgress} (entry : NodeId × Nat)
    (h : Document.SameButAt node [Attribute.directive] p.document p'.document)
    (hstep : scanElement config pageFallback p entry = .ok q) :
    ∃ q', scanElement config pageFallback p' entry = .ok q'
      ∧ Document.SameButAt node [Attribute.directive] q.document q'.document := by
  rcases scanElement_ok hstep with ⟨hnone, heq⟩ | ⟨e, mode, he, hmode, heq⟩
  · rw [heq]
    exact ⟨p', scanElement_none (h.same.noElement entry.1 hnone), h⟩
  rcases h.same.element entry.1 e he with ⟨e', he', hsame⟩
  -- The mode is that of the other document, since the options are the same.
  have hmode' : fallbackModeOf config pageFallback p'.document entry.1 e'.options = .ok mode := by
    rw [hsame.options options_not_directive, h.same.fallbackModeOf class_not_directive, hmode]
  refine ⟨p'.next config entry e' mode, ?_, ?_⟩
  · rw [scanElement_eq he', hmode', Except.map]
  rw [heq, ScanProgress.next, ScanProgress.next]
  refine ⟨h.same.replace he he' (sameBut_afterScan _ _ _ e) (sameBut_afterScan _ _ _ e')
    (hsame.afterScan source_not_directive _ _ _), fun i hi name => ?_⟩
  rw [Document.attribute?, Document.attribute?, element?_replace _ _ _ _ _ he,
    element?_replace _ _ _ _ _ he']
  by_cases hentry : entry.1 = i
  · -- The element is the same in both documents, and so is what is written to it.
    rw [if_pos hentry, if_pos hentry]
    have hequal := h.sameBut_of_ne (hentry ▸ hi) he he'
    exact (hequal.afterScan (List.forall_mem_nil _) _ _ _).get? name (List.forall_mem_nil _)
  · rw [if_neg hentry, if_neg hentry]
    exact h.others i hi name

/-- Scanning elements of both documents one after the other. The second run is built up
along the first one, so it is not taken for granted that it gets to the end. -/
theorem run_sameButAt (entries : List (NodeId × Nat)) (p p' : ScanProgress)
    (h : Document.SameButAt node [Attribute.directive] p.document p'.document)
    (hrun : entries.foldlM (scanElement config pageFallback) p = .ok q) :
    ∃ q', entries.foldlM (scanElement config pageFallback) p' = .ok q'
      ∧ Document.SameButAt node [Attribute.directive] q.document q'.document := by
  refine run_keeps (P := fun done q => ∃ q',
      done.foldlM (scanElement config pageFallback) p' = .ok q'
        ∧ Document.SameButAt node [Attribute.directive] q.document q'.document)
    entries [] p q (fun done entry _ q₁ q₂ hdone hstep => ?_) ⟨p', rfl, h⟩ hrun
  rcases hdone with ⟨q₁', hrun', hsame⟩
  rcases scanElement_sameButAt entry hsame hstep with ⟨q₂', hstep', hnext⟩
  refine ⟨q₂', ?_, hnext⟩
  rw [List.foldlM_append, hrun']
  show [entry].foldlM (scanElement config pageFallback) q₁' = .ok q₂'
  rw [List.foldlM_cons, hstep']
  rfl

end

/-! ### What is recorded -/

/-- The rules that the element at a node is compiled to under a number. -/
def Document.rulesAt (d : Document) (node : NodeId) (id : Nat) : List StyleRule :=
  ((d.element? node).bind fun e => e.compiled? id).toList.flatMap fun compiled =>
    compiled.rules.map ElementRule.styleRule

/-- What stands in the other places of two lists that differ in one. -/
theorem getElem?_append_cons_of_ne {α : Type} {first rest : List α} {a b : α} {j : Nat}
    (hj : j ≠ first.length) : (first ++ b :: rest)[j]? = (first ++ a :: rest)[j]? := by
  rw [List.getElem?_append, List.getElem?_append]
  by_cases hlt : j < first.length
  · rw [if_pos hlt, if_pos hlt]
  · rw [if_neg hlt, if_neg hlt, show j - first.length = j - first.length - 1 + 1 by omega,
      List.getElem?_cons_succ, List.getElem?_cons_succ]

/-- Two selections from a list that agree on all entries but one. -/
theorem filterMap_split {α β : Type} {f f' : α → Option β} {before after : List α} {x : α}
    (hagree : ∀ y ∈ before ++ after, f' y = f y) :
    ∃ first rest, (before ++ x :: after).filterMap f = first ++ (f x).toList ++ rest
      ∧ (before ++ x :: after).filterMap f' = first ++ (f' x).toList ++ rest := by
  have hbefore : before.filterMap f' = before.filterMap f :=
    List.filterMap_congr fun y hy => hagree y (List.mem_append_left _ hy)
  have hafter : after.filterMap f' = after.filterMap f :=
    List.filterMap_congr fun y hy => hagree y (List.mem_append_right _ hy)
  have hselect : ∀ g : α → Option β, (before ++ x :: after).filterMap g
      = before.filterMap g ++ (g x).toList ++ after.filterMap g := by
    intro g
    rw [List.filterMap_append, List.filterMap_cons, List.append_assoc]
    cases g x with
    | none => rfl
    | some y => rfl
  exact ⟨before.filterMap f, after.filterMap f, hselect f, by rw [hselect f', hbefore, hafter]⟩

/-- The flags of a page are decided by the modes of its images. -/
theorem outcome_flags (config : Config) {p p' : ScanProgress}
    (hmodes : p'.images.map ManagedImage.fallbackMode = p.images.map ManagedImage.fallbackMode)
    (pageFallback : Bool) :
    (p'.outcome config pageFallback).fallbackMode = (p.outcome config pageFallback).fallbackMode
      ∧ (p'.outcome config pageFallback).live = (p.outcome config pageFallback).live := by
  have hany : ∀ f : Bool → Bool, (p'.images.any fun m => f m.fallbackMode)
      = p.images.any fun m => f m.fallbackMode := by
    intro f
    have hmapped := congrArg (List.any · f) hmodes
    simp only [List.any_map] at hmapped
    exact hmapped
  exact ⟨congrArg (pageFallback || ·) (hany id), congrArg (config.live && ·) (hany (!·))⟩

section

variable {config : Config} {d d' : Document} {node : NodeId} {k : Nat}

/-- In a proper document a marked element stands in one place, between others. -/
theorem marked_split (hnodup : d.preorder.Nodup)
    (hk : (d.withClass config.markerClass)[k]? = some node) :
    ∃ before after, markedEntries config d = before ++ (node, k) :: after
      ∧ ∀ entry ∈ before ++ after, entry.1 ≠ node := by
  have hmarked : (node, k) ∈ markedEntries config d := by
    rw [markedEntries, byClass_eq hnodup]
    exact List.mem_zipIdx_iff_getElem?.mpr hk
  rcases List.append_of_mem hmarked with ⟨before, after, hsplit⟩
  refine ⟨before, after, hsplit, fun entry hentry hnode => ?_⟩
  -- The node is not found a second time, whatever its number would be.
  have hnodes : ((markedEntries config d).map Prod.fst).Nodup := by
    rw [markedEntries, List.zipIdx_map_fst]
    exact (byClass_sublist d config.markerClass).nodup hnodup
  rw [hsplit, List.map_append, List.map_cons, List.nodup_middle, List.nodup_cons,
    ← List.map_append] at hnodes
  have hmem : entry.1 ∈ (before ++ after).map Prod.fst := List.mem_map_of_mem hentry
  rw [hnode] at hmem
  exact hnodes.1 hmem

variable (h : Document.SameButAt node [Attribute.directive] d d')

include h

/-- What is recorded of an element but for its breakpoints. -/
theorem recordOf_sameButAt {e e' : Element} (hsame : Element.SameBut [Attribute.directive] e e')
    (entry : NodeId × Nat) :
    recordOf config d' entry e'
      = { recordOf config d entry e with breakpoints := e'.clauses.map Clause.breakpoint } := by
  have hclass := class_not_directive
  have hmode : fallbackModeIn config d' e' = fallbackModeIn config d e := by
    rw [fallbackModeIn, h.same.rootHasClass hclass, h.same.rootHasClass hclass,
      hsame.options options_not_directive, fallbackModeIn]
  rw [recordOf, hmode, Element.isImage, hsame.isTag]
  rfl

theorem record_of_ne (config : Config) {entry : NodeId × Nat} (hne : entry.1 ≠ node) :
    (d'.element? entry.1).map (recordOf config d' entry)
      = (d.element? entry.1).map (recordOf config d entry) := by
  cases he : d.element? entry.1 with
  | none => rw [h.same.noElement entry.1 he, Option.map_none, Option.map_none]
  | some e =>
      rcases h.same.element entry.1 e he with ⟨e', he', hsame⟩
      -- The directive of this element is the same as well.
      have hclauses : e'.clauses = e.clauses :=
        (h.sameBut_of_ne hne he he').clauses (List.forall_mem_nil _) (List.forall_mem_nil _)
      rw [he', Option.map_some, Option.map_some, recordOf_sameButAt h hsame, hclauses]
      rfl

theorem compiled_of_ne {entry : NodeId × Nat} (hne : entry.1 ≠ node) :
    ((d'.element? entry.1).bind fun e => e.compiled? entry.2)
      = (d.element? entry.1).bind fun e => e.compiled? entry.2 := by
  cases he : d.element? entry.1 with
  | none => rw [h.same.noElement entry.1 he]
  | some e =>
      rcases h.same.element entry.1 e he with ⟨e', he', _⟩
      rw [he', Option.bind_some, Option.bind_some]
      exact (h.sameBut_of_ne hne he he').compiled? (List.forall_mem_nil _)
        (List.forall_mem_nil _) entry.2

/-! ### The outcomes of two scans -/

variable {before after : List (NodeId × Nat)}
  (hothers : ∀ entry ∈ before ++ after, entry.1 ≠ node) {p p' : ScanProgress}
  (hscanned : Scanned config d (before ++ (node, k) :: after) p)
  (hscanned' : Scanned config d' (before ++ (node, k) :: after) p')

include hothers hscanned hscanned'

/-- The images that are recorded in the two scans. -/
theorem images_of_split {e : Element} (he : d.element? node = some e) :
    ∃ first rest breakpoints, p.images = first ++ recordOf config d (node, k) e :: rest
      ∧ p'.images = first ++ { recordOf config d (node, k) e with breakpoints } :: rest := by
  rcases h.same.element node e he with ⟨e', he', hsame⟩
  rcases filterMap_split (x := (node, k)) fun entry hentry =>
    record_of_ne h config (hothers entry hentry) with ⟨first, rest, hfirst, hsecond⟩
  refine ⟨first, rest, e'.clauses.map Clause.breakpoint, ?_, ?_⟩
  · rw [hscanned.images, hfirst, he, Option.map_some, Option.toList_some, List.append_assoc]
    rfl
  · rw [hscanned'.images, hsecond, he', Option.map_some, Option.toList_some, List.append_assoc,
      recordOf_sameButAt h hsame]
    rfl

/-- The rules that are compiled in the two scans. -/
theorem rules_of_split (markerClass : Text) (live : Bool) :
    ∃ first rest,
      (Stylesheet.assemble markerClass live p.compiled).rules
          = first ++ d.rulesAt node k ++ rest
        ∧ (Stylesheet.assemble markerClass live p'.compiled).rules
          = first ++ d'.rulesAt node k ++ rest := by
  rcases filterMap_split (x := (node, k)) fun entry hentry =>
    compiled_of_ne h (hothers entry hentry) with ⟨first, rest, hfirst, hsecond⟩
  let rules : CompiledElement → List StyleRule := fun c => c.rules.map ElementRule.styleRule
  refine ⟨baselineRules markerClass live ++ first.flatMap rules, rest.flatMap rules, ?_, ?_⟩
  · rw [Stylesheet.assemble, hscanned.compiled, hfirst, List.flatMap_append, List.flatMap_append,
      Document.rulesAt]
    simp only [List.append_assoc, rules]
  · rw [Stylesheet.assemble, hscanned'.compiled, hsecond, List.flatMap_append,
      List.flatMap_append, Document.rulesAt]
    simp only [List.append_assoc, rules]

end

/-- The directive of a marked element may be replaced by any other text, or taken away,
without consequences for other images. If a scan completes it still does, with as many
images, which have the same numbers, nodes, kinds and modes, and of which only the one in
question has other breakpoints. The page is in the same mode, the elements are edited in
the same way, and in the style sheet one block of rules has been replaced by another. -/
theorem directive_concerns_one_image {config : Config} {d d' : Document}
    {scanned : ScanOutcome} {node : NodeId} {k : Nat} (hnodup : d.preorder.Nodup)
    (hk : (d.withClass config.markerClass)[k]? = some node)
    (hsame : Document.SameButAt node [Attribute.directive] d d')
    (hscan : scan config d = .ok scanned) :
    ∃ scanned', scan config d' = .ok scanned'
      ∧ scanned'.images.map (fun m => (m.id, m.node, m.isImage, m.fallbackMode))
          = scanned.images.map (fun m => (m.id, m.node, m.isImage, m.fallbackMode))
      ∧ (∀ j, j ≠ k → scanned'.images[j]? = scanned.images[j]?)
      ∧ scanned'.fallbackMode = scanned.fallbackMode
      ∧ scanned'.live = scanned.live
      ∧ Document.SameButAt node [Attribute.directive] scanned.document scanned'.document
      ∧ (∀ i, ∀ name ∈ scanEdits,
          scanned'.document.attribute? i name = scanned.document.attribute? i name)
      ∧ ∃ first rest,
          scanned.stylesheet.rules = first ++ d.rulesAt node k ++ rest
            ∧ scanned'.stylesheet.rules = first ++ d'.rulesAt node k ++ rest := by
  have hentries := hsame.same.markedEntries class_not_directive hnodup config
  have hpage := hsame.same.rootHasClass class_not_directive config.fallbackClass
  rcases scan_ok_iff.mp hscan with ⟨p, hrun, houtcome⟩
  rcases run_sameButAt _ { document := d } { document := d' } hsame hrun with
    ⟨p', hrun', hdocument⟩
  rw [← hentries, ← hpage] at hrun'
  have hscanned := scanned_of_run hrun
  have hscanned' := scanned_of_run hrun'
  -- The lists of the two scans differ in the place of this element.
  rcases marked_split hnodup hk with ⟨before, after, hsplit, hothers⟩
  rcases (mem_withClass.mp (List.mem_of_getElem? hk)).2 with ⟨e, he, _⟩
  have hhere : Scanned config d (before ++ (node, k) :: after) p := hsplit ▸ hscanned
  have hthere : Scanned config d' (before ++ (node, k) :: after) p' :=
    hentries.trans hsplit ▸ hscanned'
  rcases images_of_split hsame hothers hhere hthere he with
    ⟨first, rest, breakpoints, himages, himages'⟩
  -- An image has its place as its number, so `k` images stand in front of it.
  have hplace : first.length = k := by
    refine (id_of_place hscanned (m := recordOf config d (node, k) e) ?_).symm
    rw [himages, List.getElem?_append_right (Nat.le_refl _), Nat.sub_self]
    rfl
  have hmodes : p'.images.map ManagedImage.fallbackMode
      = p.images.map ManagedImage.fallbackMode := by
    rw [himages, himages', List.map_append, List.map_append, List.map_cons, List.map_cons]
  rcases outcome_flags config hmodes (d.rootHasClass config.fallbackClass)
    with ⟨hfallback, hlive⟩
  rcases rules_of_split hsame hothers hhere hthere config.markerClass
      (p.outcome config (d.rootHasClass config.fallbackClass)).live
    with ⟨sheetStart, sheetEnd, hrules, hrules'⟩
  refine ⟨p'.outcome config (d.rootHasClass config.fallbackClass),
    scan_ok_iff.mpr ⟨p', hrun', by rw [hpage]⟩, ?_⟩
  rw [houtcome]
  refine ⟨?_, fun j hj => ?_, hfallback, hlive, hdocument, fun i name hname =>
    hdocument.attribute? i (scanEdits_not_directive name hname), sheetStart, sheetEnd, hrules, ?_⟩
  · show p'.images.map _ = p.images.map _
    rw [himages, himages', List.map_append, List.map_append, List.map_cons, List.map_cons]
  · show p'.images[j]? = p.images[j]?
    rw [himages, himages']
    exact getElem?_append_cons_of_ne (hplace ▸ hj)
  · rw [← hlive] at hrules'
    exact hrules'

/-- Three images, each with a picture of its own on wide screens. -/
def threePictures : Document :=
  .ofTrees none [
    .element { tag := "html".toList } (["a", "b", "c"].map fun picture =>
      .element {
        tag := imageTag
        attributes := [("class".toList, "rwdimage".toList),
          (Attribute.directive, "(min-width: 600px) \x7b src: url(".toList ++ picture.toList
            ++ ".png) \x7d".toList)] } [])]

/-- The same page with a second directive in which things are opened and not closed, and
closed and not opened. -/
def unclosedSecond : Document :=
  threePictures.setAttribute 3 Attribute.directive
    "\x7d, , (min-width: 600px \x7b src: url('a] \x7b".toList

/-- Three rules take the place of one, and the first image and the third one are what they
were. -/
theorem unclosed_directive_concerns_one_image :
    ∃ scanned scanned', scan {} threePictures = .ok scanned
      ∧ scan {} unclosedSecond = .ok scanned'
      ∧ scanned.images.map ManagedImage.node = [2, 3, 4]
      ∧ scanned'.images[0]? = scanned.images[0]? ∧ scanned'.images[2]? = scanned.images[2]?
      ∧ scanned'.document.attribute? 4 Attribute.id
          = scanned.document.attribute? 4 Attribute.id
      ∧ ∃ first rule rules rest, scanned.stylesheet.rules = first ++ [rule] ++ rest
          ∧ scanned'.stylesheet.rules = first ++ rules ++ rest ∧ rules.length = 3 := by
  have hcompletes : (scan {} threePictures).toOption.map
      (fun s => s.images.map ManagedImage.node) = some [2, 3, 4] := by
    decide +kernel
  rcases scan_of_images hcompletes with ⟨scanned, hscan, hnodes⟩
  rcases directive_concerns_one_image (k := 1) (by decide +kernel) (by decide +kernel)
      (Document.sameButAt_setAttribute threePictures 3 Attribute.directive _) hscan
    with ⟨scanned', hscan', _, hothers, _, _, _, hwritten, first, rest, hrules, hrules'⟩
  have hone : (threePictures.rulesAt 3 1).length = 1 := by decide +kernel
  have hthree : (unclosedSecond.rulesAt 3 1).length = 3 := by decide +kernel
  rcases List.length_eq_one_iff.mp hone with ⟨rule, hrule⟩
  rw [hrule] at hrules
  exact ⟨scanned, scanned', hscan, hscan', hnodes, hothers 0 (by decide), hothers 2 (by decide),
    hwritten 4 Attribute.id (by decide), first, rule, _, rest, hrules, hrules', hthree⟩

end ResponsiveImages
