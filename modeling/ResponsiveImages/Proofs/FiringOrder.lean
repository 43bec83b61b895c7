import ResponsiveImages.Proofs.StartLedger
import ResponsiveImages.Proofs.Writes

/-!
# Orders of Firing

What a start has registered may be fired in any order and any number of times.

A callback resolves one image, and resolutions share the document, the states and
the counter. They do not share the place they write to. A resolution reads and
writes the source of its own element, so two of them on different elements may be
exchanged, and a second one on the same element finds the source that the first has
left there (`settle_settle_self`, `settle_comm`). What a list of them does is then
decided by its members (`foldl_eq_of_mem_iff`).

Both facts ask for answers that stay the same, and a resolution is in the way of
that in two respects: it counts a question, and it writes into the document that the
next question is about. So the answers have to be the same for every count and for
every document that differs in its sources (`Answers.Fixed`). The count of questions
itself does depend on the repetitions and is left out of the comparison
(`Session.unasked`).

That elements are alive or that no two images share one is not needed. An element
that is gone stays gone, and images of one element get one answer.

## Main definitions

* `Document.writeSource`, `Document.newSource?`: What a resolution does to a document.
* `Session.settle`: A resolution by a fixed answer.
* `Answers.Fixed`: Answers that depend on the element alone.
* `SyncSystem.called`: The images of fired callbacks.
* `Resourced`: A system in which sources may have been written since.

## Theorems

* `settle_eq`: A resolution by a fixed answer.
* `settle_settle_self`, `settle_comm`: Repetitions and exchanges.
* `resourced_start`: What a start leaves alone.
* `session_fires`: Firings as resolutions by fixed answers.
* `firings_in_any_order`: Two sequences of firings with the same images.
-/

namespace ResponsiveImages

open Text

/-! ### Lists of exchangeable steps -/

section

variable {σ α : Type} {f : σ → α → σ} (hself : ∀ s a, f (f s a) a = f s a)
  (hcomm : ∀ s a b, f (f s a) b = f (f s b) a)

include hself hcomm

/-- A step that comes again later may be left out. -/
theorem foldl_of_mem {l : List α} {a : α} (ha : a ∈ l) (s : σ) :
    l.foldl f (f s a) = l.foldl f s := by
  rcases List.append_of_mem ha with ⟨front, back, rfl⟩
  have hfirst : ∀ s, (front ++ a :: back).foldl f s = (a :: (front ++ back)).foldl f s :=
    fun s => List.perm_middle.foldl_eq' (fun x _ y _ z => hcomm z x y) s
  rw [hfirst, hfirst, List.foldl_cons, List.foldl_cons, hself]

theorem foldl_append_of_subset {l : List α} (l' : List α) (hsub : l' ⊆ l) :
    ∀ s, (l' ++ l).foldl f s = l.foldl f s := by
  induction l' with
  | nil => exact fun _ => rfl
  | cons a l' ih =>
      intro s
      rw [List.cons_append, List.foldl_cons, ih (fun _ h => hsub (List.mem_cons_of_mem _ h)),
        foldl_of_mem hself hcomm (hsub List.mem_cons_self)]

/-- Steps that may be repeated and exchanged do what their members do. -/
theorem foldl_eq_of_mem_iff {l l' : List α} (h : ∀ a, a ∈ l ↔ a ∈ l') (s : σ) :
    l.foldl f s = l'.foldl f s := by
  calc l.foldl f s
      = (l' ++ l).foldl f s :=
        (foldl_append_of_subset hself hcomm l' (fun a ha => (h a).mpr ha) s).symm
    _ = (l ++ l').foldl f s :=
        List.perm_append_comm.foldl_eq' (fun x _ y _ z => hcomm z x y) s
    _ = l'.foldl f s := foldl_append_of_subset hself hcomm l (fun a ha => (h a).mp ha) s

end

/-! ### Writing sources -/

namespace Document

/-- The source that a value gives to the element at a node, if that needs one. -/
def newSource? (d : Document) (i : NodeId) (value : Option Text) : Option Text :=
  (d.element? i).bind fun e => if e.isImage then e.newSource? value else none

/-- The document with a source written at a node, if there is one to write. -/
def writeSource (d : Document) (i : NodeId) : Option Text → Document
  | some source => d.setAttribute i sourceAttribute source
  | none => d

theorem resolveSource_eq (read : Document → NodeId → Option Text) (d : Document) (i : NodeId) :
    (resolveSource read d i).document = d.writeSource i (d.newSource? i (read d i))
      ∧ (resolveSource read d i).changed = (d.newSource? i (read d i)).isSome := by
  unfold resolveSource newSource?
  cases d.element? i with
  | none => exact ⟨rfl, rfl⟩
  | some e =>
      rw [Option.bind_some]
      by_cases himage : e.isImage = true
      · simp only [if_pos himage]
        cases e.newSource? (read d i) with
        | none => exact ⟨rfl, rfl⟩
        | some source => exact ⟨rfl, rfl⟩
      · simp only [if_neg himage]
        exact ⟨rfl, rfl⟩

theorem element?_writeSource_of_ne (d : Document) {i j : NodeId} (hne : i ≠ j)
    (source : Option Text) : (d.writeSource i source).element? j = d.element? j := by
  cases source with
  | none => rfl
  | some source => exact element?_setAttribute_of_ne d hne _ _

/-- A source written at another node. -/
theorem newSource?_writeSource_of_ne (d : Document) {i j : NodeId} (hne : i ≠ j)
    (source value : Option Text) :
    (d.writeSource i source).newSource? j value = d.newSource? j value := by
  rw [newSource?, element?_writeSource_of_ne d hne, newSource?]

/-- Once its source has been written, an element needs none. -/
theorem newSource?_writeSource_self (d : Document) (i : NodeId) (value : Option Text) :
    (d.writeSource i (d.newSource? i value)).newSource? i value = none := by
  cases hnew : d.newSource? i value with
  | none => exact hnew
  | some source =>
      rcases Option.bind_eq_some_iff.mp hnew with ⟨e, he, hsource⟩
      by_cases himage : e.isImage = true
      · rw [if_pos himage] at hsource
        have hvalue := (Option.filter_eq_some_iff.mp hsource).1
        have htag : (e.setAttribute sourceAttribute source).isImage = true := himage
        have hset : (e.setAttribute sourceAttribute source).attributes.get? sourceAttribute
            = some source := Attributes.get?_set_self e.attributes sourceAttribute source
        rw [newSource?, writeSource, element?_setAttribute d i e he, Option.bind_some,
          if_pos htag, Element.newSource?, hvalue, hset, Option.filter_some, bne_self_eq_false,
          if_neg Bool.false_ne_true]
      · rw [if_neg himage] at hsource
        exact absurd hsource (Option.some_ne_none _).symm

theorem modify_comm (d : Document) {i j : NodeId} (hne : i ≠ j) (f g : Node → Node) :
    (d.modify i f).modify j g = (d.modify j g).modify i f := by
  refine eq_of_node? rfl fun k => ?_
  rw [node?_modify, node?_modify, node?_modify, node?_modify]
  by_cases hi : i = k
  · have hj : ¬ j = k := fun hj => hne (hi.trans hj.symm)
    rw [if_neg hj, if_pos hi, if_pos hi, if_neg hj]
  · rw [if_neg hi, if_neg hi]

/-- Sources written at two nodes. -/
theorem writeSource_comm (d : Document) {i j : NodeId} (hne : i ≠ j)
    (source source' : Option Text) :
    (d.writeSource i source).writeSource j source'
      = (d.writeSource j source').writeSource i source := by
  cases source with
  | none => rfl
  | some source =>
      cases source' with
      | none => rfl
      | some source' => exact modify_comm d hne _ _

theorem writtenAt_writeSource (d : Document) (i : NodeId) (source : Option Text) :
    WrittenAt (fun _ => syncEdits) d (d.writeSource i source) := by
  cases source with
  | none => exact WrittenAt.refl _ d
  | some source => exact writtenAt_setAttribute d List.mem_cons_self source

end Document

/-! ### Resolutions by fixed answers -/

namespace Session

/-- The session without the count of questions. -/
def unasked (s : Session) : Session :=
  { s with reads := 0 }

/-- Resolving an image by the answer for its element. -/
def settle (answer : NodeId → Option Text) (s : Session) (m : ManagedImage) : Session :=
  (s.resolve (fun _ => answer) m).unasked

end Session

section

variable (answer : NodeId → Option Text)

theorem alive_settle (s : Session) (m : ManagedImage) (i : NodeId) :
    (s.settle answer m).alive i = s.alive i :=
  alive_resolve (fun _ => answer) s m i

/-- A resolution by a fixed answer, of an element that is alive. -/
theorem settle_eq {s : Session} {m : ManagedImage} (h : s.alive m.node = true) :
    s.settle answer m
      = { document := s.document.writeSource m.node
            (s.document.newSource? m.node (answer m.node))
          held := s.held
          kept := s.kept
          states := s.states.set m.id .resolved
          updates := s.updates
            + (s.document.newSource? m.node (answer m.node)).isSome.toNat } := by
  rcases Document.resolveSource_eq (fun _ => answer) s.document m.node with ⟨hdocument, hchanged⟩
  rw [Session.settle, resolve_of_alive _ h, hdocument, hchanged]
  rfl

theorem settle_of_gone {s : Session} {m : ManagedImage} (h : s.alive m.node = false) :
    s.settle answer m = s.unasked := by
  rw [Session.settle, resolve_of_gone _ h]

/-- A resolution by the answer that is given to its question. -/
theorem unasked_resolve {read : Document → NodeId → Option Text} {s : Session}
    {m : ManagedImage} (h : read s.document m.node = answer m.node) :
    (s.resolve read m).unasked = s.settle answer m := by
  cases halive : s.alive m.node with
  | true =>
      rcases Document.resolveSource_eq read s.document m.node with ⟨hdocument, hchanged⟩
      rw [settle_eq answer halive, resolve_of_alive read halive, hdocument, hchanged, h]
      rfl
  | false => rw [settle_of_gone answer halive, resolve_of_gone read halive]

/-- A second resolution of an image finds the source that the first has left. -/
theorem settle_settle_self (s : Session) (m : ManagedImage) :
    (s.settle answer m).settle answer m = s.settle answer m := by
  cases h : s.alive m.node with
  | true =>
      rw [settle_eq answer ((alive_settle answer s m m.node).trans h), settle_eq answer h,
        Document.newSource?_writeSource_self, List.set_set]
      rfl
  | false =>
      rw [settle_of_gone answer ((alive_settle answer s m m.node).trans h),
        settle_of_gone answer h]
      rfl

theorem settle_unasked (s : Session) (m : ManagedImage) :
    s.unasked.settle answer m = s.settle answer m := by
  have hsame : s.unasked.alive m.node = s.alive m.node := rfl
  cases h : s.alive m.node with
  | true =>
      rw [settle_eq answer h, settle_eq answer (hsame.trans h)]
      rfl
  | false =>
      rw [settle_of_gone answer h, settle_of_gone answer (hsame.trans h)]
      rfl

/-- An image whose element is gone, next to another one. -/
theorem settle_settle_of_gone {s : Session} {m : ManagedImage} (h : s.alive m.node = false)
    (m' : ManagedImage) :
    (s.settle answer m).settle answer m' = s.settle answer m'
      ∧ (s.settle answer m').settle answer m = s.settle answer m' := by
  rw [settle_of_gone answer h, settle_unasked,
    settle_of_gone answer ((alive_settle answer s m' m.node).trans h)]
  exact ⟨rfl, rfl⟩

theorem set_set_comm (states : List SyncState) (i j : Nat) (state : SyncState) :
    (states.set i state).set j state = (states.set j state).set i state := by
  by_cases h : i = j
  · rw [h]
  · exact List.set_comm state state h

/-- The order of two resolutions does not matter. -/
theorem settle_comm (s : Session) (m m' : ManagedImage) :
    (s.settle answer m).settle answer m' = (s.settle answer m').settle answer m := by
  cases h : s.alive m.node with
  | false =>
      rcases settle_settle_of_gone answer h m' with ⟨hfirst, hsecond⟩
      rw [hfirst, hsecond]
  | true =>
      cases h' : s.alive m'.node with
      | false =>
          rcases settle_settle_of_gone answer h' m with ⟨hfirst, hsecond⟩
          rw [hfirst, hsecond]
      | true =>
          rw [settle_eq answer ((alive_settle answer s m m'.node).trans h'),
            settle_eq answer ((alive_settle answer s m' m.node).trans h), settle_eq answer h,
            settle_eq answer h', set_set_comm]
          by_cases hnode : m.node = m'.node
          · -- Both ask for the same element, and the second has nothing to write.
            rw [hnode]
          · -- Neither sees what the other writes.
            simp only [Document.newSource?_writeSource_of_ne _ hnode,
              Document.newSource?_writeSource_of_ne _ (Ne.symm hnode),
              Document.writeSource_comm _ hnode, Nat.add_right_comm]

end

/-! ### Firings -/

/-- There is one answer for the element of each image, whatever has been asked before
    and whatever sources have been written. -/
def Answers.Fixed (answers : Answers) (d : Document) (images : List ManagedImage)
    (answer : NodeId → Option Text) : Prop :=
  ∀ n d', Document.WrittenAt (fun _ => syncEdits) d d' →
    ∀ m ∈ images, answers n d' m.node = answer m.node

/-- A system in which sources may have been written since. -/
structure Resourced (s s' : SyncSystem) : Prop where
  answers : s'.answers = s.answers
  document : Document.WrittenAt (fun _ => syncEdits) s.session.document s'.session.document

namespace Resourced

theorem refl (s : SyncSystem) : Resourced s s :=
  ⟨rfl, Document.WrittenAt.refl _ _⟩

theorem trans {s s' s'' : SyncSystem} (h : Resourced s s') (h' : Resourced s' s'') :
    Resourced s s'' :=
  ⟨h'.answers.trans h.answers, h.document.trans h'.document⟩

end Resourced

namespace SyncSystem

/-- The images of the callbacks with certain numbers. -/
def called (s : SyncSystem) (numbers : List Nat) : List ManagedImage :=
  numbers.filterMap fun callback => s.callbacks[callback]?

theorem resourced_resolve (m : ManagedImage) (s : SyncSystem) : Resourced s (s.resolve m) := by
  refine ⟨rfl, ?_⟩
  rw [resolve]
  cases h : s.session.alive m.node with
  | true =>
      simp only [resolve_of_alive _ h, Document.resolveSource_eq]
      exact Document.writtenAt_writeSource _ _ _
  | false =>
      simp only [resolve_of_gone _ h]
      exact Document.WrittenAt.refl _ _

theorem resourced_fire (s : SyncSystem) (callback : Nat) : Resourced s (s.fire callback) := by
  rw [fire]
  cases s.callbacks[callback]? with
  | none => exact Resourced.refl s
  | some m => exact resourced_resolve m s

theorem resourced_fires (numbers : List Nat) :
    ∀ s : SyncSystem, Resourced s (numbers.foldl fire s) := by
  induction numbers with
  | nil => exact Resourced.refl
  | cons callback numbers ih => exact fun s => (resourced_fire s callback).trans (ih _)

theorem callbacks_fires (s : SyncSystem) (numbers : List Nat) :
    (numbers.foldl fire s).callbacks = s.callbacks := by
  rcases onward_fires numbers s with ⟨_, honward⟩
  exact honward.callbacks

/-- The steps of a start write sources and nothing else, and register images in their
    order. -/
theorem resourced_steps (fired : Nat → List Nat) (steps : List StartStep) :
    ∀ s : SyncSystem,
      let s' := steps.foldl (StartStep.perform resolve (listen fired)) s
      Resourced s s'
        ∧ s'.callbacks = s.callbacks ++ (steps.filterMap StartStep.registered?).map Prod.fst := by
  induction steps with
  | nil => exact fun s => ⟨Resourced.refl s, (List.append_nil _).symm⟩
  | cons step steps ih =>
      intro s
      cases step with
      | resolve m =>
          rcases ih (s.resolve m) with ⟨hresourced, hcallbacks⟩
          exact ⟨(resourced_resolve m s).trans hresourced, hcallbacks⟩
      | subscribe m query =>
          let registered : SyncSystem := { s with callbacks := s.callbacks ++ [m] }
          have hfires := resourced_fires (fired s.callbacks.length) registered
          have hlistens : Resourced s (s.listen fired m query) :=
            ⟨hfires.answers, hfires.document⟩
          have hknown : (s.listen fired m query).callbacks = s.callbacks ++ [m] :=
            callbacks_fires registered _
          rcases ih (s.listen fired m query) with ⟨hresourced, hcallbacks⟩
          refine ⟨hlistens.trans hresourced, hcallbacks.trans ?_⟩
          rw [hknown, List.append_assoc]
          rfl

/-- What a start writes and registers. -/
theorem resourced_start (fired : Nat → List Nat) (images : List ManagedImage) (s : SyncSystem) :
    Resourced s (s.start (some fired) images)
      ∧ (s.start (some fired) images).callbacks
        = s.callbacks ++ (images.filter fun m => !m.passive true).flatMap
            fun m => m.listensTo.map fun _ => m := by
  rcases resourced_steps fired (startSteps true images)
    { s with
      session := s.session.reset images
      started := some images
      attempts := []
      earlier := s.earlier ++ s.attempts } with ⟨hresourced, hcallbacks⟩
  refine ⟨⟨hresourced.answers, hresourced.document⟩, hcallbacks.trans ?_⟩
  rw [registered_startSteps, List.map_flatMap]
  simp only [List.map_map, Function.comp_def]

/-- Firings are resolutions by the fixed answers, but for the count of questions. -/
theorem session_fires {answers : Answers} {d : Document} {images : List ManagedImage}
    {answer : NodeId → Option Text} (hfixed : answers.Fixed d images answer)
    (numbers : List Nat) :
    ∀ s : SyncSystem, s.answers = answers →
      Document.WrittenAt (fun _ => syncEdits) d s.session.document →
      (∀ m ∈ s.called numbers, m ∈ images) →
        (numbers.foldl fire s).session.unasked
          = (s.called numbers).foldl (Session.settle answer) s.session.unasked := by
  induction numbers with
  | nil => exact fun _ _ _ _ => rfl
  | cons callback numbers ih =>
      intro s hanswers hdocument himages
      have hnext := resourced_fire s callback
      have hcallbacks : (s.fire callback).callbacks = s.callbacks := callbacks_fires s [callback]
      have hcalled : (s.fire callback).called numbers = s.called numbers := by
        rw [called, hcallbacks, called]
      have hrest := ih (s.fire callback) (hnext.answers.trans hanswers)
        (hdocument.trans hnext.document)
      rw [hcalled] at hrest
      cases hget : s.callbacks[callback]? with
      | none =>
          have hcons : s.called (callback :: numbers) = s.called numbers := by
            rw [called, List.filterMap_cons, hget, called]
          have hkept : s.fire callback = s := by
            rw [fire, hget]
          rw [hcons] at himages ⊢
          rw [List.foldl_cons, hrest himages, hkept]
      | some m =>
          have hcons : s.called (callback :: numbers) = m :: s.called numbers := by
            rw [called, List.filterMap_cons, hget, called]
          have hanswer : s.answers s.session.reads s.session.document m.node = answer m.node := by
            rw [hcons] at himages
            rw [hanswers]
            exact hfixed _ _ hdocument m (himages m List.mem_cons_self)
          have hfire : (s.fire callback).session.unasked
              = s.session.unasked.settle answer m := by
            rw [settle_unasked, ← unasked_resolve answer hanswer, fire, hget]
            rfl
          rw [hcons] at himages ⊢
          rw [List.foldl_cons, List.foldl_cons, ← hfire]
          exact hrest fun m' hm' => himages m' (List.mem_cons_of_mem _ hm')

end SyncSystem

/-- After a start, callbacks may be fired in any order and any number of times. If the
    style of each image has one answer, whatever sources have been written, then two
    sequences of firings that are about the same images leave the same document, the
    same states and the same count of replaced sources. Images that share an element
    or whose element is gone are no exception, and a matcher may have fired callbacks
    during the start. -/
theorem firings_in_any_order (s : SyncSystem) (fired : Nat → List Nat)
    (images : List ManagedImage) {answer : NodeId → Option Text}
    (hfixed : s.answers.Fixed s.session.document images answer) :
    let started := s.start (some fired) images
    started.callbacks = s.callbacks ++ (images.filter fun m => !m.passive true).flatMap
        (fun m => m.listensTo.map fun _ => m)
      ∧ ∀ first second : List Nat, (∀ m ∈ started.called first, m ∈ images) →
        (∀ m, m ∈ started.called first ↔ m ∈ started.called second) →
          let s₁ := (first.foldl SyncSystem.fire started).session
          let s₂ := (second.foldl SyncSystem.fire started).session
          s₁.document = s₂.document ∧ s₁.states = s₂.states ∧ s₁.updates = s₂.updates := by
  intro started
  rcases SyncSystem.resourced_start fired images s with ⟨hresourced, hcallbacks⟩
  refine ⟨hcallbacks, ?_⟩
  intro first second himages hsame s₁ s₂
  have hfirst : s₁.unasked = _ :=
    SyncSystem.session_fires hfixed first started hresourced.answers hresourced.document himages
  have hsecond : s₂.unasked = _ :=
    SyncSystem.session_fires hfixed second started hresourced.answers hresourced.document
      fun m hm => himages m ((hsame m).mpr hm)
  have heq : s₁.unasked = s₂.unasked := by
    rw [hfirst, hsecond, foldl_eq_of_mem_iff (settle_settle_self answer) (settle_comm answer) hsame]
  simp only [Session.unasked, Session.mk.injEq] at heq
  rcases heq with ⟨hdocument, _, _, hstates, hupdates, _⟩
  exact ⟨hdocument, hstates, hupdates⟩

/-- Two images that listen to three queries, the second of which is resolved at the
    start as well. -/
def gallery : List ManagedImage := [
  ⟨0, 1, true, [⟨some "(min-width: 480px)".toList⟩], false⟩,
  ⟨1, 2, true, [⟨none⟩, ⟨some "(min-width: 480px)".toList⟩, ⟨some "print".toList⟩], false⟩]

/-- The elements of the two images, under an answer for each. -/
def gallerySystem : SyncSystem :=
  SyncSystem.ofDocument
    (fun _ _ i => if i = 1 then some "url(a.png)".toList else some "url(b.png)".toList)
    (Document.ofTrees none [
      .element { tag := imageTag } [],
      .element { tag := imageTag, attributes := [(sourceAttribute, "old.png".toList)] } []])

/-- The second image is fired by one callback after the first image, and before and
    after it by the other one. Both sources are replaced once. -/
theorem gallery_in_any_order :
    let started := gallerySystem.start (some fun _ => []) gallery
    let s₁ := ([0, 1].foldl SyncSystem.fire started).session
    let s₂ := ([2, 0, 2].foldl SyncSystem.fire started).session
    s₁.document = s₂.document ∧ s₁.states = s₂.states ∧ s₁.updates = s₂.updates
      ∧ s₁.updates = 2 ∧ s₁.reads ≠ s₂.reads := by
  intro started s₁ s₂
  have hfixed : gallerySystem.answers.Fixed gallerySystem.session.document gallery
      (fun i => if i = 1 then some "url(a.png)".toList else some "url(b.png)".toList) :=
    fun _ _ _ _ _ => rfl
  have hfirst : started.called [0, 1] = gallery := by decide +kernel
  have hsecond : started.called [2, 0, 2] = gallery.reverse ++ [gallery[1]] := by decide +kernel
  have hregistered : ∀ m ∈ started.called [0, 1], m ∈ gallery := by
    rw [hfirst]
    exact fun _ h => h
  have hsame : ∀ m, m ∈ started.called [0, 1] ↔ m ∈ started.called [2, 0, 2] := by
    intro m
    rw [hfirst, hsecond]
    simp only [gallery, List.mem_append, List.mem_reverse, List.mem_cons, List.not_mem_nil]
    tauto
  rcases (firings_in_any_order gallerySystem (fun _ => []) gallery hfixed).2 [0, 1] [2, 0, 2]
    hregistered hsame with ⟨hdocument, hstates, hupdates⟩
  exact ⟨hdocument, hstates, hupdates, by decide +kernel, by decide +kernel⟩

end ResponsiveImages
