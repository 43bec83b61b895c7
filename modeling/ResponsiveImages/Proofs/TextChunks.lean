import ResponsiveImages.Proofs.SiblingInsertion

/-!
# Text in Chunks

What becomes of a text that arrives in chunks.

A reader of markup hands over text as it finds it, cut wherever its buffers end. At the
end of a list of children that makes no difference: a chunk that follows text is added
to it, so the document is the same as if the whole text had come at once
(`appendPiece_text_twice`). In front of a sibling it does make a difference. Nothing
looks at what stands there already, so every chunk becomes a node of its own
(`textsInFront_deliver`), and from their number one can tell how the text was cut.

Text that is to be inserted near a node goes in front of it if it has a parent, and
else to the end of the list of another. Inserting text changes no link, so all chunks go the
same way (`deliver_settled`).

A new text has no link, so creating it and putting it into a list is all that happens
(`link_new_text`). Where no list takes it, it is part of no tree (`keeps_deliver`).

## Main definitions

* `InsertionPoint`, `Document.insertAt`: Where something is inserted.
* `InsertionPoint.settled`: The way that text takes near a node.
* `Document.deliver`: Chunks of text that arrive one after the other.
* `Document.lastText?`: The text that a chunk is added to.
* `Document.TextsInFront`: Texts that have been put in front of a sibling.
* `Document.Idle`: Places where no list takes text.

## Theorems

* `foldl_joined`: Chunks that can be joined two at a time.
* `appendPiece_text`, `insertBefore_text`: What one chunk does.
* `appendPiece_text_twice`, `TextsInFront.concat`: What one chunk more does.
* `deliver_settled`, `parent?_deliver`: Chunks change no link.
* `textsInFront_deliver`, `keeps_deliver`: Chunks that are not joined.
* `text_in_chunks`: Chunks at any place.
-/

namespace ResponsiveImages

/-- A place where something is inserted. -/
inductive InsertionPoint where
  /-- The end of the list of a parent. -/
  | atEnd (parent : NodeId)
  /-- In front of a sibling. -/
  | before (sibling : NodeId)
  /-- In front of a node that has a parent, and else at the end of the list of another. -/
  | near (node other : NodeId)
  deriving DecidableEq, Repr

/-- The place in front of a node or at the end of a list that a place comes down to. -/
def InsertionPoint.settled (d : Document) : InsertionPoint → InsertionPoint
  | .near node other =>
    match d.parent? node with
    | some _ => .before node
    | none => .atEnd other
  | point => point

/-- A node with text added to it, if it is text. -/
def lengthen (s : Text) (n : Node) : Node :=
  match n.content with
  | .text old => { n with content := .text (old ++ s) }
  | _ => n

theorem lengthen_children (s : Text) (n : Node) : (lengthen s n).children = n.children := by
  rcases n with ⟨content, children, parent⟩
  cases content <;> rfl

theorem lengthen_parent (s : Text) (n : Node) : (lengthen s n).parent = n.parent := by
  rcases n with ⟨content, children, parent⟩
  cases content <;> rfl

theorem lengthen_lengthen (s s' : Text) (n : Node) :
    lengthen s' (lengthen s n) = lengthen (s ++ s') n := by
  rcases n with ⟨content, children, parent⟩
  cases content with
  | text old => simp only [lengthen, List.append_assoc]
  | root => rfl
  | element e => rfl
  | comment s => rfl

theorem editChildren_editChildren (f g : List NodeId → List NodeId) (n : Node) :
    Document.editChildren g (Document.editChildren f n)
      = Document.editChildren (fun nodes => g (f nodes)) n := by
  by_cases hholds : n.content.holdsChildren = true
  · simp only [Document.editChildren, if_pos hholds]
  · simp only [Document.editChildren, if_neg hholds]

/-- Steps of which two can be joined into one, as often as there are steps. -/
theorem foldl_joined {σ : Type} {f : σ → Text → σ} {start : σ}
    (hjoin : ∀ s s', f (f start s) s' = f start (s ++ s')) (chunks : List Text) :
    ∀ s, chunks.foldl f (f start s) = f start (s ++ chunks.flatten) := by
  induction chunks with
  | nil =>
      intro s
      rw [List.flatten_nil, List.append_nil]
      rfl
  | cons s' chunks ih =>
      intro s
      rw [List.foldl_cons, hjoin, ih, List.flatten_cons, List.append_assoc]

namespace Document

/-- The document with a piece inserted at a place. -/
def insertAt (d : Document) : InsertionPoint → Piece → Document
  | .atEnd parent, piece => d.appendPiece parent piece
  | .before sibling, piece => d.insertBefore sibling piece
  | .near node other, piece => d.insertNear node other piece

/-- The document after chunks of text have arrived at a place, one after the other. -/
def deliver (d : Document) (point : InsertionPoint) (chunks : List Text) : Document :=
  chunks.foldl (fun d s => d.insertAt point (.text s)) d

/-- Whether a node is text. -/
def isText (d : Document) (i : NodeId) : Bool :=
  match d.content? i with
  | some (.text _) => true
  | _ => false

/-- The last child of a node, if that is text. -/
def lastText? (d : Document) (parent : NodeId) : Option NodeId :=
  (d.children parent).getLast?.filter d.isText

variable {d : Document}

/-! ### A new text -/

section

variable (d) (s : Text)

/-- A text is not linked. -/
theorem link_new_text (parent : Option NodeId) :
    (d.create (.text s)).1.link d.nodes.size parent = (d.create (.text s)).1 := by
  refine eq_of_node? rfl fun i => ?_
  rw [link, node?_modify, node?_create]
  by_cases hi : i = d.nodes.size
  · rw [if_pos hi.symm, if_pos hi]
    rfl
  · rw [if_neg (Ne.symm hi)]

/-- A number without a node is as little an element as a text is. -/
theorem isElement_create_text (i : NodeId) :
    (d.create (.text s)).1.isElement i = d.isElement i := by
  by_cases hi : i = d.nodes.size
  · rw [isElement_eq, isElement_eq, node?_create, if_pos hi, hi, node?, Array.getElem?_size]
    rfl
  · exact isElement_create d _ hi

theorem holds_create_text (i : NodeId) :
    (d.create (.text s)).1.holds i = d.holds i := by
  by_cases hi : i = d.nodes.size
  · rw [holds_eq, holds_eq, node?_create, if_pos hi, hi, node?, Array.getElem?_size]
    rfl
  · rw [holds, content?_create, if_neg hi, holds]

end

/-! ### One chunk -/

/-- A chunk at the end of a list is added to the last child if that is text, and becomes a
    node if not. -/
theorem appendPiece_text (d : Document) (parent : NodeId) (s : Text) :
    d.appendPiece parent (.text s)
      = match d.lastText? parent with
        | some last => d.modify last (lengthen s)
        | none => (d.create (.text s)).1.modify parent (editChildren (· ++ [d.nodes.size])) := by
  have hnew : (d.create (.text s)).1.append parent d.nodes.size
      = (d.create (.text s)).1.modify parent (editChildren (· ++ [d.nodes.size])) := by
    rw [append, link_new_text]
  rw [appendPiece, mergeAtEnd?, lastText?, ← hnew]
  cases (d.children parent).getLast? with
  | none => rfl
  | some last =>
      rw [Option.bind_some, Option.filter_some, mergeInto?, isText]
      cases d.content? last with
      | none => rfl
      | some content => cases content <;> rfl

/-- A chunk in front of a sibling becomes a node, whatever stands there. -/
theorem insertBefore_text {sibling p : NodeId} (hp : d.parent? sibling = some p) (s : Text) :
    d.insertBefore sibling (.text s)
      = if d.isElement p = true
        then (d.create (.text s)).1.modify p (editChildren (placeBefore sibling d.nodes.size))
        else (d.create (.text s)).1 := by
  have hp' := (parent?_create d (.text s) sibling).trans hp
  have hcreated : d.insertBefore sibling (.text s)
      = (d.create (.text s)).1.insertBefore sibling (.node d.nodes.size) := by
    rw [insertBefore, insertBefore, hp, hp']
    rfl
  rw [hcreated, insertBefore_node hp', isElement_create_text, link_new_text]

/-- A chunk changes no link. -/
theorem parent?_insertAt_text (d : Document) (point : InsertionPoint) (s : Text) (i : NodeId) :
    (d.insertAt point (.text s)).parent? i = d.parent? i := by
  have hend : ∀ parent, (d.appendPiece parent (.text s)).parent? i = d.parent? i := by
    intro parent
    rw [appendPiece_text]
    split
    · exact parent?_modify (lengthen_parent s) _ i
    · rw [parent?_editChildren, parent?_create]
  have hfront : ∀ sibling, (d.insertBefore sibling (.text s)).parent? i = d.parent? i := by
    intro sibling
    cases hp : d.parent? sibling with
    | none => rw [insertBefore, hp]
    | some p =>
        rw [insertBefore_text hp]
        split
        · rw [parent?_editChildren, parent?_create]
        · exact parent?_create d _ i
  cases point with
  | atEnd parent => exact hend parent
  | before sibling => exact hfront sibling
  | near node other =>
      rw [insertAt, insertNear]
      split
      · exact hfront node
      · exact hend other

/-! ### Chunks at the end of a list -/

theorem isText_eq (d : Document) (i : NodeId) :
    d.isText i = ((d.node? i).map fun n =>
      match n.content with
      | .text _ => true
      | _ => false).getD false := by
  rw [isText, content?]
  cases d.node? i with
  | none => rfl
  | some n =>
      rcases n with ⟨content, children, parent⟩
      cases content <;> rfl

/-- Text stays text, and the last child stays the last one, when a text gets longer. -/
theorem lastText?_lengthen (d : Document) (i parent : NodeId) (s : Text) :
    (d.modify i (lengthen s)).lastText? parent = d.lastText? parent := by
  have htext : (d.modify i (lengthen s)).isText = d.isText := by
    funext j
    rw [isText_eq, map_node?_modify d i j, ← isText_eq]
    rintro ⟨content, children, parent⟩
    cases content <;> rfl
  rw [lastText?, lastText?, children_modify (lengthen_children s), htext]

section

variable {parent : NodeId} (hholds : d.holds parent = true) (s s' : Text)

include hholds

/-- A text that has been appended is what the next chunk is added to. -/
theorem lastText?_appended_text :
    ((d.create (.text s)).1.modify parent (editChildren (· ++ [d.nodes.size]))).lastText? parent
      = some d.nodes.size := by
  have hparent : parent ≠ d.nodes.size := Nat.ne_of_lt (lt_of_holds hholds)
  have hholds' := (holds_create_text d s parent).trans hholds
  have htext : ((d.create (.text s)).1.modify parent
      (editChildren (· ++ [d.nodes.size]))).isText d.nodes.size = true := by
    rw [isText_eq, node?_modify, if_neg hparent, node?_create, if_pos rfl]
    rfl
  rw [lastText?, children_editChildren, if_pos ⟨rfl, hholds'⟩, List.getLast?_concat,
    Option.filter_some, if_pos htext]

/-- Two chunks at the end of a list are as good as one. -/
theorem appendPiece_text_twice :
    (d.appendPiece parent (.text s)).appendPiece parent (.text s')
      = d.appendPiece parent (.text (s ++ s')) := by
  have hparent : parent ≠ d.nodes.size := Nat.ne_of_lt (lt_of_holds hholds)
  rw [appendPiece_text d, appendPiece_text d]
  cases hlast : d.lastText? parent with
  | some last =>
      simp only [appendPiece_text, lastText?_lengthen, hlast]
      rw [modify_modify]
      exact congrArg (d.modify last) (funext fun n => lengthen_lengthen s s' n)
  | none =>
      -- The first chunk becomes a node, and the second one is added to it.
      simp only [appendPiece_text, lastText?_appended_text hholds]
      refine eq_of_node? rfl fun i => ?_
      rw [node?_modify, node?_modify, node?_modify, node?_create, node?_create]
      by_cases hi : d.nodes.size = i
      · rw [if_pos hi, if_neg fun h => hparent (h.trans hi.symm), if_pos hi.symm, if_pos hi.symm,
          if_neg fun h => hparent (h.trans hi.symm)]
        rfl
      · rw [if_neg hi, if_neg (Ne.symm hi), if_neg (Ne.symm hi)]

/-- The last child after a chunk has arrived is text that ends in it. -/
theorem exists_last_text :
    ∃ last old, ((d.appendPiece parent (.text s)).children parent).getLast? = some last
      ∧ (d.appendPiece parent (.text s)).content? last = some (.text (old ++ s)) := by
  rw [appendPiece_text]
  cases hlast : d.lastText? parent with
  | some last =>
      rcases Option.filter_eq_some_iff.mp hlast with ⟨hmem, htext⟩
      rw [isText, content?] at htext
      cases hn : d.node? last with
      | none =>
          rw [hn] at htext
          exact absurd htext Bool.false_ne_true
      | some n =>
          rcases n with ⟨content, children, link⟩
          rw [hn] at htext
          cases content with
          | text old =>
              refine ⟨last, old, ?_, ?_⟩
              · rw [children_modify (lengthen_children s), hmem]
              · rw [content?, node?_modify, if_pos rfl, hn]
                rfl
          | root => exact absurd htext Bool.false_ne_true
          | element e => exact absurd htext Bool.false_ne_true
          | comment c => exact absurd htext Bool.false_ne_true
  | none =>
      have hparent : parent ≠ d.nodes.size := Nat.ne_of_lt (lt_of_holds hholds)
      have hholds' := (holds_create_text d s parent).trans hholds
      refine ⟨d.nodes.size, [], ?_, ?_⟩
      · rw [children_editChildren, if_pos ⟨rfl, hholds'⟩, List.getLast?_concat]
      · rw [content?, node?_modify, if_neg hparent, node?_create, if_pos rfl]
        rfl

end

/-! ### Chunks in front of a sibling -/

/-- A list with others in front of the first occurrence of a sibling, or at the end if it
    does not occur. -/
def placeAllBefore (sibling : NodeId) (new nodes : List NodeId) : List NodeId :=
  nodes.takeWhile (· != sibling) ++ new ++ nodes.dropWhile (· != sibling)

theorem placeAllBefore_nil (sibling : NodeId) (nodes : List NodeId) :
    placeAllBefore sibling [] nodes = nodes := by
  rw [placeAllBefore, List.append_nil, List.takeWhile_append_dropWhile]

theorem length_placeAllBefore (sibling : NodeId) (new nodes : List NodeId) :
    (placeAllBefore sibling new nodes).length = new.length + nodes.length := by
  have hsplit := congrArg List.length (placeAllBefore_nil sibling nodes)
  rw [placeAllBefore, List.append_nil, List.length_append] at hsplit
  rw [placeAllBefore, List.length_append, List.length_append]
  omega

theorem placeBefore_dropWhile (sibling new : NodeId) (nodes : List NodeId) :
    placeBefore sibling new (nodes.dropWhile (· != sibling))
      = new :: nodes.dropWhile (· != sibling) := by
  induction nodes with
  | nil => rfl
  | cons i nodes ih =>
      by_cases hi : i = sibling
      · rw [List.dropWhile_cons_of_neg (by simp [hi]), hi, placeBefore_cons_self]
      · rw [List.dropWhile_cons_of_pos (by simp [hi]), ih]

/-- One node more in front of the sibling comes behind those that are there already. -/
theorem placeBefore_placeAllBefore {sibling new : NodeId} {others : List NodeId}
    (hothers : sibling ∉ others) (nodes : List NodeId) :
    placeBefore sibling new (placeAllBefore sibling others nodes)
      = placeAllBefore sibling (others ++ [new]) nodes := by
  have hfront : sibling ∉ nodes.takeWhile (· != sibling) ++ others := by
    rw [List.mem_append]
    rintro (hmem | hmem)
    · exact absurd (List.mem_takeWhile_imp hmem) (by simp)
    · exact hothers hmem
  rw [placeAllBefore, placeBefore_append hfront, placeBefore_dropWhile, placeAllBefore,
    List.append_assoc, List.append_assoc, List.append_assoc, List.singleton_append]

/-- Texts that have been put in front of a sibling, in order and each in a node of its own. -/
structure TextsInFront (sibling p : NodeId) (chunks : List Text) (d d' : Document) : Prop where
  doctype : d'.doctype = d.doctype
  size : d'.nodes.size = d.nodes.size + chunks.length
  texts : ∀ (k : Nat) s, chunks[k]? = some s →
    d'.node? (d.nodes.size + k) = some { content := .text s }
  parent : d'.node? p = (d.node? p).map
    (editChildren (placeAllBefore sibling (List.range' d.nodes.size chunks.length)))
  others : ∀ i < d.nodes.size, i ≠ p → d'.node? i = d.node? i

theorem textsInFront_nil (d : Document) (sibling p : NodeId) : TextsInFront sibling p [] d d where
  doctype := rfl
  size := rfl
  texts k s h := absurd h (by simp)
  parent := by
    have hsame : placeAllBefore sibling [] = id := funext (placeAllBefore_nil sibling)
    show d.node? p = (d.node? p).map (editChildren (placeAllBefore sibling []))
    cases d.node? p with
    | none => rfl
    | some n =>
        rw [Option.map_some, hsame, editChildren]
        split <;> rfl
  others _ _ _ := rfl

section

variable {sibling p : NodeId} (hp : d.parent? sibling = some p)
  (helement : d.isElement p = true)

include helement

/-- The list of the parent. -/
theorem TextsInFront.children {chunks : List Text} {d' : Document}
    (h : TextsInFront sibling p chunks d d') :
    d'.children p
      = placeAllBefore sibling (List.range' d.nodes.size chunks.length) (d.children p) := by
  have hholds := holds_of_isElement helement
  rw [holds_eq] at hholds
  rw [children_eq, h.parent, children_eq]
  cases hn : d.node? p with
  | none =>
      rw [hn] at hholds
      exact absurd hholds Bool.false_ne_true
  | some n =>
      rw [hn] at hholds
      simp only [Option.map_some, Option.getD_some] at hholds ⊢
      rw [editChildren, if_pos hholds]

include hp

/-- The node at a number after one chunk. -/
theorem node?_insertBefore_text (s : Text) (i : NodeId) :
    (d.insertBefore sibling (.text s)).node? i
      = if i = d.nodes.size then some { content := .text s }
        else if i = p then (d.node? i).map (editChildren (placeBefore sibling d.nodes.size))
        else d.node? i := by
  have hstored : p ≠ d.nodes.size := Nat.ne_of_lt (lt_of_holds (holds_of_isElement helement))
  rw [insertBefore_text hp, if_pos helement, node?_modify, node?_create]
  by_cases hi : i = d.nodes.size
  · rw [if_pos hi, if_pos hi, if_neg fun h => hstored (h.trans hi)]
  · rw [if_neg hi, if_neg hi]
    simp only [eq_comm]

/-- One text more. -/
theorem TextsInFront.concat {chunks : List Text} {d' : Document}
    (h : TextsInFront sibling p chunks d d') (hp' : d'.parent? sibling = some p) (s : Text) :
    TextsInFront sibling p (chunks ++ [s]) d (d'.insertBefore sibling (.text s)) := by
  have helement' : d'.isElement p = true := by
    rw [isElement_eq, h.parent, Option.map_map]
    simpa only [isElement_eq, Function.comp_def, editChildren_content] using helement
  have hnode := node?_insertBefore_text hp' helement' s
  have hstored : p < d.nodes.size := lt_of_holds (holds_of_isElement helement)
  have hsibling : sibling < d.nodes.size := lt_of_parent? hp
  -- The new node has a number that no node has had.
  have hne : ∀ i < d.nodes.size + chunks.length, i ≠ d'.nodes.size := by
    intro i hi
    rw [h.size]
    exact Nat.ne_of_lt hi
  have hold : ∀ k : Nat, d.nodes.size + k ≠ p :=
    fun k => Nat.ne_of_gt (Nat.lt_add_right k hstored)
  refine ⟨?_, ?_, fun k t ht => ?_, ?_, fun i hi hip => ?_⟩
  · rw [insertBefore_text hp', if_pos helement']
    exact h.doctype
  · rw [insertBefore_text hp', if_pos helement', size_modify, size_create, h.size,
      List.length_append, Nat.add_assoc]
    rfl
  · rcases Nat.lt_or_ge k chunks.length with hk | hk
    · have hk' := Nat.add_lt_add_left hk d.nodes.size
      rw [List.getElem?_append_left hk] at ht
      rw [hnode, if_neg (hne _ hk'), if_neg (hold k), h.texts k t ht]
    · rw [List.getElem?_append_right hk, List.getElem?_singleton] at ht
      split at ht
      · next hlast =>
          have hk' : k = chunks.length := by omega
          rw [hnode, h.size, hk', if_pos rfl, Option.some.inj ht]
      · exact absurd ht (Option.some_ne_none t).symm
  · have hothers : sibling ∉ List.range' d.nodes.size chunks.length := by
      rw [List.mem_range'_1]
      exact fun h => Nat.not_le_of_lt hsibling h.1
    rw [hnode, if_neg (hne p (Nat.lt_add_right _ hstored)), if_pos rfl, h.parent, Option.map_map,
      h.size]
    congr 1
    funext n
    rw [Function.comp_apply, editChildren_editChildren, List.length_append, List.length_singleton,
      List.range'_1_concat]
    simp only [placeBefore_placeAllBefore hothers]
  · rw [hnode, if_neg (hne i (Nat.lt_add_right _ hi)), if_neg hip, h.others i hi hip]

end

/-! ### Chunks near a node -/

theorem insertAt_settled (d : Document) (point : InsertionPoint) (piece : Piece) :
    d.insertAt (point.settled d) piece = d.insertAt point piece := by
  cases point with
  | atEnd parent => rfl
  | before sibling => rfl
  | near node other =>
      rw [insertAt, insertNear, InsertionPoint.settled]
      cases d.parent? node <;> rfl

theorem settled_congr {d d' : Document} (h : ∀ i, d'.parent? i = d.parent? i)
    (point : InsertionPoint) : point.settled d' = point.settled d := by
  cases point with
  | atEnd parent => rfl
  | before sibling => rfl
  | near node other => rw [InsertionPoint.settled, InsertionPoint.settled, h]

/-- All chunks go the same way. -/
theorem deliver_settled (point : InsertionPoint) (chunks : List Text) :
    ∀ d : Document, d.deliver (point.settled d) chunks = d.deliver point chunks := by
  induction chunks with
  | nil => exact fun _ => rfl
  | cons s chunks ih =>
      intro d
      have hrest := ih (d.insertAt point (.text s))
      rw [settled_congr (parent?_insertAt_text d point s) point] at hrest
      rw [deliver, deliver, List.foldl_cons, List.foldl_cons, insertAt_settled]
      exact hrest

theorem parent?_deliver (point : InsertionPoint) (i : NodeId) (chunks : List Text) :
    ∀ d : Document, (d.deliver point chunks).parent? i = d.parent? i := by
  induction chunks with
  | nil => exact fun _ => rfl
  | cons s chunks ih =>
      intro d
      exact (ih (d.insertAt point (.text s))).trans (parent?_insertAt_text d point s i)

/-- Each chunk in front of a sibling becomes a node. -/
theorem textsInFront_deliver {sibling p : NodeId} (hp : d.parent? sibling = some p)
    (helement : d.isElement p = true) (chunks : List Text) :
    TextsInFront sibling p chunks d (d.deliver (.before sibling) chunks) := by
  induction chunks using List.reverseRecOn with
  | nil => exact textsInFront_nil d sibling p
  | append_singleton chunks s ih =>
      have hp' := (parent?_deliver (.before sibling) sibling chunks d).trans hp
      have hlast : d.deliver (.before sibling) (chunks ++ [s])
          = (d.deliver (.before sibling) chunks).insertBefore sibling (.text s) := by
        rw [deliver, List.foldl_append]
        rfl
      rw [hlast]
      exact ih.concat hp helement hp' s

/-! ### Where no list takes the text -/

/-- A place where no list takes text: a parent that keeps none, or a sibling whose parent is no
    element. -/
def Idle (d : Document) (point : InsertionPoint) : Prop :=
  match point.settled d with
  | .atEnd parent => d.holds parent = false ∧ d.children parent = []
  | .before sibling => ∀ p, d.parent? sibling = some p → d.isElement p = false
  | .near _ _ => False

/-- A document in which all nodes of another are as they were. -/
structure Keeps (d d' : Document) : Prop where
  size : d.nodes.size ≤ d'.nodes.size
  node : ∀ i < d.nodes.size, d'.node? i = d.node? i

theorem Keeps.trans {d d' d'' : Document} (h : Keeps d d') (h' : Keeps d' d'') : Keeps d d'' := by
  refine ⟨h.size.trans h'.size, fun i hi => ?_⟩
  rw [h'.node i (Nat.lt_of_lt_of_le hi h.size), h.node i hi]

theorem keeps_create (d : Document) (content : Content) : Keeps d (d.create content).1 := by
  refine ⟨?_, fun i hi => ?_⟩
  · rw [size_create]
    exact Nat.le_succ _
  · rw [node?_create, if_neg (Nat.ne_of_lt hi)]

/-- A chunk that no list takes does nothing, or leaves a text behind that is part of no
    tree. -/
theorem insertAt_of_idle {point : InsertionPoint} (h : d.Idle point) (s : Text) :
    d.insertAt point (.text s) = d ∨ d.insertAt point (.text s) = (d.create (.text s)).1 := by
  rw [← insertAt_settled]
  rw [Idle] at h
  split at h
  · next parent hpoint =>
      have hlast : d.lastText? parent = none := by
        rw [lastText?, h.2]
        rfl
      rw [hpoint, insertAt, appendPiece_text, hlast]
      refine Or.inr (eq_of_node? rfl fun i => ?_)
      have hkeeps := holds_create_text d s parent
      rw [h.1, holds_eq] at hkeeps
      rw [node?_modify]
      by_cases hi : parent = i
      · -- A node that keeps no list is not changed.
        rw [hi] at hkeeps
        rw [if_pos hi]
        cases hn : (d.create (.text s)).1.node? i with
        | none => rfl
        | some n =>
            rw [hn, Option.map_some, Option.getD_some] at hkeeps
            rw [Option.map_some, editChildren, hkeeps]
            rfl
      · rw [if_neg hi]
  · next sibling hpoint =>
      rw [hpoint, insertAt]
      cases hp : d.parent? sibling with
      | none =>
          refine Or.inl ?_
          rw [insertBefore, hp]
      | some p =>
          refine Or.inr ?_
          rw [insertBefore_text hp, h p hp]
          rfl
  · exact h.elim

theorem Idle.create {point : InsertionPoint} (h : d.Idle point) (s : Text) :
    (d.create (.text s)).1.Idle point := by
  rw [Idle] at h ⊢
  rw [settled_congr (parent?_create d (.text s))]
  split
  · next parent hpoint =>
      rw [hpoint] at h
      rw [holds_create_text, children_create]
      exact h
  · next sibling hpoint =>
      rw [hpoint] at h
      intro p hp
      rw [parent?_create] at hp
      rw [isElement_create_text]
      exact h p hp
  · next hpoint =>
      rw [hpoint] at h
      exact h

/-- Chunks that no list takes leave all nodes as they were. -/
theorem keeps_deliver {point : InsertionPoint} (chunks : List Text) :
    ∀ d : Document, d.Idle point → Keeps d (d.deliver point chunks) := by
  induction chunks with
  | nil => exact fun d _ => ⟨Nat.le_refl _, fun _ _ => rfl⟩
  | cons s chunks ih =>
      intro d h
      rw [deliver, List.foldl_cons]
      rcases insertAt_of_idle h s with hsame | hcreated
      · rw [hsame]
        exact ih d h
      · rw [hcreated]
        exact (keeps_create d (.text s)).trans (ih _ (h.create s))

end Document

/-! ### Chunks at any place -/

/-- A text that arrives in chunks, next to the same text that arrives whole. At the end of a
    list, the documents are the same, and the text is the end of one node, the last child.
    In front of a sibling whose parent is an element, each chunk becomes a node, in order
    and behind what stood there, so the lists are the same only if there is one chunk.
    Where no list takes the text, nothing that was there changes. -/
theorem text_in_chunks (d : Document) (point : InsertionPoint) {chunks : List Text}
    (hchunks : chunks ≠ []) :
    let d' := d.deliver point chunks
    let whole := d.insertAt point (.text chunks.flatten)
    (∀ parent, point.settled d = .atEnd parent → d.holds parent = true →
        d' = whole
          ∧ ∃ last old, (d'.children parent).getLast? = some last
            ∧ d'.content? last = some (.text (old ++ chunks.flatten)))
      ∧ (∀ sibling p, point.settled d = .before sibling → d.parent? sibling = some p →
          d.isElement p = true →
          Document.TextsInFront sibling p chunks d d'
            ∧ Document.TextsInFront sibling p [chunks.flatten] d whole
            ∧ (d'.children p = whole.children p ↔ chunks.length = 1))
      ∧ (d.Idle point → Document.Keeps d d' ∧ Document.Keeps d whole) := by
  intro d' whole
  have hd' : d.deliver (point.settled d) chunks = d' := Document.deliver_settled point chunks d
  have hwhole : d.deliver (point.settled d) [chunks.flatten] = whole :=
    Document.insertAt_settled d point (.text chunks.flatten)
  refine ⟨fun parent hpoint hholds => ?_, fun sibling p hpoint hp helement => ?_, fun hidle => ?_⟩
  · rw [hpoint] at hd' hwhole
    have hsame : d' = whole := by
      rcases List.exists_cons_of_ne_nil hchunks with ⟨s, rest, rfl⟩
      rw [← hd', ← hwhole]
      exact foldl_joined (Document.appendPiece_text_twice hholds) rest s
    refine ⟨hsame, ?_⟩
    rw [hsame, ← hwhole]
    exact Document.exists_last_text hholds chunks.flatten
  · rw [hpoint] at hd' hwhole
    have hfront := Document.textsInFront_deliver hp helement chunks
    have hone := Document.textsInFront_deliver hp helement [chunks.flatten]
    rw [hd'] at hfront
    rw [hwhole] at hone
    refine ⟨hfront, hone, fun hlists => ?_, fun hlength => ?_⟩
    · have hlengths := congrArg List.length hlists
      rw [hfront.children helement, hone.children helement, Document.length_placeAllBefore,
        Document.length_placeAllBefore, List.length_range', List.length_range'] at hlengths
      exact Nat.add_right_cancel hlengths
    · rcases List.length_eq_one_iff.mp hlength with ⟨s, rfl⟩
      rw [← hd', ← hwhole, List.flatten_singleton]
  · exact ⟨Document.keeps_deliver chunks d hidle, Document.keeps_deliver [chunks.flatten] d hidle⟩

/-- A text near a paragraph without a parent, which goes to the end of the body. -/
theorem chunks_join_at_end :
    let chunks := ["b".toList, "c".toList]
    chunks ≠ []
      ∧ pageWithLooseParagraph.deliver (.near 5 2) chunks
        = pageWithLooseParagraph.insertAt (.near 5 2) (.text "bc".toList) := by
  intro chunks
  have hchunks : chunks ≠ [] := by decide
  have h := text_in_chunks pageWithLooseParagraph (.near 5 2) hchunks
  exact ⟨hchunks, (h.1 2 (by decide +kernel) (by decide +kernel)).1⟩

/-- The same text in front of the table. In two chunks it takes two nodes, and neither is
    joined to the text in front of it. -/
theorem chunks_stay_apart :
    let d := pageWithLooseParagraph.deliver (.before 4) ["b".toList, "c".toList]
    let whole := pageWithLooseParagraph.insertAt (.before 4) (.text "bc".toList)
    pageWithLooseParagraph.parent? 4 = some 2 ∧ pageWithLooseParagraph.isElement 2 = true
      ∧ d.children 2 = [3, 6, 7, 4] ∧ whole.children 2 = [3, 6, 4]
      ∧ d.content? 6 = some (.text "b".toList) ∧ d.content? 7 = some (.text "c".toList)
      ∧ whole.content? 6 = some (.text "bc".toList) := by
  decide +kernel

end ResponsiveImages
