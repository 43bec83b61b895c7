import ResponsiveImages.Document.Builder
import ResponsiveImages.Proofs.Writes

/-!
# Edited Attributes

What is read from attributes after one of them has been set, or others have been added.

A name may occur more than once in a list of attributes, in any spelling, and no edit
ever tidies the list. Reading, setting and adding walk through it separately. Only because
they agree on which entry of a name counts can a written value not be hidden behind
another one. They agree on the first.

Adding tests each new entry against a list that has grown by the ones before it. To a
reader the tests make no difference. Had an entry been put at the end although its name is
there, the earlier one would hide it (`get?_addIfMissing`), so attributes to which others
have been added read like the two lists one after the other (`get?_addMissing`). The
tests show in the list itself. Once the entries have been added all their names can be
read, and a second time adds nothing (`addMissing_addMissing`).

## Theorems

* `get?_append`: Reading one list after the other.
* `names_set`: The names after an attribute has been set.
* `get?_addIfMissing`, `get?_addMissing`: Reading after attributes have been added.
* `prefix_addMissing`: What was there stays in front.
* `addMissing_addMissing`: Adding the same attributes again.
* `Document.element?_addMissingAttributes`, `Document.addMissingAttributes_again`: Adding
  attributes at a node.
* `edits_agree_with_reads`: Setting, adding and reading.
-/

namespace ResponsiveImages

open Text

namespace Attributes

theorem get?_append (front back : Attributes) (name : Text) :
    Attributes.get? (front ++ back) name = (front.get? name).or (back.get? name) := by
  rw [get?, List.find?_append, Option.map_or]
  rfl

/-- The name of an entry can be read, be it the value of this entry or of an earlier one. -/
theorem isSome_get?_of_mem {attributes : Attributes} {entry : Text × Text}
    (h : entry ∈ attributes) : (attributes.get? entry.1).isSome = true := by
  rw [get?, Option.isSome_map, List.find?_isSome]
  exact ⟨entry, h, eqIgnoreCase_self entry.1⟩

/-! ### Setting an attribute -/

/-- Setting an attribute keeps all names as they are spelled, and only a name that could
    not be read is added to them. -/
theorem names_set (attributes : Attributes) (name value : Text) :
    (attributes.set name value).map Prod.fst
      = attributes.map Prod.fst ++ if attributes.get? name = none then [name] else [] := by
  induction attributes with
  | nil => rfl
  | cons entry rest ih =>
      rcases entry with ⟨n, v⟩
      by_cases h : eqIgnoreCase n name = true
      · rw [set, if_pos h, get?_cons, if_pos h, if_neg (Option.some_ne_none v), List.append_nil]
        rfl
      · rw [set, if_neg h, get?_cons, if_neg h, List.map_cons, ih, List.map_cons, List.cons_append]

/-! ### Adding attributes -/

/-- To a reader, an entry that is not added because its name is there might as well be
    at the end. -/
theorem get?_addIfMissing (attributes : Attributes) (entry : Text × Text) (name : Text) :
    (attributes.addIfMissing entry).get? name = Attributes.get? (attributes ++ [entry]) name := by
  rw [addIfMissing]
  cases hold : attributes.get? entry.1 with
  | none => rfl
  | some old =>
      -- The entry is left out. At the end it would be hidden by the one with the old value.
      rw [get?_append, get?_cons]
      by_cases h : eqIgnoreCase entry.1 name = true
      · rw [← get?_congr attributes h, hold, Option.some_or]
      · rw [if_neg h]
        exact (Option.or_none).symm

/-- Attributes to which others have been added read like the two lists one after the
    other, by induction on the others. -/
theorem get?_addMissing (entries attributes : Attributes) (name : Text) :
    (attributes.addMissing entries).get? name
      = Attributes.get? (attributes ++ entries) name := by
  induction entries generalizing attributes with
  | nil =>
      rw [List.append_nil]
      rfl
  | cons entry entries ih =>
      calc (attributes.addMissing (entry :: entries)).get? name
          = Attributes.get? (attributes.addIfMissing entry ++ entries) name := ih _
        _ = Attributes.get? (attributes ++ [entry] ++ entries) name := by
            rw [get?_append, get?_addIfMissing, ← get?_append]
        _ = Attributes.get? (attributes ++ entry :: entries) name := by
            rw [List.append_assoc, List.singleton_append]

theorem prefix_addIfMissing (attributes : Attributes) (entry : Text × Text) :
    attributes <+: attributes.addIfMissing entry := by
  rw [addIfMissing]
  split
  · exact List.prefix_refl attributes
  · exact List.prefix_append attributes [entry]

theorem prefix_addMissing (entries attributes : Attributes) :
    attributes <+: attributes.addMissing entries := by
  induction entries generalizing attributes with
  | nil => exact List.prefix_refl attributes
  | cons entry entries ih => exact (prefix_addIfMissing attributes entry).trans (ih _)

/-- Entries whose names are all there are not added. -/
theorem addMissing_eq_self (entries : Attributes) {attributes : Attributes}
    (h : ∀ entry ∈ entries, (attributes.get? entry.1).isSome = true) :
    attributes.addMissing entries = attributes := by
  induction entries with
  | nil => rfl
  | cons entry entries ih =>
      rcases List.forall_mem_cons.mp h with ⟨hentry, hentries⟩
      rcases Option.isSome_iff_exists.mp hentry with ⟨old, hold⟩
      have hkept : attributes.addIfMissing entry = attributes := by
        rw [addIfMissing, hold]
      rw [addMissing, List.foldl_cons, hkept]
      exact ih hentries

/-- Adding the same attributes again. -/
theorem addMissing_addMissing (entries attributes : Attributes) :
    (attributes.addMissing entries).addMissing entries = attributes.addMissing entries := by
  -- Each of the entries is in the second of the two lists that are read, added or not.
  refine addMissing_eq_self entries fun entry hentry => ?_
  rw [get?_addMissing]
  exact isSome_get?_of_mem (List.mem_append_right attributes hentry)

end Attributes

/-! ### Adding attributes at a node -/

namespace Document

/-- The element at a node to which attributes have been added. -/
theorem element?_addMissingAttributes {d : Document} {i : NodeId} {e : Element}
    (he : d.element? i = some e) (entries : Attributes) :
    (d.addMissingAttributes i entries).element? i
      = some { e with attributes := e.attributes.addMissing entries } := by
  refine element?_modify he ?_
  rintro ⟨content, children, parent⟩ rfl
  rfl

/-- Adding the same attributes again, whatever there is at the node. -/
theorem addMissingAttributes_again (d : Document) (i : NodeId) (entries : Attributes) :
    (d.addMissingAttributes i entries).addMissingAttributes i entries
      = d.addMissingAttributes i entries := by
  rw [addMissingAttributes, addMissingAttributes, modify_modify]
  refine congrArg (d.modify i) (funext ?_)
  rintro ⟨content, children, parent⟩
  cases content with
  | element e => simp only [Attributes.addMissing_addMissing]
  | root => rfl
  | text s => rfl
  | comment s => rfl

end Document

/-! ### Setting, adding and reading -/

/-- Edits of attributes go where reads go, whichever names are repeated. An attribute that
    has been set reads as its new value, and any other name reads as before. All names keep
    their spelling and place, the name is added at the end if it could not be read, and
    only the first entry of the name has changed. After attributes have been added, a name
    reads as before if it could be read, and else as the first of the added values for it.
    What was there stays in front, and adding them again does nothing. An element of a
    document is left with these attributes when it is edited, and adding again leaves the
    whole document as it is. -/
theorem edits_agree_with_reads (attributes : Attributes) (name value : Text)
    (entries : Attributes) :
    let written := attributes.set name value
    let extended := attributes.addMissing entries
    written.get? name = some value
      ∧ (∀ other, eqIgnoreCase name other = false → written.get? other = attributes.get? other)
      ∧ written.map Prod.fst
        = attributes.map Prod.fst ++ (if attributes.get? name = none then [name] else [])
      ∧ (∀ k, written[k]? ≠ attributes[k]? →
          (written.map Prod.fst).findIdx? (fun n => eqIgnoreCase n name) = some k)
      ∧ (∀ other, extended.get? other = (attributes.get? other).or (entries.get? other))
      ∧ attributes <+: extended
      ∧ extended.addMissing entries = extended
      ∧ ∀ (d : Document) (i : NodeId),
          let d' := d.addMissingAttributes i entries
          d'.addMissingAttributes i entries = d'
            ∧ ∀ e, d.element? i = some e → e.attributes = attributes →
                (d.setAttribute i name value).element? i = some { e with attributes := written }
                  ∧ d'.element? i = some { e with attributes := extended } := by
  intro written extended
  refine ⟨attributes.get?_set_self name value, fun other hother => ?_,
    attributes.names_set name value, fun k hk => ?_, fun other => ?_,
    Attributes.prefix_addMissing entries attributes,
    Attributes.addMissing_addMissing entries attributes, fun d i => ?_⟩
  · exact attributes.get?_set_of_ne value hother
  · rcases (attributes.written_set name value).changed k hk with ⟨name', hname, hfirst⟩
    rw [List.mem_singleton.mp hname] at hfirst
    exact hfirst
  · rw [← Attributes.get?_append]
    exact Attributes.get?_addMissing entries attributes other
  · refine ⟨d.addMissingAttributes_again i entries, ?_⟩
    rintro e he rfl
    exact ⟨Document.element?_setAttribute d i e he name value,
      Document.element?_addMissingAttributes he entries⟩

/-- Attributes with a class that is hidden behind another one. -/
def hiddenClass : Attributes :=
  [("Class".toList, "hero".toList), ("alt".toList, []), ("class".toList, "wide".toList)]

/-- The class that can be read is set, the hidden one is not, and of what is added only
    one spelling of a new name gets in. -/
theorem hidden_class_stays_hidden :
    let d := Document.ofTrees none [.element { tag := "body".toList, attributes := hiddenClass } []]
    let entries : Attributes :=
      [("CLASS".toList, "x".toList), ("id".toList, "a".toList), ("ID".toList, "b".toList)]
    eqIgnoreCase "CLASS".toList "ALT".toList = false
      ∧ (hiddenClass.set "CLASS".toList "small".toList).get? "ALT".toList = some []
      ∧ (hiddenClass.addMissing entries).get? "Id".toList = some "a".toList
      ∧ ((d.setAttribute 1 "CLASS".toList "small".toList).element? 1).map Element.attributes
        = some [("Class".toList, "small".toList), ("alt".toList, []),
            ("class".toList, "wide".toList)]
      ∧ ((d.addMissingAttributes 1 entries).element? 1).map Element.attributes
        = some (hiddenClass ++ [("id".toList, "a".toList)]) := by
  intro d entries
  have hne : eqIgnoreCase "CLASS".toList "ALT".toList = false := by decide
  rcases edits_agree_with_reads hiddenClass "CLASS".toList "small".toList entries
    with ⟨_, hother, _, _, hadded, _, _, hnode⟩
  rcases (hnode d 1).2 { tag := "body".toList, attributes := hiddenClass } (by decide +kernel) rfl
    with ⟨hset, hextended⟩
  refine ⟨hne, ?_, ?_, ?_, ?_⟩
  · rw [hother _ hne]
    decide
  · rw [hadded]
    decide
  · rw [hset, Option.map_some]
    decide +kernel
  · rw [hextended, Option.map_some]
    decide +kernel

end ResponsiveImages
