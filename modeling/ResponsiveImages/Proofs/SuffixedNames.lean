import Mathlib.Data.List.Basic
import ResponsiveImages.Directive.Suffix
import ResponsiveImages.Proofs.TextPieces

/-!
# Suffixed Names

Where the suffix for dense displays goes, and why it does not matter how the name is
wrapped.

A name stands inside a style value, in `url(...)` or in quotes or in both, and the search
for its extension knows nothing of wrappers. It sees a longer text with some characters
more at either end. What it looks at for a single dot is the character in front of it
and the run of letters and digits behind it, and there the added characters are neutral.
An opening one makes a dot behind it begin no extension, just as the front of the text
does, and a closing one ends an extension, just as the end of the text does. Neither is a
dot, a question mark or a hash, so there is no new place for the suffix and no earlier
end of the path (`Encloses`).

The search itself goes backwards over the dots, which is here a recursion that looks
at what follows first. Its outcome is said without it: there is a dot that begins an
extension, and no dot behind it does (`LastDot`).

## Main definitions

* `IsExtensionDot`: A dot that begins an extension.
* `LastDot`: The last one of a path.
* `IsPath`: The part of a value in front of its query string or fragment.
* `Encloses`: A wrapper that the search does not notice.
* `enclosures`: The wrappers of style values.

## Theorems

* `isExtensionDot_iff`: The two checks of the search.
* `splitExtension?_iff`: What the search finds.
* `splitExtensionAfter?_enclosed`: The same search in a wrapped text.
* `insertBeforeExtension?_enclosed`: A wrapped value and its inside.
* `suffix_in_front_of_last_extension`: Where the suffix goes, in wrapped values too.
-/

namespace ResponsiveImages

open Text

/-- A dot begins an extension if a name ends in front of it and letters or digits follow,
    up to the end of the name. -/
structure IsExtensionDot (before after : Text) : Prop where
  named : ∃ name c, before = name ++ [c] ∧ c ∉ ['/', '(', '\x22', '\x27', '.']
  ended : ∃ extension rest, after = extension ++ rest ∧ extension ≠ []
    ∧ (∀ c ∈ extension, c.isAlphanum = true)
    ∧ (rest = [] ∨ ∃ c rest', rest = c :: rest' ∧ c ∈ [')', '\x22', '\x27', ' ', ','])

/-- The last dot of a path that begins an extension. -/
structure LastDot (path before after : Text) : Prop where
  path_eq : path = before ++ '.' :: after
  dot : IsExtensionDot before after
  last : ∀ front back, after = front ++ '.' :: back →
    ¬ IsExtensionDot (before ++ '.' :: front) back

/-- The part of a value in front of its first question mark or hash, and the part from
    there on. -/
structure IsPath (value path tail : Text) : Prop where
  value_eq : value = path ++ tail
  path_plain : ∀ c ∈ path, c ≠ '?' ∧ c ≠ '#'
  tail_marked : tail = [] ∨ ∃ c rest, tail = c :: rest ∧ (c = '?' ∨ c = '#')

/-! ### A single dot -/

theorem not_isAlphanum_of_endsName {c : Char} {s : Text} (h : endsName (c :: s) = true) :
    c.isAlphanum = false := by
  simp only [endsName, Bool.or_eq_true, beq_iff_eq] at h
  rcases h with (((rfl | rfl) | rfl) | rfl) | rfl <;> decide

theorem endsName_iff (s : Text) :
    endsName s = true
      ↔ s = [] ∨ ∃ c rest, s = c :: rest ∧ c ∈ [')', '\x22', '\x27', ' ', ','] := by
  cases s with
  | nil => simp [endsName]
  | cons c s => simp [endsName, or_assoc]

theorem beginsName_iff (s : Text) :
    beginsName s.reverse = true
      ↔ ∃ name c, s = name ++ [c] ∧ c ∉ ['/', '(', '\x22', '\x27', '.'] := by
  rcases List.eq_nil_or_concat s with rfl | ⟨name, c, rfl⟩
  · simp [beginsName]
  · simp [beginsName, and_assoc]

theorem isExtension_iff (s : Text) :
    isExtension s = true
      ↔ ∃ extension rest, s = extension ++ rest ∧ extension ≠ []
        ∧ (∀ c ∈ extension, c.isAlphanum = true) ∧ endsName rest = true := by
  constructor
  · intro h
    rw [isExtension, Bool.and_eq_true, Bool.not_eq_true', List.isEmpty_eq_false_iff] at h
    exact ⟨_, _, (List.takeWhile_append_dropWhile ..).symm, h.1,
      fun c hc => List.mem_takeWhile_imp hc, h.2⟩
  · rintro ⟨extension, rest, rfl, hne, hall, hends⟩
    -- The run of letters and digits is the extension, as it is followed by neither.
    have hrun : (extension ++ rest).takeWhile Char.isAlphanum = extension
        ∧ (extension ++ rest).dropWhile Char.isAlphanum = rest := by
      cases rest with
      | nil => simpa using hall
      | cons c rest =>
          have hstop := not_isAlphanum_of_endsName hends
          rw [takeWhile_append_stop hstop, dropWhile_append_stop hstop,
            List.takeWhile_eq_self_iff.mpr hall, List.dropWhile_eq_nil_iff.mpr hall]
          exact ⟨rfl, rfl⟩
    rw [isExtension, hrun.1, hrun.2, hends, Bool.and_true, Bool.not_eq_true',
      List.isEmpty_eq_false_iff]
    exact hne

/-- What the search checks at a dot, with the text in front of it in reverse. -/
theorem isExtensionDot_iff (before after : Text) :
    IsExtensionDot before after ↔ (beginsName before.reverse && isExtension after) = true := by
  rw [Bool.and_eq_true, beginsName_iff, isExtension_iff]
  simp only [endsName_iff]
  exact ⟨fun h => ⟨h.named, h.ended⟩, fun h => ⟨h.1, h.2⟩⟩

/-! ### The last dot -/

/-- If nothing is found, no dot begins an extension. -/
theorem splitExtensionAfter?_none (s : Text) :
    ∀ before, splitExtensionAfter? before s = none →
      ∀ front back, s = front ++ '.' :: back → ¬ IsExtensionDot (before.reverse ++ front) back := by
  induction s with
  | nil => intro before _ front back h; exact absurd h (by simp)
  | cons c s ih =>
      intro before h front back hs
      rw [splitExtensionAfter?] at h
      cases hrest : splitExtensionAfter? (c :: before) s with
      | some cut => simp [hrest] at h
      | none =>
          rw [hrest] at h
          cases front with
          | nil =>
              rw [List.nil_append, List.cons.injEq] at hs
              rw [List.append_nil, isExtensionDot_iff, List.reverse_reverse, ← hs.2]
              intro hdot
              simp [hs.1, hdot] at h
          | cons x front =>
              rw [List.cons_append, List.cons.injEq] at hs
              have hlater := ih (c :: before) hrest front back hs.2
              rw [← hs.1]
              simpa using hlater

/-- What is found is the last dot that begins an extension. -/
theorem splitExtensionAfter?_some (s : Text) :
    ∀ before stem extension, splitExtensionAfter? before s = some (stem, extension) →
      ∃ after, extension = '.' :: after ∧ LastDot (before.reverse ++ s) stem after := by
  induction s with
  | nil => intro before stem extension h; exact absurd h (by simp [splitExtensionAfter?])
  | cons c s ih =>
      intro before stem extension h
      rw [splitExtensionAfter?] at h
      cases hrest : splitExtensionAfter? (c :: before) s with
      | some cut =>
          simp only [hrest, Option.some.injEq] at h
          rw [h] at hrest
          rcases ih (c :: before) stem extension hrest with ⟨after, hafter, hlast⟩
          exact ⟨after, hafter, by simpa using hlast⟩
      | none =>
          simp only [hrest, Option.ite_none_right_eq_some, Option.some.injEq, Prod.mk.injEq,
            Bool.and_eq_true, decide_eq_true_eq] at h
          rcases h with ⟨⟨⟨rfl, hbegins⟩, hends⟩, rfl, rfl⟩
          refine ⟨s, rfl, rfl, ?_, ?_⟩
          · rw [isExtensionDot_iff, List.reverse_reverse, hbegins, hends]
            rfl
          · intro front back hs
            have hlater := splitExtensionAfter?_none s _ hrest front back hs
            simpa using hlater

/-- There is only one last dot. -/
theorem LastDot.unique {path before after before' after' : Text} (h : LastDot path before after)
    (h' : LastDot path before' after') : before = before' ∧ after = after' := by
  have hsplit := h.path_eq.symm.trans h'.path_eq
  rcases List.append_eq_append_iff.mp hsplit with ⟨rest, hbefore, hrest⟩ | ⟨rest, hbefore, hrest⟩
  · cases rest with
    | nil => simpa [hbefore] using hrest
    | cons c rest =>
        rw [List.cons_append, List.cons.injEq] at hrest
        refine absurd h'.dot ?_
        rw [hbefore, ← hrest.1]
        exact h.last rest after' hrest.2
  · cases rest with
    | nil => simpa [hbefore] using hrest.symm
    | cons c rest =>
        rw [List.cons_append, List.cons.injEq] at hrest
        refine absurd h.dot ?_
        rw [hbefore, ← hrest.1]
        exact h'.last rest after hrest.2

/-- What the search finds, said without the search. -/
theorem splitExtension?_iff (path stem extension : Text) :
    splitExtension? path = some (stem, extension)
      ↔ ∃ after, extension = '.' :: after ∧ LastDot path stem after := by
  constructor
  · exact splitExtensionAfter?_some path [] stem extension
  · rintro ⟨after, rfl, hlast⟩
    cases hfound : splitExtension? path with
    | none =>
        have hnone := splitExtensionAfter?_none path [] hfound stem after hlast.path_eq
        exact absurd hlast.dot hnone
    | some cut =>
        rcases cut with ⟨stem', extension'⟩
        rcases splitExtensionAfter?_some path [] _ _ hfound with ⟨after', rfl, hlast'⟩
        rcases hlast.unique hlast' with ⟨rfl, rfl⟩
        rfl

/-! ### Wrappers -/

/-- Wrapping a text like this is not noticed by the search: no dot and no end of the path
    is added, and a name is bounded by the wrapper as it was by the ends of the text. -/
structure Encloses (opening closing : Text) : Prop where
  opening_plain : ∀ c ∈ opening, c ≠ '.' ∧ inPath c = true
  closing_plain : ∀ c ∈ closing, c ≠ '.' ∧ inPath c = true
  begins : beginsName opening.reverse = false
  ends : endsName closing = true

/-- What is put around a name in a style value. -/
def enclosures : List (Text × Text) := [
  ([], []),
  ("url(".toList, ")".toList),
  ("url(\"".toList, "\")".toList),
  ("url('".toList, "')".toList),
  ("\"".toList, "\"".toList),
  ("'".toList, "'".toList)]

theorem encloses_of_mem {e : Text × Text} (he : e ∈ enclosures) : Encloses e.1 e.2 := by
  have hall : ∀ e ∈ enclosures, (∀ c ∈ e.1, c ≠ '.' ∧ inPath c = true)
      ∧ (∀ c ∈ e.2, c ≠ '.' ∧ inPath c = true)
      ∧ beginsName e.1.reverse = false ∧ endsName e.2 = true := by
    decide
  rcases hall e he with ⟨hopening, hclosing, hbegins, hends⟩
  exact ⟨hopening, hclosing, hbegins, hends⟩

/-- What ends a name may be put behind it. -/
theorem isExtension_append {closing : Text} (h : endsName closing = true) (s : Text) :
    isExtension (s ++ closing) = isExtension s := by
  cases closing with
  | nil => rw [List.append_nil]
  | cons c closing =>
      have hstop := not_isAlphanum_of_endsName h
      rw [isExtension, isExtension, takeWhile_append_stop hstop, dropWhile_append_stop hstop]
      cases s.dropWhile Char.isAlphanum with
      | nil => rw [List.nil_append, h]; rfl
      | cons x rest => rfl

theorem splitExtensionAfter?_cons {c : Char} (hc : c ≠ '.') (before s : Text) :
    splitExtensionAfter? before (c :: s) = splitExtensionAfter? (c :: before) s := by
  rw [splitExtensionAfter?]
  cases splitExtensionAfter? (c :: before) s with
  | some cut => rfl
  | none => simp [hc]

/-- Text without a dot at the front is passed over. -/
theorem splitExtensionAfter?_opening (s : Text) (opening : Text) :
    ∀ before, (∀ c ∈ opening, c ≠ '.') →
      splitExtensionAfter? before (opening ++ s)
        = splitExtensionAfter? (opening.reverse ++ before) s := by
  induction opening with
  | nil => intro before _; rfl
  | cons c opening ih =>
      intro before h
      rw [List.forall_mem_cons] at h
      rw [List.cons_append, splitExtensionAfter?_cons h.1, ih (c :: before) h.2]
      simp

theorem splitExtensionAfter?_of_noDot (before : Text) {s : Text} (h : ∀ c ∈ s, c ≠ '.') :
    splitExtensionAfter? before s = none := by
  have hpassed := splitExtensionAfter?_opening [] s before h
  rwa [List.append_nil] at hpassed

/-- The same search in a text that has been wrapped, with the text in front of it in
    reverse. -/
theorem splitExtensionAfter?_enclosed {outer closing : Text} (hbegins : beginsName outer = false)
    (hends : endsName closing = true) (hplain : ∀ c ∈ closing, c ≠ '.') (s : Text) :
    ∀ before, splitExtensionAfter? (before ++ outer) (s ++ closing)
      = (splitExtensionAfter? before s).map fun (stem, extension) =>
          (outer.reverse ++ stem, extension ++ closing) := by
  induction s with
  | nil =>
      intro before
      rw [List.nil_append, splitExtensionAfter?_of_noDot _ hplain]
      rfl
  | cons c s ih =>
      intro before
      have hsame : beginsName (before ++ outer) = beginsName before := by
        cases before with
        | nil => exact hbegins
        | cons x before => rfl
      have hrest := ih (c :: before)
      rw [List.cons_append] at hrest
      rw [List.cons_append, splitExtensionAfter?, splitExtensionAfter?, hrest, hsame,
        isExtension_append hends]
      cases splitExtensionAfter? (c :: before) s with
      | some cut => rfl
      | none =>
          simp only [Option.map_none]
          split <;> simp

/-- The path of a wrapped value is the wrapped path, up to where a query string or a
    fragment begins. -/
theorem splitExtension?_enclosed {opening closing : Text} (h : Encloses opening closing)
    {closing' : Text} (hclosing : closing' = [] ∨ closing' = closing) (path : Text) :
    splitExtension? (opening ++ (path ++ closing'))
      = (splitExtension? path).map fun (stem, extension) =>
          (opening ++ stem, extension ++ closing') := by
  have hends : endsName closing' = true := by
    rcases hclosing with rfl | rfl
    · rfl
    · exact h.ends
  have hplain : ∀ c ∈ closing', c ≠ '.' := by
    rcases hclosing with rfl | rfl
    · exact fun c hc => absurd hc List.not_mem_nil
    · exact fun c hc => (h.closing_plain c hc).1
  rw [splitExtension?, splitExtensionAfter?_opening _ _ _ fun c hc => (h.opening_plain c hc).1,
    List.append_nil]
  have henclosed := splitExtensionAfter?_enclosed h.begins hends hplain path []
  rw [List.nil_append, List.reverse_reverse] at henclosed
  exact henclosed

/-- A wrapped value takes the suffix where its inside takes it, and it takes none if its
    inside takes none. -/
theorem insertBeforeExtension?_enclosed {opening closing : Text} (h : Encloses opening closing)
    (suffix s : Text) :
    insertBeforeExtension? suffix (opening ++ s ++ closing)
      = (insertBeforeExtension? suffix s).map fun v => opening ++ v ++ closing := by
  have hopening : ∀ t : Text, (opening ++ t).takeWhile inPath = opening ++ t.takeWhile inPath
      ∧ (opening ++ t).dropWhile inPath = t.dropWhile inPath := fun t =>
    ⟨List.takeWhile_append_of_pos fun c hc => (h.opening_plain c hc).2,
      List.dropWhile_append_of_pos fun c hc => (h.opening_plain c hc).2⟩
  have hclosing : closing.takeWhile inPath = closing ∧ closing.dropWhile inPath = [] :=
    ⟨List.takeWhile_eq_self_iff.mpr fun c hc => (h.closing_plain c hc).2,
      List.dropWhile_eq_nil_iff.mpr fun c hc => (h.closing_plain c hc).2⟩
  rw [List.append_assoc, insertBeforeExtension?, insertBeforeExtension?, (hopening _).1,
    (hopening _).2]
  by_cases hall : ∀ c ∈ s, inPath c = true
  · -- All of the value is path, and the wrapper ends it.
    rw [List.takeWhile_append_of_pos hall, List.dropWhile_append_of_pos hall, hclosing.1,
      hclosing.2, List.takeWhile_eq_self_iff.mpr hall, List.dropWhile_eq_nil_iff.mpr hall,
      splitExtension?_enclosed h (Or.inr rfl)]
    cases splitExtension? s with
    | none => rfl
    | some cut => simp
  · -- The path ends before the wrapper does.
    have hends : (s.takeWhile inPath).length ≠ s.length := by
      intro hlength
      refine hall fun c hc => ?_
      rw [← (List.takeWhile_prefix inPath).eq_of_length hlength] at hc
      exact List.mem_takeWhile_imp hc
    have hkept : ¬ ((s.dropWhile inPath).isEmpty = true) := by
      rw [List.isEmpty_iff, List.dropWhile_eq_nil_iff]
      exact hall
    have hpath := splitExtension?_enclosed h (Or.inl rfl) (s.takeWhile inPath)
    rw [List.append_nil] at hpath
    rw [List.takeWhile_append, if_neg hends, List.dropWhile_append, if_neg hkept, hpath]
    cases splitExtension? (s.takeWhile inPath) with
    | none => rfl
    | some cut => simp

/-! ### Values -/

/-- The path of a value is what the search is given. -/
theorem isPath_iff (value path tail : Text) :
    IsPath value path tail ↔ path = value.takeWhile inPath ∧ tail = value.dropWhile inPath := by
  have hplain : ∀ c, inPath c = true ↔ c ≠ '?' ∧ c ≠ '#' := fun c => by simp [inPath]
  constructor
  · rintro ⟨rfl, hpath, htail⟩
    have hall : ∀ c ∈ path, inPath c = true := fun c hc => (hplain c).mpr (hpath c hc)
    rw [List.takeWhile_append_of_pos hall, List.dropWhile_append_of_pos hall]
    rcases htail with rfl | ⟨c, rest, rfl, hc⟩
    · simp
    · have hstop : inPath c = false := by
        rcases hc with rfl | rfl <;> decide
      simp [hstop]
  · rintro ⟨rfl, rfl⟩
    refine ⟨(List.takeWhile_append_dropWhile ..).symm,
      fun c hc => (hplain c).mp (List.mem_takeWhile_imp hc), ?_⟩
    cases htail : value.dropWhile inPath with
    | nil => exact Or.inl rfl
    | cons c rest =>
        have hstop : inPath c = false := by
          have h := List.head?_dropWhile_not inPath value
          simpa [htail] using h
        refine Or.inr ⟨c, rest, rfl, ?_⟩
        by_contra hc
        rw [not_or, ← ne_eq, ← ne_eq, ← hplain, hstop] at hc
        exact absurd hc (by decide)

/-- Where the suffix goes. -/
theorem insertBeforeExtension?_iff (suffix value value' : Text) :
    insertBeforeExtension? suffix value = some value'
      ↔ ∃ path tail before after, IsPath value path tail ∧ LastDot path before after
        ∧ value' = before ++ suffix ++ '.' :: after ++ tail := by
  rw [insertBeforeExtension?, Option.map_eq_some_iff]
  constructor
  · rintro ⟨⟨stem, extension⟩, hfound, rfl⟩
    rcases (splitExtension?_iff _ _ _).mp hfound with ⟨after, rfl, hlast⟩
    exact ⟨_, _, stem, after, (isPath_iff ..).mpr ⟨rfl, rfl⟩, hlast, rfl⟩
  · rintro ⟨path, tail, before, after, hpath, hlast, rfl⟩
    rcases (isPath_iff ..).mp hpath with ⟨rfl, rfl⟩
    exact ⟨(before, '.' :: after), (splitExtension?_iff ..).mpr ⟨after, rfl, hlast⟩, rfl⟩

/-- A value takes the suffix in front of the last dot of its path that begins an
    extension, and a value without such a dot takes none. However a name is wrapped, it
    takes the suffix in the same place or not at all. -/
theorem suffix_in_front_of_last_extension (suffix : Text) :
    (∀ e ∈ enclosures, ∀ s,
        insertBeforeExtension? suffix (e.1 ++ s ++ e.2)
          = (insertBeforeExtension? suffix s).map fun v => e.1 ++ v ++ e.2)
      ∧ ∀ value value', insertBeforeExtension? suffix value = some value'
          ↔ ∃ path tail before after, IsPath value path tail ∧ LastDot path before after
            ∧ value' = before ++ suffix ++ '.' :: after ++ tail :=
  ⟨fun _ he s => insertBeforeExtension?_enclosed (encloses_of_mem he) suffix s,
    insertBeforeExtension?_iff suffix⟩

/-- A name with dots in its folders, in its stem and in its query string. -/
theorem dotted_name_suffixed :
    ("url('".toList, "')".toList) ∈ enclosures
      ∧ insertBeforeExtension? "@2x".toList "url('../v.1/a.b.png?v=1.2')".toList
        = some "url('../v.1/a.b@2x.png?v=1.2')".toList := by
  have hmem : ("url('".toList, "')".toList) ∈ enclosures := by decide
  refine ⟨hmem, ?_⟩
  have hwrapped := (suffix_in_front_of_last_extension "@2x".toList).1 _ hmem
    "../v.1/a.b.png?v=1.2".toList
  have hinside : insertBeforeExtension? "@2x".toList "../v.1/a.b.png?v=1.2".toList
      = some "../v.1/a.b@2x.png?v=1.2".toList := by
    decide +kernel
  rw [hinside] at hwrapped
  exact hwrapped

end ResponsiveImages
