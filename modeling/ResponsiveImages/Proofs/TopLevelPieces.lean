import ResponsiveImages.Directive.Rule
import ResponsiveImages.Proofs.TextPieces

/-!
# Pieces Between Separators

What a text is cut into at the separators that stand at top level, and when the cut
is undone by joining the pieces again.

One scan goes through the whole text, and what is open in one piece could in
principle reach into the next. It does not. A separator only counts where nothing is
open, and having nothing open is just the state a scan starts in
(`topLevel_iff`). So each piece may be looked at by itself, from a fresh start:
the separator never stands at top level in it, and every piece that is followed by
another one ends at top level. The last piece may end anywhere, with a quote or a
bracket left open, or with brackets closed that were not open.

These two properties (`Pieces`) are all that can be said of the pieces, since any
list of texts that has them is what its join is cut into (`splitTopLevel_eq_iff`).
The clauses of a directive are read from such pieces. Hence clauses that are written
one after the other do not disturb each other (`clauses_of_pieces`).

## Main definitions

* `Nesting.exposes`: Whether a character stands at top level in a text.
* `Pieces`: The texts that a text is cut into.

## Theorems

* `topLevel_iff`: Where nothing is open a scan may start anew.
* `splitTopLevelFrom_of_hidden`, `splitTopLevelFrom_append`: Cutting text whose
  first piece is known.
* `exists_pieces`: What a text is cut into.
* `splitTopLevel_eq_iff`: Cutting and joining.
* `clauses_of_pieces`: The clauses of a directive that is put together.
-/

namespace ResponsiveImages

open Text

namespace Nesting

/-- Whether a character stands at top level somewhere in a text, given what is open
    where the text starts. -/
def exposes (sep : Char) : Nesting → Text → Bool
  | _, [] => false
  | n, c :: cs => (c == sep && n.topLevel) || exposes sep (n.step c) cs

theorem topLevel_iff (n : Nesting) : n.topLevel = true ↔ n = {} := by
  rcases n with ⟨parens, braces, quote⟩
  simp only [topLevel, Bool.and_eq_true, Option.isNone_iff_eq_none, beq_iff_eq, mk.injEq]
  exact ⟨fun h => ⟨h.1.2, h.2, h.1.1⟩, fun h => ⟨⟨h.2.2, h.1⟩, h.2.1⟩⟩

theorem exposes_cons_eq_false {sep c : Char} {n : Nesting} {s : Text} :
    n.exposes sep (c :: s) = false
      ↔ (c == sep && n.topLevel) = false ∧ (n.step c).exposes sep s = false := by
  rw [exposes, Bool.or_eq_false_iff]

end Nesting

/-- The texts that a text is cut into at the separators at top level. -/
structure Pieces (sep : Char) (pieces : List Text) : Prop where
  nonempty : pieces ≠ []
  /-- Scanned by itself, no piece has the separator at top level. -/
  hidden : ∀ s ∈ pieces, Nesting.exposes sep {} s = false
  /-- Scanned by itself, every piece but the last one ends at top level. -/
  closed : ∀ s ∈ pieces.dropLast, (Nesting.after {} s).topLevel = true

instance (sep : Char) (pieces : List Text) : Decidable (Pieces sep pieces) :=
  decidable_of_iff (pieces ≠ [] ∧ (∀ s ∈ pieces, Nesting.exposes sep {} s = false)
      ∧ ∀ s ∈ pieces.dropLast, (Nesting.after {} s).topLevel = true)
    ⟨fun h => ⟨h.1, h.2.1, h.2.2⟩, fun h => ⟨h.nonempty, h.hidden, h.closed⟩⟩

theorem pieces_singleton {sep : Char} {s : Text} :
    Pieces sep [s] ↔ Nesting.exposes sep {} s = false := by
  refine ⟨fun h => h.hidden s List.mem_cons_self, fun h => ⟨by simp, ?_, by simp⟩⟩
  simpa using h

theorem pieces_cons {sep : Char} {s : Text} {rest : List Text} (hne : rest ≠ []) :
    Pieces sep (s :: rest)
      ↔ Nesting.exposes sep {} s = false ∧ (Nesting.after {} s).topLevel = true
        ∧ Pieces sep rest := by
  have hlast : (s :: rest).dropLast = s :: rest.dropLast := List.dropLast_cons_of_ne_nil hne
  constructor
  · intro h
    have hhidden := h.hidden
    have hclosed := h.closed
    rw [hlast] at hclosed
    rw [List.forall_mem_cons] at hhidden hclosed
    exact ⟨hhidden.1, hclosed.1, hne, hhidden.2, hclosed.2⟩
  · rintro ⟨hhidden, hclosed, hrest⟩
    refine ⟨List.cons_ne_nil _ _, List.forall_mem_cons.mpr ⟨hhidden, hrest.hidden⟩, ?_⟩
    rw [hlast]
    exact List.forall_mem_cons.mpr ⟨hclosed, hrest.closed⟩

/-! ### Cutting text that is put together -/

/-- A text in which the separator does not stand at top level is a single piece. -/
theorem splitTopLevelFrom_of_hidden {sep : Char} (s : Text) :
    ∀ n : Nesting, n.exposes sep s = false → splitTopLevelFrom sep n s = [s] := by
  induction s with
  | nil => intro n _; rfl
  | cons c s ih =>
      intro n h
      rw [Nesting.exposes_cons_eq_false] at h
      rw [splitTopLevelFrom, if_neg (by simpa using h.1), ih (n.step c) h.2]
      rfl

/-- If such a text ends at top level, a separator behind it is where the text is cut,
    and what follows is cut as if it stood alone. -/
theorem splitTopLevelFrom_append {sep : Char} (t s : Text) :
    ∀ n : Nesting, n.exposes sep s = false → (n.after s).topLevel = true →
      splitTopLevelFrom sep n (s ++ sep :: t) = s :: splitTopLevel sep t := by
  induction s with
  | nil =>
      intro n _ hclosed
      have hfresh : n = {} := (Nesting.topLevel_iff n).mp hclosed
      rw [hfresh, List.nil_append, splitTopLevelFrom, if_pos (by simp [Nesting.topLevel])]
      rfl
  | cons c s ih =>
      intro n h hclosed
      rw [Nesting.exposes_cons_eq_false] at h
      rw [List.cons_append, splitTopLevelFrom, if_neg (by simpa using h.1),
        ih (n.step c) h.2 hclosed]
      rfl

/-- The join of pieces is cut into these pieces. -/
theorem splitTopLevel_joinWith {sep : Char} {pieces : List Text} (h : Pieces sep pieces) :
    splitTopLevel sep (joinWith [sep] pieces) = pieces := by
  induction pieces with
  | nil => exact absurd rfl h.nonempty
  | cons s rest ih =>
      by_cases hrest : rest = []
      · rw [hrest, pieces_singleton] at h
        rw [hrest, joinWith, List.intercalate_singleton]
        exact splitTopLevelFrom_of_hidden s {} h
      · rw [pieces_cons hrest] at h
        rw [joinWith_cons _ _ hrest, List.append_assoc, List.singleton_append, splitTopLevel,
          splitTopLevelFrom_append _ s {} h.1 h.2.1, ih h.2.2]

/-! ### What a text is cut into -/

/-- What a text is cut into if something may be open where it starts. This matters to
    the first piece alone. -/
theorem exists_pieces (sep : Char) (s : Text) :
    ∀ n : Nesting, ∃ first rest, splitTopLevelFrom sep n s = first :: rest
      ∧ joinWith [sep] (first :: rest) = s ∧ n.exposes sep first = false
      ∧ (rest ≠ [] → (n.after first).topLevel = true ∧ Pieces sep rest) := by
  induction s with
  | nil => intro n; exact ⟨[], [], rfl, rfl, rfl, fun h => absurd rfl h⟩
  | cons c s ih =>
      intro n
      by_cases hcut : (c == sep && n.topLevel) = true
      · -- The text is cut here, and the scan goes on with nothing open.
        have hc : c = sep := by
          rw [Bool.and_eq_true, beq_iff_eq] at hcut
          exact hcut.1
        have htop : n.topLevel = true := (Bool.and_eq_true_iff.mp hcut).2
        rcases ih n with ⟨first, rest, hsplit, hjoin, hhidden, hrest⟩
        rw [(Nesting.topLevel_iff n).mp htop] at hhidden hrest hsplit
        refine ⟨[], first :: rest, ?_, ?_, rfl, fun _ => ⟨htop, ?_⟩⟩
        · rw [splitTopLevelFrom, if_pos (by simpa using hcut), (Nesting.topLevel_iff n).mp htop,
            hsplit]
        · rw [joinWith_cons _ _ (List.cons_ne_nil _ _), hjoin, hc]
          rfl
        · by_cases hnil : rest = []
          · rw [hnil, pieces_singleton]
            exact hhidden
          · rw [pieces_cons hnil]
            exact ⟨hhidden, hrest hnil⟩
      · -- The character goes to the first piece of what is left.
        rcases ih (n.step c) with ⟨first, rest, hsplit, hjoin, hhidden, hrest⟩
        refine ⟨c :: first, rest, ?_, ?_, ?_, hrest⟩
        · rw [splitTopLevelFrom, if_neg (by simpa using hcut), hsplit]
          rfl
        · rw [← hjoin]
          cases rest with
          | nil => simp [joinWith, List.intercalate]
          | cons next rest => simp [joinWith, List.intercalate]
        · rw [Nesting.exposes_cons_eq_false]
          exact ⟨by simpa using hcut, hhidden⟩

/-- Cutting is the inverse of joining pieces. -/
theorem splitTopLevel_eq_iff {sep : Char} {s : Text} {pieces : List Text} :
    splitTopLevel sep s = pieces ↔ joinWith [sep] pieces = s ∧ Pieces sep pieces := by
  constructor
  · intro h
    rcases exists_pieces sep s {} with ⟨first, rest, hsplit, hjoin, hhidden, hrest⟩
    have hpieces : pieces = first :: rest := h.symm.trans hsplit
    rw [hpieces]
    refine ⟨hjoin, ?_⟩
    by_cases hnil : rest = []
    · rw [hnil, pieces_singleton]
      exact hhidden
    · rw [pieces_cons hnil]
      exact ⟨hhidden, hrest hnil⟩
  · rintro ⟨hjoin, hpieces⟩
    rw [← hjoin, splitTopLevel_joinWith hpieces]

/-! ### Directives -/

/-- A text in which no comma stands at top level is a directive of one clause. -/
theorem readDirective_of_hidden {s : Text} (h : Nesting.exposes ',' {} s = false)
    (units : Units) : readDirective units s = [Clause.ofSegment units s] := by
  rw [readDirective, splitTopLevel, splitTopLevelFrom_of_hidden s {} h, List.map_singleton]

/-- Cutting a text gives pieces with the text as their join, and cutting the join of
    pieces gives the pieces. So a directive that is put together from the texts of clauses
    has just these clauses, each as it is read from its text alone, and it is compiled to
    one breakpoint for each of them. -/
theorem clauses_of_pieces :
    (∀ (sep : Char) (s : Text),
        joinWith [sep] (splitTopLevel sep s) = s ∧ Pieces sep (splitTopLevel sep s))
      ∧ (∀ (sep : Char) (pieces : List Text), Pieces sep pieces →
          splitTopLevel sep (joinWith [sep] pieces) = pieces)
      ∧ ∀ pieces : List Text, Pieces ',' pieces → ∀ (units : Units) (id : Nat) (o : Options),
          readDirective units (joinWith [','] pieces) = pieces.map (Clause.ofSegment units)
            ∧ (compileElement id (readDirective units (joinWith [','] pieces)) o).breakpoints
                = pieces.map (fun s => (Clause.ofSegment units s).breakpoint)
            ∧ ∀ s ∈ pieces, readDirective units s = [Clause.ofSegment units s] := by
  refine ⟨fun sep s => splitTopLevel_eq_iff.mp rfl, fun _ _ h => splitTopLevel_joinWith h, ?_⟩
  intro pieces h units id o
  have hclauses : readDirective units (joinWith [','] pieces)
      = pieces.map (Clause.ofSegment units) := by
    rw [readDirective, splitTopLevel_joinWith h]
  refine ⟨hclauses, ?_, fun s hs => readDirective_of_hidden (h.hidden s hs) units⟩
  rw [hclauses, compileElement, List.map_map]
  rfl

/-- Clauses that are awkward to tell apart: one with commas and a stray bracket in a
    quote, an empty one, and one that is never closed. -/
def awkwardClauses : List Text := [
  "(min-width: 1px) \x7b src: url('a,(b.png') \x7d ) ".toList,
  [],
  "\x7b src: url(data:image/png;base64,AAA".toList]

/-- They are read one by one from the directive they are put together to. -/
theorem awkward_clauses_read :
    readDirective .pixels (joinWith [','] awkwardClauses)
        = [⟨some "(min-width: 1px)".toList, "src: url('a,(b.png')".toList⟩, ⟨none, []⟩,
          ⟨none, "src: url(data:image/png;base64,AAA".toList⟩]
      ∧ splitTopLevel ',' (joinWith [','] awkwardClauses) = awkwardClauses := by
  have hpieces : Pieces ',' awkwardClauses := by decide +kernel
  refine ⟨?_, clauses_of_pieces.2.1 ',' awkwardClauses hpieces⟩
  rw [(clauses_of_pieces.2.2 awkwardClauses hpieces .pixels 0 {}).1]
  decide +kernel

end ResponsiveImages
