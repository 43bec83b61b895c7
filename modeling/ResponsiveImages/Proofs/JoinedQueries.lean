import ResponsiveImages.Proofs.QueryText

/-!
# Lists of Queries Put Together

What a list of media queries reads as if its text is put together from the texts of
other lists, whatever stands in them. `Proofs.QueryText` answers this for texts that
are known to be conditions. Here nothing is known of the texts. They may hold queries
that cannot be read, and parentheses that are closed without having been opened or
opened without being closed.

There are two notions of a closed parenthesis, and they do not agree. A splitter counts,
and a parenthesis that closes nothing changes nothing; a reader of queries looks for the
one that belongs to the last one opened, and takes a lone closing parenthesis as part of
a word. That does no harm. The comma between two texts is a place where the splitter has
counted down to zero, which is the state it starts in, so on both sides it finds the
pieces it finds in each text alone (`QueryList.splitFrom_append`). The reader is given the
same pieces in either case and never sees what stands next to them.

So only the end of the first text matters. A text that ends with a parenthesis open takes
the comma, and whatever follows, into its last piece.

## Main definitions

* `QueryList.depthAfter`: The number of parentheses that are open behind a text.

## Theorems

* `QueryList.splitFrom_append`: The pieces of two texts with a comma between them.
* `QueryList.queries_append`: The queries of such a text.
* `QueryList.queries_joinWith`: The queries of any number of texts.
* `QueryList.read_without`: A text in which nothing can be read is left out.
* `joined_lists_read_apart`: All of it together.
-/

namespace ResponsiveImages

open Text

namespace QueryList

/-- The number of parentheses that are open behind a text, as a splitter counts them. -/
def depthAfter (depth : Nat) (s : Text) : Nat :=
  s.foldl nest depth

theorem consFirst_append (c : Char) {pieces : List Text} (hne : pieces ≠ [])
    (more : List Text) : consFirst c (pieces ++ more) = consFirst c pieces ++ more := by
  cases pieces with
  | nil => exact absurd rfl hne
  | cons piece pieces => rfl

theorem splitFrom_ne_nil (s : Text) : ∀ depth : Nat, splitFrom depth s ≠ [] := by
  induction s with
  | nil => exact fun _ => List.cons_ne_nil _ _
  | cons c s ih =>
      intro depth
      by_cases hcut : c = ',' ∧ depth = 0
      · rw [hcut.1, hcut.2, splitFrom_comma]
        exact List.cons_ne_nil _ _
      · rw [splitFrom_cons hcut]
        rcases List.exists_cons_of_ne_nil (ih (nest depth c)) with ⟨piece, pieces, hpieces⟩
        rw [hpieces]
        exact List.cons_ne_nil _ _

/-- A comma behind which nothing is open divides a text in two that are split apart. -/
theorem splitFrom_append (t s : Text) :
    ∀ depth : Nat, depthAfter depth s = 0 →
      splitFrom depth (s ++ ',' :: t) = splitFrom depth s ++ splitFrom 0 t := by
  induction s with
  | nil =>
      intro depth hclosed
      have hdepth : depth = 0 := hclosed
      rw [hdepth]
      rfl
  | cons c s ih =>
      intro depth hclosed
      have hrest := ih (nest depth c) hclosed
      rw [List.cons_append]
      by_cases hcut : c = ',' ∧ depth = 0
      · -- The count stays at zero over a comma that divides the text.
        rw [hcut.1, hcut.2] at hrest ⊢
        rw [splitFrom_comma, splitFrom_comma, List.cons_append]
        exact congrArg _ hrest
      · rw [splitFrom_cons hcut, splitFrom_cons hcut, hrest,
          consFirst_append c (splitFrom_ne_nil s _)]

/-- The queries of two texts with a comma between them. -/
theorem queries_append {s : Text} (hclosed : depthAfter 0 s = 0) (t : Text) :
    (read (s ++ ',' :: t)).queries = (read s).queries ++ (read t).queries := by
  rw [read, split, splitFrom_append t s 0 hclosed, List.filterMap_append]
  rfl

theorem holds_append {s : Text} (hclosed : depthAfter 0 s = 0) (t : Text) (v : Viewport) :
    (read (s ++ ',' :: t)).holds v = ((read s).holds v || (read t).holds v) := by
  rw [holds, queries_append hclosed, List.any_append]
  rfl

theorem queries_of_unreadable {s : Text} (h : ∀ piece ∈ split s, Query.read? piece = none) :
    (read s).queries = [] :=
  List.filterMap_eq_nil_iff.mpr h

/-- The queries of texts with commas between them, if nothing is open behind any of them
    but the last one. -/
theorem queries_joinWith (parts : List Text)
    (hclosed : ∀ s ∈ parts.dropLast, depthAfter 0 s = 0) :
    (read (joinWith [','] parts)).queries = parts.flatMap fun s => (read s).queries := by
  induction parts with
  | nil =>
      refine queries_of_unreadable fun piece hpiece => ?_
      rw [List.mem_singleton.mp hpiece, Query.read?, QueryToken.lex?_nil]
      rfl
  | cons s rest ih =>
      by_cases hrest : rest = []
      · rw [hrest, joinWith, List.intercalate_singleton, List.flatMap_singleton]
      · rw [List.dropLast_cons_of_ne_nil hrest, List.forall_mem_cons] at hclosed
        rw [joinWith_cons _ _ hrest, List.append_assoc, List.singleton_append,
          queries_append hclosed.1, ih hclosed.2, List.flatMap_cons]

/-- A text in which nothing can be read may as well be left out, whatever stands in front
    of it and behind it. -/
theorem read_without {front back : List Text} {part : Text}
    (hclosed : ∀ s ∈ (front ++ part :: back).dropLast, depthAfter 0 s = 0)
    (hpart : ∀ piece ∈ split part, Query.read? piece = none) :
    read (joinWith [','] (front ++ part :: back)) = read (joinWith [','] (front ++ back)) := by
  -- What is left is closed as well, all but the last text of it.
  have hothers : ∀ s ∈ (front ++ back).dropLast, depthAfter 0 s = 0 := by
    intro s hs
    by_cases hback : back = []
    · rw [hback, List.append_nil] at hs
      rw [hback, List.dropLast_concat] at hclosed
      exact hclosed s ((List.dropLast_sublist front).subset hs)
    · rw [List.dropLast_append_of_ne_nil hback] at hs
      rw [List.dropLast_append_of_ne_nil (List.cons_ne_nil _ _),
        List.dropLast_cons_of_ne_nil hback] at hclosed
      rcases List.mem_append.mp hs with hfront | hrest
      · exact hclosed s (List.mem_append_left _ hfront)
      · exact hclosed s (List.mem_append_right _ (List.mem_cons_of_mem _ hrest))
  have hqueries : (read (joinWith [','] (front ++ part :: back))).queries
      = (read (joinWith [','] (front ++ back))).queries := by
    rw [queries_joinWith _ hclosed, queries_joinWith _ hothers, List.flatMap_append,
      List.flatMap_cons, queries_of_unreadable hpart, List.nil_append, List.flatMap_append]
  exact congrArg mk hqueries

end QueryList

/-- A comma behind which no parenthesis is open divides a list of queries: the queries are
    those of the text in front of it and those of the text behind it, so the list holds
    where one of the two does. And if texts are put together in this way, one in which
    nothing can be read is the same as none. -/
theorem joined_lists_read_apart :
    (∀ s t : Text, QueryList.depthAfter 0 s = 0 →
        (QueryList.read (s ++ ',' :: t)).queries
            = (QueryList.read s).queries ++ (QueryList.read t).queries
          ∧ ∀ v, (QueryList.read (s ++ ',' :: t)).holds v
              = ((QueryList.read s).holds v || (QueryList.read t).holds v))
      ∧ ∀ (front back : List Text) (part : Text),
          (∀ s ∈ (front ++ part :: back).dropLast, QueryList.depthAfter 0 s = 0) →
          (∀ piece ∈ QueryList.split part, Query.read? piece = none) →
            QueryList.read (joinWith [','] (front ++ part :: back))
              = QueryList.read (joinWith [','] (front ++ back)) :=
  ⟨fun _ t hclosed =>
      ⟨QueryList.queries_append hclosed t, QueryList.holds_append hclosed t⟩,
    fun _ _ _ hclosed hpart => QueryList.read_without hclosed hpart⟩

/-- A list with a stray parenthesis in its first query, a list of one query in which two
    tests are not conjoined, and a list with a parenthesis that is never closed. -/
def brokenLists : Text × Text × Text :=
  ("screen ), (max-width: 600px)".toList, "(color) (color)".toList, "print, (x, (color)".toList)

/-- The good queries are read, and the list in the middle changes nothing. -/
theorem broken_lists_read :
    QueryList.depthAfter 0 brokenLists.1 = 0 ∧ QueryList.depthAfter 0 brokenLists.2.1 = 0
      ∧ (QueryList.read (brokenLists.1 ++ ',' :: brokenLists.2.2)).queries
          = [{ features := [⟨"max-width".toList, some "600px".toList⟩] },
            { mediaType := some "print".toList }]
      ∧ (QueryList.read (brokenLists.1 ++ ',' :: brokenLists.2.2)).holds {}
          = ((QueryList.read brokenLists.1).holds {} || (QueryList.read brokenLists.2.2).holds {})
      ∧ (∀ piece ∈ QueryList.split brokenLists.2.1, Query.read? piece = none)
      ∧ QueryList.read (joinWith [','] [brokenLists.1, brokenLists.2.1, brokenLists.2.2])
          = QueryList.read (joinWith [','] [brokenLists.1, brokenLists.2.2]) := by
  have hfirst : QueryList.depthAfter 0 brokenLists.1 = 0 := by decide
  have hmiddle : QueryList.depthAfter 0 brokenLists.2.1 = 0 := by decide
  have hunread : ∀ piece ∈ QueryList.split brokenLists.2.1, Query.read? piece = none := by
    decide +kernel
  have hclosed : ∀ s ∈ [brokenLists.1, brokenLists.2.1], QueryList.depthAfter 0 s = 0 :=
    List.forall_mem_cons.mpr ⟨hfirst, List.forall_mem_singleton.mpr hmiddle⟩
  have hread := joined_lists_read_apart.1 brokenLists.1 brokenLists.2.2 hfirst
  refine ⟨hfirst, hmiddle, ?_, hread.2 {}, hunread,
    joined_lists_read_apart.2 [brokenLists.1] [brokenLists.2.2] brokenLists.2.1 hclosed hunread⟩
  rw [hread.1]
  decide +kernel

end ResponsiveImages
