import ResponsiveImages.Proofs.RestatedTests

/-!
# Printed Queries

What becomes of a media query that is written out and read again.

Its tests come back as they were, since each has been read from balanced text and
nothing but white space was lost on the way (`rereads_of_read`). Its media type comes
back as well. It was a single word, and none of the three that mean something else at
the front of a query (`IsMediaType`), so it is taken for a media type again, with or
without a negation mark before it.

The negation mark itself has no place of its own. It is written together with the
media type, and a query that is negated without having one, such as
`not (min-width: 20em)`, loses it. What is read then is the query without the mark, and
it holds where the first one does not. This is the only loss
(`printed_query_reads_back`).

## Main definitions

* `IsMediaType`: A word that is read as a media type.

## Theorems

* `mediaType_of_read?`: What a query has as its media type.
* `rereads_of_query`: The tests of a query are read back.
* `read?_mediaType`, `read?_not_mediaType`: A media type is read back.
* `printed_query_reads_back`: What a printed query is read as.
* `negation_without_medium_is_lost`: A query that is not read back.
-/

namespace ResponsiveImages

open Text

/-- A word that is read as a media type, at the front of a query. -/
structure IsMediaType (w : Text) : Prop where
  nonempty : w ≠ []
  inWord : ∀ c ∈ w, QueryToken.inWord c = true
  notAnd : eqIgnoreCase w "and".toList = false
  notOnly : eqIgnoreCase w "only".toList = false
  notNot : eqIgnoreCase w "not".toList = false

/-! ### What has been read -/

/-- The media type of a query has been read from a word that is none of the marks. -/
theorem mediaType_of_read? {s : Text} {q : Query} (h : Query.read? s = some q) :
    ∀ w, q.mediaType = some w → IsMediaType w := by
  rcases Query.run?_of_read? h with ⟨tokens, hlex, hrun, _⟩
  refine Query.run?_keeps (P := fun state => ∀ w, state.1.mediaType = some w → IsMediaType w)
    tokens _ _ ?_ (fun w hw => absurd hw (by simp)) hrun
  intro q due token htoken next hold hstep w hw
  cases hstep with
  | @mediaType w' hand honly hnot =>
      rw [← Option.some.inj hw]
      rcases wellCut_of_lex? s tokens hlex _ htoken with ⟨hne, hchars⟩
      exact ⟨hne, hchars, hand, honly, hnot⟩
  | test => exact hold w hw
  | and => exact hold w hw
  | only => exact hold w hw
  | not => exact hold w hw

/-! ### What is read back -/

/-- A word is cut from what follows it by white space, or by the end of the text. -/
theorem lex?_of_word {w : Text} (hne : w ≠ []) (hw : ∀ c ∈ w, QueryToken.inWord c = true) :
    QueryToken.lex? w = some [.word w] := by
  rcases List.exists_cons_of_ne_nil hne with ⟨c, cs, heq⟩
  rw [heq, List.forall_mem_cons] at hw
  rw [heq, QueryToken.lex?_cons_word hw.1, List.takeWhile_eq_self_iff.mpr hw.2,
    List.dropWhile_eq_nil_iff.mpr hw.2, QueryToken.lex?_nil]
  rfl

/-- Where a media type is due it is read as one, whatever marks stand before it. -/
theorem step?_mediaType {w : Text} (h : IsMediaType w) (negated : Bool) :
    Query.step? ({ negated }, true) (.word w) = some ({ negated, mediaType := some w }, false) := by
  rw [Query.step?, h.notAnd, h.notOnly, h.notNot]
  rfl

theorem read?_mediaType {w : Text} (h : IsMediaType w) :
    Query.read? w = some { mediaType := some w } := by
  refine Query.read?_of_run? (lex?_of_word h.nonempty h.inWord) ?_ rfl
  rw [Query.run?, List.foldlM_cons, step?_mediaType h]
  rfl

theorem read?_not_mediaType {w : Text} (h : IsMediaType w) :
    Query.read? ("not ".toList ++ w) = some { negated := true, mediaType := some w } := by
  have hnot : QueryToken.lex? "not".toList = some [.word "not".toList] :=
    lex?_of_word (by decide) (by decide)
  have hlex : QueryToken.lex? ("not ".toList ++ w)
      = some [.word "not".toList, .word w] := by
    rw [show "not ".toList ++ w = "not".toList ++ ' ' :: w by simp,
      QueryToken.lex?_append_blank ' ' (by decide) w _ _ hnot, lex?_of_word h.nonempty h.inWord]
    rfl
  refine Query.read?_of_run? hlex ?_ rfl
  rw [Query.run?, List.foldlM_cons,
    show Query.step? ({}, true) (.word "not".toList) = some ({ negated := true }, true) by decide,
    Option.bind_eq_bind, Option.bind_some, List.foldlM_cons, step?_mediaType h]
  rfl

/-- The tests of a query are read back. -/
theorem rereads_of_query {s : Text} {q : Query} (h : Query.read? s = some q) :
    ∀ f ∈ q.features, Rereads f := by
  intro f hf
  rcases tests_of_read? h f hf with ⟨inner, hbalanced, hread⟩
  exact rereads_of_read hbalanced hread

/-- A query that has been written out is read as itself, but for a negation mark
    without a media type, which is lost. -/
theorem read?_text {s : Text} {q : Query} (h : Query.read? s = some q) :
    Query.read? q.text = some { q with negated := q.negated && q.mediaType.isSome } := by
  have hfeatures := rereads_of_query h
  rcases Query.run?_of_read? h with ⟨_, _, _, hbare⟩
  rcases q with ⟨negated, mediaType, features⟩
  cases mediaType with
  | none =>
      -- Without a media type there is at least one test, and nothing else is written.
      have hne : features ≠ [] := by
        intro hnil
        rw [hnil] at hbare
        exact absurd hbare (by simp [Query.bare])
      have hcondition := condition?_joinWith features hne hfeatures
      rw [Option.isSome_none, Bool.and_false]
      exact Query.read?_condition hcondition
  | some w =>
      have hw := mediaType_of_read? h w rfl
      rw [Option.isSome_some, Bool.and_true]
      cases negated with
      | false => exact read?_joinWith_features (read?_mediaType hw) features hfeatures
      | true => exact read?_joinWith_features (read?_not_mediaType hw) features hfeatures

/-- A query that has been written out is read as itself if it is not negated, or if it
    names a media type. Otherwise it is read as the same query without the negation. -/
theorem printed_query_reads_back {s : Text} {q : Query} (h : Query.read? s = some q) :
    (Query.read? q.text = some q ↔ (q.negated = true → q.mediaType.isSome = true))
      ∧ (q.negated = true → q.mediaType = none →
          Query.read? q.text = some { q with negated := false }) := by
  have hread := read?_text h
  refine ⟨?_, fun _ hmedium => ?_⟩
  · rw [hread, Option.some.injEq]
    rcases q with ⟨negated, mediaType, features⟩
    simp only [Query.mk.injEq, and_true]
    cases negated <;> cases mediaType <;> simp
  · rw [hread, hmedium, Option.isSome_none, Bool.and_false]

/-- A query with every mark in front of its media type, and with parentheses and colons
    in its test. -/
theorem marked_query_reads_back :
    ∃ q, Query.read? "ONLY not\tPrint and(a(b : c):d)".toList = some q
      ∧ q.text = "not Print and (a(b: c):d)".toList ∧ Query.read? q.text = some q := by
  have hread : Query.read? "ONLY not\tPrint and(a(b : c):d)".toList
      = some ⟨true, some "Print".toList, [⟨"a(b".toList, some "c):d".toList⟩]⟩ := by
    decide +kernel
  refine ⟨_, hread, by decide +kernel, ?_⟩
  exact (printed_query_reads_back hread).1.mpr fun _ => rfl

/-- A query that loses its negation. It holds in narrow windows, and what is read from
    its text holds in wide ones. -/
theorem negation_without_medium_is_lost :
    ∃ q, Query.read? "not (min-width: 20em)".toList = some q
      ∧ q.text = "(min-width: 20em)".toList ∧ Query.read? q.text ≠ some q := by
  refine ⟨⟨true, none, [⟨"min-width".toList, some "20em".toList⟩]⟩, ?_⟩
  decide +kernel

end ResponsiveImages
