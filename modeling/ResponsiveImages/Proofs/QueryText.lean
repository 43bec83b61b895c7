import ResponsiveImages.Directive.Rule
import ResponsiveImages.Proofs.TextPieces

/-!
# The Text of Media Queries

How media queries read when their texts are put together, which is what the
compiler does: the query of a duplicate for dense displays is the test of its
clause conjoined with each of five density tests, and the five conjunctions
are separated by commas.

Two things could go wrong in such a text. The words at the seam could run
together, or a comma inside the test could split it in the wrong place.
Neither happens to a text that `condition?` accepts. Its last token is whole
and a blank follows (`lex?_append_blank`), and its words are nothing but `and`
and `only`, so all its commas and parentheses stand inside closed tests
(`spans_of_lex?`).

A splitter remembers how many parentheses are open. A text that leads it from
one such number to another without being split anywhere is said to span them
(`QueryList.Spans`), and texts that span compose.

## Main definitions

* `Query.Reading`: What a step does to a query.
* `QueryList.nest`: The number of open parentheses after one more character.
* `QueryList.prependFirst`: A text put in front of the first piece.
* `QueryList.Spans`: Texts that are not split.
* `QueryList.Reads`: Texts that read as a single query.
* `denseFeatures`: The tests that recognise a dense display, as features.
* `dense`: Whether a viewport is a dense display.
* `mediaHolds`: Whether the test of a rule holds.

## Theorems

* `closeParen?_append`: A closed parenthesis stays closed when text follows.
* `lex?_append_blank`: The tokens of two texts with a blank between them.
* `spans_of_lex?`: A text of tests and plain words is a single piece.
* `splitFrom_append_comma`: The pieces around a comma outside parentheses.
* `reading_of_step?`: What one step can do.
* `run?_keeps`: What is kept by every step.
* `run?_of_features`: The words of a query that is no more than features.
* `read?_and`: A query conjoined with one more test.
* `read_condition`: A condition is a list of one query.
* `read_denseMedia`: The queries of a duplicate for dense displays.
* `dense_congr`: A display is dense by its pixel ratio.
* `not_blank_of_condition`: A condition is more than white space.
* `holds_denseMedia`: When the queries of a duplicate hold.
-/

namespace ResponsiveImages

open Text

namespace QueryToken

/-! ### Tokens -/

theorem closeParen?_append (t : Text) (depth : Nat) (s : Text) :
    ∀ (inner rest : Text), closeParen? depth s = some (inner, rest) →
      closeParen? depth (s ++ t) = some (inner, rest ++ t) := by
  fun_induction closeParen? depth s with
  | case1 depth => intro inner rest h; exact absurd h (by simp)
  | case2 cs =>
      intro inner rest h
      simp only [Option.some.injEq, Prod.mk.injEq] at h
      rw [List.cons_append, closeParen?, if_pos rfl, ← h.1, ← h.2]
  | case3 cs depth ih =>
      intro inner rest h
      rcases Option.map_eq_some_iff.mp h with ⟨⟨a, b⟩, hab, heq⟩
      rw [List.cons_append, closeParen?.eq_def]
      simp only [if_true]
      simp only [ih a b hab, Option.map_some, Option.some.injEq, Prod.mk.injEq] at heq ⊢
      exact ⟨heq.1, by rw [heq.2]⟩
  | case4 depth c cs hc ih =>
      intro inner rest h
      rcases Option.map_eq_some_iff.mp h with ⟨⟨a, b⟩, hab, heq⟩
      rw [List.cons_append, closeParen?.eq_def]
      simp only [if_neg hc]
      simp only [ih a b hab, Option.map_some, Option.some.injEq, Prod.mk.injEq] at heq ⊢
      exact ⟨heq.1, by rw [heq.2]⟩

theorem lex?_nil : lex? [] = some [] := by
  rw [lex?.eq_def]

theorem lex?_cons_blank {c : Char} (hc : isBlank c = true) (cs : Text) :
    lex? (c :: cs) = lex? cs := by
  rw [lex?.eq_def]
  simp only [if_pos hc]

theorem lex?_cons_paren {cs inner rest : Text} (h : closeParen? 0 cs = some (inner, rest)) :
    lex? ('(' :: cs) = (lex? rest).map (test inner :: ·) := by
  have hblank : ¬ isBlank '(' = true := by decide
  rw [lex?.eq_def]
  simp only [if_neg hblank, if_true]
  split
  · next hnone => rw [hnone] at h; exact absurd h (by simp)
  · next inner' rest' hsome =>
      rw [hsome, Option.some.injEq, Prod.mk.injEq] at h
      rw [h.1, h.2]

theorem lex?_cons_word {c : Char} (hc : inWord c = true) (cs : Text) :
    lex? (c :: cs) = (lex? (cs.dropWhile inWord)).map (word (c :: cs.takeWhile inWord) :: ·) := by
  simp only [inWord, Bool.and_eq_true, Bool.not_eq_true', bne_iff_ne, ne_eq] at hc
  have hblank : ¬ isBlank c = true := by rw [hc.1]; decide
  rw [lex?.eq_def]
  simp only [if_neg hblank, if_neg hc.2]

/-- The tokens of two texts with a blank between them. A word that ends the first
    one is cut off by the blank. -/
theorem lex?_append_blank (c : Char) (hc : isBlank c = true) (t : Text) (s : Text) :
    ∀ (tokens : List QueryToken), lex? s = some tokens →
      lex? (s ++ c :: t) = (lex? t).map (tokens ++ ·) := by
  fun_induction lex? s with
  | case1 =>
      intro tokens h
      simp only [Option.some.injEq] at h
      rw [← h, List.nil_append, lex?_cons_blank hc]
      simp
  | case2 x xs hx ih =>
      intro tokens h
      rw [List.cons_append, lex?_cons_blank hx]
      exact ih tokens h
  | case3 xs _ hx =>
      intro tokens h
      exact absurd h (by simp)
  | case4 xs inner rest hclose _ ih =>
      intro tokens h
      rcases Option.map_eq_some_iff.mp h with ⟨later, hlater, heq⟩
      rw [List.cons_append, lex?_cons_paren (closeParen?_append _ _ _ _ _ hclose),
        ih later hlater, ← heq, Option.map_map]
      rfl
  | case5 x xs hx hparen ih =>
      intro tokens h
      rcases Option.map_eq_some_iff.mp h with ⟨later, hlater, heq⟩
      -- A word that ends the first text ends at the blank.
      have hword : inWord x = true := by
        simp [inWord, hx, hparen]
      have hcut : inWord c = false := by
        simp only [inWord, hc, Bool.not_true, Bool.false_and]
      rw [List.cons_append, lex?_cons_word hword, takeWhile_append_stop hcut,
        dropWhile_append_stop hcut, ih later hlater, ← heq, Option.map_map]
      rfl

/-- A text without parentheses is closed by the first one behind it. -/
theorem closeParen?_of_plain (t s : Text) (hs : ∀ c ∈ s, c ≠ '(' ∧ c ≠ ')') :
    closeParen? 0 (s ++ ')' :: t) = some (s, t) := by
  induction s with
  | nil => rfl
  | cons c s ih =>
      rcases hs c List.mem_cons_self with ⟨hopen, hclose⟩
      rw [List.cons_append, closeParen?.eq_def]
      simp only [if_neg hclose, if_neg hopen, ih fun x hx => hs x (List.mem_cons_of_mem _ hx),
        Option.map_some]

end QueryToken

namespace QueryList

/-! ### Pieces between commas -/

/-- The number of open parentheses after one more character. Closing one that is
    not open changes nothing. -/
def nest (depth : Nat) (c : Char) : Nat :=
  if c = '(' then depth + 1 else if c = ')' then depth - 1 else depth

/-- A text put in front of the first piece. -/
def prependFirst (s : Text) (pieces : List Text) : List Text :=
  s.foldr consFirst pieces

theorem prependFirst_cons (s piece : Text) (pieces : List Text) :
    prependFirst s (piece :: pieces) = (s ++ piece) :: pieces := by
  induction s with
  | nil => rfl
  | cons c s ih =>
      rw [show prependFirst (c :: s) (piece :: pieces)
        = consFirst c (prependFirst s (piece :: pieces)) from rfl, ih]
      rfl

/-- A text leads a splitter from one depth to another without being split. -/
def Spans (depth depth' : Nat) (s : Text) : Prop :=
  ∀ t : Text, splitFrom depth (s ++ t) = prependFirst s (splitFrom depth' t)

theorem splitFrom_comma (s : Text) : splitFrom 0 (',' :: s) = [] :: splitFrom 0 s := rfl

theorem splitFrom_cons {depth : Nat} {c : Char} (h : ¬ (c = ',' ∧ depth = 0)) (s : Text) :
    splitFrom depth (c :: s) = consFirst c (splitFrom (nest depth c) s) := by
  rw [splitFrom, if_neg (by simpa using h)]
  rfl

theorem spans_nil (depth : Nat) : Spans depth depth [] := fun _ => rfl

theorem spans_cons {depth depth' : Nat} {c : Char} {s : Text} (h : ¬ (c = ',' ∧ depth = 0))
    (hs : Spans (nest depth c) depth' s) : Spans depth depth' (c :: s) := by
  intro t
  rw [List.cons_append, splitFrom_cons h, hs t]
  rfl

theorem spans_append {depth depth' depth'' : Nat} {s t : Text} (hs : Spans depth depth' s)
    (ht : Spans depth' depth'' t) : Spans depth depth'' (s ++ t) := by
  intro u
  rw [List.append_assoc, hs, ht]
  simp only [prependFirst, List.foldr_append]

/-- A text outside parentheses with no commas and parentheses of its own. -/
theorem spans_plain {s : Text} (hs : ∀ c ∈ s, c ≠ ',' ∧ c ≠ '(' ∧ c ≠ ')') : Spans 0 0 s := by
  induction s with
  | nil => exact spans_nil 0
  | cons c s ih =>
      rcases hs c List.mem_cons_self with ⟨hcomma, hopen, hclose⟩
      refine spans_cons (fun h => hcomma h.1) ?_
      rw [show nest 0 c = 0 by rw [nest, if_neg hopen, if_neg hclose]]
      exact ih fun x hx => hs x (List.mem_cons_of_mem _ hx)

/-- What a closing parenthesis ends, the parenthesis included. -/
theorem spans_closeParen (depth : Nat) (s : Text) :
    ∀ (inner rest : Text), QueryToken.closeParen? depth s = some (inner, rest) →
      s = inner ++ ')' :: rest ∧ Spans (depth + 1) 0 (inner ++ [')']) := by
  fun_induction QueryToken.closeParen? depth s with
  | case1 depth => intro inner rest h; exact absurd h (by simp)
  | case2 cs =>
      intro inner rest h
      simp only [Option.some.injEq, Prod.mk.injEq] at h
      rw [← h.1, ← h.2]
      exact ⟨rfl, spans_cons (by decide) (spans_nil 0)⟩
  | case3 cs depth ih =>
      intro inner rest h
      rcases Option.map_eq_some_iff.mp h with ⟨⟨a, b⟩, hab, heq⟩
      rcases ih a b hab with ⟨hcs, hspans⟩
      simp only [Prod.mk.injEq] at heq
      rw [← heq.1, ← heq.2, hcs]
      exact ⟨rfl, spans_cons (fun hc => absurd hc.1 (by decide)) hspans⟩
  | case4 depth c cs hc ih =>
      intro inner rest h
      rcases Option.map_eq_some_iff.mp h with ⟨⟨a, b⟩, hab, heq⟩
      rcases ih a b hab with ⟨hcs, hspans⟩
      simp only [Prod.mk.injEq] at heq
      rw [← heq.1, ← heq.2, hcs]
      refine ⟨rfl, spans_cons (fun hc => by omega) ?_⟩
      have hnest : nest (depth + 1) c = (if c = '(' then depth + 1 else depth) + 1 := by
        rw [nest, if_neg hc]
        by_cases hopen : c = '('
        · rw [if_pos hopen, if_pos hopen]
        · rw [if_neg hopen, if_neg hopen]
      rw [hnest]
      exact hspans

/-- A text of tests and words without commas and parentheses is not split. -/
theorem spans_of_lex? (s : Text) :
    ∀ (tokens : List QueryToken), QueryToken.lex? s = some tokens →
      (∀ w, QueryToken.word w ∈ tokens → ',' ∉ w ∧ ')' ∉ w) → Spans 0 0 s := by
  fun_induction QueryToken.lex? s with
  | case1 => intro _ _ _; exact spans_nil 0
  | case2 c cs hc ih =>
      intro tokens h hwords
      have hplain : ∀ x ∈ [c], x ≠ ',' ∧ x ≠ '(' ∧ x ≠ ')' := by
        intro x hx
        rw [List.mem_singleton.mp hx]
        refine ⟨?_, ?_, ?_⟩ <;> rintro rfl <;> exact absurd hc (by decide)
      exact spans_append (spans_plain hplain) (ih tokens h hwords)
  | case3 cs _ hclose => intro tokens h; exact absurd h (by simp)
  | case4 cs inner rest hclose _ ih =>
      intro tokens h hwords
      rcases Option.map_eq_some_iff.mp h with ⟨later, hlater, heq⟩
      -- The test is closed in the text, so whatever it contains is nested.
      rcases spans_closeParen 0 cs inner rest hclose with ⟨hcs, hspans⟩
      have hrest := ih later hlater fun w hw => hwords w (by
        rw [← heq]
        exact List.mem_cons_of_mem _ hw)
      rw [hcs, show '(' :: (inner ++ ')' :: rest) = '(' :: (inner ++ [')']) ++ rest by simp]
      exact spans_append (spans_cons (by decide) hspans) hrest
  | case5 c cs hblank hparen ih =>
      intro tokens h hwords
      rcases Option.map_eq_some_iff.mp h with ⟨later, hlater, heq⟩
      have hrest := ih later hlater fun w hw => hwords w (by
        rw [← heq]
        exact List.mem_cons_of_mem _ hw)
      have hword := hwords (c :: cs.takeWhile QueryToken.inWord) (by
        rw [← heq]
        exact List.mem_cons_self)
      have hplain : ∀ x ∈ c :: cs.takeWhile QueryToken.inWord,
          x ≠ ',' ∧ x ≠ '(' ∧ x ≠ ')' := by
        intro x hx
        refine ⟨fun hcomma => hword.1 (hcomma ▸ hx), ?_, fun hclose => hword.2 (hclose ▸ hx)⟩
        rcases List.mem_cons.mp hx with hhead | htail
        · rw [hhead]
          exact hparen
        · have hin : QueryToken.inWord x = true :=
            List.all_eq_true.mp List.all_takeWhile x htail
          intro hopen
          rw [hopen] at hin
          exact absurd hin (by decide)
      rw [← List.takeWhile_append_dropWhile (p := QueryToken.inWord) (l := cs),
        ← List.cons_append]
      exact spans_append (spans_plain hplain) hrest

/-- The pieces around a comma behind a text that is not split. -/
theorem splitFrom_append_comma {s : Text} (hs : Spans 0 0 s) (t : Text) :
    splitFrom 0 (s ++ ',' :: t) = s :: splitFrom 0 t := by
  rw [hs, splitFrom_comma, prependFirst_cons, List.append_nil]

theorem splitFrom_of_spans {s : Text} (hs : Spans 0 0 s) : splitFrom 0 s = [s] := by
  have h := hs []
  rw [List.append_nil] at h
  rw [h, show splitFrom 0 [] = [[]] from rfl, prependFirst_cons, List.append_nil]

end QueryList

namespace Query

/-! ### Conditions -/

/-- What a step can do to a query, given whether an operand is due. -/
inductive Reading (q : Query) : Bool → QueryToken → Query × Bool → Prop where
  | test {inner : Text} {f : Feature} (h : Feature.ofInner? inner = some f) :
      Reading q true (.test inner) ({ q with features := q.features ++ [f] }, false)
  | and {w : Text} (h : eqIgnoreCase w "and".toList = true) :
      Reading q false (.word w) (q, true)
  | only {w : Text} {due : Bool} (h : eqIgnoreCase w "only".toList = true)
      (hbare : q.bare = true) : Reading q due (.word w) (q, due)
  | not {w : Text} {due : Bool} (h : eqIgnoreCase w "not".toList = true)
      (hbare : q.bare = true) : Reading q due (.word w) ({ q with negated := true }, due)
  | mediaType {w : Text} (hand : eqIgnoreCase w "and".toList = false)
      (honly : eqIgnoreCase w "only".toList = false)
      (hnot : eqIgnoreCase w "not".toList = false) (hbare : q.bare = true) :
      Reading q true (.word w) ({ q with mediaType := some w }, false)

theorem reading_of_step? {q : Query} {due : Bool} {token : QueryToken} {next : Query × Bool}
    (h : step? (q, due) token = some next) : Reading q due token next := by
  cases token with
  | test inner =>
      rw [step?] at h
      by_cases hdue : due = true
      · rw [if_pos hdue] at h
        rcases Option.map_eq_some_iff.mp h with ⟨f, hf, heq⟩
        rw [← heq, hdue]
        exact .test hf
      · rw [if_neg hdue] at h
        exact absurd h (by simp)
  | word w =>
      rw [step?] at h
      -- The words are tried in the order of the reader.
      by_cases hand : eqIgnoreCase w "and".toList = true
      · rw [if_pos hand] at h
        by_cases hdue : due = true
        · rw [if_pos hdue] at h
          exact absurd h (by simp)
        · rw [if_neg hdue, Option.some.injEq] at h
          rw [Bool.not_eq_true] at hdue
          rw [← h, hdue]
          exact .and hand
      rw [if_neg hand] at h
      rw [Bool.not_eq_true] at hand
      by_cases honly : (eqIgnoreCase w "only".toList && q.bare) = true
      · rw [if_pos honly, Option.some.injEq] at h
        rw [Bool.and_eq_true] at honly
        rw [← h]
        exact .only honly.1 honly.2
      rw [if_neg honly] at h
      by_cases hnot : (eqIgnoreCase w "not".toList && q.bare) = true
      · rw [if_pos hnot, Option.some.injEq] at h
        rw [Bool.and_eq_true] at hnot
        rw [← h]
        exact .not hnot.1 hnot.2
      rw [if_neg hnot] at h
      by_cases htype : (due && q.bare) = true
      · -- Nothing but marks has been read, so the word is none of the marks.
        rw [if_pos htype, Option.some.injEq] at h
        rw [Bool.and_eq_true] at htype
        rw [htype.2, Bool.and_true, Bool.not_eq_true] at honly hnot
        rw [← h, htype.1]
        exact .mediaType hand honly hnot htype.2
      · rw [if_neg htype] at h
        exact absurd h (by simp)

/-- What holds at the start and is kept by every step holds at the end. -/
theorem run?_keeps {P : Query × Bool → Prop} (tokens : List QueryToken) :
    ∀ state final : Query × Bool,
      (∀ q due, ∀ token ∈ tokens, ∀ next, P (q, due) → Reading q due token next → P next) →
      P state → run? state tokens = some final → P final := by
  induction tokens with
  | nil =>
      intro state final _ hstart h
      rw [run?, List.foldlM_nil, Option.pure_def, Option.some.injEq] at h
      exact h ▸ hstart
  | cons token tokens ih =>
      intro state final hkeeps hstart h
      rw [run?, List.foldlM_cons] at h
      rcases Option.bind_eq_some_iff.mp h with ⟨next, hstep, hrest⟩
      have hnext := hkeeps state.1 state.2 token List.mem_cons_self next hstart
        (reading_of_step? hstep)
      exact ih next final (fun q due t ht => hkeeps q due t (List.mem_cons_of_mem _ ht)) hnext hrest

/-- What one step can have read if the query is no more than features after it. -/
theorem step?_of_features {q q' : Query} {due due' : Bool} {token : QueryToken}
    (h : step? (q, due) token = some (q', due')) (hneg : q'.negated = false)
    (htype : q'.mediaType = none) :
    q.negated = false ∧ q.mediaType = none
      ∧ ∀ w, token = .word w →
          eqIgnoreCase w "and".toList = true ∨ eqIgnoreCase w "only".toList = true := by
  cases reading_of_step? h with
  | test => exact ⟨hneg, htype, fun w hw => absurd hw (by simp)⟩
  | and hand => exact ⟨hneg, htype, fun w hw => Or.inl (QueryToken.word.inj hw ▸ hand)⟩
  | only honly => exact ⟨hneg, htype, fun w hw => Or.inr (QueryToken.word.inj hw ▸ honly)⟩
  -- The two steps that are left set a mark that stays.
  | not => exact absurd hneg (by simp)
  | mediaType => exact absurd htype (by simp)

/-- The words of a query that is no more than features. -/
theorem run?_of_features (tokens : List QueryToken) :
    ∀ (state : Query × Bool) (q' : Query) (due' : Bool),
      run? state tokens = some (q', due') → q'.negated = false → q'.mediaType = none →
        state.1.negated = false ∧ state.1.mediaType = none
          ∧ ∀ w, QueryToken.word w ∈ tokens →
              eqIgnoreCase w "and".toList = true ∨ eqIgnoreCase w "only".toList = true := by
  induction tokens with
  | nil =>
      intro state q' due' h hneg htype
      rw [run?, List.foldlM_nil, Option.pure_def, Option.some.injEq] at h
      rw [h]
      exact ⟨hneg, htype, fun w hw => absurd hw (List.not_mem_nil)⟩
  | cons token tokens ih =>
      intro state q' due' h hneg htype
      rw [run?, List.foldlM_cons] at h
      rcases Option.bind_eq_some_iff.mp h with ⟨next, hstep, hrest⟩
      rcases ih next q' due' hrest hneg htype with ⟨hneg', htype', hwords⟩
      rcases step?_of_features hstep hneg' htype' with ⟨hneg'', htype'', hword⟩
      refine ⟨hneg'', htype'', fun w hw => ?_⟩
      rcases List.mem_cons.mp hw with hhead | htail
      · exact hword w hhead.symm
      · exact hwords w htail

/-- What a text has to be for a query to be read from it. -/
theorem run?_of_read? {s : Text} {q : Query} (h : read? s = some q) :
    ∃ tokens, QueryToken.lex? s = some tokens ∧ run? ({}, true) tokens = some (q, false)
      ∧ q.bare = false := by
  rcases Option.bind_eq_some_iff.mp h with ⟨tokens, hlex, htokens⟩
  rw [ofTokens?] at htokens
  rcases hrun : run? ({}, true) tokens with _ | ⟨q', due⟩
  · rw [hrun] at htokens
    exact absurd htokens (by simp)
  rw [hrun] at htokens
  by_cases hend : (due || q'.bare) = true
  · simp only [if_pos hend] at htokens
    exact absurd htokens (by simp)
  simp only [if_neg hend, Option.some.injEq] at htokens
  rw [Bool.not_eq_true, Bool.or_eq_false_iff, htokens] at hend
  exact ⟨tokens, hlex, by rw [hrun, hend.1, htokens], hend.2⟩

theorem read?_of_run? {s : Text} {q : Query} {tokens : List QueryToken}
    (hlex : QueryToken.lex? s = some tokens) (hrun : run? ({}, true) tokens = some (q, false))
    (hbare : q.bare = false) : read? s = some q := by
  rw [read?, hlex, Option.bind_some, ofTokens?, hrun]
  simp only [hbare, Bool.or_self, Bool.false_eq_true, if_false]

theorem read?_condition {s : Text} {fs : List Feature} (h : condition? s = some fs) :
    read? s = some { features := fs } := by
  rcases Option.bind_eq_some_iff.mp h with ⟨⟨negated, mediaType, features⟩, hread, hplain⟩
  by_cases hmarks : (negated || mediaType.isSome) = true
  · rw [if_pos hmarks] at hplain
    exact absurd hplain (by simp)
  rw [if_neg hmarks, Option.some.injEq] at hplain
  simp only [Bool.or_eq_true, not_or, Bool.not_eq_true, Option.isSome_eq_false_iff,
    Option.isNone_iff_eq_none] at hmarks
  rw [hread, hmarks.1, hmarks.2, ← hplain]

/-- What a text has to be for `condition?` to accept it. -/
theorem run?_of_condition {s : Text} {fs : List Feature} (h : condition? s = some fs) :
    ∃ tokens, QueryToken.lex? s = some tokens
      ∧ run? ({}, true) tokens = some ({ features := fs }, false) ∧ fs ≠ [] := by
  rcases run?_of_read? (read?_condition h) with ⟨tokens, hlex, hrun, hbare⟩
  refine ⟨tokens, hlex, hrun, ?_⟩
  -- A query without features would be bare.
  intro hnil
  rw [hnil] at hbare
  exact absurd hbare (by decide)

/-- A query conjoined with one more test. -/
theorem read?_and {s x inner : Text} {q : Query} {f : Feature} (h : read? s = some q)
    (hx : QueryToken.lex? x = some [.test inner]) (hf : Feature.ofInner? inner = some f) :
    read? (s ++ " and ".toList ++ x) = some { q with features := q.features ++ [f] } := by
  rcases run?_of_read? h with ⟨tokens, hlex, hrun, _⟩
  have hand : QueryToken.lex? "and".toList = some [.word "and".toList] := by
    rw [show "and".toList = 'a' :: ['n', 'd'] from rfl, QueryToken.lex?_cons_word (by decide),
      show ['n', 'd'].dropWhile QueryToken.inWord = [] from rfl, QueryToken.lex?_nil]
    rfl
  have hsecond : QueryToken.lex? ("and".toList ++ ' ' :: x)
      = some [.word "and".toList, .test inner] := by
    rw [QueryToken.lex?_append_blank ' ' (by decide) x _ _ hand, hx]
    rfl
  -- The blanks around the word keep the three parts apart.
  have hall : QueryToken.lex? (s ++ " and ".toList ++ x)
      = some (tokens ++ [.word "and".toList, .test inner]) := by
    rw [show s ++ " and ".toList ++ x = s ++ ' ' :: ("and".toList ++ ' ' :: x) by simp,
      QueryToken.lex?_append_blank ' ' (by decide) _ s tokens hlex, hsecond]
    rfl
  have hrun' : run? ({}, true) (tokens ++ [.word "and".toList, .test inner])
      = some ({ q with features := q.features ++ [f] }, false) := by
    rw [run?] at hrun ⊢
    rw [List.foldlM_append, hrun]
    simp only [Option.bind_eq_bind, Option.bind_some, List.foldlM_cons, List.foldlM_nil]
    rw [step?, if_pos (by decide), if_neg (by decide), Option.bind_some, step?, if_pos rfl, hf]
    rfl
  exact read?_of_run? hall hrun' (by simp [bare])

/-- A single test. -/
theorem read?_test {x inner : Text} {f : Feature} (hx : QueryToken.lex? x = some [.test inner])
    (hf : Feature.ofInner? inner = some f) : read? x = some { features := [f] } := by
  have hrun : run? ({}, true) [.test inner] = some ({ features := [f] }, false) := by
    rw [run?, List.foldlM_cons, step?, if_pos rfl, hf]
    rfl
  exact read?_of_run? hx hrun rfl

end Query

namespace QueryList

theorem spans_condition {s : Text} {fs : List Feature} (h : condition? s = some fs) :
    Spans 0 0 s := by
  rcases Query.run?_of_condition h with ⟨tokens, hlex, hrun, _⟩
  have hwords := (Query.run?_of_features tokens _ _ _ hrun rfl rfl).2.2
  refine spans_of_lex? s tokens hlex fun w hw => ?_
  -- A comma or parenthesis is no letter, so folding case does not hide it.
  have hkept : ∀ c : Char, c.toLower = c → c ∈ w → c ∈ lower w := by
    intro c hc hmem
    rw [lower]
    exact List.mem_map.mpr ⟨c, hmem, hc⟩
  rcases hwords w hw with hand | honly
  · rw [eqIgnoreCase, beq_iff_eq] at hand
    refine ⟨fun hc => ?_, fun hc => ?_⟩
    · exact absurd (hand ▸ hkept ',' (by decide) hc) (by decide)
    · exact absurd (hand ▸ hkept ')' (by decide) hc) (by decide)
  · rw [eqIgnoreCase, beq_iff_eq] at honly
    refine ⟨fun hc => ?_, fun hc => ?_⟩
    · exact absurd (honly ▸ hkept ',' (by decide) hc) (by decide)
    · exact absurd (honly ▸ hkept ')' (by decide) hc) (by decide)

/-- A condition is a list of one query. -/
theorem read_condition {s : Text} {fs : List Feature} (h : condition? s = some fs) :
    read s = ⟨[{ features := fs }]⟩ := by
  rw [read, split, splitFrom_of_spans (spans_condition h), List.filterMap_cons,
    Query.read?_condition h, List.filterMap_nil]

/-- A text reads as a single query. -/
def Reads (s : Text) (q : Query) : Prop :=
  Spans 0 0 s ∧ Query.read? s = some q

theorem reads_blank {s : Text} {q : Query} (h : Reads s q) : Reads (' ' :: s) q := by
  refine ⟨spans_cons (by decide) h.1, ?_⟩
  rw [Query.read?, QueryToken.lex?_cons_blank (by decide)]
  exact h.2

theorem read_of_reads {s : Text} {q : Query} (h : Reads s q) : read s = ⟨[q]⟩ := by
  rw [read, split, splitFrom_of_spans h.1, List.filterMap_cons, h.2, List.filterMap_nil]

/-- The queries of texts that read as one query each, with commas between them. -/
theorem read_joinWith {α : Type} (text : α → Text) (query : α → Query) (as : List α)
    (hne : as ≠ []) (h : ∀ x ∈ as, Reads (text x) (query x)) :
    read (joinWith ", ".toList (as.map text)) = ⟨as.map query⟩ := by
  have hsplit : ∀ (as : List α) (a : α), (∀ x ∈ a :: as, Reads (text x) (query x)) →
      ∀ first : Text, Reads first (query a) →
        (splitFrom 0 (joinWith ", ".toList (first :: as.map text))).filterMap Query.read?
          = (a :: as).map query := by
    intro as
    induction as with
    | nil =>
        intro a _ first hfirst
        rw [List.map_nil, joinWith, List.intercalate_singleton, splitFrom_of_spans hfirst.1,
          List.filterMap_cons, hfirst.2]
        rfl
    | cons b as ih =>
        intro a hall first hfirst
        -- The blank behind the comma goes to the piece behind it.
        have hjoin : joinWith ", ".toList (first :: (b :: as).map text)
            = first ++ ',' :: joinWith ", ".toList ((' ' :: text b) :: as.map text) := by
          cases as with
          | nil => simp [joinWith, List.intercalate]
          | cons c as => simp [joinWith, List.intercalate]
        have hrest := ih b (fun x hx => hall x (List.mem_cons_of_mem _ hx)) (' ' :: text b)
          (reads_blank (hall b (List.mem_cons_of_mem _ List.mem_cons_self)))
        rw [hjoin, splitFrom_append_comma hfirst.1, List.filterMap_cons, hfirst.2, hrest]
        rfl
  rcases List.exists_cons_of_ne_nil hne with ⟨a, rest, heq⟩
  rw [heq] at h ⊢
  rw [read, split, List.map_cons, hsplit rest a h (text a) (h a List.mem_cons_self)]

end QueryList

/-! ### Dense displays -/

/-- What stands between the parentheses of a feature. -/
def Feature.inner (f : Feature) : Text :=
  match f.value with
  | some value => f.name ++ ": ".toList ++ value
  | none => f.name

theorem Feature.text_eq (f : Feature) : f.text = '(' :: f.inner ++ [')'] := by
  rcases f with ⟨name, value⟩
  cases value with
  | some value => simp [Feature.text, Feature.inner]
  | none => rfl

/-- The tests that recognise a dense display, as features. -/
def denseFeatures : List Feature := [
  ⟨"min--moz-device-pixel-ratio".toList, some "1.3".toList⟩,
  ⟨"-o-min-device-pixel-ratio".toList, some "2.6/2".toList⟩,
  ⟨"-webkit-min-device-pixel-ratio".toList, some "1.3".toList⟩,
  ⟨"min-device-pixel-ratio".toList, some "1.3".toList⟩,
  ⟨"min-resolution".toList, some "1.3dppx".toList⟩]

theorem denseQueries_eq : denseQueries = denseFeatures.map Feature.text := by
  simp [denseQueries, denseFeatures, Feature.text]

theorem ofInner?_dense : ∀ f ∈ denseFeatures, Feature.ofInner? f.inner = some f := by
  decide

theorem lex?_dense {f : Feature} (hf : f ∈ denseFeatures) :
    QueryToken.lex? f.text = some [.test f.inner] := by
  have hplain : ∀ f ∈ denseFeatures, ∀ c ∈ f.inner, c ≠ '(' ∧ c ≠ ')' := by decide
  have hclose := QueryToken.closeParen?_of_plain [] f.inner (hplain f hf)
  rw [Feature.text_eq, List.cons_append, QueryToken.lex?_cons_paren hclose, QueryToken.lex?_nil]
  rfl

/-- The query of a duplicate: a test, if there is one, and a feature of dense
    displays. -/
theorem reads_dense {f : Feature} (hf : f ∈ denseFeatures) :
    QueryList.Reads f.text { features := [f] } := by
  refine ⟨QueryList.spans_of_lex? _ _ (lex?_dense hf) fun w hw => absurd hw (by simp), ?_⟩
  exact Query.read?_test (lex?_dense hf) (ofInner?_dense f hf)

theorem reads_dense_and {s : Text} {fs : List Feature} (h : condition? s = some fs)
    {f : Feature} (hf : f ∈ denseFeatures) :
    QueryList.Reads (s ++ " and ".toList ++ f.text) { features := fs ++ [f] } := by
  refine ⟨?_, Query.read?_and (Query.read?_condition h) (lex?_dense hf) (ofInner?_dense f hf)⟩
  exact QueryList.spans_append
    (QueryList.spans_append (QueryList.spans_condition h) (QueryList.spans_plain (by decide)))
    (reads_dense hf).1

/-- The queries of a duplicate for dense displays. -/
theorem read_denseMedia {s : Text} {fs : List Feature} (h : condition? s = some fs) :
    QueryList.read (denseMedia (some s))
      = ⟨denseFeatures.map fun f => { features := fs ++ [f] }⟩ := by
  rw [denseMedia, denseQueries_eq, List.map_map]
  exact QueryList.read_joinWith (fun f => s ++ " and ".toList ++ f.text)
    (fun f => { features := fs ++ [f] }) denseFeatures (List.cons_ne_nil _ _)
    (fun f hf => reads_dense_and h hf)

theorem read_denseMedia_none :
    QueryList.read (denseMedia none) = ⟨denseFeatures.map fun f => { features := [f] }⟩ := by
  rw [denseMedia, denseQueries_eq]
  exact QueryList.read_joinWith Feature.text (fun f => { features := [f] }) denseFeatures
    (List.cons_ne_nil _ _) (fun f hf => reads_dense hf)

/-- Whether a viewport is a dense display, by one of the tests that recognise them. -/
def dense (v : Viewport) : Bool :=
  denseQueries.any fun q => (QueryList.read q).holds v

theorem holds_features (fs : List Feature) (v : Viewport) :
    ({ features := fs } : Query).holds v = fs.all fun f => f.holds v := by
  simp [Query.holds, Query.onScreen]

theorem dense_eq_any (v : Viewport) : dense v = denseFeatures.any fun f => f.holds v := by
  have hread : ∀ fs : List Feature, (∀ f ∈ fs, f ∈ denseFeatures) →
      (fs.any fun f => (QueryList.read f.text).holds v) = fs.any fun f => f.holds v := by
    intro fs
    induction fs with
    | nil => intro _; rfl
    | cons f fs ih =>
        intro hfs
        have hf := QueryList.read_of_reads (reads_dense (hfs f List.mem_cons_self))
        rw [List.any_cons, List.any_cons, ih fun x hx => hfs x (List.mem_cons_of_mem _ hx), hf]
        simp [QueryList.holds, holds_features]
  rw [dense, denseQueries_eq, List.any_map]
  exact hread denseFeatures fun _ hf => hf

/-- A display is dense by its pixel ratio. -/
theorem dense_congr {v v' : Viewport} (h : v.pixelRatio = v'.pixelRatio) :
    dense v = dense v' := by
  -- Each of the tests asks for the pixel ratio under one of its two names.
  have hasked : ∀ f ∈ denseFeatures,
      Test.ofName? f.name = some (.density .atLeast)
        ∨ Test.ofName? f.name = some (.resolution .atLeast) := by
    decide
  have hholds : ∀ f ∈ denseFeatures, f.holds v = f.holds v' := by
    intro f hf
    unfold Feature.holds
    cases f.value with
    | none => rfl
    | some value =>
        rcases hasked f hf with hdensity | hresolution
        · simp only [hdensity, Option.bind_some, Test.outcome?, h]
        · simp only [hresolution, Option.bind_some, Test.outcome?, h]
  rw [dense_eq_any, dense_eq_any, Bool.eq_iff_iff, List.any_eq_true, List.any_eq_true]
  constructor
  · rintro ⟨f, hf, hf'⟩
    exact ⟨f, hf, hholds f hf ▸ hf'⟩
  · rintro ⟨f, hf, hf'⟩
    exact ⟨f, hf, (hholds f hf).symm ▸ hf'⟩

/-- A condition is more than white space. -/
theorem not_blank_of_condition {s : Text} (h : (condition? s).isSome = true) :
    blank s = false := by
  rcases Option.isSome_iff_exists.mp h with ⟨fs, hfs⟩
  rcases Query.run?_of_condition hfs with ⟨tokens, hlex, hrun, hne⟩
  have hnothing : ∀ s : Text, blank s = true → QueryToken.lex? s = some [] := by
    intro s
    induction s with
    | nil => intro _; exact QueryToken.lex?_nil
    | cons c s ih =>
        intro hblank
        rw [blank, List.all_cons, Bool.and_eq_true] at hblank
        rw [QueryToken.lex?_cons_blank hblank.1]
        exact ih hblank.2
  -- A text without tokens leaves the reader waiting for a test.
  by_cases hblank : blank s = true
  · rw [hnothing s hblank, Option.some.injEq] at hlex
    rw [← hlex, Query.run?, List.foldlM_nil, Option.pure_def, Option.some.injEq,
      Prod.mk.injEq] at hrun
    exact absurd hrun.2 (by decide)
  · rw [Bool.not_eq_true] at hblank
    exact hblank

/-- Whether the test of a rule holds. A rule without one applies everywhere. -/
def mediaHolds (media : Option Text) (v : Viewport) : Bool :=
  match media with
  | some s => (QueryList.read s).holds v
  | none => true

/-- The query of a duplicate holds on dense displays that pass the test of the
    original. -/
theorem holds_denseMedia (media : Option Text)
    (h : ∀ s, media = some s → (condition? s).isSome = true) (v : Viewport) :
    (QueryList.read (denseMedia media)).holds v = (mediaHolds media v && dense v) := by
  cases media with
  | none =>
      rw [read_denseMedia_none, mediaHolds, Bool.true_and, dense_eq_any]
      simp only [QueryList.holds, List.any_map]
      refine List.any_congr rfl fun f => ?_
      rw [Function.comp_apply, holds_features, List.all_cons, List.all_nil, Bool.and_true]
  | some s =>
      rcases Option.isSome_iff_exists.mp (h s rfl) with ⟨fs, hfs⟩
      rw [read_denseMedia hfs, mediaHolds, QueryList.read_condition hfs, dense_eq_any]
      simp only [QueryList.holds, List.any_map, List.any_cons, List.any_nil, Bool.or_false,
        holds_features]
      rw [List.and_any_distrib_left]
      refine List.any_congr rfl fun f => ?_
      rw [Function.comp_apply, holds_features, List.all_append, List.all_cons, List.all_nil,
        Bool.and_true]

end ResponsiveImages
