import ResponsiveImages.Proofs.PrintedQueries

/-!
# The Grammar of Media Queries

Which texts are media queries, said without the reader.

A text is a sequence of tokens with white space between them
(`QueryToken.Spaced`). A word has to be kept apart from the word behind it, and nothing
else has to: a parenthesis ends a word as well as a blank does. What stands in the
parentheses of a test may hold further ones as long as they are balanced (`Balanced`).

The tokens of a query are marks, an operand and further tests, each behind an `and`
(`Query.Phrase`). The reader knows nothing of these three parts. It has one bit that says
whether an operand is due, and tells the parts by looking at what it has built so far.
The bit is enough: once there is an operand, a run that ends well can only be pairs of an
`and` and a test (`Query.run?_conjoined`), and before that the query is bare but for its
negation (`Query.run?_phrase`).

## Main definitions

* `Balanced`: A text whose parentheses are balanced.
* `QueryToken.text`, `QueryToken.Formed`, `QueryToken.Spaced`: Tokens in a text.
* `Padded`: A text with white space around it.
* `Feature.Spelled`: What a feature is written as.
* `Query.Conjoined`, `Query.Phrase`: What a query is written as.

## Theorems

* `closeAll?_iff`: What a count of parentheses comes to.
* `trim_of_padded`: Trimming takes white space away.
* `lex?_iff_spaced`: The tokens of a trimmed text.
* `ofInner?_iff_spelled`: The feature of a test.
* `Query.step?_iff_reading`, `Query.Reading.behind_operand`: What one step does.
* `Query.run?_conjoined`, `Query.run?_phrase`: Runs that end well.
* `query_read_iff_phrase`: The texts that are read as queries.
-/

namespace ResponsiveImages

open Text

/-! ### Balance -/

/-- The parentheses of a text are balanced: none is closed before it is opened, and all
    that are opened are closed. -/
def Balanced (s : Text) : Prop :=
  (∀ front, front <+: s → front.count ')' ≤ front.count '(') ∧ s.count ')' = s.count '('

/-- What holds of all fronts of a text, one character at a time. -/
theorem forall_prefix_cons {P : Text → Prop} {c : Char} {s : Text} :
    (∀ front, front <+: c :: s → P front) ↔ P [] ∧ ∀ front, front <+: s → P (c :: front) := by
  simp only [List.prefix_cons_iff, forall_eq_or_imp, forall_exists_index, and_imp]
  refine and_congr_right fun _ => ⟨fun h front hfront => h _ front rfl hfront, ?_⟩
  rintro h _ front rfl hfront
  exact h front hfront

/-- What a count of open parentheses comes to, if none is closed too early. -/
theorem closeAll?_iff (s : Text) :
    ∀ depth left : Nat, closeAll? depth s = some left
      ↔ (∀ front, front <+: s → front.count ')' ≤ depth + front.count '(')
        ∧ depth + s.count '(' = left + s.count ')' := by
  induction s with
  | nil =>
      intro depth left
      simp only [closeAll?, Option.some.injEq, List.prefix_nil, forall_eq, List.count_nil,
        Nat.add_zero, Nat.zero_le, true_and]
  | cons c s ih =>
      intro depth left
      rw [forall_prefix_cons, and_assoc, and_iff_right (by simp)]
      by_cases hclose : c = ')'
      · rw [hclose]
        cases depth with
        | zero =>
            -- The parenthesis that is closed too early is a front by itself.
            refine iff_of_false (by simp [closeAll?]) fun h => ?_
            exact absurd (h.1 [] List.nil_prefix) (by decide)
        | succ depth =>
            rw [closeAll?_close, ih]
            exact and_congr (forall₂_congr fun front _ => by simp; omega) (by simp; omega)
      by_cases hopen : c = '('
      · rw [hopen, closeAll?_open, ih]
        exact and_congr (forall₂_congr fun front _ => by simp; omega) (by simp; omega)
      · simp only [closeAll?_other hopen hclose, ih, List.count_cons_of_ne hclose,
          List.count_cons_of_ne hopen]

theorem balanced_iff (s : Text) : Balanced s ↔ closeAll? 0 s = some 0 := by
  rw [closeAll?_iff, Balanced]
  simp only [Nat.zero_add]
  exact and_congr_right fun _ => eq_comm

/-! ### White space -/

/-- A text with white space around it. -/
def Padded (inner s : Text) : Prop :=
  ∃ lead trail, blank lead = true ∧ blank trail = true ∧ s = lead ++ inner ++ trail

theorem trimStart_blank_append {lead : Text} (h : blank lead = true) (s : Text) :
    trimStart (lead ++ s) = trimStart s :=
  List.dropWhile_append_of_pos fun c hc => List.all_eq_true.mp h c hc

theorem trimEnd_append_blank {trail : Text} (h : blank trail = true) (s : Text) :
    trimEnd (s ++ trail) = trimEnd s := by
  have hreverse : blank trail.reverse = true := by
    rw [blank, List.all_reverse]
    exact h
  rw [trimEnd, List.reverse_append, ← trimStart, trimStart_blank_append hreverse, trimStart,
    trimEnd]

theorem padded_trim (s : Text) : Padded (trim s) s := by
  refine ⟨s.takeWhile isBlank, ((trimStart s).reverse.takeWhile isBlank).reverse, ?_, ?_, ?_⟩
  · exact List.all_takeWhile
  · rw [blank, List.all_reverse]
    exact List.all_takeWhile
  · rw [trim, trimEnd, List.append_assoc, ← List.reverse_append,
      List.takeWhile_append_dropWhile, List.reverse_reverse, trimStart,
      List.takeWhile_append_dropWhile]

/-- Trimming takes the white space away that stands around a text with solid ends. -/
theorem trim_of_padded {c last : Char} {cs front s : Text} (hc : isBlank c = false)
    (hlast : isBlank last = false) (heq : c :: cs = front ++ [last])
    (h : Padded (c :: cs) s) : trim s = c :: cs := by
  rcases h with ⟨lead, trail, hlead, htrail, hs⟩
  rw [hs, trim, List.append_assoc, trimStart_blank_append hlead, List.cons_append,
    trimStart_cons_of_solid hc, ← List.cons_append, trimEnd_append_blank htrail, heq,
    trimEnd_append_of_solid hlast]

theorem blank_iff (s : Text) : blank s = true ↔ trim s = [] := by
  constructor
  · intro h
    have hnil := trimStart_blank_append h []
    rw [List.append_nil] at hnil
    rw [trim, hnil]
    rfl
  · intro h
    rcases padded_trim s with ⟨lead, trail, hlead, htrail, hs⟩
    rw [h, List.append_nil] at hs
    rw [hs, blank, List.all_append, Bool.and_eq_true]
    exact ⟨hlead, htrail⟩

/-! ### Tokens -/

namespace QueryToken

/-- A token as it is written. -/
def text : QueryToken → Text
  | word w => w
  | test inner => '(' :: inner ++ [')']

/-- Words have characters, none of them white space or an opening parenthesis. What stands
    between the parentheses of a test is balanced. -/
def Formed : QueryToken → Prop
  | word w => w ≠ [] ∧ ∀ c ∈ w, isBlank c = false ∧ c ≠ '('
  | test inner => Balanced inner

/-- Whether the token is a word. -/
def isWord : QueryToken → Bool
  | word _ => true
  | test _ => false

/-- Tokens with white space between them. Two words have to be kept apart. -/
inductive Spaced : List QueryToken → Text → Prop where
  | nil : Spaced [] []
  | single {t : QueryToken} (ht : t.Formed) : Spaced [t] t.text
  | cons {t next : QueryToken} {rest : List QueryToken} {gap s : Text} (ht : t.Formed)
      (hgap : blank gap = true)
      (hapart : t.isWord = true → next.isWord = true → gap ≠ [])
      (hrest : Spaced (next :: rest) s) : Spaced (t :: next :: rest) (t.text ++ gap ++ s)

theorem inWord_iff (c : Char) : inWord c = true ↔ isBlank c = false ∧ c ≠ '(' := by
  simp [inWord]

/-- A token begins with a character that is not white space, which is one of a word
    exactly if the token is a word. -/
theorem Formed.begins {t : QueryToken} (h : t.Formed) :
    ∃ c cs, t.text = c :: cs ∧ isBlank c = false ∧ inWord c = t.isWord := by
  cases t with
  | word w =>
      rcases List.exists_cons_of_ne_nil h.1 with ⟨c, cs, heq⟩
      have hc := h.2 c (heq ▸ List.mem_cons_self)
      exact ⟨c, cs, heq, hc.1, (inWord_iff c).mpr hc⟩
  | test inner => exact ⟨'(', inner ++ [')'], rfl, by decide, rfl⟩

theorem Formed.ends {t : QueryToken} (h : t.Formed) :
    ∃ front c, t.text = front ++ [c] ∧ isBlank c = false := by
  cases t with
  | word w =>
      rcases List.eq_nil_or_concat w with hnil | ⟨front, c, heq⟩
      · exact absurd hnil h.1
      · rw [List.concat_eq_append] at heq
        exact ⟨front, c, heq, (h.2 c (by rw [heq]; simp)).1⟩
  | test inner => exact ⟨'(' :: inner, ')', rfl, by decide⟩

theorem Spaced.begins {t : QueryToken} {rest : List QueryToken} {s : Text}
    (h : Spaced (t :: rest) s) : t.Formed ∧ ∃ tail, s = t.text ++ tail := by
  cases h with
  | single ht => exact ⟨ht, [], (List.append_nil _).symm⟩
  | cons ht => exact ⟨ht, _, List.append_assoc _ _ _⟩

theorem Spaced.ends {tokens : List QueryToken} {s : Text} (h : Spaced tokens s)
    (hne : tokens ≠ []) : ∃ front c, s = front ++ [c] ∧ isBlank c = false := by
  induction h with
  | nil => exact absurd rfl hne
  | single ht => exact ht.ends
  | @cons t _ _ gap _ _ _ _ _ ih =>
      rcases ih (List.cons_ne_nil _ _) with ⟨front, c, heq, hc⟩
      exact ⟨t.text ++ gap ++ front, c, by rw [heq, ← List.append_assoc], hc⟩

/-- Tokens have no white space around them. -/
theorem Spaced.eq_trim {tokens : List QueryToken} {inner s : Text} (h : Spaced tokens inner)
    (hpadded : Padded inner s) : inner = trim s := by
  cases tokens with
  | nil =>
      cases h
      rcases hpadded with ⟨lead, trail, hlead, htrail, hs⟩
      refine ((blank_iff s).mp ?_).symm
      rw [hs, List.append_nil, blank, List.all_append, Bool.and_eq_true]
      exact ⟨hlead, htrail⟩
  | cons t rest =>
      rcases h.begins with ⟨ht, tail, hbegin⟩
      rcases ht.begins with ⟨c, cs, htext, hc, _⟩
      rcases h.ends (List.cons_ne_nil _ _) with ⟨front, last, hend, hlast⟩
      rw [htext, List.cons_append] at hbegin
      rw [hbegin] at hend hpadded ⊢
      exact (trim_of_padded hc hlast hend hpadded).symm

/-! ### Reading tokens -/

theorem lex?_blank_append {lead : Text} (h : blank lead = true) (s : Text) :
    lex? (lead ++ s) = lex? s := by
  induction lead with
  | nil => rfl
  | cons c lead ih =>
      rw [blank, List.all_cons, Bool.and_eq_true] at h
      rw [List.cons_append, lex?_cons_blank h.1, ih h.2]

/-- A token in front of a text that does not go on with its word. -/
theorem lex?_text_append {t : QueryToken} (ht : t.Formed) {s : Text}
    (hstop : t.isWord = true → ∀ c cs, s = c :: cs → inWord c = false) :
    lex? (t.text ++ s) = (lex? s).map (t :: ·) := by
  cases t with
  | word w =>
      rcases List.exists_cons_of_ne_nil ht.1 with ⟨c, cs, heq⟩
      have hw : ∀ x ∈ c :: cs, inWord x = true := fun x hx =>
        (inWord_iff x).mpr (ht.2 x (heq ▸ hx))
      rw [List.forall_mem_cons] at hw
      have htake : (cs ++ s).takeWhile inWord = cs := by
        cases s with
        | nil => rw [List.append_nil, List.takeWhile_eq_self_iff.mpr hw.2]
        | cons x s =>
            rw [takeWhile_append_stop (hstop rfl x s rfl), List.takeWhile_eq_self_iff.mpr hw.2]
      have hdrop : (cs ++ s).dropWhile inWord = s := by
        cases s with
        | nil => rw [List.append_nil, List.dropWhile_eq_nil_iff.mpr hw.2]
        | cons x s =>
            rw [dropWhile_append_stop (hstop rfl x s rfl), List.dropWhile_eq_nil_iff.mpr hw.2,
              List.nil_append]
      rw [text, heq, List.cons_append, lex?_cons_word hw.1, htake, hdrop]
  | test inner =>
      have hclose := (closeParen?_iff inner s 0).mpr ((balanced_iff inner).mp ht)
      rw [text, List.cons_append, List.cons_append, List.append_assoc, List.singleton_append,
        lex?_cons_paren hclose]

/-- Spaced tokens are read as they are. -/
theorem lex?_of_spaced {tokens : List QueryToken} {s : Text} (h : Spaced tokens s) :
    lex? s = some tokens := by
  induction h with
  | nil => exact lex?_nil
  | @single t ht =>
      have hread := lex?_text_append ht (s := []) fun _ c cs hnil => absurd hnil (by simp)
      rw [List.append_nil] at hread
      rw [hread, lex?_nil]
      rfl
  | @cons t next rest gap s ht hgap hapart hrest ih =>
      -- A word is ended by the gap, or by the parenthesis of the test behind it.
      have hstop : t.isWord = true → ∀ c cs, gap ++ s = c :: cs → inWord c = false := by
        intro hword c cs heq
        cases gap with
        | cons x gap =>
            rw [List.cons_append, List.cons.injEq] at heq
            rw [blank, List.all_cons, Bool.and_eq_true] at hgap
            rw [← heq.1, inWord, hgap.1]
            rfl
        | nil =>
            rcases hrest.begins with ⟨hnext, tail, hs⟩
            rcases hnext.begins with ⟨x, xs, htext, _, hx⟩
            rw [List.nil_append, hs, htext, List.cons_append, List.cons.injEq] at heq
            rw [← heq.1, hx]
            exact Bool.not_eq_true _ |>.mp fun hnextWord => hapart hword hnextWord rfl
      rw [List.append_assoc, lex?_text_append ht hstop, lex?_blank_append hgap, ih]
      rfl

/-- A token in front of tokens that have been read. -/
theorem spaced_cons {t : QueryToken} (ht : t.Formed) {later : List QueryToken} {inner s : Text}
    (hlater : Spaced later inner) (hpadded : Padded inner s)
    (hstop : t.isWord = true → ∀ c cs, s = c :: cs → inWord c = false) :
    ∃ inner', Spaced (t :: later) inner' ∧ Padded inner' (t.text ++ s) := by
  rcases hpadded with ⟨lead, trail, hlead, htrail, hs⟩
  cases later with
  | nil =>
      cases hlater
      refine ⟨t.text, .single ht, [], lead ++ trail, rfl, ?_, ?_⟩
      · rw [blank, List.all_append, Bool.and_eq_true]
        exact ⟨hlead, htrail⟩
      · rw [hs, List.append_nil, List.nil_append]
  | cons next rest =>
      refine ⟨t.text ++ lead ++ inner, .cons ht hlead ?_ hlater, [], trail, rfl, htrail, ?_⟩
      · -- Without a gap, the second word would have been part of the first.
        intro hword hnextWord hgap
        rcases hlater.begins with ⟨hnext, tail, hinner⟩
        rcases hnext.begins with ⟨x, xs, htext, _, hx⟩
        have hx' := hstop hword x (xs ++ tail ++ trail) (by
          rw [hs, hgap, hinner, htext]
          rfl)
        rw [hx, hnextWord] at hx'
        exact absurd hx' (by decide)
      · rw [hs]
        simp only [List.nil_append, List.append_assoc]

/-- What has been read are spaced tokens. -/
theorem spaced_of_lex? (s : Text) :
    ∀ tokens, lex? s = some tokens → ∃ inner, Spaced tokens inner ∧ Padded inner s := by
  fun_induction lex? s with
  | case1 =>
      intro tokens h
      rw [← Option.some.inj h]
      exact ⟨[], .nil, [], [], rfl, rfl, rfl⟩
  | case2 c cs hc ih =>
      intro tokens h
      rcases ih tokens h with ⟨inner, hspaced, lead, trail, hlead, htrail, hcs⟩
      refine ⟨inner, hspaced, c :: lead, trail, ?_, htrail, by rw [hcs]; rfl⟩
      rw [blank, List.all_cons, hc]
      exact hlead
  | case3 cs _ hclose => intro tokens h; exact absurd h (by simp)
  | case4 cs inside rest hclose _ ih =>
      intro tokens h
      rcases Option.map_eq_some_iff.mp h with ⟨later, hlater, heq⟩
      rcases ih later hlater with ⟨inner, hspaced, hpadded⟩
      have ht : (test inside).Formed := (balanced_iff inside).mpr (closeParen?_sound hclose)
      have hcs := (QueryList.spans_closeParen 0 cs inside rest hclose).1
      have hcons := spaced_cons ht hspaced hpadded fun hword => absurd hword Bool.false_ne_true
      rw [heq, text, List.cons_append, List.cons_append, List.append_assoc, List.singleton_append,
        ← hcs] at hcons
      exact hcons
  | case5 c cs hblank hparen ih =>
      intro tokens h
      rcases Option.map_eq_some_iff.mp h with ⟨later, hlater, heq⟩
      rcases ih later hlater with ⟨inner, hspaced, hpadded⟩
      have ht : (word (c :: cs.takeWhile inWord)).Formed := by
        refine ⟨List.cons_ne_nil _ _, List.forall_mem_cons.mpr ⟨?_, fun x hx => ?_⟩⟩
        · exact ⟨Bool.not_eq_true _ |>.mp hblank, hparen⟩
        · exact (inWord_iff x).mp (List.all_eq_true.mp List.all_takeWhile x hx)
      have hcons := spaced_cons ht hspaced hpadded fun _ x xs hx => by
        have hhead := List.head?_dropWhile_not inWord cs
        rw [hx] at hhead
        simpa using hhead
      rw [heq, text, List.cons_append, List.takeWhile_append_dropWhile] at hcons
      exact hcons

/-- The tokens of a text are those that its trimmed text is spaced from. -/
theorem lex?_iff_spaced (s : Text) (tokens : List QueryToken) :
    lex? s = some tokens ↔ Spaced tokens (trim s) := by
  constructor
  · intro h
    rcases spaced_of_lex? s tokens h with ⟨inner, hspaced, hpadded⟩
    rw [← hspaced.eq_trim hpadded]
    exact hspaced
  · intro h
    rcases padded_trim s with ⟨lead, trail, hlead, htrail, hs⟩
    have hinner := lex?_of_spaced h
    rw [hs, List.append_assoc, lex?_blank_append hlead]
    cases trail with
    | nil => rw [List.append_nil, hinner]
    | cons c trail =>
        rw [blank, List.all_cons, Bool.and_eq_true] at htrail
        have hnothing := lex?_blank_append htrail.2 []
        rw [List.append_nil, lex?_nil] at hnothing
        rw [lex?_append_blank c htrail.1 trail _ _ hinner, hnothing, Option.map_some,
          List.append_nil]

end QueryToken

/-! ### Tests -/

/-- What stands between the parentheses of a test, with the feature it is. The name ends
    at the first colon, and white space around the name and the value does not count. -/
inductive Feature.Spelled : Text → Feature → Prop where
  | named {name : Text} (hcolon : ':' ∉ name) (hname : blank name = false) :
      Spelled name ⟨trim name, none⟩
  | valued {name value : Text} (hcolon : ':' ∉ name) (hname : blank name = false)
      (hvalue : blank value = false) :
      Spelled (name ++ ':' :: value) ⟨trim name, some (trim value)⟩

theorem isEmpty_trim (s : Text) : (trim s).isEmpty = blank s := by
  rw [Bool.eq_iff_iff, List.isEmpty_iff, blank_iff]

/-- The feature of a test is the one it spells. -/
theorem ofInner?_iff_spelled (inner : Text) (f : Feature) :
    Feature.ofInner? inner = some f ↔ Feature.Spelled inner f := by
  constructor
  · intro h
    rw [Feature.ofInner?] at h
    simp only [isEmpty_trim] at h
    cases hsplit : splitOnce? ':' inner with
    | none =>
        rw [hsplit] at h
        by_cases hblank : blank inner = true
        · simp only [if_pos hblank] at h
          exact absurd h (by simp)
        · simp only [if_neg hblank, Option.some.injEq] at h
          rw [← h]
          exact .named ((splitOnce?_none inner).mp hsplit) (Bool.not_eq_true _ |>.mp hblank)
    | some cut =>
        rcases cut with ⟨name, value⟩
        rcases splitOnce?_some inner name value hsplit with ⟨hinner, hcolon⟩
        rw [hsplit] at h
        by_cases hblank : blank name = true ∨ blank value = true
        · simp only [if_pos hblank] at h
          exact absurd h (by simp)
        · simp only [if_neg hblank, Option.some.injEq] at h
          rw [not_or, Bool.not_eq_true, Bool.not_eq_true] at hblank
          rw [← h, hinner]
          exact .valued hcolon hblank.1 hblank.2
  · intro h
    cases h with
    | named hcolon hname =>
        rw [Feature.ofInner?, (splitOnce?_none inner).mpr hcolon]
        simp only [isEmpty_trim, hname, Bool.false_eq_true, if_false]
    | @valued name value hcolon hname hvalue =>
        rw [Feature.ofInner?, splitOnce?_append name value hcolon]
        simp only [isEmpty_trim, hname, hvalue, Bool.false_eq_true, or_self, if_false]

namespace Query

/-! ### Phrases -/

/-- The tests behind the operand, each with an `and` in front of it. -/
inductive Conjoined : List QueryToken → List Feature → Prop where
  | nil : Conjoined [] []
  | cons {w inner : Text} {f : Feature} {tokens : List QueryToken} {fs : List Feature}
      (hand : eqIgnoreCase w "and".toList = true) (hf : Feature.Spelled inner f)
      (h : Conjoined tokens fs) : Conjoined (.word w :: .test inner :: tokens) (f :: fs)

/-- The tokens of a query: any number of marks, then a media type or a test, then the
    tests that are conjoined with it. -/
inductive Phrase : List QueryToken → Query → Prop where
  | only {w : Text} {tokens : List QueryToken} {q : Query}
      (honly : eqIgnoreCase w "only".toList = true) (h : Phrase tokens q) :
      Phrase (.word w :: tokens) q
  | not {w : Text} {tokens : List QueryToken} {q : Query}
      (hnot : eqIgnoreCase w "not".toList = true) (h : Phrase tokens q) :
      Phrase (.word w :: tokens) { q with negated := true }
  | mediaType {w : Text} {tokens : List QueryToken} {fs : List Feature}
      (hand : eqIgnoreCase w "and".toList = false)
      (honly : eqIgnoreCase w "only".toList = false)
      (hnot : eqIgnoreCase w "not".toList = false) (h : Conjoined tokens fs) :
      Phrase (.word w :: tokens) { mediaType := some w, features := fs }
  | test {inner : Text} {f : Feature} {tokens : List QueryToken} {fs : List Feature}
      (hf : Feature.Spelled inner f) (h : Conjoined tokens fs) :
      Phrase (.test inner :: tokens) { features := f :: fs }

/-- A word that is one of the words of the grammar is none of the others. -/
theorem eqIgnoreCase_of_word {w a b : Text} (hw : eqIgnoreCase w a = true)
    (hab : eqIgnoreCase a b = false) : eqIgnoreCase w b = false := by
  rw [eqIgnoreCase, beq_iff_eq] at hw
  rw [eqIgnoreCase, hw]
  exact hab

/-- What one step does, said by `Reading`. -/
theorem step?_iff_reading {q : Query} {due : Bool} {token : QueryToken} {next : Query × Bool} :
    step? (q, due) token = some next ↔ Reading q due token next := by
  refine ⟨reading_of_step?, fun h => ?_⟩
  cases h with
  | test hf => rw [step?, if_pos rfl, hf]; rfl
  | and hand => rw [step?, if_pos hand]; rfl
  | only honly hbare =>
      rw [step?, eqIgnoreCase_of_word honly (by decide), honly, hbare]
      rfl
  | not hnot hbare =>
      rw [step?, eqIgnoreCase_of_word hnot (by decide), eqIgnoreCase_of_word hnot (by decide),
        hnot, hbare]
      rfl
  | mediaType hand honly hnot hbare =>
      rw [step?, hand, honly, hnot, hbare]
      rfl

theorem run?_cons {q : Query} {due : Bool} {token : QueryToken} {tokens : List QueryToken}
    {final : Query × Bool} :
    run? (q, due) (token :: tokens) = some final
      ↔ ∃ next, Reading q due token next ∧ run? next tokens = some final := by
  rw [run?, List.foldlM_cons, Option.bind_eq_bind, Option.bind_eq_some_iff]
  exact exists_congr fun next => and_congr_left fun _ => step?_iff_reading

/-- Once a query has its operand, all that is read is an `and` where no operand is due, and
    a test where one is. -/
theorem Reading.behind_operand {q : Query} {due : Bool} {token : QueryToken}
    {next : Query × Bool} (h : Reading q due token next) (hbare : q.bare = false) :
    (due = false ∧ next = (q, true)
        ∧ ∃ w, token = .word w ∧ eqIgnoreCase w "and".toList = true)
      ∨ (due = true ∧ ∃ inner f, token = .test inner ∧ Feature.Spelled inner f
        ∧ next = ({ q with features := q.features ++ [f] }, false)) := by
  cases h with
  | and hand => exact .inl ⟨rfl, rfl, _, rfl, hand⟩
  | test hf => exact .inr ⟨rfl, _, _, rfl, (ofInner?_iff_spelled _ _).mp hf, rfl⟩
  -- Marks and media types are read in bare queries only.
  | only _ hbare' => exact absurd (hbare.symm.trans hbare') Bool.false_ne_true
  | not _ hbare' => exact absurd (hbare.symm.trans hbare') Bool.false_ne_true
  | mediaType _ _ _ hbare' => exact absurd (hbare.symm.trans hbare') Bool.false_ne_true

/-- Once a query has its operand, a run that ends well reads tests with an `and` in front
    of each. -/
theorem run?_conjoined (tokens : List QueryToken) :
    ∀ q q' : Query, q.bare = false →
      (run? (q, false) tokens = some (q', false)
        ↔ ∃ fs, Conjoined tokens fs ∧ q' = { q with features := q.features ++ fs }) := by
  intro q q' hbare
  constructor
  · -- An `and` and its test are read together.
    induction tokens using List.twoStepInduction generalizing q with
    | nil =>
        intro h
        rw [run?, List.foldlM_nil, Option.pure_def, Option.some.injEq, Prod.mk.injEq] at h
        exact ⟨[], .nil, by rw [← h.1, List.append_nil]⟩
    | singleton token =>
        intro h
        rcases run?_cons.mp h with ⟨next, hreading, hend⟩
        rw [run?, List.foldlM_nil, Option.pure_def, Option.some.injEq] at hend
        rcases hreading.behind_operand hbare with ⟨_, hnext, _⟩ | ⟨hdue, _⟩
        · exact absurd (hend.symm.trans hnext) (by simp)
        · exact absurd hdue Bool.false_ne_true
    | cons_cons token token' tokens ih _ =>
        intro h
        rcases run?_cons.mp h with ⟨next, hreading, hrest⟩
        rcases hreading.behind_operand hbare with ⟨_, hnext, w, hw, hand⟩ | ⟨hdue, _⟩
        · rw [hnext] at hrest
          rcases run?_cons.mp hrest with ⟨next', hreading', hrest'⟩
          rcases hreading'.behind_operand hbare with ⟨hdue, _⟩ | ⟨_, inner, f, ht, hf, hnext'⟩
          · exact absurd hdue.symm Bool.false_ne_true
          · rw [hnext'] at hrest'
            rcases ih _ (by simp [bare]) hrest' with ⟨fs, hfs, heq⟩
            rw [hw, ht]
            refine ⟨f :: fs, .cons hand hf hfs, ?_⟩
            rw [heq, List.append_assoc]
            rfl
        · exact absurd hdue Bool.false_ne_true
  · rintro ⟨fs, hfs, heq⟩
    induction hfs generalizing q with
    | nil =>
        rw [heq, List.append_nil]
        rfl
    | cons hand hf _ ih =>
        have htest := (ofInner?_iff_spelled _ _).mpr hf
        refine run?_cons.mpr ⟨_, .and hand, run?_cons.mpr ⟨_, .test htest, ?_⟩⟩
        refine ih _ (by simp [bare]) ?_
        rw [heq, List.append_assoc]
        rfl

/-- Before a query has its operand, a run that ends well reads a phrase. -/
theorem run?_phrase (tokens : List QueryToken) :
    ∀ (negated : Bool) (q : Query),
      run? ({ negated }, true) tokens = some (q, false)
        ↔ ∃ q₀, Phrase tokens q₀ ∧ q = { q₀ with negated := negated || q₀.negated } := by
  induction tokens with
  | nil =>
      intro negated q
      refine iff_of_false ?_ ?_
      · rw [run?, List.foldlM_nil, Option.pure_def, Option.some.injEq, Prod.mk.injEq]
        exact fun h => absurd h.2 (by decide)
      · rintro ⟨q₀, hphrase, _⟩
        cases hphrase
  | cons token tokens ih =>
      intro negated q
      rw [run?_cons]
      constructor
      · rintro ⟨next, hreading, hrest⟩
        cases hreading with
        | only honly =>
            rcases (ih _ _).mp hrest with ⟨q₀, hphrase, heq⟩
            exact ⟨q₀, .only honly hphrase, heq⟩
        | not hnot =>
            rcases (ih _ _).mp hrest with ⟨q₀, hphrase, heq⟩
            refine ⟨_, .not hnot hphrase, ?_⟩
            rw [heq, Bool.true_or, Bool.or_true]
        | mediaType hand honly hnot =>
            rcases (run?_conjoined tokens _ _ (by simp [bare])).mp hrest with ⟨fs, hfs, heq⟩
            refine ⟨_, .mediaType hand honly hnot hfs, ?_⟩
            rw [heq, Bool.or_false]
            rfl
        | test hf =>
            rcases (run?_conjoined tokens _ _ (by simp [bare])).mp hrest with ⟨fs, hfs, heq⟩
            refine ⟨_, .test ((ofInner?_iff_spelled _ _).mp hf) hfs, ?_⟩
            rw [heq, Bool.or_false]
            rfl
      · rintro ⟨q₀, hphrase, heq⟩
        cases hphrase with
        | only honly h => exact ⟨_, .only honly rfl, (ih _ _).mpr ⟨_, h, heq⟩⟩
        | not hnot h =>
            refine ⟨_, .not hnot rfl, (ih _ _).mpr ⟨_, h, ?_⟩⟩
            rw [heq, Bool.true_or, Bool.or_true]
        | mediaType hand honly hnot h =>
            refine ⟨_, .mediaType hand honly hnot rfl, ?_⟩
            refine (run?_conjoined tokens _ _ (by simp [bare])).mpr ⟨_, h, ?_⟩
            rw [heq, Bool.or_false]
            rfl
        | test hf h =>
            refine ⟨_, .test ((ofInner?_iff_spelled _ _).mpr hf), ?_⟩
            refine (run?_conjoined tokens _ _ (by simp [bare])).mpr ⟨_, h, ?_⟩
            rw [heq, Bool.or_false]
            rfl

/-- No word behind the operand is a negation. -/
theorem Conjoined.noNegation {tokens : List QueryToken} {fs : List Feature}
    (h : Conjoined tokens fs) :
    ∀ w, QueryToken.word w ∈ tokens → eqIgnoreCase w "not".toList = false := by
  induction h with
  | nil => exact fun w hw => absurd hw List.not_mem_nil
  | cons hand _ _ ih =>
      intro w hw
      rcases List.mem_cons.mp hw with heq | hw
      · rw [QueryToken.word.inj heq]
        exact eqIgnoreCase_of_word hand (by decide)
      · rcases List.mem_cons.mp hw with heq | hw
        · exact absurd heq (by simp)
        · exact ih w hw

/-- A query is negated if a negation occurs among its tokens. -/
theorem Phrase.negated_iff {tokens : List QueryToken} {q : Query} (h : Phrase tokens q) :
    q.negated = true
      ↔ ∃ w, QueryToken.word w ∈ tokens ∧ eqIgnoreCase w "not".toList = true := by
  induction h with
  | only honly _ ih =>
      rw [ih]
      simp only [List.mem_cons, QueryToken.word.injEq, or_and_right, exists_or, exists_eq_left,
        eqIgnoreCase_of_word honly (show eqIgnoreCase "only".toList "not".toList = false by decide),
        Bool.false_eq_true, false_or]
  | not hnot _ _ => exact iff_of_true rfl ⟨_, List.mem_cons_self, hnot⟩
  | mediaType _ _ hnot h =>
      refine iff_of_false Bool.false_ne_true ?_
      rintro ⟨w, hw, hnot'⟩
      rcases List.mem_cons.mp hw with heq | hw
      · rw [QueryToken.word.inj heq, hnot] at hnot'
        exact absurd hnot' (by decide)
      · rw [h.noNegation w hw] at hnot'
        exact absurd hnot' (by decide)
  | test _ h =>
      refine iff_of_false Bool.false_ne_true ?_
      rintro ⟨w, hw, hnot'⟩
      rcases List.mem_cons.mp hw with heq | hw
      · exact absurd heq (by simp)
      · rw [h.noNegation w hw] at hnot'
        exact absurd hnot' (by decide)

theorem Phrase.bare_eq_false {tokens : List QueryToken} {q : Query} (h : Phrase tokens q) :
    q.bare = false := by
  induction h with
  | only _ _ ih => exact ih
  | not _ _ ih => exact ih
  | mediaType => rfl
  | test => rfl

end Query

/-- A text is read as a query if its trimmed text is tokens, with white space between them,
    that make a phrase, and the query is the one that the phrase stands for. It is negated
    if a negation is among the tokens. -/
theorem query_read_iff_phrase (s : Text) (q : Query) :
    Query.read? s = some q
      ↔ ∃ tokens, QueryToken.Spaced tokens (trim s) ∧ Query.Phrase tokens q
        ∧ (q.negated = true
          ↔ ∃ w, QueryToken.word w ∈ tokens ∧ eqIgnoreCase w "not".toList = true) := by
  constructor
  · intro h
    rcases Query.run?_of_read? h with ⟨tokens, hlex, hrun, _⟩
    rcases (Query.run?_phrase tokens false q).mp hrun with ⟨q₀, hphrase, heq⟩
    rw [Bool.false_or] at heq
    rw [heq]
    exact ⟨tokens, (QueryToken.lex?_iff_spaced s tokens).mp hlex, hphrase, hphrase.negated_iff⟩
  · rintro ⟨tokens, hspaced, hphrase, _⟩
    refine Query.read?_of_run? ((QueryToken.lex?_iff_spaced s tokens).mpr hspaced) ?_
      hphrase.bare_eq_false
    exact (Query.run?_phrase tokens false q).mpr ⟨q, hphrase, by rw [Bool.false_or]⟩

end ResponsiveImages
