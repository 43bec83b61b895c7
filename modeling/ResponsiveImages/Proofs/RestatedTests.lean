import ResponsiveImages.Directive.Clause
import ResponsiveImages.Proofs.QueryText

/-!
# Restated Tests

A test that `condition?` accepts is restated in ems by restating its features
and writing them out again. What is written reads back as exactly these
features (`condition?_restated`), so restating never makes a good test bad.

The danger is in the parentheses. A feature is read from what stands between
two of them, and that may hold further ones, in its name as well as in its
value. What counts is that they are balanced, and balance is a matter of the
parentheses alone (`closeAll?_parens`): it survives the loss of white space
around a name and around a value, which is all that reading takes away. A
restated value has no parentheses, and neither had the value it replaces.

## Main definitions

* `isParen`, `parens`: The parentheses of a text.
* `closeAll?`: The number of parentheses that are open after a text.
* `Rereads`: Features that are read back as they are written.
* `QueryToken.WellCut`: How a token is cut out of a text.

## Theorems

* `closeParen?_iff`: What a closing parenthesis closes.
* `closeAll?_parens`: Balance is a matter of the parentheses alone.
* `parens_trim`: Trimming takes none of them.
* `floatText_plain`: The characters of a numeral.
* `rereads_of_read`: A feature that has been read is read back.
* `rereads_toEm`: So is a restated one.
* `read?_joinWith_features`: A query conjoined with features that are read back.
* `wellCut_of_lex?`: How tokens are cut out of a text.
* `tests_of_read?`: The features of a query stood in balanced parentheses.
* `condition?_restated`: A restated test is accepted.
* `tests_of_readDirective`: So are the tests of a directive in any units.
-/

namespace ResponsiveImages

open Text

/-! ### Balance -/

/-- The parentheses. -/
def isParen (c : Char) : Bool :=
  c == '(' || c == ')'

/-- The parentheses of a text. -/
def parens (s : Text) : Text :=
  s.filter isParen

/-- The number of parentheses that are open after a text, unless it closes one that
    is not. -/
def closeAll? : Nat → Text → Option Nat
  | depth, [] => some depth
  | depth, c :: cs =>
    if c = ')' then
      match depth with
      | 0 => none
      | d + 1 => closeAll? d cs
    else closeAll? (if c = '(' then depth + 1 else depth) cs

theorem closeAll?_open (depth : Nat) (s : Text) :
    closeAll? depth ('(' :: s) = closeAll? (depth + 1) s := by
  rw [closeAll?.eq_def]
  rfl

theorem closeAll?_close (depth : Nat) (s : Text) :
    closeAll? (depth + 1) (')' :: s) = closeAll? depth s := rfl

theorem closeAll?_other {c : Char} (hopen : c ≠ '(') (hclose : c ≠ ')') (depth : Nat) (s : Text) :
    closeAll? depth (c :: s) = closeAll? depth s := by
  rw [closeAll?.eq_def]
  simp only [if_neg hclose, if_neg hopen]

/-- Balance is a matter of the parentheses alone. -/
theorem closeAll?_parens (s : Text) :
    ∀ depth, closeAll? depth (parens s) = closeAll? depth s := by
  induction s with
  | nil => intro depth; rfl
  | cons c s ih =>
      intro depth
      rw [parens, List.filter_cons]
      by_cases hclose : c = ')'
      · rw [hclose, if_pos (by decide)]
        cases depth with
        | zero => rfl
        | succ depth =>
            rw [closeAll?_close, closeAll?_close]
            exact ih depth
      by_cases hopen : c = '('
      · rw [hopen, if_pos (by decide), closeAll?_open, closeAll?_open]
        exact ih (depth + 1)
      · rw [if_neg (by simp [isParen, hopen, hclose]), closeAll?_other hopen hclose]
        exact ih depth

/-- What a closing parenthesis closes is balanced, and balanced text is closed by
    the parenthesis behind it. -/
theorem closeParen?_iff (inner t : Text) :
    ∀ depth, QueryToken.closeParen? depth (inner ++ ')' :: t) = some (inner, t)
      ↔ closeAll? depth inner = some 0 := by
  induction inner with
  | nil =>
      intro depth
      cases depth with
      | zero => simp [QueryToken.closeParen?, closeAll?]
      | succ depth => simp [QueryToken.closeParen?, closeAll?]
  | cons c inner ih =>
      intro depth
      rw [List.cons_append, QueryToken.closeParen?.eq_def, closeAll?.eq_def]
      -- Only a closing parenthesis at depth zero tells the two functions apart.
      by_cases hclose : c = ')'
      · cases depth with
        | zero => simp [hclose]
        | succ depth => simp [hclose, ← ih depth]
      · simp [hclose, ← ih]

theorem closeParen?_sound {s inner rest : Text} {depth : Nat}
    (h : QueryToken.closeParen? depth s = some (inner, rest)) : closeAll? depth inner = some 0 := by
  have hsplit := (QueryList.spans_closeParen depth s inner rest h).1
  rw [hsplit] at h
  exact (closeParen?_iff inner rest depth).mp h

/-! ### Parentheses and white space -/

theorem parens_append (s t : Text) : parens (s ++ t) = parens s ++ parens t :=
  List.filter_append ..

theorem parens_trimStart (s : Text) : parens (trimStart s) = parens s := by
  induction s with
  | nil => rfl
  | cons c s ih =>
      by_cases hblank : isBlank c = true
      · have hnone : isParen c = false := by
          rw [isParen, Bool.or_eq_false_iff, beq_eq_false_iff_ne, beq_eq_false_iff_ne]
          refine ⟨?_, ?_⟩
          · rintro rfl
            exact absurd hblank (by decide)
          · rintro rfl
            exact absurd hblank (by decide)
        have hskip : parens (c :: s) = parens s := by
          rw [parens, List.filter_cons, hnone]
          rfl
        rw [trimStart, List.dropWhile_cons, if_pos hblank, hskip]
        exact ih
      · rw [trimStart, List.dropWhile_cons, if_neg hblank]

theorem parens_trimEnd (s : Text) : parens (trimEnd s) = parens s := by
  have hreverse : ∀ s : Text, parens s.reverse = (parens s).reverse := fun s =>
    List.filter_reverse ..
  rw [trimEnd, hreverse, show s.reverse.dropWhile isBlank = trimStart s.reverse from rfl,
    parens_trimStart, hreverse, List.reverse_reverse]

theorem parens_trim (s : Text) : parens (trim s) = parens s := by
  rw [trim, parens_trimEnd, parens_trimStart]

/-! ### Features -/

/-- A feature that is read back as it is written, without a loss and from balanced
    text. -/
structure Rereads (f : Feature) : Prop where
  balanced : closeAll? 0 f.inner = some 0
  read : Feature.ofInner? f.inner = some f

theorem lex?_of_rereads {f : Feature} (h : Rereads f) :
    QueryToken.lex? f.text = some [.test f.inner] := by
  have hclose := (closeParen?_iff f.inner [] 0).mpr h.balanced
  rw [Feature.text_eq, List.cons_append, QueryToken.lex?_cons_paren hclose, QueryToken.lex?_nil]
  rfl

/-- A feature whose name and value are as reading leaves them. -/
theorem rereads_of_trimmed {name value : Text} (hcolon : ':' ∉ name) (hname : trim name = name)
    (hvalue : trim value = value) (hne : name ≠ []) (hne' : value ≠ [])
    (hbalanced : closeAll? 0 (parens name ++ parens value) = some 0) :
    Rereads ⟨name, some value⟩ := by
  have hinner : Feature.inner ⟨name, some value⟩ = name ++ ':' :: (' ' :: value) := by
    simp [Feature.inner]
  have hblank : trim (' ' :: value) = value := by
    rw [trim, trimStart, List.dropWhile_cons, if_pos (by decide)]
    exact hvalue
  refine ⟨?_, ?_⟩
  · rw [hinner, ← closeAll?_parens, parens_append]
    exact hbalanced
  · rw [hinner, Feature.ofInner?, splitOnce?_append _ _ hcolon]
    simp only [hname, hblank]
    rw [if_neg (by simp [hne, hne'])]

/-- What is known of a feature that has been read from balanced text. -/
theorem parts_of_read {inner : Text} {f : Feature} (h : Feature.ofInner? inner = some f) :
    ':' ∉ f.name ∧ trim f.name = f.name ∧ f.name ≠ []
      ∧ (∀ value, f.value = some value →
          trim value = value ∧ value ≠ [] ∧ parens inner = parens f.name ++ parens value)
      ∧ (f.value = none → parens inner = parens f.name) := by
  rw [Feature.ofInner?] at h
  cases hsplit : splitOnce? ':' inner with
  | none =>
      rw [hsplit] at h
      by_cases hempty : (trim inner).isEmpty = true
      · simp only [if_pos hempty] at h
        exact absurd h (by simp)
      · simp only [if_neg hempty, Option.some.injEq] at h
        rw [← h]
        refine ⟨fun hmem => (splitOnce?_none inner).mp hsplit (mem_of_mem_trim hmem),
          trim_trim inner, by simpa using hempty, fun value hvalue => absurd hvalue (by simp),
          fun _ => (parens_trim inner).symm⟩
  | some cut =>
      -- Nothing but white space is lost around the colon.
      rcases cut with ⟨name, value⟩
      rcases splitOnce?_some inner name value hsplit with ⟨hinner, hcolon⟩
      rw [hsplit] at h
      by_cases hempty : (trim name).isEmpty = true ∨ (trim value).isEmpty = true
      · simp only [if_pos hempty] at h
        exact absurd h (by simp)
      · simp only [if_neg hempty, Option.some.injEq] at h
        rw [not_or] at hempty
        rw [← h]
        refine ⟨fun hmem => hcolon (mem_of_mem_trim hmem), trim_trim name,
          by simpa using hempty.1, ?_, fun hnone => absurd hnone (by simp)⟩
        intro value' hvalue'
        rw [Option.some.injEq] at hvalue'
        rw [← hvalue']
        refine ⟨trim_trim value, by simpa using hempty.2, ?_⟩
        rw [parens_trim, parens_trim, hinner, parens_append]
        rfl

/-- A feature that has been read from balanced text is read back. -/
theorem rereads_of_read {inner : Text} {f : Feature} (hbalanced : closeAll? 0 inner = some 0)
    (h : Feature.ofInner? inner = some f) : Rereads f := by
  rcases parts_of_read h with ⟨hcolon, htrim, hne, hvalue, hnone⟩
  rw [← closeAll?_parens] at hbalanced
  rcases f with ⟨name, value⟩
  cases value with
  | some value =>
      rcases hvalue value rfl with ⟨htrim', hne', hparens⟩
      rw [hparens] at hbalanced
      exact rereads_of_trimmed hcolon htrim htrim' hne hne' hbalanced
  | none =>
      rw [hnone rfl, closeAll?_parens] at hbalanced
      refine ⟨hbalanced, ?_⟩
      rw [Feature.inner, Feature.ofInner?, (splitOnce?_none name).mpr hcolon]
      simp only
      rw [htrim, if_neg (by simpa using hne)]

/-! ### Restated values -/

/-- The characters of numerals. -/
def inNumeral (c : Char) : Bool :=
  c.isDigit || "-.NaNinf".toList.contains c

theorem inNumeral_of_isDigit {c : Char} (h : c.isDigit = true) : inNumeral c = true := by
  rw [inNumeral, h, Bool.true_or]

/-- The numeral of a decimal consists of digits and a point. -/
theorem positional_digits (x : Decimal) :
    ∀ c ∈ x.positional, (c.isDigit || c == '.') = true := by
  have hdigit : ∀ c : Char, c.isDigit = true → (c.isDigit || c == '.') = true := by
    intro c hc
    rw [hc, Bool.true_or]
  have hdigits : ∀ c ∈ decimal x.coefficient, (c.isDigit || c == '.') = true := fun c hc =>
    hdigit c (decimal_isDigit hc)
  have hzeros : ∀ n, ∀ c ∈ List.replicate n '0', (c.isDigit || c == '.') = true := by
    intro n c hc
    rw [List.eq_of_mem_replicate hc]
    decide
  intro c hc
  rw [Decimal.positional] at hc
  by_cases hexponent : 0 ≤ x.exponent
  · -- The digits, with zeros behind them.
    simp only [if_pos hexponent, List.mem_append] at hc
    rcases hc with hdigit | hzero
    · exact hdigits c hdigit
    · exact hzeros _ c hzero
  · -- A point among the digits, or in front of them.
    simp only [if_neg hexponent] at hc
    split at hc
    · rcases List.mem_append.mp hc with hfront | hback
      · exact hdigits c (List.mem_of_mem_take hfront)
      · rcases List.mem_cons.mp hback with hpoint | hback
        · rw [hpoint]
          decide
        · exact hdigits c (List.mem_of_mem_drop hback)
    · simp only [List.cons_append, List.mem_cons, List.mem_append] at hc
      rcases hc with hzero | hpoint | hzero | hdigit
      · rw [hzero]
        decide
      · rw [hpoint]
        decide
      · exact hzeros _ c hzero
      · exact hdigits c hdigit

theorem positional_plain (x : Decimal) : ∀ c ∈ x.positional, inNumeral c = true := by
  intro c hc
  have hplain := positional_digits x c hc
  rw [Bool.or_eq_true, beq_iff_eq] at hplain
  rcases hplain with hdigit | hpoint
  · exact inNumeral_of_isDigit hdigit
  · rw [hpoint]
    decide

/-- The characters of the numeral of a double. -/
theorem floatText_plain (x : Float) : ∀ c ∈ floatText x, inNumeral c = true := by
  have hsigned : ∀ (negative : Bool) (s : Text), (∀ c ∈ s, inNumeral c = true) →
      ∀ c ∈ Bits.signed negative s, inNumeral c = true := by
    intro negative s hs c hc
    cases negative with
    | false => exact hs c hc
    | true =>
        rcases List.mem_cons.mp hc with hsign | hrest
        · rw [hsign]
          decide
        · exact hs c hrest
  rw [floatText]
  cases Bits.ofDouble x with
  | nan => decide
  | infinite negative => exact hsigned negative _ (by decide)
  | zero negative => exact hsigned negative _ (by decide)
  | finite negative b => exact hsigned negative _ (positional_plain b.shortest)

/-- A number of pixels is written without parentheses. -/
theorem parens_of_wholePixels? {value : Text} {pixels : Nat}
    (h : Feature.wholePixels? value = some pixels) : parens value = [] := by
  rcases Option.bind_eq_some_iff.mp h with ⟨s, hsuffix, hdigits⟩
  have hlower : s ++ "px".toList = lower value :=
    List.isSuffixOf?_eq_some_iff_append_eq.mp hsuffix
  have hrun : isDigits (trimEnd s) = true := by
    by_contra hnot
    simp only [hnot, false_and, if_false] at hdigits
    exact absurd hdigits (by simp)
  have hnone : parens s = [] := by
    rw [← parens_trimEnd, parens, List.filter_eq_nil_iff]
    intro c hc
    have hdigit := List.all_eq_true.mp (Bool.and_eq_true_iff.mp hrun).2 c hc
    simp [isParen, isDigit_ne hdigit]
  rw [parens, List.filter_eq_nil_iff]
  intro c hc hparen
  -- Folding case leaves parentheses alone.
  have hsame : c.toLower = c := by
    rw [isParen, Bool.or_eq_true, beq_iff_eq, beq_iff_eq] at hparen
    rcases hparen with hopen | hclose
    · rw [hopen]
      decide
    · rw [hclose]
      decide
  have hmem : c ∈ s ++ "px".toList := by
    rw [hlower, lower]
    exact List.mem_map.mpr ⟨c, hc, hsame⟩
  rcases List.mem_append.mp hmem with hfront | hunit
  · exact (List.filter_eq_nil_iff.mp hnone) c hfront hparen
  · have hplain : ∀ c ∈ "px".toList, isParen c = false := by decide
    rw [hplain c hunit] at hparen
    exact absurd hparen (by decide)

theorem emText_plain (pixels base : Nat) :
    trim (Feature.emText pixels base) = Feature.emText pixels base
      ∧ Feature.emText pixels base ≠ [] ∧ parens (Feature.emText pixels base) = [] := by
  have hnumeral : ∀ c, inNumeral c = true → isBlank c = false ∧ isParen c = false := by
    intro c hc
    rw [inNumeral, Bool.or_eq_true] at hc
    rcases hc with hdigit | hother
    · refine ⟨isBlank_of_isDigit hdigit, ?_⟩
      simp [isParen, isDigit_ne hdigit]
    · have hall : ∀ c ∈ "-.NaNinf".toList, isBlank c = false ∧ isParen c = false := by decide
      exact hall c (List.contains_iff_mem.mp hother)
  have hchars : ∀ c ∈ Feature.emText pixels base, isBlank c = false ∧ isParen c = false := by
    intro c hc
    rcases List.mem_append.mp hc with hnumber | hunit
    · exact hnumeral c (floatText_plain _ c hnumber)
    · have hall : ∀ c ∈ "em".toList, isBlank c = false ∧ isParen c = false := by decide
      exact hall c hunit
  refine ⟨trim_of_solid fun c hc => (hchars c hc).1, ?_, ?_⟩
  · exact List.append_ne_nil_of_right_ne_nil _ (by decide)
  · rw [parens, List.filter_eq_nil_iff]
    intro c hc
    rw [(hchars c hc).2]
    decide

/-- A feature that has been read from balanced text is read back when it has been
    restated in ems. -/
theorem rereads_toEm {inner : Text} {f : Feature} (hbalanced : closeAll? 0 inner = some 0)
    (h : Feature.ofInner? inner = some f) (base : Nat) : Rereads (f.toEm base) := by
  have hread := rereads_of_read hbalanced h
  rcases parts_of_read h with ⟨hcolon, htrim, hne, hvalue, _⟩
  rw [Feature.toEm]
  by_cases hdimension : f.isDimension = true ∧ 0 < base
  · rw [if_pos hdimension]
    cases hpixels : f.value.bind Feature.wholePixels? with
    | none => exact hread
    | some pixels =>
        rcases Option.bind_eq_some_iff.mp hpixels with ⟨value, hsome, hwhole⟩
        rcases hvalue value hsome with ⟨_, _, hparens⟩
        rcases emText_plain pixels base with ⟨htrim', hne', hnone⟩
        -- The old value had no parentheses, and the new one has none either.
        refine rereads_of_trimmed hcolon htrim htrim' hne hne' ?_
        rw [hnone, ← parens_of_wholePixels? hwhole, ← hparens, closeAll?_parens]
        exact hbalanced
  · rw [if_neg hdimension]
    exact hread

/-! ### Conditions -/

theorem condition?_of_read? {s : Text} {fs : List Feature}
    (h : Query.read? s = some { features := fs }) : condition? s = some fs := by
  rw [condition?, h]
  rfl

/-- A query conjoined with features that are read back. -/
theorem read?_joinWith_features {s : Text} {q : Query} (h : Query.read? s = some q)
    (fs : List Feature) (hfs : ∀ f ∈ fs, Rereads f) :
    Query.read? (joinWith " and ".toList (s :: fs.map Feature.text))
      = some { q with features := q.features ++ fs } := by
  -- A query grows at its end, so the induction takes features off there.
  induction fs using List.reverseRecOn with
  | nil =>
      rw [List.map_nil, List.append_nil, joinWith, List.intercalate_singleton]
      exact h
  | append_singleton fs f ih =>
      have hf := hfs f (List.mem_append_right _ (List.mem_singleton_self f))
      have hfront := ih fun x hx => hfs x (List.mem_append_left _ hx)
      rw [List.map_append, List.map_singleton, ← List.cons_append,
        joinWith_concat _ _ (List.cons_ne_nil _ _),
        Query.read?_and hfront (lex?_of_rereads hf) hf.read, List.append_assoc]

/-- Features that are read back make a condition of just them. -/
theorem condition?_joinWith (fs : List Feature) (hne : fs ≠ []) (h : ∀ f ∈ fs, Rereads f) :
    condition? (joinWith " and ".toList (fs.map Feature.text)) = some fs := by
  rcases List.exists_cons_of_ne_nil hne with ⟨f, rest, heq⟩
  rw [heq, List.forall_mem_cons] at h
  rw [heq]
  have htest := Query.read?_test (lex?_of_rereads h.1) h.1.read
  exact condition?_of_read? (read?_joinWith_features htest rest h.2)

/-- How a token is cut out of a text. A word is not empty and ends in front of white space
    and parentheses, and what stands between the parentheses of a test is balanced. -/
def QueryToken.WellCut : QueryToken → Prop
  | word w => w ≠ [] ∧ ∀ c ∈ w, inWord c = true
  | test inner => closeAll? 0 inner = some 0

theorem wellCut_of_lex? (s : Text) :
    ∀ tokens, QueryToken.lex? s = some tokens → ∀ token ∈ tokens, token.WellCut := by
  fun_induction QueryToken.lex? s with
  | case1 =>
      intro tokens h
      rw [← Option.some.inj h]
      exact List.forall_mem_nil _
  | case2 c cs _ ih => exact ih
  | case3 cs _ hclose => intro tokens h; exact absurd h (by simp)
  | case4 cs inner rest hclose _ ih =>
      intro tokens h
      rcases Option.map_eq_some_iff.mp h with ⟨later, hlater, heq⟩
      rw [← heq, List.forall_mem_cons]
      exact ⟨closeParen?_sound hclose, ih later hlater⟩
  | case5 c cs hblank hparen ih =>
      intro tokens h
      rcases Option.map_eq_some_iff.mp h with ⟨later, hlater, heq⟩
      rw [← heq, List.forall_mem_cons]
      refine ⟨⟨List.cons_ne_nil _ _, List.forall_mem_cons.mpr ⟨?_, fun x hx => ?_⟩⟩,
        ih later hlater⟩
      · simp [QueryToken.inWord, hblank, hparen]
      · exact List.all_eq_true.mp List.all_takeWhile x hx

/-- Every feature of a query has been read from balanced text. -/
theorem tests_of_read? {s : Text} {q : Query} (h : Query.read? s = some q) :
    ∀ f ∈ q.features, ∃ inner, closeAll? 0 inner = some 0 ∧ Feature.ofInner? inner = some f := by
  rcases Query.run?_of_read? h with ⟨tokens, hlex, hrun, _⟩
  have htests : ∀ f ∈ q.features, ∃ inner, QueryToken.test inner ∈ tokens
      ∧ Feature.ofInner? inner = some f := by
    refine Query.run?_keeps (P := fun state => ∀ f ∈ state.1.features,
      ∃ inner, QueryToken.test inner ∈ tokens ∧ Feature.ofInner? inner = some f) tokens _ _ ?_
      (fun f hf => absurd hf List.not_mem_nil) hrun
    intro q due token htoken next hold hstep f hf
    cases hstep with
    | @test inner g hread =>
        rcases List.mem_append.mp hf with hbefore | hnew
        · exact hold f hbefore
        · rw [List.mem_singleton.mp hnew]
          exact ⟨inner, htoken, hread⟩
    -- A word changes the marks of the query only.
    | and => exact hold f hf
    | only => exact hold f hf
    | not => exact hold f hf
    | mediaType => exact hold f hf
  intro f hf
  rcases htests f hf with ⟨inner, hmem, hread⟩
  exact ⟨inner, wellCut_of_lex? s tokens hlex _ hmem, hread⟩

/-- A condition restated in ems is a condition, of the restated features. -/
theorem condition?_restated {s : Text} {fs : List Feature} (h : condition? s = some fs)
    (base : Nat) :
    condition? (joinWith " and ".toList (fs.map fun f => (f.toEm base).text))
      = some (fs.map fun f => f.toEm base) := by
  rcases Query.run?_of_condition h with ⟨_, _, _, hne⟩
  have hrereads : ∀ f ∈ fs.map fun f => f.toEm base, Rereads f := by
    intro f hf
    rcases List.mem_map.mp hf with ⟨g, hg, heq⟩
    rcases tests_of_read? (Query.read?_condition h) g hg with ⟨inner, hbalanced, hread⟩
    rw [← heq]
    exact rereads_toEm hbalanced hread base
  have hjoin := condition?_joinWith (fs.map fun f => f.toEm base)
    (by simpa using hne) hrereads
  rw [List.map_map] at hjoin
  exact hjoin

/-- A test that is accepted is accepted in any units. -/
theorem condition?_convertUnits {s : Text} (h : (condition? s).isSome = true) (units : Units) :
    (condition? (convertUnits units s)).isSome = true := by
  cases units with
  | pixels => exact h
  | ems base =>
      rcases Option.isSome_iff_exists.mp h with ⟨fs, hfs⟩
      have hrestated := condition?_restated hfs base
      rw [convertUnits]
      simp only [hfs, hrestated]
      rfl

/-- The test of a clause in some units is its test as it is written, restated. -/
theorem mediaTest_ofSegment (units : Units) (segment : Text) :
    (Clause.ofSegment units segment).mediaTest
      = (Clause.ofSegment .pixels segment).mediaTest.map (convertUnits units) := by
  rw [Clause.ofSegment, Clause.ofSegment]
  by_cases hopens : opensCondition (trimStart segment) = true
  · simp only [if_pos hopens, Clause.ofCondition]
    cases splitBlock (trimStart segment) with
    | none => rfl
    | some b => rfl
  · simp only [if_neg hopens]
    rfl

/-- If the tests of a directive are accepted as they are written, they are accepted
    in any units. -/
theorem tests_of_readDirective {directive : Text}
    (h : ∀ c ∈ readDirective .pixels directive, ∀ s, c.mediaTest = some s →
      (condition? s).isSome = true) (units : Units) :
    ∀ c ∈ readDirective units directive, ∀ s, c.mediaTest = some s →
      (condition? s).isSome = true := by
  intro c hc s hs
  rcases List.mem_map.mp hc with ⟨segment, hsegment, heq⟩
  rw [← heq, mediaTest_ofSegment] at hs
  rcases Option.map_eq_some_iff.mp hs with ⟨written, hwritten, hconvert⟩
  rw [← hconvert]
  exact condition?_convertUnits
    (h _ (List.mem_map_of_mem hsegment) written hwritten) units

end ResponsiveImages
