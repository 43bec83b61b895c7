import Mathlib.Data.List.Infix
import ResponsiveImages.Directive.Ratio
import ResponsiveImages.Proofs.RestatedTests

/-!
# Expanded Ratios

What becomes of a text when its shorthands are replaced by percentages.

The search goes on right behind the parenthesis of a `ratio(` that holds no two
numbers, and what it took for the arguments of this one may reach far into the text: in
`ratio(ratio(1/2)` they are `ratio(1/2`. So a shorthand might be swallowed by an
unfinished one before it. It is not, because the search gives nothing up that it has
not looked at. Copying the whole of `ratio(` is the same as copying its `r` and looking
again (`expandRatios_cons`), as the letter begins the word and stands nowhere else in
it.

With this the search has only two kinds of steps: a shorthand is replaced, and a
character at which no shorthand begins is copied. A text may then be cut at any seam that
no shorthand lies across, and its parts are expanded by themselves
(`expandRatios_append`). A shorthand cannot lie across the front of another one, for the
letter again, and none lies across an end of a percentage, which neither begins in a way
that a shorthand ends nor ends in a way that one goes on.

## Main definitions

* `Shorthand`: A well-formed shorthand.
* `Shorthand.text`, `Shorthand.percentage`: How it is written, and what replaces it.
* `Shorthand.Crosses`: Whether it lies across the seam between two texts.

## Theorems

* `ratioArguments?_iff`: What is taken for the arguments of a shorthand.
* `expandRatios_shorthand`, `expandRatios_cons`: The two kinds of steps.
* `expandRatios_append`: A seam that no shorthand lies across.
* `expandRatios_of_absent`: A text without a shorthand stays as it is.
* `expandRatios_around`: A shorthand with text on both sides of it.
* `expandRatios_expandRatios`: Nothing is left for a second search.
* `ratios_expand_apart`: All of this together.
-/

namespace ResponsiveImages

open Text

/-- A well-formed shorthand. -/
structure Shorthand where
  /-- The word `ratio` in any case, and the parenthesis behind it. -/
  opening : Text
  num : Text
  den : Text
  opens : eqIgnoreCase opening ratioOpening = true
  isDigits_num : isDigits num = true
  isDigits_den : isDigits den = true

namespace Shorthand

/-- The shorthand as it is written. -/
def text (r : Shorthand) : Text :=
  r.opening ++ r.num ++ '/' :: r.den ++ [')']

/-- The percentage it stands for. -/
def percentage (r : Shorthand) : Text :=
  ResponsiveImages.percentage r.num r.den

/-- The shorthand lies across the seam between two texts. -/
def Crosses (r : Shorthand) (a t : Text) : Prop :=
  ∃ x y, x ≠ [] ∧ y ≠ [] ∧ r.text = x ++ y ∧ x <:+ a ∧ y <+: t

/-! ### The characters of a shorthand -/

theorem lower_opening (r : Shorthand) :
    r.opening.map Char.toLower = ['r', 'a', 't', 'i', 'o', '('] := by
  have h := r.opens
  rw [eqIgnoreCase, beq_iff_eq] at h
  exact h

/-- No other letter of the word is the one that begins it. -/
theorem toLower_ne_of_word {s : Text} (h : s.map Char.toLower = ['a', 't', 'i', 'o', '(']) :
    ∀ x ∈ s, x.toLower ≠ 'r' := by
  intro x hx
  have hmem : x.toLower ∈ ['a', 't', 'i', 'o', '('] := by
    rw [← h]
    exact List.mem_map_of_mem hx
  have hne : ∀ y ∈ ['a', 't', 'i', 'o', '('], y ≠ 'r' := by decide
  exact hne _ hmem

/-- The letter that begins a shorthand stands nowhere else in it. -/
theorem text_eq_cons (r : Shorthand) :
    ∃ c cs, r.text = c :: cs ∧ c.toLower = 'r' ∧ ∀ x ∈ cs, x.toLower ≠ 'r' := by
  rcases List.map_eq_cons_iff.mp r.lower_opening with ⟨c, cs, hopening, hc, hcs⟩
  refine ⟨c, cs ++ r.num ++ '/' :: r.den ++ [')'], by rw [text, hopening]; simp, hc, ?_⟩
  have hdigits : ∀ s, isDigits s = true → ∀ x ∈ s, x.toLower ≠ 'r' := by
    intro s hs x hx
    have hdigit := isDigit_of_isDigits hs x hx
    rw [toLower_of_isDigit hdigit]
    exact isDigit_ne hdigit (by decide)
  intro x hx
  simp only [List.append_assoc, List.cons_append, List.mem_append, List.mem_cons,
    List.not_mem_nil, or_false] at hx
  rcases hx with hword | hnum | rfl | hden | rfl
  · exact toLower_ne_of_word hcs x hword
  · exact hdigits _ r.isDigits_num x hnum
  · decide
  · exact hdigits _ r.isDigits_den x hden
  · decide

theorem text_ne_nil (r : Shorthand) : r.text ≠ [] := by
  rcases r.text_eq_cons with ⟨c, cs, h, _⟩
  rw [h]
  exact List.cons_ne_nil c cs

theorem percent_not_mem (r : Shorthand) : '%' ∉ r.text := by
  have hword : '%' ∉ r.opening := by
    intro hmem
    have h := List.mem_map_of_mem (f := Char.toLower) hmem
    rw [r.lower_opening] at h
    exact absurd h (by decide)
  have hnum : '%' ∉ r.num := not_mem_of_isDigits r.isDigits_num (by decide)
  have hden : '%' ∉ r.den := not_mem_of_isDigits r.isDigits_den (by decide)
  simp [text, hword, hnum, hden]

/-- Whatever a shorthand ends in holds its closing parenthesis. -/
theorem close_mem {r : Shorthand} {x y : Text} (h : r.text = x ++ y) (hy : y ≠ []) :
    ')' ∈ y := by
  have hlast : r.text.getLast? = some ')' := by
    rw [text, List.getLast?_append, List.getLast?_singleton, Option.some_or]
  rw [h, List.getLast?_append_of_ne_nil _ hy] at hlast
  exact List.mem_of_getLast? hlast

end Shorthand

/-! ### The two kinds of steps -/

/-- What is taken for the arguments of a shorthand. -/
theorem ratioArguments?_iff {s num den rest : Text} :
    ratioArguments? s = some (num, den, rest)
      ↔ isDigits num = true ∧ isDigits den = true ∧ s = num ++ '/' :: den ++ ')' :: rest := by
  constructor
  · intro h
    simp only [ratioArguments?, Option.bind_eq_some_iff, Prod.exists] at h
    rcases h with ⟨inside, rest', hclose, num', den', hslash, h⟩
    split at h
    · next hdigits =>
        simp only [Option.some.injEq, Prod.mk.injEq] at h
        rcases h with ⟨rfl, rfl, rfl⟩
        refine ⟨hdigits.1, hdigits.2, ?_⟩
        rw [(splitOnce?_some s _ _ hclose).1, (splitOnce?_some inside _ _ hslash).1]
    · simp at h
  · rintro ⟨hnum, hden, rfl⟩
    have hclose : splitOnce? ')' (num ++ '/' :: den ++ ')' :: rest)
        = some (num ++ '/' :: den, rest) := by
      refine splitOnce?_append _ _ ?_
      simp [not_mem_of_isDigits hnum, not_mem_of_isDigits hden]
    have hslash : splitOnce? '/' (num ++ '/' :: den) = some (num, den) :=
      splitOnce?_append _ _ (not_mem_of_isDigits hnum (by decide))
    simp only [ratioArguments?, hclose, hslash, Option.bind_some, if_pos (And.intro hnum hden)]

theorem expandRatios_nil : expandRatios [] = [] := by
  rw [expandRatios]

/-- A character that cannot begin a shorthand is copied. -/
theorem expandRatios_cons_of_toLower {c : Char} (hc : c.toLower ≠ 'r') (s : Text) :
    expandRatios (c :: s) = c :: expandRatios s := by
  have hopens : opensRatio (c :: s) = false := by
    rw [opensRatio, eqIgnoreCase, beq_eq_false_iff_ne]
    intro h
    exact hc (List.head_eq_of_cons_eq h)
  rw [expandRatios, if_neg (by rw [hopens]; decide)]

theorem expandRatios_append_of_toLower (t : Text) :
    ∀ s : Text, (∀ c ∈ s, c.toLower ≠ 'r') → expandRatios (s ++ t) = s ++ expandRatios t := by
  intro s
  induction s with
  | nil => intro _; rfl
  | cons c s ih =>
      intro hs
      rw [List.forall_mem_cons] at hs
      rw [List.cons_append, expandRatios_cons_of_toLower hs.1, ih hs.2, List.cons_append]

/-- A shorthand is replaced, and the search goes on behind it. -/
theorem expandRatios_shorthand (r : Shorthand) (t : Text) :
    expandRatios (r.text ++ t) = r.percentage ++ expandRatios t := by
  have hlength : r.opening.length = 6 := by
    have h := congrArg List.length r.lower_opening
    rwa [List.length_map] at h
  rcases List.exists_cons_of_ne_nil (List.ne_nil_of_length_eq_add_one hlength) with ⟨c, cs, hcs⟩
  have htext : r.text ++ t = c :: (cs ++ (r.num ++ '/' :: r.den ++ ')' :: t)) := by
    simp [Shorthand.text, hcs]
  have hcs' : cs.length = 5 := by
    rw [hcs, List.length_cons] at hlength
    omega
  have htake : (c :: (cs ++ (r.num ++ '/' :: r.den ++ ')' :: t))).take 6 = r.opening := by
    rw [hcs, ← List.cons_append, List.take_left' (by rw [List.length_cons, hcs'])]
  have hopens : opensRatio (c :: (cs ++ (r.num ++ '/' :: r.den ++ ')' :: t))) = true := by
    rw [opensRatio, htake]
    exact r.opens
  have harguments : ratioArguments? ((cs ++ (r.num ++ '/' :: r.den ++ ')' :: t)).drop 5)
      = some (r.num, r.den, t) := by
    rw [List.drop_left' hcs', ratioArguments?_iff]
    exact ⟨r.isDigits_num, r.isDigits_den, rfl⟩
  rw [htext, expandRatios, if_pos hopens]
  split
  · next num den rest h =>
      rw [harguments] at h
      simp only [Option.some.injEq, Prod.mk.injEq] at h
      rcases h with ⟨rfl, rfl, rfl⟩
      rfl
  · next h =>
      rw [harguments] at h
      exact absurd h (by simp)

/-- A character at which no shorthand begins is copied, and the search goes on behind
    it, even if it is the first one of an unfinished shorthand. -/
theorem expandRatios_cons {c : Char} {s : Text} (h : ∀ r : Shorthand, ¬ r.text <+: c :: s) :
    expandRatios (c :: s) = c :: expandRatios s := by
  by_cases hopens : opensRatio (c :: s) = true
  · have hlower : lower (c :: s.take 5) = ['r', 'a', 't', 'i', 'o', '('] := by
      rw [opensRatio, eqIgnoreCase, beq_iff_eq] at hopens
      exact hopens
    rw [expandRatios, if_pos hopens]
    split
    · next num den rest harguments =>
        -- The arguments are two numbers, so a shorthand begins here after all.
        rcases ratioArguments?_iff.mp harguments with ⟨hnum, hden, hrest⟩
        have hs : s = s.take 5 ++ (num ++ '/' :: den ++ ')' :: rest) := by
          rw [← hrest, List.take_append_drop]
        refine absurd ⟨rest, ?_⟩ (h ⟨c :: s.take 5, num, den, hopens, hnum, hden⟩)
        simpa [Shorthand.text] using hs.symm
    · -- Nothing that is copied along with the letter can begin a shorthand.
      have hrest : ∀ x ∈ s.take 5, x.toLower ≠ 'r' :=
        Shorthand.toLower_ne_of_word (List.cons.inj hlower).2
      rw [List.cons_append, ← expandRatios_append_of_toLower _ _ hrest, List.take_append_drop]
  · rw [expandRatios, if_neg hopens]

/-! ### Seams -/

theorem Shorthand.Crosses.of_suffix {r : Shorthand} {a a' t : Text} (h : r.Crosses a' t)
    (ha : a' <:+ a) : r.Crosses a t := by
  rcases h with ⟨x, y, hx, hy, htext, hsuffix, hprefix⟩
  exact ⟨x, y, hx, hy, htext, hsuffix.trans ha, hprefix⟩

/-- A text may be cut where no shorthand lies across. -/
theorem expandRatios_append {t : Text} (a : Text) (h : ∀ r : Shorthand, ¬ r.Crosses a t) :
    expandRatios (a ++ t) = expandRatios a ++ expandRatios t := by
  induction hn : a.length using Nat.strong_induction_on generalizing a with
  | _ n ih =>
      cases a with
      | nil => rw [expandRatios_nil, List.nil_append, List.nil_append]
      | cons c a =>
          -- A shorthand at the front of the whole text stands in its first part.
          have hinside : ∀ r : Shorthand, r.text <+: c :: a ++ t → r.text <+: c :: a := by
            rintro r ⟨b, hb⟩
            rcases List.append_eq_append_iff.mp hb with ⟨a', ha, -⟩ | ⟨y, hy, ht⟩
            · exact ⟨a', ha.symm⟩
            · have hnil : y = [] := by
                by_contra hne
                exact h r ⟨c :: a, y, List.cons_ne_nil c a, hne, hy, List.suffix_rfl, b, ht.symm⟩
              rw [hy, hnil, List.append_nil]
          by_cases hfirst : ∃ r : Shorthand, r.text <+: c :: a
          · rcases hfirst with ⟨r, a', ha⟩
            have hrest : ∀ r' : Shorthand, ¬ r'.Crosses a' t := fun r' hcross =>
              h r' (hcross.of_suffix ⟨r.text, ha⟩)
            have hlt : a'.length < n := by
              have hpos := List.length_pos_iff.mpr r.text_ne_nil
              rw [← hn, ← ha, List.length_append]
              omega
            rw [← ha, List.append_assoc, expandRatios_shorthand, expandRatios_shorthand,
              ih a'.length hlt a' hrest rfl, List.append_assoc]
          · rw [not_exists] at hfirst
            have hrest : ∀ r' : Shorthand, ¬ r'.Crosses a t := fun r' hcross =>
              h r' (hcross.of_suffix (List.suffix_cons c a))
            have hlt : a.length < n := by
              rw [← hn, List.length_cons]
              omega
            have hwhole : ∀ r : Shorthand, ¬ r.text <+: c :: (a ++ t) := fun r hr =>
              hfirst r (hinside r hr)
            rw [List.cons_append, expandRatios_cons hwhole, expandRatios_cons hfirst,
              ih a.length hlt a hrest rfl, List.cons_append]

/-- No shorthand lies across the front of another one. -/
theorem not_crosses_shorthand (r r' : Shorthand) (a b : Text) :
    ¬ r'.Crosses a (r.text ++ b) := by
  rintro ⟨x, y, hx, hy, htext, -, z, hz⟩
  rcases r.text_eq_cons with ⟨c, cs, hc, hlower, -⟩
  rcases r'.text_eq_cons with ⟨c', cs', hc', -, hothers⟩
  rcases List.exists_cons_of_ne_nil hx with ⟨x', xs, rfl⟩
  rcases List.exists_cons_of_ne_nil hy with ⟨y', ys, rfl⟩
  -- The letter would have to stand in the middle of the first one.
  have hsame : y' = c := by
    rw [hc, List.cons_append, List.cons_append] at hz
    exact (List.cons.inj hz).1
  have hmem : y' ∈ cs' := by
    rw [hc', List.cons_append] at htext
    rw [(List.cons.inj htext).2]
    simp
  exact hothers y' hmem (by rw [hsame, hlower])

/-- The characters of a percentage. -/
theorem percentage_eq (r : Shorthand) :
    ∃ number, r.percentage = number ++ ['%'] ∧ ∀ c ∈ number, inNumeral c = true :=
  ⟨_, rfl, floatText_plain _⟩

theorem not_crosses_percentage (r r' : Shorthand) (a b : Text) :
    ¬ r'.Crosses a (r.percentage ++ b) := by
  rintro ⟨x, y, -, hy, htext, -, z, hz⟩
  rcases percentage_eq r with ⟨number, hnumber, hplain⟩
  rw [hnumber, List.append_assoc] at hz
  have hclose : ')' ∉ number := fun hmem => absurd (hplain _ hmem) (by decide)
  have hmem := Shorthand.close_mem htext hy
  rcases List.append_eq_append_iff.mp hz with ⟨rest, hrest, -⟩ | ⟨rest, hrest, hpercent⟩
  · -- It would end within the number.
    refine hclose ?_
    rw [hrest]
    exact List.mem_append_left rest hmem
  · cases rest with
    | nil =>
        rw [List.append_nil] at hrest
        exact hclose (hrest ▸ hmem)
    | cons c rest =>
        -- Or it would hold the sign behind the number.
        have hc : '%' = c := (List.cons.inj hpercent).1
        refine r'.percent_not_mem ?_
        rw [htext, hrest, ← hc]
        simp

theorem expandRatios_percentage (r : Shorthand) (t : Text) :
    expandRatios (r.percentage ++ t) = r.percentage ++ expandRatios t := by
  rcases percentage_eq r with ⟨number, hnumber, hplain⟩
  refine expandRatios_append_of_toLower t r.percentage ?_
  intro c hc
  rw [hnumber, List.mem_append, List.mem_singleton] at hc
  rcases hc with hmem | rfl
  · have h := hplain c hmem
    rw [inNumeral, Bool.or_eq_true] at h
    rcases h with hdigit | hother
    · rw [toLower_of_isDigit hdigit]
      exact isDigit_ne hdigit (by decide)
    · have hall : ∀ c ∈ "-.NaNinf".toList, c.toLower ≠ 'r' := by decide
      exact hall c (List.contains_iff_mem.mp hother)
  · decide

/-! ### Whole texts -/

/-- A text without a shorthand stays as it is. -/
theorem expandRatios_of_absent (s : Text) (h : ∀ r : Shorthand, ¬ r.text <:+: s) :
    expandRatios s = s := by
  induction s with
  | nil => exact expandRatios_nil
  | cons c s ih =>
      have hfirst : ∀ r : Shorthand, ¬ r.text <+: c :: s := fun r hr => h r hr.isInfix
      have hrest : ∀ r : Shorthand, ¬ r.text <:+: s := fun r hr =>
        h r (hr.trans (List.suffix_cons c s).isInfix)
      rw [expandRatios_cons hfirst, ih hrest]

/-- A shorthand is replaced, whatever stands around it, and what stands on either side
    is expanded by itself. -/
theorem expandRatios_around (r : Shorthand) (a b : Text) :
    expandRatios (a ++ r.text ++ b) = expandRatios a ++ r.percentage ++ expandRatios b := by
  rw [List.append_assoc, expandRatios_append a fun r' => not_crosses_shorthand r r' a b,
    expandRatios_shorthand, List.append_assoc]

/-- What holds of texts without a shorthand, and of a text with one if it holds of what
    stands on either side, holds of every text. -/
theorem text_by_shorthands {P : Text → Prop}
    (absent : ∀ s, (∀ r : Shorthand, ¬ r.text <:+: s) → P s)
    (around : ∀ (r : Shorthand) (a b : Text), P a → P b → P (a ++ r.text ++ b)) (s : Text) :
    P s := by
  induction hn : s.length using Nat.strong_induction_on generalizing s with
  | _ n ih =>
      by_cases h : ∀ r : Shorthand, ¬ r.text <:+: s
      · exact absent s h
      · simp only [not_forall, not_not] at h
        rcases h with ⟨r, a, b, hab⟩
        have hpos := List.length_pos_iff.mpr r.text_ne_nil
        rw [← hab] at hn ⊢
        simp only [List.length_append] at hn
        exact around r a b (ih a.length (by omega) a rfl) (ih b.length (by omega) b rfl)

/-- Nothing is left for a second search. -/
theorem expandRatios_expandRatios (s : Text) :
    expandRatios (expandRatios s) = expandRatios s := by
  induction s using text_by_shorthands with
  | absent s h => rw [expandRatios_of_absent s h, expandRatios_of_absent s h]
  | around r a b ha hb =>
      rw [expandRatios_around, List.append_assoc,
        expandRatios_append _ fun r' => not_crosses_percentage r r' _ _,
        expandRatios_percentage, ha, hb]

/-- Every replacement leaves a percent sign. -/
theorem count_percent_le (s : Text) : s.count '%' ≤ (expandRatios s).count '%' := by
  induction s using text_by_shorthands with
  | absent s h => rw [expandRatios_of_absent s h]
  | around r a b ha hb =>
      have hnone : r.text.count '%' = 0 := List.count_eq_zero.mpr r.percent_not_mem
      rw [expandRatios_around]
      simp only [List.count_append, hnone]
      omega

theorem expandRatios_around_ne (r : Shorthand) (a b : Text) :
    expandRatios (a ++ r.text ++ b) ≠ a ++ r.text ++ b := by
  intro h
  have hcount := congrArg (List.count '%') h
  have hnone : r.text.count '%' = 0 := List.count_eq_zero.mpr r.percent_not_mem
  have hsome : 0 < r.percentage.count '%' := by
    rcases percentage_eq r with ⟨number, hnumber, -⟩
    rw [hnumber, List.count_pos_iff]
    simp
  have ha := count_percent_le a
  have hb := count_percent_le b
  rw [expandRatios_around] at hcount
  simp only [List.count_append, hnone] at hcount
  omega

/-- A shorthand is replaced by its percentage, whatever stands around it, and what stands
    on either side is expanded by itself. A text stays as it is exactly if it holds no
    shorthand, and nothing is left for a second search. -/
theorem ratios_expand_apart :
    (∀ (r : Shorthand) (a b : Text),
        expandRatios (a ++ r.text ++ b) = expandRatios a ++ r.percentage ++ expandRatios b)
      ∧ (∀ s, expandRatios s = s ↔ ∀ r : Shorthand, ¬ r.text <:+: s)
      ∧ ∀ s, expandRatios (expandRatios s) = expandRatios s := by
  refine ⟨expandRatios_around, fun s => ⟨?_, expandRatios_of_absent s⟩,
    expandRatios_expandRatios⟩
  rintro h r ⟨a, b, rfl⟩
  exact expandRatios_around_ne r a b h

/-- Unfinished shorthands on both sides of a good one. -/
theorem unfinished_shorthands_kept :
    expandRatios "ratio(Ratio(1/rAtIo(1/2)ratio(3/4".toList
      = "ratio(Ratio(1/50%ratio(3/4".toList := by
  let r : Shorthand :=
    { opening := "rAtIo(".toList, num := "1".toList, den := "2".toList,
      opens := by decide, isDigits_num := by decide, isDigits_den := by decide }
  have haround := ratios_expand_apart.1 r "ratio(Ratio(1/".toList "ratio(3/4".toList
  have hpercentage : r.percentage = "50%".toList := by decide +kernel
  have hfront : expandRatios "ratio(Ratio(1/".toList = "ratio(Ratio(1/".toList := by decide +kernel
  have hback : expandRatios "ratio(3/4".toList = "ratio(3/4".toList := by decide +kernel
  rw [hpercentage, hfront, hback] at haround
  exact haround

end ResponsiveImages
