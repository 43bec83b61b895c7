import ResponsiveImages.Proofs.RestatedDirectives
import ResponsiveImages.Proofs.ShortestDecimals

/-!
# Tests in Ems

A test that has been restated in ems of 16 pixels holds in the viewports in which the
test in pixels holds.

The value of such a test is read by two readers. `Feature.wholePixels?` recognises
it when the test is restated, and takes nothing but a run of digits with the unit
behind it. `length?` reads it when the test is asked, and takes any number. They fold
case and take white space off at different times, so the first one is turned around: a
value it accepts has been put together from digits, white space and a unit in any
case (`parts_of_wholePixels?`), and the second one reads what has been put
together (`splitNumber?_append`).

The value in ems is a sixteenth in digits, and reading it multiplies by 16 again. A
whole number of up to 64 places may itself be rounded, but then only the exponent
changes, and it stays far from the ends of its range. So dividing and multiplying are
exact, and the digits in between are read back (`sixteenth_reads_back`).

Everything else in a test is left alone, and a test that is not restated is the same
test.

## Theorems

* `sixteenth_reads_back`: From pixels to ems in digits and back.
* `parts_of_wholePixels?`: What a number of whole pixels is put together from.
* `splitNumber?_append`: Reading a number and a unit.
* `length?_of_wholePixels?`, `length?_emText`: Both values are read as the same length.
* `holds_of_dimension`: A size test depends on the length only.
* `holds_toEm`, `holds_convertUnits`: A feature and a test restated in ems.
* `em_tests_apply_alike`: The clauses of a directive apply alike in both units.
-/

namespace ResponsiveImages

open Text

/-! ### Sixteenths -/

/-- Sixteen as a double. -/
def sixteen : Normal :=
  ⟨2 ^ 52, -48, le_rfl, by decide, by decide, by decide⟩

theorem sixteen_value : sixteen.value = 16 := by
  rw [Normal.value, sixteen]
  norm_num

theorem ofNat_sixteen : Float.ofNat 16 = sixteen.toFloat :=
  ofNat_of_nearest (by decide) (by simpa [sixteen_value] using sixteen.nearest_value)

/-- A sixteenth of a whole number is printed in digits, and it is read back and multiplied
    without a loss. -/
theorem sixteenth_reads_back {n : Nat} (hsmall : n < 2 ^ 64) :
    ∃ number, floatText (Float.ofNat n / Float.ofNat 16) = number
      ∧ (∀ c ∈ number, isNumeric c = true)
      ∧ (readFloat? number).map (· * rootFontSize) = some (Float.ofNat n) := by
  refine ⟨_, rfl, ?_⟩
  by_cases hzero : n = 0
  · rw [hzero]
    decide +kernel
  · have hpos : 0 < n := by omega
    rcases Normal.exists_nearest hpos hsmall with ⟨x, hx, hlower, hupper⟩
    have hquotient : ∃ y : Normal, y.value = x.value / sixteen.value := by
      refine ⟨⟨x.significand, x.exponent - 4, x.least, x.most, by omega, by omega⟩, ?_⟩
      rw [sixteen_value, Normal.value, Normal.value]
      simp only
      rw [zpow_sub₀ two_ne_zero]
      norm_num
      ring
    rcases hquotient with ⟨y, hy⟩
    have hroot : rootFontSize = sixteen.toFloat := ofNat_sixteen
    have hproduct : y.value * sixteen.value = x.value := by
      rw [hy, sixteen_value]
      ring
    have hdiv : x.toFloat / sixteen.toFloat = y.toFloat :=
      Normal.div_toFloat (hy ▸ y.nearest_value)
    have hmul : y.toFloat * sixteen.toFloat = x.toFloat :=
      Normal.mul_toFloat (hproduct ▸ x.nearest_value)
    rw [ofNat_of_nearest hpos hx, ofNat_sixteen, hdiv, readFloat?_floatText, Option.map_some, hroot,
      hmul]
    refine ⟨fun c hc => ?_, rfl⟩
    rw [floatText, y.ofDouble_toFloat] at hc
    have hdigits := positional_digits _ c hc
    rw [isNumeric, hdigits]
    rfl

/-! ### Reading lengths -/

/-- The characters of a number are the signs, the point and the digits. -/
theorem toNat_of_isNumeric {c : Char} (h : isNumeric c = true) :
    43 ≤ c.toNat ∧ c.toNat ≤ 57 := by
  simp only [isNumeric, Bool.or_eq_true, beq_iff_eq] at h
  rcases h with ((hdigit | rfl) | rfl) | rfl
  · have hrange := toNat_of_isDigit hdigit
    omega
  · decide
  · decide
  · decide

theorem isBlank_of_isNumeric {c : Char} (h : isNumeric c = true) : isBlank c = false := by
  have hrange := toNat_of_isNumeric h
  exact isBlank_of_visible (by omega) (by omega)

theorem plain_of_letter {c : Char} (h : 65 ≤ c.toNat) (h' : c.toNat ≤ 122) :
    isBlank c = false ∧ isNumeric c = false := by
  refine ⟨isBlank_of_visible (by omega) (by omega), ?_⟩
  by_contra hnumeric
  rw [Bool.not_eq_false] at hnumeric
  have hrange := toNat_of_isNumeric hnumeric
  omega

/-- The unit consists of letters in any case. -/
theorem plain_of_px {unit : Text} (h : lower unit = "px".toList) :
    ∀ c ∈ unit, isBlank c = false ∧ isNumeric c = false := by
  intro c hc
  have hmem : c.toLower ∈ "px".toList := by
    rw [← h]
    exact List.mem_map_of_mem hc
  have hsmall : ∀ d ∈ "px".toList, 97 ≤ d.toNat ∧ d.toNat ≤ 122 := by decide
  have hletter := hsmall _ hmem
  rcases toLower_cases c with hsame | hcapital
  · rw [hsame] at hletter
    exact plain_of_letter (by omega) (by omega)
  · exact plain_of_letter (by omega) (by omega)

/-- What folding case turns into a digit or white space is not a letter. -/
theorem toLower_eq_of_plain {c : Char} (h : c.toLower.isDigit = true ∨ isBlank c.toLower = true) :
    c.toLower = c := by
  rcases toLower_cases c with hsame | hcapital
  · exact hsame
  · exfalso
    rcases h with hdigit | hblank
    · have hrange := toNat_of_isDigit hdigit
      omega
    · rw [(plain_of_letter (by omega) (by omega)).1] at hblank
      exact absurd hblank (by decide)

theorem lower_eq_of_plain (s : Text) :
    (∀ c ∈ lower s, c.isDigit = true ∨ isBlank c = true) → lower s = s := by
  induction s with
  | nil => intro _; rfl
  | cons c s ih =>
      intro h
      rw [lower, List.map_cons, List.forall_mem_cons] at h
      rw [lower, List.map_cons, toLower_eq_of_plain h.1]
      exact congrArg (c :: ·) (ih h.2)

/-- A number of whole pixels is a run of digits and the unit, with white space in between. -/
theorem parts_of_wholePixels? {value : Text} {n : Nat} (h : Feature.wholePixels? value = some n) :
    ∃ digits blanks unit, value = digits ++ blanks ++ unit ∧ isDigits digits = true
      ∧ natOfDigits digits = n ∧ n < 2 ^ 64 ∧ (∀ c ∈ blanks, isBlank c = true)
      ∧ lower unit = "px".toList := by
  rcases Option.bind_eq_some_iff.mp h with ⟨s, hsuffix, hdigits⟩
  have hlower : lower value = s ++ "px".toList :=
    (List.isSuffixOf?_eq_some_iff_append_eq.mp hsuffix).symm
  simp only [Option.ite_none_right_eq_some, Option.some.injEq] at hdigits
  rcases hdigits with ⟨⟨hrun, hsmall⟩, hn⟩
  rcases List.map_eq_append_iff.mp hlower with ⟨front, unit, hvalue, hfront, hunit⟩
  rcases trimEnd_append_blanks s with ⟨blanks, hs, hblanks⟩
  -- Neither digits nor white space are folded, so the front is as it was.
  have hsame : front = s := by
    rw [← hfront]
    refine (lower_eq_of_plain front fun c hc => ?_).symm
    rw [lower, hfront, hs, List.mem_append] at hc
    rcases hc with hdigit | hblank
    · exact Or.inl (isDigit_of_isDigits hrun c hdigit)
    · exact Or.inr (hblanks c hblank)
  refine ⟨trimEnd s, blanks, unit, ?_, hrun, hn, hn ▸ hsmall, hblanks, hunit⟩
  rw [hvalue, hsame, ← hs]

/-- The number and the unit of a text that is put together from them. -/
theorem splitNumber?_append {number blanks unit : Text} (hne : number ≠ [])
    (hnumber : ∀ c ∈ number, isNumeric c = true) (hblanks : ∀ c ∈ blanks, isBlank c = true)
    (hne' : unit ≠ []) (hunit : ∀ c ∈ unit, isBlank c = false ∧ isNumeric c = false) :
    splitNumber? (number ++ blanks ++ unit)
      = (readFloat? number).map fun x => (x, lower unit) := by
  have htrim : trim (number ++ blanks ++ unit) = number ++ blanks ++ unit := by
    rcases List.exists_cons_of_ne_nil hne with ⟨c, cs, hc⟩
    rcases List.eq_nil_or_concat unit with hnil | ⟨front, d, hd⟩
    · exact absurd hnil hne'
    · have hsolid : isBlank c = false := isBlank_of_isNumeric (hnumber c (by simp [hc]))
      have hsolid' : isBlank d = false := (hunit d (by simp [hd])).1
      rw [trim, hc, List.cons_append, List.cons_append, trimStart_cons_of_solid hsolid,
        hd, List.concat_eq_append, ← List.append_assoc, ← List.cons_append,
        trimEnd_append_of_solid hsolid']
  have hstop : ∃ c rest, blanks ++ unit = c :: rest ∧ isNumeric c = false := by
    rcases List.exists_cons_of_ne_nil (List.append_ne_nil_of_right_ne_nil blanks hne') with
      ⟨c, rest, hc⟩
    refine ⟨c, rest, hc, ?_⟩
    have hmem : c ∈ blanks ++ unit := by simp [hc]
    rcases List.mem_append.mp hmem with hblank | hletter
    · by_contra hnumeric
      rw [Bool.not_eq_false] at hnumeric
      exact absurd (hblanks c hblank) (by simp [isBlank_of_isNumeric hnumeric])
    · exact (hunit c hletter).2
  rcases hstop with ⟨c, rest, hc, hstop⟩
  have htake : (number ++ blanks ++ unit).takeWhile isNumeric = number := by
    rw [List.append_assoc, hc, takeWhile_append_stop hstop, List.takeWhile_eq_self_iff.mpr hnumber]
  have hdrop : (number ++ blanks ++ unit).dropWhile isNumeric = blanks ++ unit := by
    rw [List.append_assoc, hc, dropWhile_append_stop hstop, List.dropWhile_eq_nil_iff.mpr hnumber,
      List.nil_append]
  have hrest : trim (blanks ++ unit) = unit := by
    rw [trim, trimStart, List.dropWhile_append_of_pos hblanks]
    exact trim_of_solid fun c hc => (hunit c hc).1
  rw [splitNumber?, htrim]
  simp only [htake, hdrop, hrest]

theorem length?_of_wholePixels? {value : Text} {n : Nat} (h : Feature.wholePixels? value = some n) :
    length? value = some (Float.ofNat n) := by
  rcases parts_of_wholePixels? h with
    ⟨digits, blanks, unit, hvalue, hdigits, hn, hsmall, hblanks, hunit⟩
  have hne : digits ≠ [] := by
    rintro rfl
    exact absurd hdigits (by decide)
  have hne' : unit ≠ [] := by
    rintro rfl
    exact absurd hunit (by decide)
  have hnumber : ∀ c ∈ digits, isNumeric c = true := by
    intro c hc
    simp [isNumeric, isDigit_of_isDigits hdigits c hc]
  rw [length?, hvalue, splitNumber?_append hne hnumber hblanks hne' (plain_of_px hunit),
    readFloat?_of_isDigits hdigits, hn, roundDecimal_whole hsmall, hunit]
  rfl

theorem length?_emText {n : Nat} (hsmall : n < 2 ^ 64) :
    length? (Feature.emText n 16) = some (Float.ofNat n) := by
  rcases sixteenth_reads_back hsmall with ⟨number, htext, hnumber, hread⟩
  have hne : number ≠ [] := by
    rintro rfl
    exact absurd hread (by simp [show readFloat? [] = none from rfl])
  have hsplit : Feature.emText n 16 = number ++ [] ++ "em".toList := by
    rw [Feature.emText, htext, List.append_nil]
  rw [length?, hsplit,
    splitNumber?_append hne hnumber (List.forall_mem_nil _) (by decide) (by decide)]
  rcases Option.map_eq_some_iff.mp hread with ⟨x, hx, hproduct⟩
  rw [hx, ← hproduct]
  rfl

/-- Leading zeros, a blank and capitals in pixels, and a fraction in ems. -/
example : Feature.emText 600 16 = "37.5em".toList
    ∧ length? "0600 PX".toList = length? "37.5em".toList := by
  decide +kernel

/-! ### Tests in ems -/

/-- A size test depends on nothing of its value but the length. -/
theorem holds_of_dimension {f : Feature} (h : f.isDimension = true) :
    ∃ side bound, ∀ value v, Feature.holds { f with value := some value } v
      = ((length? value).map (Bound.admits bound (Viewport.side v side))).getD false := by
  rw [Feature.isDimension] at h
  split at h
  · next side hname =>
      exact ⟨side, .atLeast, fun value v => by simp only [Feature.holds, hname]; rfl⟩
  · next side hname =>
      exact ⟨side, .atMost, fun value v => by simp only [Feature.holds, hname]; rfl⟩
  · exact absurd h (by decide)

/-- A feature asks the same of a viewport when it has been restated in ems. -/
theorem holds_toEm (f : Feature) (v : Viewport) : (f.toEm 16).holds v = f.holds v := by
  by_cases hdimension : f.isDimension = true
  · cases hpixels : f.value.bind Feature.wholePixels? with
    | none => rw [Feature.toEm_of_no_pixels hpixels]
    | some n =>
        rcases Option.bind_eq_some_iff.mp hpixels with ⟨value, hvalue, hn⟩
        rcases holds_of_dimension hdimension with ⟨side, bound, hholds⟩
        rcases parts_of_wholePixels? hn with ⟨_, _, _, _, _, _, hsmall, _⟩
        have hwritten : f = { f with value := some value } := by
          rw [← hvalue]
        rw [Feature.toEm_of_pixels hdimension hpixels (by decide), hholds, length?_emText hsmall]
        rw [hwritten, hholds, length?_of_wholePixels? hn]
  · rw [Feature.toEm_of_not_dimension (by simpa using hdimension)]

/-- A test in ems holds in the viewports in which it holds in pixels. -/
theorem holds_convertUnits (s : Text) (v : Viewport) :
    (QueryList.read (convertUnits (.ems 16) s)).holds v = (QueryList.read s).holds v := by
  cases hcondition : condition? s with
  | none => rw [convertUnits_of_rejected hcondition]
  | some fs =>
      rw [QueryList.read_condition (condition?_of_converted hcondition 16),
        QueryList.read_condition hcondition]
      simp only [QueryList.holds, List.any_cons, List.any_nil, holds_features, List.all_map,
        Function.comp_def, holds_toEm]

/-- In every viewport the clauses of a directive apply alike, whether their tests are
    written in pixels or in ems of 16 pixels. -/
theorem em_tests_apply_alike (directive : Text) (v : Viewport) :
    (readDirective (.ems 16) directive).map
        (fun c => c.mediaTest.map fun s => (QueryList.read s).holds v)
      = (readDirective .pixels directive).map
          (fun c => c.mediaTest.map fun s => (QueryList.read s).holds v) := by
  rw [readDirective, readDirective, List.map_map, List.map_map]
  refine List.map_congr_left fun segment _ => ?_
  simp only [Function.comp_apply, mediaTest_ofSegment (.ems 16) segment, Option.map_map,
    Function.comp_def, holds_convertUnits]

end ResponsiveImages
