import Mathlib.Data.List.Forall2
import ResponsiveImages.Proofs.RestatedTests

/-!
# Restated Directives

What becomes of a directive if its tests are restated in ems. The directive is cut
into clauses before any unit matters, so nothing but the tests can change, and a
test is only touched if it is accepted.

Restating a test is done once and for all. What it writes ends in `em`, which is
not the unit it looks for (`wholePixels?_emText`), and what it leaves alone it
would leave alone in any other base (`toEm_toEm`). The exception is the base zero,
which nothing can be divided by: it leaves pixels where they are, for a later base
to restate (`converted_by_zero_converts_again`).

## Main definitions

* `RestatedAs`: What the clause of a directive is in ems.

## Theorems

* `toEm_toEm`: A restated feature stays as it is.
* `convertUnits_again`, `convertUnits_after_zero`: A restated test in another base.
* `clauses_restated`: The clauses of a directive in ems.
* `converted_by_zero_converts_again`: A test that the base zero leaves in pixels.
-/

namespace ResponsiveImages

open Text

namespace Feature

/-- A length in ems is no number of pixels. -/
theorem wholePixels?_emText (pixels base : Nat) : wholePixels? (emText pixels base) = none := by
  have hsuffix : beforeSuffix? "px".toList (lower (emText pixels base)) = none := by
    rw [beforeSuffix?, Option.eq_none_iff_forall_ne_some]
    intro s hs
    have happend := List.isSuffixOf?_eq_some_iff_append_eq.mp hs
    rw [emText, lower, List.map_append] at happend
    -- Two letters at the end, and they are not the same.
    exact absurd (List.append_inj_right' happend (by decide)) (by decide)
  rw [wholePixels?, hsuffix, Option.bind_none]

/-- A feature that is not given in whole pixels stays as it is. -/
theorem toEm_of_no_pixels {f : Feature} (h : f.value.bind wholePixels? = none) (base : Nat) :
    f.toEm base = f := by
  rw [toEm, h]
  exact ite_self f

theorem toEm_of_not_dimension {f : Feature} (h : f.isDimension = false) (base : Nat) :
    f.toEm base = f := by
  rw [toEm, if_neg (by simp [h])]

theorem toEm_of_pixels {f : Feature} {pixels base : Nat} (hdimension : f.isDimension = true)
    (hpixels : f.value.bind wholePixels? = some pixels) (hbase : 0 < base) :
    f.toEm base = { f with value := some (emText pixels base) } := by
  rw [toEm, if_pos ⟨hdimension, hbase⟩, hpixels]

/-- The base zero restates nothing. -/
theorem toEm_zero (f : Feature) : f.toEm 0 = f := by
  rw [toEm, if_neg (by simp)]

/-- A restated feature stays as it is, whatever base comes next. -/
theorem toEm_toEm {base : Nat} (hbase : 0 < base) (again : Nat) (f : Feature) :
    (f.toEm base).toEm again = f.toEm base := by
  by_cases hdimension : f.isDimension = true
  · cases hpixels : f.value.bind wholePixels? with
    | none => rw [toEm_of_no_pixels hpixels, toEm_of_no_pixels hpixels]
    | some pixels =>
        rw [toEm_of_pixels hdimension hpixels hbase]
        refine toEm_of_no_pixels ?_ again
        exact wholePixels?_emText pixels base
  · rw [Bool.not_eq_true] at hdimension
    rw [toEm_of_not_dimension hdimension, toEm_of_not_dimension hdimension]

end Feature

/-! ### Tests -/

theorem convertUnits_of_condition {s : Text} {fs : List Feature} (h : condition? s = some fs)
    (base : Nat) :
    convertUnits (.ems base) s
      = joinWith " and ".toList (fs.map fun f => (f.toEm base).text) := by
  simp only [convertUnits, h]

theorem convertUnits_of_rejected {s : Text} (h : condition? s = none) (base : Nat) :
    convertUnits (.ems base) s = s := by
  simp only [convertUnits, h]

/-- The features of a test that is accepted, after it has been restated. -/
theorem condition?_of_converted {s : Text} {fs : List Feature} (h : condition? s = some fs)
    (base : Nat) :
    condition? (convertUnits (.ems base) s) = some (fs.map (Feature.toEm base)) := by
  rw [convertUnits_of_condition h]
  exact condition?_restated h base

/-- A test that has been restated stays as it is, whatever base comes next. -/
theorem convertUnits_again {base : Nat} (hbase : 0 < base) (again : Nat) (s : Text) :
    convertUnits (.ems again) (convertUnits (.ems base) s) = convertUnits (.ems base) s := by
  cases hcondition : condition? s with
  | none =>
      rw [convertUnits_of_rejected hcondition, convertUnits_of_rejected hcondition]
  | some fs =>
      rw [convertUnits_of_condition (condition?_of_converted hcondition base),
        convertUnits_of_condition hcondition, List.map_map]
      congr 1
      exact List.map_congr_left fun f _ => by
        rw [Function.comp_apply, Feature.toEm_toEm hbase]

/-- The base zero makes no difference to what another base makes of a test. -/
theorem convertUnits_after_zero (again : Nat) (s : Text) :
    convertUnits (.ems again) (convertUnits (.ems 0) s) = convertUnits (.ems again) s := by
  cases hcondition : condition? s with
  | none => rw [convertUnits_of_rejected hcondition]
  | some fs =>
      rw [convertUnits_of_condition (condition?_of_converted hcondition 0),
        convertUnits_of_condition hcondition, List.map_map]
      congr 1
      exact List.map_congr_left fun f _ => by rw [Function.comp_apply, Feature.toEm_zero]

/-! ### Clauses -/

/-- Units do not matter to the declarations of a clause. -/
theorem declarations_ofSegment (units : Units) (segment : Text) :
    (Clause.ofSegment units segment).declarations
      = (Clause.ofSegment .pixels segment).declarations := by
  rw [Clause.ofSegment, Clause.ofSegment]
  by_cases hopens : opensCondition (trimStart segment) = true
  · simp only [if_pos hopens, Clause.ofCondition]
    cases splitBlock (trimStart segment) with
    | none => rfl
    | some b => rfl
  · simp only [if_neg hopens]

/-- A clause as it is written, and the same clause with its test in ems. -/
structure RestatedAs (base : Nat) (written restated : Clause) : Prop where
  declarations : restated.declarations = written.declarations
  conditional : restated.conditional = written.conditional
  /-- A test that is accepted is accepted again, with its features restated. -/
  accepted : ∀ s fs, written.mediaTest = some s → condition? s = some fs →
    ∃ s', restated.mediaTest = some s' ∧ condition? s' = some (fs.map (Feature.toEm base))
  rejected : ∀ s, written.mediaTest = some s → condition? s = none →
    restated.mediaTest = some s
  /-- A test in ems is restated by no further base. -/
  settled : 0 < base → ∀ s', restated.mediaTest = some s' →
    ∀ again, convertUnits (.ems again) s' = s'
  /-- The base zero leaves everything to the next one. -/
  open_to_next : base = 0 → ∀ s s', written.mediaTest = some s → restated.mediaTest = some s' →
    ∀ again, convertUnits (.ems again) s' = convertUnits (.ems again) s

theorem restatedAs_ofSegment (base : Nat) (segment : Text) :
    RestatedAs base (Clause.ofSegment .pixels segment) (Clause.ofSegment (.ems base) segment) := by
  have htest := mediaTest_ofSegment (.ems base) segment
  refine ⟨declarations_ofSegment _ segment, ?_, ?_, ?_, ?_, ?_⟩
  · rw [Clause.conditional, Clause.conditional, htest, Option.isSome_map]
  · intro s fs hs hcondition
    refine ⟨convertUnits (.ems base) s, ?_, condition?_of_converted hcondition base⟩
    rw [htest, hs, Option.map_some]
  · intro s hs hcondition
    rw [htest, hs, Option.map_some, convertUnits_of_rejected hcondition]
  · intro hbase s' hs' again
    rw [htest] at hs'
    rcases Option.map_eq_some_iff.mp hs' with ⟨s, _, heq⟩
    rw [← heq, convertUnits_again hbase]
  · intro hzero s s' hs hs' again
    rw [htest, hs, Option.map_some, Option.some.injEq, hzero] at hs'
    rw [← hs', convertUnits_after_zero]

/-- The clauses of a directive in ems are those it is written with, one for one, with
    their tests restated. -/
theorem clauses_restated (directive : Text) (base : Nat) :
    List.Forall₂ (RestatedAs base) (readDirective .pixels directive)
      (readDirective (.ems base) directive) := by
  rw [readDirective, readDirective, List.forall₂_map_left_iff, List.forall₂_map_right_iff,
    List.forall₂_same]
  exact fun segment _ => restatedAs_ofSegment base segment

/-- A directive with a test that is accepted although it is written without spaces, and
    a plain clause. -/
def sampleDirective : Text :=
  "(MIN-WIDTH:320px)and(color) \x7b src: url(m.png) \x7d, \x7b src: url(s.png) \x7d".toList

/-- Its clauses in ems. -/
theorem clauses_of_sample_restated :
    ∃ test, readDirective (.ems 16) sampleDirective
        = [⟨some test, "src: url(m.png)".toList⟩, ⟨none, "src: url(s.png)".toList⟩]
      ∧ condition? test = some [
          ⟨"MIN-WIDTH".toList, some (Feature.emText 320 16)⟩, ⟨"color".toList, none⟩]
      ∧ ∀ again, convertUnits (.ems again) test = test := by
  have hwritten : readDirective .pixels sampleDirective
      = [⟨some "(MIN-WIDTH:320px)and(color)".toList, "src: url(m.png)".toList⟩,
        ⟨none, "src: url(s.png)".toList⟩] := by
    decide +kernel
  have hcondition : condition? "(MIN-WIDTH:320px)and(color)".toList
      = some [⟨"MIN-WIDTH".toList, some "320px".toList⟩, ⟨"color".toList, none⟩] := by
    decide +kernel
  have hfeature : Feature.toEm 16 ⟨"MIN-WIDTH".toList, some "320px".toList⟩
      = ⟨"MIN-WIDTH".toList, some (Feature.emText 320 16)⟩ :=
    Feature.toEm_of_pixels (by decide +kernel) (by decide +kernel) (by decide)
  have hclauses := clauses_restated sampleDirective 16
  rw [hwritten, List.forall₂_cons_left_iff] at hclauses
  rcases hclauses with ⟨first, rest, hfirst, hrest, hread⟩
  rw [List.forall₂_cons_left_iff] at hrest
  rcases hrest with ⟨second, others, hsecond, hothers, hrest⟩
  rw [List.forall₂_nil_left_iff.mp hothers] at hrest
  rcases hfirst.accepted _ _ rfl hcondition with ⟨test, htest, hfeatures⟩
  refine ⟨test, ?_, ?_, hfirst.settled (by decide) test htest⟩
  · have hplain : second.mediaTest = none := by
      simpa [Clause.conditional] using hsecond.conditional
    have hdeclarations : first.declarations = "src: url(m.png)".toList
        ∧ second.declarations = "src: url(s.png)".toList :=
      ⟨hfirst.declarations, hsecond.declarations⟩
    rw [hread, hrest, ← htest, ← hplain, ← hdeclarations.1, ← hdeclarations.2]
  · rw [hfeatures, List.map_cons, List.map_cons, List.map_nil, hfeature,
      Feature.toEm_of_not_dimension (by decide +kernel)]

/-- A test that the base zero leaves in pixels, and that the next base restates. -/
theorem converted_by_zero_converts_again :
    ∃ c ∈ readDirective (.ems 0) "(min-width: 320px) \x7b src: url(a.png) \x7d".toList,
      ∃ test, c.mediaTest = some test ∧ convertUnits (.ems 16) test ≠ test := by
  have hcondition : condition? "(min-width: 320px)".toList
      = some [⟨"min-width".toList, some "320px".toList⟩] := by
    decide +kernel
  refine ⟨⟨some "(min-width: 320px)".toList, "src: url(a.png)".toList⟩, by decide +kernel,
    "(min-width: 320px)".toList, rfl, ?_⟩
  intro hsame
  have hpixels : Feature.wholePixels? "320px".toList = some 320 := by decide +kernel
  have hread := condition?_of_converted hcondition 16
  rw [hsame, hcondition, List.map_cons, List.map_nil, Feature.toEm_of_pixels
    (f := ⟨"min-width".toList, some "320px".toList⟩) (by decide +kernel) hpixels
    (by decide)] at hread
  -- The value would be a number of pixels and a length in ems.
  have hvalue : "320px".toList = Feature.emText 320 16 := by simpa using hread
  rw [hvalue, Feature.wholePixels?_emText] at hpixels
  exact absurd hpixels (by simp)

end ResponsiveImages
