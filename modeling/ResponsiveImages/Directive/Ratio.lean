import ResponsiveImages.Decimal.Shortest
import ResponsiveImages.Decimal.Reading

/-!
# Ratios

`ratio(3/4)` is shorthand for the percentage `75%`, which as a bottom padding
gives a box its aspect ratio. The shorthand is replaced wherever it occurs in
a value, in any case, as long as it holds two non-empty runs of ASCII digits
around a single slash. Anything else that begins with `ratio(` stays, and the
search goes on right behind the parenthesis.

The arithmetic is that of doubles, so a zero below the slash gives `inf%` or
`NaN%` instead of a refusal.

## Main definitions

* `percentage`: The percentage two digit runs stand for.
* `ratioArguments?`: The arguments of a well-formed shorthand and what follows it.
* `expandRatios`: A value with the shorthand replaced.
-/

namespace ResponsiveImages

open Text

/-- The percentage that one run of digits is of another. -/
def percentage (num den : Text) : Text :=
  floatText
      (roundDecimal (natOfDigits num) 0 / roundDecimal (natOfDigits den) 0 * 100.0)
    ++ ['%']

/-- The two numbers of a well-formed shorthand and the text after it, given the
    text after `ratio(`. -/
def ratioArguments? (s : Text) : Option (Text × Text × Text) :=
  (splitOnce? ')' s).bind fun (inside, rest) =>
    (splitOnce? '/' inside).bind fun (num, den) =>
      if isDigits num ∧ isDigits den then some (num, den, rest) else none

/-- The word that begins the shorthand, parenthesis included. -/
def ratioOpening : Text :=
  "ratio(".toList

/-- Whether a text begins with the shorthand, in any case. -/
def opensRatio (s : Text) : Bool :=
  eqIgnoreCase (s.take 6) ratioOpening

/-- What follows a split character is shorter than the text that was split. -/
theorem length_of_splitOnce? {c : Char} {s before after : Text}
    (h : splitOnce? c s = some (before, after)) : after.length < s.length := by
  induction s generalizing before with
  | nil => simp [splitOnce?] at h
  | cons x xs ih =>
    simp only [splitOnce?] at h
    split at h
    · simp only [Option.some.injEq, Prod.mk.injEq] at h
      simp [← h.2]
    · simp only [Option.map_eq_some_iff, Prod.mk.injEq, Prod.exists] at h
      rcases h with ⟨a, b, hab, _, rfl⟩
      have := ih hab
      simp only [List.length_cons]
      omega

/-- What follows the shorthand is shorter than its arguments. -/
theorem length_of_ratioArguments? {s num den rest : Text}
    (h : ratioArguments? s = some (num, den, rest)) : rest.length < s.length := by
  simp only [ratioArguments?, Option.bind_eq_some_iff, Prod.exists] at h
  rcases h with ⟨inside, rest', hsplit, num', den', _, h⟩
  split at h
  · simp only [Option.some.injEq, Prod.mk.injEq] at h
    rw [← h.2.2]
    exact length_of_splitOnce? hsplit
  · simp at h

/-- A value with every well-formed `ratio(a/b)` replaced by its percentage. -/
def expandRatios (s : Text) : Text :=
  match s with
  | [] => []
  | c :: cs =>
    if opensRatio (c :: cs) then
      match _h : ratioArguments? (cs.drop 5) with
      | some (num, den, rest) => percentage num den ++ expandRatios rest
      | none => (c :: cs.take 5) ++ expandRatios (cs.drop 5)
    else c :: expandRatios cs
termination_by s.length
decreasing_by
  · have := length_of_ratioArguments? _h
    simp only [List.length_drop] at this
    simp only [List.length_cons]
    omega
  · simp only [List.length_drop, List.length_cons]
    omega
  · simp

end ResponsiveImages
