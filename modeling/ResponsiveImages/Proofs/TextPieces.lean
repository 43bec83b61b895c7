import Mathlib.Data.List.DropRight
import ResponsiveImages.Text.Basic

/-!
# Pieces of Text

How the operations that cut a text up act on texts that were put together from
known pieces. A cut falls where a character of the right kind stands, so each
statement says of what kind the characters of a piece are and what stands
behind it.

## Theorems

* `takeWhile_append_stop`, `dropWhile_append_stop`: A run ends at the first
  character that is not of its kind.
* `words_append_blank`: The words of two texts with a blank between them.
* `words_of_solid`: A text without blanks is a word.
* `trim_of_solid`, `trim_between`: A text with solid ends stays as it is when trimmed.
* `trimEnd_append_blanks`: Trimming takes nothing but white space off.
* `trimStart_trim`, `trim_trimStart`, `trim_trim`: Trimming a second time changes
  nothing.
* `splitOnce?_append`, `splitOnce?_some`, `splitOnce?_none`: A text is split at the
  first separator.
* `enclosed?_append`: What stands between a beginning and an end.
* `joinWith_cons`, `joinWith_concat`: Pieces with a separator between them.
* `isBlank_of_visible`, `isBlank_of_isDigit`: Visible characters are no white space.
* `not_mem_of_isDigits`: A run of digits holds nothing else.
* `toLower_cases`: Only capital letters are folded.
* `toLower_of_isDigit`: Digits have no case.
* `decimal_isDigit`: Numerals consist of digits.
* `decimal_injective`: Different numbers have different numerals.
-/

namespace ResponsiveImages

namespace Text

/-- What holds of all characters of a text is decided one character after the
    other. -/
instance (priority := high) decidableForallMem (s : Text) (p : Char → Prop) [DecidablePred p] :
    Decidable (∀ c ∈ s, p c) :=
  List.decidableBAll p s

/-! ### Runs of characters -/

theorem takeWhile_append_stop {p : Char → Bool} {c : Char} (hc : p c = false) (s t : Text) :
    (s ++ c :: t).takeWhile p = s.takeWhile p := by
  rw [List.takeWhile_append, List.takeWhile_cons, hc]
  split
  · next hall =>
      rw [if_neg (by decide), List.append_nil, (List.takeWhile_prefix p).eq_of_length hall]
  · rfl

theorem dropWhile_append_stop {p : Char → Bool} {c : Char} (hc : p c = false) (s t : Text) :
    (s ++ c :: t).dropWhile p = s.dropWhile p ++ c :: t := by
  rw [List.dropWhile_append, List.dropWhile_cons, hc]
  split
  · next hall =>
      rw [if_neg (by decide), List.isEmpty_iff.mp hall, List.nil_append]
  · rfl

/-! ### Words -/

theorem words_append_blank {c : Char} (hc : isBlank c = true) (s t : Text) :
    words (s ++ c :: t) = words s ++ words t := by
  rw [words, List.splitOnP_append_cons _ _ hc, List.filter_append]
  rfl

theorem words_of_solid {s : Text} (hs : ∀ c ∈ s, isBlank c = false) (hne : s ≠ []) :
    words s = [s] := by
  rw [words, List.splitOnP_eq_singleton hs, List.filter_cons, if_pos (by simpa using hne),
    List.filter_nil]

theorem words_nil : words [] = [] := rfl

/-! ### Trimming -/

theorem trimStart_cons_of_solid {c : Char} (hc : isBlank c = false) (s : Text) :
    trimStart (c :: s) = c :: s := by
  rw [trimStart, List.dropWhile_cons, if_neg (by rw [hc]; decide)]

theorem trimEnd_append_of_solid {c : Char} (hc : isBlank c = false) (s : Text) :
    trimEnd (s ++ [c]) = s ++ [c] := by
  rw [trimEnd, List.reverse_append, List.reverse_singleton, List.singleton_append,
    List.dropWhile_cons, if_neg (by rw [hc]; decide), List.reverse_cons, List.reverse_reverse]

theorem trim_of_solid {s : Text} (hs : ∀ c ∈ s, isBlank c = false) : trim s = s := by
  have hstart : trimStart s = s := by
    cases s with
    | nil => rfl
    | cons c s => exact trimStart_cons_of_solid (hs c List.mem_cons_self) s
  rw [trim, hstart]
  rcases List.eq_nil_or_concat s with hnil | ⟨front, c, heq⟩
  · rw [hnil]
    rfl
  · rw [List.concat_eq_append] at heq
    rw [heq]
    exact trimEnd_append_of_solid (hs c (by rw [heq]; simp)) front

theorem trim_between {c d : Char} (hc : isBlank c = false) (hd : isBlank d = false) (s : Text) :
    trim (c :: s ++ [d]) = c :: s ++ [d] := by
  rw [trim, List.cons_append, trimStart_cons_of_solid hc, ← List.cons_append,
    trimEnd_append_of_solid hd]

/-- Trimming takes nothing but white space off. -/
theorem trimEnd_append_blanks (s : Text) :
    ∃ blanks, s = trimEnd s ++ blanks ∧ ∀ c ∈ blanks, isBlank c = true := by
  refine ⟨(s.reverse.takeWhile isBlank).reverse, ?_, fun c hc => ?_⟩
  · rw [trimEnd, ← List.reverse_append, List.takeWhile_append_dropWhile, List.reverse_reverse]
  · exact List.mem_takeWhile_imp (List.mem_reverse.mp hc)

theorem mem_of_mem_trim {s : Text} {c : Char} (h : c ∈ trim s) : c ∈ s := by
  rw [trim, trimEnd, List.mem_reverse] at h
  have hstart := List.mem_reverse.mp ((List.dropWhile_sublist isBlank).subset h)
  exact (List.dropWhile_sublist isBlank).subset hstart

theorem trimEnd_cons {c : Char} (hc : isBlank c = false) (s : Text) :
    trimEnd (c :: s) = c :: trimEnd s := by
  rw [trimEnd, List.reverse_cons, dropWhile_append_stop hc, List.reverse_append]
  rfl

theorem trimStart_trim (s : Text) : trimStart (trim s) = trim s := by
  rw [trim]
  -- What has been trimmed in front begins with a solid character, which stays.
  cases hcs : trimStart s with
  | nil => rfl
  | cons c cs =>
      have hc : isBlank c = false := by
        have hhead := List.head?_dropWhile_not isBlank s
        rw [show s.dropWhile isBlank = c :: cs from hcs] at hhead
        simpa using hhead
      rw [trimEnd_cons hc, trimStart_cons_of_solid hc]

theorem trim_trimStart (s : Text) : trim (trimStart s) = trim s := by
  have hstart : trimStart (trimStart s) = trimStart s := List.dropWhile_idempotent ..
  rw [trim, hstart, trim]

/-- A text that has been trimmed is not trimmed any further. -/
theorem trim_trim (s : Text) : trim (trim s) = trim s := by
  have hend : ∀ s : Text, trimEnd (trimEnd s) = trimEnd s := by
    intro s
    rw [trimEnd, trimEnd, List.reverse_reverse, List.dropWhile_idempotent]
  rw [trim, trimStart_trim, trim, hend]

/-! ### Splitting and joining -/

theorem enclosed?_append (p q s : Text) : enclosed? p q (p ++ (s ++ q)) = some s := by
  have hfront : afterPrefix? p (p ++ (s ++ q)) = some (s ++ q) :=
    List.isPrefixOf?_eq_some_iff_append_eq.mpr rfl
  have hback : beforeSuffix? q (s ++ q) = some s :=
    List.isSuffixOf?_eq_some_iff_append_eq.mpr rfl
  rw [enclosed?, hfront, Option.bind_some, hback]

theorem splitOnce?_append {c : Char} (s t : Text) (hs : c ∉ s) :
    splitOnce? c (s ++ c :: t) = some (s, t) := by
  -- No earlier character is the separator.
  induction s with
  | nil => rw [List.nil_append, splitOnce?, if_pos rfl]
  | cons x s ih =>
      rw [List.mem_cons, not_or] at hs
      rw [List.cons_append, splitOnce?, if_neg (Ne.symm hs.1), ih hs.2]
      rfl

theorem splitOnce?_some {c : Char} (s : Text) :
    ∀ before after : Text, splitOnce? c s = some (before, after) →
      s = before ++ c :: after ∧ c ∉ before := by
  induction s with
  | nil => intro before after h; exact absurd h (by simp [splitOnce?])
  | cons x s ih =>
      intro before after h
      rw [splitOnce?] at h
      by_cases hx : x = c
      · rw [if_pos hx, Option.some.injEq, Prod.mk.injEq] at h
        rw [← h.1, ← h.2, hx]
        exact ⟨rfl, List.not_mem_nil⟩
      · rw [if_neg hx] at h
        rcases Option.map_eq_some_iff.mp h with ⟨⟨b, a⟩, hba, heq⟩
        rcases ih b a hba with ⟨hs, hmem⟩
        rw [Prod.mk.injEq] at heq
        rw [← heq.1, ← heq.2, hs]
        refine ⟨rfl, ?_⟩
        rw [List.mem_cons, not_or]
        exact ⟨Ne.symm hx, hmem⟩

theorem splitOnce?_none {c : Char} (s : Text) : splitOnce? c s = none ↔ c ∉ s := by
  induction s with
  | nil => exact iff_of_true rfl List.not_mem_nil
  | cons x s ih =>
      rw [splitOnce?, List.mem_cons, not_or, ← ih]
      by_cases hx : x = c
      · rw [if_pos hx]
        exact iff_of_false (by simp) fun h => h.1 hx.symm
      · rw [if_neg hx, Option.map_eq_none_iff]
        exact ⟨fun h => ⟨Ne.symm hx, h⟩, fun h => h.2⟩

theorem joinWith_cons (sep piece : Text) {rest : List Text} (hne : rest ≠ []) :
    joinWith sep (piece :: rest) = piece ++ sep ++ joinWith sep rest := by
  cases rest with
  | nil => exact absurd rfl hne
  | cons next rest => simp [joinWith, List.intercalate]

theorem joinWith_concat (sep : Text) (pieces : List Text) (hne : pieces ≠ []) (last : Text) :
    joinWith sep (pieces ++ [last]) = joinWith sep pieces ++ sep ++ last := by
  induction pieces with
  | nil => exact absurd rfl hne
  | cons piece pieces ih =>
      cases pieces with
      | nil => simp [joinWith, List.intercalate]
      | cons next pieces =>
          rw [List.cons_append, joinWith_cons _ _ (by simp), ih (List.cons_ne_nil _ _),
            joinWith_cons _ _ (List.cons_ne_nil _ _)]
          simp only [List.append_assoc]

/-! ### Numerals -/

theorem isDigit_ne {c x : Char} (hc : c.isDigit = true) (hx : x.isDigit = false) : c ≠ x := by
  rintro rfl
  rw [hc] at hx
  exact absurd hx (by decide)

theorem toNat_of_isDigit {c : Char} (hc : c.isDigit = true) : 48 ≤ c.toNat ∧ c.toNat ≤ 57 := by
  simp only [Char.isDigit, Bool.and_eq_true, decide_eq_true_eq, ge_iff_le] at hc
  exact hc

/-- There is no white space among the visible ASCII characters. -/
theorem isBlank_of_visible {c : Char} (h : 33 ≤ c.toNat) (h' : c.toNat ≤ 126) :
    isBlank c = false := by
  simp only [isBlank, Bool.or_eq_false_iff, Bool.and_eq_false_iff, beq_eq_false_iff_ne, ne_eq,
    decide_eq_false_iff_not]
  omega

theorem isBlank_of_isDigit {c : Char} (hc : c.isDigit = true) : isBlank c = false := by
  have hrange := toNat_of_isDigit hc
  exact isBlank_of_visible (by omega) (by omega)

theorem isDigit_of_isDigits {s : Text} (hs : isDigits s = true) : ∀ c ∈ s, c.isDigit = true :=
  List.all_eq_true.mp (Bool.and_eq_true_iff.mp hs).2

theorem not_mem_of_isDigits {s : Text} (hs : isDigits s = true) {c : Char}
    (hc : c.isDigit = false) : c ∉ s := fun hmem =>
  isDigit_ne (isDigit_of_isDigits hs c hmem) hc rfl

/-- Folding case leaves a character as it is, if it is not a capital letter. -/
theorem toLower_cases (c : Char) :
    c.toLower = c ∨ (65 ≤ c.toNat ∧ c.toNat ≤ 90 ∧ c.toLower.toNat = c.toNat + 32) := by
  by_cases hupper : c.val ≥ 'A'.val ∧ c.val ≤ 'Z'.val
  · have hge : 65 ≤ c.val.toNat := UInt32.le_iff_toNat_le.mp hupper.1
    have hle : c.val.toNat ≤ 90 := UInt32.le_iff_toNat_le.mp hupper.2
    have hlower : c.toLower.val = c.val + ('a'.val - 'A'.val) := congrArg Char.val (dif_pos hupper)
    refine Or.inr ⟨hge, hle, ?_⟩
    change c.toLower.val.toNat = c.val.toNat + 32
    rw [hlower, UInt32.toNat_add]
    change (c.val.toNat + 32) % 2 ^ 32 = _
    omega
  · exact Or.inl (dif_neg hupper)

theorem toLower_of_isDigit {c : Char} (hc : c.isDigit = true) : c.toLower = c := by
  rcases toLower_cases c with hsame | ⟨hge, _⟩
  · exact hsame
  · have hrange := toNat_of_isDigit hc
    omega

theorem decimal_isDigit {n : Nat} {c : Char} (hc : c ∈ decimal n) : c.isDigit = true :=
  Nat.isDigit_of_mem_toDigits (by decide) (by decide) hc

theorem decimal_injective {m n : Nat} (h : decimal m = decimal n) : m = n := by
  have hm := Nat.ofDigitChars_ten_toDigits (n := m)
  rw [show Nat.toDigits 10 m = Nat.toDigits 10 n from h, Nat.ofDigitChars_ten_toDigits] at hm
  exact hm.symm

end Text

end ResponsiveImages
