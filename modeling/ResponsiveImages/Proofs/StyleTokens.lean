import Mathlib.Data.List.Basic
import ResponsiveImages.Css.Token

/-!
# The Steps of the Tokenizer

Style text is read token by token, and the number of tokens is not known in
advance. The tokenizer is given as many steps as the text has characters, and
its readers of names, strings and addresses get theirs the same way. Such a
bound gets in the way of any proof about a text with something in front of it:
the tokens of `background-image: url(a.png)` are not computed with the number
of steps that the address alone would get.

This module takes the bound away. Every reader leaves a suffix of its text
behind (`readName_suffix`, `readString_suffix`, and so on), and a token takes
at least the character it begins with (`takeToken_suffix`). So there are always
enough steps, any more of them make no difference (`lexFrom_of_le`), and the
tokens of a text are its first token and the tokens of what that leaves
(`tokenize_cons`).

A number is the one form whose reader does not say what it has taken. Its sign,
its digits and its fraction are taken off by three definitions of their own,
and what is left behind a number is what is left behind those, or less
(`readNumeral_suffix`).

## Main definitions

* `unsigned`: A number without its sign.
* `afterFraction`, `afterDigits`: What is left behind the parts of a number.

## Theorems

* `takeToken_suffix`: A token takes at least one character.
* `lexFrom_of_le`: There are always enough steps.
* `tokenize_cons`: The tokens of a text, one after the other.
* `tokenize_white`: The white space a text begins with.
* `readName_whole`: A name is read up to where it ends.
-/

namespace ResponsiveImages

namespace Css

open Text

/-! ### What names, strings and addresses leave -/

theorem skipOneWhite_suffix (s : Text) : skipOneWhite s <:+ s := by
  unfold skipOneWhite
  split
  · exact (List.suffix_cons _ _).trans (List.suffix_cons _ _)
  · split
    · exact List.suffix_cons _ _
    · exact List.suffix_rfl
  · exact List.suffix_rfl

theorem readEscape_suffix (s : Text) : (readEscape s).2 <:+ s := by
  unfold readEscape
  split
  · exact List.suffix_rfl
  · split
    · exact (skipOneWhite_suffix _).trans (List.drop_suffix _ _)
    · exact List.suffix_cons _ _

theorem readName_suffix (fuel : Nat) (s : Text) : (readName fuel s).2 <:+ s := by
  induction fuel generalizing s with
  | zero => exact List.suffix_rfl
  | succ fuel ih =>
      cases s with
      | nil => exact List.suffix_rfl
      | cons c rest =>
          rw [readName]
          split
          · exact (ih rest).trans (List.suffix_cons _ _)
          · split
            · exact ((ih _).trans (readEscape_suffix rest)).trans (List.suffix_cons _ _)
            · exact List.suffix_rfl

theorem readString_suffix (quote : Char) (fuel : Nat) (s : Text) :
    (readString quote fuel s).2 <:+ s := by
  induction fuel generalizing s with
  | zero => exact List.suffix_rfl
  | succ fuel ih =>
      cases s with
      | nil => exact List.suffix_rfl
      | cons c rest =>
          unfold readString
          split
          · exact List.suffix_cons _ _
          · split
            · exact List.suffix_rfl
            · split
              · split
                · exact List.nil_suffix
                · split
                  · exact ((ih _).trans (skipOneWhite_suffix _)).trans (List.suffix_cons _ _)
                  · exact ((ih _).trans (readEscape_suffix _)).trans (List.suffix_cons _ _)
              · exact (ih rest).trans (List.suffix_cons _ _)

theorem skipBadUrl_suffix (fuel : Nat) (s : Text) : skipBadUrl fuel s <:+ s := by
  induction fuel generalizing s with
  | zero => exact List.suffix_rfl
  | succ fuel ih =>
      cases s with
      | nil => exact List.suffix_rfl
      | cons c rest =>
          rw [skipBadUrl]
          split
          · exact List.suffix_cons _ _
          · split
            · exact ((ih _).trans (List.drop_suffix _ _)).trans (List.suffix_cons _ _)
            · exact (ih rest).trans (List.suffix_cons _ _)

theorem readUrl_suffix (fuel : Nat) (s : Text) : (readUrl fuel s).2 <:+ s := by
  induction fuel generalizing s with
  | zero => exact List.suffix_rfl
  | succ fuel ih =>
      cases s with
      | nil => exact List.suffix_rfl
      | cons c rest =>
          have hskip : skipBadUrl fuel rest <:+ c :: rest :=
            (skipBadUrl_suffix fuel rest).trans (List.suffix_cons _ _)
          rw [readUrl]
          split
          · exact List.suffix_cons _ _
          · split
            · have hwhite : rest.dropWhile isWhite <:+ c :: rest :=
                (List.dropWhile_suffix _).trans (List.suffix_cons _ _)
              split
              · exact List.nil_suffix
              · next h => exact (List.suffix_cons _ _).trans (h ▸ hwhite)
              · exact (skipBadUrl_suffix _ _).trans hwhite
            · split
              · exact hskip
              · split
                · split
                  · exact ((ih _).trans (readEscape_suffix rest)).trans (List.suffix_cons _ _)
                  · exact hskip
                · exact (ih rest).trans (List.suffix_cons _ _)

/-! ### What numbers leave -/

theorem readExponentDigits_suffix {sign x : Float} {s rest : Text}
    (h : readExponentDigits sign s = some (x, rest)) : rest <:+ s := by
  simp only [readExponentDigits] at h
  split at h
  · cases h
  · cases h
    exact List.dropWhile_suffix _

theorem readExponent_suffix {x : Float} {s rest : Text}
    (h : readExponent s = some (x, rest)) : rest <:+ s := by
  have cons {c : Char} {t : Text} (ht : rest <:+ t) : rest <:+ c :: t :=
    ht.trans (List.suffix_cons c t)
  unfold readExponent at h
  split at h
  · split at h
    · split at h
      · exact cons (cons (readExponentDigits_suffix h))
      · exact cons (cons (readExponentDigits_suffix h))
      · exact cons (readExponentDigits_suffix h)
    · cases h
  · cases h

/-- The text behind the fraction a number goes on with, if it does. -/
def afterFraction (s : Text) : Text :=
  match s with
  | '.' :: d :: rest => if d.isDigit then (d :: rest).dropWhile Char.isDigit else s
  | _ => s

/-- The text behind the digits of a number without a sign. -/
def afterDigits (s : Text) : Text :=
  afterFraction (s.dropWhile Char.isDigit)

theorem afterFraction_suffix (s : Text) : afterFraction s <:+ s := by
  unfold afterFraction
  split
  · split
    · exact (List.dropWhile_suffix _).trans (List.suffix_cons _ _)
    · exact List.suffix_rfl
  · exact List.suffix_rfl

theorem afterDigits_suffix (s : Text) : afterDigits s <:+ s :=
  (afterFraction_suffix _).trans (List.dropWhile_suffix _)

/-- A number without its sign. -/
def unsigned : Text → Text
  | '-' :: rest => rest
  | '+' :: rest => rest
  | s => s

theorem unsigned_eq {s t : Text} {signed : Bool} {sign : Float}
    (h : (match s with
      | '-' :: rest => (true, -1.0, rest)
      | '+' :: rest => (true, 1.0, rest)
      | _ => (false, 1.0, s) : Bool × Float × Text) = (signed, sign, t)) : t = unsigned s := by
  unfold unsigned
  split at h <;> cases h <;> rfl

theorem afterFraction_eq {s rest : Text} {fraction : Float} {whole : Bool}
    (h : (match s with
      | '.' :: d :: rest =>
        if d.isDigit then
          (fractionOfDigits ((d :: rest).takeWhile Char.isDigit), false,
            (d :: rest).dropWhile Char.isDigit)
        else (0.0, true, s)
      | _ => (0.0, true, s) : Float × Bool × Text) = (fraction, whole, rest)) :
    rest = afterFraction s := by
  unfold afterFraction
  split at h
  · split at h <;> cases h <;> simp_all
  · cases h
    rfl

/-- A number takes its sign, its digits and its fraction, and maybe an exponent. -/
theorem readNumeral_suffix (s : Text) : (readNumeral s).2 <:+ afterDigits (unsigned s) := by
  unfold readNumeral
  split
  next signed sign t hsign =>
    rw [← unsigned_eq hsign]
    extract_lets integral behind
    split
    next fraction whole rest hpoint =>
      have hrest : rest = afterDigits t := afterFraction_eq hpoint
      rw [← hrest]
      split
      · next h => exact readExponent_suffix h
      · exact List.suffix_rfl

theorem afterDigits_consumes {c : Char} {rest : Text} (h : opensNumber (c :: rest) = true)
    (hsign : ¬ (c = '+' ∨ c = '-')) : afterDigits (c :: rest) <:+ rest := by
  unfold opensNumber at h
  dsimp only at h
  rw [if_neg hsign] at h
  by_cases hpoint : c = '.'
  · -- A number that begins with its point has a digit behind it.
    rw [if_pos hpoint] at h
    cases rest with
    | nil => cases h
    | cons d rest =>
        have hd : d.isDigit = true := h
        have hdot : ¬ ('.' : Char).isDigit = true := by decide
        rw [hpoint, afterDigits, List.dropWhile_cons, if_neg hdot]
        simp only [afterFraction, hd, if_true]
        exact List.dropWhile_suffix _
  · rw [if_neg hpoint] at h
    rw [afterDigits, List.dropWhile_cons, if_pos h]
    exact afterDigits_suffix rest

theorem readNumeral_consumes {c : Char} {rest : Text} (h : opensNumber (c :: rest) = true) :
    (readNumeral (c :: rest)).2 <:+ rest := by
  refine (readNumeral_suffix (c :: rest)).trans ?_
  unfold unsigned
  split
  · next t heq =>
      obtain ⟨-, rfl⟩ := List.cons.inj heq
      exact afterDigits_suffix _
  · next t heq =>
      obtain ⟨-, rfl⟩ := List.cons.inj heq
      exact afterDigits_suffix _
  · next hminus hplus =>
      refine afterDigits_consumes h ?_
      rintro (rfl | rfl)
      · exact hplus rest rfl
      · exact hminus rest rfl

/-! ### What tokens leave -/

theorem readName_consumes (fuel : Nat) {c : Char} {rest : Text}
    (h : inName c = true ∨ (c = '\\' && opensEscape rest) = true) :
    (readName (fuel + 1) (c :: rest)).2 <:+ rest := by
  rw [readName]
  split
  · exact readName_suffix fuel rest
  · next hname =>
      rw [if_pos (h.resolve_left hname)]
      exact (readName_suffix fuel _).trans (readEscape_suffix rest)

theorem inName_of_opensIdent {c : Char} {rest : Text} (h : opensIdent (c :: rest) = true) :
    inName c = true ∨ (c = '\\' && opensEscape rest) = true := by
  unfold opensIdent at h
  split at h
  · cases h
  · next heq =>
      obtain ⟨rfl, -⟩ := List.cons.inj heq
      exact .inl (by decide)
  · next heq =>
      obtain ⟨rfl, rfl⟩ := List.cons.inj heq
      exact .inr (by simpa using h)
  · next heq =>
      obtain ⟨rfl, rfl⟩ := List.cons.inj heq
      exact .inl (by simp [inName, h])

namespace Token

theorem readNumeric_consumes {c : Char} {rest : Text} (h : opensNumber (c :: rest) = true) :
    (readNumeric (c :: rest)).2 <:+ rest := by
  have hnumber := readNumeral_consumes h
  unfold readNumeric
  dsimp only
  split
  · next hrest =>
      rw [hrest] at hnumber
      exact (List.suffix_cons _ _).trans hnumber
  · split
    · exact (readName_suffix _ _).trans hnumber
    · exact hnumber

theorem readIdent_consumes {c : Char} {rest : Text} (h : opensIdent (c :: rest) = true) :
    (readIdent (c :: rest)).2 <:+ rest := by
  have hname : (readName (c :: rest).length (c :: rest)).2 <:+ rest :=
    readName_consumes _ (inName_of_opensIdent h)
  unfold readIdent
  dsimp only
  split
  · next inner hrest =>
      rw [hrest] at hname
      have hinner : inner <:+ rest := (List.suffix_cons _ _).trans hname
      split
      · split
        · exact hinner
        · exact hinner
        · have hwhite : inner.dropWhile isWhite <:+ rest := (List.dropWhile_suffix _).trans hinner
          split
          · next hurl => exact (hurl ▸ readUrl_suffix _ _).trans hwhite
          · next hurl => exact (hurl ▸ readUrl_suffix _ _).trans hwhite
      · exact hinner
  · exact hname

theorem readQuoted_suffix (quote : Char) (s : Text) : (readQuoted quote s).2 <:+ s := by
  have hstring := readString_suffix quote s.length s
  unfold readQuoted
  split
  · next h => simpa only [h] using hstring
  · next h => simpa only [h] using hstring

theorem readFrom_suffix (c : Char) (rest : Text) : (readFrom c rest).2 <:+ rest := by
  unfold readFrom
  split
  · exact List.dropWhile_suffix _
  split
  · exact readQuoted_suffix c rest
  split
  · next h => exact readNumeric_consumes h
  split
  · exact List.suffix_rfl
  split
  · exact List.drop_suffix _ _
  split
  · next h => exact readIdent_consumes h
  split
  · split
    · split
      · exact readName_suffix _ _
      · exact List.suffix_rfl
    · exact List.suffix_rfl
  split
  · exact readName_suffix _ _
  split
  · exact List.drop_suffix _ _
  split
  · split
    · exact List.suffix_cons _ _
    · exact List.suffix_rfl
  · exact List.suffix_rfl

end Token

theorem readComment_suffix (s : Text) : (readComment s).2 <:+ s := by
  fun_induction readComment s with
  | case1 => exact List.suffix_rfl
  | case2 rest => exact (List.suffix_cons _ _).trans (List.suffix_cons _ _)
  | case3 c rest _ s rest' h ih => exact (h ▸ ih).trans (List.suffix_cons _ _)

/-- A token takes at least the character it begins with. -/
theorem takeToken_suffix (c : Char) (rest : Text) : (takeToken c rest).2 <:+ rest := by
  unfold takeToken
  split
  · exact (readComment_suffix _).trans (List.suffix_cons _ _)
  · exact Token.readFrom_suffix c rest

/-! ### The number of steps -/

theorem lexFrom_succ_cons (fuel : Nat) (c : Char) (rest : Text) :
    lexFrom (fuel + 1) (c :: rest)
      = ((takeToken c rest).1, c :: rest) :: lexFrom fuel (takeToken c rest).2 :=
  rfl

/-- More steps than a text has characters make no difference. -/
theorem lexFrom_of_le (fuel : Nat) {s : Text} (h : s.length ≤ fuel) :
    lexFrom fuel s = lexFrom s.length s := by
  induction fuel using Nat.strongRecOn generalizing s with
  | ind fuel ih =>
      cases s with
      | nil => cases fuel <;> rfl
      | cons c rest =>
          -- What is left is no longer than `rest`, whichever token was read.
          have hleft : (takeToken c rest).2.length ≤ rest.length :=
            (takeToken_suffix c rest).length_le
          cases fuel with
          | zero => exact absurd h (Nat.not_succ_le_zero _)
          | succ fuel =>
              have hrest : rest.length ≤ fuel := Nat.le_of_succ_le_succ h
              rw [List.length_cons, lexFrom_succ_cons, lexFrom_succ_cons,
                ih fuel (Nat.lt_succ_self fuel) (Nat.le_trans hleft hrest),
                ih rest.length (Nat.lt_succ_of_le hrest) hleft]

/-- The tokens of a text are its first token and those of what is left. -/
theorem tokenize_cons (c : Char) (rest : Text) :
    tokenize (c :: rest) = (takeToken c rest).1 :: tokenize (takeToken c rest).2 := by
  rw [tokenize, lex, List.length_cons, lexFrom_succ_cons,
    lexFrom_of_le _ (takeToken_suffix c rest).length_le]
  rfl

/-- White space in front of a text is one token. -/
theorem tokenize_white {c : Char} (hc : isWhite c = true) (rest : Text) :
    tokenize (c :: rest)
      = .white (c :: rest.takeWhile isWhite) :: tokenize (rest.dropWhile isWhite) := by
  have hslash : c ≠ '/' := by
    rintro rfl
    exact absurd hc (by decide)
  have htake : takeToken c rest = Token.readFrom c rest := by
    unfold takeToken
    split
    · next heq _ => exact absurd rfl hslash
    · rfl
  rw [tokenize_cons, htake, Token.readFrom.eq_def, if_pos hc]

theorem readName_append {name : Text} {c : Char} (rest : Text)
    (hname : ∀ x ∈ name, inName x = true ∧ x.toNat ≠ 0) (hc : inName c = false)
    (hesc : c ≠ '\\') {fuel : Nat} (hfuel : name.length < fuel) :
    readName fuel (name ++ c :: rest) = (name, c :: rest) := by
  induction name generalizing fuel with
  | nil =>
      cases fuel with
      | zero => exact absurd hfuel (Nat.not_lt_zero _)
      | succ fuel => simp [readName, hc, hesc]
  | cons x name ih =>
      cases fuel with
      | zero => exact absurd hfuel (Nat.not_lt_zero _)
      | succ fuel =>
          obtain ⟨hx, hzero⟩ := hname x List.mem_cons_self
          have hread := ih (fun y hy => hname y (List.mem_cons_of_mem _ hy))
            (Nat.lt_of_succ_lt_succ hfuel)
          rw [List.cons_append, readName, if_pos hx, hread, if_neg hzero]

/-- A name is read up to the first character that cannot be part of it. -/
theorem readName_whole {name : Text} {c : Char} (rest : Text)
    (hname : ∀ x ∈ name, inName x = true ∧ x.toNat ≠ 0) (hc : inName c = false)
    (hesc : c ≠ '\\') :
    readName (name ++ c :: rest).length (name ++ c :: rest) = (name, c :: rest) := by
  refine readName_append rest hname hc hesc ?_
  rw [List.length_append, List.length_cons]
  omega

end Css

end ResponsiveImages
