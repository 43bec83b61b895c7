import ResponsiveImages.Proofs.TopLevelPieces

/-!
# The First Block of a Text

Where a brace block begins and ends, and when a text is nothing but a block.

A block begins at the first opening brace that stands at top level. It ends at a closing
brace, but not at any: the brace has to bring the nesting back to top level. A brace
inside a quote does not, nor does one that finds a parenthesis open, and a body in which
none does is read to its end (`Nesting.StaysOpen`). So there are two ways for a search
to come out, and a body with the text around it is found exactly if it is one of them
(`Nesting.Closes`, `closeBrace_iff`). What stands behind the end of a block has not been
looked at, and it may be anything.

A text is unwrapped if its block leaves nothing over, at either end. White space has been
trimmed off by then, so a block that has only white space in front begins with the first
character. For the end it is enough to compare lengths. The body and the text in front of
it fall short of the whole by the two braces and the rest, or by one brace if there is no
second one (`whole_iff_byteLength`).

## Main definitions

* `Nesting.inBlock`: The nesting behind a brace at top level.
* `Nesting.StaysOpen`: A text in which no closing brace ends a block.
* `Nesting.Closes`: A text with the body of a block and what follows it.
* `SingleBlock`: A text that is one block, and the body of that block.
* `byteLength`: The length of a text in memory.

## Theorems

* `closeBrace_iff`: Where a block ends.
* `openBrace?_iff`, `openBrace?_eq_none_iff`: Where a block begins, if there is one.
* `splitBlock_iff`: Which block is found.
* `unwrapBraces_of_unbraced`: A text that does not begin with a brace.
* `unwrapBraces_of_single`, `unwrapBraces_of_not_single`: When a text is unwrapped.
* `first_block_found`: All of it together.
-/

namespace ResponsiveImages

open Text

namespace Nesting

/-- The nesting behind a brace that has been opened at top level. -/
def inBlock : Nesting :=
  Nesting.step {} '{'

/-- While a text is read no closing brace brings the nesting back to top level. -/
def StaysOpen (n : Nesting) (s : Text) : Prop :=
  ∀ front back, s = front ++ '}' :: back → (n.after (front ++ ['}'])).topLevel = false

theorem staysOpen_nil (n : Nesting) : n.StaysOpen [] := by
  intro front back h
  exact absurd h.symm (List.append_ne_nil_of_right_ne_nil front (List.cons_ne_nil _ _))

theorem staysOpen_cons {n : Nesting} {c : Char} {s : Text} :
    n.StaysOpen (c :: s)
      ↔ ¬ (c = '}' ∧ (n.step c).topLevel = true) ∧ (n.step c).StaysOpen s := by
  constructor
  · intro h
    refine ⟨fun hstop => ?_, fun front back hs => h (c :: front) back (by rw [hs]; rfl)⟩
    have hopen : (n.step '}').topLevel = false := h [] s (by rw [hstop.1]; rfl)
    rw [← hstop.1, hstop.2] at hopen
    exact absurd hopen (by decide)
  · rintro ⟨hstop, hrest⟩ front back hs
    cases front with
    | nil =>
        rw [List.nil_append, List.cons.injEq] at hs
        rw [← Bool.not_eq_true]
        exact fun htop => hstop ⟨hs.1, hs.1 ▸ htop⟩
    | cons x front =>
        rw [List.cons_append, List.cons.injEq] at hs
        rw [← hs.1]
        exact hrest front back hs.2

/-- A text is checked one character after the other. -/
instance decidableStaysOpen : ∀ (s : Text) (n : Nesting), Decidable (n.StaysOpen s)
  | [], n => isTrue (staysOpen_nil n)
  | c :: s, n =>
    have := decidableStaysOpen s (n.step c)
    decidable_of_iff _ (staysOpen_cons (n := n) (c := c) (s := s)).symm

/-- What a text behind an opening brace comes apart into: the body of the block, and the
    text behind the brace that ends it, if there is such a brace. -/
inductive Closes (n : Nesting) : Text → Text × Option Text → Prop where
  | never {body : Text} (h : n.StaysOpen body) : Closes n body (body, none)
  | here {body rest : Text} (h : n.StaysOpen body)
      (hclosed : (n.after (body ++ ['}'])).topLevel = true) :
      Closes n (body ++ '}' :: rest) (body, some rest)

end Nesting

/-! ### Where a block ends -/

theorem closeBrace_cons_of_stop {n : Nesting} (s : Text)
    (hstop : (n.step '}').topLevel = true) : closeBrace n ('}' :: s) = ([], some s) := by
  rw [closeBrace, hstop]
  rfl

theorem closeBrace_cons {n : Nesting} {c : Char}
    (hopen : ¬ (c = '}' ∧ (n.step c).topLevel = true)) (s : Text) :
    closeBrace n (c :: s)
      = (c :: (closeBrace (n.step c) s).1, (closeBrace (n.step c) s).2) := by
  rw [closeBrace, if_neg (by simpa using hopen)]

/-- A body that is never closed is read to its end. -/
theorem closeBrace_of_staysOpen (body : Text) :
    ∀ n : Nesting, n.StaysOpen body → closeBrace n body = (body, none) := by
  induction body with
  | nil => exact fun _ _ => rfl
  | cons c body ih =>
      intro n h
      rw [Nesting.staysOpen_cons] at h
      rw [closeBrace_cons h.1, ih (n.step c) h.2]

/-- A brace that brings the nesting back to top level ends a block in which no brace
    does. -/
theorem closeBrace_append (rest body : Text) :
    ∀ n : Nesting, n.StaysOpen body → (n.after (body ++ ['}'])).topLevel = true →
      closeBrace n (body ++ '}' :: rest) = (body, some rest) := by
  induction body with
  | nil => exact fun n _ hclosed => closeBrace_cons_of_stop rest hclosed
  | cons c body ih =>
      intro n h hclosed
      rw [Nesting.staysOpen_cons] at h
      rw [List.cons_append, closeBrace_cons h.1, ih (n.step c) h.2 hclosed]

/-- The end of a block is found where there is one. -/
theorem closes_closeBrace (s : Text) : ∀ n : Nesting, n.Closes s (closeBrace n s) := by
  induction s with
  | nil => exact fun n => .never (Nesting.staysOpen_nil n)
  | cons c s ih =>
      intro n
      by_cases hstop : c = '}' ∧ (n.step c).topLevel = true
      · rcases hstop with ⟨rfl, hclosed⟩
        rw [closeBrace_cons_of_stop s hclosed]
        exact .here (Nesting.staysOpen_nil n) hclosed
      · -- The character belongs to the body, whatever the rest comes apart into.
        have hrest := ih (n.step c)
        rw [closeBrace_cons hstop]
        generalize closeBrace (n.step c) s = found at hrest ⊢
        cases hrest with
        | never h => exact .never (Nesting.staysOpen_cons.mpr ⟨hstop, h⟩)
        | here h hclosed => exact .here (Nesting.staysOpen_cons.mpr ⟨hstop, h⟩) hclosed

theorem closeBrace_iff {n : Nesting} {s : Text} {found : Text × Option Text} :
    closeBrace n s = found ↔ n.Closes s found := by
  constructor
  · rintro rfl
    exact closes_closeBrace s n
  · rintro (h | ⟨h, hclosed⟩)
    · exact closeBrace_of_staysOpen _ n h
    · exact closeBrace_append _ _ n h hclosed

/-! ### Where a block begins -/

/-- The first brace at top level is found. -/
theorem openBrace?_append (rest before : Text) :
    ∀ n : Nesting, n.exposes '{' before = false → (n.after before).topLevel = true →
      openBrace? n (before ++ '{' :: rest) = some (before, rest) := by
  induction before with
  | nil =>
      intro n _ htop
      have hn : n.topLevel = true := htop
      rw [List.nil_append, openBrace?, hn, if_pos (by decide)]
  | cons c before ih =>
      intro n hhidden htop
      rw [Nesting.exposes_cons_eq_false] at hhidden
      rw [List.cons_append, openBrace?, if_neg (by simpa using hhidden.1),
        ih (n.step c) hhidden.2 htop]
      rfl

/-- What is found is the first brace at top level. -/
theorem openBrace?_some (s : Text) :
    ∀ (n : Nesting) (before rest : Text), openBrace? n s = some (before, rest) →
      s = before ++ '{' :: rest ∧ n.exposes '{' before = false
        ∧ (n.after before).topLevel = true := by
  induction s with
  | nil => intro n before rest h; exact absurd h (by simp [openBrace?])
  | cons c s ih =>
      intro n before rest h
      rw [openBrace?] at h
      split at h
      · next hc =>
          rw [Option.some.injEq, Prod.mk.injEq] at h
          rw [Bool.and_eq_true, decide_eq_true_eq] at hc
          rw [← h.1, ← h.2, hc.1]
          exact ⟨rfl, rfl, hc.2⟩
      · next hc =>
          rcases Option.map_eq_some_iff.mp h with ⟨⟨before', rest'⟩, hfound, heq⟩
          rw [Prod.mk.injEq] at heq
          rcases ih (n.step c) before' rest' hfound with ⟨hs, hhidden, htop⟩
          rw [hs, ← heq.1, ← heq.2]
          exact ⟨rfl, Nesting.exposes_cons_eq_false.mpr ⟨by simpa using hc, hhidden⟩, htop⟩

theorem openBrace?_iff {n : Nesting} {s before rest : Text} :
    openBrace? n s = some (before, rest)
      ↔ s = before ++ '{' :: rest ∧ n.exposes '{' before = false
        ∧ (n.after before).topLevel = true := by
  constructor
  · exact openBrace?_some s n before rest
  · rintro ⟨rfl, hhidden, htop⟩
    exact openBrace?_append rest before n hhidden htop

/-- Without a brace at top level no block begins. -/
theorem openBrace?_eq_none_iff (s : Text) :
    ∀ n : Nesting, openBrace? n s = none ↔ n.exposes '{' s = false := by
  induction s with
  | nil => exact fun _ => ⟨fun _ => rfl, fun _ => rfl⟩
  | cons c s ih =>
      intro n
      rw [Nesting.exposes_cons_eq_false, openBrace?]
      by_cases hc : (c = '{' && n.topLevel) = true
      · refine iff_of_false (by rw [if_pos hc]; exact Option.some_ne_none _) fun h => ?_
        exact absurd hc (by simpa using h.1)
      · rw [if_neg hc, Option.map_eq_none_iff, ih (n.step c)]
        exact (and_iff_right (by simpa using hc)).symm

/-! ### Finding a block -/

theorem splitBlock_iff {s : Text} {b : Block} :
    splitBlock s = some b
      ↔ ∃ rest, s = b.before ++ '{' :: rest ∧ Nesting.exposes '{' {} b.before = false
        ∧ (Nesting.after {} b.before).topLevel = true
        ∧ Nesting.inBlock.Closes rest (b.body, b.after) := by
  rw [splitBlock, Option.map_eq_some_iff]
  constructor
  · rintro ⟨⟨before, rest⟩, hfound, rfl⟩
    rcases openBrace?_iff.mp hfound with ⟨hs, hhidden, htop⟩
    exact ⟨rest, hs, hhidden, htop, closes_closeBrace rest _⟩
  · rintro ⟨rest, hs, hhidden, htop, hcloses⟩
    refine ⟨(b.before, rest), openBrace?_iff.mpr ⟨hs, hhidden, htop⟩, ?_⟩
    have hbody : closeBrace (Nesting.step {} '{') rest = (b.body, b.after) :=
      closeBrace_iff.mpr hcloses
    simp only [hbody]

section

variable {before body : Text} (hhidden : Nesting.exposes '{' {} before = false)
  (htop : (Nesting.after {} before).topLevel = true) (hopen : Nesting.inBlock.StaysOpen body)

include hhidden htop hopen

/-- A block that is never closed runs to the end of the text. -/
theorem splitBlock_unclosed : splitBlock (before ++ '{' :: body) = some ⟨before, body, none⟩ :=
  splitBlock_iff.mpr ⟨body, rfl, hhidden, htop, .never hopen⟩

/-- A block is found where it stands, whatever comes behind it. -/
theorem splitBlock_append (hclosed : (Nesting.inBlock.after (body ++ ['}'])).topLevel = true)
    (rest : Text) :
    splitBlock (before ++ '{' :: body ++ '}' :: rest) = some ⟨before, body, some rest⟩ :=
  splitBlock_iff.mpr
    ⟨body ++ '}' :: rest, by simp, hhidden, htop, .here hopen hclosed⟩

end

/-- There is no block exactly if no brace stands at top level. -/
theorem splitBlock_eq_none_iff (s : Text) :
    splitBlock s = none ↔ Nesting.exposes '{' {} s = false := by
  rw [splitBlock, Option.map_eq_none_iff, openBrace?_eq_none_iff]

/-! ### Texts that are a block -/

/-- The number of bytes a text takes up. -/
def byteLength (s : Text) : Nat :=
  (String.ofList s).utf8ByteSize

theorem byteLength_append (s t : Text) : byteLength (s ++ t) = byteLength s + byteLength t := by
  rw [byteLength, String.ofList_append, String.utf8ByteSize_append]
  rfl

theorem byteLength_cons_brace {c : Char} (hc : c = '{' ∨ c = '}') (s : Text) :
    byteLength (c :: s) = byteLength s + 1 := by
  have hone : byteLength [c] = 1 := by
    rcases hc with rfl | rfl
    · rfl
    · rfl
  rw [← List.singleton_append, byteLength_append, hone, Nat.add_comm]

theorem byteLength_eq_zero_iff (s : Text) : byteLength s = 0 ↔ s = [] := by
  rw [byteLength, String.utf8ByteSize_eq_zero_iff, String.ofList_eq_empty_iff]

/-- Whether something is left behind a block can be told from the lengths of its parts. -/
theorem whole_iff_byteLength {s : Text} {b : Block} (h : splitBlock s = some b) :
    b.whole = true
      ↔ blank b.before = true ∧ byteLength s ≤ byteLength b.before + byteLength b.body + 2 := by
  rcases splitBlock_iff.mp h with ⟨text, hs, _, _, hcloses⟩
  rw [Block.whole, Bool.and_eq_true, List.isEmpty_iff, hs, byteLength_append,
    byteLength_cons_brace (Or.inl rfl)]
  generalize b.after = after at hcloses ⊢
  cases hcloses with
  | never _ =>
      refine and_congr_right fun _ => iff_of_true rfl ?_
      omega
  | @here _ rest _ _ =>
      refine and_congr_right fun _ => ?_
      rw [Option.getD_some, ← byteLength_eq_zero_iff, byteLength_append,
        byteLength_cons_brace (Or.inr rfl)]
      omega

/-- A text that is one block from its first character to its last, and the body of that
    block. -/
inductive SingleBlock : Text → Text → Prop where
  | unclosed {body : Text} (h : Nesting.inBlock.StaysOpen body) : SingleBlock ('{' :: body) body
  | closed {body : Text} (h : Nesting.inBlock.StaysOpen body)
      (hclosed : (Nesting.inBlock.after (body ++ ['}'])).topLevel = true) :
      SingleBlock ('{' :: body ++ ['}']) body

theorem singleBlock_iff {s body : Text} :
    SingleBlock s body
      ↔ ∃ after, splitBlock s = some ⟨[], body, after⟩ ∧ after.getD [] = [] := by
  constructor
  · rintro (h | ⟨h, hclosed⟩)
    · exact ⟨none, @splitBlock_unclosed [] body rfl rfl h, rfl⟩
    · exact ⟨some [], @splitBlock_append [] body rfl rfl h hclosed [], rfl⟩
  · rintro ⟨after, hsplit, hafter⟩
    rcases splitBlock_iff.mp hsplit with ⟨rest, hs, _, _, hcloses⟩
    rw [hs]
    cases hcloses with
    | never h => exact .unclosed h
    | here h hclosed =>
        rw [Option.getD_some] at hafter
        rw [hafter]
        exact .closed h hclosed

/-- If all of a trimmed text is a block, the block begins with its first character. -/
theorem singleBlock_of_whole {s : Text} {b : Block} (h : splitBlock (trim s) = some b)
    (hwhole : b.whole = true) : SingleBlock (trim s) b.body := by
  rw [Block.whole, Bool.and_eq_true, List.isEmpty_iff] at hwhole
  refine singleBlock_iff.mpr ⟨b.after, ?_, hwhole.2⟩
  rcases splitBlock_iff.mp h with ⟨rest, hs, _⟩
  have hbefore : b.before = [] := by
    cases hparts : b.before with
    | nil => rfl
    | cons c before =>
        -- White space in front would have been trimmed off.
        rw [hparts] at hs hwhole
        have hc : isBlank c = true := List.all_eq_true.mp hwhole.1 c List.mem_cons_self
        have hstart := trimStart_trim s
        rw [hs, List.cons_append, trimStart, List.dropWhile_cons, if_pos hc] at hstart
        have hlength := (List.dropWhile_sublist isBlank (l := before ++ '{' :: rest)).length_le
        rw [hstart, List.length_cons] at hlength
        omega
  rw [h, ← hbefore]

/-- A text that is one block is unwrapped. -/
theorem unwrapBraces_of_single {s body : Text} (h : SingleBlock (trim s) body) :
    unwrapBraces s = trim body := by
  rcases singleBlock_iff.mp h with ⟨after, hsplit, hafter⟩
  have hwhole : Block.whole ⟨[], body, after⟩ = true := by
    rw [Block.whole, hafter]
    rfl
  simp only [unwrapBraces, hsplit, if_pos hwhole]

/-- Every other text is only trimmed. -/
theorem unwrapBraces_of_not_single {s : Text} (h : ∀ body, ¬ SingleBlock (trim s) body) :
    unwrapBraces s = trim s := by
  rw [unwrapBraces]
  cases hblock : splitBlock (trim s) with
  | none => rfl
  | some b => exact if_neg fun hwhole => h b.body (singleBlock_of_whole hblock hwhole)

/-- A text that does not begin with a brace is only trimmed. -/
theorem unwrapBraces_of_unbraced {s : Text} (h : (trim s).head? ≠ some '{') :
    unwrapBraces s = trim s := by
  refine unwrapBraces_of_not_single fun body hsingle => h ?_
  generalize trim s = text at hsingle
  cases hsingle with
  | unclosed _ => rfl
  | closed _ _ => rfl

/-- A brace at top level, with nothing of the kind in front of it, begins a block. The
    block has the body behind it if no brace of the body ends it, be it that one follows
    that does, whatever comes behind that one, or that none follows. Without a brace at top
    level there is no block. A block leaves nothing over if its parts are as long as the
    text, up to the two braces, and a text is unwrapped if, trimmed, it is one block. -/
theorem first_block_found :
    (∀ before body : Text, Nesting.exposes '{' {} before = false →
        (Nesting.after {} before).topLevel = true → Nesting.inBlock.StaysOpen body →
          splitBlock (before ++ '{' :: body) = some ⟨before, body, none⟩
            ∧ ((Nesting.inBlock.after (body ++ ['}'])).topLevel = true → ∀ rest,
                splitBlock (before ++ '{' :: body ++ '}' :: rest)
                  = some ⟨before, body, some rest⟩))
      ∧ (∀ s : Text, splitBlock s = none ↔ Nesting.exposes '{' {} s = false)
      ∧ (∀ (s : Text) (b : Block), splitBlock s = some b →
          (b.whole = true ↔ blank b.before = true
            ∧ byteLength s ≤ byteLength b.before + byteLength b.body + 2))
      ∧ (∀ s body : Text, SingleBlock (trim s) body → unwrapBraces s = trim body)
      ∧ ∀ s : Text, (∀ body, ¬ SingleBlock (trim s) body) → unwrapBraces s = trim s :=
  ⟨fun _ _ hhidden htop hopen =>
      ⟨splitBlock_unclosed hhidden htop hopen, splitBlock_append hhidden htop hopen⟩,
    splitBlock_eq_none_iff, fun _ _ => whole_iff_byteLength,
    fun _ _ => unwrapBraces_of_single, fun _ => unwrapBraces_of_not_single⟩

/-- A test with a brace in a quote. -/
def quotedTest : Text :=
  "(min-width: 1px) '\x7b' ".toList

/-- A body with a closing brace in a quote and another one in a parenthesis, which leaves
    no brace open without ending the block. -/
def trickyBody : Text :=
  " src: url('a\x7d.png'); height: (\x7d) ".toList

/-- The block is found with and without its last brace, and unwrapped unless something
    stands behind it. -/
theorem tricky_block_found :
    Nesting.exposes '{' {} quotedTest = false ∧ (Nesting.after {} quotedTest).topLevel = true
      ∧ Nesting.inBlock.StaysOpen trickyBody
      ∧ (Nesting.inBlock.after (trickyBody ++ ['}'])).topLevel = true
      ∧ splitBlock (quotedTest ++ '{' :: trickyBody) = some ⟨quotedTest, trickyBody, none⟩
      ∧ splitBlock (quotedTest ++ '{' :: trickyBody ++ '}' :: "\x7d;".toList)
          = some ⟨quotedTest, trickyBody, some "\x7d;".toList⟩
      ∧ SingleBlock (trim (' ' :: '{' :: trickyBody ++ ['}', ' '])) trickyBody
      ∧ unwrapBraces (' ' :: '{' :: trickyBody ++ ['}', ' ']) = trim trickyBody
      ∧ (∀ body, ¬ SingleBlock (trim ('{' :: trickyBody ++ ['}', ';'])) body)
      ∧ unwrapBraces ('{' :: trickyBody ++ ['}', ';']) = '{' :: trickyBody ++ ['}', ';']
      ∧ splitBlock ('{' :: trickyBody ++ ['}', ';']) = some ⟨[], trickyBody, some [';']⟩
      ∧ ¬ byteLength ('{' :: trickyBody ++ ['}', ';']) ≤ byteLength trickyBody + 2 := by
  have hhidden : Nesting.exposes '{' {} quotedTest = false := by decide
  have htop : (Nesting.after {} quotedTest).topLevel = true := by decide
  have hopen : Nesting.inBlock.StaysOpen trickyBody := by decide
  have hclosed : (Nesting.inBlock.after (trickyBody ++ ['}'])).topLevel = true := by decide
  have hblock := first_block_found.1 quotedTest trickyBody hhidden htop hopen
  have hsingle : SingleBlock (trim (' ' :: '{' :: trickyBody ++ ['}', ' '])) trickyBody := by
    rw [show trim (' ' :: '{' :: trickyBody ++ ['}', ' ']) = '{' :: trickyBody ++ ['}'] by decide]
    exact .closed hopen hclosed
  have htrim : trim ('{' :: trickyBody ++ ['}', ';']) = '{' :: trickyBody ++ ['}', ';'] := by
    decide
  have hfound : splitBlock ('{' :: trickyBody ++ ['}', ';']) = some ⟨[], trickyBody, some [';']⟩ :=
    (first_block_found.1 [] trickyBody rfl rfl hopen).2 hclosed [';']
  have hmore : ∀ body, ¬ SingleBlock (trim ('{' :: trickyBody ++ ['}', ';'])) body := by
    intro body h
    rw [htrim] at h
    rcases singleBlock_iff.mp h with ⟨after, hsplit, hafter⟩
    rw [hfound, Option.some.injEq, Block.mk.injEq] at hsplit
    rw [← hsplit.2.2] at hafter
    exact absurd hafter (List.cons_ne_nil _ _)
  refine ⟨hhidden, htop, hopen, hclosed, hblock.1, hblock.2 hclosed _, hsingle,
    first_block_found.2.2.2.1 _ _ hsingle, hmore, ?_, hfound, fun hlength => ?_⟩
  · rw [first_block_found.2.2.2.2 _ hmore, htrim]
  · exact absurd ((first_block_found.2.2.1 _ _ hfound).mpr ⟨rfl, by simpa [byteLength] using hlength⟩)
      (by decide)

end ResponsiveImages
