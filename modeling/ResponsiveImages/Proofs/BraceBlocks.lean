import Mathlib.Data.List.Infix
import ResponsiveImages.Proofs.FirstBlock

/-!
# Brace Blocks

What becomes of the inside of a brace block on the way to the declarations of a rule.

There are four ways to write a body of declarations down. It may stand in braces as
the fallback of an element, in braces as a plain clause, in braces behind a test, and
without braces as a plain clause. The braces come off in different places: `splitBlock`
takes them off behind a test, `unwrapBraces` takes them off a plain clause, and it is
applied once more when the declarations are read, to a text that may have lost its
braces before.

This second time is where the forms could fall apart. A body that is itself in braces
would lose them too, or would not, depending on how many times the text has been
unwrapped. So the body must not begin with a brace, and then unwrapping it changes
nothing but white space (`unwrapBraces_of_unbraced`).

The other condition is that the text with the braces is one block. While the body
is read something stays open, if only the first brace (`CompleteBlock`). Hence no comma
in it divides the clause, and no brace in it ends the block.

## Main definitions

* `CompleteBlock`: A body that makes one block when braces are put around it.
* `CompilesTo`: What a directive of a single clause is compiled to.

## Theorems

* `Nesting.exposes_append`: A character at top level in a text that is put together.
* `CompleteBlock.split`: A complete block is found where it stands.
* `unwrapBraces_of_block`: Unwrapping a complete block.
* `block_forms_agree`: The four ways to write a body down.
-/

namespace ResponsiveImages

open Text

/-! ### Scanning text that is put together -/

namespace Nesting

theorem exposes_append (sep : Char) (t s : Text) :
    ∀ n : Nesting, n.exposes sep (s ++ t) = (n.exposes sep s || (n.after s).exposes sep t) := by
  induction s with
  | nil => intro n; rfl
  | cons c s ih =>
      intro n
      rw [List.cons_append, exposes, exposes, ih, Bool.or_assoc]
      rfl

/-- While something is open no character stands at top level. -/
theorem exposes_of_open {sep : Char} (s : Text) :
    ∀ n : Nesting,
      (∀ front back, s = front ++ back → back ≠ [] → (n.after front).topLevel = false) →
      n.exposes sep s = false := by
  induction s with
  | nil => intro n _; rfl
  | cons c s ih =>
      intro n h
      have hfirst : n.topLevel = false := h [] (c :: s) rfl (List.cons_ne_nil c s)
      rw [exposes_cons_eq_false, hfirst, Bool.and_false]
      refine ⟨rfl, ih (n.step c) fun front back hs hback => ?_⟩
      exact h (c :: front) back (by rw [hs]; rfl) hback

end Nesting

/-! ### Complete blocks -/

/-- A text in braces is one block: read from the start, it is back at top level only
    behind its last brace. -/
structure CompleteBlock (body : Text) : Prop where
  inside : ∀ front back, front ≠ [] → back ≠ [] → front ++ back = '{' :: body ++ ['}'] →
    (Nesting.after {} front).topLevel = false
  closed : (Nesting.after {} ('{' :: body ++ ['}'])).topLevel = true

/-- Something is open all through the body. -/
theorem CompleteBlock.open_within {body : Text} (h : CompleteBlock body) {front back : Text}
    (hbody : body = front ++ back) : ((Nesting.step {} '{').after front).topLevel = false := by
  refine h.inside ('{' :: front) (back ++ ['}']) (List.cons_ne_nil _ _) (by simp) ?_
  rw [hbody]
  simp

/-- No brace in the body ends the block. -/
theorem CompleteBlock.staysOpen {body : Text} (h : CompleteBlock body) :
    Nesting.inBlock.StaysOpen body := by
  intro front back hbody
  have hfront : body = front ++ ['}'] ++ back := by
    rw [hbody, List.append_assoc]
    rfl
  exact h.open_within hfront

theorem completeBlock_iff (body : Text) :
    CompleteBlock body
      ↔ (∀ front ∈ body.inits, ((Nesting.step {} '{').after front).topLevel = false)
        ∧ (Nesting.after {} ('{' :: body ++ ['}'])).topLevel = true := by
  constructor
  · intro h
    refine ⟨fun front hfront => ?_, h.closed⟩
    rcases (List.mem_inits front body).mp hfront with ⟨back, hback⟩
    exact h.open_within hback.symm
  · rintro ⟨hinside, hclosed⟩
    refine ⟨fun front back hfront hback heq => ?_, hclosed⟩
    rcases List.eq_nil_or_concat back with hnil | ⟨back', c, hconcat⟩
    · exact absurd hnil hback
    · cases front with
      | nil => exact absurd rfl hfront
      | cons x front =>
          rw [hconcat, List.concat_eq_append, ← List.append_assoc] at heq
          have hbody := (List.append_inj' heq rfl).1
          rw [List.cons_append, List.cons.injEq] at hbody
          rw [hbody.1]
          exact hinside front ((List.mem_inits front body).mpr ⟨back', hbody.2⟩)

instance (body : Text) : Decidable (CompleteBlock body) :=
  decidable_of_iff _ (completeBlock_iff body).symm

/-! ### The forms of a body -/

section

variable {body : Text}

/-- A complete block is found where it stands, behind a test or behind nothing. -/
theorem CompleteBlock.split (h : CompleteBlock body) (before : Text)
    (hhidden : Nesting.exposes '{' {} before = false)
    (htop : (Nesting.after {} before).topLevel = true) :
    splitBlock (before ++ ('{' :: body ++ ['}'])) = some ⟨before, body, some []⟩ := by
  have hsplit := splitBlock_append hhidden htop h.staysOpen h.closed []
  rw [← hsplit]
  simp

/-- No character of a complete block stands at top level, if only the brace that
    opens it. -/
theorem CompleteBlock.hidden (h : CompleteBlock body) {sep : Char} (hsep : sep ≠ '{') :
    Nesting.exposes sep {} ('{' :: body ++ ['}']) = false := by
  rw [List.cons_append, Nesting.exposes_cons_eq_false]
  refine ⟨by simp [Ne.symm hsep], Nesting.exposes_of_open _ _ fun front back heq hback => ?_⟩
  exact h.inside ('{' :: front) back (List.cons_ne_nil _ _) hback
    (by rw [List.cons_append, ← heq]; rfl)

/-- Unwrapping a complete block leaves what is inside of it. -/
theorem unwrapBraces_of_block (h : CompleteBlock body) :
    unwrapBraces ('{' :: body ++ ['}']) = trim body := by
  have htrim : trim ('{' :: body ++ ['}']) = '{' :: body ++ ['}'] := by
    rw [trim, List.cons_append, trimStart_cons_of_solid (by decide), ← List.cons_append,
      trimEnd_append_of_solid (by decide)]
  refine unwrapBraces_of_single ?_
  rw [htrim]
  exact .closed h.staysOpen h.closed

/-- Trimming changes nothing about the declarations of a body. -/
theorem readDeclarations_trim (hbrace : (trim body).head? ≠ some '{') :
    readDeclarations (trim body) = readDeclarations body := by
  have htrim : (trim (trim body)).head? ≠ some '{' := by
    rw [trim_trim]
    exact hbrace
  simp only [readDeclarations, unwrapBraces_of_unbraced hbrace, unwrapBraces_of_unbraced htrim,
    trim_trim]

theorem readDeclarations_block (hbrace : (trim body).head? ≠ some '{') (h : CompleteBlock body) :
    readDeclarations ('{' :: body ++ ['}']) = readDeclarations body := by
  simp only [readDeclarations, unwrapBraces_of_block h, unwrapBraces_of_unbraced hbrace]

/-! ### The clauses of the forms -/

variable {units : Units}

theorem ofSegment_of_block (h : CompleteBlock body) :
    Clause.ofSegment units ('{' :: body ++ ['}']) = ⟨none, trim body⟩ := by
  have hstart : trimStart ('{' :: body ++ ['}']) = '{' :: body ++ ['}'] :=
    trimStart_cons_of_solid (by decide) _
  rw [Clause.ofSegment, hstart, unwrapBraces_of_block h]
  rfl

theorem ofSegment_of_tested_block (h : CompleteBlock body) :
    Clause.ofSegment units ("(min-width: 1px) ".toList ++ ('{' :: body ++ ['}']))
      = ⟨some (convertUnits units "(min-width: 1px)".toList), trim body⟩ := by
  have hsplit := h.split "(min-width: 1px) ".toList (by decide) (by decide)
  have htest : trim "(min-width: 1px) ".toList = "(min-width: 1px)".toList := by decide
  -- The text begins with a parenthesis, so there is nothing to trim, and `min` follows.
  have hcondition : Clause.ofSegment units ("(min-width: 1px) ".toList ++ ('{' :: body ++ ['}']))
      = Clause.ofCondition units ("(min-width: 1px) ".toList ++ ('{' :: body ++ ['}'])) := rfl
  simp only [hcondition, Clause.ofCondition, hsplit, htest]

theorem ofSegment_of_bare (hbrace : (trim body).head? ≠ some '{')
    (hopens : opensCondition (trimStart body) = false) :
    Clause.ofSegment units body = ⟨none, trim body⟩ := by
  have hunbraced : (trim (trimStart body)).head? ≠ some '{' := by
    rw [trim_trimStart]
    exact hbrace
  rw [Clause.ofSegment, hopens, unwrapBraces_of_unbraced hunbraced, trim_trimStart]
  rfl

theorem tested_block_hidden (h : CompleteBlock body) :
    Nesting.exposes ',' {} ("(min-width: 1px) ".toList ++ ('{' :: body ++ ['}'])) = false := by
  have hfresh : Nesting.after {} "(min-width: 1px) ".toList = {} := by decide
  rw [Nesting.exposes_append, hfresh, h.hidden (by decide)]
  decide

end

/-- The directive is compiled to a single rule, with this test and these declarations. -/
def CompilesTo (units : Units) (directive : Text) (test : Option Text)
    (declarations : List Declaration) : Prop :=
  ∀ id : Nat, (readDirective units directive).map (Clause.rule id)
    = [{ media := test, selector := { id }, declarations }]

/-- A directive of one clause whose declarations are a trimmed body. -/
theorem compilesTo_of_clause {units : Units} {directive body : Text} {test : Option Text}
    (hbrace : (trim body).head? ≠ some '{') (hcomma : Nesting.exposes ',' {} directive = false)
    (hclause : Clause.ofSegment units directive = ⟨test, trim body⟩) :
    CompilesTo units directive test (readDeclarations body) := by
  intro id
  rw [readDirective_of_hidden hcomma, hclause, List.map_singleton, Clause.rule,
    readDeclarations_trim hbrace]

/-- A body of declarations that does not begin with a brace, and that makes one block when
    braces are put around it, is compiled to the same declarations in four forms: as the
    fallback in braces, as a plain clause in braces, as a clause behind a test, and as a
    plain clause without braces, unless a comma would divide it or it would itself be
    taken for a test. -/
theorem block_forms_agree {body : Text} (hbrace : (trim body).head? ≠ some '{')
    (hblock : CompleteBlock body) (units : Units) :
    ∃ declarations,
      (∀ (id : Nat) (o : Options),
          fallbackRules id { o with fallback := some ('{' :: body ++ ['}']) }
            = [{ media := none, selector := { id, fallbackClass := some o.fallbackClass },
                 declarations }])
        ∧ CompilesTo units ('{' :: body ++ ['}']) none declarations
        ∧ CompilesTo units ("(min-width: 1px) ".toList ++ ('{' :: body ++ ['}']))
            (some (convertUnits units "(min-width: 1px)".toList)) declarations
        ∧ (Nesting.exposes ',' {} body = false → opensCondition (trimStart body) = false →
            CompilesTo units body none declarations) := by
  refine ⟨readDeclarations body, fun id o => ?_, ?_, ?_, fun hcomma hopens => ?_⟩
  · rw [← readDeclarations_block hbrace hblock]
    rfl
  · exact compilesTo_of_clause hbrace (hblock.hidden (by decide)) (ofSegment_of_block hblock)
  · exact compilesTo_of_clause hbrace (tested_block_hidden hblock)
      (ofSegment_of_tested_block hblock)
  · exact compilesTo_of_clause hbrace hcomma (ofSegment_of_bare hbrace hopens)

/-- A body with a block in it, with commas and braces in quotes and in brackets, and with
    white space around it. -/
def busyBody : Text :=
  (" \n src: url(\"a,\x7bb.png\") ; --x: \x7b a; b \x7d ; " ++
    "content: '\x7d, (' ; padding-top: ratio(9/16) ").toList

/-- Its declarations. -/
def busyDeclarations : List Declaration := [
  ⟨"background-image".toList, "url(\"a,\x7bb.png\")".toList⟩,
  ⟨"--x".toList, "\x7b a; b \x7d".toList⟩,
  ⟨"content".toList, "'\x7d, ('".toList⟩,
  ⟨"padding-top".toList, "56.25%".toList⟩]

/-- They are the same in all forms, although the test is written in ems. -/
theorem busy_body_compiled :
    (trim busyBody).head? ≠ some '{' ∧ CompleteBlock busyBody
      ∧ Nesting.exposes ',' {} busyBody = false ∧ opensCondition (trimStart busyBody) = false
      ∧ fallbackRules 7 { fallback := some ('{' :: busyBody ++ ['}']) }
          = [{ media := none, selector := { id := 7, fallbackClass := some defaultFallbackClass },
               declarations := busyDeclarations }]
      ∧ CompilesTo (.ems 16) ('{' :: busyBody ++ ['}']) none busyDeclarations
      ∧ CompilesTo (.ems 16) ("(min-width: 1px) ".toList ++ ('{' :: busyBody ++ ['}']))
          (some "(min-width: 0.0625em)".toList) busyDeclarations
      ∧ CompilesTo (.ems 16) busyBody none busyDeclarations := by
  have hbrace : (trim busyBody).head? ≠ some '{' := by decide
  have hblock : CompleteBlock busyBody := by decide +kernel
  have hcomma : Nesting.exposes ',' {} busyBody = false := by decide +kernel
  have hopens : opensCondition (trimStart busyBody) = false := by decide +kernel
  rcases block_forms_agree hbrace hblock (.ems 16) with
    ⟨declarations, hfallback, hplain, htested, hbare⟩
  have hrule : fallbackRules 7 { fallback := some ('{' :: busyBody ++ ['}']) }
      = [{ media := none, selector := { id := 7, fallbackClass := some defaultFallbackClass },
           declarations := busyDeclarations }] := by decide +kernel
  have hdeclarations : declarations = busyDeclarations := by
    have hsame := (hfallback 7 {}).symm.trans hrule
    rw [List.cons.injEq, ElementRule.mk.injEq] at hsame
    exact hsame.1.2.2
  have htest : convertUnits (.ems 16) "(min-width: 1px)".toList = "(min-width: 0.0625em)".toList :=
    by decide +kernel
  rw [hdeclarations] at hplain htested hbare
  rw [htest] at htested
  exact ⟨hbrace, hblock, hcomma, hopens, hrule, hplain, htested, hbare hcomma hopens⟩

end ResponsiveImages
