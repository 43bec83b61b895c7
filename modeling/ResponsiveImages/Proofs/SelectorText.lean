import Mathlib.Data.List.TakeWhile
import ResponsiveImages.Stylesheet.Computed
import ResponsiveImages.Proofs.TextPieces

/-!
# The Text of Element Selectors

The compiler prints the selector of a rule, and the style sheet is read back
from what was printed. This module carries a selector through both.

The number of an element is printed as a quoted attribute value, which the
reader takes apart without loss (`ofInner?_id`), and the class of a lazy
loader is printed in front of it in the same compound (`read_elementKey`).
None of this contains a comma or a blank, so a rule without a fallback class
has a single selector with a single compound.

A fallback class is an arbitrary text, and it is printed as it is. If it is a
plain name (`PlainName`) it comes back as a compound for an ancestor. Other
texts come apart: a comma in the name yields two selectors, and a blank two
compounds.

## Main definitions

* `elementKey`: The compound a printed element selector reads as.
* `elementComplex`: The complex selector of an element.
* `compoundsAbove`: The compounds a fallback class reads as.
* `PlainName`: Class names that are read back as they are printed.
* `Document.anyAbove`: Whether some element above a node has a class.

## Theorems

* `ofInner?_id`: The condition on the number of an element.
* `read_elementKey`: The compound of an element.
* `accepts_elementKey`: When an element meets that compound.
* `read_className`: The compound of a plain class name.
* `complexes_of_noComma`: The selector of a rule whose class has no comma.
* `complexes_styleRule`: The selectors of a compiled rule.
* `satisfies_elementComplex`: When such a selector matches an element.
-/

namespace ResponsiveImages

open Text

/-! ### The compound of an element -/

/-- The condition on the number of an element, as it is read. -/
def idAttribute (id : Nat) : AttributeCondition :=
  ⟨Attribute.id, decimal id⟩

/-- The compound a printed element selector reads as. -/
def elementKey (lazyLoaded : Bool) (id : Nat) : Compound where
  classes := if lazyLoaded then [lazyLoadedClass] else []
  attributes := [idAttribute id]

/-- What stands between the brackets of the condition on a number. -/
def idInner (id : Nat) : Text :=
  Attribute.id ++ '=' :: '\x22' :: decimal id ++ ['\x22']

theorem idCondition_eq (id : Nat) : idCondition id = '[' :: (idInner id ++ [']']) := by
  simp [idCondition, idInner]

/-- A property of all characters of a printed condition, from its fixed characters
    and the digits. -/
theorem forall_mem_idInner {p : Char → Prop} (id : Nat)
    (hfixed : ∀ c ∈ Attribute.id ++ ['=', '\x22'], p c)
    (hdigit : ∀ c : Char, c.isDigit = true → p c) : ∀ c ∈ idInner id, p c := by
  intro c hc
  simp only [idInner, List.mem_append, List.mem_cons, List.not_mem_nil, or_false] at hc
  rcases hc with (hname | heq | hquote | hnumber) | hquote
  · exact hfixed c (List.mem_append_left _ hname)
  · exact hfixed c (by rw [heq]; decide)
  · exact hfixed c (by rw [hquote]; decide)
  · exact hdigit c (decimal_isDigit hnumber)
  · exact hfixed c (by rw [hquote]; decide)

theorem unquote_quoted (s : Text) : unquote ('\x22' :: s ++ ['\x22']) = s := by
  have hinner : enclosed? ['\x22'] ['\x22'] ('\x22' :: s ++ ['\x22']) = some s :=
    enclosed?_append ['\x22'] ['\x22'] s
  rw [unquote, hinner]

/-- The condition on the number of an element is read as it was meant. -/
theorem ofInner?_id (id : Nat) :
    AttributeCondition.ofInner? (idInner id) = some (idAttribute id) := by
  -- The name is cut off at the first equals sign, and the rest is a quoted numeral.
  have hname : '=' ∉ Attribute.id := by decide
  have hvalue : ∀ c ∈ '\x22' :: decimal id ++ ['\x22'], isBlank c = false := by
    intro c hc
    simp only [List.cons_append, List.mem_cons, List.mem_append, List.not_mem_nil,
      or_false] at hc
    rcases hc with hquote | hnumber | hquote
    · rw [hquote]; decide
    · exact isBlank_of_isDigit (decimal_isDigit hnumber)
    · rw [hquote]; decide
  rw [AttributeCondition.ofInner?, idInner, List.append_assoc, List.cons_append,
    splitOnce?_append _ _ hname, Option.bind_some]
  simp only [trim_of_solid hvalue, unquote_quoted]
  rw [trim_of_solid (by decide), if_neg (by decide)]
  rfl

theorem parts_nil : parts [] = [] := by
  rw [parts]

theorem parts_cons_dot (s : Text) :
    parts ('.' :: s) = .className (s.takeWhile inName) :: parts (s.dropWhile inName) := by
  rw [parts, if_pos rfl]

theorem parts_cons_bracket (s : Text) :
    parts ('[' :: s)
      = .condition (s.takeWhile (· != ']')) :: parts ((s.dropWhile (· != ']')).drop 1) := by
  rw [parts, if_neg (by decide), if_pos rfl]

theorem parts_idCondition (id : Nat) : parts (idCondition id) = [.condition (idInner id)] := by
  have hall : ∀ c ∈ idInner id, (c != ']') = true :=
    forall_mem_idInner id (by decide) fun c hc => bne_iff_ne.mpr (isDigit_ne hc (by decide))
  have hstop : (']' != ']') = false := by decide
  rw [idCondition_eq, parts_cons_bracket, takeWhile_append_stop (p := (· != ']')) hstop,
    dropWhile_append_stop (p := (· != ']')) hstop, List.takeWhile_eq_self_iff.mpr hall,
    List.dropWhile_eq_nil_iff.mpr hall, List.nil_append, List.drop_one, List.tail_cons,
    parts_nil]

/-- The compound of a text that does not begin with a tag. -/
theorem read_of_mark {c : Char} {s : Text} (hc : Compound.opensTag [c] = false) :
    Compound.read (c :: s) = (parts (c :: s)).foldl Compound.addPart {} := by
  have htag : Compound.opensTag (c :: s) = false := hc
  simp only [Compound.read, Compound.tagOf, htag, Bool.false_eq_true, false_and, if_false]

/-- The compound of an element. -/
theorem read_elementKey (lazyLoaded : Bool) (id : Nat) :
    Compound.read ((if lazyLoaded then '.' :: lazyLoadedClass else []) ++ idCondition id)
      = elementKey lazyLoaded id := by
  cases lazyLoaded with
  | false =>
      rw [if_neg (by decide), List.nil_append, idCondition_eq, read_of_mark (by decide),
        ← idCondition_eq, parts_idCondition, List.foldl_cons, List.foldl_nil,
        Compound.addPart, ofInner?_id]
      rfl
  | true =>
      -- The class ends where the bracket of the condition begins.
      have hstop : inName '[' = false := by decide
      have hall : lazyLoadedClass.takeWhile inName = lazyLoadedClass := by decide
      have hnone : lazyLoadedClass.dropWhile inName = [] := by decide
      have hparts : parts ('.' :: (lazyLoadedClass ++ idCondition id))
          = [.className lazyLoadedClass, .condition (idInner id)] := by
        rw [parts_cons_dot, idCondition_eq, takeWhile_append_stop hstop,
          dropWhile_append_stop hstop, hall, hnone, List.nil_append, ← idCondition_eq,
          parts_idCondition]
      rw [if_pos rfl, List.cons_append, read_of_mark (by decide), hparts, List.foldl_cons,
        List.foldl_cons, List.foldl_nil]
      simp only [Compound.addPart, ofInner?_id]
      rfl

/-- The compound as it is printed, without the space at the end. -/
def elementText (lazyLoaded : Bool) (id : Nat) : Text :=
  (if lazyLoaded then '.' :: lazyLoadedClass else []) ++ idCondition id

theorem forall_mem_elementText {p : Char → Prop} (lazyLoaded : Bool) (id : Nat)
    (hfixed : ∀ c ∈ '.' :: lazyLoadedClass ++ Attribute.id ++ ['=', '\x22', '[', ']'], p c)
    (hdigit : ∀ c : Char, c.isDigit = true → p c) : ∀ c ∈ elementText lazyLoaded id, p c := by
  have hid : ∀ c ∈ idCondition id, p c := by
    intro c hc
    rw [idCondition_eq, List.mem_cons, List.mem_append, List.mem_singleton] at hc
    rcases hc with hopen | hinner | hclose
    · exact hfixed c (by rw [hopen]; decide)
    · refine forall_mem_idInner id (fun x hx => hfixed x ?_) hdigit c hinner
      rcases List.mem_append.mp hx with hname | hmark
      · exact List.mem_append_left _ (List.mem_append_right _ hname)
      · refine List.mem_append_right _ ?_
        simp only [List.mem_cons, List.not_mem_nil, or_false] at hmark ⊢
        rcases hmark with h | h <;> simp [h]
    · exact hfixed c (by rw [hclose]; decide)
  intro c hc
  rw [elementText, List.mem_append] at hc
  rcases hc with hclass | hcondition
  · cases lazyLoaded with
    | false => exact absurd hclass (List.not_mem_nil)
    | true => exact hfixed c (List.mem_append_left _ (List.mem_append_left _ hclass))
  · exact hid c hcondition

theorem elementText_solid (lazyLoaded : Bool) (id : Nat) :
    ∀ c ∈ elementText lazyLoaded id, isBlank c = false :=
  forall_mem_elementText lazyLoaded id (by decide) fun _ hc => isBlank_of_isDigit hc

theorem elementText_noComma (lazyLoaded : Bool) (id : Nat) : ',' ∉ elementText lazyLoaded id := by
  intro hmem
  exact forall_mem_elementText (p := fun c => c ≠ ',') lazyLoaded id (by decide)
    (fun _ hc => isDigit_ne hc (by decide)) ',' hmem rfl

theorem elementText_ne_nil (lazyLoaded : Bool) (id : Nat) : elementText lazyLoaded id ≠ [] := by
  rw [elementText, idCondition_eq]
  simp

/-! ### Selectors that are read back -/

/-- A complex selector of an element, with the class its ancestors are asked for. -/
def elementComplex (s : ElementSelector) : Complex where
  key := elementKey s.lazyLoaded s.id
  ancestors :=
    match s.fallbackClass with
    | some c => [{ classes := [c] }]
    | none => []

/-- A class name that is read back from a selector as it is printed into it. -/
structure PlainName (c : Text) : Prop where
  ne_nil : c ≠ []
  solid : ∀ x ∈ c, isBlank x = false
  noComma : ',' ∉ c
  noDot : '.' ∉ c
  noBracket : '[' ∉ c

instance (c : Text) : Decidable (PlainName c) :=
  decidable_of_iff
    (c ≠ [] ∧ (∀ x ∈ c, isBlank x = false) ∧ ',' ∉ c ∧ '.' ∉ c ∧ '[' ∉ c)
    ⟨fun h => ⟨h.1, h.2.1, h.2.2.1, h.2.2.2.1, h.2.2.2.2⟩,
      fun h => ⟨h.ne_nil, h.solid, h.noComma, h.noDot, h.noBracket⟩⟩

theorem text_eq (s : ElementSelector) :
    s.text = (match s.fallbackClass with
      | some c => '.' :: c ++ [' ']
      | none => []) ++ (elementText s.lazyLoaded s.id ++ [' ']) := by
  unfold ElementSelector.text elementText
  cases s.fallbackClass with
  | none => simp only [List.append_assoc]
  | some c => simp only [List.append_assoc]

theorem words_elementText (lazyLoaded : Bool) (id : Nat) :
    words (elementText lazyLoaded id ++ [' ']) = [elementText lazyLoaded id] := by
  rw [words_append_blank (by decide), words_nil, List.append_nil,
    words_of_solid (elementText_solid lazyLoaded id) (elementText_ne_nil lazyLoaded id)]

/-- A plain class name reads as a compound of one class. -/
theorem read_className {c : Text} (hc : PlainName c) :
    Compound.read ('.' :: c) = { classes := [c] } := by
  have hname : ∀ x ∈ c, inName x = true := by
    intro x hx
    rw [inName, Bool.and_eq_true, bne_iff_ne, bne_iff_ne]
    exact ⟨fun h => hc.noDot (h ▸ hx), fun h => hc.noBracket (h ▸ hx)⟩
  rw [read_of_mark (by decide), parts_cons_dot, List.takeWhile_eq_self_iff.mpr hname,
    List.dropWhile_eq_nil_iff.mpr hname, parts_nil, List.foldl_cons, List.foldl_nil,
    Compound.addPart, if_neg (by simpa using hc.ne_nil)]
  rfl

/-- The compounds for the nodes above an element that a fallback class is read as,
    nearest first. -/
def compoundsAbove (fallbackClass : Option Text) : List Compound :=
  match fallbackClass with
  | some c => (words ('.' :: c)).reverse.map Compound.read
  | none => []

/-- The selector of a rule whose fallback class has no comma in it, if there is one.
    Whatever the class does to the compounds for the nodes above, the last compound
    is that of the element. -/
theorem complexes_of_noComma (r : ElementRule)
    (hcomma : ∀ c, r.selector.fallbackClass = some c → ',' ∉ c) :
    (r.styleRule.selector.splitOn ',').map Complex.read
      = [{ key := elementKey r.selector.lazyLoaded r.selector.id
           ancestors := compoundsAbove r.selector.fallbackClass }] := by
  rcases r with ⟨media, ⟨id, lazyLoaded, fallbackClass⟩, declarations⟩
  have helement : ',' ∉ elementText lazyLoaded id ++ [' '] := by
    rw [List.mem_append, not_or]
    exact ⟨elementText_noComma lazyLoaded id, by decide⟩
  show (List.splitOn ',' (ElementSelector.text _)).map Complex.read = _
  rw [text_eq]
  -- Without a comma there is one selector, and its words are its compounds.
  cases fallbackClass with
  | none =>
      rw [List.nil_append, List.splitOn_eq_singleton helement, List.map_cons, List.map_nil,
        Complex.read, words_elementText, List.reverse_singleton]
      simp only [elementText, read_elementKey]
      rfl
  | some c =>
      have hnone : ',' ∉ ('.' :: c ++ [' ']) ++ (elementText lazyLoaded id ++ [' ']) := by
        rw [List.mem_append, not_or, List.mem_append, not_or, List.mem_cons, not_or]
        exact ⟨⟨⟨by decide, hcomma c rfl⟩, by decide⟩, helement⟩
      have hwords : words (('.' :: c ++ [' ']) ++ (elementText lazyLoaded id ++ [' ']))
          = words ('.' :: c) ++ [elementText lazyLoaded id] := by
        rw [List.append_assoc, List.singleton_append, words_append_blank (by decide),
          words_elementText]
      rw [List.splitOn_eq_singleton hnone, List.map_cons, List.map_nil, Complex.read, hwords,
        List.reverse_append, List.reverse_singleton, List.singleton_append]
      simp only [elementText, read_elementKey]
      rfl

/-- The selectors of a rule whose fallback class is plain, if it has one: the one
    that was meant. -/
theorem complexes_styleRule (r : ElementRule)
    (hplain : ∀ c, r.selector.fallbackClass = some c → PlainName c) :
    (r.styleRule.selector.splitOn ',').map Complex.read = [elementComplex r.selector] := by
  rw [complexes_of_noComma r fun c hc => (hplain c hc).noComma]
  congr 2
  cases hclass : r.selector.fallbackClass with
  | none => rfl
  | some c =>
      have hc := hplain c hclass
      have hsolid : ∀ x ∈ '.' :: c, isBlank x = false := by
        intro x hx
        rcases List.mem_cons.mp hx with hdot | hmem
        · rw [hdot]; decide
        · exact hc.solid x hmem
      -- A name without blanks is one word, and without marks one class.
      simp only [compoundsAbove, words_of_solid hsolid (List.cons_ne_nil _ _),
        List.reverse_singleton, List.map_cons, List.map_nil, read_className hc]

/-! ### When they match -/

theorem accepts_elementKey (e : Element) (lazyLoaded : Bool) (id : Nat) :
    (elementKey lazyLoaded id).accepts e
      = ((!lazyLoaded || e.hasClass lazyLoadedClass)
        && e.attributes.get? Attribute.id == some (decimal id)) := by
  cases lazyLoaded with
  | false => simp [Compound.accepts, elementKey, idAttribute]
  | true => simp [Compound.accepts, elementKey, idAttribute]

/-- A single compound is met along a chain if some node meets it. -/
theorem matchesChain_singleton (accepts : NodeId → Compound → Bool) (c : Compound)
    (chain : List NodeId) :
    matchesChain accepts chain [c] = chain.any fun i => accepts i c := by
  induction chain with
  | nil => rfl
  | cons i chain ih =>
      rw [matchesChain, List.any_cons, ih]
      cases h : accepts i c with
      | false => rfl
      | true => cases chain <;> rfl

/-- Whether some element above a node has a class. -/
def Document.anyAbove (d : Document) (i : NodeId) (name : Text) : Bool :=
  (d.ancestors i).any fun a => (d.element? a).any fun e => e.hasClass name

/-- When the selector of a compiled rule matches an element. -/
theorem satisfies_elementComplex (d : Document) (i : NodeId) (e : Element)
    (he : d.element? i = some e) (s : ElementSelector) :
    d.satisfies i (elementComplex s)
      = ((!s.lazyLoaded || e.hasClass lazyLoadedClass)
        && e.attributes.get? Attribute.id == some (decimal s.id)
        && s.fallbackClass.all fun c => d.anyAbove i c) := by
  have hkey : d.accepts i (elementKey s.lazyLoaded s.id)
      = (elementKey s.lazyLoaded s.id).accepts e := by
    rw [Document.accepts, he]
  rw [Document.satisfies, elementComplex, hkey, accepts_elementKey]
  congr 1
  -- The key asks for number and release, and what is left is asked of the ancestors.
  cases s.fallbackClass with
  | none => cases d.ancestors i <;> rfl
  | some c =>
      rw [matchesChain_singleton, Option.all_some, Document.anyAbove]
      refine List.any_congr rfl fun a => ?_
      rw [Document.accepts]
      cases d.element? a with
      | none => rfl
      | some above => simp [Compound.accepts]

end ResponsiveImages
