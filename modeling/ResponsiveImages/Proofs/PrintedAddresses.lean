import ResponsiveImages.Live.Source
import ResponsiveImages.Stylesheet.Normalized
import ResponsiveImages.Proofs.SelectorText
import ResponsiveImages.Proofs.StyleTokens

/-!
# Addresses as They Are Printed

What an image shows after its address has gone through the normal form of
style text and back.

An address can be written in many ways: in quotes of either kind, in no quotes
at all, with escapes, with space and comments around it. In normal form there
is one way left (`normalize_source`). The address is quoted, and a double
quote or a backslash in it is marked with a backslash (`printedAddress`).

Two readers take that apart again. The reader of style text knows about marks
and finds the address it was printed for (`whole?_printedAddress`). The one
that finds the location for an image does not: it takes the wrapper and the
quotes off and leaves the marks in (`extractSource?_printedAddress`). For most
locations this is the same, blanks and parentheses included, but one with a
double quote or a backslash in it comes out as another one
(`quote_keeps_its_mark`).

The value of a declaration is found in three steps, each by its own lemma. The
text is cut into tokens, where the value has the property in front of it
(`tokenize_declaration`); a value that is read as an address has a single
component that is not white space (`whole?_url`); and an address is an image
in any of the contexts that ask for one (`run_image`).

## Main definitions

* `escaped`: A text with its double quotes and backslashes marked.
* `printedAddress`: An address in normal form.
* `NoControl`, `Location`: The texts that are locations of images.
* `sourceComponents`: The components of a declaration of the image.

## Theorems

* `escaped_eq_self_iff`: The texts without marks.
* `urlText_ordinary`: An address is printed quoted and marked.
* `extractSource?_printedAddress`: The location taken out of a printed address.
* `read?_source`: An address as the value of the property.
* `readString_escaped`, `whole?_printedAddress`: The marks are read as what they mean.
* `normalize_source`: The normal form of a declared address.
* `location_of_printed_address`: The way there and back.
-/

namespace ResponsiveImages

open Text

/-! ### Addresses as they are printed -/

/-- Whether a character has a backslash in front of it in a quoted text. -/
def isMarked (c : Char) : Bool :=
  c == '\x22' || c == '\\'

/-- A text with a backslash in front of every double quote and every backslash. -/
def escaped (s : Text) : Text :=
  s.flatMap fun c => if isMarked c then ['\\', c] else [c]

/-- The address of an image, quoted and escaped. -/
def printedAddress (s : Text) : Text :=
  "url(".toList ++ ('\x22' :: escaped s ++ ['\x22']) ++ [')']

/-- Whether a text has no control character in it. -/
def NoControl (s : Text) : Prop :=
  ∀ c ∈ s, c.toNat ≠ 0 ∧ Css.isControl c = false

instance : DecidablePred NoControl := fun s =>
  inferInstanceAs (Decidable (∀ c ∈ s, c.toNat ≠ 0 ∧ Css.isControl c = false))

/-- The locations of images, which are not empty and not the word for no image at all. -/
structure Location (s : Text) : Prop where
  ne_nil : s ≠ []
  ne_none : s ≠ "none".toList
  noControl : NoControl s

theorem NoControl.tail {c : Char} {s : Text} (h : NoControl (c :: s)) : NoControl s :=
  fun x hx => h x (List.mem_cons_of_mem _ hx)

theorem escaped_cons (c : Char) (s : Text) :
    escaped (c :: s) = (if isMarked c then ['\\', c] else [c]) ++ escaped s :=
  List.flatMap_cons

theorem length_escaped (s : Text) : (escaped s).length = s.length + s.countP isMarked := by
  induction s with
  | nil => rfl
  | cons c s ih =>
      rw [escaped_cons, List.length_append, ih, List.length_cons, List.countP_cons]
      split <;> simp <;> omega

theorem isMarked_eq_false_iff (c : Char) : isMarked c = false ↔ c ≠ '\x22' ∧ c ≠ '\\' := by
  simp only [isMarked, Bool.or_eq_false_iff, beq_eq_false_iff_ne]

/-- A text is written as it is if it has no character that is marked. -/
theorem escaped_eq_self_iff (s : Text) : escaped s = s ↔ '\x22' ∉ s ∧ '\\' ∉ s := by
  constructor
  · intro h
    -- Every mark makes the text longer.
    have hlength : s.length + s.countP isMarked = s.length := by rw [← length_escaped, h]
    have hcount : s.countP isMarked = 0 := by omega
    have hnone := List.countP_eq_zero.mp hcount
    exact ⟨fun hquote => hnone _ hquote rfl, fun hback => hnone _ hback rfl⟩
  · intro ⟨hquote, hback⟩
    have hplain : ∀ c ∈ s, (if isMarked c then ['\\', c] else [c]) = [c] := by
      intro c hc
      have hmark : isMarked c = false :=
        (isMarked_eq_false_iff c).mpr ⟨fun h => hquote (h ▸ hc), fun h => hback (h ▸ hc)⟩
      rw [hmark, if_neg Bool.false_ne_true]
    rw [escaped, List.flatMap_congr hplain, List.flatMap_singleton']

theorem backslash_mem_escaped {s : Text} {c : Char} (hc : c ∈ s) (hmark : isMarked c = true) :
    '\\' ∈ escaped s := by
  refine List.mem_flatMap.mpr ⟨c, hc, ?_⟩
  rw [if_pos hmark]
  exact List.mem_cons_self

theorem Location.escaped_ne_none {s : Text} (h : Location s) : escaped s ≠ "none".toList := by
  intro hnone
  have hback : ∀ c ∈ s, ¬ isMarked c = true := by
    intro c hc hmark
    exact absurd (hnone ▸ backslash_mem_escaped hc hmark) (by decide)
  have hself : escaped s = s :=
    (escaped_eq_self_iff s).mpr ⟨fun hc => hback _ hc rfl, fun hc => hback _ hc rfl⟩
  exact h.ne_none (hself ▸ hnone)

/-- An address without control characters is printed with marks in front of its
    double quotes and backslashes. -/
theorem urlText_ordinary {s : Text} (h : NoControl s) :
    Css.urlText .ordinary s = printedAddress s := by
  have hinner : (s.flatMap fun c =>
      if c = '\x22' ∨ c = '\\' then ['\\', c]
      else if c.toNat = 0 then [Css.replacement]
      else if Css.isControl c then Css.hexEscape c
      else [c]) = escaped s := by
    refine List.flatMap_congr fun c hc => ?_
    obtain ⟨hzero, hcontrol⟩ := h c hc
    simp only [isMarked, Bool.or_eq_true, beq_iff_eq, if_neg hzero, hcontrol,
      Bool.false_eq_true, if_false]
  show "url(".toList ++ ('\x22' :: List.flatMap _ s ++ ['\x22']) ++ [')'] = _
  rw [hinner]
  rfl

/-! ### What is taken out of them -/

theorem unwrapUrl_printedAddress (s : Text) :
    unwrapUrl (printedAddress s) = '\x22' :: escaped s ++ ['\x22'] := by
  have hparts : printedAddress s
      = "url(".toList ++ (('\x22' :: escaped s ++ ['\x22']) ++ ")".toList) := rfl
  have hwhole : printedAddress s
      = 'u' :: ("rl(".toList ++ ('\x22' :: escaped s ++ ['\x22'])) ++ [')'] := rfl
  have htrim : trim (printedAddress s) = printedAddress s := by
    rw [hwhole, trim_between (by decide) (by decide)]
  rw [unwrapUrl, htrim, hparts, enclosed?_append]
  exact trim_between (by decide) (by decide) _

/-- What is taken out of a printed address is all that stands between the quotes, the
    marks included. -/
theorem extractSource?_printedAddress {s : Text} (h : Location s) :
    extractSource? (printedAddress s) = some (escaped s) := by
  have hnil : escaped s ≠ [] := by
    intro hnil
    have hlength := length_escaped s
    rw [hnil, List.length_nil] at hlength
    exact h.ne_nil (List.eq_nil_of_length_eq_zero (by omega))
  have hsource : ((escaped s).isEmpty || escaped s == "none".toList) = false := by
    rw [Bool.or_eq_false_iff, List.isEmpty_eq_false_iff, beq_eq_false_iff_ne]
    exact ⟨hnil, h.escaped_ne_none⟩
  simp only [extractSource?, unwrapUrl_printedAddress, unquote_quoted, hsource,
    Bool.false_eq_true, if_false]

namespace Css

/-! ### Values that are an address -/

theorem run_one {α : Type} (f : Component → Option α) (c : Component) (rest : List Component) :
    (Reader.one f).run (c :: rest) = (f c).map fun a => (a, rest) := by
  unfold Reader.one
  rw [StateT.run_bind]
  show Option.bind (some (c, rest)) _ = _
  cases hf : f c with
  | none =>
      simp only [Option.bind_some, hf]
      rfl
  | some a =>
      simp only [Option.bind_some, hf]
      rfl

/-- A value that is read as an address has a single component in it. -/
theorem whole?_url {cs : List Component} {s : Text} (h : Reader.url.whole? cs = some s) :
    ∃ c, significant cs = [c] ∧ Reader.url.run [c] = some (s, []) := by
  unfold Reader.whole? at h
  split at h
  · next hrun =>
      cases h
      cases hcs : significant cs with
      | nil =>
          rw [hcs] at hrun
          cases hrun
      | cons c rest =>
          -- The reader takes one component, and nothing is left behind it.
          rw [hcs, Reader.url, run_one, Option.map_eq_some_iff] at hrun
          obtain ⟨a, ha, hpair⟩ := hrun
          obtain ⟨rfl, rfl⟩ := Prod.mk.inj hpair
          refine ⟨c, rfl, ?_⟩
          rw [Reader.url, run_one, ha]
          rfl
  · cases h

/-- An address is an image. -/
theorem run_image {c : Component} {s : Text} (h : Reader.url.run [c] = some (s, [])) :
    Reader.image.run [c] = some (.url s, []) := by
  -- Of the kinds of images, the word for none is tried before addresses.
  have hword : (Reader.keywordIn "none").run [c] = none := by
    cases c with
    | token t =>
      cases t with
      | url _ => rfl
      | _ => cases h
    | block b body => rfl
    | function name arguments => rfl
  have hurl : (Atom.url <$> Reader.url).run [c] = some (Atom.url s, []) := by
    rw [StateT.run_map, h]
    rfl
  show ((Reader.keywordIn "none").run [c] <|> ((Atom.url <$> Reader.url).run [c] <|> _)) = _
  rw [hword, hurl]
  rfl

theorem isComma_of_url {c : Component} {s : Text} (h : Reader.url.run [c] = some (s, [])) :
    c.isComma = false := by
  cases c with
  | token t =>
    cases t with
    | comma => cases h
    | _ => rfl
  | block b body => rfl
  | function name arguments => rfl

theorem known?_source :
    ((Property.known? sourceProperty).map Prod.snd == some Property.allName) = false := by
  set_option maxRecDepth 4000 in rfl

theorem ofName?_source :
    (Property.ofName? sourceProperty).map Property.reader = some (Reader.atoms Reader.image) := by
  set_option maxRecDepth 4000 in rfl

theorem run_layer (r : Reader Atom) (cs : List Component) :
    (do return [← r] : Reader (List Atom)).run cs
      = (r.run cs).map fun (a, rest) => ([a], rest) := by
  show ((r.run cs).bind fun p => some ([p.1], p.2)) = _
  cases r.run cs <;> rfl

theorem run_atoms (r : Reader Atom) (cs : List Component) :
    (Reader.atoms r).run cs
      = ((cs.splitOnP Component.isComma).mapM (Reader.whole? (do return [← r]))).map
          fun ls => (ls, []) :=
  rfl

/-- A value of a single component is a single layer. -/
theorem whole?_atoms {r : Reader Atom} {cs : List Component} {c : Component} {a : Atom}
    (hc : significant cs = [c]) (hcomma : c.isComma = false) (hr : r.run [c] = some (a, [])) :
    (Reader.atoms r).whole? cs = some [[a]] := by
  have hwhite : significant [c] = [c] := by
    rw [← hc]
    simp only [significant, List.filter_filter, Bool.and_self]
  have hlayer : (do return [← r] : Reader (List Atom)).whole? [c] = some [a] := by
    rw [Reader.whole?, hwhite, run_layer, hr]
    rfl
  have hpieces : [c].splitOnP Component.isComma = [[c]] :=
    List.splitOnP_eq_singleton (by simpa using hcomma)
  have hlayers : (Reader.atoms r).run [c] = some ([[a]], []) := by
    rw [run_atoms, hpieces, List.mapM_cons, hlayer]
    rfl
  rw [Reader.whole?, hc, hlayers]

theorem read?_source {cs : List Component} {s : Text} (h : Reader.url.whole? cs = some s) :
    Value.read? sourceProperty cs = some (.layers [[.url s]]) := by
  have hreader : ((Property.ofName? sourceProperty).bind fun p => p.reader.whole? cs)
      = some [[.url s]] := by
    obtain ⟨c, hc, hrun⟩ := whole?_url h
    obtain ⟨p, hp, hreads⟩ := Option.map_eq_some_iff.mp ofName?_source
    rw [hp, Option.bind_some, hreads, whole?_atoms hc (isComma_of_url hrun) (run_image hrun)]
  rw [Value.read?, known?_source, if_neg (by decide), hreader]

/-! ### Declarations of an image -/

/-- A component inside of a value, which neither ends it nor the declaration. -/
structure Component.Inside (c : Component) : Prop where
  noSemicolon : c.isSemicolon = false
  noEnd : endsValue false c = false

theorem Component.Inside.of_isWhite {c : Component} (h : c.isWhite = true) : c.Inside := by
  cases c with
  | token t =>
    cases t with
    | white w => exact ⟨rfl, rfl⟩
    | comment w => exact ⟨rfl, rfl⟩
    | _ => cases h
  | block b body => cases h
  | function name arguments => cases h

theorem Component.Inside.of_url {c : Component} {s : Text}
    (h : Reader.url.run [c] = some (s, [])) : c.Inside := by
  cases c with
  | token t =>
    cases t with
    | url _ => exact ⟨rfl, rfl⟩
    | _ => cases h
  | block b body => cases h
  | function name arguments => exact ⟨rfl, rfl⟩

theorem inside_of_whole?_url {cs : List Component} {s : Text}
    (h : Reader.url.whole? cs = some s) : ∀ c ∈ cs, c.Inside := by
  obtain ⟨u, hu, hrun⟩ := whole?_url h
  intro c hc
  by_cases hwhite : c.isWhite = true
  · exact .of_isWhite hwhite
  · have hmem : c ∈ significant cs := List.mem_filter.mpr ⟨hc, by simpa using hwhite⟩
    rw [hu, List.mem_singleton] at hmem
    exact hmem ▸ .of_url hrun

/-- The components of a declaration of the image, given those of its value. -/
def sourceComponents (w : Text) (cs : List Component) : List Component :=
  .token (.ident sourceProperty) :: .token .colon :: .token (.white w) :: cs

theorem entryRead?_source {cs : List Component} {s : Text} (w : Text)
    (h : Reader.url.whole? cs = some s) :
    Entry.read? (sourceComponents w cs)
      = some { property := sourceProperty, value := .layers [[.url s]], important := false } := by
  have hinside : ∀ c ∈ .token (.white w) :: cs, (!endsValue false c) = true := by
    intro c hc
    rcases List.mem_cons.mp hc with rfl | hc
    · rfl
    · rw [(inside_of_whole?_url h c hc).noEnd]
      rfl
  have hvalue : Reader.url.whole? (.token (.white w) :: cs) = some s := h
  have hname : splitName sourceProperty = (none, sourceProperty) := by
    set_option maxRecDepth 4000 in rfl
  have hcustom : isCustom sourceProperty = false := by decide
  have hcolon : List.dropWhile Component.isWhite (.token .colon :: .token (.white w) :: cs)
      = .token .colon :: .token (.white w) :: cs := rfl
  unfold Entry.read? sourceComponents
  simp only [hcolon, hcustom, hname]
  rw [List.takeWhile_eq_self_iff.mpr hinside, List.dropWhile_eq_nil_iff.mpr hinside,
    read?_source hvalue]
  rfl

theorem readEntries?_source {cs : List Component} {s : Text} (w : Text)
    (h : Reader.url.whole? cs = some s) :
    readEntries? (sourceComponents w cs)
      = some [{ property := sourceProperty, value := .layers [[.url s]], important := false }] := by
  have hsemicolon : ∀ c ∈ sourceComponents w cs, c.isSemicolon = false := by
    intro c hc
    simp only [sourceComponents, List.mem_cons] at hc
    rcases hc with rfl | rfl | rfl | hc
    · rfl
    · rfl
    · rfl
    · exact (inside_of_whole?_url h c hc).noSemicolon
  have hpieces : entryComponents (sourceComponents w cs) = [sourceComponents w cs] := by
    rw [entryComponents, List.splitOnP_eq_singleton hsemicolon]
    rfl
  rw [readEntries?, hpieces, List.mapM_cons, entryRead?_source w h]
  rfl

/-! ### Declarations as they are cut into tokens -/

theorem tokenize_declaration (v : Text) :
    tokenize (sourceProperty ++ ':' :: ' ' :: v)
      = .ident sourceProperty :: .colon :: .white (' ' :: v.takeWhile isWhite)
        :: tokenize (v.dropWhile isWhite) := by
  have hname : ∀ x ∈ sourceProperty, inName x = true ∧ x.toNat ≠ 0 := by decide
  have hread : ∀ t : Text, takeToken 'b' ("ackground-image".toList ++ ':' :: t)
      = (.ident sourceProperty, ':' :: t) := by
    intro t
    have hident : takeToken 'b' ("ackground-image".toList ++ ':' :: t)
        = Token.readIdent (sourceProperty ++ ':' :: t) := rfl
    rw [hident, Token.readIdent, readName_whole t hname (by decide) (by decide)]
    rfl
  have hcut : sourceProperty ++ ':' :: ' ' :: v
      = 'b' :: ("ackground-image".toList ++ ':' :: ' ' :: v) := rfl
  have hcolon : takeToken ':' (' ' :: v) = (.colon, ' ' :: v) := rfl
  rw [hcut, tokenize_cons, hread, tokenize_cons, hcolon, tokenize_white (by decide)]

theorem components_declaration (v : Text) :
    components (sourceProperty ++ ':' :: ' ' :: v)
      = sourceComponents (' ' :: v.takeWhile isWhite) (components (v.dropWhile isWhite)) := by
  rw [components, tokenize_declaration]
  rfl

theorem significant_dropWhile (v : Text) :
    significant (components (v.dropWhile isWhite)) = significant (components v) := by
  cases v with
  | nil => rfl
  | cons c rest =>
      by_cases hc : isWhite c = true
      · rw [List.dropWhile_cons, if_pos hc, components, components, tokenize_white hc]
        rfl
      · rw [List.dropWhile_cons, if_neg hc]

/-- The characters that print as themselves are no line ends. -/
theorem isNewline_of_not_isControl {c : Char} (h : isControl c = false) : isNewline c = false := by
  rw [Bool.eq_false_iff]
  intro hnewline
  simp only [isNewline, Bool.or_eq_true, beq_iff_eq] at hnewline
  rcases hnewline with (rfl | rfl) | rfl <;> exact absurd h (by decide)

theorem readString_marked {c : Char} (hmark : isMarked c = true) (fuel : Nat) (rest : Text) :
    readString '\x22' (fuel + 1) ('\\' :: c :: rest)
      = ((readString '\x22' fuel rest).1.map (c :: ·), (readString '\x22' fuel rest).2) := by
  simp only [isMarked, Bool.or_eq_true, beq_iff_eq] at hmark
  rcases hmark with rfl | rfl <;> rfl

theorem readString_plain {c : Char} (hmark : isMarked c = false) (hzero : c.toNat ≠ 0)
    (hcontrol : isControl c = false) (fuel : Nat) (rest : Text) :
    readString '\x22' (fuel + 1) (c :: rest)
      = ((readString '\x22' fuel rest).1.map (c :: ·), (readString '\x22' fuel rest).2) := by
  obtain ⟨hquote, hback⟩ := (isMarked_eq_false_iff c).mp hmark
  rw [readString.eq_def]
  simp only [if_neg hquote, isNewline_of_not_isControl hcontrol, if_neg hback, if_neg hzero,
    Bool.false_eq_true, if_false]

/-- A printed text is read up to its closing quote, and the marks are taken out. -/
theorem readString_escaped {s : Text} (h : NoControl s)
    (rest : Text) {fuel : Nat} (hfuel : s.length < fuel) :
    readString '\x22' fuel (escaped s ++ '\x22' :: rest) = (some s, rest) := by
  induction s generalizing fuel with
  | nil =>
      cases fuel with
      | zero => exact absurd hfuel (Nat.not_lt_zero _)
      | succ fuel => rfl
  | cons c s ih =>
      cases fuel with
      | zero => exact absurd hfuel (Nat.not_lt_zero _)
      | succ fuel =>
          have hread := ih h.tail (Nat.lt_of_succ_lt_succ hfuel)
          obtain ⟨hzero, hcontrol⟩ := h c List.mem_cons_self
          rw [escaped_cons]
          cases hmark : isMarked c with
          | true =>
              rw [if_pos rfl, List.append_assoc]
              show readString _ _ ('\\' :: c :: (escaped s ++ '\x22' :: rest)) = _
              rw [readString_marked hmark, hread]
              rfl
          | false =>
              rw [if_neg Bool.false_ne_true, List.append_assoc]
              show readString _ _ (c :: (escaped s ++ '\x22' :: rest)) = _
              rw [readString_plain hmark hzero hcontrol, hread]
              rfl

theorem tokenize_printedAddress {s : Text} (h : NoControl s) :
    tokenize (printedAddress s) = [.function "url".toList, .string s, .closing .round] := by
  have hcut : printedAddress s
      = 'u' :: ("rl".toList ++ '(' :: '\x22' :: (escaped s ++ '\x22' :: [')'])) := by
    have hend : escaped s ++ '\x22' :: [')'] = (escaped s ++ ['\x22']) ++ [')'] := by
      rw [List.append_assoc]
      rfl
    rw [hend]
    rfl
  have hname : ∀ x ∈ "url".toList, inName x = true ∧ x.toNat ≠ 0 := by decide
  have hfunction : ∀ t : Text, takeToken 'u' ("rl".toList ++ '(' :: '\x22' :: t)
      = (.function "url".toList, '\x22' :: t) := by
    intro t
    have hident : takeToken 'u' ("rl".toList ++ '(' :: '\x22' :: t)
        = Token.readIdent ("url".toList ++ '(' :: '\x22' :: t) := rfl
    rw [hident, Token.readIdent, readName_whole _ hname (by decide) (by decide)]
    rfl
  have hstring : takeToken '\x22' (escaped s ++ '\x22' :: [')']) = (.string s, [')']) := by
    have hquoted : takeToken '\x22' (escaped s ++ '\x22' :: [')'])
        = Token.readQuoted '\x22' (escaped s ++ '\x22' :: [')']) := rfl
    have hlength : s.length < (escaped s ++ '\x22' :: [')']).length := by
      rw [List.length_append, length_escaped, List.length_cons]
      omega
    rw [hquoted, Token.readQuoted, readString_escaped h _ hlength]
  rw [hcut, tokenize_cons, hfunction, tokenize_cons, hstring]
  rfl

/-- What is printed reads back as the address it was printed for. -/
theorem whole?_printedAddress {s : Text} (h : NoControl s) :
    Reader.url.whole? (components (printedAddress s)) = some s := by
  rw [components, tokenize_printedAddress h]
  rfl

end Css

/-- A declaration of an address has the printed address for its value, however it was
    written. -/
theorem normalize_source {v s : Text} (h : Css.Reader.url.whole? (Css.components v) = some s) :
    normalize [⟨sourceProperty, v⟩] = [(sourceProperty, Css.urlText .ordinary s)] := by
  have hv : v.isEmpty = false := by
    cases v with
    | nil => cases h
    | cons c rest => rfl
  have htext : attributeText [⟨sourceProperty, v⟩] = sourceProperty ++ ':' :: ' ' :: v := by
    rw [attributeText, joinWith, List.map_singleton, List.intercalate_singleton, Declaration.text,
      hv]
    rfl
  have hvalue : Css.Reader.url.whole? (Css.components (v.dropWhile Css.isWhite)) = some s := by
    rw [← h, Css.Reader.whole?, Css.Reader.whole?, Css.significant_dropWhile]
  rw [normalize, htext, Css.components_declaration, Css.readEntries?_source _ hvalue]
  rfl

/-- The value of a declaration of an address is its printed form, quoted and marked, and
    style text reads it back without the marks. The location taken out of it has them. It
    is the one that was declared if, and only if, that has no double quote and no
    backslash in it. -/
theorem location_of_printed_address {s : Text} (h : Location s) :
    (∀ cs, Css.Reader.url.whole? cs = some s →
      (Css.Value.read? sourceProperty cs).map (Css.Value.text .ordinary)
        = some (printedAddress s))
    ∧ (∀ v, Css.Reader.url.whole? (Css.components v) = some s →
      normalize [⟨sourceProperty, v⟩] = [(sourceProperty, printedAddress s)])
    ∧ Css.Reader.url.whole? (Css.components (printedAddress s)) = some s
    ∧ extractSource? (printedAddress s) = some (escaped s)
    ∧ (extractSource? (printedAddress s) = some s ↔ '\x22' ∉ s ∧ '\\' ∉ s) := by
  have hprinted := urlText_ordinary h.noControl
  have hextracted := extractSource?_printedAddress h
  refine ⟨?_, ?_, Css.whole?_printedAddress h.noControl, hextracted, ?_⟩
  · intro cs hcs
    rw [Css.read?_source hcs, ← hprinted]
    rfl
  · intro v hv
    rw [normalize_source hv, hprinted]
  · rw [hextracted, Option.some_inj, escaped_eq_self_iff]

/-- A location with a space and parentheses in it comes through. -/
theorem location_with_parentheses :
    let s := "img/a (1).png".toList
    Location s
      ∧ normalize [⟨sourceProperty, "url('img/a (1).png')".toList⟩]
        = [(sourceProperty, printedAddress s)]
      ∧ extractSource? (printedAddress s) = some s := by
  have hs : Location "img/a (1).png".toList := ⟨by decide, by decide, by decide⟩
  obtain ⟨-, hnormal, -, -, hback⟩ := location_of_printed_address hs
  exact ⟨hs, hnormal _ (by decide +kernel), hback.mpr (by decide)⟩

/-- A location with a quote in it comes out as another one, with the mark in front of the
    quote. -/
theorem quote_keeps_its_mark :
    let s := "a\x22b.png".toList
    let declared := "url('a\x22b.png')".toList
    let printed := "url(\x22a\\\x22b.png\x22)".toList
    Location s ∧ Css.Reader.url.whole? (Css.components declared) = some s
      ∧ normalize [⟨sourceProperty, declared⟩] = [(sourceProperty, printed)]
      ∧ extractSource? printed = some "a\\\x22b.png".toList
      ∧ extractSource? printed ≠ some s := by
  have hs : Location "a\x22b.png".toList := ⟨by decide, by decide, by decide⟩
  exact ⟨hs, by decide +kernel, by decide +kernel, by decide, by decide⟩

end ResponsiveImages
