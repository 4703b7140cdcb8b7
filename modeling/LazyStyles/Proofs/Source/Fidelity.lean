import LazyStyles.Proofs.Source.Pieces
import LazyStyles.Proofs.Tree.Undo
import Mathlib.Data.List.Forall2

/-!
# Faithful texts

The fragments of a generated module are the very texts of its source.  A literal's text may be remembered or be
looked up at its span, and a constant is spelled anew; for a module that has just been parsed all three are the
same, so it makes no difference which literals still know how they were written
(`Fragments.exists_ofShape_of_forgetting`).
-/

namespace LazyStyles

namespace Syntax

/-! ### Forgetting some of the literals -/

/-- The leaves of a host, with a mark on each string and number that is to forget how it was written. -/
def Leaves.marked : Leaves :=
  { Leaves.host with Str := StrNode × Bool, Numeral := NumeralNode × Bool }

/-- Takes the marks off. -/
def Leaves.unmarked : Leaves.Map Leaves.marked Leaves.host where
  span s := s
  ident i := i
  str s := s.1
  numeral n := n.1
  constant c := c
  regex r := r
  jsxText t := t
  chunk c := c

/-- Puts marks on the strings and numbers that `strs` and `numerals` pick. -/
def Leaves.marking (strs : StrNode → Bool) (numerals : NumeralNode → Bool) :
    Leaves.Map Leaves.host Leaves.marked where
  span s := s
  ident i := i
  str s := (s, strs s)
  numeral n := (n, numerals n)
  constant c := c
  regex r := r
  jsxText t := t
  chunk c := c

/-- Any of the strings and numbers of a module can be marked. -/
theorem Module.map_marking (strs : StrNode → Bool) (numerals : NumeralNode → Bool) (m : HostModule) :
    (m.map (Leaves.marking strs numerals)).map Leaves.unmarked = m :=
  Module.map_undo ⟨fun _ => rfl, fun _ => rfl, fun _ => rfl, fun _ => rfl, fun _ => rfl, fun _ => rfl, fun _ => rfl,
    fun _ => rfl⟩ m

/-- Forgets how the marked literals were written. -/
def Leaves.forgetting : Leaves.Map Leaves.marked Leaves.host where
  span s := s
  ident i := i
  str s := if s.2 then { s.1 with raw := none } else s.1
  numeral n := if n.2 then { n.1 with raw := none } else n.1
  constant c := c
  regex r := r
  jsxText t := t
  chunk c := c

/-! ### Spans of literals -/

/-- The span of a key that is written out. -/
def Key.span? : Key Leaves.host → Option ByteSpan
  | .ident i => IdentNode.span i
  | .str s => StrNode.span s
  | .numeral n => NumeralNode.span n
  | .computed .. | .privateName .. => none

/-- The span of a literal. -/
def Literal.span? : Literal Leaves.host → Option ByteSpan
  | .str s => StrNode.span s
  | .numeral n => NumeralNode.span n
  | .constant c => ConstantNode.span c
  | .regex r => RegexNode.span r
  | .jsxText t => JsxTextNode.span t

end Syntax

open Syntax

/-! ### Texts of literals -/

namespace Fragments

section Texts

variable {src source : List Char}

/-- The text of a string is the one it was read from, remembered or not. -/
theorem textOr_forgetting_str (hsrc : src <:+ source) {l : Lexeme scanString src} {s : StrNode × Bool}
    (hs : s.1 = (Leaves.toHost src (byteSize source)).str l) :
    textOr (some (.ofText source)) (StrNode.raw (Leaves.forgetting.str s)) (StrNode.span (Leaves.forgetting.str s)) =
      .ok (String.ofList l.chars) := by
  obtain ⟨node, isMarked⟩ := s
  obtain rfl : node = (Leaves.toHost src (byteSize source)).str l := hs
  cases isMarked with
  | true => exact textAt_lexeme hsrc l
  | false => rfl

theorem textOr_forgetting_numeral (hsrc : src <:+ source) {l : Lexeme scanNumeral src} {n : NumeralNode × Bool}
    (hn : n.1 = (Leaves.toHost src (byteSize source)).numeral l) :
    textOr (some (.ofText source)) (NumeralNode.raw (Leaves.forgetting.numeral n))
      (NumeralNode.span (Leaves.forgetting.numeral n)) = .ok (String.ofList l.chars) := by
  obtain ⟨node, isMarked⟩ := n
  obtain rfl : node = (Leaves.toHost src (byteSize source)).numeral l := hn
  cases isMarked with
  | true => exact textAt_lexeme hsrc l
  | false => rfl

/-- The text of a key is what stands at its span. -/
theorem exists_keyText_forgetting (hsrc : src <:+ source) {k : Key Leaves.marked} {k' : Key (Leaves.ofSource src)}
    (hk : k.map Leaves.unmarked = k'.map (Leaves.toHost src (byteSize source))) (hplain : isPlainKey k' = true) :
    ∃ text, keyText (some (.ofText source)) (k.map Leaves.forgetting) = .ok text ∧
      IsTextAt source (k'.map (Leaves.toHost src (byteSize source))).span? text := by
  cases k' with
  | ident w =>
    cases k with
    | ident i =>
      have hi := Key.ident.inj hk
      obtain rfl : i = (Leaves.toHost src (byteSize source)).ident w := hi
      exact ⟨_, keyText_ident hsrc w, isTextAt_lexeme hsrc w⟩
    | _ => exact absurd hk nofun
  | str l =>
    cases k with
    | str s => exact ⟨_, textOr_forgetting_str hsrc (Key.str.inj hk), isTextAt_lexeme hsrc l⟩
    | _ => exact absurd hk nofun
  | numeral l =>
    cases k with
    | numeral n => exact ⟨_, textOr_forgetting_numeral hsrc (Key.numeral.inj hk), isTextAt_lexeme hsrc l⟩
    | _ => exact absurd hk nofun
  | computed | privateName => exact absurd hplain nofun

/-- The word of a constant is written as it reads. -/
theorem ofList_chars_word (c : ConstantLexeme src) : String.ofList c.word.chars = c.value.text := by
  have hescaped : c.word.value.isEscaped = false := by rw [c.isNamed]
  rw [Lexeme.chars_eq_of_isEscaped_eq_false c.word hescaped, String.ofList_toList, c.isNamed]

/-- The text of a literal is what stands at its span. -/
theorem exists_literalText_forgetting (hsrc : src <:+ source) {l : Literal Leaves.marked}
    {l' : Literal (Leaves.ofSource src)}
    (hl : l.map Leaves.unmarked = l'.map (Leaves.toHost src (byteSize source))) :
    ∃ text, literalText (some (.ofText source)) (l.map Leaves.forgetting) = .ok text ∧
      IsTextAt source (l'.map (Leaves.toHost src (byteSize source))).span? text := by
  cases l' with
  | str t =>
    cases l with
    | str s => exact ⟨_, textOr_forgetting_str hsrc (Literal.str.inj hl), isTextAt_lexeme hsrc t⟩
    | _ => exact absurd hl nofun
  | numeral t =>
    cases l with
    | numeral n => exact ⟨_, textOr_forgetting_numeral hsrc (Literal.numeral.inj hl), isTextAt_lexeme hsrc t⟩
    | _ => exact absurd hl nofun
  | constant c =>
    cases l with
    | constant d =>
      have hd := Literal.constant.inj hl
      obtain rfl : d = (Leaves.toHost src (byteSize source)).constant c := hd
      refine ⟨(ConstantLexeme.value c).text, rfl, ?_⟩
      rw [← ofList_chars_word c]
      exact isTextAt_lexeme hsrc (ConstantLexeme.word c)
    | _ => exact absurd hl nofun
  | regex r =>
    cases l with
    | regex d =>
      have hd := Literal.regex.inj hl
      obtain rfl : d = (Leaves.toHost src (byteSize source)).regex r := hd
      exact ⟨_, textAt_lexeme hsrc r, isTextAt_lexeme hsrc r⟩
    | _ => exact absurd hl nofun
  | jsxText t => exact nomatch t

/-! ### Texts of properties -/

/-- Whether the two texts are what stands in the source at the key and at the literal of a property. -/
def AreTextsOf (source : List Char) (p : Property Leaves.host) (texts : String × String) : Prop :=
  ∃ k l, p = .keyValue k (.literal l) ∧ IsTextAt source k.span? texts.1 ∧ IsTextAt source l.span? texts.2

/-- The text of a property is that of its key and its literal. -/
theorem exists_propertyText_forgetting (hsrc : src <:+ source) {p : Property Leaves.marked}
    {p' : Property (Leaves.ofSource src)}
    (hp : p.map Leaves.unmarked = p'.map (Leaves.toHost src (byteSize source)))
    (hliteral : isLiteralProperty p' = true) :
    ∃ texts : String × String,
      propertyText (some (.ofText source)) (p.map Leaves.forgetting) = .ok (texts.1 ++ ": " ++ texts.2) ∧
      AreTextsOf source (p'.map (Leaves.toHost src (byteSize source))) texts := by
  cases p' with
  | keyValue k' v' =>
    obtain ⟨hk', hv'⟩ := Bool.and_eq_true_iff.mp hliteral
    cases v' with
    | literal l' =>
      cases p with
      | keyValue k v =>
        obtain ⟨hk, hv⟩ := Property.keyValue.inj hp
        obtain ⟨l, rfl, hl⟩ := exists_of_map_eq_literal hv
        obtain ⟨key, hkey, hkeyAt⟩ := exists_keyText_forgetting hsrc hk hk'
        obtain ⟨value, hvalue, hvalueAt⟩ := exists_literalText_forgetting hsrc hl
        exact ⟨(key, value), propertyText_of_texts hkey hvalue, _, _, rfl, hkeyAt, hvalueAt⟩
      | _ => exact absurd hp nofun
    | _ => exact absurd hv' nofun
  | _ => exact absurd hliteral nofun

theorem exists_mapM_propertyText_forgetting (hsrc : src <:+ source) {ps : List (Property Leaves.marked)}
    {ps' : List (Property (Leaves.ofSource src))}
    (hps : ps.map (·.map Leaves.unmarked) = ps'.map (·.map (Leaves.toHost src (byteSize source))))
    (hliteral : ∀ p ∈ ps', isLiteralProperty p = true) :
    ∃ entries : List (String × String),
      (ps.map (·.map Leaves.forgetting)).mapM (propertyText (some (.ofText source))) =
        .ok (entries.map fun e => e.1 ++ ": " ++ e.2) ∧
      List.Forall₂ (AreTextsOf source) (ps'.map (·.map (Leaves.toHost src (byteSize source)))) entries := by
  induction ps' generalizing ps with
  | nil =>
    obtain rfl := List.map_eq_nil_iff.mp hps
    exact ⟨[], rfl, .nil⟩
  | cons p' ps' ih =>
    obtain ⟨p, qs, rfl, hp, hqs⟩ := List.map_eq_cons_iff.mp hps
    obtain ⟨hp', hps'⟩ := List.forall_mem_cons.mp hliteral
    obtain ⟨texts, htexts, hat⟩ := exists_propertyText_forgetting hsrc hp hp'
    obtain ⟨entries, hentries, hall⟩ := ih hqs hps'
    refine ⟨texts :: entries, ?_, .cons hat hall⟩
    rw [List.map_cons, List.mapM_cons, htexts, hentries]
    rfl

end Texts

/-! ### Whole modules -/

/-- A generated module that has just been parsed and of which any literals have forgotten how they were written
has fragments, and these are what stands in the source at its pieces. -/
theorem exists_ofShape_of_forgetting {code id : String} {m : HostModule} {shape : Shape}
    (hm : parseModule code id = .ok m) (hshape : Shape.ofModule m = .ok shape) {marked : Module Leaves.marked}
    (hmarked : marked.map Leaves.unmarked = m) :
    ∃ shape' f, Shape.ofModule (marked.map Leaves.forgetting) = .ok shape' ∧
      ofShape shape' (some (.ofText (sourceOf code))) = .ok f ∧
      IsTextAt (sourceOf code) shape.css.span f.css ∧ IsTextAt (sourceOf code) shape.helper.span f.helper ∧
      ∃ entries, List.Forall₂ (AreTextsOf (sourceOf code)) shape.classMap entries ∧
        f.classMap = "\x7b " ++ ", ".intercalate (entries.map fun e => e.1 ++ ": " ++ e.2) ++ " \x7d" := by
  have hsrc : bodyOf (sourceOf code) <:+ sourceOf code := List.dropWhile_suffix _
  obtain ⟨css, helper, ps, hpieces, -, -, -, hliteral⟩ := exists_of_ofModule_parsed hm hshape
  subst hmarked
  obtain ⟨css', ps', helper', h, hcss, hps, hhelper⟩ := isGenerated_map.mp (Shape.ofModule_eq_ok_iff.mp hshape)
  -- Forgetting changes neither names nor values, so the same items are recognised.
  have hvalue :
      (fun s => StrNode.value (Leaves.unmarked.str s)) = fun s => StrNode.value (Leaves.forgetting.str s) := by
    funext ⟨node, isMarked⟩
    cases isMarked <;> rfl
  rw [hvalue] at h
  let shape' : Shape :=
    ⟨Leaves.forgetting.str css', ps'.map (·.map Leaves.forgetting), Leaves.forgetting.str helper'⟩
  have hshape' : Shape.ofModule (marked.map Leaves.forgetting) = .ok shape' :=
    Shape.ofModule_eq_ok_iff.mpr (isGenerated_map.mpr ⟨css', ps', helper', h, rfl, rfl, rfl⟩)
  rw [hpieces] at hcss hps hhelper
  obtain ⟨entries, hentries, hall⟩ := exists_mapM_propertyText_forgetting hsrc hps hliteral
  refine ⟨shape', ⟨String.ofList css.chars, _, String.ofList helper.chars⟩, hshape', ?_, ?_, ?_, entries, ?_, rfl⟩
  · exact ofShape_of_texts (textOr_forgetting_str hsrc hcss) (textOr_forgetting_str hsrc hhelper) hentries
  · rw [hpieces]
    exact isTextAt_lexeme hsrc css
  · rw [hpieces]
    exact isTextAt_lexeme hsrc helper
  · rw [hpieces]
    exact hall

/-- A module of which every string and number has forgotten how it was written. -/
theorem exists_ofShape_of_forgetting_all :
    ∃ m shape shape' f, parseModule mixedText "a.css" = .ok m ∧ Shape.ofModule m = .ok shape ∧
      Shape.ofModule ((m.map (Leaves.marking (fun _ => true) fun _ => true)).map Leaves.forgetting) = .ok shape' ∧
      ofShape shape' (some (.ofText (sourceOf mixedText))) = .ok f ∧
      IsTextAt (sourceOf mixedText) shape.css.span f.css ∧ IsTextAt (sourceOf mixedText) shape.helper.span f.helper ∧
      ∃ entries, List.Forall₂ (AreTextsOf (sourceOf mixedText)) shape.classMap entries ∧
        f.classMap = "\x7b " ++ ", ".intercalate (entries.map fun e => e.1 ++ ": " ++ e.2) ++ " \x7d" := by
  obtain ⟨m, shape, hm, hshape, -, -⟩ := exists_ofShape_mixedText
  have h := exists_ofShape_of_forgetting hm hshape (Module.map_marking (fun _ => true) (fun _ => true) m)
  obtain ⟨shape', f, h⟩ := h
  exact ⟨m, shape, shape', f, hm, hshape, h⟩

end Fragments

end LazyStyles
