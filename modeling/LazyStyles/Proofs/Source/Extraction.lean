import LazyStyles.Proofs.Module.Recognition
import LazyStyles.Proofs.Source.Lookup
import LazyStyles.Proofs.Source.Snippets

/-!
# Extraction

When a shape has fragments.  The texts of a class map are those of entries, and what is no entry has none; so there are
fragments exactly if all properties are entries and each piece that only a text can spell has one
(`Fragments.exists_ofShape_iff`).  The pieces are looked up in their order, so the source map panics if it does at some
piece and all pieces before have texts (`Fragments.Panics`).  With a source map nothing is missing that is there without
one, but it may panic at a name (`Fragments.ofShape_extracts`).
-/

namespace LazyStyles

open Syntax

namespace Fragments

variable {known : Option SourceMap} {shape : Shape} {f : Fragments} {text : String}

/-! ### Fragments -/

/-- A class map of entries with the given texts. -/
def mapText (es : List (String × String)) : String :=
  "\x7b " ++ ", ".intercalate (es.map entryText) ++ " \x7d"

theorem mapM_propertyText_eq_ok_iff {ps : List (Property Leaves.host)} {entries : List String} :
    ps.mapM (propertyText known) = .ok entries ↔
      ∃ es, List.Forall₂ (EntryTexts known) ps es ∧ es.map entryText = entries := by
  rw [mapM_eq_ok_iff]
  simp only [propertyText_eq_ok_iff]
  constructor
  · intro h
    induction h with
    | nil => exact ⟨[], .nil, rfl⟩
    | cons h _ ih =>
      obtain ⟨e, he, rfl⟩ := h
      obtain ⟨es, hes, rfl⟩ := ih
      exact ⟨e :: es, .cons he hes, rfl⟩
  · rintro ⟨es, hes, rfl⟩
    exact List.forall₂_map_right_iff.mpr (hes.imp fun _ e he => ⟨e, he, rfl⟩)

/-- The fragments of a shape are the texts of its pieces. -/
theorem ofShape_eq_ok_iff :
    ofShape shape known = .ok f ↔ HasText known shape.css.raw shape.css.span f.css ∧
      HasText known shape.helper.raw shape.helper.span f.helper ∧
      ∃ es, List.Forall₂ (EntryTexts known) shape.classMap es ∧ f.classMap = mapText es := by
  simp only [← textOr_eq_ok_iff]
  constructor
  · intro h
    obtain ⟨css, hcss, hrest⟩ := bind_eq_ok_iff.mp h
    obtain ⟨helper, hhelper, hrest⟩ := bind_eq_ok_iff.mp hrest
    obtain ⟨entries, hentries, hf⟩ := bind_eq_ok_iff.mp hrest
    obtain rfl := Except.ok.inj hf
    obtain ⟨es, hes, rfl⟩ := mapM_propertyText_eq_ok_iff.mp hentries
    exact ⟨hcss, hhelper, es, hes, rfl⟩
  · obtain ⟨css, classMap, helper⟩ := f
    rintro ⟨hcss, hhelper, es, hes, rfl⟩
    exact ofShape_of_texts hcss hhelper (mapM_propertyText_eq_ok_iff.mpr ⟨es, hes, rfl⟩)

/-! ### Panics -/

/-- Whether the source map panics at a piece of a shape, all pieces before having texts: the stylesheet, the source of
the helper, and the properties in their order. -/
inductive Panics (known : Option SourceMap) (shape : Shape) : Prop where
  | css (h : LookupPanics known shape.css.raw shape.css.span) : Panics known shape
  | helper {css : String} (hcss : HasText known shape.css.raw shape.css.span css)
    (h : LookupPanics known shape.helper.raw shape.helper.span) : Panics known shape
  | property {css helper : String} {before after : List (Property Leaves.host)} {p : Property Leaves.host}
    (hcss : HasText known shape.css.raw shape.css.span css)
    (hhelper : HasText known shape.helper.raw shape.helper.span helper)
    (hmap : shape.classMap = before ++ p :: after) (hbefore : ∀ q ∈ before, ∃ e, EntryTexts known q e)
    (h : EntryPanics known p) : Panics known shape

theorem exists_propertyText_eq_ok_iff {p : Property Leaves.host} :
    (∃ text, propertyText known p = .ok text) ↔ ∃ e, EntryTexts known p e := by
  simp only [propertyText_eq_ok_iff]
  constructor
  · rintro ⟨_, e, he, rfl⟩
    exact ⟨e, he⟩
  · rintro ⟨e, he⟩
    exact ⟨_, e, he, rfl⟩

theorem ofShape_eq_panic_iff : ofShape shape known = .error .panic ↔ Panics known shape := by
  constructor
  · intro h
    rcases bind_eq_error_iff.mp h with hcss | ⟨css, hcss, hrest⟩
    · exact .css (textOr_eq_panic_iff.mp hcss)
    rcases bind_eq_error_iff.mp hrest with hhelper | ⟨helper, hhelper, hrest⟩
    · exact .helper (textOr_eq_ok_iff.mp hcss) (textOr_eq_panic_iff.mp hhelper)
    rcases bind_eq_error_iff.mp hrest with hentries | ⟨entries, -, hf⟩
    · obtain ⟨before, p, after, hmap, hbefore, hp⟩ := mapM_eq_error_iff.mp hentries
      exact .property (textOr_eq_ok_iff.mp hcss) (textOr_eq_ok_iff.mp hhelper) hmap
        (fun q hq => exists_propertyText_eq_ok_iff.mp (hbefore q hq)) (propertyText_eq_panic_iff.mp hp)
    · cases hf
  · rintro (hcss | ⟨hcss, hhelper⟩ | ⟨hcss, hhelper, hmap, hbefore, hp⟩)
    · exact bind_eq_error_iff.mpr (.inl (textOr_eq_panic_iff.mpr hcss))
    · refine bind_eq_error_iff.mpr (.inr ⟨_, textOr_eq_ok_iff.mpr hcss, ?_⟩)
      exact bind_eq_error_iff.mpr (.inl (textOr_eq_panic_iff.mpr hhelper))
    · refine bind_eq_error_iff.mpr (.inr ⟨_, textOr_eq_ok_iff.mpr hcss, ?_⟩)
      refine bind_eq_error_iff.mpr (.inr ⟨_, textOr_eq_ok_iff.mpr hhelper, bind_eq_error_iff.mpr (.inl ?_)⟩)
      exact mapM_eq_error_iff.mpr ⟨_, _, _, hmap, fun q hq => exists_propertyText_eq_ok_iff.mpr (hbefore q hq),
        propertyText_eq_panic_iff.mpr hp⟩

/-! ### Pieces with texts -/

/-- Whether a string or a number has a text. -/
def IsKnown (known : Option SourceMap) (raw : Option String) (span : Option ByteSpan) : Prop :=
  (∃ text, raw = some text) ∨ ∃ text, StandsAt known span text

/-- Whether a key has a text if only that can spell it.  At a name the source map must not panic. -/
def KeyIsKnown (known : Option SourceMap) : Key Leaves.host → Prop
  | .ident i => ¬ PanicsAt known (IdentNode.span i)
  | .str s => IsKnown known (StrNode.raw s) (StrNode.span s)
  | .numeral n => IsKnown known (NumeralNode.raw n) (NumeralNode.span n)
  | _ => True

/-- Whether a literal has a text if only that can spell it. -/
def LiteralIsKnown (known : Option SourceMap) : Literal Leaves.host → Prop
  | .str s => IsKnown known (StrNode.raw s) (StrNode.span s)
  | .numeral n => IsKnown known (NumeralNode.raw n) (NumeralNode.span n)
  | .regex r => ∃ text, StandsAt known (RegexNode.span r) text
  | _ => True

/-- Whether the key and the literal of a property have texts if only these can spell them. -/
def PropertyIsKnown (known : Option SourceMap) : Property Leaves.host → Prop
  | .keyValue k (.literal l) => KeyIsKnown known k ∧ LiteralIsKnown known l
  | _ => True

theorem exists_hasText_iff {raw : Option String} {span : Option ByteSpan} :
    (∃ text, HasText known raw span text) ↔ IsKnown known raw span := by
  constructor
  · rintro ⟨text, h | ⟨-, h⟩⟩
    · exact .inl ⟨text, h⟩
    · exact .inr ⟨text, h⟩
  · rintro (⟨text, h⟩ | ⟨text, h⟩)
    · exact ⟨text, .remembered h⟩
    · cases raw with
      | some text' => exact ⟨text', .remembered rfl⟩
      | none => exact ⟨text, .found rfl h⟩

/-- A name has a text unless the source map panics. -/
theorem exists_nameText_iff {i : IdentNode} : (∃ text, KeyText known (.ident i) text) ↔ ¬ PanicsAt known i.span := by
  constructor
  · rintro ⟨text, h⟩ hpanic
    have hok := nameText_eq_ok_iff.mpr h
    rw [nameText_eq_panic_iff.mpr hpanic] at hok
    cases hok
  · intro hpanic
    by_cases hstands : ∃ text, StandsAt known i.span text
    · obtain ⟨text, h⟩ := hstands
      exact ⟨text, .ident h⟩
    · exact ⟨_, .name (not_exists.mp hstands) hpanic⟩

theorem exists_keyText_iff {k : Key Leaves.host} :
    (∃ text, KeyText known k text) ↔ IsWrittenKey k ∧ KeyIsKnown known k := by
  constructor
  · rintro ⟨text, h⟩
    cases h with
    | ident h => exact ⟨.ident _, exists_nameText_iff.mp ⟨_, .ident h⟩⟩
    | name h hpanic => exact ⟨.ident _, hpanic⟩
    | str h => exact ⟨.str _, exists_hasText_iff.mp ⟨text, h⟩⟩
    | numeral h => exact ⟨.numeral _, exists_hasText_iff.mp ⟨text, h⟩⟩
  · rintro ⟨hk, h⟩
    cases hk with
    | ident i => exact exists_nameText_iff.mpr h
    | str s =>
      obtain ⟨text, h⟩ := exists_hasText_iff.mpr h
      exact ⟨text, .str h⟩
    | numeral n =>
      obtain ⟨text, h⟩ := exists_hasText_iff.mpr h
      exact ⟨text, .numeral h⟩

theorem exists_literalText_iff {l : Literal Leaves.host} :
    (∃ text, LiteralText known l text) ↔ IsProgramLiteral l ∧ LiteralIsKnown known l := by
  constructor
  · rintro ⟨text, h⟩
    cases h with
    | str h => exact ⟨.str _, exists_hasText_iff.mp ⟨text, h⟩⟩
    | numeral h => exact ⟨.numeral _, exists_hasText_iff.mp ⟨text, h⟩⟩
    | constant => exact ⟨.constant _, trivial⟩
    | regex h => exact ⟨.regex _, text, h⟩
  · rintro ⟨hl, h⟩
    cases hl with
    | str s =>
      obtain ⟨text, h⟩ := exists_hasText_iff.mpr h
      exact ⟨text, .str h⟩
    | numeral n =>
      obtain ⟨text, h⟩ := exists_hasText_iff.mpr h
      exact ⟨text, .numeral h⟩
    | constant c => exact ⟨_, .constant⟩
    | regex r =>
      obtain ⟨text, h⟩ := h
      exact ⟨text, .regex h⟩

/-- The properties with texts are those that the class map of a generated module may have, if their parts have texts. -/
theorem exists_entryTexts_iff {p : Property Leaves.host} :
    (∃ e, EntryTexts known p e) ↔ isLiteralProperty p = true ∧ PropertyIsKnown known p := by
  rw [isLiteralProperty_iff]
  constructor
  · rintro ⟨_, hk, hl⟩
    obtain ⟨hkey, hkeyKnown⟩ := exists_keyText_iff.mp ⟨_, hk⟩
    obtain ⟨hliteral, hliteralKnown⟩ := exists_literalText_iff.mp ⟨_, hl⟩
    exact ⟨.mk hkey hliteral, hkeyKnown, hliteralKnown⟩
  · rintro ⟨⟨hk, hl⟩, hkKnown, hlKnown⟩
    obtain ⟨key, hkey⟩ := exists_keyText_iff.mpr ⟨hk, hkKnown⟩
    obtain ⟨value, hvalue⟩ := exists_literalText_iff.mpr ⟨hl, hlKnown⟩
    exact ⟨_, .mk hkey hvalue⟩

/-- A shape has fragments exactly if all of its properties are entries and all of its pieces have texts. -/
theorem exists_ofShape_iff :
    (∃ f, ofShape shape known = .ok f) ↔ IsKnown known shape.css.raw shape.css.span ∧
      IsKnown known shape.helper.raw shape.helper.span ∧
      ∀ p ∈ shape.classMap, isLiteralProperty p = true ∧ PropertyIsKnown known p := by
  simp only [ofShape_eq_ok_iff, ← exists_hasText_iff, ← exists_entryTexts_iff, ← exists_forall₂_iff]
  constructor
  · rintro ⟨f, hcss, hhelper, es, hes, -⟩
    exact ⟨⟨_, hcss⟩, ⟨_, hhelper⟩, es, hes⟩
  · rintro ⟨⟨css, hcss⟩, ⟨helper, hhelper⟩, es, hes⟩
    exact ⟨⟨css, mapText es, helper⟩, hcss, hhelper, es, hes, rfl⟩

/-! ### With a source map and without -/

section SourceMap

variable {texts : SourceMap} {p : Property Leaves.host} {ps : List (Property Leaves.host)} {e : String × String}
  {es : List (String × String)}

/-- Whether the source map panics at the name that is the property's key. -/
inductive NamePanics (texts : SourceMap) : Property Leaves.host → Prop where
  | mk {i : IdentNode} {v : HostExpr} (h : PanicsAt (some texts) i.span) : NamePanics texts (.keyValue (.ident i) v)

/-- The texts of an entry without a source map and with one, which differ only in how a name is spelled. -/
inductive SpellsAlike (texts : SourceMap) : Property Leaves.host → (String × String) × (String × String) → Prop where
  | same {k : Key Leaves.host} {l : Literal Leaves.host} {e : String × String} :
    SpellsAlike texts (.keyValue k (.literal l)) (e, e)
  | name {i : IdentNode} {l : Literal Leaves.host} {key value : String} (h : StandsAt (some texts) i.span key) :
    SpellsAlike texts (.keyValue (.ident i) (.literal l)) ((i.name, value), (key, value))

/-- Without a source map only what is remembered is a text, and with one it still is. -/
theorem HasText.of_none {raw : Option String} {span : Option ByteSpan} (h : HasText none raw span text) :
    HasText known raw span text := by
  cases h with
  | remembered h => exact .remembered h
  | found _ h => exact absurd h not_answersAt_none

theorem LiteralText.of_none {l : Literal Leaves.host} (h : LiteralText none l text) : LiteralText known l text := by
  cases h with
  | str h => exact .str h.of_none
  | numeral h => exact .numeral h.of_none
  | constant => exact .constant
  | regex h => exact absurd h not_answersAt_none

/-- What has texts without a source map has some with any, unless this panics at the name. -/
theorem EntryTexts.exists_of_none (h : EntryTexts none p e) (hname : ¬ NamePanics texts p) :
    ∃ e', EntryTexts (some texts) p e' ∧ SpellsAlike texts p (e, e') := by
  obtain ⟨hk, hl⟩ := h
  cases hk with
  | ident h => exact absurd h not_answersAt_none
  | @name i =>
    obtain ⟨key, hkey⟩ := exists_nameText_iff.mpr fun hpanic => hname (.mk hpanic)
    cases hkey with
    | ident h => exact ⟨_, .mk (.ident h) hl.of_none, .name h⟩
    | name h hpanic => exact ⟨_, .mk (.name h hpanic) hl.of_none, .same⟩
  | str h => exact ⟨_, .mk (.str h.of_none) hl.of_none, .same⟩
  | numeral h => exact ⟨_, .mk (.numeral h.of_none) hl.of_none, .same⟩

theorem exists_forall₂_spellsAlike (h : List.Forall₂ (EntryTexts none) ps es) (hname : ∀ p ∈ ps, ¬ NamePanics texts p) :
    ∃ es', List.Forall₂ (SpellsAlike texts) ps es' ∧ es'.map Prod.fst = es ∧
      List.Forall₂ (EntryTexts (some texts)) ps (es'.map Prod.snd) := by
  induction h with
  | nil => exact ⟨[], .nil, rfl, .nil⟩
  | @cons p e ps es he _ ih =>
    obtain ⟨hp, hps⟩ := List.forall_mem_cons.mp hname
    obtain ⟨e', he', halike⟩ := he.exists_of_none hp
    obtain ⟨es', hes', rfl, htexts⟩ := ih hps
    exact ⟨(e, e') :: es', .cons halike hes', rfl, .cons he' htexts⟩

/-- What has fragments without a source map has some with one that does not panic at the names, and these differ only in
how names are spelled. -/
theorem exists_ofShape_of_none (h : ofShape shape none = .ok f) (hname : ∀ p ∈ shape.classMap, ¬ NamePanics texts p) :
    ∃ f', ofShape shape (some texts) = .ok f' ∧ f'.css = f.css ∧ f'.helper = f.helper ∧
      ∃ es, List.Forall₂ (SpellsAlike texts) shape.classMap es ∧ f.classMap = mapText (es.map Prod.fst) ∧
        f'.classMap = mapText (es.map Prod.snd) := by
  obtain ⟨hcss, hhelper, es, hes, hmap⟩ := ofShape_eq_ok_iff.mp h
  obtain ⟨es', hes', rfl, htexts⟩ := exists_forall₂_spellsAlike hes hname
  refine ⟨⟨f.css, mapText (es'.map Prod.snd), f.helper⟩, ?_, rfl, rfl, es', hes', hmap, rfl⟩
  exact ofShape_eq_ok_iff.mpr ⟨hcss.of_none, hhelper.of_none, _, htexts, rfl⟩

theorem NamePanics.entryPanics (h : NamePanics texts p) : EntryPanics (some texts) p := by
  obtain ⟨h⟩ := h
  exact .key (.ident h)

/-- Of entries with texts the first at whose name the source map panics is the first without a text. -/
theorem exists_entryPanics (h : List.Forall₂ (EntryTexts none) ps es) (hname : ∃ p ∈ ps, NamePanics texts p) :
    ∃ before p after, ps = before ++ p :: after ∧ (∀ q ∈ before, ∃ e, EntryTexts (some texts) q e) ∧
      EntryPanics (some texts) p := by
  induction h with
  | nil => simp at hname
  | @cons p e ps es he _ ih =>
    by_cases hp : NamePanics texts p
    · exact ⟨[], p, ps, rfl, List.forall_mem_nil _, hp.entryPanics⟩
    · have hps : ∃ q ∈ ps, NamePanics texts q := by simpa [hp] using hname
      obtain ⟨before, q, after, rfl, hbefore, hq⟩ := ih hps
      obtain ⟨e', he', -⟩ := he.exists_of_none hp
      exact ⟨p :: before, q, after, rfl, List.forall_mem_cons.mpr ⟨⟨e', he'⟩, hbefore⟩, hq⟩

theorem ofShape_eq_panic_of_none (h : ofShape shape none = .ok f) (hname : ∃ p ∈ shape.classMap, NamePanics texts p) :
    ofShape shape (some texts) = .error .panic := by
  obtain ⟨hcss, hhelper, es, hes, -⟩ := ofShape_eq_ok_iff.mp h
  obtain ⟨before, p, after, hmap, hbefore, hp⟩ := exists_entryPanics hes hname
  exact ofShape_eq_panic_iff.mpr (.property hcss.of_none hhelper.of_none hmap hbefore hp)

end SourceMap

/-! ### All of it -/

/-- There are fragments exactly if the stylesheet and the source of the helper have texts, all properties are such as
the class map of a generated module may have, each of their parts that only a text can spell has one, and the source map
does not panic at their names.  The fragments are those texts: what is remembered or else stands at the span, and for
the class map the entries in their order.  The source map panics if it does at a piece and the pieces before have texts.
What has fragments without a source map has some with any that does not panic at a name, which differ only in how names
are spelled. -/
theorem ofShape_extracts (shape : Shape) :
    (∀ known, (∃ f, ofShape shape known = .ok f) ↔ IsKnown known shape.css.raw shape.css.span ∧
      IsKnown known shape.helper.raw shape.helper.span ∧
      ∀ p ∈ shape.classMap, isLiteralProperty p = true ∧ PropertyIsKnown known p) ∧
    (∀ known f, ofShape shape known = .ok f ↔ HasText known shape.css.raw shape.css.span f.css ∧
      HasText known shape.helper.raw shape.helper.span f.helper ∧
      ∃ es, List.Forall₂ (EntryTexts known) shape.classMap es ∧ f.classMap = mapText es) ∧
    (∀ known, ofShape shape known = .error .panic ↔ Panics known shape) ∧
    ∀ f, ofShape shape none = .ok f → ∀ texts : SourceMap,
      ((∃ p ∈ shape.classMap, NamePanics texts p) → ofShape shape (some texts) = .error .panic) ∧
      ((∀ p ∈ shape.classMap, ¬ NamePanics texts p) →
        ∃ f', ofShape shape (some texts) = .ok f' ∧ f'.css = f.css ∧ f'.helper = f.helper ∧
          ∃ es, List.Forall₂ (SpellsAlike texts) shape.classMap es ∧ f.classMap = mapText (es.map Prod.fst) ∧
            f'.classMap = mapText (es.map Prod.snd)) :=
  ⟨fun _ => exists_ofShape_iff, fun _ _ => ofShape_eq_ok_iff, fun _ => ofShape_eq_panic_iff,
    fun _ h _ => ⟨ofShape_eq_panic_of_none h, exists_ofShape_of_none h⟩⟩

/-- A shape of which the stylesheet and the helper are remembered, and the name of the one entry, which has the given
span, is not. -/
def namedShape (span : ByteSpan) (name : String) : Shape where
  css := ⟨none, "", some "''"⟩
  classMap :=
    [.keyValue (.ident (⟨some span, name⟩ : IdentNode)) (.literal (.constant (⟨none, .null⟩ : ConstantNode)))]
  helper := ⟨none, "b", some "'b'"⟩

/-- Without its source a name is spelled as it reads, and with it as it was written.  At a span of half a name the
source map panics. -/
theorem ofShape_extracts_namedShape :
    (∃ f f', ofShape (namedShape ⟨0, 6⟩ "a") none = .ok f ∧ f.classMap = "\x7b a: null \x7d" ∧
      ofShape (namedShape ⟨0, 6⟩ "a") (some (.ofText "\\u0061".toList)) = .ok f' ∧
      f'.classMap = "\x7b \\u0061: null \x7d" ∧ f'.css = f.css ∧ f'.helper = f.helper) ∧
    ofShape (namedShape ⟨0, 1⟩ "é") (some (.ofText "é".toList)) = .error .panic := by
  constructor
  · obtain ⟨-, -, -, hnone⟩ := ofShape_extracts (namedShape ⟨0, 6⟩ "a")
    have hname : ∀ p ∈ (namedShape ⟨0, 6⟩ "a").classMap, ¬ NamePanics (.ofText "\\u0061".toList) p := by
      intro p hp hpanic
      obtain rfl := List.mem_singleton.mp hp
      obtain ⟨_, _, ⟨⟩, ⟨⟩, h⟩ := hpanic
      cases h
    obtain ⟨f', hf', hcss, hhelper, -⟩ := (hnone _ rfl (.ofText "\\u0061".toList)).2 hname
    refine ⟨_, f', rfl, by decide, hf', ?_, hcss, hhelper⟩
    have hf : ofShape (namedShape ⟨0, 6⟩ "a") (some (.ofText "\\u0061".toList)) =
        .ok ⟨"''", "\x7b \\u0061: null \x7d", "'b'"⟩ := by decide
    rw [← Except.ok.inj (hf.symm.trans hf')]
  · obtain ⟨-, -, -, hnone⟩ := ofShape_extracts (namedShape ⟨0, 1⟩ "é")
    have hpanics : PanicsAt (some (.ofText "é".toList)) (some ⟨0, 1⟩) := ⟨_, _, rfl, rfl, by decide⟩
    exact (hnone _ rfl (.ofText "é".toList)).1 ⟨_, List.mem_singleton_self _, .mk hpanics⟩

/-- A source map can lose fragments that there are without one: it panics at a name of two bytes whose span holds only
the first. -/
theorem not_forall_exists_ofShape_of_none :
    ¬ ∀ (shape : Shape) (f : Fragments), ofShape shape none = .ok f →
      ∀ texts : SourceMap, ∃ f', ofShape shape (some texts) = .ok f' := by
  intro h
  obtain ⟨f', hf'⟩ := h (namedShape ⟨0, 1⟩ "é") _ rfl (.ofText "é".toList)
  have hpanic : ofShape (namedShape ⟨0, 1⟩ "é") (some (.ofText "é".toList)) = .error .panic := by decide
  cases hpanic.symm.trans hf'

end Fragments

end LazyStyles
