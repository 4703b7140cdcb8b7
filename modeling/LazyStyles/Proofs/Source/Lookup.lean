import LazyStyles.Fragments
import LazyStyles.Proofs.Steps

/-!
# Texts of pieces

Which text a piece has (`HasText`, `KeyText`, `LiteralText`, `EntryTexts`), and where the source map panics before it is
found (`LookupPanics`, `KeyPanics`, `LiteralPanics`, `EntryPanics`).  Looking up a piece gives the one and fails at the
other.  What has neither has no text, and only a name is then spelled as it reads.
-/

namespace LazyStyles

open Syntax

namespace Fragments

variable {known : Option SourceMap} {raw : Option String} {span : Option ByteSpan} {text : String}

/-! ### Places -/

/-- Whether the source map, if there is one, answers so at the span, if there is one. -/
def AnswersAt (known : Option SourceMap) (span : Option ByteSpan) (answer : Except NoText String) : Prop :=
  ∃ texts s, known = some texts ∧ span = some s ∧ texts s = answer

/-- Whether the text stands at the span. -/
def StandsAt (known : Option SourceMap) (span : Option ByteSpan) (text : String) : Prop :=
  AnswersAt known span (.ok text)

/-- Whether the source map panics at the span. -/
def PanicsAt (known : Option SourceMap) (span : Option ByteSpan) : Prop :=
  AnswersAt known span (.error .panic)

theorem not_answersAt_none {answer : Except NoText String} : ¬ AnswersAt none span answer :=
  fun ⟨_, _, h, _⟩ => nomatch h

/-- Without a source map, or a span, the text is missing; all other answers are the source map's. -/
theorem textAt_eq_iff {answer : Except NoText String} (h : answer ≠ .error .missing) :
    textAt known span = answer ↔ AnswersAt known span answer := by
  constructor
  · rintro rfl
    cases known with
    | none => exact absurd rfl h
    | some texts =>
      cases span with
      | none => exact absurd rfl h
      | some s => exact ⟨texts, s, rfl, rfl, rfl⟩
  · rintro ⟨texts, s, rfl, rfl, h⟩
    exact h

theorem textAt_eq_ok_iff : textAt known span = .ok text ↔ StandsAt known span text :=
  textAt_eq_iff nofun

theorem textAt_eq_panic_iff : textAt known span = .error .panic ↔ PanicsAt known span :=
  textAt_eq_iff nofun

theorem textAt_eq_missing_iff :
    textAt known span = .error .missing ↔ (∀ text, ¬ StandsAt known span text) ∧ ¬ PanicsAt known span := by
  simp only [← textAt_eq_ok_iff, ← textAt_eq_panic_iff]
  cases textAt known span with
  | ok text => simp
  | error e => cases e <;> simp

/-! ### Strings and numbers -/

/-- The text of a string or a number: the one that is remembered, or else what stands at the span. -/
inductive HasText (known : Option SourceMap) (raw : Option String) (span : Option ByteSpan) : String → Prop where
  | remembered {text : String} (h : raw = some text) : HasText known raw span text
  | found {text : String} (hraw : raw = none) (h : StandsAt known span text) : HasText known raw span text

/-- Whether the source map panics where the text of a string or a number is looked up. -/
def LookupPanics (known : Option SourceMap) (raw : Option String) (span : Option ByteSpan) : Prop :=
  raw = none ∧ PanicsAt known span

theorem textOr_eq_ok_iff : textOr known raw span = .ok text ↔ HasText known raw span text := by
  cases raw with
  | some remembered =>
    constructor
    · intro h
      exact .remembered (congrArg some (Except.ok.inj h))
    · rintro (h | ⟨h, -⟩)
      · exact congrArg Except.ok (Option.some.inj h)
      · cases h
  | none =>
    constructor
    · intro h
      exact .found rfl (textAt_eq_ok_iff.mp h)
    · rintro (h | ⟨-, h⟩)
      · cases h
      · exact textAt_eq_ok_iff.mpr h

theorem textOr_eq_panic_iff : textOr known raw span = .error .panic ↔ LookupPanics known raw span := by
  cases raw with
  | some remembered => exact iff_of_false nofun fun h => nomatch h.1
  | none => exact textAt_eq_panic_iff.trans ⟨fun h => ⟨rfl, h⟩, And.right⟩

/-! ### Keys -/

/-- The text of a key.  A name is spelled as it reads where the source map has nothing at its span, but not where it
panics. -/
inductive KeyText (known : Option SourceMap) : Key Leaves.host → String → Prop where
  | ident {i : IdentNode} {text : String} (h : StandsAt known i.span text) : KeyText known (.ident i) text
  | name {i : IdentNode} (h : ∀ text, ¬ StandsAt known i.span text) (hpanic : ¬ PanicsAt known i.span) :
    KeyText known (.ident i) i.name
  | str {s : StrNode} {text : String} (h : HasText known s.raw s.span text) : KeyText known (.str s) text
  | numeral {n : NumeralNode} {text : String} (h : HasText known n.raw n.span text) : KeyText known (.numeral n) text

/-- Whether the source map panics where the text of a key is looked up. -/
inductive KeyPanics (known : Option SourceMap) : Key Leaves.host → Prop where
  | ident {i : IdentNode} (h : PanicsAt known i.span) : KeyPanics known (.ident i)
  | str {s : StrNode} (h : LookupPanics known s.raw s.span) : KeyPanics known (.str s)
  | numeral {n : NumeralNode} (h : LookupPanics known n.raw n.span) : KeyPanics known (.numeral n)

theorem nameText_eq_ok_iff {i : IdentNode} : nameText known i = .ok text ↔ KeyText known (.ident i) text := by
  constructor
  · intro h
    unfold nameText at h
    split at h
    case h_1 found hfound =>
      obtain rfl := Except.ok.inj h
      exact .ident (textAt_eq_ok_iff.mp hfound)
    case h_2 hmissing =>
      obtain rfl := Except.ok.inj h
      obtain ⟨hnone, hpanic⟩ := textAt_eq_missing_iff.mp hmissing
      exact .name hnone hpanic
    case h_3 => cases h
  · intro h
    cases h with
    | ident h => exact nameText_of_textAt (textAt_eq_ok_iff.mpr h)
    | name h hpanic => rw [nameText, textAt_eq_missing_iff.mpr ⟨h, hpanic⟩]

theorem nameText_eq_panic_iff {i : IdentNode} : nameText known i = .error .panic ↔ PanicsAt known i.span := by
  rw [← textAt_eq_panic_iff, nameText]
  split <;> simp [*]

theorem keyText_eq_ok_iff {k : Key Leaves.host} : keyText known k = .ok text ↔ KeyText known k text := by
  cases k with
  | ident i => exact nameText_eq_ok_iff
  | str s => exact textOr_eq_ok_iff.trans ⟨.str, fun | .str h => h⟩
  | numeral n => exact textOr_eq_ok_iff.trans ⟨.numeral, fun | .numeral h => h⟩
  | computed | privateName => exact iff_of_false nofun nofun

theorem keyText_eq_panic_iff {k : Key Leaves.host} : keyText known k = .error .panic ↔ KeyPanics known k := by
  cases k with
  | ident i => exact nameText_eq_panic_iff.trans ⟨.ident, fun | .ident h => h⟩
  | str s => exact textOr_eq_panic_iff.trans ⟨.str, fun | .str h => h⟩
  | numeral n => exact textOr_eq_panic_iff.trans ⟨.numeral, fun | .numeral h => h⟩
  | computed | privateName => exact iff_of_false nofun nofun

/-! ### Literals -/

/-- The text of a literal.  A constant has a word, and a regular expression only what stands at its span. -/
inductive LiteralText (known : Option SourceMap) : Literal Leaves.host → String → Prop where
  | str {s : StrNode} {text : String} (h : HasText known s.raw s.span text) : LiteralText known (.str s) text
  | numeral {n : NumeralNode} {text : String} (h : HasText known n.raw n.span text) :
    LiteralText known (.numeral n) text
  | constant {c : ConstantNode} : LiteralText known (.constant c) c.value.text
  | regex {r : RegexNode} {text : String} (h : StandsAt known r.span text) : LiteralText known (.regex r) text

/-- Whether the source map panics where the text of a literal is looked up. -/
inductive LiteralPanics (known : Option SourceMap) : Literal Leaves.host → Prop where
  | str {s : StrNode} (h : LookupPanics known s.raw s.span) : LiteralPanics known (.str s)
  | numeral {n : NumeralNode} (h : LookupPanics known n.raw n.span) : LiteralPanics known (.numeral n)
  | regex {r : RegexNode} (h : PanicsAt known r.span) : LiteralPanics known (.regex r)

theorem literalText_eq_ok_iff {l : Literal Leaves.host} :
    literalText known l = .ok text ↔ LiteralText known l text := by
  cases l with
  | str s => exact textOr_eq_ok_iff.trans ⟨.str, fun | .str h => h⟩
  | numeral n => exact textOr_eq_ok_iff.trans ⟨.numeral, fun | .numeral h => h⟩
  | constant c => exact ⟨fun h => Except.ok.inj h ▸ .constant, fun | .constant => rfl⟩
  | regex r => exact textAt_eq_ok_iff.trans ⟨.regex, fun | .regex h => h⟩
  | jsxText t => exact iff_of_false nofun nofun

theorem literalText_eq_panic_iff {l : Literal Leaves.host} :
    literalText known l = .error .panic ↔ LiteralPanics known l := by
  cases l with
  | str s => exact textOr_eq_panic_iff.trans ⟨.str, fun | .str h => h⟩
  | numeral n => exact textOr_eq_panic_iff.trans ⟨.numeral, fun | .numeral h => h⟩
  | regex r => exact textAt_eq_panic_iff.trans ⟨.regex, fun | .regex h => h⟩
  | constant c | jsxText t => exact iff_of_false nofun nofun

/-! ### Properties -/

/-- The texts of an entry of a class map: that of its key and that of its literal. -/
inductive EntryTexts (known : Option SourceMap) : Property Leaves.host → String × String → Prop where
  | mk {k : Key Leaves.host} {l : Literal Leaves.host} {key value : String} (hk : KeyText known k key)
    (hl : LiteralText known l value) : EntryTexts known (.keyValue k (.literal l)) (key, value)

/-- Whether the source map panics where the texts of a property are looked up, the key before the literal. -/
inductive EntryPanics (known : Option SourceMap) : Property Leaves.host → Prop where
  | key {k : Key Leaves.host} {v : HostExpr} (h : KeyPanics known k) : EntryPanics known (.keyValue k v)
  | value {k : Key Leaves.host} {l : Literal Leaves.host} {key : String} (hk : KeyText known k key)
    (h : LiteralPanics known l) : EntryPanics known (.keyValue k (.literal l))

/-- The text of an entry with the given texts. -/
def entryText (e : String × String) : String :=
  e.1 ++ ": " ++ e.2

theorem propertyText_eq_ok_iff {p : Property Leaves.host} :
    propertyText known p = .ok text ↔ ∃ e, EntryTexts known p e ∧ entryText e = text := by
  constructor
  · intro h
    cases p with
    | keyValue k v =>
      obtain ⟨key, hkey, hrest⟩ := bind_eq_ok_iff.mp h
      obtain ⟨value, hvalue, htext⟩ := bind_eq_ok_iff.mp hrest
      cases v with
      | literal l =>
        exact ⟨_, .mk (keyText_eq_ok_iff.mp hkey) (literalText_eq_ok_iff.mp hvalue), Except.ok.inj htext⟩
      | _ => exact absurd hvalue nofun
    | _ => exact absurd h nofun
  · rintro ⟨_, ⟨hk, hl⟩, rfl⟩
    exact propertyText_of_texts (keyText_eq_ok_iff.mpr hk) (literalText_eq_ok_iff.mpr hl)

theorem propertyText_eq_panic_iff {p : Property Leaves.host} :
    propertyText known p = .error .panic ↔ EntryPanics known p := by
  constructor
  · intro h
    cases p with
    | keyValue k v =>
      rcases bind_eq_error_iff.mp h with hkey | ⟨key, hkey, h⟩
      · exact .key (keyText_eq_panic_iff.mp hkey)
      · rcases bind_eq_error_iff.mp h with hvalue | ⟨value, -, h⟩
        · cases v with
          | literal l => exact .value (keyText_eq_ok_iff.mp hkey) (literalText_eq_panic_iff.mp hvalue)
          | _ => exact absurd hvalue nofun
        · cases h
    | _ => exact absurd h nofun
  · rintro (h | ⟨hk, h⟩)
    · exact bind_eq_error_iff.mpr (.inl (keyText_eq_panic_iff.mpr h))
    · refine bind_eq_error_iff.mpr (.inr ⟨_, keyText_eq_ok_iff.mpr hk, bind_eq_error_iff.mpr (.inl ?_)⟩)
      exact literalText_eq_panic_iff.mpr h

end Fragments

end LazyStyles
