import LazyStyles.Proofs.Source.Item
import LazyStyles.Proofs.Source.Snippets
import LazyStyles.Proofs.Module.Generated
import LazyStyles.Proofs.Module.Lazy
import LazyStyles.Proofs.Steps

/-!
# Pieces of a source

The fragments of a generated module that has just been parsed: each piece has a text, namely the characters it
was read from (`isTextAt_lexeme`), and that text is read as the same piece wherever it stands
(`exists_spelt_of_ofModule`).
-/

namespace LazyStyles

open Syntax

/-! ### Keys and literals -/

/-- Whether a literal is a regular expression, which only a source has a text for. -/
def isRegex {L : Leaves} : Literal L → Bool
  | .regex _ => true
  | _ => false

/-- Whether a property gives a regular expression. -/
def givesRegex {L : Leaves} : Property L → Bool
  | .keyValue _ (.literal l) => isRegex l
  | _ => false

theorem givesRegex_map {L M : Leaves} {f : Leaves.Map L M} (p : Property L) : givesRegex (p.map f) = givesRegex p := by
  cases p with
  | keyValue k v =>
    cases v with
    | literal l => cases l <;> rfl
    | _ => rfl
  | _ => rfl

section Texts

variable {src source : List Char} {known : Option SourceMap}

/-- The text of a name is the word it was read from. -/
theorem keyText_ident (hsrc : src <:+ source) (w : Lexeme scanWord src) :
    Fragments.keyText (some (.ofText source)) (.ident ((Leaves.toHost src (byteSize source)).ident w)) =
      .ok (String.ofList w.chars) :=
  Fragments.nameText_of_textAt (textAt_lexeme hsrc w)

/-- A key is spelled by the text it was read from, and where that is forgotten by its name. -/
theorem exists_isSpelt_key (hsrc : src <:+ source) (hknown : known = none ∨ known = some (.ofText source))
    {k : Key (Leaves.ofSource src)} (hk : k.IsSound) (hplain : isPlainKey k = true) :
    ∃ (y : Sign) (cs : List Char), y.key? = some (k.bare (byteSize source)) ∧
      (∀ text ∈ ["...", "*", "\x7d"], y.is text = false) ∧ y.IsSpelt cs ∧
      Fragments.keyText known (k.map (Leaves.toHost src (byteSize source))) = .ok (String.ofList cs) := by
  cases k with
  | ident w =>
    have hmarks : ∀ text ∈ ["...", "*", "\x7d"], text.toList.head?.any Text.opensIdentifier = false := by decide
    have hname : ∀ text ∈ ["...", "*", "\x7d"], (Sign.word (Lexeme.value w)).is text = false :=
      fun text htext => Sign.is_word_eq_false hk.2 (hmarks text htext)
    -- A name is written as in the source where that is known, and else without escapes.
    obtain rfl | rfl := hknown
    · refine ⟨.word ⟨(Lexeme.value w).name, false⟩, (Lexeme.value w).name.toList, rfl, hname, ?_, ?_⟩
      · have h := Sign.isSpelt_plainWord (Sign.isPlainWord_name hk.2)
        rwa [String.ofList_toList] at h
      · rw [String.ofList_toList]
        rfl
    · exact ⟨.word (Lexeme.value w), Lexeme.chars w, rfl, hname, Lexeme.IsToken.isSpelt_word hk, keyText_ident hsrc w⟩
  | str s => exact ⟨_, _, rfl, fun _ _ => rfl, Lexeme.IsToken.isSpelt_str hk, rfl⟩
  | numeral n => exact ⟨_, _, rfl, fun _ _ => rfl, Lexeme.IsToken.isSpelt_numeral hk, rfl⟩
  | computed | privateName => exact absurd hplain nofun

/-- A literal is spelled by the text it was read from, which is remembered but for regular expressions. -/
theorem exists_isSpelt_literal (hsrc : src <:+ source) (hknown : known = none ∨ known = some (.ofText source))
    {l : Literal (Leaves.ofSource src)} (hl : l.IsSound) (hregex : known = none → isRegex l = false) :
    ∃ (y : Sign) (cs : List Char),
      y.literal? = some ((l.map (Leaves.toHost src (byteSize source))).map Leaves.withoutSpans) ∧ y.IsSpelt cs ∧
      Fragments.literalText known (l.map (Leaves.toHost src (byteSize source))) = .ok (String.ofList cs) := by
  cases l with
  | str s => exact ⟨_, _, rfl, Lexeme.IsToken.isSpelt_str hl, rfl⟩
  | numeral n => exact ⟨_, _, rfl, Lexeme.IsToken.isSpelt_numeral hl, rfl⟩
  | regex r =>
    -- A regular expression keeps no text of its own, so the source has to be known.
    obtain rfl | rfl := hknown
    · exact absurd (hregex rfl) nofun
    · exact ⟨_, _, rfl, Lexeme.IsToken.isSpelt_regex hl, textAt_lexeme hsrc r⟩
  | constant c =>
    refine ⟨.word ⟨(ConstantLexeme.value c).text, false⟩, (ConstantLexeme.value c).text.toList, ?_, ?_, ?_⟩
    · have hconstant : Sign.constant? ⟨(ConstantLexeme.value c).text, false⟩ = some (ConstantLexeme.value c) := by
        cases ConstantLexeme.value c <;> decide
      change (Sign.constant? _).map _ = _
      rw [hconstant]
      rfl
    · have hplain : Sign.isPlainWord (ConstantLexeme.value c).text.toList = true := by
        cases ConstantLexeme.value c <;> decide
      have h := Sign.isSpelt_plainWord hplain
      rwa [String.ofList_toList] at h
    · rw [String.ofList_toList]
      rfl
  | jsxText t => exact nomatch t

/-! ### Properties -/

/-- The text of an entry, written with blanks, as fragments hold it. -/
theorem ofList_text (e : WrittenEntry) :
    String.ofList (e.text true) = String.ofList e.keyChars ++ ": " ++ String.ofList e.valueChars := by
  rw [← String.toList_inj]
  simp [WrittenEntry.text, gap]

/-- A property that gives a literal for a plain key is spelled by the texts of both. -/
theorem exists_writtenEntry (hsrc : src <:+ source) (hknown : known = none ∨ known = some (.ofText source))
    {p : Property (Leaves.ofSource src)} (hp : p.IsSound) (hliteral : isLiteralProperty p = true)
    (hregex : known = none → givesRegex p = false) :
    ∃ e : WrittenEntry, e.toEntry.property = p.bare (byteSize source) ∧
      Fragments.propertyText known (p.map (Leaves.toHost src (byteSize source))) =
        .ok (String.ofList (e.text true)) := by
  cases p with
  | keyValue k v =>
    obtain ⟨hk, hv⟩ := Bool.and_eq_true_iff.mp hliteral
    cases v with
    | literal l =>
      obtain ⟨y, cs, hy, hname, hspelt, hkey⟩ := exists_isSpelt_key hsrc hknown hp.1 hk
      obtain ⟨z, ds, hz, hspelt', hvalue⟩ := exists_isSpelt_literal hsrc hknown hp.2 hregex
      refine ⟨⟨⟨y, _, hy, hname, z, _, hz⟩, cs, hspelt, ds, hspelt'⟩, rfl, ?_⟩
      rw [ofList_text]
      exact Fragments.propertyText_of_texts hkey hvalue
    | _ => exact absurd hv nofun
  | _ => exact absurd hliteral nofun

theorem exists_writtenEntries (hsrc : src <:+ source) (hknown : known = none ∨ known = some (.ofText source))
    {ps : List (Property (Leaves.ofSource src))} (hps : ∀ p ∈ ps, p.IsSound)
    (hliteral : ∀ p ∈ ps, isLiteralProperty p = true) (hregex : known = none → ∀ p ∈ ps, givesRegex p = false) :
    ∃ es : List WrittenEntry, es.map (·.toEntry.property) = ps.map (·.bare (byteSize source)) ∧
      (ps.map (·.map (Leaves.toHost src (byteSize source)))).mapM (Fragments.propertyText known) =
        .ok (es.map fun e => String.ofList (e.text true)) := by
  induction ps with
  | nil => exact ⟨[], rfl, rfl⟩
  | cons p ps ih =>
    obtain ⟨hp, hps⟩ := List.forall_mem_cons.mp hps
    obtain ⟨hlp, hlps⟩ := List.forall_mem_cons.mp hliteral
    obtain ⟨e, he, htext⟩ := exists_writtenEntry hsrc hknown hp hlp fun h => (List.forall_mem_cons.mp (hregex h)).1
    obtain ⟨es, hes, htexts⟩ := ih hps hlps fun h => (List.forall_mem_cons.mp (hregex h)).2
    refine ⟨e :: es, by rw [List.map_cons, List.map_cons, he, hes], ?_⟩
    rw [List.map_cons, List.mapM_cons, htext, htexts]
    rfl

end Texts

/-! ### Pieces -/

section Pieces

variable {src : List Char}

theorem Syntax.Expr.IsSound.withoutParentheses {e : SourceExpr src} (he : e.IsSound) :
    (withoutParentheses e).IsSound := by
  fun_induction LazyStyles.withoutParentheses e with
  | case1 s e ih => exact ih he
  | case2 e _ => exact he

/-- The pieces of a generated module are made of tokens where its items are. -/
theorem IsGenerated.isSound {name : Lexeme scanWord src → String} {value : Lexeme scanString src → String}
    {is : List (Item (Leaves.ofSource src))} {css : Lexeme scanString src}
    {ps : List (Property (Leaves.ofSource src))} {helper : Lexeme scanString src}
    (h : IsGenerated (L := Leaves.ofSource src) name value is css ps helper) (his : ∀ i ∈ is, i.IsSound) :
    css.IsToken (.str css.value css.chars) ∧ (∀ p ∈ ps, p.IsSound) ∧
      helper.IsToken (.str helper.value helper.chars) := by
  obtain ⟨-, -, hobject, -, -, -, -⟩ := h
  simp only [List.forall_mem_cons] at his
  obtain ⟨hcss, hexport, hhelper, -⟩ := his
  have hps := Expr.IsSound.withoutParentheses hexport
  rw [hobject] at hps
  exact ⟨hcss _ List.mem_cons_self, hps, hhelper⟩

end Pieces

/-- The pieces without spans. -/
def Shape.withoutSpans (s : Shape) : Shape where
  css := Leaves.withoutSpans.str s.css
  classMap := s.classMap.map (·.map Leaves.withoutSpans)
  helper := Leaves.withoutSpans.str s.helper

/-- A module without spans has the same pieces without spans. -/
theorem Shape.ofModule_withoutSpans {m : HostModule} {shape : Shape} (h : Shape.ofModule m = .ok shape) :
    Shape.ofModule m.withoutSpans = .ok shape.withoutSpans := by
  have h := Shape.ofModule_eq_ok_iff.mp h
  exact Shape.ofModule_eq_ok_iff.mpr (isGenerated_map.mpr ⟨_, _, _, h, rfl, rfl, rfl⟩)

section Parsed

variable {code id : String} {m : HostModule} {shape : Shape}

/-- The pieces of a generated module that has just been parsed are those of its source. -/
theorem exists_of_ofModule_parsed (hm : parseModule code id = .ok m) (hshape : Shape.ofModule m = .ok shape) :
    ∃ (css helper : Lexeme scanString (bodyOf (sourceOf code)))
      (ps : List (Property (Leaves.ofSource (bodyOf (sourceOf code))))),
      shape = ⟨(Leaves.toHost _ (byteSize (sourceOf code))).str css,
        ps.map (·.map (Leaves.toHost _ (byteSize (sourceOf code)))),
        (Leaves.toHost _ (byteSize (sourceOf code))).str helper⟩ ∧
      css.IsToken (.str css.value css.chars) ∧ helper.IsToken (.str helper.value helper.chars) ∧
      (∀ p ∈ ps, p.IsSound) ∧ ∀ p ∈ ps, isLiteralProperty p = true := by
  obtain ⟨is, hsound, his⟩ := exists_of_parseModule hm
  have h := Shape.ofModule_eq_ok_iff.mp hshape
  rw [his] at h
  obtain ⟨css, ps, helper, hgenerated, hcss, hps, hhelper⟩ := isGenerated_map.mp h
  obtain ⟨hcssToken, hpsSound, hhelperToken⟩ := hgenerated.isSound hsound
  refine ⟨css, helper, ps, ?_, hcssToken, hhelperToken, hpsSound, hgenerated.isLiteral⟩
  rw [hcss, hps, hhelper]

/-- A generated module that has just been parsed has fragments, and they spell its pieces.  Its source need
not be known if the class map gives no regular expression. -/
theorem exists_spelt_of_ofModule (hm : parseModule code id = .ok m) (hshape : Shape.ofModule m = .ok shape)
    {known : Option SourceMap} (hknown : known = none ∨ known = some (.ofText (sourceOf code)))
    (hregex : known = none → ∀ p ∈ shape.classMap, givesRegex p = false) :
    ∃ f, Fragments.ofShape shape known = .ok f ∧ ∃ s : f.Spelt, s.pieces = shape.withoutSpans := by
  have hsrc : bodyOf (sourceOf code) <:+ sourceOf code := List.dropWhile_suffix _
  obtain ⟨css, helper, ps, rfl, hcss, hhelper, hps, hliteral⟩ := exists_of_ofModule_parsed hm hshape
  have hregex : known = none → ∀ p ∈ ps, givesRegex p = false := by
    intro h p hp
    rw [← givesRegex_map (f := Leaves.toHost _ (byteSize (sourceOf code)))]
    exact hregex h _ (List.mem_map_of_mem hp)
  obtain ⟨es, hes, htexts⟩ := exists_writtenEntries hsrc hknown hps hliteral hregex
  let f : Fragments := ⟨String.ofList css.chars, WrittenEntry.objectText es, String.ofList helper.chars⟩
  have hchars (l : Lexeme scanString (bodyOf (sourceOf code))) (hl : l.IsToken (.str l.value l.chars)) :
      (Sign.str l.value (String.ofList l.chars).toList).IsSpelt (String.ofList l.chars).toList := by
    rw [String.toList_ofList]
    exact hl.isSpelt_str
  refine ⟨f, ?_, ⟨css.value, hchars css hcss, helper.value, hchars helper hhelper, es,
    WrittenEntry.toList_objectText es⟩, ?_⟩
  · exact Fragments.ofShape_of_texts rfl rfl htexts
  · have hmap : (ps.map (·.map (Leaves.toHost _ (byteSize (sourceOf code))))).map (·.map Leaves.withoutSpans) =
        ps.map (·.bare (byteSize (sourceOf code))) := by
      rw [List.map_map]
      rfl
    rw [Shape.withoutSpans, hmap, ← hes]
    rfl

end Parsed

/-! ### A module with many kinds of pieces -/

/-- A generated module with an escaped name, a regular expression and a number in its class map. -/
def mixedText : String :=
  "let css='é\\x41';export default(\x7b\\u0061b:/x/g,1e3:null\x7d);" ++
    "import styleInject from 'style-inject/dist/style-inject.es.js';styleInject(css)"

/-- The texts of its pieces. -/
def mixedFragments : Fragments where
  css := "'é\\x41'"
  classMap := "\x7b \\u0061b: /x/g, 1e3: null \x7d"
  helper := "'style-inject/dist/style-inject.es.js'"

/-- What becomes of the module, computed. -/
theorem exists_ofShape_mixedText :
    ∃ m shape, parseModule mixedText "a.css" = .ok m ∧ Shape.ofModule m = .ok shape ∧
      Fragments.ofShape shape (some (.ofText (sourceOf mixedText))) = .ok mixedFragments ∧
      ∃ p ∈ shape.classMap, givesRegex p = true := by
  have h : ((parseModule mixedText "a.css").toOption.any fun m => (Shape.ofModule m).toOption.any fun shape =>
      decide (Fragments.ofShape shape (some (.ofText (sourceOf mixedText))) = .ok mixedFragments) &&
        shape.classMap.any givesRegex) = true := by
    decide +kernel
  obtain ⟨m, hm, h⟩ := exists_of_any_toOption h
  obtain ⟨shape, hshape, h⟩ := exists_of_any_toOption h
  obtain ⟨hf, hregex⟩ := Bool.and_eq_true_iff.mp h
  exact ⟨m, shape, hm, hshape, of_decide_eq_true hf, List.any_eq_true.mp hregex⟩

end LazyStyles
