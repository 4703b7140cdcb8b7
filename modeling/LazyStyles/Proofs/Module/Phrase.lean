import LazyStyles.Fragments
import LazyStyles.Proofs.Lexical.Quoted
import LazyStyles.Proofs.Reader.Statement

/-!
# Phrases

Texts that are put together from fixed words and marks (`Spelling.word`, `Spelling.mark`) and from spellings
taken over as they are.  An object of such entries (`WrittenEntry`) is written with blanks between its parts
or without.  The texts of generated modules (`generatedSpellings`) and of lazy ones
(`Fragments.Spelt.spellings`) are spelled in this way.
-/

namespace LazyStyles.Syntax

open Text

namespace Spelling

/-- A word that is written as it reads. -/
def word (blanks text : String) (areBlanks : blanks.toList.all isSpace = true := by decide)
    (isPlain : Sign.isPlainWord text.toList = true := by decide) : Spelling where
  blanks := blanks.toList
  sign := .word ⟨text, false⟩
  chars := text.toList
  areBlanks := List.all_eq_true.mp areBlanks
  isSpelt := by
    have h := Sign.isSpelt_plainWord isPlain
    rwa [String.ofList_toList] at h

/-- Whether a text starts with a character that starts a mark and no comment. -/
def isPlainMark : List Char → Bool
  | [] => false
  | c :: _ => tokenKind? [c] == some (.mark c) && !isSpace c && !(['.', '/', '<', '-'].contains c)

/-- A mark. -/
def mark (blanks text : String) (areBlanks : blanks.toList.all isSpace = true := by decide)
    (isPlain : isPlainMark text.toList = true := by decide) : Spelling where
  blanks := blanks.toList
  sign := .mark text
  chars := text.toList
  areBlanks := List.all_eq_true.mp areBlanks
  isSpelt := by
    cases h : text.toList with
    | nil => exact absurd (h ▸ isPlain) nofun
    | cons c cs =>
      obtain ⟨⟨hk, hspace⟩, hc⟩ : (tokenKind? [c] = some (.mark c) ∧ isSpace c = false) ∧
          c ≠ '.' ∧ c ≠ '/' ∧ c ≠ '<' ∧ c ≠ '-' := by
        simpa [h, isPlainMark] using isPlain
      rw [← h]
      exact Sign.isSpelt_mark h hk hspace hc

/-- A string literal in a spelling of its own. -/
def str (blanks : String) (value : String) (raw : List Char) (isSpelt : (Sign.str value raw).IsSpelt raw)
    (areBlanks : blanks.toList.all isSpace = true := by decide) : Spelling where
  blanks := blanks.toList
  sign := .str value raw
  chars := raw
  areBlanks := List.all_eq_true.mp areBlanks
  isSpelt := isSpelt

theorem length_le_length_textOf_append (ps qs : List Spelling) (rest : List Char) :
    (textOf qs rest).length ≤ (textOf (ps ++ qs) rest).length := by
  induction ps with
  | nil => exact Nat.le_refl _
  | cons p ps ih =>
    refine Nat.le_trans ih ?_
    change _ ≤ (p.blanks ++ (p.chars ++ textOf (ps ++ qs) rest)).length
    rw [List.length_append, List.length_append]
    omega

section Text

variable {blanks text : String} {ps : List Spelling} {rest : List Char}

theorem textOf_nil : textOf [] rest = rest := rfl

theorem textOf_word {areBlanks : blanks.toList.all isSpace = true}
    {isPlain : Sign.isPlainWord text.toList = true} :
    textOf (word blanks text areBlanks isPlain :: ps) rest = blanks.toList ++ (text.toList ++ textOf ps rest) :=
  rfl

theorem textOf_mark {areBlanks : blanks.toList.all isSpace = true}
    {isPlain : isPlainMark text.toList = true} :
    textOf (mark blanks text areBlanks isPlain :: ps) rest = blanks.toList ++ (text.toList ++ textOf ps rest) :=
  rfl

theorem textOf_str {value : String} {raw : List Char} {isSpelt : (Sign.str value raw).IsSpelt raw}
    {areBlanks : blanks.toList.all isSpace = true} :
    textOf (str blanks value raw isSpelt areBlanks :: ps) rest = blanks.toList ++ (raw ++ textOf ps rest) :=
  rfl

end Text

end Spelling

/-! ### Entries -/

/-- An entry of an object with the texts of its signs. -/
structure WrittenEntry extends Entry where
  keyChars : List Char
  isKeySpelt : keySign.IsSpelt keyChars
  valueChars : List Char
  isValueSpelt : valueSign.IsSpelt valueChars

/-- What is written between the parts of an object: a blank or nothing. -/
def gap (isSpaced : Bool) : String :=
  if isSpaced then " " else ""

theorem areBlanks_gap (isSpaced : Bool) : (gap isSpaced).toList.all isSpace = true := by
  cases isSpaced <;> decide

namespace WrittenEntry

/-- The text of an entry. -/
def text (isSpaced : Bool) (e : WrittenEntry) : List Char :=
  e.keyChars ++ ':' :: ((gap isSpaced).toList ++ e.valueChars)

/-- The spellings of an entry. -/
def spellings (isSpaced : Bool) (e : WrittenEntry) : List Spelling :=
  have hblanks := List.all_eq_true.mp (areBlanks_gap isSpaced)
  [⟨(gap isSpaced).toList, e.keySign, e.keyChars, hblanks, e.isKeySpelt⟩, .mark "" ":",
    ⟨(gap isSpaced).toList, e.valueSign, e.valueChars, hblanks, e.isValueSpelt⟩]

/-- The spellings of an object from behind its opening brace on.  With blanks, an object without entries has
two. -/
def spellingsOfAll (isSpaced : Bool) : List WrittenEntry → List Spelling
  | [] => [.mark (gap isSpaced ++ gap isSpaced) "\x7d" (by cases isSpaced <;> decide)]
  | [e] => e.spellings isSpaced ++ [.mark (gap isSpaced) "\x7d" (areBlanks_gap isSpaced)]
  | e :: es => e.spellings isSpaced ++ .mark "" "," :: spellingsOfAll isSpaced es

variable {isSpaced : Bool}

theorem signsOf_spellings (e : WrittenEntry) (ps : List Spelling) :
    Spelling.signsOf (e.spellings isSpaced ++ ps) = e.toEntry.signs (Spelling.signsOf ps) := by
  cases isSpaced <;> rfl

/-- The signs of an object are those of its entries. -/
theorem signsOf_spellingsOfAll (es : List WrittenEntry) (ps : List Spelling) :
    Spelling.signsOf (spellingsOfAll isSpaced es ++ ps) =
      Entry.signsOfAll (es.map toEntry) (Spelling.signsOf ps) := by
  induction es with
  | nil => cases isSpaced <;> rfl
  | cons e es ih =>
    cases es with
    | nil =>
      rw [spellingsOfAll, List.append_assoc, signsOf_spellings]
      cases isSpaced <;> rfl
    | cons e' es =>
      rw [spellingsOfAll, List.append_assoc, signsOf_spellings, List.map_cons, List.map_cons, Entry.signsOfAll,
        ← List.map_cons, ← ih]
      · rfl
      all_goals exact fun h => absurd h (List.cons_ne_nil _ _)

theorem textOf_spellings (e : WrittenEntry) (ps : List Spelling) (rest : List Char) :
    Spelling.textOf (e.spellings isSpaced ++ ps) rest =
      (gap isSpaced).toList ++ (e.text isSpaced ++ Spelling.textOf ps rest) := by
  simp [spellings, text, Spelling.textOf, Spelling.mark]

/-- The text of an object is that of its entries, with commas between them. -/
theorem textOf_spellingsOfAll (es : List WrittenEntry) (rest : List Char) :
    Spelling.textOf (spellingsOfAll isSpaced es) rest =
      (gap isSpaced).toList ++ ((',' :: (gap isSpaced).toList).intercalate (es.map (text isSpaced)) ++
        ((gap isSpaced).toList ++ '\x7d' :: rest)) := by
  induction es with
  | nil => simp [spellingsOfAll, Spelling.textOf, Spelling.mark]
  | cons e es ih =>
    cases es with
    | nil =>
      rw [spellingsOfAll, textOf_spellings]
      simp [Spelling.textOf, Spelling.mark]
    | cons e' es =>
      rw [spellingsOfAll, textOf_spellings, List.map_cons, List.map_cons, List.intercalate_cons_cons,
        ← List.map_cons]
      · change _ ++ (_ ++ ',' :: Spelling.textOf (spellingsOfAll isSpaced (e' :: es)) rest) = _
        rw [ih]
        simp
      · exact fun h => absurd h (List.cons_ne_nil _ _)

/-- An object of entries, written with blanks. -/
def objectText (es : List WrittenEntry) : String :=
  "\x7b " ++ ", ".intercalate (es.map fun e => String.ofList (e.text true)) ++ " \x7d"

theorem toList_objectText (es : List WrittenEntry) :
    (objectText es).toList = '\x7b' :: Spelling.textOf (spellingsOfAll true es) [] := by
  have hentries : (es.map fun e => String.ofList (e.text true)).map String.toList = es.map (text true) := by
    simp
  rw [objectText, String.toList_append, String.toList_append, String.toList_intercalate, hentries,
    textOf_spellingsOfAll]
  simp [gap]

/-- Each entry takes up some of the text. -/
theorem length_le_length_textOf (isSpaced : Bool) (es : List WrittenEntry) (rest : List Char) :
    es.length ≤ (Spelling.textOf (spellingsOfAll isSpaced es) rest).length := by
  induction es with
  | nil => exact Nat.zero_le _
  | cons e es ih =>
    cases es with
    | nil =>
      rw [spellingsOfAll, textOf_spellings, List.length_append, List.length_append, text, List.length_append,
        List.length_cons, List.length_cons]
      simp only [List.length_nil]
      omega
    | cons e' es =>
      have hcomma : Spelling.textOf (.mark "" "," :: spellingsOfAll isSpaced (e' :: es)) rest =
          ',' :: Spelling.textOf (spellingsOfAll isSpaced (e' :: es)) rest := rfl
      rw [spellingsOfAll, textOf_spellings, List.length_append, List.length_append, hcomma, List.length_cons]
      · simp only [List.length_cons] at ih ⊢
        omega
      · exact fun h => absurd h (List.cons_ne_nil _ _)

/-! ### What stands behind -/

theorem isBoundary_gap {c : Char} {rest : List Char} (hc : IsBoundary [c]) :
    IsBoundary ((gap isSpaced).toList ++ c :: rest) := by
  cases isSpaced with
  | true => exact isBoundary_cons.mpr (by decide)
  | false => exact isBoundary_cons.mpr (isBoundary_cons.mp hc)

theorem follows_key {y : Sign} {k : Key Leaves.host} {rest : List Char} (hy : y.key? = some k)
    (h : IsBoundary rest) : y.Follows rest := by
  cases y with
  | mark m => exact absurd hy nofun
  | regex r => exact absurd hy nofun
  | str v raw => exact trivial
  | word w => exact h
  | numeral v raw => exact h

theorem follows_literal {y : Sign} {l : Literal Leaves.host} {rest : List Char} (hy : y.literal? = some l)
    (h : IsBoundary rest) : y.Follows rest := by
  cases y with
  | mark m => exact absurd hy nofun
  | str v raw => exact trivial
  | word w => exact h
  | numeral v raw => exact h
  | regex r => exact h

theorem areSeparate_spellings {e : WrittenEntry} {ps : List Spelling} {rest : List Char}
    (hend : IsBoundary (Spelling.textOf ps rest)) (hps : Spelling.AreSeparate ps rest) :
    Spelling.AreSeparate (e.spellings isSpaced ++ ps) rest :=
  ⟨follows_key e.isKey (isBoundary_cons.mpr (by decide)), rfl, follows_literal e.isValue hend, hps⟩

/-- The parts of an object do not run into each other. -/
theorem areSeparate_spellingsOfAll (es : List WrittenEntry) (rest : List Char) :
    Spelling.AreSeparate (spellingsOfAll isSpaced es) rest := by
  induction es with
  | nil => exact ⟨rfl, trivial⟩
  | cons e es ih =>
    cases es with
    | nil => exact areSeparate_spellings (isBoundary_gap (by decide)) ⟨rfl, trivial⟩
    | cons e' es =>
      have h : Spelling.AreSeparate (.mark "" "," :: spellingsOfAll isSpaced (e' :: es)) rest := ⟨rfl, ih⟩
      exact areSeparate_spellings (isBoundary_cons.mpr (by decide)) h

end WrittenEntry

end LazyStyles.Syntax

namespace LazyStyles

open Syntax

/-! ### Generated modules -/

/-- A quoted string as a literal without a span. -/
def quotedNode (s : String) : StrNode := ⟨none, s, some (quoted s)⟩

theorem literal?_quoted (s : String) : (Sign.str s (quoted s).toList).literal? = some (.str (quotedNode s)) := by
  rw [Sign.literal?, String.ofList_toList]
  rfl

theorem key?_quoted (s : String) : (Sign.str s (quoted s).toList).key? = some (.str (quotedNode s)) := by
  rw [Sign.key?, String.ofList_toList]
  rfl

/-- An entry of quoted strings. -/
def quotedEntry (e : String × String) : WrittenEntry where
  keySign := .str e.1 (quoted e.1).toList
  key := .str (quotedNode e.1)
  isKey := key?_quoted e.1
  isName _ _ := rfl
  valueSign := .str e.2 (quoted e.2).toList
  value := .str (quotedNode e.2)
  isValue := literal?_quoted e.2
  keyChars := (quoted e.1).toList
  isKeySpelt := isSpelt_quoted e.1
  valueChars := (quoted e.2).toList
  isValueSpelt := isSpelt_quoted e.2

theorem isPlainWord_text (kind : DeclarationKind) : Sign.isPlainWord kind.text.toList = true := by
  cases kind <;> decide

/-- The word of a kind of declaration, at the start of a text. -/
def kindSpelling (kind : DeclarationKind) : Spelling :=
  .word "" kind.text (by decide) (isPlainWord_text kind)

/-- Opening parentheses and the brace behind them, the first of them behind a blank or not. -/
def openings (isSpaced : Bool) : Nat → List Spelling
  | 0 => [.mark (gap isSpaced) "\x7b" (areBlanks_gap isSpaced)]
  | n + 1 => .mark (gap isSpaced) "(" (areBlanks_gap isSpaced) :: openings false n

/-- Closing parentheses. -/
def closings (n : Nat) : List Spelling :=
  List.replicate n (.mark "" ")")

/-- The spellings of the stylesheet's declaration. -/
def cssSpellings (kind : DeclarationKind) (css : String) : List Spelling :=
  [kindSpelling kind, .word " " "css", .mark " " "=",
    .str " " css (quoted css).toList (isSpelt_quoted css), .mark "" ";"]

/-- The spellings of the class map's export. -/
def exportSpellings (depth : Nat) (entries : List (String × String)) : List Spelling :=
  [.word "\n" "export", .word " " "default"] ++ (openings true depth ++
    (WrittenEntry.spellingsOfAll false (entries.map quotedEntry) ++ (closings depth ++ [.mark "" ";"])))

/-- The spellings of the import and of the call. -/
def injectSpellings (helper : String) : List Spelling :=
  [.word "\n" "import", .word " " "styleInject", .word " " "from",
    .str " " helper (quoted helper).toList (isSpelt_quoted helper), .mark "" ";",
    .word "\n" "styleInject", .mark "" "(", .word "" "css", .mark "" ")", .mark "" ";"]

/-- The spellings of the whole text. -/
def generatedSpellings (kind : DeclarationKind) (depth : Nat) (css : String) (entries : List (String × String))
    (helper : String) : List Spelling :=
  cssSpellings kind css ++ (exportSpellings depth entries ++ injectSpellings helper)

/-! ### Lazy modules -/

/-- What fragments say, and that they are spelled so. -/
structure Fragments.Spelt (f : Fragments) where
  css : String
  isCss : (Sign.str css f.css.toList).IsSpelt f.css.toList
  helper : String
  isHelper : (Sign.str helper f.helper.toList).IsSpelt f.helper.toList
  entries : List WrittenEntry
  isClassMap : f.classMap.toList = '\x7b' :: Spelling.textOf (WrittenEntry.spellingsOfAll true entries) []

namespace Fragments.Spelt

variable {f : Fragments} (m : f.Spelt)

/-- The pieces that the fragments spell. -/
def pieces : Shape where
  css := ⟨none, m.css, some f.css⟩
  classMap := m.entries.map (·.toEntry.property)
  helper := ⟨none, m.helper, some f.helper⟩

/-- The spellings of the import. -/
def importSpellings : List Spelling :=
  [.word "" "import", .word " " "styleInject", .word " " "from", .str " " m.helper f.helper.toList m.isHelper,
    .mark "" ";"]

/-- The spellings of the class map's declaration. -/
def mapSpellings : List Spelling :=
  [.word "\n" "var", .word " " "cssMap", .mark " " "=", .mark " " "\x7b"] ++
    WrittenEntry.spellingsOfAll true m.entries

/-- The spellings of the flag's declaration and of the function up to its body. -/
def headSpellings : List Spelling :=
  [.word "\n" "var", .word " " "hasRun", .mark "" ";", .word "\n" "var", .word " " "styles", .mark " " "=",
    .word " " "function", .word " " "styles", .mark "" "(", .mark "" ")", .mark " " "\x7b"]

/-- The spellings of the statement that injects the stylesheet at the first call. -/
def guardSpellings : List Spelling :=
  [.word "\n  " "if", .mark " " "(", .mark "" "!", .word "" "hasRun", .mark "" ")", .mark " " "\x7b",
    .word "\n    " "hasRun", .mark " " "=", .word " " "true", .mark "" ";",
    .word "\n    " "styleInject", .mark "" "(", .str "" m.css f.css.toList m.isCss, .mark "" ")", .mark "" ";",
    .mark "\n  " "\x7d"]

/-- The spellings of the function's end and of its export. -/
def tailSpellings : List Spelling :=
  [.word "\n  " "return", .word " " "cssMap", .mark "" ";", .mark "\n" "\x7d",
    .word "\n\n" "export", .word " " "default", .word " " "styles"]

/-- The spellings of the whole module. -/
def spellings : List Spelling :=
  m.importSpellings ++ (m.mapSpellings ++ (headSpellings ++ (m.guardSpellings ++ tailSpellings)))

end Fragments.Spelt

end LazyStyles
