import LazyStyles.Proofs.Lexical.Sign

/-!
# Spellings of signs

The characters of a token spell its sign wherever they stand, as long as what follows does not go on with it
(`Sign.Follows`).  For a token that has been read this is `Lexeme.IsToken.isSpelt_word` and its like; a text
that is made of such spellings, with blanks between them, is read sign by sign (`Spells`).
-/

namespace LazyStyles.Syntax

open Text

namespace Sign

/-- Whether a text with `rest` behind the sign does not go on with it. -/
def Follows (rest : List Char) : Sign → Prop
  | .mark m => markOf? (m.toList ++ rest) = some m
  | .str .. => True
  | _ => IsBoundary rest

/-- Whether `cs` is read as the sign wherever the text may go on behind it. -/
def IsSpelt (cs : List Char) (y : Sign) : Prop :=
  ∀ rest, y.Follows rest → y.IsAt (cs ++ rest) rest ∧ IsSolid (cs ++ rest)

end Sign

/-! ### First characters -/

theorem tokenKind?_congr {c : Char} (hc : c ≠ '.') (s t : List Char) :
    tokenKind? (c :: s) = tokenKind? (c :: t) := by
  simp [tokenKind?, hc]

/-- Only marks start with a character that a comment may start with. -/
theorem ne_of_tokenKind? {c : Char} {s : List Char} {k : TokenKind} (h : tokenKind? (c :: s) = some k)
    (hk : ∀ d, k ≠ .mark d) : c ≠ '/' ∧ c ≠ '<' ∧ c ≠ '-' := by
  refine ⟨?_, ?_, ?_⟩
  all_goals
    rintro rfl
    exact hk _ (Option.some.inj h).symm

theorem exists_cons_of_tokenKind? {s : List Char} {k : TokenKind} (h : tokenKind? s = some k) :
    ∃ c u, s = c :: u := by
  cases s with
  | nil => exact absurd h nofun
  | cons c u => exact ⟨c, u, rfl⟩

theorem tokenKind?_eq_word {c : Char} {s : List Char} :
    tokenKind? (c :: s) = some .word ↔ opensIdentifier c = true ∨ c = '\\' := by
  rw [tokenKind?]
  split_ifs with h₁ h₂ h₃
  · simpa using h₁
  all_goals simpa using h₁

theorem isQuote_of_tokenKind? {c : Char} {s : List Char} (h : tokenKind? (c :: s) = some .str) : IsQuote c := by
  rw [tokenKind?] at h
  split_ifs at h with h₁ h₂ h₃
  · simp at h
  · simpa [IsQuote] using h₂
  all_goals simp at h

theorem tokenKind?_eq_numeral {c : Char} {s : List Char} (h : tokenKind? (c :: s) = some .numeral) :
    c.isDigit = true ∨ c = '.' ∧ ∃ d u, s = d :: u ∧ d.isDigit = true := by
  rw [tokenKind?] at h
  split_ifs at h with h₁ h₂ h₃
  · simp at h
  · simp at h
  · rcases (by simpa using h₃ : c.isDigit = true ∨ c = '.' ∧ s.head?.any Char.isDigit = true) with hc | ⟨hc, hs⟩
    · exact .inl hc
    · cases s with
      | nil => exact absurd hs nofun
      | cons d u => exact .inr ⟨hc, d, u, rfl, hs⟩
  · simp at h

/-! ### Signs that have been read -/

namespace Sign

variable {s t : List Char}

/-- A text in front of which a sign stands that starts like this one is no trivia. -/
theorem isSolid_of_tokenKind? {c : Char} {u v : List Char} {k : TokenKind} (hends : EndsTrivia (c :: u))
    (h : tokenKind? (c :: u) = some k) (hk : ∀ d, k ≠ .mark d) : IsSolid (c :: v) := by
  obtain ⟨hslash, hlt, hminus⟩ := ne_of_tokenKind? h hk
  exact isSolid_cons v (hends.1 c rfl) hslash hlt hminus

/-- A word that has been read is read again from its own characters. -/
theorem exists_spelling_word {w : Word} (hends : EndsTrivia s) (h : (word w).IsAt s t) :
    ∃ cs, s = cs ++ t ∧ (word w).IsSpelt cs := by
  obtain ⟨hk, hres, n, hscan, rfl⟩ := h
  obtain ⟨cs, u, rfl, rfl, hspell⟩ := exists_spelling_of_scanWord hscan
  refine ⟨cs, by rw [List.drop_left], fun rest hrest => ?_⟩
  cases cs with
  | nil =>
    obtain ⟨c, v, rfl⟩ := exists_cons_of_tokenKind? hk
    obtain ⟨d, ds, hd, -⟩ := exists_name_of_scanWord (tokenKind?_eq_word.mp hk) hscan
    have hw := hspell [] isBoundary_nil
    obtain rfl := (Reading.mk.inj (Except.ok.inj hw)).1
    exact absurd hd (by simp)
  | cons c cs =>
    refine ⟨⟨?_, hres, _, hspell rest hrest, List.drop_left⟩, isSolid_of_tokenKind? hends hk nofun⟩
    exact tokenKind?_eq_word.mpr (tokenKind?_eq_word.mp hk)

/-- A word that has been read is no text that starts otherwise than words do. -/
theorem is_word_eq_false {w : Word} (h : (word w).IsAt s t) {text : String}
    (htext : text.toList.head?.any opensIdentifier = false) : (word w).is text = false := by
  obtain ⟨hk, -, n, hscan, -⟩ := h
  obtain ⟨c, u, rfl⟩ := exists_cons_of_tokenKind? hk
  obtain ⟨d, ds, hd, hopens, -⟩ := exists_name_of_scanWord (tokenKind?_eq_word.mp hk) hscan
  refine beq_eq_false_iff_ne.mpr ?_
  rintro rfl
  rw [hd, List.head?_cons, Option.any_some, hopens] at htext
  exact absurd htext nofun

/-- A string literal that has been read is read again from its own characters. -/
theorem exists_spelling_str {v : String} {raw : List Char} (hends : EndsTrivia s)
    (h : (str v raw).IsAt s t) : s = raw ++ t ∧ (str v raw).IsSpelt raw := by
  obtain ⟨hk, n, hscan, rfl, rfl⟩ := h
  obtain ⟨q, u, rfl⟩ := exists_cons_of_tokenKind? hk
  have hq := isQuote_of_tokenKind? hk
  obtain ⟨cs, w, hs, rfl, hspell⟩ := exists_spelling_of_scanString hq hscan
  have htake : (q :: u).take (q :: cs).length = q :: cs := by rw [hs, List.take_left]
  refine ⟨(List.take_append_drop _ _).symm, fun rest _ => ?_⟩
  rw [htake]
  refine ⟨⟨?_, _, hspell rest, List.take_left, List.drop_left⟩, isSolid_of_tokenKind? hends hk nofun⟩
  rw [← hk]
  exact tokenKind?_congr (by rcases hq with rfl | rfl <;> decide) _ _

/-- A numeric literal that has been read is read again from its own characters. -/
theorem exists_spelling_numeral {v : Numeral} {raw : List Char} (hends : EndsTrivia s)
    (h : (numeral v raw).IsAt s t) : s = raw ++ t ∧ (numeral v raw).IsSpelt raw := by
  obtain ⟨hk, n, hscan, rfl, rfl⟩ := h
  refine ⟨(List.take_append_drop _ _).symm, fun rest hrest => ?_⟩
  obtain ⟨c, v, rfl⟩ := exists_cons_of_tokenKind? hk
  obtain ⟨hdigit, hpoint⟩ := lt_length_of_scanNumeral hscan
  obtain ⟨cs, w, hs, rfl, hspell⟩ := exists_spelling_of_scanNumeral hscan
  have htake : (c :: v).take cs.length = cs := by rw [hs, List.take_left]
  rw [htake]
  -- The first character tells the kind of the token or, behind a point, the second, and both are of the number.
  rcases tokenKind?_eq_numeral hk with hc | ⟨rfl, d, u, rfl, hd⟩
  · obtain ⟨cs, rfl⟩ : ∃ cs', cs = c :: cs' := by
      cases cs with
      | nil => exact absurd (hdigit hc) (by simp)
      | cons d ds => exact ⟨ds, by rw [(List.cons.inj hs).1]⟩
    refine ⟨⟨?_, _, hspell rest hrest, List.take_left, List.drop_left⟩,
      isSolid_of_tokenKind? hends hk nofun⟩
    rw [← hk]
    refine tokenKind?_congr ?_ _ _
    rintro rfl
    exact absurd hc (by decide)
  · obtain ⟨cs, rfl⟩ : ∃ cs', cs = '.' :: d :: cs' := by
      have hlen := hpoint rfl d u rfl hd
      match cs, hs, hlen with
      | e :: f :: ds, hs, _ =>
        rw [List.cons_append, List.cons_append, List.cons.injEq, List.cons.injEq] at hs
        exact ⟨ds, by rw [hs.1, hs.2.1]⟩
    exact ⟨⟨hk, _, hspell rest hrest, List.take_left, List.drop_left⟩, isSolid_of_tokenKind? hends hk nofun⟩

/-- A regular expression that has been read is read again from its own characters. -/
theorem exists_spelling_regex {r : Regex} (hends : EndsTrivia s) (h : (regex r).IsAt s t) :
    ∃ cs, s = cs ++ t ∧ (regex r).IsSpelt cs := by
  obtain ⟨hs, n, hscan, rfl⟩ := h
  obtain ⟨u, rfl⟩ := List.head?_eq_some_iff.mp hs
  obtain ⟨d, cs, w, hs, rfl, hspell⟩ := exists_spelling_of_scanRegex hscan
  refine ⟨'/' :: d :: cs, by rw [hs, List.drop_left], fun rest hrest => ?_⟩
  refine ⟨⟨rfl, _, hspell rest hrest, List.drop_left⟩, ?_⟩
  -- The second character is still there, so that the literal opens no comment.
  have hstart {e : Char} (h : ['/', e] <+: '/' :: d :: (cs ++ rest)) : ['/', e] <+: '/' :: u := by
    rw [List.cons_prefix_cons, List.cons_prefix_cons] at h
    rw [hs, List.cons_append, List.cons_append, List.cons_prefix_cons, List.cons_prefix_cons]
    exact ⟨rfl, h.2.1, List.nil_prefix⟩
  exact EndsTrivia.isSolid ⟨hends.1, fun h => hends.2.1 (hstart h), fun h => hends.2.2 (hstart h)⟩
    (by decide) (by decide)

/-! ### Signs of a given spelling -/

/-- Whether `cs` are the characters of a word without escapes. -/
def isPlainWord : List Char → Bool
  | [] => false
  | c :: cs => opensIdentifier c && !isSpace c && cs.all continuesIdentifier

/-- A word without escapes spells itself. -/
theorem isSpelt_plainWord {cs : List Char} (h : isPlainWord cs = true) :
    (word ⟨String.ofList cs, false⟩).IsSpelt cs := by
  cases cs with
  | nil => exact absurd h nofun
  | cons c cs =>
    obtain ⟨⟨hc, hspace⟩, hcs⟩ : (opensIdentifier c = true ∧ isSpace c = false) ∧
        ∀ d ∈ cs, continuesIdentifier d = true := by
      simpa [isPlainWord] using h
    intro rest hrest
    have hk : tokenKind? (c :: (cs ++ rest)) = some .word := tokenKind?_eq_word.mpr (.inl hc)
    refine ⟨⟨hk, rfl, _, isSpelling_scanWord hc hcs rest hrest, List.drop_left⟩, ?_⟩
    obtain ⟨hslash, hlt, hminus⟩ := ne_of_tokenKind? hk nofun
    exact isSolid_cons _ hspace hslash hlt hminus

/-- The name of a word that has been read is a word without escapes. -/
theorem isPlainWord_name {w : Word} (h : (word w).IsAt s t) : isPlainWord w.name.toList = true := by
  obtain ⟨hk, -, n, hscan, -⟩ := h
  obtain ⟨c, u, rfl⟩ := exists_cons_of_tokenKind? hk
  obtain ⟨d, ds, hd, hopens, hcontinues⟩ := exists_name_of_scanWord (tokenKind?_eq_word.mp hk) hscan
  rw [hd, isPlainWord, hopens, isSpace_eq_false hopens, List.all_eq_true.mpr hcontinues]
  rfl

/-- A mark spells itself, unless it starts as comments do. -/
theorem isSpelt_mark {m : String} {c : Char} {cs : List Char} (hm : m.toList = c :: cs)
    (hk : tokenKind? [c] = some (.mark c)) (hspace : isSpace c = false)
    (hc : c ≠ '.' ∧ c ≠ '/' ∧ c ≠ '<' ∧ c ≠ '-') : (mark m).IsSpelt m.toList := by
  obtain ⟨hpoint, hslash, hlt, hminus⟩ := hc
  intro rest hrest
  refine ⟨⟨⟨c, ?_⟩, hrest, ?_⟩, ?_⟩
  · rw [hm, ← hk]
    exact tokenKind?_congr hpoint _ _
  · rw [← String.length_toList, List.drop_left]
  · rw [hm]
    exact isSolid_cons _ hspace hslash hlt hminus

end Sign

namespace Lexeme

variable {src : List Char} {α : Type} {scan : Scanner α} {l : Lexeme scan src}

theorem rest_eq (l : Lexeme scan src) : l.start.rest = l.chars ++ l.stop.rest :=
  (List.take_append_drop _ _).symm

theorem IsToken.isSpelt_word {w : Word} (h : l.IsToken (.word w)) : (Sign.word w).IsSpelt l.chars := by
  obtain ⟨cs, hs, hcs⟩ := Sign.exists_spelling_word h.1 h.2
  rwa [List.append_cancel_right (l.rest_eq.symm.trans hs)]

theorem IsToken.isSpelt_regex {r : Regex} (h : l.IsToken (.regex r)) : (Sign.regex r).IsSpelt l.chars := by
  obtain ⟨cs, hs, hcs⟩ := Sign.exists_spelling_regex h.1 h.2
  rwa [List.append_cancel_right (l.rest_eq.symm.trans hs)]

theorem IsToken.isSpelt_str {v : String} (h : l.IsToken (.str v l.chars)) :
    (Sign.str v l.chars).IsSpelt l.chars :=
  (Sign.exists_spelling_str h.1 h.2).2

theorem IsToken.isSpelt_numeral {v : Numeral} (h : l.IsToken (.numeral v l.chars)) :
    (Sign.numeral v l.chars).IsSpelt l.chars :=
  (Sign.exists_spelling_numeral h.1 h.2).2

end Lexeme

/-! ### Texts made of signs -/

/-- Whether a text is read as the signs, each with whether it starts a line. -/
inductive Spells : List Char → List (Sign × Bool) → Prop where
  | finish {ws : List Char} (hws : ∀ c ∈ ws, isSpace c = true) : Spells ws []
  | sign {ws s t : List Char} {y : Sign} {ys : List (Sign × Bool)} (hws : ∀ c ∈ ws, isSpace c = true)
      (hs : IsSolid s) (hy : y.IsAt s t) (ht : Spells t ys) :
      Spells (ws ++ s) ((y, ws.any isLineTerminator) :: ys)

/-- A sign as it is written in a text, with the blanks before it. -/
structure Spelling where
  blanks : List Char
  sign : Sign
  chars : List Char
  areBlanks : ∀ c ∈ blanks, isSpace c = true
  isSpelt : sign.IsSpelt chars

namespace Spelling

/-- The text of spellings with `rest` behind them. -/
def textOf (ps : List Spelling) (rest : List Char) : List Char :=
  ps.foldr (fun p t => p.blanks ++ (p.chars ++ t)) rest

/-- The signs of spellings, each with whether it starts a line. -/
def signsOf (ps : List Spelling) : List (Sign × Bool) :=
  ps.map fun p => (p.sign, p.blanks.any isLineTerminator)

/-- Whether none of the signs is gone on with by what stands behind it. -/
def AreSeparate : List Spelling → List Char → Prop
  | [], _ => True
  | p :: ps, rest => p.sign.Follows (textOf ps rest) ∧ AreSeparate ps rest

theorem textOf_append (ps qs : List Spelling) (rest : List Char) :
    textOf (ps ++ qs) rest = textOf ps (textOf qs rest) :=
  List.foldr_append

theorem areSeparate_append {ps qs : List Spelling} {rest : List Char} :
    AreSeparate (ps ++ qs) rest ↔ AreSeparate ps (textOf qs rest) ∧ AreSeparate qs rest := by
  induction ps with
  | nil => simp [AreSeparate]
  | cons p ps ih => rw [List.cons_append, AreSeparate, AreSeparate, ih, textOf_append, and_assoc]

/-- A text that is made of separate spellings is read as their signs. -/
theorem spells_textOf {ps : List Spelling} {rest : List Char} (h : AreSeparate ps rest)
    (hrest : ∀ c ∈ rest, isSpace c = true) : Spells (textOf ps rest) (signsOf ps) := by
  induction ps with
  | nil => exact .finish hrest
  | cons p ps ih =>
    obtain ⟨hp, hps⟩ := h
    obtain ⟨hat, hsolid⟩ := p.isSpelt _ hp
    exact .sign p.areBlanks hsolid hat (ih hps)

end Spelling

end LazyStyles.Syntax
