import LazyStyles.Syntax.Source
import LazyStyles.Syntax.Reader.Basic
import LazyStyles.Proofs.Lexical.Word
import LazyStyles.Proofs.Lexical.StringLiteral
import LazyStyles.Proofs.Lexical.NumericLiteral
import LazyStyles.Proofs.Lexical.RegexLiteral
import LazyStyles.Proofs.Lexical.Trivia

/-!
# Signs

A sign is a token without its source: what it says, and how it was written where that is remembered.

* `Sign.IsAt`: the sign is read at the front of one text and leaves another, without any flaw.
* `Token.exists_scanAt_of_isAt`, `Token.holdsAt_of_scanAt`: this is what scanning a token of a module comes to.
* `State.IsSound.isToken`: what the current token of a module holds is a token of its source.
-/

namespace LazyStyles.Syntax

open Text

/-- A token by what it says and, for strings and numbers, how it is written. -/
inductive Sign where
  | word (w : Word)
  | mark (text : String)
  | str (value : String) (raw : List Char)
  | numeral (value : Numeral) (raw : List Char)
  | regex (r : Regex)

/-- The words that a module may not spell with escapes. -/
abbrev moduleReserved : String → Bool :=
  (Context.initial true).reserves

namespace Sign

/-- Whether the sign stands at the front of `s` and `t` is what it leaves. -/
def IsAt (s t : List Char) : Sign → Prop
  | .word w => tokenKind? s = some .word ∧ (w.isEscaped && moduleReserved w.name) = false ∧
      ∃ n, scanWord s = .ok ⟨w, n, []⟩ ∧ s.drop n = t
  | .mark m => (∃ c, tokenKind? s = some (.mark c)) ∧ markOf? s = some m ∧ s.drop m.length = t
  | .str v raw =>
    tokenKind? s = some .str ∧ ∃ n, scanString s = .ok ⟨v, n, []⟩ ∧ s.take n = raw ∧ s.drop n = t
  | .numeral v raw =>
    tokenKind? s = some .numeral ∧ ∃ n, scanNumeral s = .ok ⟨v, n, []⟩ ∧ s.take n = raw ∧ s.drop n = t
  | .regex r => s.head? = some '/' ∧ ∃ n, scanRegex s = .ok ⟨r, n, []⟩ ∧ s.drop n = t

/-- Whether the sign is a regular expression, which only the reader of expressions tells from a slash. -/
def isRegex : Sign → Bool
  | .regex _ => true
  | _ => false

/-- The mark that a regular expression starts with. -/
def slash (r : Regex) : String :=
  if r.pattern.toList.head? = some '=' then "/=" else "/"

/-- Whether the sign is the mark or the word `text`. -/
def is (text : String) : Sign → Bool
  | .word w => w.name == text
  | .mark m => m == text
  | .regex r => slash r == text
  | _ => false

end Sign

variable {src : List Char}

namespace Token

/-- Whether a token reads as a sign. -/
def Shows (t : Token src) : Sign → Prop
  | .word w => ∃ l : Lexeme scanWord src, t = .word l ∧ l.value = w
  | .mark m => t = .mark m
  | .str v raw => ∃ l : Lexeme scanString src, t = .str l ∧ l.value = v ∧ l.chars = raw
  | .numeral v raw => ∃ l : Lexeme scanNumeral src, t = .numeral l ∧ l.value = v ∧ l.chars = raw
  | .regex r => t = .mark (Sign.slash r)

theorem Shows.is {t : Token src} {y : Sign} (h : t.Shows y) (text : String) : t.is text = y.is text := by
  cases y with
  | word w =>
    obtain ⟨l, rfl, rfl⟩ := h
    rfl
  | str v raw | numeral v raw =>
    obtain ⟨l, rfl, -, -⟩ := h
    rfl
  | mark m | regex r =>
    obtain rfl := h
    rfl

theorem Shows.isFinish {t : Token src} {y : Sign} (h : t.Shows y) : t.isFinish = false := by
  cases y with
  | word w =>
    obtain ⟨l, rfl, -⟩ := h
    rfl
  | str v raw | numeral v raw =>
    obtain ⟨l, rfl, -, -⟩ := h
    rfl
  | mark m | regex r =>
    obtain rfl := h
    rfl

/-! ### Scanning a sign -/

theorem issuesAt_eq_nil {p : Place src} {flaws : List Flaw} : issuesAt p flaws = [] ↔ flaws = [] :=
  List.map_eq_nil_iff

end Token

theorem markOf?_slash {s : List Char} (hs : s.head? ≠ some '=') : markOf? ('/' :: s) = some "/" := by
  have h : ['='].isPrefixOf s = false := by
    cases s with
    | nil => rfl
    | cons c s =>
      have hc : '=' ≠ c := fun h => hs (by rw [h]; rfl)
      simp [List.isPrefixOf, hc]
  simp [markOf?, marks, h]

theorem markOf?_slashEqual {s : List Char} (hs : s.head? = some '=') : markOf? ('/' :: s) = some "/=" := by
  obtain ⟨t, rfl⟩ := List.head?_eq_some_iff.mp hs
  rfl

/-- What a regular expression is taken for before it is read as one. -/
theorem markOf?_of_scanRegex {s : List Char} {r : Regex} {n : Nat}
    (h : scanRegex ('/' :: s) = .ok ⟨r, n, []⟩) : markOf? ('/' :: s) = some (Sign.slash r) := by
  unfold scanRegex at h
  split at h
  case h_1 => exact absurd h nofun
  case h_2 p hp =>
    obtain ⟨rfl, -, -⟩ := Reading.mk.inj (Except.ok.inj h)
    rw [List.drop_one, List.tail_cons] at hp
    obtain ⟨u, rfl⟩ := exists_of_patternOf? hp
    have hhead : (p ++ '/' :: u).head? = some '=' ↔ p.head? = some '=' := by
      cases p with
      | nil => simp
      | cons c p => rfl
    unfold Sign.slash
    rw [String.toList_ofList]
    split_ifs with he
    · exact markOf?_slashEqual (hhead.mpr he)
    · exact markOf?_slash fun hc => he (hhead.mp hc)

theorem tokenKind?_slash (s : List Char) : tokenKind? ('/' :: s) = some (.mark '/') := by
  rfl

/-- A mark is written as it reads. -/
theorem prefix_of_markOf? {s : List Char} {m : String} (h : markOf? s = some m) : m.toList <+: s := by
  have hfind {n : String} (hn : (marks.find? fun m => m.toList.isPrefixOf s) = some n) : n.toList <+: s := by
    have h := List.find?_some hn
    exact List.isPrefixOf_iff_prefix.mp h
  unfold markOf? at h
  split at h
  case h_1 hn =>
    obtain rfl := Option.some.inj h
    split_ifs
    · exact List.IsPrefix.trans (by decide) (hfind hn)
    · exact hfind hn
  case h_2 => exact hfind h

namespace Token

variable {p : Place src} {t : List Char} {y : Sign}

/-- What is at the front of a text is scanned there. -/
theorem exists_scanAt_of_isAt (h : y.IsAt p.rest t) :
    ∃ tok stop, scanAt moduleReserved p = (tok, stop, []) ∧ tok.Shows y ∧
      (y.isRegex = false → stop.rest = t) := by
  unfold scanAt
  cases y with
  | word w =>
    obtain ⟨hk, hres, n, hscan, rfl⟩ := h
    simp only [hk]
    split
    case h_1 hf => exact absurd (hscan.symm.trans hf) nofun
    case h_2 r hr =>
      obtain rfl := Except.ok.inj (hscan.symm.trans hr)
      rw [if_neg (by simpa using hres)]
      exact ⟨_, _, rfl, ⟨_, rfl, rfl⟩, fun _ => rfl⟩
  | str v raw | numeral v raw =>
    obtain ⟨hk, n, hscan, rfl, rfl⟩ := h
    simp only [hk]
    split
    case h_1 hf => exact absurd (hscan.symm.trans hf) nofun
    case h_2 r hr =>
      obtain rfl := Except.ok.inj (hscan.symm.trans hr)
      exact ⟨_, _, rfl, ⟨_, rfl, rfl, rfl⟩, fun _ => rfl⟩
  | mark m =>
    obtain ⟨⟨c, hk⟩, hm, rfl⟩ := h
    simp only [hk, hm]
    exact ⟨_, _, rfl, rfl, fun _ => rfl⟩
  | regex r =>
    obtain ⟨hs, n, hscan, rfl⟩ := h
    obtain ⟨u, hu⟩ := List.head?_eq_some_iff.mp hs
    have hm : markOf? p.rest = some (Sign.slash r) := by
      rw [hu] at hscan ⊢
      exact markOf?_of_scanRegex hscan
    have hk : tokenKind? p.rest = some (.mark '/') := by rw [hu, tokenKind?_slash]
    simp only [hk, hm]
    exact ⟨_, _, rfl, rfl, nofun⟩

end Token

/-! ### Lexemes that are tokens -/

/-- Whether a lexeme has been read as the token `y` of a module. -/
def Lexeme.IsToken {α : Type} {scan : Scanner α} (l : Lexeme scan src) (y : Sign) : Prop :=
  EndsTrivia l.start.rest ∧ y.IsAt l.start.rest l.stop.rest

theorem Lexeme.isRead_of_flaws {α : Type} {scan : Scanner α} (l : Lexeme scan src)
    (h : l.reading.flaws = []) : scan l.start.rest = .ok ⟨l.value, l.reading.length, []⟩ := by
  rw [l.isRead, ← h]
  rfl

namespace Token

/-- Whether what the token holds has been read at a place without flaws. -/
def HoldsAt (p : Place src) : Token src → Prop
  | .word l => l.start = p ∧ (Sign.word l.value).IsAt l.start.rest l.stop.rest
  | .str l => l.start = p ∧ (Sign.str l.value l.chars).IsAt l.start.rest l.stop.rest
  | .numeral l => l.start = p ∧ (Sign.numeral l.value l.chars).IsAt l.start.rest l.stop.rest
  | .mark m => markOf? p.rest = some m
  | _ => True

/-- What a token holds has been read where the token has been scanned. -/
theorem holdsAt_of_scanAt {p stop : Place src} {t : Token src} (h : scanAt moduleReserved p = (t, stop, [])) :
    t.HoldsAt p := by
  unfold scanAt at h
  split at h
  case h_1 =>
    obtain ⟨rfl, -⟩ := Prod.mk.inj h
    trivial
  case h_2 hk =>
    split at h
    case h_1 =>
      obtain ⟨rfl, -⟩ := Prod.mk.inj h
      trivial
    case h_2 r hr =>
      split_ifs at h with hres
      · obtain ⟨rfl, -⟩ := Prod.mk.inj h
        trivial
      · obtain ⟨rfl, hs⟩ := Prod.mk.inj h
        have hf := issuesAt_eq_nil.mp (Prod.mk.inj hs).2
        exact ⟨rfl, hk, Bool.not_eq_true _ ▸ hres, _, Lexeme.isRead_of_flaws _ hf, rfl⟩
  case h_3 hk | h_4 hk =>
    split at h
    case h_1 =>
      obtain ⟨rfl, -⟩ := Prod.mk.inj h
      trivial
    case h_2 r hr =>
      obtain ⟨rfl, hs⟩ := Prod.mk.inj h
      have hf := issuesAt_eq_nil.mp (Prod.mk.inj hs).2
      exact ⟨rfl, hk, _, Lexeme.isRead_of_flaws _ hf, rfl, rfl⟩
  case h_5 =>
    split at h
    case h_1 m hm =>
      obtain ⟨rfl, -⟩ := Prod.mk.inj h
      exact hm
    case h_2 =>
      obtain ⟨rfl, -⟩ := Prod.mk.inj h
      trivial

end Token

namespace State

variable {s : State src}

/-- A sound state's token ends trivia, and what it holds is what is read where it starts. -/
theorem IsSound.isToken (hs : s.IsSound) (hi : s.issue? = none) :
    EndsTrivia s.start.rest ∧ (∀ l, s.token = .word l → l.IsToken (.word l.value)) ∧
      (∀ l, s.token = .str l → l.IsToken (.str l.value l.chars)) ∧
      ∀ l, s.token = .numeral l → l.IsToken (.numeral l.value l.chars) := by
  obtain ⟨b, p, ht, hp, hissues⟩ := hs hi
  obtain ⟨hblank, hscan⟩ := List.append_eq_nil_iff.mp hissues
  have hends : EndsTrivia (p.advance (scanTrivia b p.rest).length).rest :=
    endsTrivia_scanTrivia (Token.issuesAt_eq_nil.mp hblank)
  have hholds : s.token.HoldsAt (p.advance (scanTrivia b p.rest).length) :=
    Token.holdsAt_of_scanAt (Prod.ext ht.symm (Prod.ext rfl hscan))
  refine ⟨hp ▸ hends, fun l hl => ?_, fun l hl => ?_, fun l hl => ?_⟩
  all_goals
    rw [hl] at hholds
    obtain ⟨hstart, hat⟩ := hholds
    exact ⟨by rwa [hstart], hat⟩

/-- A slash among the tokens is one of the source. -/
theorem IsSound.head?_eq_slash (hs : s.IsSound) (hi : s.issue? = none) (hword : ∀ w, s.token ≠ .word w)
    (h : (s.token.is "/" || s.token.is "/=") = true) : s.start.rest.head? = some '/' := by
  obtain ⟨b, p, ht, hp, hissues⟩ := hs hi
  obtain ⟨m, hm, hslash⟩ : ∃ m, s.token = .mark m ∧ m.toList.head? = some '/' := by
    cases htoken : s.token with
    | word w => exact absurd htoken (hword w)
    | mark m =>
      rw [htoken] at h
      obtain hm | hm := Bool.or_eq_true_iff.mp h
      all_goals
        obtain rfl := beq_iff_eq.mp hm
        exact ⟨_, rfl, rfl⟩
    | _ =>
      rw [htoken] at h
      exact absurd h Bool.false_ne_true
  have hscan := (List.append_eq_nil_iff.mp hissues).2
  have hmark : markOf? (p.advance (scanTrivia b p.rest).length).rest = some m :=
    Token.holdsAt_of_scanAt (t := .mark m) (Prod.ext (ht.symm.trans hm) (Prod.ext rfl hscan))
  obtain ⟨t, heq⟩ := prefix_of_markOf? hmark
  obtain ⟨u, hu⟩ := List.head?_eq_some_iff.mp hslash
  rw [hp]
  change (p.advance (scanTrivia b p.rest).length).rest.head? = _
  rw [← heq, hu]
  rfl

end State

end LazyStyles.Syntax
