import LazyStyles.Proofs.Reader.Run

/-!
# States in front of signs

A state shows the signs that its token and the source behind it spell (`State.Shows`).  Moving on drops the
first of them (`State.Shows.next`), and what a reader asks of the token is asked of the sign (`signIs`).
`Reader.Reads` says of a reader that it takes some signs and leaves others; it is what the readers of
constructs are described by.
-/

namespace LazyStyles.Syntax

open Text

variable {src : List Char}

/-- The signs of a source from some place on, each with whether it starts a line. -/
abbrev Signs := List (Sign × Bool)

/-- Whether the first sign starts a line, or there is none. -/
def startsLine : Signs → Bool
  | [] => true
  | (_, b) :: _ => b

/-- Whether the first sign is the mark or the word `text`. -/
def signIs (text : String) : Signs → Bool
  | [] => false
  | (y, _) :: _ => y.is text

theorem signIs_mark (text m : String) (b : Bool) (ys : Signs) :
    signIs text ((.mark m, b) :: ys) = (m == text) := rfl

theorem signIs_word (text : String) (w : Word) (b : Bool) (ys : Signs) :
    signIs text ((.word w, b) :: ys) = (w.name == text) := rfl

/-- Whether a token between two places reads as the first of the signs, with the others behind it. -/
def Token.Leads (t : Token src) (start stop : Place src) : Signs → Prop
  | [] => t = .finish
  | (y, _) :: ys =>
    t.Shows y ∧ ∃ u, y.IsAt start.rest u ∧ Spells u ys ∧ (y.isRegex = false → stop.rest = u)

/-- Whether a state has no issue and the signs from its token on are `ys`. -/
structure State.Shows (s : State src) (ys : Signs) : Prop where
  issue : s.issue? = none
  token : s.token.Leads s.start s.stop ys
  line : s.isOnNewLine = startsLine ys

/-! ### Moving on -/

namespace Token

/-- What scanning comes to behind blanks. -/
theorem scan_of_blanks {p : Place src} {ws s : List Char} (hws : ∀ c ∈ ws, isSpace c = true)
    (hs : IsSolid s) (hp : p.rest = ws ++ s) (b : Bool) :
    (p.advance ws.length).rest = s ∧
      scan moduleReserved b p =
        let (token, stop, issues) := scanAt moduleReserved (p.advance ws.length)
        ⟨token, p.advance ws.length, stop, b || ws.any isLineTerminator, issues⟩ := by
  refine ⟨by rw [Place.advance_rest, hp, List.drop_left], ?_⟩
  rw [scan, hp, scanTrivia_blanks hws hs]
  rfl

/-- Scanning a text that spells signs gives the first of them. -/
theorem scan_of_spells {p : Place src} {ys : Signs} (h : Spells p.rest ys) (b : Bool) :
    ∃ t : Lexed src, scan moduleReserved b p = t ∧ t.issues = [] ∧ t.token.Leads t.start t.stop ys ∧
      (t.isOnNewLine || t.token.isFinish) = (b || startsLine ys) := by
  generalize hp : p.rest = text at h
  cases h with
  | finish hws =>
    rw [← List.append_nil text] at hp
    obtain ⟨hrest, hscan⟩ := scan_of_blanks hws isSolid_nil hp b
    have hat : scanAt moduleReserved (p.advance text.length) = (.finish, p.advance text.length, []) := by
      have hk : tokenKind? (p.advance text.length).rest = none := by rw [hrest]; rfl
      simp only [scanAt, hk]
    rw [hat] at hscan
    exact ⟨_, hscan, rfl, rfl, Bool.or_true _ |>.trans (Bool.or_true _).symm⟩
  | sign hws hs hy ht =>
    obtain ⟨hrest, hscan⟩ := scan_of_blanks hws hs hp b
    rw [← hrest] at hy
    obtain ⟨tok, stop, hat, hshows, hstop⟩ := exists_scanAt_of_isAt hy
    rw [hat] at hscan
    refine ⟨_, hscan, rfl, ⟨hshows, _, hy, ht, hstop⟩, ?_⟩
    rw [hshows.isFinish, Bool.or_false]
    rfl

end Token

namespace State

variable {s : State src} {c : Context} {ys : Signs}

/-- A reader that moves on to a text that spells signs comes to a state that shows them. -/
theorem shows_next (hi : s.issue? = none) (hs : Spells s.stop.rest ys) (hc : c.IsModular) :
    (s.next c).Shows ys := by
  obtain ⟨t, ht, hissues, hleads, hline⟩ := Token.scan_of_spells hs false
  have ht : Token.scan c.reserves false s.stop = t := by rw [hc.reserves_eq, ← ht]
  refine ⟨?_, ?_, ?_⟩
  · simp only [next, ht, hi, hissues, List.filter_nil, List.head?_nil, Option.or_none]
  · simpa only [next, ht] using hleads
  · simpa only [next, ht, Bool.false_or] using hline

namespace Shows

variable {y : Sign} {b : Bool}

theorem next (hs : s.Shows ((y, b) :: ys)) (hy : y.isRegex = false) (hc : c.IsModular) :
    (s.next c).Shows ys := by
  obtain ⟨-, u, -, hu, hstop⟩ := hs.token
  exact shows_next hs.issue (hstop hy ▸ hu) hc

theorem is (hs : s.Shows ys) (text : String) : s.token.is text = signIs text ys := by
  cases ys with
  | nil =>
    rw [show s.token = .finish from hs.token]
    rfl
  | cons y ys => exact hs.token.1.is text

/-- What comes next is the second sign. -/
theorem is_lookahead (hs : s.Shows ((y, b) :: ys)) (hy : y.isRegex = false) (hc : c.IsModular) (text : String) :
    (Token.scan c.reserves false s.stop).token.is text = signIs text ys :=
  (hs.next hy hc).is text

theorem isFinish (hs : s.Shows ys) : s.token.isFinish = ys.isEmpty := by
  cases ys with
  | nil =>
    rw [show s.token = .finish from hs.token]
    rfl
  | cons y ys => exact hs.token.1.isFinish

end Shows

end State

namespace Reader

variable {α : Type}

/-- Whether a reader takes the signs `ys` down to `zs`, with a result that satisfies `P`. -/
def Reads (r : Reader src α) (c : Context) (ys : Signs) (P : α → Prop) (zs : Signs) : Prop :=
  ∀ s, s.Shows ys → r.Succeeds c s fun a t => P a ∧ t.Shows zs

/-- What is read off the signs is taken in. -/
theorem Reads.succeeds {r : Reader src α} {c : Context} {s : State src} {ys zs : Signs} {P : α → Prop}
    {Q : α → State src → Prop} (h : r.Reads c ys P zs) (hs : s.Shows ys)
    (hQ : ∀ a t, P a → t.Shows zs → Q a t) : r.Succeeds c s Q :=
  (h s hs).mono fun a t ha => hQ a t ha.1 ha.2

theorem Reads.imp {r : Reader src α} {c : Context} {ys zs : Signs} {P P' : α → Prop}
    (h : r.Reads c ys P zs) (hP : ∀ a, P a → P' a) : r.Reads c ys P' zs :=
  fun _ hs => h.succeeds hs fun a _ ha ht => ⟨hP a ha, ht⟩

end Reader

end LazyStyles.Syntax
