import LazyStyles.Proofs.Lexical.Boundary

/-!
# Where trivia ends

Trivia ends in front of a character that is no blank and opens no comment (`EndsTrivia`); this is what
scanning leaves (`endsTrivia_scanTrivia`).  Conversely blanks in front of such a place are passed over and
nothing else is (`scanTrivia_blanks`), unless the place opens `<!--` or `-->`, which may be taken for
comments; `IsSolid` excludes these.
-/

namespace LazyStyles.Syntax

open Text

/-- Whether the front of `s` is neither a blank nor the start of a comment. -/
def EndsTrivia (s : List Char) : Prop :=
  (∀ c ∈ s.head?, isSpace c = false) ∧ ¬ ['/', '/'] <+: s ∧ ¬ ['/', '*'] <+: s

theorem endsTrivia_nil : EndsTrivia [] := by
  simp [EndsTrivia]

theorem endsTrivia_triviaFrom (state : TriviaState) (b : Bool) (n : Nat) (s : List Char)
    (h : (triviaFrom state b n s).flaws = []) :
    ∃ k, (triviaFrom state b n s).length = n + k ∧ EndsTrivia (s.drop k) := by
  -- Characters that are passed over only move the end of the trivia on.
  have shift {l m : Nat} {s : List Char} (pre : List Char)
      (ih : ∃ k, l = m + pre.length + k ∧ EndsTrivia (s.drop k)) :
      ∃ k, l = m + k ∧ EndsTrivia ((pre ++ s).drop k) := by
    obtain ⟨k, hk, hs⟩ := ih
    refine ⟨pre.length + k, by omega, ?_⟩
    rwa [List.drop_length_add_append]
  fun_induction triviaFrom state b n s with
  | case1 b n s ih => exact shift ['/', '/'] (ih h)
  | case2 b n s ih => exact shift ['/', '*'] (ih h)
  | case3 | case4 | case13 => simp at h
  | case5 b n c s _ _ _ _ _ ih => exact shift [c] (ih h)
  | case6 b n c s hss hsb _ _ hc =>
    refine ⟨0, rfl, ?_, ?_, ?_⟩
    · simpa using hc
    · rintro ⟨t, ht⟩
      obtain ⟨rfl, rfl⟩ := List.cons.inj ht
      exact hss t rfl rfl
    · rintro ⟨t, ht⟩
      obtain ⟨rfl, rfl⟩ := List.cons.inj ht
      exact hsb t rfl rfl
  | case7 | case10 => exact ⟨0, rfl, endsTrivia_nil⟩
  | case8 b n c s _ ih | case9 b n c s _ ih | case12 b n c s _ ih => exact shift [c] (ih h)
  | case11 b n s ih => exact shift ['*', '/'] (ih h)

/-- What is left behind trivia is neither a blank nor the start of a comment. -/
theorem endsTrivia_scanTrivia {b : Bool} {s : List Char} (h : (scanTrivia b s).flaws = []) :
    EndsTrivia (s.drop (scanTrivia b s).length) := by
  obtain ⟨k, hk, hs⟩ := endsTrivia_triviaFrom .blank b 0 s h
  rw [scanTrivia, hk, Nat.zero_add]
  exact hs

/-! ### Passing blanks -/

/-- Whether scanning trivia stops in front of `s`, wherever that stands. -/
def IsSolid (s : List Char) : Prop :=
  ∀ b n, triviaFrom .blank b n s = ⟨b, n, []⟩

theorem isSolid_nil : IsSolid [] := by
  intro b n
  rw [triviaFrom.eq_def]

/-- A character that opens no comment is passed if it is a blank, and ends the trivia if not. -/
theorem triviaFrom_cons {c : Char} {s : List Char} (b : Bool) (n : Nat)
    (hss : ¬ ['/', '/'] <+: c :: s) (hsb : ¬ ['/', '*'] <+: c :: s) (hlt : c ≠ '<')
    (hminus : c ≠ '-') :
    triviaFrom .blank b n (c :: s) =
      if isSpace c then triviaFrom .blank (b || isLineTerminator c) (n + 1) s else ⟨b, n, []⟩ := by
  rw [triviaFrom.eq_def]
  split
  case h_1 h => exact absurd ⟨_, h.symm⟩ hss
  case h_2 h => exact absurd ⟨_, h.symm⟩ hsb
  case h_3 h => exact absurd (List.cons.inj h).1 hlt
  case h_4 h => exact absurd (List.cons.inj h).1 hminus
  case h_5 h =>
    obtain ⟨rfl, rfl⟩ := List.cons.inj h
    rfl
  all_goals contradiction

theorem EndsTrivia.isSolid {c : Char} {s : List Char} (h : EndsTrivia (c :: s)) (hlt : c ≠ '<')
    (hminus : c ≠ '-') : IsSolid (c :: s) := by
  obtain ⟨hc, hss, hsb⟩ := h
  have hc : isSpace c = false := hc c rfl
  intro b n
  rw [triviaFrom_cons b n hss hsb hlt hminus, hc]
  rfl

/-- A character other than `/` opens no comment of the two usual forms. -/
theorem not_prefix_of_ne {c d : Char} {s : List Char} (h : c ≠ '/') : ¬ ['/', d] <+: c :: s := by
  rintro ⟨t, ht⟩
  exact h (List.cons.inj ht).1.symm

/-- A character that is neither a blank nor one of those that comments open with is no trivia. -/
theorem isSolid_cons {c : Char} (s : List Char) (hc : isSpace c = false) (hslash : c ≠ '/')
    (hlt : c ≠ '<') (hminus : c ≠ '-') : IsSolid (c :: s) :=
  EndsTrivia.isSolid ⟨by simpa using hc, not_prefix_of_ne hslash, not_prefix_of_ne hslash⟩ hlt hminus

theorem ne_of_isSpace {c d : Char} (hc : isSpace c = true) (hd : isSpace d = false) : c ≠ d := by
  rintro rfl
  rw [hc] at hd
  exact absurd hd (by decide)

theorem triviaFrom_blanks {ws s : List Char} (hws : ∀ c ∈ ws, isSpace c = true) (hs : IsSolid s)
    (b : Bool) (n : Nat) :
    triviaFrom .blank b n (ws ++ s) = ⟨b || ws.any isLineTerminator, n + ws.length, []⟩ := by
  induction ws generalizing b n with
  | nil => simpa using hs b n
  | cons c ws ih =>
    have hc := hws c List.mem_cons_self
    have hslash : c ≠ '/' := ne_of_isSpace hc (by decide)
    rw [List.cons_append, triviaFrom_cons b n (not_prefix_of_ne hslash) (not_prefix_of_ne hslash)
      (ne_of_isSpace hc (by decide)) (ne_of_isSpace hc (by decide)), hc, if_pos rfl,
      ih fun d hd => hws d (List.mem_cons_of_mem c hd)]
    simp only [List.any_cons, Bool.or_assoc, List.length_cons, Reading.mk.injEq, true_and, and_true]
    omega

/-- Blanks are passed up to what is none, and a line ends in them if one of them ends it. -/
theorem scanTrivia_blanks {ws s : List Char} (hws : ∀ c ∈ ws, isSpace c = true) (hs : IsSolid s) (b : Bool) :
    scanTrivia b (ws ++ s) = ⟨b || ws.any isLineTerminator, ws.length, []⟩ := by
  rw [scanTrivia, triviaFrom_blanks hws hs, Nat.zero_add]

end LazyStyles.Syntax
