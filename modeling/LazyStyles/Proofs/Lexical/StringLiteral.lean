import LazyStyles.Proofs.Lexical.Boundary

/-!
# String literals read again

A closed string literal depends on its own characters alone (`contentOf_append`), so it is read again
whatever stands behind (`exists_spelling_of_scanString`).
-/

namespace LazyStyles.Syntax

/-- Whether `q` is one of the two quotes. -/
def IsQuote (q : Char) : Prop :=
  q = '"' ∨ q = '\''

namespace IsQuote

variable {q : Char}

theorem ne_backslash (h : IsQuote q) : q ≠ '\\' := by
  rcases h with rfl | rfl <;> decide

theorem ne_lineFeed (h : IsQuote q) : q ≠ '\n' := by
  rcases h with rfl | rfl <;> decide

end IsQuote

variable {q : Char} {s t : List Char}

theorem exists_of_contentOf (h : contentOf q s = (t, true)) : ∃ u, s = t ++ q :: u := by
  fun_induction contentOf q s generalizing t with
  | case1 s t' closed ht ih | case2 c s _ t' closed ht ih =>
    obtain ⟨rfl, rfl⟩ := Prod.mk.inj h
    obtain ⟨u, rfl⟩ := ih ht
    exact ⟨u, rfl⟩
  | case3 s =>
    obtain ⟨rfl, -⟩ := Prod.mk.inj h
    exact ⟨s, rfl⟩
  | case4 | case6 => simp at h
  | case5 c s _ _ _ _ t' closed ht ih =>
    obtain ⟨rfl, rfl⟩ := Prod.mk.inj h
    obtain ⟨u, rfl⟩ := ih ht
    exact ⟨u, rfl⟩

/-- The content of a closed literal is the same whatever stands behind its quote. -/
theorem contentOf_append (hq : IsQuote q) (h : contentOf q s = (t, true)) (u : List Char) :
    contentOf q (t ++ q :: u) = (t, true) := by
  fun_induction contentOf q s generalizing t with
  | case1 s t' closed ht ih =>
    obtain ⟨rfl, rfl⟩ := Prod.mk.inj h
    simp only [List.cons_append, contentOf, ih ht]
  | case2 c s hs t' closed ht ih =>
    obtain ⟨rfl, rfl⟩ := Prod.mk.inj h
    obtain ⟨v, rfl⟩ := exists_of_contentOf ht
    rw [List.cons_append, List.cons_append, contentOf.eq_2, ih ht]
    -- A line feed behind the escape was there before, or it is the quote.
    intro w hc hw
    cases t' with
    | nil => exact hq.ne_lineFeed (List.cons.inj hw).1
    | cons d t' => exact hs (t' ++ q :: v) hc (by rw [(List.cons.inj hw).1]; rfl)
  | case3 s =>
    obtain ⟨rfl, -⟩ := Prod.mk.inj h
    rw [List.nil_append, contentOf.eq_3, if_pos rfl]
    all_goals
      intros
      exact hq.ne_backslash ‹_›
  | case4 | case6 => simp at h
  | case5 c s hcr hc hne hnl t' closed ht ih =>
    obtain ⟨rfl, rfl⟩ := Prod.mk.inj h
    obtain ⟨v, rfl⟩ := exists_of_contentOf ht
    have hb : c ≠ '\\' := by
      rintro rfl
      obtain ⟨d, w, hw⟩ := List.exists_cons_of_ne_nil (l := t' ++ q :: v) (by simp)
      exact hc d w rfl hw
    rw [List.cons_append, contentOf.eq_3, if_neg hne, if_neg hnl, ih ht]
    all_goals
      intros
      exact hb ‹_›

/-- A flawless string literal is read again from its own characters, whatever stands behind. -/
theorem exists_spelling_of_scanString (hq : IsQuote q) {v : String} {n : Nat}
    (h : scanString (q :: s) = .ok ⟨v, n, []⟩) :
    ∃ cs u, q :: s = q :: cs ++ u ∧ (q :: cs).length = n ∧
      ∀ t, scanString (q :: cs ++ t) = .ok ⟨v, n, []⟩ := by
  rcases hc : contentOf q s with ⟨t, closed⟩
  rw [scanString, hc] at h
  obtain ⟨d, hd, h⟩ := exists_of_bind_eq_ok h
  obtain ⟨rfl, rfl, hf⟩ := Reading.mk.inj (Except.ok.inj h)
  cases closed with
  | false => exact absurd hf (by simp)
  | true =>
    obtain ⟨u, rfl⟩ := exists_of_contentOf hc
    refine ⟨t ++ [q], u, by simp, by simp, fun rest => ?_⟩
    have happ : q :: (t ++ [q]) ++ rest = q :: (t ++ q :: rest) := by simp
    rw [happ, scanString, contentOf_append hq hc]
    simp only [hd, bind, Except.bind, if_true]
    rw [show d.flaws = [] from hf]
    rfl

end LazyStyles.Syntax
