import LazyStyles.Proofs.Lexical.Word

/-!
# Regular expression literals read again

The pattern of a literal ends at its slash whatever stands behind (`patternOf?_append`), and its flags end at
any boundary; so the literal is read again from its own characters (`exists_spelling_of_scanRegex`).
-/

namespace LazyStyles.Syntax

open Text

variable {b : Bool} {s p : List Char}

theorem exists_of_patternOf? (h : patternOf? b s = some p) : ∃ u, s = p ++ '/' :: u := by
  fun_induction patternOf? b s generalizing p with
  | case1 | case2 | case3 | case5 => exact absurd h nofun
  | case4 b c s _ ih | case7 b c s _ _ _ _ ih =>
    obtain ⟨p', hp, rfl⟩ := Option.map_eq_some_iff.mp h
    obtain ⟨u, rfl⟩ := ih hp
    exact ⟨u, rfl⟩
  | case6 b c s _ _ _ hc =>
    obtain rfl := Option.some.inj h
    obtain ⟨rfl, -⟩ : c = '/' ∧ b = false := by simpa using hc
    exact ⟨s, rfl⟩

/-- The pattern of a literal is the same whatever stands behind its slash. -/
theorem patternOf?_append (h : patternOf? b s = some p) (u : List Char) :
    patternOf? b (p ++ '/' :: u) = some p := by
  have ne_backslash {c : Char} {s : List Char} (h₁ : c = '\\' → s = [] → False)
      (h₂ : ∀ d t, c = '\\' → s = d :: t → False) : c ≠ '\\' := fun hb => by
    cases s with
    | nil => exact h₁ hb rfl
    | cons d t => exact h₂ d t hb rfl
  fun_induction patternOf? b s generalizing p with
  | case1 | case2 | case3 | case5 => exact absurd h nofun
  | case4 b c s hl ih =>
    obtain ⟨p', hp, rfl⟩ := Option.map_eq_some_iff.mp h
    rw [List.cons_append, List.cons_append, patternOf?.eq_3, if_neg hl, ih hp]
    rfl
  | case6 b c s h₁ h₂ hl hc =>
    obtain rfl := Option.some.inj h
    obtain ⟨rfl, rfl⟩ : c = '/' ∧ b = false := by simpa using hc
    have hb : '/' ≠ '\\' := by decide
    rw [List.nil_append, patternOf?.eq_4 _ _ _ (fun h => absurd h hb) (fun _ _ h => absurd h hb), if_neg hl,
      if_pos hc]
  | case7 b c s h₁ h₂ hl hc ih =>
    obtain ⟨p', hp, rfl⟩ := Option.map_eq_some_iff.mp h
    have hb := ne_backslash h₁ h₂
    rw [List.cons_append, patternOf?.eq_4 _ _ _ (fun h => absurd h hb) (fun _ _ h => absurd h hb), if_neg hl,
      if_neg hc, ih hp]
    rfl

/-- A regular expression without flaws is read again from its own characters, whatever boundary stands
behind. -/
theorem exists_spelling_of_scanRegex {c : Char} {r : Regex} {n : Nat}
    (h : scanRegex (c :: s) = .ok ⟨r, n, []⟩) :
    ∃ d cs u, c :: s = c :: d :: cs ++ u ∧ (c :: d :: cs).length = n ∧
      IsSpelling scanRegex (c :: d :: cs) r := by
  unfold scanRegex at h
  rw [List.drop_one, List.tail_cons] at h
  split at h
  case h_1 => exact absurd h nofun
  case h_2 p hp =>
    obtain ⟨u, rfl⟩ := exists_of_patternOf? hp
    obtain ⟨v, hu, hall, -⟩ := exists_takeWhile_append continuesIdentifier u
    set flags := u.takeWhile continuesIdentifier with hflags
    have hdrop (t : List Char) : (c :: (p ++ '/' :: t)).drop (p.length + 2) = t := by
      rw [List.drop_succ_cons, List.drop_length_add_append]
      rfl
    rw [hdrop, ← hflags] at h
    obtain ⟨rfl, rfl, hf⟩ := Reading.mk.inj (Except.ok.inj h)
    obtain ⟨d, cs, hcs⟩ := List.exists_cons_of_ne_nil (l := p ++ '/' :: flags) (by simp)
    refine ⟨d, cs, v, ?_, ?_, fun t ht => ?_⟩
    · rw [← hcs, hu]
      simp
    · rw [← hcs]
      simp
      omega
    · have htake : (flags ++ t).takeWhile continuesIdentifier = flags :=
        takeWhile_append_of_all hall fun d hd => (ht d hd).1
      have happ : c :: (p ++ '/' :: flags) ++ t = c :: (p ++ '/' :: (flags ++ t)) := by simp
      rw [← hcs, happ, scanRegex, List.drop_one, List.tail_cons, patternOf?_append hp]
      simp only [hdrop, htake, hf]
      simp
      omega

end LazyStyles.Syntax
