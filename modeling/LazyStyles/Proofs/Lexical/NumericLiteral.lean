import LazyStyles.Proofs.Lexical.Word

/-!
# Numeric literals read again

A number is read run by run: its whole part, its fraction and the digits of its exponent.  Each run ends in
front of what is no digit of its base (`EndsRun`), and so it is the same run wherever it stands
(`exists_digitRun`); the number is then read again from its own characters (`exists_spelling_of_scanNumeral`).
The forms that only sloppy code allows have flaws and are left out.
-/

namespace LazyStyles.Syntax

open Text

/-! ### Runs of digits -/

/-- Whether a run of digits of the base ends in front of `s`. -/
def EndsRun (base : Nat) (s : List Char) : Prop :=
  ∀ c ∈ s.head?, (isDigitIn base c || c == '_') = false

theorem IsBoundary.endsRun {s : List Char} (h : IsBoundary s) (base : Nat) : EndsRun base s := by
  intro c hc
  have hn := (h c hc).1
  rw [Bool.or_eq_false_iff]
  refine ⟨?_, ?_⟩
  · by_contra hd
    rw [continuesIdentifier_of_isDigitIn (Bool.not_eq_false _ ▸ hd)] at hn
    exact absurd hn (by decide)
  · by_contra hu
    obtain rfl : c = '_' := by simpa using hu
    exact absurd hn (by decide)

/-- What ends a run is decided by its first character. -/
theorem EndsRun.of_cons {base : Nat} {c : Char} {s : List Char} (h : EndsRun base (c :: s)) (t : List Char) :
    EndsRun base (c :: t) :=
  h

/-- A run is the same in front of everything that ends it. -/
theorem exists_digitRun (base : Nat) (s : List Char) :
    ∃ ds u, s = ds ++ u ∧ ds.length = (digitRun base s).length ∧ EndsRun base u ∧
      ∀ t, EndsRun base t → digitRun base (ds ++ t) = digitRun base s := by
  obtain ⟨u, hs, hall, hu⟩ := exists_takeWhile_append (fun c => isDigitIn base c || c == '_') s
  refine ⟨s.takeWhile fun c => isDigitIn base c || c == '_', u, hs, rfl, hu, fun t ht => ?_⟩
  unfold digitRun
  rw [takeWhile_append_of_all hall ht]

/-! ### Behind a number -/

theorem eq_of_endedBefore {s : List Char} {r r' : Reading Numeral} (h : endedBefore s r = .ok r') :
    r = r' := by
  unfold endedBefore at h
  split at h
  · split_ifs at h
    exact Except.ok.inj h
  · exact Except.ok.inj h

theorem endedBefore_of_isBoundary {s t : List Char} {r : Reading Numeral} (ht : IsBoundary t)
    (hs : s.drop r.length = t) : endedBefore s r = .ok r := by
  unfold endedBefore
  rw [hs]
  split
  case h_1 c hc =>
    rw [opensIdentifier_eq_false (ht c hc).1]
    rfl
  case h_2 => rfl

theorem head?_ne_of_isBoundary {t : List Char} (ht : IsBoundary t) {c : Char}
    (hc : continuesIdentifier c = true) : t.head? ≠ some c := by
  intro h
  rw [(ht c h).1] at hc
  exact absurd hc (by decide)

/-! ### Other bases -/

theorem exists_append_of_scanInBase {base : Nat} {name : String} {c d : Char} {s : List Char}
    {v : Numeral} {n : Nat} (h : scanInBase base name (c :: d :: s) = .ok ⟨v, n, []⟩) :
    ∃ cs u, s = cs ++ u ∧ n = cs.length + 2 ∧
      ∀ t, IsBoundary t → scanInBase base name (c :: d :: (cs ++ t)) = .ok ⟨v, n, []⟩ := by
  obtain ⟨ds, u, rfl, hlen, hu, hrun⟩ := exists_digitRun base s
  have hdrop (t : List Char) : (c :: d :: (ds ++ t)).drop (2 + ds.length) = t := by
    rw [Nat.add_comm, List.drop_succ_cons, List.drop_succ_cons, List.drop_left]
  unfold scanInBase at h
  simp only [List.drop_succ_cons, List.drop_zero, ← hlen, hdrop] at h
  split_ifs at h with hempty hn
  · obtain ⟨rfl, rfl, hf⟩ := Reading.mk.inj (Except.ok.inj h)
    obtain ⟨w, rfl⟩ := List.head?_eq_some_iff.mp hn
    refine ⟨ds ++ ['n'], w, by simp, by simp; omega, fun t ht => ?_⟩
    rw [scanInBase]
    simp only [List.drop_succ_cons, List.drop_zero, List.append_assoc, List.cons_append, List.nil_append,
      hrun _ (hu.of_cons t), ← hlen, hdrop, hempty, hf]
    rfl
  · obtain ⟨rfl, rfl, hf⟩ := Reading.mk.inj (eq_of_endedBefore h)
    refine ⟨ds, u, rfl, Nat.add_comm _ _, fun t ht => ?_⟩
    rw [scanInBase]
    simp only [List.drop_succ_cons, List.drop_zero, hrun t (ht.endsRun base), ← hlen, hdrop, hempty, if_false,
      head?_ne_of_isBoundary ht (c := 'n') (by decide), hf]
    exact endedBefore_of_isBoundary ht (hdrop t)

/-! ### Exponents -/

/-- The number of characters that the sign of an exponent takes. -/
def signLength (s : List Char) : Nat :=
  if s.head? = some '+' || s.head? = some '-' then 1 else 0

theorem signLength_le {s : List Char} (hs : s ≠ []) : signLength s ≤ s.length := by
  have hpos := List.length_pos_iff.mpr hs
  unfold signLength
  split_ifs
  all_goals omega

theorem signLength_append {s : List Char} (hs : s ≠ []) (t : List Char) : signLength (s ++ t) = signLength s := by
  obtain ⟨c, u, rfl⟩ := List.exists_cons_of_ne_nil hs
  rfl

/-- Without its letter there is no exponent. -/
theorem scanExponent_of_head {offset : Nat} {s : List Char}
    (h : ∀ c ∈ (s.drop offset).head?, ¬ (c = 'e' ∨ c = 'E')) : scanExponent offset s = .ok (0, offset, []) := by
  unfold scanExponent
  split
  case h_1 c t hs =>
    rw [hs] at h
    rw [if_neg]
    simpa using h c rfl
  case h_2 => rfl

theorem scanExponent_of_isBoundary {offset : Nat} {s t : List Char} (ht : IsBoundary t)
    (hs : s.drop offset = t) : scanExponent offset s = .ok (0, offset, []) := by
  refine scanExponent_of_head fun c hc hletter => ?_
  rw [hs] at hc
  have hends := (ht c hc).1
  rcases hletter with rfl | rfl <;> exact absurd hends (by decide)

theorem scanExponent_letter {offset : Nat} {s : List Char} {c : Char} (hs : s.drop offset = [c])
    (hc : c = 'e' ∨ c = 'E') : scanExponent offset s = .error ⟨offset + 1, .expectedExponent⟩ := by
  have hc : (c = 'e' || c = 'E') = true := by simpa using hc
  unfold scanExponent
  rw [hs]
  simp only [hc, if_true]

/-- Behind its letter an exponent is the digits behind its sign. -/
theorem scanExponent_cons {offset : Nat} {s t : List Char} {c : Char} (hs : s.drop offset = c :: t)
    (hc : c = 'e' ∨ c = 'E') (ht : t ≠ []) :
    scanExponent offset s =
      let start := offset + 1 + signLength t
      let run := digitRun 10 (t.drop (signLength t))
      if run.digits.isEmpty then .error ⟨start, .expectedDigit "a decimal"⟩
      else .ok (if t.head? = some '-' then -numberIn 10 run.digits else numberIn 10 run.digits, start + run.length,
        run.flaws start) := by
  obtain ⟨sign, u, rfl⟩ := List.exists_cons_of_ne_nil ht
  have hc : (c = 'e' || c = 'E') = true := by simpa using hc
  unfold scanExponent signLength
  rw [hs]
  simp only [hc, if_true, List.head?_cons, Option.some.injEq]
  by_cases hsign : (decide (sign = '+') || decide (sign = '-')) = true
  · simp only [hsign, if_true, List.drop_succ_cons, List.drop_zero]
  · simp only [hsign]
    rfl

/-- An exponent, if there is one, depends on its own characters alone. -/
theorem exists_append_of_scanExponent {offset stop : Nat} {s : List Char} {x : Int}
    (h : scanExponent offset s = .ok (x, stop, [])) :
    ∃ es u, s.drop offset = es ++ u ∧ stop = offset + es.length ∧ (∀ e ∈ es.head?, e = 'e' ∨ e = 'E') ∧
      ∀ s' t, IsBoundary t → s'.drop offset = es ++ t → scanExponent offset s' = .ok (x, stop, []) := by
  by_cases hletter : ∃ c t, s.drop offset = c :: t ∧ (c = 'e' ∨ c = 'E')
  case neg =>
    have hhead : ∀ c ∈ (s.drop offset).head?, ¬ (c = 'e' ∨ c = 'E') := fun c hc he =>
      have ⟨t, ht⟩ := List.head?_eq_some_iff.mp hc
      hletter ⟨c, t, ht, he⟩
    rw [scanExponent_of_head hhead] at h
    obtain ⟨rfl, rfl⟩ : (0 : Int) = x ∧ offset = stop := by simpa using h
    exact ⟨[], _, rfl, rfl, nofun, fun s' t ht hs' => scanExponent_of_isBoundary ht hs'⟩
  case pos =>
    obtain ⟨c, t, hd, hc⟩ := hletter
    have ht : t ≠ [] := by
      rintro rfl
      rw [scanExponent_letter hd hc] at h
      exact absurd h nofun
    rw [scanExponent_cons hd hc ht] at h
    dsimp only at h
    obtain ⟨ds, w, hdigits, hlen, -, hrun⟩ := exists_digitRun 10 (t.drop (signLength t))
    by_cases hempty : (digitRun 10 (t.drop (signLength t))).digits.isEmpty = true
    · rw [if_pos hempty] at h
      exact absurd h nofun
    have hstop : offset + 1 + signLength t + ds.length = stop := by
      rw [if_neg hempty, ← hlen] at h
      exact (Prod.mk.inj (Prod.mk.inj (Except.ok.inj h)).2).1
    have hds : ds ≠ [] := by
      rintro rfl
      rw [← hrun [] nofun] at hempty
      exact hempty rfl
    obtain ⟨ps, hps, rfl⟩ : ∃ ps, ps.length = signLength t ∧ t = ps ++ ds ++ w :=
      ⟨t.take (signLength t), List.length_take_of_le (signLength_le ht), by
        rw [List.append_assoc, ← hdigits, List.take_append_drop]⟩
    -- What is taken behind the letter is not empty, so it says by itself whether there is a sign.
    have hne : ps ++ ds ≠ [] := List.append_ne_nil_of_right_ne_nil ps hds
    rw [signLength_append hne] at h hps hrun hstop
    refine ⟨c :: (ps ++ ds), w, hd, ?_, by simpa using hc, fun s' t' ht' hs' => ?_⟩
    · rw [List.length_cons, List.length_append]
      omega
    · have hdrop : (ps ++ ds ++ t').drop (signLength (ps ++ ds)) = ds ++ t' := by
        rw [List.append_assoc, List.drop_left' hps]
      have hhead : (ps ++ ds ++ t').head? = (ps ++ ds ++ w).head? := by
        obtain ⟨d, u, hd⟩ := List.exists_cons_of_ne_nil hne
        rw [hd]
        rfl
      rw [scanExponent_cons hs' hc (List.append_ne_nil_of_left_ne_nil hne t')]
      simp only [List.append_eq, signLength_append hne, hdrop, hrun t' (ht'.endsRun 10), hhead]
      exact h

/-! ### Decimal numbers -/

/-- Whether a number without exponent ends in front of `s`, or one with an exponent goes on with it. -/
def EndsFraction (s : List Char) : Prop :=
  EndsRun 10 s ∧ s.head? ≠ some 'n' ∧ s.head? ≠ some '.'

theorem endsFraction_append {es t : List Char} (hes : ∀ e ∈ es.head?, e = 'e' ∨ e = 'E') (ht : IsBoundary t) :
    EndsFraction (es ++ t) := by
  cases es with
  | nil =>
    refine ⟨ht.endsRun 10, head?_ne_of_isBoundary ht (by decide), fun hc => ?_⟩
    exact (ht '.' hc).2.2 rfl
  | cons e es =>
    have h {c : Char} (hc : (isDigitIn 10 c || c == '_') = false ∧ c ≠ 'n' ∧ c ≠ '.') :
        EndsFraction (c :: es ++ t) := by
      simpa [EndsFraction, EndsRun] using hc
    rcases hes e rfl with rfl | rfl <;> exact h (by decide)

/-- A fraction is the same in front of everything that ends it, and ends the whole part before it. -/
theorem exists_append_of_fractionOf (s : List Char) :
    ∃ fs u, s = fs ++ u ∧ fs.length = (fractionOf s).2 ∧ ∀ t, EndsFraction t →
      EndsRun 10 (fs ++ t) ∧ (fs ++ t).head? ≠ some 'n' ∧ fractionOf (fs ++ t) = fractionOf s := by
  unfold fractionOf
  split
  case h_1 s =>
    obtain ⟨ds, u, rfl, hlen, -, hrun⟩ := exists_digitRun 10 s
    refine ⟨'.' :: ds, u, rfl, by rw [List.length_cons, hlen, Nat.add_comm], fun t ht => ⟨?_, by simp, ?_⟩⟩
    · intro c hc
      obtain rfl := Option.some.inj hc
      decide
    · rw [← hrun t ht.1]
      rfl
  case h_2 =>
    refine ⟨[], s, rfl, rfl, fun t ht => ⟨ht.1, ht.2.1, ?_⟩⟩
    split
    case h_1 h => exact absurd (by rw [List.nil_append] at h; rw [h]; rfl) ht.2.2
    case h_2 => rfl

theorem exists_append_of_scanDecimal {s : List Char} {v : Numeral} {n : Nat}
    (h : scanDecimal s = .ok ⟨v, n, []⟩) :
    ∃ cs u, s = cs ++ u ∧ cs.length = n ∧ IsSpelling scanDecimal cs v := by
  obtain ⟨ws, u, rfl, hlen, hu, hrun⟩ := exists_digitRun 10 s
  unfold scanDecimal at h
  simp only [← hlen, List.drop_left] at h
  set whole := digitRun 10 (ws ++ u) with hwhole
  split at h
  -- A leading zero in front of octal digits is a flaw.
  case isTrue hlegacy =>
    obtain ⟨-, -, hf⟩ := Reading.mk.inj (eq_of_endedBefore h)
    exact absurd hf (by simp)
  case isFalse hlegacy =>
    split at h
    case isTrue hn =>
      obtain ⟨rfl, rfl, hf⟩ := Reading.mk.inj (Except.ok.inj h)
      simp only [Bool.and_eq_true, decide_eq_true_eq] at hn
      obtain ⟨w, rfl⟩ := List.head?_eq_some_iff.mp hn.1.1
      refine ⟨ws ++ ['n'], w, by simp, by simp, fun t ht => ?_⟩
      rw [List.append_assoc, List.singleton_append]
      unfold scanDecimal
      simp only [hrun _ (hu.of_cons t), if_neg hlegacy, ← hlen, List.drop_left, List.head?_cons, hn, hf]
      simp [pure, Except.pure]
    case isFalse hn =>
      obtain ⟨fs, u', rfl, hfs, hfrac⟩ := exists_append_of_fractionOf u
      obtain ⟨⟨x, stop, flaws⟩, hx, h⟩ := exists_of_bind_eq_ok h
      obtain ⟨rfl, rfl, hf⟩ := Reading.mk.inj (eq_of_endedBefore h)
      obtain ⟨hf, rfl⟩ := List.append_eq_nil_iff.mp hf
      have hdrop (t : List Char) : (ws ++ (fs ++ t)).drop (ws.length + fs.length) = t := by
        rw [← List.append_assoc, ← List.length_append, List.drop_left]
      obtain ⟨es, w, hes, hstop, he, hexp⟩ := exists_append_of_scanExponent hx
      rw [← hfs, hdrop] at hes
      subst hes
      refine ⟨ws ++ (fs ++ es), w, by simp, by simp; omega, fun t ht => ?_⟩
      -- Each run ends in front of the next: the whole part, then the fraction, then the exponent, if they are there.
      obtain ⟨hends, hne, hfrac⟩ := hfrac _ (endsFraction_append he ht)
      have hstop : stop = (ws ++ (fs ++ es)).length := by simp; omega
      have hx := hexp (ws ++ (fs ++ (es ++ t))) t ht (by rw [← hfs, hdrop])
      rw [show ws ++ (fs ++ es) ++ t = ws ++ (fs ++ (es ++ t)) by simp, scanDecimal]
      simp only [hrun _ hends, if_neg hlegacy, ← hlen, List.drop_left, hne, hfrac, hx, bind, Except.bind, hf]
      rw [if_neg (by simp), ← hstop]
      refine endedBefore_of_isBoundary ht ?_
      rw [hstop, show ws ++ (fs ++ (es ++ t)) = ws ++ (fs ++ es) ++ t by simp, List.drop_left]

/-! ### Numbers -/

theorem isDigitIn_ten {c : Char} (h : c.isDigit = true) : isDigitIn 10 c = true := by
  have hc : '0' ≤ c ∧ c ≤ '9' := by simpa [Char.isDigit, Char.le_def] using h
  rw [isDigitIn, Text.hexValue?, if_pos hc, Option.any_some, decide_eq_true_eq]
  have h₉ : c.toNat ≤ '9'.toNat := hc.2
  have h₀ : '0'.toNat ≤ c.toNat := hc.1
  change c.toNat - 48 < 10
  change c.toNat ≤ 57 at h₉
  omega

theorem digitRun_length_pos {base : Nat} {c : Char} (hc : isDigitIn base c = true) (s : List Char) :
    0 < (digitRun base (c :: s)).length := by
  simp [digitRun, hc]

theorem le_of_scanExponent {offset stop : Nat} {s : List Char} {x : Int} {fs : List Flaw}
    (h : scanExponent offset s = .ok (x, stop, fs)) : offset ≤ stop := by
  unfold scanExponent at h
  split at h
  · split_ifs at h
    · split at h
      · exact absurd h nofun
      · dsimp only at h
        split_ifs at h
        all_goals
          obtain ⟨-, rfl, -⟩ := by simpa only [Except.ok.injEq, Prod.mk.injEq] using h
          omega
    · obtain ⟨-, rfl, -⟩ : (0 : Int) = x ∧ offset = stop ∧ [] = fs := by simpa using h
      exact le_rfl
  · obtain ⟨-, rfl, -⟩ : (0 : Int) = x ∧ offset = stop ∧ [] = fs := by simpa using h
    exact le_rfl

/-- A decimal number takes all of its whole part and, unless it is a big integer, of its fraction. -/
theorem le_length_of_scanDecimal {s : List Char} {r : Reading Numeral} (h : scanDecimal s = .ok r) :
    (digitRun 10 s).length ≤ r.length ∧
      (s.head? = some '.' → (fractionOf s).2 ≤ r.length) := by
  unfold scanDecimal at h
  dsimp only at h
  have hpoint (hs : s.head? = some '.') : digitRun 10 s = ⟨[], 0, true⟩ := by
    obtain ⟨u, rfl⟩ := List.head?_eq_some_iff.mp hs
    rfl
  split at h
  case isTrue hl =>
    obtain rfl := eq_of_endedBefore h
    refine ⟨le_rfl, fun hs => ?_⟩
    rw [hpoint hs] at hl
    exact absurd hl (by decide)
  case isFalse =>
    split at h
    case isTrue hn =>
      obtain rfl := Except.ok.inj h
      refine ⟨Nat.le_succ _, fun hs => ?_⟩
      rw [hpoint hs] at hn
      exact absurd hn (by simp)
    case isFalse =>
      obtain ⟨⟨x, stop, flaws⟩, hx, h⟩ := exists_of_bind_eq_ok h
      obtain rfl := eq_of_endedBefore h
      have hle := le_of_scanExponent hx
      refine ⟨by dsimp only; omega, fun hs => ?_⟩
      rw [hpoint hs] at hle
      simpa using hle

theorem scanNumeral_of_baseOf? {s : List Char} (h : ∀ c u, s = '0' :: c :: u → baseOf? c = none) :
    scanNumeral s = scanDecimal s := by
  unfold scanNumeral
  split
  case h_1 c u => rw [h c u rfl]
  case h_2 => rfl

theorem continuesIdentifier_of_baseOf? {c : Char} {b : Nat × String} (h : baseOf? c = some b) :
    continuesIdentifier c = true := by
  unfold baseOf? at h
  split_ifs at h with hx ho hb
  · rcases (by simpa using hx : c = 'x' ∨ c = 'X') with rfl | rfl <;> decide
  · rcases (by simpa using ho : c = 'o' ∨ c = 'O') with rfl | rfl <;> decide
  · rcases (by simpa using hb : c = 'b' ∨ c = 'B') with rfl | rfl <;> decide

/-- A numeric literal without flaws is read again from its own characters, whatever boundary stands
behind. -/
theorem exists_spelling_of_scanNumeral {s : List Char} {v : Numeral} {n : Nat}
    (h : scanNumeral s = .ok ⟨v, n, []⟩) :
    ∃ cs u, s = cs ++ u ∧ cs.length = n ∧ IsSpelling scanNumeral cs v := by
  by_cases hb : ∀ c u, s = '0' :: c :: u → baseOf? c = none
  · rw [scanNumeral_of_baseOf? hb] at h
    obtain ⟨cs, u, rfl, rfl, hcs⟩ := exists_append_of_scanDecimal h
    refine ⟨cs, u, rfl, rfl, fun t ht => ?_⟩
    rw [scanNumeral_of_baseOf?, hcs t ht]
    -- What stands behind cannot turn a leading zero into the mark of a base.
    intro c w hw
    match cs, hw with
    | [], hw =>
      have h₀ := (isBoundary_cons.mp (show IsBoundary ('0' :: c :: w) from hw ▸ ht)).1
      exact absurd h₀ (by decide)
    | [d], hw =>
      rw [List.singleton_append, List.cons.injEq] at hw
      obtain ⟨rfl, rfl⟩ := hw
      by_contra hne
      obtain ⟨b, hbase⟩ := Option.ne_none_iff_exists'.mp hne
      have hc := (isBoundary_cons.mp ht).1
      rw [continuesIdentifier_of_baseOf? hbase] at hc
      exact absurd hc (by decide)
    | d :: e :: ds, hw =>
      rw [List.cons_append, List.cons_append, List.cons.injEq, List.cons.injEq] at hw
      obtain ⟨rfl, rfl, -⟩ := hw
      exact hb e (ds ++ u) rfl
  · obtain ⟨c, u, rfl, hc⟩ : ∃ c u, s = '0' :: c :: u ∧ baseOf? c ≠ none := by
      simpa only [not_forall, exists_prop] using hb
    obtain ⟨⟨base, name⟩, hbase⟩ := Option.ne_none_iff_exists'.mp hc
    simp only [scanNumeral, hbase] at h
    obtain ⟨cs, u, rfl, rfl, hcs⟩ := exists_append_of_scanInBase h
    refine ⟨'0' :: c :: cs, u, rfl, rfl, fun t ht => ?_⟩
    rw [List.cons_append, List.cons_append, scanNumeral, hbase]
    exact hcs t ht

theorem two_le_of_scanInBase {base : Nat} {name : String} {s : List Char} {r : Reading Numeral}
    (h : scanInBase base name s = .ok r) : 2 ≤ r.length := by
  unfold scanInBase at h
  dsimp only at h
  split_ifs at h
  · obtain rfl := Except.ok.inj h
    dsimp only
    omega
  · obtain rfl := eq_of_endedBefore h
    exact Nat.le_add_right 2 _

/-- A numeric literal takes its first character, and the second too if that is a digit behind a point. -/
theorem lt_length_of_scanNumeral {c : Char} {s : List Char} {r : Reading Numeral}
    (h : scanNumeral (c :: s) = .ok r) :
    (c.isDigit = true → 0 < r.length) ∧
      (c = '.' → ∀ d u, s = d :: u → d.isDigit = true → 1 < r.length) := by
  refine ⟨fun hc => ?_, ?_⟩
  · by_cases hb : ∀ d u, c :: s = '0' :: d :: u → baseOf? d = none
    · rw [scanNumeral_of_baseOf? hb] at h
      exact lt_of_lt_of_le (digitRun_length_pos (isDigitIn_ten hc) s) (le_length_of_scanDecimal h).1
    · obtain ⟨d, u, hs, hd⟩ : ∃ d u, c :: s = '0' :: d :: u ∧ baseOf? d ≠ none := by
        simpa only [not_forall, exists_prop] using hb
      obtain ⟨⟨base, name⟩, hbase⟩ := Option.ne_none_iff_exists'.mp hd
      simp only [hs, scanNumeral, hbase] at h
      exact lt_of_lt_of_le Nat.zero_lt_two (two_le_of_scanInBase h)
  · rintro rfl d u rfl hd
    rw [scanNumeral_of_baseOf? (fun c v hs => absurd (List.cons.inj hs).1 (by decide))] at h
    refine lt_of_lt_of_le ?_ ((le_length_of_scanDecimal h).2 rfl)
    have hpos := digitRun_length_pos (isDigitIn_ten hd) u
    change 1 < 1 + (digitRun 10 (d :: u)).length
    omega

end LazyStyles.Syntax
