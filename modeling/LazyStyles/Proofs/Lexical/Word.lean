import LazyStyles.Proofs.Lexical.Boundary
import Mathlib.Tactic.Set

/-!
# Words read again

A word without flaws is read from its own characters alone: in front of any other boundary the same
characters give the same word (`exists_spelling_of_scanWord`).  The only look ahead is in the escapes, which
read no further than they reach (`exists_append_of_unicodeEscape`).
-/

namespace LazyStyles.Syntax

open Text

/-! ### Escapes -/

theorem takeWhile_append_of_all {p : Char → Bool} {ds s : List Char} (hd : ∀ c ∈ ds, p c = true)
    (hs : ∀ c ∈ s.head?, p c = false) : (ds ++ s).takeWhile p = ds := by
  rw [List.takeWhile_append_of_pos hd]
  cases s with
  | nil => simp
  | cons c s =>
    have hc : p c = false := hs c rfl
    simp [hc]

/-- A list is its longest start inside a class and a rest that does not go on with it. -/
theorem exists_takeWhile_append (p : Char → Bool) (s : List Char) :
    ∃ u, s = s.takeWhile p ++ u ∧ (∀ c ∈ s.takeWhile p, p c = true) ∧ ∀ c ∈ u.head?, p c = false := by
  refine ⟨s.dropWhile p, List.takeWhile_append_dropWhile.symm, fun c hc => List.mem_takeWhile_imp hc, ?_⟩
  intro c hc
  obtain ⟨t, ht⟩ := List.head?_eq_some_iff.mp hc
  have hne : s.dropWhile p ≠ [] := by simp [ht]
  have := List.head_dropWhile_not p hne
  simpa [ht] using this

/-- An escape depends on no more characters than it takes. -/
theorem exists_append_of_unicodeEscape {s : List Char} {p : CodePoint} (h : unicodeEscape s = .ok p) :
    ∃ cs u, s = cs ++ u ∧ cs.length = p.length ∧ ∀ t, unicodeEscape (cs ++ t) = .ok p := by
  unfold unicodeEscape at h
  split at h
  case h_1 s =>
    -- In braces, the digits are followed by the brace that closes them.
    obtain ⟨u, hs, hall, -⟩ := exists_takeWhile_append (fun c => (Text.hexValue? c).isSome) s
    set ds := s.takeWhile fun c => (Text.hexValue? c).isSome with hds
    dsimp only at h
    split_ifs at h with h₁ h₂ h₃
    obtain rfl := Except.ok.inj h
    rw [hs, List.drop_left, beq_iff_eq, List.head?_eq_some_iff] at h₃
    obtain ⟨v, rfl⟩ := h₃
    refine ⟨'\x7b' :: (ds ++ ['\x7d']), v, by simp [← hs], by simp, fun t => ?_⟩
    have ht : (ds ++ '\x7d' :: t).takeWhile (fun c => (Text.hexValue? c).isSome) = ds :=
      takeWhile_append_of_all hall (by simp [Text.hexValue?])
    have hcs : '\x7b' :: (ds ++ ['\x7d']) ++ t = '\x7b' :: (ds ++ '\x7d' :: t) := by simp
    rw [hcs, unicodeEscape]
    simp only [ht, List.drop_left, h₁, if_false, h₂]
    rfl
  case h_2 hs =>
    -- Without braces there are four digits, and what follows them is not looked at.
    set ds := (s.take 4).takeWhile fun c => (Text.hexValue? c).isSome with hds
    dsimp only at h
    split_ifs at h with h₁
    obtain rfl := Except.ok.inj h
    have hall : ∀ c ∈ ds, (Text.hexValue? c).isSome = true := fun c hc =>
      List.mem_takeWhile_imp (p := fun c => (Text.hexValue? c).isSome) hc
    have htake : ds = s.take 4 := by
      refine (List.takeWhile_prefix _).eq_of_length (le_antisymm (List.takeWhile_prefix _).length_le ?_)
      rw [← hds, h₁]
      exact List.length_take_le 4 s
    refine ⟨ds, s.drop 4, by rw [htake, List.take_append_drop], h₁, fun t => ?_⟩
    rw [unicodeEscape]
    · have ht : (ds ++ t).take 4 = ds := by rw [← h₁, List.take_left]
      have hw : ds.takeWhile (fun c => (Text.hexValue? c).isSome) = ds := List.takeWhile_eq_self_iff.mpr hall
      simp only [ht, hw, h₁, if_true]
    · intro u hu
      obtain ⟨c, ds', hc⟩ := List.exists_cons_of_length_eq_add_one h₁
      rw [hc] at hu hall
      obtain rfl := (List.cons.inj hu).1
      exact absurd (hall _ List.mem_cons_self) (by decide)

/-! ### Words -/

theorem chars_eq_of_length_eq_one {p : CodePoint} {t : List Char} (h : (p.chars t).length = 1)
    (t' : List Char) : p.chars t' = p.chars t := by
  unfold CodePoint.chars at h ⊢
  split_ifs at h ⊢
  · rfl
  · simp at h

theorem wordFrom_of_isBoundary {t : List Char} (ht : IsBoundary t) (n : Nat) :
    wordFrom 0 n t = .ok ⟨([], false), n, []⟩ := by
  cases t with
  | nil => rw [wordFrom]
  | cons c t =>
    obtain ⟨hc, hb, -⟩ := isBoundary_cons.mp ht
    rw [wordFrom.eq_5 _ _ _ hb, isWordChar_eq_false hc, if_neg (by decide)]

/-- A flawless word, from `n` characters on and with `k` of them skipped, depends on no more than it takes
and on what follows being a boundary. -/
theorem exists_append_of_wordFrom {k n : Nat} {s : List Char} {v : List Char × Bool} {m : Nat}
    (h : wordFrom k n s = .ok ⟨v, m, []⟩) (hk : k ≤ s.length) :
    ∃ cs u, s = cs ++ u ∧ m = n + cs.length ∧ k ≤ cs.length ∧
      ∀ t, IsBoundary t → wordFrom k n (cs ++ t) = .ok ⟨v, m, []⟩ := by
  fun_induction wordFrom k n s generalizing v m with
  | case1 k n =>
    obtain rfl : k = 0 := by simpa using hk
    obtain ⟨rfl, rfl, -⟩ := Reading.mk.inj (Except.ok.inj h)
    exact ⟨[], [], rfl, rfl, le_rfl, fun t ht => wordFrom_of_isBoundary ht n⟩
  | case2 k n c s ih =>
    obtain ⟨cs, u, rfl, hm, hcs, ht⟩ := ih h (by simpa using hk)
    refine ⟨c :: cs, u, rfl, by simp only [List.length_cons]; omega, by simpa using hcs, fun t hb => ?_⟩
    rw [List.cons_append, wordFrom.eq_2, ht t hb]
  | case3 | case5 => cases h
  | case4 n t p hp =>
    rename_i cs ih
    obtain ⟨r, hr, h⟩ := exists_of_bind_eq_ok h
    obtain ⟨rfl, rfl, hf⟩ := Reading.mk.inj (Except.ok.inj h)
    obtain ⟨hone, hrf⟩ := of_flaws_eq_nil hf
    obtain ⟨es, w, rfl, hes, het⟩ := exists_append_of_unicodeEscape hp
    have hr : wordFrom (1 + p.length) (n + 1) ('u' :: (es ++ w)) = .ok ⟨r.value, r.length, []⟩ := by
      rw [hr, ← hrf]
    obtain ⟨ds, u, hds, hm, hlen, ht⟩ := ih hr (by simp only [List.length_cons, List.length_append]; omega)
    -- The characters that are skipped hold the whole escape.
    obtain ⟨ds', rfl⟩ : ∃ ds', ds = 'u' :: (es ++ ds') := by
      have hpre : 'u' :: es <+: ds := by
        have hstart : 'u' :: es <+: 'u' :: (es ++ w) := ⟨w, rfl⟩
        refine List.prefix_of_prefix_length_le hstart ⟨u, hds.symm⟩ ?_
        simp only [List.length_cons]
        omega
      obtain ⟨ds', rfl⟩ := hpre
      exact ⟨ds', rfl⟩
    refine ⟨'\\' :: 'u' :: (es ++ ds'), u, by rw [hds]; rfl, by simp only [List.length_cons] at hm ⊢; omega,
      Nat.zero_le _, fun t hb => ?_⟩
    have hw := ht t hb
    simp only [List.cons_append, List.append_assoc] at hw ⊢
    rw [wordFrom.eq_3]
    simp only [het, hw]
    rw [chars_eq_of_length_eq_one (t := es ++ w) (by simpa using (Bool.and_eq_true_iff.mp hone).1)]
    change Except.ok _ = _
    simp only [show p.chars (es ++ w) = cs from rfl, if_pos hone, List.append_nil]
  | case6 n c s hb hc ih =>
    obtain ⟨r, hr, h⟩ := exists_of_bind_eq_ok h
    obtain ⟨rfl, rfl, hf⟩ := Reading.mk.inj (Except.ok.inj h)
    have hr : wordFrom 0 (n + 1) s = .ok ⟨r.value, r.length, []⟩ := by rw [hr, ← hf]
    obtain ⟨cs, u, rfl, hm, -, ht⟩ := ih hr (Nat.zero_le _)
    refine ⟨c :: cs, u, rfl, by simp only [List.length_cons]; omega, Nat.zero_le _, fun t hbt => ?_⟩
    rw [List.cons_append, wordFrom_of_isWordChar hc, ht t hbt]
    rfl
  | case7 n c s hb hc =>
    obtain ⟨rfl, rfl, -⟩ := Reading.mk.inj (Except.ok.inj h)
    exact ⟨[], c :: s, rfl, rfl, le_rfl, fun t ht => wordFrom_of_isBoundary ht n⟩

/-- A flawless word is read again from its own characters, whatever boundary stands behind. -/
theorem exists_spelling_of_scanWord {s : List Char} {w : Word} {n : Nat}
    (h : scanWord s = .ok ⟨w, n, []⟩) :
    ∃ cs u, s = cs ++ u ∧ cs.length = n ∧ IsSpelling scanWord cs w := by
  obtain ⟨r, hr, h⟩ := exists_of_bind_eq_ok h
  obtain ⟨hw, rfl, hf⟩ := Reading.mk.inj (Except.ok.inj h)
  have hr : wordFrom 0 0 s = .ok ⟨r.value, r.length, []⟩ := by rw [hr, ← hf]
  obtain ⟨cs, u, rfl, hm, -, ht⟩ := exists_append_of_wordFrom hr (Nat.zero_le _)
  refine ⟨cs, u, rfl, by omega, fun t hb => ?_⟩
  have hlen : r.length = cs.length := by omega
  rw [scanWord, ht t hb, ← hw, hlen]
  rfl

/-! ### What words look like -/

theorem wordFrom_append {cs t : List Char} {n : Nat} (hn : n ≠ 0)
    (hcs : ∀ c ∈ cs, continuesIdentifier c = true) (ht : IsBoundary t) :
    wordFrom 0 n (cs ++ t) = .ok ⟨(cs, false), n + cs.length, []⟩ := by
  induction cs generalizing n with
  | nil => exact wordFrom_of_isBoundary ht n
  | cons c cs ih =>
    have hc := hcs c List.mem_cons_self
    have hw : isWordChar n c = true := by rwa [isWordChar, if_neg hn]
    rw [List.cons_append, wordFrom_of_isWordChar hw,
      ih (Nat.succ_ne_zero n) fun d hd => hcs d (List.mem_cons_of_mem c hd)]
    simp only [List.length_cons]
    rw [show n + (cs.length + 1) = n + 1 + cs.length by omega]
    rfl

/-- A word that needs no escapes is written as it reads. -/
theorem isSpelling_scanWord {c : Char} {cs : List Char} (hc : opensIdentifier c = true)
    (hcs : ∀ d ∈ cs, continuesIdentifier d = true) :
    IsSpelling scanWord (c :: cs) ⟨String.ofList (c :: cs), false⟩ := by
  intro t ht
  have hw : isWordChar 0 c = true := hc
  rw [scanWord, List.cons_append, wordFrom_of_isWordChar hw, wordFrom_append (Nat.succ_ne_zero 0) hcs ht,
    List.length_cons, Nat.add_comm cs.length]
  rfl

/-- Behind its first character a flawless word has only what may continue an identifier. -/
theorem continuesIdentifier_of_wordFrom {k n : Nat} {s : List Char} {v : List Char × Bool} {m : Nat} (hn : n ≠ 0)
    (h : wordFrom k n s = .ok ⟨v, m, []⟩) : ∀ c ∈ v.1, continuesIdentifier c = true := by
  fun_induction wordFrom k n s generalizing v m with
  | case1 | case7 =>
    obtain ⟨rfl, -, -⟩ := Reading.mk.inj (Except.ok.inj h)
    exact nofun
  | case2 k n c s ih => exact ih (Nat.succ_ne_zero n) h
  | case3 | case5 => cases h
  | case4 n t p hp =>
    rename_i cs ih
    obtain ⟨r, hr, h⟩ := exists_of_bind_eq_ok h
    obtain ⟨rfl, rfl, hf⟩ := Reading.mk.inj (Except.ok.inj h)
    obtain ⟨hone, hrf⟩ := of_flaws_eq_nil hf
    have hall : ∀ c ∈ cs, continuesIdentifier c = true := by
      simpa [isWordChar, hn] using (Bool.and_eq_true_iff.mp hone).2
    have hr : wordFrom (1 + p.length) (n + 1) ('u' :: t) = .ok ⟨r.value, r.length, []⟩ := by rw [hr, ← hrf]
    exact List.forall_mem_append.mpr ⟨hall, ih (Nat.succ_ne_zero n) hr⟩
  | case6 n c s hb hc ih =>
    obtain ⟨r, hr, h⟩ := exists_of_bind_eq_ok h
    obtain ⟨rfl, rfl, hf⟩ := Reading.mk.inj (Except.ok.inj h)
    have hc : continuesIdentifier c = true := by simpa [isWordChar, hn] using hc
    have hr : wordFrom 0 (n + 1) s = .ok ⟨r.value, r.length, []⟩ := by rw [hr, ← hf]
    exact List.forall_mem_cons.mpr ⟨hc, ih (Nat.succ_ne_zero n) hr⟩

/-- The name of a flawless word is one of an identifier, also where its characters are escaped. -/
theorem exists_name_of_scanWord {c : Char} {s : List Char} {w : Word} {n : Nat}
    (hc : opensIdentifier c = true ∨ c = '\\') (h : scanWord (c :: s) = .ok ⟨w, n, []⟩) :
    ∃ d ds, w.name.toList = d :: ds ∧ opensIdentifier d = true ∧ ∀ e ∈ ds, continuesIdentifier e = true := by
  obtain ⟨r, hr, h⟩ := exists_of_bind_eq_ok h
  obtain ⟨rfl, rfl, hf⟩ := Reading.mk.inj (Except.ok.inj h)
  rw [String.toList_ofList]
  by_cases hb : c = '\\'
  · subst hb
    by_cases hu : ∃ t, s = 'u' :: t
    · obtain ⟨t, rfl⟩ := hu
      rw [wordFrom.eq_3] at hr
      split at hr
      case h_1 => cases hr
      case h_2 p hp =>
        obtain ⟨r', hr', hr⟩ := exists_of_bind_eq_ok hr
        obtain rfl := Except.ok.inj hr
        obtain ⟨hone, hrf⟩ := of_flaws_eq_nil hf
        obtain ⟨hlen, hall⟩ := Bool.and_eq_true_iff.mp hone
        obtain ⟨d, hd⟩ := List.length_eq_one_iff.mp (of_decide_eq_true hlen)
        rw [hd] at hall
        have hr' : wordFrom (1 + p.length) 1 ('u' :: t) = .ok ⟨r'.value, r'.length, []⟩ := by rw [hr', ← hrf]
        exact ⟨d, r'.value.1, by rw [hd]; rfl, by simpa [isWordChar] using hall,
          continuesIdentifier_of_wordFrom Nat.one_ne_zero hr'⟩
    · rw [wordFrom.eq_4 _ _ fun t ht => hu ⟨t, ht⟩] at hr
      cases hr
  · have hw : isWordChar 0 c = true := by simpa [isWordChar, hb] using hc
    rw [wordFrom_of_isWordChar hw] at hr
    obtain ⟨r', hr', hr⟩ := exists_of_bind_eq_ok hr
    obtain rfl := Except.ok.inj hr
    have hr' : wordFrom 0 1 s = .ok ⟨r'.value, r'.length, []⟩ := by rw [hr', ← show r'.flaws = [] from hf]
    exact ⟨c, r'.value.1, rfl, hw, continuesIdentifier_of_wordFrom Nat.one_ne_zero hr'⟩

/-- A word without escapes is written as it reads. -/
theorem exists_append_of_wordFrom_eq_false {n m : Nat} {s cs : List Char} {fs : List Flaw}
    (h : wordFrom 0 n s = .ok ⟨(cs, false), m, fs⟩) : ∃ u, s = cs ++ u ∧ m = n + cs.length := by
  -- The number of characters to skip varies in the induction, but without escapes it stays zero.
  generalize hk : (0 : Nat) = k at h
  fun_induction wordFrom k n s generalizing cs m fs with
  | case1 =>
    obtain ⟨hcs, rfl, -⟩ := Reading.mk.inj (Except.ok.inj h)
    obtain ⟨rfl, -⟩ := Prod.mk.inj hcs
    exact ⟨[], rfl, rfl⟩
  | case2 k n c s ih => exact absurd hk (Nat.succ_ne_zero k).symm
  | case3 | case5 => cases h
  | case4 n t p hp =>
    obtain ⟨r, -, h⟩ := exists_of_bind_eq_ok h
    exact absurd (Prod.mk.inj (Reading.mk.inj (Except.ok.inj h)).1).2 nofun
  | case6 n c s hb hc ih =>
    obtain ⟨r, hr, h⟩ := exists_of_bind_eq_ok h
    obtain ⟨hcs, rfl, rfl⟩ := Reading.mk.inj (Except.ok.inj h)
    obtain ⟨rfl, he⟩ := Prod.mk.inj hcs
    have hr : wordFrom 0 (n + 1) s = .ok ⟨(r.value.1, false), r.length, r.flaws⟩ := by rw [hr, ← he]
    obtain ⟨u, rfl, hm⟩ := ih rfl hr
    exact ⟨u, rfl, by rw [hm, List.length_cons]; omega⟩
  | case7 n c s hb hc =>
    obtain ⟨hcs, rfl, -⟩ := Reading.mk.inj (Except.ok.inj h)
    obtain ⟨rfl, -⟩ := Prod.mk.inj hcs
    exact ⟨c :: s, rfl, rfl⟩

/-- The characters of a word without escapes are its name. -/
theorem Lexeme.chars_eq_of_isEscaped_eq_false {src : List Char} (l : Lexeme scanWord src)
    (h : l.value.isEscaped = false) : l.chars = l.value.name.toList := by
  obtain ⟨r, hr, hw⟩ := exists_of_bind_eq_ok l.isRead
  have hreading := Except.ok.inj hw
  have hvalue : l.value = ⟨String.ofList r.value.1, r.value.2⟩ := by
    rw [Lexeme.value, ← hreading]
  have hlength : l.reading.length = r.length := by rw [← hreading]
  rw [hvalue] at h
  have hr : wordFrom 0 0 l.start.rest = .ok ⟨(r.value.1, false), r.length, r.flaws⟩ := by
    rw [hr, ← show r.value.2 = false from h]
  obtain ⟨u, hu, hm⟩ := exists_append_of_wordFrom_eq_false hr
  rw [hvalue, String.toList_ofList, Lexeme.chars, hlength, hu, hm, Nat.zero_add, List.take_left]

end LazyStyles.Syntax
