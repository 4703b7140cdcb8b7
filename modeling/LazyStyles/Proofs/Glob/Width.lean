import LazyStyles.Proofs.Glob.Bytes
import LazyStyles.Proofs.Glob.Form
import LazyStyles.Proofs.Glob.Language
import LazyStyles.Proofs.Glob.Reading
import Mathlib.Algebra.GroupWithZero.Nat
import Mathlib.Algebra.Order.BigOperators.Group.List
import Mathlib.Algebra.Order.Group.Nat

/-!
# Widths of globs

The width of a glob is the number of bytes that it describes at most where its stars and `**` take nothing that they
can do without.  A pattern with a star, a class or a group is longer than its glob is wide (`branchWidth_lt`).  So its
glob describes the pattern itself only by a star or `**` that takes something, and then describes a longer text as well
(`BranchTakes.length_le_or_isWidened`).
-/

namespace LazyStyles.Glob

variable {skip : Nat} {before : Option Char} {c : Char} {s t : List Char} {p q : Progress} {ts : List Token}
  {u v w : List UInt8}

mutual

/-- The number of bytes that a piece takes at most where no star and no `**` takes what it can do without. -/
def Token.width : Token → Nat
  | .literal c => c.utf8Size
  | .any | .between | .charClass .. => 1
  | .star | .leading | .trailing => 0
  | .alternates branches => branchesWidth branches

/-- The width of pieces one after the other. -/
def branchWidth : List Token → Nat
  | [] => 0
  | t :: ts => t.width + branchWidth ts

/-- The width of all branches together. -/
def branchesWidth : List (List Token) → Nat
  | [] => 0
  | b :: bs => branchWidth b + branchesWidth bs

end

theorem branchWidth_eq_sum (ts : List Token) : branchWidth ts = (ts.map Token.width).sum := by
  induction ts with
  | nil => rfl
  | cons t ts ih => rw [branchWidth, ih, List.map_cons, List.sum_cons]

theorem branchesWidth_eq_sum (bs : List (List Token)) : branchesWidth bs = (bs.map branchWidth).sum := by
  induction bs with
  | nil => rfl
  | cons b bs ih => rw [branchesWidth, ih, List.map_cons, List.sum_cons]

theorem branchWidth_reverse (ts : List Token) : branchWidth ts.reverse = branchWidth ts := by
  rw [branchWidth_eq_sum, branchWidth_eq_sum, List.map_reverse, List.sum_reverse]

theorem branchesWidth_reverse (bs : List (List Token)) : branchesWidth bs.reverse = branchesWidth bs := by
  rw [branchesWidth_eq_sum, branchesWidth_eq_sum, List.map_reverse, List.sum_reverse]

theorem branchWidth_le_of_mem {bs : List (List Token)} (h : ts ∈ bs) : branchWidth ts ≤ branchesWidth bs := by
  rw [branchesWidth_eq_sum]
  exact List.le_sum_of_mem (List.mem_map_of_mem h)

/-! ### The width of a pattern -/

/-- The width of what has been read. -/
def Progress.width (p : Progress) : Nat :=
  branchWidth p.tokens + (p.groups.map fun g => branchWidth g.before + branchesWidth g.branches).sum

theorem Progress.width_push (p : Progress) (t : Token) : (p.push t).width = t.width + p.width := by
  rw [width, push, branchWidth, Nat.add_assoc]
  rfl

theorem Progress.width_openGroup (p : Progress) : p.openGroup.width = p.width := by
  simp only [width, openGroup, branchWidth, branchesWidth, List.map_cons, List.sum_cons, Nat.zero_add, Nat.add_zero]

theorem Progress.width_comma_le (p : Progress) : p.comma.width ≤ 1 + p.width := by
  obtain ⟨ts, _ | ⟨g, gs⟩⟩ := p
  · exact (width_push _ (.literal ',')).le
  · simp only [width, comma, branchWidth, branchesWidth, branchWidth_reverse, List.map_cons, List.sum_cons]
    omega

theorem Progress.width_of_closeGroup (h : p.closeGroup = .ok q) : q.width = p.width := by
  obtain ⟨ts, _ | ⟨g, gs⟩⟩ := p
  · exact absurd h nofun
  · obtain rfl := Except.ok.inj h
    simp only [width, branchWidth, Token.width, branchesWidth_reverse, branchesWidth, branchWidth_reverse,
      List.map_cons, List.sum_cons]
    omega

theorem Progress.width_pushRecursive_le (p : Progress) (t : Token) :
    (p.pushRecursive t).width ≤ t.width + p.width := by
  unfold pushRecursive
  split
  · exact Nat.le_add_left _ _
  · exact Nat.le_add_left _ _
  · simp only [width, branchWidth, *]
    omega
  · simp only [width, branchWidth, *]
    omega

/-- A star is no wider than the characters that it takes. -/
theorem Progress.width_stars_le (p : Progress) (before : Option Char) (s : List Char) :
    (p.stars before s).1.width + byteSize (s.drop (p.stars before s).2) ≤ p.width + byteSize s := by
  have hpush (t : Token) (ht : t.width = 0) (n : Nat) :
      (p.push t).width + byteSize (s.drop n) ≤ p.width + byteSize s := by
    rw [width_push, ht, Nat.zero_add]
    exact Nat.add_le_add_left (byteSize_drop_le n s) _
  have hstars (n : Nat) : p.pushStars.width + byteSize (s.drop n) ≤ p.width + byteSize s := by
    have h := hpush .star rfl n
    rw [pushStars, width_push]
    exact (Nat.zero_add _).symm ▸ h
  have hrecursive (t : Token) (ht : t.width ≤ 1) (n : Nat) (hn : 0 < n) (hs : s ≠ []) :
      (p.pushRecursive t).width + byteSize (s.drop n) ≤ p.width + byteSize s := by
    have hwidth := width_pushRecursive_le p t
    have hsize := byteSize_drop_lt hs hn
    omega
  unfold stars
  split
  · have hs (s : List Char) : '*' :: s ≠ [] := List.cons_ne_nil _ s
    split_ifs
    · split
      · exact hpush .leading rfl 1
      · exact hpush .leading rfl 2
      · exact hstars 1
    · exact hstars 1
    · split
      · exact hrecursive .trailing (Nat.zero_le 1) 1 Nat.one_pos (hs _)
      · exact hrecursive .between (Nat.le_refl 1) 2 Nat.two_pos (hs _)
      · split_ifs
        · exact hrecursive .trailing (Nat.zero_le 1) 1 Nat.one_pos (hs _)
        · exact hstars 1
  · exact hpush .star rfl 0

theorem lt_of_classRanges {first inRange : Bool} {ranges rs : List (Char × Char)} {count n : Nat}
    (h : classRanges first inRange ranges count s = .ok (rs, n)) : count < n := by
  fun_induction classRanges first inRange ranges count s
  case case1 | case3 => exact absurd h nofun
  case case2 => exact (Prod.mk.inj (Except.ok.inj h)).2 ▸ Nat.lt_succ_self _
  case case4 ih | case5 ih | case6 ih | case7 ih => exact Nat.lt_of_succ_lt (ih h)

/-- A class is not as wide as the characters that it takes. -/
theorem width_of_charClass {t : Token} {n : Nat} (h : charClass s = .ok (t, n)) :
    t.width = 1 ∧ byteSize (s.drop n) < byteSize s := by
  have hs : s ≠ [] := by
    rintro rfl
    exact absurd h nofun
  unfold charClass at h
  split at h
  all_goals
    obtain ⟨⟨rs, m⟩, hranges, hclass⟩ := map_eq_ok_iff.mp h
    obtain ⟨rfl, rfl⟩ := Prod.mk.inj hclass
    exact ⟨rfl, byteSize_drop_lt hs (Nat.zero_lt_of_lt (lt_of_classRanges hranges))⟩

/-- The marks of pieces that may take fewer bytes than they are written with. -/
def wideMarks : List Char := ['*', '[', '\x7b']

/-- The pattern of a glob is read character by character if it has no wide marks. -/
theorem isSimple_of_readTokens {us : List Token} (hs : ∀ c ∈ s, c ∉ wideMarks)
    (h : readTokens 0 before ⟨ts, []⟩ s = .ok us) : IsSimple s := by
  refine ⟨fun hc => hs _ hc (by decide), fun hc => hs _ hc (by decide), ?_, fun hstars => ?_⟩
  · induction s generalizing before ts with
    | nil => exact List.not_mem_nil
    | cons c s ih =>
      obtain ⟨hc, hs⟩ := List.forall_mem_cons.mp hs
      obtain ⟨hstar, hclass, hopen⟩ : c ≠ '*' ∧ c ≠ '[' ∧ c ≠ '\x7b' := by simpa [wideMarks] using hc
      have hclose : c ≠ '\x7d' := by
        rintro rfl
        exact absurd h nofun
      rw [readTokens_cons hstar hclass hopen hclose] at h
      exact fun hmem => (List.mem_cons.mp hmem).elim (Ne.symm hclose) (ih hs h)
  · exact hs '*' (hstars.mem List.mem_cons_self) (by decide)

/-- Whether a width is no more than a width and the size of a text, and less if the text has a wide mark. -/
def IsWithin (n m : Nat) (s : List Char) : Prop :=
  n ≤ m + byteSize s ∧ ((∃ c ∈ s, c ∈ wideMarks) → n < m + byteSize s)

section IsWithin

variable {n m m' k : Nat}

theorem isWithin_cons (h : IsWithin n m' s) (hm : m' ≤ c.utf8Size + m) (hc : c ∉ wideMarks) :
    IsWithin n m (c :: s) := by
  obtain ⟨hle, hlt⟩ := h
  rw [IsWithin, byteSize_cons, List.exists_mem_cons_iff, or_iff_right hc]
  exact ⟨by omega, fun hmark => by have := hlt hmark; omega⟩

/-- A mark itself makes the difference. -/
theorem isWithin_cons_of_le (h : IsWithin n m' (s.drop k)) (hm : m' + byteSize (s.drop k) ≤ m + byteSize s) :
    IsWithin n m (c :: s) := by
  have hlt : n < m + byteSize (c :: s) := by
    rw [byteSize_cons]
    have hle := h.1
    have hpos := c.utf8Size_pos
    omega
  exact ⟨hlt.le, fun _ => hlt⟩

end IsWithin

/-- A glob is no wider than its pattern, and not as wide if that has a star, a class or a group. -/
theorem isWithin_readTokens (h : readTokens skip before p s = .ok ts) :
    IsWithin (branchWidth ts) p.width (s.drop skip) := by
  -- The characters to skip belong to a piece that has been made, so what is left starts after them.
  fun_induction readTokens skip before p s with
  | case1 skip before p hgroups =>
    obtain rfl := Except.ok.inj h
    rw [List.drop_nil, branchWidth_reverse]
    exact ⟨Nat.le_add_right_of_le (Nat.le_add_right _ _), fun hmark => absurd hmark (by simp)⟩
  | case2 | case7 | case10 => cases h
  | case3 before p c s skip ih =>
    rw [List.drop_succ_cons]
    exact ih h
  | case4 before p s ih => exact isWithin_cons (ih h) (Progress.width_push p .any).le (by decide)
  | case5 before p s q n hstars ih =>
    have hle := Progress.width_stars_le p before s
    rw [hstars] at hle
    exact isWithin_cons_of_le (ih h) hle
  | case6 before p s t n hclass ih =>
    obtain ⟨hwidth, hsize⟩ := width_of_charClass hclass
    refine isWithin_cons_of_le (ih h) ?_
    rw [Progress.width_push, hwidth]
    omega
  | case8 before p s ih =>
    exact isWithin_cons_of_le (k := 0) (ih h) (Nat.add_le_add_right (Progress.width_openGroup p).le _)
  | case9 before p s q hclose ih =>
    exact isWithin_cons (ih h) (Nat.le_add_left_of_le (Progress.width_of_closeGroup hclose).le) (by decide)
  | case11 before p s ih => exact isWithin_cons (ih h) (Progress.width_comma_le p) (by decide)
  | case12 before p s c hany hstar hclass hopen hclose hcomma ih =>
    refine isWithin_cons (ih h) (Progress.width_push p _).le ?_
    simpa [wideMarks] using ⟨hstar, hclass, hopen⟩

/-- The glob of a pattern with a star, a class or a group is not as wide as the pattern. -/
theorem branchWidth_lt (h : readTokens 0 none {} s = .ok ts) (hmark : ∃ c ∈ s, c ∈ wideMarks) :
    branchWidth ts < (bytesOf s).length := by
  have hlt := (isWithin_readTokens h).2 hmark
  rwa [List.drop_zero, Progress.width, branchWidth, List.map_nil, List.sum_nil, Nat.zero_add, Nat.zero_add,
    ← length_bytesOf] at hlt

/-! ### Longer texts -/

/-- Whether a text is longer than another, but has only characters of that and `z`, and ends in its last one or `z`. -/
structure IsWidened (s t : List Char) : Prop where
  longer : s.length < t.length
  mem : ∀ c ∈ t, c ∈ s ∨ c = 'z'
  getLast : t.getLast? = s.getLast? ∨ t.getLast? = some 'z'

theorem isWidened_cons (h : IsWidened s t) (c : Char) : IsWidened (c :: s) (c :: t) := by
  obtain ⟨hlonger, hmem, hlast⟩ := h
  refine ⟨Nat.succ_lt_succ hlonger, ?_, ?_⟩
  · rintro d (_ | ⟨_, hd⟩)
    · exact .inl List.mem_cons_self
    · exact (hmem d hd).imp_left (List.mem_cons_of_mem c)
  · obtain ⟨d, t, rfl⟩ := List.exists_cons_of_length_pos (Nat.zero_lt_of_lt hlonger)
    rw [List.getLast?_cons_cons]
    cases s with
    | nil => exact hlast.imp_left fun h => absurd h (by simp)
    | cons e s => rwa [List.getLast?_cons_cons]

theorem isWidened_front (s : List Char) : IsWidened s ('z' :: s) := by
  refine ⟨Nat.lt_succ_self _, fun c hc => (List.mem_cons.mp hc).symm, ?_⟩
  cases s with
  | nil => exact .inr rfl
  | cons c s => exact .inl (List.getLast?_cons_cons ..)

theorem isWidened_within (c : Char) (s : List Char) : IsWidened (c :: s) (c :: 'z' :: c :: s) := by
  refine ⟨by simp, fun d hd => ?_, .inl ?_⟩
  · simp only [List.mem_cons] at hd ⊢
    tauto
  · rw [List.getLast?_cons_cons, List.getLast?_cons_cons]

/-- The bytes of a text are parted behind its first character or within. -/
theorem bytesOf_cons_eq_append (h : bytesOf (c :: s) = u ++ v) :
    (∃ u', u = String.utf8EncodeChar c ++ u' ∧ bytesOf s = u' ++ v) ∨
      ∃ w, w ≠ [] ∧ String.utf8EncodeChar c = u ++ w ∧ v = w ++ bytesOf s := by
  rw [bytesOf_cons] at h
  obtain hbehind | ⟨w, hc, rfl⟩ := List.append_eq_append_iff.mp h
  · exact .inl hbehind
  · by_cases hw : w = []
    · subst hw
      exact .inl ⟨[], by rw [hc, List.append_nil, List.append_nil], rfl⟩
    · exact .inr ⟨w, hw, hc, rfl⟩

/-- Wherever the bytes of a text are parted, other bytes fit in. -/
theorem exists_isWidened (h : bytesOf s = u ++ v) :
    ∃ x t, slash ∉ x ∧ bytesOf t = u ++ (x ++ v) ∧ IsWidened s t := by
  have hz : String.utf8EncodeChar 'z' = [122] := by decide
  -- In front of a text, and so between any two characters, a `z` fits in.
  have hfront (s : List Char) : ∃ x t, slash ∉ x ∧ bytesOf t = x ++ bytesOf s ∧ IsWidened s t :=
    ⟨[122], 'z' :: s, by decide, by rw [bytesOf_cons, hz], isWidened_front s⟩
  induction s generalizing u with
  | nil =>
    obtain ⟨rfl, rfl⟩ := List.append_eq_nil_iff.mp h.symm
    exact hfront []
  | cons c s ih =>
    by_cases hu : u = []
    · subst hu
      rw [List.nil_append] at h
      exact h ▸ hfront (c :: s)
    · obtain ⟨u', rfl, hs⟩ | ⟨w, hw, hc, rfl⟩ := bytesOf_cons_eq_append h
      · obtain ⟨x, t, hx, ht, hwidened⟩ := ih hs
        refine ⟨x, c :: t, hx, ?_, isWidened_cons hwidened c⟩
        rw [bytesOf_cons, ht, List.append_assoc]
      · -- Within a character its rest, `z` and its front fit in.
        have hslash : slash ∉ String.utf8EncodeChar c := by
          rw [slash_mem_utf8EncodeChar_iff]
          rintro rfl
          have hlength := congrArg List.length hc
          rw [List.length_append] at hlength
          have hone : (String.utf8EncodeChar '/').length = 1 := by decide
          have hu := List.length_pos_iff.mpr hu
          have hw := List.length_pos_iff.mpr hw
          omega
        obtain ⟨hu', hw'⟩ : slash ∉ u ∧ slash ∉ w := not_or.mp fun h => hslash (hc ▸ List.mem_append.mpr h)
        refine ⟨w ++ 122 :: u, c :: 'z' :: c :: s, ?_, ?_, isWidened_within c s⟩
        · simpa [hw', hu'] using show slash ≠ 122 by decide
        · rw [bytesOf_cons, bytesOf_cons, bytesOf_cons, hz, hc]
          simp

mutual

/-- A piece that takes more than its width takes other parts as well, of which one makes the text longer. -/
theorem Token.Takes.length_le_or_isWidened : ∀ {t : Token} {u v w : List UInt8} {s : List Char}, t.Takes w →
    bytesOf s = u ++ (w ++ v) →
      w.length ≤ t.width ∨ ∃ w' s', t.Takes w' ∧ bytesOf s' = u ++ (w' ++ v) ∧ IsWidened s s'
  | _, u, v, _, s, .literal c, h => .inl (String.length_utf8EncodeChar c).le
  | _, u, v, _, s, .any _, h => .inl (Nat.le_refl 1)
  | _, u, v, w, s, .star hw, h => by
    obtain ⟨x, t, hx, ht, hwidened⟩ := exists_isWidened h
    exact .inr ⟨x ++ w, t, .star (by simp [hx, hw]), by rw [ht, List.append_assoc], hwidened⟩
  | _, u, v, _, s, .leadingNothing, h => .inl (Nat.le_refl 0)
  | _, u, v, _, s, .leading w, h => by
    obtain ⟨x, t, -, ht, hwidened⟩ := exists_isWidened h
    exact .inr ⟨x ++ w ++ [slash], t, .leading (x ++ w), by rw [ht]; simp, hwidened⟩
  | _, u, v, _, s, .betweenOne, h => .inl (Nat.le_refl 1)
  | _, u, v, _, s, .between w, h => by
    obtain ⟨x, t, -, ht, hwidened⟩ := exists_isWidened (u := u ++ [slash]) (v := w ++ [slash] ++ v) (by rw [h]; simp)
    exact .inr ⟨slash :: (x ++ w ++ [slash]), t, .between (x ++ w), by rw [ht]; simp, hwidened⟩
  | _, u, v, _, s, .trailing w, h => by
    obtain ⟨x, t, -, ht, hwidened⟩ := exists_isWidened (u := u ++ [slash]) (v := w ++ v) (by rw [h]; simp)
    exact .inr ⟨slash :: (x ++ w), t, .trailing (x ++ w), by rw [ht]; simp, hwidened⟩
  | _, u, v, _, s, .charClass _, h => .inl (Nat.le_refl 1)
  | _, u, v, _, s, .blank _, h => .inl (Nat.zero_le _)
  | _, u, v, w, s, .branch hts hblank hw, h => by
    rcases hw.length_le_or_isWidened h with hle | ⟨w', s', hw', hs', hwidened⟩
    · exact .inl (hle.trans (branchWidth_le_of_mem hts))
    · exact .inr ⟨w', s', .branch hts hblank hw', hs', hwidened⟩

/-- Pieces one after the other, likewise. -/
theorem BranchTakes.length_le_or_isWidened : ∀ {ts : List Token} {u v w : List UInt8} {s : List Char},
    BranchTakes ts w → bytesOf s = u ++ (w ++ v) →
      w.length ≤ branchWidth ts ∨ ∃ w' s', BranchTakes ts w' ∧ bytesOf s' = u ++ (w' ++ v) ∧ IsWidened s s'
  | _, u, v, _, s, .nil, h => .inl (Nat.le_refl 0)
  | _, u, v, _, s, .cons (v := a) (w := b) ht hts, h => by
    have hfront : bytesOf s = u ++ (a ++ (b ++ v)) := by rw [h, List.append_assoc]
    have hback : bytesOf s = u ++ a ++ (b ++ v) := by rw [hfront, List.append_assoc]
    rcases ht.length_le_or_isWidened hfront with hle | ⟨a', s', ha', hs', hwidened⟩
    · rcases hts.length_le_or_isWidened hback with hle' | ⟨b', s', hb', hs', hwidened⟩
      · rw [List.length_append]
        exact .inl (Nat.add_le_add hle hle')
      · exact .inr ⟨a ++ b', s', .cons ht hb', by rw [hs']; simp, hwidened⟩
    · exact .inr ⟨a' ++ b, s', .cons ha' hts, by rw [hs']; simp, hwidened⟩

end

end LazyStyles.Glob
