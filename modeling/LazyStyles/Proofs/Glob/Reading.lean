import LazyStyles.Glob.Pattern
import LazyStyles.Proofs.Steps
import Mathlib.Data.List.Basic
import Mathlib.Tactic.SplitIfs

/-!
# Reading patterns

A pattern without classes, groups and `**` is read character by character (`readTokens_of_isSimple`).  What has been
read before a pattern does not matter to how the pattern is read, unless that starts with a star: a star asks whether
it is at the front (`readTokens_over`).
-/

namespace LazyStyles.Glob

variable {skip : Nat} {before : Option Char} {c : Char} {s : List Char} {p q : Progress} {ts : List Token}

/-! ### Character by character -/

/-- The piece that a character makes by itself. -/
def pieceOf (c : Char) : Token :=
  if c = '?' then .any else if c = '*' then .star else .literal c

theorem pieceOf_of_ne (hany : c ≠ '?') (hstar : c ≠ '*') : pieceOf c = .literal c := by
  rw [pieceOf, if_neg hany, if_neg hstar]

theorem pieceOf_cases (c : Char) :
    (c = '?' ∧ pieceOf c = .any) ∨ (c = '*' ∧ pieceOf c = .star) ∨ (c ≠ '?' ∧ c ≠ '*' ∧ pieceOf c = .literal c) := by
  by_cases hany : c = '?'
  · exact .inl ⟨hany, hany ▸ rfl⟩
  · by_cases hstar : c = '*'
    · exact .inr (.inl ⟨hstar, hstar ▸ rfl⟩)
    · exact .inr (.inr ⟨hany, hstar, pieceOf_of_ne hany hstar⟩)

/-- Outside groups a character that begins neither a class nor a group and is no star is a piece. -/
theorem readTokens_cons (hstar : c ≠ '*') (hclass : c ≠ '[') (hopen : c ≠ '\x7b') (hclose : c ≠ '\x7d') :
    readTokens 0 before ⟨ts, []⟩ (c :: s) = readTokens 0 (some c) ⟨pieceOf c :: ts, []⟩ s := by
  by_cases hany : c = '?'
  · subst hany
    rfl
  · by_cases hcomma : c = ','
    · subst hcomma
      rfl
    · rw [readTokens, pieceOf_of_ne hany hstar]
      · rfl
      all_goals exact fun h => by contradiction

/-- A star without a second one after it is a piece. -/
theorem readTokens_star (hstar : s.head? ≠ some '*') :
    readTokens 0 before p ('*' :: s) = readTokens 0 (some '*') (p.push .star) s := by
  have hstars : p.stars before s = (p.push .star, 0) := by
    unfold Progress.stars
    split
    case h_1 s => exact absurd rfl hstar
    case h_2 => rfl
  simp only [readTokens, hstars]

/-- A text without classes, groups and double stars. -/
structure IsSimple (s : List Char) : Prop where
  noClass : '[' ∉ s
  noOpening : '\x7b' ∉ s
  noClosing : '\x7d' ∉ s
  noStars : ¬ ['*', '*'] <:+: s

theorem readTokens_of_isSimple (hs : IsSimple s) :
    readTokens 0 before ⟨ts, []⟩ s = .ok (ts.reverse ++ s.map pieceOf) := by
  induction s generalizing before ts with
  | nil => simp [readTokens]
  | cons c s ih =>
    obtain ⟨hclass, hopen, hclose, hstars⟩ := hs
    obtain ⟨hc, hclass⟩ := not_or.mp (mt List.mem_cons.mpr hclass)
    obtain ⟨ho, hopen⟩ := not_or.mp (mt List.mem_cons.mpr hopen)
    obtain ⟨hd, hclose⟩ := not_or.mp (mt List.mem_cons.mpr hclose)
    have hrest : IsSimple s := ⟨hclass, hopen, hclose, fun h => hstars (List.infix_cons h)⟩
    have hstep : readTokens 0 before ⟨ts, []⟩ (c :: s) = readTokens 0 (some c) ⟨pieceOf c :: ts, []⟩ s := by
      by_cases hstar : c = '*'
      · subst hstar
        refine readTokens_star fun hhead => hstars ?_
        obtain ⟨s', rfl⟩ := List.head?_eq_some_iff.mp hhead
        exact ⟨[], s', rfl⟩
      · exact readTokens_cons hstar (Ne.symm hc) (Ne.symm ho) (Ne.symm hd)
    rw [hstep, ih hrest]
    simp

/-! ### After another text -/

/-- The characters with a meaning of their own at the top of a pattern. -/
def marks : List Char := ['*', '?', '[', '\x7b', '\x7d']

theorem readTokens_append (hs : ∀ c ∈ s, c ∉ marks) (r : List Char) :
    readTokens 0 before ⟨ts, []⟩ (s ++ r) =
      readTokens 0 (s.getLast?.or before) ⟨(s.map .literal).reverse ++ ts, []⟩ r := by
  induction s generalizing before ts with
  | nil => rfl
  | cons c s ih =>
    obtain ⟨hc, hs⟩ := List.forall_mem_cons.mp hs
    obtain ⟨hstar, hany, hclass, hopen, hclose⟩ : c ≠ '*' ∧ c ≠ '?' ∧ c ≠ '[' ∧ c ≠ '\x7b' ∧ c ≠ '\x7d' := by
      simpa [marks] using hc
    rw [List.cons_append, readTokens_cons hstar hclass hopen hclose, ih hs, pieceOf_of_ne hany hstar]
    have hlast : s.getLast?.or (some c) = (c :: s).getLast?.or before := by
      cases s with
      | nil => rfl
      | cons d s => rw [List.getLast?_cons_cons, List.getLast?_eq_some_getLast (List.cons_ne_nil d s)]; rfl
    rw [hlast]
    simp

/-- The groups with pieces in front of the outermost. -/
def groupsOver (base : List Token) : List OpenGroup → List OpenGroup
  | [] => []
  | [g] => [{ g with before := g.before ++ base }]
  | g :: h :: gs => g :: groupsOver base (h :: gs)

/-- The progress with pieces in front of all that has been read. -/
def Progress.over (base : List Token) (p : Progress) : Progress :=
  match p.groups with
  | [] => ⟨p.tokens ++ base, []⟩
  | gs => ⟨p.tokens, groupsOver base gs⟩

/-- Whether anything has been read. -/
def Progress.IsStarted (p : Progress) : Prop :=
  p.groups = [] → p.tokens ≠ []

theorem Progress.isStarted_push (p : Progress) (t : Token) : (p.push t).IsStarted :=
  fun _ => List.cons_ne_nil t _

theorem Progress.isStarted_openGroup (p : Progress) : p.openGroup.IsStarted :=
  nofun

theorem Progress.isStarted_comma (p : Progress) : p.comma.IsStarted := by
  obtain ⟨ts, _ | ⟨g, gs⟩⟩ := p <;> exact nofun

theorem Progress.isStarted_of_closeGroup (h : p.closeGroup = .ok q) : q.IsStarted := by
  obtain ⟨ts, _ | ⟨g, gs⟩⟩ := p
  · exact absurd h nofun
  · obtain rfl := Except.ok.inj h
    exact nofun

theorem Progress.isStarted_pushRecursive (p : Progress) (t : Token) : (p.pushRecursive t).IsStarted := by
  obtain ⟨_ | ⟨u, ts⟩, gs⟩ := p
  · exact nofun
  · cases u <;> exact nofun

theorem Progress.isStarted_stars (p : Progress) (before : Option Char) (s : List Char) :
    (p.stars before s).1.IsStarted := by
  unfold Progress.stars
  split
  · split_ifs
    · split <;> exact isStarted_push _ _
    · exact isStarted_push _ _
    · split
      · exact isStarted_pushRecursive _ _
      · exact isStarted_pushRecursive _ _
      · split_ifs
        · exact isStarted_pushRecursive _ _
        · exact isStarted_push _ _
  · exact isStarted_push _ _

section Over

variable (base : List Token)

theorem Progress.isEmpty_groups_over : (p.over base).groups.isEmpty = p.groups.isEmpty := by
  obtain ⟨ts, _ | ⟨g, _ | ⟨h, gs⟩⟩⟩ := p <;> rfl

theorem Progress.push_over (t : Token) : (p.over base).push t = (p.push t).over base := by
  obtain ⟨ts, _ | ⟨g, gs⟩⟩ := p <;> rfl

theorem Progress.openGroup_over : (p.over base).openGroup = p.openGroup.over base := by
  obtain ⟨ts, _ | ⟨g, gs⟩⟩ := p <;> rfl

theorem Progress.comma_over : (p.over base).comma = p.comma.over base := by
  obtain ⟨ts, _ | ⟨g, _ | ⟨h, gs⟩⟩⟩ := p <;> rfl

theorem Progress.closeGroup_over : (p.over base).closeGroup = p.closeGroup.map (·.over base) := by
  obtain ⟨ts, _ | ⟨g, _ | ⟨h, gs⟩⟩⟩ := p <;> rfl

theorem Progress.pushRecursive_over (hp : p.tokens ≠ []) (t : Token) :
    (p.over base).pushRecursive t = (p.pushRecursive t).over base := by
  obtain ⟨_ | ⟨u, ts⟩, gs⟩ := p
  · exact absurd rfl hp
  · cases gs with
    | nil => cases u <;> rfl
    | cons g gs => cases u <;> rfl

theorem Progress.stars_over (hp : p.IsStarted) :
    (p.over base).stars before s = ((p.stars before s).1.over base, (p.stars before s).2) := by
  have htokens : (p.over base).tokens.isEmpty = p.tokens.isEmpty := by
    obtain ⟨_ | ⟨t, ts⟩, _ | ⟨g, gs⟩⟩ := p
    · exact absurd rfl (hp rfl)
    · rfl
    · rfl
    · rfl
  unfold Progress.stars Progress.pushStars
  rw [htokens, isEmpty_groups_over]
  simp only [push_over]
  by_cases hempty : p.tokens = []
  · simp only [hempty, List.isEmpty_nil, if_true]
    split
    · split <;> rfl
    · rfl
  · simp only [pushRecursive_over base hempty]
    split
    · split_ifs
      · exact absurd (List.isEmpty_iff.mp ‹_›) hempty
      · rfl
      · split
        · rfl
        · rfl
        · split_ifs <;> rfl
    · rfl

/-- What stands before a pattern that does not start with a star is not looked at. -/
theorem readTokens_over (h : p.IsStarted ∨ skip = 0 ∧ s.head? ≠ some '*') :
    readTokens skip before (p.over base) s = (readTokens skip before p s).map (base.reverse ++ ·) := by
  -- Only the first step may be one without anything read, and that one makes no star.
  fun_induction readTokens skip before p s with
  | case1 skip before p hgroups =>
    rw [readTokens, Progress.isEmpty_groups_over, if_pos hgroups]
    obtain ⟨ts, gs⟩ := p
    obtain rfl := List.isEmpty_iff.mp hgroups
    exact congrArg Except.ok List.reverse_append
  | case2 skip before p hgroups =>
    rw [readTokens, Progress.isEmpty_groups_over, if_neg hgroups]
    rfl
  | case3 before p c s skip ih =>
    rw [readTokens]
    exact ih (.inl (h.resolve_right fun h => nomatch h.1))
  | case4 before p s ih =>
    rw [readTokens, Progress.push_over]
    exact ih (.inl (Progress.isStarted_push p _))
  | case5 before p s q n hstars ih =>
    have hp := h.resolve_right fun h => h.2 rfl
    have hq : q.IsStarted := by
      have hstarted := Progress.isStarted_stars p before s
      rwa [hstars] at hstarted
    rw [readTokens, Progress.stars_over base hp, hstars]
    exact ih (.inl hq)
  | case6 before p s t n hclass ih =>
    simp only [readTokens, hclass, Progress.push_over]
    exact ih (.inl (Progress.isStarted_push p t))
  | case7 before p s e hclass =>
    simp only [readTokens, hclass]
    rfl
  | case8 before p s ih =>
    rw [readTokens, Progress.openGroup_over]
    exact ih (.inl (Progress.isStarted_openGroup p))
  | case9 before p s q hclose ih =>
    simp only [readTokens, Progress.closeGroup_over, hclose, Except.map]
    exact ih (.inl (Progress.isStarted_of_closeGroup hclose))
  | case10 before p s e hclose =>
    simp only [readTokens, Progress.closeGroup_over, hclose, Except.map]
  | case11 before p s ih =>
    rw [readTokens, Progress.comma_over]
    exact ih (.inl (Progress.isStarted_comma p))
  | case12 before p s c hany hstar hclass hopen hclose hcomma ih =>
    rw [readTokens, Progress.push_over]
    · exact ih (.inl (Progress.isStarted_push p _))
    all_goals assumption

end Over

/-- The character before matters to a star only. -/
theorem readTokens_before (hs : s.head? ≠ some '*') (before before' : Option Char) :
    readTokens 0 before p s = readTokens 0 before' p s := by
  cases s with
  | nil => rfl
  | cons c s =>
    have hstar : c ≠ '*' := fun h => hs (congrArg some h)
    rw [readTokens.eq_def 0 before, readTokens.eq_def 0 before']
    dsimp only
    split
    case h_2 => exact absurd rfl hstar
    all_goals rfl

/-- A pattern that does not start with a star is read after plain characters as it is by itself. -/
theorem readTokens_append_eq_map {d : List Char} (hd : ∀ c ∈ d, c ∉ marks) (hs : s.head? ≠ some '*') :
    readTokens 0 none {} (d ++ s) = (readTokens 0 none {} s).map (d.map .literal ++ ·) := by
  have hover : readTokens 0 none (Progress.over (d.map .literal).reverse {}) s = (readTokens 0 none {} s).map _ :=
    readTokens_over _ (.inr ⟨rfl, hs⟩)
  rw [List.reverse_reverse] at hover
  rw [readTokens_append hd, readTokens_before hs _ none, ← hover, List.append_nil]
  rfl

/-! ### `**` at the front -/

/-- The pieces that have been read outside all groups. -/
def Progress.outermost (p : Progress) : List Token :=
  match p.groups.getLast? with
  | none => p.tokens
  | some g => g.before

section Outermost

variable {t : Token}

theorem Progress.outermost_openGroup (p : Progress) : p.openGroup.outermost = p.outermost := by
  obtain ⟨ts, _ | ⟨g, gs⟩⟩ := p <;> rfl

theorem Progress.notMem_outermost_push (ht : t ≠ .leading) (hp : .leading ∉ p.outermost) :
    .leading ∉ (p.push t).outermost := by
  obtain ⟨ts, _ | ⟨g, gs⟩⟩ := p
  · exact fun h => (List.mem_cons.mp h).elim (fun h => ht h.symm) hp
  · exact hp

theorem Progress.notMem_outermost_comma (hp : .leading ∉ p.outermost) : .leading ∉ p.comma.outermost := by
  obtain ⟨ts, _ | ⟨g, _ | ⟨h, gs⟩⟩⟩ := p
  · exact notMem_outermost_push nofun hp
  · exact hp
  · exact hp

theorem Progress.notMem_outermost_of_closeGroup (hq : p.closeGroup = .ok q) (hp : .leading ∉ p.outermost) :
    .leading ∉ q.outermost := by
  obtain ⟨ts, _ | ⟨g, _ | ⟨h, gs⟩⟩⟩ := p
  · exact absurd hq nofun
  · obtain rfl := Except.ok.inj hq
    exact fun h => (List.mem_cons.mp h).elim nofun hp
  · obtain rfl := Except.ok.inj hq
    exact hp

theorem Progress.groups_pushRecursive (p : Progress) (t : Token) : (p.pushRecursive t).groups = p.groups := by
  unfold pushRecursive
  split <;> rfl

/-- What is read in a group does not change what stands outside. -/
theorem Progress.outermost_eq_of_groups_eq (hq : q.groups = p.groups) (hp : p.groups ≠ []) :
    q.outermost = p.outermost := by
  obtain ⟨ts, gs⟩ := p
  obtain ⟨us, gs'⟩ := q
  obtain rfl : gs' = gs := hq
  obtain ⟨g, gs, rfl⟩ := List.exists_cons_of_ne_nil hp
  rfl

theorem Progress.notMem_outermost_pushRecursive (ht : t ≠ .leading) (hp : .leading ∉ p.outermost) :
    .leading ∉ (p.pushRecursive t).outermost := by
  by_cases hgroups : p.groups = []
  · obtain ⟨ts, gs⟩ := p
    obtain rfl : gs = [] := hgroups
    unfold pushRecursive
    split
    · exact hp
    · exact hp
    case h_3 u us _ _ hts =>
      obtain rfl : ts = u :: us := hts
      exact fun h => (List.mem_cons.mp h).elim (fun h => ht h.symm) fun h => hp (List.mem_cons_of_mem _ h)
    case h_4 => exact fun h => ht (List.mem_singleton.mp h).symm
  · rw [outermost_eq_of_groups_eq (groups_pushRecursive p t) hgroups]
    exact hp

/-- A `**` is at the front of a group if it is at the front of anything that has been started. -/
theorem Progress.notMem_outermost_stars (hp : p.IsStarted) (hleading : .leading ∉ p.outermost) :
    .leading ∉ (p.stars before s).1.outermost := by
  have hstar : .leading ∉ (p.push .star).outermost := notMem_outermost_push nofun hleading
  have hstars : .leading ∉ p.pushStars.outermost := notMem_outermost_push nofun hstar
  have hrecursive (t : Token) (ht : t ≠ .leading) : .leading ∉ (p.pushRecursive t).outermost :=
    notMem_outermost_pushRecursive ht hleading
  unfold Progress.stars
  split
  · split_ifs with hempty
    · have hgroups : p.groups ≠ [] := fun h => hp h (List.isEmpty_iff.mp hempty)
      have hfront : .leading ∉ (p.push .leading).outermost := by
        have houtermost : (p.push .leading).outermost = p.outermost := outermost_eq_of_groups_eq rfl hgroups
        rwa [houtermost]
      split
      · exact hfront
      · exact hfront
      · exact hstars
    · exact hstars
    · split
      · exact hrecursive _ nofun
      · exact hrecursive _ nofun
      · split_ifs
        · exact hrecursive _ nofun
        · exact hstars
  · exact hstar

/-- A class is a piece of its own kind. -/
theorem exists_of_charClass {n : Nat} (h : charClass s = .ok (t, n)) :
    ∃ negated ranges, t = .charClass negated ranges := by
  unfold charClass at h
  split at h
  all_goals
    obtain ⟨r, -, hr⟩ := map_eq_ok_iff.mp h
    exact ⟨_, _, (Prod.mk.inj hr).1.symm⟩

end Outermost

/-- Only a pattern that starts with a star is read as a glob with `**` at its front. -/
theorem leading_notMem_of_readTokens (h : p.IsStarted ∨ skip = 0 ∧ s.head? ≠ some '*') (hp : .leading ∉ p.outermost)
    (hts : readTokens skip before p s = .ok ts) : .leading ∉ ts := by
  fun_induction readTokens skip before p s with
  | case1 skip before p hgroups =>
    obtain ⟨us, gs⟩ := p
    obtain rfl := List.isEmpty_iff.mp hgroups
    obtain rfl := Except.ok.inj hts
    exact fun h => hp (List.mem_reverse.mp h)
  | case2 | case7 | case10 => exact absurd hts nofun
  | case3 before p c s skip ih => exact ih (.inl (h.resolve_right fun h => nomatch h.1)) hp hts
  | case4 before p s ih => exact ih (.inl (Progress.isStarted_push p _)) (Progress.notMem_outermost_push nofun hp) hts
  | case5 before p s q n hstars ih =>
    have hstarted := h.resolve_right fun h => h.2 rfl
    obtain rfl : (p.stars before s).1 = q := congrArg Prod.fst hstars
    exact ih (.inl (Progress.isStarted_stars p before s)) (Progress.notMem_outermost_stars hstarted hp) hts
  | case6 before p s t n hclass ih =>
    obtain ⟨negated, ranges, rfl⟩ := exists_of_charClass hclass
    exact ih (.inl (Progress.isStarted_push p _)) (Progress.notMem_outermost_push nofun hp) hts
  | case8 before p s ih =>
    rw [← Progress.outermost_openGroup] at hp
    exact ih (.inl (Progress.isStarted_openGroup p)) hp hts
  | case9 before p s q hclose ih =>
    exact ih (.inl (Progress.isStarted_of_closeGroup hclose)) (Progress.notMem_outermost_of_closeGroup hclose hp) hts
  | case11 before p s ih =>
    exact ih (.inl (Progress.isStarted_comma p)) (Progress.notMem_outermost_comma hp) hts
  | case12 before p s c hany hstar hclass hopen hclose hcomma ih =>
    exact ih (.inl (Progress.isStarted_push p _)) (Progress.notMem_outermost_push nofun hp) hts

end LazyStyles.Glob
