import LazyStyles.Glob.Language
import Mathlib.Data.List.Basic
import Mathlib.Tactic.SplitIfs

/-!
# What globs describe

The parts of a text that each piece of a glob may take, said without what is left of the text (`Token.Takes`).  What is
left after a piece is what stands after such a part (`Token.mem_rests_iff`), so a glob describes the paths that are
made of parts of its pieces (`describes_iff`).
-/

namespace LazyStyles.Glob

variable {s r w : List UInt8} {ts us : List Token}

/-! ### Parts of a text -/

theorem dropFront?_eq_some_iff : dropFront? w s = some r ↔ s = w ++ r := by
  fun_induction dropFront? w s with
  | case1 s => exact Option.some_inj
  | case2 a w => simp
  | case3 a w s ih => simp [ih]
  | case4 a w b s hab => simp [Ne.symm hab]

theorem mem_afterName_iff : r ∈ afterName s ↔ ∃ w, slash ∉ w ∧ s = w ++ r := by
  induction s with
  | nil =>
    rw [afterName, List.mem_singleton]
    constructor
    · rintro rfl
      exact ⟨[], List.not_mem_nil, rfl⟩
    · rintro ⟨w, -, h⟩
      exact (List.append_eq_nil_iff.mp h.symm).2
  | cons b s ih =>
    rw [afterName, List.mem_cons]
    constructor
    · rintro (rfl | h)
      · exact ⟨[], List.not_mem_nil, rfl⟩
      · split_ifs at h with hb
        · exact absurd h List.not_mem_nil
        · obtain ⟨w, hw, rfl⟩ := ih.mp h
          exact ⟨b :: w, by simp [hw, Ne.symm hb], rfl⟩
    · rintro ⟨w, hw, h⟩
      cases w with
      | nil => exact .inl h.symm
      | cons c w =>
        obtain ⟨rfl, rfl⟩ := List.cons.inj h
        obtain ⟨hb, hw⟩ := not_or.mp (mt List.mem_cons.mpr hw)
        rw [if_neg (Ne.symm hb)]
        exact .inr (ih.mpr ⟨w, hw, rfl⟩)

theorem mem_afterSlashes_iff : r ∈ afterSlashes s ↔ ∃ w, s = w ++ slash :: r := by
  induction s with
  | nil => simp [afterSlashes]
  | cons b s ih =>
    have hrest : r ∈ afterSlashes (b :: s) ↔ (b = slash ∧ r = s) ∨ r ∈ afterSlashes s := by
      rw [afterSlashes]
      split_ifs with hb <;> simp [hb]
    rw [hrest, ih]
    constructor
    · rintro (⟨rfl, rfl⟩ | ⟨w, rfl⟩)
      · exact ⟨[], rfl⟩
      · exact ⟨b :: w, rfl⟩
    · rintro ⟨w, h⟩
      cases w with
      | nil =>
        obtain ⟨rfl, rfl⟩ := List.cons.inj h
        exact .inl ⟨rfl, rfl⟩
      | cons c w => exact .inr ⟨w, (List.cons.inj h).2⟩

theorem mem_afterAnything_iff : r ∈ afterAnything s ↔ ∃ w, s = w ++ r := by
  induction s with
  | nil => simp [afterAnything, eq_comm]
  | cons b s ih =>
    rw [afterAnything, List.mem_cons, ih]
    constructor
    · rintro (rfl | ⟨w, rfl⟩)
      · exact ⟨[], rfl⟩
      · exact ⟨b :: w, rfl⟩
    · rintro ⟨w, h⟩
      cases w with
      | nil => exact .inl h.symm
      | cons c w => exact .inr ⟨w, (List.cons.inj h).2⟩

theorem mem_afterByte_iff {p : UInt8 → Bool} : r ∈ afterByte p s ↔ ∃ b, p b = true ∧ s = b :: r := by
  cases s with
  | nil => simp [afterByte]
  | cons b s =>
    rw [afterByte]
    constructor
    · intro h
      split_ifs at h with hb
      · exact ⟨b, hb, congrArg _ (List.mem_singleton.mp h).symm⟩
      · exact absurd h List.not_mem_nil
    · rintro ⟨c, hc, h⟩
      obtain ⟨rfl, rfl⟩ := List.cons.inj h
      rw [if_pos hc]
      exact List.mem_singleton_self _

theorem mem_distinct_iff {xs : List (List UInt8)} : w ∈ distinct xs ↔ w ∈ xs := by
  induction xs with
  | nil => rfl
  | cons x xs ih =>
    change w ∈ List.insert x (distinct xs) ↔ _
    rw [List.mem_insert_iff, ih, List.mem_cons]

/-! ### Parts that pieces take -/

mutual

/-- The parts of a text that a piece may take. -/
inductive Token.Takes : Token → List UInt8 → Prop where
  | literal (c : Char) : Token.Takes (.literal c) (String.utf8EncodeChar c)
  | any {b : UInt8} (hb : b ≠ slash) : Token.Takes .any [b]
  | star {w : List UInt8} (hw : slash ∉ w) : Token.Takes .star w
  | leadingNothing : Token.Takes .leading []
  | leading (w : List UInt8) : Token.Takes .leading (w ++ [slash])
  | betweenOne : Token.Takes .between [slash]
  | between (w : List UInt8) : Token.Takes .between (slash :: (w ++ [slash]))
  | trailing (w : List UInt8) : Token.Takes .trailing (slash :: w)
  | charClass {negated : Bool} {ranges : List (Char × Char)} {b : UInt8} (hb : classHolds negated ranges b = true) :
    Token.Takes (.charClass negated ranges) [b]
  | blank {branches : List (List Token)} (h : areBlank branches = true) : Token.Takes (.alternates branches) []
  | branch {branches : List (List Token)} {ts : List Token} {w : List UInt8} (hts : ts ∈ branches)
    (hblank : isBlankBranch ts = false) (h : BranchTakes ts w) : Token.Takes (.alternates branches) w

/-- The parts of a text that pieces may take one after the other. -/
inductive BranchTakes : List Token → List UInt8 → Prop where
  | nil : BranchTakes [] []
  | cons {t : Token} {ts : List Token} {v w : List UInt8} (ht : t.Takes v) (hts : BranchTakes ts w) :
    BranchTakes (t :: ts) (v ++ w)

end

theorem branchTakes_cons_iff {t : Token} : BranchTakes (t :: ts) w ↔
    ∃ u v, t.Takes u ∧ BranchTakes ts v ∧ w = u ++ v := by
  constructor
  · intro h
    cases h with
    | cons ht hts => exact ⟨_, _, ht, hts, rfl⟩
  · rintro ⟨u, v, ht, hts, rfl⟩
    exact .cons ht hts

theorem branchTakes_append_iff :
    BranchTakes (ts ++ us) w ↔ ∃ u v, BranchTakes ts u ∧ BranchTakes us v ∧ w = u ++ v := by
  induction ts generalizing w with
  | nil =>
    constructor
    · intro h
      exact ⟨[], w, .nil, h, rfl⟩
    · rintro ⟨_, v, ⟨⟩, hv, rfl⟩
      exact hv
  | cons t ts ih =>
    rw [List.cons_append, branchTakes_cons_iff]
    simp only [ih, branchTakes_cons_iff]
    constructor
    · rintro ⟨u, _, ht, ⟨v, x, hts, hus, rfl⟩, rfl⟩
      exact ⟨u ++ v, x, ⟨u, v, ht, hts, rfl⟩, hus, (List.append_assoc ..).symm⟩
    · rintro ⟨_, x, ⟨u, v, ht, hts, rfl⟩, hus, rfl⟩
      exact ⟨u, v ++ x, ht, ⟨v, x, hts, hus, rfl⟩, List.append_assoc ..⟩

theorem areBlank_eq_true_iff {bs : List (List Token)} : areBlank bs = true ↔ ∀ b ∈ bs, isBlankBranch b = true := by
  induction bs with
  | nil => simp [areBlank]
  | cons b bs ih => rw [areBlank, Bool.and_eq_true, ih, List.forall_mem_cons]

theorem Token.mem_rests_leading_iff : r ∈ Token.leading.rests s ↔ ∃ w, Token.leading.Takes w ∧ s = w ++ r := by
  rw [Token.rests, List.mem_cons, mem_afterSlashes_iff]
  constructor
  · rintro (rfl | ⟨w, rfl⟩)
    · exact ⟨[], .leadingNothing, rfl⟩
    · exact ⟨w ++ [slash], .leading w, by simp⟩
  · rintro ⟨_, hw, rfl⟩
    cases hw with
    | leadingNothing => exact .inl rfl
    | leading w => exact .inr ⟨w, by simp⟩

theorem Token.mem_rests_between_iff : r ∈ Token.between.rests s ↔ ∃ w, Token.between.Takes w ∧ s = w ++ r := by
  rw [Token.rests]
  constructor
  · intro h
    cases hs : dropFront? [slash] s with
    | none =>
      rw [hs] at h
      exact absurd h List.not_mem_nil
    | some u =>
      rw [hs, List.mem_cons, mem_afterSlashes_iff] at h
      rw [dropFront?_eq_some_iff.mp hs]
      rcases h with rfl | ⟨w, rfl⟩
      · exact ⟨[slash], .betweenOne, rfl⟩
      · exact ⟨slash :: (w ++ [slash]), .between w, by simp⟩
  · rintro ⟨_, hw, rfl⟩
    cases hw with
    | betweenOne =>
      rw [dropFront?_eq_some_iff.mpr rfl]
      exact List.mem_cons_self
    | between w =>
      rw [dropFront?_eq_some_iff.mpr (List.cons_append ..)]
      exact List.mem_cons_of_mem _ (mem_afterSlashes_iff.mpr ⟨w, by simp⟩)

theorem Token.mem_rests_trailing_iff : r ∈ Token.trailing.rests s ↔ ∃ w, Token.trailing.Takes w ∧ s = w ++ r := by
  rw [Token.rests]
  constructor
  · intro h
    cases hs : dropFront? [slash] s with
    | none =>
      rw [hs] at h
      exact absurd h List.not_mem_nil
    | some u =>
      rw [hs, mem_afterAnything_iff] at h
      obtain ⟨w, rfl⟩ := h
      rw [dropFront?_eq_some_iff.mp hs]
      exact ⟨slash :: w, .trailing w, rfl⟩
  · rintro ⟨_, hw, rfl⟩
    cases hw with
    | trailing w =>
      rw [dropFront?_eq_some_iff.mpr (List.cons_append ..)]
      exact mem_afterAnything_iff.mpr ⟨w, rfl⟩

-- The induction is on the piece: only a group has pieces of its own, which it takes branch by branch.
mutual

/-- What may be left after a piece is what stands after a part that it takes. -/
theorem Token.mem_rests_iff : ∀ (t : Token) {s r : List UInt8}, r ∈ t.rests s ↔ ∃ w, t.Takes w ∧ s = w ++ r
  | .literal c, s, r => by
    rw [Token.rests, Option.mem_toList, dropFront?_eq_some_iff]
    exact ⟨fun h => ⟨_, .literal c, h⟩, fun ⟨_, .literal _, h⟩ => h⟩
  | .any, s, r => by
    rw [Token.rests, mem_afterByte_iff]
    simp only [bne_iff_ne]
    exact ⟨fun ⟨b, hb, h⟩ => ⟨[b], .any hb, h⟩, fun ⟨_, .any hb, h⟩ => ⟨_, hb, h⟩⟩
  | .star, s, r => by
    rw [Token.rests, mem_afterName_iff]
    exact ⟨fun ⟨w, hw, h⟩ => ⟨w, .star hw, h⟩, fun ⟨w, .star hw, h⟩ => ⟨w, hw, h⟩⟩
  | .leading, s, r => Token.mem_rests_leading_iff
  | .between, s, r => Token.mem_rests_between_iff
  | .trailing, s, r => Token.mem_rests_trailing_iff
  | .charClass negated ranges, s, r => by
    rw [Token.rests, mem_afterByte_iff]
    exact ⟨fun ⟨b, hb, h⟩ => ⟨[b], .charClass hb, h⟩, fun ⟨_, .charClass hb, h⟩ => ⟨_, hb, h⟩⟩
  | .alternates branches, s, r => by
    rw [Token.rests]
    split_ifs with hblank
    · rw [List.mem_singleton]
      constructor
      · rintro rfl
        exact ⟨[], .blank hblank, rfl⟩
      · rintro ⟨_, hw, rfl⟩
        cases hw with
        | blank => rfl
        | branch hts hts' => exact absurd (areBlank_eq_true_iff.mp hblank _ hts) (Bool.eq_false_iff.mp hts')
    · rw [mem_branchesRests_iff branches]
      constructor
      · rintro ⟨ts, hts, hts', w, hw, rfl⟩
        exact ⟨w, .branch hts hts' hw, rfl⟩
      · rintro ⟨_, hw, rfl⟩
        cases hw with
        | blank h => exact absurd h hblank
        | branch hts hts' hw => exact ⟨_, hts, hts', _, hw, rfl⟩

theorem mem_branchRests_iff : ∀ (ts : List Token) {ss : List (List UInt8)} {r : List UInt8},
    r ∈ branchRests ts ss ↔ ∃ s ∈ ss, ∃ w, BranchTakes ts w ∧ s = w ++ r
  | [], ss, r => by
    rw [branchRests]
    constructor
    · intro h
      exact ⟨r, h, [], .nil, rfl⟩
    · rintro ⟨s, hs, _, ⟨⟩, rfl⟩
      exact hs
  | t :: ts, ss, r => by
    rw [branchRests, mem_branchRests_iff ts]
    simp only [mem_distinct_iff, List.mem_flatMap, Token.mem_rests_iff t]
    constructor
    · rintro ⟨u, ⟨s, hs, v, hv, rfl⟩, w, hw, rfl⟩
      exact ⟨_, hs, v ++ w, .cons hv hw, by simp⟩
    · rintro ⟨s, hs, _, hvw, rfl⟩
      cases hvw with
      | cons hv hw => exact ⟨_, ⟨_, hs, _, hv, List.append_assoc ..⟩, _, hw, rfl⟩

theorem mem_branchesRests_iff : ∀ (bs : List (List Token)) {s r : List UInt8},
    r ∈ branchesRests bs s ↔ ∃ b ∈ bs, isBlankBranch b = false ∧ ∃ w, BranchTakes b w ∧ s = w ++ r
  | [], s, r => by
    simp [branchesRests]
  | b :: bs, s, r => by
    rw [branchesRests, List.mem_append, mem_branchesRests_iff bs, List.exists_mem_cons_iff]
    refine or_congr ?_ Iff.rfl
    split_ifs with hblank
    · simp [hblank]
    · rw [mem_branchRests_iff b]
      simp only [List.mem_singleton, exists_eq_left, hblank, true_and]

end

/-- A glob describes the paths that are made of parts that its pieces take, and `**` alone describes all. -/
theorem describes_iff {g : Glob} {path : List UInt8} :
    g.describes path = true ↔ g.tokens = [.leading] ∨ BranchTakes g.tokens path := by
  unfold describes
  split
  case h_1 h => simp [h]
  case h_2 h =>
    rw [List.contains_iff_mem, mem_branchRests_iff, or_iff_right h]
    simp

end LazyStyles.Glob
