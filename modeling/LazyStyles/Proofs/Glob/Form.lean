import LazyStyles.Glob.Expression
import LazyStyles.Glob.Form
import LazyStyles.Proofs.Steps

/-!
# Forms of globs without `**` at the front

Such a glob is looked at by the last part of a path only if it is searched for and ends in an extension
(`looksAtName_formOf_iff`), and sets may refuse it only if it is searched for (`isSearched_formOf_iff`).  Literals in
front of a glob change neither (`looksAtName_formOf_append`, `isSearched_of_append`, `depth_append`).
-/

namespace LazyStyles.Glob

variable {ts : List Token} {d cs : List Char}

/-! ### Literals -/

theorem Token.literal?_eq_some_iff {t : Token} {c : Char} : t.literal? = some c ↔ t = .literal c := by
  cases t <;> simp [Token.literal?]

theorem literals?_eq_some_iff : literals? ts = some cs ↔ ts = cs.map .literal := by
  rw [literals?, mapM_eq_some_iff, ← List.forall₂_eq_eq_eq, List.forall₂_map_right_iff]
  simp only [Token.literal?_eq_some_iff]

/-- Whether there are no pieces but literals. -/
def AreLiteral (ts : List Token) : Prop :=
  ∃ cs : List Char, ts = cs.map .literal

theorem areLiterals_eq_true_iff : (areLiterals ts fun _ => true) = true ↔ AreLiteral ts := by
  unfold areLiterals AreLiteral
  simp only [← literals?_eq_some_iff]
  cases literals? ts <;> simp

theorem areLiteral_append_iff : AreLiteral (d.map .literal ++ ts) ↔ AreLiteral ts := by
  constructor
  · rintro ⟨cs, h⟩
    obtain ⟨e, cs, -, -, h⟩ := List.append_eq_map_iff.mp h
    exact ⟨cs, h.symm⟩
  · rintro ⟨cs, rfl⟩
    exact ⟨d ++ cs, List.map_append.symm⟩

theorem endsInExtension_append (ts us : List Token) (h : ¬ AreLiteral ts) :
    endsInExtension (ts ++ us) = endsInExtension ts := by
  fun_induction endsInExtension ts with
  | case1 | case2 => rfl
  | case3 c ts hpoint hslash ih =>
    rw [List.cons_append, endsInExtension]
    · exact ih fun ⟨cs, hcs⟩ => h ⟨c :: cs, congrArg _ hcs⟩
    · exact hpoint
    · exact hslash
  | case4 ts _ _ hliteral =>
    cases ts with
    | nil => exact absurd ⟨[], rfl⟩ h
    | cons t ts =>
      cases t with
      | literal c => exact absurd rfl (hliteral c ts)
      | _ => rfl

theorem areLiteral_reverse_iff : AreLiteral ts.reverse ↔ AreLiteral ts := by
  constructor
  · rintro ⟨cs, h⟩
    exact ⟨cs.reverse, by rw [List.map_reverse, ← h, List.reverse_reverse]⟩
  · rintro ⟨cs, rfl⟩
    exact ⟨cs.reverse, List.map_reverse.symm⟩

/-! ### Forms -/

/-- Whether there are literals, and a separator and `**` after them. -/
def IsFront (ts : List Token) : Prop :=
  ∃ us, ts = us ++ [.trailing] ∧ AreLiteral us

theorem isFront_iff :
    (match ts.reverse with | .trailing :: r => areLiterals r fun _ => true | _ => false) = true ↔ IsFront ts := by
  constructor
  · intro h
    split at h
    case h_1 r hr =>
      exact ⟨r.reverse, List.reverse_eq_cons_iff.mp hr, areLiteral_reverse_iff.mpr (areLiterals_eq_true_iff.mp h)⟩
    case h_2 => exact absurd h nofun
  · rintro ⟨us, rfl, hus⟩
    rw [List.reverse_append]
    exact areLiterals_eq_true_iff.mpr (areLiteral_reverse_iff.mpr hus)

/-- Without `**` at the front a glob is a path, the front of paths, or is searched for. -/
theorem formOf_cases (h : .leading ∉ ts) :
    (formOf ts = .path ∧ ts ≠ [] ∧ AreLiteral ts) ∨ (formOf ts = .front ∧ IsFront ts) ∨
      ((ts = [] ∨ ¬ AreLiteral ts) ∧ ¬ IsFront ts ∧
        formOf ts = if endsInExtension ts.reverse then .searchWithExtension else .search) := by
  -- Without `**` at the front only the last three rules are left.
  have hform : formOf ts =
      if !ts.isEmpty && areLiterals ts fun _ => true then .path
      else if (match ts.reverse with | .trailing :: r => areLiterals r fun _ => true | _ => false) then .front
      else if endsInExtension ts.reverse then .searchWithExtension else .search := by
    cases ts with
    | nil => rfl
    | cons t ts =>
      cases t with
      | leading => exact absurd List.mem_cons_self h
      | _ => rfl
  by_cases hpath : (!ts.isEmpty && areLiterals ts fun _ => true) = true
  · rw [if_pos hpath] at hform
    obtain ⟨hne, hliteral⟩ := Bool.and_eq_true_iff.mp hpath
    exact .inl ⟨hform, by simpa using hne, areLiterals_eq_true_iff.mp hliteral⟩
  · rw [if_neg hpath] at hform
    by_cases hfront : IsFront ts
    · rw [if_pos (isFront_iff.mpr hfront)] at hform
      exact .inr (.inl ⟨hform, hfront⟩)
    · rw [if_neg (mt isFront_iff.mp hfront)] at hform
      refine .inr (.inr ⟨?_, hfront, hform⟩)
      rw [Bool.and_eq_true_iff, areLiterals_eq_true_iff] at hpath
      by_contra hsearched
      obtain ⟨hne, hliteral⟩ := not_or.mp hsearched
      exact hpath ⟨by simpa using hne, not_not.mp hliteral⟩

/-- The last part of a path is looked at for pieces that are not all literals and end in an extension. -/
theorem looksAtName_formOf_iff (h : .leading ∉ ts) :
    (formOf ts).looksAtName = true ↔ ¬ AreLiteral ts ∧ endsInExtension ts.reverse = true := by
  rcases formOf_cases h with ⟨hform, -, hliteral⟩ | ⟨hform, us, rfl, -⟩ | ⟨hliteral, -, hform⟩
  · simp [hform, hliteral, Form.looksAtName]
  · simp [hform, Form.looksAtName, endsInExtension]
  · rw [hform]
    rcases hliteral with rfl | hliteral
    · simp [endsInExtension, Form.looksAtName]
    · split_ifs with hext <;> simp [hext, hliteral, Form.looksAtName]

/-- Whether sets search for globs of a form. -/
def Form.isSearched : Form → Bool
  | searchWithExtension | search => true
  | _ => false

theorem isSearched_formOf_iff (h : .leading ∉ ts) :
    (formOf ts).isSearched = true ↔ (ts = [] ∨ ¬ AreLiteral ts) ∧ ¬ IsFront ts := by
  rcases formOf_cases h with ⟨hform, hne, hliteral⟩ | ⟨hform, hfront⟩ | ⟨hliteral, hfront, hform⟩
  · simp [hform, hne, hliteral, Form.isSearched]
  · simp [hform, hfront, Form.isSearched]
  · rw [hform]
    split_ifs <;> simp [hliteral, hfront, Form.isSearched]

/-! ### Literals in front -/

theorem leading_notMem_append (h : .leading ∉ ts) : .leading ∉ d.map .literal ++ ts := by
  simp [h]

theorem looksAtName_formOf_append (h : .leading ∉ ts) :
    (formOf (d.map .literal ++ ts)).looksAtName = (formOf ts).looksAtName := by
  rw [Bool.eq_iff_iff, looksAtName_formOf_iff h, looksAtName_formOf_iff (leading_notMem_append h),
    areLiteral_append_iff]
  refine and_congr_right fun hliteral => ?_
  rw [List.reverse_append, endsInExtension_append _ _ (mt areLiteral_reverse_iff.mp hliteral)]

theorem isSearched_of_append (h : .leading ∉ ts) (hsearched : (formOf (d.map .literal ++ ts)).isSearched = true) :
    (formOf ts).isSearched = true := by
  obtain ⟨hliteral, hfront⟩ := (isSearched_formOf_iff (leading_notMem_append h)).mp hsearched
  refine (isSearched_formOf_iff h).mpr ⟨?_, ?_⟩
  · rcases hliteral with hnil | hliteral
    · exact .inl (List.append_eq_nil_iff.mp hnil).2
    · exact .inr (mt areLiteral_append_iff.mpr hliteral)
  · rintro ⟨us, rfl, hus⟩
    exact hfront ⟨d.map .literal ++ us, (List.append_assoc ..).symm, areLiteral_append_iff.mpr hus⟩

/-! ### Nesting -/

theorem depth_of_leading_notMem {p : String} (h : .leading ∉ ts) :
    depth ⟨p, ts⟩ = (branchItems ts).foldl max 0 + 1 := by
  unfold depth
  split
  case h_1 hts =>
    obtain rfl : ts = [.leading] := hts
    exact absurd List.mem_cons_self h
  case h_2 => rfl

theorem foldl_max_replicate (n : Nat) (ds : List Nat) : (List.replicate n 0 ++ ds).foldl max 0 = ds.foldl max 0 := by
  induction n with
  | zero => rfl
  | succ n ih => exact ih

/-- Literals do not nest. -/
theorem depth_append {p q : String} (h : .leading ∉ ts) : depth ⟨p, d.map .literal ++ ts⟩ = depth ⟨q, ts⟩ := by
  rw [depth_of_leading_notMem h, depth_of_leading_notMem (leading_notMem_append h)]
  have hitems : (branchItems (d.map .literal ++ ts)).foldl max 0 = (branchItems ts).foldl max 0 := by
    induction d with
    | nil => rfl
    | cons c d ih =>
      rw [List.map_cons, List.cons_append, branchItems, Token.items, foldl_max_replicate, ih]
  rw [hitems]

end LazyStyles.Glob
