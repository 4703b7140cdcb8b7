import LazyStyles.Proofs.Json.Strings

/-!
# Reading lists and values

How the reader of JSON goes through the items of an array or an object, and which texts it reads as null, as a string
or as an array of strings (`value_null_eq_ok_iff`, `value_string_eq_ok_iff`, `value_strings_eq_ok_iff`).  What is left
of a list after some items is by itself a list that is not at its first item any more, so each lemma about a list is
about what is left of one.
-/

namespace LazyStyles.Json

variable {g r s t w : List Char} {c : Char} {first : Bool}

theorem IsSeparator.append_isGap (hs : IsSeparator first s) (hg : IsGap g) : IsSeparator first (s ++ g) := by
  cases hs with
  | gap hs => exact .gap (hs.append hg)
  | comma hs ht =>
    rw [List.append_assoc, List.cons_append]
    exact .comma hs (ht.append hg)

theorem exists_cons_of_spellsString {k : String} (h : SpellsString w k) : ∃ u, w = '"' :: u := by
  cases h
  exact ⟨_, rfl⟩

/-- A value opens with a character that neither is white space nor closes a list. -/
theorem exists_cons_of_spells {v : Json} (h : Spells w v) : ∃ c t, w = c :: t ∧ isGap c = false ∧ c ≠ ']' := by
  cases h with
  | null => exact ⟨'n', _, rfl, by decide, by decide⟩
  | string h =>
    obtain ⟨u, rfl⟩ := exists_cons_of_spellsString h
    exact ⟨'"', u, rfl, by decide, by decide⟩
  | array h => exact ⟨'[', _, rfl, by decide, by decide⟩
  | object h => exact ⟨'\x7b', _, rfl, by decide, by decide⟩

/-- What stands in brackets, with what follows it. -/
theorem bracketed_append (o c : Char) (w r : List Char) : o :: (w ++ [c]) ++ r = o :: (w ++ c :: r) := by
  rw [List.cons_append, List.append_assoc, List.singleton_append]

namespace Reader

theorem word_eq_ok_iff : word w s = .ok r ↔ s = w ++ r := by
  induction w generalizing s with
  | nil => exact ⟨fun h => Except.ok.inj h, fun h => congrArg _ h⟩
  | cons c w ih =>
    cases s with
    | nil => exact iff_of_false nofun nofun
    | cons d s =>
      rw [word, List.cons_append, List.cons.injEq, ← ih]
      by_cases h : d = c
      · rw [if_pos (beq_iff_eq.mpr h), and_iff_right h]
      · rw [if_neg (by simpa using h)]
        exact iff_of_false nofun fun heq => h heq.1

/-! ### Arrays -/

theorem nextElement_end (hg : IsGap g) : nextElement first (g ++ ']' :: t) = .ok (false, ']' :: t) := by
  have hskip : skipGap (g ++ ']' :: t) = ']' :: t := skipGap_append_cons hg (by decide)
  simp only [nextElement, hskip]

/-- In front of an element the reader passes over the white space and the comma that belong there. -/
theorem nextElement_item (hg : IsSeparator first g) (hc : isGap c = false) (hne : c ≠ ']') :
    nextElement first (g ++ c :: t) = .ok (true, c :: t) := by
  cases hg with
  | gap hg =>
    have hskip : skipGap (g ++ c :: t) = c :: t := skipGap_append_cons hg hc
    simp [nextElement, hskip]
  | @comma g h hg hh =>
    have hcomma : skipGap (g ++ ',' :: (h ++ c :: t)) = ',' :: (h ++ c :: t) :=
      skipGap_append_cons hg (by decide)
    have hskip : skipGap (h ++ c :: t) = c :: t := skipGap_append_cons hh hc
    rw [List.append_assoc, List.cons_append]
    simp [nextElement, hcomma, hskip, hne]

theorem exists_of_nextElement_false (h : nextElement first s = .ok (false, r)) :
    ∃ g t, IsGap g ∧ r = ']' :: t ∧ s = g ++ r := by
  unfold nextElement at h
  dsimp only at h
  split at h
  case h_1 => exact absurd h nofun
  case h_2 t hs =>
    obtain ⟨-, rfl⟩ := Prod.mk.inj (Except.ok.inj h)
    obtain ⟨g, hg, hgap⟩ := exists_append_skipGap s
    exact ⟨g, t, hg, hs, hgap⟩
  case h_3 =>
    split_ifs at h
    · exact absurd h nofun
    · split at h
      all_goals exact absurd h nofun

theorem exists_of_nextElement_true (h : nextElement first s = .ok (true, r)) :
    ∃ g, IsSeparator first g ∧ s = g ++ r := by
  obtain ⟨g, hg, hs⟩ := exists_append_skipGap s
  unfold nextElement at h
  dsimp only at h
  split at h
  case h_1 => exact absurd h nofun
  case h_2 => exact absurd h nofun
  case h_3 c t _ hct =>
    split_ifs at h with hfirst hcomma
    · obtain ⟨-, rfl⟩ := Prod.mk.inj (Except.ok.inj h)
      exact ⟨g, hfirst ▸ .gap hg, hs⟩
    · split at h
      case h_1 => exact absurd h nofun
      case h_2 => exact absurd h nofun
      case h_3 =>
        obtain ⟨-, rfl⟩ := Prod.mk.inj (Except.ok.inj h)
        obtain ⟨h', hh, ht⟩ := exists_append_skipGap t
        refine ⟨g ++ ',' :: h', Bool.eq_false_iff.mpr hfirst ▸ .comma hg hh, ?_⟩
        rw [List.append_assoc, List.cons_append, ← ht, ← beq_iff_eq.mp hcomma, ← hct]
        exact hs

theorem endArray_eq_ok_iff : endArray s = .ok r ↔ ∃ g, IsGap g ∧ s = g ++ ']' :: r := by
  have hclose : endArray s = .ok r ↔ skipGap s = ']' :: r := by
    unfold endArray
    dsimp only
    split
    case h_1 hs => simp [hs]
    case h_2 r' hs => simp [hs]
    case h_3 t hs =>
      refine iff_of_false (fun h => ?_) (fun h => ?_)
      · split at h
        all_goals exact absurd h nofun
      · rw [hs] at h
        exact absurd (List.cons.inj h).1 (by decide)
    case h_4 hne _ => exact iff_of_false nofun fun h => hne r h
  rw [hclose, skipGap_eq_cons_iff]
  exact and_iff_right (by decide)

theorem endArray_cons : endArray (']' :: t) = .ok t :=
  endArray_eq_ok_iff.mpr ⟨[], isGap_nil, rfl⟩

/-! ### Objects -/

theorem nextMember_end (hg : IsGap g) : nextMember first (g ++ '\x7d' :: t) = .ok (false, '\x7d' :: t) := by
  have hskip : skipGap (g ++ '\x7d' :: t) = '\x7d' :: t := skipGap_append_cons hg (by decide)
  simp only [nextMember, hskip]

theorem nextMember_item (hg : IsSeparator first g) : nextMember first (g ++ '"' :: t) = .ok (true, t) := by
  cases hg with
  | gap hg =>
    have hskip : skipGap (g ++ '"' :: t) = '"' :: t := skipGap_append_cons hg (by decide)
    simp [nextMember, hskip]
  | @comma g h hg hh =>
    have hcomma : skipGap (g ++ ',' :: (h ++ '"' :: t)) = ',' :: (h ++ '"' :: t) :=
      skipGap_append_cons hg (by decide)
    have hskip : skipGap (h ++ '"' :: t) = '"' :: t := skipGap_append_cons hh (by decide)
    rw [List.append_assoc, List.cons_append]
    simp [nextMember, hcomma, hskip]

theorem exists_of_nextMember_false (h : nextMember first s = .ok (false, r)) :
    ∃ g t, IsGap g ∧ r = '\x7d' :: t ∧ s = g ++ r := by
  unfold nextMember at h
  dsimp only at h
  split at h
  case h_1 => exact absurd h nofun
  case h_2 t hs =>
    obtain ⟨-, rfl⟩ := Prod.mk.inj (Except.ok.inj h)
    obtain ⟨g, hg, hgap⟩ := exists_append_skipGap s
    exact ⟨g, t, hg, hs, hgap⟩
  case h_3 =>
    split_ifs at h
    · exact absurd h nofun
    · split at h
      all_goals exact absurd h nofun

theorem exists_of_nextMember_true (h : nextMember first s = .ok (true, r)) :
    ∃ g, IsSeparator first g ∧ s = g ++ '"' :: r := by
  obtain ⟨g, hg, hs⟩ := exists_append_skipGap s
  unfold nextMember at h
  dsimp only at h
  split at h
  case h_1 => exact absurd h nofun
  case h_2 => exact absurd h nofun
  case h_3 c t _ hct =>
    split_ifs at h with hfirst hquote hcomma
    · obtain ⟨-, rfl⟩ := Prod.mk.inj (Except.ok.inj h)
      refine ⟨g, hfirst ▸ .gap hg, ?_⟩
      rw [← beq_iff_eq.mp hquote, ← hct]
      exact hs
    · split at h
      case h_2 r' hquote =>
        obtain ⟨-, rfl⟩ := Prod.mk.inj (Except.ok.inj h)
        obtain ⟨-, h', hh, ht⟩ := skipGap_eq_cons_iff.mp hquote
        refine ⟨g ++ ',' :: h', Bool.eq_false_iff.mpr hfirst ▸ .comma hg hh, ?_⟩
        rw [List.append_assoc, List.cons_append, ← ht, ← beq_iff_eq.mp hcomma, ← hct]
        exact hs
      all_goals exact absurd h nofun

/-! ### Numbers -/

/-- Whether a value is a number. -/
def IsNumber : Json → Prop
  | .integer _ | .float _ _ => True
  | _ => False

variable {negative : Bool} {m : Nat} {e : Int} {v : Json}

theorem isNumber_of_scaled (h : scaled negative m e s = .ok (v, r)) : IsNumber v := by
  unfold scaled at h
  split at h
  · obtain ⟨rfl, -⟩ := Prod.mk.inj (Except.ok.inj h)
    trivial
  · exact absurd h nofun

theorem isNumber_of_exponent (h : exponent negative m e s = .ok (v, r)) : IsNumber v := by
  unfold exponent at h
  dsimp only at h
  split at h
  case h_1 => exact absurd h nofun
  case h_2 =>
    split at h
    case h_1 => exact absurd h nofun
    case h_2 =>
      split at h
      case h_1 =>
        split_ifs at h
        · obtain ⟨rfl, -⟩ := Prod.mk.inj (Except.ok.inj h)
          trivial
        · exact isNumber_of_scaled h
        · exact isNumber_of_scaled h
      case h_2 => exact isNumber_of_scaled h

theorem isNumber_of_exponent? (h : exponent? negative m e s = .ok (v, r)) : IsNumber v := by
  unfold exponent? at h
  split at h
  case h_1 => exact isNumber_of_exponent h
  case h_2 => exact isNumber_of_exponent h
  case h_3 => exact isNumber_of_scaled h

theorem isNumber_of_fraction (h : fraction negative m e s = .ok (v, r)) : IsNumber v := by
  unfold fraction at h
  dsimp only at h
  split at h
  all_goals
    split_ifs at h
    all_goals exact isNumber_of_exponent? h

theorem isNumber_of_afterInteger (h : afterInteger negative m s = .ok (v, r)) : IsNumber v := by
  unfold afterInteger at h
  split at h
  case h_1 => exact isNumber_of_fraction h
  case h_2 => exact isNumber_of_exponent h
  case h_3 => exact isNumber_of_exponent h
  case h_4 =>
    split_ifs at h
    all_goals
      obtain ⟨rfl, -⟩ := Prod.mk.inj (Except.ok.inj h)
      trivial

theorem isNumber_of_number (h : number negative s = .ok (v, r)) : IsNumber v := by
  unfold number at h
  split at h
  case h_1 => exact absurd h nofun
  case h_2 =>
    split at h
    · split_ifs at h
      exact isNumber_of_afterInteger h
    · exact isNumber_of_afterInteger h
  case h_3 =>
    split at h
    · exact absurd h nofun
    · dsimp only at h
      split at h
      · split_ifs at h
        · split at h
          · exact isNumber_of_fraction h
          · exact isNumber_of_exponent? h
        · exact isNumber_of_afterInteger h
      · exact isNumber_of_afterInteger h

end Reader

/-! ### Values -/

open Reader

/-- What a value of one of the kinds that stand in a config takes off the front of a text that does not open with
white space. -/
def Takes (fuel depth : Nat) (t r : List Char) : Json → Prop
  | .null => t = "null".toList ++ r
  | .string k => ∃ w, SpellsString w k ∧ t = w ++ r
  | .array xs => ∃ u q, t = '[' :: u ∧ elements fuel (depth - 1) true u = .ok (xs, q) ∧ endArray q = .ok r
  | _ => True

variable {fuel depth : Nat} {k : String}

theorem takes_of_isNumber {v : Json} (h : IsNumber v) : Takes fuel depth t r v := by
  cases v with
  | integer | float => trivial
  | _ => exact h.elim

theorem exists_of_value {v : Json} (h : value (fuel + 1) depth s = .ok (v, r)) :
    ∃ g t, IsGap g ∧ s = g ++ t ∧ Takes fuel depth t r v := by
  obtain ⟨g, hg, hs⟩ := exists_append_skipGap s
  refine ⟨g, skipGap s, hg, hs, ?_⟩
  unfold value at h
  dsimp only at h
  split at h
  case h_1 => exact absurd h nofun
  case h_2 ht =>
    obtain ⟨r', hword, hv⟩ := map_eq_ok_iff.mp h
    obtain ⟨rfl, rfl⟩ := Prod.mk.inj hv
    rw [ht, word_eq_ok_iff.mp hword]
    rfl
  case h_3 | h_4 =>
    obtain ⟨r', -, hv⟩ := map_eq_ok_iff.mp h
    obtain ⟨rfl, -⟩ := Prod.mk.inj hv
    trivial
  case h_5 => exact takes_of_isNumber (isNumber_of_number h)
  case h_6 ht =>
    obtain ⟨⟨k, r'⟩, hquoted, hv⟩ := map_eq_ok_iff.mp h
    obtain ⟨rfl, rfl⟩ := Prod.mk.inj hv
    obtain ⟨w, hw, rfl⟩ := quoted_eq_ok_iff.mp hquoted
    exact ⟨'"' :: w, hw, ht⟩
  case h_7 u ht =>
    split_ifs at h
    obtain ⟨⟨xs, q⟩, hxs, h⟩ := bind_eq_ok_iff.mp h
    obtain ⟨r', hr, hv⟩ := bind_eq_ok_iff.mp h
    obtain ⟨rfl, rfl⟩ := Prod.mk.inj (Except.ok.inj hv)
    exact ⟨u, q, ht, hxs, hr⟩
  case h_8 =>
    split_ifs at h
    obtain ⟨⟨ms, q⟩, -, hv⟩ := bind_eq_ok_iff.mp h
    obtain ⟨rfl, -⟩ := Prod.mk.inj (Except.ok.inj hv)
    trivial
  case h_9 =>
    split_ifs at h
    exact takes_of_isNumber (isNumber_of_number h)

theorem value_null_eq_ok_iff :
    value (fuel + 1) depth s = .ok (.null, r) ↔ ∃ g, IsGap g ∧ s = g ++ ("null".toList ++ r) := by
  constructor
  · intro h
    obtain ⟨g, t, hg, rfl, rfl⟩ := exists_of_value h
    exact ⟨g, hg, rfl⟩
  · rintro ⟨g, hg, rfl⟩
    have hskip : skipGap (g ++ ("null".toList ++ r)) = 'n' :: ("ull".toList ++ r) :=
      skipGap_append_cons hg (by decide)
    simp only [value, hskip, word_eq_ok_iff.mpr rfl]
    rfl

theorem value_string_eq_ok_iff :
    value (fuel + 1) depth s = .ok (.string k, r) ↔ ∃ g w, IsGap g ∧ SpellsString w k ∧ s = g ++ (w ++ r) := by
  constructor
  · intro h
    obtain ⟨g, t, hg, rfl, w, hw, rfl⟩ := exists_of_value h
    exact ⟨g, w, hg, hw, rfl⟩
  · rintro ⟨g, w, hg, hw, rfl⟩
    obtain ⟨u, rfl⟩ := exists_cons_of_spellsString hw
    have hskip : skipGap (g ++ ('"' :: u ++ r)) = '"' :: (u ++ r) := skipGap_append_cons hg (by decide)
    simp only [value, hskip, quoted_eq_ok_iff.mpr ⟨u, hw, rfl⟩]
    rfl

-- The induction is on the fuel, as the reader's recursion is.
/-- What the reader takes off a text as strings are strings, up to a bracket. -/
theorem exists_of_elements_strings {ks : List String} (h : elements fuel depth first s = .ok (ks.map Json.string, r)) :
    ∃ w t, SpellsItems SpellsString first w ks ∧ r = ']' :: t ∧ s = w ++ r := by
  induction fuel generalizing first s ks with
  | zero => exact absurd h nofun
  | succ fuel ih =>
    unfold elements at h
    obtain ⟨⟨more, s'⟩, hnext, h⟩ := bind_eq_ok_iff.mp h
    cases more with
    | false =>
      obtain ⟨hks, rfl⟩ := Prod.mk.inj (Except.ok.inj h)
      obtain rfl := List.map_eq_nil_iff.mp hks.symm
      obtain ⟨g, t, hg, hr, hs⟩ := exists_of_nextElement_false hnext
      exact ⟨g, t, .nil hg, hr, hs⟩
    | true =>
      obtain ⟨⟨x, s''⟩, hx, h⟩ := bind_eq_ok_iff.mp h
      obtain ⟨⟨xs, r'⟩, hxs, h⟩ := bind_eq_ok_iff.mp h
      obtain ⟨hks, rfl⟩ := Prod.mk.inj (Except.ok.inj h)
      obtain ⟨k, ks, rfl, rfl, rfl⟩ := List.map_eq_cons_iff.mp hks.symm
      obtain ⟨g, hg, rfl⟩ := exists_of_nextElement_true hnext
      -- Without fuel no value is read, so there is some left.
      obtain ⟨fuel, rfl⟩ : ∃ n, fuel = n + 1 := by
        refine Nat.exists_eq_succ_of_ne_zero fun h => ?_
        subst h
        exact absurd hx nofun
      obtain ⟨g', w, hg', hw, rfl⟩ := value_string_eq_ok_iff.mp hx
      obtain ⟨w', t, hks', hr, rfl⟩ := ih hxs
      -- The reader of a value passes over white space that the grammar has in front of the comma or behind it.
      refine ⟨g ++ g' ++ (w ++ w'), t, .cons (hg.append_isGap hg') hw hks', hr, ?_⟩
      simp only [List.append_assoc]

-- The induction is on the strings.  Each is at least its quotes, so the text is shorter behind it.
/-- The reader gets through strings up to the bracket behind them. -/
theorem elements_strings_of_spells {ks : List String} (hks : SpellsItems SpellsString first w ks)
    (hfuel : (w ++ ']' :: t).length < fuel) :
    elements fuel depth first (w ++ ']' :: t) = .ok (ks.map Json.string, ']' :: t) := by
  induction hks generalizing fuel with
  | nil hg =>
    obtain ⟨fuel, rfl⟩ := Nat.exists_eq_add_one.mpr (Nat.zero_lt_of_lt hfuel)
    rw [elements, nextElement_end hg]
    rfl
  | @cons first g _ u k ks hg hk _ ih =>
    obtain ⟨v, rfl⟩ := exists_cons_of_spellsString hk
    -- One more is there for the value of the string.
    obtain ⟨fuel, rfl⟩ : ∃ n, fuel = n + 2 := by
      refine Nat.exists_eq_add_of_le' ?_
      simp only [List.length_append, List.length_cons] at hfuel
      omega
    have hnext := nextElement_item (t := v ++ (u ++ ']' :: t)) hg (c := '"') (by decide) (by decide)
    have hvalue : value (fuel + 1) depth ('"' :: (v ++ (u ++ ']' :: t))) = .ok (.string k, u ++ ']' :: t) :=
      value_string_eq_ok_iff.mpr ⟨[], _, isGap_nil, hk, rfl⟩
    have hrest : elements (fuel + 1) depth false (u ++ ']' :: t) = .ok (ks.map Json.string, ']' :: t) := by
      refine ih ?_
      simp only [List.length_append, List.length_cons] at hfuel ⊢
      omega
    have heq : g ++ ('"' :: v ++ u) ++ ']' :: t = g ++ '"' :: (v ++ (u ++ ']' :: t)) := by
      simp only [List.append_assoc, List.cons_append]
    rw [heq, elements]
    exact bind_eq_ok_iff.mpr ⟨_, hnext, bind_eq_ok_iff.mpr ⟨_, hvalue, bind_eq_ok_iff.mpr ⟨_, hrest, rfl⟩⟩⟩

theorem value_strings_eq_ok_iff {ks : List String} (hfuel : s.length < fuel + 1) (hdepth : depth ≠ 0) :
    value (fuel + 1) depth s = .ok (.array (ks.map Json.string), r) ↔
      ∃ g w, IsGap g ∧ SpellsItems SpellsString true w ks ∧ s = g ++ '[' :: (w ++ ']' :: r) := by
  constructor
  · intro h
    obtain ⟨g, t, hg, rfl, u, q, rfl, hks, hend⟩ := exists_of_value h
    obtain ⟨w, t, hw, rfl, rfl⟩ := exists_of_elements_strings hks
    rw [endArray_cons] at hend
    obtain rfl := Except.ok.inj hend
    exact ⟨g, w, hg, hw, rfl⟩
  · rintro ⟨g, w, hg, hw, rfl⟩
    have hskip : skipGap (g ++ '[' :: (w ++ ']' :: r)) = '[' :: (w ++ ']' :: r) :=
      skipGap_append_cons hg (by decide)
    have helements : elements fuel (depth - 1) true (w ++ ']' :: r) = .ok (ks.map Json.string, ']' :: r) := by
      refine elements_strings_of_spells hw ?_
      rw [List.length_append, List.length_cons] at hfuel
      omega
    simp only [value, hskip, if_neg hdepth]
    exact bind_eq_ok_iff.mpr ⟨_, helements, bind_eq_ok_iff.mpr ⟨_, endArray_cons, rfl⟩⟩

end LazyStyles.Json
