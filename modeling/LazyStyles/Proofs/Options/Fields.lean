import LazyStyles.Proofs.Json.Values
import LazyStyles.Proofs.Options.Grammar

/-!
# Reading the fields of a config

The reader of a pattern list and that of a directory are treated alike: each takes a value off the front of a text and
makes of it what a relation says (`ReadsAs`).  From there the members that are read off an object fill the fields as the
grammar has it, and all members that may fill them are read (`exists_of_readFields`, `readFields_of_spells`); and so
for the elements of an array (`exists_of_readElements`, `readElements_of_spells`).
-/

namespace LazyStyles.Options

open Json (IsGap IsSeparator Spells SpellsItems SpellsMember SpellsString skipGap)
open Json.Reader

variable {α : Type} {R : Json → α → Prop}

/-! ### Values of fields -/

/-- What a reader of a value makes of it. -/
def ReadsAs (read : List Char → Step (α × List Char)) (R : Json → α → Prop) : Prop :=
  ∀ {s x r}, read s = .ok (x, r) ↔ ∃ g w v, IsGap g ∧ Spells w v ∧ R v x ∧ s = g ++ (w ++ r)

theorem ofJson_eq_ok_iff {x : Except Json.Halt α} {a : α} : ofJson x = .ok a ↔ x = .ok a :=
  mapError_eq_ok_iff

theorem strings?_eq_some_iff {xs : List Json} {ks : List String} : strings? xs = some ks ↔ xs = ks.map Json.string := by
  constructor
  · intro h
    induction xs generalizing ks with
    | nil =>
      obtain rfl := Option.some.inj h
      rfl
    | cons x xs ih =>
      unfold strings? at h
      split at h
      case h_1 hx => cases hx
      case h_2 k _ heq =>
        obtain ⟨rfl, rfl⟩ := List.cons.inj heq
        obtain ⟨ks, hks, rfl⟩ := Option.map_eq_some_iff.mp h
        rw [ih hks, List.map_cons]
      case h_3 => cases h
  · rintro rfl
    induction ks with
    | nil => rfl
    | cons k ks ih => rw [List.map_cons, strings?, ih, Option.map_some]

theorem patterns?_eq_some_iff {v : Json} {ps : List String} : patterns? v = some ps ↔ IsPatterns v ps := by
  constructor
  · intro h
    unfold patterns? at h
    split at h
    case h_1 =>
      obtain rfl := Option.some.inj h
      exact .null
    case h_2 p =>
      obtain rfl := Option.some.inj h
      exact .string p
    case h_3 =>
      obtain rfl := strings?_eq_some_iff.mp h
      exact .array ps
    case h_4 => cases h
  · rintro (_ | p | ps)
    · rfl
    · rfl
    · exact strings?_eq_some_iff.mpr rfl

theorem spellsItems_map_string_iff {first : Bool} {w : List Char} {ks : List String} :
    SpellsItems Spells first w (ks.map Json.string) ↔ SpellsItems SpellsString first w ks := by
  constructor
  · intro h
    generalize hxs : ks.map Json.string = xs at h
    induction h generalizing ks with
    | nil hg =>
      obtain rfl := List.map_eq_nil_iff.mp hxs
      exact .nil hg
    | cons hg hx _ ih =>
      obtain ⟨k, ks, rfl, rfl, hks⟩ := List.map_eq_cons_iff.mp hxs
      cases hx with
      | string hk => exact .cons hg hk (ih hks)
  · intro h
    induction h with
    | nil hg => exact .nil hg
    | cons hg hk _ ih => exact .cons hg (.string hk) ih

/-- A value that stands for patterns is read as the grammar has it. -/
theorem jsonValue_eq_ok_iff {s r : List Char} {v : Json} {ps : List String} (hv : IsPatterns v ps) :
    jsonValue s = .ok (v, r) ↔ ∃ g w, IsGap g ∧ Spells w v ∧ s = g ++ (w ++ r) := by
  rw [jsonValue, ofJson_eq_ok_iff]
  cases hv with
  | null =>
    rw [Json.value_null_eq_ok_iff]
    constructor
    · rintro ⟨g, hg, rfl⟩
      exact ⟨g, _, hg, .null, rfl⟩
    · rintro ⟨g, w, hg, hw, rfl⟩
      cases hw
      exact ⟨g, hg, rfl⟩
  | string p =>
    rw [Json.value_string_eq_ok_iff]
    constructor
    · rintro ⟨g, w, hg, hw, rfl⟩
      exact ⟨g, w, hg, .string hw, rfl⟩
    · rintro ⟨g, w, hg, hw, rfl⟩
      cases hw with
      | string hw => exact ⟨g, w, hg, hw, rfl⟩
  | array =>
    rw [Json.value_strings_eq_ok_iff (by omega) (by decide)]
    constructor
    · rintro ⟨g, w, hg, hw, rfl⟩
      refine ⟨g, _, hg, .array (spellsItems_map_string_iff.mpr hw), ?_⟩
      rw [Json.bracketed_append]
    · rintro ⟨g, w, hg, hw, rfl⟩
      cases hw with
      | @array w _ hw =>
        refine ⟨g, w, hg, spellsItems_map_string_iff.mp hw, ?_⟩
        rw [Json.bracketed_append]

theorem readPatterns_readsAs : ReadsAs readPatterns IsPatterns := by
  intro s ps r
  constructor
  · intro h
    obtain ⟨⟨v, r'⟩, hv, h⟩ := bind_eq_ok_iff.mp h
    dsimp only at h
    split at h
    case h_1 ps' hps =>
      obtain ⟨rfl, rfl⟩ := Prod.mk.inj (Except.ok.inj h)
      obtain ⟨g, w, hg, hw, rfl⟩ := (jsonValue_eq_ok_iff (patterns?_eq_some_iff.mp hps)).mp hv
      exact ⟨g, w, v, hg, hw, patterns?_eq_some_iff.mp hps, rfl⟩
    case h_2 => exact absurd h nofun
  · rintro ⟨g, w, v, hg, hw, hps, rfl⟩
    refine bind_eq_ok_iff.mpr ⟨_, (jsonValue_eq_ok_iff hps).mpr ⟨g, w, hg, hw, rfl⟩, ?_⟩
    dsimp only
    rw [patterns?_eq_some_iff.mpr hps]
    rfl

theorem wrongType_ne_ok {expected : String} {s : List Char} {a : α} : wrongType expected s ≠ .ok a := by
  intro h
  unfold wrongType at h
  split at h
  case h_1 => exact absurd h nofun
  case h_2 => exact absurd h nofun
  case h_3 =>
    obtain ⟨⟨v, r⟩, -, h⟩ := bind_eq_ok_iff.mp h
    exact absurd h nofun

theorem readDirectory_readsAs : ReadsAs readDirectory IsDirectory := by
  intro s d r
  constructor
  · intro h
    obtain ⟨g, hg, hs⟩ := Json.exists_append_skipGap s
    unfold readDirectory at h
    dsimp only at h
    split at h
    case h_1 => exact absurd h nofun
    case h_2 t ht =>
      obtain ⟨r', hword, hd⟩ := map_eq_ok_iff.mp h
      rw [ofJson_eq_ok_iff, word_eq_ok_iff] at hword
      obtain ⟨rfl, rfl⟩ := Prod.mk.inj hd
      refine ⟨g, "null".toList, .null, hg, .null, .null, ?_⟩
      rw [hs, ht, hword]
      rfl
    case h_3 t ht =>
      obtain ⟨⟨k, r'⟩, hquoted, hd⟩ := map_eq_ok_iff.mp h
      rw [ofJson_eq_ok_iff, quoted_eq_ok_iff] at hquoted
      obtain ⟨rfl, rfl⟩ := Prod.mk.inj hd
      obtain ⟨w, hw, hquoted⟩ := hquoted
      refine ⟨g, '"' :: w, .string k, hg, .string hw, .string k, ?_⟩
      rw [hs, ht, hquoted]
      rfl
    case h_4 => exact absurd h wrongType_ne_ok
  · rintro ⟨g, w, v, hg, hw, hd, rfl⟩
    cases hd with
    | null =>
      cases hw
      have hskip : skipGap (g ++ ("null".toList ++ r)) = 'n' :: ("ull".toList ++ r) :=
        Json.skipGap_append_cons hg (by decide)
      simp only [readDirectory, hskip]
      exact map_eq_ok_iff.mpr ⟨_, ofJson_eq_ok_iff.mpr (word_eq_ok_iff.mpr rfl), rfl⟩
    | string k =>
      cases hw with
      | string hw =>
        obtain ⟨u, rfl⟩ := Json.exists_cons_of_spellsString hw
        have hskip : skipGap (g ++ ('"' :: u ++ r)) = '"' :: (u ++ r) :=
          Json.skipGap_append_cons hg (by decide)
        simp only [readDirectory, hskip]
        exact map_eq_ok_iff.mpr ⟨_, ofJson_eq_ok_iff.mpr (quoted_eq_ok_iff.mpr ⟨u, hw, rfl⟩), rfl⟩

/-! ### Objects -/

/-- What a reader of one field makes of the text after the name. -/
theorem field_eq_ok_iff {read : List Char → Step (α × List Char)} (hread : ReadsAs read R) (x? : Option α)
    (set : α → Partial) {stop : Stop} {q : Partial} {s r : List Char} :
    (do
      if x?.isSome then throw stop
      let (x, r) ← read (← ofJson (colon s))
      return (set x, r) : Step (Partial × List Char)) = .ok (q, r) ↔
      ∃ g h w v, IsGap g ∧ IsGap h ∧ Spells w v ∧ (x? = none ∧ ∃ x, R v x ∧ q = set x) ∧
        s = g ++ ':' :: (h ++ (w ++ r)) := by
  cases x? with
  | some x => exact iff_of_false nofun fun ⟨_, _, _, _, _, _, _, ⟨h, _⟩, _⟩ => nomatch h
  | none =>
    constructor
    · intro h
      obtain ⟨s', hcolon, h⟩ := bind_eq_ok_iff.mp h
      obtain ⟨⟨x, r'⟩, hx, h⟩ := bind_eq_ok_iff.mp h
      obtain ⟨rfl, rfl⟩ := Prod.mk.inj (Except.ok.inj h)
      rw [ofJson_eq_ok_iff, colon_eq_ok_iff] at hcolon
      obtain ⟨g, hg, rfl⟩ := hcolon
      obtain ⟨g', w, v, hg', hw, hv, rfl⟩ := hread.mp hx
      exact ⟨g, g', w, v, hg, hg', hw, ⟨rfl, x, hv, rfl⟩, rfl⟩
    · rintro ⟨g, g', w, v, hg, hg', hw, ⟨-, x, hv, rfl⟩, rfl⟩
      have hcolon : ofJson (colon (g ++ ':' :: (g' ++ (w ++ r)))) = .ok (g' ++ (w ++ r)) :=
        ofJson_eq_ok_iff.mpr (colon_eq_ok_iff.mpr ⟨g, hg, rfl⟩)
      have hx : read (g' ++ (w ++ r)) = .ok (x, r) := hread.mpr ⟨g', w, v, hg', hw, hv, rfl⟩
      exact bind_eq_ok_iff.mpr ⟨_, hcolon, bind_eq_ok_iff.mpr ⟨_, hx, rfl⟩⟩

theorem readField_eq_ok_iff {p q : Partial} {k : String} {s r : List Char} :
    readField p k s = .ok (q, r) ↔
      ∃ g h w v, IsGap g ∧ IsGap h ∧ Spells w v ∧ Sets p k v q ∧ s = g ++ ':' :: (h ++ (w ++ r)) := by
  unfold readField
  split
  case h_1 => exact field_eq_ok_iff readPatterns_readsAs p.included? fun ps => { p with included? := some ps }
  case h_2 => exact field_eq_ok_iff readPatterns_readsAs p.excluded? fun ps => { p with excluded? := some ps }
  case h_3 => exact field_eq_ok_iff readDirectory_readsAs p.cwd? fun d => { p with cwd? := some d }
  case h_4 hi he hc =>
    refine iff_of_false nofun ?_
    rintro ⟨g, h, w, v, hg, hh, hw, hset, rfl⟩
    unfold Sets at hset
    split at hset
    case h_1 => exact hi rfl
    case h_2 => exact he rfl
    case h_3 => exact hc rfl
    case h_4 => exact hset

-- The induction is on the fuel, as the reader's recursion is.
/-- What the reader takes off a text are members and the brace behind them. -/
theorem exists_of_readFields {fuel : Nat} {first : Bool} {p q : Partial} {s r : List Char}
    (h : readFields fuel first p s = .ok (q, r)) :
    ∃ ms w, SpellsItems SpellsMember first w ms ∧ Extends p ms q ∧ s = w ++ '\x7d' :: r := by
  induction fuel generalizing first p s with
  | zero => exact absurd h nofun
  | succ fuel ih =>
    unfold readFields at h
    obtain ⟨⟨more, s'⟩, hnext, h⟩ := bind_eq_ok_iff.mp h
    rw [ofJson_eq_ok_iff] at hnext
    cases more with
    | false =>
      obtain ⟨rfl, rfl⟩ := Prod.mk.inj (Except.ok.inj h)
      obtain ⟨g, t, hg, rfl, rfl⟩ := exists_of_nextMember_false hnext
      exact ⟨[], g, .nil hg, extends_nil_iff.mpr rfl, rfl⟩
    | true =>
      obtain ⟨⟨k, s₁⟩, hk, h⟩ := bind_eq_ok_iff.mp h
      obtain ⟨⟨p', s₂⟩, hfield, hrest⟩ := bind_eq_ok_iff.mp h
      rw [ofJson_eq_ok_iff, quoted_eq_ok_iff] at hk
      obtain ⟨g, hg, rfl⟩ := exists_of_nextMember_true hnext
      obtain ⟨u, hu, rfl⟩ := hk
      obtain ⟨g', h, w, v, hg', hh, hw, hset, rfl⟩ := readField_eq_ok_iff.mp hfield
      obtain ⟨ms, w', hms, hext, rfl⟩ := ih hrest
      refine ⟨(k, v) :: ms, _, .cons hg (.mk hu hg' hh hw) hms, extends_cons_iff.mpr ⟨p', hset, hext⟩, ?_⟩
      simp only [List.append_assoc, List.cons_append]

-- The induction is on the members.  Each is at least the quotes of its name, so the text is shorter behind it.
/-- The reader gets through members that may fill the fields one after another. -/
theorem readFields_of_spells {fuel : Nat} {first : Bool} {p q : Partial} {w r : List Char}
    {ms : List (String × Json)} (hms : SpellsItems SpellsMember first w ms) (hext : Extends p ms q)
    (hfuel : (w ++ '\x7d' :: r).length < fuel) : readFields fuel first p (w ++ '\x7d' :: r) = .ok (q, r) := by
  induction hms generalizing fuel p with
  | nil hg =>
    obtain ⟨fuel, rfl⟩ := Nat.exists_eq_add_one.mpr (Nat.zero_lt_of_lt hfuel)
    obtain rfl := extends_nil_iff.mp hext
    rw [readFields, nextMember_end hg]
    rfl
  | @cons first g _ u _ ms hg hm _ ih =>
    obtain ⟨fuel, rfl⟩ := Nat.exists_eq_add_one.mpr (Nat.zero_lt_of_lt hfuel)
    cases hm with
    | @mk k g' h w key v hk hg' hh hw =>
      obtain ⟨p', hset, hext⟩ := extends_cons_iff.mp hext
      obtain ⟨k, rfl⟩ := Json.exists_cons_of_spellsString hk
      have hnext := nextMember_item (t := k ++ (g' ++ ':' :: (h ++ (w ++ (u ++ '\x7d' :: r))))) hg
      have hquoted : quoted (k ++ (g' ++ ':' :: (h ++ (w ++ (u ++ '\x7d' :: r))))) = .ok (key, _) :=
        quoted_eq_ok_iff.mpr ⟨k, hk, rfl⟩
      have hfield : readField p key (g' ++ ':' :: (h ++ (w ++ (u ++ '\x7d' :: r)))) = .ok (p', _) :=
        readField_eq_ok_iff.mpr ⟨g', h, w, v, hg', hh, hw, hset, rfl⟩
      have hrest : readFields fuel false p' (u ++ '\x7d' :: r) = .ok (q, r) := by
        refine ih hext ?_
        simp only [List.length_append, List.length_cons] at hfuel ⊢
        omega
      have heq : g ++ ('"' :: k ++ (g' ++ ':' :: (h ++ w)) ++ u) ++ '\x7d' :: r =
          g ++ '"' :: (k ++ (g' ++ ':' :: (h ++ (w ++ (u ++ '\x7d' :: r))))) := by
        simp only [List.append_assoc, List.cons_append]
      rw [heq, readFields]
      exact bind_eq_ok_iff.mpr ⟨_, ofJson_eq_ok_iff.mpr hnext, bind_eq_ok_iff.mpr
        ⟨_, ofJson_eq_ok_iff.mpr hquoted, bind_eq_ok_iff.mpr ⟨_, hfield, hrest⟩⟩⟩

/-! ### Arrays -/

variable {read : List Char → Step (α × List Char)} {first : Bool} {s r t : List Char}

theorem exists_of_readElement_none (h : readElement first read s = .ok (none, r)) :
    ∃ g t, IsGap g ∧ r = ']' :: t ∧ s = g ++ r := by
  obtain ⟨⟨more, s'⟩, hnext, h⟩ := bind_eq_ok_iff.mp h
  rw [ofJson_eq_ok_iff] at hnext
  cases more with
  | false =>
    obtain ⟨-, rfl⟩ := Prod.mk.inj (Except.ok.inj h)
    exact exists_of_nextElement_false hnext
  | true =>
    obtain ⟨⟨x, r'⟩, -, hx⟩ := map_eq_ok_iff.mp h
    exact absurd (Prod.mk.inj hx).1 nofun

theorem readElement_end {g : List Char} (hg : IsGap g) :
    readElement first read (g ++ ']' :: t) = .ok (none, ']' :: t) :=
  bind_eq_ok_iff.mpr ⟨_, ofJson_eq_ok_iff.mpr (nextElement_end hg), rfl⟩

theorem exists_of_readElement_some (hread : ReadsAs read R) {x : α} (h : readElement first read s = .ok (some x, r)) :
    ∃ g w v, IsSeparator first g ∧ Spells w v ∧ R v x ∧ s = g ++ (w ++ r) := by
  obtain ⟨⟨more, s'⟩, hnext, h⟩ := bind_eq_ok_iff.mp h
  rw [ofJson_eq_ok_iff] at hnext
  cases more with
  | false => exact absurd (Prod.mk.inj (Except.ok.inj h)).1 nofun
  | true =>
    obtain ⟨⟨y, r'⟩, hy, hx⟩ := map_eq_ok_iff.mp h
    obtain ⟨⟨⟩, rfl⟩ := Prod.mk.inj hx
    obtain ⟨g, hg, rfl⟩ := exists_of_nextElement_true hnext
    obtain ⟨g', w, v, hg', hw, hv, rfl⟩ := hread.mp hy
    exact ⟨g ++ g', w, v, hg.append_isGap hg', hw, hv, (List.append_assoc _ _ _).symm⟩

theorem readElement_item (hread : ReadsAs read R) {g w : List Char} {v : Json} {x : α} (hg : IsSeparator first g)
    (hw : Spells w v) (hv : R v x) : readElement first read (g ++ (w ++ r)) = .ok (some x, r) := by
  have hx : read (w ++ r) = .ok (x, r) := hread.mpr ⟨[], w, v, Json.isGap_nil, hw, hv, rfl⟩
  obtain ⟨c, t, rfl, hc, hne⟩ := Json.exists_cons_of_spells hw
  exact bind_eq_ok_iff.mpr ⟨_, ofJson_eq_ok_iff.mpr (nextElement_item hg hc hne), map_eq_ok_iff.mpr ⟨_, hx, rfl⟩⟩

/-- Once the end of an array has been found, there is no further element. -/
theorem readElement_stay : readElement first read (']' :: t) = .ok (none, ']' :: t) :=
  readElement_end Json.isGap_nil

theorem readElements_eq_ok_iff_steps {i e : Option (List String)} {c : Option (Option String)} :
    readElements s = .ok (⟨i, e, c⟩, r) ↔ ∃ s₁ s₂ s₃, readElement true readPatterns s = .ok (i, s₁) ∧
      readElement i.isNone readPatterns s₁ = .ok (e, s₂) ∧
      readElement (i.isNone || e.isNone) readDirectory s₂ = .ok (c, s₃) ∧ endArray s₃ = .ok r := by
  constructor
  · intro h
    obtain ⟨⟨i', s₁⟩, hi, h⟩ := bind_eq_ok_iff.mp h
    obtain ⟨⟨e', s₂⟩, he, h⟩ := bind_eq_ok_iff.mp h
    obtain ⟨⟨c', s₃⟩, hc, h⟩ := bind_eq_ok_iff.mp h
    obtain ⟨r', hend, h⟩ := bind_eq_ok_iff.mp h
    obtain ⟨⟨⟩, rfl⟩ := Prod.mk.inj (Except.ok.inj h)
    exact ⟨s₁, s₂, s₃, hi, he, hc, ofJson_eq_ok_iff.mp hend⟩
  · rintro ⟨s₁, s₂, s₃, hi, he, hc, hend⟩
    exact bind_eq_ok_iff.mpr ⟨_, hi, bind_eq_ok_iff.mpr ⟨_, he, bind_eq_ok_iff.mpr
      ⟨_, hc, bind_eq_ok_iff.mpr ⟨_, ofJson_eq_ok_iff.mpr hend, rfl⟩⟩⟩⟩

/-- What the reader takes off a text are at most three elements and the bracket behind them. -/
theorem exists_of_readElements {q : Partial} (h : readElements s = .ok (q, r)) :
    ∃ xs w, SpellsItems Spells true w xs ∧ xs.length ≤ 3 ∧ FillsAll {} xs[0]? xs[1]? xs[2]? q ∧
      s = w ++ ']' :: r := by
  obtain ⟨i, e, c⟩ := q
  obtain ⟨s₁, s₂, s₃, hi, he, hc, hend⟩ := readElements_eq_ok_iff_steps.mp h
  cases i with
  | none =>
    -- The array is empty: the two readers that are left find its end again.
    obtain ⟨g, t, hg, rfl, rfl⟩ := exists_of_readElement_none hi
    obtain ⟨rfl, rfl⟩ := Prod.mk.inj (Except.ok.inj (readElement_stay.symm.trans he))
    obtain ⟨rfl, rfl⟩ := Prod.mk.inj (Except.ok.inj (readElement_stay.symm.trans hc))
    obtain rfl := Except.ok.inj (endArray_cons.symm.trans hend)
    exact ⟨[], g, .nil hg, by simp, ⟨.keep _, .keep _, .keep _⟩, rfl⟩
  | some ps =>
    obtain ⟨g, w, v, hg, hw, hv, rfl⟩ := exists_of_readElement_some readPatterns_readsAs hi
    cases e with
    | none =>
      obtain ⟨g', t, hg', rfl, rfl⟩ := exists_of_readElement_none he
      obtain ⟨rfl, rfl⟩ := Prod.mk.inj (Except.ok.inj (readElement_stay.symm.trans hc))
      obtain rfl := Except.ok.inj (endArray_cons.symm.trans hend)
      refine ⟨[v], _, .cons hg hw (.nil hg'), by simp, ⟨.fill hv, .keep _, .keep _⟩, ?_⟩
      simp only [List.append_assoc]
    | some es =>
      obtain ⟨g', w', v', hg', hw', hv', rfl⟩ := exists_of_readElement_some readPatterns_readsAs he
      cases c with
      | none =>
        obtain ⟨h, t, hh, rfl, rfl⟩ := exists_of_readElement_none hc
        obtain rfl := Except.ok.inj (endArray_cons.symm.trans hend)
        refine ⟨[v, v'], _, .cons hg hw (.cons hg' hw' (.nil hh)), by simp, ⟨.fill hv, .fill hv', .keep _⟩, ?_⟩
        simp only [List.append_assoc]
      | some d =>
        obtain ⟨h, w'', v'', hh, hw'', hv'', rfl⟩ := exists_of_readElement_some readDirectory_readsAs hc
        obtain ⟨h', hh', rfl⟩ := endArray_eq_ok_iff.mp hend
        refine ⟨[v, v', v''], _, .cons hg hw (.cons hg' hw' (.cons hh hw'' (.nil hh'))), by simp,
          ⟨.fill hv, .fill hv', .fill hv''⟩, ?_⟩
        simp only [List.append_assoc]

/-- The reader gets through at most three elements that may fill the fields. -/
theorem readElements_of_spells {q : Partial} {xs : List Json} {w : List Char} (hxs : SpellsItems Spells true w xs)
    (hlength : xs.length ≤ 3) (hfills : FillsAll {} xs[0]? xs[1]? xs[2]? q) :
    readElements (w ++ ']' :: r) = .ok (q, r) := by
  obtain ⟨i, e, c⟩ := q
  obtain ⟨hi, he, hc⟩ := hfills
  rw [readElements_eq_ok_iff_steps]
  cases hxs with
  | nil hg =>
    obtain rfl := fills_none_iff.mp hi
    obtain rfl := fills_none_iff.mp he
    obtain rfl := fills_none_iff.mp hc
    exact ⟨_, _, _, readElement_end hg, readElement_stay, readElement_stay, endArray_cons⟩
  | cons hg hw hxs =>
    obtain ⟨-, ps, hv, rfl⟩ := fills_some_iff.mp hi
    cases hxs with
    | nil hg' =>
      obtain rfl := fills_none_iff.mp he
      obtain rfl := fills_none_iff.mp hc
      simp only [List.append_assoc]
      exact ⟨_, _, _, readElement_item readPatterns_readsAs hg hw hv, readElement_end hg', readElement_stay,
        endArray_cons⟩
    | cons hg' hw' hxs =>
      obtain ⟨-, es, hv', rfl⟩ := fills_some_iff.mp he
      cases hxs with
      | nil hh =>
        obtain rfl := fills_none_iff.mp hc
        simp only [List.append_assoc]
        exact ⟨_, _, _, readElement_item readPatterns_readsAs hg hw hv,
          readElement_item readPatterns_readsAs hg' hw' hv', readElement_end hh, endArray_cons⟩
      | cons hh hw'' hxs =>
        obtain ⟨-, d, hv'', rfl⟩ := fills_some_iff.mp hc
        cases hxs with
        | nil hh' =>
          simp only [List.append_assoc]
          exact ⟨_, _, _, readElement_item readPatterns_readsAs hg hw hv,
            readElement_item readPatterns_readsAs hg' hw' hv', readElement_item readDirectory_readsAs hh hw'' hv'',
            endArray_eq_ok_iff.mpr ⟨_, hh', rfl⟩⟩
        | cons =>
          -- A fourth element makes the array too long.
          simp only [List.length_cons] at hlength
          omega

end LazyStyles.Options
