import LazyStyles.Proofs.Options.Fields

/-!
# Reading configs

The reader takes from a text the options that it is a config for, and any text that is none is an error
(`ofConfig_accepts_configs`).  What places a fault when the config is closed leaves alone what has been read
(`closeObject_eq_ok_iff`, `closeArray_eq_ok_iff`).
-/

namespace LazyStyles.Options

open Json (IsGap IsText skipGap)

variable {α : Type} {s r : List Char}

/-! ### Whole configs -/

-- Only a stop is placed; what has been read stays as it is.
theorem closeObject_eq_ok_iff {x : Step α} {a : α} : closeObject x = .ok a ↔ x = .ok a := by
  unfold closeObject
  split
  case h_1 =>
    refine iff_of_false (fun h => ?_) nofun
    split at h
    all_goals exact absurd h nofun
  case h_2 => exact Iff.rfl

theorem closeArray_eq_ok_iff {x : Step α} {a : α} : closeArray x = .ok a ↔ x = .ok a := by
  unfold closeArray
  split
  case h_1 =>
    refine iff_of_false (fun h => ?_) nofun
    split at h
    all_goals exact absurd h nofun
  case h_2 => exact Iff.rfl

/-- Behind the value only white space may follow. -/
theorem finish_eq_ok_iff {p : Partial} {o : Options} :
    (match skipGap r with
      | [] => return p.finish
      | r => ofJson (.error (Json.haltAtByte .trailingCharacters r)) : Step Options) = .ok o ↔
      IsGap r ∧ p.finish = o := by
  rw [← Json.skipGap_eq_nil_iff]
  split
  case h_1 hr => exact ⟨fun h => ⟨hr, Except.ok.inj h⟩, fun h => congrArg _ h.2⟩
  case h_2 hr => exact iff_of_false nofun fun h => hr h.1

theorem exists_of_readConfig {o : Options} (h : readConfig s = .ok o) : ∃ v, IsText s v ∧ Denotes v o := by
  obtain ⟨g, hg, hs⟩ := Json.exists_append_skipGap s
  unfold readConfig at h
  dsimp only at h
  split at h
  case h_1 => exact absurd h nofun
  case h_2 t ht =>
    obtain ⟨⟨p, r⟩, hread, h⟩ := bind_eq_ok_iff.mp h
    obtain ⟨hr, rfl⟩ := finish_eq_ok_iff.mp h
    rw [closeArray_eq_ok_iff] at hread
    obtain ⟨xs, w, hxs, hlength, hfills, rfl⟩ := exists_of_readElements hread
    refine ⟨.array xs, ⟨g, _, r, hg, hr, .array hxs, ?_⟩, .array hlength (isRecord_iff.mpr ⟨p, hfills, rfl⟩)⟩
    rw [Json.bracketed_append, ← ht]
    exact hs
  case h_3 t ht =>
    obtain ⟨⟨p, r⟩, hread, h⟩ := bind_eq_ok_iff.mp h
    obtain ⟨hr, rfl⟩ := finish_eq_ok_iff.mp h
    rw [closeObject_eq_ok_iff] at hread
    obtain ⟨ms, w, hms, ⟨hdistinct, hknown, hfills⟩, rfl⟩ := exists_of_readFields hread
    refine ⟨.object ms, ⟨g, _, r, hg, hr, .object hms, ?_⟩,
      .object hdistinct hknown (isRecord_iff.mpr ⟨p, hfills, rfl⟩)⟩
    rw [Json.bracketed_append, ← ht]
    exact hs
  case h_4 =>
    -- A value of any other kind is read for the sake of its error only.
    obtain ⟨⟨p, r⟩, hread, -⟩ := bind_eq_ok_iff.mp h
    exact absurd hread wrongType_ne_ok

theorem readConfig_of_denotes {v : Json} {o : Options} (ht : IsText s v) (hv : Denotes v o) :
    readConfig s = .ok o := by
  obtain ⟨g, w, h, hg, hh, hw, rfl⟩ := ht
  cases hv with
  | array hlength hrecord =>
    obtain ⟨p, hfills, rfl⟩ := isRecord_iff.mp hrecord
    cases hw with
    | @array w _ hxs =>
      have hskip : skipGap (g ++ '[' :: (w ++ ']' :: h)) = '[' :: (w ++ ']' :: h) :=
        Json.skipGap_append_cons hg (by decide)
      have hread : readElements (w ++ ']' :: h) = .ok (p, h) :=
        readElements_of_spells hxs hlength hfills
      simp only [readConfig, Json.bracketed_append, hskip]
      exact bind_eq_ok_iff.mpr ⟨_, closeArray_eq_ok_iff.mpr hread, finish_eq_ok_iff.mpr ⟨hh, rfl⟩⟩
  | object hdistinct hknown hrecord =>
    obtain ⟨p, hfills, rfl⟩ := isRecord_iff.mp hrecord
    cases hw with
    | @object w _ hms =>
      have hskip : skipGap (g ++ '\x7b' :: (w ++ '\x7d' :: h)) = '\x7b' :: (w ++ '\x7d' :: h) :=
        Json.skipGap_append_cons hg (by decide)
      have hread : readFields ((w ++ '\x7d' :: h).length + 1) true {} (w ++ '\x7d' :: h) = .ok (p, h) :=
        readFields_of_spells hms ⟨hdistinct, hknown, hfills⟩ (Nat.lt_succ_self _)
      simp only [readConfig, Json.bracketed_append, hskip]
      exact bind_eq_ok_iff.mpr ⟨_, closeObject_eq_ok_iff.mpr hread, finish_eq_ok_iff.mpr ⟨hh, rfl⟩⟩

theorem readConfig_eq_ok_iff {o : Options} : readConfig s = .ok o ↔ ∃ v, IsText s v ∧ Denotes v o :=
  ⟨exists_of_readConfig, fun ⟨_, ht, hv⟩ => readConfig_of_denotes ht hv⟩

/-- A text that denotes options is not blank. -/
theorem exists_not_isBlank {v : Json} {o : Options} (h : IsText s v) (hv : Denotes v o) :
    ∃ c ∈ s, Text.isBlank c = false := by
  obtain ⟨g, w, h, -, -, hw, rfl⟩ := h
  cases hv with
  | array =>
    cases hw with
    | array => exact ⟨'[', by simp, by decide⟩
  | object =>
    cases hw with
    | object => exact ⟨'\x7b', by simp, by decide⟩

theorem ofConfig_eq_ok_iff {t : String} {o : Options} : ofConfig t = .ok o ↔ IsConfig t o := by
  unfold ofConfig IsConfig
  dsimp only
  split_ifs with hblank
  · rw [List.all_eq_true] at hblank
    -- The two ways to be a config exclude each other: what denotes options opens with a bracket.
    rw [Except.ok.injEq, eq_comm, and_iff_right hblank]
    refine (or_iff_left ?_).symm
    rintro ⟨v, ht, hv⟩
    obtain ⟨c, hc, hnot⟩ := exists_not_isBlank ht hv
    exact absurd (hblank c hc) (by rw [hnot]; decide)
  · rw [List.all_eq_true] at hblank
    rw [mapError_eq_ok_iff, readConfig_eq_ok_iff]
    exact (or_iff_right fun h => hblank h.1).symm

/-- The reader takes the configs, and gives an error for any other text. -/
theorem ofConfig_accepts_configs (t : String) :
    (∀ o, ofConfig t = .ok o ↔ IsConfig t o) ∧ ((∃ e, ofConfig t = .error e) ↔ ¬ ∃ o, IsConfig t o) := by
  refine ⟨fun o => ofConfig_eq_ok_iff, ?_⟩
  simp only [← ofConfig_eq_ok_iff]
  cases h : ofConfig t with
  | ok o => simp
  | error e => simp

-- A name may be spelled by escapes, and the fields may stand in any order.
example : (ofConfig "\x7b \"cwd\": \"/a\", \"\\u0069nclude\": [\"*.css\"] \x7d").toOption =
    some { included := ["*.css"], cwd := some "/a" } := by
  decide +kernel

end LazyStyles.Options
