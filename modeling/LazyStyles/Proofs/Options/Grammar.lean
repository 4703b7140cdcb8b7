import LazyStyles.Options.Config
import LazyStyles.Proofs.Json.Grammar

/-!
# The grammar of configs

`IsConfig` says which text is a config for which options, over the grammar of JSON and without a reader: a text of
white space is one for the default options, and else it is an object with known fields, each at most once, or an array
of at most three values.

A reader fills the fields one after another, so what a value means is said again as what it does to the fields that
have been read (`isRecord_iff`).  A field has one name and is filled once, so what the members of an object do to the
fields is read off one member after another (`extends_cons_iff`).
-/

namespace LazyStyles.Options

open Json (IsText)

variable {α : Type} {R : Json → α → Prop}

/-! ### Configs -/

/-- The patterns that a value stands for. -/
inductive IsPatterns : Json → List String → Prop
  | null : IsPatterns .null []
  | string (p : String) : IsPatterns (.string p) [p]
  | array (ps : List String) : IsPatterns (.array (ps.map Json.string)) ps

/-- The directory that a value stands for. -/
inductive IsDirectory : Json → Option String → Prop
  | null : IsDirectory .null none
  | string (d : String) : IsDirectory (.string d) (some d)

/-- What a field is for a value that may be absent. -/
inductive IsField (R : Json → α → Prop) (default : α) : Option Json → α → Prop
  | absent : IsField R default none default
  | present {v : Json} {x : α} (h : R v x) : IsField R default (some v) x

/-- The options that the values of the three fields stand for. -/
structure IsRecord (included excluded cwd : Option Json) (o : Options) : Prop where
  included : IsField IsPatterns [] included o.included
  excluded : IsField IsPatterns [] excluded o.excluded
  cwd : IsField IsDirectory none cwd o.cwd

/-- The fields of a config. -/
def fieldNames : List String := ["include", "exclude", "cwd"]

/-- The options that a value stands for. -/
inductive Denotes : Json → Options → Prop
  | object {ms : List (String × Json)} {o : Options} (hdistinct : (ms.map Prod.fst).Nodup)
    (hknown : ∀ k ∈ ms.map Prod.fst, k ∈ fieldNames)
    (h : IsRecord (ms.lookup "include") (ms.lookup "exclude") (ms.lookup "cwd") o) : Denotes (.object ms) o
  | array {xs : List Json} {o : Options} (hlength : xs.length ≤ 3) (h : IsRecord xs[0]? xs[1]? xs[2]? o) :
    Denotes (.array xs) o

/-- Whether a text is a config for some options. -/
def IsConfig (t : String) (o : Options) : Prop :=
  ((∀ c ∈ t.toList, Text.isBlank c = true) ∧ o = {}) ∨ ∃ v, IsText t.toList v ∧ Denotes v o

/-! ### Filling the fields -/

/-- What a value that may be absent does to a field that may have been read. -/
inductive Fills (R : Json → α → Prop) : Option α → Option Json → Option α → Prop
  | keep (x? : Option α) : Fills R x? none x?
  | fill {v : Json} {x : α} (h : R v x) : Fills R none (some v) (some x)

/-- What the values of the three fields do to the fields read. -/
structure FillsAll (p : Partial) (included excluded cwd : Option Json) (q : Partial) : Prop where
  included : Fills IsPatterns p.included? included q.included?
  excluded : Fills IsPatterns p.excluded? excluded q.excluded?
  cwd : Fills IsDirectory p.cwd? cwd q.cwd?

theorem isField_iff {default x : α} {v? : Option Json} :
    IsField R default v? x ↔ ∃ x?, Fills R none v? x? ∧ x?.getD default = x := by
  constructor
  · rintro (_ | h)
    · exact ⟨none, .keep none, rfl⟩
    · exact ⟨some x, .fill h, rfl⟩
  · rintro ⟨x?, _ | h, rfl⟩
    · exact .absent
    · exact .present h

theorem isRecord_iff {i e c : Option Json} {o : Options} :
    IsRecord i e c o ↔ ∃ p, FillsAll {} i e c p ∧ p.finish = o := by
  constructor
  · rintro ⟨hi, he, hc⟩
    obtain ⟨i?, hi, hi'⟩ := isField_iff.mp hi
    obtain ⟨e?, he, he'⟩ := isField_iff.mp he
    obtain ⟨c?, hc, hc'⟩ := isField_iff.mp hc
    refine ⟨⟨i?, e?, c?⟩, ⟨hi, he, hc⟩, ?_⟩
    rw [Partial.finish, hi', he', hc']
  · rintro ⟨p, ⟨hi, he, hc⟩, rfl⟩
    exact ⟨isField_iff.mpr ⟨_, hi, rfl⟩, isField_iff.mpr ⟨_, he, rfl⟩, isField_iff.mpr ⟨_, hc, rfl⟩⟩

/-- What the members of an object do to the fields read. -/
structure Extends (p : Partial) (ms : List (String × Json)) (q : Partial) : Prop where
  distinct : (ms.map Prod.fst).Nodup
  known : ∀ k ∈ ms.map Prod.fst, k ∈ fieldNames
  fields : FillsAll p (ms.lookup "include") (ms.lookup "exclude") (ms.lookup "cwd") q

/-- What one member does to the fields read: it fills the field of its name, which has not been read. -/
def Sets (p : Partial) (k : String) (v : Json) (q : Partial) : Prop :=
  match k with
  | "include" => p.included? = none ∧ ∃ ps, IsPatterns v ps ∧ q = { p with included? := some ps }
  | "exclude" => p.excluded? = none ∧ ∃ ps, IsPatterns v ps ∧ q = { p with excluded? := some ps }
  | "cwd" => p.cwd? = none ∧ ∃ d, IsDirectory v d ∧ q = { p with cwd? := some d }
  | _ => False

theorem fills_none_iff {x? y? : Option α} : Fills R x? none y? ↔ y? = x? := by
  constructor
  · rintro ⟨⟩
    rfl
  · rintro rfl
    exact .keep _

theorem fills_some_iff {x? y? : Option α} {v : Json} :
    Fills R x? (some v) y? ↔ x? = none ∧ ∃ x, R v x ∧ y? = some x := by
  constructor
  · rintro (_ | h)
    exact ⟨rfl, _, h, rfl⟩
  · rintro ⟨rfl, x, h, rfl⟩
    exact .fill h

theorem extends_nil_iff {p q : Partial} : Extends p [] q ↔ q = p := by
  constructor
  · rintro ⟨-, -, hi, he, hc⟩
    have hi := fills_none_iff.mp hi
    have he := fills_none_iff.mp he
    have hc := fills_none_iff.mp hc
    cases p
    cases q
    congr
  · rintro rfl
    exact ⟨List.nodup_nil, nofun, .keep _, .keep _, .keep _⟩

/-- The first member of a name leaves the field of that name to be passed over by those that follow. -/
theorem fills_lookup_cons_iff {x? y? : Option α} {k : String} {v : Json} {ms : List (String × Json)} :
    k ∉ ms.map Prod.fst ∧ Fills R x? (((k, v) :: ms).lookup k) y? ↔
      x? = none ∧ ∃ x, R v x ∧ Fills R (some x) (ms.lookup k) y? := by
  rw [List.lookup_cons_self, fills_some_iff]
  constructor
  · rintro ⟨hk, rfl, x, hx, rfl⟩
    have hlookup : ms.lookup k = none := by
      refine List.lookup_eq_none_iff.mpr fun m hm => ?_
      rw [bne_iff_ne]
      rintro rfl
      exact hk (List.mem_map_of_mem hm)
    rw [hlookup]
    exact ⟨rfl, x, hx, .keep _⟩
  · rintro ⟨rfl, x, hx, hms⟩
    cases hlookup : ms.lookup k with
    | some w =>
      -- A second member of the name would fill the field again.
      rw [hlookup] at hms
      cases hms
    | none =>
      rw [hlookup] at hms
      refine ⟨fun hk => ?_, rfl, x, hx, fills_none_iff.mp hms⟩
      obtain ⟨m, hm, rfl⟩ := List.mem_map.mp hk
      exact bne_iff_ne.mp (List.lookup_eq_none_iff.mp hlookup m hm) rfl

-- A field is looked up under its own name only, so a member is passed over in the two other fields by definition.
theorem extends_cons_iff {p q : Partial} {k : String} {v : Json} {ms : List (String × Json)} :
    Extends p ((k, v) :: ms) q ↔ ∃ p', Sets p k v p' ∧ Extends p' ms q := by
  constructor
  · rintro ⟨hdistinct, hknown, hi, he, hc⟩
    obtain ⟨hk, hdistinct'⟩ := List.nodup_cons.mp hdistinct
    obtain ⟨hname, hknown'⟩ := List.forall_mem_cons.mp hknown
    simp only [fieldNames, List.mem_cons, List.not_mem_nil, or_false] at hname
    rcases hname with rfl | rfl | rfl
    · obtain ⟨hp, ps, hps, hi⟩ := fills_lookup_cons_iff.mp ⟨hk, hi⟩
      exact ⟨_, ⟨hp, ps, hps, rfl⟩, hdistinct', hknown', hi, he, hc⟩
    · obtain ⟨hp, ps, hps, he⟩ := fills_lookup_cons_iff.mp ⟨hk, he⟩
      exact ⟨_, ⟨hp, ps, hps, rfl⟩, hdistinct', hknown', hi, he, hc⟩
    · obtain ⟨hp, d, hd, hc⟩ := fills_lookup_cons_iff.mp ⟨hk, hc⟩
      exact ⟨_, ⟨hp, d, hd, rfl⟩, hdistinct', hknown', hi, he, hc⟩
  · rintro ⟨p', hset, hdistinct, hknown, hi, he, hc⟩
    unfold Sets at hset
    split at hset
    case h_1 =>
      obtain ⟨hp, ps, hps, rfl⟩ := hset
      obtain ⟨hk, hi⟩ := fills_lookup_cons_iff.mpr ⟨hp, ps, hps, hi⟩
      exact ⟨List.nodup_cons.mpr ⟨hk, hdistinct⟩, List.forall_mem_cons.mpr ⟨by simp [fieldNames], hknown⟩, hi, he, hc⟩
    case h_2 =>
      obtain ⟨hp, ps, hps, rfl⟩ := hset
      obtain ⟨hk, he⟩ := fills_lookup_cons_iff.mpr ⟨hp, ps, hps, he⟩
      exact ⟨List.nodup_cons.mpr ⟨hk, hdistinct⟩, List.forall_mem_cons.mpr ⟨by simp [fieldNames], hknown⟩, hi, he, hc⟩
    case h_3 =>
      obtain ⟨hp, d, hd, rfl⟩ := hset
      obtain ⟨hk, hc⟩ := fills_lookup_cons_iff.mpr ⟨hp, d, hd, hc⟩
      exact ⟨List.nodup_cons.mpr ⟨hk, hdistinct⟩, List.forall_mem_cons.mpr ⟨by simp [fieldNames], hknown⟩, hi, he, hc⟩
    case h_4 => exact hset.elim

end LazyStyles.Options
