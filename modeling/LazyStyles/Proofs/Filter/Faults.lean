import LazyStyles.Proofs.Filter.Combination

/-!
# Faults of options

Options that make no filter are refused for one of their two lists of patterns.  A list is refused for its first
pattern that is no glob, and only if there is none for the nesting of its globs, which is then laid upon all of its
patterns together (`Blames`).  The list to include is looked at first, as a whole; so the list that is named is the
first with a pattern that makes no filter by itself (`ofOptions_blames`).
-/

namespace LazyStyles.Filter

variable {role : Role} {cwd : Option String} {p : String} {ps : List String} {o : Options} {e : Error}

/-! ### Lists of patterns -/

/-- The patterns of one of the lists. -/
def Role.patterns (o : Options) : Role → List String
  | included => o.included
  | excluded => o.excluded

/-- The options with one pattern in one of the lists and no other. -/
def Role.only (cwd : Option String) (p : String) : Role → Options
  | included => { included := [p], cwd := cwd }
  | excluded => { excluded := [p], cwd := cwd }

/-- Whether the pattern makes a filter by itself. -/
def Stands (role : Role) (cwd : Option String) (p : String) : Prop :=
  ∃ f, ofOptions (role.only cwd p) = .ok f

/-- The pattern as it is matched. -/
def resolved (cwd : Option String) (p : String) : String :=
  String.ofList (resolve (cwd.map String.toList) p.toList)

/-- What is said of a list of patterns that makes no set. -/
inductive Blames (role : Role) (cwd : Option String) (ps : List String) : Error → Prop where
  /-- The first pattern that is no glob is named as the user wrote it, with the fault of its resolved form. -/
  | pattern {before after : List String} {p : String} {fault : Glob.Fault} (hps : ps = before ++ p :: after)
    (hbefore : ∀ q ∈ before, ∃ g, Glob.ofPattern (resolved cwd q) = .ok g)
    (hp : Glob.ofPattern (resolved cwd p) = .error fault) :
    Blames role cwd ps ⟨role, p, .notGlob (resolved cwd p) fault⟩
  /-- Where all patterns are globs, one of which nests too deeply, all of them are named. -/
  | nesting {gs : List Glob} {cause : Cause}
    (hps : List.Forall₂ (fun p g => Glob.ofPattern (resolved cwd p) = .ok g) ps gs) (hgs : tooDeep? gs = some cause) :
    Blames role cwd ps ⟨role, ", ".intercalate ps, cause⟩

/-- In which of the lists a pattern stands makes no difference to whether it makes a filter. -/
theorem stands_iff : Stands role cwd p ↔ ∃ g, Makes cwd p g := by
  have hpatterns : ∀ q, q ∈ (role.only cwd p).included ++ (role.only cwd p).excluded ↔ q = p := by
    intro q
    cases role <;> simp [Role.only]
  have hcwd : (role.only cwd p).cwd = cwd := by
    cases role <;> rfl
  rw [Stands, exists_ofOptions_iff, hcwd]
  simp only [hpatterns, forall_eq]

/-! ### Sets -/

theorem globs_eq_error_iff :
    globs role cwd ps = .error e ↔ ∃ before p after fault, ps = before ++ p :: after ∧
      (∀ q ∈ before, ∃ g, Glob.ofPattern (resolved cwd q) = .ok g) ∧
      Glob.ofPattern (resolved cwd p) = .error fault ∧ ⟨role, p, .notGlob (resolved cwd p) fault⟩ = e := by
  rw [globs, mapM_eq_error_iff]
  simp only [mapError_eq_ok_iff, mapError_eq_error_iff]
  constructor
  · rintro ⟨before, p, after, hps, hbefore, fault, hp, he⟩
    exact ⟨before, p, after, fault, hps, hbefore, hp, he⟩
  · rintro ⟨before, p, after, fault, hps, hbefore, hp, he⟩
    exact ⟨before, p, after, hps, hbefore, fault, hp, he⟩

theorem not_blames_nil : ¬ Blames role cwd [] e := by
  intro h
  cases h with
  | pattern hps => exact absurd hps.symm (List.append_ne_nil_of_right_ne_nil _ (List.cons_ne_nil _ _))
  | nesting hps hgs =>
    obtain rfl := List.forall₂_nil_left_iff.mp hps
    cases hgs

/-- A list of patterns that makes no set is refused for its first pattern that is no glob, or else for its nesting. -/
theorem set?_eq_error_iff : set? role cwd ps = .error e ↔ Blames role cwd ps e := by
  have hglobs : ∀ gs, globs role cwd ps = .ok gs ↔
      List.Forall₂ (fun p g => Glob.ofPattern (resolved cwd p) = .ok g) ps gs := fun _ => globs_eq_ok_iff
  unfold set?
  cases ps with
  | nil => exact iff_of_false nofun not_blames_nil
  | cons p ps =>
    simp only [List.isEmpty_cons, Bool.false_eq_true, if_false, bind_eq_error_iff]
    constructor
    · rintro (h | ⟨gs, hgs, h⟩)
      · obtain ⟨before, q, after, fault, hps, hbefore, hq, rfl⟩ := globs_eq_error_iff.mp h
        exact .pattern hps hbefore hq
      · cases hdeep : tooDeep? gs with
        | none =>
          rw [hdeep] at h
          cases h
        | some cause =>
          rw [hdeep] at h
          obtain rfl := Except.error.inj h
          exact .nesting ((hglobs gs).mp hgs) hdeep
    · intro h
      cases h with
      | pattern hps hbefore hq => exact .inl (globs_eq_error_iff.mpr ⟨_, _, _, _, hps, hbefore, hq, rfl⟩)
      | nesting hps hgs =>
        refine .inr ⟨_, (hglobs _).mpr hps, ?_⟩
        rw [hgs]

/-- A list of patterns makes no set exactly if one of them makes no filter by itself. -/
theorem exists_blames_iff (role : Role) :
    (∃ e, Blames role cwd ps e) ↔ ∃ p ∈ ps, ¬ Stands role cwd p := by
  have hset : (∃ e, set? role cwd ps = .error e) ↔ ¬ ∃ s, set? role cwd ps = .ok s := by
    cases set? role cwd ps <;> simp
  simp only [set?_eq_error_iff, set?_eq_ok_iff] at hset
  rw [hset]
  have hmakes : (∃ s gs, List.Forall₂ (Makes cwd) ps gs ∧ s = if ps.isEmpty then none else some gs) ↔
      ∀ p ∈ ps, ∃ g, Makes cwd p g := by
    rw [← exists_forall₂_iff]
    constructor
    · rintro ⟨-, gs, hgs, -⟩
      exact ⟨gs, hgs⟩
    · rintro ⟨gs, hgs⟩
      exact ⟨_, gs, hgs, rfl⟩
  rw [hmakes]
  simp only [stands_iff, not_forall, exists_prop]

/-! ### Options -/

/-- The list to exclude is looked at only once the list to include has made a set. -/
theorem ofOptions_eq_error_iff :
    ofOptions o = .error e ↔ Blames .included o.cwd o.included e ∨
      (∀ p ∈ o.included, Stands .included o.cwd p) ∧ Blames .excluded o.cwd o.excluded e := by
  have hincluded : (∃ s, set? .included o.cwd o.included = .ok s) ↔ ∀ p ∈ o.included, Stands .included o.cwd p := by
    have hblames : (∃ e, Blames .included o.cwd o.included e) ↔ ∃ p ∈ o.included, ¬ Stands .included o.cwd p :=
      exists_blames_iff .included
    simp only [← set?_eq_error_iff] at hblames
    rw [← not_iff_not, not_forall]
    simp only [not_forall, exists_prop, ← hblames]
    cases set? .included o.cwd o.included <;> simp
  rw [ofOptions, bind_eq_error_iff, set?_eq_error_iff, ← hincluded]
  refine or_congr_right ?_
  constructor
  · rintro ⟨s, hs, h⟩
    rcases bind_eq_error_iff.mp h with h | ⟨t, -, h⟩
    · exact ⟨⟨s, hs⟩, set?_eq_error_iff.mp h⟩
    · cases h
  · rintro ⟨⟨s, hs⟩, h⟩
    exact ⟨s, hs, bind_eq_error_iff.mpr (.inl (set?_eq_error_iff.mpr h))⟩

theorem Blames.role_eq (h : Blames role cwd ps e) : e.role = role := by
  cases h <;> rfl

/-- Options make a filter exactly if each of their patterns makes one by itself.  Otherwise the list to include is
named if one of its patterns makes none, and else the list to exclude; and of the list that is named, its first pattern
that is no glob is, with its fault, or all of its patterns if they are globs. -/
theorem ofOptions_blames (o : Options) :
    ((∃ f, ofOptions o = .ok f) ↔ ∀ role : Role, ∀ p ∈ role.patterns o, Stands role o.cwd p) ∧
      ∀ e, ofOptions o = .error e →
        (e.role = .included ↔ ∃ p ∈ o.included, ¬ Stands .included o.cwd p) ∧
          Blames e.role o.cwd (e.role.patterns o) e := by
  constructor
  · rw [exists_ofOptions_iff, List.forall_mem_append]
    constructor
    · rintro ⟨hincluded, hexcluded⟩ role p hp
      rw [stands_iff]
      cases role with
      | included => exact hincluded p hp
      | excluded => exact hexcluded p hp
    · intro h
      exact ⟨fun p hp => stands_iff.mp (h .included p hp), fun p hp => stands_iff.mp (h .excluded p hp)⟩
  · intro e he
    rcases ofOptions_eq_error_iff.mp he with h | ⟨hincluded, h⟩
    · have hrole := h.role_eq
      rw [hrole]
      exact ⟨iff_of_true rfl ((exists_blames_iff .included).mp ⟨e, h⟩), h⟩
    · have hrole := h.role_eq
      rw [hrole]
      refine ⟨iff_of_false nofun ?_, h⟩
      rintro ⟨p, hp, hstands⟩
      exact hstands (hincluded p hp)

/-- Options whose list to include is fine, and whose list to exclude has two patterns that are no globs. -/
def twiceFaulty : Options := { included := ["**/*.css"], excluded := ["a", "b\\[", "c/\x7b"], cwd := some "/p/" }

/-- The pattern that is named is the second of the list to exclude, with the fault of `/p/b/[`. -/
theorem ofOptions_blames_twiceFaulty :
    ofOptions twiceFaulty = .error ⟨.excluded, "b\\[", .notGlob "/p/b/[" .unclosedClass⟩ ∧
      (Role.excluded = .included ↔ ∃ p ∈ twiceFaulty.included, ¬ Stands .included twiceFaulty.cwd p) ∧
        Blames .excluded twiceFaulty.cwd twiceFaulty.excluded
          ⟨.excluded, "b\\[", .notGlob "/p/b/[" .unclosedClass⟩ := by
  have h : ofOptions twiceFaulty = .error ⟨.excluded, "b\\[", .notGlob "/p/b/[" .unclosedClass⟩ := by
    rw [← map_eq_error_iff (f := fun _ => ())]
    decide +kernel
  exact ⟨h, (ofOptions_blames twiceFaulty).2 _ h⟩

end LazyStyles.Filter
