import LazyStyles.Filter
import LazyStyles.Proofs.Glob.Form
import LazyStyles.Proofs.Steps

/-!
# Filters as combinations

A filter is made of its patterns one by one.  Options make a filter exactly if each of their patterns makes one by
itself (`exists_ofOptions_iff`).  An id is a candidate then exactly if it has no null character, no pattern to exclude
takes it by itself, and some pattern to include does, if there are any (`accepts_eq_true_iff`).  So neither the order
of the patterns counts nor how often they are repeated, and more patterns of a kind move the verdict one way only
(`accepts_combines`).
-/

namespace LazyStyles.Filter

variable {role : Role} {cwd : Option String} {p id : String} {ps : List String} {g : Glob} {gs : List Glob}
  {o o' : Options} {f f' : Filter}

/-! ### One pattern -/

/-- The glob that a pattern is resolved to, if it is one. -/
def glob (cwd : Option String) (p : String) : Except Glob.Fault Glob :=
  Glob.ofPattern (String.ofList (resolve (cwd.map String.toList) p.toList))

/-- Whether no set takes the glob: it has to be searched for, and it nests too deeply for that. -/
def isRefused (g : Glob) : Bool :=
  (g.form == .searchWithExtension || g.form == .search) && g.isTooDeep

/-- Whether the pattern is resolved to the glob and sets take it. -/
def Makes (cwd : Option String) (p : String) (g : Glob) : Prop :=
  glob cwd p = .ok g ∧ isRefused g = false

theorem glob_eq_ok_iff :
    glob cwd p = .ok g ↔ ∃ ts, Glob.readTokens 0 none {} (resolve (cwd.map String.toList) p.toList) = .ok ts ∧
      (⟨String.ofList (resolve (cwd.map String.toList) p.toList), ts⟩ : Glob) = g := by
  rw [glob, Glob.ofPattern, map_eq_ok_iff, String.toList_ofList]

theorem readTokens_of_glob (h : glob cwd p = .ok g) :
    Glob.readTokens 0 none {} (resolve (cwd.map String.toList) p.toList) = .ok g.tokens := by
  obtain ⟨ts, hts, rfl⟩ := glob_eq_ok_iff.mp h
  exact hts

theorem isRefused_eq (g : Glob) : isRefused g = (g.form.isSearched && g.isTooDeep) := by
  unfold isRefused
  cases g.form <;> rfl

theorem isRefused_eq_false_iff :
    isRefused g = false ↔ (g.form == .searchWithExtension && g.isTooDeep) = false ∧
      ((g.form == .search) = true → g.isTooDeep = false) := by
  unfold isRefused
  cases g.form <;> simp

/-! ### Sets -/

/-- The two searches for a glob at fault go through all globs of a set. -/
theorem tooDeep?_eq_none_iff : tooDeep? gs = none ↔ ∀ g ∈ gs, isRefused g = false := by
  have hsearches : tooDeep? gs = none ↔
      (gs.find? fun g => g.form == .searchWithExtension && g.isTooDeep) = none ∧
        (gs.filter (·.form == .search)).findIdx? Glob.isTooDeep = none := by
    unfold tooDeep?
    cases gs.find? fun g => g.form == .searchWithExtension && g.isTooDeep <;> simp
  rw [hsearches, List.find?_eq_none, List.findIdx?_eq_none_iff]
  simp only [isRefused_eq_false_iff, List.mem_filter, Bool.not_eq_true, and_imp, forall_and]

theorem globs_eq_ok_iff : globs role cwd ps = .ok gs ↔ List.Forall₂ (fun p g => glob cwd p = .ok g) ps gs := by
  rw [globs, mapM_eq_ok_iff]
  simp only [mapError_eq_ok_iff, glob]

theorem forall₂_makes_iff :
    List.Forall₂ (Makes cwd) ps gs ↔
      List.Forall₂ (fun p g => glob cwd p = .ok g) ps gs ∧ ∀ g ∈ gs, isRefused g = false := by
  constructor
  · intro h
    induction h with
    | nil => exact ⟨.nil, List.forall_mem_nil _⟩
    | cons hp _ ih => exact ⟨.cons hp.1 ih.1, List.forall_mem_cons.mpr ⟨hp.2, ih.2⟩⟩
  · rintro ⟨h, hrefused⟩
    induction h with
    | nil => exact .nil
    | cons hp _ ih =>
      obtain ⟨hg, hgs⟩ := List.forall_mem_cons.mp hrefused
      exact .cons ⟨hp, hg⟩ (ih hgs)

/-- A list of patterns makes a set, unless it is empty, exactly if each of its patterns makes a glob. -/
theorem set?_eq_ok_iff {s : Option (List Glob)} :
    set? role cwd ps = .ok s ↔
      ∃ gs, List.Forall₂ (Makes cwd) ps gs ∧ s = if ps.isEmpty then none else some gs := by
  unfold set?
  cases ps with
  | nil => simp [eq_comm]
  | cons p ps =>
    simp only [List.isEmpty_cons, Bool.false_eq_true, if_false, bind_eq_ok_iff, globs_eq_ok_iff, forall₂_makes_iff,
      ← tooDeep?_eq_none_iff, and_assoc]
    refine exists_congr fun gs => and_congr_right fun _ => ?_
    cases tooDeep? gs <;> simp [eq_comm]

theorem ofOptions_eq_ok_iff :
    ofOptions o = .ok f ↔ ∃ is es, List.Forall₂ (Makes o.cwd) o.included is ∧ List.Forall₂ (Makes o.cwd) o.excluded es ∧
      f = ⟨if o.included.isEmpty then none else some is, if o.excluded.isEmpty then none else some es⟩ := by
  unfold ofOptions
  simp only [bind_eq_ok_iff, set?_eq_ok_iff]
  constructor
  · rintro ⟨_, ⟨is, his, rfl⟩, _, ⟨es, hes, rfl⟩, h⟩
    exact ⟨is, es, his, hes, (Except.ok.inj h).symm⟩
  · rintro ⟨is, es, his, hes, rfl⟩
    exact ⟨_, ⟨is, his, rfl⟩, _, ⟨es, hes, rfl⟩, rfl⟩

/-- Options make a filter exactly if each of their patterns makes a glob. -/
theorem exists_ofOptions_iff :
    (∃ f, ofOptions o = .ok f) ↔ ∀ p ∈ o.included ++ o.excluded, ∃ g, Makes o.cwd p g := by
  rw [List.forall_mem_append, ← exists_forall₂_iff, ← exists_forall₂_iff]
  simp only [ofOptions_eq_ok_iff]
  constructor
  · rintro ⟨_, is, es, his, hes, rfl⟩
    exact ⟨⟨is, his⟩, es, hes⟩
  · rintro ⟨⟨is, his⟩, es, hes⟩
    exact ⟨_, is, es, his, hes, rfl⟩

/-! ### Verdicts -/

/-- The path that an id is matched as. -/
def pathOf (id : String) : List UInt8 :=
  Glob.bytesOf (withSlashes id.toList)

/-- The options with one pattern to include and no other. -/
def alone (cwd : Option String) (p : String) : Options :=
  { included := [p], cwd := cwd }

/-- Whether the filter of the pattern alone accepts the id. -/
def Takes (cwd : Option String) (p id : String) : Prop :=
  ∃ f, ofOptions (alone cwd p) = .ok f ∧ f.accepts id = true

theorem ofOptions_alone (h : Makes cwd p g) : ofOptions (alone cwd p) = .ok ⟨some [g], none⟩ :=
  ofOptions_eq_ok_iff.mpr ⟨[g], [], .cons h .nil, .nil, rfl⟩

theorem ofOptions_alone_iff :
    ofOptions (alone cwd p) = .ok f ↔ ∃ g, Makes cwd p g ∧ (⟨some [g], none⟩ : Filter) = f := by
  constructor
  · intro h
    obtain ⟨_, _, his, hes, rfl⟩ := ofOptions_eq_ok_iff.mp h
    obtain ⟨g, _, hg, hnil, rfl⟩ := List.forall₂_cons_left_iff.mp his
    obtain rfl := List.forall₂_nil_left_iff.mp hnil
    exact ⟨g, hg, rfl⟩
  · rintro ⟨g, hg, rfl⟩
    exact ofOptions_alone hg

/-- An id is accepted if it has no null character, the set to exclude does not match it, and the set to include
does. -/
theorem accepts_iff_setMatches :
    f.accepts id = true ↔ '\x00' ∉ id.toList ∧ (∀ gs, f.excluded = some gs → setMatches gs (pathOf id) = false) ∧
      ∀ gs, f.included = some gs → setMatches gs (pathOf id) = true := by
  unfold accepts pathOf
  by_cases hid : '\x00' ∈ id.toList
  · simp [hid]
  · cases f.excluded <;> cases f.included <;> simp [hid]

theorem accepts_alone_iff :
    (⟨some [g], none⟩ : Filter).accepts id = true ↔ '\x00' ∉ id.toList ∧ g.matchesBytes (pathOf id) = true := by
  rw [accepts_iff_setMatches]
  simp [setMatches]

theorem takes_iff (h : Makes cwd p g) :
    Takes cwd p id ↔ '\x00' ∉ id.toList ∧ g.matchesBytes (pathOf id) = true := by
  have hfilter : Takes cwd p id ↔ (⟨some [g], none⟩ : Filter).accepts id = true := by
    rw [Takes, ofOptions_alone h]
    simp
  rw [hfilter, accepts_alone_iff]

/-- A set matches an id if some pattern of its list takes it. -/
theorem setMatches_eq_true_iff (h : List.Forall₂ (Makes cwd) ps gs) (hid : '\x00' ∉ id.toList) :
    setMatches gs (pathOf id) = true ↔ ∃ p ∈ ps, Takes cwd p id := by
  unfold setMatches
  induction h with
  | nil => simp
  | cons hp _ ih =>
    rw [List.any_cons, Bool.or_eq_true, ih, List.exists_mem_cons_iff, takes_iff hp, and_iff_right hid]

/-- A list to exclude refuses what its globs match; an empty one makes no set and refuses nothing. -/
theorem forall_setMatches_eq_false_iff {path : List UInt8} (h : List.Forall₂ (Makes cwd) ps gs) :
    (∀ gs', (if ps.isEmpty then none else some gs) = some gs' → setMatches gs' path = false) ↔
      setMatches gs path = false := by
  cases h <;> simp [setMatches]

/-- A list to include takes what its globs match; an empty one makes no set and takes everything. -/
theorem forall_setMatches_eq_true_iff {path : List UInt8} (h : List.Forall₂ (Makes cwd) ps gs) :
    (∀ gs', (if ps.isEmpty then none else some gs) = some gs' → setMatches gs' path = true) ↔
      ps = [] ∨ setMatches gs path = true := by
  cases h <;> simp [setMatches]

/-- A filter's verdict is made of those of its single patterns. -/
theorem accepts_eq_true_iff (h : ofOptions o = .ok f) :
    f.accepts id = true ↔ '\x00' ∉ id.toList ∧ (∀ p ∈ o.excluded, ¬ Takes o.cwd p id) ∧
      (o.included = [] ∨ ∃ p ∈ o.included, Takes o.cwd p id) := by
  obtain ⟨is, es, his, hes, rfl⟩ := ofOptions_eq_ok_iff.mp h
  rw [accepts_iff_setMatches, forall_setMatches_eq_false_iff hes, forall_setMatches_eq_true_iff his]
  refine and_congr_right fun hid => and_congr ?_ (or_congr_right (setMatches_eq_true_iff his hid))
  rw [← Bool.not_eq_true, setMatches_eq_true_iff hes hid]
  simp only [not_exists, not_and]

/-! ### Lists of patterns -/

/-- The filter of options with the same patterns. -/
theorem exists_ofOptions_of_mem_iff (h : ofOptions o = .ok f) (hcwd : o'.cwd = o.cwd)
    (hincluded : ∀ p, p ∈ o'.included ↔ p ∈ o.included) (hexcluded : ∀ p, p ∈ o'.excluded ↔ p ∈ o.excluded) :
    ∃ f', ofOptions o' = .ok f' ∧ ∀ id, f'.accepts id = f.accepts id := by
  have hmakes := exists_ofOptions_iff.mp ⟨f, h⟩
  obtain ⟨f', h'⟩ : ∃ f', ofOptions o' = .ok f' := by
    refine exists_ofOptions_iff.mpr fun p hp => ?_
    rw [hcwd]
    exact hmakes p (by simpa only [List.mem_append, hincluded, hexcluded] using hp)
  have hnil : o'.included = [] ↔ o.included = [] := by
    simp only [List.eq_nil_iff_forall_not_mem, hincluded]
  refine ⟨f', h', fun id => ?_⟩
  rw [Bool.eq_iff_iff, accepts_eq_true_iff h', accepts_eq_true_iff h, hnil, hcwd]
  simp only [hincluded, hexcluded]

theorem accepts_of_excluded_subset (h : ofOptions o = .ok f) (h' : ofOptions o' = .ok f') (hcwd : o'.cwd = o.cwd)
    (hincluded : o'.included = o.included) (hexcluded : o.excluded ⊆ o'.excluded) (hid : f'.accepts id = true) :
    f.accepts id = true := by
  rw [accepts_eq_true_iff h', hcwd, hincluded] at hid
  obtain ⟨hnull, hnone, hsome⟩ := hid
  exact (accepts_eq_true_iff h).mpr ⟨hnull, fun p hp => hnone p (hexcluded hp), hsome⟩

theorem accepts_of_included_subset (h : ofOptions o = .ok f) (h' : ofOptions o' = .ok f') (hcwd : o'.cwd = o.cwd)
    (hexcluded : o'.excluded = o.excluded) (hne : o.included ≠ []) (hincluded : o.included ⊆ o'.included)
    (hid : f.accepts id = true) : f'.accepts id = true := by
  obtain ⟨hnull, hnone, hsome⟩ := (accepts_eq_true_iff h).mp hid
  obtain ⟨p, hp, htakes⟩ := hsome.resolve_left hne
  rw [accepts_eq_true_iff h', hcwd, hexcluded]
  exact ⟨hnull, hnone, .inr ⟨p, hincluded hp, htakes⟩⟩

/-- Where options make a filter, each of their patterns makes one by itself, and the filter accepts an id exactly if
that has no null character, no pattern to exclude takes it, and some pattern to include does, if there are any.  So
options with the same patterns in another order or number make a filter with the same verdicts, more patterns to
exclude accept nothing else, and more patterns to include, where there are some, refuse nothing else. -/
theorem accepts_combines (h : ofOptions o = .ok f) :
    (∀ p ∈ o.included ++ o.excluded, ∃ f', ofOptions (alone o.cwd p) = .ok f') ∧
      (∀ id, f.accepts id = true ↔ '\x00' ∉ id.toList ∧ (∀ p ∈ o.excluded, ¬ Takes o.cwd p id) ∧
        (o.included = [] ∨ ∃ p ∈ o.included, Takes o.cwd p id)) ∧
      (∀ o' : Options, o'.cwd = o.cwd → (∀ p, p ∈ o'.included ↔ p ∈ o.included) →
        (∀ p, p ∈ o'.excluded ↔ p ∈ o.excluded) →
          ∃ f', ofOptions o' = .ok f' ∧ ∀ id, f'.accepts id = f.accepts id) ∧
      (∀ (o' : Options) (f' : Filter), ofOptions o' = .ok f' → o'.cwd = o.cwd → o'.included = o.included →
        o.excluded ⊆ o'.excluded → ∀ id, f'.accepts id = true → f.accepts id = true) ∧
      (∀ (o' : Options) (f' : Filter), ofOptions o' = .ok f' → o'.cwd = o.cwd → o'.excluded = o.excluded →
        o.included ≠ [] → o.included ⊆ o'.included → ∀ id, f.accepts id = true → f'.accepts id = true) := by
  refine ⟨fun p hp => ?_, fun id => accepts_eq_true_iff h, fun o' => exists_ofOptions_of_mem_iff h,
    fun o' f' h' hcwd hincluded hexcluded id => accepts_of_excluded_subset h h' hcwd hincluded hexcluded,
    fun o' f' h' hcwd hexcluded hne hincluded id => accepts_of_included_subset h h' hcwd hexcluded hne hincluded⟩
  obtain ⟨g, hg⟩ := exists_ofOptions_iff.mp ⟨f, h⟩ p hp
  exact ⟨_, ofOptions_alone hg⟩

/-- Options with patterns of four forms, one of them with a group, of which two stand below a directory. -/
def mixedOptions : Options :=
  { included := ["src/*.\x7bcss,scss\x7d", "**/a.css"], excluded := ["./src/x/**", "C:/**/*.css"], cwd := "/p/" }

theorem accepts_combines_mixedOptions :
    ∃ f, ofOptions mixedOptions = .ok f ∧
      (∃ p ∈ mixedOptions.included, Takes mixedOptions.cwd p "\\p\\src\\b.scss") ∧
      (∃ f',
        ofOptions { mixedOptions with included := mixedOptions.included.reverse ++ mixedOptions.included } = .ok f' ∧
        f'.accepts "\\p\\src\\b.scss" = true) ∧
      (∃ f', ofOptions { mixedOptions with excluded := "a" :: mixedOptions.excluded } = .ok f' ∧
        f'.accepts "C:/a.css" = false) ∧
      ∃ f', ofOptions { mixedOptions with included := "a" :: mixedOptions.included } = .ok f' ∧
        f'.accepts "\\p\\src\\b.scss" = true := by
  have hfilter : ((ofOptions mixedOptions).toOption.any fun f =>
      f.accepts "\\p\\src\\b.scss" && !f.accepts "C:/a.css") = true := by
    decide +kernel
  have hexcluded : ((ofOptions { mixedOptions with excluded := "a" :: mixedOptions.excluded }).toOption.any
      fun _ => true) = true := by
    decide +kernel
  have hincluded : ((ofOptions { mixedOptions with included := "a" :: mixedOptions.included }).toOption.any
      fun _ => true) = true := by
    decide +kernel
  obtain ⟨f, hf, hverdicts⟩ := exists_of_any_toOption hfilter
  obtain ⟨htakes, hrefuses⟩ := Bool.and_eq_true_iff.mp hverdicts
  obtain ⟨e, he, -⟩ := exists_of_any_toOption hexcluded
  obtain ⟨i, hi, -⟩ := exists_of_any_toOption hincluded
  obtain ⟨-, hverdict, hsame, hless, hmore⟩ := accepts_combines hf
  obtain ⟨-, -, hsome⟩ := (hverdict _).mp htakes
  obtain ⟨f', hf', heq⟩ := hsame
    { mixedOptions with included := mixedOptions.included.reverse ++ mixedOptions.included }
    rfl (fun p => by simp) fun p => Iff.rfl
  refine ⟨f, hf, hsome.resolve_left (by decide), ⟨f', hf', (heq _).trans htakes⟩, ⟨e, he, ?_⟩, i, hi, ?_⟩
  · rw [← Bool.not_eq_true]
    intro haccepts
    have h := hless _ e he rfl rfl (List.subset_cons_self _ _) _ haccepts
    rw [h] at hrefuses
    exact absurd hrefuses nofun
  · exact hmore _ i hi rfl rfl (by decide) (List.subset_cons_self _ _) _ htakes

end LazyStyles.Filter
