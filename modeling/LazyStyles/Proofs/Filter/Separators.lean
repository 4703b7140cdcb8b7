import LazyStyles.Filter
import LazyStyles.Proofs.Steps
import Mathlib.Tactic.SplitIfs

/-!
# Separators

Whether a separator is written as `/` or as `\` makes no difference to a filter.  Everything that is decided about
patterns, the directory and ids is decided about them with slashes for separators: options with slashes make what the
options make, but that an error then names a pattern with slashes (`ofOptions_slashed`), and an id with slashes gets
the verdict of the id (`accepts_slashed`).  Options that differ only in how separators are written are the same with
slashes, so they make filters with the same verdicts, or fail alike (`ofOptions_alike`).
-/

namespace LazyStyles.Filter

variable {s t : String} {o o' : Options}

/-! ### Texts that are alike -/

/-- The two ways to write a separator. -/
def IsSeparator (c : Char) : Prop :=
  c = '/' ∨ c = '\\'

/-- Whether two texts differ only in how separators are written. -/
def Alike (s t : String) : Prop :=
  List.Forall₂ (fun c d => c = d ∨ IsSeparator c ∧ IsSeparator d) s.toList t.toList

/-- Whether options differ only in how separators are written, in any of their texts. -/
structure AreAlike (o o' : Options) : Prop where
  included : List.Forall₂ Alike o.included o'.included
  excluded : List.Forall₂ Alike o.excluded o'.excluded
  cwd : Option.Rel Alike o.cwd o'.cwd

/-- A text with slashes for separators. -/
def slashed (s : String) : String :=
  String.ofList (withSlashes s.toList)

/-- Options with slashes for separators. -/
def slashedOptions (o : Options) : Options where
  included := o.included.map slashed
  excluded := o.excluded.map slashed
  cwd := o.cwd.map slashed

/-- An error that names its pattern with slashes for separators. -/
def Error.slashed (e : Error) : Error :=
  { e with pattern := Filter.slashed e.pattern }

theorem toList_slashed (s : String) : (slashed s).toList = withSlashes s.toList :=
  String.toList_ofList

theorem withSlashes_withSlashes (s : List Char) : withSlashes (withSlashes s) = withSlashes s :=
  withSlashes_eq_self (backslash_notMem_withSlashes s)

/-- Characters that differ only in how a separator is written are the same with slashes. -/
theorem eq_or_isSeparator_iff {c d : Char} :
    c = d ∨ IsSeparator c ∧ IsSeparator d ↔ (if c = '\\' then '/' else c) = if d = '\\' then '/' else d := by
  unfold IsSeparator
  -- There are four cases, by which of the two is the separator that is rewritten.
  split_ifs with hc hd hd
  · exact iff_of_true (.inl (hc.trans hd.symm)) rfl
  · constructor
    · rintro (rfl | ⟨-, hd | hd⟩)
      · exact absurd hc hd
      · exact hd.symm
      · contradiction
    · intro h
      exact .inr ⟨.inr hc, .inl h.symm⟩
  · constructor
    · rintro (rfl | ⟨hc | hc, -⟩)
      · contradiction
      · exact hc
      · contradiction
    · intro h
      exact .inr ⟨.inl h, .inr hd⟩
  · constructor
    · rintro (h | ⟨hc | hc, hd | hd⟩)
      · exact h
      · exact hc.trans hd.symm
      all_goals contradiction
    · exact .inl

/-- Texts are alike exactly if they are the same with slashes. -/
theorem alike_iff : Alike s t ↔ slashed s = slashed t := by
  unfold Alike
  simp only [eq_or_isSeparator_iff]
  rw [← String.toList_inj, toList_slashed, toList_slashed, withSlashes, withSlashes, ← List.forall₂_eq_eq_eq,
    List.forall₂_map_left_iff, List.forall₂_map_right_iff]

theorem slashed_append (s t : String) : slashed (s ++ t) = slashed s ++ slashed t := by
  rw [slashed, String.toList_append, withSlashes, List.map_append, String.ofList_append]
  rfl

/-- Options that are alike are the same with slashes. -/
theorem AreAlike.slashedOptions_eq (h : AreAlike o o') : slashedOptions o = slashedOptions o' := by
  have hmap : ∀ {ps qs : List String}, List.Forall₂ Alike ps qs → ps.map slashed = qs.map slashed := by
    intro ps qs hps
    simp only [← List.forall₂_eq_eq_eq, List.forall₂_map_left_iff, List.forall₂_map_right_iff, ← alike_iff]
    exact hps
  have hoption : ∀ {d e : Option String}, Option.Rel Alike d e → d.map slashed = e.map slashed := by
    intro d e hd
    cases hd with
    | none => rfl
    | some h => exact congrArg some (alike_iff.mp h)
  rw [slashedOptions, slashedOptions, hmap h.included, hmap h.excluded, hoption h.cwd]

/-! ### Options with slashes -/

/-- A pattern is resolved only once it and the directory have slashes for separators. -/
theorem resolve_withSlashes (cwd : Option (List Char)) (p : List Char) :
    resolve (cwd.map withSlashes) (withSlashes p) = resolve cwd p := by
  cases cwd <;> simp only [resolve, Option.map_some, Option.map_none, withSlashes_withSlashes]

/-- Patterns that are joined get slashes one by one. -/
theorem slashed_intercalate (ps : List String) :
    slashed (", ".intercalate ps) = ", ".intercalate (ps.map slashed) := by
  have hcomma : slashed ", " = ", " := rfl
  induction ps with
  | nil => rfl
  | cons p ps ih =>
    cases ps with
    | nil => rw [List.map_singleton, String.intercalate_singleton, String.intercalate_singleton]
    | cons q ps =>
      rw [String.intercalate_cons_cons, slashed_append, slashed_append, hcomma, ih]
      exact String.intercalate_cons_cons.symm

theorem globs_slashed (role : Role) (cwd : Option String) (ps : List String) :
    globs role (cwd.map slashed) (ps.map slashed) = (globs role cwd ps).mapError Error.slashed := by
  have hcwd : (cwd.map slashed).map String.toList = (cwd.map String.toList).map withSlashes := by
    cases cwd with
    | none => rfl
    | some dir => exact congrArg some (toList_slashed dir)
  unfold globs
  rw [mapError_mapM, List.mapM_map]
  refine congrArg (ps.mapM ·) (funext fun p => ?_)
  simp only [Function.comp_apply, toList_slashed, hcwd, resolve_withSlashes]
  cases Glob.ofPattern (String.ofList (resolve (cwd.map String.toList) p.toList)) <;> rfl

theorem set?_slashed (role : Role) (cwd : Option String) (ps : List String) :
    set? role (cwd.map slashed) (ps.map slashed) = (set? role cwd ps).mapError Error.slashed := by
  unfold set?
  rw [List.isEmpty_map]
  cases ps.isEmpty with
  | true => rfl
  | false =>
    simp only [Bool.false_eq_true, if_false]
    rw [globs_slashed, mapError_bind]
    refine congrArg _ (funext fun gs => ?_)
    cases tooDeep? gs with
    | none => rfl
    | some cause =>
      rw [← slashed_intercalate]
      rfl

/-- Options with slashes make what the options make; an error names the pattern as it then is. -/
theorem ofOptions_slashed (o : Options) :
    ofOptions (slashedOptions o) = (ofOptions o).mapError Error.slashed := by
  unfold ofOptions
  rw [mapError_bind]
  simp only [mapError_bind]
  rw [slashedOptions, set?_slashed, set?_slashed]
  rfl

/-- An id with slashes gets the verdict of the id. -/
theorem accepts_slashed (f : Filter) (id : String) : f.accepts (slashed id) = f.accepts id := by
  have hnull : (withSlashes id.toList).contains '\x00' = id.toList.contains '\x00' := by
    rw [Bool.eq_iff_iff, List.contains_iff_mem, List.contains_iff_mem]
    constructor
    · intro h
      exact (mem_withSlashes h).resolve_right (by decide)
    · intro h
      exact List.mem_map.mpr ⟨_, h, rfl⟩
  unfold accepts
  rw [toList_slashed, hnull, withSlashes_withSlashes]

/-! ### Options that are alike -/

/-- Options that differ only in how separators are written make filters or fail together.  The filters give the same
verdict on ids that are alike, and the errors name the same list, for the same cause, and patterns that are alike. -/
theorem ofOptions_alike (h : AreAlike o o') :
    ((∃ f, ofOptions o = .ok f) ↔ ∃ f', ofOptions o' = .ok f') ∧
      (∀ f f', ofOptions o = .ok f → ofOptions o' = .ok f' →
        ∀ id id', Alike id id' → f.accepts id = f'.accepts id') ∧
      ∀ e e', ofOptions o = .error e → ofOptions o' = .error e' →
        e.role = e'.role ∧ e.cause = e'.cause ∧ Alike e.pattern e'.pattern := by
  have hresult : (ofOptions o).mapError Error.slashed = (ofOptions o').mapError Error.slashed := by
    rw [← ofOptions_slashed, ← ofOptions_slashed, h.slashedOptions_eq]
  have hok : ∀ f, ofOptions o = .ok f ↔ ofOptions o' = .ok f := by
    intro f
    rw [← mapError_eq_ok_iff (f := Error.slashed), hresult, mapError_eq_ok_iff]
  refine ⟨exists_congr hok, ?_, ?_⟩
  · intro f f' hf hf' id id' hid
    obtain rfl : f = f' := Except.ok.inj (((hok f).mp hf).symm.trans hf')
    rw [← accepts_slashed f id, ← accepts_slashed f id', alike_iff.mp hid]
  · intro e e' he he'
    have hslashed : e.slashed = e'.slashed := by
      rw [he, he'] at hresult
      exact Except.error.inj hresult
    obtain ⟨hrole, hpattern, hcause⟩ := Error.mk.inj hslashed
    exact ⟨hrole, hcause, alike_iff.mpr hpattern⟩

/-- Options about a directory on a drive, with one pattern to exclude. -/
def onDrive (dir here excluded : String) : Options :=
  { included := [here], excluded := [excluded], cwd := some dir }

/-- Whichever way they are written, files on the drive are accepted; and the class that is not closed is found. -/
theorem ofOptions_alike_onDrive :
    (∃ f f', ofOptions (onDrive "C:/p/" "./src/*.css" "/tmp/**") = .ok f ∧
      ofOptions (onDrive "C:\\p\\" ".\\src/*.css" "\\tmp/**") = .ok f' ∧
        f.accepts "C:/p/src/a.css" = true ∧ f'.accepts "C:\\p/src\\a.css" = true) ∧
      ∃ e e', ofOptions (onDrive "C:/p/" "./src/*.css" "b/[") = .error e ∧
        ofOptions (onDrive "C:\\p\\" ".\\src/*.css" "b\\[") = .error e' ∧
          e.cause = .notGlob "C:/p/b/[" .unclosedClass ∧ e'.cause = e.cause ∧ e'.pattern ≠ e.pattern := by
  have hdir : Alike "C:/p/" "C:\\p\\" := alike_iff.mpr (by decide)
  have hhere : Alike "./src/*.css" ".\\src/*.css" := alike_iff.mpr (by decide)
  have hexcluded : Alike "/tmp/**" "\\tmp/**" := alike_iff.mpr (by decide)
  have hclass : Alike "b/[" "b\\[" := alike_iff.mpr (by decide)
  constructor
  · have halike : AreAlike (onDrive "C:/p/" "./src/*.css" "/tmp/**")
        (onDrive "C:\\p\\" ".\\src/*.css" "\\tmp/**") :=
      ⟨.cons hhere .nil, .cons hexcluded .nil, .some hdir⟩
    have h := ofOptions_alike halike
    have hverdict : ((ofOptions (onDrive "C:/p/" "./src/*.css" "/tmp/**")).toOption.any
        (·.accepts "C:/p/src/a.css")) = true := by
      decide +kernel
    obtain ⟨f, hf, haccepts⟩ := exists_of_any_toOption hverdict
    obtain ⟨f', hf'⟩ := h.1.mp ⟨f, hf⟩
    have hid : Alike "C:/p/src/a.css" "C:\\p/src\\a.css" := alike_iff.mpr (by decide)
    exact ⟨f, f', hf, hf', haccepts, (h.2.1 f f' hf hf' _ _ hid).symm.trans haccepts⟩
  · have halike : AreAlike (onDrive "C:/p/" "./src/*.css" "b/[")
        (onDrive "C:\\p\\" ".\\src/*.css" "b\\[") :=
      ⟨.cons hhere .nil, .cons hclass .nil, .some hdir⟩
    have h := ofOptions_alike halike
    have he : ofOptions (onDrive "C:/p/" "./src/*.css" "b/[") =
        .error ⟨.excluded, "b/[", .notGlob "C:/p/b/[" .unclosedClass⟩ := by
      rw [← map_eq_error_iff (f := fun _ => ())]
      decide +kernel
    have he' : ofOptions (onDrive "C:\\p\\" ".\\src/*.css" "b\\[") =
        .error ⟨.excluded, "b\\[", .notGlob "C:/p/b/[" .unclosedClass⟩ := by
      rw [← map_eq_error_iff (f := fun _ => ())]
      decide +kernel
    exact ⟨_, _, he, he', rfl, (h.2.2 _ _ he he').2.1.symm, by decide⟩

end LazyStyles.Filter
