import LazyStyles.Proofs.Filter.Segments
import LazyStyles.Proofs.Glob.Width

/-!
# Directories

Relative patterns are written behind the directory, and the whole is read as one glob.  So the directory is read as a
part of the pattern: a relative pattern takes below the directory just what it takes by itself if the directory has no
characters with a meaning in patterns, and otherwise not every relative pattern does (`anchorsPatterns_exactly`).
-/

namespace LazyStyles

namespace Glob

variable {s d : List Char} {p : String} {g : Glob} {ts : List Token} {path : List UInt8}

/-! ### Behind literals -/

theorem branchTakes_literals_iff {w : List UInt8} : BranchTakes (d.map .literal) w ↔ w = bytesOf d := by
  induction d generalizing w with
  | nil =>
    constructor
    · rintro ⟨⟩
      rfl
    · rintro rfl
      exact .nil
  | cons c d ih =>
    rw [List.map_cons, branchTakes_cons_iff, bytesOf_cons]
    simp only [ih]
    constructor
    · rintro ⟨_, _, ⟨⟩, rfl, rfl⟩
      rfl
    · rintro rfl
      exact ⟨_, _, .literal c, rfl, rfl⟩

/-- Behind literals that end in a separator, a glob without `**` at the front matches what it matches by itself. -/
theorem matchesBytes_append_iff {q : String} (hts : .leading ∉ ts) :
    matchesBytes ⟨q, (d ++ ['/']).map .literal ++ ts⟩ path = true ↔
      ∃ w, path = bytesOf (d ++ ['/']) ++ w ∧ matchesBytes ⟨p, ts⟩ w = true := by
  have hne {us : List Token} (h : .leading ∉ us) : us ≠ [.leading] := fun hus => h (hus ▸ List.mem_singleton_self _)
  -- The last part of a path starts after its last separator, so what stands in front of one does not count.
  have hparent (w : List UInt8) : endsInParent (bytesOf (d ++ ['/']) ++ w) = endsInParent w := by
    have hslash : bytesOf (d ++ ['/']) ++ w = bytesOf d ++ slash :: w := by
      rw [bytesOf_append, List.append_assoc]
      rfl
    rw [hslash, endsInParent, lastPart_append_slash, endsInParent]
  simp only [matchesBytes, form, Bool.and_eq_true, describes_iff, looksAtName_formOf_append hts,
    or_iff_right (hne hts), or_iff_right (hne (leading_notMem_append hts)), branchTakes_append_iff,
    branchTakes_literals_iff]
  constructor
  · rintro ⟨hname, _, w, rfl, hw, rfl⟩
    rw [hparent] at hname
    exact ⟨w, rfl, hname, hw⟩
  · rintro ⟨w, rfl, hname, hw⟩
    rw [hparent]
    exact ⟨hname, _, w, rfl, hw, rfl⟩

/-! ### Globs of one text -/

/-- The text with `z` in the place of each `?`. -/
def withoutAny (s : List Char) : List Char :=
  s.map fun c => if c = '?' then 'z' else c

theorem branchTakes_withoutAny (hs : '*' ∉ s) : BranchTakes (s.map pieceOf) (bytesOf (withoutAny s)) := by
  induction s with
  | nil => exact .nil
  | cons c s ih =>
    obtain ⟨hstar, hs⟩ := not_or.mp (mt List.mem_cons.mpr hs)
    rw [withoutAny, List.map_cons, List.map_cons, bytesOf_cons]
    refine .cons ?_ (ih hs)
    rcases pieceOf_cases c with ⟨rfl, -⟩ | ⟨rfl, -⟩ | ⟨hany, -, hliteral⟩
    · exact .any (show (122 : UInt8) ≠ slash by decide)
    · exact absurd rfl hstar
    · rw [if_neg hany, hliteral]
      exact .literal c

/-- A glob that matches its own pattern by a wide mark matches a longer text as well. -/
theorem exists_isWidened_of_matchesBytes (hg : readTokens 0 none {} s = .ok g.tokens) (hmark : ∃ c ∈ s, c ∈ wideMarks)
    (hlast : s.getLast? ≠ some '.') (hself : g.matchesBytes (bytesOf s) = true) :
    ∃ t, g.matchesBytes (bytesOf t) = true ∧ IsWidened s t := by
  obtain ⟨p, ts⟩ := g
  rw [matchesBytes, Bool.and_eq_true, describes_iff] at hself
  rcases hself.2 with rfl | hself
  · -- `**` alone describes everything.
    exact ⟨'z' :: s, rfl, isWidened_front s⟩
  · rcases hself.length_le_or_isWidened (u := []) (v := []) (List.append_nil _).symm with hle | ⟨w, t, hw, ht, hwidened⟩
    · exact absurd hle (Nat.not_le_of_lt (branchWidth_lt hg hmark))
    · obtain rfl : bytesOf t = w := ht.trans (List.append_nil w)
      refine ⟨t, ?_, hwidened⟩
      have hparent : endsInParent (bytesOf t) = false := by
        rw [← Bool.not_eq_true]
        intro hparent
        have hpoint := getLast?_of_endsInParent hparent
        rcases hwidened.getLast with heq | heq
        · exact hlast (heq.symm.trans hpoint)
        · exact absurd (heq.symm.trans hpoint) (by decide)
      rw [matchesBytes, hparent, Bool.and_false, Bool.not_false, Bool.true_and, describes_iff]
      exact .inr hw

/-- A glob that matches no text but its own pattern has no marks. -/
theorem notMem_marks_of_matchesBytes (hg : readTokens 0 none {} s = .ok g.tokens) (hlast : s.getLast? ≠ some '.')
    (hself : g.matchesBytes (bytesOf s) = true)
    (honly : ∀ t : List Char, (∀ c ∈ t, c ∈ s ∨ c = 'z') → g.matchesBytes (bytesOf t) = true → t = s) :
    ∀ c ∈ s, c ∉ marks := by
  by_cases hwide : ∃ c ∈ s, c ∈ wideMarks
  · obtain ⟨t, ht, hwidened⟩ := exists_isWidened_of_matchesBytes hg hwide hlast hself
    obtain rfl := honly t hwidened.mem ht
    exact absurd hwidened.longer (Nat.lt_irrefl _)
  · -- Without wide marks the pattern is read character by character, and only `?` may be left of the marks.
    have hnarrow (c : Char) (hc : c ∈ s) : c ∉ wideMarks := fun hmark => hwide ⟨c, hc, hmark⟩
    have hsimple : IsSimple s := isSimple_of_readTokens hnarrow hg
    obtain ⟨p, ts⟩ := g
    obtain rfl : s.map pieceOf = ts := Except.ok.inj ((readTokens_of_isSimple hsimple).symm.trans hg)
    have hstar : '*' ∉ s := fun hc => hnarrow _ hc (by decide)
    have hany : '?' ∉ s := by
      have hmatches : matchesBytes ⟨p, s.map pieceOf⟩ (bytesOf (withoutAny s)) = true :=
        matchesBytes_map_pieceOf_iff.mpr ⟨branchTakes_withoutAny hstar, fun h => hlast h.1.2⟩
      have heq := honly (withoutAny s) (fun c hc => ?_) hmatches
      · rw [← heq]
        intro hc
        obtain ⟨d, -, hd⟩ := List.mem_map.mp hc
        split_ifs at hd with h
        · exact absurd hd (by decide)
        · exact h hd
      · obtain ⟨d, hd, rfl⟩ := List.mem_map.mp hc
        split_ifs
        · exact .inr rfl
        · exact .inl hd
    intro c hc hmark
    have hopen := hsimple.noOpening
    have hclass := hsimple.noClass
    have hclose := hsimple.noClosing
    simp only [marks, List.mem_cons, List.not_mem_nil, or_false] at hmark
    rcases hmark with rfl | rfl | rfl | rfl | rfl <;> contradiction

end Glob

namespace Filter

open Glob

variable {dir p q id : String} {f : Filter} {g : Glob} {s r : List Char}

/-! ### Patterns in front of which a directory stands -/

/-- The directory as it stands in front of patterns. -/
def stem (dir : String) : List Char :=
  dropFinalSlashes (withSlashes dir.toList)

/-- Whether a pattern depends on the directory and does not start with `./`. -/
structure IsRelative (p : String) : Prop where
  notAbsolute : isAbsolute (withSlashes p.toList) = false
  noStar : (withSlashes p.toList).head? ≠ some '*'
  notHere : ¬ ['.', '/'] <+: withSlashes p.toList

/-- Whether each relative pattern that makes a filter takes below the directory just what it takes by itself. -/
def AnchorsPatterns (dir : String) : Prop :=
  ∀ (p : String) (f : Filter), IsRelative p → ofOptions (alone none p) = .ok f →
    ∃ f', ofOptions (alone (some dir) p) = .ok f' ∧ ∀ id : String, '\x00' ∉ id.toList →
      (f'.accepts id = true ↔
        ∃ q : String, withSlashes id.toList = stem dir ++ '/' :: q.toList ∧ f.accepts q = true)

theorem dropHere_of_not_prefix (hs : ¬ ['.', '/'] <+: s) : dropHere s = s := by
  unfold dropHere
  split
  case h_1 s => exact absurd ⟨s, rfl⟩ hs
  case h_2 => rfl

theorem resolve_of_isRelative (hp : IsRelative p) :
    resolve (some dir.toList) p.toList = stem dir ++ ['/'] ++ withSlashes p.toList := by
  have hdepends : (isAbsolute (withSlashes p.toList) || (withSlashes p.toList).head? == some '*') = false := by
    rw [hp.notAbsolute, Bool.false_or, beq_eq_false_iff_ne]
    exact hp.noStar
  rw [resolve]
  simp only [hdepends, Bool.false_eq_true, if_false, dropHere_of_not_prefix hp.notHere]
  rw [stem, List.append_assoc]
  rfl

theorem stem_subset (dir : String) : stem dir ⊆ withSlashes dir.toList := fun _ h =>
  List.mem_reverse.mp ((List.dropWhile_sublist _).mem (List.mem_reverse.mp h))

theorem mem_stem_of_mem (hc : c ∈ dir.toList) (hslash : c ≠ '/') (hback : c ≠ '\\') : c ∈ stem dir := by
  have hmem : c ∈ (withSlashes dir.toList).reverse :=
    List.mem_reverse.mpr (List.mem_map.mpr ⟨c, hc, if_neg hback⟩)
  rw [stem, dropFinalSlashes, List.mem_reverse]
  rw [← List.takeWhile_append_dropWhile (p := (· == '/')) (l := (withSlashes dir.toList).reverse)] at hmem
  refine (List.mem_append.mp hmem).resolve_left fun h => hslash ?_
  have hp : (c == '/') = true := List.mem_takeWhile_imp (p := (· == '/')) h
  exact beq_iff_eq.mp hp

/-! ### Directories without marks -/

/-- Behind a directory without marks, a relative pattern is the glob that it is by itself, behind literals. -/
theorem exists_makes_of_notMem_marks (hdir : ∀ c ∈ dir.toList, c ∉ marks) (hp : IsRelative p) (h : Makes none p g) :
    .leading ∉ g.tokens ∧ ∃ q, Makes (some dir) p ⟨q, (stem dir ++ ['/']).map .literal ++ g.tokens⟩ := by
  obtain ⟨hglob, hrefused⟩ := h
  obtain ⟨ts, hts, rfl⟩ := glob_eq_ok_iff.mp hglob
  have hleading : .leading ∉ ts := leading_notMem_of_readTokens (.inr ⟨rfl, hp.noStar⟩) List.not_mem_nil hts
  have hstem : ∀ c ∈ stem dir ++ ['/'], c ∉ marks := by
    have hslash : '/' ∉ marks := by decide
    refine List.forall_mem_append.mpr ⟨fun c hc => ?_, by simpa using hslash⟩
    rcases mem_withSlashes (stem_subset dir hc) with hc | rfl
    · exact hdir c hc
    · exact hslash
  refine ⟨hleading, _, glob_eq_ok_iff.mpr ⟨_, ?_, rfl⟩, ?_⟩
  · rw [Option.map_some, resolve_of_isRelative hp, readTokens_append_eq_map hstem hp.noStar]
    exact map_eq_ok_iff.mpr ⟨ts, hts, rfl⟩
  · -- What was not searched for is not searched for behind literals either, and these do not nest.
    rw [isRefused_eq, Bool.and_eq_false_iff] at hrefused ⊢
    refine hrefused.imp (fun hform => ?_) fun hdeep => ?_
    · rw [← Bool.not_eq_true] at hform ⊢
      exact mt (isSearched_of_append hleading) hform
    · rw [isTooDeep, depth_append hleading]
      exact hdeep

theorem anchorsPatterns_of_notMem_marks (hdir : ∀ c ∈ dir.toList, c ∉ marks) : AnchorsPatterns dir := by
  intro p f hp hf
  obtain ⟨g, hg, rfl⟩ := ofOptions_alone_iff.mp hf
  obtain ⟨hleading, q, hmakes⟩ := exists_makes_of_notMem_marks hdir hp hg
  refine ⟨_, ofOptions_alone hmakes, fun id hid => ?_⟩
  rw [accepts_alone_iff, and_iff_right hid, matchesBytes_append_iff (p := g.pattern) hleading, pathOf]
  simp only [accepts_alone_iff, pathOf]
  have hback := backslash_notMem_withSlashes id.toList
  constructor
  · rintro ⟨w, hpath, hw⟩
    obtain ⟨r, hr, rfl⟩ := exists_of_bytesOf_eq_append hpath
    have hmem {c : Char} (hc : c ∈ r) : c ∈ withSlashes id.toList := hr ▸ List.mem_append_right _ hc
    refine ⟨String.ofList r, by rw [hr, String.toList_ofList, List.append_assoc]; rfl, ?_⟩
    rw [String.toList_ofList, withSlashes_eq_self (mt hmem hback)]
    exact ⟨fun hc => (mem_withSlashes (hmem hc)).elim hid (by decide), hw⟩
  · rintro ⟨q, hq, -, hw⟩
    rw [hq] at hback ⊢
    rw [withSlashes_eq_self fun hc => hback (by simp [hc])] at hw
    exact ⟨_, by rw [← bytesOf_append, List.append_assoc]; rfl, hw⟩

/-! ### Directories with marks -/

/-- A pattern without marks makes a filter that accepts its own text only. -/
theorem exists_accepts_iff_eq (hp : ∀ c ∈ withSlashes p.toList, c ∉ marks) :
    ∃ f, ofOptions (alone none p) = .ok f ∧
      ∀ id, f.accepts id = true ↔ '\x00' ∉ id.toList ∧ withSlashes id.toList = withSlashes p.toList := by
  have hstar : '*' ∉ withSlashes p.toList := fun h => hp _ h (by decide)
  have hany : '?' ∉ withSlashes p.toList := fun h => hp _ h (by decide)
  have hsimple : IsSimple (withSlashes p.toList) :=
    ⟨fun h => hp _ h (by decide), fun h => hp _ h (by decide), fun h => hp _ h (by decide),
      fun h => hstar (h.mem List.mem_cons_self)⟩
  refine ⟨_, ofOptions_alone (makes_of_isSimple hsimple), fun id => ?_⟩
  have hpoint : ¬ EndsInPoint (withSlashes p.toList) := fun h => h.1.elim hstar hany
  rw [accepts_alone_iff, matchesBytes_map_pieceOf_iff, map_pieceOf_eq_map_literal hstar hany,
    branchTakes_literals_iff, pathOf]
  exact and_congr_right fun _ => ⟨fun h => bytesOf_injective h.1, fun h => ⟨congrArg bytesOf h, fun h => hpoint h.1⟩⟩

/-- Where patterns are anchored, the glob of the file `a` matches the text that it is read from and no other. -/
theorem exists_matchesBytes_iff_eq (h : AnchorsPatterns dir) :
    ∃ g : Glob, readTokens 0 none {} (stem dir ++ ['/', 'a']) = .ok g.tokens ∧
      ∀ t : List Char, (∀ c ∈ t, c ≠ '\x00' ∧ c ≠ '\\') →
        (g.matchesBytes (bytesOf t) = true ↔ t = stem dir ++ ['/', 'a']) := by
  have hrelative : IsRelative "a" := ⟨by decide, by decide, by decide⟩
  obtain ⟨f, hf, hletter⟩ := exists_accepts_iff_eq (p := "a") (by simp [withSlashes, marks])
  obtain ⟨f', hf', haccepts⟩ := h "a" f hrelative hf
  obtain ⟨g, hg, rfl⟩ := ofOptions_alone_iff.mp hf'
  have hts := readTokens_of_glob hg.1
  rw [Option.map_some, resolve_of_isRelative hrelative, List.append_assoc] at hts
  refine ⟨g, hts, fun t ht => ?_⟩
  have hnull : '\x00' ∉ t := fun hc => (ht _ hc).1 rfl
  have hback : '\\' ∉ t := fun hc => (ht _ hc).2 rfl
  have hid := haccepts (String.ofList t) (by rwa [String.toList_ofList])
  rw [accepts_alone_iff, pathOf, String.toList_ofList, and_iff_right hnull, withSlashes_eq_self hback] at hid
  rw [hid]
  simp only [hletter]
  constructor
  · rintro ⟨q, rfl, -, hq⟩
    rw [withSlashes_eq_self fun hc => hback (by simp [hc])] at hq
    rw [hq]
    rfl
  · rintro rfl
    exact ⟨"a", rfl, by decide, rfl⟩

theorem notMem_marks_of_anchorsPatterns (hnull : '\x00' ∉ dir.toList) (h : AnchorsPatterns dir) :
    ∀ c ∈ dir.toList, c ∉ marks := by
  obtain ⟨g, hg, hmatches⟩ := exists_matchesBytes_iff_eq h
  have hplain : ∀ c ∈ stem dir ++ ['/', 'a'], c ≠ '\x00' ∧ c ≠ '\\' := by
    refine List.forall_mem_append.mpr ⟨fun c hc => ⟨?_, ?_⟩, by simp⟩
    · rintro rfl
      exact (mem_withSlashes (stem_subset dir hc)).elim hnull (by decide)
    · rintro rfl
      exact backslash_notMem_withSlashes _ (stem_subset dir hc)
  have honly (t : List Char) (ht : ∀ c ∈ t, c ∈ stem dir ++ ['/', 'a'] ∨ c = 'z')
      (hmatch : g.matchesBytes (bytesOf t) = true) : t = stem dir ++ ['/', 'a'] := by
    refine (hmatches t fun c hc => ?_).mp hmatch
    rcases ht c hc with hc | rfl
    · exact hplain c hc
    · decide
  have hmarks := notMem_marks_of_matchesBytes hg (by simp) ((hmatches _ hplain).mpr rfl) honly
  intro c hc hmark
  refine hmarks c (List.mem_append_left _ (mem_stem_of_mem hc ?_ ?_)) hmark
  all_goals
    rintro rfl
    exact absurd hmark (by decide)

/-- Where a directory has no characters with a meaning in patterns, a relative pattern that makes a filter by itself
makes one below the directory, which accepts an id exactly if that is the directory, a separator and an id that the
pattern accepts by itself.  A directory without null characters in which there are such characters misleads a
pattern. -/
theorem anchorsPatterns_exactly (dir : String) :
    ((∀ c ∈ dir.toList, c ∉ marks) → AnchorsPatterns dir) ∧
      ('\x00' ∉ dir.toList → (AnchorsPatterns dir ↔ ∀ c ∈ dir.toList, c ∉ marks)) :=
  ⟨anchorsPatterns_of_notMem_marks, fun hnull =>
    ⟨notMem_marks_of_anchorsPatterns hnull, anchorsPatterns_of_notMem_marks⟩⟩

theorem anchorsPatterns_exactly_project :
    AnchorsPatterns "C:\\my project\\" ∧ ¬ AnchorsPatterns "/[p]roject" := by
  refine ⟨(anchorsPatterns_exactly "C:\\my project\\").1 (by simp [marks]), fun h => ?_⟩
  exact absurd (((anchorsPatterns_exactly "/[p]roject").2 (by decide)).mp h) (by simp [marks])

/-- Where the name of a directory is a class, what is in the directory is refused, and what is in another one
accepted. -/
theorem not_anchorsPatterns_class :
    ¬ AnchorsPatterns "/w[1]" ∧ ∃ f, ofOptions (alone (some "/w[1]") "a.css") = .ok f ∧
      f.accepts "/w[1]/a.css" = false ∧ f.accepts "/w1/a.css" = true := by
  have hbelow : ((ofOptions (alone (some "/w[1]") "a.css")).toOption.any fun f =>
      !f.accepts "/w[1]/a.css" && f.accepts "/w1/a.css") = true := by
    decide +kernel
  have hitself : ((ofOptions (alone none "a.css")).toOption.any (·.accepts "a.css")) = true := by decide +kernel
  obtain ⟨f, hf, hverdicts⟩ := exists_of_any_toOption hbelow
  obtain ⟨f₀, hf₀, haccepts⟩ := exists_of_any_toOption hitself
  rw [Bool.and_eq_true, Bool.not_eq_true'] at hverdicts
  refine ⟨fun h => ?_, f, hf, hverdicts⟩
  obtain ⟨f', hf', hbelow⟩ := h "a.css" f₀ ⟨by decide, by decide, by decide⟩ hf₀
  obtain rfl : f' = f := Except.ok.inj (hf'.symm.trans hf)
  have hid := (hbelow "/w[1]/a.css" (by decide)).mpr ⟨"a.css", by decide, haccepts⟩
  rw [hid] at hverdicts
  exact absurd hverdicts.1 nofun

end Filter

end LazyStyles
