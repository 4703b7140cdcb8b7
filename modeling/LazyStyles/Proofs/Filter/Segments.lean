import LazyStyles.Proofs.Filter.Combination
import LazyStyles.Proofs.Glob.Bytes
import LazyStyles.Proofs.Glob.Form
import LazyStyles.Proofs.Glob.Language
import LazyStyles.Proofs.Glob.Reading

/-!
# Segments

A pattern without classes, groups and `**` is matched segment by segment (`Glob.branchTakes_map_pieceOf_iff`): a path
has as many segments as the pattern, and each matches the one of the pattern in its place.  One kind of path is never
matched, though: a pattern with wildcards that ends in a point takes no path that ends in the segment `..`
(`Filter.accepts_of_isSimple`).
-/

namespace LazyStyles

namespace Glob

variable {c : Char} {s : List Char} {t : Token} {ts : List Token} {u v w y path : List UInt8} {ys : List (List UInt8)}

/-! ### One segment -/

/-- Whether bytes match a segment of a pattern: a star stands for any bytes, `?` for any one byte, and every other
character for its own bytes. -/
inductive SegmentMatches : List Char → List UInt8 → Prop where
  | nil : SegmentMatches [] []
  | star {s : List Char} {v w : List UInt8} (h : SegmentMatches s w) : SegmentMatches ('*' :: s) (v ++ w)
  | any {s : List Char} {b : UInt8} {w : List UInt8} (h : SegmentMatches s w) : SegmentMatches ('?' :: s) (b :: w)
  | char {c : Char} {s : List Char} {w : List UInt8} (hstar : c ≠ '*') (hany : c ≠ '?') (h : SegmentMatches s w) :
    SegmentMatches (c :: s) (String.utf8EncodeChar c ++ w)

theorem segmentMatches_cons (hu : (pieceOf c).Takes u) (hv : SegmentMatches s v) :
    SegmentMatches (c :: s) (u ++ v) := by
  rcases pieceOf_cases c with ⟨rfl, -⟩ | ⟨rfl, -⟩ | ⟨hany, hstar, hliteral⟩
  · cases hu with
    | any => exact .any hv
  · exact .star hv
  · rw [hliteral] at hu
    cases hu with
    | literal => exact .char hstar hany hv

/-- What matches a segment starts with a part that the piece of its first character takes. -/
theorem exists_of_segmentMatches_cons (hw : slash ∉ w) (h : SegmentMatches (c :: s) w) :
    ∃ u v, w = u ++ v ∧ (pieceOf c).Takes u ∧ SegmentMatches s v := by
  cases h with
  | @star _ u v h => exact ⟨u, v, rfl, .star (mt (List.mem_append_left v) hw), h⟩
  | @any _ b v h => exact ⟨[b], v, rfl, .any fun hb => hw (hb ▸ List.mem_cons_self), h⟩
  | char hstar hany h =>
    refine ⟨_, _, rfl, ?_, h⟩
    rw [pieceOf_of_ne hany hstar]
    exact .literal c

theorem slash_notMem_of_takes (hc : c ≠ '/') (h : (pieceOf c).Takes u) : slash ∉ u := by
  rcases pieceOf_cases c with ⟨rfl, -⟩ | ⟨rfl, -⟩ | ⟨-, -, hliteral⟩
  · cases h with
    | any hb => simpa using Ne.symm hb
  · cases h with
    | star hw => exact hw
  · rw [hliteral] at h
    cases h with
    | literal => exact mt slash_mem_utf8EncodeChar_iff.mp hc

/-! ### All segments -/

/-- What the first segment of a path starts with, the path starts with. -/
theorem exists_of_splitOn_eq_cons (h : path.splitOn slash = (u ++ y) :: ys) :
    slash ∉ u ∧ ∃ v, path = u ++ v ∧ v.splitOn slash = y :: ys := by
  induction u generalizing path with
  | nil => exact ⟨List.not_mem_nil, path, rfl, h⟩
  | cons b u ih =>
    cases path with
    | nil => exact absurd (List.cons.inj h).1 nofun
    | cons a path =>
      rw [List.splitOn_cons_eq_if_modifyHead] at h
      split_ifs at h with ha
      · exact absurd (List.cons.inj h).1 nofun
      · obtain ⟨x, xs, hpath⟩ := List.exists_cons_of_ne_nil (List.splitOn_ne_nil slash path)
        rw [hpath] at h
        obtain ⟨hx, rfl⟩ := List.cons.inj h
        obtain ⟨rfl, rfl⟩ := List.cons.inj hx
        obtain ⟨hu, v, rfl, hv⟩ := ih hpath
        refine ⟨fun hmem => ?_, v, rfl, hv⟩
        exact (List.mem_cons.mp hmem).elim (fun h => ha (beq_iff_eq.mpr h.symm)) hu

/-- A first segment that matches nothing ends at a separator in front. -/
theorem forall₂_nil_cons_iff {ps : List (List Char)} (hps : ps ≠ []) :
    List.Forall₂ SegmentMatches ([] :: ps) (path.splitOn slash) ↔
      ∃ w, path = slash :: w ∧ List.Forall₂ SegmentMatches ps (w.splitOn slash) := by
  have hcons (w : List UInt8) : (slash :: w).splitOn slash = [] :: w.splitOn slash :=
    List.splitOn_cons_eq_if_modifyHead slash w
  constructor
  · intro h
    obtain ⟨z, ys, hz, hys, hsplit⟩ := List.forall₂_cons_left_iff.mp h
    obtain rfl : z = [] := by
      cases hz
      rfl
    cases path with
    | nil =>
      obtain rfl : ys = [] := (List.cons.inj hsplit).2.symm
      exact absurd (List.forall₂_nil_right_iff.mp hys) hps
    | cons b w =>
      by_cases hb : b = slash
      · subst hb
        rw [hcons] at hsplit
        exact ⟨w, rfl, (List.cons.inj hsplit).2 ▸ hys⟩
      · -- A byte that is no separator would be in the first segment.
        have hsplit' : ([b] ++ w).splitOn slash = [] :: ys := hsplit
        rw [splitOn_append_of_notMem (by simpa using Ne.symm hb)] at hsplit'
        obtain ⟨x, xs, hw⟩ := List.exists_cons_of_ne_nil (List.splitOn_ne_nil slash w)
        rw [hw] at hsplit'
        exact absurd (List.cons.inj hsplit').1 nofun
  · rintro ⟨w, rfl, h⟩
    rw [hcons]
    exact .cons .nil h

/-- Pieces of single characters take a path segment by segment. -/
theorem branchTakes_map_pieceOf_iff :
    BranchTakes (s.map pieceOf) path ↔ List.Forall₂ SegmentMatches (s.splitOn '/') (path.splitOn slash) := by
  induction s generalizing path with
  | nil =>
    constructor
    · intro h
      cases h
      exact .cons .nil .nil
    · intro h
      obtain ⟨z, ys, hz, hys, hsplit⟩ := List.forall₂_cons_left_iff.mp h
      obtain rfl := List.forall₂_nil_left_iff.mp hys
      cases hz
      have hpath : path = [] := calc
        path = [slash].intercalate (path.splitOn slash) := (List.intercalate_splitOn slash).symm
        _ = [] := by rw [hsplit]; rfl
      rw [hpath]
      exact .nil
  | cons c s ih =>
    rw [List.map_cons, branchTakes_cons_iff, List.splitOn_cons_eq_if_modifyHead]
    simp only [ih]
    by_cases hc : c = '/'
    · -- A separator takes a separator, which ends the segment in front of it on both sides.
      subst hc
      rw [if_pos (beq_self_eq_true _), forall₂_nil_cons_iff (List.splitOn_ne_nil '/' s)]
      have hslash : pieceOf '/' = .literal '/' := pieceOf_of_ne (by decide) (by decide)
      rw [hslash]
      constructor
      · rintro ⟨_, v, ⟨⟩, hv, rfl⟩
        exact ⟨v, rfl, hv⟩
      · rintro ⟨w, rfl, hw⟩
        exact ⟨_, w, .literal '/', hw, rfl⟩
    · -- Any other character is the first of the first segment, and its piece takes no separator.
      obtain ⟨x, xs, hs⟩ := List.exists_cons_of_ne_nil (List.splitOn_ne_nil '/' s)
      rw [if_neg (by simpa using hc), hs, List.modifyHead_cons]
      constructor
      · rintro ⟨u, v, hu, hv, rfl⟩
        obtain ⟨y, ys, hy, hys, hsplit⟩ := List.forall₂_cons_left_iff.mp hv
        rw [splitOn_append_of_notMem (slash_notMem_of_takes hc hu), hsplit]
        exact .cons (segmentMatches_cons hu hy) hys
      · intro h
        obtain ⟨z, ys, hz, hys, hsplit⟩ := List.forall₂_cons_left_iff.mp h
        have hslash := (exists_of_splitOn_eq_cons (hsplit.trans (congrArg (· :: ys) (List.append_nil z).symm))).1
        obtain ⟨u, y, rfl, hu, hy⟩ := exists_of_segmentMatches_cons hslash hz
        obtain ⟨-, v, rfl, hv⟩ := exists_of_splitOn_eq_cons hsplit
        exact ⟨u, v, hu, hv ▸ .cons hy hys, rfl⟩

/-! ### The segment `..` -/

/-- Whether a pattern has wildcards and ends in a point. -/
def EndsInPoint (s : List Char) : Prop :=
  ('*' ∈ s ∨ '?' ∈ s) ∧ s.getLast? = some '.'

theorem leading_notMem_map_pieceOf (s : List Char) : .leading ∉ s.map pieceOf := by
  intro h
  obtain ⟨c, -, hc⟩ := List.mem_map.mp h
  unfold pieceOf at hc
  split_ifs at hc

theorem map_pieceOf_eq_map_literal (hstar : '*' ∉ s) (hany : '?' ∉ s) : s.map pieceOf = s.map .literal :=
  List.map_congr_left fun _ hc => pieceOf_of_ne (ne_of_mem_of_not_mem hc hany) (ne_of_mem_of_not_mem hc hstar)

theorem areLiteral_map_pieceOf_iff : AreLiteral (s.map pieceOf) ↔ '*' ∉ s ∧ '?' ∉ s := by
  constructor
  · rintro ⟨cs, h⟩
    have hliteral (c : Char) (hc : c ∈ s) : ∃ d, pieceOf c = .literal d := by
      obtain ⟨d, -, hd⟩ := List.mem_map.mp (h ▸ List.mem_map_of_mem hc)
      exact ⟨d, hd.symm⟩
    constructor
    · intro hstar
      obtain ⟨d, hd⟩ := hliteral _ hstar
      exact absurd hd nofun
    · intro hany
      obtain ⟨d, hd⟩ := hliteral _ hany
      exact absurd hd nofun
  · rintro ⟨hstar, hany⟩
    exact ⟨s, map_pieceOf_eq_map_literal hstar hany⟩

/-- The pattern of a path that ends in the segment `..` ends in a point if it ends in an extension. -/
theorem endsInExtension_iff (h : BranchTakes (s.map pieceOf) path) (hpath : endsInParent path = true) :
    endsInExtension (s.map pieceOf).reverse = true ↔ s.getLast? = some '.' := by
  cases s using List.reverseRecOn with
  | nil => simp [endsInExtension]
  | append_singleton s c =>
    rw [List.getLast?_concat, Option.some_inj, List.map_append, List.reverse_append]
    constructor
    · intro hext
      rcases pieceOf_cases c with ⟨rfl, -⟩ | ⟨rfl, -⟩ | ⟨-, -, hliteral⟩
      · exact absurd hext Bool.false_ne_true
      · exact absurd hext Bool.false_ne_true
      · rw [List.map_append, List.map_singleton, hliteral, branchTakes_append_iff] at h
        obtain ⟨u, _, -, hc, rfl⟩ := h
        cases hc with
        | cons hc hnil =>
          cases hc
          cases hnil
          rw [List.append_nil] at hpath
          exact eq_point_of_endsInParent hpath
    · rintro rfl
      rfl

/-- The last part of a path that ends in the segment `..` is looked at for a pattern with wildcards that ends in a
point. -/
theorem looksAtName_map_pieceOf_iff (h : BranchTakes (s.map pieceOf) path) (hpath : endsInParent path = true) :
    (formOf (s.map pieceOf)).looksAtName = true ↔ EndsInPoint s := by
  rw [looksAtName_formOf_iff (leading_notMem_map_pieceOf s), areLiteral_map_pieceOf_iff, endsInExtension_iff h hpath,
    EndsInPoint, not_and_or, not_not, not_not]

/-- Pieces of single characters match the paths that they take, but for those that end in the segment `..` if they have
wildcards and end in a point. -/
theorem matchesBytes_map_pieceOf_iff {p : String} :
    matchesBytes ⟨p, s.map pieceOf⟩ path = true ↔
      BranchTakes (s.map pieceOf) path ∧ ¬ (EndsInPoint s ∧ endsInParent path = true) := by
  have hleading : s.map pieceOf ≠ [.leading] := fun h =>
    leading_notMem_map_pieceOf s (h ▸ List.mem_singleton_self _)
  rw [matchesBytes, form, Bool.and_eq_true, describes_iff, or_iff_right hleading, Bool.not_eq_true', and_comm,
    ← Bool.not_eq_true, Bool.and_eq_true]
  refine and_congr_right fun h => not_congr (and_congr_left fun hpath => ?_)
  exact looksAtName_map_pieceOf_iff h hpath

theorem items_pieceOf_le (c : Char) : ∀ n ∈ (pieceOf c).items, n ≤ 2 := by
  unfold pieceOf
  split_ifs <;> simp [Token.items]

theorem branchItems_map_pieceOf_le (s : List Char) : ∀ n ∈ branchItems (s.map pieceOf), n ≤ 2 := by
  induction s with
  | nil => exact List.forall_mem_nil _
  | cons c s ih => exact List.forall_mem_append.mpr ⟨items_pieceOf_le c, ih⟩

/-- Pieces of single characters do not nest deeply. -/
theorem isTooDeep_map_pieceOf {p : String} : isTooDeep ⟨p, s.map pieceOf⟩ = false := by
  have hmax (ns : List Nat) (hns : ∀ n ∈ ns, n ≤ 2) : ns.foldl max 0 ≤ 2 :=
    List.foldlRecOn (motive := (· ≤ 2)) ns max (Nat.zero_le 2) fun m hm n hn => max_le hm (hns n hn)
  rw [isTooDeep, depth_of_leading_notMem (leading_notMem_map_pieceOf s), decide_eq_false_iff_not]
  have hle := hmax _ (branchItems_map_pieceOf_le s)
  unfold depthLimit
  omega

end Glob

namespace Filter

open Glob

variable {p id : String}

/-- The parts of a text between its separators, which may be written either way. -/
def segments (s : String) : List (List Char) :=
  (withSlashes s.toList).splitOn '/'

/-- A pattern without classes, groups and `**` is a glob of single characters. -/
theorem makes_of_isSimple (hp : IsSimple (withSlashes p.toList)) :
    Makes none p ⟨String.ofList (withSlashes p.toList), (withSlashes p.toList).map pieceOf⟩ := by
  constructor
  · have hread : readTokens 0 none {} (withSlashes p.toList) = .ok ((withSlashes p.toList).map pieceOf) :=
      readTokens_of_isSimple hp
    rw [glob, ofPattern, Option.map_none, resolve, String.toList_ofList, hread]
    rfl
  · rw [isRefused, isTooDeep_map_pieceOf, Bool.and_false]

/-- A pattern without classes, groups and `**` makes a filter by itself.  That accepts an id, if this has no null
character, exactly if it has as many segments as the pattern and each of them matches the one of the pattern in its
place, unless the id ends in the segment `..` and the pattern has wildcards and ends in a point. -/
theorem accepts_of_isSimple (hp : IsSimple (withSlashes p.toList)) :
    ∃ f, ofOptions (alone none p) = .ok f ∧ ∀ id : String, '\x00' ∉ id.toList →
      (f.accepts id = true ↔
        List.Forall₂ (fun s t => SegmentMatches s (bytesOf t)) (segments p) (segments id) ∧
          ¬ (EndsInPoint (withSlashes p.toList) ∧ (segments id).getLast? = some ['.', '.'])) := by
  have hmakes := makes_of_isSimple hp
  refine ⟨_, ofOptions_alone hmakes, fun id hid => ?_⟩
  rw [accepts_alone_iff, and_iff_right hid, matchesBytes_map_pieceOf_iff, pathOf, endsInParent_bytesOf_iff,
    branchTakes_map_pieceOf_iff, splitOn_bytesOf, List.forall₂_map_right_iff]
  rfl

theorem accepts_of_isSimple_nested :
    ∃ f, ofOptions (alone none "src\\*/ü?.css") = .ok f ∧
      f.accepts "src/.x\\üb.css" = true ∧
        List.Forall₂ (fun s t => SegmentMatches s (bytesOf t)) (segments "src\\*/ü?.css") (segments "src/.x\\üb.css") ∧
      f.accepts "src/x/y/üb.css" = false := by
  have hsimple : IsSimple (withSlashes "src\\*/ü?.css".toList) := by
    constructor <;> decide +kernel
  obtain ⟨f, hf, h⟩ := accepts_of_isSimple (p := "src\\*/ü?.css") hsimple
  have hverdict : ((ofOptions (alone none "src\\*/ü?.css")).toOption.any (·.accepts "src/.x\\üb.css")) = true := by
    decide +kernel
  obtain ⟨f', hf', haccepts⟩ := exists_of_any_toOption hverdict
  obtain rfl : f' = f := Except.ok.inj (hf'.symm.trans hf)
  refine ⟨f', hf, haccepts, ((h _ (by decide +kernel)).mp haccepts).1, ?_⟩
  rw [← Bool.not_eq_true, h _ (by decide +kernel)]
  rintro ⟨hsegments, -⟩
  exact absurd hsegments.length_eq (by decide +kernel)

/-- The one exception is needed: the segment `..` matches `*.`, but the filter refuses it. -/
theorem not_forall_accepts_iff_segmentMatches :
    ¬ ∀ p : String, IsSimple (withSlashes p.toList) →
      ∃ f, ofOptions (alone none p) = .ok f ∧ ∀ id : String, '\x00' ∉ id.toList →
        (f.accepts id = true ↔
          List.Forall₂ (fun s t => SegmentMatches s (bytesOf t)) (segments p) (segments id)) := by
  intro h
  obtain ⟨f, hf, hverdict⟩ := h "*." ⟨by decide, by decide, by decide, by decide⟩
  have hrefuses : ((ofOptions (alone none "*.")).toOption.any (!·.accepts "..")) = true := by decide +kernel
  have hmatches : SegmentMatches ['*', '.'] ([46] ++ (String.utf8EncodeChar '.' ++ [])) :=
    .star (.char (by decide) (by decide) .nil)
  have haccepts := (hverdict ".." (by decide)).mpr (.cons hmatches .nil)
  obtain ⟨f', hf', hrefuses⟩ := exists_of_any_toOption hrefuses
  obtain rfl : f' = f := Except.ok.inj (hf'.symm.trans hf)
  rw [haccepts] at hrefuses
  exact absurd hrefuses nofun

end Filter

end LazyStyles
