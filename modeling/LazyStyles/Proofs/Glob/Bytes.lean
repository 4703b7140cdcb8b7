import LazyStyles.Glob.Form
import LazyStyles.Text.Bytes
import Mathlib.Data.List.Basic
import Mathlib.Data.List.Induction
import Mathlib.Data.List.TakeWhile
import Mathlib.Tactic.SplitIfs

/-!
# Bytes of texts

A byte below 128 stands for the character that it numbers and is part of no other (`eq_of_mem_utf8EncodeChar`), so the
separators of a text are found in its bytes (`splitOn_bytesOf`).  The bytes of a text that starts with another text
start with the bytes of that, and the other way round (`exists_of_bytesOf_eq_append`).
-/

namespace LazyStyles.Glob

variable {c : Char} {s t : List Char} {v w : List UInt8}

/-! ### Characters -/

theorem le_of_mem_utf8EncodeChar {b : UInt8} (hc : 128 ≤ c.toNat) (hb : b ∈ String.utf8EncodeChar c) :
    128 ≤ b.toNat := by
  have hbyte (n k : Nat) (hk : 128 ≤ k) (hlt : n + k < 256) : 128 ≤ (UInt8.ofNat (n + k)).toNat := by
    rw [UInt8.toNat_ofNat', Nat.mod_eq_of_lt hlt]
    omega
  unfold String.utf8EncodeChar at hb
  dsimp only at hb
  split_ifs at hb with h₁ h₂ h₃ <;> simp only [List.mem_cons, List.not_mem_nil, or_false] at hb
  · exact absurd hc (Nat.not_le_of_lt (Nat.lt_succ_of_le h₁))
  · rcases hb with rfl | rfl <;> exact hbyte _ _ (by decide) (by omega)
  · rcases hb with rfl | rfl | rfl <;> exact hbyte _ _ (by decide) (by omega)
  · rcases hb with rfl | rfl | rfl | rfl <;> exact hbyte _ _ (by decide) (by omega)

theorem utf8EncodeChar_of_lt (hc : c.toNat < 128) : String.utf8EncodeChar c = [UInt8.ofNat c.toNat] :=
  if_pos (Nat.le_of_lt_succ hc)

theorem utf8EncodeChar_ne_nil (c : Char) : String.utf8EncodeChar c ≠ [] := by
  intro h
  have hlength := String.length_utf8EncodeChar c
  rw [h] at hlength
  exact absurd c.utf8Size_pos (by simp [← hlength])

/-- The bytes of texts that start with characters start with those of the characters. -/
theorem utf8EncodeChar_append_inj {d : Char} (h : String.utf8EncodeChar c ++ v = String.utf8EncodeChar d ++ w) :
    c = d ∧ v = w := by
  have hdecode := congrArg (fun bs : List UInt8 => bs.toByteArray.utf8DecodeChar? 0) h
  simp only [List.toByteArray_append, ByteArray.utf8DecodeChar?_utf8EncodeChar_append] at hdecode
  obtain rfl := Option.some.inj hdecode
  exact ⟨rfl, List.append_cancel_left h⟩

/-- A byte below 128 is that of the character which it numbers, and of no other. -/
theorem eq_of_mem_utf8EncodeChar {d : Char} (hd : d.toNat < 128) (h : UInt8.ofNat d.toNat ∈ String.utf8EncodeChar c) :
    c = d := by
  have hc : c.toNat < 128 := by
    by_contra hc
    have hle := le_of_mem_utf8EncodeChar (Nat.le_of_not_lt hc) h
    rw [UInt8.toNat_ofNat', Nat.mod_eq_of_lt (Nat.lt_trans hd (by decide))] at hle
    exact absurd hd (Nat.not_lt_of_le hle)
  have hbytes : String.utf8EncodeChar c = String.utf8EncodeChar d := by
    rw [utf8EncodeChar_of_lt hc, List.mem_singleton] at h
    rw [utf8EncodeChar_of_lt hc, utf8EncodeChar_of_lt hd, h]
  exact (utf8EncodeChar_append_inj (congrArg (· ++ []) hbytes)).1

/-! ### Texts -/

theorem bytesOf_cons (c : Char) (s : List Char) : bytesOf (c :: s) = String.utf8EncodeChar c ++ bytesOf s :=
  List.flatMap_cons

theorem bytesOf_append (s t : List Char) : bytesOf (s ++ t) = bytesOf s ++ bytesOf t :=
  List.flatMap_append

theorem length_bytesOf (s : List Char) : (bytesOf s).length = byteSize s := by
  induction s with
  | nil => rfl
  | cons c s ih => rw [bytesOf_cons, List.length_append, String.length_utf8EncodeChar, ih, byteSize_cons]

/-- A text whose bytes start with those of another starts with that. -/
theorem exists_of_bytesOf_eq_append (h : bytesOf t = bytesOf s ++ w) : ∃ r, t = s ++ r ∧ w = bytesOf r := by
  induction s generalizing t with
  | nil => exact ⟨t, rfl, h.symm⟩
  | cons c s ih =>
    cases t with
    | nil =>
      rw [bytesOf_cons, List.append_assoc] at h
      exact absurd (List.append_eq_nil_iff.mp h.symm).1 (utf8EncodeChar_ne_nil c)
    | cons d t =>
      rw [bytesOf_cons, bytesOf_cons, List.append_assoc] at h
      obtain ⟨rfl, hbytes⟩ := utf8EncodeChar_append_inj h
      obtain ⟨r, rfl, hr⟩ := ih hbytes
      exact ⟨r, rfl, hr⟩

theorem bytesOf_injective (h : bytesOf s = bytesOf t) : s = t := by
  obtain ⟨r, rfl, hr⟩ := exists_of_bytesOf_eq_append (h.trans (List.append_nil _).symm)
  cases r with
  | nil => exact List.append_nil t
  | cons c r =>
    rw [bytesOf_cons] at hr
    exact absurd (List.append_eq_nil_iff.mp hr.symm).1 (utf8EncodeChar_ne_nil c)

/-! ### Separators -/

theorem slash_mem_utf8EncodeChar_iff : slash ∈ String.utf8EncodeChar c ↔ c = '/' := by
  constructor
  · exact eq_of_mem_utf8EncodeChar (show '/'.toNat < 128 by decide)
  · rintro rfl
    decide

theorem splitOn_append_of_notMem (hv : slash ∉ v) (w : List UInt8) :
    (v ++ w).splitOn slash = (w.splitOn slash).modifyHead (v ++ ·) := by
  induction v with
  | nil =>
    obtain ⟨x, xs, h⟩ := List.exists_cons_of_ne_nil (List.splitOn_ne_nil slash w)
    rw [List.nil_append, h]
    rfl
  | cons b v ih =>
    obtain ⟨hb, hv⟩ := not_or.mp (mt List.mem_cons.mpr hv)
    rw [List.cons_append, List.splitOn_cons_eq_if_modifyHead, if_neg (by simpa using Ne.symm hb), ih hv,
      List.modifyHead_modifyHead]
    rfl

/-- The parts of a text between its separators have the bytes between the separators of its bytes. -/
theorem splitOn_bytesOf (s : List Char) : (bytesOf s).splitOn slash = (s.splitOn '/').map bytesOf := by
  induction s with
  | nil => rfl
  | cons c s ih =>
    rw [bytesOf_cons, List.splitOn_cons_eq_if_modifyHead]
    by_cases hc : c = '/'
    · subst hc
      have hslash : String.utf8EncodeChar '/' = [slash] := by decide
      rw [hslash, List.singleton_append, List.splitOn_cons_eq_if_modifyHead, if_pos (beq_self_eq_true _),
        if_pos (beq_self_eq_true _), ih]
      rfl
    · rw [splitOn_append_of_notMem (mt slash_mem_utf8EncodeChar_iff.mp hc), ih, if_neg (by simpa using hc)]
      obtain ⟨x, xs, h⟩ := List.exists_cons_of_ne_nil (List.splitOn_ne_nil '/' s)
      rw [h]
      rfl

/-- The last byte of a path that ends in the segment `..` is that of a point. -/
theorem eq_point_of_endsInParent (h : endsInParent (v ++ String.utf8EncodeChar c) = true) : c = '.' := by
  obtain ⟨w, hw⟩ := List.reverse_suffix.mpr
    (List.takeWhile_prefix (p := (· != slash)) (l := (v ++ String.utf8EncodeChar c).reverse))
  have hparent : w ++ [46, 46] = v ++ String.utf8EncodeChar c := by
    rw [← beq_iff_eq.mp h, lastPart, hw, List.reverse_reverse]
  have hlast : (String.utf8EncodeChar c).getLast? = some 46 := by
    rw [← List.getLast?_append_of_ne_nil v (utf8EncodeChar_ne_nil c), ← hparent, List.getLast?_append]
    rfl
  exact eq_of_mem_utf8EncodeChar (show '.'.toNat < 128 by decide) (List.mem_of_getLast? hlast)

theorem getLast?_of_endsInParent (h : endsInParent (bytesOf s) = true) : s.getLast? = some '.' := by
  cases s using List.reverseRecOn with
  | nil => exact absurd h (by decide)
  | append_singleton s c =>
    have hbytes : bytesOf (s ++ [c]) = bytesOf s ++ String.utf8EncodeChar c := by simp [bytesOf]
    rw [hbytes] at h
    rw [List.getLast?_concat, eq_point_of_endsInParent h]

/-- The last part of a path is the last between its separators. -/
theorem getLast?_splitOn (path : List UInt8) : (path.splitOn slash).getLast? = some (lastPart path) := by
  have hall (as : List UInt8) (has : slash ∉ as) : ∀ b ∈ as, (b != slash) = true :=
    fun b hb => bne_iff_ne.mpr fun h => has (h ▸ hb)
  -- The last separator is the first from behind.
  by_cases hpath : slash ∈ path.reverse
  · obtain ⟨as, bs, hsplit, has⟩ := List.eq_append_cons_of_mem hpath
    have hlast : lastPart path = as.reverse := by
      rw [lastPart, hsplit, List.takeWhile_append_of_pos (hall as has), List.takeWhile_cons_of_neg (by simp),
        List.append_nil]
    obtain rfl : path = bs.reverse ++ slash :: as.reverse := by
      rw [← List.reverse_reverse path, hsplit]
      simp
    have hname : as.reverse.splitOn slash = [as.reverse] := List.splitOn_eq_singleton (by simpa using has)
    rw [List.splitOn_append_cons_self, hname, List.getLast?_append, hlast]
    rfl
  · have hpath : slash ∉ path := by simpa using hpath
    have htake : path.reverse.takeWhile (· != slash) = path.reverse :=
      List.takeWhile_eq_self_iff.mpr (hall _ (by simpa using hpath))
    rw [List.splitOn_eq_singleton hpath, lastPart, htake, List.reverse_reverse]
    rfl

theorem lastPart_append_slash (v w : List UInt8) : lastPart (v ++ slash :: w) = lastPart w := by
  have h := getLast?_splitOn (v ++ slash :: w)
  rw [List.splitOn_append_cons_self, List.getLast?_append_of_ne_nil _ (List.splitOn_ne_nil slash w),
    getLast?_splitOn] at h
  exact (Option.some.inj h).symm

theorem endsInParent_bytesOf_iff : endsInParent (bytesOf s) = true ↔ (s.splitOn '/').getLast? = some ['.', '.'] := by
  have hlast : lastPart (bytesOf s) = bytesOf ((s.splitOn '/').getLast (List.splitOn_ne_nil '/' s)) := by
    have h := getLast?_splitOn (bytesOf s)
    rw [splitOn_bytesOf, List.getLast?_map, List.getLast?_eq_some_getLast (List.splitOn_ne_nil '/' s)] at h
    exact (Option.some.inj h).symm
  rw [endsInParent, beq_iff_eq, hlast, List.getLast?_eq_some_getLast (List.splitOn_ne_nil '/' s), Option.some_inj]
  have hparent : bytesOf ['.', '.'] = [46, 46] := by decide
  rw [← hparent]
  exact ⟨bytesOf_injective, congrArg bytesOf⟩

end LazyStyles.Glob
