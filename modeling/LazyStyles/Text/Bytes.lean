/-!
# Sizes in bytes

How many bytes a text takes in UTF-8, the encoding in which offsets are counted.
-/

namespace LazyStyles

/-- The number of bytes that `s` takes in UTF-8. -/
def byteSize : List Char → Nat
  | [] => 0
  | c :: s => c.utf8Size + byteSize s

@[simp] theorem byteSize_nil : byteSize [] = 0 := rfl

@[simp] theorem byteSize_cons (c : Char) (s : List Char) :
    byteSize (c :: s) = c.utf8Size + byteSize s := rfl

@[simp] theorem byteSize_append (s t : List Char) : byteSize (s ++ t) = byteSize s + byteSize t := by
  induction s with
  | nil => simp
  | cons c s ih => simp [ih, Nat.add_assoc]

/-- A character takes a byte at least. -/
theorem length_le_byteSize (s : List Char) : s.length ≤ byteSize s := by
  induction s with
  | nil => exact Nat.le_refl 0
  | cons c s ih =>
    have hpos := c.utf8Size_pos
    rw [byteSize_cons, List.length_cons]
    omega

theorem byteSize_drop_le (n : Nat) (s : List Char) : byteSize (s.drop n) ≤ byteSize s := by
  have h := byteSize_append (s.take n) (s.drop n)
  rw [List.take_append_drop] at h
  omega

theorem byteSize_drop_lt {n : Nat} {s : List Char} (hs : s ≠ []) (hn : 0 < n) :
    byteSize (s.drop n) < byteSize s := by
  obtain ⟨c, s, rfl⟩ := List.exists_cons_of_ne_nil hs
  obtain ⟨n, rfl⟩ := Nat.exists_eq_add_one_of_ne_zero (Nat.ne_of_gt hn)
  have hle := byteSize_drop_le n s
  have hpos := c.utf8Size_pos
  rw [List.drop_succ_cons, byteSize_cons]
  omega

end LazyStyles
