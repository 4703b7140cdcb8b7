import LazyStyles.Proofs.Lexical.Spelling

/-!
# Quoted strings

The spelling of a string between double quotes that escapes the quote, the backslash and control characters
(`quoted`), as in JSON.  It is read as a string literal of just that string (`isSpelt_quoted`).
-/

namespace LazyStyles.Syntax

open Text

/-- The letter that a control character is escaped with, if it has one. -/
def controlLetter? (c : Char) : Option Char :=
  if c = '\x08' then some 'b'
  else if c = '\t' then some 't'
  else if c = '\n' then some 'n'
  else if c = '\x0c' then some 'f'
  else if c = '\r' then some 'r'
  else none

/-- One character of a quoted string. -/
def escapedChar (c : Char) : List Char :=
  if c = '"' ∨ c = '\\' then ['\\', c]
  else
    match controlLetter? c with
    | some l => ['\\', l]
    | none =>
      if c.toNat < 0x20 then ['\\', 'u', '0', '0', Nat.digitChar (c.toNat / 16), Nat.digitChar (c.toNat % 16)]
      else [c]

/-- The characters of a quoted string between its quotes. -/
def escapedChars (s : List Char) : List Char :=
  s.flatMap escapedChar

/-- A string between double quotes. -/
def quoted (s : String) : String :=
  String.ofList ('"' :: (escapedChars s.toList ++ ['"']))

theorem toList_quoted (s : String) : (quoted s).toList = '"' :: (escapedChars s.toList ++ ['"']) :=
  String.toList_ofList

/-! ### One character -/

/-- How a character is quoted: by itself, with a backslash before it or before a letter, or by its number. -/
theorem escapedChar_cases (c : Char) :
    (escapedChar c = [c] ∧ c ≠ '"' ∧ c ≠ '\\' ∧ c ≠ '\n' ∧ c ≠ '\r') ∨
      (∃ l, escapedChar c = ['\\', l] ∧ l ≠ '\r' ∧ ∀ s, escape (l :: s) = .ok ⟨[c], 1, false⟩) ∨
        ∃ d e, escapedChar c = ['\\', 'u', '0', '0', d, e] ∧ (Text.hexValue? d).isSome ∧ (Text.hexValue? e).isSome ∧
          numberIn 16 ['0', '0', d, e] = c.toNat := by
  by_cases hq : c = '"' ∨ c = '\\'
  · refine .inr (.inl ⟨c, by rw [escapedChar, if_pos hq], ?_, fun s => ?_⟩)
    all_goals obtain rfl | rfl := hq
    all_goals first | decide | rfl
  · cases hl : controlLetter? c with
    | some l =>
      refine .inr (.inl ⟨l, by rw [escapedChar, if_neg hq, hl], ?_⟩)
      unfold controlLetter? at hl
      split_ifs at hl with h₁ h₂ h₃ h₄ h₅
      all_goals
        obtain rfl := Option.some.inj hl
        subst c
        exact ⟨by decide, fun s => rfl⟩
    | none =>
      by_cases hc : c.toNat < 0x20
      · -- There are thirty-two control characters to look at.
        have hall : ∀ k ∈ List.range' 0 0x20, decide ((Text.hexValue? (Nat.digitChar (k / 16))).isSome ∧
            (Text.hexValue? (Nat.digitChar (k % 16))).isSome ∧
            numberIn 16 ['0', '0', Nat.digitChar (k / 16), Nat.digitChar (k % 16)] = k) = true := by
          decide +kernel
        have hk := of_decide_eq_true (hall c.toNat (List.mem_range'_1.mpr ⟨Nat.zero_le _, by omega⟩))
        exact .inr (.inr ⟨_, _, by rw [escapedChar, if_neg hq, hl]; exact if_pos hc, hk⟩)
      · obtain ⟨hquote, hback⟩ := not_or.mp hq
        refine .inl ⟨by rw [escapedChar, if_neg hq, hl]; exact if_neg hc, hquote, hback, ?_, ?_⟩
        all_goals
          rintro rfl
          exact hc (by decide)

theorem not_backslash_of_hexValue? {c : Char} (h : (Text.hexValue? c).isSome) :
    c ≠ '\\' ∧ c ≠ '"' ∧ c ≠ '\n' ∧ c ≠ '\r' := by
  refine ⟨?_, ?_, ?_, ?_⟩
  all_goals
    rintro rfl
    exact absurd h (by decide)

theorem contentOf_cons {c : Char} {s : List Char} (hc : c ≠ '\\' ∧ c ≠ '"' ∧ c ≠ '\n' ∧ c ≠ '\r') :
    contentOf '"' (c :: s) = (c :: (contentOf '"' s).1, (contentOf '"' s).2) := by
  obtain ⟨hback, hquote, hfeed, hreturn⟩ := hc
  rw [contentOf.eq_3, if_neg hquote, if_neg (by simp [hfeed, hreturn])]
  all_goals
    intros
    exact hback ‹_›

/-- A quoted character neither closes the literal nor ends its line. -/
theorem contentOf_escapedChar (c : Char) (s : List Char) :
    contentOf '"' (escapedChar c ++ s) = (escapedChar c ++ (contentOf '"' s).1, (contentOf '"' s).2) := by
  rcases escapedChar_cases c with ⟨h, hquote, hback, hfeed, hreturn⟩ | ⟨l, h, hl, -⟩ | ⟨d, e, h, hd, he, -⟩
  · rw [h]
    exact contentOf_cons ⟨hback, hquote, hfeed, hreturn⟩
  · rw [h, List.cons_append, List.cons_append, contentOf.eq_2 _ _ _ fun _ hreturn _ => hl hreturn]
    rfl
  · rw [h]
    simp only [List.cons_append, List.nil_append]
    rw [contentOf.eq_2 _ _ _ (by simp), contentOf_cons (c := '0') (by decide), contentOf_cons (c := '0') (by decide),
      contentOf_cons (not_backslash_of_hexValue? hd), contentOf_cons (not_backslash_of_hexValue? he)]

theorem escape_hex {c d e : Char} {s : List Char} (hd : (Text.hexValue? d).isSome) (he : (Text.hexValue? e).isSome)
    (h : numberIn 16 ['0', '0', d, e] = c.toNat) :
    escape ('u' :: '0' :: '0' :: d :: e :: s) = .ok ⟨[c], 5, false⟩ := by
  have hzero : (Text.hexValue? '0').isSome = true := by decide
  have hcode : unicodeEscape ('0' :: '0' :: d :: e :: s) = .ok ⟨c.toNat, 4⟩ := by
    rw [unicodeEscape.eq_2 _ (by simp)]
    simp [hzero, hd, he, h]
  have hchars : CodePoint.chars ⟨c.toNat, 4⟩ ('0' :: '0' :: d :: e :: s) = [c] := by
    have hvalid : c.toNat.isValidChar := c.valid
    simp only [CodePoint.chars, hvalid, if_true, Char.ofNat_toNat]
  simp only [escape, hcode, hchars]

theorem decode_skip {inTemplate : Bool} (cs : List Char) (n : Nat) (s : List Char) :
    decode inTemplate cs.length n (cs ++ s) = decode inTemplate 0 (n + cs.length) s := by
  induction cs generalizing n with
  | nil => rfl
  | cons c cs ih =>
    rw [List.length_cons, List.cons_append, decode.eq_2, ih, Nat.add_right_comm, Nat.add_assoc]

/-- An escape is decoded to what it stands for, and the text is decoded on behind it. -/
theorem decode_escape (cs : List Char) {es s : List Char} {n : Nat} {d : Decoded}
    (h : escape (cs ++ s) = .ok ⟨es, cs.length, false⟩) (hd : decode false 0 (n + 1 + cs.length) s = .ok d) :
    decode false 0 n ('\\' :: (cs ++ s)) = .ok ⟨es ++ d.chars, d.flaws⟩ := by
  rw [decode.eq_3, if_pos rfl, h]
  simp only [Bool.false_and, Bool.false_eq_true, if_false, decode_skip, hd]
  rfl

/-- A quoted character is decoded to itself. -/
theorem decode_escapedChar {c : Char} {n : Nat} {s : List Char} {d : Decoded}
    (hd : decode false 0 (n + (escapedChar c).length) s = .ok d) :
    decode false 0 n (escapedChar c ++ s) = .ok ⟨c :: d.chars, d.flaws⟩ := by
  rcases escapedChar_cases c with ⟨h, -, hback, -, -⟩ | ⟨l, h, -, hescape⟩ | ⟨a, b, h, ha, hb, hnumber⟩
  · rw [h] at hd ⊢
    have hd : decode false 0 (n + 1) s = .ok d := hd
    rw [List.singleton_append, decode.eq_3, if_neg hback, Bool.false_and, if_neg Bool.false_ne_true, hd]
    rfl
  · rw [h] at hd ⊢
    exact decode_escape [l] (hescape s) hd
  · rw [h] at hd ⊢
    exact decode_escape ['u', '0', '0', a, b] (escape_hex ha hb hnumber) hd

/-! ### Whole strings -/

theorem contentOf_escapedChars (s rest : List Char) :
    contentOf '"' (escapedChars s ++ '"' :: rest) = (escapedChars s, true) := by
  induction s with
  | nil => rw [escapedChars, List.flatMap_nil, List.nil_append, contentOf.eq_3, if_pos rfl] <;> simp
  | cons c s ih =>
    rw [escapedChars, List.flatMap_cons, ← escapedChars, List.append_assoc, contentOf_escapedChar, ih]

theorem decode_escapedChars (s : List Char) (n : Nat) : decode false 0 n (escapedChars s) = .ok ⟨s, []⟩ := by
  induction s generalizing n with
  | nil => rfl
  | cons c s ih =>
    rw [escapedChars, List.flatMap_cons, ← escapedChars]
    exact decode_escapedChar (ih _)

/-- A quoted string is read as the string. -/
theorem isSpelt_quoted (s : String) : (Sign.str s (quoted s).toList).IsSpelt (quoted s).toList := by
  intro rest _
  have hscan : scanString ((quoted s).toList ++ rest) = .ok ⟨s, (quoted s).toList.length, []⟩ := by
    have hlength : ('"' :: (escapedChars s.toList ++ ['"'])).length = (escapedChars s.toList).length + 2 := by
      rw [List.length_cons, List.length_append]
      rfl
    rw [toList_quoted, hlength, List.cons_append, List.append_assoc, scanString, List.singleton_append,
      contentOf_escapedChars]
    simp only [decode_escapedChars, bind, Except.bind, String.ofList_toList, if_true]
    rfl
  refine ⟨⟨?_, _, hscan, List.take_left, List.drop_left⟩, ?_⟩
  · rw [toList_quoted]
    rfl
  · rw [toList_quoted]
    exact isSolid_cons _ (by decide) (by decide) (by decide) (by decide)

end LazyStyles.Syntax
