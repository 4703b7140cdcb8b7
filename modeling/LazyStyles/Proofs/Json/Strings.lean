import LazyStyles.Proofs.Json.Grammar
import LazyStyles.Proofs.Steps
import Mathlib

/-!
# Reading gaps and strings

The reader of JSON takes from the front of a text just what the grammar has there: white space
(`skipGap_eq_cons_iff`), a colon, and the characters of a string up to its closing quote (`quoted_eq_ok_iff`).  Both
directions are one statement, since a string ends nowhere else.
-/

namespace LazyStyles.Json

variable {g r s t w : List Char} {c : Char}

/-! ### White space -/

theorem isGap_nil : IsGap [] :=
  List.forall_mem_nil _

theorem IsGap.append (hg : IsGap g) (hs : IsGap s) : IsGap (g ++ s) :=
  List.forall_mem_append.mpr ⟨hg, hs⟩

theorem skipGap_append (hg : IsGap g) : skipGap (g ++ s) = skipGap s :=
  List.dropWhile_append_of_pos hg

theorem skipGap_cons (hc : isGap c = false) : skipGap (c :: s) = c :: s :=
  List.dropWhile_cons_of_neg (Bool.eq_false_iff.mp hc)

theorem skipGap_append_cons (hg : IsGap g) (hc : isGap c = false) : skipGap (g ++ c :: s) = c :: s := by
  rw [skipGap_append hg, skipGap_cons hc]

theorem exists_append_skipGap (s : List Char) : ∃ g, IsGap g ∧ s = g ++ skipGap s :=
  ⟨s.takeWhile isGap, fun _ => List.mem_takeWhile_imp, List.takeWhile_append_dropWhile.symm⟩

theorem skipGap_eq_nil_iff : skipGap s = [] ↔ IsGap s :=
  List.dropWhile_eq_nil_iff

/-- What is left after white space starts with the first character that is none. -/
theorem skipGap_eq_cons_iff : skipGap s = c :: r ↔ isGap c = false ∧ ∃ g, IsGap g ∧ s = g ++ c :: r := by
  constructor
  · intro h
    obtain ⟨g, hg, hs⟩ := exists_append_skipGap s
    have hhead := List.head?_dropWhile_not isGap s
    rw [h] at hs
    rw [show s.dropWhile isGap = c :: r from h] at hhead
    exact ⟨by simpa using hhead, g, hg, hs⟩
  · rintro ⟨hc, g, hg, rfl⟩
    exact skipGap_append_cons hg hc

namespace Reader

theorem colon_eq_ok_iff : colon s = .ok r ↔ ∃ g, IsGap g ∧ s = g ++ ':' :: r := by
  have hcolon : colon s = .ok r ↔ skipGap s = ':' :: r := by
    unfold colon
    dsimp only
    split
    case h_1 hs => simp [hs]
    case h_2 r' hs => simp [hs]
    case h_3 hne => exact iff_of_false nofun fun h => hne r h
  rw [hcolon, skipGap_eq_cons_iff]
  exact and_iff_right (by decide)

/-! ### Escapes -/

theorem hexValue?_eq_some_iff {n : Nat} : Text.hexValue? c = some n ↔ IsHexDigit c n := by
  have hle {a b : Char} : a ≤ b ↔ a.toNat ≤ b.toNat := UInt32.le_iff_toNat_le
  unfold Text.hexValue?
  simp only [hle]
  constructor
  · intro h
    split_ifs at h with hdecimal hlower hupper
    · obtain rfl := Option.some.inj h
      change 48 ≤ c.toNat ∧ c.toNat ≤ 57 at hdecimal
      refine .decimal ?_ ?_
      · change c.toNat - 48 < 10
        omega
      · change c.toNat = 48 + (c.toNat - 48)
        omega
    · obtain rfl := Option.some.inj h
      change 97 ≤ c.toNat ∧ c.toNat ≤ 102 at hlower
      refine .lower ?_ ?_
      · change c.toNat - 97 < 6
        omega
      · change c.toNat = 97 + (c.toNat - 97)
        omega
    · obtain rfl := Option.some.inj h
      change 65 ≤ c.toNat ∧ c.toNat ≤ 70 at hupper
      refine .upper ?_ ?_
      · change c.toNat - 65 < 6
        omega
      · change c.toNat = 65 + (c.toNat - 65)
        omega
  · change IsHexDigit c n → (if 48 ≤ c.toNat ∧ c.toNat ≤ 57 then some (c.toNat - 48)
      else if 97 ≤ c.toNat ∧ c.toNat ≤ 102 then some (c.toNat - 97 + 10)
      else if 65 ≤ c.toNat ∧ c.toNat ≤ 70 then some (c.toNat - 65 + 10) else none) = some n
    intro h
    cases h with
    | decimal hn hc =>
      change c.toNat = 48 + n at hc
      rw [if_pos (by omega), hc, Nat.add_sub_cancel_left]
    | lower hn hc =>
      change c.toNat = 97 + _ at hc
      rw [if_neg (by omega), if_pos (by omega), hc, Nat.add_sub_cancel_left]
    | upper hn hc =>
      change c.toNat = 65 + _ at hc
      rw [if_neg (by omega), if_neg (by omega), if_pos (by omega), hc, Nat.add_sub_cancel_left]

theorem length_eq_of_isCodeUnit {ds : List Char} {n : Nat} (h : IsCodeUnit ds n) : ds.length = 4 := by
  cases h
  rfl

/-- Four digits at the front of a text are read as the number that they write. -/
theorem codeUnit_eq_ok_iff {n : Nat} : codeUnit s = .ok n ↔ ∃ ds r, IsCodeUnit ds n ∧ s = ds ++ r := by
  constructor
  · intro h
    unfold codeUnit at h
    split_ifs at h
    dsimp only at h
    split at h
    case h_2 => exact absurd h nofun
    case h_1 a b c d r _ =>
      split at h
      case h_2 => exact absurd h nofun
      case h_1 i j k l ha hb hc hd =>
        obtain rfl := Except.ok.inj h
        exact ⟨[a, b, c, d], r, .mk (hexValue?_eq_some_iff.mp ha) (hexValue?_eq_some_iff.mp hb)
          (hexValue?_eq_some_iff.mp hc) (hexValue?_eq_some_iff.mp hd), rfl⟩
  · rintro ⟨ds, r, hds, rfl⟩
    have hcount : ¬ byteSize (ds ++ r) < 4 := by
      have hlength := length_le_byteSize (ds ++ r)
      rw [List.length_append, (length_eq_of_isCodeUnit hds)] at hlength
      omega
    rw [codeUnit, if_neg hcount]
    obtain ⟨ha, hb, hc, hd⟩ := hds
    simp only [List.cons_append, List.nil_append, hexValue?_eq_some_iff.mpr ha, hexValue?_eq_some_iff.mpr hb,
      hexValue?_eq_some_iff.mpr hc, hexValue?_eq_some_iff.mpr hd]

theorem lt_of_isCodeUnit {ds : List Char} {n : Nat} (h : IsCodeUnit ds n) : n < 0x10000 := by
  have hdigit {c : Char} {n : Nat} (h : IsHexDigit c n) : n < 16 := by
    cases h
    all_goals omega
  obtain ⟨ha, hb, hc, hd⟩ := h
  have hi := hdigit ha
  have hj := hdigit hb
  have hk := hdigit hc
  have hl := hdigit hd
  omega

theorem isLowSurrogate_iff {n : Nat} : isLowSurrogate n = true ↔ 0xDC00 ≤ n ∧ n ≤ 0xDFFF := by
  simp [isLowSurrogate]

theorem isHighSurrogate_iff {n : Nat} : isHighSurrogate n = true ↔ 0xD800 ≤ n ∧ n ≤ 0xDBFF := by
  simp [isHighSurrogate]

/-- No character is half a surrogate pair. -/
theorem isSurrogate_toNat (c : Char) : isLowSurrogate c.toNat = false ∧ isHighSurrogate c.toNat = false := by
  have hvalid : c.toNat < 0xD800 ∨ 0xDFFF < c.toNat ∧ c.toNat < 0x110000 := c.valid
  rw [← Bool.not_eq_true, ← Bool.not_eq_true, isLowSurrogate_iff, isHighSurrogate_iff]
  omega

/-- Four digits write a character unless they write half a surrogate pair. -/
theorem toNat_ofNat_of_isCodeUnit {ds : List Char} {n : Nat} (h : IsCodeUnit ds n) (hlow : isLowSurrogate n = false)
    (hhigh : isHighSurrogate n = false) : (Char.ofNat n).toNat = n := by
  have hbound := lt_of_isCodeUnit h
  rw [← Bool.not_eq_true, isLowSurrogate_iff] at hlow
  rw [← Bool.not_eq_true, isHighSurrogate_iff] at hhigh
  have hvalid : n.isValidChar := by
    unfold Nat.isValidChar
    omega
  rw [Char.toNat_ofNat, if_pos hvalid]

/-- The two halves of a surrogate pair make a character. -/
theorem toNat_ofNat_pair {high low : Nat} (hhigh : 0xD800 ≤ high ∧ high ≤ 0xDBFF)
    (hlow : 0xDC00 ≤ low ∧ low ≤ 0xDFFF) :
    (Char.ofNat ((high - 0xD800) * 0x400 + (low - 0xDC00) + 0x10000)).toNat =
      0x10000 + (high - 0xD800) * 0x400 + (low - 0xDC00) := by
  rw [Char.toNat_ofNat, if_pos]
  · omega
  · unfold Nat.isValidChar
    omega

theorem length_pair {hs ls : List Char} {high low : Nat} (hhs : IsCodeUnit hs high) (hls : IsCodeUnit ls low) :
    (hs ++ '\\' :: 'u' :: ls).length = 10 := by
  rw [List.length_append, List.length_cons, List.length_cons, length_eq_of_isCodeUnit hhs,
    length_eq_of_isCodeUnit hls]

/-- What follows a backslash and a `u` is read as the character that they spell together. -/
theorem exists_of_unicodeEscape {n : Nat} (h : unicodeEscape s = .ok (c, n)) :
    ∃ ds r, SpellsChar ('\\' :: 'u' :: ds) c ∧ n = ds.length ∧ s = ds ++ r := by
  unfold unicodeEscape at h
  obtain ⟨high, hhigh, h⟩ := bind_eq_ok_iff.mp h
  obtain ⟨hs, r, hhs, rfl⟩ := codeUnit_eq_ok_iff.mp hhigh
  rw [List.drop_left' (length_eq_of_isCodeUnit hhs)] at h
  dsimp only at h
  cases hisLow : isLowSurrogate high with
  | true =>
    rw [hisLow] at h
    exact absurd h nofun
  | false =>
    rw [hisLow] at h
    cases hisHigh : isHighSurrogate high with
    | false =>
      rw [hisHigh] at h
      obtain ⟨rfl, rfl⟩ := Prod.mk.inj (Except.ok.inj h)
      refine ⟨hs, r, .number ?_, (length_eq_of_isCodeUnit hhs).symm, rfl⟩
      rwa [toNat_ofNat_of_isCodeUnit hhs hisLow hisHigh]
    | true =>
      rw [hisHigh] at h
      simp only [Bool.not_true, Bool.false_eq_true, if_false] at h
      -- The first half of a pair needs the second behind it, in an escape of its own.
      split at h
      case h_3 r' =>
        obtain ⟨low, hlow, h⟩ := bind_eq_ok_iff.mp h
        obtain ⟨ls, r, hls, rfl⟩ := codeUnit_eq_ok_iff.mp hlow
        cases hpair : isLowSurrogate low with
        | false =>
          rw [hpair] at h
          exact absurd h nofun
        | true =>
          rw [hpair] at h
          obtain ⟨rfl, rfl⟩ := Prod.mk.inj (Except.ok.inj h)
          have hhigh := isHighSurrogate_iff.mp hisHigh
          have hlow := isLowSurrogate_iff.mp hpair
          refine ⟨hs ++ '\\' :: 'u' :: ls, r, .pair hhs hls hhigh hlow (toNat_ofNat_pair hhigh hlow),
            (length_pair hhs hls).symm, ?_⟩
          rw [List.append_assoc, List.cons_append, List.cons_append]
      all_goals exact absurd h nofun

theorem unicodeEscape_append {ds : List Char} (h : SpellsChar ('\\' :: 'u' :: ds) c) :
    unicodeEscape (ds ++ r) = .ok (c, ds.length) := by
  generalize hw : '\\' :: 'u' :: ds = w at h
  cases h with
  | plain => simp at hw
  | letter h =>
    obtain ⟨-, hw⟩ := List.cons.inj hw
    obtain ⟨rfl, rfl⟩ := List.cons.inj hw
    exact absurd h (by simp [shortEscapes])
  | number h =>
    obtain ⟨-, hw⟩ := List.cons.inj hw
    obtain ⟨-, rfl⟩ := List.cons.inj hw
    obtain ⟨hlow, hhigh⟩ := isSurrogate_toNat c
    have hunit : codeUnit (ds ++ r) = .ok c.toNat := codeUnit_eq_ok_iff.mpr ⟨_, _, h, rfl⟩
    rw [unicodeEscape, hunit, length_eq_of_isCodeUnit h]
    change (if isLowSurrogate c.toNat = true then _ else if (!isHighSurrogate c.toNat) = true then _ else _) = _
    rw [hlow, hhigh, if_neg (by simp), if_pos (by simp), Char.ofNat_toNat]
    rfl
  | @pair hs ls high low _ hhs hls hhigh hlow hc =>
    obtain ⟨-, hw⟩ := List.cons.inj hw
    obtain ⟨-, rfl⟩ := List.cons.inj hw
    have hfirst : codeUnit (hs ++ ('\\' :: 'u' :: (ls ++ r))) = .ok high := codeUnit_eq_ok_iff.mpr ⟨_, _, hhs, rfl⟩
    have hsecond : codeUnit (ls ++ r) = .ok low := codeUnit_eq_ok_iff.mpr ⟨_, _, hls, rfl⟩
    have hisHigh := isHighSurrogate_iff.mpr hhigh
    have hpair := isLowSurrogate_iff.mpr hlow
    have hisLow : isLowSurrogate high = false := by
      rw [← Bool.not_eq_true, isLowSurrogate_iff]
      omega
    have hchar : Char.ofNat ((high - 0xD800) * 0x400 + (low - 0xDC00) + 0x10000) = c := by
      have hnumber : (high - 0xD800) * 0x400 + (low - 0xDC00) + 0x10000 = c.toNat := by omega
      rw [hnumber, Char.ofNat_toNat]
    rw [length_pair hhs hls, List.append_assoc, List.cons_append, List.cons_append, unicodeEscape, hfirst]
    simp only [bind, Except.bind, hisLow, hisHigh, List.drop_left' (length_eq_of_isCodeUnit hhs), hsecond, hpair, hchar]
    rfl

/-! ### Strings -/

theorem exists_of_escape {n : Nat} (h : escape s = .ok (c, n)) :
    ∃ w r, SpellsChar ('\\' :: w) c ∧ n = w.length ∧ s = w ++ r := by
  cases s with
  | nil => exact absurd h nofun
  | cons l r =>
    unfold escape at h
    dsimp only at h
    split at h
    case h_9 =>
      obtain ⟨⟨d, m⟩, hescape, hd⟩ := map_eq_ok_iff.mp h
      obtain ⟨ds, r', hds, rfl, rfl⟩ := exists_of_unicodeEscape hescape
      obtain ⟨rfl, rfl⟩ := Prod.mk.inj hd
      exact ⟨'u' :: ds, r', hds, rfl, rfl⟩
    case h_10 => exact absurd h nofun
    all_goals
      obtain ⟨rfl, rfl⟩ := Prod.mk.inj (Except.ok.inj h)
      exact ⟨[_], r, .letter (by decide), rfl, rfl⟩

theorem escape_append {w : List Char} (h : SpellsChar ('\\' :: w) c) : escape (w ++ r) = .ok (c, w.length) := by
  generalize hw : '\\' :: w = v at h
  cases h with
  | plain hcontrol hquote hback => exact absurd (List.cons.inj hw).1.symm hback
  | letter h =>
    obtain ⟨-, rfl⟩ := List.cons.inj hw
    simp only [shortEscapes, List.mem_cons, Prod.mk.injEq, List.not_mem_nil, or_false] at h
    rcases h with ⟨rfl, rfl⟩ | ⟨rfl, rfl⟩ | ⟨rfl, rfl⟩ | ⟨rfl, rfl⟩ | ⟨rfl, rfl⟩ | ⟨rfl, rfl⟩ | ⟨rfl, rfl⟩ | ⟨rfl, rfl⟩
    all_goals rfl
  | @number ds _ h =>
    obtain ⟨-, rfl⟩ := List.cons.inj hw
    rw [List.cons_append, escape, unicodeEscape_append (.number h)]
    rfl
  | @pair hs ls _ _ _ hhs hls hhigh hlow hc =>
    obtain ⟨-, rfl⟩ := List.cons.inj hw
    rw [List.cons_append, escape, unicodeEscape_append (.pair hhs hls hhigh hlow hc)]
    rfl

/-- Characters that belong to an escape are passed over. -/
theorem text_append (w s : List Char) : text w.length (w ++ s) = text 0 s := by
  induction w with
  | nil => rfl
  | cons c w ih => exact ih

-- The induction is on the text; `skip` goes up at a backslash and down again at the characters behind it.
theorem exists_of_text {cs : List Char} {skip : Nat} (h : text skip s = .ok (cs, r)) :
    ∃ v w, v.length = skip ∧ SpellsChars w cs ∧ s = v ++ (w ++ '"' :: r) := by
  induction s generalizing skip cs with
  | nil => exact absurd h nofun
  | cons c s ih =>
    cases skip with
    | succ skip =>
      obtain ⟨v, w, hv, hw, rfl⟩ := ih h
      exact ⟨c :: v, w, congrArg Nat.succ hv, hw, rfl⟩
    | zero =>
      unfold text at h
      dsimp only at h
      split_ifs at h with hquote hback hcontrol
      · obtain ⟨rfl, rfl⟩ := Prod.mk.inj (Except.ok.inj h)
        exact ⟨[], [], rfl, .nil, by rw [beq_iff_eq.mp hquote]; rfl⟩
      · split at h
        case h_2 => exact absurd h nofun
        case h_1 d n hescape =>
          obtain ⟨⟨t, r'⟩, ht, hcs⟩ := map_eq_ok_iff.mp h
          obtain ⟨rfl, rfl⟩ := Prod.mk.inj hcs
          obtain ⟨v, w, rfl, hw, rfl⟩ := ih ht
          -- What has been passed over is the escape, as both start behind the backslash and are as long.
          obtain ⟨v', r', hv', hlength, heq⟩ := exists_of_escape hescape
          obtain ⟨rfl, -⟩ := List.append_inj heq hlength
          refine ⟨[], '\\' :: v ++ w, rfl, .cons hv' hw, ?_⟩
          rw [beq_iff_eq.mp hback, List.nil_append, List.cons_append, List.cons_append, List.append_assoc]
      · obtain ⟨⟨t, r'⟩, ht, hcs⟩ := map_eq_ok_iff.mp h
        obtain ⟨rfl, rfl⟩ := Prod.mk.inj hcs
        obtain ⟨v, w, hv, hw, rfl⟩ := ih ht
        obtain rfl := List.length_eq_zero_iff.mp hv
        refine ⟨[], [c] ++ w, rfl, .cons (.plain (by omega) ?_ ?_) hw, rfl⟩
        · simpa using hquote
        · simpa using hback

/-- A character is read as it is spelled. -/
theorem text_spellsChar (h : SpellsChar w c) : text 0 (w ++ s) = (text 0 s).map fun (t, r) => (c :: t, r) := by
  have hescaped {v : List Char} (hv : SpellsChar ('\\' :: v) c) :
      text 0 ('\\' :: (v ++ s)) = (text 0 s).map fun (t, r) => (c :: t, r) := by
    rw [text, escape_append hv]
    simp only [text_append]
    rfl
  cases h with
  | plain hcontrol hquote hback =>
    have hnot : ¬ c.toNat < 32 := by omega
    rw [List.singleton_append, text]
    simp only [beq_iff_eq, if_neg hquote, if_neg hback, if_neg hnot]
  | letter h => exact hescaped (.letter h)
  | number h => exact hescaped (.number h)
  | pair hhs hls hhigh hlow hc => exact hescaped (.pair hhs hls hhigh hlow hc)

theorem text_spellsChars {cs : List Char} (h : SpellsChars w cs) : text 0 (w ++ '"' :: r) = .ok (cs, r) := by
  induction h with
  | nil => rfl
  | cons hc _ ih =>
    rw [List.append_assoc, text_spellsChar hc, ih]
    rfl

/-- The rest of a string, behind its opening quote, is read as what the string spells. -/
theorem quoted_eq_ok_iff {k : String} : quoted s = .ok (k, r) ↔ ∃ w, SpellsString ('"' :: w) k ∧ s = w ++ r := by
  constructor
  · intro h
    obtain ⟨⟨cs, r'⟩, htext, hk⟩ := map_eq_ok_iff.mp h
    obtain ⟨rfl, rfl⟩ := Prod.mk.inj hk
    obtain ⟨v, w, hv, hw, rfl⟩ := exists_of_text htext
    obtain rfl := List.length_eq_zero_iff.mp hv
    exact ⟨w ++ ['"'], .mk hw, by rw [List.append_assoc]; rfl⟩
  · rintro ⟨w, h, rfl⟩
    generalize hv : '"' :: w = v at h
    cases h with
    | mk hcs =>
      obtain ⟨-, rfl⟩ := List.cons.inj hv
      rw [quoted, List.append_assoc, List.singleton_append, text_spellsChars hcs]
      rfl

end Reader

end LazyStyles.Json
