import LazyStyles.Fragments
import LazyStyles.Proofs.Lexical.Spelling
import Mathlib.Tactic.SplitIfs

/-!
# Texts at spans

What stands in a source between two bytes (`IsTextAt`).  The map of the source has just these texts
(`SourceMap.ofText_eq_ok_iff`), and among the spans of its own bytes it panics at those that part a character
(`SourceMap.ofText_eq_panic_iff`).  What was read from a source stands in it at its span (`isTextAt_lexeme`), so at the
spans of a module that has just been parsed there is always a text.
-/

namespace LazyStyles.Syntax

variable {src source : List Char} {span : ByteSpan} {text : String}

/-! ### Counting bytes -/

theorem dropBytes?_append (s t : List Char) : dropBytes? (byteSize s) (s ++ t) = some t := by
  induction s with
  | nil => simp [dropBytes?]
  | cons c s ih =>
    obtain ⟨n, hn⟩ := Nat.exists_eq_add_of_le' c.utf8Size_pos
    have hsize : byteSize (c :: s) = n + byteSize s + 1 := by
      rw [byteSize_cons, hn]
      omega
    rw [hsize, List.cons_append, dropBytes?, if_pos (by omega), ← ih]
    congr 1
    omega

theorem takeBytes?_append (s t : List Char) : takeBytes? (byteSize s) (s ++ t) = some s := by
  induction s with
  | nil => simp [takeBytes?]
  | cons c s ih =>
    obtain ⟨n, hn⟩ := Nat.exists_eq_add_of_le' c.utf8Size_pos
    have hsize : byteSize (c :: s) = n + byteSize s + 1 := by
      rw [byteSize_cons, hn]
      omega
    have hrest : n + byteSize s + 1 - c.utf8Size = byteSize s := by omega
    rw [hsize, List.cons_append, takeBytes?, if_pos (by omega), hrest, ih]
    rfl

theorem dropBytes?_eq_some_iff {n : Nat} {s r : List Char} :
    dropBytes? n s = some r ↔ ∃ u, s = u ++ r ∧ byteSize u = n := by
  constructor
  · intro h
    fun_induction dropBytes? n s with
    | case1 s => exact ⟨[], Option.some.inj h, rfl⟩
    | case2 n => exact absurd h nofun
    | case3 n c s hc ih =>
      obtain ⟨u, rfl, hu⟩ := ih h
      refine ⟨c :: u, rfl, ?_⟩
      rw [byteSize_cons, hu]
      omega
    | case4 n c s hc => exact absurd h nofun
  · rintro ⟨u, rfl, rfl⟩
    exact dropBytes?_append u r

theorem takeBytes?_eq_some_iff {n : Nat} {s u : List Char} :
    takeBytes? n s = some u ↔ ∃ r, s = u ++ r ∧ byteSize u = n := by
  constructor
  · intro h
    fun_induction takeBytes? n s generalizing u with
    | case1 s =>
      obtain rfl := Option.some.inj h
      exact ⟨s, rfl, rfl⟩
    | case2 n => exact absurd h nofun
    | case3 n c s hc ih =>
      obtain ⟨v, hv, rfl⟩ := Option.map_eq_some_iff.mp h
      obtain ⟨r, rfl, hr⟩ := ih hv
      refine ⟨r, rfl, ?_⟩
      rw [byteSize_cons, hr]
      omega
    | case4 n c s hc => exact absurd h nofun
  · rintro ⟨r, rfl, rfl⟩
    exact takeBytes?_append u r

/-! ### Texts -/

/-- Whether `text` is what stands in the source at a span, which has to be there. -/
def IsTextAt (source : List Char) (span : Option ByteSpan) (text : String) : Prop :=
  ∃ before after, source = before ++ (text.toList ++ after) ∧
    span = some ⟨byteSize before, byteSize before + byteSize text.toList⟩

/-- Whether the first `n` bytes of the source are whole characters. -/
def IsWhole (source : List Char) (n : Nat) : Prop :=
  ∃ before after, source = before ++ after ∧ byteSize before = n

/-- What is found at a span is what stands there. -/
theorem snippet?_eq_some_iff : snippet? source span = some text ↔ IsTextAt source (some span) text := by
  obtain ⟨lo, hi⟩ := span
  unfold snippet?
  constructor
  · intro h
    split_ifs at h with hle
    obtain ⟨chars, hchars, rfl⟩ := Option.map_eq_some_iff.mp h
    obtain ⟨rest, hdrop, htake⟩ := Option.bind_eq_some_iff.mp hchars
    obtain ⟨before, rfl, rfl⟩ := dropBytes?_eq_some_iff.mp hdrop
    obtain ⟨after, rfl, hsize⟩ := takeBytes?_eq_some_iff.mp htake
    rw [IsTextAt, String.toList_ofList]
    refine ⟨before, after, rfl, congrArg some ?_⟩
    rw [ByteSpan.mk.injEq]
    dsimp only at hle hsize
    exact ⟨rfl, by omega⟩
  · rintro ⟨before, after, rfl, h⟩
    obtain ⟨rfl, rfl⟩ := ByteSpan.mk.inj (Option.some.inj h)
    rw [if_pos (Nat.le_add_right _ _), Nat.add_sub_cancel_left, dropBytes?_append, Option.bind_some,
      takeBytes?_append]
    exact congrArg some String.ofList_toList

/-- Something stands at a span if its ends are in order and part no character. -/
theorem exists_isTextAt_iff :
    (∃ text, IsTextAt source (some span) text) ↔
      span.lo ≤ span.hi ∧ IsWhole source span.lo ∧ IsWhole source span.hi := by
  constructor
  · rintro ⟨text, before, after, rfl, h⟩
    obtain rfl := Option.some.inj h
    refine ⟨Nat.le_add_right _ _, ⟨before, _, rfl, rfl⟩, before ++ text.toList, after, by simp, ?_⟩
    rw [byteSize_append]
  · rintro ⟨hle, ⟨before, rest, rfl, hlo⟩, upTo, after, hsource, hhi⟩
    -- Of two beginnings of a source the one with fewer bytes is a beginning of the other.
    rcases List.append_eq_append_iff.mp hsource with ⟨cs, rfl, rfl⟩ | ⟨cs, rfl, rfl⟩
    · refine ⟨String.ofList cs, before, after, by rw [String.toList_ofList], congrArg some ?_⟩
      rw [String.toList_ofList, ByteSpan.mk.injEq]
      rw [byteSize_append] at hhi
      exact ⟨hlo.symm, by omega⟩
    · rw [byteSize_append] at hlo
      refine ⟨"", upTo ++ cs, rest, by simp, congrArg some ?_⟩
      rw [ByteSpan.mk.injEq, byteSize_append]
      exact ⟨hlo.symm, by change _ = _ + 0; omega⟩

/-- A source's map has the texts that stand in the source. -/
theorem SourceMap.ofText_eq_ok_iff : SourceMap.ofText source span = .ok text ↔ IsTextAt source (some span) text := by
  rw [← snippet?_eq_some_iff, SourceMap.ofText]
  split
  case h_1 found h =>
    rw [h, Except.ok.injEq, Option.some.injEq]
  case h_2 h =>
    rw [h]
    exact iff_of_false nofun nofun

/-- A source's map panics at a span of the source's own bytes that parts a character. -/
theorem SourceMap.ofText_eq_panic_iff :
    SourceMap.ofText source span = .error .panic ↔
      span.lo ≤ span.hi ∧ span.hi ≤ byteSize source ∧ ¬ (IsWhole source span.lo ∧ IsWhole source span.hi) := by
  have hfound : (∃ text, snippet? source span = some text) ↔
      span.lo ≤ span.hi ∧ IsWhole source span.lo ∧ IsWhole source span.hi := by
    simp only [snippet?_eq_some_iff, exists_isTextAt_iff]
  rw [SourceMap.ofText]
  split
  case h_1 found h =>
    have hwhole := (hfound.mp ⟨found, h⟩).2
    exact iff_of_false nofun fun hcut => hcut.2.2 hwhole
  case h_2 h =>
    rw [h] at hfound
    have hcut : ¬ (span.lo ≤ span.hi ∧ IsWhole source span.lo ∧ IsWhole source span.hi) :=
      fun hwhole => nomatch hfound.mpr hwhole
    constructor
    · intro hpanic
      by_cases hown : span.lo ≤ span.hi ∧ span.hi ≤ byteSize source
      · exact ⟨hown.1, hown.2, fun hwhole => hcut ⟨hown.1, hwhole⟩⟩
      · rw [if_neg hown] at hpanic
        exact absurd hpanic nofun
    · rintro ⟨hle, hown, -⟩
      rw [if_pos ⟨hle, hown⟩]

/-! ### Lexemes -/

/-- A lexeme's characters stand at its bytes. -/
theorem isTextAt_lexeme {α : Type} {scan : Scanner α} (hsrc : src <:+ source) (l : Lexeme scan src) :
    IsTextAt source (some (l.extent.bytes (byteSize source))) (String.ofList l.chars) := by
  obtain ⟨before, hbefore⟩ := l.start.isSuffix.trans hsrc
  have hrest := l.rest_eq
  have hsize : byteSize source = byteSize before + byteSize l.chars + byteSize l.stop.rest := by
    rw [← hbefore, hrest, byteSize_append, byteSize_append, Nat.add_assoc]
  -- Spans are counted from the end of the source.
  have hlo : byteSize source - byteSize l.start.rest = byteSize before := by
    rw [hsize, hrest, byteSize_append]
    omega
  have hhi : byteSize source - byteSize l.stop.rest = byteSize before + byteSize l.chars := by
    rw [hsize]
    omega
  refine ⟨before, l.stop.rest, by rw [String.toList_ofList, ← hrest, hbefore], ?_⟩
  rw [String.toList_ofList, ← hhi, ← hlo]
  rfl

theorem textAt_lexeme {α : Type} {scan : Scanner α} (hsrc : src <:+ source) (l : Lexeme scan src) :
    Fragments.textAt (some (.ofText source)) (some (l.extent.bytes (byteSize source))) =
      .ok (String.ofList l.chars) :=
  SourceMap.ofText_eq_ok_iff.mpr (isTextAt_lexeme hsrc l)

end LazyStyles.Syntax
