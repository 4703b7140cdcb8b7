import LazyStyles.LazyModule
import LazyStyles.Proofs.Reader.Item
import LazyStyles.Proofs.Module.Phrase

/-!
# The first item of a lazy module

The text of a lazy module starts with an import, whatever its fragments are.  So nothing that such a text is
parsed as starts with anything else (`exists_import_of_parseModule_render`), even where the fragments are no
literals at all and the rest of the module is not the intended one.
-/

namespace LazyStyles

namespace Syntax

variable {src : List Char}

namespace Reader

variable {g : Grammar src} {c : Context} {s : State src}

theorem exists_of_succeeds_here {Q : Place src → State src → Prop} (h : here.Succeeds c s Q) : ∃ p, Q p s := by
  simp only [here, succeeds_bind, succeeds_get] at h
  split at h
  all_goals exact ⟨_, succeeds_pure.mp h⟩

/-- What starts with the word of imports, and goes on neither as a call nor as a member, is an import. -/
theorem exists_import_of_item {Q : Item (Leaves.ofSource src) → State src → Prop} {l : Lexeme scanWord src}
    (h : (item g).Succeeds c s Q) (hc : c.IsModular) (hl : s.token = .word l) (hname : l.value.name = "import")
    (hcalled : ∀ text ∈ ["(", "."], (Token.scan c.reserves false s.stop).token.is text = false) :
    ∃ i t, Q (.imports i) t := by
  simp only [item, succeeds_bind] at h
  obtain ⟨start, h⟩ := exists_of_succeeds_here h
  simp only [succeeds_read, succeeds_get, hl, succeeds_bind, succeeds_lookahead, hc.1, hname, beq_self_eq_true,
    hcalled "(" (by decide), hcalled "." (by decide), Bool.or_self, Bool.not_false, Bool.and_self, if_true,
    succeeds_next] at h
  obtain ⟨i, t, -, h⟩ := h
  exact ⟨i, t, succeeds_pure.mp h⟩

theorem exists_import_of_items {Q : List (Item (Leaves.ofSource src)) → State src → Prop} {fuel : Nat}
    {isFirst : Bool} {l : Lexeme scanWord src} (h : (items g (fuel + 1) isFirst).Succeeds c s Q) (hc : c.IsModular)
    (hl : s.token = .word l) (hname : l.value.name = "import")
    (hcalled : ∀ text ∈ ["(", "."], (Token.scan c.reserves false s.stop).token.is text = false) :
    ∃ i is t, Q (.imports i :: is) t := by
  simp only [items, succeeds_bind, succeeds_isFinished, hl, Token.isFinish, Bool.false_eq_true, if_false] at h
  obtain ⟨i, t, is, u, -, h⟩ := exists_import_of_item h hc hl hname hcalled
  exact ⟨i, is, u, succeeds_pure.mp h⟩

end Reader

/-- A word without escapes is the token in front of a text that starts with it. -/
theorem Token.exists_scan_of_word {p : Place src} {ws rest : List Char} {w : String} (b : Bool)
    (hws : ∀ c ∈ ws, Text.isSpace c = true) (hw : Sign.isPlainWord w.toList = true) (hrest : IsBoundary rest)
    (hp : p.rest = ws ++ (w.toList ++ rest)) :
    ∃ l : Lexeme scanWord src, (Token.scan moduleReserved b p).token = .word l ∧ l.value.name = w ∧
      (Token.scan moduleReserved b p).stop.rest = rest := by
  obtain ⟨hat, hsolid⟩ := Sign.isSpelt_plainWord hw rest hrest
  rw [String.ofList_toList] at hat
  obtain ⟨hstart, hscan⟩ := Token.scan_of_blanks hws hsolid hp b
  rw [← hstart] at hat
  obtain ⟨token, stop, hscanAt, ⟨l, rfl, hl⟩, hstop⟩ := Token.exists_scanAt_of_isAt hat
  rw [hscan, hscanAt]
  exact ⟨l, rfl, congrArg Word.name hl, hstop rfl⟩

/-- A source that starts with an import of a name is read as one. -/
theorem exists_import_of_readItems {n : String} {hasShellLine : Bool} {r : Read src}
    (hsrc : "import".toList ++ (' ' :: (n.toList ++ [' '])) <+: src) (hn : Sign.isPlainWord n.toList = true)
    (hmarks : ∀ text ∈ ["(", "."], (n == text) = false) (h : readItems src true hasShellLine = .ok r) :
    ∃ i is, r.items = .imports i :: is := by
  obtain ⟨rest, hrest⟩ := hsrc
  have hsrc : src = "import".toList ++ (' ' :: (n.toList ++ ' ' :: rest)) := by
    rw [← hrest, List.append_assoc, List.cons_append, List.append_assoc]
    rfl
  have hskip : (if hasShellLine then shellLine src else 0) = 0 := by
    rw [hsrc]
    cases hasShellLine <;> rfl
  have hblank : ∀ c ∈ [' '], Text.isSpace c = true := List.forall_mem_singleton.mpr (by decide)
  have hend (s : List Char) : IsBoundary (' ' :: s) := isBoundary_cons.mpr (by decide)
  have hfirst : (Place.first.advance 0 : Place src).rest =
      [] ++ ("import".toList ++ (' ' :: (n.toList ++ ' ' :: rest))) := hsrc
  obtain ⟨l, hl, hname, hstop⟩ := Token.exists_scan_of_word true (List.forall_mem_nil _) (by decide) (hend _) hfirst
  obtain ⟨l', hl', hname', -⟩ := Token.exists_scan_of_word false hblank hn (hend rest) hstop
  -- The two words that have been scanned are all that is looked at before the item is taken for an import.
  unfold readItems at h
  dsimp only at h
  rw [hskip, Grammar.level_fuel] at h
  split at h
  case h_1 => exact absurd h nofun
  case h_2 is s hrun =>
    have hitems : (Reader.items _ _ true).Succeeds _ _ fun a _ => a = is := ⟨is, s, hrun, rfl⟩
    obtain ⟨i, is', -, rfl⟩ := Reader.exists_import_of_items hitems Context.initial_isModular hl hname
      fun text htext => by
        change (Token.scan moduleReserved false _).token.is text = false
        rw [hl']
        change (l'.value.name == text) = false
        rw [hname']
        exact hmarks text htext
    split at h
    case h_1 => exact absurd h nofun
    case h_2 =>
      obtain rfl := Except.ok.inj h
      exact ⟨i, is', rfl⟩

end Syntax

open Syntax

/-- Whatever the text of a lazy module is parsed as, it starts with an import. -/
theorem exists_import_of_parseModule_render {f : Fragments} {id : String} {n : HostModule}
    (h : parseModule f.render id = .ok n) : ∃ i is, n.items = .imports i :: is := by
  have hwords : "import".toList ++ (' ' :: ("styleInject".toList ++ [' '])) <+: "import styleInject from ".toList := by
    decide
  have hrender : "import styleInject from ".toList <+: f.render.toList := by
    unfold Fragments.render
    simp only [String.toList_append, List.append_assoc, -String.reduceToList]
    exact List.prefix_append _ _
  have hstart := hwords.trans hrender
  -- The text starts with a letter, so neither a byte order mark nor a shell line is passed over.
  have hbody : bodyOf (sourceOf f.render) = f.render.toList := by
    obtain ⟨rest, hrest⟩ := hstart
    rw [sourceOf, ← hrest]
    rfl
  unfold parseModule parse at h
  dsimp only at h
  split at h
  case h_1 => exact absurd h nofun
  case h_2 r hr =>
    obtain rfl := Except.ok.inj h
    rw [← hbody] at hstart
    obtain ⟨i, is, his⟩ := exists_import_of_readItems hstart (by decide) (by decide) hr
    exact ⟨_, _, congrArg (List.map _) his⟩

end LazyStyles
