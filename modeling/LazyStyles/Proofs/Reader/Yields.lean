import LazyStyles.Syntax.Read
import LazyStyles.Proofs.Reader.Run

/-!
# What readers yield

`Reader.Yields` says what holds of the result of a reader in a module, provided that no issue is reported in
the end.  That nothing else has to be kept track of is due to readers taking no issue back: what is sound when
a token is looked at was sound all along (`Yields.bind`).
-/

namespace LazyStyles.Syntax

variable {src : List Char} {α β : Type}

namespace Reader

/-- Whether what a reader makes of a state satisfies `Q`, unless there is an issue then. -/
def YieldsFrom (r : Reader src α) (s : State src) (Q : α → Prop) : Prop :=
  ∀ c : Context, c.IsModular → ∀ a t, r.run c s = .ok a t → t.issue? = none → Q a

/-- Whether what a reader makes of a sound state satisfies `Q`, unless there is an issue then. -/
def Yields (r : Reader src α) (Q : α → Prop) : Prop :=
  ∀ s : State src, s.IsSound → r.YieldsFrom s Q

variable {r : Reader src α} {f : β → Reader src α} {s : State src} {P : β → Prop} {Q : α → Prop}

theorem YieldsFrom.pure {a : α} (h : Q a) : (pure a : Reader src α).YieldsFrom s Q := by
  rintro c - _ _ ⟨⟩ -
  exact h

theorem YieldsFrom.bind {r : Reader src β} (hs : s.IsSound) (hr : r.YieldsFrom s P)
    (hf : ∀ b, P b → (f b).Yields Q) : (r >>= f).YieldsFrom s Q := by
  intro c hc a t hrun ht
  obtain ⟨b, u, hu, hrun⟩ := exists_of_run_bind hrun
  have hleads := r.leads hc s
  rw [hu] at hleads
  have hleads' := (f b).leads hc u
  rw [hrun] at hleads'
  exact hf b (hr c hc b u hu (hleads'.issue ht)) u (hleads.sound hs) c hc a t hrun ht

theorem YieldsFrom.get_bind {f : State src → Reader src α} (hf : s.issue? = none → (f s).YieldsFrom s Q) :
    (get >>= f).YieldsFrom s Q := by
  intro c hc a t hrun ht
  have hleads := (f s).leads hc s
  rw [show (f s).run c s = .ok a t from hrun] at hleads
  exact hf (hleads.issue ht) c hc a t hrun ht

namespace Yields

theorem pure {a : α} (h : Q a) : (pure a : Reader src α).Yields Q := fun _ _ =>
  .pure h

/-- A reader that goes on with the result of another. -/
theorem bind {r : Reader src β} (hr : r.Yields P) (hf : ∀ b, P b → (f b).Yields Q) : (r >>= f).Yields Q :=
  fun s hs => .bind hs (hr s hs) hf

/-- A reader that goes on after another, whatever its result. -/
theorem seq {r : Reader src β} (hf : ∀ b, (f b).Yields Q) : (r >>= f).Yields Q :=
  .bind (P := fun _ => True) (fun _ _ _ _ _ _ _ _ => trivial) fun b _ => hf b

theorem ite {c : Prop} [Decidable c] {r' : Reader src α} (h : c → r.Yields Q) (h' : ¬c → r'.Yields Q) :
    (if c then r else r').Yields Q := by
  split_ifs with hc
  · exact h hc
  · exact h' hc

/-- A reader that goes on from where it stands, without an issue so far. -/
theorem get_bind {f : State src → Reader src α}
    (hf : ∀ s : State src, s.IsSound → s.issue? = none → (f s).YieldsFrom s Q) : (get >>= f).Yields Q :=
  fun s hs => .get_bind (hf s hs)

theorem imp {P : α → Prop} (hr : r.Yields P) (h : ∀ a, P a → Q a) : r.Yields Q :=
  fun s hs c hc a t hrun ht => h a (hr s hs c hc a t hrun ht)

theorem within {change : Context → Context} {h : ∀ c : Context, c.IsModular → (change c).IsModular}
    (hr : r.Yields Q) : (within change r h).Yields Q := fun s hs c hc =>
  hr s hs (change c) (h c hc)

/-! ### Failures -/

theorem throw {i : Issue src} : (throw i : Reader src α).Yields Q := fun _ _ _ _ _ _ h =>
  absurd h nofun

theorem fail {fault : Fault} {p : Place src} : (Reader.fail fault p : Reader src α).Yields Q := by
  unfold Reader.fail
  refine .seq fun s => ?_
  split
  all_goals exact .throw

theorem failHere {fault : Fault} : (Reader.failHere fault : Reader src α).Yields Q :=
  .seq fun _ => .fail

theorem failAtEnd : (Reader.failAtEnd : Reader src α).Yields Q :=
  .throw

theorem unexpected {wanted : String} : (Reader.unexpected wanted : Reader src α).Yields Q := by
  unfold Reader.unexpected
  refine .seq fun s => ?_
  dsimp only
  split_ifs
  · exact .failAtEnd
  · exact .failHere

/-- Nothing goes on after a failure. -/
theorem bind_of_fails {r : Reader src β} (hr : r.Yields fun _ => False) : (r >>= f).Yields Q :=
  .bind hr fun _ => False.elim

/-- Nothing comes of what goes on after an issue. -/
theorem record {i : Issue src} : (Reader.record i).Yields fun _ => False := by
  rintro s - c - _ _ ⟨⟩ ht
  simp [State.withIssue] at ht

/-! ### Lists -/

/-- All that a list reader yields satisfies what its items do. -/
theorem many {isDone : Reader src Bool} (hr : r.Yields Q) (fuel : Nat) :
    (many isDone r fuel).Yields fun as => ∀ a ∈ as, Q a := by
  induction fuel with
  | zero => exact .failHere
  | succ fuel ih =>
    unfold Reader.many
    refine .seq fun d => ?_
    split_ifs
    · exact .pure nofun
    · refine .bind hr fun a ha => .bind ih fun as has => .pure ?_
      exact List.forall_mem_cons.mpr ⟨ha, has⟩

end Yields

end Reader

end LazyStyles.Syntax
