import LazyStyles.Proofs.Lexical.Spelling

/-!
# Successful runs

`Reader.Succeeds` says that a reader succeeds from a state, and with what.  Its equations follow the reader's
own steps, so that a reader is run by rewriting with them up to the readers it calls.  What is known of those is
taken in by `Succeeds.mono`.
-/

namespace LazyStyles.Syntax

variable {src : List Char} {α β : Type}

namespace Reader

/-! ### Runs -/

section Bind

variable {r : Reader src β} {f : β → Reader src α} {c : Context} {s u : State src} {a : α} {b : β} {t : State src}

theorem run_bind : (r >>= f).run c s =
    match r.run c s with
    | .ok b u => (f b).run c u
    | .error i u => .error i u :=
  rfl

theorem run_bind_of_ok (h : r.run c s = .ok b u) : (r >>= f).run c s = (f b).run c u := by
  rw [run_bind, h]

/-- A run of two readers comes from a run of the first. -/
theorem exists_of_run_bind (h : (r >>= f).run c s = .ok a t) :
    ∃ b u, r.run c s = .ok b u ∧ (f b).run c u = .ok a t := by
  rw [run_bind] at h
  cases hr : r.run c s with
  | ok b u =>
    rw [hr] at h
    exact ⟨b, u, rfl, h⟩
  | error i u =>
    rw [hr] at h
    cases h

end Bind

theorem run_tryCatch {r : Reader src α} {f : Issue src → Reader src α} {c : Context} {s : State src} :
    (tryCatch r f).run c s =
      match r.run c s with
      | .ok a t => .ok a t
      | .error i t => (f i).run c t :=
  rfl

/-! ### Success -/

/-- Whether a reader succeeds from a state, with a result and a state behind that satisfy `Q`. -/
def Succeeds (r : Reader src α) (c : Context) (s : State src) (Q : α → State src → Prop) : Prop :=
  ∃ a t, r.run c s = .ok a t ∧ Q a t

variable {c : Context} {s : State src} {Q : α → State src → Prop}

theorem Succeeds.mono {r : Reader src α} {P : α → State src → Prop} (h : r.Succeeds c s P)
    (hQ : ∀ a t, P a t → Q a t) : r.Succeeds c s Q := by
  obtain ⟨a, t, hrun, hP⟩ := h
  exact ⟨a, t, hrun, hQ a t hP⟩

theorem succeeds_pure {a : α} : (pure a : Reader src α).Succeeds c s Q ↔ Q a s := by
  constructor
  · rintro ⟨b, t, hrun, hQ⟩
    obtain ⟨rfl, rfl⟩ := EStateM.Result.ok.inj hrun
    exact hQ
  · exact fun hQ => ⟨a, s, rfl, hQ⟩

theorem succeeds_bind {r : Reader src β} {f : β → Reader src α} :
    (r >>= f).Succeeds c s Q ↔ r.Succeeds c s fun b t => (f b).Succeeds c t Q := by
  constructor
  · rintro ⟨a, t, hrun, hQ⟩
    obtain ⟨b, u, hr, hf⟩ := exists_of_run_bind hrun
    exact ⟨b, u, hr, a, t, hf, hQ⟩
  · rintro ⟨b, u, hr, a, t, hrun, hQ⟩
    exact ⟨a, t, (run_bind_of_ok hr).trans hrun, hQ⟩

/-! ### Primitive readers -/

theorem succeeds_get {Q : State src → State src → Prop} : get.Succeeds c s Q ↔ Q s s := by
  constructor
  · rintro ⟨_, _, ⟨⟩, hQ⟩
    exact hQ
  · exact fun hQ => ⟨s, s, rfl, hQ⟩

theorem succeeds_read {Q : Context → State src → Prop} : read.Succeeds c s Q ↔ Q c s := by
  constructor
  · rintro ⟨_, _, ⟨⟩, hQ⟩
    exact hQ
  · exact fun hQ => ⟨c, s, rfl, hQ⟩

theorem succeeds_next {Q : Unit → State src → Prop} : next.Succeeds c s Q ↔ Q () (s.next c) := by
  constructor
  · rintro ⟨_, _, ⟨⟩, hQ⟩
    exact hQ
  · exact fun hQ => ⟨(), s.next c, rfl, hQ⟩

theorem succeeds_extend {p : Place src} {Q : Unit → State src → Prop} :
    (extend p).Succeeds c s Q ↔ Q () { s with stop := p } := by
  constructor
  · rintro ⟨_, _, ⟨⟩, hQ⟩
    exact hQ
  · exact fun hQ => ⟨(), _, rfl, hQ⟩

theorem succeeds_within {change : Context → Context} {r : Reader src α}
    {h : ∀ c : Context, c.IsModular → (change c).IsModular} :
    (within change r h).Succeeds c s Q ↔ r.Succeeds (change c) s Q :=
  Iff.rfl

theorem succeeds_withIn {allowed : Bool} {r : Reader src α} :
    (withIn allowed r).Succeeds c s Q ↔ r.Succeeds { c with allowsIn := allowed } s Q :=
  Iff.rfl

/-! ### Looking at the token -/

theorem succeeds_tokenIs {text : String} {Q : Bool → State src → Prop} :
    (tokenIs text).Succeeds c s Q ↔ Q (s.token.is text) s := by
  simp only [tokenIs, succeeds_bind, succeeds_get, succeeds_pure]

theorem succeeds_isFinished {Q : Bool → State src → Prop} :
    isFinished.Succeeds c s Q ↔ Q s.token.isFinish s := by
  simp only [isFinished, succeeds_bind, succeeds_get, succeeds_pure]

theorem succeeds_isOnNewLine {Q : Bool → State src → Prop} :
    isOnNewLine.Succeeds c s Q ↔ Q s.isOnNewLine s := by
  simp only [isOnNewLine, succeeds_bind, succeeds_get, succeeds_pure]

theorem succeeds_extentFrom {p : Place src} {Q : Extent src → State src → Prop} :
    (extentFrom p).Succeeds c s Q ↔ Q ⟨p, s.previous.stop⟩ s := by
  simp only [extentFrom, succeeds_bind, succeeds_get, succeeds_pure]

theorem succeeds_lookahead {Q : Lexed src → State src → Prop} :
    lookahead.Succeeds c s Q ↔ Q (Token.scan c.reserves false s.stop) s := by
  simp only [lookahead, succeeds_bind, succeeds_get, succeeds_read, succeeds_pure]

/-- Where a reader takes itself to be never matters to whether it succeeds. -/
theorem succeeds_here {Q : Place src → State src → Prop} (h : ∀ p, Q p s) : here.Succeeds c s Q := by
  simp only [here, succeeds_bind, succeeds_get]
  split
  all_goals exact succeeds_pure.mpr (h _)

/-! ### Moving on -/

theorem succeeds_eat {text : String} {Q : Bool → State src → Prop} :
    (eat text).Succeeds c s Q ↔ if s.token.is text then Q true (s.next c) else Q false s := by
  simp only [eat, succeeds_bind, succeeds_tokenIs]
  split_ifs with h
  · simp only [succeeds_bind, succeeds_next, succeeds_pure]
  · exact succeeds_pure

theorem succeeds_expect {text : String} {Q : Unit → State src → Prop} (h : s.token.is text = true) :
    (expect text).Succeeds c s Q ↔ Q () (s.next c) := by
  simp only [expect, succeeds_bind, succeeds_get, h, if_true, succeeds_next]

end Reader

end LazyStyles.Syntax
