import LazyStyles.Proofs.Hosts.Texts

/-!
# The outcomes of a call

What a host with texts gets from a call, case by case (`Plugin.Outcome`).  The filter comes before the parser, and
the parser before the shape of the module; a module that has passed all three always gets a lazy one in its place, as
each piece of a module that has just been parsed has a text (`exists_lazySource_of_ofModule`).  So there are no other
cases, among them none in which the source map panics, and the result and the log both tell which of them it was
(`Plugin.transform_outcomes`).
-/

namespace LazyStyles

open Syntax

/-- What the log says of an event: how much it matters, its wording, and the mismatch if it is about one. -/
def Event.line (e : Event) : Level × String × Option Mismatch :=
  (e.level, e.message, match e with | .notGenerated m => some m | _ => none)

namespace Plugin

variable {p : Plugin} {code id : String}

/-- What the log says after a call: the events of its answer.  A call that fails has no answer. -/
def log (p : Plugin) (code id : String) : List (Level × String × Option Mismatch) :=
  match p.transform code id with
  | .ok a => a.events.map Event.line
  | .error _ => []

/-- What a call comes to, decided by the filter, the parser and the shape in this order. -/
inductive Outcome (p : Plugin) (code id : String) : Except Failure Answer → Prop
  | skipped (hid : p.filter.accepts id = false) : Outcome p code id (.ok ⟨none, [.skipped]⟩)
  | refused {e : ParseError} (hid : p.filter.accepts id = true) (hm : parseModule code id = .error e) :
    Outcome p code id (.error (.refused e))
  | notGenerated {m : HostModule} {e : Mismatch} (hid : p.filter.accepts id = true) (hm : parseModule code id = .ok m)
    (hshape : Shape.ofModule m = .error e) : Outcome p code id (.ok ⟨none, [.notGenerated e]⟩)
  | deferred {m : HostModule} {shape : Shape} (out : String) (hid : p.filter.accepts id = true)
    (hm : parseModule code id = .ok m) (hshape : Shape.ofModule m = .ok shape) :
    Outcome p code id (.ok ⟨some out, [.deferred]⟩)

theorem exists_outcome (p : Plugin) (code id : String) : ∃ r, p.transform code id = r ∧ Outcome p code id r := by
  cases hid : p.filter.accepts id with
  | false => exact ⟨_, transform_of_accepts_eq_false hid, .skipped hid⟩
  | true =>
    cases hm : parseModule code id with
    | error e => exact ⟨_, transform_of_parseModule_eq_error hid hm, .refused hid hm⟩
    | ok m =>
      cases hshape : Shape.ofModule m with
      | error e =>
        have hlazy : lazySource m (some (.ofText (sourceOf code))) = .error (.kept (.notGenerated e)) :=
          lazySource_of_ofModule_eq_error hshape
        exact ⟨_, transform_of_lazySource_eq_kept hid hm hlazy, .notGenerated hid hm hshape⟩
      | ok shape =>
        -- All pieces have texts, so the decision cannot end for want of one.
        obtain ⟨out, hlazy, -⟩ := exists_lazySource_of_ofModule hm hshape (.inr rfl) nofun
        exact ⟨_, transform_of_lazySource_eq_ok hid hm hlazy, .deferred out hid hm hshape⟩

/-! ### Results -/

theorem transform_eq_error_iff {e : Failure} :
    p.transform code id = .error e ↔
      p.filter.accepts id = true ∧ ∃ fault, parseModule code id = .error fault ∧ e = .refused fault := by
  obtain ⟨r, hr, h⟩ := exists_outcome p code id
  rw [hr]
  cases h with
  | skipped hid => simp [hid]
  | refused hid hm => simp [hid, hm, eq_comm]
  | notGenerated hid hm => simp [hm]
  | deferred out hid hm => simp [hm]

theorem exists_transform_eq_some_iff :
    (∃ out es, p.transform code id = .ok ⟨some out, es⟩) ↔
      p.filter.accepts id = true ∧ ∃ m shape, parseModule code id = .ok m ∧ Shape.ofModule m = .ok shape := by
  obtain ⟨r, hr, h⟩ := exists_outcome p code id
  rw [hr]
  cases h with
  | skipped hid => simp [hid]
  | refused hid hm => simp [hm]
  | notGenerated hid hm hshape => simp [hm, hshape]
  | deferred out hid hm hshape => simp [hid, hm, hshape]

theorem exists_transform_eq_none_iff :
    (∃ es, p.transform code id = .ok ⟨none, es⟩) ↔
      p.filter.accepts id = false ∨ ∃ m e, parseModule code id = .ok m ∧ Shape.ofModule m = .error e := by
  obtain ⟨r, hr, h⟩ := exists_outcome p code id
  rw [hr]
  cases h with
  | skipped hid => simp [hid]
  | refused hid hm => simp [hid, hm]
  | notGenerated hid hm hshape => simp [hm, hshape]
  | deferred out hid hm hshape => simp [hid, hm, hshape]

theorem apply_eq_error_iff {e : Failure} : p.apply code id = .error e ↔ p.transform code id = .error e := by
  rw [apply]
  cases p.transform code id <;> simp [Except.map]

/-- What is applied is the replacement, or the text as it is. -/
theorem apply_eq_ok_iff_exists {t : String} :
    p.apply code id = .ok t ↔
      (∃ es, p.transform code id = .ok ⟨some t, es⟩) ∨ t = code ∧ ∃ es, p.transform code id = .ok ⟨none, es⟩ := by
  rw [apply_eq_ok_iff]
  constructor
  · rintro ⟨⟨_ | out, es⟩, ha, rfl⟩
    · exact .inr ⟨rfl, es, ha⟩
    · exact .inl ⟨es, ha⟩
  · rintro (⟨es, ha⟩ | ⟨rfl, es, ha⟩)
    · exact ⟨_, ha, rfl⟩
    · exact ⟨_, ha, rfl⟩

/-! ### The log -/

/-- A log is empty after a call that fails, and has one line after any other. -/
theorem log_eq_nil_iff : p.log code id = [] ↔ ∃ e, p.transform code id = .error e := by
  obtain ⟨r, hr, h⟩ := exists_outcome p code id
  rw [log, hr]
  cases h <;> simp

theorem length_log_le_one : (p.log code id).length ≤ 1 := by
  obtain ⟨r, hr, h⟩ := exists_outcome p code id
  rw [log, hr]
  cases h <;> simp

theorem log_eq_skipped_iff :
    p.log code id = [(.trace, "skipped by filter", none)] ↔ p.filter.accepts id = false := by
  obtain ⟨r, hr, h⟩ := exists_outcome p code id
  rw [log, hr]
  cases h with
  | skipped hid => simp [hid, Event.line, Event.level, Event.message]
  | refused hid => simp [hid]
  | notGenerated hid => simp [hid, Event.line, Event.level]
  | deferred out hid => simp [hid, Event.line, Event.level]

theorem log_eq_notGenerated_iff {e : Mismatch} :
    p.log code id = [(.debug, "not a generated css module", some e)] ↔
      p.filter.accepts id = true ∧ ∃ m, parseModule code id = .ok m ∧ Shape.ofModule m = .error e := by
  obtain ⟨r, hr, h⟩ := exists_outcome p code id
  rw [log, hr]
  cases h with
  | skipped hid => simp [hid, Event.line, Event.level]
  | refused hid hm => simp [hm]
  | notGenerated hid hm hshape => simp [hid, hm, hshape, Event.line, Event.level, Event.message]
  | deferred out hid hm hshape => simp [hm, hshape, Event.line]

theorem log_eq_deferred_iff :
    p.log code id = [(.debug, "deferring style injection", none)] ↔
      ∃ out es, p.transform code id = .ok ⟨some out, es⟩ := by
  obtain ⟨r, hr, h⟩ := exists_outcome p code id
  rw [log, hr]
  cases h with
  | skipped => simp [Event.line, Event.level]
  | refused => simp
  | notGenerated => simp [Event.line]
  | deferred out => simp [Event.line, Event.level, Event.message]

/-! ### All of it -/

/-- A call fails with the parser's error exactly if the filter accepts the id and the text is not parsed; it answers
with a replacement exactly if the filter accepts the id and the text is parsed as a generated module; else it leaves
the text.  What is applied is the replacement or the text as it is.  The log stays empty if the call fails; else it
gets one line, which tells the outcome. -/
theorem transform_outcomes (p : Plugin) (code id : String) :
    (∀ e, p.transform code id = .error e ↔
        p.filter.accepts id = true ∧ ∃ fault, parseModule code id = .error fault ∧ e = .refused fault) ∧
      ((∃ out es, p.transform code id = .ok ⟨some out, es⟩) ↔
        p.filter.accepts id = true ∧ ∃ m shape, parseModule code id = .ok m ∧ Shape.ofModule m = .ok shape) ∧
      ((∃ es, p.transform code id = .ok ⟨none, es⟩) ↔
        p.filter.accepts id = false ∨ ∃ m e, parseModule code id = .ok m ∧ Shape.ofModule m = .error e) ∧
      (∀ e, p.apply code id = .error e ↔ p.transform code id = .error e) ∧
      (∀ t, p.apply code id = .ok t ↔
        (∃ es, p.transform code id = .ok ⟨some t, es⟩) ∨ t = code ∧ ∃ es, p.transform code id = .ok ⟨none, es⟩) ∧
      (p.log code id = [] ↔ ∃ e, p.transform code id = .error e) ∧ (p.log code id).length ≤ 1 ∧
      (p.log code id = [(.trace, "skipped by filter", none)] ↔ p.filter.accepts id = false) ∧
      (∀ e, p.log code id = [(.debug, "not a generated css module", some e)] ↔
        p.filter.accepts id = true ∧ ∃ m, parseModule code id = .ok m ∧ Shape.ofModule m = .error e) ∧
      (p.log code id = [(.debug, "deferring style injection", none)] ↔
        ∃ out es, p.transform code id = .ok ⟨some out, es⟩) :=
  ⟨fun _ => transform_eq_error_iff, exists_transform_eq_some_iff, exists_transform_eq_none_iff,
    fun _ => apply_eq_error_iff, fun _ => apply_eq_ok_iff_exists, log_eq_nil_iff, length_log_le_one,
    log_eq_skipped_iff, fun _ => log_eq_notGenerated_iff, log_eq_deferred_iff⟩

end Plugin

end LazyStyles
