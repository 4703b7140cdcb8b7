import LazyStyles.Proofs.Hosts.Trees
import LazyStyles.Proofs.Steps

/-!
# Programs that are handed over again

What a host with trees gets for a program that it has got before.  A program that was kept is kept by the same run
again.  One that was put in another's place starts with an import, whatever texts the host has remembered for the
pieces: these are spliced in as they are, so nothing else is known of it.  That is enough, since no generated module
starts so, and every host keeps it, under every id and with every source map (`rewritten_rewritten`).
-/

namespace LazyStyles

open Syntax

variable {f : Filter} {p q : Program} {m : HostModule} {id : String} {known : Option SourceMap}

/-- The program that a host has after a run, unless its source map panics. -/
def rewritten (f : Filter) (id : String) (known : Option SourceMap) (p : Program) : Option Program :=
  (rewrite f p id known).program p

/-- Whether every host keeps the program. -/
def IsSettled (p : Program) : Prop :=
  ∀ f id known, rewritten f id known p = some p

/-- A module that starts with an import is none of the generated ones. -/
theorem exists_ofModule_eq_error {i : Import Leaves.host} {is : List (Item Leaves.host)}
    (h : m.items = .imports i :: is) : ∃ e, Shape.ofModule m = .error e := by
  cases hshape : Shape.ofModule m with
  | error e => exact ⟨e, rfl⟩
  | ok shape =>
    obtain ⟨a, b, c, d, hm, hcss, -, -, -⟩ := Shape.exists_of_ofModule hshape
    obtain ⟨rfl, -⟩ := List.cons.inj (h.symm.trans hm)
    exact absurd hcss nofun

theorem isSettled_of_import {i : Import Leaves.host} {is : List (Item Leaves.host)}
    (h : m.items = .imports i :: is) : IsSettled (.module m) := by
  intro f id known
  unfold rewritten
  cases hid : f.accepts id with
  | false => rw [rewrite_of_accepts_eq_false hid, Rewriting.program]
  | true =>
    obtain ⟨e, he⟩ := exists_ofModule_eq_error h
    rw [rewrite_of_lazySource_eq_kept hid (lazySource_of_ofModule_eq_error he), Rewriting.program]

/-- What takes a program's place starts with an import, so every host keeps it. -/
theorem isSettled_of_ne (h : rewritten f id known p = some q) (hne : q ≠ p) : IsSettled q := by
  obtain ⟨m, n, hplace⟩ := exists_program_ne_iff.mp ⟨q, h, hne⟩
  obtain rfl : Program.module (placed n m.span) = q := Option.some.inj (hplace.program_eq.symm.trans h)
  obtain ⟨-, -, shape, fragments, -, -, hn⟩ := hplace
  obtain ⟨i, is, hitems⟩ := exists_import_of_parseModule_render hn
  have hplaced : (placed n m.span).items = (n.items.map (·.map Leaves.withoutSpans)) := rfl
  rw [hitems] at hplaced
  exact isSettled_of_import hplaced

/-- A host that hands over what it has got gets it back, whatever its program was; and what has taken a program's place
is kept for every filter and id and with every source map.  So a source map does not panic either at a program that has
been got with it. -/
theorem rewritten_rewritten (f : Filter) (id : String) (known : Option SourceMap) (p : Program) :
    ∀ q, rewritten f id known p = some q → rewritten f id known q = some q ∧
      (q ≠ p → ∀ (f' : Filter) (id' : String) (known' : Option SourceMap), rewritten f' id' known' q = some q) := by
  intro q h
  refine ⟨?_, isSettled_of_ne h⟩
  by_cases hq : q = p
  · rwa [hq] at h ⊢
  · exact isSettled_of_ne h hq f id known

/-- A text that closes the call it is spliced into and the function around it, and goes on with items of its own. -/
def misleadingText : String :=
  "'');other(''"

/-- A generated module whose stylesheet is remembered with that text. -/
def misleadingModule : HostModule :=
  Edit.css (fun _ => .str (⟨none, "", some misleadingText⟩ : StrNode)) ⟨none, generatedItems .var 0 "" [] helperPath⟩

theorem rewritten_rewritten_misleadingModule :
    ∃ q, rewritten .all "a.css" none (.module misleadingModule) = some q ∧ q ≠ .module misleadingModule ∧
      rewritten .all "a.css" none q = some q ∧ rewritten .all "b.css" (some (.ofText [])) q = some q := by
  let fragments : Fragments := ⟨misleadingText, "\x7b  \x7d", (quoted helperPath)⟩
  have hshape : ∃ shape, Shape.ofModule misleadingModule = .ok shape ∧
      Fragments.ofShape shape none = .ok fragments := ⟨_, rfl, by decide⟩
  -- The text that the stylesheet is remembered with is spliced in, and what comes of it is parsed all the same.
  have hparse : ((parseModule fragments.render "a.css").toOption.any fun _ => true) = true := by
    decide +kernel
  obtain ⟨shape, hshape, hfragments⟩ := hshape
  obtain ⟨n, hn, -⟩ := exists_of_any_toOption hparse
  have hplace : TakesPlace .all (.module misleadingModule) "a.css" none misleadingModule n :=
    ⟨by decide, rfl, shape, fragments, hshape, hfragments, hn⟩
  obtain ⟨hsame, hkept⟩ := rewritten_rewritten .all "a.css" none (.module misleadingModule) _ hplace.program_eq
  exact ⟨_, hplace.program_eq, hplace.module_ne, hsame, hkept hplace.module_ne .all "b.css" (some (.ofText []))⟩

end LazyStyles
