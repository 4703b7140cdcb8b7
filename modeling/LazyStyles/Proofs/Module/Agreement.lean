import LazyStyles.Proofs.Module.Recognition

/-!
# Recognition of alike modules

A module is recognised by the names and the values of strings in it, and by no other data of its leaves.  If two maps
of leaves agree on these, the modules that they make of the same items are both recognised, with pieces that they make
of the same ones, or they deviate in the same place (`Shape.ofModule_of_agree`).
-/

namespace LazyStyles

open Syntax

variable {L : Leaves} {f g : Leaves.Map L Leaves.host} {i : Item L} {is : List (Item L)}

/-- Whether the maps give leaves the same names and values of strings. -/
structure Agree (f g : Leaves.Map L Leaves.host) : Prop where
  name : ∀ i, IdentNode.name (f.ident i) = IdentNode.name (g.ident i)
  value : ∀ s, StrNode.value (f.str s) = StrNode.value (g.str s)

theorem Agree.symm (h : Agree f g) : Agree g f :=
  ⟨fun i => (h.name i).symm, fun s => (h.value s).symm⟩

/-- The pieces of a module with the given leaves, in a host's form. -/
def Shape.made (f : Leaves.Map L Leaves.host) (css : L.Str) (ps : List (Property L)) (helper : L.Str) : Shape where
  css := f.str css
  classMap := ps.map (·.map f)
  helper := f.str helper

/-! ### Statements -/

section Statements

variable (h : Agree f g)

include h

theorem exists_declaresCss_of_agree {css : StrNode} (hi : DeclaresCss (i.map f) css) :
    ∃ css', DeclaresCss (i.map g) css' := by
  generalize hj : i.map f = j at hi
  obtain ⟨hkind, hn⟩ := hi
  obtain ⟨s, d, target, e, rfl, htarget, he⟩ := exists_of_map_eq_variable hj
  obtain ⟨n, rfl, rfl⟩ := exists_of_map_eq_ident htarget
  obtain ⟨l, rfl, hl⟩ := exists_of_map_eq_literal he
  cases l with
  | str css' => exact ⟨g.str css', .mk hkind ((h.name n).symm.trans hn)⟩
  | _ => exact absurd hl nofun

omit h in
/-- Which object is exported does not depend on leaves at all. -/
theorem exists_exportsObject_map {ps : List (Property Leaves.host)} (hi : ExportsObject (i.map f) ps)
    (g : Leaves.Map L Leaves.host) :
    ∃ qs : List (Property L), qs.map (·.map f) = ps ∧ ExportsObject (i.map g) (qs.map (·.map g)) := by
  generalize hj : i.map f = j at hi
  obtain ⟨he⟩ := hi
  cases i with
  | exportDefault s e =>
    obtain ⟨-, rfl⟩ := Item.exportDefault.inj hj
    have hobject := (encloses_iff rfl).mp he
    rw [withoutParentheses_map] at hobject
    obtain ⟨t, qs, hqs, hps⟩ := exists_of_map_eq_object hobject
    have hencloses : Encloses (e.map g) (.object (g.span t) (qs.map (·.map g))) := by
      rw [encloses_iff rfl, withoutParentheses_map, hqs, Expr.map, Property.mapAll_eq_map]
    exact ⟨qs, hps, .mk hencloses⟩
  | _ => exact absurd hj nofun

theorem exists_importsHelper_of_agree {helper : StrNode} (hi : ImportsHelper (i.map f) helper) :
    ∃ s, f.str s = helper ∧ ImportsHelper (i.map g) (g.str s) := by
  generalize hj : i.map f = j at hi
  obtain ⟨hn⟩ := hi
  obtain ⟨s, d, n, source, rfl, rfl, rfl⟩ := exists_of_map_eq_import hj
  exact ⟨source, rfl, .mk ((h.name n).symm.trans hn)⟩

theorem callsHelper_of_agree (hi : CallsHelper (i.map f)) : CallsHelper (i.map g) := by
  generalize hj : i.map f = j at hi
  obtain ⟨hn⟩ := hi
  obtain ⟨s, e, rfl, he⟩ := exists_of_map_eq_expression hj
  obtain ⟨t, callee, es, rfl, hcallee, hes⟩ := exists_of_map_eq_call he
  obtain ⟨n, rfl, rfl⟩ := exists_of_map_eq_ident hcallee
  obtain ⟨argument, rfl, -⟩ := exists_of_mapAll_eq_singleton hes
  exact .mk ((h.name n).symm.trans hn)

theorem isHelperSource_of_agree {s : L.Str} (hs : IsHelperSource (f.str s)) : IsHelperSource (g.str s) := by
  unfold IsHelperSource at hs ⊢
  rwa [← h.value s]

omit h in
theorem isEntry_map (f g : Leaves.Map L Leaves.host) (p : Property L) : IsEntry (p.map f) ↔ IsEntry (p.map g) := by
  rw [← isLiteralProperty_iff, ← isLiteralProperty_iff, isLiteralProperty_map, isLiteralProperty_map]

omit h in
theorem forall_isEntry_map {ps : List (Property L)} (hps : ∀ p ∈ ps.map (·.map f), IsEntry p)
    (g : Leaves.Map L Leaves.host) : ∀ p ∈ ps.map (·.map g), IsEntry p := by
  rw [List.forall_mem_map] at hps ⊢
  intro p hp
  exact (isEntry_map f g p).mp (hps p hp)

omit h in
theorem isFirstStranger_map {ps : List (Property L)} {n : Nat} (hps : IsFirstStranger (ps.map (·.map f)) n)
    (g : Leaves.Map L Leaves.host) : IsFirstStranger (ps.map (·.map g)) n := by
  obtain ⟨hn, hstranger, hbefore⟩ := hps
  rw [List.length_map] at hn
  simp only [List.getElem_map] at hstranger hbefore
  refine ⟨by rwa [List.length_map], ?_, ?_⟩
  · rw [List.getElem_map, ← isEntry_map f g]
    exact hstranger
  · intro m hm
    rw [List.getElem_map, ← isEntry_map f g]
    exact hbefore m hm

end Statements

/-! ### Whole modules -/

/-- Four statements that deviate do so in the same place, whichever map they are made with: what one of them is not for
one map, it cannot be for the other. -/
theorem deviates_of_agree (h : Agree f g) {a b c d : Item L} {e : Mismatch}
    (hdeviates : Deviates [a.map f, b.map f, c.map f, d.map f] e) :
    Deviates [a.map g, b.map g, c.map g, d.map g] e := by
  have hback := h.symm
  cases hdeviates with
  | statementCount hlength => exact absurd rfl hlength
  | cssBinding ha =>
    refine .cssBinding fun css hcss => ?_
    obtain ⟨css', hcss'⟩ := exists_declaresCss_of_agree hback hcss
    exact ha css' hcss'
  | defaultExport ha hb =>
    obtain ⟨css, ha⟩ := exists_declaresCss_of_agree h ha
    refine .defaultExport ha fun ps hps => ?_
    obtain ⟨qs, -, hqs⟩ := exists_exportsObject_map hps f
    exact hb _ hqs
  | classMapProperty ha hb hn =>
    obtain ⟨css, ha⟩ := exists_declaresCss_of_agree h ha
    obtain ⟨qs, rfl, hobject⟩ := exists_exportsObject_map hb g
    exact .classMapProperty ha hobject (isFirstStranger_map hn g)
  | helperImport ha hb hps hc =>
    obtain ⟨css, ha⟩ := exists_declaresCss_of_agree h ha
    obtain ⟨qs, rfl, hobject⟩ := exists_exportsObject_map hb g
    refine .helperImport ha hobject (forall_isEntry_map hps g) fun helper hhelper => ?_
    obtain ⟨s, -, hs⟩ := exists_importsHelper_of_agree hback hhelper
    exact hc _ hs
  | helperSource ha hb hps hc hsource =>
    obtain ⟨css, ha⟩ := exists_declaresCss_of_agree h ha
    obtain ⟨qs, rfl, hobject⟩ := exists_exportsObject_map hb g
    obtain ⟨s, rfl, himport⟩ := exists_importsHelper_of_agree h hc
    exact .helperSource ha hobject (forall_isEntry_map hps g) himport (mt (isHelperSource_of_agree hback) hsource)
  | injectCall ha hb hps hc hsource hd =>
    obtain ⟨css, ha⟩ := exists_declaresCss_of_agree h ha
    obtain ⟨qs, rfl, hobject⟩ := exists_exportsObject_map hb g
    obtain ⟨s, rfl, himport⟩ := exists_importsHelper_of_agree h hc
    exact .injectCall ha hobject (forall_isEntry_map hps g) himport (isHelperSource_of_agree h hsource)
      (mt (callsHelper_of_agree hback) hd)

namespace Shape

/-- Modules of the same items are both recognised, or deviate alike. -/
theorem ofModule_of_agree (h : Agree f g) (is : List (Item L)) (s t : Option ByteSpan) :
    (∃ css ps helper, ofModule ⟨s, is.map (·.map f)⟩ = .ok (made f css ps helper) ∧
        ofModule ⟨t, is.map (·.map g)⟩ = .ok (made g css ps helper)) ∨
      ∃ e, ofModule ⟨s, is.map (·.map f)⟩ = .error e ∧ ofModule ⟨t, is.map (·.map g)⟩ = .error e := by
  cases hshape : ofModule ⟨s, is.map (·.map f)⟩ with
  | ok shape =>
    obtain ⟨css, ps, helper, hgenerated, hcss, hps, hhelper⟩ := isGenerated_map.mp (ofModule_eq_ok_iff.mp hshape)
    have hmade : made f css ps helper = shape := by
      rw [made, hcss, hps, hhelper]
    refine .inl ⟨css, ps, helper, congrArg Except.ok hmade.symm, ofModule_eq_ok_iff.mpr (isGenerated_map.mpr ?_)⟩
    have hname : (fun i => IdentNode.name (f.ident i)) = fun i => IdentNode.name (g.ident i) := funext h.name
    have hvalue : (fun s => StrNode.value (f.str s)) = fun s => StrNode.value (g.str s) := funext h.value
    rw [hname, hvalue] at hgenerated
    exact ⟨css, ps, helper, hgenerated, rfl, rfl, rfl⟩
  | error e =>
    refine .inr ⟨e, rfl, ?_⟩
    by_cases hlength : is.length = 4
    · obtain ⟨a, b, c, d, rfl⟩ := List.length_eq_four.mp hlength
      exact ofModule_of_deviates (deviates_of_agree h (deviates_of_ofModule hshape))
    · have hcount : ∀ (k : Leaves.Map L Leaves.host) (u : Option ByteSpan),
          ofModule ⟨u, is.map (·.map k)⟩ = .error (.statementCount is.length) := by
        intro k u
        rw [ofModule_of_length_ne, List.length_map]
        rwa [List.length_map]
      obtain rfl := Except.error.inj ((hcount f s).symm.trans hshape)
      exact hcount g t

end Shape

end LazyStyles
