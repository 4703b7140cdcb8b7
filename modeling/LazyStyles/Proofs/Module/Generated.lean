import LazyStyles.Shape
import LazyStyles.Proofs.Steps

/-!
# Generated modules

What the four statements of a module are that is recognised as a generated one (`Shape.exists_of_ofModule`).
-/

namespace LazyStyles

open Syntax

/-- The declaration of the stylesheet. -/
theorem exists_of_cssIn? {i : Item Leaves.host} {css : StrNode} (h : cssIn? i = some css) :
    ∃ s kind d n, i = .statement (.variableDeclaration s kind [.mk d (.ident n) (some (.literal (.str css)))]) ∧
      IdentNode.name n = cssName ∧ kind ≠ .using := by
  unfold cssIn? at h
  split at h
  case h_1 s kind d n v =>
    split_ifs at h with hn
    obtain rfl := Option.some.inj h
    exact ⟨s, kind, d, n, rfl, hn⟩
  case h_2 => exact absurd h nofun

theorem exists_of_exportedObject? {i : Item Leaves.host} {ps : List (Property Leaves.host)}
    (h : exportedObject? i = some ps) :
    ∃ s e t, i = .exportDefault s e ∧ withoutParentheses e = .object t ps := by
  unfold exportedObject? at h
  split at h
  case h_1 s e =>
    split at h
    case h_1 t qs he =>
      obtain rfl := Option.some.inj h
      exact ⟨s, e, t, rfl, he⟩
    case h_2 => exact absurd h nofun
  case h_2 => exact absurd h nofun

/-- The export of the class map, all of whose properties give literals for plain keys. -/
theorem exportedObject?_of_classMapIn {i : Item Leaves.host} {ps : List (Property Leaves.host)}
    (h : classMapIn i = .ok ps) : exportedObject? i = some ps ∧ ∀ p ∈ ps, isLiteralProperty p = true := by
  unfold classMapIn at h
  split at h
  case h_1 => exact absurd h nofun
  case h_2 qs hqs =>
    split at h
    case h_1 => exact absurd h nofun
    case h_2 hfind =>
      obtain rfl := Except.ok.inj h
      exact ⟨hqs, by simpa using hfind⟩

/-- The import of the helper. -/
theorem exists_of_helperIn {i : Item Leaves.host} {helper : StrNode} (h : helperIn i = .ok helper) :
    ∃ s d n, i = .imports ⟨s, [.default d n], helper, false, none, .evaluation⟩ ∧
      IdentNode.name n = helperName ∧ helperPath.toList.isSuffixOf helper.value.toList = true := by
  unfold helperIn at h
  split at h
  case h_1 j =>
    obtain ⟨s, specifiers, source, isTypeOnly, attributes, phase⟩ := j
    dsimp only at h
    split at h
    case h_1 d n =>
      split_ifs at h with hform hsource
      obtain rfl := Except.ok.inj h
      obtain ⟨⟨⟨rfl, hattributes⟩, rfl⟩, hn⟩ :
          ((isTypeOnly = false ∧ attributes = none) ∧ phase = .evaluation) ∧ IdentNode.name n = helperName := by
        simpa [and_assoc] using hform
      obtain rfl := hattributes
      exact ⟨s, d, n, rfl, hn, hsource⟩
    case h_2 => exact absurd h nofun
  case h_2 => exact absurd h nofun

/-- The call of the helper. -/
theorem exists_of_isInjectCall {i : Item Leaves.host} (h : isInjectCall i = true) :
    ∃ s t n e, i = .statement (.expression s (.call t (.ident n) false [.item e])) ∧
      IdentNode.name n = helperName := by
  unfold isInjectCall at h
  split at h
  case h_1 s t n e => exact ⟨s, t, n, e, rfl, beq_iff_eq.mp h⟩
  case h_2 => exact absurd h nofun

/-! ### Whole modules -/

/-- Whether the items are the four statements of a generated module with the given pieces.  The leaves may
be any; `name` and `value` tell what names and strings say. -/
inductive IsGenerated {L : Leaves} (name : L.Ident → String) (value : L.Str → String) :
    List (Item L) → L.Str → List (Property L) → L.Str → Prop where
  | mk {s d t o i v x y : L.Span} {n local' callee : L.Ident} {css helper : L.Str} {kind : DeclarationKind}
      {e argument : Expr L} {ps : List (Property L)} (hcss : name n = cssName) (hkind : kind ≠ .using)
      (hobject : withoutParentheses e = .object o ps) (hliteral : ∀ p ∈ ps, isLiteralProperty p = true)
      (hlocal : name local' = helperName) (hpath : helperPath.toList.isSuffixOf (value helper).toList = true)
      (hcallee : name callee = helperName) :
      IsGenerated name value
        [.statement (.variableDeclaration s kind [.mk d (.ident n) (some (.literal (.str css)))]),
          .exportDefault t e, .imports ⟨i, [.default v local'], helper, false, none, .evaluation⟩,
          .statement (.expression x (.call y (.ident callee) false [.item argument]))]
        css ps helper

theorem IsGenerated.isLiteral {L : Leaves} {name : L.Ident → String} {value : L.Str → String} {is : List (Item L)}
    {css helper : L.Str} {ps : List (Property L)} (h : IsGenerated name value is css ps helper) :
    ∀ p ∈ ps, isLiteralProperty p = true := by
  obtain ⟨-, -, -, hliteral, -, -, -⟩ := h
  exact hliteral

namespace Shape

variable {m : HostModule} {shape : Shape} {a b c d : Item Leaves.host} {css : StrNode}

/-- The stylesheet that a statement declares, as a step that fails where it declares none. -/
def cssOf (i : Item Leaves.host) : Except Mismatch StrNode :=
  match cssIn? i with
  | some css => .ok css
  | none => .error .cssBinding

theorem cssOf_eq_ok_iff : cssOf a = .ok css ↔ cssIn? a = some css := by
  unfold cssOf
  cases cssIn? a <;> simp

/-- The statements of a module are looked at in their order. -/
theorem ofModule_of_items (h : m.items = [a, b, c, d]) :
    ofModule m = (cssOf a >>= fun css => classMapIn b >>= fun ps => helperIn c >>= fun helper =>
      if isInjectCall d then .ok ⟨css, ps, helper⟩ else .error .injectCall) := by
  rw [ofModule, h]
  cases hcss : cssIn? a <;> simp only [cssOf, hcss] <;> rfl

theorem ofModule_of_length_ne (h : m.items.length ≠ 4) : ofModule m = .error (.statementCount m.items.length) := by
  unfold ofModule
  split
  case h_1 a b c d hitems => exact absurd (congrArg List.length hitems) h
  case h_2 => rfl

/-- A generated module has four statements, which hold its pieces. -/
theorem exists_of_ofModule (h : ofModule m = .ok shape) :
    ∃ a b c d, m.items = [a, b, c, d] ∧ cssIn? a = some shape.css ∧ classMapIn b = .ok shape.classMap ∧
      helperIn c = .ok shape.helper ∧ isInjectCall d = true := by
  by_cases hlength : m.items.length = 4
  case neg =>
    rw [ofModule_of_length_ne hlength] at h
    exact absurd h nofun
  obtain ⟨a, b, c, d, hitems⟩ := List.length_eq_four.mp hlength
  rw [ofModule_of_items hitems] at h
  obtain ⟨css, hcss, h⟩ := bind_eq_ok_iff.mp h
  obtain ⟨ps, hmap, h⟩ := bind_eq_ok_iff.mp h
  obtain ⟨helper, hhelper, h⟩ := bind_eq_ok_iff.mp h
  split_ifs at h with hcall
  obtain rfl := Except.ok.inj h
  exact ⟨a, b, c, d, hitems, cssOf_eq_ok_iff.mp hcss, hmap, hhelper, hcall⟩

/-- The modules that are recognised are the generated ones. -/
theorem ofModule_eq_ok_iff :
    ofModule m = .ok shape ↔
      IsGenerated IdentNode.name StrNode.value m.items shape.css shape.classMap shape.helper := by
  constructor
  · intro h
    obtain ⟨a, b, c, d, hitems, hcss, hmap, hhelper, hcall⟩ := exists_of_ofModule h
    obtain ⟨s, kind, t, n, rfl, hn, hkind⟩ := exists_of_cssIn? hcss
    obtain ⟨hobject, hliteral⟩ := exportedObject?_of_classMapIn hmap
    obtain ⟨s, e, t, rfl, he⟩ := exists_of_exportedObject? hobject
    obtain ⟨s, t, n, rfl, hlocal, hpath⟩ := exists_of_helperIn hhelper
    obtain ⟨s, t, n, a, rfl, hcallee⟩ := exists_of_isInjectCall hcall
    rw [hitems]
    exact .mk hn hkind he hliteral hlocal hpath hcallee
  · obtain ⟨span, items⟩ := m
    obtain ⟨css, ps, helper⟩ := shape
    rintro ⟨hcss, hkind, hobject, hliteral, hlocal, hpath, hcallee⟩
    have hfind : (ps.findIdx? fun p => !isLiteralProperty p) = none := by simpa using hliteral
    simp only [ofModule, cssIn?, hcss, ne_eq, hkind, not_false_eq_true, and_self, if_true, classMapIn,
      exportedObject?, hobject, hfind, helperIn, hlocal, bne_self_eq_false, Bool.or_self, Option.isSome_none,
      Bool.false_eq_true, if_false, hpath, isInjectCall, hcallee, beq_self_eq_true]
    rfl

/-- The pieces of a generated module are found where they stand. -/
theorem piecesOf?_of_ofModule (h : ofModule m = .ok shape) : piecesOf? m = some shape := by
  obtain ⟨a, b, c, d, hitems, hcss, hmap, hhelper, -⟩ := exists_of_ofModule h
  obtain ⟨s, kind, t, n, rfl, -, -⟩ := exists_of_cssIn? hcss
  obtain ⟨hobject, -⟩ := exportedObject?_of_classMapIn hmap
  obtain ⟨s, t, n, rfl, -, -⟩ := exists_of_helperIn hhelper
  unfold piecesOf?
  rw [hitems]
  change (exportedObject? b).map _ = _
  rw [hobject]
  rfl

end Shape

/-! ### Replacing leaves -/

section Map

variable {L M : Leaves} {f : Leaves.Map L M}

theorem exists_of_map_eq_literal {e : Expr L} {l : Literal M} (h : e.map f = .literal l) :
    ∃ k, e = .literal k ∧ k.map f = l := by
  cases e with
  | literal k => exact ⟨k, rfl, Expr.literal.inj h⟩
  | _ => exact absurd h nofun

theorem exists_of_map_eq_ident {e : Expr L} {i : M.Ident} (h : e.map f = .ident i) :
    ∃ j, e = .ident j ∧ f.ident j = i := by
  cases e with
  | ident j => exact ⟨j, rfl, Expr.ident.inj h⟩
  | _ => exact absurd h nofun

theorem exists_of_map_eq_object {e : Expr L} {s : M.Span} {ps : List (Property M)} (h : e.map f = .object s ps) :
    ∃ t qs, e = .object t qs ∧ qs.map (·.map f) = ps := by
  cases e with
  | object t qs => exact ⟨t, qs, rfl, (Property.mapAll_eq_map f qs).symm.trans (Expr.object.inj h).2⟩
  | _ => exact absurd h nofun

theorem withoutParentheses_map (e : Expr L) : withoutParentheses (e.map f) = (withoutParentheses e).map f := by
  fun_induction withoutParentheses e with
  | case1 s e ih => exact ih
  | case2 e he =>
    cases e with
    | parenthesized s e => exact absurd rfl (he s e)
    | _ => rfl

theorem isLiteralProperty_map (p : Property L) : isLiteralProperty (p.map f) = isLiteralProperty p := by
  cases p with
  | keyValue k v =>
    have hk : isPlainKey (k.map f) = isPlainKey k := by cases k <;> rfl
    have hv : isPlainLiteral (v.map f) = isPlainLiteral v := by
      cases v with
      | literal l => cases l <;> rfl
      | _ => rfl
    change (_ && _) = (_ && _)
    rw [hk, hv]
  | _ => rfl

theorem isLiteralProperty_of_map {ps : List (Property L)}
    (h : ∀ p ∈ ps.map (·.map f), isLiteralProperty p = true) : ∀ p ∈ ps, isLiteralProperty p = true := by
  intro p hp
  rw [← isLiteralProperty_map (f := f)]
  exact h _ (List.mem_map_of_mem hp)

theorem exists_of_map_eq_call {e : Expr L} {s : M.Span} {callee : Expr M} {optional : Bool} {es : List (Element M)}
    (h : e.map f = .call s callee optional es) :
    ∃ t callee' es', e = .call t callee' optional es' ∧ callee'.map f = callee ∧ Element.mapAll f es' = es := by
  cases e with
  | call t callee' o es' =>
    obtain ⟨-, hcallee, rfl, hes⟩ := Expr.call.inj h
    exact ⟨t, callee', es', rfl, hcallee, hes⟩
  | _ => exact absurd h nofun

theorem exists_of_mapAll_eq_singleton {es : List (Element L)} {e : Expr M} (h : Element.mapAll f es = [.item e]) :
    ∃ e', es = [.item e'] ∧ e'.map f = e := by
  match es with
  | [] => exact absurd h nofun
  | [.item e'] => exact ⟨e', rfl, Element.item.inj (List.cons.inj h).1⟩
  | [.hole] | [.spread ..] => exact absurd (List.cons.inj h).1 nofun
  | _ :: _ :: _ => exact absurd (List.cons.inj h).2 nofun

theorem exists_of_map_eq_expression {i : Item L} {s : M.Span} {e : Expr M}
    (h : i.map f = .statement (.expression s e)) : ∃ t e', i = .statement (.expression t e') ∧ e'.map f = e := by
  cases i with
  | statement st =>
    cases st with
    | expression t e' => exact ⟨t, e', rfl, (Statement.expression.inj (Item.statement.inj h)).2⟩
    | _ => exact absurd (Item.statement.inj h) nofun
  | _ => exact absurd h nofun

theorem exists_of_map_eq_variable {i : Item L} {s d : M.Span} {kind : DeclarationKind} {target e : Expr M}
    (h : i.map f = .statement (.variableDeclaration s kind [.mk d target (some e)])) :
    ∃ s' d' target' e', i = .statement (.variableDeclaration s' kind [.mk d' target' (some e')]) ∧
      target'.map f = target ∧ e'.map f = e := by
  cases i with
  | statement st =>
    cases st with
    | variableDeclaration s' k ds =>
      obtain ⟨-, rfl, hds⟩ := Statement.variableDeclaration.inj (Item.statement.inj h)
      match ds with
      | [] => exact absurd hds nofun
      | [.mk d' target' (some e')] =>
        obtain ⟨-, htarget, he⟩ := Declarator.mk.inj (List.cons.inj hds).1
        exact ⟨s', d', target', e', rfl, htarget, Option.some.inj he⟩
      | [.mk _ _ none] => exact absurd (Declarator.mk.inj (List.cons.inj hds).1).2.2 nofun
      | _ :: _ :: _ => exact absurd (List.cons.inj hds).2 nofun
    | _ => exact absurd (Item.statement.inj h) nofun
  | _ => exact absurd h nofun

theorem exists_of_map_eq_import {i : Item L} {s d : M.Span} {n : M.Ident} {source : M.Str}
    (h : i.map f = .imports ⟨s, [.default d n], source, false, none, .evaluation⟩) :
    ∃ s' d' n' source', i = .imports ⟨s', [.default d' n'], source', false, none, .evaluation⟩ ∧
      f.ident n' = n ∧ f.str source' = source := by
  cases i with
  | imports j =>
    obtain ⟨s', specifiers, source', isTypeOnly, attributes, phase⟩ := j
    obtain ⟨-, hspecifiers, hsource, rfl, hattributes, rfl⟩ := Import.mk.inj (Item.imports.inj h)
    obtain rfl : attributes = none := by
      cases attributes with
      | none => rfl
      | some e => exact absurd hattributes nofun
    match specifiers with
    | [] => exact absurd hspecifiers nofun
    | [.default d' n'] =>
      exact ⟨s', d', n', source', rfl, (ImportSpecifier.default.inj (List.cons.inj hspecifiers).1).2, hsource⟩
    | [.namespace ..] | [.named ..] => exact absurd (List.cons.inj hspecifiers).1 nofun
    | _ :: _ :: _ => exact absurd (List.cons.inj hspecifiers).2 nofun
  | _ => exact absurd h nofun

/-- Replacing leaves keeps the four statements and replaces the pieces. -/
theorem isGenerated_map {name : M.Ident → String} {value : M.Str → String} {is : List (Item L)} {css : M.Str}
    {ps : List (Property M)} {helper : M.Str} :
    IsGenerated name value (is.map (·.map f)) css ps helper ↔
      ∃ css' ps' helper', IsGenerated (fun i => name (f.ident i)) (fun s => value (f.str s)) is css' ps' helper' ∧
        f.str css' = css ∧ ps'.map (·.map f) = ps ∧ f.str helper' = helper := by
  constructor
  · generalize his : is.map (·.map f) = js
    rintro ⟨hcss, hkind, hobject, hliteral, hlocal, hpath, hcallee⟩
    -- A map keeps the form of every node, so each item is taken back to the one that it was made of.
    obtain ⟨a, is₁, rfl, ha, h₁⟩ := List.map_eq_cons_iff.mp his
    obtain ⟨b, is₂, rfl, hb, h₂⟩ := List.map_eq_cons_iff.mp h₁
    obtain ⟨c, is₃, rfl, hc, h₃⟩ := List.map_eq_cons_iff.mp h₂
    obtain ⟨d, is₄, rfl, hd, h₄⟩ := List.map_eq_cons_iff.mp h₃
    obtain rfl := List.map_eq_nil_iff.mp h₄
    obtain ⟨s, t, target, e, rfl, htarget, he⟩ := exists_of_map_eq_variable ha
    obtain ⟨n, rfl, rfl⟩ := exists_of_map_eq_ident htarget
    obtain ⟨l, rfl, hl⟩ := exists_of_map_eq_literal he
    obtain ⟨css', rfl, rfl⟩ : ∃ css', l = .str css' ∧ f.str css' = _ := by
      cases l with
      | str css' => exact ⟨css', rfl, Literal.str.inj hl⟩
      | _ => exact absurd hl nofun
    obtain ⟨s', e', rfl, rfl⟩ : ∃ s' e', b = .exportDefault s' e' ∧ e'.map f = _ := by
      cases b with
      | exportDefault s' e' => exact ⟨s', e', rfl, (Item.exportDefault.inj hb).2⟩
      | _ => exact absurd hb nofun
    rw [withoutParentheses_map] at hobject
    obtain ⟨u, ps', hinner, rfl⟩ := exists_of_map_eq_object hobject
    obtain ⟨v, w, n', helper', rfl, rfl, rfl⟩ := exists_of_map_eq_import hc
    obtain ⟨x, call, rfl, hcall⟩ := exists_of_map_eq_expression hd
    obtain ⟨y, callee, es, rfl, hcallee', hes⟩ := exists_of_map_eq_call hcall
    obtain ⟨m, rfl, rfl⟩ := exists_of_map_eq_ident hcallee'
    obtain ⟨argument, rfl, -⟩ := exists_of_mapAll_eq_singleton hes
    exact ⟨css', ps', helper', .mk hcss hkind hinner (isLiteralProperty_of_map hliteral) hlocal hpath hcallee,
      rfl, rfl, rfl⟩
  · rintro ⟨css', ps', helper', ⟨hcss, hkind, hobject, hliteral, hlocal, hpath, hcallee⟩, rfl, rfl, rfl⟩
    have hobject := congrArg (Expr.map f) hobject
    rw [← withoutParentheses_map, Expr.map, Property.mapAll_eq_map] at hobject
    exact .mk hcss hkind hobject (by simpa [isLiteralProperty_map] using hliteral) hlocal hpath hcallee

end Map

end LazyStyles
