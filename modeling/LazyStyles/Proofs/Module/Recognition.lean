import LazyStyles.Proofs.Module.Generated

/-!
# Recognition

What a generated module is, statement by statement, and what the first deviation of any other module is, both said
about the tree alone (`HasShape`, `Deviates`).  Modules are recognised exactly if they are generated ones, with the
pieces that stand in them, and refused exactly for their first deviation (`Shape.ofModule_decides`).
-/

namespace LazyStyles

open Syntax

/-! ### The statements of a generated module -/

/-- An expression, in any number of parentheses. -/
inductive Encloses {L : Leaves} : Expr L → Expr L → Prop where
  | bare (e : Expr L) : Encloses e e
  | parenthesized (s : L.Span) {e inner : Expr L} (h : Encloses e inner) : Encloses (.parenthesized s e) inner

/-- The keys that are written out. -/
inductive IsWrittenKey {L : Leaves} : Key L → Prop where
  | ident (i : L.Ident) : IsWrittenKey (.ident i)
  | str (s : L.Str) : IsWrittenKey (.str s)
  | numeral (n : L.Numeral) : IsWrittenKey (.numeral n)

/-- The literals of a program, which are all but a text in JSX. -/
inductive IsProgramLiteral {L : Leaves} : Literal L → Prop where
  | str (s : L.Str) : IsProgramLiteral (.str s)
  | numeral (n : L.Numeral) : IsProgramLiteral (.numeral n)
  | constant (c : L.Constant) : IsProgramLiteral (.constant c)
  | regex (r : L.Regex) : IsProgramLiteral (.regex r)

/-- The properties of a class map: a literal for a key that is written out. -/
inductive IsEntry {L : Leaves} : Property L → Prop where
  | mk {k : Key L} {l : Literal L} (hk : IsWrittenKey k) (hl : IsProgramLiteral l) : IsEntry (.keyValue k (.literal l))

/-- The declaration of the stylesheet and of nothing else. -/
inductive DeclaresCss : Item Leaves.host → StrNode → Prop where
  | mk {s d : Leaves.host.Span} {kind : DeclarationKind} {n : IdentNode} {css : StrNode}
    (hkind : kind = .var ∨ kind = .let ∨ kind = .const) (hn : n.name = "css") :
    DeclaresCss (.statement (.variableDeclaration s kind [.mk d (.ident n) (some (.literal (.str css)))])) css

/-- Whether the property at the given place is the first of a list that is no entry. -/
def IsFirstStranger {L : Leaves} (ps : List (Property L)) (n : Nat) : Prop :=
  ∃ hn : n < ps.length, ¬ IsEntry ps[n] ∧ ∀ m (hm : m < n), IsEntry ps[m]

/-- The default export of an object with the given properties. -/
inductive ExportsObject : Item Leaves.host → List (Property Leaves.host) → Prop where
  | mk {s t : Leaves.host.Span} {e : HostExpr} {ps : List (Property Leaves.host)} (he : Encloses e (.object t ps)) :
    ExportsObject (.exportDefault s e) ps

/-- The plain import of the helper, as the default of a module with the given source. -/
inductive ImportsHelper : Item Leaves.host → StrNode → Prop where
  | mk {s d : Leaves.host.Span} {n : IdentNode} {source : StrNode} (hn : n.name = "styleInject") :
    ImportsHelper (.imports ⟨s, [.default d n], source, false, none, .evaluation⟩) source

/-- The call of the helper with one argument, whatever that is. -/
inductive CallsHelper : Item Leaves.host → Prop where
  | mk {s t : Leaves.host.Span} {n : IdentNode} {argument : HostExpr} (hn : n.name = "styleInject") :
    CallsHelper (.statement (.expression s (.call t (.ident n) false [.item argument])))

/-- Whether a source ends as that of the helper does. -/
def IsHelperSource (source : StrNode) : Prop :=
  "style-inject/dist/style-inject.es.js".toList <:+ source.value.toList

/-! ### Recognising statements -/

theorem encloses_iff {L : Leaves} {e inner : Expr L} (h : withoutParentheses inner = inner) :
    Encloses e inner ↔ withoutParentheses e = inner := by
  constructor
  · intro he
    induction he with
    | bare => exact h
    | parenthesized s _ ih => exact ih h
  · rintro rfl
    fun_induction withoutParentheses e with
    | case1 s e ih => exact .parenthesized s (ih h)
    | case2 e => exact .bare e

theorem isPlainKey_iff {L : Leaves} {k : Key L} : isPlainKey k = true ↔ IsWrittenKey k := by
  constructor
  · intro h
    cases k with
    | ident i => exact .ident i
    | str s => exact .str s
    | numeral n => exact .numeral n
    | computed | privateName => exact absurd h nofun
  · rintro ⟨⟩ <;> rfl

theorem isPlainLiteral_iff {L : Leaves} {e : Expr L} :
    isPlainLiteral e = true ↔ ∃ l, e = .literal l ∧ IsProgramLiteral l := by
  constructor
  · intro h
    cases e with
    | literal l =>
      refine ⟨l, rfl, ?_⟩
      cases l with
      | str s => exact .str s
      | numeral n => exact .numeral n
      | constant c => exact .constant c
      | regex r => exact .regex r
      | jsxText t => exact absurd h nofun
    | _ => exact absurd h nofun
  · rintro ⟨l, rfl, hl⟩
    cases hl <;> rfl

theorem isLiteralProperty_iff {L : Leaves} {p : Property L} : isLiteralProperty p = true ↔ IsEntry p := by
  constructor
  · intro h
    cases p with
    | keyValue k v =>
      obtain ⟨hk, hv⟩ := Bool.and_eq_true_iff.mp h
      obtain ⟨l, rfl, hl⟩ := isPlainLiteral_iff.mp hv
      exact .mk (isPlainKey_iff.mp hk) hl
    | _ => exact absurd h nofun
  · rintro ⟨hk, hl⟩
    exact Bool.and_eq_true_iff.mpr ⟨isPlainKey_iff.mpr hk, isPlainLiteral_iff.mpr ⟨_, rfl, hl⟩⟩

section Statements

variable {i : Item Leaves.host} {css helper : StrNode} {ps : List (Property Leaves.host)}

theorem cssIn?_eq_some_iff : cssIn? i = some css ↔ DeclaresCss i css := by
  constructor
  · intro h
    obtain ⟨s, kind, d, n, rfl, hn, hkind⟩ := exists_of_cssIn? h
    refine .mk ?_ hn
    cases kind <;> simp at hkind ⊢
  · rintro ⟨hkind, hn⟩
    refine if_pos ⟨hn, ?_⟩
    rcases hkind with rfl | rfl | rfl <;> exact nofun

theorem cssIn?_eq_none_iff : cssIn? i = none ↔ ∀ css, ¬ DeclaresCss i css := by
  simp only [Option.eq_none_iff_forall_ne_some, ne_eq, cssIn?_eq_some_iff]

theorem exportedObject?_eq_some_iff : exportedObject? i = some ps ↔ ExportsObject i ps := by
  constructor
  · intro h
    obtain ⟨s, e, t, rfl, he⟩ := exists_of_exportedObject? h
    exact .mk ((encloses_iff rfl).mpr he)
  · rintro ⟨he⟩
    rw [exportedObject?, (encloses_iff rfl).mp he]

theorem isInjectCall_iff : isInjectCall i = true ↔ CallsHelper i := by
  constructor
  · intro h
    obtain ⟨s, t, n, e, rfl, hn⟩ := exists_of_isInjectCall h
    exact .mk hn
  · rintro ⟨hn⟩
    exact beq_iff_eq.mpr hn

theorem findIdx?_eq_none_iff_isEntry :
    (ps.findIdx? fun p => !isLiteralProperty p) = none ↔ ∀ p ∈ ps, IsEntry p := by
  simp only [List.findIdx?_eq_none_iff, Bool.not_eq_false', isLiteralProperty_iff]

theorem findIdx?_eq_some_iff_isFirstStranger {n : Nat} :
    (ps.findIdx? fun p => !isLiteralProperty p) = some n ↔ IsFirstStranger ps n := by
  simp only [List.findIdx?_eq_some_iff_getElem, Bool.not_eq_true', ← Bool.not_eq_true, isLiteralProperty_iff, not_not,
    IsFirstStranger]

theorem exportedObject?_eq_none_iff : exportedObject? i = none ↔ ∀ ps, ¬ ExportsObject i ps := by
  simp only [Option.eq_none_iff_forall_ne_some, ne_eq, exportedObject?_eq_some_iff]

theorem classMapIn_eq_ok_iff : classMapIn i = .ok ps ↔ ExportsObject i ps ∧ ∀ p ∈ ps, IsEntry p := by
  constructor
  · intro h
    obtain ⟨hobject, hliteral⟩ := exportedObject?_of_classMapIn h
    exact ⟨exportedObject?_eq_some_iff.mp hobject, fun p hp => isLiteralProperty_iff.mp (hliteral p hp)⟩
  · rintro ⟨hobject, hentries⟩
    rw [classMapIn, exportedObject?_eq_some_iff.mpr hobject]
    simp only [findIdx?_eq_none_iff_isEntry.mpr hentries]

/-- An item that gives no class map exports no object, or one with a property that is no entry. -/
theorem classMapIn_eq_error_iff {e : Mismatch} :
    classMapIn i = .error e ↔ (e = .defaultExport ∧ ∀ ps, ¬ ExportsObject i ps) ∨
      ∃ ps n, e = .classMapProperty n ∧ ExportsObject i ps ∧ IsFirstStranger ps n := by
  constructor
  · intro h
    unfold classMapIn at h
    split at h
    case h_1 hnone => exact .inl ⟨(Except.error.inj h).symm, exportedObject?_eq_none_iff.mp hnone⟩
    case h_2 ps hobject =>
      split at h
      case h_1 n hn =>
        exact .inr ⟨ps, n, (Except.error.inj h).symm, exportedObject?_eq_some_iff.mp hobject,
          findIdx?_eq_some_iff_isFirstStranger.mp hn⟩
      case h_2 => exact absurd h nofun
  · rintro (⟨rfl, hnone⟩ | ⟨ps, n, rfl, hobject, hn⟩)
    · rw [classMapIn, exportedObject?_eq_none_iff.mpr hnone]
    · rw [classMapIn, exportedObject?_eq_some_iff.mpr hobject]
      simp only [findIdx?_eq_some_iff_isFirstStranger.mpr hn]

/-- The plain import of a helper gives its source if that ends as it has to. -/
theorem helperIn_of_importsHelper (h : ImportsHelper i helper) :
    helperIn i = if helperPath.toList.isSuffixOf helper.value.toList then .ok helper else .error .helperSource := by
  obtain ⟨hn⟩ := h
  exact if_neg (by simp [hn, helperName])

theorem helperIn_of_forall_not (h : ∀ helper, ¬ ImportsHelper i helper) : helperIn i = .error .helperImport := by
  unfold helperIn
  split
  case h_1 j =>
    obtain ⟨s, specifiers, source, isTypeOnly, attributes, phase⟩ := j
    dsimp only
    split
    case h_1 d n =>
      refine if_pos ?_
      by_contra hform
      obtain ⟨⟨⟨rfl, hattributes⟩, rfl⟩, hn⟩ :
          ((isTypeOnly = false ∧ attributes = none) ∧ phase = .evaluation) ∧ IdentNode.name n = helperName := by
        simpa [and_assoc] using hform
      obtain rfl := hattributes
      exact h source (.mk hn)
    case h_2 => rfl
  case h_2 => rfl

theorem helperIn_eq_ok_iff : helperIn i = .ok helper ↔ ImportsHelper i helper ∧ IsHelperSource helper := by
  constructor
  · intro h
    obtain ⟨s, d, n, rfl, hn, hpath⟩ := exists_of_helperIn h
    exact ⟨.mk hn, List.isSuffixOf_iff_suffix.mp hpath⟩
  · rintro ⟨himport, hpath⟩
    rw [helperIn_of_importsHelper himport]
    exact if_pos (List.isSuffixOf_iff_suffix.mpr hpath)

/-- An item that gives no source is no plain import of a helper, or one from elsewhere. -/
theorem helperIn_eq_error_iff {e : Mismatch} :
    helperIn i = .error e ↔ (e = .helperImport ∧ ∀ helper, ¬ ImportsHelper i helper) ∨
      ∃ helper, e = .helperSource ∧ ImportsHelper i helper ∧ ¬ IsHelperSource helper := by
  constructor
  · intro h
    by_cases himport : ∃ helper, ImportsHelper i helper
    · obtain ⟨helper, himport⟩ := himport
      rw [helperIn_of_importsHelper himport] at h
      split_ifs at h with hpath
      refine .inr ⟨helper, (Except.error.inj h).symm, himport, fun hsource => hpath ?_⟩
      exact List.isSuffixOf_iff_suffix.mpr hsource
    · have himport := not_exists.mp himport
      rw [helperIn_of_forall_not himport] at h
      exact .inl ⟨(Except.error.inj h).symm, himport⟩
  · rintro (⟨rfl, himport⟩ | ⟨helper, rfl, himport, hpath⟩)
    · exact helperIn_of_forall_not himport
    · rw [helperIn_of_importsHelper himport]
      exact if_neg fun hsource => hpath (List.isSuffixOf_iff_suffix.mp hsource)

end Statements

/-! ### Whole modules -/

/-- The four statements of a generated module, with its pieces. -/
inductive HasShape : List (Item Leaves.host) → Shape → Prop where
  | mk {a b c d : Item Leaves.host} {css helper : StrNode} {ps : List (Property Leaves.host)} (ha : DeclaresCss a css)
    (hb : ExportsObject b ps) (hps : ∀ p ∈ ps, IsEntry p) (hc : ImportsHelper c helper)
    (hhelper : IsHelperSource helper) (hd : CallsHelper d) : HasShape [a, b, c, d] ⟨css, ps, helper⟩

/-- The first deviation of a module from the four statements, where all that stands before it is as it should be. -/
inductive Deviates : List (Item Leaves.host) → Mismatch → Prop where
  | statementCount {is : List (Item Leaves.host)} (h : is.length ≠ 4) : Deviates is (.statementCount is.length)
  | cssBinding {a b c d : Item Leaves.host} (ha : ∀ css, ¬ DeclaresCss a css) : Deviates [a, b, c, d] .cssBinding
  | defaultExport {a b c d : Item Leaves.host} {css : StrNode} (ha : DeclaresCss a css)
    (hb : ∀ ps, ¬ ExportsObject b ps) : Deviates [a, b, c, d] .defaultExport
  | classMapProperty {a b c d : Item Leaves.host} {css : StrNode} {ps : List (Property Leaves.host)} {n : Nat}
    (ha : DeclaresCss a css) (hb : ExportsObject b ps) (hn : IsFirstStranger ps n) :
    Deviates [a, b, c, d] (.classMapProperty n)
  | helperImport {a b c d : Item Leaves.host} {css : StrNode} {ps : List (Property Leaves.host)}
    (ha : DeclaresCss a css) (hb : ExportsObject b ps) (hps : ∀ p ∈ ps, IsEntry p)
    (hc : ∀ helper, ¬ ImportsHelper c helper) : Deviates [a, b, c, d] .helperImport
  | helperSource {a b c d : Item Leaves.host} {css helper : StrNode} {ps : List (Property Leaves.host)}
    (ha : DeclaresCss a css) (hb : ExportsObject b ps) (hps : ∀ p ∈ ps, IsEntry p) (hc : ImportsHelper c helper)
    (hhelper : ¬ IsHelperSource helper) : Deviates [a, b, c, d] .helperSource
  | injectCall {a b c d : Item Leaves.host} {css helper : StrNode} {ps : List (Property Leaves.host)}
    (ha : DeclaresCss a css) (hb : ExportsObject b ps) (hps : ∀ p ∈ ps, IsEntry p) (hc : ImportsHelper c helper)
    (hhelper : IsHelperSource helper) (hd : ¬ CallsHelper d) : Deviates [a, b, c, d] .injectCall

namespace Shape

variable {m : HostModule} {shape : Shape} {a : Item Leaves.host}

theorem cssOf_eq_ok_iff_declaresCss {css : StrNode} : cssOf a = .ok css ↔ DeclaresCss a css :=
  cssOf_eq_ok_iff.trans cssIn?_eq_some_iff

theorem cssOf_eq_error_iff {e : Mismatch} :
    cssOf a = .error e ↔ e = .cssBinding ∧ ∀ css, ¬ DeclaresCss a css := by
  rw [← cssIn?_eq_none_iff, cssOf]
  cases cssIn? a <;> simp [eq_comm]

theorem hasShape_of_ofModule (h : ofModule m = .ok shape) : HasShape m.items shape := by
  obtain ⟨a, b, c, d, hitems, hcss, hmap, hhelper, hcall⟩ := exists_of_ofModule h
  obtain ⟨hb, hps⟩ := classMapIn_eq_ok_iff.mp hmap
  obtain ⟨hc, hsource⟩ := helperIn_eq_ok_iff.mp hhelper
  rw [hitems]
  exact .mk (cssIn?_eq_some_iff.mp hcss) hb hps hc hsource (isInjectCall_iff.mp hcall)

/-- Each statement that is as it should be makes way for a look at the next. -/
theorem deviates_of_ofModule {e : Mismatch} (h : ofModule m = .error e) : Deviates m.items e := by
  by_cases hlength : m.items.length = 4
  case neg =>
    rw [ofModule_of_length_ne hlength] at h
    obtain rfl := Except.error.inj h
    exact .statementCount hlength
  obtain ⟨a, b, c, d, hitems⟩ := List.length_eq_four.mp hlength
  rw [ofModule_of_items hitems] at h
  rw [hitems]
  rcases bind_eq_error_iff.mp h with hcss | ⟨css, hcss, h⟩
  · obtain ⟨rfl, hnone⟩ := cssOf_eq_error_iff.mp hcss
    exact .cssBinding hnone
  have ha := cssOf_eq_ok_iff_declaresCss.mp hcss
  rcases bind_eq_error_iff.mp h with hmap | ⟨ps, hmap, h⟩
  · rcases classMapIn_eq_error_iff.mp hmap with ⟨rfl, hb⟩ | ⟨ps, n, rfl, hb, hn⟩
    · exact .defaultExport ha hb
    · exact .classMapProperty ha hb hn
  obtain ⟨hb, hps⟩ := classMapIn_eq_ok_iff.mp hmap
  rcases bind_eq_error_iff.mp h with hhelper | ⟨helper, hhelper, h⟩
  · rcases helperIn_eq_error_iff.mp hhelper with ⟨rfl, hc⟩ | ⟨helper, rfl, hc, hsource⟩
    · exact .helperImport ha hb hps hc
    · exact .helperSource ha hb hps hc hsource
  obtain ⟨hc, hsource⟩ := helperIn_eq_ok_iff.mp hhelper
  split_ifs at h with hcall
  obtain rfl := Except.error.inj h
  exact .injectCall ha hb hps hc hsource fun hd => hcall (isInjectCall_iff.mpr hd)

theorem ofModule_of_hasShape (h : HasShape m.items shape) : ofModule m = .ok shape := by
  generalize hitems : m.items = is at h
  obtain ⟨ha, hb, hps, hc, hsource, hd⟩ := h
  rw [ofModule_of_items hitems, cssOf_eq_ok_iff_declaresCss.mpr ha, classMapIn_eq_ok_iff.mpr ⟨hb, hps⟩,
    helperIn_eq_ok_iff.mpr ⟨hc, hsource⟩, isInjectCall_iff.mpr hd]
  rfl

theorem ofModule_of_deviates {e : Mismatch} (h : Deviates m.items e) : ofModule m = .error e := by
  generalize hitems : m.items = is at h
  cases h with
  | statementCount hlength =>
    subst hitems
    exact ofModule_of_length_ne hlength
  | cssBinding ha =>
    rw [ofModule_of_items hitems, cssOf_eq_error_iff.mpr ⟨rfl, ha⟩]
    rfl
  | defaultExport ha hb =>
    rw [ofModule_of_items hitems, cssOf_eq_ok_iff_declaresCss.mpr ha, classMapIn_eq_error_iff.mpr (.inl ⟨rfl, hb⟩)]
    rfl
  | classMapProperty ha hb hn =>
    rw [ofModule_of_items hitems, cssOf_eq_ok_iff_declaresCss.mpr ha,
      classMapIn_eq_error_iff.mpr (.inr ⟨_, _, rfl, hb, hn⟩)]
    rfl
  | helperImport ha hb hps hc =>
    rw [ofModule_of_items hitems, cssOf_eq_ok_iff_declaresCss.mpr ha, classMapIn_eq_ok_iff.mpr ⟨hb, hps⟩,
      helperIn_eq_error_iff.mpr (.inl ⟨rfl, hc⟩)]
    rfl
  | helperSource ha hb hps hc hsource =>
    rw [ofModule_of_items hitems, cssOf_eq_ok_iff_declaresCss.mpr ha, classMapIn_eq_ok_iff.mpr ⟨hb, hps⟩,
      helperIn_eq_error_iff.mpr (.inr ⟨_, rfl, hc, hsource⟩)]
    rfl
  | injectCall ha hb hps hc hsource hd =>
    have hcall := Bool.eq_false_iff.mpr (mt isInjectCall_iff.mp hd)
    rw [ofModule_of_items hitems, cssOf_eq_ok_iff_declaresCss.mpr ha, classMapIn_eq_ok_iff.mpr ⟨hb, hps⟩,
      helperIn_eq_ok_iff.mpr ⟨hc, hsource⟩, hcall]
    rfl

/-- A module is recognised exactly if it is a generated one, with the pieces that stand in it, and refused exactly for
its first deviation. -/
theorem ofModule_decides (m : HostModule) :
    (∀ shape, ofModule m = .ok shape ↔ HasShape m.items shape) ∧ ∀ e, ofModule m = .error e ↔ Deviates m.items e :=
  ⟨fun _ => ⟨hasShape_of_ofModule, ofModule_of_hasShape⟩, fun _ => ⟨deviates_of_ofModule, ofModule_of_deviates⟩⟩

end Shape

end LazyStyles
