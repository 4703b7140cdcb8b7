import LazyStyles.Proofs.Hosts.Texts
import LazyStyles.Proofs.Meaning.Evaluation

/-!
# What lazy modules do

A lazy module does nothing but define its variables when it is run (`run_lazyModule`).  Its function injects the
stylesheet at its first call and then never again, and always returns the same class map: from one call to the
next all that may change is the flag, which is set exactly if the helper has been called
(`callExported_lazyMachine`).
-/

namespace LazyStyles.Meaning

open Syntax

/-! ### Class maps -/

/-- What a property defines. -/
def entry? : Property Leaves.host → Option (PropertyKey × Value)
  | .keyValue k (.literal l) => do return (← propertyKey? k, ← literalValue? l)
  | _ => none

/-- What the properties of a class map define, in order. -/
def entriesOf (ps : List (Property Leaves.host)) : List (PropertyKey × Value) :=
  ps.filterMap entry?

theorem entriesOf_withoutSpans (ps : List (Property Leaves.host)) :
    entriesOf (ps.map (·.map Leaves.withoutSpans)) = entriesOf ps := by
  have hentry (p : Property Leaves.host) : entry? (p.map Leaves.withoutSpans) = entry? p := by
    cases p with
    | keyValue k v =>
      cases v with
      | literal l => cases k <;> cases l <;> rfl
      | _ => rfl
    | _ => rfl
  rw [entriesOf, List.filterMap_map]
  exact congrArg (List.filterMap · ps) (funext hentry)

section Objects

variable {call : Nat → Run Value} {scope : Scope} {machine : Machine}

/-- The properties of a class map are evaluated to what they define, without any effect. -/
theorem evalProperties_eq {ps : List (Property Leaves.host)} (h : ∀ p ∈ ps, isLiteralProperty p = true) :
    evalProperties call scope ps machine = .ok (entriesOf ps, machine) := by
  induction ps with
  | nil => rfl
  | cons p ps ih =>
    obtain ⟨hp, hps⟩ := List.forall_mem_cons.mp h
    cases p with
    | keyValue k v =>
      obtain ⟨hk, hv⟩ := Bool.and_eq_true_iff.mp hp
      cases v with
      | literal l =>
        obtain ⟨key, hkey⟩ : ∃ key, propertyKey? k = some key := by
          cases k with
          | computed | privateName => exact absurd hk nofun
          | _ => exact ⟨_, rfl⟩
        obtain ⟨value, hvalue⟩ : ∃ value, literalValue? l = some value := by
          cases l with
          | jsxText t => exact absurd hv nofun
          | _ => exact ⟨_, rfl⟩
        have hentry : entriesOf (.keyValue k (.literal l) :: ps) = (key, value) :: entriesOf ps := by
          simp [entriesOf, entry?, hkey, hvalue]
        have hknown {α : Type} (a : α) : known (some a) machine = .ok (a, machine) := rfl
        rw [hentry, evalProperties, hkey, eval, hvalue, bind_eq_of_eq_ok (hknown key), bind_eq_of_eq_ok (hknown value),
          bind_eq_of_eq_ok (ih hps)]
        rfl
      | _ => exact absurd hv nofun
    | _ => exact absurd hp nofun

theorem eval_withoutParentheses (e : HostExpr) : eval call scope (withoutParentheses e) = eval call scope e := by
  fun_induction withoutParentheses e with
  | case1 s e ih => rw [ih, eval]
  | case2 e _ => rfl

/-- A class map is evaluated to a new object with what its properties define. -/
theorem eval_object (call : Nat → Run Value) (scope : Scope) (machine : Machine) {e : HostExpr} {s : Option ByteSpan}
    {ps : List (Property Leaves.host)}
    (he : withoutParentheses e = .object s ps) (h : ∀ p ∈ ps, isLiteralProperty p = true) :
    eval call scope e machine =
      .ok (.object machine.heap.length, { machine with heap := machine.heap ++ [.plain (entriesOf ps)] }) := by
  rw [← eval_withoutParentheses, he]
  change (evalProperties call scope ps >>= fun r => _) machine = _
  rw [bind_eq_of_eq_ok (evalProperties_eq h)]
  rfl

end Objects

/-! ### Lazy modules -/

/-- The machine of a lazy module, after its function has been called or before. -/
def lazyMachine (pieces : Shape) (isCalled : Bool) : Machine where
  bindings :=
    [⟨helperName, false, some (.imported pieces.helper.value)⟩,
      ⟨"cssMap", true, some (.object 0)⟩,
      ⟨"hasRun", true, some (if isCalled then .constant .true else .undefined)⟩,
      ⟨"styles", true, some (.object 1)⟩]
  heap :=
    [.plain (entriesOf pieces.classMap),
      .function (some "styles") [] [lazyGuard pieces.css, .returns none (some (bareName "cssMap"))]]
  calls := if isCalled then [⟨pieces.helper.value, [.str pieces.css.value]⟩] else []
  exported := some (.object 1)

variable {pieces : Shape} {depth : Nat}

/-- Running a lazy module calls nothing. -/
theorem runItems_lazyItems (hliteral : ∀ p ∈ pieces.classMap, isLiteralProperty p = true) :
    runItems depth (lazyItems pieces) = .ok (lazyMachine pieces false) := by
  have hmap (machine : Machine) := eval_object (callAt depth) [] machine
    (rfl : withoutParentheses (.object none pieces.classMap) = _) hliteral
  have hdeclarator : execDeclarator depth .var (.mk none (bareName "cssMap") (some (.object none pieces.classMap)))
      (initial (lazyItems pieces)) = .ok ((), _) := bind_eq_of_eq_ok (hmap _)
  have hitem : execItem depth (lazyVariable "cssMap" (some (.object none pieces.classMap)))
      (initial (lazyItems pieces)) = .ok ((), _) := bind_eq_of_eq_ok hdeclarator
  have hitems : (lazyItems pieces).forM (execItem depth) (initial (lazyItems pieces)) =
      .ok ((), lazyMachine pieces false) := by
    change (execItem depth (lazyVariable "cssMap" (some (.object none pieces.classMap))) >>= fun r => _)
      (initial (lazyItems pieces)) = _
    rw [bind_eq_of_eq_ok hitem]
    rfl
  change ((lazyItems pieces).forM (execItem depth) (initial (lazyItems pieces)) >>= fun r => _) = _
  rw [hitems]
  rfl

/-- Calling the function of a lazy module injects the stylesheet if that has not been done. -/
theorem callExported_lazyMachine (isCalled : Bool) :
    callExported (depth + 1) (lazyMachine pieces isCalled) = .ok (.object 0, lazyMachine pieces true) := by
  cases isCalled <;> rfl

/-- However often the function is called, the stylesheet is injected once, and always the same class map is
returned. -/
theorem callTimes_lazyMachine (n : Nat) (isCalled : Bool) :
    callTimes (depth + 1) n (lazyMachine pieces isCalled) =
      .ok (List.replicate n (.object 0), lazyMachine pieces (isCalled || 0 < n)) := by
  induction n generalizing isCalled with
  | zero =>
    rw [decide_eq_false (Nat.lt_irrefl 0), Bool.or_false]
    rfl
  | succ n ih =>
    have hrest := ih true
    rw [Bool.true_or] at hrest
    rw [callTimes, bind_eq_of_eq_ok (callExported_lazyMachine isCalled), bind_eq_of_eq_ok hrest,
      decide_eq_true (Nat.succ_pos n), Bool.or_true]
    rfl

/-! ### Generated modules -/

/-- The machine of a generated module behind the declaration of its stylesheet. -/
def generatedMachine (kind : DeclarationKind) (css helper : StrNode) (heap : List Object) (exported : Option Value)
    (calls : List Call) : Machine where
  bindings :=
    [⟨cssName, kind ≠ .const, some (.str css.value)⟩, ⟨helperName, false, some (.imported helper.value)⟩]
  heap := heap
  calls := calls
  exported := exported

/-- Running a generated module whose helper is called with the stylesheet injects it and exports the class
map. -/
theorem runItems_generated (depth : Nat) {is : List (Item Leaves.host)} {css helper : StrNode}
    {ps : List (Property Leaves.host)} {f : HostExpr} (h : IsGenerated IdentNode.name StrNode.value is css ps helper)
    (hcall : is[3]? = some (.statement (.expression none (.call none f false [.item (bareName cssName)])))) :
    ∃ kind, runItems depth is = .ok (generatedMachine kind css helper [.plain (entriesOf ps)] (some (.object 0))
      [⟨helper.value, [.str css.value]⟩]) := by
  cases h with
  | @mk s₁ d t₁ o i₁ v x y n local' callee css helper kind e argument ps hcss hkind hobject hliteral hlocal hpath
      hcallee =>
    obtain ⟨nspan, nname⟩ := n
    obtain ⟨lspan, lname⟩ := local'
    obtain ⟨cspan, cname⟩ := callee
    obtain rfl : nname = cssName := hcss
    obtain rfl : lname = helperName := hlocal
    obtain rfl : cname = helperName := hcallee
    obtain rfl : argument = bareName cssName := by
      have hcall := Statement.expression.inj (Item.statement.inj (Option.some.inj hcall))
      obtain ⟨-, -, -, hes⟩ := Expr.call.inj hcall.2
      exact Element.item.inj (List.cons.inj hes).1
    -- The import is bound before anything runs; then the stylesheet is declared, the class map is made
    -- and the helper is called.
    let first : Item Leaves.host := .statement (.variableDeclaration s₁ kind
      [.mk d (.ident (⟨nspan, cssName⟩ : IdentNode)) (some (.literal (.str css)))])
    let last : Item Leaves.host := .statement (.expression x (.call y (.ident (⟨cspan, helperName⟩ : IdentNode)) false
      [.item (bareName cssName)]))
    let imports : Item Leaves.host :=
      .imports ⟨i₁, [.default v (⟨lspan, helperName⟩ : IdentNode)], helper, false, none, .evaluation⟩
    let start : Machine := initial [first, .exportDefault t₁ e, imports, last]
    have hfirst : execItem depth first start = .ok ((), generatedMachine kind css helper [] none []) := by
      cases kind with
      | «using» => exact absurd rfl hkind
      | _ => rfl
    have hmap := eval_object (callAt depth) [] (generatedMachine kind css helper [] none []) hobject hliteral
    have hexport : execItem depth (.exportDefault t₁ e) (generatedMachine kind css helper [] none []) =
        .ok ((), generatedMachine kind css helper [.plain (entriesOf ps)] (some (.object 0)) []) :=
      bind_eq_of_eq_ok hmap
    have hitems : [first, .exportDefault t₁ e, imports, last].forM (execItem depth) start =
        .ok ((), generatedMachine kind css helper [.plain (entriesOf ps)] (some (.object 0))
          [⟨helper.value, [.str css.value]⟩]) := by
      change (execItem depth first >>= fun _ => execItem depth (.exportDefault t₁ e) >>= fun _ => _) start = _
      rw [bind_eq_of_eq_ok hfirst, bind_eq_of_eq_ok hexport]
      rfl
    refine ⟨kind, ?_⟩
    change ([first, .exportDefault t₁ e, imports, last].forM (execItem depth) start >>= fun r => _) = _
    rw [hitems]
    rfl

/-! ### Both modules -/

variable {m n : HostModule}

/-- A call of the helper with the stylesheet. -/
def injection (pieces : Shape) : Call :=
  ⟨pieces.helper.value, [.str pieces.css.value]⟩

/-- Whether the helper is called with the variable of the stylesheet, as the compiler of stylesheets writes
it. -/
def InjectsVariable (m : HostModule) : Prop :=
  ∃ f, m.withoutSpans.items[3]? =
    some (.statement (.expression none (.call none f false [.item (bareName cssName)])))

theorem run_of_withoutSpans_items {shape : Shape} (hn : n.withoutSpans.items = lazyItems shape.withoutSpans)
    (hliteral : ∀ p ∈ shape.classMap, isLiteralProperty p = true) :
    run depth n = .ok (lazyMachine shape.withoutSpans false) := by
  have hbare : ∀ p ∈ shape.withoutSpans.classMap, isLiteralProperty p = true := by
    simpa [Shape.withoutSpans, isLiteralProperty_map] using hliteral
  rw [run, hn]
  exact runItems_lazyItems hbare

theorem run_of_ofModule (depth : Nat) {shape : Shape} (h : Shape.ofModule m = .ok shape)
    (hargument : InjectsVariable m) :
    ∃ kind, run depth m = .ok (generatedMachine kind shape.css shape.helper [.plain (entriesOf shape.classMap)]
      (some (.object 0)) [injection shape]) := by
  have hgenerated := Shape.ofModule_eq_ok_iff.mp (Shape.ofModule_withoutSpans h)
  obtain ⟨f, hcall⟩ := hargument
  obtain ⟨kind, hrun⟩ := runItems_generated depth hgenerated hcall
  refine ⟨kind, hrun.trans ?_⟩
  rw [Shape.withoutSpans, entriesOf_withoutSpans]
  rfl

/-- Running what takes a generated module's place injects no stylesheet.  The first call of what it exports
injects the one of the generated module, by the same helper, and no call does so again; all of them return one
object, which is defined as the one that the generated module exports.  Where that module calls the helper with
its variable, it makes the same injection itself and exports an object that is defined in the same way. -/
theorem lazyModule_injects_once {p : Plugin} {code id out : String} {es : List Event}
    (h : p.transform code id = .ok ⟨some out, es⟩) :
    ∃ m pieces entries, parseModule code id = .ok m ∧ Shape.piecesOf? m = some pieces ∧
      (∃ s e, m.items[1]? = some (.exportDefault s e) ∧ ∀ call scope machine, eval call scope e machine =
        .ok (.object machine.heap.length, { machine with heap := machine.heap ++ [.plain entries] })) ∧
      (∀ id', ∃ n, parseModule out id' = .ok n ∧ ∀ depth, ∃ start place,
        run (depth + 1) n = .ok start ∧ start.calls = [] ∧
        ∀ k, ∃ finish, callTimes (depth + 1) k start = .ok (List.replicate k (.object place), finish) ∧
          finish.calls = (if k = 0 then [] else [injection pieces]) ∧
          finish.heap[place]? = some (.plain entries)) ∧
      (InjectsVariable m → ∀ depth, ∃ machine place, run depth m = .ok machine ∧
        machine.calls = [injection pieces] ∧ machine.exported = some (.object place) ∧
        machine.heap[place]? = some (.plain entries)) := by
  obtain ⟨m, -, hm, hlazy, -⟩ := Plugin.exists_of_transform_eq_some h
  obtain ⟨shape, hshape, hout⟩ := exists_of_lazySource hm hlazy
  obtain ⟨a, b, c, d, hitems, -, hmap, -, -⟩ := Shape.exists_of_ofModule hshape
  obtain ⟨hobject, hliteral⟩ := exportedObject?_of_classMapIn hmap
  obtain ⟨s, e, o, rfl, he⟩ := exists_of_exportedObject? hobject
  refine ⟨m, shape, entriesOf shape.classMap, hm, Shape.piecesOf?_of_ofModule hshape, ?_, fun id' => ?_, ?_⟩
  · exact ⟨s, e, by rw [hitems]; rfl, fun call scope machine => eval_object call scope machine he hliteral⟩
  · obtain ⟨n, hn, hnitems⟩ := hout id'
    refine ⟨n, hn, fun depth => ⟨_, 0, run_of_withoutSpans_items hnitems hliteral, rfl, fun k => ?_⟩⟩
    refine ⟨_, callTimes_lazyMachine k false, ?_, ?_⟩
    · cases k <;> rfl
    · change some (Object.plain (entriesOf (shape.classMap.map (·.map Leaves.withoutSpans)))) = _
      rw [entriesOf_withoutSpans]
  · intro hargument depth
    obtain ⟨kind, hrun⟩ := run_of_ofModule depth hshape hargument
    exact ⟨_, 0, hrun, rfl, rfl, rfl⟩

theorem lazyModule_injects_once_generatedText :
    ∃ out m pieces entries, parseModule (generatedText .var 1 "a" [("b", "c")] helperPath) "a.css" = .ok m ∧
      Shape.piecesOf? m = some pieces ∧
      (∀ id', ∃ n, parseModule out id' = .ok n ∧ ∀ depth, ∃ start place,
        run (depth + 1) n = .ok start ∧ start.calls = [] ∧
        ∀ k, ∃ finish, callTimes (depth + 1) k start = .ok (List.replicate k (.object place), finish) ∧
          finish.calls = (if k = 0 then [] else [injection pieces]) ∧
          finish.heap[place]? = some (.plain entries)) ∧
      InjectsVariable m ∧ ∀ depth, ∃ machine place, run depth m = .ok machine ∧
        machine.calls = [injection pieces] ∧ machine.exported = some (.object place) ∧
        machine.heap[place]? = some (.plain entries) := by
  have hkind : DeclarationKind.var ≠ .using := by decide
  obtain ⟨m, hm, hitems⟩ := exists_parseModule_generatedText hkind 1 "a" [("b", "c")] helperPath "a.css"
  obtain ⟨m', shape, hm', hshape, hf⟩ := exists_ofShape_generatedText hkind 1 "a" [("b", "c")]
    (List.suffix_rfl : helperPath.toList <:+ helperPath.toList) "a.css" (some (.ofText (sourceOf _)))
  have h := Plugin.transform_of_lazySource_eq_ok (p := ⟨.all⟩) (by decide) hm' (lazySource_of_ofShape_eq_ok hshape hf)
  obtain ⟨m'', pieces, entries, hm'', hpieces, -, hlazy, heager⟩ := lazyModule_injects_once h
  obtain rfl : m = m'' := Except.ok.inj (hm.symm.trans hm'')
  have hinjects : InjectsVariable m := ⟨bareName helperName, congrArg (·[3]?) hitems⟩
  exact ⟨_, m, pieces, entries, hm, hpieces, hlazy, hinjects, heager hinjects⟩

end LazyStyles.Meaning
