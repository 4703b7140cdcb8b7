import LazyStyles.Proofs.Reader.Literal

/-!
# Reading expressions

Names (`Reader.reads_name`), expressions in parentheses (`Reader.reads_parenthesized`), calls with one
argument (`Reader.access_of_call`), negations (`Reader.operand_not`) and assignments to a name
(`Reader.assignment_to_name`).
-/

namespace LazyStyles.Syntax

variable {src : List Char}

/-! ### Names -/

/-- The words that are no names in a module or begin something else there, and the marks. -/
def specialTexts : List String :=
  keywords ++ (futureWords ++ (["let", "static", "yield", "await", "async", "using", "eval", "arguments"] ++ marks))

/-- Whether a word stands for a name wherever a name may stand, and begins nothing else. -/
def IsFreeName (n : String) : Prop :=
  n ∉ specialTexts

instance (n : String) : Decidable (IsFreeName n) :=
  inferInstanceAs (Decidable (¬ _))

namespace IsFreeName

variable {n : String}

theorem beq_eq_false (h : IsFreeName n) {m : String} (hm : m ∈ specialTexts) : (n == m) = false := by
  rw [beq_eq_false_iff_ne]
  rintro rfl
  exact h hm

theorem keywords_contains (h : IsFreeName n) : keywords.contains n = false := by
  rw [List.contains_eq_mem, decide_eq_false_iff_not]
  exact fun hn => h (List.mem_append_left _ hn)

theorem futureWords_contains (h : IsFreeName n) : futureWords.contains n = false := by
  rw [List.contains_eq_mem, decide_eq_false_iff_not]
  exact fun hn => h (List.mem_append_right _ (List.mem_append_left _ hn))

theorem isStrictName (h : IsFreeName n) : Reader.isStrictName n = false := by
  simp only [Reader.isStrictName, h.beq_eq_false (m := "yield") (by decide),
    h.beq_eq_false (m := "let") (by decide), h.beq_eq_false (m := "static") (by decide),
    h.futureWords_contains, Bool.or_self]

theorem reserves (h : IsFreeName n) (c : Context) : c.reserves n = false := by
  simp only [Context.reserves, h.keywords_contains, h.beq_eq_false (m := "let") (by decide),
    h.beq_eq_false (m := "await") (by decide), h.beq_eq_false (m := "yield") (by decide),
    h.futureWords_contains, Bool.false_and, Bool.or_self]

theorem constant? (h : IsFreeName n) : Sign.constant? ⟨n, false⟩ = none := by
  cases hv : Sign.constant? ⟨n, false⟩ with
  | none => rfl
  | some v =>
    obtain rfl : n = v.text := congrArg Word.name (Reader.name_of_constant? hv)
    cases v <;> exact absurd h (by decide)

theorem lacks {texts : List String} (h : IsFreeName n) (ht : texts ⊆ specialTexts) (b : Bool) (ys : Signs) :
    Lacks texts ((.word ⟨n, false⟩, b) :: ys) := fun _ hm =>
  h.beq_eq_false (ht hm)

end IsFreeName

/-- A name without its span. -/
def bareName (n : String) : HostExpr :=
  .ident (⟨none, n⟩ : IdentNode)

theorem exists_of_bare_eq_bareName {size : Nat} {n : String} {e : SourceExpr src}
    (h : e.bare size = bareName n) : ∃ w : Lexeme scanWord src, e = .ident w ∧ w.value.name = n := by
  cases e with
  | ident w => exact ⟨w, rfl, congrArg IdentNode.name (Expr.ident.inj h)⟩
  | _ => exact absurd h nofun

namespace Reader

variable {g : Grammar src} {c : Context} {b : Bool} {n : String} {ys zs : Signs} (size : Nat)

theorem reads_identifier {allowsYield allowsAwait : Bool} (hn : IsFreeName n) (hc : c.IsModular) :
    (identifier allowsYield allowsAwait).Reads c ((.word ⟨n, false⟩, b) :: zs)
      (fun w : Lexeme scanWord src => w.value = ⟨n, false⟩) zs := by
  intro s hs
  obtain ⟨l, hl, hv⟩ := hs.token.1
  have hname : l.value.name = n := congrArg Word.name hv
  simp only [identifier, anyWord, succeeds_bind, succeeds_read, succeeds_get, hl, succeeds_next, succeeds_pure,
    hname, hn.beq_eq_false (m := "enum") (by decide), hn.isStrictName, Bool.and_false, Bool.or_false,
    Bool.false_eq_true, if_false, hn.beq_eq_false (m := "await") (by decide),
    hn.beq_eq_false (m := "yield") (by decide), hn.keywords_contains,
    hn.beq_eq_false (m := "arguments") (by decide), Bool.false_and]
  exact ⟨hv, hs.next rfl hc⟩

/-- A name that is bound is read off its sign. -/
theorem reads_boundName {refusesLet : Bool} (hn : IsFreeName n) (hc : c.IsModular) :
    (boundName refusesLet).Reads c ((.word ⟨n, false⟩, b) :: zs)
      (fun w : Lexeme scanWord src => w.value = ⟨n, false⟩) zs := by
  intro s hs
  have hlet : s.token.is "let" = false := (hs.is "let").trans (hn.beq_eq_false (by decide))
  simp only [boundName, succeeds_bind, succeeds_tokenIs, hlet, Bool.and_false, Bool.false_eq_true, if_false]
  refine (reads_identifier hn hc).succeeds hs fun w t hw ht => ?_
  have hname : w.value.name = n := congrArg Word.name hw
  simp only [checkBindable, isUnbindable, hname, hn.beq_eq_false (m := "eval") (by decide),
    hn.beq_eq_false (m := "arguments") (by decide), Bool.or_self, Bool.false_and, Bool.false_eq_true,
    if_false, succeeds_bind, succeeds_pure, succeeds_read, hn.beq_eq_false (m := "await") (by decide)]
  exact ⟨hw, ht⟩

/-- A name is read off its sign where no arrow follows. -/
theorem reads_name {leads : Bool} (hn : IsFreeName n) (hc : c.IsModular) (hzs : signIs "=>" zs = false) :
    (primary g leads).Reads c ((.word ⟨n, false⟩, b) :: zs) (fun e => e.bare size = bareName n) zs := by
  intro s hs
  obtain ⟨l, hl, hv⟩ := hs.token.1
  have hname : l.value.name = n := congrArg Word.name hv
  have hconstant : ConstantLexeme.ofWord? l = none := ofWord?_eq_none (hv ▸ hn.constant?)
  simp only [primary, succeeds_bind]
  refine succeeds_here fun start => ?_
  simp only [succeeds_get, hl, primaryWord, hname, hn.beq_eq_false (m := "this") (by decide),
    hn.beq_eq_false (m := "function") (by decide), hn.beq_eq_false (m := "class") (by decide),
    Bool.false_eq_true, if_false, hconstant, succeeds_bind, atAsyncFunction, succeeds_tokenIs, Token.is,
    hn.beq_eq_false (m := "async") (by decide), succeeds_pure, Bool.false_and, succeeds_read,
    hn.reserves, Bool.not_false, Bool.or_true, if_true, primaryWord.atCall, succeeds_lookahead, nameOrArrow]
  refine (reads_identifier hn hc).succeeds hs fun w t hw ht => ?_
  have hbare : (Expr.ident w : SourceExpr src).bare size = bareName n :=
    congrArg (fun w : Word => bareName w.name) hw
  have hname : w.value.name = n := congrArg Word.name hw
  simp only [succeeds_isOnNewLine]
  -- On the same line or not, the name is no parameter, as no arrow follows.
  split_ifs
  · simp only [hname, hn.beq_eq_false (m := "async") (by decide), succeeds_bind, atBoundName, succeeds_read,
      succeeds_get, succeeds_pure, Bool.false_and, Bool.false_eq_true, if_false, succeeds_eat, ht.is, hzs]
    exact ⟨hbare, ht⟩
  · exact succeeds_pure.mpr ⟨hbare, ht⟩

/-! ### Parentheses -/

/-- An expression in parentheses. -/
theorem reads_parenthesized {leads : Bool} {b' : Bool} {h : HostExpr} (hfuel : 0 < g.fuel) (hc : c.IsModular)
    (hys : Lacks [")", "..."] ys) (hne : ys ≠ [])
    (he : (anyAssignment g).Reads c ys (fun e => e.bare size = h) ((.mark ")", b') :: zs))
    (harrow : signIs "=>" zs = false) :
    (primary g leads).Reads c ((.mark "(", b) :: ys) (fun e => e.bare size = .parenthesized none h) zs := by
  intro s hs
  obtain ⟨k, hk⟩ := Nat.exists_eq_add_of_le' hfuel
  have hne : ys.isEmpty = false := by simpa using hne
  have ht : s.token = .mark "(" := hs.token.1
  have hopen : s.token.is "(" = true := hs.is "("
  have hu := hs.next rfl hc
  simp only [primary, succeeds_bind]
  refine succeeds_here fun start => ?_
  rw [succeeds_get]
  simp only [ht, Token.is, beq_self_eq_true, if_true]
  simp only [parentheses, succeeds_bind]
  refine succeeds_here fun start => ?_
  have hclose : signIs ")" ((Sign.mark ")", b') :: zs) = true := by rfl
  rw [succeeds_expect hopen]
  simp only [succeeds_withIn, hk, parenthesizedItems, succeeds_bind, succeeds_eat, hu.is,
    hys ")" (by decide), Bool.false_eq_true, if_false, succeeds_isFinished, hu.isFinish, hne]
  refine succeeds_here fun start => ?_
  simp only [spreadable, succeeds_bind]
  refine succeeds_here fun start => ?_
  simp only [succeeds_eat, hu.is, hys "..." (by decide), Bool.false_eq_true, if_false, succeeds_bind]
  refine he.succeeds hu fun e t he ht => ?_
  -- Until no arrow is found behind them, the parentheses might hold parameters.
  have hv := ht.next (c := { c with allowsIn := true }) rfl hc
  have harrow : (State.next { c with allowsIn := true } t).token.is "=>" = false := (hv.is "=>").trans harrow
  simp only [succeeds_pure, succeeds_bind, ht.is, hclose, if_true, List.map_cons, List.map_nil,
    succeeds_tokenIs, harrow, Bool.false_eq_true, if_false, succeeds_extentFrom, unspreadAll, unspread]
  refine ⟨?_, hv⟩
  rw [← he]
  rfl

/-! ### Calls -/

/-- The one argument of a call. -/
theorem reads_arguments {isImport : Bool} {b' : Bool} {h : HostExpr} (hfuel : 1 < g.fuel) (hc : c.IsModular)
    (hys : Lacks [")", "..."] ys) (hne : ys ≠ [])
    (he : (anyAssignment g).Reads c ys (fun e => e.bare size = h) ((.mark ")", b') :: zs)) :
    (arguments g isImport).Reads c ((.mark "(", b) :: ys)
      (fun es => ∃ e, es = [.item e] ∧ e.bare size = h) zs := by
  intro s hs
  obtain ⟨k, hk⟩ := Nat.exists_eq_add_of_le' hfuel
  have hne : ys.isEmpty = false := by simpa using hne
  have hopen : s.token.is "(" = true := hs.is "("
  have hu := hs.next rfl hc
  have hclose : signIs ")" ((Sign.mark ")", b') :: zs) = true := rfl
  simp only [arguments, succeeds_bind]
  refine succeeds_here fun start => ?_
  rw [succeeds_expect hopen]
  simp only [hk, many, succeeds_bind, succeeds_eat, hu.is, hys ")" (by decide), Bool.false_eq_true, if_false,
    arguments.argument, succeeds_isFinished, hu.isFinish, hne, spreadable]
  refine succeeds_here fun start => ?_
  simp only [hu.is, hys "..." (by decide), Bool.false_eq_true, if_false]
  refine he.succeeds hu fun e t he ht => ?_
  simp only [succeeds_pure, succeeds_tokenIs, ht.is, hclose, Bool.not_true, Bool.false_eq_true, if_false, if_true]
  exact ⟨⟨e, rfl, he⟩, ht.next rfl hc⟩

/-- The step that makes a call with one argument. -/
theorem accessStep?_call {b' : Bool} {e : SourceExpr src} {f h : HostExpr} (hfuel : 1 < g.fuel)
    (hc : c.IsModular) (he : e.bare size = f) (hf : f.isComplete = true) (hys : Lacks [")", "..."] ys)
    (hne : ys ≠ [])
    (harg : (anyAssignment g).Reads c ys (fun e => e.bare size = h) ((.mark ")", b') :: zs)) :
    (accessStep? g false e).Reads c ((.mark "(", b) :: ys)
      (fun e' => ∃ x, e' = some x ∧ x.bare size = .call none f false [.item h]) zs := by
  intro s hs
  have hsuper : e.isSuper = false := by
    have h := isComplete_of_bare he hf
    simp only [Expr.isComplete, Bool.and_eq_true, Bool.not_eq_true'] at h
    exact h.1.2
  simp only [accessStep?, succeeds_bind, succeeds_eat, hs.is, signIs_mark, String.reduceBEq, Bool.false_eq_true,
    if_false, Bool.false_and, Bool.not_false, Bool.or_true, Bool.and_true, succeeds_tokenIs, beq_self_eq_true,
    if_true]
  refine (reads_arguments size hfuel hc hys hne harg).succeeds hs fun es u hes hu => ?_
  obtain ⟨a, hes, ha⟩ := hes
  simp only [succeeds_extentFrom, succeeds_pure]
  refine ⟨⟨_, rfl, ?_⟩, hu⟩
  rw [hes, ← he, ← ha]
  rfl

/-- A call with one argument. -/
theorem access_of_call {leads : Bool} {b' b'' : Bool} {xs : Signs} {f h : HostExpr} (hfuel : 1 < g.fuel)
    (hc : c.IsModular)
    (hcallee : (g.member leads).Reads c xs (fun e => e.bare size = f) ((.mark "(", b') :: ys))
    (hxs : Lacks leadingTexts xs) (hf : f.isComplete = true) (hys : Lacks [")", "..."] ys) (hne : ys ≠ [])
    (harg : (anyAssignment g).Reads c ys (fun e => e.bare size = h) ((.mark ")", b'') :: zs))
    (hzs : Lacks memberTexts zs) (hopen : signIs "(" zs = false) :
    (g.step.access leads).Reads c xs (fun e => e.bare size = .call none f false [.item h]) zs := by
  rw [Grammar.step_access]
  intro s hs
  obtain ⟨k, hk⟩ := Nat.exists_eq_add_of_le' (Nat.zero_lt_of_lt hfuel)
  simp only [access, succeeds_bind]
  refine succeeds_here fun start => ?_
  simp only [succeeds_eat, hs.is, hxs "super" (by decide), hxs "import" (by decide), Bool.false_eq_true, if_false,
    succeeds_bind]
  refine hcallee.succeeds hs fun e t he ht => ?_
  simp only [Expr.isArrow_of_isComplete (isComplete_of_bare he hf), Bool.false_eq_true, if_false, succeeds_bind,
    succeeds_tokenIs, ht.is, signIs_mark, beq_self_eq_true, if_true]
  -- The call is one step, and behind it there is no other.
  rw [hk, accessFrom, succeeds_bind]
  refine (accessStep?_call size hfuel hc he hf hys hne harg).succeeds ht fun e' u he' hu => ?_
  obtain ⟨x, hx, hcall⟩ := he'
  rw [hx]
  exact accessFrom_eq_self (by omega) hu hzs (.inr hopen) (isComplete_of_bare hcall rfl) ⟨hcall, hu⟩

/-! ### Negations -/

theorem succeeds_tryCatch {α : Type} {r : Reader src α} {f : Issue src → Reader src α} {s : State src}
    {Q : α → State src → Prop} (h : r.Succeeds c s Q) : (tryCatch r f).Succeeds c s Q := by
  obtain ⟨a, t, hrun, hQ⟩ := h
  refine ⟨a, t, ?_, hQ⟩
  rw [run_tryCatch, hrun]

/-- The negation of an operand. -/
theorem operand_not {leads : Bool} {h : HostExpr} (hc : c.IsModular)
    (he : (g.operand false).Reads c ys (fun e => e.bare size = h) zs) :
    (g.step.operand leads).Reads c ((.mark "!", b) :: ys) (fun e => e.bare size = .unary none .not h) zs := by
  rw [Grammar.step_operand]
  intro s hs
  simp only [operand, succeeds_bind]
  refine succeeds_here fun start => ?_
  simp only [succeeds_get, Token.unaryOperator?, hs.is, signIs_mark, String.reduceBEq, Bool.or_self,
    Bool.false_eq_true, if_false, if_true, succeeds_bind, succeeds_next, operandOrReport]
  refine succeeds_tryCatch (he.succeeds (hs.next rfl hc) fun e t he ht => ?_)
  simp only [succeeds_extentFrom, succeeds_pure]
  refine ⟨?_, ht⟩
  rw [← he]
  rfl

/-! ### Assignments -/

theorem checkAssigned_ident {w : Lexeme scanWord src} {s : State src} {Q : Unit → State src → Prop}
    (hw : isUnbindable w = false) (hQ : Q () s) : (checkAssigned (.ident w)).Succeeds c s Q := by
  have hsimple : (Expr.ident w : SourceExpr src).isSimpleTarget c.isStrict = true := by
    simp only [Expr.isSimpleTarget, hw, Bool.and_false, Bool.not_false]
  simp only [checkAssigned, checkLoopTarget, succeeds_bind, succeeds_read, hsimple, Bool.not_true,
    Bool.false_eq_true, if_false, succeeds_pure, Expr.isPlace]
  exact hQ

/-- An assignment to a name. -/
theorem assignment_to_name {b' : Bool} {h : HostExpr} (hn : IsFreeName n) (hc : c.IsModular)
    (hgen : c.inGenerator = false)
    (hname : (conditional g).Reads c ((.word ⟨n, false⟩, b) :: (.mark "=", b') :: ys)
      (fun e => e.bare size = bareName n) ((.mark "=", b') :: ys))
    (hvalue : g.assignment.Reads c ys (fun e => e.bare size = h) zs) :
    g.step.assignment.Reads c ((.word ⟨n, false⟩, b) :: (.mark "=", b') :: ys)
      (fun e => e.bare size = .assignment none none (bareName n) h) zs := by
  rw [Grammar.step_assignment]
  intro s hs
  simp only [assignment, succeeds_bind, succeeds_isFinished, hs.isFinish, List.isEmpty_cons, Bool.false_eq_true,
    if_false, succeeds_read, hgen, Bool.false_and, succeeds_tokenIs]
  refine hname.succeeds hs fun e t he ht => ?_
  obtain ⟨w, rfl, hw⟩ := exists_of_bare_eq_bareName he
  have hbindable : isUnbindable w = false := by
    rw [isUnbindable, hw, hn.beq_eq_false (by decide), hn.beq_eq_false (by decide), Bool.or_false]
  have hoperator : t.token.assignmentOperator? = some none := ht.operators.2
  simp only [Expr.isOperation, Bool.false_eq_true, if_false, succeeds_bind, succeeds_get, hoperator]
  refine checkAssigned_ident hbindable ?_
  simp only [succeeds_next]
  refine hvalue.succeeds (ht.next rfl hc) fun v u hv hu => ?_
  simp only [succeeds_extentFrom, succeeds_pure]
  refine ⟨?_, hu⟩
  rw [← he, ← hv]
  rfl

end Reader

end LazyStyles.Syntax
