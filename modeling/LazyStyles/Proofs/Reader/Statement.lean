import LazyStyles.Proofs.Reader.Whole

/-!
# Reading statements

Declarations of one variable, expressions, blocks, `if` and `return` as statements, and functions without
parameters as expressions.  `Grammar.ReadsStatement` says what a grammar reads off some signs wherever they
stand in a function; that is what the readers of larger constructs ask of it.
-/

namespace LazyStyles.Syntax

variable {src : List Char}

/-- What a host keeps of a statement without its spans. -/
def Statement.bare (size : Nat) (s : SourceStatement src) : Statement Leaves.host :=
  (s.map (Leaves.toHost src size)).map Leaves.withoutSpans

/-- What a host keeps of a declared variable without its spans. -/
def Declarator.bare (size : Nat) (d : Declarator (Leaves.ofSource src)) : Declarator Leaves.host :=
  (d.map (Leaves.toHost src size)).map Leaves.withoutSpans

namespace Grammar

variable (g : Grammar src) (size : Nat)

/-- Whether a statement in a function is read off the signs, with `zs` behind it. -/
def ReadsStatement (ys : Signs) (h : Statement Leaves.host) (zs : Signs) : Prop :=
  ∀ (c : Context) (mayDeclare : Bool), c.IsOrdinary → c.inFunction = true →
    (g.statement mayDeclare).Reads c ys (fun s => s.bare size = h) zs

end Grammar

/-- The word that a kind of declaration starts with. -/
def DeclarationKind.text : DeclarationKind → String
  | .var => "var"
  | .let => "let"
  | .const => "const"
  | .using => "using"

/-- Whether a statement may end before the first signs, and the others are left behind its end. -/
inductive EndsStatement : Signs → Signs → Prop where
  | semicolon (b : Bool) (zs : Signs) : EndsStatement ((.mark ";", b) :: zs) zs
  | brace (b : Bool) (zs : Signs) : EndsStatement ((.mark "\x7d", b) :: zs) ((.mark "\x7d", b) :: zs)
  | line {zs : Signs} (hline : startsLine zs = true) (hzs : signIs ";" zs = false) : EndsStatement zs zs

namespace Reader

variable {g : Grammar src} {c : Context} {b : Bool} {n : String} {ys zs us : Signs} {size : Nat}

/-! ### Ends of statements -/

theorem succeeds_atStatementEnd {s : State src} {Q : Bool → State src → Prop} :
    atStatementEnd.Succeeds c s Q ↔ Q (s.token.is ";" || s.token.is "\x7d" || s.isOnNewLine) s := by
  simp only [atStatementEnd, succeeds_bind, succeeds_get, succeeds_pure]

theorem reads_eatStatementEnd (hc : c.IsModular) (h : EndsStatement ys zs) :
    (eatStatementEnd : Reader src Bool).Reads c ys (fun b => b = true) zs := by
  intro s hs
  simp only [eatStatementEnd, succeeds_bind, succeeds_eat, hs.is]
  cases h with
  | semicolon b zs =>
    simp only [signIs_mark, beq_self_eq_true, if_true, succeeds_pure]
    exact ⟨trivial, hs.next rfl hc⟩
  | brace b zs =>
    simp only [signIs_mark, String.reduceBEq, Bool.false_eq_true, if_false, succeeds_atStatementEnd, hs.is,
      Bool.false_or, Bool.true_or]
    exact ⟨trivial, hs⟩
  | line hline hzs =>
    simp only [hzs, Bool.false_eq_true, if_false, succeeds_atStatementEnd, hs.line, hline, Bool.or_true]
    exact ⟨trivial, hs⟩

theorem reads_expectStatementEnd (hc : c.IsModular) (h : EndsStatement ys zs) :
    (expectStatementEnd : Reader src Unit).Reads c ys (fun _ => True) zs := by
  intro s hs
  simp only [expectStatementEnd, succeeds_bind]
  refine (reads_eatStatementEnd hc h).succeeds hs fun b t hb ht => ?_
  simp only [hb, Bool.not_true, Bool.false_eq_true, if_false, succeeds_pure]
  exact ⟨trivial, ht⟩

/-! ### Declarations -/

/-- A name as the target of a declaration. -/
theorem reads_target {refusesLet : Bool} (hn : IsFreeName n) (hc : c.IsModular) :
    (target g refusesLet).Reads c ((.word ⟨n, false⟩, b) :: zs)
      (fun e => ∃ w : Lexeme scanWord src, e = .ident w ∧ w.value = ⟨n, false⟩) zs := by
  intro s hs
  obtain ⟨l, hl, -⟩ := hs.token.1
  simp only [target, succeeds_bind]
  refine succeeds_here fun start => ?_
  simp only [succeeds_get, hl, succeeds_bind]
  refine (reads_boundName hn hc).succeeds hs fun w t hw ht => ?_
  exact succeeds_pure.mpr ⟨⟨w, rfl, hw⟩, ht⟩

/-- A variable with a value. -/
theorem reads_declarator {kind : DeclarationKind} {b' : Bool} {h : HostExpr} (hn : IsFreeName n)
    (hc : c.IsOrdinary) (hvalue : g.step.ReadsExpression size ys h zs) :
    (declarator g.step kind false).Reads c ((.word ⟨n, false⟩, b) :: (.mark "=", b') :: ys)
      (fun d => d.bare size = .mk none (bareName n) (some h)) zs := by
  intro s hs
  simp only [declarator, succeeds_bind, Grammar.step_target]
  refine succeeds_here fun start => ?_
  refine (reads_target hn hc.isModular).succeeds hs fun e t he ht => ?_
  obtain ⟨w, he, hw⟩ := he
  simp only [succeeds_tokenIs, Bool.false_and, Bool.false_eq_true, if_false, succeeds_bind, succeeds_eat, ht.is,
    signIs_mark, beq_self_eq_true, if_true]
  refine (hvalue c hc).succeeds (ht.next rfl hc.isModular) fun v u hv hu => ?_
  simp only [succeeds_extentFrom, succeeds_pure]
  refine ⟨?_, hu⟩
  rw [he, ← hv]
  change Declarator.mk none (bareName w.value.name) _ = _
  rw [hw]
  rfl

/-- A variable without a value. -/
theorem reads_declarator_var (hn : IsFreeName n) (hc : c.IsOrdinary) (hzs : signIs "=" zs = false) :
    (declarator g.step .var false).Reads c ((.word ⟨n, false⟩, b) :: zs)
      (fun d => d.bare size = .mk none (bareName n) none) zs := by
  intro s hs
  simp only [declarator, succeeds_bind, Grammar.step_target]
  refine succeeds_here fun start => ?_
  refine (reads_target hn hc.isModular).succeeds hs fun e t he ht => ?_
  obtain ⟨w, he, hw⟩ := he
  simp only [succeeds_tokenIs, Bool.false_and, Bool.false_eq_true, if_false, succeeds_bind, succeeds_eat, ht.is,
    hzs, succeeds_read, he, Bool.not_true, succeeds_extentFrom, succeeds_pure]
  refine ⟨?_, ht⟩
  change Declarator.mk none (bareName w.value.name) _ = _
  rw [hw]
  rfl

/-- A declaration of one variable. -/
theorem reads_variableDeclaration {kind : DeclarationKind} {w : Word} {d : Declarator Leaves.host}
    (hfuel : 0 < g.fuel) (hc : c.IsOrdinary) (hys : signIs ";" ys = false)
    (hd : ∀ c : Context, c.IsOrdinary → (declarator g kind false).Reads c ys (fun d' => d'.bare size = d) zs)
    (hcomma : signIs "," zs = false) (hzs : EndsStatement zs us) :
    (variableDeclaration g kind false).Reads c ((.word w, b) :: ys)
      (fun s => s.bare size = .variableDeclaration none kind [d]) us := by
  intro s hs
  obtain ⟨k, hk⟩ := Nat.exists_eq_add_of_le' hfuel
  have hu := hs.next rfl hc.isModular
  simp only [variableDeclaration, succeeds_bind]
  refine succeeds_here fun start => ?_
  rw [succeeds_next]
  simp only [hk, declarators, succeeds_bind, succeeds_tokenIs, hu.is, hys, Bool.false_eq_true, if_false,
    Bool.not_false, Bool.true_or]
  refine (hd { c with allowsIn := true } ⟨hc.isModular, hc.inGenerator⟩).succeeds hu fun d' t hd' ht => ?_
  simp only [succeeds_eat, ht.is, hcomma, Bool.false_eq_true, if_false, succeeds_pure, if_true, succeeds_bind]
  refine (reads_eatStatementEnd hc.isModular hzs).succeeds ht fun e u he hu => ?_
  simp only [he, if_true, succeeds_bind, succeeds_extentFrom, succeeds_pure]
  refine ⟨?_, hu⟩
  rw [← hd']
  rfl

/-- A declaration of one variable as a statement. -/
theorem statement_declaration {kind : DeclarationKind} {d : Declarator Leaves.host} {b' : Bool} (hk : kind ≠ .using)
    (hn : IsFreeName n) (hc : c.IsOrdinary)
    (hd : (variableDeclaration g kind false).Reads c
      ((.word ⟨kind.text, false⟩, b) :: (.word ⟨n, false⟩, b') :: ys)
      (fun s => s.bare size = .variableDeclaration none kind [d]) us) :
    (statement g true).Reads c ((.word ⟨kind.text, false⟩, b) :: (.word ⟨n, false⟩, b') :: ys)
      (fun s => s.bare size = .variableDeclaration none kind [d]) us := by
  intro s hs
  obtain ⟨l, hl, hv⟩ := hs.token.1
  have hname : l.value.name = kind.text := congrArg Word.name hv
  obtain ⟨l', hl', hv'⟩ := (hs.next rfl hc.isModular).token.1
  have hname' : l'.value.name = n := congrArg Word.name hv'
  have hl' : (Token.scan c.reserves false s.stop).token = .word l' := hl'
  simp only [statement, succeeds_bind]
  refine succeeds_here fun start => ?_
  simp only [succeeds_get, hl, hname]
  cases kind with
  | var => exact hd s hs
  | const => exact hd s hs
  -- The word `let` is a name as well, so it starts a declaration only if a name stands behind it.
  | «let» =>
    have hlet : s.token.is "let" = true := hs.is "let"
    unfold wordStatement
    split
    case h_20 =>
      simp only [DeclarationKind.text, String.reduceBEq, Bool.false_and, Bool.false_eq_true, if_false,
        succeeds_bind, atLetDeclaration, succeeds_tokenIs, hlet, if_true, succeeds_lookahead, hl', hname',
        hn.keywords_contains, Bool.not_false, Bool.or_true, succeeds_pure, Bool.and_self]
      exact hd s hs
    all_goals contradiction
  | «using» => exact absurd rfl hk

/-! ### Simple statements -/

/-- What starts with a name that is free is an expression. -/
theorem wordStatement_name {start : Place src} {mayDeclare : Bool} {s : State src}
    {Q : SourceStatement src → State src → Prop} (hn : IsFreeName n) (hs : s.Shows ((.word ⟨n, false⟩, b) :: ys))
    (h : (expressionStatement g start).Succeeds c s Q) : (wordStatement g start mayDeclare n).Succeeds c s Q := by
  have hlet : s.token.is "let" = false := (hs.is "let").trans (hn.beq_eq_false (by decide))
  have husing : s.token.is "using" = false := (hs.is "using").trans (hn.beq_eq_false (by decide))
  have hasync : s.token.is "async" = false := (hs.is "async").trans (hn.beq_eq_false (by decide))
  unfold wordStatement
  split
  case h_20 =>
    simp only [hn.beq_eq_false (m := "const") (by decide), Bool.false_and, Bool.false_eq_true, if_false,
      succeeds_bind, atLetDeclaration, succeeds_tokenIs, hlet, succeeds_pure, Bool.and_false, atUsing, husing,
      atAsyncFunction, hasync]
    exact h
  all_goals exact absurd hn (by decide)

/-- An expression that starts with a free name, as a statement. -/
theorem statement_expression {mayDeclare : Bool} {h : HostExpr} (hn : IsFreeName n) (hc : c.IsOrdinary)
    (he : g.ReadsExpression size ((.word ⟨n, false⟩, b) :: ys) h zs) (hzs : Lacks [",", ":"] zs)
    (hend : EndsStatement zs us) :
    (statement g mayDeclare).Reads c ((.word ⟨n, false⟩, b) :: ys)
      (fun s => s.bare size = .expression none h) us := by
  intro s hs
  obtain ⟨l, hl, hv⟩ := hs.token.1
  have hname : l.value.name = n := congrArg Word.name hv
  simp only [statement, succeeds_bind]
  refine succeeds_here fun start => ?_
  simp only [succeeds_get, hl, hname]
  refine wordStatement_name hn hs ?_
  simp only [expressionStatement, succeeds_bind]
  refine (reads_anyExpression hc he (hzs "," (by decide))).succeeds hs fun e t he ht => ?_
  simp only [succeeds_tokenIs, ht.is, hzs ":" (by decide), succeeds_bind]
  refine (reads_eatStatementEnd hc.isModular hend).succeeds ht fun d u hd hu => ?_
  simp only [hd, if_true, succeeds_bind, succeeds_extentFrom, succeeds_pure]
  refine ⟨?_, hu⟩
  rw [← he]
  rfl

/-- A `return` with a value on its line. -/
theorem statement_return {mayDeclare : Bool} {h : HostExpr} (hc : c.IsOrdinary) (hfunction : c.inFunction = true)
    (hline : startsLine ys = false) (hys : Lacks [";", "\x7d"] ys) (he : g.ReadsExpression size ys h zs)
    (hzs : signIs "," zs = false) (hend : EndsStatement zs us) :
    (statement g mayDeclare).Reads c ((.word ⟨"return", false⟩, b) :: ys)
      (fun s => s.bare size = .returns none (some h)) us := by
  intro s hs
  obtain ⟨l, hl, hv⟩ := hs.token.1
  have hname : l.value.name = "return" := congrArg Word.name hv
  have ht := hs.next rfl hc.isModular
  simp only [statement, succeeds_bind]
  refine succeeds_here fun start => ?_
  simp only [succeeds_get, hl, hname, wordStatement, returnStatement, succeeds_bind, succeeds_next,
    eatStatementEnd, succeeds_eat, ht.is, hys ";" (by decide), Bool.false_eq_true, if_false,
    succeeds_atStatementEnd, hys "\x7d" (by decide), ht.line, hline, Bool.or_self]
  refine (reads_anyExpression hc he hzs).succeeds ht fun e u he hu => ?_
  refine (reads_expectStatementEnd hc.isModular hend).succeeds hu fun _ v _ hv => ?_
  simp only [succeeds_pure, succeeds_bind, succeeds_read, hfunction, Bool.not_true, Bool.false_eq_true, if_false,
    succeeds_extentFrom]
  refine ⟨?_, hv⟩
  rw [← he]
  rfl

/-- An `if` without an `else`. -/
theorem statement_if {mayDeclare : Bool} {b' b'' : Bool} {h : HostExpr} {y : Statement Leaves.host}
    (hc : c.IsOrdinary) (hfunction : c.inFunction = true)
    (htest : g.ReadsExpression size ys h ((.mark ")", b'') :: zs)) (hyes : g.ReadsStatement size zs y us)
    (helse : signIs "else" us = false) :
    (statement g mayDeclare).Reads c ((.word ⟨"if", false⟩, b) :: (.mark "(", b') :: ys)
      (fun s => s.bare size = .conditional none h y none) us := by
  intro s hs
  obtain ⟨l, hl, hv⟩ := hs.token.1
  have hname : l.value.name = "if" := congrArg Word.name hv
  have ht := hs.next rfl hc.isModular
  have hopen : (s.next c).token.is "(" = true := ht.is "("
  simp only [statement, succeeds_bind]
  refine succeeds_here fun start => ?_
  simp only [succeeds_get, hl, hname, wordStatement, ifStatement, succeeds_bind, succeeds_next, condition]
  rw [succeeds_expect hopen]
  refine (reads_anyExpression hc htest rfl).succeeds (ht.next rfl hc.isModular) fun e u he hu => ?_
  have hclose : u.token.is ")" = true := hu.is ")"
  rw [succeeds_expect hclose, succeeds_pure]
  refine (hyes c false hc hfunction).succeeds (hu.next rfl hc.isModular) fun y' v hy hv => ?_
  simp only [succeeds_eat, hv.is, helse, Bool.false_eq_true, if_false, succeeds_pure, succeeds_bind,
    succeeds_extentFrom]
  refine ⟨?_, hv⟩
  rw [← he, ← hy]
  rfl

end Reader

/-- A grammar's statements are what is read one level below. -/
theorem Grammar.ReadsStatement.of_step {g : Grammar src} {size : Nat} {ys zs : Signs} {h : Statement Leaves.host}
    (hs : ∀ (c : Context) (mayDeclare : Bool), c.IsOrdinary → c.inFunction = true →
      (Reader.statement g mayDeclare).Reads c ys (fun s => s.bare size = h) zs) :
    g.step.ReadsStatement size ys h zs := fun c mayDeclare hc hfunction => by
  rw [step_statement]
  exact hs c mayDeclare hc hfunction

/-! ### Blocks and functions -/

/-- Whether the statements are read off the signs up to a closing brace, with `zs` behind it. -/
inductive Grammar.ReadsStatements (g : Grammar src) (size : Nat) :
    Signs → List (Statement Leaves.host) → Signs → Prop where
  | nil (b : Bool) (zs : Signs) : g.ReadsStatements size ((.mark "\x7d", b) :: zs) [] zs
  | cons {ys zs us : Signs} {h : Statement Leaves.host} {hs : List (Statement Leaves.host)}
      (head : g.ReadsStatement size ys h zs) (isMore : ys ≠ []) (isOpen : signIs "\x7d" ys = false)
      (tail : g.ReadsStatements size zs hs us) : g.ReadsStatements size ys (h :: hs) us

theorem Context.IsModular.or_isStrict {c : Context} (hc : c.IsModular) (b : Bool) :
    { c with isStrict := c.isStrict || b } = c := by
  obtain ⟨hm, hs⟩ := hc
  cases c
  subst hs
  rfl

theorem Statement.mapAll_bare {size : Nat} (ss : List (SourceStatement src)) :
    Statement.mapAll Leaves.withoutSpans (Statement.mapAll (Leaves.toHost src size) ss) =
      ss.map (Statement.bare size) := by
  rw [Statement.mapAll_eq_map, Statement.mapAll_eq_map, List.map_map]
  rfl

namespace Reader

variable {g : Grammar src} {c : Context} {b : Bool} {n : String} {ys zs us : Signs} {size : Nat}
  {hs : List (Statement Leaves.host)}

/-- Strict code stays strict, whatever its directives. -/
theorem succeeds_within_isStrict {α : Type} {r : Reader src α} {d : Bool} {s : State src}
    {Q : α → State src → Prop} {h : ∀ c : Context, c.IsModular → { c with isStrict := c.isStrict || d }.IsModular}
    (hc : c.IsModular) :
    (within (fun c => { c with isStrict := c.isStrict || d }) r h).Succeeds c s Q ↔ r.Succeeds c s Q := by
  rw [succeeds_within, hc.or_isStrict]

/-- The statements up to a closing brace are read one by one. -/
theorem reads_statements {startsBody : Bool} {fuel : Nat} (h : g.ReadsStatements size ys hs zs)
    (hfuel : hs.length < fuel) (hc : c.IsOrdinary) (hfunction : c.inFunction = true) :
    (statements g fuel startsBody).Reads c ys (fun ss => ss.map (Statement.bare size) = hs) zs := by
  -- The induction is on the statements; each is read with fuel to spare for those behind it.
  induction h generalizing fuel startsBody with
  | nil b zs =>
    obtain ⟨k, rfl⟩ := Nat.exists_eq_add_of_le' hfuel
    intro s hs
    simp only [statements, succeeds_bind, succeeds_isFinished, hs.isFinish, List.isEmpty_cons, Bool.false_eq_true,
      if_false, succeeds_eat, hs.is, signIs_mark, beq_self_eq_true, if_true, succeeds_pure]
    exact ⟨rfl, hs.next rfl hc.isModular⟩
  | @cons ys zs us h hs head isMore isOpen tail ih =>
    obtain ⟨k, rfl⟩ := Nat.exists_eq_add_of_le' (Nat.zero_lt_of_lt hfuel)
    have hlen : hs.length < k := by simpa using hfuel
    have hne : ys.isEmpty = false := by simpa using isMore
    intro s hs
    simp only [statements, succeeds_bind, succeeds_isFinished, hs.isFinish, hne, Bool.false_eq_true, if_false,
      succeeds_eat, hs.is, isOpen]
    refine (head c true hc hfunction).succeeds hs fun s' t hs' ht => ?_
    refine (succeeds_within_isStrict hc.isModular).mpr
      ((ih hlen).succeeds ht fun ss u hss hu => succeeds_pure.mpr ⟨?_, hu⟩)
    rw [List.map_cons, hs', hss]

/-- A block. -/
theorem statement_block {mayDeclare : Bool} (h : g.ReadsStatements size ys hs zs) (hfuel : hs.length < g.fuel)
    (hc : c.IsOrdinary) (hfunction : c.inFunction = true) :
    (statement g mayDeclare).Reads c ((.mark "\x7b", b) :: ys) (fun s => s.bare size = .block none hs) zs := by
  intro s hs
  have ht : s.token = .mark "\x7b" := hs.token.1
  have hopen : s.token.is "\x7b" = true := hs.is "\x7b"
  simp only [statement, succeeds_bind]
  refine succeeds_here fun start => ?_
  rw [succeeds_get]
  simp only [ht, Token.is, beq_self_eq_true, if_true, block, braced, succeeds_bind]
  refine succeeds_here fun start => ?_
  rw [succeeds_expect hopen]
  refine (reads_statements h hfuel hc hfunction).succeeds (hs.next rfl hc.isModular) fun ss u hss hu => ?_
  simp only [succeeds_extentFrom, succeeds_pure]
  refine ⟨?_, hu⟩
  rw [← hss, ← Statement.mapAll_bare]
  rfl

/-- The body of a function. -/
theorem reads_body {isArrow : Bool} (h : g.ReadsStatements size ys hs zs) (hfuel : hs.length < g.fuel)
    (hc : c.IsModular) :
    (body g false false isArrow true).Reads c ((.mark "\x7b", b) :: ys)
      (fun ss => ss.map (Statement.bare size) = hs) zs := by
  intro s hs
  have hd : (bodyContext false false isArrow c).IsOrdinary := ⟨hc, rfl⟩
  have hopen : s.token.is "\x7b" = true := hs.is "\x7b"
  refine succeeds_within.mpr ?_
  rw [succeeds_bind]
  refine succeeds_here fun start => ?_
  rw [succeeds_bind, braced, succeeds_bind, succeeds_expect hopen]
  refine (reads_statements h hfuel hd rfl).succeeds (hs.next rfl hd.isModular) fun ss u hss hu => ?_
  simp only [Bool.not_true, Bool.false_and, Bool.false_eq_true, if_false, succeeds_pure]
  exact ⟨hss, hu⟩

/-- A function without parameters from these on. -/
theorem reads_functionFrom {start : Place src} {name : Option (Lexeme scanWord src)} {b' b'' : Bool}
    (h : g.ReadsStatements size ys hs zs) (hfuel : hs.length < g.fuel) (hc : c.IsModular) :
    (functionFrom g start name false false .any).Reads c
      ((.mark "(", b) :: (.mark ")", b') :: (.mark "\x7b", b'') :: ys)
      (fun f => ∃ e ss, f = .mk e name false false [] ss ∧ ss.map (Statement.bare size) = hs) zs := by
  intro s hs
  obtain ⟨k, hk⟩ := Nat.exists_eq_add_of_le' (Nat.zero_lt_of_lt hfuel)
  have hopen : s.token.is "(" = true := hs.is "("
  refine succeeds_within.mpr ?_
  have hd : { c with inAsync := false, inGenerator := false }.IsModular := hc
  generalize { c with inAsync := false, inGenerator := false } = d at hd ⊢
  have ht := hs.next rfl hd
  have hclose : (s.next d).token.is ")" = true := ht.is ")"
  rw [succeeds_bind, succeeds_expect hopen, succeeds_bind]
  refine succeeds_within.mpr ?_
  rw [hk, parameters]
  simp only [succeeds_bind, succeeds_tokenIs, hclose, succeeds_isFinished, Bool.true_or, if_true, succeeds_pure,
    ParameterRule.check]
  rw [succeeds_expect hclose]
  refine (reads_body h hfuel hd).succeeds (ht.next rfl hd) fun ss u hss hu => ?_
  simp only [succeeds_extentFrom]
  exact ⟨⟨_, ss, rfl, hss⟩, hu⟩

/-- A function without parameters as an expression. -/
theorem reads_function {leads : Bool} {b₁ b₂ b₃ b₄ : Bool} (h : g.ReadsStatements size ys hs zs)
    (hfuel : hs.length < g.fuel) (hn : IsFreeName n) (hc : c.IsModular) :
    (primary g leads).Reads c
      ((.word ⟨"function", false⟩, b) :: (.word ⟨n, false⟩, b₁) :: (.mark "(", b₂) :: (.mark ")", b₃) ::
        (.mark "\x7b", b₄) :: ys)
      (fun e => e.bare size = .function (.mk none (some (⟨none, n⟩ : IdentNode)) false false [] hs)) zs := by
  intro s hs
  obtain ⟨l, hl, hv⟩ := hs.token.1
  have hname : l.value.name = "function" := congrArg Word.name hv
  have hfunction : s.token.is "function" = true := hs.is "function"
  simp only [primary, succeeds_bind]
  refine succeeds_here fun start => ?_
  simp only [succeeds_get, hl, primaryWord, hname, String.reduceBEq, Bool.false_eq_true, if_false, beq_self_eq_true,
    if_true, succeeds_bind, function]
  refine succeeds_within.mpr ?_
  -- The function has a context of its own, of which only that it is one of a module matters.
  have hd : (plainContext c).IsModular := hc
  generalize plainContext c = d at hd ⊢
  have ht := hs.next rfl hd
  have hstar : (s.next d).token.is "*" = false := (ht.is "*").trans (hn.beq_eq_false (by decide))
  obtain ⟨l', hl', hv'⟩ := ht.token.1
  have hname' : l'.value.name = n := congrArg Word.name hv'
  rw [succeeds_bind, succeeds_expect hfunction]
  simp only [succeeds_bind, succeeds_eat, hstar, Bool.false_eq_true, if_false]
  refine succeeds_within.mpr ?_
  simp only [succeeds_bind, atBoundName, succeeds_read, succeeds_get, hl', bindsName, hname', hn.reserves,
    Bool.not_false, Bool.or_true, succeeds_pure, if_true]
  refine (reads_boundName hn (c := _) ?_).succeeds ht fun w u hw hu => ?_
  · exact hd
  refine (reads_functionFrom h hfuel hd).succeeds hu fun f v hf hv => ?_
  obtain ⟨e, ss, hf, hss⟩ := hf
  refine ⟨?_, hv⟩
  rw [hf, ← hss, ← Statement.mapAll_bare]
  change (Expr.function (.mk none (some (⟨none, w.value.name⟩ : IdentNode)) false false [] _) : HostExpr) = _
  rw [hw]

/-- A function without parameters as a whole expression. -/
theorem readsExpression_function {b₁ b₂ b₃ b₄ : Bool} (h : g.ReadsStatements size ys hs zs)
    (hfuel : hs.length < g.fuel) (hn : IsFreeName n) (hzs : EndsAssignment zs) :
    g.climb.ReadsExpression size
      ((.word ⟨"function", false⟩, b) :: (.word ⟨n, false⟩, b₁) :: (.mark "(", b₂) :: (.mark ")", b₃) ::
        (.mark "\x7b", b₄) :: ys)
      (.function (.mk none (some (⟨none, n⟩ : IdentNode)) false false [] hs)) zs :=
  readsExpression_of_primary (Nat.zero_lt_of_lt hfuel) rfl (List.cons_ne_nil _ _) (.of_head (by decide) _ _) hzs
    fun _ hc => reads_function h hfuel hn hc.isModular

end Reader

end LazyStyles.Syntax
