import LazyStyles.Syntax.Read
import LazyStyles.Proofs.Reader.Signs

/-!
# From primary expressions to assignments

Where a primary expression stands alone, the readers of all that binds less tightly pass it on as it is: a
member, an access, an operand, a conditional and an assignment without operators
(`Reader.assignment_of_primary`).  What has to be known of the signs is that no operator stands before the
expression (`leadingTexts`) and none behind it (`EndsOperand`).
-/

namespace LazyStyles.Syntax

variable {src : List Char}

/-! ### Before and behind an operand -/

/-- The operator that the first sign is. -/
def operatorIn? : Signs → Option BinaryOperator
  | (.mark m, _) :: _ => BinaryOperator.ofMark? m
  | (.regex r, _) :: _ => BinaryOperator.ofMark? (Sign.slash r)
  | _ => none

/-- The operator of an assignment that the first sign is. -/
def assignmentOperatorIn? : Signs → Option (Option BinaryOperator)
  | (.mark m, _) :: _ => assignmentOperator? m
  | (.regex r, _) :: _ => assignmentOperator? (Sign.slash r)
  | _ => none

/-- Whether the first sign is none of the marks and words. -/
def Lacks (texts : List String) (ys : Signs) : Prop :=
  ∀ t ∈ texts, signIs t ys = false

instance (texts : List String) (ys : Signs) : Decidable (Lacks texts ys) :=
  inferInstanceAs (Decidable (∀ t ∈ texts, signIs t ys = false))

/-- Only the first sign matters. -/
theorem Lacks.of_head {texts : List String} {y : Sign} (h : Lacks texts [(y, false)]) (b : Bool) (ys : Signs) :
    Lacks texts ((y, b) :: ys) :=
  h

/-- What may stand at the start of an operand besides primary expressions. -/
def leadingTexts : List String :=
  ["new", "super", "import", "++", "--", "delete", "void", "typeof", "+", "-", "~", "!", "await"]

/-- What goes on with a member. -/
def memberTexts : List String :=
  ["?.", "[", ".", "`"]

/-- What goes on with an operand besides the operators that are marks. -/
def trailingTexts : List String :=
  memberTexts ++ ["(", "++", "--", "in", "instanceof", "?"]

/-- Whether nothing goes on with the operand before the signs. -/
def EndsOperand (ys : Signs) : Prop :=
  Lacks trailingTexts ys ∧ operatorIn? ys = none

instance (ys : Signs) : Decidable (EndsOperand ys) :=
  inferInstanceAs (Decidable (_ ∧ _))

/-- Only the first sign matters. -/
theorem EndsOperand.of_head {y : Sign} (h : EndsOperand [(y, false)]) (b : Bool) (ys : Signs) :
    EndsOperand ((y, b) :: ys) := by
  cases y <;> exact h

theorem EndsOperand.lacks_memberTexts {ys : Signs} (h : EndsOperand ys) : Lacks memberTexts ys :=
  fun t ht => h.1 t (List.mem_append_left _ ht)

/-- Whether an expression is more than a word that has to be gone on with, and no arrow function. -/
def Expr.isComplete {L : Leaves} (e : Expr L) : Bool :=
  !e.isArrow && !e.isSuper && !e.isImport

namespace State.Shows

variable {s : State src} {ys : Signs}

theorem operators (hs : s.Shows ys) : s.token.operator? = operatorIn? ys ∧
    s.token.assignmentOperator? = assignmentOperatorIn? ys := by
  match ys, hs.token with
  | [], h => exact h ▸ ⟨rfl, rfl⟩
  | (.mark m, _) :: _, h | (.regex r, _) :: _, h =>
    have ht := h.1
    exact (show s.token = _ from ht) ▸ ⟨rfl, rfl⟩
  | (.word w, _) :: _, h =>
    obtain ⟨l, hl, -⟩ := h.1
    exact hl ▸ ⟨rfl, rfl⟩
  | (.str v raw, _) :: _, h | (.numeral v raw, _) :: _, h =>
    obtain ⟨l, hl, -⟩ := h.1
    exact hl ▸ ⟨rfl, rfl⟩

end State.Shows

namespace Reader

variable {g : Grammar src} {c : Context} {ys zs : Signs} {P : SourceExpr src → Prop}

/-! ### Members and calls -/

theorem accessStep?_eq_none {isCallee : Bool} {e : SourceExpr src} {s : State src}
    {Q : Option (SourceExpr src) → State src → Prop} (hs : s.Shows ys) (hys : Lacks memberTexts ys)
    (hcall : isCallee = true ∨ signIs "(" ys = false) (he : e.isComplete = true) (hQ : Q none s) :
    (accessStep? g isCallee e).Succeeds c s Q := by
  obtain ⟨⟨-, hsuper⟩, himport⟩ : (e.isArrow = false ∧ e.isSuper = false) ∧ e.isImport = false := by
    simpa [Expr.isComplete] using he
  have hchain := hys "?." (by decide)
  have hindex := hys "[" (by decide)
  have hpoint := hys "." (by decide)
  have htick := hys "`" (by decide)
  have hcall : ((false || !isCallee) && signIs "(" ys) = false := by
    rcases hcall with rfl | h
    · rfl
    · rw [h, Bool.and_false]
  simp only [accessStep?, succeeds_bind, succeeds_eat, hs.is, hchain, Bool.false_eq_true, if_false,
    Bool.false_and, hindex, succeeds_tokenIs, hcall, hpoint, hsuper, himport, Bool.or_false, htick,
    succeeds_pure]
  exact hQ

theorem accessFrom_eq_self {isCallee : Bool} {e : SourceExpr src} {s : State src} {fuel : Nat}
    {Q : SourceExpr src → State src → Prop} (hfuel : 0 < fuel) (hs : s.Shows ys)
    (hys : Lacks memberTexts ys) (hcall : isCallee = true ∨ signIs "(" ys = false)
    (he : e.isComplete = true) (hQ : Q e s) : (accessFrom g isCallee fuel e).Succeeds c s Q := by
  obtain ⟨k, rfl⟩ := Nat.exists_eq_add_of_le' hfuel
  rw [accessFrom, succeeds_bind]
  exact accessStep?_eq_none hs hys hcall he (succeeds_pure.mpr hQ)

theorem Expr.isArrow_of_isComplete {e : SourceExpr src} (h : e.isComplete = true) : e.isArrow = false := by
  simp only [Expr.isComplete, Bool.and_eq_true, Bool.not_eq_true'] at h
  exact h.1.1

/-- A member that is no more than a primary expression. -/
theorem member_of_primary {leads : Bool} (hfuel : 0 < g.fuel) (h : (primary g leads).Reads c ys P zs)
    (hP : ∀ e, P e → e.isComplete = true) (hys : Lacks leadingTexts ys) (hzs : Lacks memberTexts zs) :
    (g.step.member leads).Reads c ys P zs := by
  rw [Grammar.step_member]
  intro s hs
  have hnew := hys "new" (by decide)
  have hsuper := hys "super" (by decide)
  have himport := hys "import" (by decide)
  simp only [member, succeeds_bind]
  refine succeeds_here fun start => ?_
  simp only [succeeds_eat, hs.is, hnew, hsuper, himport, Bool.false_eq_true, if_false, succeeds_bind]
  refine h.succeeds hs fun e t he ht => ?_
  simp only [Expr.isArrow_of_isComplete (hP e he), Bool.false_eq_true, if_false]
  exact accessFrom_eq_self hfuel ht hzs (.inl rfl) (hP e he) ⟨he, ht⟩

/-- An access that is no more than a member. -/
theorem access_of_member {leads : Bool} (h : (g.member leads).Reads c ys P zs)
    (hys : Lacks leadingTexts ys) (hzs : signIs "(" zs = false) :
    (g.step.access leads).Reads c ys P zs := by
  rw [Grammar.step_access]
  intro s hs
  have hsuper := hys "super" (by decide)
  have himport := hys "import" (by decide)
  simp only [access, succeeds_bind]
  refine succeeds_here fun start => ?_
  simp only [succeeds_eat, hs.is, hsuper, himport, Bool.false_eq_true, if_false, succeeds_bind]
  refine h.succeeds hs fun e t he ht => ?_
  split_ifs
  · exact succeeds_pure.mpr ⟨he, ht⟩
  · simp only [succeeds_bind, succeeds_tokenIs, ht.is, hzs, Bool.false_eq_true, if_false, succeeds_pure]
    exact ⟨he, ht⟩

theorem unaryOperator?_eq_none {s : State src} (hs : s.Shows ys) (hys : Lacks leadingTexts ys) :
    s.token.unaryOperator? = none := by
  have hdelete := hys "delete" (by decide)
  have hvoid := hys "void" (by decide)
  have htype := hys "typeof" (by decide)
  have hplus := hys "+" (by decide)
  have hminus := hys "-" (by decide)
  have htilde := hys "~" (by decide)
  have hnot := hys "!" (by decide)
  simp only [Token.unaryOperator?, hs.is, hdelete, hvoid, htype, hplus, hminus, htilde, hnot,
    Bool.false_eq_true, if_false]

/-- An operand that is no more than an access. -/
theorem operand_of_access {leads : Bool} (h : (g.access leads).Reads c ys P zs)
    (hys : Lacks leadingTexts ys) (hzs : Lacks trailingTexts zs) :
    (g.step.operand leads).Reads c ys P zs := by
  rw [Grammar.step_operand]
  intro s hs
  have hinc := hys "++" (by decide)
  have hdec := hys "--" (by decide)
  have hawait := hys "await" (by decide)
  -- Behind the access no update follows, and in front of it there is no operator.
  have hupdated : (operand.updated g leads).Succeeds c s fun a t => P a ∧ t.Shows zs := by
    have hinc := hzs "++" (by decide)
    have hdec := hzs "--" (by decide)
    simp only [operand.updated, succeeds_bind]
    refine h.succeeds hs fun e t he ht => ?_
    split_ifs
    · exact succeeds_pure.mpr ⟨he, ht⟩
    · simp only [succeeds_bind, succeeds_isOnNewLine]
      split_ifs
      · exact succeeds_pure.mpr ⟨he, ht⟩
      · simp only [succeeds_bind, succeeds_get, ht.is, hinc, hdec, Bool.or_false, Bool.false_eq_true, if_false,
          succeeds_pure]
        exact ⟨he, ht⟩
  simp only [operand, succeeds_bind]
  refine succeeds_here fun start => ?_
  simp only [succeeds_get, hs.is, hinc, hdec, Bool.or_false, Bool.false_eq_true, if_false,
    unaryOperator?_eq_none hs hys]
  split
  case h_1 w hw =>
    have hw : (w.value.name == "await") = false := by rw [← hawait, ← hs.is, hw]; rfl
    rw [hw]
    exact hupdated
  case h_2 => exact hupdated

theorem infixOperator?_eq_none {s : State src} (hs : s.Shows ys) (hys : EndsOperand ys) (allowsIn : Bool) :
    s.token.infixOperator? allowsIn = none := by
  have hinstance := hys.1 "instanceof" (by decide)
  have hin := hys.1 "in" (by decide)
  simp only [Token.infixOperator?, hs.is, hinstance, hin, Bool.false_eq_true, if_false, hs.operators.1, hys.2]

theorem infixFrom_eq_self {e : SourceExpr src} {s : State src} {fuel least : Nat}
    {Q : SourceExpr src → State src → Prop} (hfuel : 0 < fuel) (hs : s.Shows ys) (hys : EndsOperand ys)
    (hQ : Q e s) : (infixFrom g fuel e least).Succeeds c s Q := by
  obtain ⟨k, rfl⟩ := Nat.exists_eq_add_of_le' hfuel
  simp only [infixFrom, succeeds_bind, succeeds_get, succeeds_read, infixOperator?_eq_none hs hys,
    succeeds_pure]
  exact hQ

/-- A conditional that is no more than an operand. -/
theorem conditional_of_operand (hfuel : 0 < g.fuel) (h : (g.operand true).Reads c ys P zs)
    (hzs : EndsOperand zs) : (conditional g).Reads c ys P zs := by
  intro s hs
  have hquestion := hzs.1 "?" (by decide)
  simp only [conditional, succeeds_bind]
  refine h.succeeds hs fun e t he ht => ?_
  split_ifs
  · exact succeeds_pure.mpr ⟨he, ht⟩
  · refine succeeds_bind.mpr (infixFrom_eq_self hfuel ht hzs ?_)
    simp only [succeeds_bind, succeeds_eat, ht.is, hquestion, Bool.false_eq_true, if_false, succeeds_pure]
    exact ⟨he, ht⟩

/-- An assignment that is no more than a conditional. -/
theorem assignment_of_conditional (h : (conditional g).Reads c ys P zs) (hys : ys ≠ [])
    (hc : c.inGenerator = false) (hzs : assignmentOperatorIn? zs = none) :
    g.step.assignment.Reads c ys P zs := by
  rw [Grammar.step_assignment]
  intro s hs
  have hne : ys.isEmpty = false := by simpa using hys
  simp only [assignment, succeeds_bind, succeeds_isFinished, hs.isFinish, hne, Bool.false_eq_true, if_false,
    succeeds_read, hc, Bool.false_and, succeeds_tokenIs]
  refine h.succeeds hs fun e t he ht => ?_
  split_ifs
  · exact succeeds_pure.mpr ⟨he, ht⟩
  · simp only [succeeds_bind, succeeds_get, ht.operators.2, hzs, succeeds_pure]
    exact ⟨he, ht⟩

/-! ### The whole way -/

/-- An operand that is no more than a primary expression. -/
theorem operand_of_primary {leads : Bool} (hfuel : 0 < g.fuel) (h : (primary g leads).Reads c ys P zs)
    (hP : ∀ e, P e → e.isComplete = true) (hys : Lacks leadingTexts ys) (hzs : Lacks trailingTexts zs) :
    (g.step.step.step.operand leads).Reads c ys P zs := by
  have hmember : (g.step.member leads).Reads c ys P zs :=
    member_of_primary hfuel h hP hys fun t ht => hzs t (List.mem_append_left _ ht)
  have haccess : (g.step.step.access leads).Reads c ys P zs :=
    access_of_member hmember hys (hzs "(" (by decide))
  exact operand_of_access haccess hys hzs

/-- An assignment that is no more than an operand. -/
theorem assignment_of_operand (hfuel : 0 < g.fuel) (h : (g.operand true).Reads c ys P zs) (hys : ys ≠ [])
    (hc : c.inGenerator = false) (hzs : EndsOperand zs) (hassign : assignmentOperatorIn? zs = none) :
    g.step.assignment.Reads c ys P zs :=
  assignment_of_conditional (conditional_of_operand hfuel h hzs) hys hc hassign

/-- An assignment that is no more than a primary expression. -/
theorem assignment_of_primary (hfuel : 0 < g.fuel) (h : (primary g true).Reads c ys P zs)
    (hP : ∀ e, P e → e.isComplete = true) (hne : ys ≠ []) (hc : c.inGenerator = false)
    (hys : Lacks leadingTexts ys) (hzs : EndsOperand zs) (hassign : assignmentOperatorIn? zs = none) :
    g.step.step.step.step.assignment.Reads c ys P zs := by
  have hfuel' : 0 < g.step.step.step.fuel := by simpa using hfuel
  exact assignment_of_operand hfuel' (operand_of_primary hfuel h hP hys hzs.1) hne hc hzs hassign

end Reader

end LazyStyles.Syntax
