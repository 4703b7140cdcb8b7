import LazyStyles.Proofs.Reader.Expression

/-!
# Reading whole expressions

`Grammar.ReadsExpression` says what expression a grammar reads off some signs wherever they stand in a module.
Here that is shown for the expressions of one kind each: literals, names, objects, parentheses, assignments,
calls and negations.
-/

namespace LazyStyles.Syntax

variable {src : List Char}

/-- Whether code is that of a module and of no generator. -/
structure Context.IsOrdinary (c : Context) : Prop where
  isModular : c.IsModular
  inGenerator : c.inGenerator = false

/-- Whether an expression without commas is read off the signs, with `zs` behind it. -/
def Grammar.ReadsExpression (g : Grammar src) (size : Nat) (ys : Signs) (h : HostExpr) (zs : Signs) : Prop :=
  ∀ c : Context, c.IsOrdinary → g.assignment.Reads c ys (fun e => e.bare size = h) zs

namespace Reader

variable {g : Grammar src} {c : Context} {b : Bool} {n : String} {ys zs : Signs} {size : Nat}

theorem reads_anyAssignment {h : HostExpr} (hc : c.IsOrdinary) (he : g.ReadsExpression size ys h zs) :
    (anyAssignment g).Reads c ys (fun e => e.bare size = h) zs := fun s hs =>
  he { c with allowsIn := true } ⟨hc.isModular, hc.inGenerator⟩ s hs

theorem reads_anyExpression {h : HostExpr} (hc : c.IsOrdinary) (he : g.ReadsExpression size ys h zs)
    (hzs : signIs "," zs = false) : (anyExpression g).Reads c ys (fun e => e.bare size = h) zs := by
  intro s hs
  simp only [anyExpression, expression, succeeds_withIn, succeeds_bind]
  refine (reads_anyAssignment hc he).succeeds hs fun e t he ht => ?_
  simp only [succeeds_tokenIs, ht.is, hzs, Bool.false_eq_true, if_false, succeeds_pure]
  exact ⟨he, ht⟩

/-- A primary expression as a whole expression. -/
theorem readsExpression_of_primary {h : HostExpr} (hfuel : 0 < g.fuel) (hh : h.isComplete = true) (hne : ys ≠ [])
    (hys : Lacks leadingTexts ys) (hzs : EndsAssignment zs)
    (he : ∀ c : Context, c.IsOrdinary → (primary g true).Reads c ys (fun e => e.bare size = h) zs) :
    g.climb.ReadsExpression size ys h zs := fun c hc =>
  assignment_of_primary hfuel (he c hc) (fun _ he => isComplete_of_bare he hh) hne hc.inGenerator hys hzs.1 hzs.2

/-- A literal as a whole expression. -/
theorem readsExpression_literal {y : Sign} {l : Literal Leaves.host} (hfuel : 0 < g.fuel) (hy : y.literal? = some l)
    (hzs : EndsAssignment zs) : g.climb.ReadsExpression size ((y, b) :: zs) (.literal l) zs :=
  readsExpression_of_primary hfuel rfl (List.cons_ne_nil _ _) (lacks_leadingTexts_of_literal? hy) hzs
    fun _ hc => reads_literal size hc.isModular hy

/-- A name as a whole expression. -/
theorem readsExpression_name (hfuel : 0 < g.fuel) (hn : IsFreeName n) (hzs : EndsAssignment zs)
    (harrow : signIs "=>" zs = false) :
    g.climb.ReadsExpression size ((.word ⟨n, false⟩, b) :: zs) (bareName n) zs :=
  readsExpression_of_primary hfuel rfl (List.cons_ne_nil _ _) (hn.lacks (by decide) _ _) hzs
    fun _ hc => reads_name size hn hc.isModular harrow

/-- An object as a whole expression. -/
theorem readsExpression_object (es : List Entry) (hlen : es.length < g.fuel) (hzs : EndsAssignment zs) :
    g.climb.climb.ReadsExpression size ((.mark "\x7b", b) :: Entry.signsOfAll es zs)
      (.object none (es.map Entry.property)) zs :=
  readsExpression_of_primary (by simpa using Nat.zero_lt_of_lt hlen) rfl (List.cons_ne_nil _ _)
    (.of_head (by decide) _ _) hzs
    fun _ hc => reads_object size es hlen hc.isModular hc.inGenerator

/-- An expression in parentheses as a whole expression. -/
theorem readsExpression_parenthesized {b' : Bool} {h : HostExpr} (hfuel : 0 < g.fuel) (hys : Lacks [")", "..."] ys)
    (hne : ys ≠ []) (he : g.ReadsExpression size ys h ((.mark ")", b') :: zs)) (hzs : EndsAssignment zs)
    (harrow : signIs "=>" zs = false) :
    g.climb.ReadsExpression size ((.mark "(", b) :: ys) (.parenthesized none h) zs :=
  readsExpression_of_primary hfuel rfl (List.cons_ne_nil _ _) (.of_head (by decide) _ _) hzs
    fun _ hc => reads_parenthesized size hfuel hc.isModular hys hne (reads_anyAssignment hc he) harrow

/-- An assignment to a name as a whole expression. -/
theorem readsExpression_assignment {b' : Bool} {h : HostExpr} (hfuel : 0 < g.fuel) (hn : IsFreeName n)
    (hvalue : g.climb.ReadsExpression size ys h zs) :
    g.climb.step.ReadsExpression size ((.word ⟨n, false⟩, b) :: (.mark "=", b') :: ys)
      (.assignment none none (bareName n) h) zs := by
  intro c hc
  have hends : EndsOperand ((.mark "=", b') :: ys) := .of_head (by decide) _ _
  have hoperand : (g.climb.operand true).Reads c ((.word ⟨n, false⟩, b) :: (.mark "=", b') :: ys)
      (fun e => e.bare size = bareName n) ((.mark "=", b') :: ys) :=
    operand_of_primary (by simpa using hfuel) (reads_name size hn hc.isModular rfl)
      (fun _ he => isComplete_of_bare he rfl) (hn.lacks (by decide) b _) hends.1
  exact assignment_to_name size hn hc.isModular hc.inGenerator
    (conditional_of_operand (by simpa using hfuel) hoperand hends)
    (hvalue c hc)

/-- A call of a name with one argument as a whole expression. -/
theorem readsExpression_call {b' b'' : Bool} {h : HostExpr} (hfuel : 1 < g.fuel) (hn : IsFreeName n)
    (hys : Lacks [")", "..."] ys) (hne : ys ≠ []) (harg : g.climb.ReadsExpression size ys h ((.mark ")", b'') :: zs))
    (hzs : EndsAssignment zs) :
    g.climb.step.step.step.ReadsExpression size ((.word ⟨n, false⟩, b) :: (.mark "(", b') :: ys)
      (.call none (bareName n) false [.item h]) zs := by
  intro c hc
  have hlead : Lacks leadingTexts ((.word ⟨n, false⟩, b) :: (.mark "(", b') :: ys) := hn.lacks (by decide) _ _
  have hcallee : (g.climb.member true).Reads c _ (fun e => e.bare size = bareName n) ((.mark "(", b') :: ys) :=
    member_of_primary (by simpa using Nat.zero_lt_of_lt hfuel) (reads_name size hn hc.isModular rfl)
      (fun _ he => isComplete_of_bare he rfl) hlead (.of_head (by decide) _ _)
  have haccess : (g.climb.step.access true).Reads c _ _ zs :=
    access_of_call size (by simpa using hfuel) hc.isModular hcallee hlead rfl hys hne (reads_anyAssignment hc harg)
      hzs.1.lacks_memberTexts (hzs.1.1 "(" (by decide))
  have hoperand : (g.climb.step.step.operand true).Reads c _ _ zs := operand_of_access haccess hlead hzs.1.1
  exact assignment_of_operand (by simpa using Nat.zero_lt_of_lt hfuel) hoperand (List.cons_ne_nil _ _) hc.inGenerator
    hzs.1 hzs.2

/-- The negation of a name as a whole expression. -/
theorem readsExpression_not {b' : Bool} (hfuel : 0 < g.fuel) (hn : IsFreeName n) (hzs : EndsAssignment zs)
    (harrow : signIs "=>" zs = false) :
    g.climb.step.ReadsExpression size ((.mark "!", b) :: (.word ⟨n, false⟩, b') :: zs)
      (.unary none .not (bareName n)) zs := by
  intro c hc
  have hname : (g.step.step.step.operand false).Reads c _ (fun e => e.bare size = bareName n) zs :=
    operand_of_primary hfuel (reads_name size hn hc.isModular harrow) (fun _ he => isComplete_of_bare he rfl)
      (hn.lacks (by decide) b' _) hzs.1.1
  have hoperand : (g.climb.operand true).Reads c _ _ zs := operand_not (b := b) size hc.isModular hname
  exact assignment_of_operand (by simpa using hfuel) hoperand (List.cons_ne_nil _ _) hc.inGenerator hzs.1 hzs.2

end Reader

end LazyStyles.Syntax
