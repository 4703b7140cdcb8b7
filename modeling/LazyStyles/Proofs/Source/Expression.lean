import LazyStyles.Proofs.Reader.Yields

/-!
# Literals and objects of a source

In a tree that is read without an issue the literals are tokens of the source, and so are the keys and the
literals of objects (`Expr.IsSound`).  That is shown reader by reader, from primary expressions up to
assignments, and then level by level (`Grammar.level_isSound`).
-/

namespace LazyStyles.Syntax

variable {src : List Char}

/-! ### Sound trees -/

/-- Whether a literal is a token.  Nothing is asked of constants, whose words say all. -/
def Literal.IsSound : Literal (Leaves.ofSource src) → Prop
  | .str s => Lexeme.IsToken s (.str (Lexeme.value s) (Lexeme.chars s))
  | .numeral n => Lexeme.IsToken n (.numeral (Lexeme.value n) (Lexeme.chars n))
  | .regex r => Lexeme.IsToken r (.regex (Lexeme.value r))
  | .constant _ | .jsxText _ => True

/-- Whether a key that is written out is a token. -/
def Key.IsSound : Key (Leaves.ofSource src) → Prop
  | .ident w => Lexeme.IsToken w (.word (Lexeme.value w))
  | .str s => Lexeme.IsToken s (.str (Lexeme.value s) (Lexeme.chars s))
  | .numeral n => Lexeme.IsToken n (.numeral (Lexeme.value n) (Lexeme.chars n))
  | _ => True

/-- Whether a property with a literal has tokens for both its parts. -/
def Property.IsSound : Property (Leaves.ofSource src) → Prop
  | .keyValue k (.literal l) => k.IsSound ∧ l.IsSound
  | _ => True

/-- Whether an expression is made of tokens, if it is a literal or an object of such, in parentheses
perhaps. -/
def Expr.IsSound : SourceExpr src → Prop
  | .literal l => l.IsSound
  | .object _ ps => ∀ p ∈ ps, p.IsSound
  | .parenthesized _ e => e.IsSound
  | _ => True

theorem Property.isSound_keyValue {k : Key (Leaves.ofSource src)} {e : SourceExpr src} (hk : k.IsSound)
    (he : e.IsSound) : (Property.keyValue k e : Property (Leaves.ofSource src)).IsSound := by
  cases e with
  | literal l => exact ⟨hk, he⟩
  | _ => exact trivial

/-- Whether an element is made of tokens, as its expression is. -/
def Element.IsSound : Element (Leaves.ofSource src) → Prop
  | .item e => e.IsSound
  | _ => True

/-- Whether the readers of expressions yield sound ones. -/
structure Grammar.IsSound (g : Grammar src) : Prop where
  assignment : g.assignment.Yields Expr.IsSound
  operand : ∀ leads, (g.operand leads).Yields Expr.IsSound
  access : ∀ leads, (g.access leads).Yields Expr.IsSound
  member : ∀ leads, (g.member leads).Yields Expr.IsSound

namespace Reader

variable {g : Grammar src}

/-! ### Objects -/

theorem yields_anyAssignment (hg : g.IsSound) : (anyAssignment g).Yields Expr.IsSound :=
  fun s hs c hc => hg.assignment s hs { c with allowsIn := true } hc

theorem yields_propertyKey : (propertyKey g).Yields Key.IsSound := by
  unfold propertyKey
  refine .seq fun start => .get_bind fun s hs hi => ?_
  obtain ⟨-, hword, hstr, hnumeral⟩ := hs.isToken hi
  split
  case h_1 w hw =>
    have h : Key.IsSound (.ident w) := hword w hw
    exact Yields.seq (fun _ => .pure h) s hs
  case h_2 l hl =>
    have h : Key.IsSound (.str l) := hstr l hl
    exact Yields.seq (fun _ => .pure h) s hs
  case h_3 n hn =>
    have h : Key.IsSound (.numeral n) := hnumeral n hn
    exact Yields.seq (fun _ => .pure h) s hs
  case h_4 =>
    split_ifs
    · exact Yields.seq (fun _ => .seq fun e => .seq fun _ => .seq fun _ => .pure trivial) s hs
    · exact Yields.unexpected s hs

/-- A method of an object is no literal. -/
theorem yields_method {start : Place src} {kind : MethodKind} {key : Key (Leaves.ofSource src)}
    {isAsync isGenerator : Bool} {rule : ParameterRule src} :
    (objectProperty.method g start kind key isAsync isGenerator rule).Yields Property.IsSound :=
  .seq fun _ => .seq fun _ => .pure trivial

/-- A property that starts with a name and no colon is no literal. -/
theorem yields_named {start : Place src} {w : Lexeme scanWord src} :
    (objectProperty.named g start w).Yields Property.IsSound := by
  unfold objectProperty.named
  dsimp only
  repeat' first
    | with_reducible exact yields_method
    | with_reducible exact .unexpected
    | with_reducible refine .seq fun _ => ?_
    | with_reducible refine .pure ?_
    | split
  all_goals exact trivial

theorem yields_objectProperty (hg : g.IsSound) : (objectProperty g).Yields Property.IsSound := by
  unfold objectProperty
  refine .seq fun start => .seq fun isSpread => ?_
  split_ifs
  · exact .seq fun dots => .seq fun e => .pure trivial
  refine .seq fun isGenerator => ?_
  split_ifs
  · exact .seq fun key => yields_method
  refine .bind yields_propertyKey fun key hkey => .seq fun hasValue => ?_
  split_ifs
  · exact .bind (yields_anyAssignment hg) fun e he => .pure (Property.isSound_keyValue hkey he)
  refine .seq fun isMethod => ?_
  split_ifs
  · exact yields_method
  split
  · exact yields_named
  · exact .unexpected

/-- The properties of an object are sound. -/
theorem yields_objectFrom {start : Place src} (hg : g.IsSound) : (objectFrom g start).Yields Expr.IsSound := by
  have hproperty : (objectFrom.property g start).Yields Property.IsSound := by
    unfold objectFrom.property
    refine .seq fun isDone => ?_
    dsimp only
    split_ifs
    · exact .bind_of_fails .failAtEnd
    refine .bind (yields_objectProperty hg) fun p hp => .seq fun isLast => ?_
    split_ifs
    · refine .seq fun _ => .seq fun isFinal => ?_
      split_ifs
      · exact .seq fun _ => .seq fun _ => .pure hp
      · exact .pure hp
    · exact .pure hp
  exact .bind (.many hproperty _) fun ps hps => .seq fun _ => .pure hps

/-! ### Parentheses -/

theorem yields_spreadable (hg : g.IsSound) : (spreadable g).Yields Element.IsSound := by
  unfold spreadable
  refine .seq fun start => .seq fun isSpread => ?_
  split_ifs
  · exact .seq fun dots => .seq fun e => .pure trivial
  · exact .bind (yields_anyAssignment hg) fun e he => .pure he

theorem yields_parenthesizedItems (hg : g.IsSound) (fuel : Nat) :
    (parenthesizedItems g fuel).Yields fun r => ∀ x ∈ r.1, x.2.IsSound := by
  induction fuel with
  | zero => exact .failHere
  | succ fuel ih =>
    unfold parenthesizedItems
    refine .seq fun isDone => ?_
    dsimp only
    split_ifs
    · exact .pure nofun
    refine .seq fun isFinished => ?_
    split_ifs
    · exact .bind_of_fails .failAtEnd
    refine .seq fun start => .bind (yields_spreadable hg) fun e he => .seq fun isLast => ?_
    split_ifs
    · exact .pure (by simpa using he)
    refine .seq fun _ => .seq fun s => .seq fun isFinal => ?_
    split_ifs
    · exact .pure (by simpa using he)
    refine .bind ih fun r hr => .pure ?_
    exact List.forall_mem_cons.mpr ⟨he, hr⟩

theorem yields_unspreadAll {es : List (Element (Leaves.ofSource src))} (hes : ∀ e ∈ es, e.IsSound) :
    (unspreadAll es).Yields fun es' => ∀ e ∈ es', e.IsSound := by
  induction es with
  | nil => exact .pure nofun
  | cons e es ih =>
    obtain ⟨he, hes⟩ := List.forall_mem_cons.mp hes
    have hunspread : (unspread e).Yields Expr.IsSound := by
      cases e with
      | hole => exact .failHere
      | item e => exact .pure he
      | spread => exact .fail
    refine .bind hunspread fun e' he' => .bind (ih hes) fun es' hes' => .pure ?_
    exact List.forall_mem_cons.mpr ⟨he', hes'⟩

/-- An arrow function is no literal. -/
theorem yields_arrowFrom {start : Place src} {isAsync : Bool} {ps : List (Element (Leaves.ofSource src))} :
    (arrowFrom g start isAsync ps).Yields Expr.IsSound :=
  .seq fun _ => .seq fun _ => .pure trivial

/-- What goes on behind an operand is the operand or made with an operator. -/
theorem yields_infixFrom (fuel : Nat) {e : SourceExpr src} (he : e.IsSound) (least : Nat) :
    (infixFrom g fuel e least).Yields Expr.IsSound := by
  induction fuel generalizing e with
  | zero => exact .failHere
  | succ fuel ih =>
    unfold infixFrom
    dsimp only
    refine .seq fun s => .seq fun c => ?_
    split
    · exact .pure he
    split_ifs
    · exact .pure he
    all_goals
      repeat' first
        | with_reducible exact .bind_of_fails .failHere
        | with_reducible refine ih ?_
        | with_reducible refine .seq fun _ => ?_
        | split
    all_goals exact trivial

theorem yields_afterArrow {e : SourceExpr src} (he : e.IsSound) : (afterArrow g e).Yields Expr.IsSound := by
  unfold afterArrow
  refine .seq fun s => ?_
  split
  · exact .seq fun _ => .seq fun _ => yields_infixFrom _ he _
  · exact .pure he

theorem yields_parentheses (hg : g.IsSound) {leads : Bool} {async? : Option (Lexeme scanWord src)} :
    (parentheses g leads async?).Yields Expr.IsSound := by
  unfold parentheses
  refine .seq fun here => .seq fun _ => .bind (.within (yields_parenthesizedItems hg _)) fun r hr => ?_
  have hes : ∀ e ∈ r.1.map (·.2), e.IsSound := by
    rw [List.forall_mem_map]
    exact hr
  refine .seq fun isArrow => ?_
  dsimp only
  refine .ite (fun _ => ?_) fun _ => ?_
  · repeat' first
      | with_reducible exact .bind_of_fails .fail
      | with_reducible exact .bind yields_arrowFrom fun _ he => yields_afterArrow he
      | with_reducible refine .seq fun _ => ?_
      | with_reducible refine Yields.ite (fun _ => ?_) fun _ => ?_
  · split
    · exact .seq fun _ => .pure trivial
    refine .seq fun extent => .bind (yields_unspreadAll hes) fun es hes => ?_
    split
    case h_1 => exact .fail
    case h_2 e =>
      have he : (Expr.parenthesized extent e).IsSound := hes e List.mem_cons_self
      exact .pure he
    case h_3 => exact .seq fun _ => .pure trivial

/-! ### Primary expressions -/

/-- A name is no literal, and neither is an arrow function. -/
theorem yields_nameOrArrow {leads : Bool} : (nameOrArrow g leads).Yields Expr.IsSound := by
  unfold nameOrArrow
  repeat' first
    | with_reducible exact yields_arrowFrom
    | with_reducible refine .pure ?_
    | with_reducible refine .seq fun _ => ?_
    | with_reducible refine Yields.ite (fun _ => ?_) fun _ => ?_
  all_goals exact trivial

/-- A regular expression whose flaws have all been reported has none. -/
theorem yields_regex {s : State src} (hs : s.IsSound)
    (hslash : s.issue? = none → s.start.rest.head? = some '/') : (regex g).YieldsFrom s Expr.IsSound := by
  unfold regex
  refine .get_bind fun hi => ?_
  dsimp only
  split
  case h_1 => exact Yields.throw s hs
  case h_2 r hr =>
    cases hf : r.flaws with
    | cons f fs =>
      rw [Token.issuesAt, List.map_cons, List.forIn_cons]
      exact Yields.bind_of_fails (.bind_of_fails (.bind_of_fails .record)) s hs
    | nil =>
      have hl : Expr.IsSound (.literal (.regex ⟨s.start, r, hr⟩)) :=
        ⟨(hs.isToken hi).1, hslash hi, _, Lexeme.isRead_of_flaws ⟨s.start, r, hr⟩ hf, rfl⟩
      exact Yields.seq (fun _ => .seq fun _ => .pure hl) s hs

theorem yields_primaryWord (hg : g.IsSound) {leads : Bool} {w : Lexeme scanWord src} :
    (primaryWord g leads w).Yields Expr.IsSound := by
  unfold primaryWord
  dsimp only
  repeat' first
    | with_reducible exact yields_nameOrArrow
    | with_reducible exact yields_parentheses hg
    | with_reducible exact Yields.failHere
    | with_reducible refine Yields.pure ?_
    | with_reducible refine Yields.seq fun _ => ?_
    | with_reducible refine Yields.ite (fun _ => ?_) fun _ => ?_
    | split
  all_goals exact trivial

theorem yields_primary (hg : g.IsSound) {leads : Bool} : (primary g leads).Yields Expr.IsSound := by
  unfold primary
  refine .seq fun start => .get_bind fun s hs hi => ?_
  obtain ⟨-, -, hstr, hnumeral⟩ := hs.isToken hi
  split
  case h_1 => exact yields_primaryWord hg s hs
  case h_2 l hl =>
    have h : Expr.IsSound (.literal (.str l)) := hstr l hl
    exact Yields.seq (fun _ => .pure h) s hs
  case h_3 n hn =>
    have h : Expr.IsSound (.literal (.numeral n)) := hnumeral n hn
    exact Yields.seq (fun _ => .pure h) s hs
  case h_4 => exact Yields.failAtEnd s hs
  case h_5 hword _ _ _ =>
    split_ifs with hparen hbracket hbrace hslash hquote
    · exact yields_parentheses hg s hs
    · exact Yields.seq (fun _ => .seq fun _ => .seq fun _ => .pure trivial) s hs
    · exact Yields.seq (fun _ => yields_objectFrom hg) s hs
    · exact yields_regex hs fun hi => hs.head?_eq_slash hi hword hslash
    · exact Yields.seq (fun _ => .seq fun _ => .pure trivial) s hs
    · refine Yields.seq (fun _ => .ite (fun _ => ?_) fun _ => ?_) s hs
      · exact .seq fun _ => .seq fun _ => .pure trivial
      · exact .failHere

/-! ### Members and calls -/

theorem yields_accessFrom (fuel : Nat) (isCallee : Bool) {e : SourceExpr src} (he : e.IsSound) :
    (accessFrom g isCallee fuel e).Yields Expr.IsSound := by
  induction fuel generalizing e with
  | zero => exact .failHere
  | succ fuel ih =>
    have hstep : (accessStep? g isCallee e).Yields fun e? => ∀ e' ∈ e?, e'.IsSound := by
      unfold accessStep? accessStep?.member
      dsimp only
      -- Every step makes an expression that is no literal and no object, of which nothing is claimed.
      repeat' first
        | with_reducible exact Yields.unexpected
        | with_reducible exact Yields.failHere
        | with_reducible exact Yields.bind_of_fails .fail
        | with_reducible exact Yields.bind_of_fails .failHere
        | with_reducible refine Yields.pure ?_
        | with_reducible refine Yields.seq fun _ => ?_
        | with_reducible refine Yields.ite (fun _ => ?_) fun _ => ?_
      all_goals rintro _ ⟨⟩
      all_goals exact trivial
    unfold accessFrom
    refine .bind hstep fun e? he? => ?_
    cases e? with
    | some e' => exact ih (he? e' rfl)
    | none => exact .pure he

theorem yields_importFrom {start : Place src} {isCallee : Bool} :
    (importFrom g start isCallee).Yields Expr.IsSound := by
  unfold importFrom importFrom.called
  dsimp only
  repeat' first
    | with_reducible exact Yields.unexpected
    | with_reducible refine yields_accessFrom _ _ ?_
    | with_reducible refine Yields.seq fun _ => ?_
    | with_reducible refine Yields.ite (fun _ => ?_) fun _ => ?_
  all_goals exact trivial

theorem yields_member (hg : g.IsSound) {leads : Bool} : (member g leads).Yields Expr.IsSound := by
  unfold member
  refine .seq fun start => .seq fun isNew => .ite (fun _ => ?_) fun _ => ?_
  · dsimp only
    repeat' first
      | with_reducible refine yields_accessFrom _ _ ?_
      | with_reducible exact Yields.bind_of_fails .fail
      | with_reducible refine Yields.pure ?_
      | with_reducible refine Yields.seq fun _ => ?_
      | with_reducible refine Yields.ite (fun _ => ?_) fun _ => ?_
    all_goals exact trivial
  refine .seq fun isSuper => .ite (fun _ => .seq fun _ => yields_accessFrom _ _ trivial) fun _ => ?_
  refine .seq fun isImport => .ite (fun _ => yields_importFrom) fun _ => ?_
  refine .bind (yields_primary hg) fun e he => ?_
  exact .ite (fun _ => .pure he) fun _ => yields_accessFrom _ _ he

theorem yields_access (hg : g.IsSound) {leads : Bool} : (access g leads).Yields Expr.IsSound := by
  unfold access
  refine .seq fun start => .seq fun isSuper => ?_
  refine .ite (fun _ => .seq fun _ => yields_accessFrom _ _ trivial) fun _ => ?_
  refine .seq fun isImport => .ite (fun _ => yields_importFrom) fun _ => ?_
  refine .bind (hg.member leads) fun e he => .ite (fun _ => .pure he) fun _ => .seq fun isCall => ?_
  exact .ite (fun _ => yields_accessFrom _ _ he) fun _ => .pure he

/-! ### Operators -/

theorem yields_awaitFrom {w : Lexeme scanWord src} : (awaitFrom g w).Yields Expr.IsSound := by
  unfold awaitFrom
  dsimp only
  repeat' first
    | with_reducible exact Yields.bind_of_fails .failHere
    | with_reducible refine Yields.pure ?_
    | with_reducible refine Yields.seq fun _ => ?_
    | with_reducible refine Yields.ite (fun _ => ?_) fun _ => ?_
  all_goals exact trivial

theorem yields_operand (hg : g.IsSound) {leads : Bool} : (operand g leads).Yields Expr.IsSound := by
  have hupdated : (operand.updated g leads).Yields Expr.IsSound := by
    unfold operand.updated
    refine .bind (hg.access leads) fun e he => .ite (fun _ => .pure he) fun _ => ?_
    refine .seq fun isOnNewLine => .ite (fun _ => .pure he) fun _ => .seq fun s => ?_
    exact .ite (fun _ => .seq fun _ => .seq fun _ => .seq fun _ => .pure trivial) fun _ => .pure he
  unfold operand
  refine .seq fun start => .seq fun s => .ite (fun _ => ?_) fun _ => ?_
  · exact .seq fun _ => .seq fun _ => .seq fun _ => .seq fun _ => .pure trivial
  dsimp only
  repeat' first
    | with_reducible exact hupdated
    | with_reducible exact yields_awaitFrom
    | with_reducible refine Yields.pure ?_
    | with_reducible refine Yields.seq fun _ => ?_
    | split
  all_goals exact trivial

theorem yields_conditional (hg : g.IsSound) : (conditional g).Yields Expr.IsSound := by
  unfold conditional
  refine .bind (hg.operand true) fun e he => .ite (fun _ => .pure he) fun _ => ?_
  refine .bind (yields_infixFrom _ he _) fun test htest => .seq fun isConditional => ?_
  exact .ite (fun _ => .seq fun _ => .seq fun _ => .seq fun _ => .seq fun _ => .pure trivial) fun _ => .pure htest

theorem yields_assignment (hg : g.IsSound) : (assignment g).Yields Expr.IsSound := by
  -- Only an expression that is read by another reader may be a literal or an object; nothing is claimed of the rest.
  have hyield : (yieldFrom g).Yields Expr.IsSound := by
    unfold yieldFrom
    dsimp only
    repeat' first
      | with_reducible exact Yields.bind_of_fails .fail
      | with_reducible refine Yields.pure ?_
      | with_reducible refine Yields.seq fun _ => ?_
      | with_reducible refine Yields.ite (fun _ => ?_) fun _ => ?_
    all_goals exact trivial
  unfold assignment
  refine .seq fun isFinished => ?_
  dsimp only
  refine .ite (fun _ => .bind_of_fails .failAtEnd) fun _ => .seq fun c => .seq fun isYield => ?_
  refine .ite (fun _ => hyield) fun _ => .bind (yields_conditional hg) fun e he => ?_
  refine .ite (fun _ => .pure he) fun _ => .seq fun s => ?_
  split
  · exact .pure he
  · repeat' first
      | with_reducible refine Yields.pure ?_
      | with_reducible refine Yields.seq fun _ => ?_
      | split
    all_goals exact trivial

end Reader

/-! ### Levels -/

theorem Grammar.IsSound.step {g : Grammar src} (hg : g.IsSound) : g.step.IsSound where
  assignment := by
    rw [step_assignment]
    exact Reader.yields_assignment hg
  operand leads := by
    rw [step_operand]
    exact Reader.yields_operand hg
  access leads := by
    rw [step_access]
    exact Reader.yields_access hg
  member leads := by
    rw [step_member]
    exact Reader.yields_member hg

/-- At no depth a literal comes from anything but a token. -/
theorem Grammar.level_isSound (fuel n : Nat) : (level fuel n : Grammar src).IsSound := by
  unfold level
  induction n with
  | zero => exact ⟨.failHere, fun _ => .failHere, fun _ => .failHere, fun _ => .failHere⟩
  | succ n ih => exact ih.step

end LazyStyles.Syntax
