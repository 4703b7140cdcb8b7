import LazyStyles.Syntax.Host
import LazyStyles.Proofs.Reader.Operand

/-!
# Reading names, literals and objects

What a host keeps of a tree once its spans are forgotten (`Expr.bare` and its like) depends on the signs
alone.  Here that is shown for keys (`Sign.key?`), for literals (`Sign.literal?`) and for objects of such
entries, however many (`Reader.reads_object`).
-/

namespace LazyStyles.Syntax

variable {src : List Char}

/-! ### Trees without spans -/

section Bare

variable (size : Nat)

/-- What a host keeps of an expression without its spans. -/
def Expr.bare (e : SourceExpr src) : HostExpr :=
  (e.map (Leaves.toHost src size)).map Leaves.withoutSpans

/-- What a host keeps of a key without its spans. -/
def Key.bare (k : Key (Leaves.ofSource src)) : Key Leaves.host :=
  (k.map (Leaves.toHost src size)).map Leaves.withoutSpans

/-- What a host keeps of a property without its spans. -/
def Property.bare (p : Property (Leaves.ofSource src)) : Property Leaves.host :=
  (p.map (Leaves.toHost src size)).map Leaves.withoutSpans

end Bare

/-! ### Signs as leaves -/

namespace Sign

/-- The key that a sign is, without a span. -/
def key? : Sign → Option (Key Leaves.host)
  | .word w => some (.ident (⟨none, w.name⟩ : IdentNode))
  | .str v raw => some (.str (⟨none, v, some (String.ofList raw)⟩ : StrNode))
  | .numeral v raw => some (.numeral (⟨none, v, some (String.ofList raw)⟩ : NumeralNode))
  | _ => none

/-- The constant that a word is. -/
def constant? (w : Word) : Option Constant :=
  if w = ⟨Constant.true.text, false⟩ then some .true
  else if w = ⟨Constant.false.text, false⟩ then some .false
  else if w = ⟨Constant.null.text, false⟩ then some .null
  else none

/-- The literal that a sign is, without a span. -/
def literal? : Sign → Option (Literal Leaves.host)
  | .word w => (constant? w).map fun v => .constant (⟨none, v⟩ : ConstantNode)
  | .str v raw => some (.str (⟨none, v, some (String.ofList raw)⟩ : StrNode))
  | .numeral v raw => some (.numeral (⟨none, v, some (String.ofList raw)⟩ : NumeralNode))
  | .regex r => some (.regex (⟨none, r⟩ : RegexNode))
  | .mark _ => none

theorem slash_eq (r : Regex) : slash r = "/" ∨ slash r = "/=" := by
  unfold slash
  split_ifs
  · exact .inr rfl
  · exact .inl rfl

end Sign

namespace Reader

variable {g : Grammar src} {c : Context} {b : Bool} {y : Sign} {ys : Signs} (size : Nat)

/-- A key is read off its sign. -/
theorem reads_propertyKey {k : Key Leaves.host} (hc : c.IsModular) (hy : y.key? = some k) :
    (propertyKey g).Reads c ((y, b) :: ys) (fun k' => k'.bare size = k) ys := by
  intro s hs
  simp only [propertyKey, succeeds_bind]
  refine succeeds_here fun start => ?_
  cases y with
  | word w =>
    obtain ⟨l, hl, rfl⟩ := hs.token.1
    simp only [succeeds_get, hl, succeeds_bind, succeeds_next, succeeds_pure]
    exact ⟨Option.some.inj hy, hs.next rfl hc⟩
  | str v raw | numeral v raw =>
    obtain ⟨l, hl, rfl, rfl⟩ := hs.token.1
    simp only [succeeds_get, hl, succeeds_bind, succeeds_next, succeeds_pure]
    exact ⟨Option.some.inj hy, hs.next rfl hc⟩
  | mark m | regex r => exact absurd hy nofun

theorem ofWord?_eq_some {l : Lexeme scanWord src} {v : Constant} (h : Sign.constant? l.value = some v) :
    ∃ d : ConstantLexeme src, ConstantLexeme.ofWord? l = some d ∧ d.word = l ∧ d.value = v := by
  unfold Sign.constant? at h
  unfold ConstantLexeme.ofWord?
  split_ifs at h ⊢
  all_goals
    obtain rfl := Option.some.inj h
    exact ⟨_, rfl, rfl, rfl⟩

theorem ofWord?_eq_none {l : Lexeme scanWord src} (h : Sign.constant? l.value = none) :
    ConstantLexeme.ofWord? l = none := by
  unfold Sign.constant? at h
  unfold ConstantLexeme.ofWord?
  split_ifs at h ⊢
  rfl

theorem beq_text_eq_false (v : Constant) :
    (v.text == "this") = false ∧ (v.text == "function") = false ∧ (v.text == "class") = false := by
  cases v <;> decide

theorem name_of_constant? {w : Word} {v : Constant} (h : Sign.constant? w = some v) :
    w = ⟨v.text, false⟩ := by
  unfold Sign.constant? at h
  split_ifs at h with h₁ h₂ h₃
  all_goals
    obtain rfl := Option.some.inj h
    assumption

/-- What a regular expression leaves is read on from. -/
theorem reads_regex {r : Regex} (hc : c.IsModular) :
    (regex g).Reads c ((.regex r, b) :: ys)
      (fun e => e.bare size = .literal (.regex (⟨none, r⟩ : RegexNode))) ys := by
  intro s hs
  obtain ⟨-, u, ⟨-, n, hscan, rfl⟩, hu, -⟩ := hs.token
  simp only [regex, succeeds_bind, succeeds_get]
  split
  case h_1 f hf => cases hscan.symm.trans hf
  case h_2 q hq =>
    obtain rfl := Except.ok.inj (hscan.symm.trans hq)
    simp only [Token.issuesAt, List.map_nil, List.forIn_nil, nextFrom, succeeds_bind, succeeds_pure,
      succeeds_extend, succeeds_next]
    exact ⟨rfl, State.shows_next hs.issue hu hc⟩

/-- A literal is read off its sign. -/
theorem reads_literal {leads : Bool} {l : Literal Leaves.host} (hc : c.IsModular)
    (hy : y.literal? = some l) :
    (primary g leads).Reads c ((y, b) :: ys) (fun e => e.bare size = .literal l) ys := by
  intro s hs
  simp only [primary, succeeds_bind]
  refine succeeds_here fun start => ?_
  cases y with
  | word w =>
    obtain ⟨v, hv, rfl⟩ := Option.map_eq_some_iff.mp hy
    obtain ⟨t, ht, htw⟩ := hs.token.1
    obtain ⟨d, hd, -, rfl⟩ := ofWord?_eq_some (htw ▸ hv)
    have hname : t.value.name = d.value.text := by rw [htw, name_of_constant? hv]
    obtain ⟨hthis, hfunction, hclass⟩ := beq_text_eq_false d.value
    simp only [succeeds_get, ht, primaryWord, hname, hthis, hfunction, hclass, Bool.false_eq_true, if_false, hd,
      succeeds_bind, succeeds_next, succeeds_pure]
    exact ⟨rfl, hs.next rfl hc⟩
  | str v raw | numeral v raw =>
    obtain ⟨t, ht, rfl, rfl⟩ := hs.token.1
    simp only [succeeds_get, ht, succeeds_bind, succeeds_next, succeeds_pure]
    exact ⟨congrArg Expr.literal (Option.some.inj hy), hs.next rfl hc⟩
  | mark m => exact absurd hy nofun
  | regex r =>
    obtain rfl := Option.some.inj hy
    have ht : s.token = .mark (Sign.slash r) := hs.token.1
    -- A regular expression is first taken for the mark that it starts with.
    have hbrackets : ∀ text ∈ ["(", "[", "\x7b"], s.token.is text = false := by
      rw [ht]
      rcases Sign.slash_eq r with h | h <;> simp [h, Token.is]
    have hslash : (s.token.is "/" || s.token.is "/=") = true := by
      rw [ht]
      rcases Sign.slash_eq r with h | h <;> simp [h, Token.is]
    rw [succeeds_get]
    rw [ht] at hbrackets hslash ⊢
    simp only [hbrackets "(" (by decide), hbrackets "[" (by decide), hbrackets "\x7b" (by decide), hslash,
      Bool.false_eq_true, if_false, if_true]
    exact reads_regex size hc s hs

/-! ### Values -/

theorem lacks_leadingTexts_of_literal? {l : Literal Leaves.host} (hy : y.literal? = some l) :
    Lacks leadingTexts ((y, b) :: ys) := by
  intro t ht
  cases y with
  | word w =>
    obtain ⟨v, hv, -⟩ := Option.map_eq_some_iff.mp hy
    rw [name_of_constant? hv]
    change (v.text == t) = false
    revert t
    cases v <;> decide
  | str v raw => rfl
  | numeral v raw => rfl
  | mark m => exact absurd hy nofun
  | regex r =>
    change (Sign.slash r == t) = false
    revert t
    rcases Sign.slash_eq r with h | h <;> rw [h] <;> decide

theorem isComplete_of_bare {size : Nat} {e : SourceExpr src} {h : HostExpr} (he : e.bare size = h)
    (hh : h.isComplete = true) : e.isComplete = true := by
  rw [← hh, ← he]
  cases e <;> rfl

end Reader

/-- The grammar in which what is primary in `g` is an assignment. -/
def Grammar.climb (g : Grammar src) : Grammar src :=
  g.step.step.step.step

@[simp] theorem Grammar.climb_fuel (g : Grammar src) : g.climb.fuel = g.fuel := by
  simp only [climb, step_fuel]

/-- Whether the signs end an expression without commas. -/
def EndsAssignment (ys : Signs) : Prop :=
  EndsOperand ys ∧ assignmentOperatorIn? ys = none

instance (ys : Signs) : Decidable (EndsAssignment ys) :=
  inferInstanceAs (Decidable (_ ∧ _))

/-- Only the first sign matters. -/
theorem EndsAssignment.of_head {y : Sign} (h : EndsAssignment [(y, false)]) (b : Bool) (ys : Signs) :
    EndsAssignment ((y, b) :: ys) := by
  cases y <;> exact h

namespace Reader

variable {g : Grammar src} {c : Context} {b : Bool} {y : Sign} {ys zs : Signs} (size : Nat)

/-- A literal as a whole expression. -/
theorem reads_anyAssignment_literal {l : Literal Leaves.host} (hfuel : 0 < g.fuel) (hc : c.IsModular)
    (hgen : c.inGenerator = false) (hy : y.literal? = some l) (hzs : EndsAssignment zs) :
    (anyAssignment g.climb).Reads c ((y, b) :: zs) (fun e => e.bare size = .literal l) zs := by
  intro s hs
  change g.climb.assignment.Succeeds { c with allowsIn := true } s _
  exact assignment_of_primary (c := { c with allowsIn := true }) hfuel (reads_literal size hc hy)
    (fun e he => isComplete_of_bare he rfl)
    (List.cons_ne_nil _ _) hgen (lacks_leadingTexts_of_literal? hy) hzs.1 hzs.2 s hs

end Reader

/-! ### Objects -/

/-- An entry of an object by the signs of its key and of its value, a literal. -/
structure Entry where
  keySign : Sign
  key : Key Leaves.host
  isKey : keySign.key? = some key
  /-- The key is no mark, although that of a word could in principle read like one. -/
  isName : ∀ text ∈ ["...", "*", "\x7d"], keySign.is text = false
  valueSign : Sign
  value : Literal Leaves.host
  isValue : valueSign.literal? = some value

namespace Entry

/-- What a host keeps of an entry without its spans. -/
def property (e : Entry) : Property Leaves.host :=
  .keyValue e.key (.literal e.value)

/-- The signs of an entry, with `ys` behind it. -/
def signs (e : Entry) (ys : Signs) : Signs :=
  (e.keySign, false) :: (.mark ":", false) :: (e.valueSign, false) :: ys

/-- The signs of an object from behind its opening brace on. -/
def signsOfAll : List Entry → Signs → Signs
  | [], ys => (.mark "\x7d", false) :: ys
  | [e], ys => e.signs ((.mark "\x7d", false) :: ys)
  | e :: es, ys => e.signs ((.mark ",", false) :: signsOfAll es ys)

end Entry

namespace Reader

variable {g : Grammar src} {c : Context} {b : Bool} {ys zs : Signs} (size : Nat)

/-- An entry is read off its signs. -/
theorem reads_objectProperty (e : Entry) (hfuel : 0 < g.fuel) (hc : c.IsModular)
    (hgen : c.inGenerator = false) (hzs : EndsAssignment zs) :
    (objectProperty g.climb).Reads c (e.signs zs) (fun p => p.bare size = e.property) zs := by
  intro s hs
  have hdots : signIs "..." (e.signs zs) = false := e.isName "..." (by decide)
  have hstar : signIs "*" (e.signs zs) = false := e.isName "*" (by decide)
  simp only [objectProperty, succeeds_bind]
  refine succeeds_here fun start => ?_
  simp only [succeeds_eat, hs.is, hdots, hstar, Bool.false_eq_true, if_false, succeeds_bind]
  refine (reads_propertyKey size hc e.isKey).succeeds hs fun k t hk ht => ?_
  simp only [ht.is, signIs_mark, beq_self_eq_true, if_true, succeeds_bind]
  refine (reads_anyAssignment_literal size hfuel hc hgen e.isValue hzs _ (ht.next rfl hc)).mono
    fun v u ⟨hv, hu⟩ => ?_
  refine succeeds_pure.mpr ⟨?_, hu⟩
  change Property.keyValue (k.bare size) (v.bare size) = _
  rw [hk, hv]
  rfl

/-- An entry before another is read with the comma behind it. -/
theorem reads_property_comma {start : Place src} (e : Entry) (hfuel : 0 < g.fuel) (hc : c.IsModular)
    (hgen : c.inGenerator = false) (hzs : signIs "\x7d" zs = false) :
    (objectFrom.property g.climb start).Reads c (e.signs ((.mark ",", false) :: zs))
      (fun p => p.bare size = e.property) zs := by
  intro s hs
  have hends : EndsAssignment ((.mark ",", false) :: zs) := .of_head (by decide) _ zs
  simp only [objectFrom.property, succeeds_bind, succeeds_isFinished, hs.isFinish, Entry.signs,
    List.isEmpty_cons, Bool.false_eq_true, if_false]
  refine (reads_objectProperty size e hfuel hc hgen hends).succeeds hs fun p t hp ht => ?_
  have hu := ht.next rfl hc
  have hcomma : t.token.is "," = true := ht.is ","
  simp only [succeeds_tokenIs, ht.is "\x7d", signIs_mark, String.reduceBEq, Bool.not_false, if_true,
    expectInside, succeeds_bind, succeeds_isFinished, ht.isFinish, List.isEmpty_cons, Bool.false_eq_true,
    if_false, succeeds_expect hcomma, hu.is, hzs, succeeds_pure]
  exact ⟨hp, hu⟩

/-- The last entry is read without what stands behind it. -/
theorem reads_property_last {start : Place src} (e : Entry) (hfuel : 0 < g.fuel) (hc : c.IsModular)
    (hgen : c.inGenerator = false) :
    (objectFrom.property g.climb start).Reads c (e.signs ((.mark "\x7d", false) :: zs))
      (fun p => p.bare size = e.property) ((.mark "\x7d", false) :: zs) := by
  intro s hs
  have hends : EndsAssignment ((.mark "\x7d", false) :: zs) := .of_head (by decide) _ zs
  simp only [objectFrom.property, succeeds_bind, succeeds_isFinished, hs.isFinish, Entry.signs,
    List.isEmpty_cons, Bool.false_eq_true, if_false]
  refine (reads_objectProperty size e hfuel hc hgen hends).succeeds hs fun p t hp ht => ?_
  simp only [succeeds_tokenIs, ht.is, signIs_mark, beq_self_eq_true, Bool.not_true, Bool.false_eq_true, if_false,
    succeeds_pure]
  exact ⟨hp, ht⟩

/-- The entries of an object are read off their signs, up to its closing brace. -/
theorem reads_properties {start : Place src} (es : List Entry) {fuel : Nat} (hlen : es.length < fuel)
    (hfuel : 0 < g.fuel) (hc : c.IsModular) (hgen : c.inGenerator = false) :
    (many (eat "\x7d") (objectFrom.property g.climb start) fuel).Reads c (Entry.signsOfAll es zs)
      (fun ps => ps.map (Property.bare size) = es.map Entry.property) zs := by
  induction es generalizing fuel with
  | nil =>
    obtain ⟨k, rfl⟩ := Nat.exists_eq_add_of_le' hlen
    intro s hs
    simp only [many, succeeds_bind, succeeds_eat, hs.is, Entry.signsOfAll, signIs_mark, beq_self_eq_true,
      if_true, succeeds_pure]
    exact ⟨rfl, hs.next rfl hc⟩
  | cons e es ih =>
    obtain ⟨k, rfl⟩ := Nat.exists_eq_add_of_le' (Nat.zero_lt_of_lt hlen)
    have hlen : es.length < k := by simpa using hlen
    intro s hs
    have hbrace : s.token.is "\x7d" = false := by
      rw [hs.is]
      cases es <;> exact e.isName "\x7d" (by decide)
    simp only [many, succeeds_bind, succeeds_eat, hbrace, Bool.false_eq_true, if_false]
    -- The last entry has no comma behind it, and the list ends there.
    cases es with
    | nil =>
      refine (reads_property_last size e hfuel hc hgen).succeeds hs fun p t hp ht => ?_
      refine (ih hlen).succeeds ht fun ps u hps hu => succeeds_pure.mpr ⟨?_, hu⟩
      rw [List.map_cons, hp, hps]
      rfl
    | cons e' es =>
      have hbrace' : signIs "\x7d" (Entry.signsOfAll (e' :: es) zs) = false := by
        cases es <;> exact e'.isName "\x7d" (by decide)
      refine (reads_property_comma size e hfuel hc hgen hbrace').succeeds hs fun p t hp ht => ?_
      refine (ih hlen).succeeds ht fun ps u hps hu => succeeds_pure.mpr ⟨?_, hu⟩
      rw [List.map_cons, hp, hps]
      rfl

/-- An object is read off the signs of its entries. -/
theorem reads_object {leads : Bool} (es : List Entry) (hlen : es.length < g.fuel) (hc : c.IsModular)
    (hgen : c.inGenerator = false) :
    (primary g.climb leads).Reads c ((.mark "\x7b", b) :: Entry.signsOfAll es zs)
      (fun e => e.bare size = .object none (es.map Entry.property)) zs := by
  intro s hs
  have ht : s.token = .mark "\x7b" := hs.token.1
  simp only [primary, succeeds_bind]
  refine succeeds_here fun start => ?_
  rw [succeeds_get]
  simp only [ht, Token.is, String.reduceBEq, Bool.false_eq_true, if_false, if_true, succeeds_bind, succeeds_next,
    objectFrom, Grammar.climb_fuel]
  refine (reads_properties size es hlen (Nat.zero_lt_of_lt hlen) hc hgen _ (hs.next rfl hc)).mono
    fun ps t ⟨hps, ht⟩ => ?_
  simp only [succeeds_extentFrom, succeeds_pure]
  refine ⟨?_, ht⟩
  change (Expr.object none (Property.mapAll _ (Property.mapAll _ ps)) : HostExpr) = _
  rw [Property.mapAll_eq_map, Property.mapAll_eq_map, List.map_map, ← hps]
  rfl

end Reader

end LazyStyles.Syntax
