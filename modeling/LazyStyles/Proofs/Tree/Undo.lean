import LazyStyles.Syntax.Traversal

/-!
# Undoing a map

A map of leaves that undoes another undoes it on whole trees (`Module.map_undo`).
-/

namespace LazyStyles.Syntax

variable {L M : Leaves}

/-- Whether `g` takes each leaf that `f` has replaced back to what it was. -/
structure Leaves.Map.Undoes (g : Leaves.Map M L) (f : Leaves.Map L M) : Prop where
  span : ∀ s, g.span (f.span s) = s
  ident : ∀ i, g.ident (f.ident i) = i
  str : ∀ s, g.str (f.str s) = s
  numeral : ∀ n, g.numeral (f.numeral n) = n
  constant : ∀ c, g.constant (f.constant c) = c
  regex : ∀ r, g.regex (f.regex r) = r
  jsxText : ∀ t, g.jsxText (f.jsxText t) = t
  chunk : ∀ c, g.chunk (f.chunk c) = c

variable {f : Leaves.Map L M} {g : Leaves.Map M L}

theorem Literal.map_undo (h : g.Undoes f) (l : Literal L) : (l.map f).map g = l := by
  cases l <;> simp only [Literal.map, h.str, h.numeral, h.constant, h.regex, h.jsxText]

theorem Option.map_undo {α β : Type} {f : α → β} {g : β → α} (h : ∀ a, g (f a) = a) (x : Option α) :
    (x.map f).map g = x := by
  cases x with
  | none => rfl
  | some a => exact congrArg some (h a)

/-! ### Expressions and statements -/

-- The induction is on the tree, with one case for each constructor; a list of subtrees is a tree of its own.
mutual

theorem Expr.map_undo (h : g.Undoes f) (e : Expr L) : (e.map f).map g = e := by
  cases e <;>
    simp only [Expr.map, h.span, h.ident, Literal.map_undo h, Expr.map_undo h, Expr.mapAll_undo h,
      Expr.mapOption_undo h, Element.mapAll_undo h, Property.mapAll_undo h, Function.map_undo h, Class.map_undo h,
      TemplatePart.mapAll_undo h, Statement.map_undo h]

theorem Expr.mapAll_undo (h : g.Undoes f) (es : List (Expr L)) : Expr.mapAll g (Expr.mapAll f es) = es := by
  cases es <;> simp only [Expr.mapAll, Expr.map_undo h, Expr.mapAll_undo h]

theorem Expr.mapOption_undo (h : g.Undoes f) (e : Option (Expr L)) : Expr.mapOption g (Expr.mapOption f e) = e := by
  cases e <;> simp only [Expr.mapOption, Expr.map_undo h]

theorem Element.map_undo (h : g.Undoes f) (e : Element L) : (e.map f).map g = e := by
  cases e <;> simp only [Element.map, h.span, Expr.map_undo h]

theorem Element.mapAll_undo (h : g.Undoes f) (es : List (Element L)) : Element.mapAll g (Element.mapAll f es) = es := by
  cases es <;> simp only [Element.mapAll, Element.map_undo h, Element.mapAll_undo h]

theorem Property.map_undo (h : g.Undoes f) (p : Property L) : (p.map f).map g = p := by
  cases p <;>
    simp only [Property.map, h.span, h.ident, Key.map_undo h, Expr.map_undo h, Expr.mapOption_undo h,
      Function.map_undo h]

theorem Property.mapAll_undo (h : g.Undoes f) (ps : List (Property L)) :
    Property.mapAll g (Property.mapAll f ps) = ps := by
  cases ps <;> simp only [Property.mapAll, Property.map_undo h, Property.mapAll_undo h]

theorem Key.map_undo (h : g.Undoes f) (k : Key L) : (k.map f).map g = k := by
  cases k <;> simp only [Key.map, h.span, h.ident, h.str, h.numeral, Expr.map_undo h]

theorem Function.map_undo (h : g.Undoes f) (k : Function L) : (k.map f).map g = k := by
  cases k
  simp only [Function.map, h.span, Option.map_undo h.ident, Element.mapAll_undo h, Statement.mapAll_undo h]

theorem Class.map_undo (h : g.Undoes f) (c : Class L) : (c.map f).map g = c := by
  cases c
  simp only [Class.map, h.span, Option.map_undo h.ident, Expr.mapOption_undo h, ClassMember.mapAll_undo h]

theorem ClassMember.map_undo (h : g.Undoes f) (m : ClassMember L) : (m.map f).map g = m := by
  cases m <;>
    simp only [ClassMember.map, h.span, Key.map_undo h, Expr.mapOption_undo h, Function.map_undo h,
      Statement.mapAll_undo h]

theorem ClassMember.mapAll_undo (h : g.Undoes f) (ms : List (ClassMember L)) :
    ClassMember.mapAll g (ClassMember.mapAll f ms) = ms := by
  cases ms <;> simp only [ClassMember.mapAll, ClassMember.map_undo h, ClassMember.mapAll_undo h]

theorem TemplatePart.map_undo (h : g.Undoes f) (p : TemplatePart L) : (p.map f).map g = p := by
  cases p <;> simp only [TemplatePart.map, h.chunk, Expr.map_undo h]

theorem TemplatePart.mapAll_undo (h : g.Undoes f) (ps : List (TemplatePart L)) :
    TemplatePart.mapAll g (TemplatePart.mapAll f ps) = ps := by
  cases ps <;> simp only [TemplatePart.mapAll, TemplatePart.map_undo h, TemplatePart.mapAll_undo h]

theorem Declarator.map_undo (h : g.Undoes f) (d : Declarator L) : (d.map f).map g = d := by
  cases d
  simp only [Declarator.map, h.span, Expr.map_undo h, Expr.mapOption_undo h]

theorem Declarator.mapAll_undo (h : g.Undoes f) (ds : List (Declarator L)) :
    Declarator.mapAll g (Declarator.mapAll f ds) = ds := by
  cases ds <;> simp only [Declarator.mapAll, Declarator.map_undo h, Declarator.mapAll_undo h]

theorem SwitchCase.map_undo (h : g.Undoes f) (c : SwitchCase L) : (c.map f).map g = c := by
  cases c
  simp only [SwitchCase.map, h.span, Expr.mapOption_undo h, Statement.mapAll_undo h]

theorem SwitchCase.mapAll_undo (h : g.Undoes f) (cs : List (SwitchCase L)) :
    SwitchCase.mapAll g (SwitchCase.mapAll f cs) = cs := by
  cases cs <;> simp only [SwitchCase.mapAll, SwitchCase.map_undo h, SwitchCase.mapAll_undo h]

theorem Handler.map_undo (h : g.Undoes f) (k : Handler L) : (k.map f).map g = k := by
  cases k
  simp only [Handler.map, h.span, Expr.mapOption_undo h, Statement.map_undo h]

theorem Handler.mapOption_undo (h : g.Undoes f) (k : Option (Handler L)) :
    Handler.mapOption g (Handler.mapOption f k) = k := by
  cases k <;> simp only [Handler.mapOption, Handler.map_undo h]

theorem Statement.map_undo (h : g.Undoes f) (s : Statement L) : (s.map f).map g = s := by
  cases s <;>
    simp only [Statement.map, h.span, h.ident, Option.map_undo h.ident, Expr.map_undo h, Expr.mapOption_undo h,
      Function.map_undo h, Class.map_undo h, Declarator.mapAll_undo h, SwitchCase.mapAll_undo h,
      Handler.mapOption_undo h, Statement.map_undo h, Statement.mapAll_undo h, Statement.mapOption_undo h]

theorem Statement.mapAll_undo (h : g.Undoes f) (ss : List (Statement L)) :
    Statement.mapAll g (Statement.mapAll f ss) = ss := by
  cases ss <;> simp only [Statement.mapAll, Statement.map_undo h, Statement.mapAll_undo h]

theorem Statement.mapOption_undo (h : g.Undoes f) (s : Option (Statement L)) :
    Statement.mapOption g (Statement.mapOption f s) = s := by
  cases s <;> simp only [Statement.mapOption, Statement.map_undo h]

end

/-! ### Items -/

theorem ModuleName.map_undo (h : g.Undoes f) (n : ModuleName L) : (n.map f).map g = n := by
  cases n <;> simp only [ModuleName.map, h.ident, h.str]

theorem ImportSpecifier.map_undo (h : g.Undoes f) (s : ImportSpecifier L) : (s.map f).map g = s := by
  cases s <;> simp only [ImportSpecifier.map, h.span, h.ident, Option.map_undo (ModuleName.map_undo h)]

theorem ExportSpecifier.map_undo (h : g.Undoes f) (s : ExportSpecifier L) : (s.map f).map g = s := by
  cases s <;> simp only [ExportSpecifier.map, h.span, ModuleName.map_undo h, Option.map_undo (ModuleName.map_undo h)]

theorem Import.map_undo (h : g.Undoes f) (i : Import L) : (i.map f).map g = i := by
  have hspecifiers : (i.specifiers.map (·.map f)).map (·.map g) = i.specifiers := by
    rw [List.map_map]
    exact List.map_id'' (ImportSpecifier.map_undo h) _
  simp only [Import.map, h.span, h.str, hspecifiers, Expr.mapOption_undo h]

theorem Item.map_undo (h : g.Undoes f) (i : Item L) : (i.map f).map g = i := by
  cases i with
  | exportNames s ns i =>
    have hnames : (ns.map (·.map f)).map (·.map g) = ns := by
      rw [List.map_map]
      exact List.map_id'' (ExportSpecifier.map_undo h) _
    simp only [Item.map, h.span, hnames, Option.map_undo h.str]
  | _ => simp only [Item.map, h.span, h.str, Import.map_undo h, Statement.map_undo h, Expr.map_undo h]

/-- Undoing a map on a module. -/
theorem Module.map_undo (h : g.Undoes f) (m : Module L) : (m.map f).map g = m := by
  have hitems : (m.items.map (·.map f)).map (·.map g) = m.items := by
    rw [List.map_map]
    exact List.map_id'' (Item.map_undo h) _
  simp only [Module.map, h.span, hitems]

end LazyStyles.Syntax
