import LazyStyles.Syntax.Host

/-!
# Leaves and spans of a tree

Replacing the leaves of a tree replaces them in the list of its parts, one by one and in the same order
(`Module.parts_map`).  That is an induction over all of a tree, and it is the only one that is needed: what a
map forgets of each leaf is gone from the whole module (`Module.spans_withoutSpans`).
-/

namespace LazyStyles.Syntax

variable {L M : Leaves}

/-- A part of a tree with its leaf replaced. -/
def Part.map (f : Leaves.Map L M) : Part L → Part M
  | .span s => .span (f.span s)
  | .ident i => .ident (f.ident i)
  | .str s => .str (f.str s)
  | .numeral n => .numeral (f.numeral n)
  | .constant c => .constant (f.constant c)
  | .regex r => .regex (f.regex r)
  | .jsxText t => .jsxText (f.jsxText t)
  | .chunk c => .chunk (f.chunk c)

variable (f : Leaves.Map L M)

theorem Literal.parts_map (l : Literal L) : (l.map f).parts = l.parts.map (Part.map f) := by
  cases l <;> rfl

theorem Part.name_map (i : Option L.Ident) : Part.name (i.map f.ident) = (Part.name i).map (Part.map f) := by
  cases i <;> rfl

/-! ### Expressions and statements -/

-- The induction is on the tree, with one case for each constructor; a list of subtrees is a tree of its own.
mutual

theorem Expr.parts_map (e : Expr L) : (e.map f).parts = e.parts.map (Part.map f) := by
  cases e <;>
    simp only [Expr.map, Expr.parts, List.map_cons, List.map_nil, List.map_append, Part.map, Literal.parts_map f,
      Expr.parts_map, Expr.partsAll_mapAll, Expr.partsOption_mapOption, Element.partsAll_mapAll,
      Property.partsAll_mapAll, Function.parts_map, Class.parts_map, TemplatePart.partsAll_mapAll,
      Statement.parts_map]

theorem Expr.partsAll_mapAll (es : List (Expr L)) :
    Expr.partsAll (Expr.mapAll f es) = (Expr.partsAll es).map (Part.map f) := by
  cases es <;>
    simp only [Expr.mapAll, Expr.partsAll, List.map_nil, List.map_append, Expr.parts_map, Expr.partsAll_mapAll]

theorem Expr.partsOption_mapOption (e : Option (Expr L)) :
    Expr.partsOption (Expr.mapOption f e) = (Expr.partsOption e).map (Part.map f) := by
  cases e <;> simp only [Expr.mapOption, Expr.partsOption, List.map_nil, Expr.parts_map]

theorem Element.parts_map (e : Element L) : (e.map f).parts = e.parts.map (Part.map f) := by
  cases e <;> simp only [Element.map, Element.parts, List.map_nil, List.map_cons, Part.map, Expr.parts_map]

theorem Element.partsAll_mapAll (es : List (Element L)) :
    Element.partsAll (Element.mapAll f es) = (Element.partsAll es).map (Part.map f) := by
  cases es <;>
    simp only [Element.mapAll, Element.partsAll, List.map_nil, List.map_append, Element.parts_map,
      Element.partsAll_mapAll]

theorem Property.parts_map (p : Property L) : (p.map f).parts = p.parts.map (Part.map f) := by
  cases p <;>
    simp only [Property.map, Property.parts, List.map_cons, List.map_append, Part.map, Key.parts_map,
      Expr.parts_map, Expr.partsOption_mapOption, Function.parts_map]

theorem Property.partsAll_mapAll (ps : List (Property L)) :
    Property.partsAll (Property.mapAll f ps) = (Property.partsAll ps).map (Part.map f) := by
  cases ps <;>
    simp only [Property.mapAll, Property.partsAll, List.map_nil, List.map_append, Property.parts_map,
      Property.partsAll_mapAll]

theorem Key.parts_map (k : Key L) : (k.map f).parts = k.parts.map (Part.map f) := by
  cases k <;> simp only [Key.map, Key.parts, List.map_nil, List.map_cons, Part.map, Expr.parts_map]

theorem Function.parts_map (g : Function L) : (g.map f).parts = g.parts.map (Part.map f) := by
  cases g
  simp only [Function.map, Function.parts, List.map_cons, List.map_append, Part.map, Part.name_map,
    Element.partsAll_mapAll, Statement.partsAll_mapAll]

theorem Class.parts_map (c : Class L) : (c.map f).parts = c.parts.map (Part.map f) := by
  cases c
  simp only [Class.map, Class.parts, List.map_cons, List.map_append, Part.map, Part.name_map,
    Expr.partsOption_mapOption, ClassMember.partsAll_mapAll]

theorem ClassMember.parts_map (m : ClassMember L) : (m.map f).parts = m.parts.map (Part.map f) := by
  cases m <;>
    simp only [ClassMember.map, ClassMember.parts, List.map_nil, List.map_cons, List.map_append, Part.map,
      Key.parts_map, Expr.partsOption_mapOption, Function.parts_map, Statement.partsAll_mapAll]

theorem ClassMember.partsAll_mapAll (ms : List (ClassMember L)) :
    ClassMember.partsAll (ClassMember.mapAll f ms) = (ClassMember.partsAll ms).map (Part.map f) := by
  cases ms <;>
    simp only [ClassMember.mapAll, ClassMember.partsAll, List.map_nil, List.map_append, ClassMember.parts_map,
      ClassMember.partsAll_mapAll]

theorem TemplatePart.parts_map (p : TemplatePart L) : (p.map f).parts = p.parts.map (Part.map f) := by
  cases p <;>
    simp only [TemplatePart.map, TemplatePart.parts, List.map_nil, List.map_cons, Part.map, Expr.parts_map]

theorem TemplatePart.partsAll_mapAll (ps : List (TemplatePart L)) :
    TemplatePart.partsAll (TemplatePart.mapAll f ps) = (TemplatePart.partsAll ps).map (Part.map f) := by
  cases ps <;>
    simp only [TemplatePart.mapAll, TemplatePart.partsAll, List.map_nil, List.map_append, TemplatePart.parts_map,
      TemplatePart.partsAll_mapAll]

theorem Declarator.parts_map (d : Declarator L) : (d.map f).parts = d.parts.map (Part.map f) := by
  cases d
  simp only [Declarator.map, Declarator.parts, List.map_cons, List.map_append, Part.map, Expr.parts_map,
    Expr.partsOption_mapOption]

theorem Declarator.partsAll_mapAll (ds : List (Declarator L)) :
    Declarator.partsAll (Declarator.mapAll f ds) = (Declarator.partsAll ds).map (Part.map f) := by
  cases ds <;>
    simp only [Declarator.mapAll, Declarator.partsAll, List.map_nil, List.map_append, Declarator.parts_map,
      Declarator.partsAll_mapAll]

theorem SwitchCase.parts_map (c : SwitchCase L) : (c.map f).parts = c.parts.map (Part.map f) := by
  cases c
  simp only [SwitchCase.map, SwitchCase.parts, List.map_cons, List.map_append, Part.map,
    Expr.partsOption_mapOption, Statement.partsAll_mapAll]

theorem SwitchCase.partsAll_mapAll (cs : List (SwitchCase L)) :
    SwitchCase.partsAll (SwitchCase.mapAll f cs) = (SwitchCase.partsAll cs).map (Part.map f) := by
  cases cs <;>
    simp only [SwitchCase.mapAll, SwitchCase.partsAll, List.map_nil, List.map_append, SwitchCase.parts_map,
      SwitchCase.partsAll_mapAll]

theorem Handler.parts_map (h : Handler L) : (h.map f).parts = h.parts.map (Part.map f) := by
  cases h
  simp only [Handler.map, Handler.parts, List.map_cons, List.map_append, Part.map, Expr.partsOption_mapOption,
    Statement.parts_map]

theorem Handler.partsOption_mapOption (h : Option (Handler L)) :
    Handler.partsOption (Handler.mapOption f h) = (Handler.partsOption h).map (Part.map f) := by
  cases h <;> simp only [Handler.mapOption, Handler.partsOption, List.map_nil, Handler.parts_map]

theorem Statement.parts_map (s : Statement L) : (s.map f).parts = s.parts.map (Part.map f) := by
  cases s <;>
    simp only [Statement.map, Statement.parts, List.map_cons, List.map_nil, List.map_append, Part.map,
      Part.name_map, Expr.parts_map, Expr.partsOption_mapOption, Function.parts_map, Class.parts_map,
      Declarator.partsAll_mapAll, SwitchCase.partsAll_mapAll, Handler.partsOption_mapOption, Statement.parts_map,
      Statement.partsAll_mapAll, Statement.partsOption_mapOption]

theorem Statement.partsAll_mapAll (ss : List (Statement L)) :
    Statement.partsAll (Statement.mapAll f ss) = (Statement.partsAll ss).map (Part.map f) := by
  cases ss <;>
    simp only [Statement.mapAll, Statement.partsAll, List.map_nil, List.map_append, Statement.parts_map,
      Statement.partsAll_mapAll]

theorem Statement.partsOption_mapOption (s : Option (Statement L)) :
    Statement.partsOption (Statement.mapOption f s) = (Statement.partsOption s).map (Part.map f) := by
  cases s <;> simp only [Statement.mapOption, Statement.partsOption, List.map_nil, Statement.parts_map]

end

/-! ### Module items -/

theorem ModuleName.parts_map (n : ModuleName L) : (n.map f).parts = n.parts.map (Part.map f) := by
  cases n <;> rfl

/-- What holds of each tree of a list holds of the parts of them all. -/
theorem flatMap_parts_map {α β : Type} {parts : α → List (Part L)} {parts' : β → List (Part M)} {g : α → β}
    (h : ∀ a, parts' (g a) = (parts a).map (Part.map f)) (as : List α) :
    (as.map g).flatMap parts' = (as.flatMap parts).map (Part.map f) := by
  induction as with
  | nil => rfl
  | cons a as ih => rw [List.map_cons, List.flatMap_cons, List.flatMap_cons, List.map_append, h, ih]

theorem toList_flatMap_parts_map (n : Option (ModuleName L)) :
    (n.map (·.map f)).toList.flatMap (·.parts) = (n.toList.flatMap (·.parts)).map (Part.map f) := by
  cases n with
  | none => rfl
  | some n => exact flatMap_parts_map f (ModuleName.parts_map f) [n]

theorem ImportSpecifier.parts_map (s : ImportSpecifier L) : (s.map f).parts = s.parts.map (Part.map f) := by
  cases s with
  | default | «namespace» => rfl
  | named s i n =>
    simp only [ImportSpecifier.map, ImportSpecifier.parts, toList_flatMap_parts_map, List.map_cons,
      List.map_append, List.map_nil, Part.map]

theorem ExportSpecifier.parts_map (s : ExportSpecifier L) : (s.map f).parts = s.parts.map (Part.map f) := by
  cases s <;>
    simp only [ExportSpecifier.map, ExportSpecifier.parts, ModuleName.parts_map, toList_flatMap_parts_map,
      List.map_cons, List.map_append, Part.map]

theorem Import.parts_map (i : Import L) : (i.map f).parts = i.parts.map (Part.map f) := by
  simp only [Import.map, Import.parts, flatMap_parts_map f (ImportSpecifier.parts_map f),
    Expr.partsOption_mapOption, List.map_cons, List.map_append, Part.map]

theorem Item.parts_map (i : Item L) : (i.map f).parts = i.parts.map (Part.map f) := by
  cases i with
  | exportNames s ns i =>
    have hsource : (i.map f.str).toList.map Part.str = (i.toList.map Part.str).map (Part.map f) := by
      cases i <;> rfl
    simp only [Item.map, Item.parts, flatMap_parts_map f (ExportSpecifier.parts_map f), hsource, List.map_cons,
      List.map_append, Part.map]
  | _ =>
    simp only [Item.map, Item.parts, Statement.parts_map, Import.parts_map, Expr.parts_map, List.map_cons,
      List.map_nil, Part.map]

/-- The parts of a module whose leaves are replaced are its parts, each replaced. -/
theorem Module.parts_map (m : Module L) : (m.map f).parts = m.parts.map (Part.map f) := by
  simp only [Module.map, Module.parts, flatMap_parts_map f (Item.parts_map f), List.map_cons, Part.map]

/-! ### Spans -/

theorem Part.span?_map_withoutSpans (p : Part Leaves.host) : (p.map Leaves.withoutSpans).span? = none := by
  cases p <;> rfl

/-- Items without spans have none in any of their parts. -/
theorem filterMap_span?_withoutSpans (is : List (Item Leaves.host)) :
    ((is.map (·.map Leaves.withoutSpans)).flatMap (·.parts)).filterMap Part.span? = [] := by
  rw [flatMap_parts_map _ (Item.parts_map _), List.filterMap_map]
  exact List.filterMap_eq_nil_iff.mpr fun p _ => p.span?_map_withoutSpans

/-- A module without spans has none in any of its parts. -/
theorem Module.spans_withoutSpans (m : HostModule) : m.withoutSpans.spans = [] :=
  filterMap_span?_withoutSpans m.items

end LazyStyles.Syntax
