import LazyStyles.Syntax.Tree

/-!
# Traversals

The two traversals of a syntax tree from which every other is made: `map` replaces each leaf and span,
`parts` lists them in the order of the source.
-/

namespace LazyStyles.Syntax

/-- A map from the leaves of one family to those of another. -/
structure Leaves.Map (L M : Leaves) where
  span : L.Span → M.Span
  ident : L.Ident → M.Ident
  str : L.Str → M.Str
  numeral : L.Numeral → M.Numeral
  constant : L.Constant → M.Constant
  regex : L.Regex → M.Regex
  jsxText : L.JsxText → M.JsxText
  chunk : L.Chunk → M.Chunk

variable {L M : Leaves}

/-! ### Replacing leaves -/

def Literal.map (f : Leaves.Map L M) : Literal L → Literal M
  | .str s => .str (f.str s)
  | .numeral n => .numeral (f.numeral n)
  | .constant c => .constant (f.constant c)
  | .regex r => .regex (f.regex r)
  | .jsxText t => .jsxText (f.jsxText t)

mutual

def Expr.map (f : Leaves.Map L M) : Expr L → Expr M
  | .literal l => .literal (l.map f)
  | .ident i => .ident (f.ident i)
  | .this s => .this (f.span s)
  | .superWord s => .superWord (f.span s)
  | .importWord s p => .importWord (f.span s) p
  | .privateName s n => .privateName (f.span s) (f.ident n)
  | .importMeta s => .importMeta (f.span s)
  | .newTarget s => .newTarget (f.span s)
  | .array s es => .array (f.span s) (Element.mapAll f es)
  | .object s ps => .object (f.span s) (Property.mapAll f ps)
  | .function g => .function (g.map f)
  | .arrow s a ps b => .arrow (f.span s) a (Element.mapAll f ps) (b.map f)
  | .classExpr c => .classExpr (c.map f)
  | .template s ps => .template (f.span s) (TemplatePart.mapAll f ps)
  | .taggedTemplate s t ps => .taggedTemplate (f.span s) (t.map f) (TemplatePart.mapAll f ps)
  | .member s e o n => .member (f.span s) (e.map f) o (f.ident n)
  | .privateMember s e o n => .privateMember (f.span s) (e.map f) o (f.ident n)
  | .index s e o k => .index (f.span s) (e.map f) o (k.map f)
  | .call s e o es => .call (f.span s) (e.map f) o (Element.mapAll f es)
  | .new s e es => .new (f.span s) (e.map f) (Element.mapAll f es)
  | .unary s o e => .unary (f.span s) o (e.map f)
  | .update s i b e => .update (f.span s) i b (e.map f)
  | .binary s o l r => .binary (f.span s) o (l.map f) (r.map f)
  | .assignment s o t v => .assignment (f.span s) o (t.map f) (v.map f)
  | .conditional s t y n => .conditional (f.span s) (t.map f) (y.map f) (n.map f)
  | .sequence s es => .sequence (f.span s) (Expr.mapAll f es)
  | .yield s d e => .yield (f.span s) d (Expr.mapOption f e)
  | .await s e => .await (f.span s) (e.map f)
  | .parenthesized s e => .parenthesized (f.span s) (e.map f)

def Expr.mapAll (f : Leaves.Map L M) : List (Expr L) → List (Expr M)
  | [] => []
  | e :: es => e.map f :: Expr.mapAll f es

def Expr.mapOption (f : Leaves.Map L M) : Option (Expr L) → Option (Expr M)
  | none => none
  | some e => some (e.map f)

def Element.map (f : Leaves.Map L M) : Element L → Element M
  | .hole => .hole
  | .item e => .item (e.map f)
  | .spread s e => .spread (f.span s) (e.map f)

def Element.mapAll (f : Leaves.Map L M) : List (Element L) → List (Element M)
  | [] => []
  | e :: es => e.map f :: Element.mapAll f es

def Property.map (f : Leaves.Map L M) : Property L → Property M
  | .keyValue k e => .keyValue (k.map f) (e.map f)
  | .shorthand n e => .shorthand (f.ident n) (Expr.mapOption f e)
  | .method s m k g => .method (f.span s) m (k.map f) (g.map f)
  | .spread s e => .spread (f.span s) (e.map f)

def Property.mapAll (f : Leaves.Map L M) : List (Property L) → List (Property M)
  | [] => []
  | p :: ps => p.map f :: Property.mapAll f ps

def Key.map (f : Leaves.Map L M) : Key L → Key M
  | .ident i => .ident (f.ident i)
  | .str s => .str (f.str s)
  | .numeral n => .numeral (f.numeral n)
  | .computed s e => .computed (f.span s) (e.map f)
  | .privateName s n => .privateName (f.span s) (f.ident n)

def Function.map (f : Leaves.Map L M) : Function L → Function M
  | .mk s n a g ps b =>
    .mk (f.span s) (n.map f.ident) a g (Element.mapAll f ps) (Statement.mapAll f b)

def Class.map (f : Leaves.Map L M) : Class L → Class M
  | .mk s n h ms => .mk (f.span s) (n.map f.ident) (Expr.mapOption f h) (ClassMember.mapAll f ms)

def ClassMember.map (f : Leaves.Map L M) : ClassMember L → ClassMember M
  | .empty s => .empty (f.span s)
  | .field s t k e => .field (f.span s) t (k.map f) (Expr.mapOption f e)
  | .method s t m k g => .method (f.span s) t m (k.map f) (g.map f)
  | .staticBlock s b => .staticBlock (f.span s) (Statement.mapAll f b)

def ClassMember.mapAll (f : Leaves.Map L M) : List (ClassMember L) → List (ClassMember M)
  | [] => []
  | m :: ms => m.map f :: ClassMember.mapAll f ms

def TemplatePart.map (f : Leaves.Map L M) : TemplatePart L → TemplatePart M
  | .chunk c => .chunk (f.chunk c)
  | .hole e => .hole (e.map f)

def TemplatePart.mapAll (f : Leaves.Map L M) : List (TemplatePart L) → List (TemplatePart M)
  | [] => []
  | p :: ps => p.map f :: TemplatePart.mapAll f ps

def Declarator.map (f : Leaves.Map L M) : Declarator L → Declarator M
  | .mk s t e => .mk (f.span s) (t.map f) (Expr.mapOption f e)

def Declarator.mapAll (f : Leaves.Map L M) : List (Declarator L) → List (Declarator M)
  | [] => []
  | d :: ds => d.map f :: Declarator.mapAll f ds

def SwitchCase.map (f : Leaves.Map L M) : SwitchCase L → SwitchCase M
  | .mk s e b => .mk (f.span s) (Expr.mapOption f e) (Statement.mapAll f b)

def SwitchCase.mapAll (f : Leaves.Map L M) : List (SwitchCase L) → List (SwitchCase M)
  | [] => []
  | c :: cs => c.map f :: SwitchCase.mapAll f cs

def Handler.map (f : Leaves.Map L M) : Handler L → Handler M
  | .mk s e b => .mk (f.span s) (Expr.mapOption f e) (b.map f)

def Handler.mapOption (f : Leaves.Map L M) : Option (Handler L) → Option (Handler M)
  | none => none
  | some h => some (h.map f)

def Statement.map (f : Leaves.Map L M) : Statement L → Statement M
  | .block s b => .block (f.span s) (Statement.mapAll f b)
  | .empty s => .empty (f.span s)
  | .expression s e => .expression (f.span s) (e.map f)
  | .variableDeclaration s k ds => .variableDeclaration (f.span s) k (Declarator.mapAll f ds)
  | .function g => .function (g.map f)
  | .classDeclaration c => .classDeclaration (c.map f)
  | .conditional s t y n => .conditional (f.span s) (t.map f) (y.map f) (Statement.mapOption f n)
  | .forLoop s i t u b =>
    .forLoop (f.span s) (Statement.mapOption f i) (Expr.mapOption f t) (Expr.mapOption f u) (b.map f)
  | .forIn s h e b => .forIn (f.span s) (h.map f) (e.map f) (b.map f)
  | .forOf s a h e b => .forOf (f.span s) a (h.map f) (e.map f) (b.map f)
  | .whileLoop s t b => .whileLoop (f.span s) (t.map f) (b.map f)
  | .doWhile s b t => .doWhile (f.span s) (b.map f) (t.map f)
  | .returns s e => .returns (f.span s) (Expr.mapOption f e)
  | .throws s e => .throws (f.span s) (e.map f)
  | .breaks s l => .breaks (f.span s) (l.map f.ident)
  | .continues s l => .continues (f.span s) (l.map f.ident)
  | .withObject s e b => .withObject (f.span s) (e.map f) (b.map f)
  | .labelled s l b => .labelled (f.span s) (f.ident l) (b.map f)
  | .switch s e cs => .switch (f.span s) (e.map f) (SwitchCase.mapAll f cs)
  | .tryCatch s b h z =>
    .tryCatch (f.span s) (b.map f) (Handler.mapOption f h) (Statement.mapOption f z)
  | .debugger s => .debugger (f.span s)

def Statement.mapAll (f : Leaves.Map L M) : List (Statement L) → List (Statement M)
  | [] => []
  | s :: ss => s.map f :: Statement.mapAll f ss

def Statement.mapOption (f : Leaves.Map L M) : Option (Statement L) → Option (Statement M)
  | none => none
  | some s => some (s.map f)

end

theorem Property.mapAll_eq_map (f : Leaves.Map L M) (ps : List (Property L)) :
    Property.mapAll f ps = ps.map (·.map f) := by
  induction ps with
  | nil => rfl
  | cons p ps ih => rw [Property.mapAll, ih, List.map_cons]

theorem Statement.mapAll_eq_map (f : Leaves.Map L M) (ss : List (Statement L)) :
    Statement.mapAll f ss = ss.map (·.map f) := by
  induction ss with
  | nil => rfl
  | cons s ss ih => rw [Statement.mapAll, ih, List.map_cons]

def ModuleName.map (f : Leaves.Map L M) : ModuleName L → ModuleName M
  | .ident i => .ident (f.ident i)
  | .str s => .str (f.str s)

def ImportSpecifier.map (f : Leaves.Map L M) : ImportSpecifier L → ImportSpecifier M
  | .default s n => .default (f.span s) (f.ident n)
  | .namespace s n => .namespace (f.span s) (f.ident n)
  | .named s i n => .named (f.span s) (i.map (·.map f)) (f.ident n)

def ExportSpecifier.map (f : Leaves.Map L M) : ExportSpecifier L → ExportSpecifier M
  | .namespace s n => .namespace (f.span s) (n.map f)
  | .named s n e => .named (f.span s) (n.map f) (e.map (·.map f))

def Import.map (f : Leaves.Map L M) (i : Import L) : Import M where
  span := f.span i.span
  specifiers := i.specifiers.map (·.map f)
  source := f.str i.source
  isTypeOnly := i.isTypeOnly
  attributes := Expr.mapOption f i.attributes
  phase := i.phase

def Item.map (f : Leaves.Map L M) : Item L → Item M
  | .statement s => .statement (s.map f)
  | .imports i => .imports (i.map f)
  | .exportDeclaration s d => .exportDeclaration (f.span s) (d.map f)
  | .exportNames s ns i => .exportNames (f.span s) (ns.map (·.map f)) (i.map f.str)
  | .exportDefaultDeclaration s d => .exportDefaultDeclaration (f.span s) (d.map f)
  | .exportDefault s e => .exportDefault (f.span s) (e.map f)
  | .exportAll s i => .exportAll (f.span s) (f.str i)

def Module.map (f : Leaves.Map L M) (m : Module L) : Module M where
  span := f.span m.span
  items := m.items.map (·.map f)

/-! ### Listing leaves -/

/-- A span or a leaf of a tree. -/
inductive Part (L : Leaves) where
  | span (s : L.Span)
  | ident (i : L.Ident)
  | str (s : L.Str)
  | numeral (n : L.Numeral)
  | constant (c : L.Constant)
  | regex (r : L.Regex)
  | jsxText (t : L.JsxText)
  | chunk (c : L.Chunk)

/-- The names that are there. -/
def Part.name (i : Option L.Ident) : List (Part L) :=
  i.toList.map .ident

def Literal.parts : Literal L → List (Part L)
  | .str s => [.str s]
  | .numeral n => [.numeral n]
  | .constant c => [.constant c]
  | .regex r => [.regex r]
  | .jsxText t => [.jsxText t]

mutual

def Expr.parts : Expr L → List (Part L)
  | .literal l => l.parts
  | .ident i => [.ident i]
  | .this s => [.span s]
  | .superWord s => [.span s]
  | .importWord s _ => [.span s]
  | .privateName s n => [.span s, .ident n]
  | .importMeta s => [.span s]
  | .newTarget s => [.span s]
  | .array s es => .span s :: Element.partsAll es
  | .object s ps => .span s :: Property.partsAll ps
  | .function g => g.parts
  | .arrow s _ ps b => .span s :: (Element.partsAll ps ++ b.parts)
  | .classExpr c => c.parts
  | .template s ps => .span s :: TemplatePart.partsAll ps
  | .taggedTemplate s t ps => .span s :: (t.parts ++ TemplatePart.partsAll ps)
  | .member s e _ n => .span s :: (e.parts ++ [.ident n])
  | .privateMember s e _ n => .span s :: (e.parts ++ [.ident n])
  | .index s e _ k => .span s :: (e.parts ++ k.parts)
  | .call s e _ es => .span s :: (e.parts ++ Element.partsAll es)
  | .new s e es => .span s :: (e.parts ++ Element.partsAll es)
  | .unary s _ e => .span s :: e.parts
  | .update s _ _ e => .span s :: e.parts
  | .binary s _ l r => .span s :: (l.parts ++ r.parts)
  | .assignment s _ t v => .span s :: (t.parts ++ v.parts)
  | .conditional s t y n => .span s :: (t.parts ++ (y.parts ++ n.parts))
  | .sequence s es => .span s :: Expr.partsAll es
  | .yield s _ e => .span s :: Expr.partsOption e
  | .await s e => .span s :: e.parts
  | .parenthesized s e => .span s :: e.parts

def Expr.partsAll : List (Expr L) → List (Part L)
  | [] => []
  | e :: es => e.parts ++ Expr.partsAll es

def Expr.partsOption : Option (Expr L) → List (Part L)
  | none => []
  | some e => e.parts

def Element.parts : Element L → List (Part L)
  | .hole => []
  | .item e => e.parts
  | .spread s e => .span s :: e.parts

def Element.partsAll : List (Element L) → List (Part L)
  | [] => []
  | e :: es => e.parts ++ Element.partsAll es

def Property.parts : Property L → List (Part L)
  | .keyValue k e => k.parts ++ e.parts
  | .shorthand n e => .ident n :: Expr.partsOption e
  | .method s _ k g => .span s :: (k.parts ++ g.parts)
  | .spread s e => .span s :: e.parts

def Property.partsAll : List (Property L) → List (Part L)
  | [] => []
  | p :: ps => p.parts ++ Property.partsAll ps

def Key.parts : Key L → List (Part L)
  | .ident i => [.ident i]
  | .str s => [.str s]
  | .numeral n => [.numeral n]
  | .computed s e => .span s :: e.parts
  | .privateName s n => [.span s, .ident n]

def Function.parts : Function L → List (Part L)
  | .mk s n _ _ ps b => .span s :: (Part.name n ++ (Element.partsAll ps ++ Statement.partsAll b))

def Class.parts : Class L → List (Part L)
  | .mk s n h ms => .span s :: (Part.name n ++ (Expr.partsOption h ++ ClassMember.partsAll ms))

def ClassMember.parts : ClassMember L → List (Part L)
  | .empty s => [.span s]
  | .field s _ k e => .span s :: (k.parts ++ Expr.partsOption e)
  | .method s _ _ k g => .span s :: (k.parts ++ g.parts)
  | .staticBlock s b => .span s :: Statement.partsAll b

def ClassMember.partsAll : List (ClassMember L) → List (Part L)
  | [] => []
  | m :: ms => m.parts ++ ClassMember.partsAll ms

def TemplatePart.parts : TemplatePart L → List (Part L)
  | .chunk c => [.chunk c]
  | .hole e => e.parts

def TemplatePart.partsAll : List (TemplatePart L) → List (Part L)
  | [] => []
  | p :: ps => p.parts ++ TemplatePart.partsAll ps

def Declarator.parts : Declarator L → List (Part L)
  | .mk s t e => .span s :: (t.parts ++ Expr.partsOption e)

def Declarator.partsAll : List (Declarator L) → List (Part L)
  | [] => []
  | d :: ds => d.parts ++ Declarator.partsAll ds

def SwitchCase.parts : SwitchCase L → List (Part L)
  | .mk s e b => .span s :: (Expr.partsOption e ++ Statement.partsAll b)

def SwitchCase.partsAll : List (SwitchCase L) → List (Part L)
  | [] => []
  | c :: cs => c.parts ++ SwitchCase.partsAll cs

def Handler.parts : Handler L → List (Part L)
  | .mk s e b => .span s :: (Expr.partsOption e ++ b.parts)

def Handler.partsOption : Option (Handler L) → List (Part L)
  | none => []
  | some h => h.parts

def Statement.parts : Statement L → List (Part L)
  | .block s b => .span s :: Statement.partsAll b
  | .empty s => [.span s]
  | .expression s e => .span s :: e.parts
  | .variableDeclaration s _ ds => .span s :: Declarator.partsAll ds
  | .function g => g.parts
  | .classDeclaration c => c.parts
  | .conditional s t y n => .span s :: (t.parts ++ (y.parts ++ Statement.partsOption n))
  | .forLoop s i t u b =>
    .span s :: (Statement.partsOption i ++ (Expr.partsOption t ++ (Expr.partsOption u ++ b.parts)))
  | .forIn s h e b => .span s :: (h.parts ++ (e.parts ++ b.parts))
  | .forOf s _ h e b => .span s :: (h.parts ++ (e.parts ++ b.parts))
  | .whileLoop s t b => .span s :: (t.parts ++ b.parts)
  | .doWhile s b t => .span s :: (b.parts ++ t.parts)
  | .returns s e => .span s :: Expr.partsOption e
  | .throws s e => .span s :: e.parts
  | .breaks s l => .span s :: Part.name l
  | .continues s l => .span s :: Part.name l
  | .withObject s e b => .span s :: (e.parts ++ b.parts)
  | .labelled s l b => .span s :: .ident l :: b.parts
  | .switch s e cs => .span s :: (e.parts ++ SwitchCase.partsAll cs)
  | .tryCatch s b h z =>
    .span s :: (b.parts ++ (Handler.partsOption h ++ Statement.partsOption z))
  | .debugger s => [.span s]

def Statement.partsAll : List (Statement L) → List (Part L)
  | [] => []
  | s :: ss => s.parts ++ Statement.partsAll ss

def Statement.partsOption : Option (Statement L) → List (Part L)
  | none => []
  | some s => s.parts

end

theorem Property.partsAll_eq_flatMap (ps : List (Property L)) : Property.partsAll ps = ps.flatMap (·.parts) := by
  induction ps with
  | nil => rfl
  | cons p ps ih => rw [Property.partsAll, ih, List.flatMap_cons]

def ModuleName.parts : ModuleName L → List (Part L)
  | .ident i => [.ident i]
  | .str s => [.str s]

def ImportSpecifier.parts : ImportSpecifier L → List (Part L)
  | .default s n => [.span s, .ident n]
  | .namespace s n => [.span s, .ident n]
  | .named s i n => .span s :: (i.toList.flatMap (·.parts) ++ [.ident n])

def ExportSpecifier.parts : ExportSpecifier L → List (Part L)
  | .namespace s n => .span s :: n.parts
  | .named s n e => .span s :: (n.parts ++ e.toList.flatMap (·.parts))

def Import.parts (i : Import L) : List (Part L) :=
  .span i.span :: (i.specifiers.flatMap (·.parts) ++ (.str i.source :: Expr.partsOption i.attributes))

def Item.parts : Item L → List (Part L)
  | .statement s => s.parts
  | .imports i => i.parts
  | .exportDeclaration s d => .span s :: d.parts
  | .exportNames s ns i => .span s :: (ns.flatMap (·.parts) ++ i.toList.map .str)
  | .exportDefaultDeclaration s d => .span s :: d.parts
  | .exportDefault s e => .span s :: e.parts
  | .exportAll s i => [.span s, .str i]

/-- The spans and leaves of a module, each node's span before its leaves and these in the order of the
source. -/
def Module.parts (m : Module L) : List (Part L) :=
  .span m.span :: m.items.flatMap (·.parts)

end LazyStyles.Syntax
