import LazyStyles.Shape
import LazyStyles.Syntax.SourceMap

/-!
# Fragments

The source text of the pieces of a generated module.  A literal's text is what the host remembers of it or
else what its source map has at the span; nothing but a name is ever spelled anew from a value, so quotes, escapes and
the form of numbers stay as they are.  The pieces are looked up one after the other, and the first that has no text
decides: there are no fragments, or the source map has panicked.
-/

namespace LazyStyles

open Syntax

/-- The texts that a lazy module is made of. -/
structure Fragments where
  /-- The stylesheet as a literal. -/
  css : String
  /-- The class map as an object literal. -/
  classMap : String
  /-- The source of the helper as a literal. -/
  helper : String
deriving DecidableEq, Repr

namespace Fragments

/-- What the source map, if there is one, has at a span, if there is one. -/
def textAt (known : Option SourceMap) (span : Option ByteSpan) : Except NoText String :=
  match known, span with
  | some texts, some s => texts s
  | _, _ => .error .missing

/-- The text of a string or a number: the one that is remembered, or else the one at the span. -/
def textOr (known : Option SourceMap) (raw : Option String) (span : Option ByteSpan) : Except NoText String :=
  match raw with
  | some text => .ok text
  | none => textAt known span

/-- The text of a name: the one at its span, or else the name as it reads. -/
def nameText (known : Option SourceMap) (i : IdentNode) : Except NoText String :=
  match textAt known i.span with
  | .ok text => .ok text
  | .error .missing => .ok i.name
  | .error .panic => .error .panic

theorem nameText_of_textAt {known : Option SourceMap} {i : IdentNode} {text : String}
    (h : textAt known i.span = .ok text) : nameText known i = .ok text := by
  rw [nameText, h]

/-- The text of a key. -/
def keyText (known : Option SourceMap) : Key Leaves.host → Except NoText String
  | .ident i => nameText known i
  | .str s => textOr known (StrNode.raw s) (StrNode.span s)
  | .numeral n => textOr known (NumeralNode.raw n) (NumeralNode.span n)
  | .computed .. | .privateName .. => .error .missing

/-- The text of a literal. -/
def literalText (known : Option SourceMap) : Literal Leaves.host → Except NoText String
  | .str s => textOr known (StrNode.raw s) (StrNode.span s)
  | .numeral n => textOr known (NumeralNode.raw n) (NumeralNode.span n)
  | .constant c => .ok (ConstantNode.value c).text
  | .regex r => textAt known (RegexNode.span r)
  | .jsxText _ => .error .missing

/-- The text of a value, which has to be a literal. -/
def valueText (known : Option SourceMap) : HostExpr → Except NoText String
  | .literal l => literalText known l
  | _ => .error .missing

/-- The text of a property. -/
def propertyText (known : Option SourceMap) : Property Leaves.host → Except NoText String
  | .keyValue k v => do
    let key ← keyText known k
    let value ← valueText known v
    return key ++ ": " ++ value
  | _ => .error .missing

theorem propertyText_of_texts {known : Option SourceMap} {k : Key Leaves.host} {l : Literal Leaves.host}
    {key value : String} (hk : keyText known k = .ok key) (hl : literalText known l = .ok value) :
    propertyText known (.keyValue k (.literal l)) = .ok (key ++ ": " ++ value) := by
  rw [propertyText, valueText, hk, hl]
  rfl

theorem propertyText_congr {known known' : Option SourceMap} {k k' : Key Leaves.host} {v v' : HostExpr}
    (hk : keyText known k = keyText known' k') (hv : valueText known v = valueText known' v') :
    propertyText known (.keyValue k v) = propertyText known' (.keyValue k' v') := by
  rw [propertyText, propertyText, hk, hv]

/-- The texts of the pieces of a module, as far as the host knows them. -/
def ofShape (shape : Shape) (known : Option SourceMap) : Except NoText Fragments := do
  let css ← textOr known shape.css.raw shape.css.span
  let helper ← textOr known shape.helper.raw shape.helper.span
  let entries ← shape.classMap.mapM (propertyText known)
  return ⟨css, "\x7b " ++ ", ".intercalate entries ++ " \x7d", helper⟩

theorem ofShape_of_texts {shape : Shape} {known : Option SourceMap} {css helper : String} {entries : List String}
    (hcss : textOr known shape.css.raw shape.css.span = .ok css)
    (hhelper : textOr known shape.helper.raw shape.helper.span = .ok helper)
    (hentries : shape.classMap.mapM (propertyText known) = .ok entries) :
    ofShape shape known = .ok ⟨css, "\x7b " ++ ", ".intercalate entries ++ " \x7d", helper⟩ := by
  rw [ofShape, hcss, hhelper, hentries]
  rfl

end Fragments

end LazyStyles
