import LazyStyles.LazyModule
import LazyStyles.Proofs.Reader.Item
import LazyStyles.Proofs.Module.Phrase

/-!
# Lazy modules

What the text of a lazy module is parsed as.  The fragments in it may be spelled in any way that reads as
what they stand for (`Fragments.Spelt`); the five statements around them are always the same
(`exists_parseModule_render`).
-/

namespace LazyStyles

open Syntax

/-! ### The module -/

/-- The statement that injects the stylesheet at the first call. -/
def lazyGuard (css : StrNode) : Statement Leaves.host :=
  .conditional none (.unary none .not (bareName "hasRun"))
    (.block none
      [.expression none (.assignment none none (bareName "hasRun")
          (.literal (.constant (⟨none, .true⟩ : ConstantNode)))),
       .expression none (.call none (bareName helperName) false [.item (.literal (.str css))])])
    none

/-- The function that injects the stylesheet and returns the class map. -/
def lazyFunction (css : StrNode) : HostExpr :=
  .function (.mk none (some (⟨none, "styles"⟩ : IdentNode)) false false []
    [lazyGuard css, .returns none (some (bareName "cssMap"))])

/-- The declaration of a variable in a lazy module. -/
def lazyVariable (n : String) (value : Option HostExpr) : Item Leaves.host :=
  .statement (.variableDeclaration none .var [.mk none (bareName n) value])

/-- The five statements of the lazy module with the given pieces, without spans. -/
def lazyItems (pieces : Shape) : List (Item Leaves.host) :=
  [.imports ⟨none, [.default none (⟨none, helperName⟩ : IdentNode)], pieces.helper, false, none, .evaluation⟩,
    lazyVariable "cssMap" (some (.object none pieces.classMap)),
    lazyVariable "hasRun" none,
    lazyVariable "styles" (some (lazyFunction pieces.css)),
    .exportDefault none (bareName "styles")]

/-- The grammar with the levels that a lazy module needs above `g`. -/
def Syntax.Grammar.tower {src : List Char} (g : Grammar src) : Grammar src :=
  g.climb.climb.step.step.climb

theorem Syntax.Grammar.tower_fuel {src : List Char} (g : Grammar src) : g.tower.fuel = g.fuel := by
  simp only [tower, climb_fuel, step_fuel]

/-! ### The text -/

namespace Fragments.Spelt

variable {f : Fragments} (m : f.Spelt)

/-- The spellings make up the text of the module. -/
theorem textOf_spellings : Spelling.textOf m.spellings [] = f.render.toList := by
  have hmap (rest : List Char) : '\x7b' :: Spelling.textOf (WrittenEntry.spellingsOfAll true m.entries) rest =
      f.classMap.toList ++ rest := by
    rw [m.isClassMap, WrittenEntry.textOf_spellingsOfAll, WrittenEntry.textOf_spellingsOfAll]
    simp only [List.cons_append, List.append_assoc, List.nil_append]
  rw [spellings, Spelling.textOf_append, mapSpellings, Spelling.textOf_append, Spelling.textOf_append]
  simp only [importSpellings, headSpellings, guardSpellings, tailSpellings, List.cons_append, List.nil_append,
    Spelling.textOf_word, Spelling.textOf_mark, Spelling.textOf_str, Spelling.textOf_nil]
  unfold Fragments.render
  simp only [String.toList_append, List.append_assoc, -String.reduceToList]
  -- Only now that all texts stand in a row are they split into characters.
  simp only [String.reduceToList, List.cons_append, List.nil_append, hmap]

/-- The text is longer than the class map has entries. -/
theorem length_entries_le : m.entries.length ≤ f.render.toList.length := by
  rw [← m.textOf_spellings, spellings]
  refine Nat.le_trans ?_ (Spelling.length_le_length_textOf_append _ _ _)
  rw [Spelling.textOf_append, mapSpellings]
  refine Nat.le_trans ?_ (Spelling.length_le_length_textOf_append _ _ _)
  exact WrittenEntry.length_le_length_textOf true _ _

/-! ### Separation -/

theorem areSeparate_importSpellings (rest : List Char) : Spelling.AreSeparate m.importSpellings rest := by
  refine ⟨?_, ?_, ?_, trivial, rfl, trivial⟩
  all_goals exact isBoundary_cons.mpr (by decide)

theorem areSeparate_mapSpellings (rest : List Char) : Spelling.AreSeparate m.mapSpellings rest := by
  have hentries : Spelling.AreSeparate (WrittenEntry.spellingsOfAll true m.entries) rest :=
    WrittenEntry.areSeparate_spellingsOfAll _ _
  refine Spelling.areSeparate_append.mpr ⟨⟨?_, ?_, rfl, rfl, trivial⟩, hentries⟩
  all_goals exact isBoundary_cons.mpr (by decide)

theorem areSeparate_headSpellings (rest : List Char) : Spelling.AreSeparate headSpellings rest := by
  refine ⟨?_, ?_, rfl, ?_, ?_, rfl, ?_, ?_, rfl, rfl, rfl, trivial⟩
  all_goals exact isBoundary_cons.mpr (by decide)

theorem areSeparate_guardSpellings (rest : List Char) : Spelling.AreSeparate m.guardSpellings rest := by
  refine ⟨?_, rfl, rfl, ?_, rfl, rfl, ?_, rfl, ?_, rfl, ?_, rfl, trivial, rfl, rfl, rfl, trivial⟩
  all_goals exact isBoundary_cons.mpr (by decide)

theorem areSeparate_tailSpellings : Spelling.AreSeparate tailSpellings [] := by
  refine ⟨?_, ?_, rfl, rfl, ?_, ?_, isBoundary_nil, trivial⟩
  all_goals exact isBoundary_cons.mpr (by decide)

/-- No sign of the module runs into the next. -/
theorem areSeparate_spellings : Spelling.AreSeparate m.spellings [] := by
  simp only [spellings, Spelling.areSeparate_append]
  exact ⟨m.areSeparate_importSpellings _, m.areSeparate_mapSpellings _, areSeparate_headSpellings _,
    m.areSeparate_guardSpellings _, areSeparate_tailSpellings⟩

/-! ### Reading -/

section Reading

variable {src : List Char} {g : Grammar src} {size : Nat} {zs : Signs}

/-- The flag is set. -/
theorem readsStatement_setFlag (hfuel : 0 < g.fuel) (zs : Signs) :
    g.climb.climb.ReadsStatement size
      ((.word ⟨"hasRun", false⟩, true) :: (.mark "=", false) :: (.word ⟨"true", false⟩, false) ::
        (.mark ";", false) :: zs)
      (.expression none (.assignment none none (bareName "hasRun")
        (.literal (.constant (⟨none, .true⟩ : ConstantNode))))) zs := by
  have hend : EndsAssignment ((.mark ";", false) :: zs) := .of_head (by decide) _ _
  have hfuel : 0 < g.step.step.fuel := by simpa using hfuel
  have hvalue : g.step.step.climb.ReadsExpression size ((.word ⟨"true", false⟩, false) :: (.mark ";", false) :: zs)
      (.literal (.constant (⟨none, .true⟩ : ConstantNode))) ((.mark ";", false) :: zs) :=
    Reader.readsExpression_literal hfuel rfl hend
  have he : g.climb.step.step.step.ReadsExpression size
      ((.word ⟨"hasRun", false⟩, true) :: (.mark "=", false) :: (.word ⟨"true", false⟩, false) ::
        (.mark ";", false) :: zs)
      (.assignment none none (bareName "hasRun") (.literal (.constant (⟨none, .true⟩ : ConstantNode))))
      ((.mark ";", false) :: zs) :=
    Reader.readsExpression_assignment hfuel (by decide) hvalue
  exact .of_step fun c _ hc _ =>
    Reader.statement_expression (by decide) hc he (.of_head (by decide) _ _) (.semicolon _ _)

/-- The stylesheet is injected. -/
theorem readsStatement_inject (hfuel : 1 < g.fuel) (zs : Signs) :
    g.climb.climb.ReadsStatement size
      ((.word ⟨"styleInject", false⟩, true) :: (.mark "(", false) :: (.str m.css f.css.toList, false) ::
        (.mark ")", false) :: (.mark ";", false) :: zs)
      (.expression none (.call none (bareName helperName) false
        [.item (.literal (.str (⟨none, m.css, some f.css⟩ : StrNode)))])) zs := by
  have hend : EndsAssignment ((.mark ")", false) :: (.mark ";", false) :: zs) := .of_head (by decide) _ _
  have hcss : g.climb.ReadsExpression size
      ((.str m.css f.css.toList, false) :: (.mark ")", false) :: (.mark ";", false) :: zs)
      (.literal (.str (⟨none, m.css, some f.css⟩ : StrNode))) ((.mark ")", false) :: (.mark ";", false) :: zs) := by
    have hliteral : (Sign.str m.css f.css.toList).literal? =
        some (.str (⟨none, m.css, some (String.ofList f.css.toList)⟩ : StrNode)) := rfl
    rw [String.ofList_toList] at hliteral
    exact Reader.readsExpression_literal (Nat.zero_lt_of_lt hfuel) hliteral hend
  have he : g.climb.step.step.step.ReadsExpression size
      ((.word ⟨"styleInject", false⟩, true) :: (.mark "(", false) :: (.str m.css f.css.toList, false) ::
        (.mark ")", false) :: (.mark ";", false) :: zs)
      (.call none (bareName helperName) false [.item (.literal (.str (⟨none, m.css, some f.css⟩ : StrNode)))])
      ((.mark ";", false) :: zs) :=
    Reader.readsExpression_call hfuel (by decide) (fun _ _ => rfl) (List.cons_ne_nil _ _) hcss
      (.of_head (by decide) _ _)
  exact .of_step fun c _ hc _ =>
    Reader.statement_expression (by decide) hc he (.of_head (by decide) _ _) (.semicolon _ _)

/-- The signs of the statement that injects the stylesheet. -/
def guardSigns (zs : Signs) : Signs :=
  (.word ⟨"if", false⟩, true) :: (.mark "(", false) :: (.mark "!", false) :: (.word ⟨"hasRun", false⟩, false) ::
    (.mark ")", false) :: (.mark "\x7b", false) ::
    (.word ⟨"hasRun", false⟩, true) :: (.mark "=", false) :: (.word ⟨"true", false⟩, false) :: (.mark ";", false) ::
    (.word ⟨"styleInject", false⟩, true) :: (.mark "(", false) :: (.str m.css f.css.toList, false) ::
    (.mark ")", false) :: (.mark ";", false) :: (.mark "\x7d", true) :: zs

/-- The statement that injects the stylesheet is read off its signs. -/
theorem readsStatement_guard (hfuel : 2 < g.fuel) (helse : signIs "else" zs = false) :
    g.climb.climb.step.step.ReadsStatement size (m.guardSigns zs) (lazyGuard ⟨none, m.css, some f.css⟩) zs := by
  have hstatements : g.climb.climb.ReadsStatements size _ _ zs :=
    .cons (readsStatement_setFlag (Nat.zero_lt_of_lt hfuel) _) (List.cons_ne_nil _ _) rfl <|
    .cons (m.readsStatement_inject (Nat.lt_of_succ_lt hfuel) _) (List.cons_ne_nil _ _) rfl (.nil true zs)
  have hblock : g.climb.climb.step.ReadsStatement size ((.mark "\x7b", false) :: _) _ zs :=
    .of_step fun _ _ hc hfunction => Reader.statement_block hstatements (by simpa using hfuel) hc hfunction
  have htest (ys : Signs) : g.climb.climb.step.ReadsExpression size
      ((.mark "!", false) :: (.word ⟨"hasRun", false⟩, false) :: (.mark ")", false) :: ys)
      (.unary none .not (bareName "hasRun")) ((.mark ")", false) :: ys) :=
    Reader.readsExpression_not (by simpa using Nat.zero_lt_of_lt hfuel) (by decide) (.of_head (by decide) _ _) rfl
  exact .of_step fun c mayDeclare hc hfunction => Reader.statement_if hc hfunction (htest _) hblock helse

/-- The signs of the function, with `zs` behind it. -/
def functionSigns (zs : Signs) : Signs :=
  (.word ⟨"function", false⟩, false) :: (.word ⟨"styles", false⟩, false) :: (.mark "(", false) ::
    (.mark ")", false) :: (.mark "\x7b", false) :: m.guardSigns
      ((.word ⟨"return", false⟩, true) :: (.word ⟨"cssMap", false⟩, false) :: (.mark ";", false) ::
        (.mark "\x7d", true) :: zs)

/-- The function is read off its signs. -/
theorem readsExpression_function (hfuel : 2 < g.fuel) (hzs : EndsAssignment zs) :
    g.tower.ReadsExpression size (m.functionSigns zs) (lazyFunction ⟨none, m.css, some f.css⟩) zs := by
  have hmap : g.climb.climb.step.ReadsExpression size
      ((.word ⟨"cssMap", false⟩, false) :: (.mark ";", false) :: (.mark "\x7d", true) :: zs) (bareName "cssMap")
      ((.mark ";", false) :: (.mark "\x7d", true) :: zs) :=
    Reader.readsExpression_name (g := g.climb.step) (by simpa using Nat.zero_lt_of_lt hfuel) (by decide)
      (.of_head (by decide) _ _) rfl
  have hreturn : g.climb.climb.step.step.ReadsStatement size
      ((.word ⟨"return", false⟩, true) :: (.word ⟨"cssMap", false⟩, false) :: (.mark ";", false) ::
        (.mark "\x7d", true) :: zs)
      (.returns none (some (bareName "cssMap"))) ((.mark "\x7d", true) :: zs) :=
    .of_step fun _ _ hc hfunction =>
      Reader.statement_return hc hfunction rfl (.of_head (by decide) _ _) hmap rfl (.semicolon _ _)
  have hbody : g.climb.climb.step.step.ReadsStatements size _ _ zs :=
    .cons (m.readsStatement_guard hfuel rfl) (List.cons_ne_nil _ _) rfl <|
    .cons hreturn (List.cons_ne_nil _ _) rfl (.nil true zs)
  exact Reader.readsExpression_function hbody (by simpa using hfuel) (by decide) hzs

/-! ### The whole module -/

/-- The signs of the module, of which the first starts a line or not. -/
def signs (b : Bool) : Signs :=
  (.word ⟨"import", false⟩, b) :: (.word ⟨"styleInject", false⟩, false) :: (.word ⟨"from", false⟩, false) ::
    (.str m.helper f.helper.toList, false) :: (.mark ";", false) ::
    (.word ⟨"var", false⟩, true) :: (.word ⟨"cssMap", false⟩, false) :: (.mark "=", false) :: (.mark "\x7b", false) ::
    Entry.signsOfAll (m.entries.map (·.toEntry))
      ((.word ⟨"var", false⟩, true) :: (.word ⟨"hasRun", false⟩, false) :: (.mark ";", false) ::
        (.word ⟨"var", false⟩, true) :: (.word ⟨"styles", false⟩, false) :: (.mark "=", false) :: m.functionSigns
          [(.word ⟨"export", false⟩, true), (.word ⟨"default", false⟩, false), (.word ⟨"styles", false⟩, false)])

theorem signsOf_spellings : Spelling.signsOf m.spellings = m.signs false := by
  rw [spellings, mapSpellings, List.append_assoc]
  change _ :: _ :: _ :: _ :: _ :: _ :: _ :: _ :: _ ::
    Spelling.signsOf (WrittenEntry.spellingsOfAll true m.entries ++ _) = _
  rw [WrittenEntry.signsOf_spellingsOfAll]
  rfl

/-- The declaration of the class map is read off its signs. -/
theorem item_cssMap {c : Context} (hc : c.IsOrdinary) (hlen : m.entries.length < g.fuel) :
    (Reader.item g.tower).Reads c
      ((.word ⟨"var", false⟩, true) :: (.word ⟨"cssMap", false⟩, false) :: (.mark "=", false) ::
        (.mark "\x7b", false) :: Entry.signsOfAll (m.entries.map (·.toEntry)) ((.word ⟨"var", false⟩, true) :: zs))
      (fun i => i.bare size = lazyVariable "cssMap" (some (.object none (m.entries.map (·.toEntry.property)))))
      ((.word ⟨"var", false⟩, true) :: zs) := by
  have hfuel : 0 < g.tower.fuel := by
    rw [Grammar.tower_fuel]
    omega
  have hlen : (m.entries.map (·.toEntry)).length < g.climb.step.step.fuel := by
    simpa using hlen
  have hend : EndsAssignment ((.word ⟨"var", false⟩, true) :: zs) := .of_head (by decide) _ _
  have hvalue : g.tower.ReadsExpression size
      ((.mark "\x7b", false) :: Entry.signsOfAll (m.entries.map (·.toEntry)) ((.word ⟨"var", false⟩, true) :: zs))
      (.object none ((m.entries.map (·.toEntry)).map Entry.property)) ((.word ⟨"var", false⟩, true) :: zs) :=
    Reader.readsExpression_object (g := g.climb.step.step) _ hlen hend
  rw [List.map_map] at hvalue
  refine Reader.item_variable (by decide : DeclarationKind.var ≠ .using) hfuel (by decide) (fun d hd => ?_) rfl
    (.line rfl rfl) hc
  exact Reader.reads_declarator (by decide) hd hvalue

/-- The declaration of the flag is read off its signs. -/
theorem item_hasRun {c : Context} (hc : c.IsOrdinary) (hfuel : 0 < g.fuel) :
    (Reader.item g.tower).Reads c
      ((.word ⟨"var", false⟩, true) :: (.word ⟨"hasRun", false⟩, false) :: (.mark ";", false) :: zs)
      (fun i => i.bare size = lazyVariable "hasRun" none) zs := by
  have hfuel : 0 < g.tower.fuel := by rwa [Grammar.tower_fuel]
  refine Reader.item_variable (by decide : DeclarationKind.var ≠ .using) hfuel (by decide) (fun d hd => ?_) rfl
    (.semicolon false zs) hc
  exact Reader.reads_declarator_var (by decide) hd rfl

/-- The declaration of the function is read off its signs. -/
theorem item_styles {c : Context} (hc : c.IsOrdinary) (hfuel : 2 < g.fuel) :
    (Reader.item g.tower).Reads c
      ((.word ⟨"var", false⟩, true) :: (.word ⟨"styles", false⟩, false) :: (.mark "=", false) ::
        m.functionSigns ((.word ⟨"export", false⟩, true) :: zs))
      (fun i => i.bare size = lazyVariable "styles" (some (lazyFunction ⟨none, m.css, some f.css⟩)))
      ((.word ⟨"export", false⟩, true) :: zs) := by
  have hend : EndsAssignment ((.word ⟨"export", false⟩, true) :: zs) := .of_head (by decide) _ _
  have hvalue : g.tower.ReadsExpression size _ _ _ := m.readsExpression_function hfuel hend
  have hfuel : 0 < g.tower.fuel := by
    rw [Grammar.tower_fuel]
    omega
  refine Reader.item_variable (by decide : DeclarationKind.var ≠ .using) hfuel (by decide) (fun d hd => ?_) rfl
    (.line rfl rfl) hc
  exact Reader.reads_declarator (by decide) hd hvalue

/-- The export of the function is read off its signs. -/
theorem item_export {c : Context} (hc : c.IsOrdinary) (hfuel : 0 < g.fuel) :
    (Reader.item g.tower).Reads c
      [(.word ⟨"export", false⟩, true), (.word ⟨"default", false⟩, false), (.word ⟨"styles", false⟩, false)]
      (fun i => i.bare size = .exportDefault none (bareName "styles")) [] := by
  have hvalue : g.tower.ReadsExpression size [(.word ⟨"styles", false⟩, false)] (bareName "styles") [] :=
    Reader.readsExpression_name (g := g.climb.climb.step.step) (by simpa using hfuel) (by decide) (by decide) rfl
  exact Reader.item_exportDefault (by decide) hc hvalue (.line rfl rfl)

/-- The items of the module are read off its signs. -/
theorem readsItems (b : Bool) (hfuel : 2 < g.fuel) (hlen : m.entries.length < g.fuel) :
    g.tower.ReadsItems size (m.signs b) (lazyItems m.pieces) := by
  have hfuel' : 0 < g.fuel := Nat.zero_lt_of_lt hfuel
  have hhelper : m.pieces.helper = ⟨none, m.helper, some (String.ofList f.helper.toList)⟩ := by
    rw [String.ofList_toList]
    rfl
  refine .cons (fun c hc => ?_) (List.cons_ne_nil _ _) <|
    .cons (fun c hc => m.item_cssMap hc hlen) (List.cons_ne_nil _ _) <|
    .cons (fun c hc => item_hasRun hc hfuel') (List.cons_ne_nil _ _) <|
    .cons (fun c hc => m.item_styles hc hfuel) (List.cons_ne_nil _ _) <|
    .cons (fun c hc => item_export hc hfuel') (List.cons_ne_nil _ _) .nil
  rw [hhelper]
  exact Reader.item_import (by decide) rfl rfl hc.isModular (.semicolon false _)

end Reading

end Fragments.Spelt

/-! ### Parsing -/

theorem Syntax.Grammar.level_tower {src : List Char} (fuel n : Nat) :
    (level fuel (n + 14) : Grammar src) = (level fuel n).tower := by
  simp only [tower, climb, ← level_succ]

/-- The text of a lazy module is parsed as its five statements, under any id. -/
theorem exists_parseModule_render {f : Fragments} (m : f.Spelt) (id : String) :
    ∃ n, parseModule f.render id = .ok n ∧ n.withoutSpans.items = lazyItems m.pieces := by
  have hspells := Spelling.spells_textOf m.areSeparate_spellings (by simp)
  obtain ⟨t, ht⟩ : ∃ t, f.render.toList = 'i' :: 'm' :: 'p' :: 'o' :: t := by
    rw [← m.textOf_spellings]
    exact ⟨_, rfl⟩
  rw [m.signsOf_spellings, m.textOf_spellings] at hspells
  -- The text starts with a letter, so it has no byte order mark and no shell line, and none is passed over.
  have hcode : sourceOf f.render = f.render.toList := by
    rw [sourceOf, ht]
    rfl
  have hbody : bodyOf f.render.toList = f.render.toList := by
    rw [ht]
    rfl
  have hhash : f.render.toList.head? ≠ some '#' := by
    rw [ht]
    exact fun h => absurd (Option.some.inj h) (by decide)
  have hlen : 4 ≤ f.render.toList.length := by
    rw [ht]
    simp
  have hentries := m.length_entries_le
  refine exists_parseModule_of_spells hcode hbody hhash hspells ?_ ?_
  · simp only [lazyItems, List.length_cons, List.length_nil]
    omega
  · have hdepth : Grammar.depthFor f.render.toList.length = 4 * f.render.toList.length + 2 + 14 := rfl
    rw [hdepth, Grammar.level_tower]
    refine m.readsItems true ?_ ?_
    all_goals
      rw [Grammar.level_fuel]
      omega

end LazyStyles
