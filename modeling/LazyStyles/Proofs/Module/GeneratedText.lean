import LazyStyles.Proofs.Module.Generated
import LazyStyles.Proofs.Module.Phrase
import LazyStyles.Proofs.Reader.Item

/-!
# Generated texts

The text of a generated module as the compiler of stylesheets writes it, with quoted strings and without blanks
in the class map (`generatedText`).  Whatever the strings are, and in however many parentheses the class map
stands, it is parsed, it is recognised, and its pieces are spelled as they were quoted
(`exists_ofShape_generatedText`).
-/

namespace LazyStyles

open Syntax

/-! ### The text and its items -/

/-- The text of a generated module with the given stylesheet, class map and source of the helper.  Its class map
stands in `depth` parentheses. -/
def generatedText (kind : DeclarationKind) (depth : Nat) (css : String) (entries : List (String × String))
    (helper : String) : String :=
  kind.text ++ " css = " ++ quoted css ++ ";\nexport default " ++ String.ofList (List.replicate depth '(') ++
    "\x7b" ++ ",".intercalate (entries.map fun e => quoted e.1 ++ ":" ++ quoted e.2) ++ "\x7d" ++
    String.ofList (List.replicate depth ')') ++ ";\nimport styleInject from " ++ quoted helper ++
    ";\nstyleInject(css);\n"

/-- A property of quoted strings. -/
def quotedProperty (e : String × String) : Property Leaves.host :=
  .keyValue (.str (quotedNode e.1)) (.literal (.str (quotedNode e.2)))

/-- An expression in parentheses. -/
def nested : Nat → HostExpr → HostExpr
  | 0, e => e
  | n + 1, e => .parenthesized none (nested n e)

theorem withoutParentheses_nested (n : Nat) (s : Option ByteSpan) (ps : List (Property Leaves.host)) :
    withoutParentheses (nested n (.object s ps)) = .object s ps := by
  induction n with
  | zero => rfl
  | succ n ih => exact ih

/-- The four statements of a generated module of quoted strings, without spans. -/
def generatedItems (kind : DeclarationKind) (depth : Nat) (css : String) (entries : List (String × String))
    (helper : String) : List (Item Leaves.host) :=
  [.statement (.variableDeclaration none kind
      [.mk none (bareName cssName) (some (.literal (.str (quotedNode css))))]),
    .exportDefault none (nested depth (.object none (entries.map quotedProperty))),
    .imports ⟨none, [.default none (⟨none, helperName⟩ : IdentNode)], quotedNode helper, false, none, .evaluation⟩,
    .statement (.expression none (.call none (bareName helperName) false [.item (bareName cssName)]))]

variable {kind : DeclarationKind} {depth : Nat} {css : String} {entries : List (String × String)} {helper : String}

theorem isGenerated_generatedItems (hkind : kind ≠ .using) (depth : Nat) (css : String)
    (entries : List (String × String)) (hpath : helperPath.toList <:+ helper.toList) :
    IsGenerated IdentNode.name StrNode.value (generatedItems kind depth css entries helper) (quotedNode css)
      (entries.map quotedProperty) (quotedNode helper) := by
  refine .mk rfl hkind (withoutParentheses_nested _ _ _) ?_ rfl (List.isSuffixOf_iff_suffix.mpr hpath) rfl
  intro p hp
  obtain ⟨e, -, rfl⟩ := List.mem_map.mp hp
  rfl

/-! ### Spellings -/

theorem textOf_openings (isSpaced : Bool) (n : Nat) (rest : List Char) :
    Spelling.textOf (openings isSpaced n) rest =
      (gap isSpaced).toList ++ (List.replicate n '(' ++ '\x7b' :: rest) := by
  induction n generalizing isSpaced with
  | zero => rfl
  | succ n ih =>
    rw [openings, Spelling.textOf_mark, ih]
    rfl

theorem textOf_closings (n : Nat) (rest : List Char) :
    Spelling.textOf (closings n) rest = List.replicate n ')' ++ rest := by
  induction n with
  | zero => rfl
  | succ n ih =>
    rw [closings, List.replicate_succ, ← closings, Spelling.textOf_mark, ih]
    rfl

theorem signsOf_openings (n : Nat) (isSpaced : Bool) :
    Spelling.signsOf (openings isSpaced n) =
      List.replicate n (Sign.mark "(", false) ++ [(Sign.mark "\x7b", false)] := by
  induction n generalizing isSpaced with
  | zero => cases isSpaced <;> rfl
  | succ n ih =>
    rw [openings, Spelling.signsOf, List.map_cons, ← Spelling.signsOf, ih]
    cases isSpaced <;> rfl

theorem areSeparate_openings (isSpaced : Bool) (n : Nat) (rest : List Char) :
    Spelling.AreSeparate (openings isSpaced n) rest := by
  induction n generalizing isSpaced with
  | zero => exact ⟨rfl, trivial⟩
  | succ n ih => exact ⟨rfl, ih false⟩

theorem areSeparate_closings (n : Nat) (rest : List Char) : Spelling.AreSeparate (closings n) rest := by
  induction n with
  | zero => trivial
  | succ n ih => exact ⟨rfl, ih⟩

section Spellings

variable (kind depth css entries helper)

/-- The spellings make up the text. -/
theorem textOf_generatedSpellings :
    Spelling.textOf (generatedSpellings kind depth css entries helper) ['\n'] =
      (generatedText kind depth css entries helper).toList := by
  have hentries : (entries.map quotedEntry).map (WrittenEntry.text false) =
      (entries.map fun e => quoted e.1 ++ ":" ++ quoted e.2).map String.toList := by
    simp [WrittenEntry.text, quotedEntry, gap]
  rw [generatedSpellings, Spelling.textOf_append, exportSpellings, Spelling.textOf_append]
  simp only [Spelling.textOf_append, textOf_openings, WrittenEntry.textOf_spellingsOfAll, textOf_closings, hentries]
  simp only [cssSpellings, kindSpelling, injectSpellings, Spelling.textOf_word, Spelling.textOf_mark,
    Spelling.textOf_str, Spelling.textOf_nil]
  unfold generatedText
  simp only [String.toList_append, String.toList_ofList, String.toList_intercalate, List.append_assoc,
    -String.reduceToList]
  -- Only now that all texts stand in a row are they split into characters.
  simp only [gap, String.reduceToList, List.cons_append, List.nil_append, if_true, Bool.false_eq_true, if_false]

theorem areSeparate_generatedSpellings :
    Spelling.AreSeparate (generatedSpellings kind depth css entries helper) ['\n'] := by
  have hcss (rest : List Char) : Spelling.AreSeparate (cssSpellings kind css) rest := by
    refine ⟨?_, ?_, rfl, trivial, rfl, trivial⟩
    all_goals exact isBoundary_cons.mpr (by decide)
  have hexport (rest : List Char) : Spelling.AreSeparate (exportSpellings depth entries) rest := by
    have hbehind (rest : List Char) : IsBoundary (Spelling.textOf (openings true depth) rest) := by
      rw [textOf_openings]
      exact isBoundary_cons.mpr (by decide)
    have hend : Spelling.AreSeparate [.mark "" ";"] rest := ⟨rfl, trivial⟩
    simp only [exportSpellings, Spelling.areSeparate_append]
    refine ⟨⟨isBoundary_cons.mpr (by decide), ?_, trivial⟩, areSeparate_openings _ _ _,
      WrittenEntry.areSeparate_spellingsOfAll _ _, areSeparate_closings _ _, hend⟩
    rw [Spelling.textOf_nil, Spelling.textOf_append]
    exact hbehind _
  have hinject : Spelling.AreSeparate (injectSpellings helper) ['\n'] := by
    refine ⟨?_, ?_, ?_, trivial, rfl, ?_, rfl, ?_, rfl, rfl, trivial⟩
    all_goals exact isBoundary_cons.mpr (by decide)
  simp only [generatedSpellings, Spelling.areSeparate_append]
  exact ⟨hcss _, hexport _, hinject⟩

end Spellings

/-! ### Reading -/

section Reading

variable {src : List Char} {fuel size : Nat} {zs : Signs}

/-- An object of entries in parentheses is read off its signs. -/
theorem readsExpression_nested (es : List Entry) (hlen : es.length < fuel) (k depth : Nat)
    (hzs : EndsAssignment zs) (harrow : signIs "=>" zs = false) :
    (Grammar.level fuel (k + 4 * depth + 8) : Grammar src).ReadsExpression size
      (List.replicate depth (Sign.mark "(", false) ++ (.mark "\x7b", false) ::
        Entry.signsOfAll es (List.replicate depth (Sign.mark ")", false) ++ zs))
      (nested depth (.object none (es.map Entry.property))) zs := by
  -- One more pair around the object is one more closing parenthesis in what follows the inner ones.
  induction depth generalizing zs with
  | zero =>
    refine Reader.readsExpression_object (g := Grammar.level fuel k) es ?_ hzs
    rwa [Grammar.level_fuel]
  | succ depth ih =>
    have hclosing : List.replicate (depth + 1) (Sign.mark ")", false) ++ zs =
        List.replicate depth (Sign.mark ")", false) ++ (.mark ")", false) :: zs := by
      rw [List.replicate_succ', List.append_assoc]
      rfl
    have hinner := @ih ((.mark ")", false) :: zs) (.of_head (by decide) _ _) rfl
    rw [hclosing, List.replicate_succ, List.cons_append]
    refine Reader.readsExpression_parenthesized (g := Grammar.level fuel (k + 4 * depth + 8)) ?_ ?_ ?_ hinner hzs harrow
    · rw [Grammar.level_fuel]
      exact Nat.zero_lt_of_lt hlen
    · cases depth with
      | zero => exact .of_head (by decide) _ _
      | succ depth => exact .of_head (by decide) _ _
    · simp

/-- The signs of the text, of which the first starts a line or not. -/
def generatedSigns (kind : DeclarationKind) (depth : Nat) (css : String) (entries : List (String × String))
    (helper : String) (b : Bool) : Signs :=
  (.word ⟨kind.text, false⟩, b) :: (.word ⟨"css", false⟩, false) :: (.mark "=", false) ::
    (.str css (quoted css).toList, false) :: (.mark ";", false) ::
    (.word ⟨"export", false⟩, true) :: (.word ⟨"default", false⟩, false) ::
    (List.replicate depth (Sign.mark "(", false) ++ (.mark "\x7b", false) ::
      Entry.signsOfAll (entries.map fun e => (quotedEntry e).toEntry)
        (List.replicate depth (Sign.mark ")", false) ++ (.mark ";", false) ::
          (.word ⟨"import", false⟩, true) :: (.word ⟨"styleInject", false⟩, false) :: (.word ⟨"from", false⟩, false) ::
          (.str helper (quoted helper).toList, false) :: (.mark ";", false) ::
          [(.word ⟨"styleInject", false⟩, true), (.mark "(", false), (.word ⟨"css", false⟩, false), (.mark ")", false),
            (.mark ";", false)]))

theorem signsOf_generatedSpellings :
    Spelling.signsOf (generatedSpellings kind depth css entries helper) =
      generatedSigns kind depth css entries helper false := by
  have hclosings : Spelling.signsOf (closings depth) = List.replicate depth (Sign.mark ")", false) := by
    rw [closings, Spelling.signsOf, List.map_replicate]
    rfl
  have happend (ps qs : List Spelling) :
      Spelling.signsOf (ps ++ qs) = Spelling.signsOf ps ++ Spelling.signsOf qs := List.map_append
  have hexport (ps : List Spelling) : Spelling.signsOf (exportSpellings depth entries ++ ps) =
      (.word ⟨"export", false⟩, true) :: (.word ⟨"default", false⟩, false) ::
        (List.replicate depth (Sign.mark "(", false) ++ (.mark "\x7b", false) ::
          Entry.signsOfAll (entries.map fun e => (quotedEntry e).toEntry)
            (List.replicate depth (Sign.mark ")", false) ++ (.mark ";", false) :: Spelling.signsOf ps)) := by
    rw [exportSpellings, List.append_assoc, List.append_assoc, List.append_assoc, List.append_assoc, happend,
      happend, signsOf_openings, WrittenEntry.signsOf_spellingsOfAll, happend, hclosings, List.map_map,
      List.append_assoc]
    rfl
  rw [generatedSpellings, happend, hexport]
  rfl

/-- The class map in its parentheses is read off its signs. -/
theorem readsExpression_classMap (entries : List (String × String)) (hlen : entries.length < fuel) (k depth : Nat)
    (zs : Signs) :
    (Grammar.level fuel (k + 4 * depth + 16) : Grammar src).ReadsExpression size
      (List.replicate depth (Sign.mark "(", false) ++ (.mark "\x7b", false) ::
        Entry.signsOfAll (entries.map fun e => (quotedEntry e).toEntry)
          (List.replicate depth (Sign.mark ")", false) ++ (.mark ";", false) :: zs))
      (nested depth (.object none (entries.map quotedProperty))) ((.mark ";", false) :: zs) := by
  have hproperties :
      entries.map quotedProperty = (entries.map fun e => (quotedEntry e).toEntry).map Entry.property := by
    rw [List.map_map]
    rfl
  have hlevel : k + 4 * depth + 16 = k + 8 + 4 * depth + 8 := by omega
  rw [hproperties, hlevel]
  exact readsExpression_nested _ (by rwa [List.length_map]) _ _ (.of_head (by decide) _ _) rfl

/-- The call of the helper is read off its signs. -/
theorem readsExpression_injectCall (hfuel : 1 < fuel) (k : Nat) :
    (Grammar.level fuel (k + 8) : Grammar src).ReadsExpression size
      [(.word ⟨"styleInject", false⟩, true), (.mark "(", false), (.word ⟨"css", false⟩, false), (.mark ")", false),
        (.mark ";", false)]
      (.call none (bareName helperName) false [.item (bareName cssName)]) [(.mark ";", false)] := by
  have hargument : (Grammar.level fuel (k + 5) : Grammar src).ReadsExpression size
      [(.word ⟨"css", false⟩, false), (.mark ")", false), (.mark ";", false)] (bareName cssName)
      [(.mark ")", false), (.mark ";", false)] := by
    refine Reader.readsExpression_name (g := Grammar.level fuel (k + 1)) ?_ (by decide) (.of_head (by decide) _ _) rfl
    rw [Grammar.level_fuel]
    omega
  refine Reader.readsExpression_call (g := Grammar.level fuel (k + 1)) ?_ (by decide) (by decide)
    (List.cons_ne_nil _ _) hargument (.of_head (by decide) _ _)
  rwa [Grammar.level_fuel]

/-- The items of a generated module are read off the signs of its text. -/
theorem readsItems_generated (hkind : kind ≠ .using) (hfuel : 1 < fuel) (hlen : entries.length < fuel) (k : Nat)
    (b : Bool) :
    (Grammar.level fuel (k + 4 * depth + 16) : Grammar src).ReadsItems size
      (generatedSigns kind depth css entries helper b) (generatedItems kind depth css entries helper) := by
  have hlevel (j : Nat) : 0 < (Grammar.level fuel j : Grammar src).fuel := by
    rw [Grammar.level_fuel]
    omega
  have hcss (zs : Signs) : (Grammar.level fuel (k + 4 * depth + 16) : Grammar src).ReadsExpression size
      ((.str css (quoted css).toList, false) :: (.mark ";", false) :: zs) (.literal (.str (quotedNode css)))
      ((.mark ";", false) :: zs) :=
    Reader.readsExpression_literal (g := Grammar.level fuel (k + 4 * depth + 12)) (hlevel _) (literal?_quoted css)
      (.of_head (by decide) _ _)
  have hnode : quotedNode helper = ⟨none, helper, some (String.ofList (quoted helper).toList)⟩ := by
    rw [String.ofList_toList]
    rfl
  have hdeclarator (zs : Signs) (c : Context) (hc : c.IsOrdinary) :
      (Reader.declarator (Grammar.level fuel (k + 4 * depth + 16) : Grammar src) kind false).Reads c
        ((.word ⟨"css", false⟩, false) :: (.mark "=", false) :: (.str css (quoted css).toList, false) ::
          (.mark ";", false) :: zs)
        (fun d => d.bare size = .mk none (bareName cssName) (some (.literal (.str (quotedNode css)))))
        ((.mark ";", false) :: zs) :=
    Reader.reads_declarator (g := Grammar.level fuel (k + 4 * depth + 15)) (by decide) hc (hcss zs)
  have hlacks (ys : Signs) : Lacks ["class", "function", "async"]
      (List.replicate depth (Sign.mark "(", false) ++ (.mark "\x7b", false) :: ys) := by
    cases depth with
    | zero => exact .of_head (by decide) _ _
    | succ depth => exact .of_head (by decide) _ _
  -- One item is read after the other, each up to its semicolon.
  refine .cons (fun c hc => Reader.item_variable hkind (hlevel _) (by decide) (hdeclarator _) rfl
      (.semicolon false _) hc) (List.cons_ne_nil _ _) <|
    .cons (fun c hc => Reader.item_exportDefault (hlacks _) hc (readsExpression_classMap entries hlen k depth _)
      (.semicolon false _)) (List.cons_ne_nil _ _) <|
    .cons (fun c hc => ?_) (List.cons_ne_nil _ _) <|
    .cons (fun c hc => Reader.item_of_statement (by decide) (Reader.statement_expression (by decide) hc
      (readsExpression_injectCall hfuel (k + 4 * depth + 8)) (.of_head (by decide) _ _) (.semicolon false _)))
      (List.cons_ne_nil _ _) .nil
  rw [hnode]
  exact Reader.item_import (by decide) rfl rfl hc.isModular (.semicolon false _)

end Reading

/-! ### Parsing -/

/-- The text is longer than the class map has parentheses on one side and entries. -/
theorem depth_add_length_le (kind : DeclarationKind) (depth : Nat) (css : String) (entries : List (String × String))
    (helper : String) :
    depth + entries.length ≤ (generatedText kind depth css entries helper).toList.length := by
  have hentries (rest : List Char) : entries.length ≤
      (Spelling.textOf (WrittenEntry.spellingsOfAll false (entries.map quotedEntry)) rest).length := by
    have h := WrittenEntry.length_le_length_textOf false (entries.map quotedEntry) rest
    rwa [List.length_map] at h
  rw [← textOf_generatedSpellings, generatedSpellings, exportSpellings, List.append_assoc]
  refine Nat.le_trans ?_ (Spelling.length_le_length_textOf_append _ _ _)
  refine Nat.le_trans ?_ (Spelling.length_le_length_textOf_append _ _ _)
  simp only [Spelling.textOf_append, textOf_openings, List.length_append, List.length_replicate, List.length_cons]
  have hrest := hentries (Spelling.textOf (closings depth) (Spelling.textOf [.mark "" ";"]
    (Spelling.textOf (injectSpellings helper) ['\n'])))
  omega

/-- The text of a generated module is parsed as its four statements. -/
theorem exists_parseModule_generatedText (hkind : kind ≠ .using) (depth : Nat) (css : String)
    (entries : List (String × String)) (helper id : String) :
    ∃ m, parseModule (generatedText kind depth css entries helper) id = .ok m ∧
      m.withoutSpans.items = generatedItems kind depth css entries helper := by
  have hspells := Spelling.spells_textOf (areSeparate_generatedSpellings kind depth css entries helper)
    (List.forall_mem_singleton.mpr (by decide))
  rw [signsOf_generatedSpellings, textOf_generatedSpellings] at hspells
  have hlength := depth_add_length_le kind depth css entries helper
  obtain ⟨rest, hrest⟩ : ∃ rest,
      (generatedText kind depth css entries helper).toList = kind.text.toList ++ rest := by
    rw [← textOf_generatedSpellings]
    exact ⟨_, rfl⟩
  -- The text starts with a keyword, so it has no byte order mark and no shell line, and none is passed over.
  have hcode : sourceOf (generatedText kind depth css entries helper) =
      (generatedText kind depth css entries helper).toList := by
    rw [sourceOf, hrest]
    cases kind <;> rfl
  have hbody : bodyOf (generatedText kind depth css entries helper).toList =
      (generatedText kind depth css entries helper).toList := by
    rw [hrest]
    cases kind <;> rfl
  have hhash : (generatedText kind depth css entries helper).toList.head? ≠ some '#' := by
    rw [hrest]
    cases kind <;> exact fun h => absurd (Option.some.inj h) (by decide)
  have hlong : 2 < (generatedText kind depth css entries helper).toList.length := by
    rw [hrest, List.length_append]
    have hword : 2 < kind.text.toList.length := by cases kind <;> decide
    omega
  generalize (generatedText kind depth css entries helper).toList = src at *
  refine exists_parseModule_of_spells hcode hbody hhash hspells ?_ ?_
  · simp only [generatedItems, List.length_cons, List.length_nil]
    omega
  · -- The parentheses are a part of the text, so the grammar reaches as deep as they nest.
    obtain ⟨k, hk⟩ : ∃ k, Grammar.depthFor src.length = k + 4 * depth + 16 :=
      ⟨4 * src.length - 4 * depth, by rw [Grammar.depthFor]; omega⟩
    rw [hk]
    exact readsItems_generated hkind (by omega) (by omega) k true

/-! ### Texts of the pieces -/

section Texts

variable {known : Option SourceMap}

/-- A text that is remembered does not depend on the source map. -/
theorem textOr_of_quotedNode (known : Option SourceMap) {s : StrNode} {v : String}
    (h : Leaves.withoutSpans.str s = quotedNode v) : Fragments.textOr known s.raw s.span = .ok (quoted v) := by
  have hraw : s.raw = some (quoted v) := congrArg StrNode.raw h
  unfold Fragments.textOr
  rw [hraw]

theorem propertyText_of_quotedProperty {p : Property Leaves.host} {e : String × String}
    (h : p.map Leaves.withoutSpans = quotedProperty e) :
    Fragments.propertyText known p = .ok (quoted e.1 ++ ": " ++ quoted e.2) := by
  cases p with
  | keyValue k v =>
    obtain ⟨hk, hv⟩ := Property.keyValue.inj h
    obtain ⟨l, rfl, hl⟩ := exists_of_map_eq_literal hv
    cases k with
    | str s =>
      cases l with
      | str t =>
        have hkey := textOr_of_quotedNode known (Key.str.inj hk)
        have hvalue := textOr_of_quotedNode known (Literal.str.inj hl)
        exact Fragments.propertyText_of_texts hkey hvalue
      | _ => exact absurd hl nofun
    | _ => exact absurd hk nofun
  | _ => exact absurd h nofun

theorem mapM_propertyText_of_quotedProperty {ps : List (Property Leaves.host)} {entries : List (String × String)}
    (h : ps.map (·.map Leaves.withoutSpans) = entries.map quotedProperty) :
    ps.mapM (Fragments.propertyText known) = .ok (entries.map fun e => quoted e.1 ++ ": " ++ quoted e.2) := by
  induction entries generalizing ps with
  | nil =>
    obtain rfl := List.map_eq_nil_iff.mp h
    rfl
  | cons e entries ih =>
    obtain ⟨p, qs, rfl, hp, hqs⟩ := List.map_eq_cons_iff.mp h
    rw [List.mapM_cons, propertyText_of_quotedProperty hp, ih hqs]
    rfl

end Texts

/-- A module whose text is a generated one is recognised, and its pieces have the texts they were quoted with,
whether or not the source is known. -/
theorem exists_ofShape_generatedText (hkind : kind ≠ .using) (depth : Nat) (css : String)
    (entries : List (String × String)) (hpath : helperPath.toList <:+ helper.toList) (id : String)
    (known : Option SourceMap) :
    ∃ m shape, parseModule (generatedText kind depth css entries helper) id = .ok m ∧
      Shape.ofModule m = .ok shape ∧
      Fragments.ofShape shape known = .ok ⟨quoted css,
        "\x7b " ++ ", ".intercalate (entries.map fun e => quoted e.1 ++ ": " ++ quoted e.2) ++ " \x7d",
        quoted helper⟩ := by
  obtain ⟨m, hm, hitems⟩ := exists_parseModule_generatedText hkind depth css entries helper id
  have h := isGenerated_generatedItems hkind depth css entries hpath
  rw [← hitems] at h
  obtain ⟨css', ps, helper', h, hcss, hps, hhelper⟩ := isGenerated_map.mp h
  refine ⟨m, ⟨css', ps, helper'⟩, hm, Shape.ofModule_eq_ok_iff.mpr h, ?_⟩
  exact Fragments.ofShape_of_texts (textOr_of_quotedNode known hcss) (textOr_of_quotedNode known hhelper)
    (mapM_propertyText_of_quotedProperty hps)

end LazyStyles
