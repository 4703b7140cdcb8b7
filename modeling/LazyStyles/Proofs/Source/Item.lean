import LazyStyles.Syntax.Parse
import LazyStyles.Proofs.Source.Expression

/-!
# Items of a source

In a module that is read without an issue the initial values of variables, the expressions that are exported
by default and the sources of imports are made of tokens, as far as they are literals or objects of such
(`exists_of_parseModule`).
-/

namespace LazyStyles.Syntax

variable {src : List Char}

/-- Whether the initial value of a variable is made of tokens. -/
def Declarator.IsSound : Declarator (Leaves.ofSource src) → Prop
  | .mk _ _ (some e) => e.IsSound
  | .mk _ _ none => True

/-- Whether the initial values of a declaration are made of tokens. -/
def Statement.IsSound : SourceStatement src → Prop
  | .variableDeclaration _ _ ds => ∀ d ∈ ds, d.IsSound
  | _ => True

/-- Whether the source of an import is a token. -/
def Import.IsSound (i : Import (Leaves.ofSource src)) : Prop :=
  Lexeme.IsToken i.source (.str (Lexeme.value i.source) (Lexeme.chars i.source))

/-- Whether the values and the source in an item are made of tokens. -/
def Item.IsSound : Item (Leaves.ofSource src) → Prop
  | .statement s => s.IsSound
  | .imports i => i.IsSound
  | .exportDefault _ e => e.IsSound
  | _ => True

namespace Reader

variable {g : Grammar src}

/-! ### Declarations -/

theorem yields_declarator (hg : g.IsSound) {kind : DeclarationKind} {inHead : Bool} :
    (declarator g kind inHead).Yields Declarator.IsSound := by
  have hvalue {s : Extent src} {t v : SourceExpr src} (h : v.IsSound) : Declarator.IsSound (.mk s t (some v)) := h
  unfold declarator
  dsimp only
  repeat' first
    | with_reducible exact Yields.bind hg.assignment fun _ h => .seq fun _ => .pure (hvalue h)
    | with_reducible refine Yields.pure ?_
    | with_reducible refine Yields.seq fun _ => ?_
    | with_reducible refine Yields.ite (fun _ => ?_) fun _ => ?_
  all_goals exact trivial

theorem yields_declarators (hg : g.IsSound) {kind : DeclarationKind} {inHead : Bool} (fuel : Nat) (first : Bool) :
    (declarators g kind inHead fuel first).Yields fun ds => ∀ d ∈ ds, d.IsSound := by
  induction fuel generalizing first with
  | zero => exact .failHere
  | succ fuel ih =>
    unfold declarators
    refine .seq fun isSemicolon => .ite (fun _ => .seq fun s => .seq fun _ => .pure nofun) fun _ => ?_
    refine .bind (.within (yields_declarator hg)) fun d hd => .seq fun isMore => .ite (fun _ => ?_) fun _ => ?_
    · refine .bind (ih false) fun ds hds => .pure ?_
      exact List.forall_mem_cons.mpr ⟨hd, hds⟩
    · exact .pure (by simpa using hd)

theorem yields_variableDeclaration (hg : g.IsSound) {kind : DeclarationKind} {inHead : Bool} :
    (variableDeclaration g kind inHead).Yields Statement.IsSound := by
  unfold variableDeclaration
  refine .seq fun start => .seq fun _ => .bind (yields_declarators hg _ _) fun ds hds => ?_
  have h (s : Extent src) : Statement.IsSound (.variableDeclaration s kind ds) := hds
  dsimp only
  repeat' first
    | with_reducible refine Yields.pure (h _)
    | with_reducible refine Yields.seq fun _ => ?_
    | with_reducible refine Yields.ite (fun _ => ?_) fun _ => ?_

/-! ### Statements -/

theorem yields_eachLoop {start : Place src} {await? : Option (Place src)} {head : SourceStatement src} :
    (eachLoop g start await? head).Yields Statement.IsSound := by
  unfold eachLoop
  dsimp only
  repeat' first
    | with_reducible refine Yields.pure ?_
    | with_reducible refine Yields.seq fun _ => ?_
    | split
  all_goals exact trivial

theorem yields_countedLoop {start : Place src} {await? : Option (Place src)}
    {initial : Option (SourceStatement src)} : (countedLoop g start await? initial).Yields Statement.IsSound := by
  unfold countedLoop
  dsimp only
  repeat' first
    | with_reducible refine Yields.pure ?_
    | with_reducible refine Yields.seq fun _ => ?_
    | split
  all_goals exact trivial

/-- What starts as an expression is no declaration. -/
theorem yields_expressionStatement {start : Place src} :
    (expressionStatement g start).Yields Statement.IsSound := by
  unfold expressionStatement labelled
  dsimp only
  repeat' first
    | with_reducible exact Yields.failHere
    | with_reducible refine Yields.pure ?_
    | with_reducible refine Yields.seq fun _ => ?_
    | split
  all_goals exact trivial

/-- A statement that starts with a word of its own is a declaration of variables only after one of theirs. -/
theorem yields_wordStatement (hg : g.IsSound) {start : Place src} {mayDeclare : Bool} {w : String} :
    (wordStatement g start mayDeclare w).Yields Statement.IsSound := by
  -- A declaration by `using` is as sound as its declarators.
  have husing : (usingStatement g start).Yields Statement.IsSound := by
    unfold usingStatement
    refine .seq fun _ => .bind (yields_declarators hg _ _) fun ds hds => ?_
    have h (s : Extent src) : Statement.IsSound (.variableDeclaration s .using ds) := hds
    exact .seq fun _ => .seq fun _ => .seq fun s => .pure (h s)
  unfold wordStatement nestedImport jump doStatement forStatement functionStatement ifStatement returnStatement
    switchStatement strayHandler throwStatement tryStatement withStatement whileStatement
  dsimp only
  split
  case h_19 => exact yields_variableDeclaration hg
  case h_20 =>
    refine .ite (fun _ => yields_variableDeclaration hg) fun _ => ?_
    repeat' first
      | with_reducible exact yields_variableDeclaration hg
      | with_reducible exact husing
      | with_reducible exact yields_expressionStatement
      | with_reducible refine Yields.pure ?_
      | with_reducible refine Yields.seq fun _ => ?_
      | with_reducible refine Yields.ite (fun _ => ?_) fun _ => ?_
    all_goals exact trivial
  all_goals
    repeat' first
      | with_reducible exact Yields.failHere
      | with_reducible exact yields_eachLoop
      | with_reducible exact yields_countedLoop
      | with_reducible refine Yields.pure ?_
      | with_reducible refine Yields.seq fun _ => ?_
      | split
    all_goals exact trivial

theorem yields_statement (hg : g.IsSound) {mayDeclare : Bool} : (statement g mayDeclare).Yields Statement.IsSound := by
  unfold statement
  refine .seq fun start => .seq fun s => ?_
  split
  · exact yields_wordStatement hg
  refine .ite (fun _ => .seq fun _ => .seq fun _ => .seq fun _ => .pure trivial) fun _ => .seq fun isEmpty => ?_
  exact .ite (fun _ => .seq fun _ => .pure trivial) fun _ => yields_expressionStatement

/-! ### Imports and exports -/

theorem yields_importRest {start : Place src} : (importRest g start).Yields Import.IsSound := by
  have hsource :
      (moduleSource : Reader src (Lexeme scanString src)).Yields fun l => l.IsToken (.str l.value l.chars) := by
    unfold moduleSource
    refine .get_bind fun s hs hi => ?_
    obtain ⟨-, -, hstr, -⟩ := hs.isToken hi
    split
    case h_1 l hl =>
      exact Yields.seq (Q := fun l : Lexeme scanString src => l.IsToken (.str l.value l.chars))
        (fun _ => .pure (hstr l hl)) s hs
    case h_2 => exact Yields.unexpected s hs
  have himport {e : Extent src} {ss : List (ImportSpecifier (Leaves.ofSource src))} {l : Lexeme scanString src}
      {phase : Phase} (h : l.IsToken (.str l.value l.chars)) :
      Import.IsSound ⟨e, ss, l, false, none, phase⟩ := h
  unfold importRest
  refine .get_bind fun s hs hi => ?_
  obtain ⟨-, -, hstr, -⟩ := hs.isToken hi
  split
  case h_1 l hl =>
    exact Yields.seq (fun _ => .seq fun _ => .seq fun _ => .pure (himport (hstr l hl))) s hs
  case h_2 =>
    refine Yields.seq (fun _ => .seq fun _ => .seq fun _ => ?_) s hs
    exact .bind hsource fun l hl => .seq fun _ => .seq fun _ => .pure (himport hl)

theorem yields_exportDefault (hg : g.IsSound) {start : Place src} : (exportDefault g start).Yields Item.IsSound := by
  have hvalue {s : Extent src} {e : SourceExpr src} (h : e.IsSound) : Item.IsSound (.exportDefault s e) := h
  unfold exportDefault
  repeat' first
    | with_reducible exact Yields.bind (yields_anyAssignment hg) fun _ h => .seq fun _ => .seq fun _ => .pure (hvalue h)
    | with_reducible refine Yields.pure ?_
    | with_reducible refine Yields.seq fun _ => ?_
    | with_reducible refine Yields.ite (fun _ => ?_) fun _ => ?_
  all_goals exact trivial

theorem yields_exportRest (hg : g.IsSound) {start : Place src} : (exportRest g start).Yields Item.IsSound := by
  unfold exportRest exportNames
  dsimp only
  repeat' first
    | with_reducible exact yields_exportDefault hg
    | with_reducible exact Yields.bind_of_fails .failAtEnd
    | with_reducible exact Yields.failHere
    | with_reducible exact Yields.unexpected
    | with_reducible refine Yields.pure ?_
    | with_reducible refine Yields.seq fun _ => ?_
    | with_reducible refine Yields.ite (fun _ => ?_) fun _ => ?_
  all_goals exact trivial

/-! ### Items -/

theorem yields_item (hg : g.IsSound) : (item g).Yields Item.IsSound := by
  have hstatement {r : Reader src (SourceStatement src)} (hr : r.Yields Statement.IsSound) :
      (do return .statement (← r) : Reader src (Item _)).Yields Item.IsSound :=
    .bind hr fun s hs => .pure hs
  have htop {start : Place src} {w : Lexeme scanWord src} : (topAwait g start w).Yields Statement.IsSound :=
    .seq fun _ => .seq fun _ => .seq fun _ => .seq fun _ => .seq fun _ => .pure trivial
  unfold item
  refine .seq fun start => .seq fun c => .seq fun s => ?_
  split
  case h_1 w _ =>
    refine .seq fun t => .ite (fun _ => .seq fun _ => .bind yields_importRest fun i hi => .pure hi) fun _ => ?_
    refine .ite (fun _ => .seq fun _ => yields_exportRest hg) fun _ => ?_
    exact .ite (fun _ => hstatement htop) fun _ => hstatement (yields_statement hg)
  case h_2 => exact hstatement (yields_statement hg)

theorem yields_items (hg : g.IsSound) (fuel : Nat) (isFirst : Bool) :
    (items g fuel isFirst).Yields fun is => ∀ i ∈ is, i.IsSound := by
  induction fuel generalizing isFirst with
  | zero => exact .failHere
  | succ fuel ih =>
    unfold items
    refine .seq fun isFinished => .ite (fun _ => .pure nofun) fun _ => .bind (yields_item hg) fun i hi => ?_
    refine .bind (.within (ih false)) fun is his => .pure ?_
    exact List.forall_mem_cons.mpr ⟨hi, his⟩

end Reader

/-- The items of a module that is read are made of tokens. -/
theorem readItems_isSound {hasShellLine : Bool} {r : Read src} (h : readItems src true hasShellLine = .ok r) :
    ∀ i ∈ r.items, i.IsSound := by
  have hc := Context.initial_isModular
  unfold readItems at h
  dsimp only at h
  split at h
  case h_1 => exact absurd h nofun
  case h_2 is s hrun =>
    split at h
    case h_1 => exact absurd h nofun
    case h_2 hissue =>
      obtain rfl := Except.ok.inj h
      refine Reader.yields_items (Grammar.level_isSound _ _) _ true _ ?_ _ hc is s hrun hissue
      intro hfound
      refine ⟨true, _, rfl, rfl, ?_⟩
      simpa [hc.minds_eq, List.eq_nil_iff_forall_not_mem] using hfound

/-- The items of a module that is parsed are those of its source. -/
theorem exists_of_parseModule {code id : String} {m : HostModule} (h : parseModule code id = .ok m) :
    ∃ is : List (Item (Leaves.ofSource (bodyOf (sourceOf code)))), (∀ i ∈ is, i.IsSound) ∧
      m.items = is.map (·.map (Leaves.toHost _ (byteSize (sourceOf code)))) := by
  unfold parseModule parse at h
  dsimp only at h
  split at h
  case h_1 => exact absurd h nofun
  case h_2 r hr =>
    obtain rfl := Except.ok.inj h
    exact ⟨r.items, readItems_isSound hr, rfl⟩

end LazyStyles.Syntax
