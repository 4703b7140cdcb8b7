import LazyStyles.Syntax.Parse
import LazyStyles.Proofs.Reader.Statement

/-!
# Reading modules

Imports of a default name, exports of an expression by default and statements as the items of a module, and
the items one after the other (`Grammar.ReadsItems`).  A source that spells the signs of such items is parsed,
and its module is theirs (`exists_parseModule_of_spells`).
-/

namespace LazyStyles.Syntax

variable {src : List Char}

/-- What a host keeps of an item without its spans. -/
def Item.bare (size : Nat) (i : Item (Leaves.ofSource src)) : Item Leaves.host :=
  (i.map (Leaves.toHost src size)).map Leaves.withoutSpans

namespace Reader

variable {g : Grammar src} {c : Context} {b : Bool} {n : String} {w : Word} {ys zs us : Signs} {size : Nat}

/-! ### Statements -/

/-- A statement that starts with a word of its own. -/
theorem item_of_statement {h : Statement Leaves.host}
    (hw : ∀ text ∈ ["import", "export", "await"], (w.name == text) = false)
    (hs : (statement g true).Reads c ((.word w, b) :: ys) (fun s => s.bare size = h) zs) :
    (item g).Reads c ((.word w, b) :: ys) (fun i => i.bare size = .statement h) zs := by
  intro s hs'
  obtain ⟨l, hl, rfl⟩ := hs'.token.1
  simp only [item, succeeds_bind]
  refine succeeds_here fun start => ?_
  simp only [succeeds_read, succeeds_get, hl, succeeds_bind, succeeds_lookahead, hw "import" (by decide),
    hw "export" (by decide), hw "await" (by decide), Bool.and_false, Bool.false_and, Bool.false_eq_true, if_false]
  refine hs.succeeds hs' fun s' t h' ht => ?_
  refine succeeds_pure.mpr ⟨?_, ht⟩
  rw [← h']
  rfl

/-- A declaration of one variable. -/
theorem item_variable {kind : DeclarationKind} {value : Option HostExpr} {b' : Bool} (hkind : kind ≠ .using)
    (hfuel : 0 < g.fuel) (hn : IsFreeName n)
    (hd : ∀ c : Context, c.IsOrdinary → (declarator g kind false).Reads c ((.word ⟨n, false⟩, b') :: ys)
      (fun d => d.bare size = .mk none (bareName n) value) zs)
    (hcomma : signIs "," zs = false) (hzs : EndsStatement zs us) (hc : c.IsOrdinary) :
    (item g).Reads c ((.word ⟨kind.text, false⟩, b) :: (.word ⟨n, false⟩, b') :: ys)
      (fun i => i.bare size = .statement (.variableDeclaration none kind [.mk none (bareName n) value])) us := by
  have hword : ∀ text ∈ ["import", "export", "await"], (kind.text == text) = false := by cases kind <;> decide
  have hsemicolon : signIs ";" ((.word ⟨n, false⟩, b') :: ys) = false := hn.beq_eq_false (by decide)
  have hdeclaration := reads_variableDeclaration (w := ⟨kind.text, false⟩) (b := b) hfuel hc hsemicolon hd hcomma hzs
  exact item_of_statement hword (statement_declaration hkind hn hc hdeclaration)

/-! ### Imports -/

theorem phaseOf?_eq_none {l : Lexeme scanWord src} {s : State src} {Q : Option Phase → State src → Prop}
    (hsource : (l.value.name == "source") = false) (hdefer : (l.value.name == "defer") = false) (hQ : Q none s) :
    (phaseOf? l).Succeeds c s Q := by
  simp only [phaseOf?, hsource, hdefer, Bool.false_and, Bool.false_eq_true, if_false, succeeds_bind, atBoundName,
    succeeds_read, succeeds_get, succeeds_pure, succeeds_tokenIs]
  split_ifs
  all_goals simpa only [succeeds_bind, succeeds_lookahead, succeeds_pure] using hQ

variable (size) in
/-- The import of a default name from behind its first word on. -/
theorem reads_importRest {start : Place src} {b' b'' : Bool} {v : String} {raw : List Char} (hn : IsFreeName n)
    (hsource : (n == "source") = false) (hdefer : (n == "defer") = false) (hc : c.IsModular)
    (hend : EndsStatement ys zs) :
    (importRest g start).Reads c
      ((.word ⟨n, false⟩, b) :: (.word ⟨"from", false⟩, b') :: (.str v raw, b'') :: ys)
      (fun i => (Item.imports i).bare size = .imports
        ⟨none, [.default none (⟨none, n⟩ : IdentNode)], (⟨none, v, some (String.ofList raw)⟩ : StrNode), false, none,
          .evaluation⟩) zs := by
  intro s hs
  obtain ⟨l, hl, hv⟩ := hs.token.1
  have hname : l.value.name = n := congrArg Word.name hv
  simp only [importRest, succeeds_bind, succeeds_get, hl, defaultImport, atBoundName, succeeds_read, bindsName,
    hname, hn.reserves, Bool.not_false, Bool.or_true, succeeds_pure, if_true]
  refine succeeds_within.mpr ?_
  refine (reads_boundName hn (c := _) ?_).succeeds hs fun w t hw ht => ?_
  · exact hc
  have hname : w.value.name = n := congrArg Word.name hw
  have hfrom : t.token.is "from" = true := ht.is "from"
  -- A name that is none of the words for a phase leaves the import as it is.
  refine phaseOf?_eq_none (hname ▸ hsource) (hname ▸ hdefer) ?_
  simp only [defaultImport.named, succeeds_bind, succeeds_tokenIs, hfrom, Bool.not_true, Bool.false_eq_true,
    if_false, succeeds_pure, otherImports]
  refine succeeds_here fun start => ?_
  simp only [succeeds_eat, ht.is, signIs_word, String.reduceBEq, Bool.false_eq_true, if_false, succeeds_bind,
    succeeds_pure]
  rw [succeeds_expect hfrom]
  have hu := ht.next rfl hc
  obtain ⟨m, hm, hstr, hraw⟩ := hu.token.1
  simp only [moduleSource, succeeds_bind, succeeds_get, hm, succeeds_next, succeeds_pure]
  refine (reads_expectStatementEnd hc hend).succeeds (hu.next rfl hc) fun _ x _ hx => ?_
  simp only [succeeds_extentFrom]
  refine ⟨?_, hx⟩
  rw [← hname, ← hstr, ← hraw]
  rfl

/-- The import of a default name. -/
theorem item_import {b₁ b₂ b₃ : Bool} {v : String} {raw : List Char} (hn : IsFreeName n)
    (hsource : (n == "source") = false) (hdefer : (n == "defer") = false) (hc : c.IsModular)
    (hend : EndsStatement ys zs) :
    (item g).Reads c
      ((.word ⟨"import", false⟩, b) :: (.word ⟨n, false⟩, b₁) :: (.word ⟨"from", false⟩, b₂) ::
        (.str v raw, b₃) :: ys)
      (fun i => i.bare size = .imports
        ⟨none, [.default none (⟨none, n⟩ : IdentNode)], (⟨none, v, some (String.ofList raw)⟩ : StrNode), false, none,
          .evaluation⟩) zs := by
  intro s hs
  obtain ⟨l, hl, hv⟩ := hs.token.1
  have hname : l.value.name = "import" := congrArg Word.name hv
  have hcalled : ∀ text ∈ ["(", "."], (Token.scan c.reserves false s.stop).token.is text = false := fun text ht => by
    rw [hs.is_lookahead rfl hc]
    exact hn.lacks (by decide) _ _ text ht
  -- Neither a call nor a member access is ahead, so the word does not open an expression.
  simp only [item, succeeds_bind]
  refine succeeds_here fun start => ?_
  simp only [succeeds_read, succeeds_get, hl, succeeds_bind, succeeds_lookahead, hc.1, hname, beq_self_eq_true,
    hcalled "(" (by decide), hcalled "." (by decide), Bool.or_self, Bool.not_false, Bool.and_self, if_true,
    succeeds_next]
  refine (reads_importRest size hn hsource hdefer hc hend).succeeds (hs.next rfl hc) fun i t hi ht => ?_
  exact succeeds_pure.mpr ⟨hi, ht⟩

/-! ### Exports -/

/-- An expression that is exported by default. -/
theorem item_exportDefault {b' : Bool} {h : HostExpr} (hys : Lacks ["class", "function", "async"] ys)
    (hc : c.IsOrdinary) (he : g.ReadsExpression size ys h zs) (hend : EndsStatement zs us) :
    (item g).Reads c ((.word ⟨"export", false⟩, b) :: (.word ⟨"default", false⟩, b') :: ys)
      (fun i => i.bare size = .exportDefault none h) us := by
  intro s hs
  obtain ⟨l, hl, hv⟩ := hs.token.1
  have hname : l.value.name = "export" := congrArg Word.name hv
  have ht := hs.next rfl hc.isModular
  have hu := ht.next rfl hc.isModular
  simp only [item, succeeds_bind]
  refine succeeds_here fun start => ?_
  simp only [succeeds_read, succeeds_get, hl, succeeds_bind, succeeds_lookahead, hname, String.reduceBEq,
    Bool.and_false, Bool.false_and, Bool.false_eq_true, if_false, hc.isModular.1, beq_self_eq_true, Bool.and_self,
    if_true, succeeds_next, exportRest, succeeds_isFinished, ht.isFinish, List.isEmpty_cons]
  refine succeeds_here fun start => ?_
  simp only [succeeds_eat, ht.is, signIs_word, beq_self_eq_true, if_true, exportDefault, succeeds_bind]
  refine succeeds_here fun start => ?_
  simp only [succeeds_tokenIs, hu.is, hys "class" (by decide), hys "function" (by decide), Bool.false_eq_true, if_false,
    atAsyncFunction, succeeds_bind, hys "async" (by decide), succeeds_pure]
  refine (reads_anyAssignment hc he).succeeds hu fun e v he hv => ?_
  refine (reads_expectStatementEnd hc.isModular hend).succeeds hv fun _ x _ hx => ?_
  simp only [succeeds_extentFrom]
  refine ⟨?_, hx⟩
  rw [← he]
  rfl

end Reader

/-! ### Modules -/

/-- Whether the items are read off the signs up to the end of the source. -/
inductive Grammar.ReadsItems (g : Grammar src) (size : Nat) : Signs → List (Item Leaves.host) → Prop where
  | nil : g.ReadsItems size [] []
  | cons {ys zs : Signs} {h : Item Leaves.host} {hs : List (Item Leaves.host)}
      (head : ∀ c : Context, c.IsOrdinary → (Reader.item g).Reads c ys (fun i => i.bare size = h) zs)
      (isMore : ys ≠ []) (tail : g.ReadsItems size zs hs) : g.ReadsItems size ys (h :: hs)

namespace Reader

variable {g : Grammar src} {c : Context} {ys : Signs} {size : Nat} {hs : List (Item Leaves.host)}

/-- The items of a module are read one by one. -/
theorem reads_items (isFirst : Bool) {fuel : Nat} (h : g.ReadsItems size ys hs) (hfuel : hs.length < fuel)
    (hc : c.IsOrdinary) :
    (items g fuel isFirst).Reads c ys (fun is => is.map (Item.bare size) = hs) [] := by
  induction h generalizing fuel isFirst with
  | nil =>
    obtain ⟨k, rfl⟩ := Nat.exists_eq_add_of_le' hfuel
    intro s hs
    simp only [items, succeeds_bind, succeeds_isFinished, hs.isFinish, List.isEmpty_nil, if_true, succeeds_pure]
    exact ⟨rfl, hs⟩
  | @cons ys zs h hs head isMore tail ih =>
    obtain ⟨k, rfl⟩ := Nat.exists_eq_add_of_le' (Nat.zero_lt_of_lt hfuel)
    have hlen : hs.length < k := by simpa using hfuel
    have hne : ys.isEmpty = false := by simpa using isMore
    intro s hs
    simp only [items, succeeds_bind, succeeds_isFinished, hs.isFinish, hne, Bool.false_eq_true, if_false]
    refine (head c hc).succeeds hs fun i t hi ht => ?_
    refine (succeeds_within_isStrict hc.isModular).mpr ((ih false hlen).succeeds ht fun is u his hu => ?_)
    refine succeeds_pure.mpr ⟨?_, hu⟩
    rw [List.map_cons, hi, his]

end Reader

theorem Grammar.level_succ (fuel n : Nat) : (level fuel (n + 1) : Grammar src) = (level fuel n).step := rfl

theorem Grammar.level_fuel (fuel n : Nat) : (level fuel n : Grammar src).fuel = fuel := by
  induction n with
  | zero => rfl
  | succ n ih => rw [level_succ, step_fuel, ih]

/-- A source that spells the signs of items is read as these. -/
theorem exists_readItems_of_spells {y : Sign} {b : Bool} {ys : Signs} {hs : List (Item Leaves.host)} {size : Nat}
    (hspells : Spells src ((y, b) :: ys)) (hlen : hs.length < src.length + 2)
    (h : Grammar.ReadsItems (Grammar.level (src.length + 2) (Grammar.depthFor src.length) : Grammar src) size
      ((y, true) :: ys) hs) :
    ∃ r : Read src, readItems src true false = .ok r ∧ r.items.map (Item.bare size) = hs := by
  obtain ⟨t, ht, hissues, hleads, hline⟩ := Token.scan_of_spells (p := Place.first.advance 0) hspells true
  let p : Place src := Place.first.advance 0
  have hs : State.Shows (⟨t.token, t.start, t.stop, t.isOnNewLine || t.token.isFinish, ⟨p, p⟩, none, []⟩ : State src)
      ((y, true) :: ys) := ⟨rfl, hleads, hline⟩
  obtain ⟨is, u, hrun, his, hu⟩ :=
    Reader.reads_items true h hlen ⟨Context.initial_isModular, rfl⟩ _ hs
  have hg : (Grammar.level (src.length + 2) (Grammar.depthFor src.length) : Grammar src).fuel = src.length + 2 :=
    Grammar.level_fuel _ _
  simp only [readItems, Bool.false_eq_true, if_false, ht, hissues, List.filter_nil, List.head?_nil, hg]
  rw [hrun]
  simp only [hu.issue]
  exact ⟨_, rfl, his⟩

/-- A text that spells the signs of items is parsed as these. -/
theorem exists_parseModule_of_spells {code id : String} {y : Sign} {b : Bool} {ys : Signs}
    {hs : List (Item Leaves.host)} (hcode : sourceOf code = src) (hbody : bodyOf src = src)
    (hhash : src.head? ≠ some '#') (hspells : Spells src ((y, b) :: ys)) (hlen : hs.length < src.length + 2)
    (h : Grammar.ReadsItems (Grammar.level (src.length + 2) (Grammar.depthFor src.length) : Grammar src)
      (byteSize src) ((y, true) :: ys) hs) :
    ∃ m, parseModule code id = .ok m ∧ m.withoutSpans.items = hs := by
  obtain ⟨r, hr, his⟩ := exists_readItems_of_spells hspells hlen h
  have hhash : (src.head? == some '#') = false := beq_eq_false_iff_ne.mpr hhash
  have hbody : bodyOf (sourceOf code) = src := by rw [hcode, hbody]
  simp only [parseModule, parse, hcode, hhash]
  generalize bodyOf (sourceOf code) = body at hbody ⊢
  subst hbody
  simp only [hr]
  refine ⟨_, rfl, ?_⟩
  rw [← his, Module.withoutSpans, Module.map, List.map_map]
  rfl

end LazyStyles.Syntax
