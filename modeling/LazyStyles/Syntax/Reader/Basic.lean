import LazyStyles.Syntax.Source

/-!
# Reading a source

A reader walks along the tokens of a source.  It may fail with an issue, which ends the reading, or report
one and go on; of the reported issues the first is kept (`State.issue?`), and a source with one is refused
in the end all the same.  What is allowed where the reader stands is its `Context`.

A token that could not be read is no reason to fail until something is wanted of it: whoever then fails,
fails for the token's own reason (`fail`).
-/

namespace LazyStyles.Syntax

/-- What holds where a reader stands. -/
structure Context where
  isModule : Bool
  isStrict : Bool
  inAsync : Bool
  inGenerator : Bool
  inFunction : Bool
  inParameters : Bool
  inField : Bool
  inStaticBlock : Bool
  /-- Whether some function around may be called by `new`. -/
  hasNewTarget : Bool
  allowsSuper : Bool
  /-- Whether `in` is an operator here, and does not end the head of a loop. -/
  allowsIn : Bool
  allowsBreak : Bool
  allowsContinue : Bool
  labels : List String

namespace Context

/-- Where a module or a script begins. -/
def initial (isModule : Bool) : Context where
  isModule := isModule
  isStrict := isModule
  inAsync := false
  inGenerator := false
  inFunction := false
  inParameters := false
  inField := false
  inStaticBlock := false
  hasNewTarget := false
  allowsSuper := false
  allowsIn := true
  allowsBreak := false
  allowsContinue := false
  labels := []

/-- Whether a word may not stand for a name. -/
def reserves (c : Context) (w : String) : Bool :=
  keywords.contains w || (w == "let" && c.isStrict) ||
    (w == "await" && (c.inAsync || c.inStaticBlock || c.isStrict)) ||
    (w == "yield" && (c.inGenerator || c.isStrict)) || (futureWords.contains w && c.isStrict)

/-- Whether a flaw of a lexeme is a fault here. -/
def minds (c : Context) : Fault → Bool
  | .htmlComment => c.isModule
  | .legacyOctal | .legacyDecimal => c.isStrict
  | _ => true

/-- Whether the code is that of a module, all of which is strict. -/
def IsModular (c : Context) : Prop :=
  c.isModule = true ∧ c.isStrict = true

theorem initial_isModular : (initial true).IsModular := ⟨rfl, rfl⟩

/-- In a module the same words are reserved everywhere. -/
theorem IsModular.reserves_eq {c : Context} (hc : c.IsModular) : c.reserves = (initial true).reserves := by
  obtain ⟨hm, hs⟩ := hc
  funext w
  simp [reserves, hs, initial]

/-- In a module every flaw is a fault. -/
theorem IsModular.minds_eq {c : Context} (hc : c.IsModular) (f : Fault) : c.minds f = true := by
  obtain ⟨hm, hs⟩ := hc
  cases f <;> simp [minds, hm, hs]

end Context

/-- Where a reader stands. -/
structure State (src : List Char) where
  token : Token src
  start : Place src
  stop : Place src
  isOnNewLine : Bool
  /-- The token before. -/
  previous : Extent src
  /-- The first issue that has been reported. -/
  issue? : Option (Issue src)
  /-- The commas before a closing bracket, each with the start of its array or object. -/
  finalCommas : List (Place src × Place src)

variable {src : List Char}

/-- Whether the token is the mark or the word `text`. -/
def Token.is (t : Token src) (text : String) : Bool :=
  match t with
  | .mark m => m == text
  | .word w => w.value.name == text
  | _ => false

/-- Whether the source has ended. -/
def Token.isFinish : Token src → Bool
  | .finish => true
  | _ => false

namespace State

/-- Whether the token is a module's and has been scanned without a flaw, unless an issue has been reported. -/
def IsSound (s : State src) : Prop :=
  s.issue? = none → ∃ atLineStart p,
    let t := Token.scan (Context.initial true).reserves atLineStart p
    s.token = t.token ∧ s.start = t.start ∧ t.issues = []

/-- Whether the reading of a module may lead from `s` to `t`: a reported issue stays, and so do sound
tokens. -/
structure Leads (s t : State src) : Prop where
  issue : t.issue? = none → s.issue? = none
  sound : s.IsSound → t.IsSound

namespace Leads

theorem refl (s : State src) : s.Leads s := ⟨id, id⟩

theorem trans {s t u : State src} (h : s.Leads t) (h' : t.Leads u) : s.Leads u :=
  ⟨h.issue ∘ h'.issue, h'.sound ∘ h.sound⟩

/-- Once an issue has been reported, nothing is asked of the tokens. -/
theorem of_issue {s t : State src} (h : t.issue?.isSome) : s.Leads t := by
  have h : t.issue? ≠ none := Option.isSome_iff_ne_none.mp h
  exact ⟨fun ht => absurd ht h, fun _ ht => absurd ht h⟩

end Leads

/-- The state with an issue, unless there has been one before. -/
def withIssue (s : State src) (i : Issue src) : State src :=
  { s with issue? := s.issue?.or (some i) }

theorem leads_withIssue (s : State src) (i : Issue src) : s.Leads (s.withIssue i) :=
  .of_issue (by simp [withIssue])

/-- The state at the next token, with its first flaw that the context minds as an issue. -/
def next (c : Context) (s : State src) : State src :=
  let t := Token.scan c.reserves false s.stop
  let found := t.issues.filter fun i => c.minds i.fault
  { s with
    token := t.token
    start := t.start
    stop := t.stop
    isOnNewLine := t.isOnNewLine || t.token.isFinish
    previous := ⟨s.start, s.stop⟩
    issue? := s.issue?.or found.head? }

theorem leads_next {c : Context} (hc : c.IsModular) (s : State src) : s.Leads (s.next c) where
  issue h := (Option.or_eq_none_iff.mp h).1
  sound _ h := by
    have hf := (Option.or_eq_none_iff.mp h).2
    simp only [List.head?_eq_none_iff, List.filter_eq_nil_iff, hc.minds_eq, not_true_eq_false] at hf
    refine ⟨false, s.stop, ?_⟩
    rw [← hc.reserves_eq]
    exact ⟨rfl, rfl, List.eq_nil_iff_forall_not_mem.mpr hf⟩

end State

/-- The state in which a run ends, well or not. -/
def stateAfter {α : Type} : EStateM.Result (Issue src) (State src) α → State src
  | .ok _ s => s
  | .error _ s => s

/-- What reads a part of a source.  By its construction no reader of a module takes an issue back or passes
a flawed token without one. -/
structure Reader (src : List Char) (α : Type) where
  run : Context → State src → EStateM.Result (Issue src) (State src) α
  leads : ∀ {c : Context}, c.IsModular → ∀ s : State src, s.Leads (stateAfter (run c s))

namespace Reader

instance : Monad (Reader src) where
  pure a := ⟨fun _ s => .ok a s, fun _ s => .refl s⟩
  bind r f :=
    { run := fun c s =>
        match r.run c s with
        | .ok a t => (f a).run c t
        | .error i t => .error i t
      leads := fun {c} hc s => by
        have h := r.leads hc s
        cases hr : r.run c s with
        | ok a t =>
          rw [hr] at h
          exact h.trans ((f a).leads hc t)
        | error i t =>
          rw [hr] at h
          exact h }

instance : MonadExcept (Issue src) (Reader src) where
  throw i := ⟨fun _ s => .error i s, fun _ s => .refl s⟩
  tryCatch r f :=
    { run := fun c s =>
        match r.run c s with
        | .ok a t => .ok a t
        | .error i t => (f i).run c t
      leads := fun {c} hc s => by
        have h := r.leads hc s
        cases hr : r.run c s with
        | ok a t =>
          rw [hr] at h
          exact h
        | error i t =>
          rw [hr] at h
          exact h.trans ((f i).leads hc t) }

/-- Where the reader stands. -/
def get : Reader src (State src) :=
  ⟨fun _ s => .ok s s, fun _ s => .refl s⟩

/-- What holds there. -/
def read : Reader src Context :=
  ⟨fun c s => .ok c s, fun _ s => .refl s⟩

/-- Reads in a changed context. -/
def within {α : Type} (change : Context → Context) (r : Reader src α)
    (isModular : ∀ c : Context, c.IsModular → (change c).IsModular := by
      intro c h; first | exact h | exact ⟨h.1, by simp [h.2]⟩) : Reader src α :=
  ⟨fun c s => r.run (change c) s, fun hc s => r.leads (isModular _ hc) s⟩

/-! ### Issues -/

/-- Keeps an issue, if it is the first. -/
def record (i : Issue src) : Reader src Unit :=
  ⟨fun _ s => .ok () (s.withIssue i), fun _ s => s.leads_withIssue i⟩

/-- Reports a fault and goes on. -/
def report (fault : Fault) (place : Place src) : Reader src Unit := do
  if let .broken i := (← get).token then record i
  record ⟨fault, place⟩

/-- Gives up for a fault, or for that of a token that could not be read. -/
def fail {α : Type} (fault : Fault) (place : Place src) : Reader src α := do
  match (← get).token with
  | .broken i => throw i
  | _ => throw ⟨fault, place⟩

/-- The start of the token, or of the one before if the source has ended. -/
def here : Reader src (Place src) := do
  let s ← get
  match s.token with
  | .finish => return s.previous.start
  | _ => return s.start

/-- Gives up for a fault of the token. -/
def failHere {α : Type} (fault : Fault) : Reader src α := do
  fail fault (← here)

/-- Gives up because the source has ended too early. -/
def failAtEnd {α : Type} : Reader src α :=
  throw ⟨.unexpectedEnd, .last⟩

/-! ### Moving on -/

/-- Goes on to the next token. -/
def next : Reader src Unit :=
  ⟨fun c s => .ok () (s.next c), fun hc s => s.leads_next hc⟩

/-- Passes a token that could not be read, if it is there. -/
def passBroken : Reader src Unit := do
  if (← get).token matches .broken _ then next

/-- Takes the current token to reach up to the place `p`. -/
def extend (p : Place src) : Reader src Unit :=
  ⟨fun _ s => .ok () { s with stop := p }, fun _ _ => ⟨id, id⟩⟩

/-- Goes on to the token after the place `p`, to which the current token has turned out to reach. -/
def nextFrom (p : Place src) : Reader src Unit := do
  extend p
  next

/-- Remembers the comma before the closing bracket of the array or object that starts at `start`. -/
def noteFinalComma (start comma : Place src) : Reader src Unit :=
  ⟨fun _ s => .ok () { s with finalCommas := (start, comma) :: s.finalCommas }, fun _ _ => ⟨id, id⟩⟩

/-- The token after the current one. -/
def lookahead : Reader src (Lexed src) := do
  let s ← get
  return Token.scan (← read).reserves false s.stop

/-- What has been read since `start`. -/
def extentFrom (start : Place src) : Reader src (Extent src) := do
  return ⟨start, (← get).previous.stop⟩

/-! ### Looking at the token -/

def tokenIs (text : String) : Reader src Bool := do
  return (← get).token.is text

def isFinished : Reader src Bool := do
  return (← get).token.isFinish

/-- Whether the token starts a line, or the source has ended. -/
def isOnNewLine : Reader src Bool := do
  return (← get).isOnNewLine

/-- Passes the mark or the word `text`, if it is there. -/
def eat (text : String) : Reader src Bool := do
  if ← tokenIs text then
    next
    return true
  else return false

/-- Passes the mark or the word `text`, which has to be there. -/
def expect (text : String) : Reader src Unit := do
  let t := (← get).token
  if t.is text then next else failHere (.expected text t.text)

/-- As `expect`, where an end of the source is a fault of its own. -/
def expectInside (text : String) : Reader src Unit := do
  if ← isFinished then failAtEnd else expect text

/-- Gives up because something else is wanted. -/
def unexpected {α : Type} (wanted : String) : Reader src α := do
  let t := (← get).token
  if t.isFinish then failAtEnd else failHere (.unexpectedToken t.text wanted)

/-- Whether a statement may end here. -/
def atStatementEnd : Reader src Bool := do
  let s ← get
  return s.token.is ";" || s.token.is "\x7d" || s.isOnNewLine

/-- Passes the end of a statement, if it is here: a semicolon, or nothing before a brace, on a new line
or at the end. -/
def eatStatementEnd : Reader src Bool := do
  if ← eat ";" then return true else atStatementEnd

/-- Passes the end of a statement, which has to be here. -/
def expectStatementEnd : Reader src Unit := do
  if !(← eatStatementEnd) then failHere (.expected ";" (← get).token.text)

/-! ### Contexts and lists -/

/-- Reads with or without `in` as an operator. -/
def withIn {α : Type} (allowed : Bool) (r : Reader src α) : Reader src α :=
  within (fun c => { c with allowsIn := allowed }) r

/-- Reads one after the other until `isDone`, at most `fuel` of them. -/
def many {α : Type} (isDone : Reader src Bool) (item : Reader src α) : (fuel : Nat) → Reader src (List α)
  | 0 => failHere .tooDeep
  | fuel + 1 => do
    if ← isDone then return []
    let a ← item
    let as ← many isDone item fuel
    return a :: as

end Reader

end LazyStyles.Syntax
