import LazyStyles.Syntax.Lexeme

/-!
# Trivia

What stands between two tokens: white space and comments.  The HTML-like comments `<!--` and, at the start
of a line, `-->` count as comments of one line; a module is at fault for them.
-/

namespace LazyStyles.Syntax

/-- What trivia is being read. -/
inductive TriviaState where
  | blank | lineComment | blockComment
deriving DecidableEq, Repr

/-- Reads trivia on from `offset`; `broken` tells whether a line has ended since the last token. -/
def triviaFrom : TriviaState → (broken : Bool) → (offset : Nat) → List Char → Reading Bool
  | .blank, b, n, '/' :: '/' :: s => triviaFrom .lineComment b (n + 2) s
  | .blank, b, n, '/' :: '*' :: s => triviaFrom .blockComment b (n + 2) s
  | .blank, b, n, '<' :: '!' :: '-' :: '-' :: s =>
    let r := triviaFrom .lineComment b (n + 4) s
    ⟨r.value, r.length, ⟨n, .htmlComment⟩ :: r.flaws⟩
  | .blank, true, n, '-' :: '-' :: '>' :: s =>
    let r := triviaFrom .lineComment true (n + 3) s
    ⟨r.value, r.length, ⟨n, .htmlComment⟩ :: r.flaws⟩
  | .blank, b, n, c :: s =>
    if Text.isSpace c then triviaFrom .blank (b || Text.isLineTerminator c) (n + 1) s
    else ⟨b, n, []⟩
  | .blank, b, n, [] => ⟨b, n, []⟩
  | .lineComment, b, n, c :: s =>
    if Text.isLineTerminator c then triviaFrom .blank true (n + 1) s
    else triviaFrom .lineComment b (n + 1) s
  | .lineComment, b, n, [] => ⟨b, n, []⟩
  | .blockComment, b, n, '*' :: '/' :: s => triviaFrom .blank b (n + 2) s
  | .blockComment, b, n, c :: s =>
    triviaFrom .blockComment (b || Text.isLineTerminator c) (n + 1) s
  | .blockComment, b, n, [] => ⟨b, n, [⟨n, .unterminatedComment⟩]⟩

/-- Reads the trivia at the front of a text: whether a line ends in it, and its length. -/
def scanTrivia (atLineStart : Bool) (s : List Char) : Reading Bool :=
  triviaFrom .blank atLineStart 0 s

end LazyStyles.Syntax
