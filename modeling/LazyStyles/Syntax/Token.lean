import LazyStyles.Syntax.StringLiteral
import LazyStyles.Syntax.NumericLiteral
import LazyStyles.Syntax.RegexLiteral
import LazyStyles.Syntax.Trivia

/-!
# Tokens

`Token.scan` reads the next token of a source.  A slash is always read as a mark here: only the reader of
expressions knows where a regular expression may start, and reads it again from the same place.  The same
goes for the text of templates.
-/

namespace LazyStyles.Syntax

variable {src : List Char}

/-- A fault and where it is. -/
structure Issue (src : List Char) where
  fault : Fault
  place : Place src

inductive Token (src : List Char) where
  | word (w : Lexeme scanWord src)
  /-- A punctuation mark or an operator that is no word. -/
  | mark (text : String)
  | str (s : Lexeme scanString src)
  | numeral (n : Lexeme scanNumeral src)
  /-- The end of the source. -/
  | finish
  /-- No token, for the reason given. -/
  | broken (i : Issue src)

/-- The marks, each before those that it starts with. -/
def marks : List String :=
  [">>>=", "...", "===", "!==", "**=", "<<=", ">>=", ">>>", "&&=", "||=", "??=", "=>", "==", "!=", "<=",
   ">=", "&&", "||", "??", "?.", "++", "--", "+=", "-=", "*=", "/=", "%=", "&=", "|=", "^=", "<<", ">>",
   "**", "\x7b", "\x7d", "(", ")", "[", "]", ";", ",", "<", ">", "+", "-", "*", "/", "%", "&", "|", "^",
   "!", "~", "?", ":", "=", ".", "@", "#", "`"]

/-- The longest mark at the front of `s`.  Before a digit, a question mark and a point are two. -/
def markOf? (s : List Char) : Option String :=
  match marks.find? fun m => m.toList.isPrefixOf s with
  | some "?." => some (if (s.drop 2).head?.any Char.isDigit then "?" else "?.")
  | m => m

/-- The kinds of tokens. -/
inductive TokenKind where
  | word | str | numeral
  | mark (first : Char)
deriving DecidableEq, Repr

/-- The kind of the token at the front of a text, which its first character tells, or the second if that is
a point. -/
def tokenKind? : List Char → Option TokenKind
  | [] => none
  | c :: s =>
    if Text.opensIdentifier c || c = '\\' then some .word
    else if c = '"' || c = '\'' then some .str
    else if c.isDigit || (c = '.' && s.head?.any Char.isDigit) then some .numeral
    else some (.mark c)

/-- A token with the place where it starts and what has been found on the way. -/
structure Lexed (src : List Char) where
  token : Token src
  start : Place src
  stop : Place src
  /-- Whether a line ends between the last token and this one. -/
  isOnNewLine : Bool
  /-- The faults that leave the token readable, those of the trivia before it included. -/
  issues : List (Issue src)

namespace Token

/-- The issues of flaws in what starts at `p`. -/
def issuesAt (p : Place src) (flaws : List Flaw) : List (Issue src) :=
  flaws.map fun f => ⟨f.fault, p.advance f.offset⟩

/-- No token at `p`. -/
def unreadable (p : Place src) (f : Flaw) : Token src × Place src × List (Issue src) :=
  (.broken ⟨f.fault, p.advance f.offset⟩, p.advance 1, [])

/-- The token that starts at `p`, where it ends and its flaws; `reserved` are the words that may not be
spelled with escapes. -/
def scanAt (reserved : String → Bool) (p : Place src) : Token src × Place src × List (Issue src) :=
  match tokenKind? p.rest with
  | none => (.finish, p, [])
  | some .word =>
    match h : scanWord p.rest with
    | .error f => unreadable p f
    | .ok r =>
      if r.value.isEscaped && reserved r.value.name then
        unreadable p ⟨0, .escapedReservedWord r.value.name⟩
      else (.word ⟨p, r, h⟩, p.advance r.length, issuesAt p r.flaws)
  | some .str =>
    match h : scanString p.rest with
    | .error f => unreadable p f
    | .ok r => (.str ⟨p, r, h⟩, p.advance r.length, issuesAt p r.flaws)
  | some .numeral =>
    match h : scanNumeral p.rest with
    | .error f => unreadable p f
    | .ok r => (.numeral ⟨p, r, h⟩, p.advance r.length, issuesAt p r.flaws)
  | some (.mark c) =>
    match markOf? p.rest with
    | some m => (.mark m, p.advance m.length, [])
    | none => unreadable p ⟨0, .unexpectedCharacter c⟩

/-- The next token from `p` on. -/
def scan (reserved : String → Bool) (atLineStart : Bool) (p : Place src) : Lexed src :=
  let t := scanTrivia atLineStart p.rest
  let start := p.advance t.length
  let (token, stop, issues) := scanAt reserved start
  ⟨token, start, stop, t.value, issuesAt p t.flaws ++ issues⟩

/-- The token in a message. -/
def text : Token src → String
  | word w => w.value.name
  | mark m => m
  | str s => "string literal (" ++ s.value ++ ", " ++ String.ofList s.chars ++ ")"
  | numeral n =>
    let kind := match n.value with
      | .number _ => "numeric literal ("
      | .bigInt _ => "bigint literal ("
    kind ++ n.value.text ++ ", " ++ String.ofList n.chars ++ ")"
  | finish => "<eof>"
  | broken _ => "<error>"

end Token

end LazyStyles.Syntax
