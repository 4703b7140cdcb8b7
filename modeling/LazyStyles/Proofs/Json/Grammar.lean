import LazyStyles.Json.Reader

/-!
# The grammar of JSON

Which texts denote a value, rule by rule and without a reader (`Json.IsText`).  White space may stand around every
value, colon and comma.  A string denotes characters, so a `\u` escape names a character or, together with a second
one, the two halves of a surrogate pair; a lone half has no place in it.  Numbers and truth values are left out, as no
config holds any.
-/

namespace LazyStyles.Json

/-- Whether a text is white space. -/
def IsGap (s : List Char) : Prop :=
  ∀ c ∈ s, isGap c = true

/-! ### Strings -/

/-- The hexadecimal digit of a number below sixteen, in either case. -/
inductive IsHexDigit (c : Char) : Nat → Prop
  | decimal {n : Nat} (hn : n < 10) (hc : c.toNat = '0'.toNat + n) : IsHexDigit c n
  | lower {n : Nat} (hn : n < 6) (hc : c.toNat = 'a'.toNat + n) : IsHexDigit c (n + 10)
  | upper {n : Nat} (hn : n < 6) (hc : c.toNat = 'A'.toNat + n) : IsHexDigit c (n + 10)

/-- Four hexadecimal digits and the number that they write. -/
inductive IsCodeUnit : List Char → Nat → Prop
  | mk {a b c d : Char} {i j k l : Nat} (ha : IsHexDigit a i) (hb : IsHexDigit b j) (hc : IsHexDigit c k)
    (hd : IsHexDigit d l) : IsCodeUnit [a, b, c, d] (((i * 16 + j) * 16 + k) * 16 + l)

/-- The letters that may follow a backslash by themselves, and what they stand for. -/
def shortEscapes : List (Char × Char) :=
  [('"', '"'), ('\\', '\\'), ('/', '/'), ('b', '\x08'), ('f', '\x0c'), ('n', '\n'), ('r', '\r'), ('t', '\t')]

/-- A character in a string, as it may be written. -/
inductive SpellsChar : List Char → Char → Prop
  /-- By itself, unless it is a control character or means something else. -/
  | plain {c : Char} (hcontrol : 0x20 ≤ c.toNat) (hquote : c ≠ '"') (hback : c ≠ '\\') : SpellsChar [c] c
  | letter {l c : Char} (h : (l, c) ∈ shortEscapes) : SpellsChar ['\\', l] c
  | number {ds : List Char} {c : Char} (h : IsCodeUnit ds c.toNat) : SpellsChar ('\\' :: 'u' :: ds) c
  /-- By the two halves of its surrogate pair. -/
  | pair {hs ls : List Char} {high low : Nat} {c : Char} (hhigh : IsCodeUnit hs high) (hlow : IsCodeUnit ls low)
    (hisHigh : 0xD800 ≤ high ∧ high ≤ 0xDBFF) (hisLow : 0xDC00 ≤ low ∧ low ≤ 0xDFFF)
    (hc : c.toNat = 0x10000 + (high - 0xD800) * 0x400 + (low - 0xDC00)) :
    SpellsChar ('\\' :: 'u' :: (hs ++ '\\' :: 'u' :: ls)) c

/-- The characters between the quotes of a string. -/
inductive SpellsChars : List Char → List Char → Prop
  | nil : SpellsChars [] []
  | cons {w u : List Char} {c : Char} {cs : List Char} (hc : SpellsChar w c) (hcs : SpellsChars u cs) :
    SpellsChars (w ++ u) (c :: cs)

/-- A string with its quotes. -/
inductive SpellsString : List Char → String → Prop
  | mk {w cs : List Char} (h : SpellsChars w cs) : SpellsString ('"' :: (w ++ ['"'])) (String.ofList cs)

/-! ### Lists -/

/-- What may stand in front of an item of a list: white space, and a comma in it unless the item is the first. -/
inductive IsSeparator : Bool → List Char → Prop
  | gap {g : List Char} (hg : IsGap g) : IsSeparator true g
  | comma {g h : List Char} (hg : IsGap g) (hh : IsGap h) : IsSeparator false (g ++ ',' :: h)

/-- The items of a list, up to what closes it, or what is left of them after those before. -/
inductive SpellsItems {α : Type} (P : List Char → α → Prop) : Bool → List Char → List α → Prop
  | nil {first : Bool} {g : List Char} (hg : IsGap g) : SpellsItems P first g []
  | cons {first : Bool} {g w u : List Char} {x : α} {xs : List α} (hg : IsSeparator first g) (hx : P w x)
    (hxs : SpellsItems P false u xs) : SpellsItems P first (g ++ (w ++ u)) (x :: xs)

/-! ### Values -/

mutual

/-- A value without white space around it. -/
inductive Spells : List Char → Json → Prop
  | null : Spells "null".toList .null
  | string {w : List Char} {s : String} (h : SpellsString w s) : Spells w (.string s)
  | array {w : List Char} {xs : List Json} (h : SpellsItems Spells true w xs) : Spells ('[' :: (w ++ [']'])) (.array xs)
  | object {w : List Char} {ms : List (String × Json)} (h : SpellsItems SpellsMember true w ms) :
    Spells ('\x7b' :: (w ++ ['\x7d'])) (.object ms)

/-- A key and its value. -/
inductive SpellsMember : List Char → String × Json → Prop
  | mk {k g h w : List Char} {key : String} {v : Json} (hk : SpellsString k key) (hg : IsGap g) (hh : IsGap h)
    (hv : Spells w v) : SpellsMember (k ++ (g ++ ':' :: (h ++ w))) (key, v)

end

/-- Whether a text denotes a value, with white space around it. -/
def IsText (s : List Char) (v : Json) : Prop :=
  ∃ g w h, IsGap g ∧ IsGap h ∧ Spells w v ∧ s = g ++ (w ++ h)

end LazyStyles.Json
