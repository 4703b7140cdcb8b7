import LazyStyles.Text.Class

/-!
# Quoted text

The spelling of a character or a text inside a message: between quotes, with the quote, the backslash
and everything that does not print escaped.
-/

namespace LazyStyles.Text

/-- The digits of `n` in base sixteen, lower case, without leading zeros. -/
def hexDigits (n : Nat) : String :=
  String.ofList (Nat.toDigits 16 n)

/-- One character of a quoted text whose quote is `quote`. -/
def quotedChar (quote c : Char) : String :=
  if c == '\x00' then "\\0"
  else if c == '\t' then "\\t"
  else if c == '\r' then "\\r"
  else if c == '\n' then "\\n"
  else if c == quote || c == '\\' then String.ofList ['\\', c]
  else
    let printable :=
      if c.toNat < 128 then 32 ≤ c.toNat && c.toNat < 127
      else !inRanges graphemeExtend c && !inRanges unprintable c
    if printable then c.toString else "\\u\x7b" ++ hexDigits c.toNat ++ "\x7d"

/-- `c` between single quotes. -/
def quoteChar (c : Char) : String :=
  "'" ++ quotedChar '\'' c ++ "'"

/-- `s` between double quotes. -/
def quote (s : String) : String :=
  "\"" ++ String.join (s.toList.map (quotedChar '"')) ++ "\""

end LazyStyles.Text
