import LazyStyles.Decimal.Binary

/-!
# JSON values

The values that a JSON text denotes.  A number is an integer if its text is one and it fits into 64
bits, else a floating point number; minus zero is a floating point number.
-/

namespace LazyStyles

/-- A JSON value; the members of an object stand in the order of the text. -/
inductive Json where
  | null
  | bool (b : Bool)
  | integer (i : Int)
  | float (negative : Bool) (magnitude : Decimal.Binary)
  | string (s : String)
  | array (elements : List Json)
  | object (members : List (String × Json))

namespace Json

/-- Why a text is not a JSON value. -/
inductive Fault where
  | eofInValue
  | eofInArray
  | eofInObject
  | eofInString
  | expectedValue
  | expectedIdent
  | expectedColon
  | expectedCommaOrBracket
  | expectedCommaOrBrace
  | trailingComma
  | trailingCharacters
  | keyMustBeString
  | invalidNumber
  | numberOutOfRange
  | invalidEscape
  | endOfHexEscape
  | loneSurrogate
  | controlCharacter
  | tooDeep
deriving DecidableEq, Repr

/-- The wording of a fault. -/
def Fault.message : Fault → String
  | eofInValue => "EOF while parsing a value"
  | eofInArray => "EOF while parsing a list"
  | eofInObject => "EOF while parsing an object"
  | eofInString => "EOF while parsing a string"
  | expectedValue => "expected value"
  | expectedIdent => "expected ident"
  | expectedColon => "expected `:`"
  | expectedCommaOrBracket => "expected `,` or `]`"
  | expectedCommaOrBrace => "expected `,` or `\x7d`"
  | trailingComma => "trailing comma"
  | trailingCharacters => "trailing characters"
  | keyMustBeString => "key must be a string"
  | invalidNumber => "invalid number"
  | numberOutOfRange => "number out of range"
  | invalidEscape => "invalid escape"
  | endOfHexEscape => "unexpected end of hex escape"
  | loneSurrogate => "lone leading surrogate in hex escape"
  | controlCharacter => "control character (\\u0000-\\u001F) found while parsing a string"
  | tooDeep => "recursion limit exceeded"

end Json

end LazyStyles
