import Testbed.Bytes

/-!
# Faults in JSON text

Why a text is not JSON, and where. A fault is found at a place, which is told by
what of the text remains there; `Fault.locate` counts lines from one and columns
from the last line feed before that place.
-/

namespace Testbed.Json

/-- Why a text is not JSON, or not the JSON that was asked for. -/
inductive Reason
  | endInValue
  | endInList
  | endInObject
  | endInString
  | expectedValue
  | expectedIdent
  | expectedColon
  | expectedListCommaOrEnd
  | expectedObjectCommaOrEnd
  | keyNotString
  | trailingComma
  | trailingCharacters
  | invalidNumber
  | numberOutOfRange
  | invalidEscape
  | invalidCodePoint
  | controlCharacter
  | loneSurrogate
  | unexpectedEndOfHexEscape
  | recursionLimit
  /-- The text is JSON, but not of the shape that was asked for. -/
  | shape (message : String)
  deriving DecidableEq, Repr

/-- The wording of a reason. -/
def Reason.text : Reason → String
  | endInValue => "EOF while parsing a value"
  | endInList => "EOF while parsing a list"
  | endInObject => "EOF while parsing an object"
  | endInString => "EOF while parsing a string"
  | expectedValue => "expected value"
  | expectedIdent => "expected ident"
  | expectedColon => "expected `:`"
  | expectedListCommaOrEnd => "expected `,` or `]`"
  | expectedObjectCommaOrEnd => "expected `,` or `\x7d`"
  | keyNotString => "key must be a string"
  | trailingComma => "trailing comma"
  | trailingCharacters => "trailing characters"
  | invalidNumber => "invalid number"
  | numberOutOfRange => "number out of range"
  | invalidEscape => "invalid escape"
  | invalidCodePoint => "invalid unicode code point"
  | controlCharacter => "control character (\\u0000-\\u001F) found while parsing a string"
  | loneSurrogate => "lone leading surrogate in hex escape"
  | unexpectedEndOfHexEscape => "unexpected end of hex escape"
  | recursionLimit => "recursion limit exceeded"
  | shape message => message

/-- A fault at a place in the text. -/
structure Fault where
  /-- What is wrong. -/
  reason : Reason
  /-- What of the text remains at the place. -/
  rest : Bytes
  /-- How many columns before that place the fault is reported. -/
  back : Nat
  deriving DecidableEq, Repr

namespace Fault

/-- A fault just after the last octet that was read. -/
def here (reason : Reason) (rest : Bytes) : Fault := ⟨reason, rest, 0⟩

/-- A fault at the next octet, which was looked at and not read. -/
def next (reason : Reason) (rest : Bytes) : Fault := ⟨reason, rest.tail, 0⟩

end Fault

/-- A fault with its line and column. -/
structure Located where
  /-- What is wrong. -/
  reason : Reason
  /-- The line, from one. -/
  line : Nat
  /-- The octets between the start of the line and the fault. -/
  column : Nat
  deriving DecidableEq, Repr

/-- The line and column reached after a beginning of a text. -/
def position (consumed : Bytes) : Nat × Nat :=
  (1 + consumed.count Bytes.lineFeed,
    (consumed.reverse.takeWhile (· != Bytes.lineFeed)).length)

/-- A fault found in `text`, with its line and column. -/
def Fault.locate (text : Bytes) (f : Fault) : Located :=
  let p := position (text.take (text.length - f.rest.length))
  ⟨f.reason, p.1, p.2 - f.back⟩

/-- The wording of a located fault. -/
def Located.text (f : Located) : String :=
  f.reason.text ++ " at line " ++ toString f.line ++ " column " ++ toString f.column

end Testbed.Json
