import Testbed.Bytes
import Testbed.Json.Value

/-!
# Writing JSON

The compact form: no blanks, entries in insertion order. In strings only the
quote, the backslash and the control characters below `U+0020` are escaped, the
common ones with a letter and the others as `\u00xx`; every other character
stands for itself, in UTF-8. So a written value never holds a line feed.

The writer pushes octets onto the output written so far, last octet first, so
that writing takes one pass however long the value is.
-/

namespace Testbed.Json

/-- The hexadecimal digit of a number below sixteen, in lower case. -/
def hexDigit (n : Nat) : UInt8 := if n < 10 then UInt8.ofNat (48 + n) else UInt8.ofNat (87 + n)

/-- The letter that escapes an octet, if it has one. -/
def escapeLetter? (b : UInt8) : Option UInt8 :=
  if b = 34 then some 34            -- "
  else if b = 92 then some 92       -- \
  else if b = 8 then some 98        -- b
  else if b = 12 then some 102      -- f
  else if b = 10 then some 110      -- n
  else if b = 13 then some 114      -- r
  else if b = 9 then some 116       -- t
  else none

/-- One octet of a string as written. -/
def escapeOctet (b : UInt8) : Bytes :=
  match escapeLetter? b with
  | some letter => [92, letter]
  | none =>
    if b < 0x20 then [92, 117, 48, 48, hexDigit (b.toNat / 16), hexDigit (b.toNat % 16)] else [b]

namespace Printer

/-- Pushes octets onto the output. -/
def push (s : Bytes) (out : Bytes) : Bytes := s.reverseAux out

/-- Pushes the octets of a string, escaped. -/
def pushEscaped : Bytes → (out : Bytes) → Bytes
  | [], out => out
  | b :: r, out => pushEscaped r (push (escapeOctet b) out)

/-- Pushes a string with its quotes. -/
def pushString (s : String) (out : Bytes) : Bytes :=
  34 :: pushEscaped (Bytes.ofString s) (34 :: out)

mutual

/-- Pushes a value. -/
def pushValue : Value → (out : Bytes) → Bytes
  | .null, out => push (Bytes.ofString "null") out
  | .boolean true, out => push (Bytes.ofString "true") out
  | .boolean false, out => push (Bytes.ofString "false") out
  | .number x, out => push (Bytes.ofString x.text) out
  | .string s, out => pushString s out
  | .array [], out => 93 :: 91 :: out
  | .array (v :: r), out => pushItems r (pushValue v (91 :: out))
  | .object [], out => 125 :: 123 :: out
  | .object ((k, v) :: r), out =>
    pushEntries r (pushValue v (58 :: pushString k (123 :: out)))

/-- Pushes the items after the first one, and the closing bracket. -/
def pushItems : List Value → (out : Bytes) → Bytes
  | [], out => 93 :: out
  | v :: r, out => pushItems r (pushValue v (44 :: out))

/-- Pushes the entries after the first one, and the closing brace. -/
def pushEntries : List (String × Value) → (out : Bytes) → Bytes
  | [], out => 125 :: out
  | (k, v) :: r, out => pushEntries r (pushValue v (58 :: pushString k (44 :: out)))

end

end Printer

/-- A value in compact form. -/
def Value.print (v : Value) : Bytes := (Printer.pushValue v []).reverse

/-- A value in compact form, as a text. What `print` writes is UTF-8. -/
def Value.text (v : Value) : String := (Bytes.toString? v.print).getD ""

end Testbed.Json
