/-!
# Byte streams

Requests arrive and replies leave as bytes, and JSON is read from and written
to them. A stream is a list of octets, so that cutting, joining and counting it
are the list operations.

* `Bytes.ofString` and `Bytes.toString?`: the UTF-8 form of a text, and the text
  of a stream that is valid UTF-8;
* `Bytes.toString?_ofString`: the second undoes the first;
* `Bytes.trimEnd`: a stream without its trailing ASCII whitespace.
-/

namespace Testbed

/-- A stream of octets, or a piece of one. -/
abbrev Bytes := List UInt8

namespace Bytes

/-- The UTF-8 form of a text. -/
def ofString (s : String) : Bytes := s.toUTF8.data.toList

/-- The text of a stream, if the stream is valid UTF-8. -/
def toString? (b : Bytes) : Option String := String.fromUTF8? ⟨b.toArray⟩

theorem toString?_ofString (s : String) : toString? (ofString s) = some s := by
  have h : (⟨(ofString s).toArray⟩ : ByteArray) = s.toUTF8 := by simp [ofString]
  rw [toString?, h, String.fromUTF8?]
  simp only [String.toUTF8_eq_toByteArray, s.isValidUTF8, dite_true]
  rfl

theorem ofString_inj {s t : String} (h : ofString s = ofString t) : s = t := by
  have := toString?_ofString s
  rw [h, toString?_ofString] at this
  exact (Option.some.inj this).symm

/-- The line feed, which ends a line. -/
def lineFeed : UInt8 := 10

/-- ASCII whitespace: space, tab, line feed, form feed, carriage return. -/
def isAsciiSpace (b : UInt8) : Bool :=
  b == 32 || b == 9 || b == 10 || b == 12 || b == 13

/-- A stream without the ASCII whitespace at its end. -/
def trimEnd (b : Bytes) : Bytes := (b.reverse.dropWhile isAsciiSpace).reverse

/-- A stream of ASCII whitespace only, the empty one included. -/
def isBlank (b : Bytes) : Bool := b.all isAsciiSpace

/-- A decimal digit in ASCII. -/
def isDigit (b : UInt8) : Bool := 48 ≤ b && b ≤ 57

/-- The value of an ASCII digit. -/
def digitValue (b : UInt8) : Nat := b.toNat - 48

/-- Lexicographic order on streams, as a decision. -/
def le : Bytes → Bytes → Bool
  | [], _ => true
  | _ :: _, [] => false
  | a :: as, b :: bs => a < b || (a == b && le as bs)

end Bytes

end Testbed
