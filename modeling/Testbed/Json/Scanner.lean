import Testbed.Text.Utf8
import Testbed.Json.Fault
import Testbed.Json.Number

/-!
# Lexemes of JSON

What a reader of JSON takes from the front of a text: blanks, words, numbers and
strings. Each function returns what it read and what remains, or the fault at
which it stops.

* `scanNumber`: a number; one without fraction or exponent that fits 64 bits is an
  integer, every other one a floating-point number;
* `scanString`: the characters of a string after its opening quote;
* `skipString`: the same without looking at what the characters are.
-/

namespace Testbed.Json

open Testbed.Decimal

/-- What a reader returns: a result with the rest of the text, or a fault. -/
abbrev Scan (α : Type) := Except Fault (α × Bytes)

/-- Space, tab, line feed and carriage return. -/
def isBlank (b : UInt8) : Bool := b == 32 || b == 9 || b == 10 || b == 13

/-- A text from its first octet that is not blank. -/
def skipBlanks (s : Bytes) : Bytes := s.dropWhile isBlank

/-- Reads the octets of a word, `null` for instance, after its first one. -/
def scanWord : (word : Bytes) → Bytes → Except Fault Bytes
  | [], s => .ok s
  | _ :: _, [] => .error (.here .endInValue [])
  | w :: ws, b :: s => if b = w then scanWord ws s else .error (.here .expectedIdent s)

/-! ## Numbers -/

/-- The greatest significand that is kept; digits beyond it are dropped. -/
def maxSignificand : Nat := 18446744073709551615

/-- The greatest exponent that is read digit by digit. -/
def maxExponent : Nat := 2147483647

/-- A floating-point number from its parts. -/
def assemble (negative : Bool) (significand : Nat) (exponent : Int) (s : Bytes) : Scan Number :=
  match Double.ofDecimal? significand exponent with
  | some x => .ok (.float (if negative then x.neg else x), s)
  | none => .error (.here .numberOutOfRange s)

/-- The digits of an exponent after the first one. Nothing stands for an exponent that
    is too great to read. -/
def scanExponentDigits : (exponent : Nat) → Bytes → Option Nat × Bytes
  | e, [] => (some e, [])
  | e, b :: s =>
    if Bytes.isDigit b then
      let e' := e * 10 + Bytes.digitValue b
      if maxExponent < e' then (none, s) else scanExponentDigits e' s
    else (some e, b :: s)

/-- The part of a number after the letter `e`. -/
def scanExponent (negative : Bool) (significand : Nat) (exponent : Int) (s : Bytes) :
    Scan Number :=
  let (down, s) : Bool × Bytes :=
    match s with
    | 43 :: r => (false, r)
    | 45 :: r => (true, r)
    | _ => (false, s)
  match s with
  | [] => .error (.here .endInValue [])
  | b :: s =>
    if Bytes.isDigit b then
      match scanExponentDigits (Bytes.digitValue b) s with
      | (some e, s) => assemble negative significand (if down then exponent - e else exponent + e) s
      | (none, s) =>
        if significand ≠ 0 ∧ ¬down then .error (.here .numberOutOfRange s)
        else
          let zero := if negative then Double.zero.neg else Double.zero
          .ok (.float zero, s.dropWhile Bytes.isDigit)
    else .error (.here .invalidNumber s)

/-- What follows the digits of a fraction. -/
def finishDecimal (negative : Bool) (significand : Nat) (exponent : Int) : Bytes → Scan Number
  | [] => assemble negative significand exponent []
  | b :: s =>
    if b = 101 ∨ b = 69 then scanExponent negative significand exponent s
    else assemble negative significand exponent (b :: s)

/-- The digits of a fraction, of which `places` have been read. -/
def scanFraction (negative : Bool) : (significand : Nat) → (exponent : Int) → (places : Nat) →
    Bytes → Scan Number
  | _, _, 0, [] => .error (.next .endInValue [])
  | m, e, _ + 1, [] => assemble negative m e []
  | m, e, places, b :: s =>
    if Bytes.isDigit b then
      let m' := m * 10 + Bytes.digitValue b
      if maxSignificand < m' then
        -- Further digits would not change the significand: they are skipped.
        finishDecimal negative m e (s.dropWhile Bytes.isDigit)
      else scanFraction negative m' (e - 1) (places + 1) s
    else if places = 0 then .error (.next .invalidNumber (b :: s))
    else finishDecimal negative m e (b :: s)

/-- The digits of a whole number beyond the greatest significand. -/
def scanLongInteger (negative : Bool) (significand : Nat) : (exponent : Nat) → Bytes → Scan Number
  | e, [] => assemble negative significand e []
  | e, b :: s =>
    if Bytes.isDigit b then scanLongInteger negative significand (e + 1) s
    else if b = 46 then scanFraction negative significand e 0 s
    else if b = 101 ∨ b = 69 then scanExponent negative significand e s
    else assemble negative significand e (b :: s)

/-- A whole number; `-0` and a negative number below the signed 64-bit range are
    floating-point numbers. -/
def wholeNumber (negative : Bool) (significand : Nat) : Number :=
  if negative then
    if h : 0 < significand ∧ significand ≤ 9223372036854775808 then
      .integer (-(significand : Int)) ⟨by omega, by omega⟩
    else .float (Double.ofNat significand).neg
  else .ofNat significand

/-- What follows the digits of a whole number. -/
def finishInteger (negative : Bool) (significand : Nat) : Bytes → Scan Number
  | [] => .ok (wholeNumber negative significand, [])
  | b :: s =>
    if b = 46 then scanFraction negative significand 0 0 s
    else if b = 101 ∨ b = 69 then scanExponent negative significand 0 s
    else .ok (wholeNumber negative significand, b :: s)

/-- The digits of a whole number after the first one. -/
def scanDigits (negative : Bool) : (significand : Nat) → Bytes → Scan Number
  | m, [] => finishInteger negative m []
  | m, b :: s =>
    if Bytes.isDigit b then
      let m' := m * 10 + Bytes.digitValue b
      if maxSignificand < m' then scanLongInteger negative m 1 s
      else scanDigits negative m' s
    else finishInteger negative m (b :: s)

/-- A number after its sign. -/
def scanNumber (negative : Bool) : Bytes → Scan Number
  | [] => .error (.here .endInValue [])
  | b :: s =>
    if b = 48 then
      match s with
      | c :: _ =>
        if Bytes.isDigit c then .error (.next .invalidNumber s) else finishInteger negative 0 s
      | [] => finishInteger negative 0 []
    else if Bytes.isDigit b then scanDigits negative (Bytes.digitValue b) s
    else .error (.here .invalidNumber s)

/-! ## Strings -/

/-- The value of a hexadecimal digit. -/
def hexValue? (b : UInt8) : Option Nat :=
  if Bytes.isDigit b then some (b.toNat - 48)
  else if 97 ≤ b && b ≤ 102 then some (b.toNat - 87)
  else if 65 ≤ b && b ≤ 70 then some (b.toNat - 55)
  else none

/-- Four hexadecimal digits. -/
def scanHex : Bytes → Scan Nat
  | a :: b :: c :: d :: s =>
    match hexValue? a, hexValue? b, hexValue? c, hexValue? d with
    | some a, some b, some c, some d => .ok (a * 4096 + b * 256 + c * 16 + d, s)
    | _, _, _, _ => .error (.here .invalidEscape s)
  | _ => .error (.here .endInString [])

/-- The octet that an escape letter stands for. -/
def unescapeLetter? (b : UInt8) : Option UInt8 :=
  if b = 34 then some 34
  else if b = 92 then some 92
  else if b = 47 then some 47
  else if b = 98 then some 8
  else if b = 102 then some 12
  else if b = 110 then some 10
  else if b = 114 then some 13
  else if b = 116 then some 9
  else none

/-- The second half of a surrogate pair, after its first half `high`. -/
def scanLowSurrogate (high : Nat) : Bytes → Scan Nat
  | [] => .error (.here .endInString [])
  | 92 :: s =>
    match s with
    | [] => .error (.here .endInString [])
    | 117 :: s =>
      match scanHex s with
      | .error f => .error f
      | .ok (low, s) =>
        if 0xDC00 ≤ low ∧ low ≤ 0xDFFF then
          .ok ((high - 0xD800) * 1024 + (low - 0xDC00) + 0x10000, s)
        else .error (.here .loneSurrogate s)
    | _ :: s => .error (.here .unexpectedEndOfHexEscape s)
  | _ :: s => .error (.here .unexpectedEndOfHexEscape s)

/-- The code point of a `\u` escape, after those two characters. -/
def scanCodePoint (s : Bytes) : Scan Nat :=
  match scanHex s with
  | .error f => .error f
  | .ok (n, s) =>
    if 0xDC00 ≤ n ∧ n ≤ 0xDFFF then .error (.here .loneSurrogate s)
    else if 0xD800 ≤ n ∧ n ≤ 0xDBFF then scanLowSurrogate n s
    else .ok (n, s)

/-- What an escape stands for, after its backslash. -/
def scanEscape : Bytes → Scan Bytes
  | [] => .error (.here .endInString [])
  | 117 :: s =>
    match scanCodePoint s with
    | .error f => .error f
    | .ok (n, s) => .ok (String.utf8EncodeChar (Char.ofNat n), s)
  | b :: s =>
    match unescapeLetter? b with
    | some c => .ok ([c], s)
    | none => .error (.here .invalidEscape s)

/-- The octets of a string up to its closing quote, pushed onto those read so far, in
    at most `fuel` steps. -/
def scanOctets : (fuel : Nat) → (read : Bytes) → Bytes → Scan Bytes
  | 0, _, _ => .error (.here .endInString [])
  | _ + 1, _, [] => .error (.here .endInString [])
  | fuel + 1, read, b :: s =>
    if b = 34 then .ok (read, s)
    else if b = 92 then
      match scanEscape s with
      | .ok (c, s) => scanOctets fuel (c.reverseAux read) s
      | .error f => .error f
    else if b < 0x20 then .error (.here .controlCharacter s)
    else scanOctets fuel (b :: read) s

/-- A string after its opening quote. One that is not UTF-8 is refused at the end of
    its longest valid beginning. -/
def scanString (s : Bytes) : Scan String :=
  match scanOctets (s.length + 1) [] s with
  | .error f => .error f
  | .ok (read, rest) =>
    let octets := read.reverse
    match Bytes.toString? octets with
    | some text => .ok (text, rest)
    | none =>
      .error ⟨.invalidCodePoint, rest, octets.length - Text.Utf8.validLength octets⟩

/-- What remains after the closing quote of a string of which nothing is kept. -/
def skipOctets : (fuel : Nat) → Bytes → Except Fault Bytes
  | 0, _ => .error (.here .endInString [])
  | _ + 1, [] => .error (.here .endInString [])
  | fuel + 1, b :: s =>
    if b = 34 then .ok s
    else if b = 92 then
      match s with
      | [] => .error (.here .endInString [])
      | 117 :: s =>
        match scanHex s with
        | .ok (_, s) => skipOctets fuel s
        | .error f => .error f
      | c :: s =>
        match unescapeLetter? c with
        | some _ => skipOctets fuel s
        | none => .error (.here .invalidEscape s)
    else if b < 0x20 then .error (.here .controlCharacter s)
    else skipOctets fuel s

/-- Skips a string after its opening quote. -/
def skipString (s : Bytes) : Except Fault Bytes := skipOctets (s.length + 1) s

end Testbed.Json
