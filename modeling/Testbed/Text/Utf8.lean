import Testbed.Bytes

/-!
# Well-formed UTF-8

The octet ranges of RFC 3629: how many octets at the start of a stream form
whole characters. A reader that refuses a text reports where it stops being
UTF-8, which is the length of its longest valid beginning (`validLength`).
-/

namespace Testbed.Text.Utf8

open Testbed

/-- A continuation octet, `80`–`BF`. -/
def isTail (b : UInt8) : Bool := 0x80 ≤ b && b ≤ 0xBF

/-- The length of the well-formed character that a stream starts with, or zero. -/
def firstLength : Bytes → Nat
  | [] => 0
  | a :: r =>
    if a ≤ 0x7F then 1
    else match r with
      | b :: r' =>
        if 0xC2 ≤ a && a ≤ 0xDF then (if isTail b then 2 else 0)
        else match r' with
          | c :: r'' =>
            if 0xE0 ≤ a && a ≤ 0xEF then
              let low := if a = 0xE0 then 0xA0 else 0x80
              let high := if a = 0xED then 0x9F else 0xBF
              if low ≤ b && b ≤ high && isTail c then 3 else 0
            else match r'' with
              | d :: _ =>
                let low := if a = 0xF0 then 0x90 else 0x80
                let high := if a = 0xF4 then 0x8F else 0xBF
                if 0xF0 ≤ a && a ≤ 0xF4 && low ≤ b && b ≤ high && isTail c && isTail d
                then 4 else 0
              | [] => 0
          | [] => 0
      | [] => 0

/-- The count so far plus the octets of whole characters at the start of a stream,
    in at most `fuel` characters. -/
def validLengthFrom : (fuel : Nat) → (count : Nat) → Bytes → Nat
  | 0, count, _ => count
  | fuel + 1, count, s =>
    match firstLength s with
    | 0 => count
    | n => validLengthFrom fuel (count + n) (s.drop n)

/-- The length of the longest beginning of a stream that is valid UTF-8. -/
def validLength (s : Bytes) : Nat := validLengthFrom s.length 0 s

end Testbed.Text.Utf8
