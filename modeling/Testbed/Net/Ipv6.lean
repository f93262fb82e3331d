/-!
# Addresses of eight groups

An IPv6 address is eight groups of sixteen bits, written in hexadecimal and separated
by colons. One run of zero groups may be left out between two colons, and the last two
groups may be written as four decimal numbers. Printing leaves out the first of the
longest runs of at least two zeros.
-/

namespace Testbed.Net.Ipv6

/-- The value of a hexadecimal digit. -/
def hexValue? (c : Char) : Option Nat :=
  if '0' ≤ c ∧ c ≤ '9' then some (c.toNat - 48)
  else if 'a' ≤ c ∧ c ≤ 'f' then some (c.toNat - 87)
  else if 'A' ≤ c ∧ c ≤ 'F' then some (c.toNat - 55)
  else none

/-- At most `fuel` hexadecimal digits: how many there are, their value, and the rest. -/
def hexDigits : (fuel : Nat) → (count value : Nat) → List Char → Nat × Nat × List Char
  | 0, count, value, s => (count, value, s)
  | fuel + 1, count, value, s =>
    match s with
    | [] => (count, value, [])
    | c :: r =>
      match hexValue? c with
      | some d => hexDigits fuel (count + 1) (value * 16 + d) r
      | none => (count, value, c :: r)

/-- A decimal number of at most 255 without leading zeros, after the digits already
    read, and the rest. -/
def octet : (read : Option Nat) → List Char → Option (Nat × List Char)
  | read, [] => read.map fun n => (n, [])
  | read, c :: r =>
    if '0' ≤ c ∧ c ≤ '9' then
      match read with
      | none => octet (some (c.toNat - 48)) r
      | some 0 => none
      | some n =>
        let n := n * 10 + (c.toNat - 48)
        if 255 < n then none else octet (some n) r
    else read.map fun n => (n, c :: r)

/-- The four decimal numbers at the end of an address, as two groups. -/
def dotted (s : List Char) : Option (List Nat) := do
  let (a, s) ← octet none s
  let ('.' :: s) := s | none
  let (b, s) ← octet none s
  let ('.' :: s) := s | none
  let (c, s) ← octet none s
  let ('.' :: s) := s | none
  let (d, s) ← octet none s
  if s.isEmpty then some [a * 256 + b, c * 256 + d] else none

/-- An address in the middle of being read: the groups so far, last first, and how many
    of them stand before the run that is left out. -/
structure Partial where
  groups : List Nat
  gap : Option Nat

/-- How many places are taken; the run that is left out takes at least one. -/
def Partial.size (p : Partial) : Nat := p.groups.length + (if p.gap.isSome then 1 else 0)

/-- Reads groups, at most `fuel` of them. -/
def readGroups : (fuel : Nat) → Partial → List Char → Option Partial
  | 0, _, _ => none
  | _ + 1, p, [] => some p
  | fuel + 1, p, c :: s =>
    if p.size = 8 then none
    else if c = ':' then
      if p.gap.isSome then none else readGroups fuel { p with gap := some p.groups.length } s
    else
      match hexDigits 4 0 0 (c :: s) with
      | (_, value, []) => some { p with groups := value :: p.groups }
      | (count, value, d :: r) =>
        if d = '.' then
          if count = 0 ∨ 6 < p.size then none
          else (dotted (c :: s)).map fun l => { p with groups := l.reverse ++ p.groups }
        else if d = ':' then
          if r.isEmpty then none else readGroups fuel { p with groups := value :: p.groups } r
        else none

/-- Where reading starts: behind the run that is left out, if an address starts with it. -/
def start? : List Char → Option (Partial × List Char)
  | ':' :: ':' :: r => some (⟨[], some 0⟩, r)
  | ':' :: _ => none
  | [] => none
  | [_] => none
  | s => some (⟨[], none⟩, s)

/-- The eight groups of an address that has been read, the run that is left out as zeros. -/
def Partial.complete? (p : Partial) : Option (List Nat) :=
  let groups := p.groups.reverse
  match p.gap with
  | none => if groups.length = 8 then some groups else none
  | some n =>
    if groups.length ≤ 7 then
      some (groups.take n ++ List.replicate (8 - groups.length) 0 ++ groups.drop n)
    else none

/-- The eight groups of an address. -/
def parse (s : List Char) : Option (List Nat) := do
  let (p, s) ← start? s
  let p ← readGroups (s.length + 1) p s
  p.complete?

/-- The length of the run of zeros that a list starts with. -/
def zeros (l : List Nat) : Nat := (l.takeWhile (· == 0)).length

/-- The place and length of the first of the longest runs of zeros, after `best`. -/
def longestRun : (place : Nat) → (best : Nat × Nat) → List Nat → Nat × Nat
  | _, best, [] => best
  | place, best, g :: r =>
    let n := zeros (g :: r)
    longestRun (place + 1) (if best.2 < n then (place, n) else best) r

/-- Groups in hexadecimal, between colons. -/
def joined (l : List Nat) : List Char := List.intercalate [':'] (l.map (Nat.toDigits 16))

/-- An address in its shortest form. -/
def render (groups : List Nat) : List Char :=
  let (place, n) := longestRun 0 (0, 0) groups
  if n < 2 then joined groups
  else joined (groups.take place) ++ [':', ':'] ++ joined (groups.drop (place + n))

end Testbed.Net.Ipv6
