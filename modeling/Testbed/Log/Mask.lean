/-!
# Masks

Numbers that differ from run to run, such as those of processes and ports, hide that two
runs tell the same. A mask puts a fixed text in the place of every number that follows a
given text.
-/

namespace Testbed.Log

/-- Puts `mask` in the place of the digits after each occurrence of `cue`. -/
def maskChars (cue mask : List Char) : (digits : Bool) → (skip : Nat) → List Char → List Char
  | _, _, [] => []
  -- The rest of a cue is copied, and digits may follow it.
  | _, skip + 1, c :: r =>
    c :: (if skip = 0 && r.head?.any Char.isDigit then mask else [])
      ++ maskChars cue mask (skip = 0) skip r
  | digits, 0, c :: r =>
    if digits && c.isDigit then maskChars cue mask true 0 r
    else if cue.isPrefixOf (c :: r) && 1 < cue.length then
      c :: maskChars cue mask false (cue.length - 1) r
    else c :: maskChars cue mask false 0 r

/-- Puts `mask` in the place of every number that follows `cue`. -/
def maskAfter (cue mask s : String) : String :=
  String.ofList (maskChars cue.toList mask.toList false 0 s.toList)

/-- A text without the numbers of processes. -/
def maskPids (s : String) : String := maskAfter "(pid " "0" (maskAfter "\"pid\":" "0" s)

/-- A text without the ports of the machine itself. -/
def maskPorts (s : String) : String := maskAfter "127.0.0.1:" "PORT" s

end Testbed.Log
