import Testbed.Bytes
import Testbed.Net.Ipv6

/-!
# URLs

How a URL of the web is read, as far as it tells an endpoint: its scheme, the host and
port of its authority, and its path. Text around it that is blank is dropped, and so
are tabs and line ends inside; dot segments are resolved; characters that do not stand
for themselves are percent-encoded. User information, query and fragment are read over.

In schemes that are not special a host is opaque: it is kept as it is written.
-/

namespace Testbed.Endpoint

/-- Why a text is no URL. -/
inductive UrlError
  | relativeWithoutBase
  | emptyHost
  | invalidPort
  | invalidIpv4
  | invalidIpv6
  | invalidDomainCharacter
  | invalidDomain
  deriving DecidableEq, Repr

/-- The wording of a URL error. -/
def UrlError.message : UrlError → String
  | relativeWithoutBase => "relative URL without a base"
  | emptyHost => "empty host"
  | invalidPort => "invalid port number"
  | invalidIpv4 => "invalid IPv4 address"
  | invalidIpv6 => "invalid IPv6 address"
  | invalidDomainCharacter => "invalid domain character"
  | invalidDomain => "invalid international domain name"

/-- What is read of a URL. -/
structure Url where
  /-- The scheme, in lower case. -/
  scheme : String
  /-- The host, unless there is none or it is empty. -/
  host : Option String
  /-- The port, unless there is none. -/
  port : Option Nat
  /-- The path. -/
  path : String
  deriving DecidableEq, Repr

namespace Url

/-- How the rest of a URL is read is up to its scheme. -/
inductive SchemeKind
  | file
  | special
  | plain
  deriving DecidableEq, Repr

/-- The kind of a scheme. -/
def schemeKind (scheme : String) : SchemeKind :=
  if scheme = "file" then .file
  else if ["http", "https", "ws", "wss", "ftp"].contains scheme then .special
  else .plain

/-- A letter of ASCII. -/
def isLetter (c : Char) : Bool := ('a' ≤ c && c ≤ 'z') || ('A' ≤ c && c ≤ 'Z')

/-- A digit of ASCII. -/
def isDigit (c : Char) : Bool := '0' ≤ c && c ≤ '9'

/-- A capital letter of ASCII as a small one. -/
def lower (c : Char) : Char := if 'A' ≤ c ∧ c ≤ 'Z' then Char.ofNat (c.toNat + 32) else c

/-- A control character or the space. -/
def isOuterBlank (c : Char) : Bool := c.toNat ≤ 0x20

/-- A tab or the end of a line. -/
def isIgnored (c : Char) : Bool := c == '\t' || c == '\n' || c == '\r'

/-- The characters of a text that are read. -/
def significant (s : String) : List Char :=
  let trimmed := (s.toList.dropWhile isOuterBlank).reverse.dropWhile isOuterBlank
  trimmed.reverse.filter fun c => !isIgnored c

/-- An octet, percent-encoded. -/
def percent (b : UInt8) : List Char :=
  let digit (n : Nat) : Char := if n < 10 then Char.ofNat (48 + n) else Char.ofNat (55 + n)
  ['%', digit (b.toNat / 16), digit (b.toNat % 16)]

/-- A character as it is, or percent-encoded when it is not ASCII, a control, or of the
    given set. -/
def encode (set : List Char) (c : Char) : List Char :=
  if c.toNat < 0x20 ∨ 0x7F ≤ c.toNat ∨ set.contains c then
    (Bytes.ofString (String.ofList [c])).flatMap percent
  else [c]

/-- The further characters that are encoded in a path. -/
def pathSet : List Char := [' ', '"', '#', '<', '>', '?', '`', Char.ofNat 123, Char.ofNat 125]

/-- Reads the scheme, in lower case, and the rest after its colon. -/
def readScheme (s : List Char) : Option (String × List Char) :=
  match s with
  | [] => none
  | c :: _ =>
    if isLetter c then
      let isPart (c : Char) : Bool := isLetter c || isDigit c || c == '+' || c == '-' || c == '.'
      match s.dropWhile isPart with
      | ':' :: r => some (String.ofList ((s.takeWhile isPart).map lower), r)
      | _ => none
    else none

/-- Where an authority ends. -/
def endsAuthority (kind : SchemeKind) (c : Char) : Bool :=
  c == '/' || c == '?' || c == '#' || (kind != .plain && c == '\\')

/-- Reads over user information. What is told of it is whether there is a name or a
    password. -/
def skipUserInfo (kind : SchemeKind) (s : List Char) : Except UrlError (Bool × List Char) :=
  let authority := s.takeWhile fun c => !endsAuthority kind c
  match authority.reverse.dropWhile (· != '@') with
  | [] => .ok (false, s)
  | _ :: before =>
    let rest := s.drop (before.length + 1)
    match before with
    | [] =>
      match rest with
      | c :: _ => if endsAuthority kind c then .error .emptyHost else .ok (false, rest)
      | [] => .ok (false, rest)
    -- A lone colon gives neither name nor password.
    | [':'] => .ok (false, rest)
    | _ => .ok (true, rest)

/-- Reads the characters of a host: up to a colon outside brackets, or the end of the
    authority. -/
def takeHost (kind : SchemeKind) : (bracketed : Bool) → List Char → List Char × List Char
  | _, [] => ([], [])
  | bracketed, c :: r =>
    if (c = ':' ∧ !bracketed) ∨ endsAuthority kind c then ([], c :: r)
    else
      let bracketed := if c = '[' then true else if c = ']' then false else bracketed
      let (host, rest) := takeHost kind bracketed r
      (c :: host, rest)

/-- The address between brackets. -/
def bracketedHost (s : List Char) : Except UrlError (List Char) :=
  if s.getLast? = some ']' then
    match Net.Ipv6.parse (s.tail.dropLast) with
    | some groups => .ok (['['] ++ Net.Ipv6.render groups ++ [']'])
    | none => .error .invalidIpv6
  else .error .invalidIpv6

/-- The characters that no opaque host has. -/
def forbiddenInHost : List Char :=
  [Char.ofNat 0, '\t', '\n', '\r', ' ', '#', '/', ':', '<', '>', '?', '@', '[', '\\', ']', '^', '|']

/-- An opaque host. -/
def opaqueHost (s : List Char) : Except UrlError (List Char) :=
  if s.head? = some '[' then bracketedHost s
  else if s.any forbiddenInHost.contains then .error .invalidDomainCharacter
  else .ok (s.flatMap (encode []))

/-- A number of an IPv4 address: decimal, octal after a zero, hexadecimal after `0x`. -/
def ipv4Number? (s : List Char) : Option Nat :=
  let read (base : Nat) (s : List Char) : Option Nat :=
    s.foldl (fun n c => do
      let n ← n
      let d ← Net.Ipv6.hexValue? c
      if d < base then some (n * base + d) else none) (some 0)
  match s with
  | [] => none
  | '0' :: 'x' :: r => read 16 r
  | '0' :: 'X' :: r => read 16 r
  | '0' :: c :: r => read 8 (c :: r)
  | s => read 10 s

/-- The parts of a text between dots. -/
def dotParts : List Char → List (List Char)
  | [] => [[]]
  | c :: r =>
    match dotParts r with
    | [] => [[c]]
    | part :: parts => if c = '.' then [] :: part :: parts else (c :: part) :: parts

/-- The parts between dots, without an empty one at the end. -/
def hostParts (s : List Char) : List (List Char) :=
  let parts := dotParts s
  if 1 < parts.length ∧ parts.getLast? = some [] then parts.dropLast else parts

/-- Whether a host ends in a number, and so has to be an IPv4 address. -/
def endsInNumber (s : List Char) : Bool :=
  match (hostParts s).getLast? with
  | some part => (part ≠ [] && part.all isDigit) || (ipv4Number? part).isSome
  | none => false

/-- Whether parts form an IPv4 address: at most four, each of one octet but the last,
    which fills what is left. -/
def isIpv4 (parts : List (List Char)) : Bool :=
  match parts.mapM ipv4Number? with
  | none => false
  | some numbers =>
    let n := numbers.length
    n ≤ 4 && (numbers.dropLast.all (· ≤ 255)) &&
      (match numbers.getLast? with
        | some last => last < Nat.pow 256 (5 - n)
        | none => false)

/-- The host of a special scheme: an address, or a domain name. -/
def domainHost (s : List Char) : Except UrlError (List Char) :=
  if s.head? = some '[' then bracketedHost s
  else if s.any fun c => c.toNat < 0x20 || c.toNat = 0x7F || forbiddenInHost.contains c then
    .error .invalidDomain
  else if s.isEmpty then .error .emptyHost
  else if endsInNumber s && !isIpv4 (hostParts s) then .error .invalidIpv4
  else .ok (s.map lower)

/-- The digits of a port after those read so far. -/
def portDigits : (read : Option Nat) → List Char → Except UrlError (Option Nat × List Char)
  | read, [] => .ok (read, [])
  | read, c :: r =>
    if isDigit c then
      let n := read.getD 0 * 10 + (c.toNat - 48)
      if 65535 < n then .error .invalidPort else portDigits (some n) r
    else if c = '/' ∨ c = '\\' ∨ c = '?' ∨ c = '#' then .ok (read, c :: r)
    else .error .invalidPort

/-- Reads the host and the port of an authority. -/
def readHostAndPort (kind : SchemeKind) (s : List Char) :
    Except UrlError (List Char × Option Nat × List Char) :=
  let (text, rest) := takeHost kind false s
  match if kind = .plain then opaqueHost text
    else if text.isEmpty then .error .emptyHost else domainHost text with
  | .error e => .error e
  | .ok host =>
    match rest with
    | ':' :: r =>
      if host.isEmpty then .error .emptyHost
      else
        match portDigits none r with
        | .error e => .error e
        | .ok (port, rest) => .ok (host, port, rest)
    | _ => .ok (host, none, rest)

/-! ## Paths -/

/-- A segment that stands for the one above. -/
def isDoubleDot (segment : List Char) : Bool :=
  ["..", ".%2e", "%2e.", "%2e%2e"].contains (String.ofList (segment.map lower))

/-- A segment that stands for nothing. -/
def isSingleDot (segment : List Char) : Bool :=
  [".", "%2e"].contains (String.ofList (segment.map lower))

/-- A segment that names a drive. -/
def isDrive : List Char → Bool
  | [c, d] => isLetter c && (d == ':' || d == '|')
  | _ => false

/-- A path in the middle of being read: its complete segments, last first, each followed
    by a slash. -/
abbrev Above := List (List Char)

/-- The segments above a double dot. A drive stays where it is. -/
def Above.shorten : Above → Above
  | [] => []
  | [root] => [root]
  | segment :: above => if isDrive segment then segment :: above else above

/-- Resolves the segments of a path. The first one, before the leading slash, is empty;
    the last one is followed by no slash. -/
def resolveSegments : Above → List (List Char) → List (List Char)
  | above, [] => above.reverse
  | above, [last] =>
    if isDoubleDot last then (([] : List Char) :: above.shorten).reverse
    else if isSingleDot last then (([] : List Char) :: above).reverse
    else (last :: above).reverse
  | above, segment :: rest =>
    if isDoubleDot segment then resolveSegments above.shorten rest
    else if isSingleDot segment then resolveSegments above rest
    else resolveSegments (segment :: above) rest

/-- The segments of a text between slashes. -/
def segments : List Char → List (List Char)
  | [] => [[]]
  | c :: r =>
    match segments r with
    | [] => [[c]]
    | s :: rest => if c = '/' then [] :: s :: rest else (c :: s) :: rest

/-- The text up to the query or the fragment. -/
def beforeQuery (s : List Char) : List Char := s.takeWhile fun c => c != '?' && c != '#'

/-- A path that starts with a slash, with its dot segments resolved. -/
def rootedPath (s : List Char) : List Char :=
  List.intercalate ['/']
    (resolveSegments [] (segments ((beforeQuery s).flatMap (encode pathSet))))

/-- A path after an authority; one that does not start with a slash gets one. -/
def pathAfterAuthority (s : List Char) : List Char :=
  match s with
  | [] => []
  | c :: _ =>
    if c = '?' ∨ c = '#' then []
    else if c = '/' then rootedPath s
    else rootedPath ('/' :: s)

/-- A URL of a scheme that is not special. -/
def readPlain (scheme : String) (s : List Char) : Except UrlError Url :=
  match s with
  | '/' :: '/' :: r =>
    match skipUserInfo .plain r with
    | .error e => .error e
    | .ok (credentials, r) =>
      match readHostAndPort .plain r with
      | .error e => .error e
      | .ok (host, port, rest) =>
        if host.isEmpty ∧ credentials then .error .emptyHost
        else
          .ok ⟨scheme, if host.isEmpty then none else some (String.ofList host), port,
            String.ofList (pathAfterAuthority rest)⟩
  | '/' :: _ => .ok ⟨scheme, none, none, String.ofList (rootedPath s)⟩
  | _ => .ok ⟨scheme, none, none, String.ofList ((beforeQuery s).flatMap (encode []))⟩

/-- A URL of a special scheme, of which the path does not matter. -/
def readSpecial (scheme : String) (s : List Char) : Except UrlError Url :=
  match skipUserInfo .special (s.dropWhile fun c => c == '/' || c == '\\') with
  | .error e => .error e
  | .ok (_, r) =>
    match readHostAndPort .special r with
    | .error e => .error e
    | .ok (host, port, _) => .ok ⟨scheme, some (String.ofList host), port, ""⟩

/-- A file URL, of which only the validity of its host matters. -/
def readFile (scheme : String) (s : List Char) : Except UrlError Url :=
  let isSlash (c : Char) : Bool := c == '/' || c == '\\'
  let fileUrl : Url := ⟨scheme, none, none, ""⟩
  match s with
  | a :: b :: r =>
    if isSlash a && isSlash b then
      let host := r.takeWhile fun c => !endsAuthority .special c
      if host.isEmpty || isDrive host then .ok fileUrl
      else
        match domainHost host with
        | .error e => .error e
        | .ok _ => .ok fileUrl
    else .ok fileUrl
  | _ => .ok fileUrl

/-- The URL that a text stands for. -/
def parse (text : String) : Except UrlError Url :=
  match readScheme (significant text) with
  | none => .error .relativeWithoutBase
  | some (scheme, rest) =>
    match schemeKind scheme with
    | .plain => readPlain scheme rest
    | .special => readSpecial scheme rest
    | .file => readFile scheme rest

end Url

end Testbed.Endpoint
