import Testbed.Bytes
import Testbed.Entries
import Testbed.Os.Errno
import Testbed.Os.Path

/-!
# File trees

A file system small enough to be looked at as a value: what stands at each place, where
a place is the list of names that lead to it from the root.

* `FileTree.walk` follows a path from place to place, through links;
* `FileTree.look` and `FileTree.find` tell what a path names, the former without
  following a link at its end;
* `FileTree.makeDirectories`, `FileTree.remove` and `FileTree.place` change the tree.
-/

namespace Testbed.Host

open Os

/-- A place: the names that lead to it from the root. -/
abbrev Place := List String

/-- What stands at a place. -/
inductive Node
  /-- A file, with what is in it. -/
  | file (text : Bytes)
  /-- A program, by its name. -/
  | program (name : String)
  /-- A directory with its permissions. -/
  | directory (mode : Nat)
  /-- A link to a path. -/
  | link (target : String)
  /-- A socket that streams, by its number. -/
  | stream (socket : Nat)
  /-- A socket that takes datagrams. -/
  | datagram
  deriving DecidableEq, Repr

namespace Node

/-- Permissions that everybody has to read, and the owner to write. -/
def fileMode : Nat := 0o644

/-- Permissions that everybody has to read and enter, and the owner to write. -/
def openMode : Nat := 0o755

/-- Permissions of the owner alone. -/
def ownerMode : Nat := 0o700

/-- The permissions of a node. -/
def mode : Node → Nat
  | file _ => fileMode
  | directory mode => mode
  | link _ => 0o777
  | program _ | stream _ | datagram => openMode

/-- Whether a node is a directory. -/
def isDirectory : Node → Bool
  | directory _ => true
  | _ => false

end Node

/-- What stands at the places of a file system. The root is a directory. -/
abbrev FileTree := Entries Place Node

namespace FileTree

/-- What stands at a place. -/
def at? (p : Place) (t : FileTree) : Option Node :=
  if p.isEmpty then some (.directory Node.openMode) else Entries.get? p t

/-- How many octets a name may have. -/
def longestName : Nat := 255

/-- How many octets a path may have, and one for its end. -/
def longestPath : Nat := 4096

/-- How many links are followed on the way. -/
def mostLinks : Nat := 40

/-- The names that a path is made of; one that can only name a directory ends in `.`. -/
def names (path : String) : List String :=
  Path.components path ++ (if Path.asksDirectory path then ["."] else [])

/-- Where a path starts. -/
def start (current : Place) (path : String) : Place :=
  if Path.isAbsolute path.toList then [] else current

/-- Follows names from a place; a link at the end is followed if `follow` says so. Only
    what the last name stands for may be missing. -/
def walk (t : FileTree) (follow : Bool) : (links : Nat) → Place → List String → Except Errno Place
  | _, here, [] => .ok here
  | links, here, name :: rest =>
    match t.at? here with
    | none => .error .noEntry
    | some node =>
      if !node.isDirectory then .error .notDirectory
      else if name = "." then walk t follow links here rest
      else if name = ".." then walk t follow links here.dropLast rest
      else if longestName < name.utf8ByteSize then .error .nameTooLong
      else
        let there := here ++ [name]
        match t.at? there with
        | none => if rest.isEmpty then .ok there else .error .noEntry
        | some (.link target) =>
          if rest.isEmpty && !follow then .ok there
          else
            match links with
            | 0 => .error .tooManyLinks
            | links + 1 => walk t follow links (start here target) (names target ++ rest)
        | some _ => walk t follow links there rest
  termination_by links _ names => (links, names.length)

/-- A zero octet ends every path, so none can be within it. -/
def embeddedZero : Trouble := .other "file name contained an unexpected NUL byte"

/-- The place that a path leads to from the current one. -/
def locate (t : FileTree) (follow : Bool) (current : Place) (path : String) :
    Except Trouble Place :=
  if path.toList.any fun c => c.toNat = 0 then .error embeddedZero
  else if path.isEmpty then .error (.system .noEntry)
  else if longestPath ≤ path.utf8ByteSize then .error (.system .nameTooLong)
  else (t.walk follow mostLinks (start current path) (names path)).mapError .system

/-- What a path names, with its place. -/
def get (t : FileTree) (follow : Bool) (current : Place) (path : String) :
    Except Trouble (Place × Node) := do
  let p ← t.locate follow current path
  match t.at? p with
  | some node => .ok (p, node)
  | none => .error (.system .noEntry)

/-- What a path names, a link at its end not followed. -/
def look (t : FileTree) (current : Place) (path : String) : Except Trouble Node :=
  (t.get false current path).map Prod.snd

/-- What a path names, links followed. -/
def find (t : FileTree) (current : Place) (path : String) : Except Trouble Node :=
  (t.get true current path).map Prod.snd

/-- Puts a node where a path leads and nothing stands. -/
def place (t : FileTree) (current : Place) (path : String) (node : Node) :
    Except Trouble FileTree := do
  let p ← t.locate false current path
  match t.at? p with
  | some _ => .error (.system .entryExists)
  | none => .ok (Entries.put p node t)

/-- Writes a file, a new one or over another. -/
def write (t : FileTree) (current : Place) (path : String) (text : Bytes) :
    Except Trouble FileTree := do
  let p ← t.locate true current path
  match t.at? p with
  | some (.directory _) => .error (.system .isDirectory)
  | _ => .ok (Entries.put p (.file text) t)

/-- Removes what a path names, unless it is a directory. -/
def remove (t : FileTree) (current : Place) (path : String) : Except Trouble FileTree := do
  let (p, node) ← t.get false current path
  match node with
  | .directory _ => .error (.system .isDirectory)
  | _ => .ok (Entries.erase p t)

/-- Makes a directory. -/
def makeDirectory (t : FileTree) (current : Place) (mode : Nat) (path : String) :
    Except Trouble FileTree :=
  let bare := String.ofList (path.toList.reverse.dropWhile (· = '/')).reverse
  t.place current (if bare.isEmpty then path else bare) (.directory mode)

/-- Whether a path names a directory, links followed. -/
def isDirectory (t : FileTree) (current : Place) (path : String) : Bool :=
  match t.find current path with
  | .ok node => node.isDirectory
  | .error _ => false

/-- Makes a directory and those above it that are missing, at most `fuel` levels. A
    directory that is there is left as it is. -/
def makeLevels (t : FileTree) (current : Place) (mode : Nat) :
    (fuel : Nat) → String → Except Trouble FileTree
  | 0, _ => .error (.system .noEntry)
  | fuel + 1, path =>
    if path.isEmpty then .ok t
    else
      match t.makeDirectory current mode path with
      | .ok t => .ok t
      | .error cause =>
        if cause = .system .noEntry then
          match Path.parent? path with
          | none => .error (.other "failed to create whole tree")
          | some parent => do
            let t ← t.makeLevels current mode fuel parent
            match t.makeDirectory current mode path with
            | .ok t => .ok t
            | .error cause => if t.isDirectory current path then .ok t else .error cause
        else if t.isDirectory current path then .ok t
        else .error cause

/-- Makes a directory and those above it that are missing. -/
def makeDirectories (t : FileTree) (current : Place) (mode : Nat) (path : String) :
    Except Trouble FileTree :=
  t.makeLevels current mode (path.length + 1) path

end FileTree

end Testbed.Host
