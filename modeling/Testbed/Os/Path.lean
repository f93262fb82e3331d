/-!
# Paths

A path names an entry of the file system. Its components stand between slashes; empty
components and components `.` mean nothing, except for a `.` that comes first.

* `Path.components`: the components that mean something;
* `Path.parent?`: the path of the directory that holds the entry.
-/

namespace Testbed.Os.Path

/-- The pieces between slashes, empty ones included. -/
def pieces : List Char → List (List Char)
  | [] => [[]]
  | c :: r =>
    if c = '/' then [] :: pieces r
    else
      match pieces r with
      | [] => [[c]]
      | p :: ps => (c :: p) :: ps

/-- Pieces with slashes between them. -/
def join (l : List (List Char)) : List Char := List.intercalate ['/'] l

/-- A piece that means nothing where it stands after another. -/
def isIdle (piece : List Char) : Bool := piece.isEmpty || piece == ['.']

/-- Pieces without idle ones at the end, last first. -/
def trimmed (l : List (List Char)) : List (List Char) := l.reverse.dropWhile isIdle

/-- A path that starts at the root. -/
def isAbsolute : List Char → Bool
  | '/' :: _ => true
  | _ => false

/-- What a path starts with: the root, a `.`, or nothing; and what follows. -/
def split : List Char → List Char × List Char
  | '/' :: r => (['/'], r)
  | ['.'] => (['.'], [])
  | '.' :: '/' :: r => (['.'], '/' :: r)
  | s => ([], s)

/-- The path of the directory that holds the entry of a path. The root and the empty path
    have none. -/
def parent? (path : String) : Option String :=
  let (start, body) := split path.toList
  match trimmed (pieces body) with
  | [] => if start = ['.'] then some "" else none
  | _ :: rest => some (String.ofList (start ++ join (rest.dropWhile isIdle).reverse))

/-- The components of a path that mean something. -/
def components (path : String) : List String :=
  ((pieces path.toList).filter fun p => !isIdle p).map String.ofList

/-- A path that can only name a directory: it ends in a slash or in `.`. -/
def asksDirectory (path : String) : Bool :=
  match (pieces path.toList).getLast? with
  | some p => isIdle p
  | none => false

end Testbed.Os.Path
