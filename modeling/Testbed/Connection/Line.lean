import Testbed.Bytes
import Testbed.Os.Errno

/-!
# Reading request lines

A connection delivers its bytes in chunks, cut anywhere. A request line ends with a
line feed, or with the connection; it may be `lineLimit` bytes long, and of a longer
one no more is read than shows that it is too long.
-/

namespace Testbed.Connection

open Os

/-- How many bytes a request line may have, without its line feed. -/
def lineLimit : Nat := 1024 * 1024

/-- How a connection ends. -/
inductive Ending
  /-- The driver closed it. -/
  | closed
  /-- Reading from it failed. -/
  | failed (cause : Trouble)
  deriving DecidableEq, Repr

/-- What is left to read from a connection. -/
structure Source where
  /-- The chunks to come. -/
  chunks : List Bytes
  /-- What comes after them. -/
  ending : Ending := .closed

/-- What was read of a line. -/
inductive LineRead
  /-- A line, without its line feed. -/
  | complete (line : Bytes)
  /-- The beginning of a line that is too long. -/
  | tooLarge (beginning : Bytes)
  /-- Nothing: the connection is at its end. -/
  | finished
  /-- Reading failed. -/
  | failed (cause : Trouble)
  deriving DecidableEq, Repr

/-- What was found in a chunk, with the bytes of the line read so far, last first. -/
inductive Taken
  /-- The line feed that ends the line; the rest of the chunk follows it. -/
  | line (read rest : Bytes)
  /-- More of the line than there is room for. -/
  | full (read rest : Bytes)
  /-- All of the chunk belongs to the line, which goes on. -/
  | all (room : Nat) (read : Bytes)

/-- Takes the bytes of a line from a chunk, as long as there is room for them and the
    line feed. -/
def takeChunk : (room : Nat) → (read : Bytes) → Bytes → Taken
  | room, read, [] => .all room read
  | 0, read, b :: r => .full read (b :: r)
  | room + 1, read, b :: r =>
    if b = Bytes.lineFeed then .line read r else takeChunk room (b :: read) r

/-- Takes the bytes of a line from the chunks to come. -/
def takeLine (ending : Ending) : (room : Nat) → (read : Bytes) → List Bytes → LineRead × Source
  | 0, read, chunks => (.tooLarge read.reverse, ⟨chunks, ending⟩)
  | _ + 1, read, [] =>
    match ending, read with
    | .failed cause, _ => (.failed cause, ⟨[], ending⟩)
    | .closed, [] => (.finished, ⟨[], ending⟩)
    | .closed, _ => (.complete read.reverse, ⟨[], ending⟩)
  | room + 1, read, chunk :: chunks =>
    match takeChunk (room + 1) read chunk with
    | .line read rest => (.complete read.reverse, ⟨rest :: chunks, ending⟩)
    | .full read rest => (.tooLarge read.reverse, ⟨rest :: chunks, ending⟩)
    | .all room read => takeLine ending room read chunks

namespace Source

/-- Reads a line. -/
def readLine (s : Source) : LineRead × Source := takeLine s.ending (lineLimit + 1) [] s.chunks

/-- How many bytes are left. -/
def size (s : Source) : Nat := s.chunks.flatten.length

/-- Reads lines until one is not complete, which comes last; at most `fuel` lines. -/
def readLines : (fuel : Nat) → Source → List LineRead
  | 0, _ => [.finished]
  | fuel + 1, s =>
    match s.readLine with
    | (.complete line, s) => .complete line :: readLines fuel s
    | (other, _) => [other]

/-- The lines of a connection, and how they end. -/
def lines (s : Source) : List LineRead := s.readLines (s.size + 1)

end Source

end Testbed.Connection
