import Testbed.Config.Load
import Testbed.Host.FileTree
import Testbed.Host.Process
import Testbed.Net.Address

/-!
# The machine

A machine on which the daemon can be run as on a real one, and which does the same every
time: a clock that moves when somebody waits, a file tree, processes that run shell
scripts, and sockets. The interface by which the machine reaches itself may be down;
then no connection to an address succeeds.

* `Machine.loadConfig`: the configuration that its files tell.
-/

namespace Testbed.Host

open Net Os

/-- A machine. -/
structure Machine where
  /-- The time in nanoseconds. -/
  clock : Nat := 0
  /-- The processes, by number. -/
  processes : Entries Nat Process := []
  /-- The number of the next process. -/
  nextPid : Nat := 1000
  /-- The files. -/
  files : FileTree
  /-- The current directory. -/
  current : Place := ["root"]
  /-- The number of the next socket. -/
  nextSocket : Nat := 1
  /-- The sockets that somebody serves. -/
  served : List Nat := []
  /-- The addresses of sockets, by number. -/
  addresses : Entries Nat SocketAddress := []
  /-- The next port that the machine chooses itself. -/
  nextPort : Nat := 40000
  /-- Whether the machine reaches itself. -/
  loopback : Bool := false

namespace Machine

/-- The programs of a machine. -/
def programs : List String := ["sh", "sleep", "true", "false", "yes", "echo", "cat", "touch"]

/-- The directories of a machine. -/
def directories : List Place :=
  [["bin"], ["dev"], ["etc"], ["home"], ["root"], ["tmp"], ["usr"], ["usr", "bin"],
    ["usr", "local"], ["usr", "local", "bin"], ["var"]]

/-- The files of a new machine. -/
def baseFiles : FileTree :=
  directories.map (fun p => (p, Node.directory Node.openMode))
    ++ programs.map (fun name => (["bin", name], Node.program name))
    ++ programs.map (fun name => (["usr", "bin", name], Node.program name))
    ++ [(["etc", "passwd"], .file []), (["dev", "null"], .file [])]

/-- A new machine. -/
def fresh : Machine := { files := baseFiles }

/-! ## Files -/

/-- The machine with other files; what cannot be changed stays. -/
def withFiles (m : Machine) : Except Trouble FileTree → Machine
  | .ok files => { m with files }
  | .error _ => m

/-- Makes a directory that everybody may enter, and those above it. -/
def makeDirectories (path : String) (m : Machine) : Machine :=
  m.withFiles (m.files.makeDirectories m.current Node.openMode path)

/-- Writes a file in a directory that is made if need be. -/
def writeFile (path : String) (octets : Bytes) (m : Machine) : Machine :=
  let m := match Path.parent? path with
    | some parent => m.makeDirectories parent
    | none => m
  m.withFiles (m.files.write m.current path octets)

/-- Puts a node where nothing stands. -/
def place (path : String) (node : Node) (m : Machine) : Machine :=
  m.withFiles (m.files.place m.current path node)

/-- Removes what a path names, unless it is a directory. -/
def remove (path : String) (m : Machine) : Machine :=
  m.withFiles (m.files.remove m.current path)

/-- What a path names, links followed. -/
def node? (path : String) (m : Machine) : Option Node := (m.files.find m.current path).toOption

/-- What is in a file. -/
def file? (path : String) (m : Machine) : Option Bytes :=
  match m.node? path with
  | some (.file octets) => some octets
  | _ => none

/-- What is in a file. Anything but a file counts as missing. -/
def readFile (m : Machine) (r : Config.ReadFile) : Config.FileContent :=
  match m.file? r.path with
  | none => .missing
  | some octets =>
    match Bytes.toString? octets with
    | some s => .text s
    | none => .unreadable "stream did not contain valid UTF-8"

/-- Loads a configuration from the files of the machine. -/
def loadConfig (m : Machine) (arguments : List String)
    (vars : List Config.Environment.Variable) :
    Except Config.LoadFailure Config :=
  (Program.run (fun r m => (readFile m r, m)) (Config.load arguments vars) m).1

end Machine

end Testbed.Host
