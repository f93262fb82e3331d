import Testbed.Host.Script
import Testbed.Service.Supervisor

/-!
# Programs

How the machine finds and runs programs, and tells how they ended.

* `Machine.os`: how it answers the supervisor.
-/

namespace Testbed.Host.Machine

open Net Os Service Shell

/-- Where programs are searched for. -/
def searchPath : List String := ["/usr/local/bin", "/usr/bin", "/bin"]

/-- The complaint about a zero octet in what is to be run. -/
def zeroInCommand : Trouble := .other "nul byte found in provided data"

/-- The program at a path. -/
def programAt (m : Machine) (path : String) : Except Trouble String :=
  match m.files.find m.current path with
  | .ok (.program name) => .ok name
  | .ok _ => .error (.system .accessDenied)
  | .error cause => .error cause

/-- The first program of a name in directories; what is no program is only told of when
    there is none. -/
def search (m : Machine) (name : String) (found : Trouble) : List String → Except Trouble String
  | [] => .error found
  | directory :: rest =>
    match m.programAt (directory ++ "/" ++ name) with
    | .ok program => .ok program
    | .error cause =>
      search m name (if cause = .system .accessDenied then cause else found) rest

/-- The program of a name or path. -/
def program (m : Machine) (name : String) : Except Trouble String :=
  if name.isEmpty then .error (.system .noEntry)
  else if name.toList.contains '/' then m.programAt name
  else if FileTree.longestName < name.utf8ByteSize then .error (.system .nameTooLong)
  else m.search name (.system .noEntry) searchPath

/-- Words that say what is written. -/
def literal (s : String) : Word := ⟨[.text s.toList], true⟩

/-- What a program with arguments has to do. -/
def todoOf (program : String) (arguments : List String) : List Task :=
  match program, arguments with
  | "sh", "-c" :: script :: _ =>
    match Shell.parse script with
    | some c => [.command c]
    | none => [.command (.simple [literal "exit", literal "2"] none)]
  | "sh", [] => []
  | "sh", _ => [.command (.simple [literal "exit", literal "127"] none)]
  | program, arguments => [.command (.simple ((program :: arguments).map literal) none)]

/-- A text with a zero octet. -/
def hasZero (s : String) : Bool := s.toList.any fun c => c.toNat = 0

/-- Runs a program in a group of its own. -/
def spawn (m : Machine) (l : Launch) : Except Trouble Nat × Machine :=
  if (l.program :: l.arguments).any hasZero then (.error zeroInCommand, m)
  else
    match m.program l.program with
    | .error cause => (.error cause, m)
    | .ok name =>
      let pid := m.nextPid
      let process : Process :=
        { parent := 1, group := pid, todo := todoOf name l.arguments,
          wake := some (m.clock + launchTime) }
      (.ok pid, { m with processes := m.processes ++ [(pid, process)], nextPid := pid + 1 })

/-- Whether a child has ended, and how. -/
def poll (m : Machine) (pid : Nat) : Except Trouble (Option ExitStatus) :=
  match Entries.get? pid m.processes with
  | none => .error (.system .noChild)
  | some p => if p.stolen then .error (.system .noChild) else .ok p.ended

/-- The longest time that is waited for a child to end. -/
def patience : Span := .ofSeconds 3600

/-- How a child ended that is waited for. -/
def await (m : Machine) (pid : Nat) : Except Trouble ExitStatus × Machine :=
  match m.poll pid with
  | .error cause => (.error cause, m)
  | .ok (some status) => (.ok status, m)
  | .ok none =>
    let m := m.pass patience
    match m.poll pid with
    | .ok (some status) => (.ok status, m)
    | _ => (.error (.system .noChild), m)

/-- Whether anybody takes connections at an address. -/
def takesConnections (m : Machine) (a : SocketAddress) : Bool :=
  m.loopback && m.addresses.any fun e => e.2 == a && m.served.contains e.1

/-- How the machine answers the supervisor. -/
def os : OperatingSystem Machine
  | .spawn l, m => m.spawn l
  | .poll pid, m => (m.poll pid, m)
  | .await pid, m => m.await pid
  | .signal pid s, m =>
    if m.processes.any fun e => e.2.group = pid && !e.2.stolen then
      (.ok (), m.signalGroup pid s)
    else (.error .noProcess, m)
  | .now, m => (m.clock, m.pass ⟨1000⟩)
  | .sleep span, m => ((), m.pass span)
  | .knock (.connect a) _, m => (m.takesConnections a, m)
  | .knock _ _, m => (false, m)

/-- Kills a process and waits for it in its parent's place, which then finds no child. -/
def steal (m : Machine) (pid : Nat) : Machine :=
  let m := m.signalProcess pid .kill
  match Entries.get? pid m.processes with
  | some p => m.setProcess pid { p with stolen := true }
  | none => m

end Testbed.Host.Machine
