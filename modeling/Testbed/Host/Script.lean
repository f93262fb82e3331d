import Testbed.Host.Machine

/-!
# Scripts at work

How the processes of a machine act. A process that acts takes one step of its script, and
acts again a step later; when time passes, the processes act in the order of their times.

* `Machine.pass`: lets a span pass.
-/

namespace Testbed.Host.Machine

open Os Shell

/-! ## Scripts -/

/-- The time that a step of a process takes. -/
def stepTime : Nat := 100000

/-- The time until a new process acts. -/
def launchTime : Nat := 2000000

/-- The time after which a process that waits for another looks again. -/
def waitTime : Nat := 1000000

/-- Changes a process. -/
def setProcess (m : Machine) (pid : Nat) (p : Process) : Machine :=
  { m with processes := Entries.put pid p m.processes }

/-- The numbers of the live children of a process. -/
def children (m : Machine) (pid : Nat) : List Nat :=
  (m.processes.filter fun e => e.2.parent = pid && e.2.isLive).map Prod.fst

/-- A process after a signal. -/
def signaled (m : Machine) (p : Process) (s : Signal) : Process :=
  if !p.isLive then p
  else if s = .kill then { p with ended := some (.signaled s false) }
  else if p.ignored.contains s.number then p
  else
    match Entries.get? s.number p.traps with
    | some c => { p with todo := .command c :: p.todo, wake := some (m.clock + stepTime) }
    | none => if isFatal s then { p with ended := some (.signaled s false) } else p

/-- Sends a signal to a process. -/
def signalProcess (m : Machine) (pid : Nat) (s : Signal) : Machine :=
  match Entries.get? pid m.processes with
  | some p => m.setProcess pid (m.signaled p s)
  | none => m

/-- Sends a signal to the processes of a group. -/
def signalGroup (m : Machine) (group : Nat) (s : Signal) : Machine :=
  { m with processes := m.processes.map fun e =>
      if e.2.group = group then (e.1, m.signaled e.2 s) else e }

/-- Makes a child of a process that does `todo`. What is ignored stays ignored. -/
def fork (m : Machine) (pid : Nat) (p : Process) (ignored : List Nat) (todo : List Task) :
    Nat × Machine :=
  let child : Process :=
    { parent := pid, group := p.group, todo, ignored, wake := some (m.clock + stepTime) }
  (m.nextPid,
    { m with processes := m.processes ++ [(m.nextPid, child)], nextPid := m.nextPid + 1 })

/-- Writes what a command says to the file that takes its output; whether that worked. -/
def writeOutput (m : Machine) (output : Option String) (text : String) : Bool × Machine :=
  match output with
  | none => (true, m)
  | some path =>
    match m.files.write m.current path (Bytes.ofString text) with
    | .ok files => (true, { m with files })
    | .error _ => (false, m)

/-- Whether a test holds; nothing stands for a test that is none. -/
def test? (m : Machine) : List String → Option Bool
  | [] => some false
  | [s] => some (!s.isEmpty)
  | ["!", s] => some s.isEmpty
  | ["-e", path] => some (m.files.find m.current path).isOk
  | ["-f", path] =>
    some (match m.files.find m.current path with | .ok (.file _) => true | _ => false)
  | ["-d", path] => some (m.files.isDirectory m.current path)
  | ["-n", s] => some (!s.isEmpty)
  | ["-z", s] => some s.isEmpty
  | ["!", a, b] => (test? m [a, b]).map not
  | [a, "=", b] => some (a == b)
  | [a, "!=", b] => some (a != b)
  | _ => none

/-- The status of a test. -/
def testStatus (m : Machine) (operands : List String) : Nat :=
  match m.test? operands with
  | some true => 0
  | some false => 1
  | none => 2

/-- The signal and the targets of a `kill`. -/
def killTargets : List String → Option (Signal × List String)
  | "-s" :: name :: targets => (signal? name).map fun s => (s, targets)
  | [] => none
  | option :: targets =>
    match option.toList with
    | '-' :: name => (signal? (String.ofList name)).map fun s => (s, targets)
    | _ => some (.term, option :: targets)

/-- A process that minds a signal as told by the first operand of `trap`. -/
def mind (p : Process) (action : String) (s : Signal) : Process :=
  let traps := Entries.erase s.number p.traps
  let ignored := p.ignored.filter (· ≠ s.number)
  if action = "-" then { p with traps, ignored }
  else if action.isEmpty then { p with traps, ignored := s.number :: ignored }
  else
    match Shell.parse action with
    | some c => { p with traps := Entries.put s.number c traps, ignored }
    | none => p

/-- What a process does with a command of words. -/
def perform (m : Machine) (pid : Nat) (p : Process) (words : List String)
    (output : Option String) : Machine :=
  let (written, m) :=
    m.writeOutput output
      (match words with | "echo" :: said => " ".intercalate said ++ "\n" | _ => "")
  let done (status : Nat) : Machine := m.setProcess pid { p with status }
  let ends (status : Nat) : Machine :=
    m.setProcess pid { p with ended := some (.exited (status % 256)) }
  if !written then done 2
  else
    match words with
    | [] => done 0
    | ":" :: _ => done 0
    | "true" :: _ => done 0
    | "false" :: _ => done 1
    | "echo" :: _ => done 0
    | "cat" :: _ => done 0
    | ["exit"] => ends p.status
    | "exit" :: code :: _ => ends ((number? code.toList).getD 2)
    | "wait" :: _ => m.setProcess pid { p with todo := .joinAll :: p.todo }
    | "yes" :: _ => m.setProcess pid { p with wake := none }
    | "sleep" :: operands =>
      match sleepTime? operands with
      | some time => m.setProcess pid { p with status := 0, wake := some (m.clock + time) }
      | none => done 1
    | "trap" :: action :: names =>
      m.setProcess pid { (names.filterMap signal?).foldl (fun p s => mind p action s) p with
        status := 0 }
    | "touch" :: paths =>
      let touch (t : FileTree) (path : String) : FileTree :=
        ((t.place m.current path (.file [])).toOption).getD t
      { m with files := paths.foldl touch m.files }.setProcess pid { p with status := 0 }
    | "[" :: operands =>
      if operands.getLast? = some "]" then done (m.testStatus operands.dropLast) else done 2
    | "test" :: operands => done (m.testStatus operands)
    | "kill" :: operands =>
      match killTargets operands with
      | some (s, targets) =>
        let m := m.setProcess pid { p with status := 0 }
        (targets.filterMap fun t => number? t.toList).foldl (fun m t => m.signalProcess t s) m
      | none => done 1
    | ["sh", "-c", script] =>
      match Shell.parse script with
      | some c => m.setProcess pid { p with todo := .command (.subshell c) :: p.todo }
      | none => done 2
    | _ => done 127

/-- What a process does with a command. -/
def obey (m : Machine) (pid : Nat) (p : Process) : Command → Machine
  | .skip => m.setProcess pid p
  | .sequence a b =>
    m.setProcess pid { p with todo := .command a :: .command b :: p.todo }
  | .conditional wanted a b =>
    m.setProcess pid { p with todo := .command a :: .link wanted b :: p.todo }
  | .loop wanted condition body =>
    m.setProcess pid
      { p with todo := .command condition :: .repetition wanted condition body :: p.todo }
  | .choice condition yes no =>
    m.setProcess pid { p with todo := .command condition :: .branch yes no :: p.todo }
  | .subshell body =>
    let (child, m) := m.fork pid p p.ignored [.command body]
    m.setProcess pid { p with todo := .join child :: p.todo }
  | .detached body =>
    let quiet := [Signal.int.number, Signal.quit.number]
    let (child, m) := m.fork pid p (quiet ++ p.ignored) [.command body]
    m.setProcess pid { p with background := some child, status := 0 }
  | .simple words output =>
    let output := output.map (p.expand pid)
    match p.expandAll pid words with
    | "exec" :: word :: words =>
      m.perform pid { p with todo := [], traps := [] } (word :: words) output
    | words => m.perform pid p words output

/-- The status that a child leaves to a shell that waits for it. -/
def shellStatus : ExitStatus → Nat
  | .exited code => code
  | .signaled s _ => 128 + s.number
  | _ => 0

/-- What a process does when it acts. -/
def act (m : Machine) (pid : Nat) (p : Process) : Machine :=
  let p := { p with wake := some (m.clock + stepTime) }
  match p.todo with
  | [] => m.setProcess pid { p with ended := some (.exited (p.status % 256)) }
  | .command c :: rest => m.obey pid { p with todo := rest } c
  | .repetition wanted condition body :: rest =>
    if (p.status == 0) == wanted then
      m.setProcess pid
        { p with todo := .command body :: .command (.loop wanted condition body) :: rest }
    else m.setProcess pid { p with todo := rest, status := 0 }
  | .link wanted second :: rest =>
    m.setProcess pid
      { p with todo := if (p.status == 0) == wanted then .command second :: rest else rest }
  | .branch yes no :: rest =>
    m.setProcess pid { p with todo := .command (if p.status == 0 then yes else no) :: rest }
  | .join child :: rest =>
    match (Entries.get? child m.processes).bind Process.ended with
    | some status => m.setProcess pid { p with todo := rest, status := shellStatus status }
    | none => m.setProcess pid { p with wake := some (m.clock + waitTime) }
  | .joinAll :: rest =>
    if (m.children pid).isEmpty then m.setProcess pid { p with todo := rest, status := 0 }
    else m.setProcess pid { p with wake := some (m.clock + waitTime) }

/-! ## Time -/

/-- When a live process acts. -/
def wakeOf (p : Process) : Option Nat := if p.isLive then p.wake else none

/-- The first time at which some process acts. -/
def nextWake (m : Machine) : Option Nat :=
  m.processes.foldl (fun first e =>
    match first, wakeOf e.2 with
    | some a, some b => some (min a b)
    | a, none => a
    | none, b => b) none

/-- Lets each process act whose time has come. -/
def actAll (m : Machine) : Machine :=
  (Entries.keys m.processes).foldl (fun m pid =>
    match Entries.get? pid m.processes with
    | some p =>
      match wakeOf p with
      | some wake => if wake ≤ m.clock then m.act pid p else m
      | none => m
    | none => m) m

/-- Lets time pass until `target`, in at most `fuel` turns of the processes. -/
def passUntil (target : Nat) : (fuel : Nat) → Machine → Machine
  | 0, m => { m with clock := max m.clock target }
  | fuel + 1, m =>
    match m.nextWake with
    | none => { m with clock := max m.clock target }
    | some wake =>
      if target < wake then { m with clock := max m.clock target }
      else passUntil target fuel { m with clock := max m.clock wake }.actAll

/-- Lets a span pass. A turn takes every process at least a step. -/
def pass (m : Machine) (span : Span) : Machine :=
  m.passUntil (m.clock + span.nanos) (span.nanos / stepTime + 2)

end Testbed.Host.Machine
