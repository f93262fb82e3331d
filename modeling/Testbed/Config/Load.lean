import Testbed.Config.Environment
import Testbed.Config.Flags
import Testbed.Config.Layer
import Testbed.Os.Path
import Testbed.Program

/-!
# Loading the configuration

A configuration is put together from a file, the environment and the command line, in
this order; what none of them tells has its default. The file is the one that the
command line names, which must be there, or else the first that is found: the one named
by `TETHER_CONFIG_PATH`, then those in the usual directories. A file may extend another
one, whose settings it overrides.

Loading goes on after a mistake, so that all are told of.

* `Config.load`: the configuration, or everything that is wrong.
-/

namespace Testbed.Config

open Json Os

/-! ## Mistakes -/

/-- What keeps a configuration from being loaded. -/
inductive LoadError
  /-- The command line. -/
  | commandLine (e : Flags.Error)
  /-- A file. -/
  | file (path reason : String)
  /-- A file that extends itself by way of others. -/
  | cycle (paths : List String)
  /-- What the layers say together. -/
  | merge (reason : String)
  deriving DecidableEq, Repr

/-- The wording of a mistake. -/
def LoadError.message : LoadError → String
  | commandLine e => "Failed to parse command-line arguments: " ++ e.message
  | file path reason => "Configuration file error in '" ++ path ++ "': " ++ reason
  | cycle paths => "cyclic extends detected: " ++ " -> ".intercalate paths
  | merge reason => "Failed to merge CLI with configuration: " ++ reason

/-- Everything that is wrong. -/
structure LoadFailure where
  /-- The first mistake. -/
  first : LoadError
  /-- The mistakes after it. -/
  others : List LoadError := []
  deriving DecidableEq, Repr

namespace LoadFailure

/-- The mistakes in order. -/
def errors (f : LoadFailure) : List LoadError := f.first :: f.others

/-- The wording of everything that is wrong; several mistakes are numbered. -/
def message (f : LoadFailure) : String :=
  if f.others.isEmpty then f.first.message
  else
    "multiple configuration errors:\n" ++ "\n".intercalate
      (f.errors.zipIdx.map fun e => toString (e.2 + 1) ++ ": " ++ e.1.message)

/-- What a list of mistakes amounts to. -/
def ofList? : List LoadError → Option LoadFailure
  | [] => none
  | first :: others => some ⟨first, others⟩

end LoadFailure

/-! ## Files -/

/-- What is asked of the file system: what is in a file. -/
structure ReadFile where
  /-- The path of the file. -/
  path : String

/-- What is found where a file is looked for. -/
inductive FileContent
  /-- Nothing. -/
  | missing
  /-- Something that cannot be read. -/
  | unreadable (reason : String)
  /-- A text. -/
  | text (s : String)
  deriving DecidableEq, Repr

/-- What loading does: it reads files. -/
abbrev Loading (α : Type) := Program ReadFile (fun _ => FileContent) α

/-- What is in a file. -/
def readFile (path : String) : Loading FileContent := Program.issue ⟨path⟩

/-- The names of a path without `.` and with `..` taken back. -/
def canonical (path : String) : List String :=
  (Path.components path).foldl (fun l c => if c = ".." then l.dropLast else l ++ [c]) []

/-- The path that a file means by another one. -/
def relativeTo (file path : String) : String :=
  if Path.isAbsolute path.toList then path
  else
    match Path.parent? file with
    | some directory =>
      if directory.isEmpty then path
      else if directory = "/" then "/" ++ path
      else directory ++ "/" ++ path
    | none => path

/-- The path that a file extends, if it extends one. -/
def extended? (file : String) (entries : Json.Object) : Except LoadError (Option String) :=
  match Entries.get? "extends" entries with
  | none => .ok none
  | some (.string path) =>
    if path.isEmpty then .error (.file file "'extends' key must be a non-empty string")
    else .ok (some (relativeTo file path))
  | some _ => .error (.file file "'extends' key must be a string")

/-- What a file says over what the file says that it extends, at most `fuel` files. -/
def readChain : (fuel : Nat) → (seen : List String) → String → Loading (Except LoadError Value)
  | 0, seen, path => pure (.error (.cycle (path :: seen).reverse))
  | fuel + 1, seen, path => do
    match ← readFile path with
    | .missing => pure (.error (.file path "configuration file not found"))
    | .unreadable reason => pure (.error (.file path reason))
    | .text s =>
      match Toml.read s with
      | none => pure (.error (.file path "TOML parse error"))
      | some entries =>
        match extended? path entries with
        | .error e => pure (.error e)
        | .ok none => pure (.ok (.object entries))
        | .ok (some base) =>
          if (path :: seen).any fun p => canonical p = canonical base then
            pure (.error (.cycle (base :: path :: seen).reverse))
          else do
            match ← readChain fuel (path :: seen) base with
            | .error e => pure (.error e)
            | .ok below => pure (.ok (Layer.overlay below (.object entries)))

/-- How many files may extend each other. -/
def mostFiles : Nat := 1000

/-- What a file says together with the files it extends. -/
def readLayer (path : String) : Loading (Except LoadError Value) := readChain mostFiles [] path

/-- The files that are looked for in a directory of configurations. -/
def inDirectory (directory : String) : List String :=
  [directory ++ "/tether/config.toml", directory ++ "/.tether.toml"]

/-- The pieces of a text between colons that are not empty. -/
def colonPieces (s : String) : List String :=
  ((Environment.commaPieces (s.toList.map fun c => if c = ':' then ',' else c)).filter
    fun p => !p.isEmpty).map String.ofList

/-- What a variable holds that is set to something. -/
def setValue? (name : String) (vars : List Environment.Variable) : Option String :=
  (Environment.value? name vars).filter fun s => !s.isEmpty

/-- Where a file is looked for, in order. -/
def candidates (vars : List Environment.Variable) : List String :=
  (setValue? "TETHER_CONFIG_PATH" vars).toList
    ++ ((setValue? "XDG_CONFIG_HOME" vars).toList).flatMap inDirectory
    ++ ((setValue? "XDG_CONFIG_DIRS" vars).map colonPieces |>.getD ["/etc/xdg"]).flatMap
      inDirectory
    ++ ((setValue? "HOME" vars).toList).flatMap (fun home =>
      inDirectory (home ++ "/.config") ++ [home ++ "/.tether.toml"])
    ++ [".tether.toml"]

/-- The first file that says anything, or what was wrong with those that do not. -/
def discover (failed : List LoadError) :
    List String → Loading (Except (List LoadError) (Option Value))
  | [] => pure (if failed.isEmpty then .ok none else .error failed.reverse)
  | path :: rest => do
    match ← readFile path with
    | .missing => discover failed rest
    | _ =>
      match ← readLayer path with
      | .ok layer => pure (.ok (some layer))
      | .error e => discover (e :: failed) rest

/-- What the configuration file says, if there is one. -/
def fileLayer (explicit : Option String) (vars : List Environment.Variable) :
    Loading (Except (List LoadError) (Option Value)) :=
  match explicit with
  | none => discover [] (candidates vars)
  | some path => do
    match ← readLayer path with
    | .ok layer => pure (.ok (some layer))
    | .error e => pure (.error [e])

/-! ## The whole -/

/-- The layer of settings; no settings are no layer. -/
def layerOf (entries : Json.Object) : List Value :=
  if entries.isEmpty then [] else [.object entries]

/-- The path of the configuration file that a command line names. -/
def explicitPath (entries : Json.Object) : Option String :=
  match Entries.get? Flags.Target.configPath.name entries with
  | some (.string path) => some path
  | _ => none

/-- A result, and the mistakes on the way to it. -/
def orErrors {α β : Type} (wrap : β → List LoadError) (empty : α) : Except β α → α × List LoadError
  | .ok a => (a, [])
  | .error e => (empty, wrap e)

/-- Loads the configuration from the arguments and the environment. -/
def load (arguments : List String) (vars : List Environment.Variable) :
    Loading (Except LoadFailure Config) := do
  let (flags, flagErrors) := orErrors (fun e => [.commandLine e]) [] (Flags.read arguments)
  let found ← fileLayer (explicitPath flags) vars
  let (file, fileErrors) := orErrors id none found
  let layers := file.toList ++ layerOf (Environment.read vars) ++ layerOf flags
  let merged := ofJson (Layer.merge layers)
  let mergeErrors := match merged with
    | .ok _ => []
    | .error reason => [LoadError.merge reason]
  match LoadFailure.ofList? (flagErrors ++ fileErrors ++ mergeErrors), merged with
  | none, .ok config => pure (.ok config)
  | some failure, _ => pure (.error failure)
  | none, .error reason => pure (.error ⟨.merge reason, []⟩)

end Testbed.Config
