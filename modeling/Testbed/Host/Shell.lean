/-!
# Shell scripts

The part of the shell's language that small service scripts are written in: lists of
commands, conditions and loops, subshells, commands in the background, output to a file,
quotes, and the parameters `$$`, `$!` and `$?`.

`Shell.parse` reads a script; nothing stands for a script with a mistake in it.
-/

namespace Testbed.Host.Shell

/-- A piece of a word. -/
inductive Piece
  /-- What is written. -/
  | text (s : List Char)
  /-- The number of the shell. -/
  | self
  /-- The number of the last command put into the background. -/
  | background
  /-- The status of the last command. -/
  | status
  deriving DecidableEq, Repr

/-- A word: its pieces, and whether any of it is quoted. -/
structure Word where
  /-- The pieces. -/
  pieces : List Piece := []
  /-- Whether any of it is quoted. -/
  quoted : Bool := false
  deriving DecidableEq, Repr

/-- A command. -/
inductive Command
  /-- Nothing. -/
  | skip
  /-- A command of words, and the file that takes its output. -/
  | simple (words : List Word) (output : Option Word)
  /-- One command after another. -/
  | sequence (first second : Command)
  /-- The second command, if the first one succeeds or fails, as told. -/
  | conditional (wanted : Bool) (first second : Command)
  /-- The body again and again, as long as the condition succeeds or fails, as told. -/
  | loop (wanted : Bool) (condition body : Command)
  /-- One of two commands, as the condition tells. -/
  | choice (condition yes no : Command)
  /-- A command in a shell of its own. -/
  | subshell (body : Command)
  /-- A command that is not waited for. -/
  | detached (body : Command)
  deriving Repr

/-! ## Tokens -/

/-- A token of a script. -/
inductive Token
  | word (w : Word)
  | semicolon
  | ampersand
  | both
  | either
  | opening
  | closing
  | output
  deriving DecidableEq, Repr

/-- A word with more written at its end. -/
def Word.add (w : Word) (c : Char) : Word :=
  match w.pieces.reverse with
  | .text s :: r => { w with pieces := (Piece.text (s ++ [c]) :: r).reverse }
  | _ => { w with pieces := w.pieces ++ [.text [c]] }

/-- A word with a piece at its end. -/
def Word.put (w : Word) (p : Piece) : Word := { w with pieces := w.pieces ++ [p] }

/-- What a word says when nothing in it is quoted and it has no parameters. -/
def Word.plain? (w : Word) : Option String :=
  if w.quoted then none
  else
    match w.pieces with
    | [.text s] => some (String.ofList s)
    | _ => none

/-- Where the reading of a word stands. -/
inductive Quoting
  | bare
  | single
  | double
  deriving DecidableEq

/-- The parameter that a character after a dollar sign stands for. -/
def parameter? (c : Char) : Option Piece :=
  if c = '$' then some .self
  else if c = '!' then some .background
  else if c = '?' then some .status
  else none

/-- A word that has been begun, as a token in front of others. -/
def finishWord (w : Option Word) (rest : List Token) : List Token :=
  match w with
  | some w => .word w :: rest
  | none => rest

/-- A word that has been begun and a token, in front of the tokens that follow. -/
def finishToken (w : Option Word) (t : Token) (rest : Option (List Token)) :
    Option (List Token) :=
  rest.map fun l => finishWord w (t :: l)

/-- The tokens of a script, after the beginning of a word. Nothing stands for a quote that
    is not closed. -/
def tokens (quoting : Quoting) (w : Option Word) (s : List Char) : Option (List Token) :=
  match quoting, s with
  | .bare, [] => some (finishWord w [])
  | _, [] => none
  | .single, '\'' :: r => tokens .bare w r
  | .single, c :: r => tokens .single (some ((w.getD {}).add c)) r
  | .double, '"' :: r => tokens .bare w r
  | .double, '\\' :: c :: r => tokens .double (some ((w.getD {}).add c)) r
  | .double, '$' :: c :: r =>
    match parameter? c with
    | some p => tokens .double (some ((w.getD {}).put p)) r
    | none => tokens .double (some ((w.getD {}).add '$')) (c :: r)
  | .double, c :: r => tokens .double (some ((w.getD {}).add c)) r
  | .bare, '\'' :: r => tokens .single (some { w.getD {} with quoted := true }) r
  | .bare, '"' :: r => tokens .double (some { w.getD {} with quoted := true }) r
  | .bare, '\\' :: c :: r => tokens .bare (some { (w.getD {}).add c with quoted := true }) r
  | .bare, '$' :: c :: r =>
    match parameter? c with
    | some p => tokens .bare (some ((w.getD {}).put p)) r
    | none => tokens .bare (some ((w.getD {}).add '$')) (c :: r)
  | .bare, ' ' :: r => (tokens .bare none r).map (finishWord w)
  | .bare, '\t' :: r => (tokens .bare none r).map (finishWord w)
  | .bare, '\n' :: r => finishToken w .semicolon (tokens .bare none r)
  | .bare, ';' :: r => finishToken w .semicolon (tokens .bare none r)
  | .bare, '&' :: '&' :: r => finishToken w .both (tokens .bare none r)
  | .bare, '&' :: r => finishToken w .ampersand (tokens .bare none r)
  | .bare, '|' :: '|' :: r => finishToken w .either (tokens .bare none r)
  | .bare, '(' :: r => finishToken w .opening (tokens .bare none r)
  | .bare, ')' :: r => finishToken w .closing (tokens .bare none r)
  | .bare, '>' :: r => finishToken w .output (tokens .bare none r)
  | .bare, c :: r => tokens .bare (some ((w.getD {}).add c)) r
  termination_by s.length

/-! ## Commands -/

/-- The word that a list of tokens starts with, if it is plain. -/
def keyword? : List Token → Option String
  | .word w :: _ => w.plain?
  | _ => none

/-- The words that end a list of commands. -/
def closers : List String :=
  ["do", "done", "then", "else", "fi", String.singleton '}']

/-- Whether a list of commands is over. -/
def isOver (l : List Token) : Bool :=
  match l with
  | [] => true
  | .closing :: _ => true
  | l =>
    match keyword? l with
    | some k => closers.contains k
    | none => false

/-- What follows a keyword that must come next. -/
def expect (keyword : String) (l : List Token) : Option (List Token) :=
  if keyword? l = some keyword then some l.tail else none

/-- The words and the output of a command. -/
def readSimple (words : List Word) (output : Option Word) :
    List Token → Option (Command × List Token)
  | .word w :: r => readSimple (w :: words) output r
  | .output :: .word w :: r => readSimple words (some w) r
  | .output :: _ => none
  | l => if words.isEmpty && output.isNone then none else some (.simple words.reverse output, l)

mutual

/-- Reads a list of commands. -/
def readList : (fuel : Nat) → List Token → Option (Command × List Token)
  | 0, _ => none
  | fuel + 1, l =>
    match l with
    | .semicolon :: l => readList fuel l
    | l =>
      if isOver l then some (.skip, l)
      else do
        let (c, l) ← readChain fuel l
        match l with
        | .semicolon :: l => do
          let (d, l) ← readList fuel l
          some (.sequence c d, l)
        | .ampersand :: l => do
          let (d, l) ← readList fuel l
          some (.sequence (.detached c) d, l)
        | l => some (c, l)

/-- Reads commands of which each depends on what became of those before. -/
def readChain : (fuel : Nat) → List Token → Option (Command × List Token)
  | 0, _ => none
  | fuel + 1, l => do
    let (c, l) ← readCommand fuel l
    readLinks fuel c l

/-- Reads the commands that depend on a command. -/
def readLinks : (fuel : Nat) → Command → List Token → Option (Command × List Token)
  | 0, _, _ => none
  | fuel + 1, c, l =>
    match l with
    | .both :: l => do
      let (d, l) ← readCommand fuel l
      readLinks fuel (.conditional true c d) l
    | .either :: l => do
      let (d, l) ← readCommand fuel l
      readLinks fuel (.conditional false c d) l
    | l => some (c, l)

/-- Reads a loop after its first word. -/
def readLoop : (fuel : Nat) → (wanted : Bool) → List Token → Option (Command × List Token)
  | 0, _, _ => none
  | fuel + 1, wanted, l => do
    let (condition, l) ← readList fuel l
    let l ← expect "do" l
    let (body, l) ← readList fuel l
    let l ← expect "done" l
    some (.loop wanted condition body, l)

/-- Reads a single command. -/
def readCommand : (fuel : Nat) → List Token → Option (Command × List Token)
  | 0, _ => none
  | fuel + 1, l =>
    match l with
    | .opening :: l => do
      let (body, l) ← readList fuel l
      match l with
      | .closing :: l => some (.subshell body, l)
      | _ => none
    | l =>
      match keyword? l with
      | some "while" => readLoop fuel true l.tail
      | some "until" => readLoop fuel false l.tail
      | some "if" => do
        let (condition, l) ← readList fuel l.tail
        let l ← expect "then" l
        let (yes, l) ← readList fuel l
        if keyword? l = some "else" then do
          let (no, l) ← readList fuel l.tail
          let l ← expect "fi" l
          some (.choice condition yes no, l)
        else do
          let l ← expect "fi" l
          some (.choice condition yes .skip, l)
      | some k =>
        if k = String.singleton '{' then do
          let (body, l) ← readList fuel l.tail
          let l ← expect (String.singleton '}') l
          some (body, l)
        else readSimple [] none l
      | none => readSimple [] none l

end

/-- Reads a script. -/
def parse (script : String) : Option Command := do
  let l ← tokens .bare none script.toList
  let (c, rest) ← readList (4 * l.length + 4) l
  if rest.isEmpty then some c else none

end Testbed.Host.Shell
