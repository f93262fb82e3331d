import Testbed.Bytes
import Testbed.Entries
import Testbed.Json.Value

/-!
# Tables in the making

While a file is read its tables grow, line by line. A draft knows of each table how it
came about, because that decides whether more may be put into it.

* `assign`: sets a key;
* `openTable` and `openItem`: open the table of a header;
* `finishEntries`: the tables as a JSON object.
-/

namespace Testbed.Config.Toml

open Json

/-- How a table came about. -/
inductive Origin
  /-- It is on the way to a table with a header. -/
  | implied
  /-- It has a header. -/
  | headed
  /-- It was gathered by dotted keys. -/
  | dotted
  deriving DecidableEq, Repr

/-- What a key stands for while a file is read. -/
inductive Item
  /-- A value, complete as it is. -/
  | value (v : Value)
  /-- A table that may grow. -/
  | table (origin : Origin) (entries : List (String × Item))
  /-- A list of tables, of which the last may grow. -/
  | tables (items : List (List (String × Item)))

/-- The entries of a table in the making. -/
abbrev Draft := Entries String Item

/-- Sets a key, which may be dotted, in a draft; refused where the key is taken. -/
def assign (v : Value) : List String → Draft → Option Draft
  | [], _ => none
  | [key], d =>
    match Entries.get? key d with
    | some _ => none
    | none => some (Entries.put key (.value v) d)
  | key :: keys, d =>
    match Entries.get? key d with
    | none => do
      let inner ← assign v keys []
      some (Entries.put key (.table .dotted inner) d)
    | some (.table .dotted entries) => do
      let inner ← assign v keys entries
      some (Entries.put key (.table .dotted inner) d)
    | some _ => none

/-- Changes the last item of a list. -/
def changeLast {α : Type} (f : α → Option α) : List α → Option (List α)
  | [] => none
  | [a] => (f a).map fun a => [a]
  | a :: r => (changeLast f r).map fun r => a :: r

/-- Opens the table of a header; refused where it has been opened before. -/
def openTable : List String → Draft → Option Draft
  | [], _ => none
  | [key], d =>
    match Entries.get? key d with
    | none => some (Entries.put key (.table .headed []) d)
    | some (.table .implied entries) => some (Entries.put key (.table .headed entries) d)
    | some _ => none
  | key :: keys, d =>
    match Entries.get? key d with
    | none => do
      let inner ← openTable keys []
      some (Entries.put key (.table .implied inner) d)
    | some (.table origin entries) => do
      let inner ← openTable keys entries
      some (Entries.put key (.table origin inner) d)
    | some (.tables items) => do
      let items ← changeLast (openTable keys) items
      some (Entries.put key (.tables items) d)
    | some (.value _) => none

/-- Opens a further table of a list of tables. -/
def openItem : List String → Draft → Option Draft
  | [], _ => none
  | [key], d =>
    match Entries.get? key d with
    | none => some (Entries.put key (.tables [[]]) d)
    | some (.tables items) => some (Entries.put key (.tables (items ++ [[]])) d)
    | some _ => none
  | key :: keys, d =>
    match Entries.get? key d with
    | none => do
      let inner ← openItem keys []
      some (Entries.put key (.table .implied inner) d)
    | some (.table origin entries) => do
      let inner ← openItem keys entries
      some (Entries.put key (.table origin inner) d)
    | some (.tables items) => do
      let items ← changeLast (openItem keys) items
      some (Entries.put key (.tables items) d)
    | some (.value _) => none

/-- Changes the table of a header that has been opened. -/
def within (f : Draft → Option Draft) : List String → Draft → Option Draft
  | [], d => f d
  | key :: keys, d =>
    match Entries.get? key d with
    | some (.table origin entries) => do
      let inner ← within f keys entries
      some (Entries.put key (.table origin inner) d)
    | some (.tables items) => do
      let items ← changeLast (within f keys) items
      some (Entries.put key (.tables items) d)
    | _ => none

/-- Entries in the order of the octets of their keys. -/
def sorted (entries : List (String × Value)) : List (String × Value) :=
  entries.mergeSort fun a b => Bytes.le (Bytes.ofString a.1) (Bytes.ofString b.1)

mutual

/-- What a key stands for in the end. -/
def finishItem : Item → Value
  | .value v => v
  | .table _ entries => .object (sorted (finishEntries entries))
  | .tables items => .array (finishItems items)

/-- What the keys of a table stand for in the end. -/
def finishEntries : List (String × Item) → List (String × Value)
  | [] => []
  | (key, item) :: r => (key, finishItem item) :: finishEntries r

/-- What the tables of a list stand for in the end. -/
def finishItems : List (List (String × Item)) → List Value
  | [] => []
  | entries :: r => .object (sorted (finishEntries entries)) :: finishItems r

end

end Testbed.Config.Toml
