import Testbed.Method.Collections
import Testbed.Proofs.Argument.Check

/-!
# The store of collections

What a driver needs to know of a daemon with collections: it is a store that counts the
handles it has issued and keeps dictionaries and arrays under them. There are no identities
of objects, no heap and no resolved arguments; an operation is read off a request's raw
arguments, and what a collection holds is JSON with markers in canonical form.

* `Store.Operation.read?`: the operation that a request asks for;
* `Store.Operation.apply`: what an operation does to the store, and its reply;
* `Store.serve`: a request is refused for an unknown method or for a complaint about its
  arguments, and otherwise served by its operation.
-/

namespace Testbed

open Argument Protocol Json

/-- A collection. -/
inductive Collection
  /-- A dictionary, its keys in the order in which they were first set. -/
  | dictionary (entries : List (String × Value))
  /-- An array. -/
  | array (items : List Value)

namespace Collection

/-- The type of the objects that are such collections. -/
def type : Collection → ObjectType
  | dictionary _ => .dictionary
  | array _ => .array

/-- The entries of a dictionary. -/
def entries : Collection → List (String × Value)
  | dictionary entries => entries
  | array _ => []

/-- The items of an array. -/
def items : Collection → List Value
  | dictionary _ => []
  | array items => items

/-- The value of a key, `null` if the key was never set. -/
def value (key : String) (entries : List (String × Value)) : Value :=
  ((entries.find? fun e => e.1 = key).map Prod.snd).getD .null

/-- Sets a key: an old key keeps its place, a new one goes to the end. -/
def assign (key : String) (v : Value) (entries : List (String × Value)) :
    List (String × Value) :=
  match entries.findIdx? fun e => e.1 = key with
  | some i => entries.set i (key, v)
  | none => entries ++ [(key, v)]

end Collection

/-- The collections, and how many handles were issued. -/
structure Store where
  /-- How many handles were issued. -/
  issued : Nat := 0
  /-- The live collections, by handle. -/
  live : Entries Handle Collection := []

namespace Store

/-- What a driver may ask of a store. -/
inductive Operation
  /-- Forget a collection. -/
  | release (handle : Handle)
  /-- Forget all collections. -/
  | flush
  /-- Keep a new dictionary. -/
  | newDictionary (entries : List (String × Value))
  /-- Set a key of a dictionary. -/
  | setValue (handle : Handle) (key : String) (v : Value)
  /-- Read the value of a key. -/
  | getValue (handle : Handle) (key : String)
  /-- Count the keys of a dictionary. -/
  | countKeys (handle : Handle)
  /-- Read all of a dictionary. -/
  | toMap (handle : Handle)
  /-- Keep a new array. -/
  | newArray (items : List Value)
  /-- Add an item at the end of an array. -/
  | addValue (handle : Handle) (v : Value)
  /-- Read an item. -/
  | itemAt (handle : Handle) (index : Int)
  /-- Count the items of an array. -/
  | countItems (handle : Handle)

namespace Operation

/-! ## Reading requests -/

/-- The text that an argument is. -/
def textAt (name : String) (bag : Bag) : String :=
  match Entries.get? name bag with
  | some (.string text) => text
  | _ => ""

/-- The handle that an argument names; `@0` if it names none. -/
def handleAt (name : String) (bag : Bag) : Handle :=
  (Handle.ofMarker? (textAt name bag)).getD ⟨0⟩

/-- The integer that an argument is. -/
def integerAt (name : String) (bag : Bag) : Int :=
  match Entries.get? name bag with
  | some (.number (.integer n _)) => n
  | _ => 0

/-- The value of an argument to be stored, `null` if there is none. -/
def valueAt (name : String) (bag : Bag) : Value :=
  ((Entries.get? name bag).getD .null).canonical

/-- The entries of an argument to be stored, none if there is no argument. -/
def entriesAt (name : String) (bag : Bag) : List (String × Value) :=
  match Entries.get? name bag with
  | some (.object entries) => Value.canonicalEntries entries
  | _ => []

/-- The items of an argument to be stored, none if there is no argument. -/
def itemsAt (name : String) (bag : Bag) : List Value :=
  match Entries.get? name bag with
  | some (.array items) => Value.canonicalItems items
  | _ => []

/-- The operation that a request asks for. -/
def read? (method : String) (bag : Bag) : Option Operation :=
  match method with
  | "release" => some (.release (handleAt "object" bag))
  | "flushMemory" => some .flush
  | "dictionary_create" => some (.newDictionary (entriesAt "content" bag))
  | "dictionary_setValue" =>
    some (.setValue (handleAt "dictionary" bag) (textAt "key" bag) (valueAt "value" bag))
  | "dictionary_getValue" => some (.getValue (handleAt "dictionary" bag) (textAt "key" bag))
  | "dictionary_count" => some (.countKeys (handleAt "dictionary" bag))
  | "dictionary_toMap" => some (.toMap (handleAt "dictionary" bag))
  | "array_create" => some (.newArray (itemsAt "content" bag))
  | "array_addValue" => some (.addValue (handleAt "array" bag) (valueAt "value" bag))
  | "array_getValue" => some (.itemAt (handleAt "array" bag) (integerAt "index" bag))
  | "array_count" => some (.countItems (handleAt "array" bag))
  | _ => none

/-- What an operation asks of the arguments. -/
def signature : Operation → Signature
  | release _ => [⟨"object", .anyObject, true⟩]
  | flush => []
  | newDictionary _ => [⟨"content", .mapping, false⟩]
  | setValue _ _ _ =>
    [⟨"dictionary", .object ⟨"dictionary"⟩, true⟩, ⟨"key", .string, true⟩, ⟨"value", .any, false⟩]
  | getValue _ _ => [⟨"dictionary", .object ⟨"dictionary"⟩, true⟩, ⟨"key", .string, true⟩]
  | countKeys _ => [⟨"dictionary", .object ⟨"dictionary"⟩, true⟩]
  | toMap _ => [⟨"dictionary", .object ⟨"dictionary"⟩, true⟩]
  | newArray _ => [⟨"content", .sequence, false⟩]
  | addValue _ _ => [⟨"array", .object ⟨"array"⟩, true⟩, ⟨"value", .any, false⟩]
  | itemAt _ _ => [⟨"array", .object ⟨"array"⟩, true⟩, ⟨"index", .integer, true⟩]
  | countItems _ => [⟨"array", .object ⟨"array"⟩, true⟩]

/-- The collection whose contents an operation changes, if it changes any. -/
def written? : Operation → Option Handle
  | setValue h _ _ => some h
  | addValue h _ => some h
  | _ => none

end Operation

/-! ## Serving requests -/

/-- Which handles are live, and whether each names a dictionary or an array. -/
def directory (s : Store) : Directory :=
  fun h => (Entries.get? h s.live).map fun c => c.type.tag

/-- The handle that the next collection gets: the next number, of 64 bits. -/
def next (s : Store) : Handle := ⟨UInt64.ofNat (s.issued + 1)⟩

/-- The entries of the dictionary that a handle names. -/
def entries (h : Handle) (s : Store) : List (String × Value) :=
  ((Entries.get? h s.live).map Collection.entries).getD []

/-- The items of the array that a handle names. -/
def items (h : Handle) (s : Store) : List Value :=
  ((Entries.get? h s.live).map Collection.items).getD []

/-- Keeps a new collection. -/
def create (c : Collection) (s : Store) : Response × Store :=
  (.ok (.handle s.next c.type.tag), ⟨s.issued + 1, Entries.put s.next c s.live⟩)

/-- Replaces the collection that a handle names. -/
def update (h : Handle) (c : Collection) (s : Store) : Store :=
  { s with live := Entries.put h c s.live }

/-- The reply to the question for an item. -/
def itemReply (items : List Value) (index : Int) : Response :=
  if index < 0 then .error (.argument (.typeMismatch "index" "non-negative integer" "number"))
  else
    match items[index.toNat]? with
    | some v => .ok (.value v)
    | none => .error (Method.Collections.outOfRange index.toNat items.length)

/-- Carries out an operation. -/
def Operation.apply : Operation → Store → Response × Store
  | release h, s => (.ok .void, { s with live := Entries.erase h s.live })
  | flush, s => (.ok (.value (.ofNat s.live.length)), { s with live := [] })
  | newDictionary entries, s => s.create (.dictionary entries)
  | setValue h key v, s =>
    (.ok .void, s.update h (.dictionary (Collection.assign key v (s.entries h))))
  | getValue h key, s => (.ok (.value (Collection.value key (s.entries h))), s)
  | countKeys h, s => (.ok (.value (.ofNat (s.entries h).length)), s)
  | toMap h, s => (.ok (.value (.object (s.entries h))), s)
  | newArray items, s => s.create (.array items)
  | addValue h v, s => (.ok .void, s.update h (.array (s.items h ++ [v])))
  | itemAt h index, s => (itemReply (s.items h) index, s)
  | countItems h, s => (.ok (.value (.ofNat (s.items h).length)), s)

/-- Serves a request. -/
def serve (method : String) (bag : Bag) (s : Store) : Response × Store :=
  match Operation.read? method bag with
  | none => (.error (.methodNotFound method), s)
  | some op =>
    match s.directory.complaint? op.signature bag with
    | some e => (.error (.argument e), s)
    | none => op.apply s

/-- Serves requests one after the other, and collects the replies. -/
def serveAll : List (String × Bag) → Store → List Response × Store
  | [], s => ([], s)
  | (method, bag) :: r, s =>
    let (response, s) := s.serve method bag
    let (responses, s) := serveAll r s
    (response :: responses, s)

end Store

/-! ## Setting and reading keys -/

namespace Collection

variable (key : String) (v : Value)

theorem value_eq (entries : List (String × Value)) :
    value key entries = (Entries.get? key entries).getD .null := by
  rw [value]
  congr 1
  induction entries with
  | nil => rfl
  | cons e r ih =>
    obtain ⟨k, w⟩ := e
    rw [List.find?_cons, Entries.get?_cons]
    by_cases h : k = key
    · simp [h]
    · simp [h, ih]

theorem assign_eq (entries : List (String × Value)) :
    assign key v entries = Entries.put key v entries := by
  rw [assign]
  induction entries with
  | nil => rfl
  | cons e r ih =>
    obtain ⟨k, w⟩ := e
    rw [List.findIdx?_cons, Entries.put]
    by_cases h : k = key
    · simp [h]
    · rw [← ih]
      cases List.findIdx? (fun e => decide (e.1 = key)) r <;> simp [h]

end Collection

end Testbed
