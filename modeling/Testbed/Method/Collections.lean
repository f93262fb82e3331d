import Testbed.Method.Basic

/-!
# Collections

Dictionaries and arrays that live in the daemon and that drivers fill and read through
handles. What they hold is JSON: an object stored in a collection is stored as its
marker.
-/

namespace Testbed.Method.Collections

open Argument Protocol Json

variable {σ : Type}

/-- The argument stored as a value: absent and `null` are stored as `null`. -/
def storedValue (name : String) (arguments : Arguments) : Value :=
  match arguments.get? name with
  | some v => v.toJson
  | none => .null

/-- Goes on with the object of a type given as an argument. -/
def withObject (type : ObjectType) (name : String) (arguments : Arguments)
    (next : Object → Action σ (Except Failure Outcome)) : Action σ (Except Failure Outcome) :=
  match arguments.object type name with
  | .error e => pure (.error (.argument e))
  | .ok o => next o

/-- The entries of a dictionary. -/
def entries (o : Object) : Action σ Json.Object := do
  let c ← Action.contents o
  pure c.entries

/-- The items of an array. -/
def items (o : Object) : Action σ (List Value) := do
  let c ← Action.contents o
  pure c.items

/-- Makes a dictionary that holds `content`. -/
def dictionaryCreate : Handler σ := fun arguments =>
  match arguments.mapping? "content" with
  | .error e => pure (.error (.argument e))
  | .ok content => do
    let o ← Action.create .dictionary
      (.dictionary (Resolved.entriesToJson (content.getD [])))
    pure (.ok (.object o))

/-- Sets `key` to `value`. -/
def dictionarySetValue : Handler σ := fun arguments =>
  withObject .dictionary "dictionary" arguments fun o =>
    match arguments.string "key" with
    | .error e => pure (.error (.argument e))
    | .ok key => do
      let held ← entries o
      Action.store o (.dictionary (Entries.put key (storedValue "value" arguments) held))
      pure (.ok .void)

/-- Yields the value of `key`, or `null`. -/
def dictionaryGetValue : Handler σ := fun arguments =>
  withObject .dictionary "dictionary" arguments fun o =>
    match arguments.string "key" with
    | .error e => pure (.error (.argument e))
    | .ok key => do
      let held ← entries o
      pure (.ok (.value ((Entries.get? key held).getD .null)))

/-- Yields the number of keys. -/
def dictionaryCount : Handler σ := fun arguments =>
  withObject .dictionary "dictionary" arguments fun o => do
    let held ← entries o
    pure (.ok (.value (.ofNat held.length)))

/-- Yields the entries. -/
def dictionaryToMap : Handler σ := fun arguments =>
  withObject .dictionary "dictionary" arguments fun o => do
    let held ← entries o
    pure (.ok (.value (.object held)))

/-- Makes an array that holds `content`. -/
def arrayCreate : Handler σ := fun arguments =>
  match arguments.sequence? "content" with
  | .error e => pure (.error (.argument e))
  | .ok content => do
    let o ← Action.create .array (.array (Resolved.itemsToJson (content.getD [])))
    pure (.ok (.object o))

/-- Appends `value`. -/
def arrayAddValue : Handler σ := fun arguments =>
  withObject .array "array" arguments fun o => do
    let held ← items o
    Action.store o (.array (held ++ [storedValue "value" arguments]))
    pure (.ok .void)

/-- The complaint about an index that is too great. -/
def outOfRange (index length : Nat) : Failure :=
  .handler ("index " ++ toString index ++ " is out of range for an array of " ++ toString length
    ++ " items") none

/-- Yields the item at `index`. -/
def arrayGetValue : Handler σ := fun arguments =>
  withObject .array "array" arguments fun o =>
    match arguments.natural "index" with
    | .error e => pure (.error (.argument e))
    | .ok index => do
      let held ← items o
      match held[index]? with
      | some v => pure (.ok (.value v))
      | none => pure (.error (outOfRange index held.length))

/-- Yields the number of items. -/
def arrayCount : Handler σ := fun arguments =>
  withObject .array "array" arguments fun o => do
    let held ← items o
    pure (.ok (.value (.ofNat held.length)))

/-- A dictionary that must be given. -/
def dictionaryParam : Param := ⟨"dictionary", .object ObjectType.dictionary.tag, true⟩

/-- An array that must be given. -/
def arrayParam : Param := ⟨"array", .object ObjectType.array.tag, true⟩

/-- A key that must be given. -/
def keyParam : Param := ⟨"key", .string, true⟩

/-- A value that may be given. -/
def valueParam : Param := ⟨"value", .any, false⟩

/-- The methods of collections. -/
def table : Table σ := [
  ⟨"dictionary_create", [⟨"content", .mapping, false⟩], dictionaryCreate⟩,
  ⟨"dictionary_setValue", [dictionaryParam, keyParam, valueParam], dictionarySetValue⟩,
  ⟨"dictionary_getValue", [dictionaryParam, keyParam], dictionaryGetValue⟩,
  ⟨"dictionary_count", [dictionaryParam], dictionaryCount⟩,
  ⟨"dictionary_toMap", [dictionaryParam], dictionaryToMap⟩,
  ⟨"array_create", [⟨"content", .sequence, false⟩], arrayCreate⟩,
  ⟨"array_addValue", [arrayParam, valueParam], arrayAddValue⟩,
  ⟨"array_getValue", [arrayParam, ⟨"index", .integer, true⟩], arrayGetValue⟩,
  ⟨"array_count", [arrayParam], arrayCount⟩]

/-- The feature. -/
def feature : Feature σ := ⟨"collections", table⟩

end Testbed.Method.Collections
