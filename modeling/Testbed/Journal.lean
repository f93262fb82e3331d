import Testbed.Health

/-!
# The journal

What the daemon has told so far, in order: log records and health events. The log is
the journal with each event told as a record (`Journal.records`).
-/

namespace Testbed

/-- Something told. -/
inductive Entry
  | record (r : Log.Record)
  | event (e : Health.Event)
  deriving DecidableEq, Repr

/-- An entry as a log record. -/
def Entry.asRecord : Entry → Log.Record
  | record r => r
  | event e => e.record

/-- The health event of an entry, if it is one. -/
def Entry.event? : Entry → Option Health.Event
  | record _ => none
  | event e => some e

/-- What has been told, in order. -/
abbrev Journal := Array Entry

namespace Journal

/-- The journal as log records. -/
def records (j : Journal) : List Log.Record := j.toList.map Entry.asRecord

/-- The health events of the journal. -/
def events (j : Journal) : List Health.Event := j.toList.filterMap Entry.event?

end Journal

end Testbed
