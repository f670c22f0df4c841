/-
# Exclusion.Audit.Log -- the entries that are kept

The log has the newest entry first and keeps a fixed number of them.  `AuditLog.record` gives back the
entries for which there is no room any more.  The log is stored as a plain list of entries.
-/
import Exclusion.Audit.Entry

namespace Exclusion

set_option autoImplicit false

open Exclusion.Json

/-- A log of changes. -/
structure AuditLog where
  /-- The entries, newest first. -/
  entries : List AuditEntry
  /-- How many entries are kept when one is recorded. -/
  capacity : Nat
  deriving DecidableEq

inductive AuditError where
  /-- The log should keep no entries. -/
  | noCapacity
  /-- What is stored is no list of entries. -/
  | undecodable (cause : DecodeError)
  deriving DecidableEq, Repr

namespace AuditLog

/-- How many entries are kept when nothing else is said. -/
def standardCapacity : Nat := 30

/-- The empty log that keeps the usual number of entries. -/
def empty : AuditLog :=
  ⟨[], standardCapacity⟩

/-- The empty log that keeps so many entries. -/
def ofCapacity (capacity : Nat) : Except AuditError AuditLog :=
  if capacity = 0 then .error .noCapacity else .ok ⟨[], capacity⟩

/-- What is said of a log that should keep no entries. -/
def noCapacityMessage : String :=
  "audit log capacity must be at least 1"

/-- Adds an entry to the log; the second part is the entries that had to give way, newest first. -/
def record (log : AuditLog) (entry : AuditEntry) : AuditLog × List AuditEntry :=
  let entries := entry :: log.entries
  ({ log with entries := entries.take log.capacity }, entries.drop log.capacity)

/-! ## Stored logs -/

def entriesCodec : Codec (List AuditEntry) :=
  .list AuditEntry.codec

/-- Logs as lists of entries; the list does not tell how many entries are kept. -/
def codec : Codec AuditLog where
  encode log := entriesCodec.encode log.entries
  decode source node := (entriesCodec.decode source node).map fun entries => { empty with entries }

def text (log : AuditLog) : String :=
  entriesCodec.text log.entries

/-- Reads a stored log; entries for which there is no room are left out. -/
def ofText (text : String) (capacity : Nat) : Except AuditError AuditLog := do
  let log ← ofCapacity capacity
  let entries ← (entriesCodec.readText text).mapError .undecodable
  return { log with entries := entries.take capacity }

end AuditLog

end Exclusion
