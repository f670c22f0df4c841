/-
# Exclusion.Proofs.Workspace.Stored -- what a workspace reads of what it stored

The rule book, the audit log and the snapshots of a workspace are texts under keys of its store.  When
a key has the text that was written for something, that is what is read, with dates cut down to the
millisecond (`bookIn_of_get?`, `logIn_of_get?`, `snapshotIn_of_get?`).  Whatever was read has no finer
dates.
-/
import Exclusion.Proofs.Audit.Wire
import Exclusion.Proofs.Rule.Wire
import Exclusion.Proofs.Workspace.Plan

namespace Exclusion.Workspace

set_option autoImplicit false

open Exclusion.Json

variable (ws : Workspace) {store : Store}

/-! ## The rule book -/

theorem readIn_of_get? {α : Type} {codec : Codec α} {key : StoreKey} {text : String} {a : α}
    (stored : store.get? key = some text) (read : codec.readText text = .ok a) :
    readIn codec key store = .ok (some a) := by
  rw [readIn, stored]
  simp only [read]
  rfl

theorem readIn_of_none {α : Type} {codec : Codec α} {key : StoreKey}
    (absent : store.get? key = none) : readIn codec key store = .ok none := by
  rw [readIn, absent]

theorem readIn_eq_some {α : Type} {codec : Codec α} {key : StoreKey} {a : α}
    (read : readIn codec key store = .ok (some a)) :
    ∃ text, store.get? key = some text ∧ codec.readText text = .ok a := by
  unfold readIn at read
  split at read
  · cases read
  · rename_i text stored
    refine ⟨text, stored, ?_⟩
    cases decoded : codec.readText text with
    | error cause =>
        rw [decoded] at read
        cases read
    | ok b =>
        rw [decoded] at read
        cases read
        rfl

theorem exists_readText_of_readIn {α : Type} {codec : Codec α} {key : StoreKey} {text : String}
    {found : Option α} (stored : store.get? key = some text)
    (read : readIn codec key store = .ok found) : ∃ a, codec.readText text = .ok a := by
  rw [readIn, stored] at read
  dsimp only at read
  cases decoded : codec.readText text with
  | error cause =>
      rw [decoded] at read
      cases read
  | ok a => exact ⟨a, rfl⟩

/-- A stored rule book is read with its dates cut down. -/
theorem readIn_rulesKey_of_get? {book : RuleBook}
    (stored : store.get? ws.rulesKey = some (RuleBook.codec.text book))
    (avoid : ∀ r ∈ book.rules, r.AvoidsLeapSeconds) :
    readIn RuleBook.codec ws.rulesKey store =
      .ok (some { book with rules := book.rules.map Rule.floorMilli }) :=
  readIn_of_get? stored (RuleBook.readText_text avoid)

/-- It is read with the dates that milliseconds tell. -/
theorem readIn_rulesKey_of_isStorable {book : RuleBook}
    (stored : store.get? ws.rulesKey = some (RuleBook.codec.text book))
    (storable : ∀ r ∈ book.rules, r.IsStorable) :
    readIn RuleBook.codec ws.rulesKey store =
      .ok (some { book with rules := book.rules.map (Rule.mapDates Instant.stored) }) :=
  readIn_of_get? stored (RuleBook.readText_stored storable)

/-- Stored rules are loaded as they are if their dates are whole milliseconds. -/
theorem loadStored_of_get? {world : World} {rules : List Rule}
    (reliable : ∀ n, world.storeFails n = false)
    (stored : world.store.get? ws.rulesKey = some (RuleBook.codec.text { rules }))
    (whole : ∀ r ∈ rules, r.IsWholeMilli) :
    (ws.loadStored.run world).1 = .ok (some ⟨rules, ""⟩) := by
  have avoid : ∀ r ∈ rules, r.AvoidsLeapSeconds := fun r listed => (whole r listed).avoidsLeapSeconds
  rw [((ws.follows_loadStored _).of_reliable rfl reliable).1,
    ws.readIn_rulesKey_of_get? stored avoid, Rule.map_floorMilli whole]

theorem bookIn_of_get? {book : RuleBook}
    (stored : store.get? ws.rulesKey = some (RuleBook.codec.text book))
    (avoid : ∀ r ∈ book.rules, r.AvoidsLeapSeconds) :
    ws.bookIn store = .ok { book with rules := book.rules.map Rule.floorMilli } := by
  rw [bookIn, ws.readIn_rulesKey_of_get? stored avoid]
  rfl

/-- The rules of a book that was read have whole milliseconds for dates. -/
theorem isWholeMilli_of_bookIn {book : RuleBook} (loaded : ws.bookIn store = .ok book) :
    ∀ r ∈ book.rules, r.IsWholeMilli := by
  obtain ⟨stored, read, rfl⟩ := except_map_eq_ok.1 loaded
  cases stored with
  | none =>
      intro r member
      exact absurd member List.not_mem_nil
  | some book =>
      obtain ⟨text, -, decoded⟩ := readIn_eq_some read
      exact RuleBook.isWholeMilli_of_readText decoded

/-! ## Snapshots -/

/-- The rules of a snapshot in a store. -/
def snapshotIn (id : String) (store : Store) : Except Failure (Option (List Rule)) :=
  readIn Rule.listCodec (ws.snapshotKey id) store

theorem snapshotIn_of_get? {id : String} {rules : List Rule}
    (stored : store.get? (ws.snapshotKey id) = some (Rule.listCodec.text rules))
    (avoid : ∀ r ∈ rules, r.AvoidsLeapSeconds) :
    ws.snapshotIn id store = .ok (some (rules.map Rule.floorMilli)) :=
  readIn_of_get? stored (Rule.readText_list avoid)

/-! ## The audit log -/

theorem maxEntries_ne_zero : ws.config.audit.maxEntries ≠ 0 := by
  intro zero
  have sound := ws.config_sound
  unfold Config.flaw? at sound
  rw [if_pos zero] at sound
  split_ifs at sound

theorem logIn_of_none (absent : store.get? ws.auditKey = none) :
    ws.logIn store = .ok ⟨[], ws.config.audit.maxEntries⟩ := by
  rw [logIn, absent, auditLogOf, AuditLog.ofCapacity, if_neg ws.maxEntries_ne_zero]
  rfl

/-- The entries of a log that was read have whole milliseconds for times. -/
theorem isWholeMilli_of_logIn {log : AuditLog} (read : ws.logIn store = .ok log) :
    AuditLog.AreWholeMilli log.entries := by
  cases found : store.get? ws.auditKey with
  | none =>
      cases (ws.logIn_of_none found).symm.trans read
      exact List.forall_mem_nil _
  | some text =>
      rw [logIn, found, auditLogOf] at read
      cases decoded : AuditLog.ofText text ws.config.audit.maxEntries with
      | error cause =>
          rw [decoded] at read
          cases read
      | ok stored =>
          rw [decoded] at read
          cases read
          exact (AuditLog.ofText_eq_ok decoded).2.2

/-- After one more entry was recorded, outside leap seconds, no entry is of a leap second. -/
theorem isLeap_of_mem_record {log : AuditLog} {entry : AuditEntry} (read : ws.logIn store = .ok log)
    (plain : entry.recordedAt.isLeap = false) :
    ∀ e ∈ (log.record entry).1.entries, e.recordedAt.isLeap = false := by
  intro e listed
  rcases List.mem_cons.1 (List.mem_of_mem_take listed) with rfl | before
  · exact plain
  · exact Instant.isLeap_of_isWholeMilli (ws.isWholeMilli_of_logIn read e before)

/-- A stored log is read with its times cut down. -/
theorem logIn_of_get? {log : AuditLog} (stored : store.get? ws.auditKey = some log.text)
    (plain : ∀ e ∈ log.entries, e.recordedAt.isLeap = false) :
    ws.logIn store = .ok ⟨(log.entries.map AuditEntry.floorMilli).take ws.config.audit.maxEntries,
      ws.config.audit.maxEntries⟩ := by
  rw [logIn, stored, auditLogOf, AuditLog.ofText_text ws.maxEntries_ne_zero plain]
  rfl

end Exclusion.Workspace
