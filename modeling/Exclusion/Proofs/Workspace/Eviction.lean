/-
# Exclusion.Proofs.Workspace.Eviction -- what becomes of snapshots that no entry names any more

A new entry can make older ones leave the log, for two reasons.  An entry for which there was room
before gives way to the new one, and its snapshot is erased.  But a log may also have been stored with
more entries than there is room for now, when the workspace could keep more of them.  Those that are
too many are left out as the log is read; nobody is told which they were, and their snapshots stay in
the store, though no entry names them any more.

So a call erases the snapshot of an entry that leaves the log exactly if the entry is among those for
which there is room (`erases_what_was_read`).  If the room is not made smaller, these are all.
-/
import Exclusion.Proofs.Workspace.Outage

namespace Exclusion

set_option autoImplicit false

open Exclusion.Json

/-! ## The entries that leave -/

/-- The snapshots that entries name. -/
def namedIds (entries : List AuditEntry) : List String :=
  entries.filterMap (·.snapshotId)

/-- Cutting down times does not change what is named. -/
theorem namedIds_floorMilli (entries : List AuditEntry) :
    namedIds (entries.map AuditEntry.floorMilli) = namedIds entries := by
  rw [namedIds, List.filterMap_map]
  rfl

namespace Workspace

section Record

variable {log : AuditLog} {entry : AuditEntry} {id : String}

/-- What the new entry and the old ones name is kept or gives way. -/
theorem namedIds_cons (log : AuditLog) (entry : AuditEntry) :
    namedIds (entry :: log.entries) =
      namedIds (log.record entry).1.entries ++ evictedIds log entry := by
  rw [evictedIds, namedIds, namedIds, ← List.filterMap_append, AuditLog.record,
    List.take_append_drop]

/-- Only old entries give way. -/
theorem evictedIds_subset (room : log.capacity ≠ 0) : evictedIds log entry ⊆ namedIds log.entries := by
  obtain ⟨n, capacity⟩ := Nat.exists_eq_succ_of_ne_zero room
  rw [evictedIds, AuditLog.record, capacity, Nat.succ_eq_add_one, List.drop_succ_cons]
  exact ((List.drop_sublist n log.entries).filterMap _).subset

/-- The new entry is kept. -/
theorem mem_namedIds_record (room : log.capacity ≠ 0) (named : entry.snapshotId = some id) :
    id ∈ namedIds (log.record entry).1.entries := by
  obtain ⟨n, capacity⟩ := Nat.exists_eq_succ_of_ne_zero room
  rw [AuditLog.record, capacity, Nat.succ_eq_add_one, List.take_succ_cons, namedIds,
    List.filterMap_cons_some named]
  exact List.mem_cons_self

end Record

/-! ## The snapshots of the entries that leave -/

section Recording

variable {ws : Workspace} {call : Call} {store : Store} {log : AuditLog} {stamp : Stamp}
  {book : RuleBook} {entry : AuditEntry} {writes : List Write}
  (recording : ws.Recording call store log stamp book entry writes)
include recording

/-- A snapshot that is named no more is erased if it was named in the log that was read, and is as it
was if not. -/
theorem Recording.get?_snapshotKey (room : log.capacity ≠ 0) {id : String}
    (gone : id ∉ namedIds (log.record entry).1.entries) :
    (store.writeAll writes).get? (ws.snapshotKey id) =
      if id ∈ namedIds log.entries then none else store.get? (ws.snapshotKey id) := by
  obtain ⟨mid, stores, records⟩ := recording.stored
  split
  · rename_i wasNamed
    have before : id ∈ namedIds (entry :: log.entries) :=
      ((List.sublist_cons_self _ _).filterMap _).subset wasNamed
    rw [namedIds_cons, List.mem_append] at before
    exact records.erased (before.resolve_left gone)
  · rename_i unnamed
    have other : id ≠ stamp.snapshotId := by
      rintro rfl
      exact gone (mem_namedIds_record room recording.named)
    rw [records.kept id fun evicted => unnamed (evictedIds_subset room evicted), stores.others id other]

/-- The log that is stored has the entries that were kept. -/
theorem Recording.logs (read : ws.logIn store = .ok log) (timely : call.IsTimely) :
    ws.Logs (store.writeAll writes) ((log.record entry).1.entries.map AuditEntry.floorMilli) := by
  obtain ⟨mid, -, records⟩ := recording.stored
  exact .inr ⟨_, records.logged, AuditLog.readText_entries
    (ws.isLeap_of_mem_record read (recording.isLeap_eq_false timely))⟩

end Recording

/-- **A call erases the snapshots of the entries that leave the log, but only of those for which there
is room.**  Whatever is stored, with any number of entries: after a call that recorded an entry, a
snapshot that an entry named before and none names any more is gone if the entry was among the newest,
as many as are kept, and is just as it was if not. -/
theorem erases_what_was_read (ws : Workspace) {world after : World} {entries : List AuditEntry}
    (logs : ws.Logs world.store entries) {call : Call} (timely : call.IsTimely) {entry : AuditEntry}
    (recorded : (ws.perform call).run world = (.ok (some entry), after)) :
    ∃ kept, ws.Logs after.store kept ∧
      ∀ id ∈ namedIds entries, id ∉ namedIds kept →
        after.store.get? (ws.snapshotKey id) =
          if id ∈ namedIds (entries.take ws.config.audit.maxEntries) then none
          else world.store.get? (ws.snapshotKey id) := by
  obtain ⟨stamp, book, writes, recording, wrote⟩ := exists_recording_of_ok logs.logIn recorded
  rw [wrote]
  refine ⟨_, recording.logs logs.logIn timely, fun id _ gone => ?_⟩
  rw [namedIds_floorMilli] at gone
  exact recording.get?_snapshotKey ws.maxEntries_ne_zero gone

/-! ## A log with less room than before -/

/-- A workspace that keeps one entry. -/
def narrow : Workspace :=
  ⟨{ audit := { maxEntries := 1 } }, rfl, false⟩

/-- An entry about a publication with a snapshot of no rules. -/
def pastEntry (id snapshotId : String) : AuditEntry :=
  (Change.published .standard 0).entry id .epoch "ann" snapshotId

/-- What was stored when two entries were kept. -/
def crowded : World where
  store := ((Store.empty.set narrow.auditKey
      (AuditLog.entriesCodec.text [pastEntry "e2" "s2", pastEntry "e1" "s1"])).set
    (narrow.snapshotKey "s1") "[]").set (narrow.snapshotKey "s2") "[]"

theorem logs_crowded :
    narrow.Logs crowded.store [pastEntry "e2" "s2", pastEntry "e1" "s1"] := by
  have stored : crowded.store.get? narrow.auditKey =
      some (AuditLog.entriesCodec.text [pastEntry "e2" "s2", pastEntry "e1" "s1"]) := by
    refine (Store.get?_set_of_ne (narrow.auditKey_ne_snapshotKey _)).trans ?_
    refine (Store.get?_set_of_ne (narrow.auditKey_ne_snapshotKey _)).trans ?_
    exact Store.get?_set_self _ _ _
  exact .inr ⟨_, stored, AuditLog.readText_entries (by decide)⟩

/-- A publication there is recorded. -/
theorem run_publish_crowded : ∃ entry after,
    (narrow.perform (.publish ⟨"s3", "e3", .epoch, .epoch⟩ "ann")).run crowded =
      (.ok (some entry), after) := by
  have loaded : narrow.bookIn crowded.store = .ok {} := rfl
  obtain ⟨purge, after, published⟩ := narrow.publish_ok (fun _ => rfl) loaded rfl logs_crowded.logIn
    ⟨"s3", "e3", .epoch, .epoch⟩ "ann"
  refine ⟨narrow.publishEntry ⟨"s3", "e3", .epoch, .epoch⟩ "ann" {}, after, ?_⟩
  rw [perform, Action.run_map, published]
  rfl

/-- The newer of the snapshots is erased, and the older one stays. -/
theorem erases_what_was_read_crowded : ∃ entry after,
    (narrow.perform (.publish ⟨"s3", "e3", .epoch, .epoch⟩ "ann")).run crowded =
      (.ok (some entry), after) ∧
    ∃ kept, narrow.Logs after.store kept ∧
      ∀ id ∈ ["s2", "s1"], id ∉ namedIds kept →
        after.store.get? (narrow.snapshotKey id) =
          if id ∈ ["s2"] then none else crowded.store.get? (narrow.snapshotKey id) := by
  obtain ⟨entry, after, recorded⟩ := run_publish_crowded
  exact ⟨entry, after, recorded, erases_what_was_read narrow logs_crowded (by decide) recorded⟩

/-- The older snapshot is still there when no entry names it any more. -/
theorem keeps_unnamed_snapshot : ∃ entry after kept,
    (narrow.perform (.publish ⟨"s3", "e3", .epoch, .epoch⟩ "ann")).run crowded =
      (.ok (some entry), after) ∧
    narrow.Logs after.store kept ∧
    "s1" ∈ namedIds [pastEntry "e2" "s2", pastEntry "e1" "s1"] ∧ "s1" ∉ namedIds kept ∧
    after.store.get? (narrow.snapshotKey "s1") = some "[]" := by
  obtain ⟨entry, after, recorded⟩ := run_publish_crowded
  obtain ⟨stamp, book, writes, recording, wrote⟩ := exists_recording_of_ok logs_crowded.logIn recorded
  have unnamed : "s1" ∉ namedIds ((AuditLog.record
      ⟨[pastEntry "e2" "s2", pastEntry "e1" "s1"].take 1, 1⟩ entry).1.entries) := by
    cases recording.given
    simp [AuditLog.record, namedIds, recording.named]
  refine ⟨entry, after, _, recorded, wrote ▸ recording.logs logs_crowded.logIn (by decide),
    by decide, ?_, ?_⟩
  · rw [namedIds_floorMilli]
    exact unnamed
  · rw [wrote, recording.get?_snapshotKey Nat.one_ne_zero unnamed]
    exact Store.get?_set_of_ne (mt narrow.snapshotKey_inj.1 (by decide))

end Workspace

end Exclusion
