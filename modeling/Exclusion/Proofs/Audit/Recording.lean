/-
# Exclusion.Proofs.Audit.Recording -- nothing is lost when entries are recorded

Recording an entry puts it before the entries of the log and cuts off what is too many, and what is cut
off is given back (`AuditLog.record_partition`).  A log that has room for its entries has room for them
after that, so that each time at most one entry gives way, the oldest (`AuditLog.length_record_le_one`).
After any number of entries the log and what was given back are therefore all entries, recorded or there
before, in order of time (`AuditLog.entries_append_evicted`).

The log that results comes back as it is when it is stored and read with the same capacity, provided that
the entries were recorded on whole milliseconds; a log that was read has no others.
-/
import Exclusion.Proofs.Audit.Capacity

namespace Exclusion

set_option autoImplicit false

namespace AuditLog

variable {log : AuditLog}

/-! ## One entry -/

/-- The entry and the old entries are divided into what is kept and what is given back. -/
theorem record_partition (log : AuditLog) (entry : AuditEntry) :
    (log.record entry).1.entries ++ (log.record entry).2 = entry :: log.entries :=
  List.take_append_drop _ _

theorem length_record_le_one (room : log.HasRoom) (entry : AuditEntry) :
    (log.record entry).2.length ≤ 1 := by
  rw [HasRoom] at room
  simp only [record, List.length_drop, List.length_cons]
  omega

/-- So the order in which entries are given back does not matter. -/
theorem reverse_record (room : log.HasRoom) (entry : AuditEntry) :
    (log.record entry).2.reverse = (log.record entry).2 := by
  rcases Nat.le_one_iff_eq_zero_or_eq_one.1 (length_record_le_one room entry) with none | one
  · rw [List.length_eq_zero_iff.1 none]
    rfl
  · obtain ⟨old, same⟩ := List.length_eq_one_iff.1 one
    rw [same]
    rfl

/-! ## Entries one after the other -/

/-- What is given back while entries are recorded, in order of time. -/
def evicted (log : AuditLog) : List AuditEntry → List AuditEntry
  | [] => []
  | entry :: entries => (log.record entry).2 ++ (log.record entry).1.evicted entries

theorem recordAll_concat (log : AuditLog) (entries : List AuditEntry) (entry : AuditEntry) :
    log.recordAll (entries ++ [entry]) = ((log.recordAll entries).record entry).1 := by
  rw [recordAll, List.foldl_append]
  rfl

theorem evicted_concat (log : AuditLog) (entries : List AuditEntry) (entry : AuditEntry) :
    log.evicted (entries ++ [entry]) =
      log.evicted entries ++ ((log.recordAll entries).record entry).2 := by
  induction entries generalizing log with
  | nil => exact List.append_nil _
  | cons first entries ih =>
      rw [List.cons_append, evicted, ih, evicted, List.append_assoc]
      rfl

theorem hasRoom_recordAll_of_hasRoom (room : log.HasRoom) (entries : List AuditEntry) :
    (log.recordAll entries).HasRoom := by
  cases entries with
  | nil => exact room
  | cons entry entries => exact log.hasRoom_recordAll (List.cons_ne_nil entry entries)

theorem entries_recordAll_of_hasRoom (room : log.HasRoom) (entries : List AuditEntry) :
    (log.recordAll entries).entries = (entries.reverse ++ log.entries).take log.capacity := by
  cases entries with
  | nil => exact (List.take_of_length_le room).symm
  | cons entry entries => exact log.entries_recordAll (List.cons_ne_nil entry entries)

/-- What the log has in the end and what was given back, the last first, are all entries. -/
theorem entries_append_evicted (room : log.HasRoom) (entries : List AuditEntry) :
    (log.recordAll entries).entries ++ (log.evicted entries).reverse =
      entries.reverse ++ log.entries := by
  -- The last entry is recorded in the log of those before it.
  induction entries using List.reverseRecOn with
  | nil => exact List.append_nil _
  | append_singleton entries entry ih =>
      have roomThen := hasRoom_recordAll_of_hasRoom room entries
      rw [recordAll_concat, evicted_concat, List.reverse_append, reverse_record roomThen,
        ← List.append_assoc, record_partition, List.cons_append, ih, List.reverse_concat,
        List.cons_append]

/-! ## Stored logs -/

theorem areWholeMilli_recordAll {entries : List AuditEntry} (before : AreWholeMilli log.entries)
    (whole : AreWholeMilli entries) : AreWholeMilli (log.recordAll entries).entries := by
  cases entries with
  | nil => exact before
  | cons entry others =>
      intro e kept
      rw [log.entries_recordAll (List.cons_ne_nil entry others)] at kept
      rcases List.mem_append.1 (List.mem_of_mem_take kept) with recorded | old
      · exact whole e (List.mem_reverse.1 recorded)
      · exact before e old

/-- **Recording loses nothing and doubles nothing.**  A log that was read has the newest of all entries,
and what was given back for it is the rest of them; at any time it can be stored and read again. -/
theorem recording_loses_nothing {raw : String} {capacity : Nat}
    (read : ofText raw capacity = .ok log) (entries : List AuditEntry) :
    (log.recordAll entries).entries = (entries.reverse ++ log.entries).take capacity ∧
      (∀ entry,
        ((log.recordAll entries).record entry).1.entries ++
            ((log.recordAll entries).record entry).2 =
          entry :: (log.recordAll entries).entries ∧
        ((log.recordAll entries).record entry).2.length ≤ 1) ∧
      (log.recordAll entries).entries ++ (log.evicted entries).reverse =
        entries.reverse ++ log.entries ∧
      (AreWholeMilli entries →
        ofText (log.recordAll entries).text capacity = .ok (log.recordAll entries)) := by
  have room := hasRoom_ofText read
  obtain ⟨rfl, -, before⟩ := ofText_eq_ok read
  refine ⟨entries_recordAll_of_hasRoom room entries, fun entry => ⟨record_partition _ entry, ?_⟩,
    entries_append_evicted room entries, fun whole => ?_⟩
  · exact length_record_le_one (hasRoom_recordAll_of_hasRoom room entries) entry
  · have positive : log.capacity ≠ 0 := by
      intro none
      rw [none] at read
      cases read
    rw [← capacity_recordAll log entries] at positive ⊢
    exact ofText_of_le (areWholeMilli_recordAll before whole) positive
      (hasRoom_recordAll_of_hasRoom room entries)

/-- The entry of a list that was saved again, under another id. -/
def updateEntryNamed (id : String) : AuditEntry :=
  { updateEntry with id }

/-- A log of one entry is read with room for two.  The first of two more finds room, the second does
not. -/
theorem recording_loses_nothing_twoMore :
    ofText (text ⟨[updateEntryNamed "e1"], 30⟩) 2 = .ok ⟨[updateEntryNamed "e1"], 2⟩ ∧
      evicted ⟨[updateEntryNamed "e1"], 2⟩ [updateEntryNamed "e2", updateEntryNamed "e3"] =
        [updateEntryNamed "e1"] ∧
      (recordAll ⟨[updateEntryNamed "e1"], 2⟩
          [updateEntryNamed "e2", updateEntryNamed "e3"]).entries ++ [updateEntryNamed "e1"] =
        [updateEntryNamed "e3", updateEntryNamed "e2", updateEntryNamed "e1"] ∧
      ofText (recordAll ⟨[updateEntryNamed "e1"], 2⟩
          [updateEntryNamed "e2", updateEntryNamed "e3"]).text 2 =
        .ok ⟨[updateEntryNamed "e3", updateEntryNamed "e2"], 2⟩ := by
  have epoch : Instant.epoch.IsWholeMilli := by decide
  have whole : ∀ id, AreWholeMilli [updateEntryNamed id] := by
    intro id e listed
    rw [List.mem_singleton.1 listed]
    exact epoch
  have read : ofText (text ⟨[updateEntryNamed "e1"], 30⟩) 2 = .ok ⟨[updateEntryNamed "e1"], 2⟩ :=
    ofText_of_le (whole "e1") (by decide) (by decide)
  obtain ⟨-, -, all, stored⟩ :=
    recording_loses_nothing read [updateEntryNamed "e2", updateEntryNamed "e3"]
  refine ⟨read, rfl, all, stored ?_⟩
  exact List.forall_mem_cons.2 ⟨whole "e2" _ List.mem_cons_self, whole "e3"⟩

end AuditLog

end Exclusion
