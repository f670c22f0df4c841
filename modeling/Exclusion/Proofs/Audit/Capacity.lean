/-
# Exclusion.Proofs.Audit.Capacity -- how many entries a log has

After entries were recorded a log has the newest of all its entries, as many as it keeps
(`AuditLog.entries_recordAll`).  So it has room for them, whatever it had before.  A log that is empty
at first, or that is read for a capacity, has room for its entries from the beginning.

A list of entries that is decoded as a log is the exception.  The list does not tell how many entries
are kept, so the usual number is, and still the log has all that are in the list.  It has no room for
them if there are more, until the next entry is recorded (`AuditLog.hasRoom_recordAll_iff`).
-/
import Exclusion.Proofs.Audit.Wire

namespace Exclusion

set_option autoImplicit false

open Exclusion.Json

/-- As many items are decoded as there are in a list. -/
theorem Json.Codec.length_decodeItems {α : Type} {codec : Codec α} {source : Source}
    {items : List Node} {as : List α} (decoded : codec.decodeItems source items = .ok as) :
    as.length = items.length := by
  induction items generalizing as with
  | nil =>
      cases decoded
      rfl
  | cons item items ih =>
      obtain ⟨a, -, rest⟩ := except_bind_eq_ok.1 decoded
      obtain ⟨others, made, same⟩ := except_bind_eq_ok.1 rest
      cases same
      rw [List.length_cons, List.length_cons, ih made]

namespace AuditLog

/-- The log keeps as many entries as it has, or more. -/
def HasRoom (log : AuditLog) : Prop :=
  log.entries.length ≤ log.capacity

instance (log : AuditLog) : Decidable log.HasRoom :=
  inferInstanceAs (Decidable (log.entries.length ≤ log.capacity))

/-! ## Recording -/

/-- Adds entries to the log, one after the other. -/
def recordAll (log : AuditLog) (entries : List AuditEntry) : AuditLog :=
  entries.foldl (fun log entry => (log.record entry).1) log

variable {log : AuditLog}

@[simp] theorem capacity_recordAll (log : AuditLog) (entries : List AuditEntry) :
    (log.recordAll entries).capacity = log.capacity := by
  induction entries generalizing log with
  | nil => rfl
  | cons entry entries ih => exact ih (log.record entry).1

/-- **After entries were recorded, the newest of all are left.**  What gives way when an entry is
recorded would give way later as well. -/
theorem entries_recordAll (log : AuditLog) {entries : List AuditEntry} (recorded : entries ≠ []) :
    (log.recordAll entries).entries = (entries.reverse ++ log.entries).take log.capacity := by
  induction entries generalizing log with
  | nil => exact absurd rfl recorded
  | cons entry entries ih =>
      show ((log.record entry).1.recordAll entries).entries = _
      by_cases last : entries = []
      · subst last
        rfl
      · rw [ih (log.record entry).1 last, List.reverse_cons, List.append_assoc,
          List.singleton_append]
        simp only [record, List.take_append, List.take_take, Nat.min_eq_left (Nat.sub_le _ _)]

theorem hasRoom_recordAll (log : AuditLog) {entries : List AuditEntry} (recorded : entries ≠ []) :
    (log.recordAll entries).HasRoom := by
  rw [HasRoom, capacity_recordAll, log.entries_recordAll recorded]
  exact List.length_take_le _ _

/-! ## Where logs come from -/

/-- How a log comes to be. -/
inductive Origin where
  | usual
  | ofCapacity (capacity : Nat)
  | ofText (text : String) (capacity : Nat)
  /-- What stands at a node is decoded as a log. -/
  | decoded (source : Source) (node : Node)

namespace Origin

/-- The log that comes of it, if one does. -/
def Makes : Origin → AuditLog → Prop
  | usual, log => log = .empty
  | ofCapacity capacity, log => AuditLog.ofCapacity capacity = .ok log
  | ofText text capacity, log => AuditLog.ofText text capacity = .ok log
  | decoded source node, log => AuditLog.codec.decode source node = .ok log

/-- A list is decoded that has more items than entries are usually kept. -/
def IsOverfull : Origin → Prop
  | decoded _ (.array items _) => standardCapacity < items.length
  | _ => False

end Origin

theorem hasRoom_ofCapacity {capacity : Nat} (made : ofCapacity capacity = .ok log) :
    log.HasRoom := by
  rw [ofCapacity] at made
  split at made
  · cases made
  · cases made
    exact Nat.zero_le capacity

theorem hasRoom_ofText {text : String} {capacity : Nat} (read : ofText text capacity = .ok log) :
    log.HasRoom := by
  obtain ⟨same, few, -⟩ := ofText_eq_ok read
  rw [HasRoom, same]
  exact few

/-- A log that is decoded has the items of a list for entries, and the usual capacity. -/
theorem exists_items_of_decode {source : Source} {node : Node}
    (decoded : codec.decode source node = .ok log) :
    ∃ items ending, node = .array items ending ∧ log.entries.length = items.length ∧
      log.capacity = standardCapacity := by
  obtain ⟨entries, made, same⟩ := except_map_eq_ok.1 decoded
  cases same
  cases node with
  | array items ending =>
      obtain ⟨inner, -, made⟩ := except_bind_eq_ok.1 made
      obtain ⟨as, items, made⟩ := except_bind_eq_ok.1 made
      obtain ⟨-, -, same⟩ := except_bind_eq_ok.1 made
      cases same
      exact ⟨_, ending, rfl, Codec.length_decodeItems items, rfl⟩
  | _ => exact absurd made (wrongType_ne_ok _ _ _)

/-- A log has room for its entries when it comes to be, unless it is decoded of too long a list. -/
theorem hasRoom_iff_of_makes {origin : Origin} (made : origin.Makes log) :
    log.HasRoom ↔ ¬ origin.IsOverfull := by
  cases origin with
  | usual =>
      cases made
      simp [HasRoom, empty, Origin.IsOverfull]
  | ofCapacity capacity => simpa [Origin.IsOverfull] using hasRoom_ofCapacity made
  | ofText text capacity => simpa [Origin.IsOverfull] using hasRoom_ofText made
  | decoded source node =>
      obtain ⟨items, ending, rfl, count, usual⟩ := exists_items_of_decode made
      rw [HasRoom, count, usual, Origin.IsOverfull, not_lt]

/-- **A log has room for its entries, however it was made and whatever was recorded, with one
exception:** it was decoded of a list with more items than are usually kept, and nothing was recorded
since. -/
theorem hasRoom_recordAll_iff {origin : Origin} (made : origin.Makes log)
    (entries : List AuditEntry) :
    (log.recordAll entries).HasRoom ↔ entries ≠ [] ∨ ¬ origin.IsOverfull := by
  by_cases idle : entries = []
  · subst idle
    simpa [recordAll] using hasRoom_iff_of_makes made
  · simp only [log.hasRoom_recordAll idle, ne_eq, idle, not_false_eq_true, true_or]

/-! ## A list that is too long -/

def updateEntry : AuditEntry :=
  ⟨"e1", .epoch, "ann", .update, "Rule list re-saved", none⟩

/-- One entry more than are usually kept. -/
def overfullEntries : List AuditEntry :=
  List.replicate 31 updateEntry

/-- The list is decoded as a log of all that is in it. -/
theorem restores_overfull :
    AuditLog.codec.Restores 2 ⟨overfullEntries, 30⟩ ⟨overfullEntries, 30⟩ := by
  have plain : ∀ e ∈ overfullEntries, e.recordedAt.isLeap = false := by decide
  have entries : entriesCodec.Restores 2 overfullEntries overfullEntries := restores_entries plain
  refine ⟨entries.integral, fun allows => ?_⟩
  show (entriesCodec.decode _ (entriesCodec.encode overfullEntries).toNode).map _ = _
  rw [entries.decode allows]
  rfl

/-- That log has no room for its entries, and one recorded entry makes room. -/
theorem hasRoom_recordAll_overfull :
    ¬ (recordAll ⟨overfullEntries, 30⟩ []).HasRoom ∧
      (recordAll ⟨overfullEntries, 30⟩ [updateEntry]).HasRoom := by
  have allows : Source.value.Allows 2 := trivial
  have made : (Origin.decoded .value (codec.encode ⟨overfullEntries, 30⟩).toNode).Makes
      ⟨overfullEntries, 30⟩ := restores_overfull.decode allows
  have overfull :
      (Origin.decoded .value (codec.encode ⟨overfullEntries, 30⟩).toNode).IsOverfull := by
    show standardCapacity < _
    decide
  constructor
  · rw [hasRoom_recordAll_iff made]
    simp [overfull]
  · rw [hasRoom_recordAll_iff made]
    simp

/-- The text of such a list is decoded as a log that has more entries than it keeps. -/
theorem decodes_more_than_kept :
    ∃ log, AuditLog.codec.readText (entriesCodec.text overfullEntries) = .ok log ∧
      log.capacity = 30 ∧ log.entries.length = 31 :=
  ⟨_, (restores_overfull.mono (by decide)).readText_text, rfl, rfl⟩

end AuditLog

end Exclusion
