/-
# Exclusion.Proofs.Audit.Wire -- the audit log comes back as it was stored

An entry comes back with its time cut down to the millisecond (`AuditEntry.restores`).  A log that was
stored is read as the entries for which there is room (`AuditLog.ofText_text`), and whatever was read
has whole milliseconds for times (`AuditLog.ofText_eq_ok`), so that it is read again as it is.

An entry of a leap second may not come back at all.  But whatever log is read, its entries name the
snapshots that were named in the one that was stored (`AuditLog.snapshotIds_of_ofText`).
-/
import Exclusion.Audit.Log
import Exclusion.Proofs.Json.Reread
import Exclusion.Proofs.Time.Milli

namespace Exclusion

set_option autoImplicit false

open Exclusion.Json

theorem AuditAction.restores {levels : Nat} (a : AuditAction) :
    AuditAction.codec.Restores levels a a :=
  .names (by cases a <;> rfl)

namespace AuditEntry

/-- The entry with its time cut down to the millisecond. -/
def floorMilli (e : AuditEntry) : AuditEntry :=
  { e with recordedAt := e.recordedAt.floorMilli }

theorem floorMilli_eq_self {e : AuditEntry} (whole : e.recordedAt.IsWholeMilli) :
    e.floorMilli = e := by
  rw [floorMilli, Instant.floorMilli_eq_self whole]

/-- **An entry is restored but for what is left of its millisecond.** -/
theorem restores {e : AuditEntry} (plain : e.recordedAt.isLeap = false) :
    AuditEntry.codec.Restores 1 e e.floorMilli := by
  have restores : AuditEntry.codec.Restores 1 e
      { e with
        recordedAt := e.recordedAt.floorMilli
        snapshotId := e.snapshotId.map (fun s => s) } :=
    .record AuditEntry.fields
      (e.id, e.recordedAt.floorMilli, e.user, e.action, e.details, e.snapshotId.map (fun s => s), ())
      (by decide)
      ⟨Field.restores_required (Codec.restores_string _),
        Field.restores_required (Instant.restores_millis plain),
        Field.restores_required (Codec.restores_string _),
        Field.restores_required e.action.restores,
        Field.restores_required (Codec.restores_string _),
        Field.restores_optional fun s _ => ⟨Codec.restores_string s, by simp [Codec.string]⟩,
        trivial⟩
  rwa [Option.map_id'] at restores

/-- What was read is an entry of a whole millisecond. -/
theorem isWholeMilli_of_makes {e : AuditEntry} (made : AuditEntry.codec.Makes e) :
    e.recordedAt.IsWholeMilli := by
  obtain ⟨⟨id, recordedAt, user, action, details, snapshotId, ⟨⟩⟩, rfl, -, recorded, -⟩ := made.record
  rcases recorded with made | default | default
  · exact Instant.isWholeMilli_of_makes made
  · simp [Field.required] at default
  · simp [Field.required] at default

theorem isIntegral_encode (e : AuditEntry) : (AuditEntry.codec.encode e).IsIntegral := by
  have time := e.recordedAt.isIntegral_encode
  obtain ⟨id, recordedAt, user, action, details, snapshotId⟩ := e
  cases snapshotId with
  | none => exact ⟨trivial, time, trivial, trivial, trivial, trivial⟩
  | some snapshot => exact ⟨trivial, time, trivial, trivial, trivial, trivial, trivial⟩

/-- An entry that is read at all names the snapshot that it named. -/
theorem snapshotId_of_decode {e read : AuditEntry} {source : Source}
    (decoded : AuditEntry.codec.decode source (AuditEntry.codec.encode e).toNode = .ok read) :
    read.snapshotId = e.snapshotId := by
  obtain ⟨inner, row, rfl, readAs⟩ := Codec.readAs_of_decode_record (by decide) decoded
  obtain ⟨id, recordedAt, user, action, details, snapshotId, ⟨⟩⟩ := row
  obtain ⟨-, -, -, -, -, named, -⟩ := readAs
  show snapshotId = e.snapshotId
  cases written : e.snapshotId with
  | none =>
      simp only [Field.ReadAs, Field.optional, written, Option.isNone_none, if_true] at named
      exact (Option.some.inj named).symm
  | some snapshot =>
      obtain ⟨same, rfl, taken⟩ :=
        Field.exists_decode_of_readAs_optional named written (by simp [Codec.string])
      exact congrArg some (Except.ok.inj taken).symm

end AuditEntry

namespace AuditLog

/-- All entries of the list were recorded on whole milliseconds. -/
def AreWholeMilli (entries : List AuditEntry) : Prop :=
  ∀ e ∈ entries, e.recordedAt.IsWholeMilli

theorem restores_entries {entries : List AuditEntry}
    (plain : ∀ e ∈ entries, e.recordedAt.isLeap = false) :
    entriesCodec.Restores 2 entries (entries.map AuditEntry.floorMilli) := by
  refine .list ?_
  induction entries with
  | nil => exact .nil
  | cons e entries ih =>
      obtain ⟨first, others⟩ := List.forall_mem_cons.1 plain
      exact .cons (AuditEntry.restores first) (ih others)

/-- The text of a list of entries is read back. -/
theorem readText_entries {entries : List AuditEntry}
    (plain : ∀ e ∈ entries, e.recordedAt.isLeap = false) :
    entriesCodec.readText (entriesCodec.text entries) = .ok (entries.map AuditEntry.floorMilli) :=
  ((restores_entries plain).mono (by decide)).readText_text

/-- **A stored log is read as the entries for which there is room.** -/
theorem ofText_text {log : AuditLog} {capacity : Nat} (positive : capacity ≠ 0)
    (plain : ∀ e ∈ log.entries, e.recordedAt.isLeap = false) :
    ofText log.text capacity =
      .ok ⟨(log.entries.map AuditEntry.floorMilli).take capacity, capacity⟩ := by
  rw [ofText, ofCapacity, if_neg positive, text, readText_entries plain]
  rfl

/-- A log of whole milliseconds is read with room for all of its entries. -/
theorem ofText_of_le {log : AuditLog} {capacity : Nat} (whole : AreWholeMilli log.entries)
    (positive : capacity ≠ 0) (room : log.entries.length ≤ capacity) :
    ofText log.text capacity = .ok ⟨log.entries, capacity⟩ := by
  have plain : ∀ e ∈ log.entries, e.recordedAt.isLeap = false :=
    fun e listed => Instant.isLeap_of_isWholeMilli (whole e listed)
  have same : log.entries.map AuditEntry.floorMilli = log.entries := by
    rw [List.map_congr_left fun e listed => AuditEntry.floorMilli_eq_self (whole e listed)]
    exact List.map_id' _
  rw [ofText_text positive plain, same, List.take_of_length_le room]

/-- A log that was read has room for its entries, and times of whole milliseconds. -/
theorem ofText_eq_ok {text : String} {capacity : Nat} {log : AuditLog}
    (read : ofText text capacity = .ok log) :
    log.capacity = capacity ∧ log.entries.length ≤ capacity ∧ AreWholeMilli log.entries := by
  obtain ⟨log, empty, read⟩ := except_bind_eq_ok.1 read
  obtain ⟨entries, made, same⟩ := except_bind_eq_ok.1 read
  cases same
  simp only [ofCapacity] at empty
  split at empty
  · cases empty
  · cases empty
    refine ⟨rfl, List.length_take_le _ _, fun e member => ?_⟩
    cases decoded : entriesCodec.readText text with
    | error cause => simp [decoded, Except.mapError] at made
    | ok read =>
        simp only [decoded, Except.mapError, Except.ok.injEq] at made
        subst made
        exact AuditEntry.isWholeMilli_of_makes
          ((Codec.makes_of_readText decoded).list e (List.mem_of_mem_take member))

/-- A log that is read names the snapshots that were named when it was stored, as far as there is
room. -/
theorem snapshotIds_of_ofText {log read : AuditLog} {capacity : Nat}
    (stored : ofText log.text capacity = .ok read) :
    read.entries.map (·.snapshotId) = (log.entries.map (·.snapshotId)).take capacity := by
  have integral : ∀ entries : List AuditEntry, (entriesCodec.encode entries).IsIntegral := by
    intro entries
    show AreIntegral (entries.map AuditEntry.codec.encode)
    induction entries with
    | nil => trivial
    | cons e entries ih => exact ⟨e.isIntegral_encode, ih⟩
  obtain ⟨empty, -, stored⟩ := except_bind_eq_ok.1 stored
  obtain ⟨entries, made, same⟩ := except_bind_eq_ok.1 stored
  cases same
  have texts : entriesCodec.readText (entriesCodec.text log.entries) = .ok entries := by
    rw [text] at made
    cases decoded : entriesCodec.readText (entriesCodec.text log.entries) with
    | error cause =>
        rw [decoded] at made
        cases made
    | ok read =>
        rw [decoded] at made
        cases made
        rfl
  obtain ⟨inner, -, items⟩ :=
    Codec.forall₂_of_decode_list (Codec.decode_of_readText (integral log.entries) texts)
  have named : List.Forall₂ (fun e read : AuditEntry => e.snapshotId = read.snapshotId) log.entries
      entries := items.imp fun _ _ decoded => (AuditEntry.snapshotId_of_decode decoded).symm
  have same : log.entries.map (·.snapshotId) = entries.map (·.snapshotId) := by
    rwa [← List.forall₂_eq_eq_eq, List.forall₂_map_left_iff, List.forall₂_map_right_iff]
  rw [same, List.map_take]

end AuditLog

end Exclusion
