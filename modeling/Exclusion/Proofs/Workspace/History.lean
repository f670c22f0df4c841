/-
# Exclusion.Proofs.Workspace.History -- what is in the store after a run

As long as no call of the store fails, the store is a function of the calls that recorded an entry.
For each of them there is a `Mark`: the call with its stamp, the book that was loaded before it, the
entry it recorded, and the rules and the script that it stored.  `Holds` says what the store has for a
list of marks, newest first: the book of the newest, a log of as many entries as there is room for, a
snapshot for each of these entries, and nothing else.

One more mark takes the place of the oldest if there is no room for both (`Holds.record`); that its
snapshot may be erased and no other is owed to the ids, which are distinct.
-/
import Exclusion.Proofs.Workspace.Call
import Exclusion.Proofs.Workspace.Recording

namespace Exclusion

set_option autoImplicit false

open Exclusion.Json

/-! ## Marks -/

/-- A call that recorded an entry, with what it found, recorded and stored. -/
structure Mark where
  call : Call
  stamp : Stamp
  before : RuleBook
  entry : AuditEntry
  rules : List Rule
  script : String

namespace Mark

/-- The id of the snapshot that the call took. -/
def id (m : Mark) : String :=
  m.stamp.snapshotId

/-- The receipt of the call. -/
def receipt (m : Mark) : Receipt :=
  ⟨m.call, .ok m.before, m.entry⟩

/-- The entry as it is read from the stored log. -/
def logged (m : Mark) : AuditEntry :=
  m.entry.floorMilli

/-- The book as it is read from the store. -/
def book (m : Mark) : RuleBook :=
  ⟨m.rules.map Rule.floorMilli, m.script⟩

/-- What was recorded and stored can be read again. -/
structure Sound (m : Mark) : Prop where
  avoid : ∀ r ∈ m.rules, r.AvoidsLeapSeconds
  named : m.entry.snapshotId = some m.id
  plain : m.entry.recordedAt.isLeap = false

variable {m : Mark}

theorem Sound.isWholeMilli_logged (sound : m.Sound) : m.logged.recordedAt.IsWholeMilli :=
  Instant.isWholeMilli_floorMilli sound.plain

theorem Sound.floorMilli_logged (sound : m.Sound) : m.logged.floorMilli = m.logged :=
  AuditEntry.floorMilli_eq_self sound.isWholeMilli_logged

theorem Sound.snapshotId_logged (sound : m.Sound) : m.logged.snapshotId = some m.id :=
  sound.named

end Mark

namespace Workspace

variable (ws : Workspace)

/-- The book of the newest mark, or an empty one. -/
def newestBook (marks : List Mark) : RuleBook :=
  (marks.head?.map Mark.book).getD {}

/-- The log of the marks for which there is room. -/
def logOf (marks : List Mark) : AuditLog :=
  ⟨(marks.take ws.config.audit.maxEntries).map Mark.logged, ws.config.audit.maxEntries⟩

/-! ## The store -/

/-- The store has what the marks left, and nothing else. -/
structure Holds (store : Store) (marks : List Mark) : Prop where
  sound : ∀ m ∈ marks, m.Sound
  ids : (marks.map Mark.id).Nodup
  distinct : store.Distinct
  book : readIn RuleBook.codec ws.rulesKey store = .ok (marks.head?.map Mark.book)
  log : ws.logIn store = .ok (ws.logOf marks)
  snapshots : ∀ m ∈ marks.take ws.config.audit.maxEntries,
    ws.snapshotIn m.id store = .ok (some m.book.rules)
  names : ∀ name ∈ store.names, name = ws.rulesKey.text ∨ name = ws.auditKey.text ∨
    ∃ m ∈ marks.take ws.config.audit.maxEntries, name = (ws.snapshotKey m.id).text

theorem holds_empty : ws.Holds .empty [] where
  sound := List.forall_mem_nil _
  ids := List.nodup_nil
  distinct := Store.distinct_empty
  book := readIn_of_none rfl
  log := by
    rw [ws.logIn_of_none rfl, logOf, List.take_nil, List.map_nil]
  snapshots m member := by
    rw [List.take_nil] at member
    exact absurd member List.not_mem_nil
  names name member := absurd member List.not_mem_nil

variable {ws} {store mid after : Store} {marks : List Mark} {m : Mark}

/-- The book that is loaded is that of the newest mark. -/
theorem Holds.bookIn (holds : ws.Holds store marks) : ws.bookIn store = .ok (newestBook marks) := by
  rw [Workspace.bookIn, holds.book]
  rfl

/-- What gives way to a new mark is the mark that is the last one in the full log. -/
theorem evictedIds_logOf {capacity : Nat} (room : ws.config.audit.maxEntries = capacity + 1)
    (sound : ∀ m ∈ marks, m.Sound) (entry : AuditEntry) :
    evictedIds (ws.logOf marks) entry =
      ((marks.take (capacity + 1)).drop capacity).map Mark.id := by
  have named : ∀ kept : List Mark, (∀ m ∈ kept, m.Sound) →
      (kept.map Mark.logged).filterMap (·.snapshotId) = kept.map Mark.id := by
    intro kept
    induction kept with
    | nil => exact fun _ => rfl
    | cons m kept ih =>
        intro sound
        obtain ⟨first, others⟩ := List.forall_mem_cons.1 sound
        rw [List.map_cons, List.map_cons, List.filterMap_cons_some first.snapshotId_logged, ih others]
  rw [evictedIds, AuditLog.record, logOf, room, List.drop_succ_cons, ← List.map_drop]
  refine named _ fun m member => sound m ?_
  exact List.mem_of_mem_take (List.mem_of_mem_drop member)

/-- The snapshot of a mark that stays is not that of a mark that gives way. -/
theorem not_evicted {capacity : Nat} (ids : (marks.map Mark.id).Nodup)
    (member : m ∈ marks.take capacity) :
    m.id ∉ ((marks.take (capacity + 1)).drop capacity).map Mark.id := by
  have kept : marks.take capacity = (marks.take (capacity + 1)).take capacity := by
    rw [List.take_take, Nat.min_eq_left (Nat.le_succ capacity)]
  have whole : ((marks.take (capacity + 1)).map Mark.id).Nodup :=
    List.Nodup.sublist ((List.take_sublist _ marks).map Mark.id) ids
  rw [← List.take_append_drop capacity (marks.take (capacity + 1)), List.map_append,
    List.nodup_append] at whole
  rw [kept] at member
  intro evicted
  exact whole.2.2 _ (List.mem_map_of_mem member) _ evicted rfl

/-! ## One more mark -/

/-- The new entry comes first, and then those that still have room. -/
theorem entries_record_logOf {capacity : Nat} (room : ws.config.audit.maxEntries = capacity + 1)
    (entry : AuditEntry) :
    ((ws.logOf marks).record entry).1.entries = entry :: (marks.take capacity).map Mark.logged := by
  rw [AuditLog.record, logOf, room]
  simp only [List.take_succ_cons, ← List.map_take, List.take_take,
    Nat.min_eq_left (Nat.le_succ capacity)]

/-- Entries that were read before are read again as they are. -/
theorem logIn_record (earlier : ∀ n ∈ marks, n.Sound) (sound : m.Sound)
    (logged : after.get? ws.auditKey = some ((ws.logOf marks).record m.entry).1.text) :
    ws.logIn after = .ok (ws.logOf (m :: marks)) := by
  obtain ⟨capacity, room⟩ := Nat.exists_eq_succ_of_ne_zero ws.maxEntries_ne_zero
  have entries : ((ws.logOf marks).record m.entry).1.entries =
      m.entry :: (marks.take capacity).map Mark.logged := entries_record_logOf room m.entry
  have earlier' : ∀ n ∈ marks.take capacity, n.Sound := by
    intro n member
    exact earlier n (List.mem_of_mem_take member)
  have again : ((marks.take capacity).map Mark.logged).map AuditEntry.floorMilli =
      (marks.take capacity).map Mark.logged := by
    rw [List.map_map]
    exact List.map_congr_left fun n member => (earlier' n member).floorMilli_logged
  have plain : ∀ e ∈ ((ws.logOf marks).record m.entry).1.entries, e.recordedAt.isLeap = false := by
    rw [entries]
    refine List.forall_mem_cons.2 ⟨sound.plain, ?_⟩
    intro e member
    obtain ⟨n, listed, rfl⟩ := List.mem_map.1 member
    exact Instant.isLeap_of_isWholeMilli (earlier' n listed).isWholeMilli_logged
  rw [ws.logIn_of_get? logged plain, entries, List.map_cons, again, logOf, room]
  simp only [List.take_succ_cons, ← List.map_take, List.take_take, Nat.min_self, List.map_cons]
  rfl

/-- The new snapshot is there, and those of the entries that still have room. -/
theorem Holds.snapshots_record (holds : ws.Holds store marks) (sound : m.Sound)
    (fresh : m.id ∉ marks.map Mark.id) (stores : ws.Stores store mid m.id ⟨m.rules, m.script⟩)
    (records : ws.Records mid after (ws.logOf marks) m.entry) :
    ∀ n ∈ (m :: marks).take ws.config.audit.maxEntries,
      ws.snapshotIn n.id after = .ok (some n.book.rules) := by
  obtain ⟨capacity, room⟩ := Nat.exists_eq_succ_of_ne_zero ws.maxEntries_ne_zero
  have evicted := evictedIds_logOf room holds.sound m.entry
  rw [room, List.take_succ_cons]
  refine List.forall_mem_cons.2 ⟨?_, ?_⟩
  · have stays : m.id ∉ evictedIds (ws.logOf marks) m.entry := by
      intro gone
      rw [evicted] at gone
      obtain ⟨n, listed, same⟩ := List.mem_map.1 gone
      apply fresh
      exact List.mem_map.2 ⟨n, List.mem_of_mem_take (List.mem_of_mem_drop listed), same⟩
    have stored := (records.kept m.id stays).trans stores.snapshot
    exact ws.snapshotIn_of_get? stored sound.avoid
  · intro n member
    have stays : n.id ∉ evictedIds (ws.logOf marks) m.entry := by
      rw [evicted]
      exact not_evicted holds.ids member
    have other : n.id ≠ m.id := by
      intro same
      exact fresh (List.mem_map.2 ⟨n, List.mem_of_mem_take member, same⟩)
    have same : after.get? (ws.snapshotKey n.id) = store.get? (ws.snapshotKey n.id) :=
      (records.kept n.id stays).trans (stores.others n.id other)
    rw [snapshotIn, readIn, same]
    apply holds.snapshots n
    rw [room]
    exact (List.take_sublist_take_left (Nat.le_succ capacity)).subset member

/-- No other names have come, and that of the snapshot that gave way is gone. -/
theorem Holds.names_record (holds : ws.Holds store marks)
    (stores : ws.Stores store mid m.id ⟨m.rules, m.script⟩)
    (records : ws.Records mid after (ws.logOf marks) m.entry) :
    ∀ name ∈ after.names, name = ws.rulesKey.text ∨ name = ws.auditKey.text ∨
      ∃ n ∈ (m :: marks).take ws.config.audit.maxEntries, name = (ws.snapshotKey n.id).text := by
  obtain ⟨capacity, room⟩ := Nat.exists_eq_succ_of_ne_zero ws.maxEntries_ne_zero
  have evicted := evictedIds_logOf room holds.sound m.entry
  rw [room, List.take_succ_cons]
  intro name member
  rcases records.names name member with isAudit | ⟨stored, gone⟩
  · exact .inr (.inl isAudit)
  rcases stores.names name stored with isRules | isNew | old
  · exact .inl isRules
  · exact .inr (.inr ⟨m, List.mem_cons_self .., isNew⟩)
  rcases holds.names name old with isRules | isAudit | ⟨n, listed, same⟩
  · exact .inl isRules
  · exact .inr (.inl isAudit)
  rw [room, ← List.take_append_drop capacity (marks.take (capacity + 1)), List.mem_append,
    List.take_take, Nat.min_eq_left (Nat.le_succ capacity)] at listed
  rcases listed with kept | lost
  · exact .inr (.inr ⟨n, List.mem_cons_of_mem m kept, same⟩)
  · refine absurd same (gone n.id ?_)
    rw [evicted]
    exact List.mem_map_of_mem lost

/-- **One more mark.**  It was stored and recorded, and its id is new. -/
theorem Holds.record (holds : ws.Holds store marks) (sound : m.Sound)
    (fresh : m.id ∉ marks.map Mark.id) (stores : ws.Stores store mid m.id ⟨m.rules, m.script⟩)
    (records : ws.Records mid after (ws.logOf marks) m.entry) : ws.Holds after (m :: marks) where
  sound := List.forall_mem_cons.2 ⟨sound, holds.sound⟩
  ids := List.nodup_cons.2 ⟨fresh, holds.ids⟩
  distinct := records.distinct (stores.distinct holds.distinct)
  book := ws.readIn_rulesKey_of_get? (records.rules.trans stores.stored) sound.avoid
  log := logIn_record holds.sound sound records.logged
  snapshots := holds.snapshots_record sound fresh stores records
  names := holds.names_record stores records

end Workspace

end Exclusion
