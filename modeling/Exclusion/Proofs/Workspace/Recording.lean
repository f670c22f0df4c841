/-
# Exclusion.Proofs.Workspace.Recording -- the store after rules were stored and recorded

An operation first stores a rule book and a snapshot of its rules (`Stores`), an edit the snapshot
first and a publication the book.  Then it stores the audit log with its entry and erases the
snapshots of the entries that gave way (`Records`).  Keys that an operation is not about keep their
texts, so each of the two is a list of texts that are found afterwards, and a bound on the names.

Where it does not matter which operation it was, a call records nothing and writes nothing, or it
stores a valid book and records an entry with its stamp (`quiet_or_recording`).
-/
import Exclusion.Proofs.Workspace.Call

namespace Exclusion.Workspace

set_option autoImplicit false

open Exclusion.Json

variable (ws : Workspace)

/-! ## Storing -/

/-- Between the two stores a book was stored, and a snapshot of its rules with this id. -/
structure Stores (before after : Store) (id : String) (book : RuleBook) : Prop where
  distinct : before.Distinct → after.Distinct
  stored : after.get? ws.rulesKey = some (RuleBook.codec.text book)
  snapshot : after.get? (ws.snapshotKey id) = some (Rule.listCodec.text book.rules)
  others : ∀ other, other ≠ id →
    after.get? (ws.snapshotKey other) = before.get? (ws.snapshotKey other)
  names : ∀ name ∈ after.names,
    name = ws.rulesKey.text ∨ name = (ws.snapshotKey id).text ∨ name ∈ before.names

theorem mem_names_set {store : Store} {key : StoreKey} {value name : String}
    (member : name ∈ (store.set key value).names) : name = key.text ∨ name ∈ store.names := by
  rw [Store.names_set, List.mem_cons] at member
  exact member.imp_right List.mem_of_mem_filter

theorem stores_storeWrites (store : Store) (stamp : Stamp) (old : RuleBook) (rules : List Rule) :
    ws.Stores store (store.writeAll (ws.storeWrites stamp old rules)) stamp.snapshotId
      { old with rules } where
  distinct distinct := distinct.writeAll
  stored := Store.get?_set_self _ _ _
  snapshot := by
    refine (Store.get?_set_of_ne (ws.rulesKey_ne_snapshotKey _).symm).trans ?_
    exact Store.get?_set_self _ _ _
  others other ne := by
    refine (Store.get?_set_of_ne (ws.rulesKey_ne_snapshotKey _).symm).trans ?_
    exact Store.get?_set_of_ne (mt ws.snapshotKey_inj.1 ne)
  names name member := by
    rcases mem_names_set member with same | member
    · exact .inl same
    · exact .inr (mem_names_set member)

theorem stores_scriptWrites (store : Store) (stamp : Stamp) (book : RuleBook) :
    ws.Stores store (store.writeAll (ws.scriptWrites stamp book)) stamp.snapshotId
      { book with script := (Script.compile book.rules stamp.compiledAt).source } where
  distinct distinct := distinct.writeAll
  stored := by
    refine (Store.get?_set_of_ne (ws.rulesKey_ne_snapshotKey _)).trans ?_
    exact Store.get?_set_self _ _ _
  snapshot := Store.get?_set_self _ _ _
  others other ne := by
    refine (Store.get?_set_of_ne (mt ws.snapshotKey_inj.1 ne)).trans ?_
    exact Store.get?_set_of_ne (ws.rulesKey_ne_snapshotKey _).symm
  names name member := by
    rcases mem_names_set member with same | member
    · exact .inr (.inl same)
    · exact (mem_names_set member).imp_right .inr

/-! ## Recording -/

/-- The snapshots of the entries that give way to a new one. -/
def evictedIds (log : AuditLog) (entry : AuditEntry) : List String :=
  (log.record entry).2.filterMap (·.snapshotId)

/-- Between the two stores an entry was recorded in this log. -/
structure Records (before after : Store) (log : AuditLog) (entry : AuditEntry) : Prop where
  distinct : before.Distinct → after.Distinct
  logged : after.get? ws.auditKey = some (log.record entry).1.text
  rules : after.get? ws.rulesKey = before.get? ws.rulesKey
  kept : ∀ id, id ∉ evictedIds log entry →
    after.get? (ws.snapshotKey id) = before.get? (ws.snapshotKey id)
  names : ∀ name ∈ after.names, name = ws.auditKey.text ∨
    (name ∈ before.names ∧ ∀ id ∈ evictedIds log entry, name ≠ (ws.snapshotKey id).text)

/-- Erased names are gone, and no others have come. -/
theorem mem_names_eraseAll {store : Store} {keys : List StoreKey} {name : String}
    (member : name ∈ (store.writeAll (keys.map .erase)).names) :
    name ∈ store.names ∧ ∀ key ∈ keys, name ≠ key.text := by
  induction keys generalizing store with
  | nil => exact ⟨member, List.forall_mem_nil _⟩
  | cons key keys ih =>
      obtain ⟨before, others⟩ := ih member
      rw [Store.write, Store.names_erase, List.mem_filter, bne_iff_ne] at before
      exact ⟨before.1, List.forall_mem_cons.2 ⟨before.2, others⟩⟩

/-- The snapshots of the entries that gave way are gone. -/
theorem Records.erased {ws : Workspace} {before after : Store} {log : AuditLog} {entry : AuditEntry}
    (records : ws.Records before after log entry) {id : String} (evicted : id ∈ evictedIds log entry) :
    after.get? (ws.snapshotKey id) = none := by
  rw [← Option.not_isSome_iff_eq_none, Store.isSome_get?]
  intro listed
  rcases records.names _ listed with same | ⟨-, others⟩
  · exact ws.auditKey_ne_snapshotKey id same.symm
  · exact others id evicted rfl

theorem records_recordWrites (store : Store) (log : AuditLog) (entry : AuditEntry) :
    ws.Records store (store.writeAll (ws.recordWrites log entry)) log entry where
  distinct distinct := distinct.writeAll
  logged := by
    rw [recordWrites, Store.writeAll_cons, Store.get?_writeAll_of_ne]
    · exact Store.get?_set_self _ _ _
    · intro w member
      obtain ⟨key, listed, rfl⟩ := List.mem_map.1 member
      obtain ⟨id, -, rfl⟩ := List.mem_map.1 listed
      exact ws.auditKey_ne_snapshotKey id
  rules := Store.get?_writeAll_of_ne fun _ member => ws.rulesKey_ne_of_mem_recordWrites member
  kept id stays := by
    refine Store.get?_writeAll_of_ne fun w member => ?_
    rcases List.mem_cons.1 member with rfl | member
    · exact (ws.auditKey_ne_snapshotKey id).symm
    · obtain ⟨key, listed, rfl⟩ := List.mem_map.1 member
      obtain ⟨other, evicted, rfl⟩ := List.mem_map.1 listed
      intro same
      exact stays (ws.snapshotKey_inj.1 same ▸ evicted)
  names name member := by
    obtain ⟨before, others⟩ := mem_names_eraseAll member
    rcases mem_names_set before with same | listed
    · exact .inl same
    · refine .inr ⟨listed, fun id evicted => others _ (List.mem_map_of_mem evicted)⟩

/-! ## Calls that record -/

/-- In a store with this audit log the call stores a book and records an entry. -/
structure Recording (call : Call) (store : Store) (log : AuditLog) (stamp : Stamp) (book : RuleBook)
    (entry : AuditEntry) (writes : List Write) : Prop where
  given : call.stamp? = some stamp
  valid : isValidRuleSet book.rules = true
  /-- The rules have dates of rules that the call brings or of rules that were there. -/
  dates : ∃ old, ws.bookIn store = .ok old ∧
    ∀ s ∈ book.rules, ∃ r, (r ∈ call.rules ∨ r ∈ old.rules) ∧ s.instants = r.instants
  named : entry.snapshotId = some stamp.snapshotId
  recordedAt : entry.recordedAt = stamp.recordedAt
  stored : ∃ mid, ws.Stores store mid stamp.snapshotId book ∧
    ws.Records mid (store.writeAll writes) log entry
  follows : (ws.perform call).Follows store writes (· = .ok (some entry))

variable {ws} {call : Call} {store : Store} {log : AuditLog}

/-- **A call records nothing and writes nothing, or it stores a book and records an entry.** -/
theorem quiet_or_recording (read : ws.logIn store = .ok log) (call : Call) :
    (ws.perform call).Follows store [] IsQuiet ∨
      ∃ stamp book entry writes, ws.Recording call store log stamp book entry writes := by
  cases follows_perform read call with
  | quiet follows => exact .inl follows
  | edited stamp user edit old rules same loaded applied valid follows =>
      subst same
      have records := ws.records_recordWrites (store.writeAll (ws.storeWrites stamp old rules)) log
        (editEntry stamp user old.rules rules)
      rw [← Store.writeAll_append] at records
      exact .inr ⟨stamp, { old with rules }, _, _, {
        given := rfl
        valid := valid
        dates := ⟨old, loaded, fun _ member => Edit.instants_of_mem_apply applied member⟩
        named := rfl
        recordedAt := rfl
        stored := ⟨_, ws.stores_storeWrites store stamp old rules, records⟩
        follows := follows }⟩
  | published stamp user book same loaded valid follows =>
      subst same
      have records := ws.records_recordWrites (store.writeAll (ws.scriptWrites stamp book)) log
        (ws.publishEntry stamp user book)
      rw [← Store.writeAll_append] at records
      exact .inr ⟨stamp, { book with script := (Script.compile book.rules stamp.compiledAt).source },
        _, _, {
        given := rfl
        valid := valid
        dates := ⟨book, loaded, fun s member => ⟨s, .inr member, rfl⟩⟩
        named := rfl
        recordedAt := rfl
        stored := ⟨_, ws.stores_scriptWrites store stamp book, records⟩
        follows := follows }⟩

/-- A call that gave an entry recorded it, and made all of its writes. -/
theorem exists_recording_of_ok {world after : World} {entry : AuditEntry}
    (read : ws.logIn world.store = .ok log)
    (recorded : (ws.perform call).run world = (.ok (some entry), after)) :
    ∃ stamp book writes, ws.Recording call world.store log stamp book entry writes ∧
      after.store = world.store.writeAll writes := by
  rcases quiet_or_recording read call with quiet | ⟨stamp, book, entry', writes, recording⟩
  · exact absurd rfl ((quiet.of_ok rfl recorded).1 entry)
  · obtain ⟨same, wrote⟩ := recording.follows.of_ok rfl recorded
    cases same
    exact ⟨stamp, book, writes, recording, wrote.store⟩

section Recording

variable {stamp : Stamp} {book : RuleBook} {entry : AuditEntry} {writes : List Write}
  (recording : ws.Recording call store log stamp book entry writes)
include recording

/-- The entry is not of a leap second if the call is timely. -/
theorem Recording.isLeap_eq_false (timely : call.IsTimely) : entry.recordedAt.isLeap = false := by
  rw [recording.recordedAt]
  exact timely stamp recording.given

/-- The stored rules avoid leap seconds if those that the call brings do. -/
theorem Recording.avoidsLeapSeconds (avoid : ∀ r ∈ call.rules, r.AvoidsLeapSeconds) :
    ∀ r ∈ book.rules, r.AvoidsLeapSeconds := by
  obtain ⟨old, loaded, dates⟩ := recording.dates
  intro s member
  obtain ⟨r, origin, same⟩ := dates s member
  rw [Rule.AvoidsLeapSeconds, same]
  rcases origin with brought | before
  · exact avoid r brought
  · exact (ws.isWholeMilli_of_bookIn loaded r before).avoidsLeapSeconds

end Recording

/-! ## One more call -/

variable {session : Session}

/-- A call that writes nothing leaves the store as it was. -/
theorem store_step_of_quiet (reliable : ∀ n, session.world.storeFails n = false)
    (follows : (ws.perform call).Follows session.world.store [] IsQuiet) :
    (ws.step session call).world.store = session.world.store := by
  have wrote := (follows.of_reliable rfl reliable).2
  rw [world_step, wrote.store, Store.writeAll_nil]

/-- A call that records leaves the store with its book and its entry. -/
theorem Recording.step {stamp : Stamp} {book : RuleBook} {entry : AuditEntry} {writes : List Write}
    (recording : ws.Recording call session.world.store log stamp book entry writes)
    (reliable : ∀ n, session.world.storeFails n = false) :
    ∃ mid, ws.Stores session.world.store mid stamp.snapshotId book ∧
      ws.Records mid (ws.step session call).world.store log entry := by
  have wrote := (recording.follows.of_reliable rfl reliable).2
  rw [world_step, wrote.store]
  exact recording.stored

/-- An edit that makes rules that may be stored stores them, if everything can be read. -/
theorem get?_rulesKey_step_edit (session : Session)
    (reliable : ∀ n, session.world.storeFails n = false) {old : RuleBook}
    (loaded : ws.bookIn session.world.store = .ok old)
    (read : ws.logIn session.world.store = .ok log) (stamp : Stamp) (user : String) {edit : Edit}
    {rules : List Rule} (applied : edit.apply old.rules = .ok rules)
    (valid : isValidRuleSet rules = true) :
    (ws.step session (.edit stamp user edit)).world.store.get? ws.rulesKey =
      some (RuleBook.codec.text { old with rules }) := by
  rw [world_step, perform, Action.run_map]
  cases ws.edit_course stamp user edit session.world.store with
  | unread failure loaded' takes => cases loaded.symm.trans loaded'
  | unknown old' unknown loaded' refused takes =>
      cases loaded.symm.trans loaded'
      cases applied.symm.trans refused
  | invalid old' rules' loaded' applied' invalid takes =>
      cases loaded.symm.trans loaded'
      cases applied.symm.trans applied'
      cases valid.symm.trans invalid
  | unrecorded old' rules' failure loaded' applied' valid' unread takes => cases read.symm.trans unread
  | recorded old' rules' log' loaded' applied' valid' read' takes =>
      cases loaded.symm.trans loaded'
      cases applied.symm.trans applied'
      have wrote := (takes.follows_readThen.of_reliable rfl reliable).2
      have records := ws.records_recordWrites
        (session.world.store.writeAll (ws.storeWrites stamp old rules)) log'
        (editEntry stamp user old.rules rules)
      rw [wrote.store, Store.writeAll_append, records.rules]
      exact (ws.stores_storeWrites session.world.store stamp old rules).stored

/-- A run of one edit stores the rules that it makes of none. -/
theorem get?_rulesKey_play_edit (ws : Workspace) {world : World} (empty : world.store = .empty)
    (reliable : ∀ n, world.storeFails n = false) (stamp : Stamp) (user : String) {edit : Edit}
    {rules : List Rule} (applied : edit.apply [] = .ok rules) (valid : isValidRuleSet rules = true) :
    (ws.play world [.edit stamp user edit]).world.store.get? ws.rulesKey =
      some (RuleBook.codec.text { rules }) := by
  have loaded : ws.bookIn world.store = .ok {} := by
    rw [empty]
    rfl
  have read : ws.logIn world.store = .ok _ := ws.logIn_of_none (by rw [empty]; rfl)
  exact (get?_rulesKey_step_edit ⟨world, []⟩ reliable loaded read stamp user applied valid :)

end Exclusion.Workspace
