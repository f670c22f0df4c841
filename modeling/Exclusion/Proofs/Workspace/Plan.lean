/-
# Exclusion.Proofs.Workspace.Plan -- the calls that the actions of a workspace take

One lemma for each action of a workspace says what it would do to a store:

* the readers read one text and write nothing, and a sweep writes nothing either (`takes_load`,
  `takes_auditLog`, `reads_sweepOnly`, ...);
* an edit takes one of the courses of `EditCourse` (`edit_course`): it is refused and writes nothing,
  or it stores rules and records the change;
* a publication likewise takes one of the courses of `PublishCourse` (`publish_course`).

An operation records its entry last.  If the stored audit log cannot be read, that is found out when
the rules are already written (`ws.storeWrites`, `ws.scriptWrites`).
-/
import Exclusion.Proofs.Workspace.Action
import Exclusion.Workspace.Basic

namespace Exclusion

set_option autoImplicit false

open Exclusion.Json

namespace Workspace

variable (ws : Workspace)

/-! ## Readers -/

/-- What is read of the text under a key, if there is one. -/
def readIn {α : Type} (codec : Codec α) (key : StoreKey) (store : Store) :
    Except Failure (Option α) :=
  match store.get? key with
  | none => .ok none
  | some text =>
    ((codec.readText text).map some).mapError fun cause => .error (.undecodable cause)

/-- The rule book in a store, or an empty one. -/
def bookIn (store : Store) : Except Failure RuleBook :=
  (readIn RuleBook.codec ws.rulesKey store).map (·.getD {})

/-- The audit log in a store. -/
def logIn (store : Store) : Except Failure AuditLog :=
  (ws.auditLogOf (store.get? ws.auditKey)).mapError fun cause => .error (.audit cause)

theorem takes_read {α : Type} (codec : Codec α) (key : StoreKey) (store : Store) :
    (do match ← Action.get? key with
        | some text => return some (← decode codec text)
        | none => return none : Action (Option α)).Takes store [none]
      (· = readIn codec key store) := by
  unfold readIn
  have read := Action.takes_get? key store
  cases found : store.get? key with
  | none =>
      rw [found] at read
      exact read.bind (Action.takes_pure none store)
  | some text =>
      rw [found] at read
      refine read.bind ((Action.Takes.map some (Action.takes_ofExcept _ _ store)).imp ?_)
      rintro result ⟨inner, rfl, rfl⟩
      show _ = ((codec.readText text).map some).mapError _
      cases codec.readText text <;> rfl

theorem takes_loadStored (store : Store) :
    ws.loadStored.Takes store [none] (· = readIn RuleBook.codec ws.rulesKey store) :=
  takes_read RuleBook.codec ws.rulesKey store

theorem takes_load (store : Store) : ws.load.Takes store [none] (· = ws.bookIn store) := by
  refine (Action.Takes.map (·.getD {}) (ws.takes_loadStored store)).imp ?_
  rintro result ⟨inner, rfl, rfl⟩
  rfl

theorem takes_auditLog (store : Store) :
    ws.auditLog.Takes store [none] (· = ws.logIn store) :=
  (Action.takes_get? ws.auditKey store).bind (Action.takes_ofExcept _ _ store)

theorem follows_loadStored (store : Store) :
    ws.loadStored.Follows store [] (· = readIn RuleBook.codec ws.rulesKey store) :=
  (ws.takes_loadStored store).follows

theorem follows_snapshot (id : String) (store : Store) :
    (ws.snapshot id).Follows store [] (· = readIn Rule.listCodec (ws.snapshotKey id) store) :=
  (takes_read Rule.listCodec (ws.snapshotKey id) store).follows

theorem follows_load (store : Store) : ws.load.Follows store [] (· = ws.bookIn store) :=
  (ws.takes_load store).follows

theorem follows_artifact (store : Store) :
    ws.artifact.Follows store []
      (· = (readIn RuleBook.codec ws.rulesKey store).map Artifact.ofStored) := by
  refine (Action.Follows.map Artifact.ofStored (ws.follows_loadStored store)).imp ?_
  rintro result ⟨inner, rfl, rfl⟩
  rfl

theorem follows_auditLog (store : Store) :
    ws.auditLog.Follows store [] (· = ws.logIn store) :=
  (ws.takes_auditLog store).follows

/-! ## Recording -/

/-- What recording an entry writes. -/
def recordWrites (log : AuditLog) (entry : AuditEntry) : List Write :=
  .set ws.auditKey (log.record entry).1.text ::
    (((log.record entry).2.filterMap (·.snapshotId)).map ws.snapshotKey).map .erase

theorem takes_recordEntry {store : Store} {log : AuditLog} (read : ws.logIn store = .ok log)
    (entry : AuditEntry) :
    (ws.recordEntry entry).Takes store (Action.readThen (ws.recordWrites log entry))
      (· = .ok ()) := by
  have logged := ws.takes_auditLog store
  rw [read] at logged
  refine logged.bind ?_
  exact (Action.takes_set _ _ store).bind (Action.takes_eraseAll _ _)

theorem takes_recordEntry_error {store : Store} {failure : Failure}
    (unread : ws.logIn store = .error failure) (entry : AuditEntry) :
    (ws.recordEntry entry).Takes store [none] (· = .error failure) := by
  have logged := ws.takes_auditLog store
  rw [unread] at logged
  exact logged.bind_error

theorem takes_requireValid_ok {rules : List Rule} (valid : isValidRuleSet rules = true)
    (store : Store) : (requireValid rules).Takes store [] (· = .ok ()) := by
  rw [requireValid, if_pos valid]
  exact Action.takes_pure () store

theorem takes_requireValid_error {rules : List Rule} (invalid : isValidRuleSet rules = false)
    (store : Store) :
    (requireValid rules).Takes store [] (· = .error (.error (.invalid (ruleSetIssues rules)))) := by
  rw [requireValid, if_neg (Bool.not_eq_true _ ▸ invalid)]
  exact Action.takes_fail _ store

/-! ## Editing -/

/-- What an edit writes before it is recorded. -/
def storeWrites (stamp : Stamp) (old : RuleBook) (rules : List Rule) : List Write :=
  [.set (ws.snapshotKey stamp.snapshotId) (Rule.listCodec.text rules),
    .set ws.rulesKey (RuleBook.codec.text { old with rules })]

/-- The entry for an edit. -/
def editEntry (stamp : Stamp) (user : String) (old rules : List Rule) : AuditEntry :=
  (Change.ofEdit old rules).entry stamp.entryId stamp.recordedAt user stamp.snapshotId

/-- The audit log is neither among the rules nor among the snapshots. -/
theorem logIn_writeAll {store : Store} {writes : List Write}
    (others : ∀ w ∈ writes, ws.auditKey.text ≠ w.key.text) :
    ws.logIn (store.writeAll writes) = ws.logIn store := by
  rw [logIn, Store.get?_writeAll_of_ne others, logIn]

theorem auditKey_ne_snapshotKey (id : String) : ws.auditKey.text ≠ (ws.snapshotKey id).text :=
  fun same => StoreKey.text_snapshot_ne_auditLog same.symm

theorem auditKey_ne_rulesKey : ws.auditKey.text ≠ ws.rulesKey.text :=
  fun same => StoreKey.text_rules_ne_auditLog same.symm

theorem rulesKey_ne_snapshotKey (id : String) : ws.rulesKey.text ≠ (ws.snapshotKey id).text :=
  fun same => StoreKey.text_snapshot_ne_rules same.symm

theorem snapshotKey_inj {id id' : String} :
    (ws.snapshotKey id).text = (ws.snapshotKey id').text ↔ id = id' :=
  StoreKey.text_snapshot_inj

/-- Nothing is recorded among the rules. -/
theorem rulesKey_ne_of_mem_recordWrites {log : AuditLog} {entry : AuditEntry} {w : Write}
    (member : w ∈ ws.recordWrites log entry) : ws.rulesKey.text ≠ w.key.text := by
  rcases List.mem_cons.1 member with rfl | member
  · exact ws.auditKey_ne_rulesKey.symm
  · obtain ⟨key, listed, rfl⟩ := List.mem_map.1 member
    obtain ⟨id, -, rfl⟩ := List.mem_map.1 listed
    exact ws.rulesKey_ne_snapshotKey id

theorem logIn_storeWrites (stamp : Stamp) (old : RuleBook) (rules : List Rule) (store : Store) :
    ws.logIn (store.writeAll (ws.storeWrites stamp old rules)) = ws.logIn store := by
  refine ws.logIn_writeAll fun w member => ?_
  simp only [storeWrites, List.mem_cons, List.not_mem_nil, or_false] at member
  rcases member with rfl | rfl
  · exact ws.auditKey_ne_snapshotKey _
  · exact ws.auditKey_ne_rulesKey

section Edit

variable {stamp : Stamp} {user : String} {edit : Edit} {store : Store} {old : RuleBook}
  (loaded : ws.bookIn store = .ok old)
include loaded

/-- An edit goes on with the rules that are loaded. -/
theorem takes_edit_of_loaded {calls : List (Option Write)} {ends : Except Failure AuditEntry → Prop}
    (rest : (do
      let rules ← .ofExcept (fun unknown => .error (.unknownRule unknown.id)) (edit.apply old.rules)
      ws.commit stamp user old rules : Action AuditEntry).Takes store calls ends) :
    (ws.edit stamp user edit).Takes store (none :: calls) ends := by
  have load := ws.takes_load store
  rw [loaded] at load
  exact load.bind rest

variable {rules : List Rule} (edited : edit.apply old.rules = .ok rules)
include edited

theorem takes_edit_of_applied {calls : List (Option Write)} {ends : Except Failure AuditEntry → Prop}
    (rest : (ws.commit stamp user old rules).Takes store calls ends) :
    (ws.edit stamp user edit).Takes store (none :: calls) ends := by
  refine ws.takes_edit_of_loaded loaded ?_
  rw [edited]
  exact (Action.takes_ofExcept _ (.ok rules) store).bind rest

/-- An edit to rules that may be stored stores them and goes on with its recording. -/
theorem takes_edit_of_valid (stamp : Stamp) (user : String)
    (valid : isValidRuleSet rules = true) {more : List (Option Write)}
    {ends : Except Failure AuditEntry → Prop}
    (rest : (do
      ws.recordEntry (editEntry stamp user old.rules rules)
      return editEntry stamp user old.rules rules : Action AuditEntry).Takes
        (store.writeAll (ws.storeWrites stamp old rules)) more ends) :
    (ws.edit stamp user edit).Takes store
      (Action.readThen (ws.storeWrites stamp old rules) ++ more) ends := by
  refine ws.takes_edit_of_applied loaded edited ?_
  refine (takes_requireValid_ok valid store).bind ?_
  exact (Action.takes_set _ _ store).bind ((Action.takes_set _ _ _).bind rest)

end Edit

/-- What an edit can come to in a store. -/
inductive EditCourse (stamp : Stamp) (user : String) (edit : Edit) (store : Store) : Prop where
  /-- There is a rule book that cannot be read. -/
  | unread (failure : Failure) (loaded : ws.bookIn store = .error failure)
      (takes : (ws.edit stamp user edit).Takes store [none] (· = .error failure))
  /-- No rule has the id that the edit names. -/
  | unknown (old : RuleBook) (unknown : UnknownRule) (loaded : ws.bookIn store = .ok old)
      (refused : edit.apply old.rules = .error unknown)
      (takes : (ws.edit stamp user edit).Takes store [none]
        (· = .error (.error (.unknownRule unknown.id))))
  /-- The edited rules may not be stored. -/
  | invalid (old : RuleBook) (rules : List Rule) (loaded : ws.bookIn store = .ok old)
      (edited : edit.apply old.rules = .ok rules) (invalid : isValidRuleSet rules = false)
      (takes : (ws.edit stamp user edit).Takes store [none]
        (· = .error (.error (.invalid (ruleSetIssues rules)))))
  /-- It is stored, but the audit log in which to record it cannot be read. -/
  | unrecorded (old : RuleBook) (rules : List Rule) (failure : Failure)
      (loaded : ws.bookIn store = .ok old) (edited : edit.apply old.rules = .ok rules)
      (valid : isValidRuleSet rules = true) (unread : ws.logIn store = .error failure)
      (takes : (ws.edit stamp user edit).Takes store
        (Action.readThen (ws.storeWrites stamp old rules) ++ [none]) (· = .error failure))
  /-- It is stored and recorded. -/
  | recorded (old : RuleBook) (rules : List Rule) (log : AuditLog)
      (loaded : ws.bookIn store = .ok old) (edited : edit.apply old.rules = .ok rules)
      (valid : isValidRuleSet rules = true) (read : ws.logIn store = .ok log)
      (takes : (ws.edit stamp user edit).Takes store
        (Action.readThen (ws.storeWrites stamp old rules) ++
          Action.readThen (ws.recordWrites log (editEntry stamp user old.rules rules)))
        (· = .ok (editEntry stamp user old.rules rules)))

theorem edit_course (stamp : Stamp) (user : String) (edit : Edit) (store : Store) :
    ws.EditCourse stamp user edit store := by
  cases loaded : ws.bookIn store with
  | error failure =>
      have load := ws.takes_load store
      rw [loaded] at load
      exact .unread failure loaded load.bind_error
  | ok old =>
      cases edited : edit.apply old.rules with
      | error unknown =>
          refine .unknown old unknown loaded edited (ws.takes_edit_of_loaded loaded ?_)
          rw [edited]
          exact (Action.takes_ofExcept _ (.error unknown) store).bind_error
      | ok rules =>
          cases valid : isValidRuleSet rules with
          | false =>
              refine .invalid old rules loaded edited valid ?_
              refine ws.takes_edit_of_applied loaded edited ?_
              exact (takes_requireValid_error valid store).bind_error
          | true =>
              have unchanged := ws.logIn_storeWrites stamp old rules store
              cases read : ws.logIn store with
              | error failure =>
                  rw [read] at unchanged
                  exact .unrecorded old rules failure loaded edited valid read
                    (ws.takes_edit_of_valid loaded edited stamp user valid
                      (ws.takes_recordEntry_error unchanged _).bind_error)
              | ok log =>
                  rw [read] at unchanged
                  have rest := ws.takes_edit_of_valid loaded edited stamp user valid
                    ((ws.takes_recordEntry unchanged _).bind (Action.takes_pure _ _))
                  rw [List.append_nil] at rest
                  exact .recorded old rules log loaded edited valid read rest

/-! ## Publishing -/

/-- What a publication writes before it is recorded. -/
def scriptWrites (stamp : Stamp) (book : RuleBook) : List Write :=
  [.set ws.rulesKey (RuleBook.codec.text
      { book with script := (Script.compile book.rules stamp.compiledAt).source }),
    .set (ws.snapshotKey stamp.snapshotId) (Rule.listCodec.text book.rules)]

/-- The entry for a publication. -/
def publishEntry (stamp : Stamp) (user : String) (book : RuleBook) : AuditEntry :=
  (Change.published ws.config.environment
    (Script.compile book.rules stamp.compiledAt).ruleCount).entry stamp.entryId stamp.recordedAt user
      stamp.snapshotId

/-- The report of a publication. -/
def publishReport (stamp : Stamp) (user : String) (book : RuleBook) (purge : PurgeStatus) :
    PublishReport :=
  let compiled := Script.compile book.rules stamp.compiledAt
  ⟨ws.publishEntry stamp user book, compiled.ruleCount, compiled.isPlaceholder, purge⟩

theorem logIn_scriptWrites (stamp : Stamp) (book : RuleBook) (store : Store) :
    ws.logIn (store.writeAll (ws.scriptWrites stamp book)) = ws.logIn store := by
  refine ws.logIn_writeAll fun w member => ?_
  simp only [scriptWrites, List.mem_cons, List.not_mem_nil, or_false] at member
  rcases member with rfl | rfl
  · exact ws.auditKey_ne_rulesKey
  · exact ws.auditKey_ne_snapshotKey _

/-- A purge has no part in the store, and it does not fail. -/
theorem takes_purge (store : Store) :
    ws.purge.Takes store [] (fun result => ∃ status, result = .ok status) := by
  unfold purge
  cases ws.config.artifactUrl with
  | none => exact (Action.takes_pure _ store).imp fun result same => ⟨_, same⟩
  | some url =>
      cases ws.hasCache with
      | false => exact (Action.takes_pure _ store).imp fun result same => ⟨_, same⟩
      | true =>
          have request : (Action.requestPurge url).Takes store []
              (fun result => ∃ dropped, result = .ok dropped) :=
            fun _ _ => .inl ⟨World.answers_zero, ⟨_, rfl⟩, rfl, rfl, rfl⟩
          refine (Action.Takes.map _ request).imp ?_
          rintro result ⟨inner, ⟨dropped, rfl⟩, rfl⟩
          exact ⟨_, rfl⟩

/-- What a publication can come to in a store. -/
inductive PublishCourse (stamp : Stamp) (user : String) (store : Store) : Prop where
  /-- There is a rule book that cannot be read. -/
  | unread (failure : Failure) (loaded : ws.bookIn store = .error failure)
      (takes : (ws.publish stamp user).Takes store [none] (· = .error failure))
  /-- The stored rules may not be stored. -/
  | invalid (book : RuleBook) (loaded : ws.bookIn store = .ok book)
      (invalid : isValidRuleSet book.rules = false)
      (takes : (ws.publish stamp user).Takes store [none]
        (· = .error (.error (.invalid (ruleSetIssues book.rules)))))
  /-- It is stored, but the audit log in which to record it cannot be read. -/
  | unrecorded (book : RuleBook) (failure : Failure)
      (loaded : ws.bookIn store = .ok book) (valid : isValidRuleSet book.rules = true)
      (unread : ws.logIn store = .error failure)
      (takes : (ws.publish stamp user).Takes store
        (Action.readThen (ws.scriptWrites stamp book) ++ [none]) (· = .error failure))
  /-- It is stored and recorded. -/
  | recorded (book : RuleBook) (log : AuditLog)
      (loaded : ws.bookIn store = .ok book) (valid : isValidRuleSet book.rules = true)
      (read : ws.logIn store = .ok log)
      (takes : (ws.publish stamp user).Takes store
        (Action.readThen (ws.scriptWrites stamp book) ++
          Action.readThen (ws.recordWrites log (ws.publishEntry stamp user book)))
        (fun result => ∃ purge, result = .ok (ws.publishReport stamp user book purge)))

/-- A publication of rules that may be stored stores their script and goes on with its recording. -/
theorem takes_publish_of_valid (stamp : Stamp) (user : String) {store : Store} {book : RuleBook}
    (loaded : ws.bookIn store = .ok book) (valid : isValidRuleSet book.rules = true)
    {more : List (Option Write)} {ends : Except Failure PublishReport → Prop}
    (rest : (do
      ws.recordEntry (ws.publishEntry stamp user book)
      return ws.publishReport stamp user book (← ws.purge) : Action PublishReport).Takes
        (store.writeAll (ws.scriptWrites stamp book)) more ends) :
    (ws.publish stamp user).Takes store
      (Action.readThen (ws.scriptWrites stamp book) ++ more) ends := by
  have load := ws.takes_load store
  rw [loaded] at load
  refine load.bind ((takes_requireValid_ok valid store).bind ?_)
  exact (Action.takes_set _ _ store).bind ((Action.takes_set _ _ _).bind rest)

theorem publish_course (stamp : Stamp) (user : String) (store : Store) :
    ws.PublishCourse stamp user store := by
  have load := ws.takes_load store
  cases loaded : ws.bookIn store with
  | error failure =>
      rw [loaded] at load
      exact .unread failure loaded load.bind_error
  | ok book =>
      rw [loaded] at load
      cases valid : isValidRuleSet book.rules with
      | false =>
          have refused := takes_requireValid_error valid store
          exact .invalid book loaded valid (load.bind refused.bind_error)
      | true =>
          have unchanged := ws.logIn_scriptWrites stamp book store
          cases read : ws.logIn store with
          | error failure =>
              rw [read] at unchanged
              exact .unrecorded book failure loaded valid read
                (ws.takes_publish_of_valid stamp user loaded valid
                  (ws.takes_recordEntry_error unchanged _).bind_error)
          | ok log =>
              rw [read] at unchanged
              have rest := ws.takes_publish_of_valid stamp user loaded valid
                ((ws.takes_recordEntry unchanged _).bind
                  (Action.Takes.map (ws.publishReport stamp user book) (ws.takes_purge _)))
              rw [List.append_nil] at rest
              refine .recorded book log loaded valid read (rest.imp ?_)
              rintro result ⟨inner, ⟨purge, rfl⟩, rfl⟩
              exact ⟨purge, rfl⟩

/-- A publication succeeds if the book and the log can be read and the rules may be stored. -/
theorem publish_ok {world : World} (reliable : ∀ n, world.storeFails n = false) {book : RuleBook}
    (loaded : ws.bookIn world.store = .ok book) (valid : isValidRuleSet book.rules = true)
    {log : AuditLog} (read : ws.logIn world.store = .ok log) (stamp : Stamp) (user : String) :
    ∃ purge after, (ws.publish stamp user).run world =
      (.ok (ws.publishReport stamp user book purge), after) := by
  cases ws.publish_course stamp user world.store with
  | unread failure loaded' takes => cases loaded.symm.trans loaded'
  | invalid book' loaded' invalid takes =>
      cases loaded.symm.trans loaded'
      cases valid.symm.trans invalid
  | unrecorded book' failure loaded' valid' unread takes => cases read.symm.trans unread
  | recorded book' log' loaded' valid' read' takes =>
      cases loaded.symm.trans loaded'
      obtain ⟨purge, result⟩ := (takes.follows.of_reliable rfl reliable).1
      exact ⟨purge, _, Prod.ext result rfl⟩

/-! ## Reading and sweeping -/

theorem reads_load : ws.load.Reads :=
  Action.reads_of_follows ws.follows_load

theorem reads_transitions (now : Instant) : (ws.transitions now).Reads := by
  refine (Action.reads_of_follows ws.follows_loadStored).bind fun stored => ?_
  cases stored with
  | none => exact Action.reads_pure _
  | some book =>
      dsimp only
      split
      · exact Action.reads_fail _
      · exact Action.reads_pure _

theorem reads_sweepOnly (keep : TransitionRecord → Bool) (now : Instant) :
    (ws.sweepOnly keep now).Reads := by
  refine (ws.reads_transitions now).bind fun found => ?_
  cases found with
  | none => exact Action.reads_pure _
  | some counted =>
      dsimp only
      split
      · exact Action.reads_pure _
      · have purge := Action.reads_of_follows fun store => (ws.takes_purge store).follows
        exact purge.bind fun _ => Action.reads_pure _

end Workspace

end Exclusion
