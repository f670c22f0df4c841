/-
# Exclusion.Proofs.Workspace.Trail -- the audit log agrees with the snapshots and with what was done

Runs of calls on a workspace whose store is empty at first and never fails.  After every run

* the audit log has the entries of the latest successful calls, as many as there is room for; their
  snapshots are the rules that these calls stored, and the store has no other keys than these, the
  audit log's and the rules' (`auditLog_matches_snapshots`);
* the log can be replayed: each entry says how its snapshot came out of the one before
  (`auditLog_replays`).

Both are read off the marks that the run left (`Keeps`), which every call preserves (`Keeps.step`).
The clock that stamps the calls gives no leap seconds, and the dates of the rules are none: either
would come back in the next second.
-/
import Exclusion.Proofs.Audit.Change
import Exclusion.Proofs.Workspace.History
import Exclusion.Proofs.Workspace.Publication

namespace Exclusion

set_option autoImplicit false

open Exclusion.Json

/-! ## What marks tell -/

namespace Mark

/-- The entry of a mark tells what its call did to the rules. -/
structure Tells (environment : Environment) (m : Mark) : Prop where
  stored : m.receipt.Stored m.rules
  whole : (∀ r ∈ m.call.rules, r.IsWholeMilli) → ∀ r ∈ m.rules, r.IsWholeMilli
  matched : m.entry.action.isPublication = m.call.isPublication
  told : m.entry.Tells environment m.before.rules m.rules

/-- The mark of an edit. -/
def ofEdit (stamp : Stamp) (user : String) (edit : Edit) (before : RuleBook) (rules : List Rule) :
    Mark where
  call := .edit stamp user edit
  stamp := stamp
  before := before
  entry := Workspace.editEntry stamp user before.rules rules
  rules := rules
  script := before.script

/-- The mark of a publication. -/
def ofPublication (ws : Workspace) (stamp : Stamp) (user : String) (before : RuleBook) : Mark where
  call := .publish stamp user
  stamp := stamp
  before := before
  entry := ws.publishEntry stamp user before
  rules := before.rules
  script := (Script.compile before.rules stamp.compiledAt).source

theorem tells_ofEdit (environment : Environment) (stamp : Stamp) (user : String) {edit : Edit}
    {before : RuleBook} {rules : List Rule} (applied : edit.apply before.rules = .ok rules)
    (whole : ∀ r ∈ before.rules, r.IsWholeMilli) :
    (ofEdit stamp user edit before rules).Tells environment where
  stored := ⟨before, rfl, applied⟩
  whole := Edit.isWholeMilli_of_apply applied whole
  matched := Change.isPublication_ofEdit _ _
  told := AuditEntry.tells_ofEdit _ _

theorem tells_ofPublication (ws : Workspace) (stamp : Stamp) (user : String) {before : RuleBook}
    (whole : ∀ r ∈ before.rules, r.IsWholeMilli) :
    (ofPublication ws stamp user before).Tells ws.config.environment where
  stored := ⟨before, rfl, rfl⟩
  whole := fun _ => whole
  matched := ws.config.environment.isPublication_publication
  told := AuditEntry.tells_published (Script.ruleCount_compile _ _)

end Mark

namespace Workspace

variable (ws : Workspace)

/-! ## Runs -/

/-- The session has the marks of its receipts in a store that does not fail, and each mark goes on
from the book of the one before. -/
structure Keeps (used : List String) (session : Session) (marks : List Mark) : Prop where
  receipts : session.receipts = marks.map Mark.receipt
  reliable : ∀ n, session.world.storeFails n = false
  holds : ws.Holds session.world.store marks
  used : ∀ m ∈ marks, m.id ∈ used
  tells : ∀ m ∈ marks, m.Tells ws.config.environment
  chain : marks.IsChain fun newer older => newer.before = older.book

theorem keeps_empty {world : World} (empty : world.store = .empty)
    (reliable : ∀ n, world.storeFails n = false) : ws.Keeps [] ⟨world, []⟩ [] where
  receipts := rfl
  reliable := reliable
  holds := by
    rw [empty]
    exact ws.holds_empty
  used := List.forall_mem_nil _
  tells := List.forall_mem_nil _
  chain := List.isChain_nil

variable {ws} {used : List String} {session : Session} {marks : List Mark}

/-- What is loaded in a session is the book of the newest mark. -/
theorem Keeps.load (keeps : ws.Keeps used session marks) :
    (ws.load.run session.world).1 = .ok (newestBook marks) := by
  rw [((ws.follows_load _).of_reliable rfl keeps.reliable).1, keeps.holds.bookIn]

/-- A call that records nothing leaves the session as it was. -/
theorem Keeps.quiet (keeps : ws.Keeps used session marks) {call : Call}
    (follows : (ws.perform call).Follows session.world.store [] IsQuiet) (more : List String) :
    ws.Keeps (used ++ more) (ws.step session call) marks := by
  obtain ⟨quiet, wrote⟩ := follows.of_reliable rfl keeps.reliable
  have same : ((ws.perform call).run session.world).2.store = session.world.store := wrote.store
  rw [step_of_none quiet]
  exact {
    receipts := keeps.receipts
    reliable := fun n => (congrFun wrote.fails n).trans (keeps.reliable n)
    holds := same ▸ keeps.holds
    used := fun m member => List.mem_append_left more (keeps.used m member)
    tells := keeps.tells
    chain := keeps.chain }

/-- A call that stores rules and records an entry leaves a mark. -/
theorem Keeps.record (keeps : ws.Keeps used session marks) {m : Mark} (sound : m.Sound)
    (fresh : m.id ∉ used) (tells : m.Tells ws.config.environment)
    (loaded : m.before = newestBook marks) {mid : Store} {writes : List Write}
    (stores : ws.Stores session.world.store mid m.id ⟨m.rules, m.script⟩)
    (records : ws.Records mid (session.world.store.writeAll writes) (ws.logOf marks) m.entry)
    (follows : (ws.perform m.call).Follows session.world.store writes (· = .ok (some m.entry))) :
    ws.Keeps (used ++ [m.id]) (ws.step session m.call) (m :: marks) := by
  obtain ⟨recorded, wrote⟩ := follows.of_reliable rfl keeps.reliable
  have new : m.id ∉ marks.map Mark.id := by
    intro member
    obtain ⟨n, listed, same⟩ := List.mem_map.1 member
    exact fresh (same ▸ keeps.used n listed)
  have holds := keeps.holds.record sound new stores records
  rw [← wrote.store] at holds
  rw [step_of_entry recorded]
  exact {
    receipts := by
      rw [keeps.load, keeps.receipts, ← loaded]
      rfl
    reliable := fun n => (congrFun wrote.fails n).trans (keeps.reliable n)
    holds := holds
    used := by
      refine List.forall_mem_cons.2 ⟨List.mem_append_right used (List.mem_singleton.2 rfl), ?_⟩
      intro n member
      exact List.mem_append_left [m.id] (keeps.used n member)
    tells := List.forall_mem_cons.2 ⟨tells, keeps.tells⟩
    chain := by
      refine List.isChain_cons.2 ⟨?_, keeps.chain⟩
      intro older newest
      rw [loaded, newestBook, Option.mem_def.1 newest]
      rfl }

/-- The rules that are loaded in a session have dates that can be stored. -/
theorem Keeps.isWholeMilli_newestBook (keeps : ws.Keeps used session marks) :
    ∀ r ∈ (newestBook marks).rules, r.IsWholeMilli :=
  ws.isWholeMilli_of_bookIn keeps.holds.bookIn

theorem Keeps.avoidsLeapSeconds_newestBook (keeps : ws.Keeps used session marks) :
    ∀ r ∈ (newestBook marks).rules, r.AvoidsLeapSeconds := by
  intro r member
  exact (keeps.isWholeMilli_newestBook r member).avoidsLeapSeconds

/-- An edit leaves its mark. -/
theorem Keeps.edit (keeps : ws.Keeps used session marks) {stamp : Stamp} {user : String} {edit : Edit}
    {rules : List Rule} (applied : edit.apply (newestBook marks).rules = .ok rules)
    (avoid : ∀ r ∈ edit.rules, r.AvoidsLeapSeconds) (plain : stamp.recordedAt.isLeap = false)
    (fresh : stamp.snapshotId ∉ used)
    (follows : (ws.perform (.edit stamp user edit)).Follows session.world.store
      (ws.storeWrites stamp (newestBook marks) rules ++
        ws.recordWrites (ws.logOf marks) (editEntry stamp user (newestBook marks).rules rules))
      (· = .ok (some (editEntry stamp user (newestBook marks).rules rules)))) :
    ws.Keeps (used ++ [stamp.snapshotId]) (ws.step session (.edit stamp user edit))
      (.ofEdit stamp user edit (newestBook marks) rules :: marks) := by
  let m : Mark := .ofEdit stamp user edit (newestBook marks) rules
  have sound : m.Sound :=
    ⟨Edit.avoidsLeapSeconds_of_apply applied keeps.avoidsLeapSeconds_newestBook avoid, rfl, plain⟩
  have tells := Mark.tells_ofEdit ws.config.environment stamp user applied
    keeps.isWholeMilli_newestBook
  have records := ws.records_recordWrites
    (session.world.store.writeAll (ws.storeWrites stamp (newestBook marks) rules))
    (ws.logOf marks) m.entry
  rw [← Store.writeAll_append] at records
  exact keeps.record sound fresh tells rfl (ws.stores_storeWrites _ stamp _ rules) records follows

/-- A publication leaves its mark. -/
theorem Keeps.publish (keeps : ws.Keeps used session marks) {stamp : Stamp} {user : String}
    (plain : stamp.recordedAt.isLeap = false) (fresh : stamp.snapshotId ∉ used)
    (follows : (ws.perform (.publish stamp user)).Follows session.world.store
      (ws.scriptWrites stamp (newestBook marks) ++
        ws.recordWrites (ws.logOf marks) (ws.publishEntry stamp user (newestBook marks)))
      (· = .ok (some (ws.publishEntry stamp user (newestBook marks))))) :
    ws.Keeps (used ++ [stamp.snapshotId]) (ws.step session (.publish stamp user))
      (.ofPublication ws stamp user (newestBook marks) :: marks) := by
  let m : Mark := .ofPublication ws stamp user (newestBook marks)
  have sound : m.Sound := ⟨keeps.avoidsLeapSeconds_newestBook, rfl, plain⟩
  have tells := Mark.tells_ofPublication ws stamp user keeps.isWholeMilli_newestBook
  have records := ws.records_recordWrites
    (session.world.store.writeAll (ws.scriptWrites stamp (newestBook marks)))
    (ws.logOf marks) m.entry
  rw [← Store.writeAll_append] at records
  exact keeps.record sound fresh tells rfl (ws.stores_scriptWrites _ stamp _) records follows

/-- **Every call preserves what a session keeps.** -/
theorem Keeps.step (keeps : ws.Keeps used session marks) {call : Call}
    (avoid : ∀ r ∈ call.rules, r.AvoidsLeapSeconds) (timely : call.IsTimely)
    (fresh : ∀ stamp ∈ call.stamp?, stamp.snapshotId ∉ used) :
    ∃ marks, ws.Keeps (used ++ Call.snapshotIds [call]) (ws.step session call) marks := by
  have loaded := keeps.holds.bookIn
  cases follows_perform keeps.holds.log call with
  | quiet follows => exact ⟨marks, keeps.quiet follows _⟩
  | edited stamp user edit old rules same loaded' applied valid follows =>
      subst same
      cases loaded'.symm.trans loaded
      exact ⟨_, keeps.edit applied avoid (timely stamp rfl) (fresh stamp rfl) follows⟩
  | published stamp user book same loaded' valid follows =>
      subst same
      cases loaded'.symm.trans loaded
      exact ⟨_, keeps.publish (timely stamp rfl) (fresh stamp rfl) follows⟩

/-- A run on an empty store that does not fail leaves marks. -/
theorem exists_keeps_play (ws : Workspace) {world : World} (empty : world.store = .empty)
    (reliable : ∀ n, world.storeFails n = false) {calls : List Call}
    (distinct : (Call.snapshotIds calls).Nodup)
    (avoid : ∀ call ∈ calls, ∀ r ∈ call.rules, r.AvoidsLeapSeconds)
    (timely : ∀ call ∈ calls, call.IsTimely) :
    ∃ marks, ws.Keeps (Call.snapshotIds calls) (ws.play world calls) marks := by
  refine play_of_step (fun call => (∀ r ∈ call.rules, r.AvoidsLeapSeconds) ∧ call.IsTimely)
    (fun used session => ∃ marks, ws.Keeps used session marks) ?_
    (fun call member => ⟨avoid call member, timely call member⟩)
    ⟨[], ws.keeps_empty empty reliable⟩ distinct
  rintro used session call ⟨marks, keeps⟩ ⟨avoid, timely⟩ fresh
  exact keeps.step avoid timely fresh

/-! ## The log and the snapshots -/

/-- What a session's world reads of its log and its snapshots. -/
theorem Keeps.auditLog (keeps : ws.Keeps used session marks) :
    (ws.auditLog.run session.world).1 = .ok (ws.logOf marks) := by
  rw [((ws.follows_auditLog _).of_reliable rfl keeps.reliable).1, keeps.holds.log]

theorem Keeps.snapshot (keeps : ws.Keeps used session marks) {m : Mark}
    (kept : m ∈ marks.take ws.config.audit.maxEntries) :
    ((ws.snapshot m.id).run session.world).1 = .ok (some m.book.rules) := by
  rw [((ws.follows_snapshot m.id _).of_reliable rfl keeps.reliable).1]
  exact keeps.holds.snapshots m kept

/-- The snapshots in the store are those that the log names. -/
theorem Holds.contains_snapshot {store : Store} (holds : ws.Holds store marks) (id : String) :
    store.contains (ws.snapshotKey id) = true ↔
      ∃ m ∈ marks.take ws.config.audit.maxEntries, m.id = id := by
  constructor
  · intro present
    rcases holds.names _ (Store.isSome_get?.1 present) with same | same | ⟨m, kept, same⟩
    · exact absurd same.symm (ws.rulesKey_ne_snapshotKey id)
    · exact absurd same.symm (ws.auditKey_ne_snapshotKey id)
    · exact ⟨m, kept, (ws.snapshotKey_inj.1 same).symm⟩
  · rintro ⟨m, kept, rfl⟩
    obtain ⟨text, stored, -⟩ := readIn_eq_some (holds.snapshots m kept)
    rw [Store.contains, stored]
    rfl

/-- There is a key for each snapshot, one for the rules and one for the log. -/
theorem Holds.size_le {store : Store} (holds : ws.Holds store marks) :
    store.size ≤ ws.config.audit.maxEntries + 2 := by
  have listed : ∀ name ∈ store.names, name ∈ ws.rulesKey.text :: ws.auditKey.text ::
      (marks.take ws.config.audit.maxEntries).map fun m => (ws.snapshotKey m.id).text := by
    intro name member
    rcases holds.names name member with same | same | ⟨m, kept, same⟩
    · simp [same]
    · simp [same]
    · rw [same]
      exact List.mem_cons_of_mem _ (List.mem_cons_of_mem _ (List.mem_map_of_mem kept))
  refine (holds.distinct.size_le listed).trans ?_
  simp only [List.length_cons, List.length_map]
  have := List.length_take_le ws.config.audit.maxEntries marks
  omega

/-- **The log and the snapshots agree over whole runs.**  After a run the log has the entries that the
latest successful calls returned, newest first and with their times cut down to the millisecond, as
many as there is room for.  The snapshot of each is the list of rules that its call stored, with its
dates cut down, which changes nothing if they were whole.  The log names all snapshots that there are,
and there is nothing else but the rules and the log. -/
theorem auditLog_matches_snapshots (ws : Workspace) {world : World} (empty : world.store = .empty)
    (reliable : ∀ n, world.storeFails n = false) {calls : List Call}
    (distinct : (Call.snapshotIds calls).Nodup)
    (avoid : ∀ call ∈ calls, ∀ r ∈ call.rules, r.AvoidsLeapSeconds)
    (timely : ∀ call ∈ calls, call.IsTimely) :
    ∃ log, (ws.auditLog.run (ws.play world calls).world).1 = .ok log ∧
      log.entries = ((ws.play world calls).receipts.take ws.config.audit.maxEntries).map
        (·.entry.floorMilli) ∧
      log.entries.length =
        min (ws.play world calls).receipts.length ws.config.audit.maxEntries ∧
      (∀ receipt ∈ (ws.play world calls).receipts.take ws.config.audit.maxEntries,
        ∃ id rules, receipt.entry.snapshotId = some id ∧ receipt.Stored rules ∧
          ((ws.snapshot id).run (ws.play world calls).world).1 =
            .ok (some (rules.map Rule.floorMilli)) ∧
          ((∀ r ∈ receipt.call.rules, r.IsWholeMilli) → rules.map Rule.floorMilli = rules)) ∧
      (∀ id, (ws.play world calls).world.store.contains (ws.snapshotKey id) = true ↔
        ∃ e ∈ log.entries, e.snapshotId = some id) ∧
      (ws.play world calls).world.store.size ≤ ws.config.audit.maxEntries + 2 := by
  obtain ⟨marks, keeps⟩ := exists_keeps_play ws empty reliable distinct avoid timely
  have sound : ∀ m ∈ marks.take ws.config.audit.maxEntries, m.Sound := by
    intro m member
    exact keeps.holds.sound m (List.mem_of_mem_take member)
  refine ⟨ws.logOf marks, keeps.auditLog, ?_, ?_, ?_, ?_, keeps.holds.size_le⟩
  · rw [keeps.receipts, ← List.map_take, List.map_map, logOf]
    rfl
  · rw [keeps.receipts, logOf, List.length_map, List.length_take, List.length_map, Nat.min_comm]
  · intro receipt member
    rw [keeps.receipts, ← List.map_take] at member
    obtain ⟨m, kept, rfl⟩ := List.mem_map.1 member
    have tells := keeps.tells m (List.mem_of_mem_take kept)
    refine ⟨m.id, m.rules, (sound m kept).named, tells.stored, keeps.snapshot kept, ?_⟩
    intro whole
    exact Rule.map_floorMilli (tells.whole whole)
  · intro id
    rw [keeps.holds.contains_snapshot id]
    constructor
    · rintro ⟨m, kept, rfl⟩
      exact ⟨m.logged, List.mem_map_of_mem kept, (sound m kept).snapshotId_logged⟩
    · rintro ⟨e, member, named⟩
      obtain ⟨m, kept, rfl⟩ := List.mem_map.1 member
      rw [(sound m kept).snapshotId_logged] at named
      exact ⟨m, kept, Option.some.inj named⟩

/-- The log after the calls about the banner. -/
theorem auditLog_matches_snapshots_bannerCalls :
    ∃ log, (usual.auditLog.run (usual.play {} bannerCalls).world).1 = .ok log ∧
      log.entries = ((usual.play {} bannerCalls).receipts.take 30).map (·.entry.floorMilli) ∧
      log.entries.length = min (usual.play {} bannerCalls).receipts.length 30 ∧
      (∀ receipt ∈ (usual.play {} bannerCalls).receipts.take 30,
        ∃ id rules, receipt.entry.snapshotId = some id ∧ receipt.Stored rules ∧
          ((usual.snapshot id).run (usual.play {} bannerCalls).world).1 =
            .ok (some (rules.map Rule.floorMilli)) ∧
          ((∀ r ∈ receipt.call.rules, r.IsWholeMilli) → rules.map Rule.floorMilli = rules)) ∧
      (∀ id, (usual.play {} bannerCalls).world.store.contains (usual.snapshotKey id) = true ↔
        ∃ e ∈ log.entries, e.snapshotId = some id) ∧
      (usual.play {} bannerCalls).world.store.size ≤ 30 + 2 :=
  auditLog_matches_snapshots usual rfl (fun _ => rfl) (by decide) (by decide) (by decide)

/-! ## Replaying -/

/-- In this world the newer of two entries tells how its snapshot came out of that of the older. -/
def Replays (ws : Workspace) (world : World) (newer older : AuditEntry) : Prop :=
  ∃ newId oldId new old, newer.snapshotId = some newId ∧ older.snapshotId = some oldId ∧
    ((ws.snapshot newId).run world).1 = .ok (some new) ∧
    ((ws.snapshot oldId).run world).1 = .ok (some old) ∧ newer.Tells ws.config.environment old new

theorem Keeps.replays (keeps : ws.Keeps used session marks)
    (whole : ∀ m ∈ marks, ∀ r ∈ m.call.rules, r.IsWholeMilli) :
    (ws.logOf marks).entries.IsChain (ws.Replays session.world) := by
  refine (List.isChain_map Mark.logged).2 ((keeps.chain.take _).imp_of_mem_imp ?_)
  intro newer older newerKept olderKept goesOn
  have newerMarked := List.mem_of_mem_take newerKept
  have olderMarked := List.mem_of_mem_take olderKept
  have tells := keeps.tells newer newerMarked
  have told : newer.logged.Tells ws.config.environment older.book.rules newer.book.rules := by
    have same : newer.book.rules = newer.rules :=
      Rule.map_floorMilli (tells.whole (whole newer newerMarked))
    rw [same, ← goesOn]
    exact ⟨tells.told.edit, tells.told.publication⟩
  exact ⟨newer.id, older.id, newer.book.rules, older.book.rules,
    (keeps.holds.sound newer newerMarked).snapshotId_logged,
    (keeps.holds.sound older olderMarked).snapshotId_logged,
    keeps.snapshot newerKept, keeps.snapshot olderKept, told⟩

/-- The snapshot of the newest entry is the stored list of rules. -/
theorem Keeps.newest (keeps : ws.Keeps used session marks) :
    ∀ newest ∈ (ws.logOf marks).entries.head?, ∃ id, newest.snapshotId = some id ∧
      ((ws.snapshot id).run session.world).1 = .ok (some (newestBook marks).rules) := by
  obtain ⟨capacity, room⟩ := Nat.exists_eq_succ_of_ne_zero ws.maxEntries_ne_zero
  intro newest first
  cases marks with
  | nil =>
      rw [logOf, List.take_nil] at first
      cases first
  | cons m marks =>
      have kept : m ∈ (m :: marks).take ws.config.audit.maxEntries := by
        rw [room, List.take_succ_cons]
        exact List.mem_cons_self ..
      rw [logOf, room, List.take_succ_cons] at first
      cases first
      have sound := keeps.holds.sound m (List.mem_cons_self ..)
      exact ⟨m.id, sound.snapshotId_logged, keeps.snapshot kept⟩

/-- **The audit log can be replayed.**  After a run the newest entry's snapshot is the stored list of
rules.  Of two neighbouring entries the newer tells how its snapshot came out of that of the older: an
edit as the change between the two, a publication as one of so many active rules, which changes none.
An entry is of a publication exactly if the call was one that recorded it. -/
theorem auditLog_replays (ws : Workspace) {world : World} (empty : world.store = .empty)
    (reliable : ∀ n, world.storeFails n = false) {calls : List Call}
    (distinct : (Call.snapshotIds calls).Nodup)
    (whole : ∀ call ∈ calls, ∀ r ∈ call.rules, r.IsWholeMilli)
    (timely : ∀ call ∈ calls, call.IsTimely) :
    ∃ log book, (ws.auditLog.run (ws.play world calls).world).1 = .ok log ∧
      (ws.load.run (ws.play world calls).world).1 = .ok book ∧
      (∀ newest ∈ log.entries.head?, ∃ id, newest.snapshotId = some id ∧
        ((ws.snapshot id).run (ws.play world calls).world).1 = .ok (some book.rules)) ∧
      log.entries.IsChain (ws.Replays (ws.play world calls).world) ∧
      log.entries.map (·.action.isPublication) =
        ((ws.play world calls).receipts.take ws.config.audit.maxEntries).map
          (·.call.isPublication) := by
  have avoid : ∀ call ∈ calls, ∀ r ∈ call.rules, r.AvoidsLeapSeconds := by
    intro call made r brought
    exact (whole call made r brought).avoidsLeapSeconds
  obtain ⟨marks, keeps⟩ := exists_keeps_play ws empty reliable distinct avoid timely
  have marks_whole : ∀ m ∈ marks, ∀ r ∈ m.call.rules, r.IsWholeMilli := by
    intro m member
    have received : m.receipt ∈ (ws.play world calls).receipts := by
      rw [keeps.receipts]
      exact List.mem_map_of_mem member
    exact whole m.call (call_mem_of_receipt_mem received)
  refine ⟨ws.logOf marks, newestBook marks, keeps.auditLog, keeps.load, keeps.newest,
    keeps.replays marks_whole, ?_⟩
  rw [keeps.receipts, ← List.map_take, List.map_map, logOf, List.map_map]
  refine List.map_congr_left ?_
  intro m member
  exact (keeps.tells m (List.mem_of_mem_take member)).matched

theorem auditLog_replays_bannerCalls :
    ∃ log book, (usual.auditLog.run (usual.play {} bannerCalls).world).1 = .ok log ∧
      (usual.load.run (usual.play {} bannerCalls).world).1 = .ok book ∧
      (∀ newest ∈ log.entries.head?, ∃ id, newest.snapshotId = some id ∧
        ((usual.snapshot id).run (usual.play {} bannerCalls).world).1 = .ok (some book.rules)) ∧
      log.entries.IsChain (usual.Replays (usual.play {} bannerCalls).world) ∧
      log.entries.map (·.action.isPublication) =
        ((usual.play {} bannerCalls).receipts.take 30).map (·.call.isPublication) :=
  auditLog_replays usual rfl (fun _ => rfl) (by decide) (by decide) (by decide)

end Workspace

end Exclusion
