/-
# Exclusion.Proofs.Workspace.Sharing -- workspaces that share a store

Workspaces of different namespaces or environments may share a store without noticing: in whatever
order their calls are made, each call gives what it gives if the workspace has a store of its own
(`shared_store_goes_unnoticed`).  Each workspace has its own cache, and its own calls of the store fail
or do not, as they would without the others.

Three facts carry the run.  A call looks only at keys that its workspace owns
(`Workspace.localTo_answer`), it writes only such keys (`Workspace.ownWrites_answer`), and no key of one
workspace has the text of a key of another (`Workspace.owns_apart`).  For the second, evicted entries
must not name snapshots of others: an entry that is read from the log names a snapshot that the
workspace took (`Workspace.NamesOwn`).

Namespaces may be any texts, also with colons.  The ids of snapshots must have none, and no two
workspaces may use one id, because environments of one namespace keep their snapshots side by side.
-/
import Exclusion.Proofs.Store.Key
import Exclusion.Proofs.Workspace.Locality

namespace Exclusion

set_option autoImplicit false

/-! ## Environments -/

theorem Environment.rulesId_injective : Function.Injective Environment.rulesId := by
  intro a b
  cases a <;> cases b <;> decide

theorem Environment.name_injective : Function.Injective Environment.name := by
  intro a b
  cases a <;> cases b <;> decide

/-! ## What a call writes -/

/-- The log names no snapshots but those with these ids. -/
def AuditLog.Names (log : AuditLog) (ids : List String) : Prop :=
  ∀ e ∈ log.entries, ∀ id ∈ e.snapshotId, id ∈ ids

/-- With an entry that names a snapshot of these, the log and the entries that give way name no
others. -/
theorem AuditLog.Names.record {log : AuditLog} {ids : List String} (names : log.Names ids)
    {entry : AuditEntry} (own : ∀ id ∈ entry.snapshotId, id ∈ ids) :
    (log.record entry).1.Names ids ∧
      ∀ e ∈ (log.record entry).2, ∀ id ∈ e.snapshotId, id ∈ ids := by
  have all : ∀ e ∈ entry :: log.entries, ∀ id ∈ e.snapshotId, id ∈ ids :=
    List.forall_mem_cons.2 ⟨own, names⟩
  refine ⟨?_, ?_⟩
  · intro e kept
    exact all e (List.mem_of_mem_take kept)
  · intro e evicted
    exact all e (List.mem_of_mem_drop evicted)

namespace Workspace

/-- A write of a workspace whose snapshots have these ids. -/
inductive OwnWrite (ws : Workspace) (ids : List String) : Write → Prop where
  | book (text : String) : OwnWrite ws ids (.set ws.rulesKey text)
  | snapshot {id : String} (own : id ∈ ids) (text : String) :
      OwnWrite ws ids (.set (ws.snapshotKey id) text)
  | log {log : AuditLog} (names : log.Names ids) : OwnWrite ws ids (.set ws.auditKey log.text)
  | erased {id : String} (own : id ∈ ids) : OwnWrite ws ids (.erase (ws.snapshotKey id))

/-- Whatever log is read from the store names no snapshots but those with these ids. -/
def NamesOwn (ws : Workspace) (ids : List String) (store : Store) : Prop :=
  ∀ log, ws.logIn store = .ok log → log.Names ids

variable {ws : Workspace} {ids : List String} {store : Store} {w : Write} {writes : List Write}

theorem OwnWrite.owns (own : ws.OwnWrite ids w) : ws.Owns ids w.key := by
  cases own with
  | book text => exact .inl rfl
  | snapshot own text => exact .inr (.inr ⟨_, own, rfl⟩)
  | log names => exact .inr (.inl rfl)
  | erased own => exact .inr (.inr ⟨_, own, rfl⟩)

theorem ownWrite_storeWrites {stamp : Stamp} (own : stamp.snapshotId ∈ ids) (old : RuleBook)
    (rules : List Rule) : ∀ w ∈ ws.storeWrites stamp old rules, ws.OwnWrite ids w := by
  rw [storeWrites, List.forall_mem_cons, List.forall_mem_singleton]
  exact ⟨.snapshot own _, .book _⟩

theorem ownWrite_scriptWrites {stamp : Stamp} (own : stamp.snapshotId ∈ ids) (book : RuleBook) :
    ∀ w ∈ ws.scriptWrites stamp book, ws.OwnWrite ids w := by
  rw [scriptWrites, List.forall_mem_cons, List.forall_mem_singleton]
  exact ⟨.book _, .snapshot own _⟩

theorem ownWrite_recordWrites {log : AuditLog} (names : log.Names ids) {entry : AuditEntry}
    (own : ∀ id ∈ entry.snapshotId, id ∈ ids) :
    ∀ w ∈ ws.recordWrites log entry, ws.OwnWrite ids w := by
  obtain ⟨kept, evicted⟩ := names.record own
  rw [recordWrites, List.forall_mem_cons]
  refine ⟨.log kept, ?_⟩
  intro w member
  obtain ⟨key, listed, rfl⟩ := List.mem_map.1 member
  obtain ⟨id, named, rfl⟩ := List.mem_map.1 listed
  obtain ⟨e, gone, names⟩ := List.mem_filterMap.1 named
  exact .erased (evicted e gone id names)

section Made

variable {α : Type} {action : Action α} {ends : Except Failure α → Prop} {world : World}

/-- What follows own writes makes own writes, whatever becomes of it. -/
theorem exists_made_of_follows (follows : action.Follows world.store writes ends)
    (own : ∀ w ∈ writes, ws.OwnWrite ids w) :
    ∃ made, (∀ w ∈ made, ws.OwnWrite ids w) ∧ world.Wrote (action.run world).2 made := by
  obtain ⟨made, first, wrote⟩ := follows.made rfl
  exact ⟨made, fun w member => own w (first.subset member), wrote⟩

theorem exists_made_of_unstored (takes : action.Takes world.store [none] ends) :
    ∃ made, (∀ w ∈ made, ws.OwnWrite ids w) ∧ world.Wrote (action.run world).2 made :=
  exists_made_of_follows takes.follows (List.forall_mem_nil _)

theorem exists_made_of_unrecorded (own : ∀ w ∈ writes, ws.OwnWrite ids w)
    (takes : action.Takes world.store (Action.readThen writes ++ [none]) ends) :
    ∃ made, (∀ w ∈ made, ws.OwnWrite ids w) ∧ world.Wrote (action.run world).2 made := by
  have follows := takes.follows
  rw [List.reduceOption_append, Action.reduceOption_readThen] at follows
  refine exists_made_of_follows follows ?_
  rw [List.forall_mem_append]
  exact ⟨own, List.forall_mem_nil _⟩

theorem exists_made_of_recorded (own : ∀ w ∈ writes, ws.OwnWrite ids w) {log : AuditLog}
    (names : log.Names ids) {entry : AuditEntry} (ownEntry : ∀ id ∈ entry.snapshotId, id ∈ ids)
    (takes : action.Takes world.store
      (Action.readThen writes ++ Action.readThen (ws.recordWrites log entry)) ends) :
    ∃ made, (∀ w ∈ made, ws.OwnWrite ids w) ∧ world.Wrote (action.run world).2 made := by
  refine exists_made_of_follows takes.follows_readThen ?_
  rw [List.forall_mem_append]
  exact ⟨own, ownWrite_recordWrites names ownEntry⟩

end Made

variable {world : World} (names : ws.NamesOwn ids world.store)
include names

theorem ownWrites_edit {stamp : Stamp} (own : stamp.snapshotId ∈ ids) (user : String) (edit : Edit) :
    ∃ made, (∀ w ∈ made, ws.OwnWrite ids w) ∧
      world.Wrote ((ws.edit stamp user edit).run world).2 made := by
  cases ws.edit_course stamp user edit world.store with
  | unread failure loaded takes => exact exists_made_of_unstored takes
  | unknown old unknown loaded refused takes => exact exists_made_of_unstored takes
  | invalid old rules loaded edited invalid takes => exact exists_made_of_unstored takes
  | unrecorded old rules failure loaded edited valid unread takes =>
      exact exists_made_of_unrecorded (ownWrite_storeWrites own old rules) takes
  | recorded old rules log loaded edited valid read takes =>
      refine exists_made_of_recorded (ownWrite_storeWrites own old rules) (names log read) ?_ takes
      rintro id ⟨⟩
      exact own

theorem ownWrites_publish {stamp : Stamp} (own : stamp.snapshotId ∈ ids) (user : String) :
    ∃ made, (∀ w ∈ made, ws.OwnWrite ids w) ∧
      world.Wrote ((ws.publish stamp user).run world).2 made := by
  cases ws.publish_course stamp user world.store with
  | unread failure loaded takes => exact exists_made_of_unstored takes
  | invalid book loaded invalid takes => exact exists_made_of_unstored takes
  | unrecorded book failure loaded valid unread takes =>
      exact exists_made_of_unrecorded (ownWrite_scriptWrites own book) takes
  | recorded book log loaded valid read takes =>
      refine exists_made_of_recorded (ownWrite_scriptWrites own book) (names log read) ?_ takes
      rintro id ⟨⟩
      exact own

/-- **A call writes only what the workspace owns**, if it takes a snapshot with one of the ids. -/
theorem ownWrites_answer {call : Call} (own : ∀ stamp ∈ call.stamp?, stamp.snapshotId ∈ ids) :
    ∃ made, (∀ w ∈ made, ws.OwnWrite ids w) ∧
      world.Wrote ((ws.answer call).run world).2 made := by
  have reads : ∀ {α : Type} {action : Action α} (f : α → Reply), action.Reads →
      ∃ made, (∀ w ∈ made, ws.OwnWrite ids w) ∧
        world.Wrote ((do return f (← action) : Action Reply).run world).2 made := by
    intro α action f reads
    rw [Action.run_map]
    exact ⟨[], List.forall_mem_nil _, reads.wrote world⟩
  cases call with
  | edit stamp user edit =>
      rw [answer, Action.run_map]
      exact ownWrites_edit names (own stamp rfl) user edit
  | publish stamp user =>
      rw [answer, Action.run_map]
      exact ownWrites_publish names (own stamp rfl) user
  | load => exact reads .book ws.reads_load
  | auditLog => exact reads .log (Action.reads_of_follows ws.follows_auditLog)
  | snapshot id => exact reads .snapshot (Action.reads_of_follows (ws.follows_snapshot id))
  | artifact => exact reads .artifact (Action.reads_of_follows ws.follows_artifact)
  | preview page now duration =>
      exact reads .trace (ws.reads_load.bind fun _ => Action.reads_pure _)
  | transitions now => exact reads .transitions (ws.reads_transitions now)
  | sweep keep now => exact reads .swept (ws.reads_sweepOnly keep now)

omit names

/-! ## What a log names -/

theorem NamesOwn.congr {other : Store} (names : ws.NamesOwn ids store)
    (same : other.get? ws.auditKey = store.get? ws.auditKey) : ws.NamesOwn ids other := by
  intro log read
  rw [logIn, same] at read
  exact names log read

theorem namesOwn_empty : ws.NamesOwn ids .empty := by
  intro log read
  cases (ws.logIn_of_none rfl).symm.trans read
  exact List.forall_mem_nil _

/-- A log that names own snapshots still does when it is read again. -/
theorem namesOwn_of_get? {log : AuditLog} (names : log.Names ids)
    (stored : store.get? ws.auditKey = some log.text) : ws.NamesOwn ids store := by
  intro read inStore
  rw [logIn, stored, auditLogOf] at inStore
  cases decoded : AuditLog.ofText log.text ws.config.audit.maxEntries with
  | error cause =>
      rw [decoded] at inStore
      cases inStore
  | ok again =>
      rw [decoded] at inStore
      cases inStore
      have same := AuditLog.snapshotIds_of_ofText decoded
      intro e member id named
      have listed : e.snapshotId ∈ log.entries.map (·.snapshotId) := by
        have kept : e.snapshotId ∈
            (log.entries.map (·.snapshotId)).take ws.config.audit.maxEntries := by
          rw [← same]
          exact List.mem_map_of_mem member
        exact List.mem_of_mem_take kept
      obtain ⟨written, stored, sameId⟩ := List.mem_map.1 listed
      exact names written stored id (sameId ▸ named)

theorem NamesOwn.write (names : ws.NamesOwn ids store) (own : ws.OwnWrite ids w) :
    ws.NamesOwn ids (store.write w) := by
  cases own with
  | book text => exact names.congr (Store.get?_write_of_ne ws.auditKey_ne_rulesKey)
  | snapshot own text => exact names.congr (Store.get?_write_of_ne (ws.auditKey_ne_snapshotKey _))
  | log kept => exact namesOwn_of_get? kept (Store.get?_set_self _ _ _)
  | erased own => exact names.congr (Store.get?_write_of_ne (ws.auditKey_ne_snapshotKey _))

theorem NamesOwn.writeAll (names : ws.NamesOwn ids store)
    (own : ∀ w ∈ writes, ws.OwnWrite ids w) : ws.NamesOwn ids (store.writeAll writes) := by
  induction writes generalizing store with
  | nil => exact names
  | cons w writes ih =>
      obtain ⟨first, others⟩ := List.forall_mem_cons.1 own
      exact ih (names.write first) others

/-! ## Keys of different workspaces -/

theorem isPlain_of_owns (plain : ∀ id ∈ ids, ':' ∉ id.toList) {key : StoreKey}
    (owns : ws.Owns ids key) : key.IsPlain := by
  rcases owns with rfl | rfl | ⟨id, own, rfl⟩
  · exact StoreKey.isPlain_rules _ _
  · exact StoreKey.isPlain_auditLog _ _
  · exact StoreKey.isPlain_snapshot _ (plain id own)

/-- **Workspaces of different namespaces or environments own different keys**, whatever their
namespaces are. -/
theorem owns_apart {other : Workspace} {others : List String}
    (different : (ws.config.space, ws.config.environment) ≠
      (other.config.space, other.config.environment))
    (disjoint : ∀ id ∈ ids, id ∉ others) (plain : ∀ id ∈ ids, ':' ∉ id.toList)
    (plainOthers : ∀ id ∈ others, ':' ∉ id.toList) {key key' : StoreKey}
    (owns : ws.Owns ids key) (owns' : other.Owns others key') : key.text ≠ key'.text := by
  intro sameText
  have same := (StoreKey.text_inj (isPlain_of_owns plain owns)
    (isPlain_of_owns plainOthers owns')).1 sameText
  rcases owns with rfl | rfl | ⟨id, own, rfl⟩ <;>
    rcases owns' with rfl | rfl | ⟨id', own', rfl⟩ <;>
    simp only [rulesKey, auditKey, snapshotKey, StoreKey.rules, StoreKey.auditLog, StoreKey.snapshot,
      StoreKey.mk.injEq, reduceCtorEq, false_and, and_false, true_and] at same
  · exact different (Prod.ext same.1 (Environment.rulesId_injective same.2))
  · exact different (Prod.ext same.1 (Environment.name_injective same.2))
  · exact disjoint id own (same.2 ▸ own')

/-! ## Runs -/

/-- What the calls of a run give, one after the other. -/
def replies (ws : Workspace) : World → List Call → List (Except Failure Reply)
  | _, [] => []
  | world, call :: calls =>
    let (reply, world) := (ws.answer call).run world
    reply :: ws.replies world calls

end Workspace

/-- What is done by members of a group, reduced to what one of them does. -/
def ofMember {ι α : Type} [DecidableEq ι] (i : ι) (tagged : List (ι × α)) : List α :=
  tagged.filterMap fun (j, a) => if j = i then some a else none

/-- A store that workspaces share.  All else of the world each of them has for itself: the calls of the
store that it made, and its cache. -/
structure Shared (ι : Type) where
  store : Store
  own : ι → World

namespace Shared

variable {ι : Type} [DecidableEq ι]

/-- The world as one of the workspaces sees it. -/
def worldOf (shared : Shared ι) (i : ι) : World :=
  { shared.own i with store := shared.store }

/-- The shared store, and what each workspace has for itself, after one of them left this world. -/
def left (shared : Shared ι) (i : ι) (world : World) : Shared ι where
  store := world.store
  own := Function.update shared.own i world

/-- What the calls of a run give, each made by the workspace that it is tagged with. -/
def replies (ws : ι → Workspace) : Shared ι → List (ι × Call) → List (ι × Except Failure Reply)
  | _, [] => []
  | shared, (i, call) :: calls =>
    let (reply, world) := ((ws i).answer call).run (shared.worldOf i)
    (i, reply) :: replies ws (shared.left i world) calls

variable {ws : ι → Workspace} {ids : ι → List String} {shared : Shared ι} {i j : ι}

theorem worldOf_left_self (world : World) : (shared.left i world).worldOf i = world := by
  simp only [worldOf, left, Function.update_self]

theorem worldOf_left_of_ne (other : j ≠ i) (world : World) :
    (shared.left i world).worldOf j = { shared.own j with store := world.store } := by
  simp only [worldOf, left, Function.update_of_ne other]

end Shared

section Run

variable {ι : Type} [DecidableEq ι]

theorem ofMember_cons_self {α : Type} (i : ι) (a : α) (tagged : List (ι × α)) :
    ofMember i ((i, a) :: tagged) = a :: ofMember i tagged := by
  simp only [ofMember, List.filterMap_cons, if_true]

theorem ofMember_cons_of_ne {α : Type} {i j : ι} (other : j ≠ i) (a : α) (tagged : List (ι × α)) :
    ofMember i ((j, a) :: tagged) = ofMember i tagged := by
  simp only [ofMember, List.filterMap_cons, if_neg other]

theorem mem_ofMember {α : Type} {i : ι} {a : α} {tagged : List (ι × α)} :
    a ∈ ofMember i tagged ↔ (i, a) ∈ tagged := by
  simp only [ofMember, List.mem_filterMap, Option.ite_none_right_eq_some, Option.some.injEq]
  constructor
  · rintro ⟨⟨j, b⟩, listed, rfl, rfl⟩
    exact listed
  · intro listed
    exact ⟨(i, a), listed, rfl, rfl⟩

/-- The snapshot that a call asks for. -/
def Call.asked? : Call → Option String
  | .snapshot id => some id
  | _ => none

/-- The call takes and asks for no snapshots but those with these ids. -/
structure Call.KeepsTo (call : Call) (ids : List String) : Prop where
  takes : ∀ stamp ∈ call.stamp?, stamp.snapshotId ∈ ids
  asks : ∀ id ∈ call.asked?, id ∈ ids

variable {ws : ι → Workspace} {ids : ι → List String} {shared : Shared ι} {i j : ι}

/-- Every workspace finds in the shared store a log that names only its own snapshots. -/
def Shared.NamesOwn (ws : ι → Workspace) (ids : ι → List String) (shared : Shared ι) : Prop :=
  ∀ i, (ws i).NamesOwn (ids i) shared.store

/-- No key of one workspace has the text of a key of another. -/
def Workspace.AreApart (ws : ι → Workspace) (ids : ι → List String) : Prop :=
  ∀ {i j}, i ≠ j → ∀ {key key'}, (ws i).Owns (ids i) key → (ws j).Owns (ids j) key' →
    key.text ≠ key'.text

variable (apart : Workspace.AreApart ws ids)
include apart

omit [DecidableEq ι] in
/-- A call leaves the keys of the other workspaces alone. -/
theorem Shared.get?_left_of_ne (names : shared.NamesOwn ws ids) (other : j ≠ i) {call : Call}
    (keeps : call.KeepsTo (ids i)) {key : StoreKey} (owns : (ws j).Owns (ids j) key) :
    (((ws i).answer call).run (shared.worldOf i)).2.store.get? key = shared.store.get? key := by
  have found : (ws i).NamesOwn (ids i) (shared.worldOf i).store := names i
  obtain ⟨made, own, wrote⟩ := Workspace.ownWrites_answer found keeps.takes
  rw [wrote.store]
  exact Store.get?_writeAll_of_ne fun w member => apart other owns (own w member).owns

/-- After a call all workspaces find their logs so. -/
theorem Shared.NamesOwn.left (names : shared.NamesOwn ws ids) {call : Call}
    (keeps : call.KeepsTo (ids i)) :
    (shared.left i (((ws i).answer call).run (shared.worldOf i)).2).NamesOwn ws ids := by
  intro j
  by_cases same : j = i
  · subst same
    have found : (ws j).NamesOwn (ids j) (shared.worldOf j).store := names j
    obtain ⟨made, own, wrote⟩ := Workspace.ownWrites_answer found keeps.takes
    show (ws j).NamesOwn (ids j) (((ws j).answer call).run (shared.worldOf j)).2.store
    rw [wrote.store]
    exact found.writeAll own
  · exact (names j).congr (Shared.get?_left_of_ne apart names same keeps (.inr (.inl rfl)))

/-- **A run on a shared store gives what it gives on a store that has the same under the keys of the
workspace.**  The induction is on the calls: one of the workspace itself gives the same in both worlds
and leaves them agreeing on its keys, one of another workspace does not touch these keys. -/
theorem Shared.ofMember_replies (i : ι) {calls : List (ι × Call)} {world : World}
    (keep : ∀ call ∈ calls, call.2.KeepsTo (ids call.1)) (names : shared.NamesOwn ws ids)
    (agree : (shared.worldOf i).AgreesOn ((ws i).Owns (ids i)) world) :
    ofMember i (shared.replies ws calls) = (ws i).replies world (ofMember i calls) := by
  induction calls generalizing shared world with
  | nil => rfl
  | cons tagged calls ih =>
      obtain ⟨j, call⟩ := tagged
      obtain ⟨keeps, keep⟩ := List.forall_mem_cons.1 keep
      have namesAfter := Shared.NamesOwn.left apart names keeps
      rw [Shared.replies]
      by_cases same : j = i
      · subst same
        have asks : ∀ id, call = .snapshot id → id ∈ ids j := by
          rintro id rfl
          exact keeps.asks id rfl
        obtain ⟨reply, after⟩ := Workspace.localTo_answer asks _ _ agree
        rw [ofMember_cons_self, ofMember_cons_self, Workspace.replies]
        dsimp only
        rw [reply, ih keep namesAfter]
        rw [Shared.worldOf_left_self]
        exact after
      · rw [ofMember_cons_of_ne same, ofMember_cons_of_ne same]
        refine ih keep namesAfter ?_
        rw [Shared.worldOf_left_of_ne (Ne.symm same)]
        refine ⟨?_, agree.storeCalls, agree.storeFails, agree.purges, agree.purgeFails⟩
        intro key owns
        exact (Shared.get?_left_of_ne apart names (Ne.symm same) keeps owns).trans
          (agree.stored key owns)

omit apart

/-! ## The run from the start -/

/-- Different workspaces take snapshots with different ids if no id is used twice. -/
theorem disjoint_snapshotIds {calls : List (ι × Call)}
    (distinct : (Call.snapshotIds (calls.map Prod.snd)).Nodup) (different : i ≠ j) :
    ∀ id ∈ Call.snapshotIds (ofMember i calls), id ∉ Call.snapshotIds (ofMember j calls) := by
  intro id first second
  obtain ⟨call, listed, taken⟩ := List.mem_flatMap.1 first
  obtain ⟨call', listed', taken'⟩ := List.mem_flatMap.1 second
  rw [Call.snapshotIds, List.flatMap_map, List.nodup_flatMap] at distinct
  have others : (i, call) ≠ (j, call') := fun same => different (congrArg Prod.fst same)
  have symmetric : Std.Symm (Function.onFun List.Disjoint fun tagged : ι × Call =>
      tagged.2.stamp?.toList.map (·.snapshotId)) := ⟨fun _ _ disjoint => disjoint.symm⟩
  have disjoint := distinct.2.forall (mem_ofMember.1 listed) (mem_ofMember.1 listed') others
  exact disjoint taken taken'

theorem mem_snapshotIds_of_ofMember {calls : List (ι × Call)} {id : String}
    (taken : id ∈ Call.snapshotIds (ofMember i calls)) :
    id ∈ Call.snapshotIds (calls.map Prod.snd) := by
  obtain ⟨call, listed, taken⟩ := List.mem_flatMap.1 taken
  exact List.mem_flatMap.2 ⟨call, List.mem_map_of_mem (mem_ofMember.1 listed), taken⟩

/-- **Workspaces that share a store do not notice each other.** -/
theorem shared_store_goes_unnoticed (ws : ι → Workspace) (worlds : ι → World)
    (calls : List (ι × Call))
    (different : ∀ i j, i ≠ j → ((ws i).config.space, (ws i).config.environment) ≠
      ((ws j).config.space, (ws j).config.environment))
    (empty : ∀ i, (worlds i).store = .empty)
    (distinct : (Call.snapshotIds (calls.map Prod.snd)).Nodup)
    (plain : ∀ id ∈ Call.snapshotIds (calls.map Prod.snd), ':' ∉ id.toList)
    (asks : ∀ call ∈ calls, ∀ id ∈ call.2.asked?, id ∈ Call.snapshotIds (ofMember call.1 calls))
    (i : ι) :
    ofMember i (Shared.replies ws ⟨.empty, worlds⟩ calls) =
      (ws i).replies (worlds i) (ofMember i calls) := by
  have plainIds : ∀ i, ∀ id ∈ Call.snapshotIds (ofMember i calls), ':' ∉ id.toList :=
    fun i id taken => plain id (mem_snapshotIds_of_ofMember taken)
  have apart : Workspace.AreApart ws fun i => Call.snapshotIds (ofMember i calls) := by
    intro i j others key key' owns owns'
    exact Workspace.owns_apart (different i j others) (disjoint_snapshotIds distinct others)
      (plainIds i) (plainIds j) owns owns'
  refine Shared.ofMember_replies apart i ?_ (fun i => Workspace.namesOwn_empty) ?_
  · rintro ⟨j, call⟩ listed
    refine ⟨?_, asks _ listed⟩
    intro stamp given
    refine List.mem_flatMap.2 ⟨call, mem_ofMember.2 listed, ?_⟩
    exact List.mem_map_of_mem (Option.mem_toList.2 given)
  · refine ⟨?_, rfl, rfl, rfl, rfl⟩
    intro key owns
    show Store.empty.get? key = (worlds i).store.get? key
    rw [empty i]

end Run

/-- The workspaces of the two environments of one namespace. -/
def environments (isDev : Bool) : Workspace where
  config := { environment := if isDev then .dev else .prod }
  config_sound := by cases isDev <;> rfl
  hasCache := true

/-- Both workspaces store rules, one of them publishes, and both look at what they did. -/
def turns : List (Bool × Call) := [
  (false, .edit ⟨"s1", "e1", .epoch, .epoch⟩ "ann" (.replaceAll [Workspace.hideBanner])),
  (true, .edit ⟨"s2", "e2", .epoch, .epoch⟩ "bob" (.replaceAll [])),
  (false, .publish ⟨"s3", "e3", .epoch, .epoch⟩ "ann"),
  (true, .load),
  (true, .snapshot "s2"),
  (false, .auditLog),
  (false, .snapshot "s1")]

theorem shared_store_goes_unnoticed_turns :
    ofMember true (Shared.replies environments ⟨.empty, fun _ => {}⟩ turns) =
        (environments true).replies {} (ofMember true turns) ∧
      ofMember true turns = [
        .edit ⟨"s2", "e2", .epoch, .epoch⟩ "bob" (.replaceAll []), .load, .snapshot "s2"] :=
  ⟨shared_store_goes_unnoticed environments _ turns (by decide) (fun _ => rfl) (by decide) (by decide)
    (by decide) true, rfl⟩

end Exclusion
