/-
# Exclusion.Proofs.Workspace.Serving -- what is served is the latest publication or the placeholder

Runs of calls on a workspace whose store is empty at first and never fails.  After every run the stored
script is the source that the latest successful publication compiled, or empty if there was none: an
edit stores it again as it was (`Serves.step`).  What is served depends on the script and on the stored
rules at once.  It is that source if there are active rules both among those it was compiled from and
among those that are stored now, and else exactly the placeholder (`serves_latest_publication`).

Rules that are stored may have any dates that can be read then, leap seconds among them, and ids may be
used again.  Only in the leap second after the last second of all a date cannot be read, and nothing is
served any more (`unreadable_after_last_second`).  The clock that stamps the calls gives no leap seconds.
-/
import Exclusion.Proofs.Workspace.Publication
import Exclusion.Proofs.Workspace.Recording

namespace Exclusion

set_option autoImplicit false

open Exclusion.Json

/-! ## Publications -/

/-- What a publication compiled, and when. -/
structure Publication where
  rules : List Rule
  compiledAt : Instant

/-- The source that the publication stored. -/
def Publication.source (p : Publication) : String :=
  (Script.compile p.rules p.compiledAt).source

/-- The rules that were stored right before the call of a receipt. -/
def Receipt.rulesBefore (receipt : Receipt) : List Rule :=
  match receipt.before with
  | .ok book => book.rules
  | .error _ => []

/-- What the call of a receipt published, if it is a publication. -/
def Receipt.publication? (receipt : Receipt) : Option Publication :=
  match receipt.call with
  | .publish stamp _ => some ⟨receipt.rulesBefore, stamp.compiledAt⟩
  | _ => none

/-- The latest of the publications that receipts, newest first, tell of. -/
def latestPublication (receipts : List Receipt) : Option Publication :=
  receipts.findSome? Receipt.publication?

/-- The source of the latest publication; an empty text if there is none. -/
def latestSource (receipts : List Receipt) : String :=
  ((latestPublication receipts).map Publication.source).getD ""

/-- What is to be served for a publication, if there was one, and the rules that are stored now. -/
def served (published : Option Publication) (rules : List Rule) : String :=
  match published with
  | none => Script.placeholder
  | some p =>
    if (∃ r ∈ p.rules, r.isActive = true) ∧ ∃ r ∈ rules, r.isActive = true then p.source
    else Script.placeholder

theorem served_nil (published : Option Publication) : served published [] = Script.placeholder := by
  cases published <;> simp [served]

/-- A book with the source of a publication for its script is served as it is to be. -/
theorem Artifact.ofStored_published (published : Option Publication) (rules : List Rule) :
    Artifact.ofStored (some ⟨rules, (published.map Publication.source).getD ""⟩) =
      ⟨served published rules⟩ := by
  cases published with
  | none =>
      have blank : Text.isBlankText "" = true := rfl
      simp only [Option.map_none, Option.getD_none, Artifact.ofStored, blank, Bool.or_true, if_true]
      rfl
  | some p =>
      refine (Artifact.ofStored_source rules p.rules p.compiledAt).trans ?_
      rw [served]
      split <;> rfl

/-- What is to be served is a live artifact unless it is the placeholder, byte for byte. -/
theorem isLive_served (published : Option Publication) (rules : List Rule) :
    (Artifact.mk (served published rules)).isLive = true ↔
      served published rules ≠ Script.placeholder := by
  have idle : (Artifact.mk Script.placeholder).isLive = false := by
    rw [Artifact.isLive, Script.isPlaceholder_placeholder]
    rfl
  cases published with
  | none => simp [served, idle]
  | some p =>
      rw [served]
      split
      · rename_i active
        have live : (Artifact.mk p.source).isLive = true := by
          rw [Artifact.isLive, Publication.source, Script.isPlaceholder_compile]
          simpa using payload_ne_nil.2 active.1
        refine iff_of_true live fun same => ?_
        rw [same, idle] at live
        cases live
      · simp [idle]

namespace Workspace

variable (ws : Workspace)

/-! ## Runs -/

/-- The session has the source of its latest publication in a store that does not fail. -/
structure Serves (session : Session) : Prop where
  reliable : ∀ n, session.world.storeFails n = false
  log : ∃ log, ws.logIn session.world.store = .ok log
  book : ∃ stored, readIn RuleBook.codec ws.rulesKey session.world.store = .ok stored ∧
    (stored.getD {}).script = latestSource session.receipts

theorem serves_empty {world : World} (empty : world.store = .empty)
    (reliable : ∀ n, world.storeFails n = false) : ws.Serves ⟨world, []⟩ where
  reliable := reliable
  log := by
    rw [empty]
    exact ⟨_, ws.logIn_of_none rfl⟩
  book := by
    rw [empty]
    exact ⟨none, readIn_of_none rfl, rfl⟩

variable {ws} {session : Session} {call : Call}

/-- What is loaded in a session. -/
theorem Serves.load (serves : ws.Serves session) :
    ∃ book, (ws.load.run session.world).1 = .ok book ∧ ws.bookIn session.world.store = .ok book ∧
      book.script = latestSource session.receipts := by
  obtain ⟨stored, read, script⟩ := serves.book
  have loaded : ws.bookIn session.world.store = .ok (stored.getD {}) := by
    rw [bookIn, read]
    rfl
  refine ⟨_, ?_, loaded, script⟩
  rw [((ws.follows_load _).of_reliable rfl serves.reliable).1, loaded]

/-- A call that records nothing leaves the session as it was. -/
theorem Serves.quiet (serves : ws.Serves session)
    (follows : (ws.perform call).Follows session.world.store [] IsQuiet) :
    ws.Serves (ws.step session call) := by
  obtain ⟨quiet, wrote⟩ := follows.of_reliable rfl serves.reliable
  have same : ((ws.perform call).run session.world).2.store = session.world.store := wrote.store
  rw [step_of_none quiet]
  exact {
    reliable := fun n => (congrFun wrote.fails n).trans (serves.reliable n)
    log := same ▸ serves.log
    book := same ▸ serves.book }

/-- A call that stores a book and records an entry, where the script of the book is the source of what
was published last then. -/
theorem Serves.record (serves : ws.Serves session) {stamp : Stamp} {book old : RuleBook}
    {entry : AuditEntry} {log : AuditLog} {mid : Store} {writes : List Write}
    (storable : ∀ r ∈ book.rules, r.IsStorable) (plain : entry.recordedAt.isLeap = false)
    (read : ws.logIn session.world.store = .ok log)
    (loaded : (ws.load.run session.world).1 = .ok old)
    (stores : ws.Stores session.world.store mid stamp.snapshotId book)
    (records : ws.Records mid (session.world.store.writeAll writes) log entry)
    (follows : (ws.perform call).Follows session.world.store writes (· = .ok (some entry)))
    (script : book.script = latestSource (⟨call, .ok old, entry⟩ :: session.receipts)) :
    ws.Serves (ws.step session call) := by
  obtain ⟨recorded, wrote⟩ := follows.of_reliable rfl serves.reliable
  have logged := ws.logIn_of_get? records.logged (ws.isLeap_of_mem_record read plain)
  have stored := ws.readIn_rulesKey_of_isStorable (records.rules.trans stores.stored) storable
  rw [← wrote.store] at logged stored
  rw [step_of_entry recorded, loaded]
  exact {
    reliable := fun n => (congrFun wrote.fails n).trans (serves.reliable n)
    log := ⟨_, logged⟩
    book := ⟨_, stored, script⟩ }

/-- **Every call preserves what a session serves.** -/
theorem Serves.step (serves : ws.Serves session)
    (storable : ∀ receipt ∈ (ws.step session call).receipts, ∀ r ∈ receipt.call.rules, r.IsStorable)
    (timely : call.IsTimely) : ws.Serves (ws.step session call) := by
  obtain ⟨log, read⟩ := serves.log
  obtain ⟨book, ran, loaded, script⟩ := serves.load
  have whole := ws.isWholeMilli_of_bookIn loaded
  have before : ∀ r ∈ book.rules, r.IsStorable := fun r member =>
    (whole r member).avoidsLeapSeconds.isStorable
  cases follows_perform read call with
  | quiet follows => exact serves.quiet follows
  | edited stamp user edit old rules same loaded' applied valid follows =>
      subst same
      cases loaded'.symm.trans loaded
      have recorded := (follows.of_reliable rfl serves.reliable).1
      have brought : ∀ r ∈ Call.rules (.edit stamp user edit), r.IsStorable := by
        rw [step_of_entry recorded] at storable
        exact (List.forall_mem_cons.1 storable).1
      have after : ∀ r ∈ rules, r.IsStorable :=
        Edit.forall_instants_of_apply applied before brought
      have records := ws.records_recordWrites
        (session.world.store.writeAll (ws.storeWrites stamp book rules)) log
        (editEntry stamp user book.rules rules)
      rw [← Store.writeAll_append] at records
      exact serves.record after (timely stamp rfl) read ran (ws.stores_storeWrites _ stamp book rules)
        records follows script
  | published stamp user book' same loaded' valid follows =>
      subst same
      cases loaded'.symm.trans loaded
      have records := ws.records_recordWrites
        (session.world.store.writeAll (ws.scriptWrites stamp book)) log
        (ws.publishEntry stamp user book)
      rw [← Store.writeAll_append] at records
      have stores := ws.stores_scriptWrites session.world.store stamp book
      refine serves.record ?_ (timely stamp rfl) read ran stores records follows rfl
      exact before

/-- The artifact of a session. -/
theorem Serves.artifact (serves : ws.Serves session) {book : RuleBook}
    (loaded : ws.bookIn session.world.store = .ok book) :
    (ws.artifact.run session.world).1 =
      .ok ⟨served (latestPublication session.receipts) book.rules⟩ := by
  obtain ⟨stored, read, script⟩ := serves.book
  rw [((ws.follows_artifact _).of_reliable rfl serves.reliable).1, read]
  rw [bookIn, read] at loaded
  cases loaded
  cases stored with
  | none =>
      have nothing := served_nil (latestPublication session.receipts)
      exact congrArg (fun body => Except.ok (Artifact.mk body)) nothing.symm
  | some book =>
      obtain ⟨rules, text⟩ := book
      obtain rfl : text = latestSource session.receipts := script
      exact congrArg Except.ok (Artifact.ofStored_published _ rules)

/-- An edit is no publication. -/
theorem latestPublication_step_edit (session : Session) (stamp : Stamp) (user : String) (edit : Edit) :
    latestPublication (ws.step session (.edit stamp user edit)).receipts =
      latestPublication session.receipts := by
  rw [Workspace.step]
  split <;> rfl

/-- **What is served is the source of the latest publication, or the placeholder.**  Nothing else is
served after a run, if the calls that succeeded brought dates that can be stored, and an edit that
follows leaves the script as it is. -/
theorem serves_latest_publication (ws : Workspace) {world : World} (empty : world.store = .empty)
    (reliable : ∀ n, world.storeFails n = false) {calls : List Call}
    (storable : ∀ receipt ∈ (ws.play world calls).receipts, ∀ r ∈ receipt.call.rules, r.IsStorable)
    (timely : ∀ call ∈ calls, call.IsTimely) :
    ∃ book artifact,
      (ws.load.run (ws.play world calls).world).1 = .ok book ∧
      (ws.artifact.run (ws.play world calls).world).1 = .ok artifact ∧
      artifact.body = served (latestPublication (ws.play world calls).receipts) book.rules ∧
      (artifact.isLive = true ↔ artifact.body ≠ Script.placeholder) ∧
      book.script = latestSource (ws.play world calls).receipts ∧
      ∀ stamp user edit, (∀ r ∈ Edit.rules edit, r.IsStorable) → stamp.recordedAt.isLeap = false →
        ∃ after, (ws.load.run (ws.step (ws.play world calls) (.edit stamp user edit)).world).1 =
          .ok after ∧ after.script = book.script := by
  have serves : ws.Serves (ws.play world calls) :=
    play_of_each Call.IsTimely
      (fun session => (∀ receipt ∈ session.receipts, ∀ r ∈ receipt.call.rules, r.IsStorable) →
        ws.Serves session)
      (fun serves timely storable =>
        (serves fun receipt old => storable receipt (receipts_subset_step _ _ old)).step storable timely)
      timely (fun _ => ws.serves_empty empty reliable) storable
  obtain ⟨book, ran, loaded, script⟩ := serves.load
  refine ⟨book, _, ran, serves.artifact loaded, rfl, isLive_served _ _, script, ?_⟩
  intro stamp user edit brought plain
  have timely : (Call.edit stamp user edit).IsTimely := by
    rintro _ ⟨⟩
    exact plain
  have serves' : ws.Serves (ws.step (ws.play world calls) (.edit stamp user edit)) := by
    refine serves.step (fun receipt received => ?_) timely
    rcases mem_receipts_step received with old | same
    · exact storable receipt old
    · exact same ▸ brought
  obtain ⟨after, ran', -, script'⟩ := serves'.load
  refine ⟨after, ran', ?_⟩
  rw [script', script, latestSource, latestPublication_step_edit, latestSource]

/-- The banner is published, switched off and published again. -/
theorem serves_latest_publication_bannerCalls :
    ∃ book artifact,
      (usual.load.run (usual.play {} bannerCalls).world).1 = .ok book ∧
      (usual.artifact.run (usual.play {} bannerCalls).world).1 = .ok artifact ∧
      artifact.body = served (latestPublication (usual.play {} bannerCalls).receipts) book.rules ∧
      (artifact.isLive = true ↔ artifact.body ≠ Script.placeholder) ∧
      book.script = latestSource (usual.play {} bannerCalls).receipts ∧
      ∀ stamp user edit, (∀ r ∈ Edit.rules edit, r.IsStorable) → stamp.recordedAt.isLeap = false →
        ∃ after,
          (usual.load.run (usual.step (usual.play {} bannerCalls) (.edit stamp user edit)).world).1 =
            .ok after ∧ after.script = book.script :=
  have storable : ∀ call ∈ bannerCalls, ∀ r ∈ call.rules, r.IsStorable := by decide
  serves_latest_publication usual rfl (fun _ => rfl)
    (fun _ received => storable _ (call_mem_of_receipt_mem received)) (by decide)

/-- Where rules are stored, something is served only if they can be read. -/
theorem exists_readText_of_artifact {world : World} {text : String} {artifact : Artifact}
    (stored : world.store.get? ws.rulesKey = some text)
    (shown : (ws.artifact.run world).1 = .ok artifact) :
    ∃ book, RuleBook.codec.readText text = .ok book := by
  have served := ((ws.follows_artifact _).of_ok rfl (Prod.ext shown rfl)).1
  obtain ⟨found, loaded, -⟩ := except_map_eq_ok.1 served.symm
  exact exists_readText_of_readIn stored loaded

/-- A rule that was made in the leap second after the last second. -/
def hideBannerAtLast : Rule :=
  { hideBanner with
    createdAt := ⟨Instant.maxSecond, 1000000000, by decide, by decide, by decide⟩ }

/-- With a date after the last second it is not so that there always is an artifact: the rule is stored,
and what is stored cannot be read. -/
theorem unreadable_after_last_second :
    ¬ ∀ (ws : Workspace) (world : World) (calls : List Call), world.store = .empty →
      (∀ n, world.storeFails n = false) → (∀ call ∈ calls, call.IsTimely) →
      ∃ artifact, (ws.artifact.run (ws.play world calls).world).1 = .ok artifact := by
  intro always
  have empty : ({} : World).store = .empty := rfl
  have reliable : ∀ n, ({} : World).storeFails n = false := fun _ => rfl
  have applied : (Edit.put hideBannerAtLast).apply [] = .ok [hideBannerAtLast] := rfl
  have stored := usual.get?_rulesKey_play_edit empty reliable ⟨"s1", "e1", .epoch, .epoch⟩ "ann"
    applied (by decide)
  obtain ⟨artifact, shown⟩ := always usual {}
    [.edit ⟨"s1", "e1", .epoch, .epoch⟩ "ann" (.put hideBannerAtLast)] empty reliable (by decide)
  have read := exists_readText_of_artifact stored shown
  exact absurd (RuleBook.exists_readText_iff.1 read) (by decide)

end Workspace

end Exclusion
