/-
# Exclusion.Proofs.Workspace.Undoing -- edits of stored rules that are undone

Runs of calls on a workspace whose store is empty at first and never fails.  Once something was stored,
the stored text is the text of the rule book that is loaded from it (`Settled.step`): dates are written
as milliseconds, and those are what comes back of them.  So edits that give back the loaded rules give
back the stored text, byte for byte (`edits_can_be_undone`).

Before anything was stored there is no text to give back: an empty rule book is loaded, and it is
stored when the rule that was added to it is deleted.

Dates may be finer than a millisecond.  Leap seconds are left out, as they are stored as the next
second.
-/
import Exclusion.Proofs.Rule.Undo
import Exclusion.Proofs.Workspace.Editing

namespace Exclusion.Workspace

set_option autoImplicit false

open Exclusion.Json

variable (ws : Workspace)

/-! ## What is stored -/

/-- The session is usable, and what was stored in it is stored as it would be stored again. -/
structure Settled (session : Session) : Prop extends ws.Usable session where
  text : session.receipts ≠ [] → ∃ book, ws.bookIn session.world.store = .ok book ∧
    session.world.store.get? ws.rulesKey = some (RuleBook.codec.text book)

theorem settled_empty {world : World} (empty : world.store = .empty)
    (reliable : ∀ n, world.storeFails n = false) : ws.Settled ⟨world, []⟩ where
  toUsable := ws.usable_empty empty reliable
  text recorded := absurd rfl recorded

variable {ws} {session : Session} {call : Call} {book : RuleBook}

/-- **Every call stores what would be stored again.** -/
theorem Settled.step (settled : ws.Settled session) (avoid : ∀ r ∈ call.rules, r.AvoidsLeapSeconds)
    (timely : call.IsTimely) : ws.Settled (ws.step session call) where
  toUsable := settled.toUsable.step avoid timely
  text recorded := by
    obtain ⟨log, read⟩ := settled.log
    rcases quiet_or_recording read call with quiet | ⟨stamp, book, entry, writes, recording⟩
    · have idle := (quiet.of_reliable rfl settled.reliable).1
      rw [step_of_none idle] at recorded
      rw [store_step_of_quiet settled.reliable quiet]
      exact settled.text recorded
    · obtain ⟨mid, stores, records⟩ := recording.step settled.reliable
      have stored := records.rules.trans stores.stored
      refine ⟨_, ws.bookIn_of_get? stored (recording.avoidsLeapSeconds avoid), ?_⟩
      rw [stored, RuleBook.text_floorMilli]

/-- What is loaded may be stored. -/
theorem Usable.isValid (usable : ws.Usable session)
    (loaded : ws.bookIn session.world.store = .ok book) : isValidRuleSet book.rules = true := by
  obtain ⟨stored, read, valid⟩ := usable.book
  rw [bookIn, read] at loaded
  cases loaded
  exact valid

/-- An edit that is acceptable is made. -/
theorem Usable.exists_edited (usable : ws.Usable session)
    (loaded : ws.bookIn session.world.store = .ok book) {edit : Edit}
    (acceptable : edit.IsAcceptable book.rules) (stamp : Stamp) (user : String) :
    ∃ entry new after, (ws.edit stamp user edit).run session.world = (.ok entry, after) ∧
      edit.apply book.rules = .ok new ∧
      after.store.get? ws.rulesKey = some (RuleBook.codec.text { book with rules := new }) := by
  obtain ⟨log, read⟩ := usable.log
  obtain ⟨entry, gave⟩ := (edit_ok_iff usable.reliable loaded (usable.isValid loaded) read stamp user
    edit).2 acceptable
  cases ran : (ws.edit stamp user edit).run session.world with
  | mk result after =>
      rw [ran] at gave
      cases gave
      obtain ⟨old, new, loaded', applied, -, stored⟩ := exists_edited_of_ok ran
      cases loaded.symm.trans loaded'
      exact ⟨entry, new, after, rfl, applied, stored⟩

/-- An edit that was made leaves a receipt. -/
theorem step_edit_of_ok {stamp : Stamp} {user : String} {edit : Edit} {entry : AuditEntry}
    {after : World} (ran : (ws.edit stamp user edit).run session.world = (.ok entry, after)) :
    ws.step session (.edit stamp user edit) = ⟨after,
      ⟨.edit stamp user edit, (ws.load.run session.world).1, entry⟩ :: session.receipts⟩ := by
  have performed : (ws.perform (.edit stamp user edit)).run session.world =
      (.ok (some entry), after) := by
    rw [perform, Action.run_map, ran]
    rfl
  rw [step_of_entry (congrArg Prod.fst performed), performed]

/-! ## Edits that are undone -/

variable (ws)

/-- Whoever makes the first edit and then the second, both succeed, and the text that is stored for the
rules is the one before. -/
def TakesBack (world : World) (edit undo : Edit) : Prop :=
  ∀ (stamp stamp' : Stamp) (user user' : String), stamp.recordedAt.isLeap = false →
    ∃ entry mid entry' after, (ws.edit stamp user edit).run world = (.ok entry, mid) ∧
      (ws.edit stamp' user' undo).run mid = (.ok entry', after) ∧
      after.store.get? ws.rulesKey = world.store.get? ws.rulesKey

variable {ws} {edit undo : Edit}

theorem Settled.takesBack (settled : ws.Settled session)
    (loaded : ws.bookIn session.world.store = .ok book)
    (stored : session.world.store.get? ws.rulesKey = some (RuleBook.codec.text book))
    (undone : Edit.UndoneBy book.rules edit undo) (acceptable : edit.IsAcceptable book.rules)
    (avoid : ∀ r ∈ edit.rules, r.AvoidsLeapSeconds) : ws.TakesBack session.world edit undo := by
  intro stamp stamp' user user' plain
  have valid := settled.isValid loaded
  have whole := ws.isWholeMilli_of_bookIn loaded
  obtain ⟨entry, new, mid, edited, applied, stored'⟩ :=
    settled.exists_edited loaded acceptable stamp user
  have after : ws.Settled (ws.step session (.edit stamp user edit)) := by
    refine settled.step avoid ?_
    rintro _ ⟨⟩
    exact plain
  rw [step_edit_of_ok edited] at after
  -- What the first edit stored comes back with its dates cut down, and there the second one is made.
  have loaded' := ws.bookIn_of_get? stored' (Edit.avoidsLeapSeconds_of_apply applied
    (fun r listed => (whole r listed).avoidsLeapSeconds) avoid)
  have undid := undone.apply_floorMilli (isValidRuleSet_iff.1 valid).2 whole applied
  have acceptable' := (Edit.isAcceptable_iff (after.isValid loaded')).2 ⟨_, undid, valid⟩
  obtain ⟨entry', old, last, edited', applied', restored⟩ :=
    after.exists_edited loaded' acceptable' stamp' user'
  cases undid.symm.trans applied'
  exact ⟨entry, mid, entry', last, edited, edited', restored.trans stored.symm⟩

/-- **Edits can be undone by edits.**  Once an edit or a publication has left a receipt, toggling a rule
twice, deleting a rule that was added, and putting back a rule that another has replaced give back the
text that was stored, byte for byte. -/
theorem edits_can_be_undone (ws : Workspace) {world : World} (empty : world.store = .empty)
    (reliable : ∀ n, world.storeFails n = false) {calls : List Call}
    (avoid : ∀ call ∈ calls, ∀ r ∈ call.rules, r.AvoidsLeapSeconds)
    (timely : ∀ call ∈ calls, call.IsTimely) (recorded : (ws.play world calls).receipts ≠ []) :
    ∃ book, (ws.load.run (ws.play world calls).world).1 = .ok book ∧
      (ws.play world calls).world.store.get? ws.rulesKey = some (RuleBook.codec.text book) ∧
      (∀ r ∈ book.rules,
        ws.TakesBack (ws.play world calls).world (.toggle r.id) (.toggle r.id)) ∧
      (∀ r, r.issues = [] → r.AvoidsLeapSeconds → (∀ s ∈ book.rules, s.id ≠ r.id) →
        ws.TakesBack (ws.play world calls).world (.put r) (.delete r.id)) ∧
      ∀ r ∈ book.rules, ∀ s, s.issues = [] → s.AvoidsLeapSeconds → s.id = r.id →
        ws.TakesBack (ws.play world calls).world (.put s) (.put r) := by
  have settled : ws.Settled (ws.play world calls) :=
    play_of_each (fun call => (∀ r ∈ call.rules, r.AvoidsLeapSeconds) ∧ call.IsTimely) ws.Settled
      (fun settled fit => settled.step fit.1 fit.2)
      (fun call made => ⟨avoid call made, timely call made⟩) (ws.settled_empty empty reliable)
  obtain ⟨book, loaded, stored⟩ := settled.text recorded
  have ran : (ws.load.run (ws.play world calls).world).1 = .ok book :=
    ((ws.follows_load _).of_reliable rfl settled.reliable).1.trans loaded
  refine ⟨book, ran, stored, ?_, ?_, ?_⟩
  · intro r listed
    exact settled.takesBack loaded stored (.toggled r.id) ⟨r, listed, rfl⟩ (List.forall_mem_nil _)
  · intro r sound avoids fresh
    exact settled.takesBack loaded stored (.added fresh) sound (List.forall_mem_singleton.2 avoids)
  · intro r listed s sound avoids same
    exact settled.takesBack loaded stored (.replaced listed same) sound
      (List.forall_mem_singleton.2 avoids)

/-- The rule about the banner is stored. -/
theorem edits_can_be_undone_hideBanner :
    ∃ book, (usual.load.run (usual.play {} (bannerCalls.take 1)).world).1 = .ok book ∧
      (usual.play {} (bannerCalls.take 1)).world.store.get? usual.rulesKey =
        some (RuleBook.codec.text book) ∧
      (∀ r ∈ book.rules,
        usual.TakesBack (usual.play {} (bannerCalls.take 1)).world (.toggle r.id) (.toggle r.id)) ∧
      (∀ r, r.issues = [] → r.AvoidsLeapSeconds → (∀ s ∈ book.rules, s.id ≠ r.id) →
        usual.TakesBack (usual.play {} (bannerCalls.take 1)).world (.put r) (.delete r.id)) ∧
      ∀ r ∈ book.rules, ∀ s, s.issues = [] → s.AvoidsLeapSeconds → s.id = r.id →
        usual.TakesBack (usual.play {} (bannerCalls.take 1)).world (.put s) (.put r) := by
  have start : usual.Usable ⟨{}, []⟩ := usual.usable_empty rfl fun _ => rfl
  have acceptable : (Edit.replaceAll [hideBanner]).IsAcceptable [] :=
    show isValidRuleSet [hideBanner] = true by decide
  obtain ⟨entry, -, after, edited, -, -⟩ :=
    start.exists_edited rfl acceptable ⟨"s1", "e1", .epoch, .epoch⟩ "ann"
  have recorded : (usual.play {} (bannerCalls.take 1)).receipts ≠ [] := by
    rw [bannerCalls, List.take_succ_cons, List.take_zero, play, List.foldl_cons, List.foldl_nil,
      step_edit_of_ok edited]
    exact List.cons_ne_nil _ _
  exact edits_can_be_undone usual rfl (fun _ => rfl) (by decide) (by decide) recorded

end Exclusion.Workspace
