/-
# Exclusion.Proofs.Workspace.Editing -- edits of one rule that succeed

When the rules that are stored may be stored, an edit of one rule that succeeds leaves the list with
that rule put, toggled or taken out, and everything else as it was.  The entry that it gives, which is
the one that is recorded, has the action that it was, and its details name that rule and say what became
of it (`edit_changes_one_rule`).

Dates are whole milliseconds here, as all stored dates are; finer ones would be cut down.
-/
import Exclusion.Proofs.Audit.SingleEdit
import Exclusion.Proofs.Workspace.Publication
import Exclusion.Proofs.Workspace.Usable

namespace Exclusion.Workspace

set_option autoImplicit false

variable {ws : Workspace} {stamp : Stamp} {user : String} {edit : Edit} {world after : World}
  {entry : AuditEntry}

/-- What an edit that succeeded did. -/
theorem exists_edited_of_ok (edited : (ws.edit stamp user edit).run world = (.ok entry, after)) :
    ∃ old rules, ws.bookIn world.store = .ok old ∧ edit.apply old.rules = .ok rules ∧
      entry = editEntry stamp user old.rules rules ∧
      after.store.get? ws.rulesKey = some (RuleBook.codec.text { old with rules }) := by
  cases ws.edit_course stamp user edit world.store with
  | unread failure loaded takes => cases (takes.follows.of_ok rfl edited).1
  | unknown old unknown loaded refused takes => cases (takes.follows.of_ok rfl edited).1
  | invalid old rules loaded applied invalid takes => cases (takes.follows.of_ok rfl edited).1
  | unrecorded old rules failure loaded applied valid unread takes =>
      cases (takes.follows.of_ok rfl edited).1
  | recorded old rules log loaded applied valid read takes =>
      obtain ⟨gave, wrote⟩ := takes.follows_readThen.of_ok rfl edited
      cases gave
      have stores := ws.stores_storeWrites world.store stamp old rules
      have records := ws.records_recordWrites (world.store.writeAll (ws.storeWrites stamp old rules))
        log (editEntry stamp user old.rules rules)
      refine ⟨old, rules, loaded, applied, rfl, ?_⟩
      rw [wrote.store, Store.writeAll_append, records.rules, stores.stored]

/-- **An edit of one rule changes that rule, and is recorded as what it is.**  If it succeeds on rules
that may be stored, the rules that are stored then are the ones before with this one edit made, and the
script is the one before.  The entry reports the action with the name and the id of the rule, unless a
rule was only saved again. -/
theorem edit_changes_one_rule {old : RuleBook} (loaded : ws.bookIn world.store = .ok old)
    (valid : isValidRuleSet old.rules = true) (single : edit.IsSingle)
    (whole : ∀ r ∈ edit.rules, r.IsWholeMilli)
    (edited : (ws.edit stamp user edit).run world = (.ok entry, after)) :
    ∃ new action subject, SingleEdit old.rules edit new action subject ∧
      entry.Reports action subject ∧
      ws.bookIn after.store = .ok { old with rules := new } ∧
      entry = (Change.ofEdit old.rules new).entry stamp.entryId stamp.recordedAt user
        stamp.snapshotId := by
  obtain ⟨old', new, loaded', applied, gave, stored⟩ := exists_edited_of_ok edited
  cases loaded.symm.trans loaded'
  have distinct := (isValidRuleSet_iff.1 valid).2
  obtain ⟨action, subject, made, reports⟩ := describes_ofEdit distinct single applied
  have newWhole : ∀ r ∈ new, r.IsWholeMilli :=
    Edit.isWholeMilli_of_apply applied (ws.isWholeMilli_of_bookIn loaded) whole
  refine ⟨new, action, subject, made, gave ▸ reports _ _ _ _, ?_, gave⟩
  rw [ws.bookIn_of_get? stored fun r member => (newWhole r member).avoidsLeapSeconds]
  simp only [Rule.map_floorMilli newWhole]

/-- The rule about the banner is switched off. -/
theorem edit_changes_one_rule_hideBanner :
    ∃ entry after, (usual.edit ⟨"s1", "e1", .epoch, .epoch⟩ "ann" (.toggle "r1")).run bannerStored =
        (.ok entry, after) ∧
      ∃ new action subject, SingleEdit [hideBanner] (.toggle "r1") new action subject ∧
        entry.Reports action subject ∧ usual.bookIn after.store = .ok ⟨new, ""⟩ ∧
        entry = (Change.ofEdit [hideBanner] new).entry "e1" .epoch "ann" (some "s1") := by
  have whole : ∀ r ∈ [hideBanner], r.IsWholeMilli := by decide
  have loaded : usual.bookIn bannerStored.store = .ok ⟨[hideBanner], ""⟩ := by
    have stored : bannerStored.store.get? usual.rulesKey = some _ := Store.get?_set_self _ _ _
    rw [usual.bookIn_of_get? stored fun r member => (whole r member).avoidsLeapSeconds]
    simp only [Rule.map_floorMilli whole]
  have read : usual.logIn bannerStored.store = .ok ⟨[], usual.config.audit.maxEntries⟩ :=
    usual.logIn_of_none (Store.get?_set_of_ne usual.auditKey_ne_rulesKey)
  have single : (Edit.toggle "r1").IsSingle := trivial
  have acceptable : (Edit.toggle "r1").IsAcceptable [hideBanner] :=
    ⟨_, List.mem_singleton_self _, rfl⟩
  obtain ⟨entry, gave⟩ := (edit_ok_iff (fun _ => rfl) loaded (by decide) read
    ⟨"s1", "e1", .epoch, .epoch⟩ "ann" (.toggle "r1")).2 acceptable
  cases edited : (usual.edit ⟨"s1", "e1", .epoch, .epoch⟩ "ann" (.toggle "r1")).run bannerStored with
  | mk result after =>
      rw [edited] at gave
      cases gave
      exact ⟨entry, after, rfl, edit_changes_one_rule loaded (by decide) single (by decide) edited⟩

end Exclusion.Workspace
