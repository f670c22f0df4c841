/-
# Exclusion.Proofs.Workspace.Publication -- what is served is what is stored

After a publication, whatever was in the store before, the artifact carries the payload of the stored
rules.  Read as rules, the payload fires on every page and at every instant as the stored rules do:
`publish_serves_stored_rules`.  The artifact is live exactly if some stored rule is active.

The rules go through three encodings on their way, as JSON escaped for the script, as a string of the
stored rule book, and as the rules of that book; `Artifact.ofStored_compile` and
`bookIn_of_published` take them apart.
-/
import Exclusion.Proofs.Rule.Firing
import Exclusion.Proofs.Script.Reading
import Exclusion.Proofs.Workspace.Call

namespace Exclusion

set_option autoImplicit false

open Exclusion.Json

/-! ## Artifacts -/

theorem Script.isBlankText_header (generatedAt : Instant) (count : Nat) (rest : String) :
    Text.isBlankText (header generatedAt count ++ rest) = false := by
  have first : (header generatedAt count ++ rest).toList =
      '/' :: ((header generatedAt count ++ rest).toList.drop 1) := by
    rw [String.toList_append, toList_header]
    rfl
  rw [Text.isBlankText, first, List.all_cons, show Text.isBlank '/' = false by decide]
  rfl

theorem Script.isBlankText_source (rules : List Rule) (generatedAt : Instant) :
    Text.isBlankText (Script.compile rules generatedAt).source = false := by
  by_cases idle : payload rules = []
  · rw [Script.compile_of_payload_eq_nil idle]
    show Text.isBlankText Script.placeholder = false
    decide
  · rw [Script.source_compile idle]
    exact Script.isBlankText_header _ _ _

/-- The script compiled from some rules is served for others if there are active ones among both. -/
theorem Artifact.ofStored_source (stored rules : List Rule) (generatedAt : Instant) :
    Artifact.ofStored (some ⟨stored, (Script.compile rules generatedAt).source⟩) =
      if (∃ r ∈ rules, r.isActive = true) ∧ ∃ r ∈ stored, r.isActive = true then
        ⟨(Script.compile rules generatedAt).source⟩
      else placeholder := by
  have read := Script.readPayload_compile rules generatedAt
  have shown := Script.isBlankText_source rules generatedAt
  have live : RuleBook.hasActiveRules ⟨stored, (Script.compile rules generatedAt).source⟩ = true ↔
      ∃ r ∈ stored, r.isActive = true := by
    simp [RuleBook.hasActiveRules]
  by_cases active : ∃ r ∈ stored, r.isActive = true
  · rw [Artifact.ofStored, live.2 active, shown, read]
    cases published : payload rules with
    | nil =>
        have idle : ¬ ∃ r ∈ rules, r.isActive = true := fun some => payload_ne_nil.2 some published
        exact (if_neg fun both => idle both.1).symm
    | cons p rest =>
        have some : ∃ r ∈ rules, r.isActive = true :=
          payload_ne_nil.1 (published ▸ List.cons_ne_nil p rest)
        exact (if_pos ⟨some, active⟩).symm
  · rw [Artifact.ofStored, Bool.eq_false_iff.2 (mt live.1 active)]
    exact (if_neg fun both => active both.2).symm

/-- The artifact of rules and the script compiled from them. -/
theorem Artifact.ofStored_compile (rules : List Rule) (generatedAt : Instant) :
    Artifact.ofStored (some ⟨rules, (Script.compile rules generatedAt).source⟩) =
      ⟨(Script.compile rules generatedAt).source⟩ := by
  rw [ofStored_source]
  split
  · rfl
  · rename_i idle
    have none : payload rules = [] := by
      by_contra live
      exact idle ⟨payload_ne_nil.1 live, payload_ne_nil.1 live⟩
    rw [Script.compile_of_payload_eq_nil none]
    rfl

namespace Workspace

variable (ws : Workspace)

/-! ## The stored book -/

/-- The writes of a publication leave the book with the new script in the store. -/
theorem get?_rulesKey_published (stamp : Stamp) (user : String) (book : RuleBook) (log : AuditLog)
    (store : Store) :
    (store.writeAll (ws.scriptWrites stamp book ++
        ws.recordWrites log (ws.publishEntry stamp user book))).get? ws.rulesKey =
      some (RuleBook.codec.text
        { book with script := (Script.compile book.rules stamp.compiledAt).source }) := by
  refine Store.get?_writeAll_set [] _ fun w member => ?_
  rcases List.mem_append.1 member with member | member
  · rw [List.mem_singleton.1 member]
    exact ws.rulesKey_ne_snapshotKey _
  · exact ws.rulesKey_ne_of_mem_recordWrites member

/-- After a publication the book is read with its rules as they were and the new script. -/
theorem bookIn_of_published {stamp : Stamp} {user : String} {world after : World}
    {report : PublishReport} (published : (ws.publish stamp user).run world = (.ok report, after)) :
    ∃ rules, (∀ r ∈ rules, r.IsWholeMilli) ∧
      readIn RuleBook.codec ws.rulesKey after.store =
        .ok (some ⟨rules, (Script.compile rules stamp.compiledAt).source⟩) := by
  cases ws.publish_course stamp user world.store with
  | unread failure loaded takes => exact absurd (takes.follows.of_ok rfl published).1 (by simp)
  | invalid book loaded invalid takes => exact absurd (takes.follows.of_ok rfl published).1 (by simp)
  | unrecorded book failure loaded valid unread takes =>
      exact absurd (takes.follows.of_ok rfl published).1 (by simp)
  | recorded book log loaded valid read takes =>
      have whole := ws.isWholeMilli_of_bookIn loaded
      have stored := ws.get?_rulesKey_published stamp user book log world.store
      rw [← (takes.follows_readThen.of_ok rfl published).2.store] at stored
      refine ⟨book.rules, whole, ?_⟩
      rw [ws.readIn_rulesKey_of_get? stored fun r member => (whole r member).avoidsLeapSeconds]
      simp only [Rule.map_floorMilli whole]

/-! ## Serving -/

/-- **What is served after a publication does what the stored rules do.**  Some later time the store
is as the publication left it, and can be reached.  Then the artifact carries a payload; each of its
rules can be read with any id and date of creation; rules so read have the same outcomes as the stored
rules; and the artifact is live if some stored rule is active. -/
theorem publish_serves_stored_rules {stamp : Stamp} {user : String} {world after : World}
    {report : PublishReport} (published : (ws.publish stamp user).run world = (.ok report, after))
    (later : World) (same : later.store = after.store)
    (reliable : ∀ n, later.storeFails n = false) :
    ∃ book artifact payload,
      (ws.load.run later).1 = .ok book ∧
      (ws.artifact.run later).1 = .ok artifact ∧
      Script.readPayload artifact.body = .ok payload ∧
      (∀ p ∈ payload, ∀ id createdAt, (p.toRule? id createdAt).isSome = true) ∧
      (∀ described, List.Forall₂ PublishedRule.Describes payload described →
        ∀ page now, outcomesAt described page now = outcomesAt book.rules page now) ∧
      (artifact.isLive = true ↔ ∃ r ∈ book.rules, r.isActive = true) := by
  obtain ⟨rules, whole, stored⟩ := ws.bookIn_of_published published
  rw [← same] at stored
  refine ⟨⟨rules, (Script.compile rules stamp.compiledAt).source⟩,
    ⟨(Script.compile rules stamp.compiledAt).source⟩, payload rules, ?_, ?_, ?_, ?_, ?_, ?_⟩
  · rw [((ws.follows_load later.store).of_reliable rfl reliable).1, bookIn, stored]
    rfl
  · rw [((ws.follows_artifact later.store).of_reliable rfl reliable).1, stored, Except.map,
      Artifact.ofStored_compile]
  · exact Script.readPayload_compile rules stamp.compiledAt
  · intro p member id createdAt
    obtain ⟨r, active, rfl⟩ := List.mem_map.1 member
    rw [PublishedRule.toRule?_ofRule (whole r (List.mem_of_mem_filter active))]
    rfl
  · intro described describes page now
    exact outcomesAt_payload whole describes page now
  · rw [← payload_ne_nil, Artifact.isLive, Script.isPlaceholder_compile]
    simp

/-- Nothing is stored but the rule. -/
def bannerStored : World :=
  { store := Store.empty.set usual.rulesKey (RuleBook.codec.text { rules := [hideBanner] }) }

theorem publish_serves_hideBanner :
    ∃ report after, (usual.publish ⟨"s1", "e1", .epoch, .epoch⟩ "ann").run bannerStored =
        (.ok report, after) ∧
      ∃ book artifact payload,
        (usual.load.run { store := after.store }).1 = .ok book ∧
        (usual.artifact.run { store := after.store }).1 = .ok artifact ∧
        Script.readPayload artifact.body = .ok payload ∧
        (∀ p ∈ payload, ∀ id createdAt, (p.toRule? id createdAt).isSome = true) ∧
        (∀ described, List.Forall₂ PublishedRule.Describes payload described →
          ∀ page now, outcomesAt described page now = outcomesAt book.rules page now) ∧
        (artifact.isLive = true ↔ ∃ r ∈ book.rules, r.isActive = true) := by
  have avoid : ∀ r ∈ [hideBanner], r.AvoidsLeapSeconds := by decide
  have loaded : usual.bookIn bannerStored.store = .ok ⟨[hideBanner.floorMilli], ""⟩ :=
    usual.bookIn_of_get? (Store.get?_set_self _ _ _) avoid
  have read : usual.logIn bannerStored.store = .ok ⟨[], usual.config.audit.maxEntries⟩ :=
    usual.logIn_of_none (Store.get?_set_of_ne usual.auditKey_ne_rulesKey)
  have reliable : ∀ n, bannerStored.storeFails n = false := fun _ => rfl
  obtain ⟨purge, after, published⟩ := usual.publish_ok reliable loaded (by decide) read
    ⟨"s1", "e1", .epoch, .epoch⟩ "ann"
  exact ⟨_, after, published,
    usual.publish_serves_stored_rules published { store := after.store } rfl fun _ => rfl⟩

end Workspace

end Exclusion
