/-
# Exclusion.Proofs.Audit.SingleEdit -- an edit of one rule, and how it is described

A rule is put, toggled or deleted by its id.  In a list in which no id occurs twice this leaves the
other rules as they are and where they are: the rule of the id is changed in its place (`changeRule`),
comes last, or is gone.

What the audit log tells of it is found without knowing the edit.  Two whole lists are compared, and the
first difference counts.  Between a list and the list with one rule changed, comparing the rules of the
same ids finds that rule or none (`find?_changeRule`), so the entry is about the edit that was made
(`describes_ofEdit`): it has the action, and its details the name and the id of the rule
(`AuditEntry.Reports`).
-/
import Exclusion.Proofs.Audit.Change
import Exclusion.Proofs.Rule.Validity

namespace Exclusion

set_option autoImplicit false

/-! ## Changing one rule of a list -/

/-- The list with the rule of this id changed. -/
def changeRule (id : String) (f : Rule → Rule) (rules : List Rule) : List Rule :=
  rules.map fun r => if r.id = id then f r else r

variable {rules old new : List Rule} {r s before : Rule} {id : String} {f : Rule → Rule}

theorem changeRule_of_absent (absent : ∀ r ∈ rules, r.id ≠ id) : changeRule id f rules = rules := by
  refine (List.map_congr_left fun r listed => ?_).trans (List.map_id rules)
  rw [if_neg (absent r listed), id_eq]

/-- No other rule has the id of the first one. -/
theorem changeRule_cons_self (single : r.id ∉ rules.map (·.id)) :
    changeRule r.id f (r :: rules) = f r :: rules := by
  have absent : ∀ o ∈ rules, o.id ≠ r.id := fun o member same =>
    single (List.mem_map.2 ⟨o, member, same⟩)
  rw [← congrArg (f r :: ·) (changeRule_of_absent absent), changeRule, List.map_cons, if_pos rfl]
  rfl

theorem changeRule_cons_of_ne (other : r.id ≠ id) :
    changeRule id f (r :: rules) = r :: changeRule id f rules := by
  rw [changeRule, List.map_cons, if_neg other]
  rfl

theorem mem_changeRule : s ∈ changeRule id f rules ↔
    (∃ r ∈ rules, r.id = id ∧ s = f r) ∨ (s ∈ rules ∧ s.id ≠ id) := by
  rw [changeRule, List.mem_map]
  constructor
  · rintro ⟨r, listed, rfl⟩
    split
    · rename_i same
      exact .inl ⟨r, listed, same, rfl⟩
    · rename_i other
      exact .inr ⟨listed, other⟩
  · rintro (⟨r, listed, same, rfl⟩ | ⟨listed, other⟩)
    · exact ⟨r, listed, if_pos same⟩
    · exact ⟨s, listed, if_neg other⟩

/-- A rule that is put takes the place of the one with its id. -/
theorem putRule_of_listed (distinct : (rules.map (·.id)).Nodup) (listed : ∃ o ∈ rules, o.id = r.id) :
    putRule r rules = changeRule r.id (fun _ => r) rules := by
  induction rules with
  | nil => simp at listed
  | cons other rules ih =>
      obtain ⟨single, distinct⟩ := List.nodup_cons.1 (List.map_cons ▸ distinct)
      rw [putRule]
      by_cases same : other.id = r.id
      · rw [if_pos same, ← same, changeRule_cons_self single]
      · rw [if_neg same, changeRule_cons_of_ne same]
        have later := (List.or_exists_of_exists_mem_cons listed).resolve_left same
        rw [ih distinct later]

theorem toggleRule?_of_listed (distinct : (rules.map (·.id)).Nodup) (listed : ∃ o ∈ rules, o.id = id) :
    toggleRule? id rules = some (changeRule id Rule.toggled rules) := by
  induction rules with
  | nil => simp at listed
  | cons other rules ih =>
      obtain ⟨single, distinct⟩ := List.nodup_cons.1 (List.map_cons ▸ distinct)
      rw [toggleRule?]
      by_cases same : other.id = id
      · rw [if_pos same, ← same, changeRule_cons_self single]
      · rw [if_neg same, changeRule_cons_of_ne same]
        have later := (List.or_exists_of_exists_mem_cons listed).resolve_left same
        rw [ih distinct later, Option.map_some]

/-! ## Comparing -/

theorem find?_eq_some_of_unique {α : Type} {p : α → Bool} {l : List α} {a : α} (listed : a ∈ l)
    (holds : p a = true) (unique : ∀ b ∈ l, p b = true → b = a) : l.find? p = some a := by
  cases found : l.find? p with
  | none => exact absurd holds (List.find?_eq_none.1 found a listed)
  | some b => rw [unique b (List.mem_of_find?_eq_some found) (List.find?_some found)]

section Changed

variable (distinct : (old.map (·.id)).Nodup) (listed : before ∈ old)
include distinct listed

/-- A rule of the changed list is the changed one, or it is one of the others. -/
theorem mem_changeRule_of_listed : s ∈ changeRule before.id f old ↔
    s = f before ∨ (s ∈ old ∧ s.id ≠ before.id) := by
  rw [mem_changeRule]
  constructor
  · rintro (⟨r, listed', same, rfl⟩ | other)
    · rw [Rule.eq_of_id_eq distinct listed' listed same]
      exact .inl rfl
    · exact .inr other
  · rintro (rfl | other)
    · exact .inl ⟨before, listed, rfl, rfl⟩
    · exact .inr other

variable (kept : (f before).id = before.id)
include kept

/-- **A comparison of the rules of the same ids finds the changed rule or none.** -/
theorem find?_changeRule {differs : Rule → Rule → Bool} (irrefl : ∀ r, differs r r = false) :
    (changeRule before.id f old).find? (Change.differsFrom old differs) =
      if differs before (f before) then some (f before) else none := by
  have changed : Change.differsFrom old differs (f before) = differs before (f before) := by
    rw [Bool.eq_iff_iff, Change.differsFrom_iff distinct]
    constructor
    · rintro ⟨r, listed', same, differ⟩
      rwa [Rule.eq_of_id_eq distinct listed' listed (same.trans kept)] at differ
    · exact fun differ => ⟨before, listed, kept.symm, differ⟩
  have others : ∀ s ∈ changeRule before.id f old, Change.differsFrom old differs s = true →
      s = f before := by
    intro s member differ
    rcases (mem_changeRule_of_listed distinct listed).1 member with same | ⟨unchanged, -⟩
    · exact same
    · obtain ⟨r, listed', same, differ⟩ := (Change.differsFrom_iff distinct).1 differ
      rw [Rule.eq_of_id_eq distinct listed' unchanged same, irrefl] at differ
      cases differ
  have member : f before ∈ changeRule before.id f old :=
    (mem_changeRule_of_listed distinct listed).2 (.inl rfl)
  split
  · rename_i differ
    exact find?_eq_some_of_unique member (changed.trans differ) others
  · rename_i alike
    refine List.find?_eq_none.2 fun s listed' differ => alike ?_
    rw [← changed, ← others s listed' differ]
    exact differ

/-- A changed rule is described by what of it is changed. -/
theorem ofEdit_changeRule : Change.ofEdit old (changeRule before.id f old) =
    if before.sameContent (f before) then
      if before.isActive = (f before).isActive then .resaved else .toggled (f before)
    else .updated (f before) := by
  have noneNew : (changeRule before.id f old).find? (!Change.hasId old ·.id) = none := by
    refine Change.find?_hasId_eq_none_iff.2 fun s member => ?_
    rcases (mem_changeRule_of_listed distinct listed).1 member with rfl | ⟨unchanged, -⟩
    · exact ⟨before, listed, kept.symm⟩
    · exact ⟨s, unchanged, rfl⟩
  have noneGone : old.find? (!Change.hasId (changeRule before.id f old) ·.id) = none := by
    refine Change.find?_hasId_eq_none_iff.2 fun o listed' => ?_
    by_cases same : o.id = before.id
    · exact ⟨f before, (mem_changeRule_of_listed distinct listed).2 (.inl rfl), kept.trans same.symm⟩
    · exact ⟨o, (mem_changeRule_of_listed distinct listed).2 (.inr ⟨listed', same⟩), rfl⟩
  have content : (changeRule before.id f old).find?
      (Change.differsFrom old fun before after => !before.sameContent after) = _ :=
    find?_changeRule distinct listed kept fun r => by
      rw [Rule.sameContent_iff.2 rfl, Bool.not_true]
  have active : (changeRule before.id f old).find?
      (Change.differsFrom old fun before after => before.isActive != after.isActive) = _ :=
    find?_changeRule distinct listed kept fun r => bne_self_eq_false r.isActive
  rw [Change.ofEdit, noneNew, noneGone, content, active]
  cases before.sameContent (f before) <;>
    by_cases same : before.isActive = (f before).isActive <;> simp [same]

end Changed

/-! ## Entries about one rule -/

/-- The entry reports this action on a rule, or on none in particular. -/
structure AuditEntry.Reports (entry : AuditEntry) (action : AuditAction) (subject : Option Rule) :
    Prop where
  same : entry.action = action
  /-- The details have the name and the id of the rule. -/
  named : ∀ r ∈ subject, ("'" ++ r.name ++ "' (" ++ r.id ++ ")").toList <:+: entry.details.toList
  /-- A switch is told with the new state of the rule, at the end of the details. -/
  state : action = .toggle → ∀ r ∈ subject,
    (if r.isActive then " is now active" else " is now inactive").toList <:+ entry.details.toList
  generic : subject = none → entry.details = "Rule list re-saved"

namespace Change

variable {entryId user : String} {recordedAt : Instant} {snapshotId : Option String}

/-- The label of a rule has its name and its id. -/
theorem label_infix (pre post : String) (r : Rule) :
    ("'" ++ r.name ++ "' (" ++ r.id ++ ")").toList <:+: (pre ++ label r ++ post).toList :=
  ⟨pre.toList, post.toList, by simp [label]⟩

/-- A change other than a switch reports on the rule with whose label its details end. -/
theorem reports_of_label {change : Change} {action : AuditAction} {pre : String} {r : Rule}
    (same : change.action = action) (details : change.details = pre ++ label r)
    (notToggle : action ≠ .toggle) :
    (change.entry entryId recordedAt user snapshotId).Reports action (some r) where
  same := same
  named := by
    rintro _ ⟨⟩
    have named := label_infix pre "" r
    rw [String.append_empty, ← details] at named
    exact named
  state toggle := absurd toggle notToggle
  generic nobody := by cases nobody

theorem reports_toggled (r : Rule) :
    ((toggled r).entry entryId recordedAt user snapshotId).Reports .toggle (some r) where
  same := rfl
  named := by
    rintro _ ⟨⟩
    have named := label_infix "Rule " (" is now " ++ if r.isActive then "active" else "inactive") r
    rw [← String.append_assoc] at named
    exact named
  state _ := by
    rintro _ ⟨⟩
    refine ⟨("Rule " ++ label r).toList, ?_⟩
    cases active : r.isActive <;> simp [entry, toggled, active]
  generic nobody := by cases nobody

theorem reports_resaved :
    (resaved.entry entryId recordedAt user snapshotId).Reports .update none where
  same := rfl
  named _ member := by cases member
  state _ _ member := by cases member
  generic _ := rfl

end Change

/-! ## Edits of one rule -/

/-- What an edit of one rule makes of a list, which action that is, and on which rule. -/
inductive SingleEdit (old : List Rule) : Edit → List Rule → AuditAction → Option Rule → Prop where
  /-- A rule with a new id comes last. -/
  | created (r : Rule) (absent : ∀ o ∈ old, o.id ≠ r.id) :
      SingleEdit old (.put r) (old ++ [r]) .create (some r)
  /-- A rule takes the place of one that differs in more than whether it is active and when it was
  made. -/
  | updated (before r : Rule) (listed : before ∈ old) (same : before.id = r.id)
      (differs : { r with isActive := before.isActive, createdAt := before.createdAt } ≠ before) :
      SingleEdit old (.put r) (changeRule r.id (fun _ => r) old) .update (some r)
  /-- It takes the place of one that differs only in whether it is active, and perhaps in when it was
  made. -/
  | switched (before r : Rule) (listed : before ∈ old) (same : before.id = r.id)
      (alike : { r with isActive := before.isActive, createdAt := before.createdAt } = before)
      (differs : r.isActive ≠ before.isActive) :
      SingleEdit old (.put r) (changeRule r.id (fun _ => r) old) .toggle (some r)
  /-- It takes the place of one that differs at most in when it was made. -/
  | resaved (before r : Rule) (listed : before ∈ old) (same : before.id = r.id)
      (alike : { r with createdAt := before.createdAt } = before) :
      SingleEdit old (.put r) (changeRule r.id (fun _ => r) old) .update none
  | toggled (before : Rule) (id : String) (listed : before ∈ old) (same : before.id = id) :
      SingleEdit old (.toggle id) (changeRule id Rule.toggled old) .toggle (some before.toggled)
  | deleted (before : Rule) (id : String) (listed : before ∈ old) (same : before.id = id) :
      SingleEdit old (.delete id) (old.filter (·.id != id)) .delete (some before)

/-- The entries of a change report what an edit made of a list. -/
def Change.Describes (change : Change) (old : List Rule) (edit : Edit) (new : List Rule) : Prop :=
  ∃ action subject, SingleEdit old edit new action subject ∧
    ∀ entryId recordedAt user snapshotId,
      (change.entry entryId recordedAt user snapshotId).Reports action subject

/-- The edit is of one rule. -/
def Edit.IsSingle : Edit → Prop
  | replaceAll _ => False
  | put _ | toggle _ | delete _ => True

section Single

variable (distinct : (old.map (·.id)).Nodup)
include distinct

theorem describes_put (r : Rule) :
    (Change.ofEdit old (putRule r old)).Describes old (.put r) (putRule r old) := by
  by_cases absent : ∀ o ∈ old, o.id ≠ r.id
  · rw [putRule_of_absent absent]
    have known : old.find? (!Change.hasId old ·.id) = none :=
      Change.find?_hasId_eq_none_iff.2 fun s listed => ⟨s, listed, rfl⟩
    have unknown : (!Change.hasId old r.id) = true := by
      rw [Change.hasId_eq_false_iff.2 absent, Bool.not_false]
    have found : (old ++ [r]).find? (!Change.hasId old ·.id) = some r := by
      rw [List.find?_append, known, Option.none_or]
      exact List.find?_cons_of_pos unknown
    rw [show Change.ofEdit old (old ++ [r]) = .created r by rw [Change.ofEdit, found]]
    exact ⟨.create, some r, .created r absent,
      fun _ _ _ _ => Change.reports_of_label rfl rfl (by decide)⟩
  · obtain ⟨before, listed, same⟩ : ∃ o ∈ old, o.id = r.id := by simpa using absent
    have described := ofEdit_changeRule distinct listed (f := fun _ => r) same.symm
    rw [putRule_of_listed distinct ⟨before, listed, same⟩]
    rw [same] at described
    rw [described]
    split
    · rename_i alike
      have alike := Rule.sameContent_iff.1 alike
      split
      · rename_i sameActive
        rw [sameActive] at alike
        exact ⟨_, _, .resaved before r listed same alike, fun _ _ _ _ => Change.reports_resaved⟩
      · rename_i differs
        exact ⟨_, _, .switched before r listed same alike (Ne.symm differs),
          fun _ _ _ _ => Change.reports_toggled r⟩
    · rename_i differs
      exact ⟨.update, some r, .updated before r listed same (mt Rule.sameContent_iff.2 differs),
        fun _ _ _ _ => Change.reports_of_label rfl rfl (by decide)⟩

theorem describes_toggle (listed : before ∈ old) :
    (Change.ofEdit old (changeRule before.id Rule.toggled old)).Describes old (.toggle before.id)
      (changeRule before.id Rule.toggled old) := by
  have alike : before.sameContent before.toggled = true := Rule.sameContent_iff.2 rfl
  have differs : before.isActive ≠ before.toggled.isActive := by
    simp [Rule.toggled]
  rw [ofEdit_changeRule distinct listed rfl, if_pos alike, if_neg differs]
  exact ⟨_, _, .toggled before before.id listed rfl,
    fun _ _ _ _ => Change.reports_toggled before.toggled⟩

theorem describes_delete (listed : before ∈ old) :
    (Change.ofEdit old (old.filter (·.id != before.id))).Describes old (.delete before.id)
      (old.filter (·.id != before.id)) := by
  have noneNew : (old.filter (·.id != before.id)).find? (!Change.hasId old ·.id) = none :=
    Change.find?_hasId_eq_none_iff.2 fun s member => ⟨s, List.mem_of_mem_filter member, rfl⟩
  have gone : old.find? (!Change.hasId (old.filter (·.id != before.id)) ·.id) = some before := by
    refine find?_eq_some_of_unique listed ?_ fun o listed' absent => ?_
    · rw [Bool.not_eq_true', Change.hasId_eq_false_iff]
      exact fun s member => bne_iff_ne.1 (List.mem_filter.1 member).2
    · rw [Bool.not_eq_true', Change.hasId_eq_false_iff] at absent
      refine Rule.eq_of_id_eq distinct listed' listed ?_
      by_contra other
      exact absent o (List.mem_filter.2 ⟨listed', bne_iff_ne.2 other⟩) rfl
  rw [show Change.ofEdit old (old.filter (·.id != before.id)) = .deleted before by
    rw [Change.ofEdit, noneNew, gone]]
  exact ⟨.delete, some before, .deleted before before.id listed rfl,
    fun _ _ _ _ => Change.reports_of_label rfl rfl (by decide)⟩

/-- **An edit of one rule is described as what it is**, in a list in which no id occurs twice. -/
theorem describes_ofEdit {edit : Edit} (single : edit.IsSingle)
    (applied : edit.apply old = .ok new) : (Change.ofEdit old new).Describes old edit new := by
  cases edit with
  | replaceAll rules => exact single.elim
  | put r =>
      cases applied
      exact describes_put distinct r
  | toggle id =>
      simp only [Edit.apply] at applied
      split at applied
      · rename_i after toggled
        cases applied
        obtain ⟨before, listed, rfl⟩ := exists_toggleRule?_iff.1 ⟨_, toggled⟩
        rw [toggleRule?_of_listed distinct ⟨before, listed, rfl⟩] at toggled
        cases toggled
        exact describes_toggle distinct listed
      · cases applied
  | delete id =>
      simp only [Edit.apply] at applied
      split at applied
      · rename_i after deleted
        cases applied
        obtain ⟨before, listed, rfl⟩ := exists_deleteRule?_iff.1 ⟨_, deleted⟩
        rw [deleteRule?] at deleted
        split at deleted
        · cases deleted
          exact describes_delete distinct listed
        · cases deleted
      · cases applied

end Single

end Exclusion
