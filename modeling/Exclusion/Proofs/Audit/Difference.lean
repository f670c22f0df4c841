/-
# Exclusion.Proofs.Audit.Difference -- how two lists of rules differ

Two lists in which no id occurs twice are described by their first difference.  Five cases exclude one
another and leave none out (`Change.difference_ofEdit`): an id is new, else an id is gone, else a rule
does something else than the rule of its id did, else a rule is switched, else nothing is different but
the order and when rules were made.

The last two cases can be said without comparing rule by rule.  Lists with the same ids in which every
rule agrees with the one of its id in some part are the same up to their order, as far as that part goes
(`Change.perm_map_iff`).  So a switch is described exactly if the lists are permutations of one another
up to when rules were made and whether they are active, but not up to the former alone.

The order of the old list decides nothing but which of the rules that are gone is named
(`Change.ofEdit_perm`).
-/
import Exclusion.Proofs.Audit.Change
import Mathlib.Data.List.Nodup

namespace Exclusion

set_option autoImplicit false

/-! ## The first of a list -/

/-- The first item of the list of which something holds. -/
def IsFirst {α : Type} (p : α → Prop) (l : List α) (a : α) : Prop :=
  ∃ before after, l = before ++ a :: after ∧ p a ∧ ∀ b ∈ before, ¬ p b

theorem IsFirst.exists {α : Type} {p : α → Prop} {l : List α} {a : α} (first : IsFirst p l a) :
    ∃ b ∈ l, p b := by
  obtain ⟨before, after, rfl, holds, -⟩ := first
  exact ⟨a, List.mem_append_right before List.mem_cons_self, holds⟩

theorem isFirst_of_find?_eq_some {α : Type} {p : α → Prop} {q : α → Bool} {l : List α} {a : α}
    (test : ∀ b, q b = true ↔ p b) (found : l.find? q = some a) : IsFirst p l a := by
  obtain ⟨holds, before, after, parts, others⟩ := List.find?_eq_some_iff_append.1 found
  refine ⟨before, after, parts, (test a).1 holds, fun b member => ?_⟩
  rw [← test b, Bool.not_eq_true, ← Bool.not_eq_true']
  exact others b member

/-! ## Parts of a rule -/

namespace Rule

/-- Everything of a rule but when it was made. -/
def undated (r : Rule) : Rule :=
  { r with createdAt := .epoch }

/-- Everything of a rule but when it was made and whether it is active. -/
def content (r : Rule) : Rule :=
  { r with isActive := false, createdAt := .epoch }

theorem id_undated (r : Rule) : r.undated.id = r.id :=
  rfl

theorem id_content (r : Rule) : r.content.id = r.id :=
  rfl

theorem sameContent_iff_content {a b : Rule} : a.sameContent b = true ↔ a.content = b.content := by
  rw [sameContent_iff]
  obtain ⟨⟩ := a
  obtain ⟨⟩ := b
  simp only [content, mk.injEq]
  grind

theorem undated_eq_iff {a b : Rule} :
    a.undated = b.undated ↔ a.content = b.content ∧ a.isActive = b.isActive := by
  obtain ⟨⟩ := a
  obtain ⟨⟩ := b
  simp only [undated, content, mk.injEq]
  grind

end Rule

namespace Change

/-! ## Comparing by ids -/

/-- The list has no rule with the id of this one. -/
def Lacks (rules : List Rule) (r : Rule) : Prop :=
  r.id ∉ rules.map (·.id)

/-- The rule of the same id in the old list has another such part. -/
def Differs {α : Type} (part : Rule → α) (old : List Rule) (r : Rule) : Prop :=
  ∃ before ∈ old, before.id = r.id ∧ part before ≠ part r

/-- No id is new, and none is gone. -/
def SameIds (old new : List Rule) : Prop :=
  (∀ r ∈ new, ¬ Lacks old r) ∧ ∀ r ∈ old, ¬ Lacks new r

/-- The lists have the same ids, and rules of the same id agree in this part. -/
def Alike {α : Type} (part : Rule → α) (old new : List Rule) : Prop :=
  SameIds old new ∧ ∀ r ∈ new, ¬ Differs part old r

variable {rules old new : List Rule} {r s : Rule} {change : Change}

theorem not_lacks_iff : ¬ Lacks rules r ↔ ∃ s ∈ rules, s.id = r.id := by
  rw [Lacks, not_not, List.mem_map]

theorem not_hasId_iff_lacks : (!hasId rules r.id) = true ↔ Lacks rules r := by
  rw [Bool.not_eq_true', ← Bool.not_eq_true, hasId_iff, ← not_lacks_iff, not_not]

/-- Where no rule differs in a part, a rule agrees with the one of its id in it. -/
theorem part_eq_of_not_differs {α : Type} {part : Rule → α} (alike : ¬ Differs part old r)
    (listed : s ∈ old) (same : s.id = r.id) : part s = part r := by
  by_contra other
  exact alike ⟨s, listed, same, other⟩

/-- Rules agree in everything but when they were made if they agree in what they do and in whether they
are active. -/
theorem alike_undated_iff :
    Alike Rule.undated old new ↔ Alike Rule.content old new ∧ Alike Rule.isActive old new := by
  have parts : ∀ r, Differs Rule.undated old r ↔
      Differs Rule.content old r ∨ Differs Rule.isActive old r := fun r => by
    simp only [Differs, ne_eq, Rule.undated_eq_iff, not_and_or, and_or_left, exists_or]
  simp only [Alike, parts, not_or]
  grind

section Distinct

variable (distinctOld : (old.map (·.id)).Nodup)
include distinctOld

theorem differsFrom_content_iff :
    (differsFrom old (fun before after => !before.sameContent after) r) = true ↔
      Differs Rule.content old r := by
  simp only [differsFrom_iff distinctOld, Bool.not_eq_true', ← Bool.not_eq_true,
    Rule.sameContent_iff_content, Differs]

theorem differsFrom_isActive_iff :
    (differsFrom old (fun before after => before.isActive != after.isActive) r) = true ↔
      Differs Rule.isActive old r := by
  simp only [differsFrom_iff distinctOld, bne_iff_ne, Differs]

end Distinct

/-! ## Comparing whole lists -/

section Permuted

variable {part : Rule → Rule} (keepsId : ∀ r, (part r).id = r.id)

/-- Lists that are alike in a part have the same rules as far as it goes. -/
theorem mem_map_iff_of_alike (alike : Alike part old new) (p : Rule) :
    p ∈ new.map part ↔ p ∈ old.map part := by
  obtain ⟨⟨noneNew, noneGone⟩, same⟩ := alike
  constructor
  · intro member
    obtain ⟨r, listed, rfl⟩ := List.mem_map.1 member
    obtain ⟨before, there, sameId⟩ := not_lacks_iff.1 (noneNew r listed)
    rw [← part_eq_of_not_differs (same r listed) there sameId]
    exact List.mem_map_of_mem there
  · intro member
    obtain ⟨before, there, rfl⟩ := List.mem_map.1 member
    obtain ⟨r, listed, sameId⟩ := not_lacks_iff.1 (noneGone before there)
    rw [part_eq_of_not_differs (same r listed) there sameId.symm]
    exact List.mem_map_of_mem listed

include keepsId

theorem ids_map (rules : List Rule) : (rules.map part).map (·.id) = rules.map (·.id) := by
  rw [List.map_map]
  exact List.map_congr_left fun r _ => keepsId r

theorem nodup_map (distinct : (rules.map (·.id)).Nodup) : (rules.map part).Nodup :=
  .of_map (·.id) (ids_map keepsId rules ▸ distinct)

theorem sameIds_of_perm (perm : (new.map part).Perm (old.map part)) : SameIds old new := by
  have sameIds : ∀ id, id ∈ new.map (·.id) ↔ id ∈ old.map (·.id) := fun id => by
    rw [← ids_map keepsId new, ← ids_map keepsId old]
    exact (perm.map _).mem_iff
  constructor
  · intro r listed lacks
    exact lacks ((sameIds r.id).1 (List.mem_map_of_mem listed))
  · intro r listed lacks
    exact lacks ((sameIds r.id).2 (List.mem_map_of_mem listed))

theorem alike_of_perm (distinctOld : (old.map (·.id)).Nodup)
    (perm : (new.map part).Perm (old.map part)) : Alike part old new := by
  refine ⟨sameIds_of_perm keepsId perm, ?_⟩
  rintro r listed ⟨before, listed', same, other⟩
  have member : part r ∈ old.map part := perm.mem_iff.1 (List.mem_map_of_mem listed)
  obtain ⟨s, there, alike⟩ := List.mem_map.1 member
  have id : s.id = r.id := by rw [← keepsId s, alike, keepsId]
  -- only one rule of the old list has this id, so it is the one that was said to differ
  rw [Rule.eq_of_id_eq distinctOld there listed' (id.trans same.symm)] at alike
  exact other alike

/-- **Two lists are permutations of one another up to the other parts of rules exactly if they are alike
in this part.** -/
theorem perm_map_iff (distinctOld : (old.map (·.id)).Nodup) (distinctNew : (new.map (·.id)).Nodup) :
    (new.map part).Perm (old.map part) ↔ Alike part old new := by
  refine ⟨alike_of_perm keepsId distinctOld, fun alike => ?_⟩
  exact (List.perm_ext_iff_of_nodup (nodup_map keepsId distinctNew)
    (nodup_map keepsId distinctOld)).2 (mem_map_iff_of_alike alike)

end Permuted

/-! ## The first difference -/

/-- How two lists differ first, and how that is described. -/
inductive Difference (old new : List Rule) : Change → Prop
  | created (r : Rule) (first : IsFirst (Lacks old) new r) : Difference old new (.created r)
  | deleted (r : Rule) (noneNew : ∀ s ∈ new, ¬ Lacks old s) (first : IsFirst (Lacks new) old r) :
      Difference old new (.deleted r)
  | updated (r : Rule) (same : SameIds old new) (first : IsFirst (Differs Rule.content old) new r) :
      Difference old new (.updated r)
  | toggled (r : Rule) (alike : Alike Rule.content old new)
      (first : IsFirst (Differs Rule.isActive old) new r) : Difference old new (.toggled r)
  | resaved (alike : Alike Rule.undated old new) : Difference old new .resaved

/-- **The description is of the first difference.** -/
theorem difference_ofEdit (distinctOld : (old.map (·.id)).Nodup) :
    Difference old new (ofEdit old new) := by
  have lacks : ∀ {rules : List Rule} (s : Rule), (!hasId rules s.id) = true ↔ Lacks rules s :=
    fun _ => not_hasId_iff_lacks
  have content := fun s => differsFrom_content_iff (r := s) distinctOld
  have active := fun s => differsFrom_isActive_iff (r := s) distinctOld
  rw [ofEdit]
  split
  · rename_i r found
    exact .created r (isFirst_of_find?_eq_some lacks found)
  · rename_i known
    have noneNew : ∀ s ∈ new, ¬ Lacks old s := fun s listed =>
      not_lacks_iff.2 (find?_hasId_eq_none_iff.1 known s listed)
    split
    · rename_i r found
      exact .deleted r noneNew (isFirst_of_find?_eq_some lacks found)
    · rename_i kept
      have same : SameIds old new := ⟨noneNew, fun s listed =>
        not_lacks_iff.2 (find?_hasId_eq_none_iff.1 kept s listed)⟩
      split
      · rename_i r found
        exact .updated r same (isFirst_of_find?_eq_some content found)
      · rename_i unchanged
        have alike : Alike Rule.content old new := ⟨same, fun s listed =>
          mt (content s).2 (List.find?_eq_none.1 unchanged s listed)⟩
        split
        · rename_i r found
          exact .toggled r alike (isFirst_of_find?_eq_some active found)
        · rename_i unswitched
          refine .resaved (alike_undated_iff.2 ⟨alike, same, fun s listed => ?_⟩)
          exact mt (active s).2 (List.find?_eq_none.1 unswitched s listed)

/-! ## Which difference it is -/

theorem not_alike_of_isFirst {α : Type} {part : Rule → α} (first : IsFirst (Differs part old) new r) :
    ¬ Alike part old new := by
  obtain ⟨s, listed, differs⟩ := first.exists
  exact fun alike => alike.2 s listed differs

namespace Difference

variable (difference : Difference old new change)
include difference

theorem create_iff : change.action = .create ↔ ∃ r ∈ new, Lacks old r := by
  have none (noneNew : ∀ r ∈ new, ¬ Lacks old r) : ¬ ∃ r ∈ new, Lacks old r :=
    fun ⟨r, listed, lacks⟩ => noneNew r listed lacks
  cases difference with
  | created r first => exact iff_of_true rfl first.exists
  | deleted r noneNew first => exact iff_of_false nofun (none noneNew)
  | updated r same first => exact iff_of_false nofun (none same.1)
  | toggled r alike first => exact iff_of_false nofun (none alike.1.1)
  | resaved alike => exact iff_of_false nofun (none alike.1.1)

theorem delete_iff :
    change.action = .delete ↔ (∀ r ∈ new, ¬ Lacks old r) ∧ ∃ r ∈ old, Lacks new r := by
  have none (same : SameIds old new) : ¬ ((∀ r ∈ new, ¬ Lacks old r) ∧ ∃ r ∈ old, Lacks new r) :=
    fun ⟨_, r, listed, lacks⟩ => same.2 r listed lacks
  cases difference with
  | created r first =>
      obtain ⟨s, listed, lacks⟩ := first.exists
      exact iff_of_false nofun fun gone => gone.1 s listed lacks
  | deleted r noneNew first => exact iff_of_true rfl ⟨noneNew, first.exists⟩
  | updated r same first => exact iff_of_false nofun (none same)
  | toggled r alike first => exact iff_of_false nofun (none alike.1)
  | resaved alike => exact iff_of_false nofun (none alike.1)

theorem sameIds_iff : SameIds old new ↔ change.action ≠ .create ∧ change.action ≠ .delete := by
  rw [Ne, Ne, difference.create_iff, difference.delete_iff, SameIds]
  grind

theorem update_iff :
    change.action = .update ∧ change.ruleId ≠ none ↔
      SameIds old new ∧ ∃ r ∈ new, Differs Rule.content old r := by
  have ids := difference.sameIds_iff
  have none (alike : Alike Rule.content old new) :
      ¬ (SameIds old new ∧ ∃ r ∈ new, Differs Rule.content old r) :=
    fun ⟨_, r, listed, differs⟩ => alike.2 r listed differs
  cases difference with
  | created r first => exact iff_of_false nofun fun other => (ids.1 other.1).1 rfl
  | deleted r noneNew first => exact iff_of_false nofun fun other => (ids.1 other.1).2 rfl
  | updated r same first => exact iff_of_true ⟨rfl, nofun⟩ ⟨same, first.exists⟩
  | toggled r alike first => exact iff_of_false nofun (none alike)
  | resaved alike =>
      exact iff_of_false (fun named => named.2 rfl) (none (alike_undated_iff.1 alike).1)

theorem toggle_iff :
    change.action = .toggle ↔ Alike Rule.content old new ∧ ¬ Alike Rule.undated old new := by
  have ids := difference.sameIds_iff
  cases difference with
  | created r first => exact iff_of_false nofun fun other => (ids.1 other.1.1).1 rfl
  | deleted r noneNew first => exact iff_of_false nofun fun other => (ids.1 other.1.1).2 rfl
  | updated r same first => exact iff_of_false nofun fun other => not_alike_of_isFirst first other.1
  | toggled r alike first =>
      refine iff_of_true rfl ⟨alike, fun undated => ?_⟩
      exact not_alike_of_isFirst first (alike_undated_iff.1 undated).2
  | resaved alike => exact iff_of_false nofun fun other => other.2 alike

theorem resave_iff :
    change.action = .update ∧ change.ruleId = none ↔ Alike Rule.undated old new := by
  have ids := difference.sameIds_iff
  cases difference with
  | created r first => exact iff_of_false nofun fun other => (ids.1 other.1).1 rfl
  | deleted r noneNew first => exact iff_of_false nofun fun other => (ids.1 other.1).2 rfl
  | updated r same first =>
      refine iff_of_false nofun fun undated => ?_
      exact not_alike_of_isFirst first (alike_undated_iff.1 undated).1
  | toggled r alike first =>
      refine iff_of_false nofun fun undated => ?_
      exact not_alike_of_isFirst first (alike_undated_iff.1 undated).2
  | resaved alike => exact iff_of_true ⟨rfl, rfl⟩ alike

end Difference

/-! ## The order of the old list -/

section Order

variable {others : List Rule} (distinctOld : (old.map (·.id)).Nodup) (perm : others.Perm old)
include distinctOld perm

theorem lastRule?_perm (id : String) : lastRule? others id = lastRule? old id := by
  have distinct : (others.map (·.id)).Nodup := (perm.map _).nodup_iff.2 distinctOld
  refine Option.ext fun r => ?_
  rw [lastRule?_eq_some_iff distinct, lastRule?_eq_some_iff distinctOld, perm.mem_iff]

theorem differsFrom_perm (differs : Rule → Rule → Bool) :
    differsFrom others differs = differsFrom old differs := by
  funext r
  rw [differsFrom, differsFrom, lastRule?_perm distinctOld perm]

/-- **The order of the old list decides nothing but which deleted rule is named.** -/
theorem ofEdit_perm :
    (ofEdit others new).action = (ofEdit old new).action ∧
      ((ofEdit old new).action ≠ .delete → ofEdit others new = ofEdit old new) := by
  have known : hasId others = hasId old := funext fun id => perm.any_eq
  have content := differsFrom_perm distinctOld perm fun before after => !before.sameContent after
  have active := differsFrom_perm distinctOld perm fun before after =>
    before.isActive != after.isActive
  have gone : others.find? (!hasId new ·.id) = none ↔ old.find? (!hasId new ·.id) = none := by
    simp only [find?_hasId_eq_none_iff, perm.mem_iff]
  rw [ofEdit, ofEdit, known, content, active]
  cases new.find? (!hasId old ·.id) with
  | some r => exact ⟨rfl, fun _ => rfl⟩
  | none =>
      cases before : old.find? (!hasId new ·.id) with
      | none =>
          rw [gone.2 before]
          exact ⟨rfl, fun _ => rfl⟩
      | some r =>
          cases after : others.find? (!hasId new ·.id) with
          | none => cases (gone.1 after).symm.trans before
          | some s => exact ⟨rfl, fun other => absurd rfl other⟩

end Order

/-! ## What is described -/

/-- The change says how the two lists differ: of which kind the first difference is, and which rule it is
about. -/
structure Explains (old new : List Rule) (change : Change) : Prop where
  create_iff : change.action = .create ↔ ∃ r ∈ new, Lacks old r
  create_first : change.action = .create →
    ∃ r, IsFirst (Lacks old) new r ∧ change = .created r
  delete_iff : change.action = .delete ↔ (∀ r ∈ new, ¬ Lacks old r) ∧ ∃ r ∈ old, Lacks new r
  delete_first : change.action = .delete →
    ∃ r, IsFirst (Lacks new) old r ∧ change = .deleted r
  update_iff : change.action = .update ∧ change.ruleId ≠ none ↔
    SameIds old new ∧ ∃ r ∈ new, Differs Rule.content old r
  update_first : change.action = .update → change.ruleId ≠ none →
    ∃ r, IsFirst (Differs Rule.content old) new r ∧ change = .updated r
  toggle_iff : change.action = .toggle ↔
    (new.map Rule.content).Perm (old.map Rule.content) ∧
      ¬ (new.map Rule.undated).Perm (old.map Rule.undated)
  toggle_first : change.action = .toggle →
    ∃ r, IsFirst (Differs Rule.isActive old) new r ∧ change = .toggled r
  resave_iff : change.action = .update ∧ change.ruleId = none ↔
    (new.map Rule.undated).Perm (old.map Rule.undated)
  resave_details : change.action = .update → change.ruleId = none → change = .resaved

theorem Difference.explains (difference : Difference old new change)
    (distinctOld : (old.map (·.id)).Nodup) (distinctNew : (new.map (·.id)).Nodup) :
    Explains old new change where
  create_iff := difference.create_iff
  create_first created := by
    cases difference with
    | created r first => exact ⟨r, first, rfl⟩
    | _ => cases created
  delete_iff := difference.delete_iff
  delete_first deleted := by
    cases difference with
    | deleted r noneNew first => exact ⟨r, first, rfl⟩
    | _ => cases deleted
  update_iff := difference.update_iff
  update_first updated named := by
    cases difference with
    | updated r same first => exact ⟨r, first, rfl⟩
    | resaved alike => exact absurd rfl named
    | _ => cases updated
  toggle_iff := by
    rw [perm_map_iff Rule.id_content distinctOld distinctNew,
      perm_map_iff Rule.id_undated distinctOld distinctNew, difference.toggle_iff]
  toggle_first toggled := by
    cases difference with
    | toggled r alike first => exact ⟨r, first, rfl⟩
    | _ => cases toggled
  resave_iff := by
    rw [perm_map_iff Rule.id_undated distinctOld distinctNew, difference.resave_iff]
  resave_details updated unnamed := by
    cases difference with
    | resaved alike => rfl
    | updated r same first => cases unnamed
    | _ => cases updated

def firstRule : Rule :=
  Rule.new "r1" "First" ".a" .epoch

def secondRule : Rule :=
  Rule.new "r2" "Second" ".b" .epoch

/-- The second rule is switched off and put before the first one, which is made anew. -/
def switchedAndMoved : List Rule :=
  [{ secondRule with isActive := false },
    { firstRule with createdAt := (Instant.ofMillis? 80000).getD .epoch }]

end Change

end Exclusion
