/-
# Exclusion.Proofs.Json.Sorted -- values whose objects are sorted

In a value that was read the members of every object are sorted by key, and no two have one key
(`isSorted_of_toJson`).  Any value is read as a value again, with its members sorted (`toJson_toNode`).
If they are sorted already, it is read as it is (`sorted_of_isSorted`).
-/
import Exclusion.Proofs.Json.Carry
import Mathlib.Data.String.Basic

namespace Exclusion.Json

set_option autoImplicit false

/-! ## Values as nodes -/

mutual

/-- A value is read as a value. -/
theorem toJson_toNode : ∀ v : Json, v.toNode.toJson .value = .ok v.sorted
  | .null | .bool _ | .number _ | .string _ => rfl
  | .array items => by
      rw [toNode, Node.toJson, sorted]
      simp only [Source.enter, toJsons_toNodes items, Node.finish, bind, Except.bind]
      rfl
  | .object members => by
      rw [toNode, Node.toJson, sorted]
      simp only [Source.enter, toJsonMembers_toMembers members, Node.finish, bind, Except.bind]
      rfl

theorem toJsons_toNodes : ∀ items : List Json,
    Node.toJsons .value (toNodes items) = .ok (sortedItems items)
  | [] => rfl
  | v :: rest => by
      rw [toNodes, Node.toJsons, toJson_toNode v, toJsons_toNodes rest]
      rfl

theorem toJsonMembers_toMembers : ∀ members : List (String × Json),
    Node.toJsonMembers .value (toMembers members) = .ok (sortedMembers members)
  | [] => rfl
  | (k, v) :: rest => by
      rw [toMembers, Node.toJsonMembers, toJson_toNode v, toJsonMembers_toMembers rest]
      rfl

end

/-! ## Sorted values -/

mutual

/-- Every object in the value has its members sorted by key, no two with one key. -/
def IsSorted : Json → Prop
  | .array items => AreSorted items
  | .object members => (keys members).Pairwise (· < ·) ∧ MembersAreSorted members
  | .null | .bool _ | .number _ | .string _ => True

def AreSorted : List Json → Prop
  | [] => True
  | v :: rest => IsSorted v ∧ AreSorted rest

def MembersAreSorted : List (String × Json) → Prop
  | [] => True
  | (_, v) :: rest => IsSorted v ∧ MembersAreSorted rest

end

/-- A member with the greatest key comes last. -/
theorem insertMember_of_gt {k : String} {members : List (String × Json)}
    (greatest : ∀ k' ∈ keys members, k' < k) (v : Json) :
    insertMember k v members = members ++ [(k, v)] := by
  induction members with
  | nil => rfl
  | cons m members ih =>
      obtain ⟨k', v'⟩ := m
      obtain ⟨first, others⟩ := List.forall_mem_cons.1 greatest
      rw [insertMember, if_neg (lt_asymm first), if_neg (ne_of_gt first), ih others, List.cons_append]

/-- Sorting changes nothing where the keys are in their order. -/
theorem sortMembers_of_pairwise {members : List (String × Json)}
    (ordered : (keys members).Pairwise (· < ·)) : sortMembers members = members := by
  induction members using List.reverseRecOn with
  | nil => rfl
  | append_singleton members m ih =>
      obtain ⟨k, v⟩ := m
      rw [keys, List.map_append, List.pairwise_append] at ordered
      obtain ⟨before, -, below⟩ := ordered
      have greatest : ∀ k' ∈ keys members, k' < k := fun k' listed =>
        below k' listed k (List.mem_singleton_self k)
      have inserted := insertMember_of_gt greatest v
      have unchanged := ih before
      rw [sortMembers] at unchanged ⊢
      rw [List.foldl_append, unchanged]
      exact inserted

mutual

/-- A sorted value is sorted as it is. -/
theorem sorted_of_isSorted : ∀ {v : Json}, v.IsSorted → v.sorted = v
  | .null, _ | .bool _, _ | .number _, _ | .string _, _ => rfl
  | .array items, are => by
      rw [sorted, sortedItems_of_areSorted are]
  | .object members, ⟨ordered, are⟩ => by
      rw [sorted, sortedMembers_of_areSorted are, ofMembers, sortMembers_of_pairwise ordered]

theorem sortedItems_of_areSorted : ∀ {items : List Json}, AreSorted items → sortedItems items = items
  | [], _ => rfl
  | v :: rest, ⟨first, others⟩ => by
      rw [sortedItems, sorted_of_isSorted first, sortedItems_of_areSorted others]

theorem sortedMembers_of_areSorted : ∀ {members : List (String × Json)}, MembersAreSorted members →
    sortedMembers members = members
  | [], _ => rfl
  | (k, v) :: rest, ⟨first, others⟩ => by
      rw [sortedMembers, sorted_of_isSorted first, sortedMembers_of_areSorted others]

end

theorem isSorted_of_mem {members : List (String × Json)} (are : MembersAreSorted members) {k : String}
    {v : Json} (listed : (k, v) ∈ members) : v.IsSorted := by
  induction members with
  | nil => cases listed
  | cons m members ih =>
      obtain ⟨k', v'⟩ := m
      rcases List.mem_cons.1 listed with same | later
      · cases same
        exact are.1
      · exact ih are.2 later

/-! ## Values that were read -/

theorem mem_keys_insertMember {k k' : String} {v : Json} {members : List (String × Json)}
    (listed : k' ∈ keys (insertMember k v members)) : k' = k ∨ k' ∈ keys members := by
  induction members with
  | nil => exact .inl (List.mem_singleton.1 listed)
  | cons m members ih =>
      obtain ⟨k'', v''⟩ := m
      rw [insertMember] at listed
      split at listed
      · exact List.mem_cons.1 listed
      · split at listed
        · exact (List.mem_cons.1 listed).imp_right (List.mem_cons_of_mem _)
        · rcases List.mem_cons.1 listed with first | later
          · exact .inr (first ▸ List.mem_cons_self ..)
          · exact (ih later).imp_right (List.mem_cons_of_mem _)

theorem pairwise_insertMember {members : List (String × Json)}
    (ordered : (keys members).Pairwise (· < ·)) (k : String) (v : Json) :
    (keys (insertMember k v members)).Pairwise (· < ·) := by
  induction members with
  | nil => exact List.pairwise_singleton ..
  | cons m members ih =>
      obtain ⟨k', v'⟩ := m
      obtain ⟨above, rest⟩ := List.pairwise_cons.1 ordered
      rw [insertMember]
      split
      · rename_i below
        refine List.pairwise_cons.2 ⟨?_, List.pairwise_cons.2 ⟨above, rest⟩⟩
        exact List.forall_mem_cons.2 ⟨below, fun other listed => below.trans (above other listed)⟩
      · rename_i notBelow
        split
        · rename_i same
          subst same
          exact List.pairwise_cons.2 ⟨above, rest⟩
        · rename_i different
          refine List.pairwise_cons.2 ⟨fun other listed => ?_, ih rest⟩
          rcases mem_keys_insertMember listed with rfl | before
          · exact lt_of_le_of_ne (not_lt.1 notBelow) (Ne.symm different)
          · exact above other before

theorem membersAreSorted_insertMember {members : List (String × Json)} (are : MembersAreSorted members)
    (k : String) {v : Json} (sorted : v.IsSorted) : MembersAreSorted (insertMember k v members) := by
  induction members with
  | nil => exact ⟨sorted, trivial⟩
  | cons m members ih =>
      obtain ⟨k', v'⟩ := m
      rw [insertMember]
      split
      · exact ⟨sorted, are⟩
      · split
        · exact ⟨sorted, are.2⟩
        · exact ⟨are.1, ih are.2⟩

/-- An object made of sorted values is sorted. -/
theorem isSorted_ofMembers {members : List (String × Json)} (are : MembersAreSorted members) :
    (ofMembers members).IsSorted := by
  refine List.foldlRecOn (motive := fun sorted => (Json.object sorted).IsSorted) members _
    ⟨.nil, trivial⟩ ?_
  intro sorted holds m listed
  obtain ⟨k, v⟩ := m
  obtain ⟨ordered, before⟩ := holds
  exact ⟨pairwise_insertMember ordered k v,
    membersAreSorted_insertMember before k (isSorted_of_mem are listed)⟩

mutual

/-- **Whatever is read as a value is sorted.** -/
theorem isSorted_of_toJson {source : Source} : ∀ {node : Node} {v : Json},
    node.toJson source = .ok v → v.IsSorted
  | .null, _, made | .bool _, _, made | .number (some _), _, made | .string (some _), _, made => by
      cases made
      trivial
  | .number none, _, made | .string none, _, made | .broken _, _, made => by
      cases made
  | .array items ending, _, made => by
      rw [Node.toJson] at made
      obtain ⟨inner, -, made⟩ := except_bind_eq_ok.1 made
      obtain ⟨values, read, made⟩ := except_bind_eq_ok.1 made
      obtain ⟨⟨⟩, -, made⟩ := except_bind_eq_ok.1 made
      cases made
      exact areSorted_of_toJsons read
  | .object members ending, _, made => by
      rw [Node.toJson] at made
      obtain ⟨inner, -, made⟩ := except_bind_eq_ok.1 made
      obtain ⟨values, read, made⟩ := except_bind_eq_ok.1 made
      obtain ⟨⟨⟩, -, made⟩ := except_bind_eq_ok.1 made
      cases made
      exact isSorted_ofMembers (membersAreSorted_of_toJsonMembers read)

theorem areSorted_of_toJsons {source : Source} : ∀ {items : List Node} {values : List Json},
    Node.toJsons source items = .ok values → AreSorted values
  | [], _, made => by
      cases made
      trivial
  | item :: rest, _, made => by
      rw [Node.toJsons] at made
      obtain ⟨v, first, made⟩ := except_bind_eq_ok.1 made
      obtain ⟨others, read, made⟩ := except_bind_eq_ok.1 made
      cases made
      exact ⟨isSorted_of_toJson first, areSorted_of_toJsons read⟩

theorem membersAreSorted_of_toJsonMembers {source : Source} :
    ∀ {members : List (Option String × Node)} {values : List (String × Json)},
      Node.toJsonMembers source members = .ok values → MembersAreSorted values
  | [], _, made => by
      cases made
      trivial
  | (none, _) :: _, _, made => by
      cases made
  | (some k, item) :: rest, _, made => by
      rw [Node.toJsonMembers] at made
      obtain ⟨v, first, made⟩ := except_bind_eq_ok.1 made
      obtain ⟨others, read, made⟩ := except_bind_eq_ok.1 made
      cases made
      exact ⟨isSorted_of_toJson first, membersAreSorted_of_toJsonMembers read⟩

end

end Exclusion.Json
