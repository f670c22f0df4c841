/-
# Exclusion.Proofs.Json.Lookup -- what a record makes of the members of an object

A record takes from an object the members with the names of its fields, each of which occurs once, and
passes over the others, whatever they are (`skip_toNode`).  So what it reads depends only on what is
found under those names: `Fields.Reads` says what each field makes of it, and `Codec.readValue_record`
that the record is made of that.
-/
import Exclusion.Proofs.Json.Carry

namespace Exclusion.Json

set_option autoImplicit false

/-! ## Passing over values -/

mutual

/-- A value is passed over. -/
theorem skip_toNode : ∀ v : Json, v.toNode.skip = .ok ()
  | .null | .bool _ | .number _ | .string _ => rfl
  | .array items => by
      rw [toNode, Node.skip, skipItems_toNodes items]
      rfl
  | .object members => by
      rw [toNode, Node.skip, skipMembers_toMembers members]
      rfl

theorem skipItems_toNodes : ∀ items : List Json, Node.skipItems (toNodes items) = .ok ()
  | [] => rfl
  | v :: rest => by
      rw [toNodes, Node.skipItems, skip_toNode v, skipItems_toNodes rest]
      rfl

theorem skipMembers_toMembers : ∀ members : List (String × Json),
    Node.skipMembers (toMembers members) = .ok ()
  | [] => rfl
  | (k, v) :: rest => by
      rw [toMembers, Node.skipMembers, skip_toNode v, skipMembers_toMembers rest]
      rfl

end

/-! ## Members of a record -/

/-- A member with another name is not found. -/
theorem lookup_of_ne {before after : List (String × Json)} {name k : String} {v : Json}
    (other : name ≠ k) :
    (before ++ (k, v) :: after).lookup name = (before ++ after).lookup name := by
  rw [List.lookup_append, List.lookup_append, List.lookup_cons, beq_eq_false_iff_ne.2 other]

variable {σ α : Type}

/-- What the field makes of the member with its name, or of there being none. -/
def Field.Reads (field : Field σ α) (members : List (String × Json)) (a : α) : Prop :=
  match members.lookup field.name with
  | some v => field.codec.readValue v = .ok a
  | none => field.absent = some a

namespace Fields

/-- What the fields make of the members, as a row. -/
def Reads (members : List (String × Json)) : {ts : List Type} → Fields σ ts → Row ts → Prop
  | _, .nil, _ => True
  | _, .cons field rest, (a, row) => field.Reads members a ∧ rest.Reads members row

variable {ts : List Type} {fields : Fields σ ts} {members : List (String × Json)} {row : Row ts}

/-- Only the members with the names of fields count. -/
theorem Reads.congr {others : List (String × Json)} (reads : fields.Reads members row)
    (agree : ∀ name ∈ fields.names, others.lookup name = members.lookup name) :
    fields.Reads others row := by
  induction fields with
  | nil => trivial
  | cons field rest ih =>
      obtain ⟨a, row⟩ := row
      obtain ⟨first, reads⟩ := reads
      obtain ⟨own, left⟩ := List.forall_mem_cons.1 agree
      refine ⟨?_, ih reads left⟩
      rw [Field.Reads, own]
      exact first

theorem takeAll_nil (source : Source) (members : List (String × Json)) :
    (Fields.nil (σ := σ)).takeAll source (toMembers members) () = .ok () := by
  induction members with
  | nil => rfl
  | cons m members ih =>
      obtain ⟨k, v⟩ := m
      simp only [toMembers, takeAll, take, skip_toNode, bind, Except.bind]
      exact ih

theorem complete_cons {field : Field σ α} {rest : Fields σ ts} {slot : Option α} {slots : Slots ts}
    {a : α} (value : (slot <|> field.absent) = some a) (completed : rest.complete slots = .ok row) :
    (Fields.cons field rest).complete (slot, slots) = .ok (a, row) := by
  rw [complete, value, completed]
  rfl

/-- **A record takes from an object what its fields make of it.** -/
theorem Reads.takeAll (reads : fields.Reads members row) (names : fields.names.Nodup)
    (distinct : (keys members).Nodup) :
    ∃ slots, fields.takeAll .value (toMembers members) fields.blank = .ok slots ∧
      fields.complete slots = .ok row := by
  induction fields generalizing members with
  | nil => exact ⟨(), takeAll_nil .value members, rfl⟩
  | cons field rest ih =>
      obtain ⟨a, row⟩ := row
      obtain ⟨first, reads⟩ := reads
      obtain ⟨fresh, names⟩ := List.nodup_cons.1 names
      rw [Field.Reads] at first
      cases found : members.lookup field.name with
      | none =>
          rw [found] at first
          have others : ∀ m ∈ members, field.name ≠ m.1 := fun m listed =>
            bne_iff_ne.1 (List.lookup_eq_none_iff.1 found m listed)
          obtain ⟨slots, taken, completed⟩ := ih reads names distinct
          refine ⟨(none, slots), ?_, complete_cons first completed⟩
          rw [blank, takeAll_cons_of_ne others, taken]
          rfl
      | some v =>
          rw [found] at first
          -- the other members are left to the other fields, which find them as before
          obtain ⟨before, after, rfl, -⟩ := List.lookup_eq_some_iff.1 found
          have moved : (keys (before ++ (field.name, v) :: after)).Perm
              (field.name :: keys (before ++ after)) := List.perm_middle.map Prod.fst
          obtain ⟨single, distinct⟩ := List.nodup_cons.1 (moved.nodup_iff.1 distinct)
          have others : ∀ m ∈ before ++ after, field.name ≠ m.1 := fun m listed same =>
            single (same ▸ List.mem_map_of_mem listed)
          have agree : ∀ name ∈ rest.names,
              (before ++ after).lookup name = (before ++ (field.name, v) :: after).lookup name := by
            intro name listed
            have other : name ≠ field.name := fun same => fresh (same ▸ listed)
            exact (lookup_of_ne other).symm
          obtain ⟨slots, taken, completed⟩ := ih (reads.congr agree) names distinct
          refine ⟨(some a, slots), ?_, complete_cons rfl completed⟩
          rw [blank, takeAll_cons_of_once others first, taken]
          rfl

end Fields

/-- **A record is read of the members that its fields find.** -/
theorem Codec.readValue_record {ts : List Type} {owner : String} {fields : Fields σ ts}
    {make : Row ts → σ} {members : List (String × Json)} {row : Row ts}
    (names : fields.names.Nodup) (distinct : (keys members).Nodup)
    (reads : fields.Reads members row) :
    (Codec.record owner fields make).readValue (.object members) = .ok (make row) := by
  obtain ⟨slots, taken, completed⟩ := reads.takeAll names distinct
  show (Codec.record owner fields make).decode .value (.object (toMembers members) .closed) = _
  simp only [Codec.record, Source.enter, taken, completed, Node.finish, bind, Except.bind]
  rfl

end Exclusion.Json
