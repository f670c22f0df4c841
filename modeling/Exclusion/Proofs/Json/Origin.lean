/-
# Exclusion.Proofs.Json.Origin -- what a codec can make of anything

Whatever stands in a text, a codec makes only certain values of it: `Codec.Makes`.  The items of a
list that was made were made by the codec of the items (`Makes.list`), and the fields of a record by
their own codecs, unless they were absent and took their default (`Makes.record`).  So a fact about
the plain codecs holds of all that is ever read.
-/
import Exclusion.Json.Record
import Mathlib.Tactic

namespace Exclusion.Json

set_option autoImplicit false

variable {σ α : Type}

/-- The codec makes this value of some node. -/
def Codec.Makes (codec : Codec α) (b : α) : Prop :=
  ∃ source node, codec.decode source node = .ok b

theorem except_bind_eq_ok {ε β γ : Type} {x : Except ε β} {f : β → Except ε γ} {c : γ} :
    (x >>= f) = .ok c ↔ ∃ b, x = .ok b ∧ f b = .ok c := by
  cases x <;> simp [bind, Except.bind]

theorem except_map_eq_ok {ε β γ : Type} {x : Except ε β} {f : β → γ} {c : γ} :
    x.map f = .ok c ↔ ∃ b, x = .ok b ∧ f b = c := by
  cases x <;> simp [Except.map]

theorem except_map_eq_error {ε β γ : Type} {x : Except ε β} {f : β → γ} {e : ε} :
    x.map f = .error e ↔ x = .error e := by
  cases x <;> simp [Except.map]

theorem wrongType_ne_ok (node : Node) (expected : String) (a : α) :
    node.wrongType expected ≠ .ok a := by
  intro h
  obtain ⟨found, -, impossible⟩ := except_bind_eq_ok.1 h
  exact absurd impossible (by simp [mismatched])

namespace Codec

variable {codec : Codec α}

theorem makes_of_readText {text : String} {b : α} (read : codec.readText text = .ok b) :
    codec.Makes b := by
  simp only [readText] at read
  obtain ⟨a, decoded, rest⟩ := except_bind_eq_ok.1 read
  split at rest
  · simp [stopped] at rest
  · cases rest
    exact ⟨_, _, decoded⟩

/-- The items of a list were made one by one. -/
theorem Makes.list {bs : List α} (made : codec.list.Makes bs) : ∀ b ∈ bs, codec.Makes b := by
  obtain ⟨source, node, decoded⟩ := made
  have items : ∀ (source : Source) (nodes : List Node) (bs : List α),
      codec.decodeItems source nodes = .ok bs → ∀ b ∈ bs, codec.Makes b := by
    intro source nodes
    induction nodes with
    | nil =>
        intro bs decoded
        cases decoded
        simp
    | cons node nodes ih =>
        intro bs decoded
        obtain ⟨a, first, decoded⟩ := except_bind_eq_ok.1 decoded
        obtain ⟨as, others, decoded⟩ := except_bind_eq_ok.1 decoded
        cases decoded
        intro b member
        rcases List.mem_cons.1 member with rfl | member
        · exact ⟨source, node, first⟩
        · exact ih as others b member
  cases node with
  | array nodes ending =>
      obtain ⟨inner, -, decoded⟩ := except_bind_eq_ok.1 decoded
      obtain ⟨as, made, decoded⟩ := except_bind_eq_ok.1 decoded
      obtain ⟨_, -, decoded⟩ := except_bind_eq_ok.1 decoded
      cases decoded
      exact items inner nodes _ made
  | _ => exact absurd decoded (wrongType_ne_ok _ _ _)

/-- A value that is there was made by the codec of the value. -/
theorem Makes.option {b : α} (made : codec.option.Makes (some b)) : codec.Makes b := by
  obtain ⟨source, node, decoded⟩ := made
  cases node with
  | null => cases decoded
  | _ =>
      obtain ⟨a, decoded, same⟩ := except_map_eq_ok.1 decoded
      cases same
      exact ⟨source, _, decoded⟩

end Codec

/-! ## Records -/

/-- A value of a field: read, or the one for when the field is absent. -/
def Field.Makes (field : Field σ α) (b : α) : Prop :=
  field.codec.Makes b ∨ field.absent = some b ∨ field.absentItem = some b

namespace Fields

/-- Each value of the row is one of its field. -/
def Make : {ts : List Type} → Fields σ ts → Row ts → Prop
  | _, .nil, _ => True
  | _, .cons field rest, (b, row) => field.Makes b ∧ rest.Make row

/-- Each value that a slot has was made by the codec of its field. -/
def SlotsMade : {ts : List Type} → Fields σ ts → Slots ts → Prop
  | _, .nil, _ => True
  | _, .cons field rest, (slot, slots) => (∀ b, slot = some b → field.codec.Makes b) ∧
      rest.SlotsMade slots

theorem slotsMade_blank {ts : List Type} (fields : Fields σ ts) : fields.SlotsMade fields.blank := by
  induction fields with
  | nil => trivial
  | cons field rest ih => exact ⟨by simp, ih⟩

theorem slotsMade_take {source : Source} {key : String} {node : Node} {ts : List Type}
    {fields : Fields σ ts} {slots slots' : Slots ts} (made : fields.SlotsMade slots)
    (taken : fields.take source key node slots = .ok slots') : fields.SlotsMade slots' := by
  induction fields with
  | nil => trivial
  | cons field rest ih =>
      obtain ⟨slot, slots⟩ := slots
      obtain ⟨own, others⟩ := made
      by_cases named : field.name = key
      · replace taken := (if_pos named).symm.trans taken
        cases slot with
        | some a => simp [mismatched] at taken
        | none =>
            obtain ⟨a, decoded, taken⟩ := except_bind_eq_ok.1 taken
            cases taken
            refine ⟨?_, others⟩
            rintro b ⟨⟩
            exact ⟨source, node, decoded⟩
      · replace taken := (if_neg named).symm.trans taken
        obtain ⟨after, passed, same⟩ := except_bind_eq_ok.1 taken
        cases same
        exact ⟨own, ih others passed⟩

theorem slotsMade_takeAll {source : Source} {ts : List Type} {fields : Fields σ ts}
    {members : List (Option String × Node)} {slots slots' : Slots ts} (made : fields.SlotsMade slots)
    (taken : fields.takeAll source members slots = .ok slots') : fields.SlotsMade slots' := by
  induction members generalizing slots with
  | nil =>
      cases taken
      exact made
  | cons m members ih =>
      obtain ⟨key, node⟩ := m
      cases key with
      | none => simp [takeAll, stopped] at taken
      | some key =>
          obtain ⟨next, first, rest⟩ := except_bind_eq_ok.1 taken
          exact ih (slotsMade_take made first) rest

theorem make_complete {ts : List Type} {fields : Fields σ ts} {slots : Slots ts} {row : Row ts}
    (made : fields.SlotsMade slots) (completed : fields.complete slots = .ok row) :
    fields.Make row := by
  induction fields with
  | nil => trivial
  | cons field rest ih =>
      obtain ⟨slot, slots⟩ := slots
      obtain ⟨own, others⟩ := made
      simp only [complete] at completed
      split at completed
      · rename_i a value
        obtain ⟨after, left, same⟩ := except_bind_eq_ok.1 completed
        cases same
        refine ⟨?_, ih others left⟩
        cases slot with
        | none => exact .inr (.inl value)
        | some b =>
            cases value
            exact .inl (own a rfl)
      · simp [mismatched] at completed

theorem make_takeItems {source : Source} {owner : String} {ending : Ending} {ts : List Type}
    {fields : Fields σ ts} {index : Nat} {items left : List Node} {row : Row ts}
    (taken : fields.takeItems source owner ending index items = .ok (row, left)) :
    fields.Make row := by
  induction fields generalizing index items with
  | nil => trivial
  | cons field rest ih =>
      cases items with
      | nil =>
          obtain ⟨_, -, taken⟩ := except_bind_eq_ok.1 taken
          split at taken
          · rename_i a value
            obtain ⟨⟨after, left⟩, others, same⟩ := except_bind_eq_ok.1 taken
            cases same
            exact ⟨.inr (.inr value), ih others⟩
          · simp [mismatched] at taken
      | cons item items =>
          obtain ⟨a, decoded, taken⟩ := except_bind_eq_ok.1 taken
          obtain ⟨⟨after, left⟩, others, same⟩ := except_bind_eq_ok.1 taken
          cases same
          exact ⟨.inl ⟨source, item, decoded⟩, ih others⟩

end Fields

/-- The fields of a record were made one by one. -/
theorem Codec.Makes.record {ts : List Type} {owner : String} {fields : Fields σ ts}
    {make : Row ts → σ} {s : σ} (made : (Codec.record owner fields make).Makes s) :
    ∃ row, s = make row ∧ fields.Make row := by
  obtain ⟨source, node, decoded⟩ := made
  cases node with
  | object members ending =>
      obtain ⟨inner, -, decoded⟩ := except_bind_eq_ok.1 decoded
      obtain ⟨slots, taken, decoded⟩ := except_bind_eq_ok.1 decoded
      obtain ⟨_, -, decoded⟩ := except_bind_eq_ok.1 decoded
      obtain ⟨row, completed, same⟩ := except_bind_eq_ok.1 decoded
      cases same
      exact ⟨row, rfl, Fields.make_complete
        (Fields.slotsMade_takeAll (Fields.slotsMade_blank fields) taken) completed⟩
  | array items ending =>
      obtain ⟨inner, -, decoded⟩ := except_bind_eq_ok.1 decoded
      obtain ⟨⟨row, left⟩, taken, decoded⟩ := except_bind_eq_ok.1 decoded
      obtain ⟨_, -, same⟩ := except_bind_eq_ok.1 decoded
      cases same
      exact ⟨row, rfl, Fields.make_takeItems taken⟩
  | _ => exact absurd decoded (wrongType_ne_ok _ _ _)

end Exclusion.Json
