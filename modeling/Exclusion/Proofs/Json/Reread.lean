/-
# Exclusion.Proofs.Json.Reread -- what may be read of what was written

Not all that can be written can be read again: a part may be refused, and then the whole is.  But if the
whole is read, each of its parts was read of what was written for it.  This is the converse of what
`Codec.Restores` carries from the parts to the whole: for texts (`Codec.decode_of_readText`), for the
items of a list (`Codec.forall₂_of_decode_list`) and for the fields of a record
(`Codec.readAs_of_decode_record`).
-/
import Exclusion.Proofs.Json.Origin
import Exclusion.Proofs.Json.Restore

namespace Exclusion.Json

set_option autoImplicit false

variable {σ α : Type}

/-- Of the text of a value is read what is read of the value's node. -/
theorem Codec.decode_of_readText {codec : Codec α} {a b : α}
    (integral : (codec.encode a).IsIntegral) (read : codec.readText (codec.text a) = .ok b) :
    codec.decode (.text maxLevels) (codec.encode a).toNode = .ok b := by
  rw [Codec.readText, Codec.text, Document.ofText_render integral] at read
  obtain ⟨c, decoded, same⟩ := except_bind_eq_ok.1 read
  cases same
  exact decoded

/-- The items of a list were read one by one. -/
theorem Codec.forall₂_of_decode_list {codec : Codec α} {source : Source} {as bs : List α}
    (decoded : codec.list.decode source (codec.list.encode as).toNode = .ok bs) :
    ∃ inner, source.enter = .ok inner ∧
      List.Forall₂ (fun a b => codec.decode inner (codec.encode a).toNode = .ok b) as bs := by
  obtain ⟨inner, entered, read⟩ := except_bind_eq_ok.1 decoded
  obtain ⟨items, made, same⟩ := except_bind_eq_ok.1 read
  cases same
  refine ⟨inner, entered, ?_⟩
  clear decoded read entered
  induction as generalizing bs with
  | nil =>
      cases made
      exact .nil
  | cons a as ih =>
      obtain ⟨b, first, rest⟩ := except_bind_eq_ok.1 made
      obtain ⟨bs, others, same⟩ := except_bind_eq_ok.1 rest
      cases same
      exact .cons first (ih others)

/-- A field was read of what was written for it, or is absent as it was written. -/
def Field.ReadAs (source : Source) (s : σ) (field : Field σ α) (b : α) : Prop :=
  if field.hidden (field.get s) then field.absent = some b
  else field.codec.decode source (field.codec.encode (field.get s)).toNode = .ok b

/-- A field that may be absent, and was not, was read as its value is. -/
theorem Field.exists_decode_of_readAs_optional {name : String} {get : σ → Option α}
    {codec : Codec α} {source : Source} {s : σ} {read : Option α} {a : α}
    (readAs : (Field.optional name get codec).ReadAs source s read) (given : get s = some a)
    (present : codec.encode a ≠ .null) :
    ∃ b, read = some b ∧ codec.decode source (codec.encode a).toNode = .ok b := by
  simp only [ReadAs, Field.optional, given, Option.isNone_some, Bool.false_eq_true, if_false] at readAs
  have mapped : (codec.decode source (codec.encode a).toNode).map some = .ok read := by
    rw [← readAs]
    cases written : codec.encode a <;> simp_all [Codec.option, toNode]
  obtain ⟨b, decoded, rfl⟩ := except_map_eq_ok.1 mapped
  exact ⟨b, rfl, decoded⟩

namespace Fields

/-- Every field was read of what was written for it, or is absent as it was written. -/
def ReadAs (source : Source) (s : σ) : {ts : List Type} → Fields σ ts → Row ts → Prop
  | _, .nil, _ => True
  | _, .cons field rest, (b, row) => field.ReadAs source s b ∧ rest.ReadAs source s row

variable {source : Source} {s : σ} {ts : List Type}

/-- The value of a slot that is complete, and those of the others. -/
theorem complete_cons_eq_ok {field : Field σ α} {rest : Fields σ ts} {slot : Option α}
    {slots : Slots ts} {b : α} {row : Row ts}
    (complete : (Fields.cons field rest).complete (slot, slots) = .ok (b, row)) :
    (slot <|> field.absent) = some b ∧ rest.complete slots = .ok row := by
  rw [Fields.complete] at complete
  split at complete
  · rename_i value
    obtain ⟨others, completed, same⟩ := except_bind_eq_ok.1 complete
    cases same
    exact ⟨value, completed⟩
  · cases complete

theorem readAs_of_takeAll {fields : Fields σ ts} (distinct : fields.names.Nodup) {slots : Slots ts}
    {row : Row ts}
    (taken : fields.takeAll source (toMembers (fields.members s)) fields.blank = .ok slots)
    (complete : fields.complete slots = .ok row) : fields.ReadAs source s row := by
  induction fields with
  | nil => trivial
  | cons field rest ih =>
      obtain ⟨b, row⟩ := row
      obtain ⟨fresh, distinct⟩ := List.nodup_cons.1 distinct
      have others : ∀ m ∈ rest.members s, field.name ≠ m.1 := by
        rintro ⟨k, v⟩ member rfl
        exact fresh (key_mem_names member)
      simp only [members, blank] at taken
      rw [ReadAs, Field.ReadAs]
      by_cases hidden : field.hidden (field.get s) = true
      · rw [if_pos hidden] at taken ⊢
        rw [takeAll_cons_of_ne others] at taken
        obtain ⟨restSlots, restTaken, rfl⟩ := except_map_eq_ok.1 taken
        obtain ⟨value, completed⟩ := complete_cons_eq_ok complete
        exact ⟨value, ih distinct restTaken completed⟩
      · rw [if_neg hidden] at taken ⊢
        obtain ⟨first, own, others'⟩ := except_bind_eq_ok.1 taken
        -- the member of the field itself was taken first, and so it was read
        obtain ⟨a, decoded, same⟩ := except_bind_eq_ok.1 ((if_pos rfl).symm.trans own)
        cases same
        rw [takeAll_cons_of_ne others] at others'
        obtain ⟨restSlots, restTaken, rfl⟩ := except_map_eq_ok.1 others'
        obtain ⟨value, completed⟩ := complete_cons_eq_ok complete
        cases value
        exact ⟨decoded, ih distinct restTaken completed⟩

end Fields

/-- The fields of a record were read one by one. -/
theorem Codec.readAs_of_decode_record {ts : List Type} {owner : String} {fields : Fields σ ts}
    {make : Row ts → σ} {source : Source} {s r : σ} (distinct : fields.names.Nodup)
    (decoded : (Codec.record owner fields make).decode source
      ((Codec.record owner fields make).encode s).toNode = .ok r) :
    ∃ inner row, r = make row ∧ fields.ReadAs inner s row := by
  obtain ⟨inner, -, read⟩ := except_bind_eq_ok.1 decoded
  obtain ⟨slots, taken, read⟩ := except_bind_eq_ok.1 read
  obtain ⟨-, -, read⟩ := except_bind_eq_ok.1 read
  obtain ⟨row, completed, same⟩ := except_bind_eq_ok.1 read
  cases same
  exact ⟨inner, row, rfl, Fields.readAs_of_takeAll distinct taken completed⟩

end Exclusion.Json
