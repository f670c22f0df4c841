/-
# Exclusion.Proofs.Json.Restore -- what a codec reads of what it wrote

`Codec.Restores levels a b` says that what is written for `a` is read as `b`, from a text that allows
so many levels of arrays and objects, from a value, and from a part that was set aside.  Mostly `b` is
`a`; it differs where something is cut off in writing.  One lemma for each kind of codec carries the
law from the parts to the whole: `Restores.list`, `Restores.option`, `Restores.names` and, for
records, `Restores.record`, whose fields restore one by one (`Fields.Restore`).

`Restores.readText_text` is what the law is for: the text of `a` is read as `b`.
-/
import Exclusion.Json.Choice
import Exclusion.Json.Record
import Exclusion.Proofs.Json.Reading

namespace Exclusion.Json

set_option autoImplicit false

variable {σ α : Type}

/-! ## Levels -/

/-- The source allows so many more levels of arrays and objects. -/
def Source.Allows : Source → Nat → Prop
  | .text left, levels => levels ≤ left
  | .value, _ | .setAside, _ => True

theorem Source.Allows.mono {source : Source} {m n : Nat} (allows : source.Allows n) (le : m ≤ n) :
    source.Allows m := by
  cases source with
  | text left => exact le.trans allows
  | value => trivial
  | setAside => trivial

/-- Inside a container there is one level less. -/
theorem Source.Allows.enter {source : Source} {levels : Nat} (allows : source.Allows (levels + 1)) :
    ∃ inner, source.enter = .ok inner ∧ inner.Allows levels := by
  cases source with
  | text left =>
      cases left with
      | zero => exact absurd allows (Nat.not_succ_le_zero levels)
      | succ left => exact ⟨.text left, rfl, Nat.le_of_succ_le_succ allows⟩
  | value => exact ⟨.value, rfl, trivial⟩
  | setAside => exact ⟨.setAside, rfl, trivial⟩

/-! ## The law -/

/-- What is written for `a` is read as `b`. -/
structure Codec.Restores (codec : Codec α) (levels : Nat) (a b : α) : Prop where
  integral : (codec.encode a).IsIntegral
  decode : ∀ {source : Source}, source.Allows levels →
    codec.decode source (codec.encode a).toNode = .ok b

namespace Codec.Restores

variable {codec : Codec α} {levels : Nat} {a b : α}

theorem mono {m : Nat} (restores : codec.Restores levels a b) (le : levels ≤ m) :
    codec.Restores m a b :=
  ⟨restores.integral, fun allows => restores.decode (allows.mono le)⟩

/-- **The text of a value is read back.** -/
theorem readText_text (restores : codec.Restores maxLevels a b) :
    codec.readText (codec.text a) = .ok b := by
  have allows : (Source.text maxLevels).Allows maxLevels := le_rfl
  have decoded := restores.decode allows
  rw [Codec.readText, Codec.text, Document.ofText_render restores.integral]
  simp only [decoded, bind, Except.bind]
  rfl

/-- Values that are never null may be left out. -/
theorem option (restores : codec.Restores levels a b) (present : codec.encode a ≠ .null) :
    codec.option.Restores levels (some a) (some b) where
  integral := restores.integral
  decode {source} allows := by
    have decoded := restores.decode allows
    show codec.option.decode source (codec.encode a).toNode = _
    cases h : codec.encode a <;> simp_all [Codec.option, toNode, Except.map]

/-- A list is restored item by item. -/
theorem list {as bs : List α} (items : List.Forall₂ (codec.Restores levels) as bs) :
    codec.list.Restores (levels + 1) as bs where
  integral := by
    show AreIntegral (as.map codec.encode)
    induction items with
    | nil => trivial
    | cons restores _ ih => exact ⟨restores.integral, ih⟩
  decode {source} allows := by
    obtain ⟨inner, entered, innerAllows⟩ := allows.enter
    have decoded : codec.decodeItems inner (toNodes (as.map codec.encode)) = .ok bs := by
      induction items with
      | nil => rfl
      | cons restores _ ih =>
          simp only [List.map_cons, toNodes, Codec.decodeItems, restores.decode innerAllows, ih, bind,
            Except.bind]
          rfl
    show codec.list.decode source (.array (toNodes (as.map codec.encode)) .closed) = _
    simp only [Codec.list, entered, decoded, Node.finish, bind, Except.bind]
    rfl

/-- A choice by name is restored if the name finds it. -/
theorem names {name : σ → String} {values : List σ} {other : Option σ} {s : σ}
    (found : values.find? (name · == name s) = some s) :
    (Codec.names name values other).Restores levels s s where
  integral := trivial
  decode {source} _ := by
    have alternative : Choice.find (values.map fun s => .plain (name s) s) other (name s) =
        .ok (.plain (name s) s) := by
      simp only [Choice.find, List.find?_map, Function.comp_def, Alternative.plain, found,
        Option.map_some]
    have chosen : Choice.ofName (values.map fun s => .plain (name s) s) other (name s) = .ok s := by
      simp only [Choice.ofName, alternative, bind, Except.bind]
      rfl
    cases source <;> exact chosen

end Codec.Restores

/-! ## Plain types -/

namespace Codec

variable {levels : Nat}

theorem restores_string (s : String) : Codec.string.Restores levels s s :=
  ⟨trivial, fun _ => rfl⟩

theorem restores_bool (b : Bool) : Codec.bool.Restores levels b b :=
  ⟨trivial, fun _ => rfl⟩

/-- A whole number of 64 bits with sign is read back. -/
theorem restores_signed64 {i : Int} (lower : -(Number.maxNegative : Int) ≤ i)
    (upper : i < Number.maxNegative) : Codec.signed64.Restores levels i i where
  integral := ⟨lower, by simp only [Number.maxNegative, Number.maxNatural] at *; omega⟩
  decode _ := if_pos upper

end Codec

/-! ## Records -/

/-- A field is restored: what is hidden has its value when it is absent, the rest is read back. -/
def Field.Restores (field : Field σ α) (levels : Nat) (s : σ) (b : α) : Prop :=
  if field.hidden (field.get s) then field.absent = some b
  else field.codec.Restores levels (field.get s) b

namespace Field

variable {levels : Nat} {s : σ} {name : String} {codec : Codec α}

theorem restores_required {get : σ → α} {b : α} (restores : codec.Restores levels (get s) b) :
    (Field.required name get codec).Restores levels s b :=
  restores

/-- A field that may be absent is restored, absent or not. -/
theorem restores_optional {get : σ → Option α} {f : α → α}
    (restores : ∀ a ∈ get s, codec.Restores levels a (f a) ∧ codec.encode a ≠ .null) :
    (Field.optional name get codec).Restores levels s ((get s).map f) := by
  unfold Field.Restores Field.optional
  simp only
  cases h : get s with
  | none => rfl
  | some a =>
      obtain ⟨restored, present⟩ := restores a h
      exact restored.option present

end Field

namespace Fields

/-- Every field is restored, to the values of the row. -/
def Restore (levels : Nat) (s : σ) : {ts : List Type} → Fields σ ts → Row ts → Prop
  | _, .nil, _ => True
  | _, .cons field rest, (b, row) => field.Restores levels s b ∧ rest.Restore levels s row

/-- The names of the fields. -/
def names : {ts : List Type} → Fields σ ts → List String
  | _, .nil => []
  | _, .cons field rest => field.name :: rest.names

variable {levels : Nat} {s : σ}

/-- The slots after all written members were taken. -/
def slots (s : σ) : {ts : List Type} → Fields σ ts → Row ts → Slots ts
  | _, .nil, _ => ()
  | _, .cons field rest, (b, row) =>
    (if field.hidden (field.get s) then none else some b, rest.slots s row)

theorem key_mem_names {k : String} {v : Json} {ts : List Type} {fields : Fields σ ts}
    (member : (k, v) ∈ fields.members s) : k ∈ fields.names := by
  induction fields with
  | nil => simp [members] at member
  | cons field rest ih =>
      simp only [members] at member
      split at member
      · exact List.mem_cons_of_mem _ (ih member)
      · rcases List.mem_cons.1 member with h | h
        · cases h
          exact List.mem_cons_self ..
        · exact List.mem_cons_of_mem _ (ih h)

/-- A member of another name goes to the other fields. -/
theorem take_other {ts : List Type} {source : Source} {field : Field σ α} {rest : Fields σ ts}
    {k : String} (other : field.name ≠ k) (node : Node) (slot : Option α) (slots : Slots ts) :
    (Fields.cons field rest).take source k node (slot, slots) =
      (rest.take source k node slots).map fun slots => (slot, slots) := by
  refine (if_neg other).trans ?_
  cases rest.take source k node slots <;> rfl

/-- The first member of a field's name fills its slot. -/
theorem take_own {ts : List Type} {source : Source} {field : Field σ α} {rest : Fields σ ts}
    {node : Node} {a : α} (decoded : field.codec.decode source node = .ok a) (slots : Slots ts) :
    (Fields.cons field rest).take source field.name node (none, slots) = .ok (some a, slots) := by
  refine (if_pos rfl).trans ?_
  simp only [decoded]
  rfl

/-- Members of other names go to the other fields. -/
theorem takeAll_cons_of_ne {ts : List Type} {source : Source} {field : Field σ α}
    {rest : Fields σ ts} {slot : Option α} {ms : List (String × Json)}
    (others : ∀ m ∈ ms, field.name ≠ m.1) (slots : Slots ts) :
    (Fields.cons field rest).takeAll source (toMembers ms) (slot, slots) =
      (rest.takeAll source (toMembers ms) slots).map fun slots => (slot, slots) := by
  induction ms generalizing slots with
  | nil => rfl
  | cons m ms ih =>
      obtain ⟨k, v⟩ := m
      have other : field.name ≠ k := others (k, v) (List.mem_cons_self ..)
      simp only [toMembers, takeAll, take_other other]
      cases rest.take source k v.toNode slots with
      | error e => rfl
      | ok slots => exact ih (fun m member => others m (List.mem_cons_of_mem _ member)) slots

/-- All members that a record is written with go to their fields. -/
theorem takeAll_members {source : Source} (allows : source.Allows levels) {ts : List Type}
    {fields : Fields σ ts} (distinct : fields.names.Nodup) {row : Row ts}
    (restore : fields.Restore levels s row) :
    fields.takeAll source (toMembers (fields.members s)) fields.blank = .ok (fields.slots s row) := by
  induction fields with
  | nil => rfl
  | cons field rest ih =>
      obtain ⟨b, row⟩ := row
      obtain ⟨fresh, distinct⟩ := List.nodup_cons.1 distinct
      obtain ⟨restores, restore⟩ := restore
      have others : ∀ m ∈ rest.members s, field.name ≠ m.1 := by
        rintro ⟨k, v⟩ member rfl
        exact fresh (key_mem_names member)
      have rest_ := ih distinct restore
      unfold Field.Restores at restores
      simp only [members, blank, slots]
      split
      · rw [takeAll_cons_of_ne others, rest_]
        rfl
      · rename_i shown
        rw [if_neg shown] at restores
        simp only [toMembers, takeAll, take_own (restores.decode allows), bind, Except.bind]
        rw [takeAll_cons_of_ne others, rest_]
        rfl

/-- The slots that are still blank are filled. -/
theorem complete_slots {ts : List Type} {fields : Fields σ ts} {row : Row ts}
    (restore : fields.Restore levels s row) : fields.complete (fields.slots s row) = .ok row := by
  induction fields with
  | nil => rfl
  | cons field rest ih =>
      obtain ⟨b, row⟩ := row
      obtain ⟨restores, restore⟩ := restore
      have value : ((if field.hidden (field.get s) then none else some b) <|> field.absent) = some b := by
        unfold Field.Restores at restores
        by_cases hidden : field.hidden (field.get s) = true
        · rw [if_pos hidden] at restores ⊢
          rw [restores]
          rfl
        · rw [if_neg hidden]
          rfl
      simp only [slots, complete, value, ih restore, bind, Except.bind]
      rfl

theorem membersAreIntegral {ts : List Type} {fields : Fields σ ts} {row : Row ts}
    (restore : fields.Restore levels s row) : MembersAreIntegral (fields.members s) := by
  induction fields with
  | nil => trivial
  | cons field rest ih =>
      obtain ⟨b, row⟩ := row
      obtain ⟨restores, restore⟩ := restore
      unfold Field.Restores at restores
      simp only [members]
      split
      · exact ih restore
      · rename_i shown
        rw [if_neg shown] at restores
        exact ⟨restores.integral, ih restore⟩

end Fields

/-- **A record is restored field by field.** -/
theorem Codec.Restores.record {ts : List Type} {owner : String} (fields : Fields σ ts)
    {make : Row ts → σ} {levels : Nat} {s : σ} (row : Row ts) (distinct : fields.names.Nodup)
    (restore : fields.Restore levels s row) :
    (Codec.record owner fields make).Restores (levels + 1) s (make row) where
  integral := Fields.membersAreIntegral restore
  decode {source} allows := by
    obtain ⟨inner, entered, innerAllows⟩ := allows.enter
    show (Codec.record owner fields make).decode source
      (.object (toMembers (fields.members s)) .closed) = _
    simp only [Codec.record, entered, Fields.takeAll_members innerAllows distinct restore,
      Fields.complete_slots restore, Node.finish, bind, Except.bind]
    rfl

end Exclusion.Json
