/-
# Exclusion.Json.Record -- records written as objects

A record is written as an object with one member per field, in the order of declaration.  It is read
from an object, whose other members are passed over, or from an array that lists the fields in order.
A field may have a value for when it is absent, and may be left out when it is written.
-/
import Exclusion.Json.Codec

namespace Exclusion.Json

set_option autoImplicit false

variable {σ α : Type}

/-- A field of type `α` of the records `σ`. -/
structure Field (σ α : Type) where
  name : String
  get : σ → α
  codec : Codec α
  /-- The value when the object has no such member. -/
  absent : Option α := none
  /-- The value when the array is too short. -/
  absentItem : Option α := absent
  /-- Values that are not written. -/
  hidden : α → Bool := fun _ => false

/-- The fields of the records `σ`, with the list of their types. -/
inductive Fields (σ : Type) : List Type → Type 1 where
  | nil : Fields σ []
  | cons {α : Type} {ts : List Type} (field : Field σ α) (rest : Fields σ ts) : Fields σ (α :: ts)

/-- One value for each type of the list. -/
def Row : List Type → Type
  | [] => Unit
  | α :: ts => α × Row ts

/-- For each type of the list a value, or none yet. -/
def Slots : List Type → Type
  | [] => Unit
  | α :: ts => Option α × Slots ts

/-- How many elements, in words. -/
def elementCount (n : Nat) : String :=
  Number.renderInt n ++ (if n = 1 then " element" else " elements")

namespace Fields

variable {ts : List Type}

def count : {ts : List Type} → Fields σ ts → Nat
  | _, .nil => 0
  | _, .cons _ rest => rest.count + 1

/-- No field has a value yet. -/
def blank : {ts : List Type} → Fields σ ts → Slots ts
  | _, .nil => ()
  | _, .cons _ rest => (none, rest.blank)

def row : {ts : List Type} → Fields σ ts → σ → Row ts
  | _, .nil, _ => ()
  | _, .cons field rest, s => (field.get s, rest.row s)

/-- The members that a record is written with. -/
def members : {ts : List Type} → Fields σ ts → σ → List (String × Json)
  | _, .nil, _ => []
  | _, .cons field rest, s =>
    let a := field.get s
    if field.hidden a then rest.members s else (field.name, field.codec.encode a) :: rest.members s

/-- Takes a member into the slot of its field.  A second member of that name is refused before its
value is looked at; a member of no field is passed over. -/
def take (source : Source) (key : String) (node : Node) :
    {ts : List Type} → Fields σ ts → Slots ts → Except DecodeError (Slots ts)
  | _, .nil, slots => do
    node.skip
    return slots
  | _, .cons field rest, (slot, slots) =>
    if field.name = key then
      match slot with
      | some _ => mismatched (.duplicateField key)
      | none => do
        let a ← field.codec.decode source node
        return (some a, slots)
    else do
      let slots ← rest.take source key node slots
      return (slot, slots)

def takeAll (fields : Fields σ ts) (source : Source) :
    List (Option String × Node) → Slots ts → Except DecodeError (Slots ts)
  | [], slots => .ok slots
  | (none, _) :: _, _ => stopped .malformed
  | (some key, node) :: rest, slots => do
    let slots ← fields.take source key node slots
    takeAll fields source rest slots

def complete : {ts : List Type} → Fields σ ts → Slots ts → Except DecodeError (Row ts)
  | _, .nil, _ => .ok ()
  | _, .cons field rest, (slot, slots) =>
    match slot <|> field.absent with
    | some a => do
      let row ← rest.complete slots
      return (a, row)
    | none => mismatched (.missingField field.name)

/-- Takes the items of an array in the order of the fields, with the items that are left.  `index` is
the number of fields before these; `owner` describes the record. -/
def takeItems (source : Source) (owner : String) (ending : Ending) :
    {ts : List Type} → Fields σ ts → Nat → List Node → Except DecodeError (Row ts × List Node)
  | _, .nil, _, items => .ok ((), items)
  | _, .cons field rest, index, item :: items => do
    let a ← field.codec.decode source item
    let (row, left) ← rest.takeItems source owner ending (index + 1) items
    return ((a, row), left)
  | _, .cons field rest, index, [] => do
    Node.finish ending
    match field.absentItem with
    | some a => do
      let (row, left) ← rest.takeItems source owner ending (index + 1) []
      return ((a, row), left)
    | none => mismatched (.wrongLength index owner)

end Fields

/-- The end of an array whose first items were the fields of a record.  How superfluous items are
refused depends on the source. -/
def finishItems (source : Source) (fieldCount : Nat) (left : List Node) (ending : Ending) :
    Except DecodeError Unit :=
  match source with
  | .text _ => Node.finishEarly left.length ending
  | .value =>
    if left.isEmpty then .ok ()
    else mismatched (.wrongLength (fieldCount + left.length) "fewer elements in array")
  | .setAside =>
    if left.isEmpty then .ok ()
    else
      mismatched (.wrongLength (fieldCount + left.length) (elementCount fieldCount ++ " in sequence"))

/-- Records with these fields; `owner` is how a value of the type is called. -/
def Codec.record {ts : List Type} (owner : String) (fields : Fields σ ts) (make : Row ts → σ) :
    Codec σ where
  encode s := .object (fields.members s)
  decode source
    | .object members ending => do
      let slots ← fields.takeAll (← source.enter) members fields.blank
      Node.finish ending
      return make (← fields.complete slots)
    | .array items ending => do
      let described := owner ++ " with " ++ elementCount fields.count
      let (row, left) ← fields.takeItems (← source.enter) described ending 0 items
      finishItems source fields.count left ending
      return make row
    | node => node.wrongType owner

/-! ## Kinds of field -/

/-- A field that must be there. -/
def Field.required (name : String) (get : σ → α) (codec : Codec α) : Field σ α :=
  { name, get, codec }

/-- A field that is `value` when it is absent. -/
def Field.default (name : String) (get : σ → α) (codec : Codec α) (value : α) : Field σ α :=
  { name, get, codec, absent := some value }

/-- A field that may be absent and is written only if it has a value. -/
def Field.optional (name : String) (get : σ → Option α) (codec : Codec α) : Field σ (Option α) :=
  { name, get, codec := codec.option, absent := some none, hidden := Option.isNone }

end Exclusion.Json
