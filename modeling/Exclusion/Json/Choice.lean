/-
# Exclusion.Json.Choice -- choices written by name

A choice among named alternatives is written as the name of the alternative, or, if the alternative
holds a value, as an object with the name as its only key.  A name alone may also be read from an
object that gives it null.
-/
import Exclusion.Json.Codec

namespace Exclusion.Json

set_option autoImplicit false

variable {σ α : Type}

/-- An alternative of a choice. -/
structure Alternative (σ : Type) where
  name : String
  /-- The choice that the name alone stands for. -/
  bare : Option σ
  /-- Makes the choice of what the object holds under the name. -/
  held : Decoder σ

def Alternative.plain (name : String) (value : σ) : Alternative σ where
  name := name
  bare := some value
  held source node := (Codec.unit source node).map fun _ => value

def Alternative.holding (name : String) (codec : Codec α) (make : α → σ) : Alternative σ where
  name := name
  bare := none
  held source node := (codec.decode source node).map make

namespace Choice

/-- The alternative with this name; one that is not listed stands for `other` if there is one. -/
def find (alternatives : List (Alternative σ)) (other : Option σ) (name : String) :
    Except DecodeError (Alternative σ) :=
  match alternatives.find? (·.name == name), other with
  | some alternative, _ => .ok alternative
  | none, some value => .ok (.plain name value)
  | none, none => mismatched (.unknownVariant name (alternatives.map (·.name)))

def ofName (alternatives : List (Alternative σ)) (other : Option σ) (name : String) :
    Except DecodeError σ := do
  let alternative ← find alternatives other name
  match alternative.bare with
  | some value => return value
  | none => mismatched (.wrongType .unitVariant "newtype variant")

/-- A choice in a text.  Only a quote or a brace can begin it, and after the brace only a quote. -/
def decodeText (alternatives : List (Alternative σ)) (other : Option σ) (levels : Nat) :
    Node → Except DecodeError σ
  | .string (some name) => ofName alternatives other name
  | .object members ending => do
    let source ← (Source.text levels).enter
    match members, ending with
    | [], .severed fault _ => stopped fault.reading
    | [], .closed => stopped .malformed
    | (none, _) :: _, _ => stopped .malformed
    | (some name, node) :: left, ending => do
      let alternative ← find alternatives other name
      let value ← alternative.held source node
      Node.finishEarly left.length ending
      return value
  | .broken fault => stopped fault.naming
  | _ => stopped .malformed

/-- A choice in a value or in a part that was set aside. -/
def decodeValue (alternatives : List (Alternative σ)) (other : Option σ) (source : Source) :
    Node → Except DecodeError σ
  | .string (some name) => ofName alternatives other name
  | .object [(some name, node)] _ => do
    let alternative ← find alternatives other name
    alternative.held source node
  | .object _ _ => mismatched (.wrongValue .map "map with a single key")
  | node => node.wrongType "string or map"

end Choice

/-- Choices among these alternatives; `other` is what any other name stands for. -/
def Codec.choice (encode : σ → Json) (alternatives : List (Alternative σ)) (other : Option σ) :
    Codec σ where
  encode := encode
  decode
    | .text levels, node => Choice.decodeText alternatives other levels node
    | source, node => Choice.decodeValue alternatives other source node

def Codec.names (name : σ → String) (values : List σ) (other : Option σ) : Codec σ :=
  .choice (fun s => .string (name s)) (values.map fun s => .plain (name s) s) other

end Exclusion.Json
