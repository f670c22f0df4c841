/-
# Exclusion.Json.Tagged -- unions with a tag among their members

A union is written as an object that names the case under a tag and has the fields of that case
beside it.  The tag may stand anywhere, so the other members are set aside until the whole object has
been read.  An array names the case first.
-/
import Exclusion.Json.Record

namespace Exclusion.Json

set_option autoImplicit false

variable {σ : Type}

structure Case (σ : Type) where
  name : String
  decode : Decoder σ

/-- A case without fields; members are passed over, items refused. -/
def Case.plain (name : String) (value : σ) : Case σ where
  name := name
  decode _
    | .array [] _ => .ok value
    | .array items _ => mismatched (.wrongLength items.length (elementCount 0 ++ " in sequence"))
    | _ => .ok value

/-- A case with the fields of a record. -/
def Case.fields {α : Type} (name : String) (codec : Codec α) (make : α → σ) : Case σ where
  name := name
  decode source node := (codec.decode source node).map make

namespace Tagged

/-- The case that a tag names.  In a part that was set aside the number of the case will do. -/
def caseOf (cases : List (Case σ)) (source : Source) (node : Node) :
    Except DecodeError (Case σ) :=
  match source, node with
  | _, .string (some name) =>
    match cases.find? (·.name == name) with
    | some c => .ok c
    | none => mismatched (.unknownVariant name (cases.map (·.name)))
  | .setAside, .number (some (.int (.ofNat index))) =>
    match cases[index]? with
    | some c => .ok c
    | none =>
      mismatched (.wrongValue (.number (.int index))
        ("variant index 0 <= i < " ++ Number.renderInt cases.length))
  | _, node => node.wrongType "variant identifier"

/-- Reads the members: the case, and the members to be set aside, newest first. -/
def gather (cases : List (Case σ)) (tag : String) (source : Source) :
    List (Option String × Node) → Option (Case σ) → List (Option String × Node) →
      Except DecodeError (Option (Case σ) × List (Option String × Node))
  | [], found, aside => .ok (found, aside)
  | (none, _) :: _, _, _ => stopped .malformed
  | (some key, node) :: rest, found, aside =>
    if key = tag then
      match found with
      | some _ => mismatched (.duplicateField tag)
      | none => do
        let c ← caseOf cases source node
        gather cases tag source rest (some c) aside
    else do
      discard <| node.toJson source
      gather cases tag source rest found ((some key, node) :: aside)

def decode (owner tag : String) (cases : List (Case σ)) (source : Source) :
    Node → Except DecodeError σ
  | .object members ending => do
    let (found, aside) ← gather cases tag (← source.enter) members none []
    Node.finish ending
    match found with
    | some c => c.decode .setAside (.object aside.reverse .closed)
    | none => mismatched (.missingField tag)
  | .array [] ending => do
    discard source.enter
    Node.finish ending
    mismatched (.missingField tag)
  | .array (first :: rest) ending => do
    let source ← source.enter
    let c ← caseOf cases source first
    discard <| Node.toJsons source rest
    Node.finish ending
    c.decode .setAside (.array rest .closed)
  | node => node.wrongType ("internally tagged enum " ++ owner)

end Tagged

/-- Unions of these cases, named under `tag`. -/
def Codec.tagged (owner tag : String) (encode : σ → Json) (cases : List (Case σ)) : Codec σ where
  encode := encode
  decode := Tagged.decode owner tag cases

end Exclusion.Json
