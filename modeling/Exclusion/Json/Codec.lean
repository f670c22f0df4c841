/-
# Exclusion.Json.Codec -- types that are written as JSON

A `Codec` writes values of a type as JSON and reads them back, from a text (`Codec.readText`) or from
a JSON value (`Codec.readValue`).  This module has the codecs of the plain types; records, choices
and tagged unions have modules of their own.
-/
import Exclusion.Json.Decode

namespace Exclusion.Json

set_option autoImplicit false

/-- Makes a value of a type of what stands at a node. -/
abbrev Decoder (α : Type) : Type :=
  Source → Node → Except DecodeError α

/-- How values of a type are written and read. -/
structure Codec (α : Type) where
  encode : α → Json
  decode : Decoder α

namespace Codec

variable {α β : Type}

/-- The compact JSON text of a value. -/
def text (codec : Codec α) (a : α) : String :=
  (codec.encode a).render

/-- Reads a text, all of it. -/
def readText (codec : Codec α) (text : String) : Except DecodeError α := do
  let document := Document.ofText text
  let a ← codec.decode (.text maxLevels) document.root
  if document.trailing then stopped .malformed else return a

def readValue (codec : Codec α) (v : Json) : Except DecodeError α :=
  codec.decode .value v.toNode

/-! ## Plain types -/

def json : Codec Json where
  encode := id
  decode source node := node.toJson source

def string : Codec String where
  encode := .string
  decode _
    | .string (some s) => .ok s
    | node => node.wrongType "a string"

def bool : Codec Bool where
  encode := .bool
  decode _
    | .bool b => .ok b
    | node => node.wrongType "a boolean"

/-- Whole numbers from zero on; `name` is how the expected type is called. -/
def natural (name : String) : Codec Nat where
  encode n := .int n
  decode _
    | .number (some (.int (.ofNat n))) => .ok n
    | .number (some (.int (.negSucc n))) =>
      mismatched (.wrongValue (.number (.int (.negSucc n))) name)
    | node => node.wrongType name

def size : Codec Nat :=
  natural "usize"

/-- Whole numbers of 64 bits without sign. -/
def unsigned64 : Codec Nat :=
  natural "u64"

/-- Whole numbers of 64 bits with sign. -/
def signed64 : Codec Int where
  encode := .int
  decode _
    | .number (some (.int i)) =>
      if i < Number.maxNegative then .ok i else mismatched (.wrongValue (.number (.int i)) "i64")
    | node => node.wrongType "i64"

/-- Nothing, written as null.  A part that was set aside may also be an empty object. -/
def unit : Decoder Unit
  | _, .null => .ok ()
  | .setAside, .object [] .closed => .ok ()
  | _, node => node.wrongType "unit"

def option (codec : Codec α) : Codec (Option α) where
  encode
    | some a => codec.encode a
    | none => .null
  decode source
    | .null => .ok none
    | node => (codec.decode source node).map some

def decodeItems (codec : Codec α) (source : Source) : List Node → Except DecodeError (List α)
  | [] => .ok []
  | item :: rest => do
    let a ← codec.decode source item
    let as ← decodeItems codec source rest
    return a :: as

def list (codec : Codec α) : Codec (List α) where
  encode as := .array (as.map codec.encode)
  decode source
    | .array items ending => do
      let as ← codec.decodeItems (← source.enter) items
      Node.finish ending
      return as
    | node => node.wrongType "a sequence"

end Codec

end Exclusion.Json
