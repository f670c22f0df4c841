/-
# Exclusion.Store.Key -- what is stored under which name

A key has a namespace, a kind and an id.  The store knows it by its text, the three parts with colons
between them.
-/
import Exclusion.Environment
import Exclusion.Json.Record

namespace Exclusion

set_option autoImplicit false

open Exclusion.Json

inductive KeyKind where
  | rules
  | auditLog
  | snapshot
  | custom (name : String)
  deriving DecidableEq, Repr

namespace KeyKind

/-- The name of a kind in the text of a key. -/
def name : KeyKind → String
  | rules => "rules"
  | auditLog => "audit_log"
  | snapshot => "snapshot"
  | custom name => name

def encode : KeyKind → Json
  | custom name => .object [("custom", .string name)]
  | kind => .string kind.name

/-- Kinds by name; other kinds say that they are. -/
def codec : Codec KeyKind :=
  .choice encode
    [.plain "rules" rules, .plain "audit_log" auditLog, .plain "snapshot" snapshot,
      .holding "custom" Codec.string custom]
    none

end KeyKind

/-- A key of the store. -/
structure StoreKey where
  space : String
  kind : KeyKind
  id : String
  deriving DecidableEq, Repr

namespace StoreKey

def rules (space : String) (environment : Environment) : StoreKey :=
  ⟨space, .rules, environment.rulesId⟩

def auditLog (space : String) (environment : Environment) : StoreKey :=
  ⟨space, .auditLog, environment.name⟩

def snapshot (space id : String) : StoreKey :=
  ⟨space, .snapshot, id⟩

def text (key : StoreKey) : String :=
  key.space ++ ":" ++ key.kind.name ++ ":" ++ key.id

def fields : Fields StoreKey [String, KeyKind, String] :=
  .cons (.required "namespace" space .string) <|
  .cons (.required "kind" kind KeyKind.codec) <|
  .cons (.required "id" id .string) .nil

def codec : Codec StoreKey :=
  .record "struct StateKey" fields fun (space, kind, id, ()) => { space, kind, id }

end StoreKey

end Exclusion
