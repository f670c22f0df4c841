/-
# Exclusion.Config.Toml -- configurations from TOML documents

Settings that are not given have their usual value, settings that nobody knows are passed over.  A group
of settings may also be an array that lists them in order.
-/
import Exclusion.Config.Basic
import Exclusion.Toml.Document

namespace Exclusion

set_option autoImplicit false

open Exclusion.Toml

/-- Why a text is no configuration. -/
inductive ConfigError where
  /-- It is no TOML document, or gives a setting the wrong kind of value. -/
  | undecodable
  | flawed (flaw : ConfigFlaw)
  deriving DecidableEq, Repr

/-! ## Settings -/

def textSetting? : Item → Option String
  | .string s => some s
  | _ => none

def flagSetting? : Item → Option Bool
  | .boolean b => some b
  | _ => none

def countSetting? : Item → Option Nat
  | .integer (.ofNat n) => some n
  | _ => none

/-- Nothing, in the form of an empty array or table. -/
def isNothing : Item → Bool
  | .array [] | .table _ [] => true
  | _ => false

/-- An environment: its name, or a table with no other entry than nothing under the name. -/
def environmentSetting? (item : Item) : Option Environment :=
  match item with
  | .string s => named s
  | .table _ [(name, value)] => if isNothing value then named name else none
  | _ => none
where
  named (name : String) : Option Environment :=
    [Environment.dev, Environment.prod].find? (·.name == name)

/-! ## Groups of settings -/

/-- How a setting of a group is taken from an item. -/
structure Setting (σ : Type) where
  name : String
  take? : Item → σ → Option σ

/-- The setting that a field of the group holds. -/
def Setting.of {σ α : Type} (name : String) (read? : Item → Option α) (put : α → σ → σ) :
    Setting σ where
  name := name
  take? item s := (read? item).map (put · s)

/-- A group from the entries of a table. -/
def groupOfEntries? {σ : Type} (settings : List (Setting σ)) (start : σ) (entries : Entries) :
    Option σ :=
  entries.foldlM
    (fun s (key, item) =>
      match settings.find? (·.name == key) with
      | some setting => setting.take? item s
      | none => some s)
    start

/-- A group from the items of an array, in the order of the settings.  Further items are passed
over. -/
def groupOfItems? {σ : Type} (settings : List (Setting σ)) (start : σ) (items : List Item) :
    Option σ :=
  (settings.zip items).foldlM (fun s (setting, item) => setting.take? item s) start

/-- A group.  A date in the place of a group sets nothing. -/
def group? {σ : Type} (settings : List (Setting σ)) (start : σ) : Item → Option σ
  | .table _ entries => groupOfEntries? settings start entries
  | .array items => groupOfItems? settings start items
  | .tables items => groupOfItems? settings start (items.map (.table {}))
  | .moment => some start
  | _ => none

def SweepConfig.settings : List (Setting SweepConfig) := [
  .of "enabled" flagSetting? fun enabled s => { s with enabled },
  .of "window_seconds" countSetting? fun windowSeconds s => { s with windowSeconds },
  .of "interval_seconds" countSetting? fun intervalSeconds s => { s with intervalSeconds }]

def AuditConfig.settings : List (Setting AuditConfig) := [
  .of "max_entries" countSetting? fun maxEntries s => { s with maxEntries }]

namespace Config

def settings : List (Setting Config) := [
  .of "environment" environmentSetting? fun environment s => { s with environment },
  .of "namespace" textSetting? fun space s => { s with space },
  .of "artifact_url" textSetting? fun url s => { s with artifactUrl := some url },
  .of "scheduler" (group? SweepConfig.settings {}) fun sweep s => { s with sweep },
  .of "audit" (group? AuditConfig.settings {}) fun audit s => { s with audit }]

/-- The configuration that a text gives, flaws or not. -/
def decodeToml? (text : String) : Option Config := do
  groupOfEntries? settings {} (← document? text)

/-- The configuration that a text gives, without flaws. -/
def ofToml (text : String) : Except ConfigError Config :=
  match decodeToml? text with
  | none => .error .undecodable
  | some config =>
    match config.flaw? with
    | none => .ok config
    | some flaw => .error (.flawed flaw)

end Config

end Exclusion
