/-
# Exclusion.Config.Basic -- the configuration of a workspace

Every setting has a usual value.  `Config.flaw?` says what makes a configuration useless.  The window
of the sweep is given in seconds, more than a span of time can have among them; then there is no
window (`SweepConfig.window?`).
-/
import Exclusion.Environment
import Exclusion.Json.Record
import Exclusion.Rule.Transition

namespace Exclusion

set_option autoImplicit false

open Exclusion.Json

/-- How rules that start or end are looked for. -/
structure SweepConfig where
  enabled : Bool := true
  windowSeconds : Nat := 90
  intervalSeconds : Nat := 60
  deriving DecidableEq, Repr

namespace SweepConfig

/-- The window around now, if a span of time can be so long. -/
def window? (config : SweepConfig) : Option Span :=
  Span.ofSeconds? config.windowSeconds

def fields : Fields SweepConfig [Bool, Nat, Nat] :=
  .cons (.default "enabled" enabled .bool true) <|
  .cons (.default "window_seconds" windowSeconds .unsigned64 90) <|
  .cons (.default "interval_seconds" intervalSeconds .unsigned64 60) .nil

def codec : Codec SweepConfig :=
  .record "struct SchedulerConfig" fields fun (enabled, windowSeconds, intervalSeconds, ()) =>
    { enabled, windowSeconds, intervalSeconds }

end SweepConfig

/-- How the audit log is kept. -/
structure AuditConfig where
  maxEntries : Nat := 30
  deriving DecidableEq, Repr

namespace AuditConfig

def fields : Fields AuditConfig [Nat] :=
  .cons (.default "max_entries" maxEntries .size 30) .nil

def codec : Codec AuditConfig :=
  .record "struct AuditConfig" fields fun (maxEntries, ()) => { maxEntries }

end AuditConfig

structure Config where
  environment : Environment := .standard
  /-- The namespace of all keys in the store. -/
  space : String := "adex"
  /-- The address under which the artifact is cached; nothing is purged without one. -/
  artifactUrl : Option String := none
  sweep : SweepConfig := {}
  audit : AuditConfig := {}
  deriving DecidableEq, Repr

/-- What makes a configuration useless. -/
inductive ConfigFlaw where
  | blankSpace
  | zeroInterval
  | zeroEntries
  deriving DecidableEq, Repr

def ConfigFlaw.message : ConfigFlaw → String
  | blankSpace => "namespace must not be empty"
  | zeroInterval => "scheduler.interval_seconds must be at least 1"
  | zeroEntries => "audit.max_entries must be at least 1"

namespace Config

/-- The first flaw of a configuration. -/
def flaw? (config : Config) : Option ConfigFlaw :=
  if Text.isBlankText config.space then some .blankSpace
  else if config.sweep.intervalSeconds = 0 then some .zeroInterval
  else if config.audit.maxEntries = 0 then some .zeroEntries
  else none

/-- The parts of a configuration in their order.  An address that is not set is written as null. -/
def fields : Fields Config [Environment, String, Option String, SweepConfig, AuditConfig] :=
  .cons (.default "environment" environment Environment.codec .standard) <|
  .cons (.default "namespace" space .string "adex") <|
  .cons (.default "artifact_url" artifactUrl Codec.string.option none) <|
  .cons (.default "scheduler" sweep SweepConfig.codec {}) <|
  .cons (.default "audit" audit AuditConfig.codec {}) .nil

def codec : Codec Config :=
  .record "struct PublisherConfig" fields fun (environment, space, artifactUrl, sweep, audit, ()) =>
    { environment, space, artifactUrl, sweep, audit }

end Config

end Exclusion
