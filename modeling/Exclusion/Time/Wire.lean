/-
# Exclusion.Time.Wire -- instants in JSON

Stored instants are whole numbers of milliseconds; reports give instants as texts.
-/
import Exclusion.Json.Codec
import Exclusion.Time.Rfc3339

namespace Exclusion.Instant

set_option autoImplicit false

open Exclusion.Json

/-- Instants as milliseconds since 1970; what is left of a millisecond is not written. -/
def millisCodec : Codec Instant where
  encode t := .int t.millis
  decode _
    | .number (some (.int ms)) =>
      match ofMillis? ms with
      | some t => .ok t
      | none => mismatched (.illegalTimestamp ms)
    | node => node.wrongType "a unix timestamp in milliseconds"

def textCodec : Codec Instant where
  encode t := .string t.render
  decode _
    | .string (some s) =>
      match parse? s with
      | some t => .ok t
      | none => mismatched .illegalDate
    | node => node.wrongType "an RFC 3339 formatted date and time string"

end Exclusion.Instant
