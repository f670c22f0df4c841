/-
# Exclusion.Main -- the program

Reads and writes files, takes the time and fresh identifiers from the system, and prints.  All else is
decided by `CommandLine.program`.
-/
import Exclusion.CommandLine.Run
import Std.Time.DateTime.Timestamp

namespace Exclusion.CommandLine

set_option autoImplicit false

/-- The cause that the number of an error stands for. -/
def FileError.ofCode (code : UInt32) (details : String) : FileError :=
  if code = 2 then .notFound
  else if code = 20 then .notDirectory
  else if code = 21 then .isDirectory
  else if code = 36 then .nameTooLong
  else .other (details ++ " (os error " ++ toString code ++ ")")

/-- The cause of an error of the file system. -/
def FileError.ofSystem : IO.Error → FileError
  | .noFileOrDirectory _ code details => .ofCode code details
  | .inappropriateType _ code details | .invalidArgument _ code details
  | .permissionDenied _ code details | .resourceExhausted _ code details
  | .alreadyExists _ code details | .noSuchThing _ code details => .ofCode code details
  | .resourceBusy code details | .hardwareFault code details | .otherError code details =>
    .ofCode code details
  | cause => .other (toString cause)

/-- The result of a call of the file system. -/
def attempt {α : Type} (call : IO α) : IO (Except FileError α) := do
  match ← call.toBaseIO with
  | .ok a => return .ok a
  | .error cause => return .error (.ofSystem cause)

def currentInstant : IO Instant := do
  let timestamp ← Std.Time.Timestamp.now
  let nanos := timestamp.toNanosecondsSinceUnixEpoch.val
  return (Instant.make? (nanos / 1000000000) (nanos % 1000000000).toNat).getD .epoch

/-- A random identifier of 128 bits, in groups of hexadecimal digits. -/
def randomId : IO String := do
  let bytes ← IO.getRandomBytes 16
  let digits := bytes.toList.flatMap fun b =>
    [Nat.digitChar (b.toNat / 16), Nat.digitChar (b.toNat % 16)]
  let group (start length : Nat) : String := .ofList ((digits.drop start).take length)
  return "-".intercalate
    [group 0 8, group 8 4, "4" ++ group 13 3, "a" ++ group 17 3, group 20 12]

/-- Sweeps at intervals and prints what is reported, until the program is stopped. -/
partial def watch (scheduler : Scheduler) (world : World) (format : Format) : IO Unit := do
  let (result, scheduler, world) := scheduler.tick (← currentInstant) world
  match result with
  | .ok report => IO.print (reportText format report)
  | .error (.error cause) => IO.eprintln ("error running sweep: " ++ workspaceMessage cause)
  | .error .endlessWindow => throw (IO.userError endlessWindowMessage)
  IO.sleep (.ofNat scheduler.interval)
  watch scheduler world format

end Exclusion.CommandLine

open Exclusion.CommandLine in
def main (words : List String) : IO UInt32 := do
  let now ← currentInstant
  let stamp := {
    snapshotId := ← randomId
    entryId := ← randomId
    compiledAt := now
    recordedAt := now }
  let dialogue := program words (← IO.getEnv "ADEX_CONFIG") { now, stamp, duration := 0 }
  let ending ← dialogue.carryOut
    (fun path => attempt (IO.FS.readFile path))
    (fun path text => attempt (IO.FS.writeFile path text))
  match ending with
  | .exit code output errors =>
    IO.print output
    IO.eprint errors
    return .ofNat code
  | .watch scheduler world format =>
    watch scheduler world format
    return 0
