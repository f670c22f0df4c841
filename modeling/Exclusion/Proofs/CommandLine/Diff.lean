/-
# Exclusion.Proofs.CommandLine.Diff -- compiling rules, reading them back, and announcing them

A command is a dialogue about files.  With files that stay as they are, a dialogue comes to one result
(`Dialogue.given`), and one step after another comes to what the steps come to (`Task.given_bind`).

`diff --publish` counts the active rules without compiling anything.  It announces the number that the
script has (`diff_published`); with that, all that compiling tells of the rules that it was given is in
`compile_reads_back`.
-/
import Exclusion.CommandLine.Run
import Exclusion.Proofs.Script.Reading

namespace Exclusion.CommandLine

set_option autoImplicit false

open Exclusion.Json

/-! ## Dialogues about files that stay as they are -/

/-- What a dialogue comes to if the files are these, and none of them can be written. -/
def Dialogue.given {α : Type} (files : String → Except FileError String) (dialogue : Dialogue α) : α :=
  dialogue.carryOut (m := Id) files fun _ _ => .error (.other "read-only file system")

/-- What a task comes to if the files are these. -/
def Task.given {α : Type} (files : String → Except FileError String) (task : Task α) :
    Except CommandError α :=
  Dialogue.given files task.run

variable {α β : Type} {files : String → Except FileError String}

theorem Dialogue.given_andThen (dialogue : Dialogue α) (next : α → Dialogue β) :
    (dialogue.andThen next).given files = (next (dialogue.given files)).given files := by
  induction dialogue with
  | done a => rfl
  | read path reply ih => exact ih (files path)
  | write path text reply ih => exact ih (.error (.other "read-only file system"))

/-- After a task that succeeds, the next one goes on with its result. -/
theorem Task.given_bind {task : Task α} {a : α} (done : task.given files = .ok a)
    (next : α → Task β) : (task >>= next).given files = (next a).given files := by
  show Dialogue.given files (Dialogue.andThen _ task.run) = _
  rw [Dialogue.given_andThen]
  unfold Task.given at done
  rw [done]
  rfl

/-! ## Announcing a publication -/

/-- What is printed of a change. -/
def changeText (format : Format) (change : Change) : String :=
  match format with
  | .json => prettyLine (.ofMembers [
      ("action", .string change.action.name),
      ("details", .string change.details),
      ("rule_id", Codec.string.option.encode change.ruleId)])
  | .text => change.action.name ++ ": " ++ change.details ++ "\n"

/-- `diff --publish` announces the number of active rules among the new ones. -/
theorem diff_published {old new : String} {before book : RuleBook}
    (oldRead : (readBook old).given files = .ok before)
    (newRead : (readBook new).given files = .ok book) (config : Config) (format : Format) :
    (diff old new true config format).given files =
      .ok (changeText format (.published config.environment (activeRules book.rules).length)) := by
  unfold diff
  rw [Task.given_bind oldRead, Task.given_bind newRead]
  cases format <;> rfl

/-- **Compiling and reading back are inverse.**  Whatever the rules are, their script carries the
published forms of the active ones in their order, and it is the placeholder exactly if there are none.
It says how many they are, which is the number that `diff --publish` announces of a file with these
rules, whatever they are compared with. -/
theorem compile_reads_back (rules : List Rule) (generatedAt : Instant) :
    Script.readPayload (Script.compile rules generatedAt).source =
      .ok ((activeRules rules).map .ofRule) ∧
    (Script.compile rules generatedAt).ruleCount =
      ((activeRules rules).map PublishedRule.ofRule).length ∧
    (∀ files old new before book config format,
      (readBook old).given files = .ok before → (readBook new).given files = .ok book →
      book.rules = rules →
      (diff old new true config format).given files = .ok (changeText format
        (.published config.environment (Script.compile rules generatedAt).ruleCount))) ∧
    ((Script.compile rules generatedAt).isPlaceholder = true ↔
      (activeRules rules).map PublishedRule.ofRule = []) ∧
    ((activeRules rules).map PublishedRule.ofRule = [] →
      (Script.compile rules generatedAt).source = Script.placeholder) := by
  refine ⟨Script.readPayload_compile rules generatedAt, ?_, ?_, ?_, ?_⟩
  · rw [Script.ruleCount_compile, List.length_map]
  · rintro files old new before book config format oldRead newRead rfl
    rw [diff_published oldRead newRead, Script.ruleCount_compile]
  · rw [Script.Compiled.isPlaceholder, Script.isPlaceholder_compile, List.isEmpty_iff, payload]
  · intro idle
    rw [Script.compile_of_payload_eq_nil idle]

/-- A file with one rule, and none of what may be left out. -/
def ruleFile : String :=
  "[\x7b\"id\":\"r\",\"name\":\"a\",\"conditions\":[],\"targetElementSelector\":\"b\",\"isActive\":true\x7d]"

/-- The rule in the file. -/
def filedRule : Rule :=
  { Rule.new "r" "a" "b" .epoch with respectsAds := false }

theorem compile_reads_back_filedRule :
    (readBook "rules.json").given (fun _ => .ok ruleFile) = .ok { rules := [filedRule] } ∧
      (diff "rules.json" "rules.json" true {} .text).given (fun _ => .ok ruleFile) =
        .ok (changeText .text
          (.published .prod (Script.compile [filedRule] .epoch).ruleCount)) := by
  have read : (readBook "rules.json").given (fun _ => .ok ruleFile) =
      .ok { rules := [filedRule] } := by
    decide +kernel
  exact ⟨read,
    (compile_reads_back [filedRule] .epoch).2.2.1 _ _ _ _ _ {} .text read read rfl⟩

end Exclusion.CommandLine
