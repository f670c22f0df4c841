/-
# Exclusion.CommandLine.Dialogue -- what a command does to files, as data

A dialogue ends with a result, or asks for a file to be read or written and goes on with what came of
it.  The program's outer layer carries dialogues out.
-/
namespace Exclusion.CommandLine

set_option autoImplicit false

/-- Why a file cannot be read or written. -/
inductive FileError where
  | notFound
  | notDirectory
  | isDirectory
  | nameTooLong
  | other (message : String)
  deriving DecidableEq, Repr

def FileError.message : FileError → String
  | notFound => "No such file or directory (os error 2)"
  | notDirectory => "Not a directory (os error 20)"
  | isDirectory => "Is a directory (os error 21)"
  | nameTooLong => "File name too long (os error 36)"
  | other message => message

/-- A program that reads and writes files. -/
inductive Dialogue (α : Type) where
  | done (a : α)
  | read (path : String) (next : Except FileError String → Dialogue α)
  | write (path text : String) (next : Except FileError Unit → Dialogue α)

namespace Dialogue

variable {α β : Type}

def andThen (next : α → Dialogue β) : Dialogue α → Dialogue β
  | done a => next a
  | read path reply => read path fun text => (reply text).andThen next
  | write path text reply => write path text fun result => (reply result).andThen next

instance : Monad Dialogue where
  pure := done
  bind dialogue next := dialogue.andThen next

/-- Carries out a dialogue with given means of reading and writing. -/
def carryOut {m : Type → Type} [Monad m] (reading : String → m (Except FileError String))
    (writing : String → String → m (Except FileError Unit)) : Dialogue α → m α
  | done a => pure a
  | read path next => do carryOut reading writing (next (← reading path))
  | write path text next => do carryOut reading writing (next (← writing path text))

end Dialogue

end Exclusion.CommandLine
