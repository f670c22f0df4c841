/-
# Exclusion.Toml.Statement -- the lines of a TOML document

A document is a list of statements: entries, and headers of tables, each on a line of its own.  Arrays
and tables inside a line may be nested, keys may have parts, both up to a limit.
-/
import Exclusion.Toml.Scalar

namespace Exclusion.Toml

set_option autoImplicit false

open Exclusion.Text

/-- A line that says something. -/
inductive Statement where
  | entry (path : List String) (key : String) (value : Item)
  | header (path : List String) (key : String)
  /-- A header with two brackets. -/
  | itemHeader (path : List String) (key : String)
  deriving Repr

/-- How deep values may be nested, and how many parts a key may have. -/
def maxNesting : Nat := 79

/-! ## Lists of parts -/

/-- Parts with a mark between neighbours, after the first; `fuel` bounds their number.  A mark that no
part follows is left where it is. -/
def moreParts {α : Type} (mark : Char) (part : Reader α) : (fuel : Nat) → List Char →
    List α × List Char
  | 0, cs => ([], cs)
  | fuel + 1, cs =>
    match cs with
    | c :: rest =>
      if c = mark then
        match part rest with
        | some (a, rest) =>
          let (as, rest) := moreParts mark part fuel rest
          (a :: as, rest)
        | none => ([], cs)
      else ([], cs)
    | [] => ([], cs)

/-- Parts with a mark between neighbours, one at least. -/
def parts? {α : Type} (mark : Char) (part : Reader α) : Reader (List α) := fun cs => do
  let (a, rest) ← part cs
  let (as, rest) := moreParts mark part rest.length rest
  return (a :: as, rest)

/-! ## Keys -/

/-- A character of a key without quotes. -/
def isBare (c : Char) : Bool :=
  ('a' ≤ c && c ≤ 'z') || ('A' ≤ c && c ≤ 'Z') || isDigit c || c == '-' || c == '_'

def keyPart? : Reader String := fun cs =>
  let cs := skipSpace cs
  let bare := cs.takeWhile isBare
  if bare.isEmpty then (lineString? cs).map fun (key, rest) => (key, skipSpace rest)
  else some (.ofList bare, skipSpace (cs.drop bare.length))

/-- A key: all its parts but the last, and the last. -/
def key? : Reader (List String × String) := fun cs => do
  let (keys, rest) ← parts? '.' keyPart? cs
  if maxNesting < keys.length then none
  else return ((keys.dropLast, ← keys.getLast?), rest)

/-! ## Values -/

/-- What follows blanks, line ends and comments, inside an array; `fuel` bounds their number. -/
def skipComments : (fuel : Nat) → List Char → List Char
  | 0, cs => cs
  | fuel + 1, cs =>
    let cs := skipLines cs.length cs
    match cs with
    | '#' :: rest =>
      match lineEnd? (rest.dropWhile isPlain) with
      | some rest => skipComments fuel rest
      | none => cs
    | _ => cs

def skipBlank (cs : List Char) : List Char :=
  skipComments (cs.length + 1) cs

/-- The rest of an array after its bracket. -/
def arrayOf? (value : Reader Item) : Reader Item := fun cs =>
  let element : Reader Item := fun cs =>
    (value (skipBlank cs)).map fun (item, rest) => (item, skipBlank rest)
  match parts? ',' element cs with
  | some (items, ',' :: rest) => (dropLeading? [']'] (skipBlank rest)).map (.array items, ·)
  | some (items, rest) => (dropLeading? [']'] rest).map (.array items, ·)
  | none => (dropLeading? [']'] (skipBlank cs)).map (.array [], ·)

/-- A key with its value. -/
def pair? (value : Reader Item) : Reader ((List String × String) × Item) := fun cs => do
  let (key, rest) ← key? cs
  let rest ← dropLeading? ['='] rest
  let (item, rest) ← value (skipSpace rest)
  return ((key, item), skipSpace rest)

/-- The rest of a table inside a line after its brace. -/
def inlineTable? (value : Reader Item) : Reader Item := fun cs => do
  let (entries, rest) := (parts? ',' (pair? value) cs).getD ([], skipSpace cs)
  let rest ← dropLeading? ['\x7d'] rest
  let table ← entries.foldlM
    (fun (table : Entries) ((path, key), item) => table.put? true path key item) []
  return (.table { inLine := true } table, rest)

/-- A value with so many levels of arrays and tables in it at most. -/
def value? : (levels : Nat) → Reader Item
  | 0, '[' :: _ | 0, '\x7b' :: _ => none
  | levels + 1, '[' :: rest => arrayOf? (value? levels) rest
  | levels + 1, '\x7b' :: rest => inlineTable? (value? levels) rest
  | _, cs => scalar? cs

/-! ## Lines -/

/-- What follows the rest of a line: blanks, a comment and the line end. -/
def restOfLine? (cs : List Char) : Option (List Char) :=
  let cs := skipSpace cs
  let cs := match cs with
    | '#' :: rest => rest.dropWhile isPlain
    | _ => cs
  if cs.isEmpty then some [] else lineEnd? cs

/-- A statement, up to where its line ends. -/
def statement? : Reader Statement := fun
  | '[' :: '[' :: rest => do
    let ((path, key), rest) ← key? rest
    return (.itemHeader path key, ← dropLeading? [']', ']'] rest)
  | '[' :: rest => do
    let ((path, key), rest) ← key? rest
    return (.header path key, ← dropLeading? [']'] rest)
  | cs => do
    let (((path, key), item), rest) ← pair? (value? maxNesting) cs
    return (.entry path key item, rest)

/-- The statements of a text; `fuel` bounds the number of its lines. -/
def statements? : (fuel : Nat) → List Char → Option (List Statement)
  | 0, _ => none
  | fuel + 1, cs =>
    match skipSpace cs with
    | [] => some []
    | cs =>
      match restOfLine? cs with
      | some rest => statements? fuel rest
      | none => do
        let (statement, rest) ← statement? cs
        let rest ← restOfLine? rest
        return statement :: (← statements? fuel rest)

end Exclusion.Toml
