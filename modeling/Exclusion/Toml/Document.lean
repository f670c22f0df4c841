/-
# Exclusion.Toml.Document -- the table that a TOML document describes

The entries after a header belong to the table that it names.  A table may be named by one header
only, though longer headers may have implied it before; a header with two brackets adds a table to a
list each time.
-/
import Exclusion.Toml.Statement

namespace Exclusion.Toml

set_option autoImplicit false

/-- Where the entries of the open table will go. -/
inductive Target where
  /-- It is the document itself. -/
  | document
  | table (path : List String) (key : String)
  /-- It will be the last of a list of tables. -/
  | item (path : List String) (key : String)
  deriving DecidableEq, Repr

/-- A document under construction: all tables but the open one, and the open one. -/
structure Draft where
  closed : Entries := []
  target : Target := .document
  current : Entries := []

namespace Draft

/-- Puts the open table in its place. -/
def close? (d : Draft) : Option Entries :=
  match d.target with
  | .document => some d.current
  | .table path key => d.closed.within? path fun inner => inner.add? key (.table {} d.current)
  | .item path key => d.closed.within? path fun inner =>
    match inner.get? key with
    | none => some (inner.set key (.tables [d.current]))
    | some (.tables items) => some (inner.set key (.tables (items ++ [d.current])))
    | some _ => none

/-- The table at the end of a path, if there is one. -/
def tableAt? (entries : Entries) : List String → Option Entries
  | [] => some entries
  | key :: path =>
    match entries.get? key with
    | some (.table _ inner) => tableAt? inner path
    | some (.tables items) => do tableAt? (← items.getLast?) path
    | _ => none

/-- Opens a table.  What longer headers have put into it comes with it. -/
def openTable? (closed : Entries) (path : List String) (key : String) : Option Draft := do
  let closed ← closed.within? path some
  match (← tableAt? closed path).get? key with
  | none => return { closed, target := .table path key }
  | some (.table origin inner) =>
    if origin.inLine || !origin.implied || origin.dotted then none
    else
      let closed ← closed.within? path fun entries => some (entries.erase key)
      return { closed, target := .table path key, current := inner }
  | some _ => none

def openItem? (closed : Entries) (path : List String) (key : String) : Option Draft := do
  let closed ← closed.within? path some
  match (← tableAt? closed path).get? key with
  | none | some (.tables _) => return { closed, target := .item path key }
  | some _ => none

def take? (d : Draft) : Statement → Option Draft
  | .entry path key value => do
    return { d with current := ← d.current.put? false path key value }
  | .header path key => do openTable? (← d.close?) path key
  | .itemHeader path key => do openItem? (← d.close?) path key

end Draft

/-- The text without a byte order mark at its beginning. -/
def withoutMark : List Char → List Char
  | '\ufeff' :: rest => rest
  | cs => cs

def document? (text : String) : Option Entries := do
  let cs := withoutMark text.toList
  let draft ← (← statements? (cs.length + 1) cs).foldlM Draft.take? ({} : Draft)
  draft.close?

end Exclusion.Toml
