/-
# Exclusion.Toml.Item -- the values of a TOML document

Tables are lists of entries in the order in which their keys first appear.  A table remembers how it
came to be, because that decides whether more may be said of it: a table that is only implied by a
longer key or header may still be written out, one that is written inside a line is closed.
-/
namespace Exclusion.Toml

set_option autoImplicit false

/-- How a table came to be. -/
structure Origin where
  /-- It stands inside a line, between braces. -/
  inLine : Bool := false
  /-- It is only named by a key or a header that goes further. -/
  implied : Bool := false
  /-- It is named by a key with dots. -/
  dotted : Bool := false
  deriving DecidableEq, Repr

/-- A value.  Of fractional numbers and of dates nothing but their kind is kept. -/
inductive Item where
  | string (s : String)
  | integer (i : Int)
  | float
  | boolean (b : Bool)
  | moment
  | array (items : List Item)
  | table (origin : Origin) (entries : List (String × Item))
  /-- Tables that share a header with two brackets. -/
  | tables (items : List (List (String × Item)))
  deriving Repr, Inhabited

abbrev Entries : Type :=
  List (String × Item)

namespace Entries

def get? (entries : Entries) (key : String) : Option Item :=
  entries.lookup key

def erase (entries : Entries) (key : String) : Entries :=
  entries.filter (·.1 != key)

/-- Gives a key a value, in its place if it has one and at the end if not. -/
def set (entries : Entries) (key : String) (value : Item) : Entries :=
  if (entries.get? key).isSome then
    entries.map fun (k, v) => if k == key then (k, value) else (k, v)
  else entries ++ [(key, value)]

/-- Adds an entry; no key may be given twice. -/
def add? (entries : Entries) (key : String) (value : Item) : Option Entries :=
  if (entries.get? key).isSome then none else some (entries ++ [(key, value)])

/-- Goes along a path of keys and changes the table at its end.  Tables on the way that are not there
yet come to be as `fresh` says.  Keys with dots may only go through tables that are implied, and only
a line's own keys go through tables inside it. -/
def change? (fresh : Origin) (action : Origin → Entries → Option Entries) :
    List String → Origin → Entries → Option Entries
  | [], origin, entries => action origin entries
  | key :: path, _, entries =>
    match entries.get? key with
    | none => do
      let inner ← change? fresh action path fresh []
      return entries.set key (.table fresh inner)
    | some (.table origin inner) =>
      if origin.inLine != fresh.inLine || (fresh.dotted && !origin.implied) then none
      else do
        let inner ← change? fresh action path origin inner
        return entries.set key (.table origin inner)
    | some (.tables items) =>
      match items.reverse with
      | [] => none
      | last :: before => do
        let last ← change? fresh action path {} last
        return entries.set key (.tables (last :: before).reverse)
    | some _ => none

/-- Adds the entry of a line to a table.  A key with dots may add only to a table that was named so. -/
def put? (inLine : Bool) (entries : Entries) (path : List String) (key : String) (value : Item) :
    Option Entries :=
  change? { inLine, implied := true, dotted := true }
    (fun origin inner =>
      if origin.dotted == path.isEmpty then none else inner.add? key value)
    path {} entries

/-- Changes the table that a header's path leads to. -/
def within? (entries : Entries) (path : List String) (action : Entries → Option Entries) :
    Option Entries :=
  change? { implied := true } (fun _ inner => action inner) path {} entries

end Entries

end Exclusion.Toml
