/-
# Exclusion.Time.Rfc3339 -- instants as dates and times of day

Instants are written in universal time, `2023-11-14T22:13:20.500Z`; years beyond four digits get a
sign.  They are read more freely: white space may stand between the parts, a blank may stand for the
`T`, numbers may have fewer digits, and the zone is `Z`, `UTC` or an offset with or without a colon.
-/
import Exclusion.Time.Instant
import Exclusion.Text.Blank
import Exclusion.Text.Digit

namespace Exclusion.Instant

set_option autoImplicit false

open Exclusion.Text Exclusion.Time

/-! ## Writing -/

/-- How many decimals the second is written with. -/
inductive Precision where
  /-- Always three. -/
  | millis
  /-- None, three, six or nine: as many as are needed. -/
  | asNeeded

/-- A number with zeros before it up to a width. -/
def padded (width n : Nat) : String :=
  let digits := Nat.toDigits 10 n
  .ofList (List.replicate (width - digits.length) '0' ++ digits)

/-- A year: four digits, or a sign and at least four digits. -/
def renderYear (year : Int) : String :=
  if 0 ≤ year ∧ year ≤ 9999 then padded 4 year.toNat
  else (if year < 0 then "-" else "+") ++ padded 4 year.natAbs

def renderFraction (precision : Precision) (nano : Nat) : String :=
  match precision with
  | .millis => "." ++ padded 3 (nano / 1000000)
  | .asNeeded =>
    if nano = 0 then ""
    else if nano % 1000000 = 0 then "." ++ padded 3 (nano / 1000000)
    else if nano % 1000 = 0 then "." ++ padded 6 (nano / 1000)
    else "." ++ padded 9 nano

/-- The instant in universal time, with `zone` after it. -/
def renderIn (t : Instant) (precision : Precision) (zone : String) : String :=
  let date := Date.ofDays (t.second / 86400)
  let time := t.secondOfDay.toNat
  let second := if t.isLeap then time % 60 + 1 else time % 60
  let nano := if t.isLeap then t.nano - 1000000000 else t.nano
  renderYear date.year ++ "-" ++ padded 2 date.month ++ "-" ++ padded 2 date.day ++ "T" ++
    padded 2 (time / 3600) ++ ":" ++ padded 2 (time / 60 % 60) ++ ":" ++ padded 2 second ++
    renderFraction precision nano ++ zone

/-- The instant with as many decimals as it needs and `Z` for the zone. -/
def render (t : Instant) : String :=
  t.renderIn .asNeeded "Z"

/-- The instant with three decimals and `Z` for the zone. -/
def renderMillis (t : Instant) : String :=
  t.renderIn .millis "Z"

/-- The instant with as many decimals as it needs and its offset for the zone. -/
def renderOffset (t : Instant) : String :=
  t.renderIn .asNeeded "+00:00"

/-! ## Reading -/

/-- A number of at least one digit; white space may stand before it.  No digit past the first
`width` belongs to it, if there is a width. -/
def readNumber (width : Option Nat) : Reader Nat := fun cs =>
  let cs := trimStart cs
  let all := cs.takeWhile isDigit
  let digits := match width with
    | some w => all.take w
    | none => all
  if digits.isEmpty then none else some (digitsValue digits, cs.drop digits.length)

/-- A year: up to four digits, or a sign and any number of digits. -/
def readYear : Reader Int := fun cs =>
  match trimStart cs with
  | '-' :: rest => if rest.head?.any isDigit then
      (readNumber none rest).map fun (n, rest) => (-(n : Int), rest) else none
  | '+' :: rest => if rest.head?.any isDigit then
      (readNumber none rest).map fun (n, rest) => ((n : Int), rest) else none
  | rest => (readNumber (some 4) rest).map fun (n, rest) => ((n : Int), rest)

/-- A given character; white space may stand before it. -/
def readMark (mark : Char) : Reader Unit := fun cs =>
  match trimStart cs with
  | c :: rest => if c = mark then some ((), rest) else none
  | [] => none

/-- The decimals of a second in nanoseconds, if there is a point; digits past the ninth are cut
off. -/
def readFraction : Reader Nat := fun
  | '.' :: rest =>
    let all := rest.takeWhile isDigit
    let digits := all.take 9
    if digits.isEmpty then none
    else some (digitsValue digits * Nat.pow 10 (9 - digits.length), rest.drop all.length)
  | rest => some (0, rest)

/-- The zone as seconds east of universal time. -/
def readZone : Reader Int := fun cs =>
  match cs with
  | c₁ :: c₂ :: c₃ :: rest =>
    if [c₁, c₂, c₃].map Char.toUpper = ['U', 'T', 'C'] then some (0, rest) else readOffset cs
  | _ => readOffset cs
where
  readOffset : Reader Int := fun
    | 'Z' :: rest | 'z' :: rest => some (0, rest)
    | '+' :: rest => readHours 1 rest
    | '-' :: rest | '−' :: rest => readHours (-1) rest
    | _ => none
  readHours (sign : Int) : Reader Int := fun
    | h₁ :: h₂ :: rest =>
      match rest.dropWhile fun c => c == ':' || isBlank c with
      | m₁ :: m₂ :: rest =>
        if [h₁, h₂, m₁, m₂].all isDigit && m₁ ≤ '5' then
          let hours := digitsValue [h₁, h₂]
          let minutes := digitsValue [m₁, m₂]
          if hours < 24 then some (sign * (3600 * hours + 60 * minutes : Nat), rest) else none
        else none
      | _ => none
    | _ => none

/-- The instant at a local date and time of day, so many seconds east of universal time.  Second 60
is a leap second. -/
def ofLocal? (date : Date) (hour minute second nano : Nat) (offset : Int) : Option Instant :=
  if date.isValid && hour < 24 && minute < 60 && second ≤ 60 then do
    let (second, nano) := if second = 60 then (59, nano + 1000000000) else (second, nano)
    let seconds : Int := 86400 * date.toDays + (3600 * hour + 60 * minute + second : Nat)
    -- the local date has to be covered too
    let _ ← make? seconds nano
    make? (seconds - offset) nano
  else none

def parse? (text : String) : Option Instant := do
  let (year, cs) ← readYear text.toList
  let ((), cs) ← readMark '-' cs
  let (month, cs) ← readNumber (some 2) cs
  let ((), cs) ← readMark '-' cs
  let (day, cs) ← readNumber (some 2) cs
  let cs ← match cs with
    | 'T' :: rest | 't' :: rest | ' ' :: rest => some rest
    | _ => none
  let (hour, cs) ← readNumber (some 2) cs
  let ((), cs) ← readMark ':' cs
  let (minute, cs) ← readNumber (some 2) cs
  let ((), cs) ← readMark ':' cs
  let (second, cs) ← readNumber (some 2) cs
  let (nano, cs) ← readFraction cs
  let (offset, cs) ← readZone (trimStart cs)
  if (trimStart cs).isEmpty then ofLocal? ⟨year, month, day⟩ hour minute second nano offset else none

end Exclusion.Instant
