/-
# Exclusion.Toml.Scalar -- the simple values of a TOML document

Strings in their four forms, whole numbers in four bases, fractional numbers, truth values, and dates
with or without a time of day.  A whole number has to fit in 64 bits with sign; a positive number with
a fraction or an exponent has to be a finite double.
-/
import Exclusion.Json.Number
import Exclusion.Text.Split
import Exclusion.Time.Calendar
import Exclusion.Toml.Item

namespace Exclusion.Toml

set_option autoImplicit false

open Exclusion.Text

/-! ## Blanks and line ends -/

def isSpace (c : Char) : Bool :=
  c == ' ' || c == '\t'

/-- A character that may stand in a comment: no control character but the tab. -/
def isPlain (c : Char) : Bool :=
  c == '\t' || (' ' ≤ c && c != '\x7f')

/-- What follows spaces and tabs. -/
def skipSpace (cs : List Char) : List Char :=
  cs.dropWhile isSpace

def lineEnd? : List Char → Option (List Char)
  | '\n' :: rest => some rest
  | '\r' :: '\n' :: rest => some rest
  | _ => none

def skipLineEnd (cs : List Char) : List Char :=
  (lineEnd? cs).getD cs

/-- What follows spaces, tabs and line ends; `fuel` bounds their number. -/
def skipLines : (fuel : Nat) → List Char → List Char
  | 0, cs => cs
  | fuel + 1, cs =>
    let cs := skipSpace cs
    match lineEnd? cs with
    | some rest => skipLines fuel rest
    | none => cs

/-! ## Strings -/

/-- The character with a code point given in base sixteen, if it is one. -/
def codePoint? (digits : List Char) : Option Char :=
  let n := numberIn 16 digits
  if digits.all isHexDigit && n.isValidChar then some (Char.ofNat n) else none

/-- The character that an escape stands for, after its backslash. -/
def escape? : Reader Char := fun
  | 'b' :: rest => some ('\x08', rest)
  | 't' :: rest => some ('\t', rest)
  | 'n' :: rest => some ('\n', rest)
  | 'f' :: rest => some ('\x0c', rest)
  | 'r' :: rest => some ('\r', rest)
  | '"' :: rest => some ('"', rest)
  | '\\' :: rest => some ('\\', rest)
  | 'u' :: rest => coded 4 rest
  | 'U' :: rest => coded 8 rest
  | _ => none
where
  coded (width : Nat) : Reader Char := fun cs =>
    if (cs.take width).length = width then
      (codePoint? (cs.take width)).map fun c => (c, cs.drop width)
    else none

/-- The rest of a string on one line, up to the quote that opened it; `fuel` bounds its length. -/
def lineString (quote : Char) : (fuel : Nat) → Reader (List Char)
  | 0, _ => none
  | fuel + 1, cs =>
    match cs with
    | [] => none
    | c :: rest =>
      if c = quote then some ([], rest)
      else if c = '\\' ∧ quote = '"' then do
        let (c, rest) ← escape? rest
        let (body, rest) ← lineString quote fuel rest
        return (c :: body, rest)
      else if isPlain c then do
        let (body, rest) ← lineString quote fuel rest
        return (c :: body, rest)
      else none

/-- What follows a backslash at the end of a line and the blanks after it. -/
def continuation? (cs : List Char) : Option (List Char) :=
  (lineEnd? (skipSpace cs)).map fun rest => skipLines rest.length rest

/-- The rest of a string of several lines, up to three of the quotes that opened it.  Up to two more
quotes before these belong to the string. -/
def textString (quote : Char) : (fuel : Nat) → Reader (List Char)
  | 0, _ => none
  | fuel + 1, cs =>
    match dropLeading? [quote, quote, quote] cs with
    | some rest =>
      let extra := (rest.take 2).takeWhile (· == quote)
      some (extra, rest.drop extra.length)
    | none =>
      match lineEnd? cs with
      | some rest => do
        let (body, rest) ← textString quote fuel rest
        return ('\n' :: body, rest)
      | none =>
        match cs with
        | [] => none
        | c :: rest =>
          if c = '\\' ∧ quote = '"' then
            match continuation? rest with
            | some rest => textString quote fuel rest
            | none => do
              let (c, rest) ← escape? rest
              let (body, rest) ← textString quote fuel rest
              return (c :: body, rest)
          else if isPlain c then do
            let (body, rest) ← textString quote fuel rest
            return (c :: body, rest)
          else none

def lineString? : Reader String := fun
  | c :: rest =>
    if c = '"' ∨ c = '\'' then
      (lineString c (rest.length + 1) rest).map fun (body, rest) => (.ofList body, rest)
    else none
  | [] => none

def string? : Reader String := fun cs =>
  match cs with
  | c :: _ =>
    match dropLeading? [c, c, c] cs with
    | some rest =>
      if c = '"' ∨ c = '\'' then
        let rest := skipLineEnd rest
        (textString c (rest.length + 1) rest).map fun (body, rest) => (.ofList body, rest)
      else none
    | none => lineString? cs
  | [] => none

/-! ## Numbers -/

/-- More digits, each perhaps after an underscore. -/
def moreDigits (isDigit : Char → Bool) : List Char → List Char × List Char
  | [] => ([], [])
  | [c] => if isDigit c then ([c], []) else ([], [c])
  | c :: d :: rest =>
    if isDigit c then
      let (digits, rest) := moreDigits isDigit (d :: rest)
      (c :: digits, rest)
    else if c = '_' ∧ isDigit d then
      let (digits, rest) := moreDigits isDigit rest
      (d :: digits, rest)
    else ([], c :: d :: rest)

def digits? (isDigit : Char → Bool) : Reader (List Char) := fun
  | c :: rest =>
    if isDigit c then
      let (digits, rest) := moreDigits isDigit rest
      some (c :: digits, rest)
    else none
  | [] => none

/-- The digits of a whole part: no zero stands before another digit. -/
def wholePart? : Reader (List Char) := fun
  | '0' :: rest => some (['0'], rest)
  | cs => digits? isDigit cs

/-- A sign, if there is one: whether it is a minus. -/
def sign : List Char → Bool × List Char
  | '-' :: rest => (true, rest)
  | '+' :: rest => (false, rest)
  | cs => (false, cs)

/-- The digits after a point, if there is a point. -/
def fraction? : Reader (Option (List Char)) := fun
  | '.' :: rest => (digits? isDigit rest).map fun (digits, rest) => (some digits, rest)
  | cs => some (none, cs)

def exponent? : Reader (Option Int) := fun
  | 'e' :: rest | 'E' :: rest => do
    let (negative, rest) := sign rest
    let (digits, rest) ← digits? isDigit rest
    let size : Int := digitsValue digits
    return (some (if negative then -size else size), rest)
  | cs => some (none, cs)

/-- A whole number that fits in 64 bits with sign. -/
def integerOf? (i : Int) : Option Item :=
  if -Json.Number.maxNegative ≤ i ∧ i < Json.Number.maxNegative then some (.integer i) else none

/-- The digits of the least whole number that rounds to no double: it is half a unit of the last
place above the greatest. -/
def beyondDoubles : List Char :=
  Nat.toDigits 10 ((Nat.pow 2 54 - 1) * Nat.pow 2 970)

/-- The number with these digits before and after its point, moved by an exponent, rounds to a finite
double.  With as many places before the point as `beyondDoubles` the digits decide. -/
def isFinite (whole fraction : List Char) (exponent : Int) : Bool :=
  let zeros := (whole ++ fraction).takeWhile (· == '0')
  let digits := (whole ++ fraction).drop zeros.length
  let places : Int := whole.length - zeros.length + exponent
  digits.isEmpty || places < beyondDoubles.length ||
    (places == beyondDoubles.length && digits.lex beyondDoubles (fun c d => c < d))

/-- A whole number in another base, after its letter. -/
def based? (base : Nat) (isDigit : Char → Bool) : Reader Item := fun cs => do
  let (digits, rest) ← digits? isDigit cs
  return (← integerOf? (numberIn base digits), rest)

def decimal? : Reader Item := fun cs => do
  let (negative, cs) := sign cs
  match dropLeading? "inf".toList cs <|> dropLeading? "nan".toList cs with
  | some rest => return (.float, rest)
  | none =>
    let (whole, cs) ← wholePart? cs
    let (fraction, cs) ← fraction? cs
    let (exponent, cs) ← exponent? cs
    if fraction.isNone && exponent.isNone then
      let size : Int := digitsValue whole
      return (← integerOf? (if negative then -size else size), cs)
    else
      let finite := isFinite whole (fraction.getD []) (exponent.getD 0)
      if finite || negative then return (.float, cs) else none

def number? : Reader Item := fun
  | '0' :: 'x' :: rest => based? 16 isHexDigit rest
  | '0' :: 'o' :: rest => based? 8 (fun c => '0' ≤ c && c ≤ '7') rest
  | '0' :: 'b' :: rest => based? 2 (fun c => c == '0' || c == '1') rest
  | cs => decimal? cs

/-! ## Dates and times -/

/-- A number of exactly so many digits, followed by a mark if there is one to follow. -/
def field? (width : Nat) (mark : Option Char) : Reader Nat := fun cs => do
  let digits := cs.take width
  let rest := cs.drop width
  if digits.length ≠ width || !digits.all isDigit then none
  else
    match mark, rest with
    | none, _ => some (digitsValue digits, rest)
    | some mark, c :: rest => if c = mark then some (digitsValue digits, rest) else none
    | some _, [] => none

def date? : Reader Unit := fun cs => do
  let (year, cs) ← field? 4 (some '-') cs
  let (month, cs) ← field? 2 (some '-') cs
  let (day, cs) ← field? 2 none cs
  if 1 ≤ month && month ≤ 12 && 1 ≤ day && day ≤ Time.daysInMonth year month then some ((), cs)
  else none

/-- The decimals of a second, if there is a point. -/
def decimals? : Reader Unit := fun
  | '.' :: rest =>
    if rest.head?.any isDigit then some ((), rest.dropWhile isDigit) else none
  | cs => some ((), cs)

def timeOfDay? : Reader Unit := fun cs => do
  let (hour, cs) ← field? 2 (some ':') cs
  let (minute, cs) ← field? 2 (some ':') cs
  let (second, cs) ← field? 2 none cs
  if hour < 24 && minute < 60 && second ≤ 60 then decimals? cs else none

def zone? : Reader Unit := fun
  | 'Z' :: rest | 'z' :: rest => some ((), rest)
  | '+' :: rest | '-' :: rest => do
    let (hours, rest) ← field? 2 (some ':') rest
    let (minutes, rest) ← field? 2 none rest
    if hours < 24 && minutes < 60 then some ((), rest) else none
  | cs => some ((), cs)

/-- A time of day after a date, if there is one. -/
def timeAfterDate? : Reader Unit := fun cs =>
  match cs with
  | 'T' :: rest | 't' :: rest | ' ' :: rest =>
    match timeOfDay? rest with
    | some ((), rest) => zone? rest
    | none => some ((), cs)
  | _ => some ((), cs)

def moment? : Reader Item := fun cs =>
  match date? cs with
  | some ((), rest) => (timeAfterDate? rest).map fun ((), rest) => (.moment, rest)
  | none => (timeOfDay? cs).map fun ((), rest) => (.moment, rest)

/-! ## Any of these -/

def scalar? : Reader Item := fun cs =>
  match cs with
  | [] => none
  | c :: _ =>
    if c = '"' ∨ c = '\'' then (string? cs).map fun (s, rest) => (.string s, rest)
    else if c = 't' then (dropLeading? "true".toList cs).map fun rest => (.boolean true, rest)
    else if c = 'f' then (dropLeading? "false".toList cs).map fun rest => (.boolean false, rest)
    else moment? cs <|> number? cs

end Exclusion.Toml
