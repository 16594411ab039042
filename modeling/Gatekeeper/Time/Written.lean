import Gatekeeper.Text.Blank
import Gatekeeper.Text.Decimal
import Gatekeeper.Time.Calendar
import Gatekeeper.Time.Timestamp

/-!
# `Gatekeeper.Time.Written`: instants as text

An instant is written as its date, the letter T, its time of day and the letter
Z: `2024-06-01T12:00:00.250Z`. The fraction has three, six or nine digits, as few
as hold it, and is left out when it is zero. Years past 9999 or before 0 carry a
sign. Reading is more lenient: blanks, missing zeros, a shift from universal time
and a lower-case T are all understood.

* `Timestamp.write`, `Timestamp.read?`: the two directions.
-/

set_option autoImplicit false

namespace Gatekeeper.Timestamp

open Gatekeeper.Text Gatekeeper.Time

/-! ### Writing -/

/-- A number in at least `width` digits, with zeros in front. -/
def padded (width n : Nat) : List Char :=
  let digits := Decimal.write n
  List.replicate (width - digits.length) '0' ++ digits

/-- A year: four digits, or a sign and at least four. -/
def writeYear (year : Int) : List Char :=
  if 0 ≤ year ∧ year ≤ 9999 then padded 4 year.toNat
  else (if year < 0 then '-' else '+') :: padded 4 year.natAbs

/-- A fraction of a second in nanoseconds. -/
def writeFraction (nanos : Nat) : List Char :=
  if nanos = 0 then []
  else if nanos % 1000000 = 0 then '.' :: padded 3 (nanos / 1000000)
  else if nanos % 1000 = 0 then '.' :: padded 6 (nanos / 1000)
  else '.' :: padded 9 nanos

/-- The written form of an instant. A leap second is the second 60. -/
def write (t : Timestamp) : String :=
  let date := Date.ofDay (t.seconds / 86400)
  let second := (t.seconds % 86400).toNat
  let (extra, nanos) := if t.nanos < 1000000000 then (0, t.nanos) else (1, t.nanos - 1000000000)
  String.ofList (writeYear date.year ++ '-' :: padded 2 date.month ++ '-' :: padded 2 date.day ++
    'T' :: padded 2 (second / 3600) ++ ':' :: padded 2 (second / 60 % 60) ++
    ':' :: padded 2 (second % 60 + extra) ++ writeFraction nanos ++ ['Z'])

/-! ### Reading -/

/-- The number that decimal digits spell. -/
def digitsValue (digits : List Char) : Nat :=
  digits.foldl (fun n c => 10 * n + (c.toNat - '0'.toNat)) 0

/-- A number of one to `width` digits, and what follows it. -/
def readNumber? (width : Nat) (cs : List Char) : Option (Nat × List Char) :=
  match (cs.take width).takeWhile isDigit with
  | [] => none
  | digits => some (digitsValue digits, cs.drop digits.length)

/-- A number of at most two digits from `low` to `high`, after blanks. -/
def readItem? (low high : Nat) (cs : List Char) : Option (Nat × List Char) :=
  match readNumber? 2 (trimStart cs) with
  | some (n, rest) => if low ≤ n ∧ n ≤ high then some (n, rest) else none
  | none => none

/-- What follows a mark, after blanks. -/
def readMark? (mark : Char) (cs : List Char) : Option (List Char) :=
  match trimStart cs with
  | c :: rest => if c = mark then some rest else none
  | [] => none

/-- A year, after blanks: at most four digits, or a sign and any number of them. -/
def readYear? (cs : List Char) : Option (Int × List Char) :=
  match trimStart cs with
  | '-' :: rest => (readNumber? rest.length rest).map fun (n, rest) => (-(n : Int), rest)
  | '+' :: rest => (readNumber? rest.length rest).map fun (n, rest) => ((n : Int), rest)
  | cs => (readNumber? 4 cs).map fun (n, rest) => ((n : Int), rest)

/-- The nanoseconds of a fraction, if a point follows: the value of its digits, with
zeros for those that nine lack. Digits after the ninth are skipped. -/
def readFraction? : List Char → Option (Nat × List Char)
  | '.' :: rest =>
    match (rest.take 9).takeWhile isDigit with
    | [] => none
    | digits =>
      let nine := digits ++ List.replicate (9 - digits.length) '0'
      some (digitsValue nine, rest.dropWhile isDigit)
  | cs => some (0, cs)

/-- Two digits, and what follows them. -/
def readPair? : List Char → Option (Nat × List Char)
  | a :: b :: rest => if isDigit a && isDigit b then some (digitsValue [a, b], rest) else none
  | _ => none

/-- Hours and minutes of a shift from universal time, in seconds. Colons and blanks
may stand between them. -/
def readShift? (cs : List Char) : Option (Nat × List Char) := do
  let (hours, rest) ← readPair? cs
  let (minutes, rest) ← readPair? (rest.dropWhile fun c => c = ':' || isBlank c)
  if minutes < 60 then some (hours * 3600 + minutes * 60, rest) else none

/-- A shift from universal time in seconds, by name, by letter or by sign. -/
def readZone? : List Char → Option (Int × List Char)
  | c :: rest =>
    if c = 'Z' ∨ c = 'z' then some (0, rest)
    else if c = '+' then (readShift? rest).map fun (n, rest) => ((n : Int), rest)
    else if c = '-' ∨ c = '\u2212' then
      (readShift? rest).map fun (n, rest) => (-(n : Int), rest)
    else
      match c, rest with
      | u, t :: z :: rest =>
        if u.toUpper = 'U' ∧ t.toUpper = 'T' ∧ z.toUpper = 'C' then some (0, rest) else none
      | _, _ => none
  | [] => none

/-- The instant that a text spells. The second 60 is a leap second. -/
def read? (text : String) : Option Timestamp := do
  let (year, rest) ← readYear? text.toList
  let rest ← readMark? '-' rest
  let (month, rest) ← readItem? 1 12 rest
  let rest ← readMark? '-' rest
  let (day, rest) ← readItem? 1 31 rest
  let rest ← match rest with
    | c :: rest => if c = 't' ∨ c = 'T' ∨ c = ' ' then some rest else none
    | [] => none
  let (hour, rest) ← readItem? 0 23 rest
  let rest ← readMark? ':' rest
  let (minute, rest) ← readItem? 0 59 rest
  let rest ← readMark? ':' rest
  let (second, rest) ← readItem? 0 60 rest
  let (nanos, rest) ← readFraction? rest
  let (zone, rest) ← readZone? (trimStart rest)
  let date : Date := ⟨year, month, day⟩
  if (trimStart rest).isEmpty && date.isValid && zone.natAbs < 86400 then
    let (second, nanos) := if second = 60 then (59, nanos + 1000000000) else (second, nanos)
    ofParts? (date.toDay * 86400 + (hour * 3600 + minute * 60 + second : Nat) - zone) nanos
  else none

end Gatekeeper.Timestamp
