import Gatekeeper.Text.Decimal

/-!
# `Gatekeeper.Net.SocketAddress`: addresses to listen on

An address of version 4 or 6 with a port: `127.0.0.1:4222`, `[::1]:4222`. In a text
of version 6 one run of zero groups may be left out, the last two groups may be
written as an address of version 4, and a scope may follow.

* `SocketAddress.parse?`, `SocketAddress.render`: the two directions.
-/

set_option autoImplicit false

namespace Gatekeeper.Net

open Gatekeeper.Text

/-- An address with a port. -/
inductive SocketAddress where
  /-- Four octets. -/
  | v4 (octets : List UInt8) (port : UInt16)
  /-- Eight groups. -/
  | v6 (groups : List UInt16) (scope : UInt32) (port : UInt16)
  deriving DecidableEq, Repr

namespace SocketAddress

/-! ### Reading -/

/-- The value of a digit below `base`. -/
def digit? (base : Nat) (c : Char) : Option Nat :=
  let value :=
    if isDigit c then some (c.toNat - 48)
    else if 'a' ≤ c ∧ c ≤ 'f' then some (c.toNat - 87)
    else if 'A' ≤ c ∧ c ≤ 'F' then some (c.toNat - 55)
    else none
  value.filter (· < base)

/-- A number below `bound` in at most `width` digits, and what follows its last
digit. -/
def readNumber? (base bound width : Nat) (cs : List Char) : Option (Nat × List Char) :=
  let digits := cs.takeWhile fun c => (digit? base c).isSome
  let n := digits.foldl (fun n c => base * n + (digit? base c).getD 0) 0
  if digits.isEmpty || width < digits.length || bound ≤ n then none
  else some (n, cs.drop digits.length)

/-- What follows a character that has to be next. -/
def readMark? (mark : Char) : List Char → Option (List Char)
  | c :: rest => if c = mark then some rest else none
  | [] => none

/-- An octet: at most three digits, without idle zeros. -/
def readOctet? (cs : List Char) : Option (UInt8 × List Char) :=
  match cs with
  | '0' :: c :: rest => if isDigit c then none else some (0, c :: rest)
  | _ => (readNumber? 10 256 3 cs).map fun (n, rest) => (UInt8.ofNat n, rest)

/-- The four octets of an address of version 4. -/
def readV4? (cs : List Char) : Option (List UInt8 × List Char) := do
  let (a, cs) ← readOctet? cs
  let (b, cs) ← readMark? '.' cs >>= readOctet?
  let (c, cs) ← readMark? '.' cs >>= readOctet?
  let (d, cs) ← readMark? '.' cs >>= readOctet?
  some ([a, b, c, d], cs)

/-- The two groups of an address of version 4. -/
def groupsOfV4 : List UInt8 → List UInt16
  | [a, b, c, d] =>
    [UInt16.ofNat (a.toNat * 256 + b.toNat), UInt16.ofNat (c.toNat * 256 + d.toNat)]
  | _ => []

/-- At most `room` groups with colons between them, of which the last two may be an
address of version 4; whether they are; and what follows them. `first` tells
whether no colon comes first. -/
def readGroups : Nat → Bool → List Char → List UInt16 × Bool × List Char
  | 0, _, cs => ([], false, cs)
  | room + 1, first, cs =>
    match if first then some cs else readMark? ':' cs with
    | none => ([], false, cs)
    | some start =>
      match if room = 0 then none else readV4? start with
      | some (octets, rest) => (groupsOfV4 octets, true, rest)
      | none =>
        match readNumber? 16 65536 4 start with
        | none => ([], false, cs)
        | some (n, rest) =>
          let (groups, mixed, rest) := readGroups room false rest
          (UInt16.ofNat n :: groups, mixed, rest)

/-- The eight groups of an address of version 6. -/
def readV6? (cs : List Char) : Option (List UInt16 × List Char) := do
  let (head, mixed, cs) := readGroups 8 true cs
  if head.length = 8 then some (head, cs)
  else if mixed then none
  else
    let cs ← readMark? ':' cs >>= readMark? ':'
    let (tail, _, cs) := readGroups (7 - head.length) true cs
    some (head ++ List.replicate (8 - head.length - tail.length) 0 ++ tail, cs)

/-- The port after its colon. -/
def readPort? (cs : List Char) : Option (UInt16 × List Char) :=
  (readMark? ':' cs >>= readNumber? 10 65536 cs.length).map fun (n, rest) => (UInt16.ofNat n, rest)

/-- The scope after its percent sign; zero if there is none. -/
def readScope (cs : List Char) : UInt32 × List Char :=
  match readMark? '%' cs >>= readNumber? 10 4294967296 cs.length with
  | some (n, rest) => (UInt32.ofNat n, rest)
  | none => (0, cs)

/-- An address at the start of a text. -/
def read? (cs : List Char) : Option (SocketAddress × List Char) :=
  match cs with
  | '[' :: rest => do
    let (groups, rest) ← readV6? rest
    let (scope, rest) := readScope rest
    let (port, rest) ← readMark? ']' rest >>= readPort?
    some (.v6 groups scope port, rest)
  | _ => do
    let (octets, rest) ← readV4? cs
    let (port, rest) ← readPort? rest
    some (.v4 octets port, rest)

/-- The address that a text spells. -/
def parse? (text : String) : Option SocketAddress :=
  match read? text.toList with
  | some (address, []) => some address
  | _ => none

/-! ### Writing -/

/-- A list of texts with a separator between neighbours. -/
def joined (separator : String) (texts : List String) : String :=
  String.intercalate separator texts

/-- Octets with points between them. -/
def renderV4 (octets : List UInt8) : String :=
  joined "." (octets.map fun b => toString b.toNat)

/-- Groups in hexadecimal digits with colons between them. -/
def renderGroups (groups : List UInt16) : String :=
  joined ":" (groups.map fun g => String.ofList (Nat.toDigits 16 g.toNat))

/-- The number of zero groups at the start of a list. -/
def zeroRun (groups : List UInt16) : Nat := (groups.takeWhile (· = 0)).length

/-- The start and the length of the first among the longest runs of zero groups.
`start` groups were passed before. -/
def longestRun (start : Nat) : List UInt16 → Nat × Nat
  | [] => (start, 0)
  | group :: rest =>
    let here := zeroRun (group :: rest)
    let (later, length) := longestRun (start + 1) rest
    if length ≤ here then (start, here) else (later, length)

/-- Eight groups, with the longest run of zero groups left out if it has two or
more. An address that stands for one of version 4 shows that one. -/
def renderV6 (groups : List UInt16) : String :=
  match groups with
  | [0, 0, 0, 0, 0, 0xffff, high, low] =>
    "::ffff:" ++ renderV4 [(high / 256).toUInt8, high.toUInt8, (low / 256).toUInt8, low.toUInt8]
  | _ =>
    let (start, length) := longestRun 0 groups
    if length ≤ 1 then renderGroups groups
    else renderGroups (groups.take start) ++ "::" ++ renderGroups (groups.drop (start + length))

/-- The text of an address. -/
def render : SocketAddress → String
  | v4 octets port => s!"{renderV4 octets}:{port.toNat}"
  | v6 groups scope port =>
    if scope = 0 then s!"[{renderV6 groups}]:{port.toNat}"
    else s!"[{renderV6 groups}%{scope.toNat}]:{port.toNat}"

end SocketAddress

end Gatekeeper.Net
