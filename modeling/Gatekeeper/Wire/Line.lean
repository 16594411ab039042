import Gatekeeper.Handshake.Message

/-!
# `Gatekeeper.Wire.Line`: lines on a byte stream

Both sides send lines. A line ends with a line feed, and with a carriage return
before it when this program writes it. The reader takes a piece of the stream at a
time: up to the first line feed, or one byte more than a line may have. A piece
that is no text or that no line feed ends is an error, and reading may go on after
it with the next piece.

A stream arrives in chunks, but where they are cut makes no difference.

* `pieceLimit?`: how many bytes a piece may have, which the largest limit of lines leaves
  without an answer.
* `readLine`: the next line, and the chunks after it.
* `readAll`: all lines and errors of a stream.
* `find`: the next line of a stream that is still arriving.
* `infoLine`, `connectLine`, `errorLine`: the lines of the protocol.
* `frame`: a line as it is sent.
-/

set_option autoImplicit false

namespace Gatekeeper.Wire

open Gatekeeper.Text Gatekeeper.Handshake

/-! ### Reading -/

/-- The byte that ends a line. -/
def lineFeed : UInt8 := 10

/-- The byte that may stand before it. -/
def carriageReturn : UInt8 := 13

/-- At most `limit` bytes of a list, up to its first line feed; whether the piece is
complete, by a line feed or by the limit; and the bytes after it. -/
def takePiece : Nat → List UInt8 → List UInt8 × Bool × List UInt8
  | 0, bytes => ([], true, bytes)
  | _ + 1, [] => ([], false, [])
  | limit + 1, b :: rest =>
    if b = lineFeed then ([b], true, rest)
    else
      let (piece, complete, rest) := takePiece limit rest
      (b :: piece, complete, rest)

/-- At most `limit` bytes of a stream, up to its first line feed, and the chunks
after them. -/
def nextPiece (limit : Nat) : List (List UInt8) → List UInt8 × List (List UInt8)
  | [] => ([], [])
  | chunk :: chunks =>
    let (piece, complete, rest) := takePiece limit chunk
    if complete then (piece, if rest.isEmpty then chunks else rest :: chunks)
    else
      let (more, chunks) := nextPiece (limit - piece.length) chunks
      (piece ++ more, chunks)

/-- Why a piece of the stream is no line. -/
inductive LineFault where
  | tooLong (max : UInt64)
  | notText (fault : Utf8.Fault)
  deriving DecidableEq, Repr

/-- The wording of a fault. -/
def LineFault.message : LineFault → String
  | .tooLong max => s!"line exceeds {max.toNat} bytes"
  | .notText fault => s!"io: {fault.message}"

/-- The bytes that a piece may have when lines have at most `max`: one more. There is no
such number of 64 bits behind the largest. -/
def pieceLimit? (max : UInt64) : Option Nat :=
  if max.toNat + 1 < 18446744073709551616 then some (max.toNat + 1) else none

/-- How the program ends that reads lines without a limit of their pieces. -/
def overflowMessage : String := "attempt to add with overflow"

/-- The line that a piece holds, without the line feeds and carriage returns at its
end. -/
def lineOfPiece (max : UInt64) (piece : List UInt8) : Except LineFault String :=
  match Utf8.decode piece with
  | .error fault => .error (.notText fault)
  | .ok cs =>
    if cs.getLast? ≠ some '\n' ∧ max.toNat < piece.length then .error (.tooLong max)
    else .ok (String.ofList (cs.reverse.dropWhile fun c => c = '\r' || c = '\n').reverse)

/-- What a call of a reader comes to. -/
inductive Reading where
  /-- A line, or why the piece in its place is none. -/
  | line (read : Except LineFault String)
  /-- No byte is left. -/
  | ended
  /-- Pieces have no limit, and the program that reads breaks off. -/
  | overflow

/-- What the next call of a reader comes to, and the chunks after it. The limit of the piece
is counted before a byte is read. -/
def readLine (max : UInt64) (chunks : List (List UInt8)) : Reading × List (List UInt8) :=
  match pieceLimit? max with
  | none => (.overflow, chunks)
  | some limit =>
    let (piece, chunks) := nextPiece limit chunks
    (if piece.isEmpty then .ended else .line (lineOfPiece max piece), chunks)

/-- What a reader finds in the bytes that have arrived. -/
inductive Found where
  /-- A line or an error, and the bytes after it. -/
  | line (read : Except LineFault String) (rest : List UInt8)
  /-- The end of the stream. -/
  | ended
  /-- No complete piece; more bytes have to arrive. -/
  | nothing
  /-- Pieces have no limit, and reading breaks off. -/
  | overflow

/-- What a reader finds in the bytes that have arrived; `finished` tells that no more
will. -/
def find (max : UInt64) (finished : Bool) (bytes : List UInt8) : Found :=
  match pieceLimit? max with
  | none => .overflow
  | some limit =>
    match takePiece limit bytes with
    | ([], complete, _) => if complete || finished then .ended else .nothing
    | (piece, complete, rest) =>
      if complete || finished then .line (lineOfPiece max piece) rest else .nothing

/-- The lines and errors of a stream, from at most `fuel` calls; none if one of them breaks
off. -/
def readLines (max : UInt64) :
    Nat → List (List UInt8) → Option (List (Except LineFault String))
  | 0, _ => some []
  | fuel + 1, chunks =>
    match readLine max chunks with
    | (.overflow, _) => none
    | (.ended, _) => some []
    | (.line line, chunks) => (readLines max fuel chunks).map (line :: ·)

/-- All lines and errors of a stream. Each takes a byte, so their number is at most that of
the bytes, and one more call finds the end. -/
def readAll (max : UInt64) (chunks : List (List UInt8)) :
    Option (List (Except LineFault String)) :=
  readLines max (chunks.flatten.length + 1) chunks

/-- A byte list in chunks of the given size, at most `fuel` of them. -/
def chunksOf (size : Nat) : Nat → List UInt8 → List (List UInt8)
  | 0, _ => []
  | fuel + 1, bytes =>
    if bytes.isEmpty then [] else bytes.take size :: chunksOf size fuel (bytes.drop size)

/-! ### Writing -/

/-- The server's first line. -/
def infoLine (hello : Hello) : String := "INFO " ++ hello.toJson.toText

/-- A client's connect line. -/
def connectLine (request : Request) : String := "CONNECT " ++ request.toJson.toText

/-- The line that reports an error. -/
def errorLine (message : String) : String := "-ERR '" ++ message ++ "'"

/-- A line with the bytes that end it. -/
def frame (line : String) : String := line ++ "\r\n"

end Gatekeeper.Wire
