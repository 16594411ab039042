import Gatekeeper.Bytes
import Gatekeeper.Health
import Gatekeeper.Startup
import Gatekeeper.Sweep.Schedule
import Std.Async.Signal
import Std.Async.TCP
import Std.Async.Timer
import Std.Sync.Mutex
import Std.Time.DateTime.Timestamp

/-!
# `Gatekeeper.Service`: a server at work

The outer layer: sockets, clocks, random bytes and the shutdown signal. Every client
has a task of its own. A task changes the hall in one go under a lock, and sends
what the hall has for its client afterwards.
-/

set_option autoImplicit false

namespace Gatekeeper

open Std.Async
open Gatekeeper.Session

/-- A server at work. -/
structure Service where
  hall : Std.Mutex Hall
  rule : Sweep.Rule

namespace Service

/-- The present instant. -/
def instantNow : IO Timestamp := do
  let now ← Std.Time.Timestamp.now
  let duration := now.val
  return (Timestamp.ofParts? duration.second.val duration.nano.val.toNat).getD .epoch

/-- The present scene. -/
def sceneNow : IO Scene := do
  return ⟨← IO.monoNanosNow, ← instantNow, .calm, true⟩

/-- Random bytes, as many as asked for. -/
partial def randomBlock (size : Nat) : IO (Bytes.Block size) := do
  match Bytes.Block.ofList? size (← IO.getRandomBytes size.toUSize).toList with
  | some block => return block
  | none => randomBlock size

/-- The id of a new connection. -/
def newConnection : IO String := do
  let bytes ← IO.getRandomBytes 16
  return String.join (bytes.toList.map fun b =>
    String.ofList (Nat.toDigits 16 (256 + b.toNat)).tail)

/-- Changes the hall in the present scene. -/
def change (service : Service) (happening : Scene → Hall → Hall) : IO Unit := do
  let scene ← sceneNow
  service.hall.atomically (modify (happening scene))

/-- What the hall holds. -/
def read {α : Type} (service : Service) (view : Hall → α) : IO α :=
  service.hall.atomically do return view (← get)

/-- Sends a client the lines that the hall has for it. -/
partial def send (service : Service) (client : TCP.Socket.Client) (name : String) :
    Async Unit := do
  let next : Option String ← (service.hall.atomically (modifyGet fun hall =>
    match hall.deliver? name with
    | some (line, hall) => (some line, hall)
    | none => (none, hall)) : IO (Option String))
  if let some line := next then
    client.send (Wire.frame line).toUTF8
    service.send client name

/-- How often a waiting task looks at the clock, in milliseconds. -/
def tick : Std.Time.Millisecond.Offset := 50

/-- The exchange with a client until its session ends. -/
partial def converse (service : Service) (client : TCP.Socket.Client) (name : String) :
    Async Unit := do
  service.send client name
  let ended ← service.read fun hall =>
    (hall.guests.find? name).all fun guest => guest.session.phase = .ended
  if !ended then
    let received ← Selectable.one
      #[.case (client.recvSelector 8192) fun bytes => return some bytes,
        .case (← Selector.sleep tick) fun _ => return none]
    match received with
    | some (some bytes) => service.change fun scene hall => hall.arrive scene name bytes.toList
    | some none => service.change fun scene hall => hall.finish scene name
    | none => service.change fun scene hall => hall.expire scene
    service.converse client name

/-- Lets a client in under a name; nonces are drawn until one is fresh. -/
partial def enter (service : Service) (name : String) : IO Unit := do
  let draw ← randomBlock Nonce.size
  let scene ← sceneNow
  let entered ← service.hall.atomically (modifyGet fun hall =>
    match hall.enter? scene name name [draw] with
    | some hall => (true, hall)
    | none => (false, hall))
  if !entered then service.enter name

/-- All that happens with one client. A client that cannot be reached any more has
ended its stream. -/
def serve (service : Service) (client : TCP.Socket.Client) : Async Unit := do
  let name ← newConnection
  service.enter name
  try
    service.converse client name
    client.shutdown
  catch _ => service.change fun scene hall => hall.finish scene name
  service.change fun _ hall => hall.forget name

/-- The pause after a client could not be let in, in milliseconds. -/
def backoff : Std.Time.Millisecond.Offset := 50

/-- Lets clients in until the shutdown signal comes. One that cannot be let in does not stop the
others. -/
partial def accept (service : Service) (listener : TCP.Socket.Server)
    (stop : Signal.Waiter) : Async Unit := do
  let next : Except IO.Error (Option TCP.Socket.Client) ←
    try
      .ok <$> Selectable.one
        #[.case listener.acceptSelector fun client => return some client,
          .case stop.selector fun _ => return none]
    catch fault => pure (.error fault)
  match next with
  | .ok (some client) =>
    background (service.serve client)
    service.accept listener stop
  | .ok none => pure ()
  | .error _ =>
    service.change fun scene hall => hall.turnAway scene
    sleep backoff
    service.accept listener stop

/-- Sweeps that are due from a moment on. -/
partial def sweep (service : Service) (due : Moment) : Async Unit := do
  let start ← IO.monoNanosNow
  service.change fun scene hall =>
    ((hall.sweepAt? service.rule scene.conditions scene.instant).map (·.2)).getD hall
  let next := Sweep.nextDue service.rule.interval.nanos due start
  sleep (.ofNat ((next - (← IO.monoNanosNow)) / 1000000))
  service.sweep next

/-! ### The pages for those who watch -/

/-- The first line of a request, when it has arrived. -/
partial def requestLine (client : TCP.Socket.Client) (seen : List UInt8) : Async String := do
  if seen.contains 10 || 8192 < seen.length then
    return ((Text.Utf8.decodeString? (seen.takeWhile (· ≠ 13))).getD "")
  else
    match ← client.recv? 8192 with
    | some bytes => requestLine client (seen ++ bytes.toList)
    | none => return ""

/-- Answers a request. -/
def watch (service : Service) (client : TCP.Socket.Client) : Async Unit := do
  let words := (← requestLine client []).splitOn " "
  let metrics ← service.read fun hall => hall.shared.metrics
  let answer := Health.answer .calm metrics (words.headD "") ((words.drop 1).headD "")
  let body := answer.body.render
  let head := s!"HTTP/1.1 {answer.status} \r\ncontent-length: {body.utf8ByteSize}\r\n" ++
    "connection: close\r\n\r\n"
  client.send (head ++ body).toUTF8
  client.shutdown

/-- Answers requests for ever. -/
partial def watchAll (service : Service) (listener : TCP.Socket.Server) : Async Unit := do
  let client ← listener.accept
  background (do try service.watch client catch _ => pure ())
  service.watchAll listener

/-! ### Listening -/

/-- An address in the form that sockets take. -/
def socketAddress : Net.SocketAddress → Std.Net.SocketAddress
  | .v4 [a, b, c, d] port => .v4 ⟨.ofParts a b c d, port⟩
  | .v4 _ port => .v4 ⟨.ofParts 0 0 0 0, port⟩
  | .v6 [a, b, c, d, e, f, g, h] _ port => .v6 ⟨.ofParts a b c d e f g h, port⟩
  | .v6 _ _ port => .v6 ⟨.ofParts 0 0 0 0 0 0 0 0, port⟩

/-- Opens an address. -/
def openAddress (address : Net.SocketAddress) : IO TCP.Socket.Server := do
  let listener ← TCP.Socket.Server.mk
  listener.bind (socketAddress address)
  listener.listen 128
  return listener

/-- Serves the pages; without their address there are none. -/
def watchAt (service : Service) (address : Net.SocketAddress) : Async Unit := do
  try service.watchAll (← openAddress address) catch _ => pure ()

/-- A server at work, until the shutdown signal comes. Then it hangs up on its
clients. -/
def run (server : Startup.Server) (listener : TCP.Socket.Server) : Async Unit := do
  let service : Service := ⟨← Std.Mutex.new server.hall, server.rule⟩
  let stop ← Signal.Waiter.mk .sigint false
  background (service.sweep (← IO.monoNanosNow))
  background (service.watchAt server.settings.metrics)
  service.accept listener stop
  service.change fun scene hall => hall.dismissAll scene

end Service

end Gatekeeper
