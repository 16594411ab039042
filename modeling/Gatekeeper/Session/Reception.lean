import Gatekeeper.Session.Basic

/-!
# `Gatekeeper.Session.Reception`: a session and its client's bytes

A client's bytes arrive in portions of any size. A session reads a line of them
whenever it waits for one. What it did not read when it ends is never read.

* `Reception.arrive`, `Reception.finish`: bytes, and the end of the stream.
* `Reception.await`: an event that is no line.
-/

set_option autoImplicit false

namespace Gatekeeper.Session

open Gatekeeper.Wire

/-- A session and what its client sent that it did not read yet. -/
structure Reception where
  session : Session
  unread : List UInt8
  /-- Whether the client's side of the stream ended. -/
  finished : Bool

namespace Reception

variable (maxLine : UInt64) (scene : Scene)

/-- The reading of lines while the session waits for them, at most `fuel` times. Where reading
breaks off, the session ends as if its client had gone: nothing is written, and all it holds is
given back. -/
def drain : Nat → Reception → Shared → Reception × Shared
  | 0, reception, shared => (reception, shared)
  | fuel + 1, reception, shared =>
    if !reception.session.isWaiting then (reception, shared)
    else
      match find maxLine reception.finished reception.unread with
      | .nothing => (reception, shared)
      | .ended | .overflow =>
        let (session, shared) := reception.session.handle scene .closed shared
        ({ reception with session }, shared)
      | .line read rest =>
        let (session, shared) := reception.session.handle scene (.line read) shared
        drain fuel { reception with session, unread := rest } shared

/-- All that the session does with the bytes at hand. Each line takes a byte of them,
and the end of the stream comes after the last. -/
def read (reception : Reception) (shared : Shared) : Reception × Shared :=
  reception.drain maxLine scene (reception.unread.length + 1) shared

/-- Bytes arrive. -/
def arrive (reception : Reception) (bytes : List UInt8) (shared : Shared) : Reception × Shared :=
  { reception with unread := reception.unread ++ bytes }.read maxLine scene shared

/-- The client's side of the stream ends. -/
def finish (reception : Reception) (shared : Shared) : Reception × Shared :=
  { reception with finished := true }.read maxLine scene shared

/-- An event that is no line. -/
def await (reception : Reception) (event : Event) (shared : Shared) : Reception × Shared :=
  let (session, shared) := reception.session.handle scene event shared
  ({ reception with session }, shared)

end Reception

end Gatekeeper.Session
