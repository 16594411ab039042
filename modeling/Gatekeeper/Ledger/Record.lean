import Gatekeeper.Json.Record
import Gatekeeper.Time.Written

/-!
# `Gatekeeper.Ledger.Record`: what is kept about clients

A connection, the producers and consumers that belong to connections, and
messages put aside after their delivery failed. Each record has a JSON form with
its fields in the order given here.
-/

set_option autoImplicit false

namespace Gatekeeper.Ledger

open Gatekeeper.Json

/-- The JSON form of an instant. -/
def ofTimestamp (t : Timestamp) : Value := ofText t.write

/-- The instant of a JSON value. -/
def timestamp? (value : Value) : Option Timestamp := (text? value).bind Timestamp.read?

/-- A connection: when it was last heard of, and whether it counts as live. -/
structure Connection where
  id : String
  lastHeartbeat : Timestamp
  isActive : Bool
  deriving DecidableEq, Repr

namespace Connection

/-- The JSON form. -/
def toJson (record : Connection) : Value :=
  object [("id", ofText record.id), ("last_heartbeat", ofTimestamp record.lastHeartbeat),
    ("is_active", some (.bool record.isActive))]

/-- The connection of a JSON value. -/
def ofJson? (value : Value) : Option Connection := do
  match ← slots? ["id", "last_heartbeat", "is_active"] value with
  | [id, lastHeartbeat, isActive] =>
    some ⟨← required? text? id, ← required? timestamp? lastHeartbeat, ← required? bool? isActive⟩
  | _ => none

end Connection

/-- A producer or a consumer of a connection. -/
structure Child where
  id : String
  connection : String
  isActive : Bool
  deriving DecidableEq, Repr

namespace Child

/-- The JSON form. -/
def toJson (record : Child) : Value :=
  object [("id", ofText record.id), ("connection_id", ofText record.connection),
    ("is_active", some (.bool record.isActive))]

/-- The producer or consumer of a JSON value. -/
def ofJson? (value : Value) : Option Child := do
  match ← slots? ["id", "connection_id", "is_active"] value with
  | [id, connection, isActive] =>
    some ⟨← required? text? id, ← required? text? connection, ← required? bool? isActive⟩
  | _ => none

end Child

/-- A message put aside after its delivery failed. -/
structure PoisonMessage where
  id : String
  subject : String
  payload : List UInt8
  createdAt : Timestamp
  deriving DecidableEq, Repr

namespace PoisonMessage

/-- The JSON form. -/
def toJson (record : PoisonMessage) : Value :=
  object [("id", ofText record.id), ("subject", ofText record.subject),
    ("payload", ofBytes record.payload), ("created_at", ofTimestamp record.createdAt)]

/-- The message of a JSON value. -/
def ofJson? (value : Value) : Option PoisonMessage := do
  match ← slots? ["id", "subject", "payload", "created_at"] value with
  | [id, subject, payload, createdAt] =>
    some ⟨← required? text? id, ← required? text? subject, ← required? bytes? payload,
      ← required? timestamp? createdAt⟩
  | _ => none

end PoisonMessage

end Gatekeeper.Ledger
