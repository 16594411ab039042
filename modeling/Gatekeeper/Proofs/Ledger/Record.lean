import Gatekeeper.Ledger.Record
import Gatekeeper.Proofs.Json.Record
import Gatekeeper.Proofs.Time.Written

/-!
# `Gatekeeper.Proofs.Ledger.Record`: records are read back from their text

A record is an object of texts, truth values, bytes and instants. Each of these is read back from
its JSON value, whatever characters a text holds and whatever instant it is; so is the record,
and the text of its object as a whole.

* `Connection.ofJson?_toJson`, `Child.ofJson?_toJson`, `PoisonMessage.ofJson?_toJson`: the JSON
  form of a record is read as the record.
* `ReadsBack`, `records_survive`: so is its text, and the record is written as that text again.
-/

set_option autoImplicit false

namespace Gatekeeper.Ledger

open Gatekeeper.Json

/-- Every record is read back from its text, and what is read is written as that text again. -/
structure ReadsBack {α : Type} (write : α → Value) (read : Value → Option α) : Prop where
  read_text : ∀ record, (Value.parse? (write record).toText.toList).bind read = some record
  write_read : ∀ record,
    ((Value.parse? (write record).toText.toList).bind read).map (fun back => (write back).toText) =
      some (write record).toText

/-- It is enough that the JSON form is read back, if its own text is. -/
theorem readsBack_of_plain {α : Type} {write : α → Value} {read : Value → Option α}
    (hplain : ∀ record, (write record).Plain)
    (hread : ∀ record, read (write record) = some record) :
    ReadsBack write read := by
  have htext : ∀ record, (Value.parse? (write record).toText.toList).bind read = some record := by
    intro record
    rw [Value.parse?_toText (hplain record)]
    exact hread record
  refine ⟨htext, fun record => ?_⟩
  rw [htext, Option.map_some]

/-- An instant is read back from its text. -/
theorem timestamp?_ofTimestamp (t : Timestamp) : timestamp? (ofTimestamp t) = some t := by
  rw [timestamp?, ofTimestamp, text?_ofText, Option.bind_some, t.read?_write]

/-- An instant is written as a text, which is a plain value. -/
@[simp]
theorem plain_ofTimestamp (t : Timestamp) : (ofTimestamp t).Plain := plain_ofText t.write

namespace Connection

/-- A connection is written as a plain value: two texts and a switch. -/
theorem plain_toJson (record : Connection) : record.toJson.Plain := by
  apply plain_object
  simp

/-- A connection is read back from what was written. -/
theorem ofJson?_toJson (record : Connection) :
    Connection.ofJson? record.toJson = some record := by
  have hslots : slots? ["id", "last_heartbeat", "is_active"] record.toJson =
      some [some (ofText record.id), some (ofTimestamp record.lastHeartbeat),
        some (.bool record.isActive)] :=
    slots?_object [("id", ofText record.id), ("last_heartbeat", ofTimestamp record.lastHeartbeat),
      ("is_active", some (.bool record.isActive))] (by simp)
  unfold Connection.ofJson?
  rw [hslots]
  simp only [Option.bind_eq_bind, Option.bind_some, required?_some text?_ofText,
    required?_some timestamp?_ofTimestamp, required?_some bool?_bool]

end Connection

namespace Child

/-- A child is written as a plain value. -/
theorem plain_toJson (record : Child) : record.toJson.Plain := by
  apply plain_object
  simp

/-- A child is read back from what was written. -/
theorem ofJson?_toJson (record : Child) : Child.ofJson? record.toJson = some record := by
  have hslots : slots? ["id", "connection_id", "is_active"] record.toJson =
      some [some (ofText record.id), some (ofText record.connection),
        some (.bool record.isActive)] :=
    slots?_object [("id", ofText record.id), ("connection_id", ofText record.connection),
      ("is_active", some (.bool record.isActive))] (by simp)
  unfold Child.ofJson?
  rw [hslots]
  simp only [Option.bind_eq_bind, Option.bind_some, required?_some text?_ofText,
    required?_some bool?_bool]

end Child

namespace PoisonMessage

/-- A message is written as a plain value, with its payload as numbers. -/
theorem plain_toJson (record : PoisonMessage) : record.toJson.Plain := by
  apply plain_object
  simp

/-- A message is read back from what was written, its payload byte for byte. -/
theorem ofJson?_toJson (record : PoisonMessage) :
    PoisonMessage.ofJson? record.toJson = some record := by
  have hslots : slots? ["id", "subject", "payload", "created_at"] record.toJson =
      some [some (ofText record.id), some (ofText record.subject),
        some (ofBytes record.payload), some (ofTimestamp record.createdAt)] :=
    slots?_object [("id", ofText record.id), ("subject", ofText record.subject),
      ("payload", ofBytes record.payload), ("created_at", ofTimestamp record.createdAt)] (by simp)
  unfold PoisonMessage.ofJson?
  rw [hslots]
  simp only [Option.bind_eq_bind, Option.bind_some, required?_some text?_ofText,
    required?_some bytes?_ofBytes, required?_some timestamp?_ofTimestamp]

end PoisonMessage

/-- Connections, producers, consumers and messages are read back from their text, whatever
characters their texts hold, whatever their bytes are and whenever they were last heard of or made;
and they are written as the same text again. -/
theorem records_survive :
    ReadsBack Connection.toJson Connection.ofJson? ∧ ReadsBack Child.toJson Child.ofJson? ∧
      ReadsBack PoisonMessage.toJson PoisonMessage.ofJson? := by
  refine ⟨?_, ?_, ?_⟩
  · exact readsBack_of_plain Connection.plain_toJson Connection.ofJson?_toJson
  · exact readsBack_of_plain Child.plain_toJson Child.ofJson?_toJson
  · exact readsBack_of_plain PoisonMessage.plain_toJson PoisonMessage.ofJson?_toJson

end Gatekeeper.Ledger
