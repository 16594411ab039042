import Gatekeeper.Main
import Gatekeeper.Proofs.Handshake.Admission
import Gatekeeper.Proofs.Session.Script
import Gatekeeper.Proofs.Sweep.CatchUp
import Gatekeeper.Proofs.Sweep.Retirement
import Gatekeeper.Sweep.Sweeper
import Gatekeeper.Proofs.Session.Course
import Gatekeeper.Proofs.Session.Lobby
import Gatekeeper.Proofs.Session.Outsider
import Gatekeeper.Proofs.Session.Transcript
import Gatekeeper.Proofs.Session.Reading
import Gatekeeper.Proofs.Base64Url.Bits
import Gatekeeper.Proofs.Key.Canonical
import Gatekeeper.Proofs.Handshake.Finality
import Gatekeeper.Proofs.Handshake.Message
import Gatekeeper.Proofs.Session.Storage
import Gatekeeper.Proofs.Session.Watch
import Gatekeeper.Proofs.Session.Zombie
import Gatekeeper.Proofs.Text.Utf8.Decode
import Gatekeeper.Proofs.Wire.Line
import Gatekeeper.Proofs.Wire.Message
import Gatekeeper.Proofs.Ledger.History
import Gatekeeper.Proofs.Startup
import Gatekeeper.Proofs.Throttle
import Gatekeeper.Proofs.Handshake.Vouch
import Gatekeeper.Proofs.Handshake.Honest
import Gatekeeper.Proofs.Roster.Usage
import Gatekeeper.Proofs.Sweep.Books
import Gatekeeper.Proofs.Settings.Precedence
import Gatekeeper.Proofs.Settings.Acceptance
import Gatekeeper.Proofs.Wire.Limit
import Gatekeeper.Proofs.Settings.Number
import Gatekeeper.Proofs.Key.Seed
import Gatekeeper.Proofs.Handshake.Issuance
import Gatekeeper.Proofs.Ledger.Repetition
import Gatekeeper.Proofs.Sweep.Timetable
import Gatekeeper.Proofs.Ledger.Heartbeat
import Gatekeeper.Proofs.Handshake.Policy
import Gatekeeper.Proofs.Wire.Command
import Gatekeeper.Proofs.Ledger.Record
import Gatekeeper.Proofs.Sweep.Cutoff
