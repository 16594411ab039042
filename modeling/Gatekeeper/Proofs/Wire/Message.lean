import Gatekeeper.Wire.Command
import Gatekeeper.Proofs.Handshake.Message
import Gatekeeper.Proofs.Text.Blank
import Gatekeeper.Proofs.Wire.Line

/-!
# `Gatekeeper.Proofs.Wire.Message`: messages survive the wire

A connect line is a word, a blank and an object in JSON, in which every control character is
written by letters or digits. So neither the framing nor the splitting into words sees anything
of the texts inside, and the payload is read back as the request that was sent.

* `Command.parse_connectLine`: a connect line is a connect with the same request.
* `messages_survive`: a connect line that is short enough arrives as it was sent and any other is
  an error; a hello is read back from its line.
-/

set_option autoImplicit false

namespace Gatekeeper.Wire

open Gatekeeper.Text Gatekeeper.Handshake
open Gatekeeper.Json.Value (parse?_toText)

/-! ### Words and blanks -/

/-- A request to connect is its operation, a blank and the request in braces. -/
theorem toList_connectLine (request : Request) :
    ∃ cs, (connectLine request).toList = "CONNECT ".toList ++ '\x7b' :: cs ++ ['\x7d'] ∧
      request.toJson.toText.toList = '\x7b' :: cs ++ ['\x7d'] := by
  obtain ⟨cs, hcs⟩ : ∃ cs, request.toJson.render = '\x7b' :: cs ++ ['\x7d'] :=
    Json.Value.render_object _
  have htext : request.toJson.toText.toList = '\x7b' :: cs ++ ['\x7d'] := by
    unfold Json.Value.toText
    rw [String.toList_ofList, hcs]
  refine ⟨cs, ?_, htext⟩
  unfold connectLine
  rw [String.toList_append, htext, List.append_assoc]

/-- The word of a connect line, and its payload. -/
theorem Command.split_connectLine (request : Request) :
    Command.split (connectLine request) = ("CONNECT".toList, request.toJson.toText.toList) := by
  obtain ⟨cs, hline, htext⟩ := toList_connectLine request
  have hpayload : trim ('\x7b' :: cs ++ ['\x7d']) = '\x7b' :: cs ++ ['\x7d'] :=
    trim_eq_self (trimmed_of_ends (by decide) (by decide) cs)
  have htrim : trim (connectLine request).toList =
      "CONNECT ".toList ++ '\x7b' :: cs ++ ['\x7d'] := by
    rw [hline]
    exact trim_eq_self (trimmed_of_ends (c := 'C') (by decide) (by decide)
      ("ONNECT ".toList ++ '\x7b' :: cs))
  unfold Command.split
  rw [htrim, htext]
  have hword : ("CONNECT ".toList ++ '\x7b' :: cs ++ ['\x7d']).takeWhile (!isBlank ·) =
      "CONNECT".toList := rfl
  have hrest : ("CONNECT ".toList ++ '\x7b' :: cs ++ ['\x7d']).dropWhile (!isBlank ·) =
      ' ' :: ('\x7b' :: cs ++ ['\x7d']) := rfl
  have hblank : trim (' ' :: ('\x7b' :: cs ++ ['\x7d'])) = trim ('\x7b' :: cs ++ ['\x7d']) := rfl
  dsimp only
  rw [hword, hrest, hblank, hpayload]

/-- A connect line is a connect with the same request. -/
theorem Command.parse_connectLine (request : Request) :
    Command.parse (connectLine request) = .ok (.connect request) := by
  have hrequest : Command.requestOf? request.toJson.toText.toList = some request := by
    obtain ⟨cs, -, htext⟩ := toList_connectLine request
    unfold Command.requestOf?
    rw [parse?_toText request.plain_toJson, htext]
    exact request.ofJson?_toJson
  unfold Command.parse
  rw [Command.split_connectLine]
  dsimp only
  have hword : String.ofList ("CONNECT".toList.map Char.toUpper) = "CONNECT" := by decide
  rw [if_pos hword, hrequest]

/-- It is printable, since the texts in the request are quoted. -/
theorem printable_connectLine (request : Request) : Printable (connectLine request) := by
  intro c hmem
  unfold connectLine at hmem
  rw [String.toList_append, List.mem_append] at hmem
  obtain hmem | hmem := hmem
  · exact Json.not_control_of_all rfl hmem
  · unfold Json.Value.toText at hmem
    rw [String.toList_ofList] at hmem
    exact Json.Value.not_control_of_mem_render request.plain_toJson hmem

/-! ### The wire -/

/-- Whatever texts a request holds and whatever bytes follow, a connect line that is shorter than
the limit is read as it was sent, with all that follows it left, and is a connect with that
request; one that is not shorter is an error, and too long if it has just the limit. A hello is
read back from the text behind the word of its line. -/
theorem messages_survive :
    (∀ (request : Request) (max : UInt64), max.toNat < 2 ^ 64 - 1 →
      ∀ (rest : List UInt8) (chunks : List (List UInt8)),
        chunks.flatten = Utf8.encodeString (frame (connectLine request)) ++ rest →
      let size := (Utf8.encodeString (connectLine request)).length
      (size < max.toNat → (readLine max chunks).1 = .line (.ok (connectLine request)) ∧
        (readLine max chunks).2.flatten = rest ∧
        Command.parse (connectLine request) = .ok (.connect request)) ∧
      (max.toNat ≤ size → ∃ fault, (readLine max chunks).1 = .line (.error fault)) ∧
      (size = max.toNat → (readLine max chunks).1 = .line (.error (.tooLong max)))) ∧
    ∀ hello : Hello, ∃ text, infoLine hello = "INFO " ++ text ∧
      (Json.Value.parse? text.toList).bind Hello.ofJson? = some hello := by
  constructor
  · intro request max hmax rest chunks hchunks size
    have hprintable := printable_connectLine request
    refine ⟨?_, ?_, ?_⟩
    · intro hsize
      obtain ⟨hline, hrest⟩ := readLine_frame hprintable hmax hsize hchunks
      exact ⟨hline, hrest, Command.parse_connectLine request⟩
    · intro hsize
      obtain ⟨fault, hfault, -⟩ := readLine_frame_of_ge hprintable hmax hsize hchunks
      exact ⟨fault, hfault⟩
    · intro hsize
      obtain ⟨fault, hfault, hexact⟩ :=
        readLine_frame_of_ge hprintable hmax (Nat.le_of_eq hsize.symm) hchunks
      rw [hfault, hexact hsize]
  · intro hello
    refine ⟨hello.toJson.toText, rfl, ?_⟩
    rw [parse?_toText hello.plain_toJson]
    exact hello.ofJson?_toJson

/-- A name of a line feed and a quote arrives, in two chunks, in front of one more byte. -/
theorem line_feed_survives :
    let request : Request := { Request.empty with name := some "\n\"" }
    let bytes := Utf8.encodeString (frame (connectLine request))
    (readLine 64 [bytes, [7]]).1 = .line (.ok (connectLine request)) ∧
      (readLine 64 [bytes, [7]]).2.flatten = [7] ∧
      Command.parse (connectLine request) = .ok (.connect request) :=
  (messages_survive.1 { Request.empty with name := some "\n\"" } 64 (by decide) [7] _ rfl).1
    (by decide)

end Gatekeeper.Wire
