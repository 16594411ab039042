import Gatekeeper.Proofs.Settings.Offer
import Gatekeeper.Proofs.Text.Decimal
import Gatekeeper.Proofs.Wire.Stream

/-!
# `Gatekeeper.Proofs.Wire.Limit`: the limits that lines may be given

Lines may be given any limit but zero. A reader takes up to one byte more than the limit, counted
in 64 bits. Behind the largest number of 64 bits there is no such count, and a program that reads
with this limit breaks off before it has read a byte. There is no other such limit.

* `Accepted`, `accepted_iff_pos`: the limits that settings may have.
* `accepted_limit`: which of them a reader can work with.
-/

set_option autoImplicit false

namespace Gatekeeper.Wire

open Gatekeeper.Text Gatekeeper.Settings

/-! ### Limits in settings -/

/-- There are sources from which settings with this limit of lines are loaded. -/
def Accepted (max : UInt64) : Prop :=
  ∃ env files settings, load env files = .ok settings ∧ settings.maxLineBytes = max

/-- A number of 64 bits is read back from its digits. -/
theorem wordOfText?_write (n : UInt64) :
    wordOfText? (String.ofList (Decimal.write n.toNat)) = some n := by
  rw [wordOfText?, numberOfText?, String.toList_ofList, Decimal.read_trim_write n.toNat_lt]
  exact congrArg some UInt64.ofNat_toNat

/-- The environment that only sets a limit of lines. -/
def limited (max : UInt64) : Environment :=
  environmentOf [("WARDEN_MAX_LINE_BYTES", String.ofList (Decimal.write max.toNat))]

/-- In an environment that sets the limit only, nothing else is set. -/
theorem text?_limited_of_ne {max : UInt64} {name : String} (h : name ≠ "WARDEN_MAX_LINE_BYTES") :
    (limited max).text? name = none := by
  rw [limited, text?_environmentOf, List.lookup_cons, beq_eq_false_iff_ne.mpr h]
  rfl

/-- There the limit is set to its digits. -/
theorem text?_limited (max : UInt64) : (limited max).text? "WARDEN_MAX_LINE_BYTES" =
    some (String.ofList (Decimal.write max.toNat)) := by
  rw [limited, text?_environmentOf]
  exact List.lookup_cons_self

/-- Such an environment is legible. -/
theorem legible_limited (max : UInt64) : LegibleEnvironment (limited max) where
  addresses name hname := by
    have hne : name ≠ "WARDEN_MAX_LINE_BYTES" := by
      rintro rfl
      exact absurd hname (by decide)
    rw [text?_limited_of_ne hne]
    exact legible_none
  numbers name _ := by
    -- The one number that is set is written as a number is read.
    by_cases heq : name = "WARDEN_MAX_LINE_BYTES"
    · rw [heq, text?_limited, legible_some_iff, wordOfText?_write]
      rfl
    · rw [text?_limited_of_ne heq]
      exact legible_none
  backend := by
    rw [text?_limited_of_ne (by decide)]
    exact legible_none
  limits hurl := absurd (text?_limited_of_ne (by decide)) hurl

/-- Every limit but zero is accepted. -/
theorem accepted_iff_pos {max : UInt64} : Accepted max ↔ 0 < max := by
  constructor
  · rintro ⟨env, files, settings, hload, rfl⟩
    exact (positive_of_load hload).maxLineBytes
  · intro hpos
    -- With nothing else set, storage is in memory and there is no file.
    have hstorage : (merged (limited max) .nothing).storage = .memory := by
      rw [merged_nothing, Offer.onto, Offer.ofEnvironment, text?_limited_of_ne (by decide)]
      rfl
    have hgood : (merged (limited max) .nothing).hasStorage = true := by
      rw [hasStorage, hstorage]
    have hlimit : (merged (limited max) .nothing).maxLineBytes = max := by
      rw [merged_nothing, Offer.onto, Offer.ofEnvironment]
      dsimp only
      rw [text?_limited, Option.bind_some, wordOfText?_write]
      simp [positive?, Option.filter, hpos]
    have hgives : Gives (limited max) (fun _ => .error .missing) .nothing :=
      .nothing (text?_limited_of_ne (by decide))
    have hload := load_of_legible hgives (legible_limited max) legible_nothing
    rw [if_pos ⟨hgood, hgood⟩] at hload
    exact ⟨_, _, _, hload, hlimit⟩

/-! ### Limits of a reader -/

/-- The largest number of 64 bits. -/
def largest : UInt64 := 18446744073709551615

/-- A number of 64 bits that is not the largest can be counted one further. -/
theorem toNat_lt_of_ne {max : UInt64} (h : max ≠ largest) : max.toNat < 2 ^ 64 - 1 := by
  have hne : max.toNat ≠ largest.toNat := fun heq => h (UInt64.toNat_inj.mp heq)
  have hlargest : largest.toNat = 2 ^ 64 - 1 := rfl
  have hbound := max.toNat_lt
  omega

/-- Pieces have a limit for all limits of lines but the largest. -/
theorem pieceLimit?_eq_some_iff {max : UInt64} :
    pieceLimit? max = some (max.toNat + 1) ↔ max ≠ largest := by
  refine ⟨?_, fun h => pieceLimit?_eq (toNat_lt_of_ne h)⟩
  rintro h rfl
  cases h

/-- A reader without a limit of pieces breaks off and takes nothing off the stream. -/
theorem readLine_largest (chunks : List (List UInt8)) :
    readLine largest chunks = (.overflow, chunks) := rfl

/-- Where there are bytes, a reader comes to a line or to an error just if pieces have a limit. -/
theorem exists_line_iff {max : UInt64} {chunks : List (List UInt8)} (hbytes : chunks.flatten ≠ []) :
    (∃ read, (readLine max chunks).1 = .line read) ↔ max ≠ largest := by
  constructor
  · rintro ⟨read, hread⟩ rfl
    cases hread
  · intro hne
    have hread := readLine_of_front (pieceLimit?_eq_some_iff.mpr hne) (Nat.succ_pos _) hbytes
    exact ⟨_, hread.1⟩

/-- **What a reader can work with.** Every limit but zero is accepted. For all of them but the
largest number of 64 bits, one byte more than the limit is a number of 64 bits too, and a reader
comes to a line or to an error in every stream that has bytes left: it neither breaks off nor finds
an end. With the largest it breaks off, whatever there is to read, and takes nothing off it. -/
theorem accepted_limit (max : UInt64) :
    (Accepted max ↔ 0 < max) ∧ (pieceLimit? max = some (max.toNat + 1) ↔ max ≠ largest) ∧
      ∀ chunks, (chunks.flatten ≠ [] →
          ((∃ read, (readLine max chunks).1 = .line read) ↔ max ≠ largest)) ∧
        (max = largest → readLine max chunks = (.overflow, chunks)) := by
  refine ⟨accepted_iff_pos, pieceLimit?_eq_some_iff, fun chunks => ⟨exists_line_iff, ?_⟩⟩
  rintro rfl
  exact readLine_largest chunks

/-- With the standard limit, a reader finds the bytes that are there. -/
theorem accepted_limit_standard : Accepted standard.maxLineBytes ∧
    ([[80], [73, 78, 71]] : List (List UInt8)).flatten ≠ [] ∧
    ∃ read, (readLine standard.maxLineBytes [[80], [73, 78, 71]]).1 = .line read := by
  obtain ⟨haccepted, -, hread⟩ := accepted_limit standard.maxLineBytes
  exact ⟨haccepted.mpr (by decide), by decide,
    ((hread [[80], [73, 78, 71]]).1 (by decide)).mpr (by decide)⟩

/-- The largest limit is accepted, from the environment and from a file. With it, a reader breaks
off before the bytes of a client's line. -/
theorem largest_limit_overflows :
    (∃ settings, load (environmentOf [("WARDEN_MAX_LINE_BYTES", "18446744073709551615")])
        (fun _ => .error .missing) = .ok settings ∧
      settings.maxLineBytes = 18446744073709551615) ∧
    (∃ settings, load (environmentOf [("WARDEN_BROKER_CONFIG", "f")])
        (fun _ => .ok (Utf8.encodeString "max_line_bytes: 18446744073709551615\n")) =
          .ok settings ∧
      settings.maxLineBytes = 18446744073709551615) ∧
    pieceLimit? 18446744073709551615 = none ∧
    readLine 18446744073709551615 [Utf8.encodeString "PING\n"] =
      (.overflow, [Utf8.encodeString "PING\n"]) ∧
    readAll 18446744073709551615 [Utf8.encodeString "PING\n"] = none :=
  ⟨⟨{ standard with maxLineBytes := 18446744073709551615 }, by decide +kernel, rfl⟩,
    ⟨{ standard with maxLineBytes := 18446744073709551615 }, by decide +kernel, rfl⟩, rfl, rfl, rfl⟩

end Gatekeeper.Wire
