import Gatekeeper.Proofs.Session.Lobby

/-!
# `Gatekeeper.Proofs.Session.Reading`: a client's bytes, turn by turn

When bytes of a client arrive, its session reads all the lines that are there and takes all
the steps that are due, with nobody in between. In a lobby each of these steps is a turn of
its own. So a reception does in one go what some turns in a row do, and what is known of every
run of a lobby is known of it.

* `goes_arrive`, `goes_finish`, `goes_expire`, `goes_dismiss`: whatever happens to a reception
  is a number of turns.
* `Lobby.run_of_goes`: these turns are a run of the lobby in which nobody else does anything.
-/

set_option autoImplicit false

namespace Gatekeeper.Session

open Gatekeeper.Wire

/-- Turns of one session in a row, with nobody in between. -/
def Seat.turns (maxLine : UInt64) (scene : Scene) (turns : List Turn) (seat : Seat)
    (shared : Shared) : Seat × Shared :=
  turns.foldl (fun after turn => after.1.turn maxLine scene after.2 turn) (seat, shared)

/-- Some turns lead from one reception to the other. -/
def Goes (maxLine : UInt64) (scene : Scene) (before after : Reception × Shared) : Prop :=
  ∀ acts, ∃ turns acts', Seat.turns maxLine scene turns ⟨before.1, acts⟩ before.2 =
    (⟨after.1, acts'⟩, after.2)

section
variable {maxLine : UInt64} {scene : Scene}

/-- Turns may be cut anywhere. -/
theorem Seat.turns_append (front back : List Turn) (seat : Seat) (shared : Shared) :
    seat.turns maxLine scene (front ++ back) shared =
      (seat.turns maxLine scene front shared).1.turns maxLine scene back
        (seat.turns maxLine scene front shared).2 := List.foldl_append

/-- No turn leads from a reception to itself. -/
theorem goes_refl (now : Reception × Shared) : Goes maxLine scene now now := fun acts =>
  ⟨[], acts, rfl⟩

/-- Turns that lead on from where others led are turns in a row. -/
theorem Goes.trans {before between after : Reception × Shared}
    (h : Goes maxLine scene before between) (h' : Goes maxLine scene between after) :
    Goes maxLine scene before after := by
  intro acts
  obtain ⟨turns, acts', hturns⟩ := h acts
  obtain ⟨turns', acts'', hturns'⟩ := h' acts'
  refine ⟨turns ++ turns', acts'', ?_⟩
  rw [Seat.turns_append, hturns]
  exact hturns'

/-- A turn that is a step of the session. -/
theorem goes_act {reception reception' : Reception} {shared : Shared} {turn : Turn} {event : Event}
    (hturn : ∀ acts, Seat.turn maxLine scene ⟨reception, acts⟩ shared turn =
      (Seat.mk reception' acts).act scene event shared) :
    Goes maxLine scene (reception, shared)
      ({ reception' with session := (step scene event reception'.session shared).1 },
        (step scene event reception'.session shared).2) := by
  intro acts
  refine ⟨[turn], acts ++ ((reception'.session.script scene event).run scene shared).1, ?_⟩
  show Seat.turn maxLine scene ⟨reception, acts⟩ shared turn = _
  rw [hturn, ← run_script]
  rfl

/-- All steps that are due are turns. -/
theorem goes_proceed (reception : Reception) (shared : Shared) (count : Nat) :
    Goes maxLine scene (reception, shared)
      ({ reception with session := (proceed scene count reception.session shared).1 },
        (proceed scene count reception.session shared).2) := by
  induction count generalizing reception shared with
  | zero => exact goes_refl _
  | succ count ih =>
    cases hwaiting : reception.session.isWaiting with
    | false =>
      have hturn : ∀ acts, Seat.turn maxLine scene ⟨reception, acts⟩ shared .went =
          (Seat.mk reception acts).act scene .proceed shared := by
        intro acts
        rw [Seat.turn, Seat.session, hwaiting]
        rfl
      exact (goes_act hturn).trans (ih _ _)
    | true =>
      -- A session that waits would read a line in its turn, but no step is due.
      have hidle : step scene .proceed reception.session shared = (reception.session, shared) := by
        simp only [isWaiting, Bool.or_eq_true, decide_eq_true_iff] at hwaiting
        rcases hwaiting with due | due <;> simp only [step, due]
      rw [proceed, hidle]
      exact ih reception shared

/-- A turn that is an event of the session, and all steps that are due after it. -/
theorem goes_handle {reception reception' : Reception} {shared : Shared} {turn : Turn}
    {event : Event}
    (hturn : ∀ acts, Seat.turn maxLine scene ⟨reception, acts⟩ shared turn =
      (Seat.mk reception' acts).act scene event shared) :
    Goes maxLine scene (reception, shared)
      ({ reception' with session := (reception'.session.handle scene event shared).1 },
        (reception'.session.handle scene event shared).2) :=
  (goes_act hturn).trans (goes_proceed _ _ _)

/-- The reading of lines is a number of turns. The induction is on the lines that may be
read. -/
theorem goes_drain (fuel : Nat) (reception : Reception) (shared : Shared) :
    Goes maxLine scene (reception, shared) (reception.drain maxLine scene fuel shared) := by
  induction fuel generalizing reception shared with
  | zero => exact goes_refl _
  | succ fuel ih =>
    rw [Reception.drain]
    cases hwaiting : reception.session.isWaiting with
    | false => exact goes_refl _
    | true =>
      cases hfind : find maxLine reception.finished reception.unread with
      | nothing => exact goes_refl _
      | ended | overflow =>
        -- A stream that is over, or a line that cannot be bounded, closes the session in
        -- one turn.
        have hturn : ∀ acts, Seat.turn maxLine scene ⟨reception, acts⟩ shared .went =
            (Seat.mk reception acts).act scene .closed shared := by
          intro acts
          simp [Seat.turn, Seat.session, hwaiting, hfind]
        exact goes_handle hturn
      | line read unread =>
        have hturn : ∀ acts, Seat.turn maxLine scene ⟨reception, acts⟩ shared .went =
            (Seat.mk { reception with unread } acts).act scene (.line read) shared := by
          intro acts
          simp [Seat.turn, Seat.session, hwaiting, hfind]
        exact (goes_handle hturn).trans (ih _ _)

/-- What a session does when bytes arrive, it does in turns. -/
theorem goes_arrive (reception : Reception) (bytes : List UInt8) (shared : Shared) :
    Goes maxLine scene (reception, shared) (reception.arrive maxLine scene bytes shared) := by
  have harrived : Goes maxLine scene (reception, shared)
      ({ reception with unread := reception.unread ++ bytes }, shared) := fun acts =>
    ⟨[.arrived bytes], acts, rfl⟩
  exact harrived.trans (goes_drain _ _ _)

/-- What a session does when the stream ends, it does in turns. -/
theorem goes_finish (reception : Reception) (shared : Shared) :
    Goes maxLine scene (reception, shared) (reception.finish maxLine scene shared) := by
  have hfinished : Goes maxLine scene (reception, shared)
      ({ reception with finished := true }, shared) := fun acts => ⟨[.finished], acts, rfl⟩
  exact hfinished.trans (goes_drain _ _ _)

/-- What a session does when its deadline passes is one turn. -/
theorem goes_expire (reception : Reception) (shared : Shared) :
    Goes maxLine scene (reception, shared) (reception.await scene .expired shared) := by
  have hturn : ∀ acts, Seat.turn maxLine scene ⟨reception, acts⟩ shared .expired =
      (Seat.mk reception acts).act scene .expired shared := fun _ => rfl
  exact goes_handle hturn

/-- What a session does when the server hangs up is one turn. -/
theorem goes_dismiss (reception : Reception) (shared : Shared) :
    Goes maxLine scene (reception, shared) (reception.await scene .dismissed shared) := by
  have hturn : ∀ acts, Seat.turn maxLine scene ⟨reception, acts⟩ shared .dismissed =
      (Seat.mk reception acts).act scene .dismissed shared := fun _ => rfl
  exact goes_handle hturn

end

namespace Lobby

/-- The turns of one session in a row are a run of the lobby, which leaves all other sessions as
they are. -/
theorem run_turns {lobby : Lobby} {name : String} {seat : Seat}
    (h : lobby.seats.find? name = some seat) (scene : Scene) (turns : List Turn) :
    let after := lobby.run (turns.map (.turned name scene))
    let outcome := seat.turns lobby.maxLine scene turns lobby.shared
    after.seats.find? name = some outcome.1 ∧ after.shared = outcome.2 ∧
      ∀ other, other ≠ name → after.seats.find? other = lobby.seats.find? other := by
  induction turns generalizing lobby seat with
  | nil => exact ⟨h, rfl, fun _ _ => rfl⟩
  | cons turn rest ih =>
    have hstep := step_turned h scene turn
    have hseat : (lobby.step (.turned name scene turn)).seats.find? name =
        some (seat.turn lobby.maxLine scene lobby.shared turn).1 := by
      rw [hstep, Roster.find?_set, if_pos rfl]
    obtain ⟨hown, hshared, hothers⟩ := ih hseat
    rw [hstep] at hown hshared hothers
    refine ⟨?_, ?_, fun other hne => ?_⟩
    · rw [List.map_cons, run, List.foldl_cons, hstep]
      exact hown
    · rw [List.map_cons, run, List.foldl_cons, hstep]
      exact hshared
    · rw [List.map_cons, run, List.foldl_cons, hstep]
      refine (hothers other hne).trans ?_
      rw [Roster.find?_set, if_neg hne]

/-- What happens to a reception in some turns is a run of the lobby. -/
theorem run_of_goes {lobby : Lobby} {name : String} {seat : Seat}
    (h : lobby.seats.find? name = some seat) {scene : Scene} {after : Reception × Shared}
    (hgoes : Goes lobby.maxLine scene (seat.reception, lobby.shared) after) :
    ∃ (turns : List Turn) (acts : List Act),
      let lobby' := lobby.run (turns.map (.turned name scene))
      lobby'.seats.find? name = some ⟨after.1, acts⟩ ∧ lobby'.shared = after.2 ∧
        ∀ other, other ≠ name → lobby'.seats.find? other = lobby.seats.find? other := by
  obtain ⟨turns, acts, hturns⟩ := hgoes seat.acts
  have hrun := run_turns h scene turns
  have houtcome : seat.turns lobby.maxLine scene turns lobby.shared =
    (⟨after.1, acts⟩, after.2) := hturns
  rw [houtcome] at hrun
  exact ⟨turns, acts, hrun⟩

end Lobby

end Gatekeeper.Session
