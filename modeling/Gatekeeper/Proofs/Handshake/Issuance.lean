import Gatekeeper.Proofs.Base64Url
import Gatekeeper.Proofs.Handshake.Gatehouse
import Mathlib.Data.List.Nodup
import Mathlib.Data.Stream.Init

/-!
# `Gatekeeper.Proofs.Handshake.Issuance`: the search for a fresh nonce

The random source never ends, so an opening may draw for as long as it likes. `open?` is run on
the first draws of such a stream: it yields nothing as long as it would have to go on, and the
draws it leaves tell how many it took.

A draw that is not fresh changes nothing, so only the first fresh draw counts. Different draws
have different nonces, and each nonce that is outstanding spoils at most one of them. This bounds
the search by the number of nonces that are outstanding, although nothing in the loop does.

* `freshNonce?_append_stale`: draws that are not fresh are passed over.
* `exists_fresh`: of more different draws than nonces are outstanding, one is fresh.
* `issues_first_fresh`: when an opening ends, and with which draw.
-/

set_option autoImplicit false

namespace Gatekeeper.Nonce

/-- A nonce gives away the draw it is of. -/
theorem ofDraw_injective {draw draw' : Draw} (h : ofDraw draw = ofDraw draw') : draw = draw' := by
  have htext : Base64Url.encode draw.val = Base64Url.encode draw'.val := String.ofList_injective h
  have hbytes := congrArg Base64Url.decode? htext
  rw [Base64Url.decode?_encode, Base64Url.decode?_encode] at hbytes
  exact Subtype.ext (Option.some.inj hbytes)

/-- A nonce has 32 characters. -/
theorem length_ofDraw (draw : Draw) : (ofDraw draw).length = 32 := by
  rw [ofDraw, String.length_ofList, Base64Url.length_encode, draw.property]
  rfl

end Gatekeeper.Nonce

namespace Gatekeeper.Handshake

variable {outstanding : Roster String Issue} {draws : Stream' Nonce.Draw}

/-! ### One draw after the other -/

/-- The nonce of the draw is not outstanding. -/
def Fresh (outstanding : Roster String Issue) (draw : Nonce.Draw) : Prop :=
  outstanding.find? (Nonce.ofDraw draw) = none

instance (outstanding : Roster String Issue) (draw : Nonce.Draw) :
    Decidable (Fresh outstanding draw) := inferInstanceAs (Decidable (_ = none))

/-- The draw of that index is the first that is fresh. -/
structure FirstFresh (outstanding : Roster String Issue) (draws : Stream' Nonce.Draw)
    (index : Nat) : Prop where
  fresh : Fresh outstanding (draws.get index)
  stale : ∀ earlier < index, ¬Fresh outstanding (draws.get earlier)

namespace Gate

/-- A first draw that is fresh is the nonce, and no other is made. -/
theorem freshNonce?_cons_of_fresh {draw : Nonce.Draw} (h : Fresh outstanding draw)
    (rest : List Nonce.Draw) :
    freshNonce? outstanding (draw :: rest) = some (Nonce.ofDraw draw, rest) := by
  rw [freshNonce?, if_neg]
  rw [Roster.contains_eq_false_iff.mpr h]
  exact Bool.false_ne_true

/-- A draw that is not fresh is passed over. -/
theorem freshNonce?_cons_of_stale {draw : Nonce.Draw} (h : ¬Fresh outstanding draw)
    (rest : List Nonce.Draw) :
    freshNonce? outstanding (draw :: rest) = freshNonce? outstanding rest := by
  rw [freshNonce?, if_pos]
  rw [Fresh, ← Roster.contains_eq_false_iff] at h
  exact eq_true_of_ne_false h

/-- Draws that are not fresh are passed over, however many. -/
theorem freshNonce?_append_stale {front : List Nonce.Draw}
    (h : ∀ draw ∈ front, ¬Fresh outstanding draw) (rest : List Nonce.Draw) :
    freshNonce? outstanding (front ++ rest) = freshNonce? outstanding rest := by
  induction front with
  | nil => rfl
  | cons draw front ih =>
    rw [List.cons_append, freshNonce?_cons_of_stale (h draw List.mem_cons_self)]
    exact ih fun later hlater => h later (List.mem_cons_of_mem _ hlater)

/-- Nothing is left to search among draws none of which is fresh. -/
theorem freshNonce?_of_stale {front : List Nonce.Draw}
    (h : ∀ draw ∈ front, ¬Fresh outstanding draw) : freshNonce? outstanding front = none := by
  have hend := freshNonce?_append_stale h []
  rw [List.append_nil] at hend
  exact hend

end Gate

/-! ### Draws of a stream -/

/-- What is among the first draws is the draw at an early index. -/
theorem exists_index_of_mem_take {draw : Nonce.Draw} {count : Nat} (h : draw ∈ draws.take count) :
    ∃ index < count, draws.get index = draw := by
  induction count with
  | zero => cases h
  | succ count ih =>
    rw [Stream'.take_succ', List.mem_append, List.mem_singleton] at h
    rcases h with h | rfl
    · obtain ⟨index, hlt, hdraw⟩ := ih h
      exact ⟨index, Nat.lt_succ_of_lt hlt, hdraw⟩
    · exact ⟨count, Nat.lt_succ_self count, rfl⟩

/-- The draws before the first fresh one are not fresh. -/
theorem FirstFresh.stale_take {index count : Nat} (h : FirstFresh outstanding draws index)
    (hle : count ≤ index) : ∀ draw ∈ draws.take count, ¬Fresh outstanding draw := by
  intro draw hdraw
  obtain ⟨earlier, hlt, rfl⟩ := exists_index_of_mem_take hdraw
  exact h.stale earlier (Nat.lt_of_lt_of_le hlt hle)

/-- A stream with a fresh draw has a first one. -/
theorem exists_firstFresh {index : Nat} (h : Fresh outstanding (draws.get index)) :
    ∃ first ≤ index, FirstFresh outstanding draws first := by
  induction index using Nat.strong_induction_on with
  | _ index ih =>
    by_cases hearlier : ∃ earlier < index, Fresh outstanding (draws.get earlier)
    · obtain ⟨earlier, hlt, hfresh⟩ := hearlier
      obtain ⟨first, hle, hfirst⟩ := ih earlier hlt hfresh
      exact ⟨first, Nat.le_trans hle (Nat.le_of_lt hlt), hfirst⟩
    · exact ⟨index, Nat.le_refl index, h, fun earlier hlt hfresh => hearlier ⟨earlier, hlt, hfresh⟩⟩

/-- Of more different draws than nonces are outstanding, one is fresh. -/
theorem exists_fresh (hdistinct : ∀ i ≤ outstanding.size, ∀ j ≤ outstanding.size,
      draws.get i = draws.get j → i = j) :
    ∃ index ≤ outstanding.size, Fresh outstanding (draws.get index) := by
  by_contra hnone
  let nonces := (List.range (outstanding.size + 1)).map fun index => Nonce.ofDraw (draws.get index)
  have hnodup : nonces.Nodup := by
    refine List.Nodup.map_on (fun i hi j hj hsame => ?_) List.nodup_range
    exact hdistinct i (Nat.le_of_lt_succ (List.mem_range.mp hi)) j
      (Nat.le_of_lt_succ (List.mem_range.mp hj)) (Nonce.ofDraw_injective hsame)
  have hsubset : nonces ⊆ outstanding.keys := by
    intro nonce hnonce
    obtain ⟨index, hindex, rfl⟩ := List.mem_map.mp hnonce
    have hstale : ¬Fresh outstanding (draws.get index) := fun hfresh =>
      hnone ⟨index, Nat.le_of_lt_succ (List.mem_range.mp hindex), hfresh⟩
    rw [Fresh, ← Roster.contains_eq_false_iff, Bool.not_eq_false] at hstale
    exact Roster.contains_iff.mp hstale
  -- The nonces would be one more than there are keys to be among.
  have hlength := hnodup.length_le_of_subset hsubset
  simp only [nonces, List.length_map, List.length_range, Roster.keys, Roster.size] at hlength
  omega

/-! ### Openings -/

namespace Gate

variable {gate : Gate} (connection : String) (now : Moment)

/-- As long as no draw is fresh, the opening goes on. -/
theorem open?_of_stale (hrequired : gate.policy.authRequired = true) {front : List Nonce.Draw}
    (h : ∀ draw ∈ front, ¬Fresh gate.outstanding draw) :
    gate.open? connection now front = none := by
  rw [open?, if_pos hrequired, freshNonce?_of_stale h]

/-- The opening ends with the first fresh draw. -/
theorem open?_of_firstFresh (hrequired : gate.policy.authRequired = true) {index : Nat}
    (h : FirstFresh gate.outstanding draws index) (more : Nat) :
    gate.open? connection now (draws.take (index + 1 + more)) =
      some
        (⟨connection, ⟨gate.policy.serverId, true, some (Nonce.ofDraw (draws.get index))⟩,
            .nonceIssued (Nonce.ofDraw (draws.get index)) now⟩,
          { gate with
            outstanding :=
              (gate.outstanding.add (Nonce.ofDraw (draws.get index)) ⟨connection, now⟩).2 },
          (draws.drop (index + 1)).take more) := by
  have htake : draws.take (index + 1 + more) =
      draws.take index ++ draws.get index :: (draws.drop (index + 1)).take more := by
    rw [Stream'.take_add, Stream'.take_succ', List.append_assoc, List.singleton_append]
  have hfound : freshNonce? gate.outstanding (draws.take (index + 1 + more)) =
      some (Nonce.ofDraw (draws.get index), (draws.drop (index + 1)).take more) := by
    rw [htake, freshNonce?_append_stale (h.stale_take (Nat.le_refl index)),
      freshNonce?_cons_of_fresh h.fresh]
  rw [open?, if_pos hrequired, hfound]

/-- Where clients need not prove who they are, nothing is drawn. -/
theorem open?_of_not_required (hrequired : gate.policy.authRequired = false)
    (draws : List Nonce.Draw) :
    gate.open? connection now draws =
      some (⟨connection, ⟨gate.policy.serverId, false, none⟩, .authenticated .anonymous⟩, gate,
        draws) := by
  rw [open?, if_neg (Bool.eq_false_iff.mp hrequired)]

end Gate

/-- **An opening ends with the first fresh draw.** Take any gate, so any that a run reaches, and
any stream of draws. Where clients have to prove who they are:

* An opening goes on up to the first draw whose nonce is not outstanding, and ends there. It
  issues that nonce to the connection at that time. The roster gets the entry at its end and
  keeps all that it had.
* It ends exactly if some draw of the stream is fresh.
* If the first draws, one more than nonces are outstanding, are different, it ends within these.

Where they need not, nothing is drawn and the gate stays as it is. Different draws have different
nonces, and each nonce has 32 characters. -/
theorem issues_first_fresh (gate : Gate) (connection : String) (now : Moment)
    (draws : Stream' Nonce.Draw) :
    (gate.policy.authRequired = true →
      (∀ index, FirstFresh gate.outstanding draws index →
        let nonce := Nonce.ofDraw (draws.get index)
        (∀ count ≤ index, gate.open? connection now (draws.take count) = none) ∧
        ∃ outstanding : Roster String Issue,
          outstanding.entries = gate.outstanding.entries ++ [(nonce, ⟨connection, now⟩)] ∧
          ∀ more, gate.open? connection now (draws.take (index + 1 + more)) =
            some
              (⟨connection, ⟨gate.policy.serverId, true, some nonce⟩, .nonceIssued nonce now⟩,
                ⟨gate.policy, outstanding⟩, (draws.drop (index + 1)).take more)) ∧
      ((∃ count, (gate.open? connection now (draws.take count)).isSome) ↔
        ∃ index, Fresh gate.outstanding (draws.get index)) ∧
      ((∀ i ≤ gate.outstanding.size, ∀ j ≤ gate.outstanding.size,
          draws.get i = draws.get j → i = j) →
        (gate.open? connection now (draws.take (gate.outstanding.size + 1))).isSome)) ∧
    (gate.policy.authRequired = false → ∀ draws : List Nonce.Draw,
      gate.open? connection now draws =
        some (⟨connection, ⟨gate.policy.serverId, false, none⟩, .authenticated .anonymous⟩, gate,
          draws)) ∧
    (∀ draw draw' : Nonce.Draw, draw ≠ draw' → Nonce.ofDraw draw ≠ Nonce.ofDraw draw') ∧
    ∀ draw : Nonce.Draw, (Nonce.ofDraw draw).length = 32 := by
  refine ⟨?_, Gate.open?_of_not_required connection now, ?_, Nonce.length_ofDraw⟩
  · intro hrequired
    -- The first fresh draw ends the opening, whatever is drawn after it.
    have hends : ∀ {index}, FirstFresh gate.outstanding draws index → ∀ count, index < count →
        (gate.open? connection now (draws.take count)).isSome := by
      intro index hfirst count hlt
      obtain ⟨more, rfl⟩ := Nat.exists_eq_add_of_le (Nat.succ_le_of_lt hlt)
      rw [Gate.open?_of_firstFresh connection now hrequired hfirst]
      rfl
    refine ⟨?_, ⟨?_, ?_⟩, ?_⟩
    · intro index hfirst
      refine ⟨?_, _, Roster.entries_add _ hfirst.fresh,
        Gate.open?_of_firstFresh connection now hrequired hfirst⟩
      intro count hle
      exact Gate.open?_of_stale connection now hrequired (hfirst.stale_take hle)
    · rintro ⟨count, hopens⟩
      by_contra hnone
      have hstale : ∀ draw ∈ draws.take count, ¬Fresh gate.outstanding draw := by
        intro draw hdraw hfresh
        obtain ⟨index, -, rfl⟩ := exists_index_of_mem_take hdraw
        exact hnone ⟨index, hfresh⟩
      rw [Gate.open?_of_stale connection now hrequired hstale] at hopens
      cases hopens
    · rintro ⟨index, hfresh⟩
      obtain ⟨first, -, hfirst⟩ := exists_firstFresh hfresh
      exact ⟨first + 1, hends hfirst _ (Nat.lt_succ_self first)⟩
    · intro hdistinct
      obtain ⟨index, hle, hfresh⟩ := exists_fresh hdistinct
      obtain ⟨first, hearlier, hfirst⟩ := exists_firstFresh hfresh
      exact hends hfirst _ (Nat.lt_succ_of_le (Nat.le_trans hearlier hle))
  · intro draw draw' hne hsame
    exact hne (Nonce.ofDraw_injective hsame)

/-- One nonce is outstanding, and the first draw repeats it. The second draw does not. -/
theorem issues_first_fresh_of_repeated :
    let repeated : Nonce.Draw := ⟨List.replicate 24 0, rfl⟩
    let new : Nonce.Draw := ⟨List.replicate 24 1, rfl⟩
    let draws : Stream' Nonce.Draw := Stream'.cons repeated (Stream'.const new)
    let policy : Policy := ⟨true, [], ⟨[], []⟩, .ofSeconds 30, "server"⟩
    let gate := (Gatehouse.run policy [.opened "c1" 3 [repeated]]).gate
    gate.open? "c2" 5 (draws.take 1) = none ∧
      (∃ outstanding : Roster String Issue,
        outstanding.entries =
          [(Nonce.ofDraw repeated, ⟨"c1", 3⟩), (Nonce.ofDraw new, ⟨"c2", 5⟩)] ∧
        gate.open? "c2" 5 (draws.take 4) =
          some
            (⟨"c2", ⟨"server", true, some (Nonce.ofDraw new)⟩, .nonceIssued (Nonce.ofDraw new) 5⟩,
              ⟨policy, outstanding⟩, [new, new])) ∧
      (gate.open? "c2" 5 (draws.take 2)).isSome ∧
      ((Gate.ofPolicy { policy with authRequired := false }).open? "c2" 5 [new]).map
        (fun opened => opened.2.2) = some [new] ∧
      Nonce.ofDraw repeated ≠ Nonce.ofDraw new := by
  intro repeated new draws policy gate
  obtain ⟨hrequired, -, hdistinct, -⟩ := issues_first_fresh gate "c2" 5 draws
  obtain ⟨hfirst, -, hbound⟩ := hrequired rfl
  -- The second draw is the first fresh one.
  obtain ⟨hstale, outstanding, hentries, hopens⟩ := hfirst 1 ⟨by decide +kernel, by decide +kernel⟩
  have hnew : repeated ≠ new := by decide
  refine ⟨hstale 1 (Nat.le_refl 1), ⟨outstanding, hentries, hopens 2⟩, hbound (by decide), ?_,
    hdistinct repeated new hnew⟩
  obtain ⟨-, hanonymous, -⟩ :=
    issues_first_fresh (Gate.ofPolicy { policy with authRequired := false }) "c2" 5 draws
  rw [hanonymous rfl [new]]
  rfl

end Gatekeeper.Handshake
