import Gatekeeper.Proofs.Ledger.Bulk

/-!
# `Gatekeeper.Proofs.Ledger.Changes`: what the bulk updates changed

An update of a sweep makes records cease: live connections and children turn inactive, messages
go. `Ledger.changes` tells which, and it does so by comparing two ledgers; nothing is taken from
what the update says of itself. `Ledger.without` is the ledger with nothing but these changes made
to it.

`Made changes before after` says that `after` is `before` with the changes made, each of them once
and to something that was there to change. Updates made one after another have their changes
listed one after another (`Made.trans`), and the comparison finds what was made (`Made.alike`).

* `made_retireConnections`, `made_retireProducers`, `made_retireConsumers`, `made_purge`: the
  answer of each update is the list, or the number, of the changes that it made.
* `Made.self`: the comparison finds all, and there is no other difference.
-/

set_option autoImplicit false

namespace Gatekeeper

open Gatekeeper.Ledger

/-! ### One roster -/

namespace Roster

variable {κ α : Type}

/-- The keys whose values pass a test. -/
def keysWith (p : α → Bool) (roster : Roster κ α) : List κ :=
  (roster.entries.filter fun (_, a) => p a).map Prod.fst

/-- The keys of some entries are distinct, because those of all entries are. -/
theorem nodup_keysWith (p : α → Bool) (roster : Roster κ α) : (roster.keysWith p).Nodup :=
  roster.nodup_keys.sublist (List.filter_sublist.map _)

/-- There are as many keys as values that pass the test. -/
theorem length_keysWith (p : α → Bool) (roster : Roster κ α) :
    (roster.keysWith p).length = roster.values.countP p := by
  rw [keysWith, List.length_map, values, List.countP_map, List.countP_eq_length_filter]
  rfl

variable [DecidableEq κ]

/-- The keys under which something counted before and does not count after. -/
def ceased (counts : α → Bool) (before after : Roster κ α) : List κ :=
  before.keys.filter fun key => (before.find? key).any counts && !(after.find? key).any counts

/-- The values under the listed keys changed, the others left alone. -/
def mapAt (keys : List κ) (f : α → α) (roster : Roster κ α) : Roster κ α :=
  roster.mapValues fun key a => if key ∈ keys then f a else a

/-- The entries under the listed keys left out. -/
def dropAt (keys : List κ) (roster : Roster κ α) : Roster κ α :=
  roster.filter fun key _ => key ∉ keys

/-- A key is listed just if its own value passes the test. -/
theorem mem_keysWith_iff {p : α → Bool} {roster : Roster κ α} {key : κ} :
    key ∈ roster.keysWith p ↔ (roster.find? key).any p = true := by
  rw [keysWith, List.mem_map, Option.any_eq_true]
  constructor
  · rintro ⟨⟨key, a⟩, hmem, rfl⟩
    obtain ⟨hentry, hp⟩ := List.mem_filter.mp hmem
    exact ⟨a, find?_eq_some_iff.mpr hentry, hp⟩
  · rintro ⟨a, hfind, hp⟩
    exact ⟨(key, a), List.mem_filter.mpr ⟨find?_eq_some_iff.mp hfind, hp⟩, rfl⟩

/-- An update of the values that pass a test, as one of the keys that have them. -/
theorem mapAt_keysWith (p : α → Bool) (f : α → α) (roster : Roster κ α) :
    roster.mapAt (roster.keysWith p) f = roster.mapValues fun _ a => if p a then f a else a := by
  refine mapValues_congr fun key a hmem => ?_
  have hkey : key ∈ roster.keysWith p ↔ p a = true := by
    rw [mem_keysWith_iff, find?_eq_some_iff.mpr hmem, Option.any_some]
  simp only [hkey]

/-- A removal of the values that pass a test, as one of the keys that have them. -/
theorem dropAt_keysWith (p : α → Bool) (roster : Roster κ α) :
    roster.dropAt (roster.keysWith p) = roster.filter fun _ a => !p a := by
  refine filter_congr fun key a hmem => ?_
  have hkey : key ∈ roster.keysWith p ↔ p a = true := by
    rw [mem_keysWith_iff, find?_eq_some_iff.mpr hmem, Option.any_some]
  cases hp : p a <;> simp [hkey, hp]

/-- A change that need not be made twice. -/
theorem mapAt_mapAt {f : α → α} (hf : ∀ a, f (f a) = f a) (keys more : List κ)
    (roster : Roster κ α) :
    (roster.mapAt keys f).mapAt more f = roster.mapAt (keys ++ more) f := by
  rw [mapAt, mapAt, mapAt, mapValues_mapValues]
  refine mapValues_congr fun key a _ => ?_
  by_cases hkeys : key ∈ keys <;> by_cases hmore : key ∈ more <;> simp [hkeys, hmore, hf]

/-- Dropping twice is dropping both lists at once. -/
theorem dropAt_dropAt (keys more : List κ) (roster : Roster κ α) :
    (roster.dropAt keys).dropAt more = roster.dropAt (keys ++ more) := by
  rw [dropAt, dropAt, dropAt, filter_filter]
  refine filter_congr fun key a _ => ?_
  simp

/-- Changing no key changes nothing. -/
@[simp] theorem mapAt_nil (f : α → α) (roster : Roster κ α) : roster.mapAt [] f = roster :=
  mapValues_eq_self fun _ _ _ => if_neg List.not_mem_nil

/-- Dropping no key changes nothing. -/
@[simp] theorem dropAt_nil (roster : Roster κ α) : roster.dropAt [] = roster := by
  apply eq_of_entries
  rw [dropAt, entries_filter]
  exact List.filter_eq_self.mpr fun _ _ => decide_eq_true List.not_mem_nil

/-- The order of the keys does not matter for a change. -/
theorem mapAt_perm {keys keys' : List κ} (h : keys.Perm keys') (f : α → α) (roster : Roster κ α) :
    roster.mapAt keys f = roster.mapAt keys' f := by
  simp only [mapAt, h.mem_iff]

/-- The order of the keys does not matter for a drop. -/
theorem dropAt_perm {keys keys' : List κ} (h : keys.Perm keys') (roster : Roster κ α) :
    roster.dropAt keys = roster.dropAt keys' := by
  simp only [dropAt, h.mem_iff]

/-- What stands under the keys counted before, and this is all that ceased to count. -/
structure Ends (counts : α → Bool) (keys : List κ) (before after : Roster κ α) : Prop where
  nodup : keys.Nodup
  counted : ∀ key ∈ keys, (before.find? key).any counts = true
  left : ∀ key, (after.find? key).any counts =
    ((before.find? key).any counts && decide (key ∉ keys))

namespace Ends

variable {counts : α → Bool} {keys more : List κ} {roster before after later : Roster κ α}

/-- Between a roster and itself no counted entry comes to an end. -/
theorem refl (counts : α → Bool) (roster : Roster κ α) : Ends counts [] roster roster where
  nodup := List.nodup_nil
  counted := nofun
  left key := by simp

/-- Two lists of ends in a row are one. They have no key in common, since what has come to an end
does not count any more. -/
theorem trans (h : Ends counts keys before after) (h' : Ends counts more after later) :
    Ends counts (keys ++ more) before later where
  nodup := by
    refine List.nodup_append.mpr ⟨h.nodup, h'.nodup, ?_⟩
    rintro key hkey other hother rfl
    -- A key that ended in the first part has nothing to end in the second.
    have hstill := h'.counted key hother
    rw [h.left key, decide_eq_false (not_not_intro hkey), Bool.and_false] at hstill
    cases hstill
  counted key hmem := by
    rcases List.mem_append.mp hmem with hkeys | hmore
    · exact h.counted key hkeys
    · have hafter := h'.counted key hmore
      rw [h.left key, Bool.and_eq_true] at hafter
      exact hafter.1
  left key := by
    rw [h'.left key, h.left key, Bool.and_assoc]
    congr 1
    by_cases hkeys : key ∈ keys <;> simp [hkeys]

/-- The order of the ends does not matter. -/
theorem perm (h : Ends counts keys before after) (hperm : more.Perm keys) :
    Ends counts more before after where
  nodup := hperm.nodup_iff.mpr h.nodup
  counted key hkey := h.counted key (hperm.mem_iff.mp hkey)
  left key := by simp only [h.left key, hperm.mem_iff]

/-- The comparison finds the keys. -/
theorem perm_ceased (h : Ends counts keys before after) :
    (ceased counts before after).Perm keys := by
  have hnodup : (ceased counts before after).Nodup := before.nodup_keys.filter _
  -- Neither list repeats a key, so it is enough that they have the same ones.
  refine (List.perm_ext_iff_of_nodup hnodup h.nodup).mpr fun key => ?_
  rw [ceased, List.mem_filter, h.left key]
  constructor
  · rintro ⟨-, hceased⟩
    by_cases hkey : key ∈ keys
    · exact hkey
    · simp [hkey] at hceased
  · intro hkey
    have hbefore := h.counted key hkey
    refine ⟨contains_iff.mp ?_, by simp [hbefore, hkey]⟩
    rw [contains]
    cases hfind : before.find? key with
    | none => simp [hfind] at hbefore
    | some a => rfl

/-- An update that leaves its entries uncounted brings the counted ones among its keys to an end. -/
theorem mapAt {f : α → α} (hf : ∀ a, counts (f a) = false) (hnodup : keys.Nodup)
    (hcounted : ∀ key ∈ keys, (roster.find? key).any counts = true) :
    Ends counts keys roster (roster.mapAt keys f) where
  nodup := hnodup
  counted := hcounted
  left key := by
    rw [Roster.mapAt, find?_mapValues]
    by_cases hkey : key ∈ keys <;> cases roster.find? key <;> simp [hkey, hf]

/-- So does an update that drops them. -/
theorem dropAt (hnodup : keys.Nodup)
    (hcounted : ∀ key ∈ keys, (roster.find? key).any counts = true) :
    Ends counts keys roster (roster.dropAt keys) where
  nodup := hnodup
  counted := hcounted
  left key := by
    rw [Roster.dropAt, find?_filter]
    by_cases hkey : key ∈ keys <;> cases roster.find? key <;> simp [hkey]

end Ends

end Roster

/-! ### Ledgers -/

namespace Ledger

/-- The ids of records that ceased: connections and children turned inactive, messages gone. -/
structure Changes where
  connections : List String
  producers : List String
  consumers : List String
  messages : List String
deriving DecidableEq, Repr

namespace Changes

/-- No change. -/
def none : Changes := ⟨[], [], [], []⟩

instance : Append Changes :=
  ⟨fun a b => ⟨a.connections ++ b.connections, a.producers ++ b.producers,
    a.consumers ++ b.consumers, a.messages ++ b.messages⟩⟩

/-- Changes with no more changes after them stay as they are. -/
@[simp] theorem append_none (changes : Changes) : changes ++ none = changes := by
  show Changes.mk _ _ _ _ = changes
  simp [none]

/-- Changes follow one another in one way only, however they are grouped. -/
theorem append_assoc (a b c : Changes) : a ++ b ++ c = a ++ (b ++ c) := by
  show Changes.mk _ _ _ _ = Changes.mk _ _ _ _
  congr 1 <;> exact List.append_assoc ..

/-- The same changes in another order. -/
structure Alike (a b : Changes) : Prop where
  connections : a.connections.Perm b.connections
  producers : a.producers.Perm b.producers
  consumers : a.consumers.Perm b.consumers
  messages : a.messages.Perm b.messages

/-- How much the changes are: which connections, and how many children and messages. -/
structure Amount (changes : Changes) (connections : List String)
    (producers consumers messages : Nat) : Prop where
  connections : connections.Perm changes.connections
  producers : producers = changes.producers.length
  consumers : consumers = changes.consumers.length
  messages : messages = changes.messages.length

/-- Amounts of changes that follow one another add up. -/
theorem Amount.append {a b : Changes} {connections more : List String}
    {producers consumers messages producers' consumers' messages' : Nat}
    (h : a.Amount connections producers consumers messages)
    (h' : b.Amount more producers' consumers' messages') :
    (a ++ b).Amount (connections ++ more) (producers + producers') (consumers + consumers')
      (messages + messages') where
  connections := h.connections.append h'.connections
  producers := by rw [h.producers, h'.producers]; exact List.length_append.symm
  consumers := by rw [h.consumers, h'.consumers]; exact List.length_append.symm
  messages := by rw [h.messages, h'.messages]; exact List.length_append.symm

/-- Changes that are alike have the same amount. -/
theorem Amount.alike {a b : Changes} {connections : List String}
    {producers consumers messages : Nat} (h : a.Amount connections producers consumers messages)
    (hsame : b.Alike a) :
    b.Amount connections producers consumers messages where
  connections := h.connections.trans hsame.connections.symm
  producers := h.producers.trans hsame.producers.length_eq.symm
  consumers := h.consumers.trans hsame.consumers.length_eq.symm
  messages := h.messages.trans hsame.messages.length_eq.symm

end Changes

/-- What changed from one ledger to another. -/
def changes (before after : Ledger) : Changes where
  connections := Roster.ceased (·.isActive) before.connections after.connections
  producers := Roster.ceased (·.isActive) before.producers after.producers
  consumers := Roster.ceased (·.isActive) before.consumers after.consumers
  messages := Roster.ceased (fun _ => true) before.poison after.poison

/-- The connection, no longer live. -/
def Connection.off (record : Connection) : Connection := { record with isActive := false }

/-- The child, no longer live. -/
def Child.off (record : Child) : Child := { record with isActive := false }

/-- The ledger with the changes made, and all else as it was. -/
def without (ledger : Ledger) (changes : Changes) : Ledger where
  connections := ledger.connections.mapAt changes.connections Connection.off
  producers := ledger.producers.mapAt changes.producers Child.off
  consumers := ledger.consumers.mapAt changes.consumers Child.off
  poison := ledger.poison.dropAt changes.messages

/-- The changes were made, each to a record that was there to change, and nothing else was. -/
structure Made (changes : Changes) (before after : Ledger) : Prop where
  eq_without : after = before.without changes
  connections : Roster.Ends (·.isActive) changes.connections before.connections after.connections
  producers : Roster.Ends (·.isActive) changes.producers before.producers after.producers
  consumers : Roster.Ends (·.isActive) changes.consumers before.consumers after.consumers
  messages : Roster.Ends (fun _ => true) changes.messages before.poison after.poison

variable {changes more : Changes} {ledger before after later : Ledger}

/-- A ledger without no changes is the ledger. -/
theorem without_none (ledger : Ledger) : ledger.without .none = ledger := by
  simp [without, Changes.none]

/-- Changes may be made at once or one after the other. -/
theorem without_append (ledger : Ledger) (changes more : Changes) :
    ledger.without (changes ++ more) = (ledger.without changes).without more := by
  have hconnections := Roster.mapAt_mapAt (f := Connection.off) (fun _ => rfl)
    changes.connections more.connections ledger.connections
  have hchildren := fun keys others : List String =>
    Roster.mapAt_mapAt (f := Child.off) (fun _ => rfl) keys others
  rw [without, without, without, hconnections, hchildren, hchildren, Roster.dropAt_dropAt]
  rfl

/-- Changes that are alike leave the same ledger. -/
theorem Changes.Alike.without_eq (h : changes.Alike more) (ledger : Ledger) :
    ledger.without changes = ledger.without more := by
  rw [without, without, Roster.mapAt_perm h.connections, Roster.mapAt_perm h.producers,
    Roster.mapAt_perm h.consumers, Roster.dropAt_perm h.messages]

namespace Made

/-- No change is made between a ledger and itself. -/
theorem refl (ledger : Ledger) : Made .none ledger ledger where
  eq_without := (without_none ledger).symm
  connections := .refl ..
  producers := .refl ..
  consumers := .refl ..
  messages := .refl ..

/-- Changes that were made one after the other were made together. -/
theorem trans (h : Made changes before after) (h' : Made more after later) :
    Made (changes ++ more) before later where
  eq_without := by rw [h'.eq_without, h.eq_without, without_append]
  connections := h.connections.trans h'.connections
  producers := h.producers.trans h'.producers
  consumers := h.consumers.trans h'.consumers
  messages := h.messages.trans h'.messages

/-- The comparison finds what was made. -/
theorem alike (h : Made changes before after) : (before.changes after).Alike changes where
  connections := h.connections.perm_ceased
  producers := h.producers.perm_ceased
  consumers := h.consumers.perm_ceased
  messages := h.messages.perm_ceased

/-- How much the comparison finds. -/
theorem amount {connections producers consumers messages : List String}
    (h : Made ⟨connections, producers, consumers, messages⟩ before after) :
    (before.changes after).Amount connections producers.length consumers.length
      messages.length :=
  Changes.Amount.alike ⟨.refl _, rfl, rfl, rfl⟩ h.alike

/-- What the comparison finds was made, and nothing else. -/
theorem self (h : Made changes before after) : Made (before.changes after) before after where
  eq_without := by
    rw [h.alike.without_eq]
    exact h.eq_without
  connections := h.connections.perm h.alike.connections
  producers := h.producers.perm h.alike.producers
  consumers := h.consumers.perm h.alike.consumers
  messages := h.messages.perm h.alike.messages

end Made

/-! ### The updates of a sweep -/

/-- The induction is on the length, because what follows the head is filtered. -/
theorem nodup_eraseDups (ids : List String) : ids.eraseDups.Nodup := by
  induction hlength : ids.length using Nat.strongRecOn generalizing ids with
  | ind n ih =>
    cases ids with
    | nil => exact List.nodup_nil
    | cons id rest =>
      have hshorter : (rest.filter fun other => !other == id).length < n := by
        have hle := List.length_filter_le (fun other => !other == id) rest
        rw [List.length_cons] at hlength
        omega
      rw [List.eraseDups_cons, List.nodup_cons, List.mem_eraseDups]
      exact ⟨by simp, ih _ hshorter _ rfl⟩

/-- The connections that an update reports are the ones that it turns inactive. -/
theorem made_retireConnections (cutoff : Timestamp) (ids : List String) (ledger : Ledger) :
    Made ⟨(ledger.retireConnections cutoff ids).1, [], [], []⟩ ledger
      (ledger.retireConnections cutoff ids).2 := by
  have hnodup : (ledger.retireConnections cutoff ids).1.Nodup := by
    rw [fst_retireConnections]
    exact nodup_eraseDups _
  have hlive : ∀ id ∈ (ledger.retireConnections cutoff ids).1,
      (ledger.connections.find? id).any (·.isActive) = true := by
    intro id hid
    obtain ⟨-, record, hfind, hstale⟩ := mem_retireConnections_iff.mp hid
    rw [hfind]
    exact (Connection.isStale_iff.mp hstale).1
  have hmap : (ledger.retireConnections cutoff ids).2 = { ledger with
      connections := ledger.connections.mapAt (ledger.retireConnections cutoff ids).1
        Connection.off } := by
    rw [retireConnections_eq]
    congr 1
    refine Roster.mapValues_congr fun id record hentry => ?_
    have hfind := Roster.find?_eq_some_iff.mpr hentry
    -- Of the listed connections, those that are not stale are left as they are.
    simp only [mem_retireConnections_iff, hfind, Option.some.injEq, exists_eq_left']
    by_cases hid : id ∈ ids
    · cases hstale : record.isStale cutoff with
      | true => simp [hid, Connection.liveFrom_of_isStale hstale, Connection.off]
      | false => simp [hid, Connection.liveFrom_of_not_isStale hstale]
    · simp [hid]
  refine ⟨?_, ?_, ?_, ?_, ?_⟩
  · rw [hmap]
    simp [without]
  · rw [hmap]
    exact .mapAt (fun _ => rfl) hnodup hlive
  · rw [hmap]
    exact .refl ..
  · rw [hmap]
    exact .refl ..
  · rw [hmap]
    exact .refl ..

/-- The children that an update retires, and what becomes of the roster. -/
theorem ends_retireOwned (owners : List String) (children : Roster String Child) :
    (retireOwned owners children).2 =
        children.mapAt (children.keysWith (·.isOwned owners)) Child.off ∧
      Roster.Ends (·.isActive) (children.keysWith (·.isOwned owners)) children
        (retireOwned owners children).2 := by
  have hmap : (retireOwned owners children).2 =
      children.mapAt (children.keysWith (·.isOwned owners)) Child.off :=
    (Roster.mapAt_keysWith (fun child : Child => child.isOwned owners) Child.off children).symm
  refine ⟨hmap, ?_⟩
  rw [hmap]
  refine .mapAt (fun _ => rfl) (Roster.nodup_keysWith _ _) fun id hid => ?_
  obtain ⟨child, hfind, howned⟩ := (Option.any_eq_true _ _).mp (Roster.mem_keysWith_iff.mp hid)
  rw [Child.isOwned, Bool.and_eq_true] at howned
  rw [hfind]
  exact howned.1

/-- The number that an update of producers reports is the number that it turns inactive. -/
theorem made_retireProducers (owners : List String) (ledger : Ledger) :
    ∃ ids, ids.length = (ledger.retireProducers owners).1 ∧
      Made ⟨[], ids, [], []⟩ ledger (ledger.retireProducers owners).2 := by
  obtain ⟨hmap, hends⟩ := ends_retireOwned owners ledger.producers
  refine ⟨_, Roster.length_keysWith _ _, ?_, .refl .., hends, .refl .., .refl ..⟩
  show { ledger with producers := (retireOwned owners ledger.producers).2 } = _
  rw [hmap]
  simp [without]

/-- The number that an update of consumers reports is the number that it turns inactive. -/
theorem made_retireConsumers (owners : List String) (ledger : Ledger) :
    ∃ ids, ids.length = (ledger.retireConsumers owners).1 ∧
      Made ⟨[], [], ids, []⟩ ledger (ledger.retireConsumers owners).2 := by
  obtain ⟨hmap, hends⟩ := ends_retireOwned owners ledger.consumers
  refine ⟨_, Roster.length_keysWith _ _, ?_, .refl .., .refl .., hends, .refl ..⟩
  show { ledger with consumers := (retireOwned owners ledger.consumers).2 } = _
  rw [hmap]
  simp [without]

/-- The number that a purge reports is the number of messages that it removes. -/
theorem made_purge (horizon : Timestamp) (ledger : Ledger) :
    ∃ ids, ids.length = (ledger.purge horizon).1 ∧
      Made ⟨[], [], [], ids⟩ ledger (ledger.purge horizon).2 := by
  let isOld : PoisonMessage → Bool := fun record => record.createdAt < horizon
  have hdrop : (ledger.purge horizon).2 =
      { ledger with poison := ledger.poison.dropAt (ledger.poison.keysWith isOld) } := by
    rw [Roster.dropAt_keysWith]
    rfl
  -- Every message counts, so those that are gone are those that were removed.
  have hcounted : ∀ id ∈ ledger.poison.keysWith isOld,
      (ledger.poison.find? id).any (fun _ => true) = true := by
    intro id hid
    obtain ⟨message, hfind, -⟩ := (Option.any_eq_true _ _).mp (Roster.mem_keysWith_iff.mp hid)
    rw [hfind]
    rfl
  refine ⟨ledger.poison.keysWith isOld, Roster.length_keysWith _ _, ?_⟩
  have hends := Roster.Ends.dropAt (Roster.nodup_keysWith isOld ledger.poison) hcounted
  rw [hdrop]
  exact ⟨by simp [without], .refl .., .refl .., .refl .., hends⟩

end Ledger

end Gatekeeper
