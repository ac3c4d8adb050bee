/-
  Sccp.Safety.ParticipantIndexes

  The two indexes of a conference's participants stay exact, whatever is done to the registry,
  and an operation does to the participants what its effect on the plain list says.
-/

import Mathlib.Data.List.InsertIdx
import Sccp.Conference.Indexed
import Sccp.Lib.Runs

namespace Sccp.Conference

variable {r : ConferenceParticipantRegistry} {p q : ConferenceParticipant} {i : Nat}

/-- The indexes name exactly the positions of the participants, and there are not too many. -/
structure Indexed (r : ConferenceParticipantRegistry) : Prop where
  ids : Positions.Exact r.byId (r.participants.map (·.id))
  calls : ∀ callId id, r.byPbx.get? callId = some id
    ↔ ∃ p ∈ r.participants, p.pbxCallId = callId ∧ p.id = id
  size : r.participants.length ≤ maxConferenceParticipants

theorem indexed_empty : Indexed {} where
  ids := Positions.exact_empty
  calls := by simp
  size := Nat.zero_le _

theorem Indexed.position_iff (h : Indexed r) {id : ParticipantId} :
    r.byId.get? id = some i ↔ ∃ p, r.participants[i]? = some p ∧ p.id = id := by
  rw [h.ids, List.getElem?_map, Option.map_eq_some_iff]

theorem Indexed.eq_of_id (h : Indexed r) (hp : p ∈ r.participants) (hq : q ∈ r.participants)
    (hid : p.id = q.id) : p = q :=
  List.inj_on_of_nodup_map h.ids.nodup hp hq hid

/-- No two participants have one PBX call: the index would have to name both. -/
theorem Indexed.eq_of_call (h : Indexed r) (hp : p ∈ r.participants) (hq : q ∈ r.participants)
    (hcall : p.pbxCallId = q.pbxCallId) : p = q := by
  have hpid := (h.calls _ _).mpr ⟨p, hp, rfl, rfl⟩
  rw [hcall, (h.calls _ _).mpr ⟨q, hq, rfl, rfl⟩] at hpid
  exact h.eq_of_id hp hq (Option.some.inj hpid).symm

theorem Indexed.nodup_calls (h : Indexed r) : (r.participants.map (·.pbxCallId)).Nodup :=
  (List.Nodup.of_map _ h.ids.nodup).map_on fun _ hp _ hq => h.eq_of_call hp hq

/-! ## What an operation does to the participants -/

def Operation.effect : Operation → List ConferenceParticipant → List ConferenceParticipant
  | .insert p, l => l ++ [p]
  | .setMuted id muted, l => l.map fun p => if p.id = id then { p with muted } else p
  | .setHeld id held, l => l.map fun p => if p.id = id then { p with held } else p
  | .updateIdentity callId identity, l => l.map fun p =>
      if p.pbxCallId = callId
      then { p with displayName := identity.displayName, number := identity.number } else p
  | .remove id, l => l.filter (·.id ≠ id)
  | .setModerator id moderator, l => l.map fun p =>
      if p.id = id then { p with moderator } else p

/-- The ids that two lists have in common stand in the same order in both. -/
def SameOrder (ids ids' : List ParticipantId) : Prop :=
  ids.filter (· ∈ ids') = ids'.filter (· ∈ ids)

/-- A step of the registry: one that is refused changes nothing, one that is accepted has its
    effect, and the ids that stay keep their order. -/
structure Follows (op : Operation) (r r' : ConferenceParticipantRegistry) (accepted : Bool) :
    Prop where
  refused : accepted = false → r' = r
  accepted : accepted = true → r'.participants = op.effect r.participants
  order : SameOrder (r.participants.map (·.id)) (r'.participants.map (·.id))
  moderator : ∀ id moderator, op = .setModerator id moderator →
    (∃ p ∈ r.participants, p.moderator = true) → ∃ p ∈ r'.participants, p.moderator = true

/-! ## Each operation -/

/-- An accepted insertion. -/
theorem Indexed.push (h : Indexed r) (hroom : r.participants.length < maxConferenceParticipants)
    (hid : r.byId.contains p.id ≠ true) (hcall : r.byPbx.contains p.pbxCallId ≠ true) :
    Indexed
      { participants := r.participants ++ [p]
        byId := r.byId.insert p.id r.participants.length
        byPbx := r.byPbx.insert p.pbxCallId p.id } where
  ids := by
    have hpush := h.ids.push (mt h.ids.contains_iff.mpr hid)
    rw [List.length_map] at hpush
    show Positions.Exact _ ((r.participants ++ [p]).map (·.id))
    rw [List.map_append]
    exact hpush
  calls := by
    intro callId id
    have hnone : r.byPbx.get? p.pbxCallId = none :=
      Table.not_contains_iff.mp (Bool.eq_false_iff.mpr hcall)
    have hfree : ¬ ∃ q ∈ r.participants, q.pbxCallId = p.pbxCallId ∧ q.id = id := by
      rw [← h.calls, hnone]
      nofun
    rw [Table.get?_insert]
    simp only [List.mem_append, List.mem_singleton, or_and_right, exists_or, exists_eq_left]
    split
    next heq =>
      rw [heq, or_iff_right hfree, Option.some.injEq, and_iff_right rfl]
    next hne =>
      rw [h.calls, or_iff_left fun hcon => hne hcon.1.symm]
  size := by
    rw [List.length_append]
    exact hroom

/-- An edit that keeps ids and calls keeps the indexes. -/
theorem Indexed.map (h : Indexed r) {f : ConferenceParticipant → ConferenceParticipant}
    (hid : ∀ p, (f p).id = p.id) (hcall : ∀ p, (f p).pbxCallId = p.pbxCallId) :
    Indexed { r with participants := r.participants.map f } where
  ids := by
    have hids : (r.participants.map f).map (·.id) = r.participants.map (·.id) := by
      simp [Function.comp_def, hid]
    exact hids ▸ h.ids
  calls := by
    intro callId id
    rw [h.calls]
    simp [hid, hcall]
  size := by
    rw [List.length_map]
    exact h.size

/-- To edit the participant at a position is to edit the one with its id. -/
theorem Indexed.set_eq_map (h : Indexed r) (hp : r.participants[i]? = some p)
    (f : ConferenceParticipant → ConferenceParticipant) :
    r.participants.set i (f p) = r.participants.map fun q => if q.id = p.id then f q else q := by
  refine List.ext_getElem? fun j => ?_
  rw [List.getElem?_map]
  by_cases hij : i = j
  · subst hij
    rw [List.getElem?_set_self (List.getElem?_eq_some_iff.mp hp).1, hp, Option.map_some, if_pos rfl]
  rw [List.getElem?_set_ne hij]
  cases hq : r.participants[j]? with
  | none => rfl
  | some q =>
    rw [Option.map_some, if_neg]
    intro hid
    refine hij (h.ids.position_unique (k := p.id) ?_ ?_)
    · rw [List.getElem?_map, hp, Option.map_some]
    · rw [List.getElem?_map, hq, Option.map_some, hid]

/-- An operation on a registry with exact indexes. -/
structure Applies (op : Operation) (r : ConferenceParticipantRegistry)
    (result : ConferenceParticipantRegistry × Bool) : Prop where
  indexed : Indexed result.1
  refused : result.2 = false → result.1 = r
  accepted : result.2 = true → result.1.participants = op.effect r.participants

theorem Applies.refuse {op : Operation} (h : Indexed r) : Applies op r (r, false) where
  indexed := h
  refused _ := rfl
  accepted := nofun

theorem Indexed.insert (h : Indexed r) (p : ConferenceParticipant) :
    Applies (.insert p) r ((r.insert p).1, (r.insert p).2.toBool) := by
  unfold ConferenceParticipantRegistry.insert
  split
  · exact .refuse h
  next hroom =>
  split
  · exact .refuse h
  next hid =>
  split
  · exact .refuse h
  next hcall =>
  exact ⟨h.push (by omega) hid hcall, fun h => (by cases h), fun _ => rfl⟩

/-- An edit of the participant found at an index, if it is the one addressed. -/
theorem Indexed.edit {op : Operation} (h : Indexed r) (index : Option Nat)
    {f : ConferenceParticipant → ConferenceParticipant} (hid : ∀ p, (f p).id = p.id)
    (hcall : ∀ p, (f p).pbxCallId = p.pbxCallId)
    (heffect : ∀ i p, index = some i → r.participants[i]? = some p →
      op.effect r.participants = r.participants.map fun q => if q.id = p.id then f q else q) :
    Applies op r (r.edit index f) := by
  unfold ConferenceParticipantRegistry.edit
  split
  · exact .refuse h
  next i =>
  split
  · exact .refuse h
  next p hp =>
  rw [h.set_eq_map hp]
  refine ⟨h.map (fun q => ?_) fun q => ?_, nofun, fun _ => (heffect i p rfl hp).symm⟩
  · split
    · exact hid q
    · rfl
  · split
    · exact hcall q
    · rfl

/-- The participant found under an id is the one with this id. -/
theorem Indexed.id_of_position (h : Indexed r) {id : ParticipantId} (hi : r.byId.get? id = some i)
    (hp : r.participants[i]? = some p) : p.id = id := by
  obtain ⟨q, hq, hid⟩ := h.position_iff.mp hi
  rw [hp] at hq
  exact Option.some.inj hq ▸ hid

theorem Indexed.setMuted (h : Indexed r) (id : ParticipantId) (muted : Bool) :
    Applies (.setMuted id muted) r (r.setMuted id muted) :=
  h.edit _ (fun _ => rfl) (fun _ => rfl) fun _ _ hi hp => by rw [h.id_of_position hi hp]; rfl

theorem Indexed.setHeld (h : Indexed r) (id : ParticipantId) (held : Bool) :
    Applies (.setHeld id held) r (r.setHeld id held) :=
  h.edit _ (fun _ => rfl) (fun _ => rfl) fun _ _ hi hp => by rw [h.id_of_position hi hp]; rfl

/-- The participant found under a call is the one with this call. -/
theorem Indexed.updateIdentity (h : Indexed r) (callId : PbxCallId)
    (identity : ConferenceParticipantIdentity) :
    Applies (.updateIdentity callId identity) r (r.updateIdentity callId identity) := by
  refine h.edit _ (fun _ => rfl) (fun _ => rfl) ?_
  intro i p hi hp
  obtain ⟨id, hid, hi⟩ := Option.bind_eq_some_iff.mp hi
  have hpid := h.id_of_position hi hp
  have hmem := List.mem_of_getElem? hp
  obtain ⟨q, hq, hcall, hqid⟩ := (h.calls _ _).mp hid
  obtain rfl := h.eq_of_id hq hmem (hqid.trans hpid.symm)
  refine List.map_congr_left fun s hs => ?_
  have hsame : s.pbxCallId = callId ↔ s.id = q.id :=
    ⟨fun hs' => congrArg (·.id) (h.eq_of_call hs hmem (hs'.trans hcall.symm)),
      fun hs' => h.eq_of_id hs hmem hs' ▸ hcall⟩
  simp only [hsame]

/-- To take out the element at a position is to take out those with its key. -/
theorem eraseIdx_eq_filter {l : List ConferenceParticipant} (hn : (l.map (·.id)).Nodup)
    (hp : l[i]? = some p) : l.eraseIdx i = l.filter (·.id ≠ p.id) := by
  induction l generalizing i with
  | nil => cases hp
  | cons head rest ih =>
    rw [List.map_cons, List.nodup_cons] at hn
    cases i with
    | zero =>
      cases hp
      rw [List.eraseIdx_cons_zero, List.filter_cons_of_neg (by simp), eq_comm, List.filter_eq_self]
      intro q hq
      rw [decide_eq_true_eq]
      intro hid
      exact hn.1 (hid ▸ List.mem_map_of_mem hq)
    | succ i =>
      have hmem : p.id ∈ rest.map (·.id) := List.mem_map_of_mem (List.mem_of_getElem? hp)
      have hne : head.id ≠ p.id := fun hid => hn.1 (hid ▸ hmem)
      rw [List.eraseIdx_cons_succ, List.filter_cons_of_pos (by simpa using hne), ih hn.2 hp]

theorem Indexed.remove (h : Indexed r) (id : ParticipantId) :
    ∃ r' removed, r.remove id = some (r', removed)
      ∧ Applies (.remove id) r (r', removed.isSome) := by
  unfold ConferenceParticipantRegistry.remove
  split
  · exact ⟨r, none, rfl, .refuse h⟩
  next i hi =>
  obtain ⟨p, hp, rfl⟩ := h.position_iff.mp hi
  have heffect := eraseIdx_eq_filter h.ids.nodup hp
  have hkey : (r.participants.map (·.id))[i]? = some p.id := by
    rw [List.getElem?_map, hp, Option.map_some]
  have hkeys : (r.participants.eraseIdx i).map (·.id) = (r.participants.map (·.id)).eraseIdx i :=
    (List.eraseIdx_map ..).symm
  simp only [hp, hkeys]
  refine ⟨_, _, rfl, ⟨hkeys ▸ h.ids.remove hkey, ?_, ?_⟩, nofun, fun _ => heffect⟩
  · intro callId id
    simp only [heffect, Table.get?_erase, List.mem_filter, decide_eq_true_eq]
    split
    next heq =>
      refine iff_of_false nofun ?_
      rintro ⟨q, ⟨hq, hne⟩, hcall, -⟩
      exact hne (congrArg (·.id) (h.eq_of_call hq (List.mem_of_getElem? hp) (hcall.trans heq)))
    next hne =>
      rw [h.calls]
      refine exists_congr fun q => and_congr_left fun hq => (and_iff_left_of_imp ?_).symm
      intro hmem hid
      rw [h.eq_of_id hmem (List.mem_of_getElem? hp) hid] at hq
      exact hne hq.1.symm
  · exact Nat.le_trans (List.eraseIdx_sublist ..).length_le h.size

theorem Indexed.setModerator (h : Indexed r) (id : ParticipantId) (moderator : Bool) :
    ∃ r' result, r.setModerator id moderator = some (r', result)
      ∧ Applies (.setModerator id moderator) r (r', result.toBool) := by
  unfold ConferenceParticipantRegistry.setModerator
  split
  · exact ⟨r, _, rfl, .refuse h⟩
  next i hi =>
  obtain ⟨p, hp, rfl⟩ := h.position_iff.mp hi
  simp only [hp]
  split
  · exact ⟨r, _, rfl, .refuse h⟩
  split
  · exact ⟨r, _, rfl, .refuse h⟩
  rw [h.set_eq_map (f := fun p => { p with moderator }) hp]
  refine ⟨_, _, rfl, h.map (fun q => ?_) fun q => ?_, nofun, fun _ => rfl⟩ <;> split <;> rfl

/-- Every operation, with any arguments: no index is outside the vector. -/
theorem Indexed.apply (h : Indexed r) (op : Operation) :
    ∃ result, op.apply r = some result ∧ Applies op r result := by
  cases op with
  | insert p => exact ⟨_, rfl, h.insert p⟩
  | setMuted id muted => exact ⟨_, rfl, h.setMuted id muted⟩
  | setHeld id held => exact ⟨_, rfl, h.setHeld id held⟩
  | updateIdentity callId identity => exact ⟨_, rfl, h.updateIdentity callId identity⟩
  | remove id =>
    obtain ⟨r', removed, heq, happlies⟩ := h.remove id
    exact ⟨_, by rw [Operation.apply, heq]; rfl, happlies⟩
  | setModerator id moderator =>
    obtain ⟨r', result, heq, happlies⟩ := h.setModerator id moderator
    exact ⟨_, by rw [Operation.apply, heq]; rfl, happlies⟩

/-! ## Order -/

theorem sameOrder_filter (ids : List ParticipantId) (kept : ParticipantId → Bool) :
    SameOrder ids (ids.filter kept) := by
  have hleft : ids.filter (· ∈ ids.filter kept) = ids.filter kept :=
    List.filter_congr fun id hid => by simp [hid]
  have hright : (ids.filter kept).filter (· ∈ ids) = ids.filter kept :=
    List.filter_eq_self.mpr fun id hid => by simpa using (List.mem_filter.mp hid).1
  exact hleft.trans hright.symm

theorem sameOrder_of_eq {ids ids' : List ParticipantId} (h : ids = ids') : SameOrder ids ids' := by
  subst h
  rfl

theorem Operation.sameOrder (op : Operation) {l : List ConferenceParticipant}
    (hn : ((op.effect l).map (·.id)).Nodup) :
    SameOrder (l.map (·.id)) ((op.effect l).map (·.id)) := by
  cases op with
  | insert p =>
    rw [effect, List.map_append, List.map_singleton] at hn ⊢
    have hnew : p.id ∉ l.map (·.id) := fun hid =>
      (List.nodup_append.mp hn).2.2 _ hid _ (List.mem_singleton_self _) rfl
    have hold : (l.map (·.id) ++ [p.id]).filter (· ≠ p.id) = l.map (·.id) := by
      rw [List.filter_append, List.filter_cons_of_neg (by simp), List.filter_nil, List.append_nil,
        List.filter_eq_self]
      intro id hid
      rw [decide_eq_true_eq]
      rintro rfl
      exact hnew hid
    have horder := sameOrder_filter (l.map (·.id) ++ [p.id]) (· ≠ p.id)
    rw [hold] at horder
    exact horder.symm
  | remove id =>
    have hfilter : (l.filter (·.id ≠ id)).map (·.id) = (l.map (·.id)).filter (· ≠ id) := by
      rw [List.filter_map]
      rfl
    rw [effect, hfilter]
    exact sameOrder_filter _ _
  | _ =>
    refine sameOrder_of_eq ?_
    rw [effect, List.map_map]
    refine (List.map_congr_left fun p _ => ?_).symm
    simp only [Function.comp_apply]
    split <;> rfl

/-! ## The registry as a list -/

/-- The participants of a registry with exact indexes, as a registry without indexes. -/
def Indexed.list (h : Indexed r) : Sccp.ConferenceParticipantRegistry where
  participants := r.participants
  idsNodup := h.ids.nodup
  callsNodup := h.nodup_calls

/-- What an operation does to a registry without indexes. -/
def Operation.onList (l : Sccp.ConferenceParticipantRegistry) :
    Operation → Sccp.ConferenceParticipantRegistry
  | .insert p => (l.insert p).toOption.getD l
  | .setMuted id muted => l.setMuted id muted
  | .setHeld id held => l.setHeld id held
  | .updateIdentity callId identity => l.updateIdentity callId identity
  | .remove id => l.remove id
  | .setModerator id moderator => (l.setModerator id moderator).toOption.getD l

/-- Some operations have no effect where they find nothing to change. -/
theorem map_absent {l : List ConferenceParticipant} {key : ConferenceParticipant → Prop}
    [DecidablePred key] (h : ∀ p ∈ l, ¬ key p) (f : ConferenceParticipant → ConferenceParticipant) :
    (l.map fun p => if key p then f p else p) = l :=
  (List.map_congr_left fun p hp => if_neg (h p hp)).trans (List.map_id' l)

/-- The lookup by the index is the search in the list. -/
theorem Indexed.get_eq (h : Indexed r) (id : ParticipantId) : h.list.get id = r.get id := by
  show r.participants.find? _ = _
  unfold ConferenceParticipantRegistry.get
  cases hi : r.byId.get? id with
  | none =>
    rw [Option.bind_none, List.find?_eq_none]
    intro p hp
    obtain ⟨i, hi'⟩ := List.mem_iff_getElem?.mp hp
    rw [decide_eq_true_eq]
    intro hid
    rw [h.position_iff.mpr ⟨p, hi', hid⟩] at hi
    cases hi
  | some i =>
    obtain ⟨p, hp, hid⟩ := h.position_iff.mp hi
    have hmem := List.mem_of_getElem? hp
    rw [Option.bind_some, hp]
    cases hfind : r.participants.find? (·.id = id) with
    | none => exact absurd hid (by simpa using List.find?_eq_none.mp hfind p hmem)
    | some q =>
      have hq := List.find?_some hfind
      rw [decide_eq_true_eq] at hq
      rw [h.eq_of_id hmem (List.mem_of_find?_eq_some hfind) (hid.trans hq.symm)]

theorem Indexed.absent (h : Indexed r) {id : ParticipantId} (hnone : r.get id = none) :
    ∀ p ∈ r.participants, ¬ p.id = id := by
  rw [← h.get_eq] at hnone
  intro p hp
  simpa using List.find?_eq_none.mp hnone p hp

/-- An edit is refused just where nothing is found. -/
theorem edit_refused {index : Option Nat} {f : ConferenceParticipant → ConferenceParticipant}
    (hnone : (r.edit index f).2 = false) : index.bind (r.participants[·]?) = none := by
  unfold ConferenceParticipantRegistry.edit at hnone
  split at hnone
  · rfl
  split at hnone
  next hi => exact hi
  next => cases hnone

theorem Indexed.contains_call (h : Indexed r) {callId : PbxCallId} :
    r.byPbx.contains callId = true ↔ callId ∈ r.participants.map (·.pbxCallId) := by
  rw [Table.contains_iff, List.mem_map]
  constructor
  · rintro ⟨id, hid⟩
    obtain ⟨p, hp, hcall, -⟩ := (h.calls _ _).mp hid
    exact ⟨p, hp, hcall⟩
  · rintro ⟨p, hp, hcall⟩
    exact ⟨p.id, (h.calls _ _).mpr ⟨p, hp, hcall, rfl⟩⟩

theorem Indexed.list_insert (h : Indexed r) (p : ConferenceParticipant) :
    ((h.list.insert p).toOption.getD h.list).participants = (r.insert p).1.participants := by
  have hid : r.byId.contains p.id = true ↔ p.id ∈ h.list.participants.map (·.id) :=
    h.ids.contains_iff
  have hcall : r.byPbx.contains p.pbxCallId = true
      ↔ p.pbxCallId ∈ h.list.participants.map (·.pbxCallId) := h.contains_call
  unfold Sccp.ConferenceParticipantRegistry.insert ConferenceParticipantRegistry.insert
  by_cases hroom : r.participants.length ≥ maxConferenceParticipants
  · rw [if_pos hroom, if_pos (c := h.list.participants.length ≥ _) hroom]
    rfl
  rw [if_neg hroom, if_neg (c := h.list.participants.length ≥ _) hroom]
  by_cases hdup : r.byId.contains p.id = true
  · rw [if_pos hdup, dif_pos (hid.mp hdup)]
    rfl
  rw [if_neg hdup, dif_neg (mt hid.mpr hdup)]
  by_cases hbusy : r.byPbx.contains p.pbxCallId = true
  · rw [if_pos hbusy, dif_pos (hcall.mp hbusy)]
    rfl
  · rw [if_neg hbusy, dif_neg (mt hcall.mpr hbusy)]
    rfl

theorem Indexed.list_setModerator (h : Indexed r) (id : ParticipantId) (moderator : Bool)
    {r' : ConferenceParticipantRegistry} {result : Except ParticipantRegistryError Unit}
    (heq : r.setModerator id moderator = some (r', result)) :
    ((h.list.setModerator id moderator).toOption.getD h.list).participants = r'.participants := by
  unfold ConferenceParticipantRegistry.setModerator at heq
  unfold Sccp.ConferenceParticipantRegistry.setModerator
  rw [h.get_eq, ConferenceParticipantRegistry.get]
  split at heq
  next hi =>
    cases heq
    rw [hi]
    rfl
  next i hi =>
  obtain ⟨p, hp, rfl⟩ := h.position_iff.mp hi
  simp only [hp] at heq
  simp only [hi, Option.bind_some, hp]
  split at heq
  next hsame =>
    cases heq
    rw [if_pos hsame]
    rfl
  next hsame =>
  rw [if_neg hsame]
  split at heq
  next hlast =>
    cases heq
    rw [if_pos (c := !moderator ∧ h.list.moderatorCount = 1) hlast]
    rfl
  next hlast =>
    cases heq
    rw [if_neg (c := !moderator ∧ h.list.moderatorCount = 1) hlast]
    exact (h.set_eq_map (f := fun p => { p with moderator }) hp).symm

/-- The registry with indexes does what the registry without them does. -/
theorem Indexed.refines (h : Indexed r) (op : Operation)
    {result : ConferenceParticipantRegistry × Bool} (heq : op.apply r = some result) :
    (op.onList h.list).participants = result.1.participants := by
  obtain ⟨_, hsome, happlies⟩ := h.apply op
  rw [heq] at hsome
  cases hsome
  -- where the effect on the list is that of the operation, only a refusal is left to compare
  have hplain (hlist : (op.onList h.list).participants = op.effect r.participants)
      (hrefused : result.2 = false → op.effect r.participants = r.participants) :
      (op.onList h.list).participants = result.1.participants := by
    rw [hlist]
    cases haccepted : result.2 with
    | true => exact (happlies.accepted haccepted).symm
    | false => rw [happlies.refused haccepted, hrefused haccepted]
  cases op with
  | insert p =>
    cases heq
    exact h.list_insert p
  | setMuted id muted =>
    cases heq
    exact hplain rfl fun hno => map_absent (h.absent (edit_refused hno)) _
  | setHeld id held =>
    cases heq
    exact hplain rfl fun hno => map_absent (h.absent (edit_refused hno)) _
  | updateIdentity callId identity =>
    cases heq
    refine hplain rfl fun hno => map_absent (fun p hp hcall => ?_) _
    have hnone := edit_refused hno
    rw [(h.calls _ _).mpr ⟨p, hp, hcall, rfl⟩] at hnone
    exact h.absent hnone p hp rfl
  | remove id =>
    refine hplain rfl fun hno => List.filter_eq_self.mpr fun p hp => ?_
    rw [Operation.apply, ConferenceParticipantRegistry.remove] at heq
    rw [decide_eq_true_eq]
    intro hid
    obtain ⟨i, hi⟩ := List.mem_iff_getElem?.mp hp
    rw [h.position_iff.mpr ⟨p, hi, hid⟩] at heq
    simp only [hi, Option.map_some] at heq
    cases heq
    cases hno
  | setModerator id moderator =>
    obtain ⟨⟨r', answer⟩, hanswer, rfl⟩ := Option.map_eq_some_iff.mp heq
    exact h.list_setModerator id moderator hanswer

/-! ## Runs -/

/-- An accepted change of role leaves a moderator: the one addressed, or another one, since the
    last is not demoted. -/
theorem Indexed.setModerator_keeps (h : Indexed r) {id : ParticipantId} {moderator : Bool}
    {r' : ConferenceParticipantRegistry} {result : Except ParticipantRegistryError Unit}
    (heq : r.setModerator id moderator = some (r', result))
    (hmoderator : ∃ p ∈ r.participants, p.moderator = true) :
    ∃ p ∈ r'.participants, p.moderator = true := by
  unfold ConferenceParticipantRegistry.setModerator at heq
  split at heq
  · cases heq
    exact hmoderator
  next i hi =>
  obtain ⟨p, hp, rfl⟩ := h.position_iff.mp hi
  have hmem : p ∈ h.list.participants := List.mem_of_getElem? hp
  simp only [hp] at heq
  split at heq
  · cases heq
    exact hmoderator
  next hrole =>
  split at heq
  · cases heq
    exact hmoderator
  next hlast =>
  cases heq
  simp only [h.set_eq_map (f := fun p => { p with moderator }) hp]
  cases moderator with
  | true => exact ⟨_, List.mem_map_of_mem hmem, by rw [if_pos rfl]⟩
  | false =>
    have hcount := h.list.countP_remove hmem (·.moderator)
    rw [if_pos (by simpa using hrole)] at hcount
    have hleft : 0 < ((h.list.remove p.id).participants.filter (·.moderator)).length := by
      refine Nat.pos_of_ne_zero fun hzero => hlast ⟨rfl, ?_⟩
      rw [hzero] at hcount
      exact hcount
    obtain ⟨q, hq⟩ := List.exists_mem_of_length_pos hleft
    obtain ⟨hq, hmod⟩ := List.mem_filter.mp hq
    obtain ⟨hq, hne⟩ := List.mem_filter.mp hq
    rw [decide_eq_true_eq] at hne
    exact ⟨_, List.mem_map_of_mem hq, by rw [if_neg hne]; exact hmod⟩

/-- One step, whatever the operation. -/
theorem Indexed.follows (h : Indexed r) (op : Operation) :
    ∃ r' accepted, op.apply r = some (r', accepted) ∧ Indexed r' ∧ Follows op r r' accepted := by
  obtain ⟨⟨r', accepted⟩, heq, happlies⟩ := h.apply op
  refine ⟨r', accepted, heq, happlies.indexed, happlies.refused, happlies.accepted, ?_, ?_⟩
  · cases accepted with
    | false =>
      have hsame : r' = r := happlies.refused rfl
      exact sameOrder_of_eq (hsame ▸ rfl)
    | true =>
      have heffect := happlies.accepted rfl
      have hn := happlies.indexed.ids.nodup
      simp only at heffect hn ⊢
      rw [heffect] at hn ⊢
      exact op.sameOrder hn
  · rintro id moderator rfl hmoderator
    obtain ⟨⟨_, result⟩, hset, heq⟩ := Option.map_eq_some_iff.mp heq
    cases heq
    exact h.setModerator_keeps hset hmoderator

theorem Indexed.insertAll (h : Indexed r) {ps : List ConferenceParticipant}
    {r' : ConferenceParticipantRegistry} (heq : r.insertAll ps = .ok r') : Indexed r' := by
  induction ps generalizing r with
  | nil => exact Except.ok.inj heq ▸ h
  | cons p rest ih =>
    have hinsert := (h.insert p).indexed
    rw [ConferenceParticipantRegistry.insertAll] at heq
    split at heq
    · cases heq
    next hok => exact ih (by rwa [hok] at hinsert) heq

theorem indexed_new {ps : List ConferenceParticipant}
    (heq : ConferenceParticipantRegistry.new ps = .ok r) : Indexed r := by
  unfold ConferenceParticipantRegistry.new at heq
  split at heq
  · cases heq
  next hall =>
  split at heq
  · cases heq
  · exact Except.ok.inj heq ▸ indexed_empty.insertAll hall

/-- The registry after an operation; `none` after a panic. -/
def step (s : Option ConferenceParticipantRegistry) (op : Operation) :
    Option ConferenceParticipantRegistry :=
  s.bind fun r => (op.apply r).map (·.1)

/-- A registry with exact indexes, in which no id and no call stands twice. -/
def Sound (s : Option ConferenceParticipantRegistry) : Prop :=
  ∃ r, s = some r ∧ Indexed r ∧ (r.participants.map (·.id)).Nodup
    ∧ (r.participants.map (·.pbxCallId)).Nodup

/-- A step that does not panic and does what its operation says. -/
def Proper (s : Option ConferenceParticipantRegistry) (op : Operation) : Prop :=
  ∃ r r' accepted, s = some r ∧ op.apply r = some (r', accepted) ∧ Follows op r r' accepted

/-- From the empty registry or one that `new` accepts, every sequence of operations with any
    arguments keeps the registry sound, and every step is proper. -/
theorem registry_runs {start : ConferenceParticipantRegistry}
    (h : start = {} ∨ ∃ ps, ConferenceParticipantRegistry.new ps = .ok start)
    (ops : List Operation) :
    Runs.Always step Sound (some start) ops ∧ Runs.Each step Proper (some start) ops := by
  have hstart : Indexed start := by
    rcases h with rfl | ⟨ps, hnew⟩
    · exact indexed_empty
    · exact indexed_new hnew
  have hsound : ∀ s, (∃ r, s = some r ∧ Indexed r) → Sound s := by
    rintro s ⟨r, rfl, hr⟩
    exact ⟨r, rfl, hr, hr.ids.nodup, hr.nodup_calls⟩
  have hstep : ∀ s op, (∃ r, s = some r ∧ Indexed r) → True
      → ∃ r, step s op = some r ∧ Indexed r := by
    rintro s op ⟨r, rfl, hr⟩ -
    obtain ⟨r', accepted, heq, hr', -⟩ := hr.follows op
    exact ⟨r', by rw [step, Option.bind_some, heq]; rfl, hr'⟩
  have hproper : ∀ s op, (∃ r, s = some r ∧ Indexed r) → True → Proper s op := by
    rintro s op ⟨r, rfl, hr⟩ -
    obtain ⟨r', accepted, heq, -, hfollows⟩ := hr.follows op
    exact ⟨r, r', accepted, rfl, heq, hfollows⟩
  have htrue : Runs.Each step (fun _ _ => True) (some start) ops := Runs.each_true _ _
  exact ⟨Runs.always_of_each hsound hstep ⟨start, rfl, hstart⟩ htrue,
    Runs.each_of_invariant hproper hstep ⟨start, rfl, hstart⟩ htrue⟩

theorem Indexed.run_refines (h : Indexed r) (ops : List Operation) :
    ∃ r', Runs.run step (some r) ops = some r' ∧ Indexed r'
      ∧ (Runs.run (fun l (op : Operation) => op.onList l) h.list ops).participants
        = r'.participants := by
  induction ops generalizing r with
  | nil => exact ⟨r, rfl, h, rfl⟩
  | cons op rest ih =>
    obtain ⟨result, heq, happlies⟩ := h.apply op
    obtain ⟨r', hrun, hr', hsame⟩ := ih happlies.indexed
    have hlist : op.onList h.list = happlies.indexed.list := by
      have hparticipants := h.refines op heq
      generalize op.onList h.list = l at hparticipants ⊢
      cases l
      cases hparticipants
      rfl
    refine ⟨r', ?_, hr', ?_⟩
    · show Runs.run step (step (some r) op) rest = _
      rw [step, Option.bind_some, heq]
      exact hrun
    · show (Runs.run _ (op.onList h.list) rest).participants = _
      rw [hlist]
      exact hsame

/-- Under any sequence of operations from the empty registry, the registry with indexes does
    not panic, and holds the participants of the registry without them. -/
theorem registry_refines (ops : List Operation) :
    ∃ r, Runs.run step (some {}) ops = some r ∧ Indexed r
      ∧ (Runs.run (fun l (op : Operation) => op.onList l)
        ({} : Sccp.ConferenceParticipantRegistry) ops).participants = r.participants :=
  indexed_empty.run_refines ops

/-- The moderator of a conference, and a participant who is not one. -/
def host : ConferenceParticipant := ⟨⟨1⟩, ⟨11⟩, ⟨21⟩, ⟨"SEP1"⟩, "Host", "100", true, false, false⟩

def guest : ConferenceParticipant :=
  ⟨⟨2⟩, ⟨12⟩, ⟨22⟩, ⟨"SEP2"⟩, "Guest", "200", false, false, false⟩

/-- The host leaves, and the guest, now in the host's place, is muted. -/
theorem registry_runs_host : ∃ start, ConferenceParticipantRegistry.new [host, guest] = .ok start
      ∧ Runs.Always step Sound (some start) [.remove host.id, .setMuted guest.id true]
      ∧ Runs.Each step Proper (some start) [.remove host.id, .setMuted guest.id true] :=
  ⟨_, rfl, registry_runs (.inr ⟨[host, guest], rfl⟩) _⟩

end Sccp.Conference
