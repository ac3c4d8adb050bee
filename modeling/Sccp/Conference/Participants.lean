/-
  Sccp.Conference.Participants

  Conference participants in insertion order (`conference/mod.rs`).  The source
  keeps two indexes beside the list, by participant id and by PBX call; here
  the list carries the fact that makes them functions: no id and no call occurs
  twice.
-/

import Sccp.Types
import Sccp.Lib.Table

namespace Sccp

def maxConferenceParticipants : Nat := 16

structure ConferenceParticipantIdentity where
  displayName : String := ""
  number : String := ""

structure ConferenceParticipant where
  id : ParticipantId
  pbxCallId : PbxCallId
  handsetCallId : CallId
  deviceId : DeviceId
  displayName : String
  number : String
  moderator : Bool
  muted : Bool
  held : Bool

inductive ParticipantRegistryError where
  | full
  | duplicateId
  | duplicateCall
  | missingModerator
  | unknownParticipant
  | lastModerator
  | unchangedRole
  deriving DecidableEq

structure ConferenceParticipantRegistry where
  participants : List ConferenceParticipant := []
  idsNodup : (participants.map (·.id)).Nodup := by simp
  callsNodup : (participants.map (·.pbxCallId)).Nodup := by simp

namespace ConferenceParticipantRegistry

variable (r : ConferenceParticipantRegistry)

/-- Edit every participant without touching its id or its call. -/
def mapParticipants (f : ConferenceParticipant → ConferenceParticipant)
    (hid : ∀ p, (f p).id = p.id) (hcall : ∀ p, (f p).pbxCallId = p.pbxCallId) :
    ConferenceParticipantRegistry where
  participants := r.participants.map f
  idsNodup := by simpa [List.map_map, Function.comp_def, hid] using r.idsNodup
  callsNodup := by simpa [List.map_map, Function.comp_def, hcall] using r.callsNodup

def get (id : ParticipantId) : Option ConferenceParticipant :=
  r.participants.find? (·.id = id)

def byPbx (callId : PbxCallId) : Option ConferenceParticipant :=
  r.participants.find? (·.pbxCallId = callId)

def insert (p : ConferenceParticipant) :
    Except ParticipantRegistryError ConferenceParticipantRegistry :=
  if r.participants.length ≥ maxConferenceParticipants then .error .full
  else if hid : p.id ∈ r.participants.map (·.id) then .error .duplicateId
  else if hcall : p.pbxCallId ∈ r.participants.map (·.pbxCallId) then .error .duplicateCall
  else
    .ok
      { participants := r.participants ++ [p]
        idsNodup := by
          rw [List.map_append, List.nodup_append]
          refine ⟨r.idsNodup, by simp, ?_⟩
          intro a ha b hb
          simp only [List.map_cons, List.map_nil, List.mem_singleton] at hb
          rintro rfl
          exact hid (hb ▸ ha)
        callsNodup := by
          rw [List.map_append, List.nodup_append]
          refine ⟨r.callsNodup, by simp, ?_⟩
          intro a ha b hb
          simp only [List.map_cons, List.map_nil, List.mem_singleton] at hb
          rintro rfl
          exact hcall (hb ▸ ha) }

/-- Insert a list of participants in order, stopping at the first rejection. -/
def insertAll (r : ConferenceParticipantRegistry) :
    List ConferenceParticipant → Except ParticipantRegistryError ConferenceParticipantRegistry
  | [] => .ok r
  | p :: rest =>
    match r.insert p with
    | .error e => .error e
    | .ok r' => r'.insertAll rest

def moderatorCount : Nat :=
  (r.participants.filter (·.moderator)).length

/-- `ConferenceParticipantRegistry::new`. -/
def ofList (participants : List ConferenceParticipant) :
    Except ParticipantRegistryError ConferenceParticipantRegistry :=
  match insertAll {} participants with
  | .error e => .error e
  | .ok r => if r.moderatorCount = 0 then .error .missingModerator else .ok r

def activeModeratorCount : Nat :=
  (r.participants.filter fun p => p.moderator && !p.held).length

def moderator : Option ConferenceParticipant :=
  r.participants.find? (·.moderator)

def setMuted (id : ParticipantId) (muted : Bool) : ConferenceParticipantRegistry :=
  r.mapParticipants (fun p => if p.id = id then { p with muted } else p)
    (fun p => by split <;> rfl) (fun p => by split <;> rfl)

def setHeld (id : ParticipantId) (held : Bool) : ConferenceParticipantRegistry :=
  r.mapParticipants (fun p => if p.id = id then { p with held } else p)
    (fun p => by split <;> rfl) (fun p => by split <;> rfl)

/-- Replace presentation data without changing identity or order. -/
def updateIdentity (callId : PbxCallId)
    (identity : ConferenceParticipantIdentity) : ConferenceParticipantRegistry :=
  r.mapParticipants (fun p =>
      if p.pbxCallId = callId then
        { p with displayName := identity.displayName, number := identity.number }
      else p)
    (fun p => by split <;> rfl) (fun p => by split <;> rfl)

def setModerator (id : ParticipantId) (moderator : Bool) :
    Except ParticipantRegistryError ConferenceParticipantRegistry :=
  match r.get id with
  | none => .error .unknownParticipant
  | some p =>
    if p.moderator = moderator then .error .unchangedRole
    else if !moderator ∧ r.moderatorCount = 1 then .error .lastModerator
    else
      .ok (r.mapParticipants (fun p => if p.id = id then { p with moderator } else p)
        (fun p => by split <;> rfl) (fun p => by split <;> rfl))

/-- The registry without one participant. -/
def remove (id : ParticipantId) : ConferenceParticipantRegistry where
  participants := r.participants.filter (·.id ≠ id)
  idsNodup := r.idsNodup.sublist (List.filter_sublist.map _)
  callsNodup := r.callsNodup.sublist (List.filter_sublist.map _)

/-- A registry is one of its participants and what is left without it. -/
theorem perm_remove {p : ConferenceParticipant}
    (hp : p ∈ r.participants) : r.participants.Perm (p :: (r.remove p.id).participants) := by
  obtain ⟨before, after, hsplit⟩ := List.append_of_mem hp
  have hne : ∀ q ∈ before ++ after, q.id ≠ p.id := by
    have hn := r.idsNodup
    rw [hsplit, List.map_append, List.map_cons, List.nodup_middle, List.nodup_cons,
      ← List.map_append] at hn
    intro q hq heq
    exact hn.1 (List.mem_map.mpr ⟨q, hq, heq⟩)
  have hrest : (r.remove p.id).participants = before ++ after := by
    show r.participants.filter _ = _
    rw [hsplit, List.filter_append, List.filter_cons_of_neg (by simp), ← List.filter_append,
      List.filter_eq_self]
    exact fun q hq => by simpa using hne q hq
  rw [hrest, hsplit]
  exact List.perm_middle

/-- The participants of a kind, counted with one participant apart. -/
theorem countP_remove {p : ConferenceParticipant}
    (hp : p ∈ r.participants) (kind : ConferenceParticipant → Bool) :
    (r.participants.filter kind).length
      = ((r.remove p.id).participants.filter kind).length + if kind p then 1 else 0 := by
  rw [((r.perm_remove hp).filter kind).length_eq]
  by_cases h : kind p <;> simp [h]

end ConferenceParticipantRegistry

end Sccp
