/-
  Sccp.Conference.Indexed

  The participant registry of a conference with its two indexes (`conference/mod.rs`):
  positions by participant id, and participant ids by PBX call.  An index outside the vector
  gives `none` where the source panics.
-/

import Sccp.Conference.Participants
import Sccp.Lib.Positions

namespace Sccp.Conference

/-- Participants in order of arrival, with an index by id and one by PBX call. -/
structure ConferenceParticipantRegistry where
  participants : List ConferenceParticipant := []
  byId : Table ParticipantId Nat := ∅
  byPbx : Table PbxCallId ParticipantId := ∅

namespace ConferenceParticipantRegistry

variable (r : ConferenceParticipantRegistry)

/-- How many participants moderate. -/
def moderatorCount : Nat :=
  (r.participants.filter (·.moderator)).length

/-- Add a participant at the end, if it is new and there is room. -/
def insert (participant : ConferenceParticipant) :
    ConferenceParticipantRegistry × Except ParticipantRegistryError Unit :=
  if r.participants.length ≥ maxConferenceParticipants then (r, .error .full)
  else if r.byId.contains participant.id then (r, .error .duplicateId)
  else if r.byPbx.contains participant.pbxCallId then (r, .error .duplicateCall)
  else
    ({ participants := r.participants ++ [participant]
       byId := r.byId.insert participant.id r.participants.length
       byPbx := r.byPbx.insert participant.pbxCallId participant.id }, .ok ())

/-- Add participants in turn, up to the first that is refused. -/
def insertAll (r : ConferenceParticipantRegistry) :
    List ConferenceParticipant → Except ParticipantRegistryError ConferenceParticipantRegistry
  | [] => .ok r
  | participant :: rest =>
    match r.insert participant with
    | (_, .error e) => .error e
    | (r, .ok ()) => r.insertAll rest

/-- A registry of these participants; one of them must moderate. -/
def new (participants : List ConferenceParticipant) :
    Except ParticipantRegistryError ConferenceParticipantRegistry :=
  match insertAll {} participants with
  | .error e => .error e
  | .ok r => if r.moderatorCount = 0 then .error .missingModerator else .ok r

/-- The participant at the position that the index has for an id. -/
def get (id : ParticipantId) : Option ConferenceParticipant :=
  (r.byId.get? id).bind (r.participants[·]?)

/-- Edit the participant that `get_mut` finds at an index, if there is one. -/
def edit (index : Option Nat)
    (f : ConferenceParticipant → ConferenceParticipant) : ConferenceParticipantRegistry × Bool :=
  match index with
  | none => (r, false)
  | some i =>
    match r.participants[i]? with
    | none => (r, false)
    | some p => ({ r with participants := r.participants.set i (f p) }, true)

/-- Mute or unmute one participant. -/
def setMuted (id : ParticipantId) (muted : Bool) : ConferenceParticipantRegistry × Bool :=
  r.edit (r.byId.get? id) fun p => { p with muted }

/-- Mark one participant as held or not. -/
def setHeld (id : ParticipantId) (held : Bool) : ConferenceParticipantRegistry × Bool :=
  r.edit (r.byId.get? id) fun p => { p with held }

/-- Replace the identity shown for one PBX call. -/
def updateIdentity (callId : PbxCallId)
    (identity : ConferenceParticipantIdentity) : ConferenceParticipantRegistry × Bool :=
  r.edit ((r.byPbx.get? callId).bind r.byId.get?) fun p =>
    { p with displayName := identity.displayName, number := identity.number }

/-- The participants behind the one removed are numbered anew. -/
def remove (id : ParticipantId) :
    Option (ConferenceParticipantRegistry × Option ConferenceParticipant) :=
  match r.byId.get? id with
  | none => some (r, none)
  | some index =>
    match r.participants[index]? with
    | none => none
    | some p =>
      let participants := r.participants.eraseIdx index
      some ({ participants
              byId := Positions.reindex (r.byId.erase id) index
                ((participants.map (·.id)).drop index)
              byPbx := r.byPbx.erase p.pbxCallId }, some p)

/-- Change one role; the last moderator keeps it. -/
def setModerator (id : ParticipantId) (moderator : Bool) :
    Option (ConferenceParticipantRegistry × Except ParticipantRegistryError Unit) :=
  match r.byId.get? id with
  | none => some (r, .error .unknownParticipant)
  | some index =>
    match r.participants[index]? with
    | none => none
    | some p =>
      if p.moderator = moderator then some (r, .error .unchangedRole)
      else if !moderator ∧ r.moderatorCount = 1 then some (r, .error .lastModerator)
      else some ({ r with participants := r.participants.set index { p with moderator } }, .ok ())

end ConferenceParticipantRegistry

/-! ## Operations -/

/-- The operations on a registry that has been built. -/
inductive Operation where
  | insert (participant : ConferenceParticipant)
  | setMuted (id : ParticipantId) (muted : Bool)
  | setHeld (id : ParticipantId) (held : Bool)
  | updateIdentity (callId : PbxCallId) (identity : ConferenceParticipantIdentity)
  | remove (id : ParticipantId)
  | setModerator (id : ParticipantId) (moderator : Bool)

/-- The registry after an operation, and whether the operation was accepted. -/
def Operation.apply (r : ConferenceParticipantRegistry) :
    Operation → Option (ConferenceParticipantRegistry × Bool)
  | .insert p => let (r, result) := r.insert p; some (r, result.toBool)
  | .setMuted id muted => some (r.setMuted id muted)
  | .setHeld id held => some (r.setHeld id held)
  | .updateIdentity callId identity => some (r.updateIdentity callId identity)
  | .remove id => (r.remove id).map fun (r, removed) => (r, removed.isSome)
  | .setModerator id moderator => (r.setModerator id moderator).map fun (r, result) =>
      (r, result.toBool)

end Sccp.Conference
