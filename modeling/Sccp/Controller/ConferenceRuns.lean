/-
  Sccp.Controller.ConferenceRuns

  Runs of committed operations on one conference, and the music that their
  effects leave each participant with.  A two-step change is its begin followed
  by its commit; what else the driver does in between belongs to the rest of the
  controller.
-/

import Sccp.Controller.Events

namespace Sccp

open Function (update)

/-- The committed operations on a conference, with any arguments. -/
inductive ConferenceOperation where
  | invite (moderatorCallId inviteCallId : CallId) (binding : LineBinding) (codec : Codec)
      (now : Instant)
  | mergeInvite (inviteCallId : CallId)
  | abortInvite (inviteCallId : CallId)
      (inviteChannelCreated moderatorNeedsResume restoreModeratorMedia : Bool)
  | hold (callId : CallId) (held : Bool)
  | mute (requester : DeviceId) (participantId : ParticipantId) (muted : Bool)
  | changeRole (requester : DeviceId) (participantId : ParticipantId) (moderator : Bool)
  | remove (requester : DeviceId) (participantId : ParticipantId)
  | depart (pbxId : PbxCallId) (alreadyHungUp : Option PbxCallId) (announce : Bool)

namespace Controller

variable (s : Controller)

/-- Whether a handset call belongs to a conference. -/
def concerns (callId : CallId) (conferenceId : ConferenceId) : Bool :=
  (s.conferenceSession callId).any fun session => session.id = conferenceId

/-- The participant a moderator's hold is about (`prepare_hold`). -/
def heldParticipant (callId : CallId) : Option ConferenceParticipant :=
  (s.conferenceSession callId).bind fun session =>
    session.participants.participants.find? (·.handsetCallId = callId)

/-- The controller and the effects after an operation on a conference; `none` when
    it is rejected or does not concern the conference. -/
def commitOperation (conferenceId : ConferenceId) :
    ConferenceOperation → Option (Controller × List DriverEffect)
  | .invite moderatorCallId inviteCallId binding codec now =>
    if !s.concerns moderatorCallId conferenceId then none
    else
      match s.beginConferenceInvite moderatorCallId inviteCallId binding codec now with
      | (_, .error _) => none
      | (s, .ok effects) => some (s, effects)
  | .mergeInvite inviteCallId =>
    if !s.concerns inviteCallId conferenceId then none
    else
      match s.confirmConferenceInvite inviteCallId with
      | .error _ => none
      | .ok effects =>
        match s.conferenceInviteMerged inviteCallId with
        | (_, false) => none
        | (s, true) => some (s, effects)
  | .abortInvite inviteCallId channelCreated needsResume restoreMedia =>
    if !s.concerns inviteCallId conferenceId then none
    else some (s.abortConferenceInvite inviteCallId channelCreated needsResume restoreMedia)
  | .hold callId held =>
    if !s.concerns callId conferenceId then none
    else
      match s.beginConferenceModeratorLegTransition callId held with
      | (_, .error _) => none
      | (s, .ok effects) =>
        match s.heldParticipant callId with
        | none => none
        | some participant =>
          match s.conferenceModeratorLegTransitioned conferenceId participant.id held with
          | (_, false) => none
          | (s, true) => some (s, effects)
  | .mute requester participantId muted =>
    match s.beginConferenceParticipantMute requester conferenceId participantId muted with
    | (_, .error _) => none
    | (s, .ok effects) =>
      match s.conferenceParticipantMuted conferenceId participantId muted with
      | (_, false) => none
      | (s, true) => some (s, effects)
  | .changeRole requester participantId moderator =>
    match s.beginConferenceParticipantRoleChange requester conferenceId participantId moderator with
    | (_, .error _) => none
    | (s, .ok effects) =>
      match s.conferenceParticipantRoleChanged conferenceId participantId moderator with
      | (_, false) => none
      | (s, true) => some (s, effects)
  | .remove requester participantId =>
    match s.beginConferenceParticipantRemoval requester conferenceId participantId with
    | (_, .error _) => none
    | (s, .ok effects) =>
      match s.conferenceParticipantRemoved conferenceId participantId with
      | (_, none) => none
      | (s, some more) => some (s, effects ++ more)
  | .depart pbxId alreadyHungUp announce =>
    match s.conferenceSessionById conferenceId with
    | none => none
    | some session => some (s.activeConferenceDeparture session pbxId alreadyHungUp announce)

end Controller

/-- The music of each participant. -/
abbrev Music := ParticipantId → Bool

/-- The music after a list of effects. -/
def Music.play (music : Music) : List DriverEffect → Music
  | [] => music
  | .backend (.bridge (.setParticipantMusicOnHold _ participantId _ _ enabled)) :: rest =>
    play (update music participantId enabled) rest
  | _ :: rest => play music rest

/-- The participants of a conference. -/
def Controller.participantIds (s : Controller) (conferenceId : ConferenceId) : List ParticipantId :=
  ((s.conferenceSessionById conferenceId).map fun session =>
    session.participants.participants.map (·.id)).getD []

/-- A controller, and the music of the participants of one conference. -/
structure Concert where
  controller : Controller
  music : Music

/-- An operation on the conference, or any other event at the controller. -/
inductive ConcertEvent where
  | operation (op : ConferenceOperation)
  | elsewhere (event : Event)

namespace Concert

/-- One event.  The music of a participant ends with the participation. -/
def step (conferenceId : ConferenceId) (w : Concert) : ConcertEvent → Concert
  | .operation op =>
    match w.controller.commitOperation conferenceId op with
    | none => w
    | some (s, effects) =>
      { controller := s
        music := fun participantId =>
          decide (participantId ∈ s.participantIds conferenceId)
            && w.music.play effects participantId }
  | .elsewhere event => { w with controller := w.controller.handle event }

end Concert

end Sccp
