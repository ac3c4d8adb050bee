/-
  Sccp.Controller.Operations

  Compound operations at the asynchronous boundary (`operations.rs`).  A
  preparation runs a begin operation and then claims a mutation token; the
  backend's answer presents the token to a commit or an abort, which does
  nothing unless the token is the active one.
-/

import Sccp.Controller.Transitions

namespace Sccp

namespace Controller

variable (s : Controller)

/-! ## Preparations -/

/-- Pair the effects of a begin operation with the token it is answered with;
    the begin operation stays in place when the token cannot be claimed. -/
def withToken {ε : Type} (conflict : ε) (claim : Controller
    → Controller × Option ConferenceMutationToken) : Controller × Except ε (List DriverEffect) →
      Controller × Except ε (ConferenceMutationToken × List DriverEffect)
  | (s, .error rejection) => (s, .error rejection)
  | (s, .ok effects) =>
    match claim s with
    | (s, none) => (s, .error conflict)
    | (s, some mutation) => (s, .ok (mutation, effects))

/-- Join the selected calls of a device. -/
def prepareJoinCalls (device : DeviceId) (callId : CallId) (permitted : Bool)
    (policy : ConferenceMediaPolicy) :
    Controller × Except ConferenceRejection (ConferenceMutationToken × List DriverEffect) :=
  withToken .conflict (·.claimConferenceMutation callId)
    (s.joinCallsWithMedia device callId permitted policy)

/-- Start a consultation for a conference. -/
def prepareConference (request : ConferenceConsultationRequest) (policy : ConferenceMediaPolicy) :
    Controller × Except ConferenceRejection (ConferenceMutationToken × List DriverEffect) :=
  withToken .conflict (·.claimConferenceMutation request.consultationCallId)
    (s.beginConferenceWithMedia request policy)

/-- Merge a consultation that has answered. -/
def prepareConfirmConference (callId : CallId) :
    Controller × Except ConferenceRejection (ConferenceMutationToken × List DriverEffect) :=
  withToken .conflict (·.claimConferenceMutation callId) (s.confirmConference callId)

/-- Call one more participant from an active conference. -/
def prepareConferenceInvite (moderatorCallId inviteCallId : CallId) (binding : LineBinding)
    (codec : Codec) (now : Instant) :
    Controller × Except ConferenceRejection (ConferenceMutationToken × List DriverEffect) :=
  withToken .conflict (·.claimConferenceMutation inviteCallId)
    (s.beginConferenceInvite moderatorCallId inviteCallId binding codec now)

/-- Merge an invited participant who has answered. -/
def prepareConfirmConferenceInvite (callId : CallId) :
    Controller × Except ConferenceRejection (ConferenceMutationToken × List DriverEffect) :=
  withToken .conflict (·.claimConferenceMutation callId) (s, s.confirmConferenceInvite callId)

/-- Remove a participant for a moderator. -/
def prepareConferenceRemoval (device : DeviceId) (conferenceId : ConferenceId)
    (participantId : ParticipantId) : Controller × Except ConferenceParticipantRejection
      (ConferenceMutationToken × List DriverEffect) :=
  withToken .conflict (·.claimConferenceMutationById conferenceId)
    (s.beginConferenceParticipantRemoval device conferenceId participantId)

/-- Mute or unmute a participant for a moderator. -/
def prepareConferenceMute (device : DeviceId) (conferenceId : ConferenceId)
    (participantId : ParticipantId) (muted : Bool) :
    Controller × Except ConferenceParticipantRejection
      (ConferenceMutationToken × List DriverEffect) :=
  withToken .conflict (·.claimConferenceMutationById conferenceId)
    (s.beginConferenceParticipantMute device conferenceId participantId muted)

/-- Give or take the moderator role. -/
def prepareConferenceRoleChange (device : DeviceId) (conferenceId : ConferenceId)
    (participantId : ParticipantId) (moderator : Bool) :
    Controller × Except ConferenceParticipantRejection
      (ConferenceMutationToken × List DriverEffect) :=
  withToken .conflict (·.claimConferenceMutationById conferenceId)
    (s.beginConferenceParticipantRoleChange device conferenceId participantId moderator)

/-- The conference branch of `prepare_hold`. -/
def prepareConferenceHold (callId : CallId) (held : Bool) :
    Controller × Except ConferenceParticipantRejection
      (ConferenceId × ParticipantId × ConferenceMutationToken × List DriverEffect) :=
  match s.beginConferenceModeratorLegTransition callId held with
  | (s, .error rejection) => (s, .error rejection)
  | (s, .ok effects) =>
    match s.conferenceSession callId with
    | none => (s, .error .unavailable)
    | some session =>
      match session.participants.participants.find? (·.handsetCallId = callId) with
      | none => (s, .error .invalidParticipant)
      | some participant =>
        match s.claimConferenceMutationById session.id with
        | (s, none) => (s, .error .conflict)
        | (s, some mutation) => (s, .ok (session.id, participant.id, mutation, effects))

variable (mutation : ConferenceMutationToken)

/-! ## Commits and aborts -/

/-- Run an operation and settle its token, if the token is the active one. -/
def reserved {α : Type} (stale : α) (operation : Controller → Controller × α) : Controller × α :=
  if !s.conferenceMutationIsActive mutation then (s, stale)
  else
    let (s, outcome) := operation s
    ((s.completeConferenceMutation mutation).1, outcome)

/-- The backend refused a removal. -/
def abortReservedConferenceRemoval
    (conferenceId : ConferenceId) (participantId : ParticipantId) : Controller × Bool :=
  s.reserved mutation false (·.abortConferenceParticipantRemoval conferenceId participantId)

/-- The backend removed the participant. -/
def commitReservedConferenceRemoval (conferenceId : ConferenceId) (participantId : ParticipantId) :
    Controller × Option (List DriverEffect) :=
  s.reserved mutation none (·.conferenceParticipantRemoved conferenceId participantId)

/-- The backend refused to mute or unmute. -/
def abortReservedConferenceMute
    (conferenceId : ConferenceId) (participantId : ParticipantId) (muted : Bool) :
    Controller × Bool :=
  s.reserved mutation false (·.abortConferenceParticipantMute conferenceId participantId muted)

/-- The backend muted or unmuted the participant. -/
def commitReservedConferenceMute
    (conferenceId : ConferenceId) (participantId : ParticipantId) (muted : Bool) :
    Controller × Bool :=
  s.reserved mutation false (·.conferenceParticipantMuted conferenceId participantId muted)

/-- The backend refused a change of role. -/
def abortReservedConferenceRoleChange
    (conferenceId : ConferenceId) (participantId : ParticipantId) (moderator : Bool) :
    Controller × Bool :=
  s.reserved mutation false
    (·.abortConferenceParticipantRoleChange conferenceId participantId moderator)

/-- The backend carried a change of role out. -/
def commitReservedConferenceRoleChange
    (conferenceId : ConferenceId) (participantId : ParticipantId) (moderator : Bool) :
    Controller × Bool :=
  s.reserved mutation false
    (·.conferenceParticipantRoleChanged conferenceId participantId moderator)

/-- The backend refused the consultation or its merge. -/
def abortReservedConference (callId : CallId)
    (bridgeCreated channelCreated originalNeedsResume restoreOriginalMedia : Bool) :
    Controller × List DriverEffect :=
  s.reserved mutation [] (·.abortConference callId bridgeCreated channelCreated originalNeedsResume
      restoreOriginalMedia)

/-- The backend refused an invite or its merge. -/
def abortReservedConferenceInvite (inviteCallId : CallId)
    (inviteChannelCreated moderatorNeedsResume restoreModeratorMedia : Bool) :
    Controller × List DriverEffect :=
  s.reserved mutation []
    (·.abortConferenceInvite inviteCallId inviteChannelCreated moderatorNeedsResume
      restoreModeratorMedia)

/-- A merge with the announcement it owes when it takes effect. -/
def announceMerge (conferenceId : ConferenceId) (announcement : ConferenceAnnouncement) :
    Controller × Bool → Controller × Bool × Option (List DriverEffect)
  | (s, false) => (s, false, none)
  | (s, true) => (s, true, some (s.conferenceAnnouncementEffects conferenceId announcement))

/-- The consultation is merged; the conference is announced. -/
def commitReservedConference (callId : CallId)
    (conferenceId : ConferenceId) : Controller × Bool × Option (List DriverEffect) :=
  s.reserved mutation (false, none) fun s =>
    announceMerge conferenceId .connected (s.conferenceMerged callId)

/-- The invite is merged; the participant is announced. -/
def commitReservedConferenceInvite (inviteCallId : CallId)
    (conferenceId : ConferenceId) (participantId : ParticipantId) :
    Controller × Bool × Option (List DriverEffect) :=
  s.reserved mutation (false, none) fun s =>
    announceMerge conferenceId (.participantJoined participantId)
      (s.conferenceInviteMerged inviteCallId)

/-- The backend refused to join the selected calls. -/
def abortReservedJoin (callId : CallId)
    (bridgeCreated : Bool) (resumedCallIds : List PbxCallId) : Controller × List DriverEffect :=
  s.reserved mutation [] (·.abortJoinConference callId bridgeCreated resumedCallIds)

/-- The backend refused a hold or resume of a moderator. -/
def abortReservedHold (conferenceId : ConferenceId)
    (participantId : ParticipantId) (held : Bool) (completedMusic : List ParticipantId)
    (handsetAttempted : Bool) : Controller × List DriverEffect :=
  s.reserved mutation []
    (·.abortConferenceModeratorLegTransition conferenceId participantId held completedMusic
      handsetAttempted)

/-- The moderator's leg is held or resumed; what cannot be recorded is rolled back. -/
def commitReservedHold (conferenceId : ConferenceId)
    (participantId : ParticipantId) (held : Bool) (completedMusic : List ParticipantId)
    (handsetAttempted : Bool) : Controller × Bool × List DriverEffect :=
  s.reserved mutation (false, []) fun s =>
    match s.conferenceModeratorLegTransitioned conferenceId participantId held with
    | (s, true) => (s, true, [])
    | (s, false) =>
      let (s, rollback) := s.abortConferenceModeratorLegTransition conferenceId participantId
        held completedMusic handsetAttempted
      (s, false, rollback)

end Controller

end Sccp
