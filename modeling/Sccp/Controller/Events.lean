/-
  Sccp.Controller.Events

  Runs at the asynchronous boundary.  Besides the operations of `Op`, a driver
  prepares conference mutations, which hands it tokens, and settles them with
  the tokens it holds, in any order and possibly more than once
  (`operations.rs`).
-/

import Sccp.Controller.Step

namespace Sccp

/-- The preparations of a conference mutation, with any arguments. -/
inductive Preparation where
  | joinCalls (device : DeviceId) (callId : CallId) (permitted : Bool)
      (policy : ConferenceMediaPolicy)
  | conference (request : ConferenceConsultationRequest) (policy : ConferenceMediaPolicy)
  | confirmConference (callId : CallId)
  | conferenceInvite (moderatorCallId inviteCallId : CallId) (binding : LineBinding)
      (codec : Codec) (now : Instant)
  | confirmConferenceInvite (callId : CallId)
  | conferenceRemoval (device : DeviceId) (conferenceId : ConferenceId)
      (participantId : ParticipantId)
  | conferenceMute (device : DeviceId) (conferenceId : ConferenceId)
      (participantId : ParticipantId) (muted : Bool)
  | conferenceRoleChange (device : DeviceId) (conferenceId : ConferenceId)
      (participantId : ParticipantId) (moderator : Bool)
  | conferenceHold (callId : CallId) (held : Bool)

/-- The commits and aborts that present a token. -/
inductive Settlement where
  | abortRemoval (conferenceId : ConferenceId) (participantId : ParticipantId)
  | commitRemoval (conferenceId : ConferenceId) (participantId : ParticipantId)
  | abortMute (conferenceId : ConferenceId) (participantId : ParticipantId) (muted : Bool)
  | commitMute (conferenceId : ConferenceId) (participantId : ParticipantId) (muted : Bool)
  | abortRoleChange (conferenceId : ConferenceId) (participantId : ParticipantId)
      (moderator : Bool)
  | commitRoleChange (conferenceId : ConferenceId) (participantId : ParticipantId)
      (moderator : Bool)
  | abortConference (callId : CallId)
      (bridgeCreated channelCreated originalNeedsResume restoreOriginalMedia : Bool)
  | commitConference (callId : CallId) (conferenceId : ConferenceId)
  | abortInvite (inviteCallId : CallId)
      (inviteChannelCreated moderatorNeedsResume restoreModeratorMedia : Bool)
  | commitInvite (inviteCallId : CallId) (conferenceId : ConferenceId)
      (participantId : ParticipantId)
  | abortJoin (callId : CallId) (bridgeCreated : Bool) (resumedCallIds : List PbxCallId)
  | abortHold (conferenceId : ConferenceId) (participantId : ParticipantId) (held : Bool)
      (completedMusic : List ParticipantId) (handsetAttempted : Bool)
  | commitHold (conferenceId : ConferenceId) (participantId : ParticipantId) (held : Bool)
      (completedMusic : List ParticipantId) (handsetAttempted : Bool)

/-- One call of the driver into the controller. -/
inductive Event where
  | operate (op : Op)
  | prepare (preparation : Preparation)
  | settle (mutation : ConferenceMutationToken) (settlement : Settlement)

/-- The token and the effects of a result, if it is not a rejection. -/
def prepared {ε : Type} : Controller × Except ε (ConferenceMutationToken × List DriverEffect) →
      Controller × Option (ConferenceMutationToken × List DriverEffect)
  | (s, .error _) => (s, none)
  | (s, .ok result) => (s, some result)

namespace Controller

variable (s : Controller)

/-- A preparation: `none` when it is rejected. -/
def prepare : Preparation → Controller × Option (ConferenceMutationToken × List DriverEffect)
  | .joinCalls device callId permitted policy =>
    prepared (s.prepareJoinCalls device callId permitted policy)
  | .conference request policy => prepared (s.prepareConference request policy)
  | .confirmConference callId => prepared (s.prepareConfirmConference callId)
  | .conferenceInvite moderatorCallId inviteCallId binding codec now =>
    prepared (s.prepareConferenceInvite moderatorCallId inviteCallId binding codec now)
  | .confirmConferenceInvite callId => prepared (s.prepareConfirmConferenceInvite callId)
  | .conferenceRemoval device conferenceId participantId =>
    prepared (s.prepareConferenceRemoval device conferenceId participantId)
  | .conferenceMute device conferenceId participantId muted =>
    prepared (s.prepareConferenceMute device conferenceId participantId muted)
  | .conferenceRoleChange device conferenceId participantId moderator =>
    prepared (s.prepareConferenceRoleChange device conferenceId participantId moderator)
  | .conferenceHold callId held =>
    match s.prepareConferenceHold callId held with
    | (s, .error _) => (s, none)
    | (s, .ok (_, _, mutation, effects)) => (s, some (mutation, effects))

/-- A commit or an abort, with the effects it asks for. -/
def settle (mutation : ConferenceMutationToken) : Settlement → Controller × List DriverEffect
  | .abortRemoval conferenceId participantId =>
    ((s.abortReservedConferenceRemoval mutation conferenceId participantId).1, [])
  | .commitRemoval conferenceId participantId =>
    let (s, effects) := s.commitReservedConferenceRemoval mutation conferenceId participantId
    (s, effects.getD [])
  | .abortMute conferenceId participantId muted =>
    ((s.abortReservedConferenceMute mutation conferenceId participantId muted).1, [])
  | .commitMute conferenceId participantId muted =>
    ((s.commitReservedConferenceMute mutation conferenceId participantId muted).1, [])
  | .abortRoleChange conferenceId participantId moderator =>
    ((s.abortReservedConferenceRoleChange mutation conferenceId participantId moderator).1, [])
  | .commitRoleChange conferenceId participantId moderator =>
    ((s.commitReservedConferenceRoleChange mutation conferenceId participantId moderator).1, [])
  | .abortConference callId bridgeCreated channelCreated needsResume restoreMedia =>
    s.abortReservedConference mutation callId bridgeCreated channelCreated needsResume restoreMedia
  | .commitConference callId conferenceId =>
    let (s, _, effects) := s.commitReservedConference mutation callId conferenceId
    (s, effects.getD [])
  | .abortInvite inviteCallId channelCreated needsResume restoreMedia =>
    s.abortReservedConferenceInvite mutation inviteCallId channelCreated needsResume restoreMedia
  | .commitInvite inviteCallId conferenceId participantId =>
    let (s, _, effects) :=
      s.commitReservedConferenceInvite mutation inviteCallId conferenceId participantId
    (s, effects.getD [])
  | .abortJoin callId bridgeCreated resumedCallIds =>
    s.abortReservedJoin mutation callId bridgeCreated resumedCallIds
  | .abortHold conferenceId participantId held completedMusic handsetAttempted =>
    s.abortReservedHold mutation conferenceId participantId held completedMusic handsetAttempted
  | .commitHold conferenceId participantId held completedMusic handsetAttempted =>
    let (s, _, effects) := s.commitReservedHold mutation conferenceId participantId held
      completedMusic handsetAttempted
    (s, effects)

/-- The controller after an event. -/
def handle : Event → Controller
  | .operate op => s.step op
  | .prepare preparation => (s.prepare preparation).1
  | .settle mutation settlement => (s.settle mutation settlement).1

/-- The controller after a sequence of events. -/
def handleAll (events : List Event) : Controller := events.foldl handle s

end Controller

/-! ## A small installation

Two devices that share line 100; runs on it show what can go wrong. -/

namespace Sample

def desk : DeviceId := ⟨"SEP000000000001"⟩

def lobby : DeviceId := ⟨"SEP000000000002"⟩

def binding (device : DeviceId) : LineBinding :=
  { deviceId := device, lineInstance := 1, appearance := { displayLabel := "100" }
    line := { number := "100", context := "default" } }

def codec : Codec := ⟨4⟩

def register (device : DeviceId) : Op := .registerSession ⟨1⟩ device

/-- An offer of PBX call 7 to one appearance on each listed device. -/
def offer (appearances : List (Nat × DeviceId)) : Op :=
  .offerInboundCallWithPolicy ⟨7⟩ (appearances.map fun x =>
    { callId := ⟨x.1⟩, binding := binding x.2, codec })

end Sample

end Sccp
