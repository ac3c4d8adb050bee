/-
  Sccp.Runtime.Effects

  Effect values the controller emits (`runtime/backend/effects.rs`): work for
  the PBX backend and for the handset sessions, executed after the transition
  that produced them.
-/

import Sccp.Call.Transfer
import Sccp.Call.Voicemail
import Sccp.Call.Forwarding
import Sccp.Conference.Participants

namespace Sccp

/-- Who holds a reserved conference mutation. -/
inductive ConferenceMutationOwner where
  | session (id : ConferenceId)
  | destination (callId : PbxCallId)
  deriving DecidableEq

structure ConferenceMutationToken where
  owner : ConferenceMutationOwner
  generation : Nat
  deriving DecidableEq

structure ConferenceDestinationOperation where
  callId : PbxCallId
  destination : String
  applicationOptions : String
  handsetCallId : CallId
  heldCalls : List PbxCallId
  mutation : ConferenceMutationToken

inductive BridgeOperation where
  | create (bridgeId : PbxBridgeId)
  | destroy (bridgeId : PbxBridgeId)
  | addParticipant (bridgeId : PbxBridgeId) (callId : PbxCallId)
  | removeParticipant (bridgeId : PbxBridgeId) (callId : PbxCallId)
  | mergeConsultation (bridgeId : PbxBridgeId) (originalCallId consultationCallId : PbxCallId)
  | mergeCalls (bridgeId : PbxBridgeId) (callIds : List PbxCallId)
  | mergeParticipant (bridgeId : PbxBridgeId) (callId : PbxCallId)
  | setParticipantMuted (bridgeId : PbxBridgeId) (participantId : ParticipantId)
      (callId : PbxCallId) (muted : Bool)
  | removeConferenceParticipant (bridgeId : PbxBridgeId) (participantId : ParticipantId)
      (callId : PbxCallId)
  | setParticipantMusicOnHold (bridgeId : PbxBridgeId) (participantId : ParticipantId)
      (callId : PbxCallId) (musicClass : String) (enabled : Bool)

inductive ConferenceAnnouncement where
  | connected
  | participantJoined (id : ParticipantId)
  | participantMuted (id : ParticipantId)
  | participantUnmuted (id : ParticipantId)
  | participantRemoved (id : ParticipantId)
  | moderatorDeparted (id : ParticipantId)

structure ConferenceAnnouncementTarget where
  participantId : ParticipantId
  callId : PbxCallId

structure ConferenceAnnouncementOperation where
  conferenceId : ConferenceId
  targets : List ConferenceAnnouncementTarget
  announcement : ConferenceAnnouncement

inductive BargeOperation where
  | join (bridgeId : PbxBridgeId) (targetCallId bargerCallId : PbxCallId)
  | leave (bridgeId : PbxBridgeId) (bargerCallId : PbxCallId) (lastParticipant : Bool)

inductive PickupOperation where
  | group (callId : PbxCallId) (deviceId : DeviceId) (handsetCallId : CallId) (codec : Codec)
      (answer : Bool)
  | directed (callId : PbxCallId) (deviceId : DeviceId) (handsetCallId : CallId) (codec : Codec)
      (extension : String) (context : String) (answer : Bool)

inductive ParkingOperation where
  | park (callId : PbxCallId) (lot : Option String)
  | retrieve (callId : PbxCallId) (lot : Option String) (slot : String)

inductive PbxEffect where
  | createChannel (handsetCallId : CallId) (callId : PbxCallId) (binding : LineBinding)
      (codec : Codec)
  | createConsultationChannel (sourceCallId : PbxCallId) (handsetCallId : CallId)
      (callId : PbxCallId) (binding : LineBinding) (codec : Codec)
  | startRouting (callId : PbxCallId) (context destination : String)
  | forward (operation : ForwardingOperation)
  | voicemail (operation : VoicemailOperation)
  | startConferenceDestination (operation : ConferenceDestinationOperation)
  | answer (callId : PbxCallId)
  | hangup (callId : PbxCallId)
  | sendDigit (callId : PbxCallId) (digit : Char)
  | configureMedia (callId : PbxCallId) (deviceId : DeviceId) (handsetCallId : CallId)
      (codec : Codec) (remote : MediaEndpoint)
  | configureMediaOnly (callId : PbxCallId) (deviceId : DeviceId) (codec : Codec)
      (remote : MediaEndpoint)
  | hold (callId : PbxCallId)
  | resume (callId : PbxCallId)
  | transfer (operation : TransferCompletion)
  | bridge (operation : BridgeOperation)
  | barge (operation : BargeOperation)
  | pickup (operation : PickupOperation)
  | parking (operation : ParkingOperation)
  | conferenceAnnouncement (operation : ConferenceAnnouncementOperation)

structure ConferenceListEntry where
  participantId : ParticipantId
  name : String
  number : String
  moderator : Bool
  muted : Bool

inductive HandsetEffect where
  | beginCall (deviceId : DeviceId) (lineInstance : Nat) (callId : CallId) (codec : Codec)
  | beginTransfer (deviceId : DeviceId) (sourceCallId consultationCallId : CallId)
      (consultationLineInstance : Nat) (codec : Codec)
  | startTone (deviceId : DeviceId) (callId : CallId) (tone : Tone)
  | commitOutboundCall (deviceId : DeviceId) (callId : CallId) (info : CallInfo)
  | presentOutboundProceeding (deviceId : DeviceId) (callId : CallId) (info : CallInfo)
  | presentOutboundRinging (deviceId : DeviceId) (callId : CallId) (info : CallInfo)
  | setCallInfo (deviceId : DeviceId) (callId : CallId) (info : CallInfo)
  | beginMedia (deviceId : DeviceId) (callId : CallId) (codec : Codec)
  | beginAnswerMedia (deviceId : DeviceId) (callId : CallId) (codec : Codec)
  | beginOutboundMedia (deviceId : DeviceId) (callId : CallId) (codec : Codec)
  | beginOneWayMedia (deviceId : DeviceId) (callId : CallId) (codec : Codec)
  | beginEarlyMedia (deviceId : DeviceId) (callId : CallId) (codec : Codec)
  | openVideoReceive (deviceId : DeviceId) (callId : CallId) (generation : SessionGeneration)
  | startVideoTransmit (deviceId : DeviceId) (callId : CallId) (generation : SessionGeneration)
  | refreshVideo (deviceId : DeviceId) (callId : CallId) (generation : SessionGeneration)
      (party : PassthroughPartyId)
  | stopVideo (deviceId : DeviceId) (callId : CallId) (generation : SessionGeneration)
  | startMedia (deviceId : DeviceId) (callId : CallId) (endpoint : MediaEndpoint)
  | setCallState (deviceId : DeviceId) (callId : CallId) (state : HandsetCallState)
      (stopMedia : Bool)
  | setMicrophoneMode (deviceId : DeviceId) (callId : CallId) (enabled : Bool)
  | showConferenceList (deviceId : DeviceId) (callId : CallId) (conferenceId : ConferenceId)
      (participants : List ConferenceListEntry)
  | showConferenceParticipantActions (deviceId : DeviceId) (callId : CallId)
      (conferenceId : ConferenceId) (participant : ConferenceListEntry)
      (removable demotable : Bool)

namespace HandsetEffect

/-- The device an effect is delivered to. -/
def deviceId : HandsetEffect → DeviceId
  | beginCall d .. | beginTransfer d .. | startTone d .. | commitOutboundCall d ..
  | presentOutboundProceeding d .. | presentOutboundRinging d .. | setCallInfo d ..
  | beginMedia d .. | beginAnswerMedia d .. | beginOutboundMedia d .. | beginOneWayMedia d ..
  | beginEarlyMedia d .. | openVideoReceive d .. | startVideoTransmit d .. | refreshVideo d ..
  | stopVideo d .. | startMedia d .. | setCallState d .. | setMicrophoneMode d ..
  | showConferenceList d .. | showConferenceParticipantActions d .. => d

/-- The call whose transition milestone an effect can settle. -/
def transitionCallId : HandsetEffect → Option CallId
  | beginCall _ _ c _ => some c
  | startTone _ c .. | commitOutboundCall _ c .. | presentOutboundProceeding _ c ..
  | presentOutboundRinging _ c .. | setCallInfo _ c .. | beginMedia _ c ..
  | beginAnswerMedia _ c .. | beginOutboundMedia _ c .. | beginOneWayMedia _ c ..
  | beginEarlyMedia _ c .. | openVideoReceive _ c .. | startVideoTransmit _ c ..
  | refreshVideo _ c .. | stopVideo _ c .. | startMedia _ c .. | setCallState _ c ..
  | setMicrophoneMode _ c .. => some c
  | beginTransfer .. | showConferenceList .. | showConferenceParticipantActions .. => none

end HandsetEffect

inductive DriverEffect where
  | backend (effect : PbxEffect)
  | handset (effect : HandsetEffect)

end Sccp
