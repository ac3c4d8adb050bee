/-
  Sccp.Controller.State

  The controller's records (`runtime/controller.rs`): PBX calls and their
  handset appearances, registered devices, shared control, conferences, and the
  transactions that are waiting for the backend.

  A PBX call and its appearances are described by four tables: `pbx`,
  `appearances` and the two indexes `bySccp` and `byDevice`.  Every other table
  refers to calls by these ids.
-/

import Sccp.Runtime.Effects

namespace Sccp

/-- Where a call or one of its appearances stands. -/
inductive CallState where
  | collecting
  | pickupCollecting
  | ringing
  | calling
  | connected
  | parking
  | retrieving
  | held
  | remoteInUse
  | sharedHeld
  | barged
  | transferCollecting
  | ended
  deriving DecidableEq

/-- How far the PBX has taken an outbound call. -/
inductive OutboundCallPhase where
  | collecting
  | routing
  | proceeding
  | ringing
  | progress
  | answered
  deriving DecidableEq

/-- Position in the derived order of the source's enumeration. -/
def OutboundCallPhase.rank : OutboundCallPhase → Nat
  | collecting => 0
  | routing => 1
  | proceeding => 2
  | ringing => 3
  | progress => 4
  | answered => 5

/-- Whether the called party of an outbound call has been shown. -/
inductive OutboundIdentityStage where
  | awaiting
  | ready
  | ringOutPublished
  deriving DecidableEq

inductive CallSwitchRejection where
  | unavailable
  | conflict
  deriving DecidableEq

/-- One direction of the audio of an appearance. -/
inductive MediaStreamState where
  | closed
  | opening
  | «open» (endpoint : MediaEndpoint)

inductive VideoFallbackReason where
  | notNegotiated
  | nativeRtpUnavailable
  | localEndpointUnavailable
  | descriptorUnavailable
  | receiveFailed
  | transmitFailed
  deriving DecidableEq

inductive VideoStreamState where
  | closed
  | opening
  | «open» (codec : Codec) (endpoint : String)

structure VideoPlan where
  sessionGeneration : SessionGeneration
  codec : Codec
  localEndpoint : String

/-- Why an appearance has no video, or its plan and two streams. -/
inductive VideoMediaState where
  | audioOnly (reason : VideoFallbackReason)
  | blocked (plan : VideoPlan) (reason : VideoFallbackReason)
  | ready (plan : VideoPlan) (receive transmit : VideoStreamState)
      (transmitToken : Option PassthroughPartyId)

namespace VideoMediaState

/-- No video stream is open or opening. -/
def isIdle : VideoMediaState → Bool
  | ready _ .closed .closed _ => true
  | ready .. => false
  | _ => true

def closeStreams : VideoMediaState → VideoMediaState
  | ready plan _ _ _ => ready plan .closed .closed none
  | v => v

/-- The cleanup owed for a stream that is not idle. -/
def cleanup (v : VideoMediaState) (deviceId : DeviceId) (callId : CallId) : Option HandsetEffect :=
  match v with
  | ready plan .. =>
    if v.isIdle then none else some (.stopVideo deviceId callId plan.sessionGeneration)
  | _ => none

end VideoMediaState

/-- A pickup whose number is being dialled. -/
structure PendingDirectedPickup where
  context : String
  answer : Bool

/-- State owned by one PBX channel, however many phones display it. -/
structure PbxCall where
  id : PbxCallId
  line : String
  context : String
  direction : CallDirection
  state : CallState
  outboundPhase : Option OutboundCallPhase := none
  outboundIdentityStage : OutboundIdentityStage := .awaiting
  digits : String := ""
  privacy : Bool := false
  pendingPickup : Option PendingDirectedPickup := none
  appearanceIds : List CallAppearanceId := []
  activeAppearance : Option CallAppearanceId := none
  digitDeadline : Option Instant := none
  lastDigitAt : Option Instant := none
  simulatedEnblocEligible : Bool := false
  overlapEnabled : Bool := false

/-- One phone's independently addressable presentation of a PBX call. -/
structure CallAppearance where
  id : CallAppearanceId
  sccpId : CallId
  pbxId : PbxCallId
  deviceId : DeviceId
  lineInstance : Nat
  state : CallState
  ringMode : AppearanceRingMode
  privacy : Bool
  info : CallInfo
  codec : Codec
  audio : MediaStreamState := .closed
  audioTransmit : MediaStreamState := .closed
  video : VideoMediaState := .audioOnly .notNegotiated
  autoAnswerMode : Option AutoAnswerMode := none

/-- An appearance with the state of its PBX call, as callers read it. -/
structure CallSnapshot where
  sccpId : CallId
  pbxId : PbxCallId
  deviceId : DeviceId
  lineInstance : Nat
  line : String
  direction : CallDirection
  state : CallState
  digits : String
  info : CallInfo
  codec : Codec
  audio : MediaStreamState
  audioTransmit : MediaStreamState
  video : VideoMediaState
  digitDeadline : Option Instant

inductive BargeMode where
  | directed
  | conference
  deriving DecidableEq

inductive BargeRejection where
  | unavailable
  | notRemote
  | «private»
  | capability
  | conflict
  | alreadyBarged
  deriving DecidableEq

inductive PickupRejection where
  | unavailable
  | permission
  | disabled
  | conflict
  deriving DecidableEq

inductive ParkingRejection where
  | unavailable
  | disabled
  | conflict
  deriving DecidableEq

inductive ConferenceRejection where
  | unavailable
  | disabled
  | conflict
  | notConnected
  deriving DecidableEq

structure ConferenceDestinationRequest where
  deviceId : DeviceId
  handsetCallId : CallId
  destination : String
  applicationOptions : String

inductive ConferenceDestinationRejection where
  | unavailable
  | conflict
  deriving DecidableEq

inductive ConferenceParticipantRejection where
  | unavailable
  | notModerator
  | invalidParticipant
  | moderator
  | lastModerator
  | conflict
  deriving DecidableEq

inductive ConferenceEndRejection where
  | unavailable
  | notModerator
  | conflict
  deriving DecidableEq

inductive ConferencePhase where
  | consultation
  | merging
  | active
  deriving DecidableEq

inductive ConferenceOrigin where
  | consultation
  | selection
  deriving DecidableEq

/-- A participant who is called but not merged yet. -/
structure ConferenceInvite where
  moderatorId : ParticipantId
  moderatorCallId : PbxCallId
  musicStarted : Bool
  participant : ConferenceParticipant

/-- Music, muting and announcements of a conference. -/
structure ConferenceMediaPolicy where
  musicOnHoldClass : Option String := none
  muteOnEntry : Bool := false
  playGeneralAnnouncements : Bool := false
  playParticipantAnnouncements : Bool := false

structure ConferenceConsultationRequest where
  originalCallId : CallId
  consultationCallId : CallId
  binding : LineBinding
  codec : Codec
  now : Instant
  permitted : Bool

inductive ConferenceParticipantMutationKind where
  | mute (muted : Bool)
  | remove
  | moderator (moderator : Bool)
  | hold (held : Bool)
  deriving DecidableEq

/-- A change of one participant that the backend has not settled. -/
structure ConferenceParticipantMutation where
  participantId : ParticipantId
  callId : PbxCallId
  kind : ConferenceParticipantMutationKind
  deriving DecidableEq

/-- A conference from its consultation or join to its end. -/
structure ConferenceSession where
  id : ConferenceId
  bridgeId : PbxBridgeId
  deviceId : DeviceId
  originalHandsetCallId : CallId
  originalCallId : PbxCallId
  consultationHandsetCallId : CallId
  consultationCallId : PbxCallId
  phase : ConferencePhase
  origin : ConferenceOrigin
  participants : ConferenceParticipantRegistry
  mediaPolicy : ConferenceMediaPolicy := {}
  pendingInvite : Option ConferenceInvite := none
  pendingParticipantMutation : Option ConferenceParticipantMutation := none

/-- A phone that has joined another phone's call. -/
structure BargeSession where
  targetCallId : PbxCallId
  bargerCallId : PbxCallId
  bridgeId : PbxBridgeId
  handsetCallId : CallId
  mode : BargeMode

/-- The phones barged into one call. -/
structure BargeGroup where
  bridgeId : PbxBridgeId
  mode : BargeMode
  members : List CallId

/-- What a shared call is reserved for. -/
inductive SharedControlClaim where
  | steal (appearanceId : CallAppearanceId)
  | barge (bridgeId : PbxBridgeId)
  deriving DecidableEq

/-- One pre-allocated handset identity and configured line appearance that may
    receive an inbound PBX call. -/
structure InboundAppearance where
  callId : CallId
  binding : LineBinding
  codec : Codec

/-- One ringing appearance, as its phone is told of it. -/
structure InboundOffer where
  deviceId : DeviceId
  lineInstance : Nat
  callId : CallId
  ringMode : AppearanceRingMode
  state : HandsetCallState

structure CallWaitingToneSchedule where
  deviceId : DeviceId
  waitingCallId : CallId
  activeCallId : CallId
  tone : Tone
  interval : Duration
  nextAt : Instant

/-- An answer that is due at its deadline. -/
structure PendingAutoAnswer where
  generation : Nat
  pbxId : PbxCallId
  callId : CallId
  deadline : Instant
  request : AutoAnswerRequest
  tone : Tone

/-- Delay and tone of a scheduled auto-answer. -/
structure AutoAnswerPolicy where
  delay : Duration
  tone : Tone

inductive AutoAnswerScheduleRejection where
  | unavailable
  | generationExhausted
  deriving DecidableEq

inductive InboundUnavailableReason where
  | conflict
  | noEligibleAppearance
  | doNotDisturb
  | forwardingConflict
  | incomingLimit
  deriving DecidableEq

/-- What becomes of an inbound call. -/
inductive InboundCallDisposition where
  | offer (offers : List InboundOffer)
  | forward (binding : LineBinding) (destination : ForwardingDestination)
      (reason : ForwardingRouteReason)
  | unavailable (reason : InboundUnavailableReason)

structure PbxHangupOutcome where
  primary : Option CallSnapshot
  effects : List DriverEffect

/-- A far-end hangup shown to the phone until its deadline. -/
structure PendingRemoteHangup where
  deferred : Bool
  token : Nat
  deviceId : DeviceId
  callId : CallId
  deadline : Instant

/-- What the end of one conference leaves to do. -/
structure ConferenceCleanupPlan where
  conferenceId : ConferenceId
  callIds : List PbxCallId
  effects : List DriverEffect

structure ConferenceParticipantFailureOutcome where
  conferenceId : ConferenceId
  failedCallId : PbxCallId
  callIds : List PbxCallId
  survivingSession : Option ConferenceSession
  effects : List DriverEffect

structure TransferConsultationRequest where
  sourceCallId : CallId
  consultationCallId : CallId
  binding : LineBinding
  codec : Codec
  completeOnHangup : Bool
  now : Instant

structure TransferCompletionPlan where
  completion : TransferCompletion
  effects : List DriverEffect

structure TransferTerminalOutcome where
  transaction : TransferTransaction
  effects : List DriverEffect

structure VoicemailPlan where
  transaction : VoicemailTransaction
  effects : List DriverEffect

structure VoicemailTerminalOutcome where
  transaction : VoicemailTransaction
  effects : List DriverEffect

inductive VoicemailNativeOutcome where
  | committed (outcome : VoicemailTerminalOutcome)
  | callAlreadyEnded

structure HotlineCallRequest where
  handsetCallId : CallId
  binding : LineBinding
  codec : Codec
  destination : String
  context : String
  now : Instant

/-- A connected device; `activeCall` is the handset call its keys act on, and
    `capabilities` the audio codecs it has advertised. -/
structure RegisteredDevice where
  sessionGeneration : SessionGeneration
  capabilities : Option (List Codec) := none
  selectedLine : Option Nat := none
  activeCall : Option CallId := none
  selectedCalls : List CallId := []

structure RegisterSessionOutcome where
  cleanup : List DriverEffect
  replaced : Bool

inductive DndMode where
  | off
  | silent
  | reject
  deriving DecidableEq

/-- The features set on a device. -/
structure DeviceFeatureState where
  dnd : DndMode := .off
  privacy : Bool := false
  recordingArmed : Bool := false
  forwarding : ForwardingState := {}

structure CallTransitionId where
  val : Nat
  deriving DecidableEq

inductive CallTransitionKind where
  | additional
  | switch (state : CallState)
  deriving DecidableEq

/-- A switch of the active call and the effects it asks for. -/
structure CallTransition where
  id : CallTransitionId
  effects : List DriverEffect
  deviceId : DeviceId
  targetCallId : CallId
  targetPbxId : PbxCallId
  previousCallId : Option CallId
  previousPbxId : Option PbxCallId
  kind : CallTransitionKind
  autoAnswerMode : Option AutoAnswerMode

/-- An effect of a transition whose success can be recorded. -/
inductive CallTransitionMilestone where
  | previousBackendHeld
  | previousHandsetHeld
  | targetBackendStarted
  | targetHandsetChanged
  | targetMicrophoneDisabled
  deriving DecidableEq

/-- The milestones a transition has completed. -/
abbrev CallTransitionProgress := List CallTransitionMilestone

/-- What a rolled back transition has to undo outside. -/
structure CallTransitionCompensation where
  effects : List DriverEffect := []
  removeTargetChannel : Bool := false

/-- What `call_domain_snapshot` records of the controller. -/
structure CallDomainSnapshot where
  devices : Table DeviceId RegisteredDevice
  pbxCalls : Table PbxCallId PbxCall
  appearances : Table CallAppearanceId CallAppearance
  appearanceBySccp : Table CallId CallAppearanceId
  sharedControlClaims : Table PbxCallId SharedControlClaim
  callWaitingTones : Table CallId CallWaitingToneSchedule
  pendingPhoneAnswers : Table CallId PbxCallId
  pendingRouteMedia : List CallId

/-- A transition in progress with the state to go back to. -/
structure PendingCallTransition where
  transition : CallTransition
  snapshot : CallDomainSnapshot
  progress : CallTransitionProgress

/-- The controller, flat: `call_registry`, `barges` and `conferences` are the
    groups of fields that start with their name, and the four call tables. -/
structure Controller where
  nextPbxId : Nat
  nextAppearanceId : Nat
  nextBridgeId : Nat
  nextConferenceId : Nat
  nextParticipantId : Nat
  nextConferenceMutationGeneration : Nat
  nextCallTransitionId : Nat
  nextAutoAnswerGeneration : Nat
  nextRemoteHangupGeneration : Nat
  firstDigit : Duration
  interdigit : Duration
  dialTerminator : Char
  simulateEnbloc : Bool
  overlapDevices : List DeviceId
  lineDialTones : Table String LineDialToneConfig
  lineIncomingLimits : Table String Nat
  callWaitingTones : Table CallId CallWaitingToneSchedule
  pendingPhoneAnswers : Table CallId PbxCallId
  pendingRouteMedia : List CallId
  pendingCallTransitions : Table CallTransitionId PendingCallTransition
  autoAnswerRequests : Table PbxCallId AutoAnswerRequest
  pendingAutoAnswers : Table CallId PendingAutoAnswer
  pendingRemoteHangups : Table CallId PendingRemoteHangup
  devices : Table DeviceId RegisteredDevice
  features : Table DeviceId DeviceFeatureState
  pbx : Table PbxCallId PbxCall
  appearances : Table CallAppearanceId CallAppearance
  bySccp : Table CallId CallAppearanceId
  byDevice : Table DeviceId (List CallAppearanceId)
  sharedControlClaims : Table PbxCallId SharedControlClaim
  bargeGroups : Table PbxCallId BargeGroup
  bargesByHandset : Table CallId BargeSession
  bargesByPbx : Table PbxCallId CallId
  conferencesByConsultation : Table CallId ConferenceSession
  conferencesByPbx : Table PbxCallId CallId
  conferenceMutations : Table ConferenceMutationOwner Nat
  transfers : TransferRegistry
  voicemail : VoicemailRegistry
  redirectClaims : List PbxCallId

end Sccp
