/-
  Sccp.Controller.Step

  Runs of the controller.  `Op` lists the operations that edit calls,
  appearances, device pointers, shared control, conferences, transfers, diverts
  and call transitions, with any arguments.  The compound operations of
  `operations.rs`, `parking.rs` and `records.rs` are sequences of these.
-/

import Sccp.Controller.Operations

namespace Sccp

inductive Op where
  | registerSession (generation : SessionGeneration) (device : DeviceId)
  | disconnected (device : DeviceId)
  | updateCapabilities (device : DeviceId) (capabilities : List Codec)
  | setCallSelected (device : DeviceId) (callId : CallId) (selected : Bool)
  | beginPhoneCall (sccpId : CallId) (binding : LineBinding) (codec : Codec) (now : Instant)
  | beginAdditionalPhoneCall (sccpId : CallId) (binding : LineBinding) (codec : Codec)
      (now : Instant)
  | beginAsteriskCall (sccpId : CallId) (pbxId : PbxCallId) (binding : LineBinding)
      (codec : Codec)
  | offerInboundCallWithPolicy (pbxId : PbxCallId) (candidates : List InboundAppearance)
  | addCallAppearance (pbxId : PbxCallId) (sccpId : CallId) (binding : LineBinding)
      (codec : Codec)
  | cancelInboundOffer (callId : CallId)
  | digit (callId : CallId) (key : Digit) (now : Instant)
  | enbloc (callId : CallId) (number : String)
  | speedDial (callId : CallId) (number : String) (awaitFurtherDigits : Bool) (now : Instant)
  | expireDigits (now : Instant)
  | pbxRinging (pbxId : PbxCallId)
  | pbxProgressWithMediaMode (pbxId : PbxCallId) (earlyMedia coupled : Bool)
  | phoneAnswer (callId : CallId)
  | pbxAnswer (pbxId : PbxCallId)
  | hold (callId : CallId)
  | resume (callId : CallId)
  | steal (callId : CallId)
  | barge (callId : CallId) (binding : LineBinding) (codec : Codec) (mode : BargeMode)
  | abortBarge (callId : CallId) (bridgeJoined channelCreated : Bool)
  | hangup (callId : CallId)
  | pbxHangup (pbxId : PbxCallId)
  | beginRemoteHangup (pbxId : PbxCallId) (tone : Option Tone) (delay : Duration) (now : Instant)
  | forwardRingingCall (pbxId : PbxCallId)
  | claimRingingForward (pbxId : PbxCallId)
  | rollbackRingingForward (pbxId : PbxCallId)
  | completeRingingForward (pbxId : PbxCallId)
  | switchActiveCall (device : DeviceId) (callId : CallId)
  | beginActiveCallSwitchTransaction (device : DeviceId) (callId : CallId)
  | beginAdditionalPhoneCallTransaction (sccpId : CallId) (binding : LineBinding) (codec : Codec)
      (now : Instant)
  | beginHotlineCallTransaction (request : HotlineCallRequest)
  | commitCallTransition (id : CallTransitionId)
  | recordCallTransitionSuccess (id : CallTransitionId) (effect : DriverEffect)
  | abortCallTransition (id : CallTransitionId) (progress : CallTransitionProgress)
  | compensateUnrecordedCallTransitionEffect (transition : CallTransition)
      (effect : DriverEffect)
  | setAutoAnswerRequest (pbxId : PbxCallId) (request : AutoAnswerRequest)
  | scheduleAutoAnswers (pbxId : PbxCallId) (policy : AutoAnswerPolicy) (now : Instant)
  | expireAutoAnswers (now : Instant)
  | beginTransfer (request : TransferConsultationRequest)
  | transferSetupCompleted (device : DeviceId) (id : TransferId)
      (milestone : TransferSetupMilestone)
  | deferTransferAction (device : DeviceId) (id : TransferId) (action : DeferredTransferAction)
  | completeTransfer (device : DeviceId) (consultationCallId : CallId) (trigger : TransferTrigger)
  | completeDeviceTransfer (device : DeviceId) (reported : Option CallId)
      (trigger : TransferTrigger)
  | directTransfer (device : DeviceId)
  | transferSucceeded (device : DeviceId) (id : TransferId)
  | abortTransfer (device : DeviceId) (id : TransferId) (reason : TransferCancellationReason)
  | beginImmediateDivert (device : DeviceId) (callId : CallId) (target : VoicemailTarget)
  | beginSelectedVoicemailTransfer (device : DeviceId) (target : VoicemailTarget)
  | abortVoicemail (device : DeviceId) (id : VoicemailTransactionId)
  | voicemailSucceeded (device : DeviceId) (id : VoicemailTransactionId)
  | completeVoicemailNative (device : DeviceId) (id : VoicemailTransactionId)
      (pbxCallId : PbxCallId)
  | joinCallsWithMedia (device : DeviceId) (initiating : CallId) (permitted : Bool)
      (policy : ConferenceMediaPolicy)
  | abortJoinConference (callId : CallId) (bridgeCreated : Bool) (resumed : List PbxCallId)
  | beginConferenceWithMedia (request : ConferenceConsultationRequest)
      (policy : ConferenceMediaPolicy)
  | abortConference (callId : CallId) (bridgeCreated consultationChannelCreated
      originalNeedsResume restoreOriginalMedia : Bool)
  | confirmConference (callId : CallId)
  | conferenceMerged (callId : CallId)
  | beginConferenceInvite (moderatorCallId inviteCallId : CallId) (binding : LineBinding)
      (codec : Codec) (now : Instant)
  | conferenceInviteMerged (inviteCallId : CallId)
  | abortConferenceInvite (inviteCallId : CallId) (inviteChannelCreated moderatorNeedsResume
      restoreModeratorMedia : Bool)
  | claimConferenceMutation (callId : CallId)
  | claimConferenceMutationById (conferenceId : ConferenceId)
  | completeConferenceMutation (token : ConferenceMutationToken)
  | beginConferenceModeratorLegTransition (callId : CallId) (held : Bool)
  | conferenceModeratorLegTransitioned (conferenceId : ConferenceId)
      (participantId : ParticipantId) (held : Bool)
  | abortConferenceModeratorLegTransition (conferenceId : ConferenceId)
      (participantId : ParticipantId) (held : Bool) (completedMusic : List ParticipantId)
      (handsetAttempted : Bool)
  | beginConferenceParticipantMute (requester : DeviceId) (conferenceId : ConferenceId)
      (participantId : ParticipantId) (muted : Bool)
  | conferenceParticipantMuted (conferenceId : ConferenceId) (participantId : ParticipantId)
      (muted : Bool)
  | abortConferenceParticipantMute (conferenceId : ConferenceId) (participantId : ParticipantId)
      (muted : Bool)
  | beginConferenceParticipantRemoval (requester : DeviceId) (conferenceId : ConferenceId)
      (participantId : ParticipantId)
  | conferenceParticipantRemoved (conferenceId : ConferenceId) (participantId : ParticipantId)
  | abortConferenceParticipantRemoval (conferenceId : ConferenceId)
      (participantId : ParticipantId)
  | beginConferenceParticipantRoleChange (requester : DeviceId) (conferenceId : ConferenceId)
      (participantId : ParticipantId) (moderator : Bool)
  | conferenceParticipantRoleChanged (conferenceId : ConferenceId)
      (participantId : ParticipantId) (moderator : Bool)
  | abortConferenceParticipantRoleChange (conferenceId : ConferenceId)
      (participantId : ParticipantId) (moderator : Bool)
  | cancelConference (callId : CallId)
  | endConference (callId : CallId)
  | endConferenceByModerator (requester : DeviceId) (conferenceId : ConferenceId)
  | drainConferencesForShutdown
  | conferenceParticipantFailed (callId : CallId)
  | beginConferenceDestination (request : ConferenceDestinationRequest)
  | conferenceDestinationFailed (mutation : ConferenceMutationToken) (handsetCallId : CallId)
      (heldCalls completedHolds : List PbxCallId)
  | beginDirectedPickup (callId : CallId) (permitted enabled : Bool) (context : String)
      (answer : Bool)
  | groupPickup (callId : CallId) (permitted answer : Bool)
  | park (callId : CallId) (enabled : Bool) (lot : Option String)
  | parkingFailed (callId : CallId)
  | parkingConfirmed (callId : CallId) (slot : Nat)
  | beginParkingRetrieval (callId : CallId) (binding : LineBinding) (codec : Codec)
      (lot : Option String) (slot : Nat) (info : CallInfo)
  | parkingRetrieved (callId : CallId)
  | parkingRetrievalFailed (callId : CallId)

namespace Controller

/-- The controller after an operation. -/
def step (s : Controller) : Op → Controller
  | .registerSession generation device => (s.registerSession generation device).1
  | .disconnected device => (s.disconnected device).1
  | .updateCapabilities device capabilities =>
    s.modifyDevice device fun state => { state with capabilities := some capabilities }
  | .setCallSelected device callId selected => s.setCallSelected device callId selected
  | .beginPhoneCall sccpId binding codec now => (s.beginPhoneCall sccpId binding codec now).1
  | .beginAdditionalPhoneCall sccpId binding codec now =>
    (s.beginAdditionalPhoneCall sccpId binding codec now).1
  | .beginAsteriskCall sccpId pbxId binding codec => s.beginAsteriskCall sccpId pbxId binding codec
  | .offerInboundCallWithPolicy pbxId candidates =>
    (s.offerInboundCallWithPolicy pbxId candidates).1
  | .addCallAppearance pbxId sccpId binding codec =>
    (s.addCallAppearance pbxId sccpId binding codec).1
  | .cancelInboundOffer callId => (s.cancelInboundOffer callId).1
  | .digit callId key now => (s.digit callId key now).1
  | .enbloc callId number => (s.enbloc callId number).1
  | .speedDial callId number awaitFurtherDigits now =>
    (s.speedDial callId number awaitFurtherDigits now).1
  | .expireDigits now => (s.expireDigits now).1
  | .pbxRinging pbxId => (s.pbxRinging pbxId).1
  | .pbxProgressWithMediaMode pbxId earlyMedia coupled =>
    (s.pbxProgressWithMediaMode pbxId earlyMedia coupled).1
  | .phoneAnswer callId => (s.phoneAnswer callId).1
  | .pbxAnswer pbxId => (s.pbxAnswer pbxId).1
  | .hold callId => (s.hold callId).1
  | .resume callId => (s.resume callId).1
  | .steal callId => (s.steal callId).1
  | .barge callId binding codec mode => (s.barge callId binding codec mode).1
  | .abortBarge callId bridgeJoined channelCreated =>
    (s.abortBarge callId bridgeJoined channelCreated).1
  | .hangup callId => (s.hangup callId).1
  | .pbxHangup pbxId => (s.pbxHangup pbxId).1
  | .beginRemoteHangup pbxId tone delay now => (s.beginRemoteHangup pbxId tone delay now).1
  | .forwardRingingCall pbxId => (s.forwardRingingCall pbxId).1
  | .claimRingingForward pbxId => (s.claimRingingForward pbxId).1
  | .rollbackRingingForward pbxId => (s.rollbackRingingForward pbxId).1
  | .completeRingingForward pbxId => (s.completeRingingForward pbxId).1
  | .switchActiveCall device callId => (s.switchActiveCall device callId).1
  | .beginActiveCallSwitchTransaction device callId =>
    (s.beginActiveCallSwitchTransaction device callId).1
  | .beginAdditionalPhoneCallTransaction sccpId binding codec now =>
    (s.beginAdditionalPhoneCallTransaction sccpId binding codec now).1
  | .beginHotlineCallTransaction request => (s.beginHotlineCallTransaction request).1
  | .commitCallTransition id => (s.commitCallTransition id).1
  | .recordCallTransitionSuccess id effect => (s.recordCallTransitionSuccess id effect).1
  | .abortCallTransition id progress => (s.abortCallTransition id progress).1
  | .compensateUnrecordedCallTransitionEffect transition effect =>
    (s.compensateUnrecordedCallTransitionEffect transition effect).1
  | .setAutoAnswerRequest pbxId request => (s.setAutoAnswerRequest pbxId request).1
  | .scheduleAutoAnswers pbxId policy now => (s.scheduleAutoAnswers pbxId policy now).1
  | .expireAutoAnswers now => (s.expireAutoAnswers now).1
  | .beginTransfer request => (s.beginTransfer request).1
  | .transferSetupCompleted device id milestone => (s.transferSetupCompleted device id milestone).1
  | .deferTransferAction device id action => (s.deferTransferAction device id action).1
  | .completeTransfer device consultationCallId trigger =>
    (s.completeTransfer device consultationCallId trigger).1
  | .completeDeviceTransfer device reported trigger =>
    (s.completeDeviceTransfer device reported trigger).1
  | .directTransfer device => (s.directTransfer device).1
  | .transferSucceeded device id => (s.transferSucceeded device id).1
  | .abortTransfer device id reason => (s.abortTransfer device id reason).1
  | .beginImmediateDivert device callId target => (s.beginImmediateDivert device callId target).1
  | .beginSelectedVoicemailTransfer device target =>
    (s.beginSelectedVoicemailTransfer device target).1
  | .abortVoicemail device id => (s.abortVoicemail device id).1
  | .voicemailSucceeded device id => (s.voicemailSucceeded device id).1
  | .completeVoicemailNative device id pbxCallId =>
    (s.completeVoicemailNative device id pbxCallId).1
  | .joinCallsWithMedia device initiating permitted policy =>
    (s.joinCallsWithMedia device initiating permitted policy).1
  | .abortJoinConference callId bridgeCreated resumed =>
    (s.abortJoinConference callId bridgeCreated resumed).1
  | .beginConferenceWithMedia request policy => (s.beginConferenceWithMedia request policy).1
  | .abortConference callId bridgeCreated channelCreated needsResume restoreMedia =>
    (s.abortConference callId bridgeCreated channelCreated needsResume restoreMedia).1
  | .confirmConference callId => (s.confirmConference callId).1
  | .conferenceMerged callId => (s.conferenceMerged callId).1
  | .beginConferenceInvite moderatorCallId inviteCallId binding codec now =>
    (s.beginConferenceInvite moderatorCallId inviteCallId binding codec now).1
  | .conferenceInviteMerged inviteCallId => (s.conferenceInviteMerged inviteCallId).1
  | .abortConferenceInvite inviteCallId channelCreated needsResume restoreMedia =>
    (s.abortConferenceInvite inviteCallId channelCreated needsResume restoreMedia).1
  | .claimConferenceMutation callId => (s.claimConferenceMutation callId).1
  | .claimConferenceMutationById conferenceId => (s.claimConferenceMutationById conferenceId).1
  | .completeConferenceMutation token => (s.completeConferenceMutation token).1
  | .beginConferenceModeratorLegTransition callId held =>
    (s.beginConferenceModeratorLegTransition callId held).1
  | .conferenceModeratorLegTransitioned conferenceId participantId held =>
    (s.conferenceModeratorLegTransitioned conferenceId participantId held).1
  | .abortConferenceModeratorLegTransition conferenceId participantId held completedMusic
      handsetAttempted =>
      (s.abortConferenceModeratorLegTransition conferenceId participantId held completedMusic
        handsetAttempted).1
  | .beginConferenceParticipantMute requester conferenceId participantId muted =>
    (s.beginConferenceParticipantMute requester conferenceId participantId muted).1
  | .conferenceParticipantMuted conferenceId participantId muted =>
    (s.conferenceParticipantMuted conferenceId participantId muted).1
  | .abortConferenceParticipantMute conferenceId participantId muted =>
    (s.abortConferenceParticipantMute conferenceId participantId muted).1
  | .beginConferenceParticipantRemoval requester conferenceId participantId =>
    (s.beginConferenceParticipantRemoval requester conferenceId participantId).1
  | .conferenceParticipantRemoved conferenceId participantId =>
    (s.conferenceParticipantRemoved conferenceId participantId).1
  | .abortConferenceParticipantRemoval conferenceId participantId =>
    (s.abortConferenceParticipantRemoval conferenceId participantId).1
  | .beginConferenceParticipantRoleChange requester conferenceId participantId moderator =>
    (s.beginConferenceParticipantRoleChange requester conferenceId participantId moderator).1
  | .conferenceParticipantRoleChanged conferenceId participantId moderator =>
    (s.conferenceParticipantRoleChanged conferenceId participantId moderator).1
  | .abortConferenceParticipantRoleChange conferenceId participantId moderator =>
    (s.abortConferenceParticipantRoleChange conferenceId participantId moderator).1
  | .cancelConference callId => (s.cancelConference callId).1
  | .endConference callId => (s.endConference callId).1
  | .endConferenceByModerator requester conferenceId =>
    (s.endConferenceByModerator requester conferenceId).1
  | .drainConferencesForShutdown => s.drainConferencesForShutdown.1
  | .conferenceParticipantFailed callId => (s.conferenceParticipantFailed callId).1
  | .beginConferenceDestination request => (s.beginConferenceDestination request).1
  | .conferenceDestinationFailed mutation handsetCallId heldCalls completedHolds =>
    (s.conferenceDestinationFailed mutation handsetCallId heldCalls completedHolds).1
  | .beginDirectedPickup callId permitted enabled context answer =>
    (s.beginDirectedPickup callId permitted enabled context answer).1
  | .groupPickup callId permitted answer => (s.groupPickup callId permitted answer).1
  | .park callId enabled lot => (s.park callId enabled lot).1
  | .parkingFailed callId => (s.parkingFailed callId).1
  | .parkingConfirmed callId slot => (s.parkingConfirmed callId slot).1
  | .beginParkingRetrieval callId binding codec lot slot info =>
    (s.beginParkingRetrieval callId binding codec lot slot info).1
  | .parkingRetrieved callId => (s.parkingRetrieved callId).1
  | .parkingRetrievalFailed callId => (s.parkingRetrievalFailed callId).1

/-- The controller after a sequence of operations. -/
def run (s : Controller) (ops : List Op) : Controller := ops.foldl step s

end Controller

end Sccp
