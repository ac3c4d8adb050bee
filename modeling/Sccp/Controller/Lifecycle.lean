/-
  Sccp.Controller.Lifecycle

  The end of calls and sessions, and the rollback of call transitions
  (`domains/call_registry.rs`, `controller.rs`).

  A PBX hangup first aborts the transitions that touch the call, and the abort
  of a switch to a ringing call hangs that call up again.  Every abort takes one
  pending transition away before it hangs up, so the number of pending
  transitions bounds the recursion.
-/

import Sccp.Controller.ConferenceControl

namespace Sccp

structure RemoteHangupPlan where
  outcome : PbxHangupOutcome
  pending : Option Nat

namespace Controller

variable (s : Controller)

/-! ## Handset hangup -/

def completeRemoteHangup (callId : CallId) : Controller × Option DriverEffect :=
  match s.pendingRemoteHangups.get? callId with
  | none => (s, none)
  | some pending =>
    ({ s with pendingRemoteHangups := s.pendingRemoteHangups.erase callId },
      some (.handset (.setCallState pending.deviceId pending.callId .onHook true)))

/-- The part of a hangup that a conference takes over. -/
def hangupInConference (callId : CallId) (session : ConferenceSession) :
    Option (Controller × List DriverEffect) :=
  if session.pendingInvite.any fun invite => invite.participant.handsetCallId = callId then
    some (s.abortConferenceInvite callId true true true)
  else if session.phase = .consultation ∧ session.consultationHandsetCallId = callId then
    some (s.cancelConference callId)
  else if session.phase = .active then
    match s.callPbxId callId with
    | none => some (s, [])
    | some pbxId => some (s.activeConferenceDeparture session pbxId none true)
  else if session.phase = .merging ∧ session.origin = .selection then
    some (s.endConferenceInternal session true none)
  else none

/-- A hangup outside of any conference and barge. -/
def hangupOrdinary (callId : CallId) (cleanupCurrentAppearance : Bool) :
    Controller × List DriverEffect :=
  match s.appearanceForCall callId with
  | none => (s, [])
  | some appearance =>
    match s.pbx.get? appearance.pbxId with
    | none => (s, [])
    | some call =>
      if call.activeAppearance.any (· ≠ appearance.id) then (s, [])
      else if call.activeAppearance.isNone ∧ call.state = .ringing
          ∧ 1 < call.appearanceIds.length then
        ((s.removeAppearance appearance.id).1, [])
      else
        let microphone : List DriverEffect :=
          if appearance.autoAnswerMode = some .oneWay then
            [.handset (.setMicrophoneMode appearance.deviceId appearance.sccpId true)]
          else []
        let shown := (call.appearanceIds.filter fun id =>
          cleanupCurrentAppearance || decide (id ≠ appearance.id)).filterMap s.appearances.get?
        ((s.removePbxCall appearance.pbxId).1, .backend (.hangup appearance.pbxId) :: microphone
            ++ shown.flatMap appearanceTerminalEffects)

def hangupInternal (callId : CallId) (cleanupCurrentAppearance : Bool) :
    Controller × List DriverEffect :=
  match s.completeRemoteHangup callId with
  | (s, some effect) => (s, [effect])
  | (s, none) =>
    match (s.conferenceSession callId).bind (s.hangupInConference callId) with
    | some outcome => outcome
    | none =>
      if s.bargesByHandset.contains callId then s.endBarge callId true true
      else s.hangupOrdinary callId cleanupCurrentAppearance

def hangup (callId : CallId) : Controller × List DriverEffect := s.hangupInternal callId true

def terminate (callId : CallId) : Controller × List DriverEffect := s.hangupInternal callId true

/-! ## PBX hangup and the abort of transitions -/

variable (pbxId : PbxCallId)

/-- The transfer whose source or consultation is a PBX call. -/
def transferOf : Option TransferTransaction :=
  (s.transfers.byDevice.find? fun _ t =>
    t.source.pbxCallId = pbxId || t.consultation.any (·.pbxCallId = pbxId)).map Prod.snd

/-- Record that a leg of a transfer was hung up. -/
def noteTransferHangup (leg : TransferLeg) : Controller :=
  match s.transfers.noteHangup leg with
  | .error _ => s
  | .ok transfers => { s with transfers }

/-- The part of a PBX hangup that a transfer takes over. -/
def pbxHangupTransfer (t : TransferTransaction) : Controller × Option PbxHangupOutcome :=
  let primary := s.primaryCallByPbx pbxId
  let sourceHungUp := t.source.pbxCallId = pbxId
  let leg := if sourceHungUp then t.source else t.consultation.getD t.source
  let s := s.noteTransferHangup leg
  if t.phase = .completing then (s, some { primary, effects := [] })
  else
    let reason : TransferCancellationReason :=
      if sourceHungUp then .sourceHangup else .consultationHangup
    match s.abortTransfer t.deviceId t.id reason with
    | (s, .error _) => (s, none)
    | (s, .ok outcome) => (s, some { primary, effects := outcome.effects })

/-- The part of a PBX hangup that a conference takes over. -/
def pbxHangupConference (session : ConferenceSession) : Controller × List DriverEffect :=
  let s := s.dropSessionToken session
  match session.pendingParticipantMutation.filter fun pending =>
    pending.kind = .remove ∧ pending.callId = pbxId with
  | some pending =>
    let (s, effects) := s.conferenceParticipantRemoved session.id pending.participantId
    (s, effects.getD [] ++ s.conferenceAnnouncementEffects session.id
      (.participantRemoved pending.participantId))
  | none =>
    match session.pendingInvite.filter fun invite => invite.participant.pbxCallId = pbxId with
    | some invite => s.abortConferenceInvite invite.participant.handsetCallId false true true
    | none =>
      match session.phase with
      | .consultation =>
        if pbxId = session.consultationCallId then
          s.abortConference session.consultationHandsetCallId false false true true
        else s.endConferenceInternal session false (some pbxId)
      | .merging => s.endConferenceInternal session true (some pbxId)
      | .active => s.activeConferenceDeparture session pbxId (some pbxId) true

/-- The handset view of a call. -/
def callByHandset (callId : CallId) : Option CallSnapshot :=
  match s.bySccp.get? callId with
  | none => none
  | some appearanceId => s.callSnapshot appearanceId

/-- A PBX hangup once the transitions that touched the call are aborted. -/
def pbxHangupSettled (transitionEffects : List DriverEffect) :
    Controller × Option PbxHangupOutcome :=
  match s.transferOf pbxId with
  | some t => s.pbxHangupTransfer pbxId t
  | none =>
    match s.conferenceSessionByPbx pbxId with
    | some session =>
      let primary := s.primaryCallByPbx pbxId
      let (s, effects) := s.pbxHangupConference pbxId session
      (s, some { primary, effects })
    | none =>
      match s.bargesByPbx.get? pbxId with
      | some handsetCallId =>
        let primary := s.callByHandset handsetCallId
        let (s, effects) := s.endBargeInternal handsetCallId true false true
        (s, some { primary, effects })
      | none =>
        let (s, barges) := s.endBargesForTarget pbxId
        match s.pbx.get? pbxId with
        | none => (s, none)
        | some call =>
          let shown := (s.callAppearances call).flatMap appearanceTerminalEffects
          match s.removePbxCall pbxId with
          | (s, none) => (s, none)
          | (s, some (_, primary)) =>
            (s, some { primary, effects := transitionEffects ++ barges ++ shown })

/-- The effects that undo a switch or an additional call, by what had already
    been done. -/
def previousRestored (transition : CallTransition) (progress : CallTransitionProgress) :
    List DriverEffect :=
  let backend : List DriverEffect := match transition.previousPbxId with
    | some callId => if .previousBackendHeld ∈ progress then [.backend (.resume callId)] else []
    | none => []
  let handset : List DriverEffect := match transition.previousCallId with
    | none => []
    | some previousCallId =>
      match s.appearanceForCall previousCallId with
      | none => []
      | some previous =>
        if .previousHandsetHeld ∈ progress then
          appearanceStateEffect previous .connected false :: (if previous.state = .connected then
              [.handset (.beginMedia previous.deviceId previous.sccpId previous.codec)]
            else [])
        else []
  backend ++ handset

/-- How a call is hung up. -/
abbrev Hangup := Controller → PbxCallId → Controller × Option PbxHangupOutcome

/-- What the abort of a transition does to its target, once the call domain is
    restored. -/
def abortTarget (hangup : Hangup)
    (transition : CallTransition) (progress : CallTransitionProgress) :
    Controller × List DriverEffect :=
  let started : Bool := .targetBackendStarted ∈ progress
  match transition.kind with
  | .additional =>
    (s, (if started then [.backend (.hangup transition.targetPbxId)] else [])
      ++ [.handset (.setCallState transition.deviceId transition.targetCallId .onHook true)])
  | .switch .ringing =>
    if started then
      let (s, outcome) := hangup s transition.targetPbxId
      (s, .backend (.hangup transition.targetPbxId) :: (outcome.map (·.effects)).getD [])
    else (s, [])
  | .switch state =>
    if (state = .held ∨ state = .sharedHeld) ∧ started then
      (s, .backend (.hold transition.targetPbxId) :: (if .targetHandsetChanged ∈ progress then
          [.handset (.setCallState transition.deviceId transition.targetCallId .hold true)]
        else []))
    else (s, [])

/-- Abort a transition, hanging calls up with `hangup`. -/
def abortCallTransitionWith (hangup : Hangup)
    (id : CallTransitionId) (progress : CallTransitionProgress) : Controller × List DriverEffect :=
  match s.pendingCallTransitions.get? id with
  | none => (s, [])
  | some pending =>
    let s := { s with pendingCallTransitions := s.pendingCallTransitions.erase id }
    let transition := pending.transition
    match s.restoreCallDomain pending.snapshot transition with
    | (s, false) => (s, [])
    | (s, true) =>
      let (s, effects) := s.abortTarget hangup transition progress
      (s, effects ++ (if .targetMicrophoneDisabled ∈ progress then
          [.handset (.setMicrophoneMode transition.deviceId transition.targetCallId true)]
        else [])
        ++ s.previousRestored transition progress)

/-- Whether an effect acts on a PBX call that is being hung up anyway. -/
def settledByHangup : DriverEffect → Bool
  | .backend (.hold callId) | .backend (.resume callId) | .backend (.answer callId)
  | .backend (.hangup callId) => callId = pbxId
  | _ => false

/-- Abort a list of transitions, each with the progress recorded for it. -/
def abortTransitions (hangup : Hangup) (pbxId : PbxCallId) (s : Controller) :
    List (CallTransitionId × CallTransitionProgress) → Controller × List DriverEffect
  | [] => (s, [])
  | (id, progress) :: rest =>
    let (s, effects) := s.abortCallTransitionWith hangup id progress
    let (s, more) := abortTransitions hangup pbxId s rest
    (s, effects.filter (!settledByHangup pbxId ·) ++ more)

/-- The pending transitions that touch a PBX call. -/
def transitionsOf : List (CallTransitionId × CallTransitionProgress) :=
  (s.pendingCallTransitions.entries.filter fun entry =>
    entry.2.transition.targetPbxId = pbxId
      || entry.2.transition.previousPbxId = some pbxId).map fun entry =>
    (entry.1, entry.2.progress)

/-- `pbx_hangup_with_effects`, for at most `fuel` nested aborts. -/
def pbxHangupFuel : Nat → Controller → PbxCallId → Controller × Option PbxHangupOutcome
  | 0, s, pbxId => s.pbxHangupSettled pbxId []
  | fuel + 1, s, pbxId =>
    let primary := s.primaryCallByPbx pbxId
    let (s, effects) := s.abortTransitions (pbxHangupFuel fuel) pbxId (s.transitionsOf pbxId)
    if !effects.isEmpty ∧ !s.pbx.contains pbxId then (s, some { primary, effects })
    else s.pbxHangupSettled pbxId effects

def pbxHangupWithEffects : Controller × Option PbxHangupOutcome :=
  pbxHangupFuel s.pendingCallTransitions.size s pbxId

def pbxHangup : Controller × Option CallSnapshot :=
  let (s, outcome) := s.pbxHangupWithEffects pbxId
  (s, outcome.bind (·.primary))

def abortCallTransition (id : CallTransitionId) (progress : CallTransitionProgress) :
    Controller × List DriverEffect :=
  s.abortCallTransitionWith (pbxHangupFuel s.pendingCallTransitions.size) id progress

/-! ## Remote hangup -/

def remoteHangupOwner : Option CallAppearance :=
  match s.pbx.get? pbxId with
  | none => none
  | some call =>
    match call.activeAppearance.bind s.appearances.get? with
    | none => none
    | some owner =>
      if call.state ≠ .connected ∨ owner.state ≠ .connected
          ∨ s.activeCallOf owner.deviceId ≠ some owner.sccpId
          ∨ (s.transferOf pbxId).isSome ∨ s.transitionsOf pbxId ≠ []
          ∨ s.conferencesByPbx.contains pbxId ∨ s.bargesByPbx.contains pbxId
          ∨ s.bargeGroups.contains pbxId then
        none
      else some owner

/-- Whether an effect shows a state on one handset call. -/
def showsState (device : DeviceId) (callId : CallId) : DriverEffect → Bool
  | .handset (.setCallState d c _ _) => d = device && c = callId
  | _ => false

def beginRemoteHangup (tone : Option Tone) (delay : Duration)
    (now : Instant) : Controller × Option RemoteHangupPlan :=
  match tone, s.remoteHangupOwner pbxId with
  | some tone, some owner =>
    if delay = 0 ∨ s.nextRemoteHangupGeneration + 1 ≥ 2 ^ 64 then
      let (s, outcome) := s.pbxHangupWithEffects pbxId
      (s, outcome.map fun outcome => { outcome, pending := none })
    else
      let token := s.nextRemoteHangupGeneration
      let s := { s with nextRemoteHangupGeneration := token + 1 }
      match s.pbxHangupWithEffects pbxId with
      | (s, none) => (s, none)
      | (s, some outcome) =>
        let effects := outcome.effects.filter (!showsState owner.deviceId owner.sccpId ·)
          ++ [.handset (.setCallState owner.deviceId owner.sccpId .connected true),
            .handset (.startTone owner.deviceId owner.sccpId tone)]
        let pending : PendingRemoteHangup :=
          { deferred := false, token, deviceId := owner.deviceId, callId := owner.sccpId
            deadline := now + delay }
        ({ s with pendingRemoteHangups := s.pendingRemoteHangups.insert owner.sccpId pending },
          some { outcome := { outcome with effects }, pending := some token })
  | _, _ =>
    let (s, outcome) := s.pbxHangupWithEffects pbxId
    (s, outcome.map fun outcome => { outcome, pending := none })

/-! ## Disconnect and registration -/

/-- Hang up the answers a device had not committed yet. -/
def terminateAll (s : Controller) : List CallId → Controller × List DriverEffect
  | [] => (s, [])
  | callId :: rest =>
    let (s, effects) := s.terminate callId
    let (s, more) := terminateAll s rest
    (s, effects ++ more)

/-- Let the calls of a device leave one active conference in turn. -/
def departCalls (s : Controller) : List PbxCallId → Controller × List DriverEffect
  | [] => (s, [])
  | pbxId :: rest =>
    match s.conferenceSessionByPbx pbxId with
    | none => departCalls s rest
    | some current =>
      let (s, effects) := s.activeConferenceDeparture current pbxId none false
      let (s, more) := departCalls s rest
      (s, effects ++ more)

/-- Take a device out of the conferences it had calls in. -/
def leaveConferences (device : DeviceId) (s : Controller) :
    List ConferenceSession → Controller × List DriverEffect
  | [] => (s, [])
  | session :: rest =>
    let (s, effects) :=
      if session.phase = .active then
        s.departCalls ((session.participants.participants.filter
          (·.deviceId = device)).map (·.pbxCallId))
      else s.endConferenceInternal session (session.phase = .merging) none
    let (s, more) := leaveConferences device s rest
    (s, effects ++ more)

/-- Remove appearances and report the calls that lost their last one. -/
def removeDeviceAppearances (s : Controller) : List CallAppearanceId → Controller × List PbxCallId
  | [] => (s, [])
  | appearanceId :: rest =>
    match s.removeAppearance appearanceId with
    | (s, none) => removeDeviceAppearances s rest
    | (s, some appearance) =>
      let (s', empty) := removeDeviceAppearances s rest
      (s', if (s.pbx.get? appearance.pbxId).any (·.appearanceIds.isEmpty) then
        appearance.pbxId :: empty
      else empty)

/-- Hang up calls that no handset shows any more. -/
def endEmptyCalls (s : Controller) : List PbxCallId → Controller × List DriverEffect
  | [] => (s, [])
  | pbxId :: rest =>
    let (s, barges) := s.endBargesForTarget pbxId
    let (s, removed) := s.removePbxCall pbxId
    let (s, more) := endEmptyCalls s rest
    (s, barges ++ (if removed.isSome then [.backend (.hangup pbxId)] else []) ++ more)

/-- Whether an effect is for one device's handset. -/
def forDevice (device : DeviceId) : DriverEffect → Bool
  | .handset effect => effect.deviceId = device
  | .backend _ => false

/-- Forget what is scheduled for a device that disconnects. -/
def dropDeviceSchedules (device : DeviceId) : Controller :=
  let removed := (s.appearancesForDevice device).map (·.sccpId)
  { s with
    pendingCallTransitions := s.pendingCallTransitions.filter fun _ pending =>
      pending.transition.deviceId ≠ device
    pendingAutoAnswers := s.pendingAutoAnswers.filter fun callId _ => callId ∉ removed
    pendingRemoteHangups := s.pendingRemoteHangups.filter fun _ pending =>
      pending.deviceId ≠ device }

/-- Abort the transfer of a device that disconnects. -/
def abortDeviceTransfer (device : DeviceId) : Controller × List DriverEffect :=
  match s.transfers.get device with
  | none => (s, [])
  | some t =>
    match s.abortTransfer device t.id .deviceDisconnect with
    | (s, .error _) => (s, [])
    | (s, .ok outcome) => (s, outcome.effects)

/-- Take the record and the appearances of a device away, and hang up the calls
    that no handset shows any more. -/
def forgetDevice (device : DeviceId) : Controller × List DriverEffect :=
  let s := { s with devices := s.devices.erase device }
  let (s, empty) := s.removeDeviceAppearances ((s.byDevice.get? device).getD [])
  s.endEmptyCalls empty

def disconnected (device : DeviceId) : Controller × List DriverEffect :=
  let s := s.dropDeviceSchedules device
  let pendingAnswers := (((s.appearancesForDevice device).filter fun a =>
    s.pendingPhoneAnswers.get? a.sccpId = some a.pbxId).map (·.sccpId)).insertionSort
      fun a b => a.val ≤ b.val
  let conferences := s.conferencesByConsultation.values.filter fun session =>
    session.participants.participants.any (·.deviceId = device)
  let barges := ((s.appearancesForDevice device).map (·.sccpId)).filter fun callId =>
    s.bargesByHandset.contains callId
  let (s, transferEffects) := s.abortDeviceTransfer device
  let (s, conferenceEffects) := leaveConferences device s conferences
  let (s, bargeEffects) := s.endBarges barges
  let (s, answerEffects) := s.terminateAll pendingAnswers
  let (s, emptyEffects) := s.forgetDevice device
  (s, (transferEffects ++ conferenceEffects ++ bargeEffects ++ answerEffects
    ++ emptyEffects).filter (!forDevice device ·))

def registerSession (generation : SessionGeneration) (device : DeviceId) :
    Controller × Option RegisterSessionOutcome :=
  if (s.devices.get? device).any fun current =>
    decide (generation.val ≤ current.sessionGeneration.val) then
    (s, none)
  else
    let replaced := s.devices.contains device
    let (s, cleanup) := if replaced then s.disconnected device else (s, [])
    ({ s with devices := s.devices.insert device { sessionGeneration := generation } },
      some { cleanup := cleanup.filter (!forDevice device ·), replaced })

end Controller

end Sccp
