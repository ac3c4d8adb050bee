/-
  Sccp.Controller.Transitions

  Call transitions that can be rolled back, auto-answer, directed and group
  pickup, and parking (`domains/call_registry.rs`,
  `domains/parking_pickup.rs`).
-/

import Sccp.Controller.Lifecycle

namespace Sccp

namespace Controller

variable (s : Controller)

/-! ## Call transitions -/

/-- Whether a device already has a transition in progress. -/
def transitionPending (device : DeviceId) : Bool :=
  s.pendingCallTransitions.any fun _ pending => pending.transition.deviceId = device

/-- Record a transition under a fresh id, with the snapshot to go back to. -/
def recordTransition (snapshot : CallDomainSnapshot)
    (transition : CallTransitionId → CallTransition) : Controller × CallTransition :=
  let (s, id) := s.allocateCallTransitionId
  let pending : PendingCallTransition := { transition := transition id, snapshot, progress := [] }
  ({ s with pendingCallTransitions := s.pendingCallTransitions.insert id pending },
    transition id)

def beginActiveCallSwitchTransaction (device : DeviceId) (callId : CallId) :
    Controller × Except CallSwitchRejection CallTransition :=
  if s.transitionPending device then (s, .error .conflict)
  else
    let previousCallId := s.activeCallOf device
    let previousPbxId := previousCallId.bind s.callPbxId
    match s.appearanceForCall callId with
    | none => (s, .error .unavailable)
    | some target =>
      let snapshot := s.callDomainSnapshot
      match s.switchActiveCall device callId with
      | (s, .error rejection) => (s, .error rejection)
      | (s, .ok effects) =>
        let (s, transition) := s.recordTransition snapshot fun id =>
          { id, effects, deviceId := device, targetCallId := callId
            targetPbxId := target.pbxId, previousCallId, previousPbxId
            kind := .switch target.state, autoAnswerMode := none }
        (s, .ok transition)

def beginAdditionalPhoneCallTransaction (sccpId : CallId) (binding : LineBinding) (codec : Codec)
    (now : Instant) : Controller × Except CallSwitchRejection CallTransition :=
  if s.transitionPending binding.deviceId then (s, .error .conflict)
  else
    let previousCallId := s.activeCallOf binding.deviceId
    if previousCallId.any fun previous => s.callState previous ≠ some .connected then
      (s, .error .conflict)
    else
      let previousPbxId := previousCallId.bind s.callPbxId
      let snapshot := s.callDomainSnapshot
      match s.beginAdditionalPhoneCall sccpId binding codec now with
      | (s, .error rejection) => (s, .error rejection)
      | (s, .ok effects) =>
        match s.callPbxId sccpId with
        | none => (s, .error .unavailable)
        | some targetPbxId =>
          let (s, transition) := s.recordTransition snapshot fun id =>
            { id, effects, deviceId := binding.deviceId, targetCallId := sccpId, targetPbxId
              previousCallId, previousPbxId, kind := .additional, autoAnswerMode := none }
          (s, .ok transition)

/-- Whether the effects end in routing a call. -/
def endsInRouting (effects : List DriverEffect) : Bool :=
  match effects.getLast? with
  | some (.backend (.startRouting ..)) => true
  | _ => false

variable (callId : CallId)

/-- Whether an effect starts a tone on a handset call. -/
def startsTone : DriverEffect → Bool
  | .handset (.startTone _ c _) => c = callId
  | _ => false

/-- Replace the transition stored under its id. -/
def storeTransition (transition : CallTransition) : Controller :=
  { s with pendingCallTransitions := s.pendingCallTransitions.modify transition.id fun pending =>
      { pending with transition } }

def beginHotlineCallTransaction (request : HotlineCallRequest) :
    Controller × Except CallSwitchRejection CallTransition :=
  match s.beginAdditionalPhoneCallTransaction request.handsetCallId request.binding request.codec
    request.now with
  | (s, .error rejection) => (s, .error rejection)
  | (s, .ok transition) =>
    let (s, routing) := s.enbloc request.handsetCallId request.destination
    if !endsInRouting routing then
      ((s.abortCallTransition transition.id []).1, .error .conflict)
    else
      let effects := transition.effects.filter (!startsTone request.handsetCallId ·) ++ routing
      let transition := { transition with effects }
      if !s.pendingCallTransitions.contains transition.id then (s, .error .conflict)
      else (s.storeTransition transition, .ok transition)

def commitCallTransition (id : CallTransitionId) : Controller × Bool :=
  match s.pendingCallTransitions.get? id with
  | none => (s, false)
  | some pending =>
    let s := { s with pendingCallTransitions := s.pendingCallTransitions.erase id }
    match pending.transition.autoAnswerMode with
    | none => (s, true)
    | some mode =>
      (s.modifyAppearanceOf pending.transition.targetCallId fun a =>
        { a with autoAnswerMode := some mode }, true)

/-- The milestones a completed effect settles. -/
def settledMilestones (transition : CallTransition) : DriverEffect → List CallTransitionMilestone
  | .backend (.hold callId) =>
    if some callId = transition.previousPbxId then [.previousBackendHeld] else []
  | .backend (.createChannel _ callId _ _) | .backend (.answer callId)
  | .backend (.resume callId) =>
    if callId = transition.targetPbxId then [.targetBackendStarted] else []
  | .backend _ => []
  | .handset effect =>
    let previousHeld : Bool := match effect with
      | .setCallState _ callId .hold _ => some callId = transition.previousCallId
      | _ => false
    if previousHeld then [.previousHandsetHeld]
    else if effect.transitionCallId = some transition.targetCallId then
      match effect with
      | .setMicrophoneMode _ _ false => [.targetHandsetChanged, .targetMicrophoneDisabled]
      | _ => [.targetHandsetChanged]
    else []

def recordCallTransitionSuccess (id : CallTransitionId) (effect : DriverEffect) :
    Controller × Bool :=
  ({ s with pendingCallTransitions := s.pendingCallTransitions.modify id fun pending =>
      { pending with
        progress := (settledMilestones pending.transition effect).foldl
          (fun progress milestone => progress.insert milestone) pending.progress } },
    s.pendingCallTransitions.contains id)

/-- The handset state that shows a restored target. -/
def restoredTargetHandsetEffects (transition : CallTransition) : List DriverEffect :=
  match s.appearanceForCall transition.targetCallId with
  | none => [.handset (.setCallState transition.deviceId transition.targetCallId .onHook true)]
  | some appearance =>
    let shown : HandsetCallState × Bool := match appearance.state with
      | .ringing => ((s.inboundOfferForAppearance appearance).state, false)
      | .held => (.hold, true)
      | .sharedHeld => (.holdRed, true)
      | .connected => (.connected, false)
      | .remoteInUse => (.remoteMultiline, true)
      | _ => (.onHook, true)
    [appearanceStateEffect appearance shown.1 shown.2]

def compensateUnrecordedCallTransitionEffect (transition : CallTransition)
    (effect : DriverEffect) : Controller × CallTransitionCompensation :=
  if s.pendingCallTransitions.contains transition.id then (s, {})
  else
    let target := transition.targetPbxId
    match effect with
    | .backend (.hold callId) =>
      if some callId = transition.previousPbxId ∧ s.pbx.contains callId then
        (s, { effects := [.backend (.resume callId)] })
      else (s, {})
    | .backend (.createChannel _ callId _ _) | .backend (.startRouting callId _ _) =>
      if callId = target then
        (s, { effects := [.backend (.hangup callId)], removeTargetChannel := true })
      else (s, {})
    | .backend (.answer callId) =>
      if callId = target ∧ s.pbx.contains callId then
        let (s, outcome) := s.pbxHangupWithEffects callId
        (s, { effects := .backend (.hangup callId) :: (outcome.map (·.effects)).getD []
              removeTargetChannel := true })
      else (s, {})
    | .backend (.resume callId) =>
      if callId = target ∧ s.pbx.contains callId then
        (s, { effects := [.backend (.hold callId)] })
      else (s, {})
    | .backend _ => (s, {})
    | .handset effect =>
      let previousHeld : Option CallId := match effect with
        | .setCallState _ callId .hold _ =>
          if some callId = transition.previousCallId then some callId else none
        | _ => none
      match previousHeld with
      | some callId =>
        match s.appearanceForCall callId with
        | none => (s, {})
        | some previous =>
          (s, { effects := appearanceStateEffect previous .connected false
              :: (if previous.state = .connected then
                [.handset (.beginMedia previous.deviceId previous.sccpId previous.codec)]
              else []) })
      | none =>
        match effect with
        | .setMicrophoneMode device callId false =>
          if callId = transition.targetCallId then
            (s, { effects := [.handset (.setMicrophoneMode device callId true)] })
          else (s, {})
        | effect =>
          if effect.transitionCallId = some transition.targetCallId then
            (s, { effects := s.restoredTargetHandsetEffects transition })
          else (s, {})

/-! ## Auto-answer -/

/-- Whether an idle device may answer a call by itself. -/
def deviceCanAutoAnswer (device : DeviceId) (target : CallId) : Bool :=
  (s.devices.get? device).any (·.activeCall.isNone) && !s.transitionPending device
    && (s.transfers.get device).isNone && !s.conferencesByConsultation.any (fun _ session =>
      session.participants.participants.any fun p => p.deviceId = device)
    && !((s.appearancesForDevice device).filter (·.sccpId ≠ target)).any (fun a =>
      s.bargesByHandset.contains a.sccpId || isEngaged a.state || a.state = .pickupCollecting
        || a.state = .parking || a.state = .retrieving || a.state = .barged)

def setAutoAnswerRequest (pbxId : PbxCallId) (request : AutoAnswerRequest) : Controller × Bool :=
  if (s.pbx.get? pbxId).all (·.state ≠ .ringing) then (s, false)
  else ({ s with autoAnswerRequests := s.autoAnswerRequests.insert pbxId request }, true)

/-- Schedule one auto-answer for each handset call, with a generation each. -/
def scheduleEach (pbxId : PbxCallId) (request : AutoAnswerRequest) (policy : AutoAnswerPolicy)
    (now : Instant) (s : Controller) : List CallId → Controller
  | [] => s
  | callId :: rest =>
    let generation := s.nextAutoAnswerGeneration
    let pending : PendingAutoAnswer :=
      { generation, pbxId, callId, deadline := now + policy.delay, request, tone := policy.tone }
    scheduleEach pbxId request policy now
      { s with
        nextAutoAnswerGeneration := generation + 1
        pendingAutoAnswers := s.pendingAutoAnswers.insert callId pending } rest

def scheduleAutoAnswers (pbxId : PbxCallId) (policy : AutoAnswerPolicy) (now : Instant) :
    Controller × Except AutoAnswerScheduleRejection Nat :=
  match s.autoAnswerRequests.get? pbxId with
  | none => (s, .error .unavailable)
  | some request =>
    let s := s.cancelAutoAnswersForPbx pbxId
    let callIds := (((s.appearancesForPbx pbxId).filter fun a =>
      a.state = .ringing && s.deviceCanAutoAnswer a.deviceId a.sccpId).map
        (·.sccpId)).insertionSort fun a b => a.val ≤ b.val
    if 2 ^ 64 ≤ s.nextAutoAnswerGeneration + callIds.length then
      (s, .error .generationExhausted)
    else (scheduleEach pbxId request policy now s callIds, .ok callIds.length)

/-- The media an auto-answered call opens in its mode. -/
def autoAnswerMedia (mode : AutoAnswerMode) (target : CallId) : DriverEffect → DriverEffect
  | .handset (.beginAnswerMedia device callId codec) =>
    if callId = target then
      match mode with
      | .oneWay => .handset (.beginOneWayMedia device callId codec)
      | .twoWay => .handset (.beginMedia device callId codec)
    else .handset (.beginAnswerMedia device callId codec)
  | effect => effect

/-- `begin_active_call_switch_transaction_for_auto_answer`. -/
def beginAutoAnswer (pending : PendingAutoAnswer) :
    Controller × Except CallSwitchRejection CallTransition :=
  match s.appearanceForCall pending.callId with
  | none => (s, .error .unavailable)
  | some appearance =>
    if appearance.pbxId ≠ pending.pbxId ∨ appearance.state ≠ .ringing then
      (s, .error .unavailable)
    else if !s.deviceCanAutoAnswer appearance.deviceId pending.callId then (s, .error .conflict)
    else
      match s.beginActiveCallSwitchTransaction appearance.deviceId pending.callId with
      | (s, .error rejection) => (s, .error rejection)
      | (s, .ok transition) =>
        (s, .ok { transition with
          autoAnswerMode := some pending.request.mode
          effects := transition.effects.map (autoAnswerMedia pending.request.mode pending.callId) })

/-- The transition of an auto-answer with its tone and microphone policy. -/
def withAutoAnswerTone (pending : PendingAutoAnswer) (transition : CallTransition) :
    CallTransition :=
  { transition with
    effects := transition.effects
      ++ .handset (.startTone transition.deviceId transition.targetCallId pending.tone)
      :: (if transition.autoAnswerMode = some .oneWay then
        [.handset (.setMicrophoneMode transition.deviceId transition.targetCallId false)]
      else []) }

/-- Answer the due calls of a list in turn. -/
def answerDue (s : Controller) : List PendingAutoAnswer → Controller × List CallTransition
  | [] => (s, [])
  | pending :: rest =>
    if (s.pendingAutoAnswers.get? pending.callId).all (·.generation ≠ pending.generation) then
      answerDue s rest
    else
      let s := { s with pendingAutoAnswers := s.pendingAutoAnswers.erase pending.callId }
      match s.beginAutoAnswer pending with
      | (s, .error _) => answerDue s rest
      | (s, .ok transition) =>
        let transition := withAutoAnswerTone pending transition
        let (s, transitions) := answerDue (s.storeTransition transition) rest
        (s, transition :: transitions)

/-- Order in which due auto-answers are served. -/
def dueBefore (a b : PendingAutoAnswer) : Prop :=
  a.deadline < b.deadline ∨ (a.deadline = b.deadline
    ∧ (a.generation < b.generation ∨ (a.generation = b.generation ∧ a.callId.val ≤ b.callId.val)))

instance : DecidableRel dueBefore := fun _ _ => by unfold dueBefore; infer_instance

def expireAutoAnswers (now : Instant) : Controller × List CallTransition :=
  s.answerDue ((s.pendingAutoAnswers.values.filter fun pending =>
    decide (pending.deadline ≤ now)).insertionSort dueBefore)

/-! ## Pickup -/

/-- What directed and group pickup check of the collecting call. -/
def pickupGuard : Except PickupRejection CallAppearance :=
  match s.appearanceForCall callId with
  | none => .error .unavailable
  | some appearance =>
    match s.pbx.get? appearance.pbxId with
    | none => .error .unavailable
    | some call =>
      if call.state ≠ .collecting ∨ appearance.state ≠ .collecting
          ∨ call.activeAppearance ≠ some appearance.id ∨ call.pendingPickup.isSome
          ∨ !s.devices.contains appearance.deviceId then
        .error .conflict
      else .ok appearance

def beginDirectedPickup (permitted enabled : Bool) (context : String)
    (answer : Bool) : Controller × Except PickupRejection Unit :=
  if !enabled then (s, .error .disabled)
  else if !permitted then (s, .error .permission)
  else
    match s.pickupGuard callId with
    | .error rejection => (s, .error rejection)
    | .ok appearance =>
      if isBlank context then (s, .error .unavailable)
      else
        let s := s.modifyCall appearance.pbxId fun call =>
          { call with
            state := .pickupCollecting, digits := "", digitDeadline := none
            lastDigitAt := none, simulatedEnblocEligible := false
            pendingPickup := some { context, answer } }
        (s.modifyAppearance appearance.id fun a => { a with state := .pickupCollecting },
          .ok ())

def groupPickup (permitted answer : Bool) :
    Controller × Except PickupRejection (List DriverEffect) :=
  if !permitted then (s, .error .permission)
  else
    match s.pickupGuard callId with
    | .error rejection => (s, .error rejection)
    | .ok appearance =>
      let next : CallState := if answer then .connected else .ringing
      let s := s.modifyCall appearance.pbxId fun call =>
        { call with
          state := next, digitDeadline := none
          activeAppearance := if answer then some appearance.id else none }
      let s := s.modifyAppearance appearance.id fun a =>
        { a with state := next, audio := if answer then .opening else .closed }
      (s, .ok [.backend (.pickup (.group appearance.pbxId appearance.deviceId appearance.sccpId
        appearance.codec answer))])

/-! ## Parking -/

def park (callId : CallId) (enabled : Bool) (lot : Option String) :
    Controller × Except ParkingRejection (List DriverEffect) :=
  if !enabled then (s, .error .disabled)
  else
    match s.appearanceForCall callId with
    | none => (s, .error .unavailable)
    | some appearance =>
      match s.pbx.get? appearance.pbxId with
      | none => (s, .error .unavailable)
      | some call =>
        if appearance.pbxId ∈ s.redirectClaims ∨ call.state ≠ .connected
            ∨ appearance.state ≠ .connected ∨ call.activeAppearance ≠ some appearance.id then
          (s, .error .conflict)
        else
          let s := s.modifyCall appearance.pbxId fun call => { call with state := .parking }
          let s := s.modifyAppearance appearance.id fun a => { a with state := .parking }
          (s, .ok [.backend (.parking (.park appearance.pbxId lot))])

/-- Show a call in a waiting state as connected again, from one appearance. -/
def settleWaiting (waiting : CallState)
    (edit : CallAppearance → CallAppearance) : Option (Controller × CallAppearance) :=
  match s.appearanceForCall callId with
  | none => none
  | some appearance =>
    if (s.pbx.get? appearance.pbxId).all (·.state ≠ waiting) then none
    else
      let s := s.modifyCall appearance.pbxId fun call => { call with state := .connected }
      some (s.modifyAppearance appearance.id edit, appearance)

/-- `parking_failed` takes any appearance of the parking call, not only the one
    that parks it. -/
def parkingFailed : Controller × List DriverEffect :=
  match s.settleWaiting callId .parking fun a => { a with state := .connected } with
  | none => (s, [])
  | some (s, appearance) =>
    (s, [.handset (.setCallState appearance.deviceId callId .connected false)])

def parkingConfirmed (slot : Nat) : Controller × List DriverEffect :=
  match s.appearanceForCall callId with
  | none => (s, [])
  | some appearance =>
    if (s.pbx.get? appearance.pbxId).all (·.state ≠ .parking) then (s, [])
    else
      let (s, effects) := s.hangup callId
      (s, .handset (.setCallInfo appearance.deviceId callId
          { calledName := "Parked", calledNumber := toString slot })
        :: .handset (.setCallState appearance.deviceId callId .park true) :: effects)

def beginParkingRetrieval (binding : LineBinding) (codec : Codec)
    (lot : Option String) (slot : Nat) (info : CallInfo) :
    Controller × Except ParkingRejection (List DriverEffect) :=
  if s.bySccp.contains callId || !s.devices.contains binding.deviceId || slot = 0 then
    (s, .error .conflict)
  else
    let (s, pbxId) := s.allocatePbxId
    let (s, appearanceId) := s.allocateAppearanceId
    let call : PbxCall :=
      { id := pbxId, line := binding.line.number, context := binding.line.context
        direction := .outbound, state := .retrieving, privacy := true
        activeAppearance := some appearanceId }
    let appearance : CallAppearance :=
      { id := appearanceId, sccpId := callId, pbxId, deviceId := binding.deviceId
        lineInstance := binding.lineInstance, state := .retrieving
        ringMode := binding.appearance.ringMode, privacy := true, info, codec }
    match s.insertPbxCall call appearance with
    | (s, false) => (s, .error .conflict)
    | (s, true) =>
      let s := s.selectLine binding.deviceId binding.lineInstance
      let s := s.setCallSelected binding.deviceId callId true
      (s, .ok [.backend (.createChannel callId pbxId binding codec),
        .handset (.setCallInfo binding.deviceId callId info),
        .backend (.parking (.retrieve pbxId lot (toString slot)))])

def parkingRetrieved : Controller × List DriverEffect :=
  match s.settleWaiting callId .retrieving fun a =>
    { a with state := .connected, audio := .opening } with
  | none => (s, [])
  | some (s, appearance) =>
    (s, [.handset (.setCallState appearance.deviceId callId .connected false),
      .handset (.beginMedia appearance.deviceId callId appearance.codec)])

def parkingRetrievalFailed : Controller × List DriverEffect :=
  if (s.appearanceForCall callId).any (·.state = .retrieving) then s.hangup callId else (s, [])

/-! ## Conference operations that hang up -/

/-- Resume the calls a destination conference had put on hold; only those whose
    hold had been executed owe effects. -/
def resumeHeld (completed : List PbxCallId) (s : Controller) :
    List PbxCallId → Controller × List DriverEffect
  | [] => (s, [])
  | pbxId :: rest =>
    match ((s.pbx.get? pbxId).bind (·.activeAppearance)).bind s.appearances.get? with
    | none => resumeHeld completed s rest
    | some appearance =>
      let (s, resumed) := s.resume appearance.sccpId
      let (s, more) := resumeHeld completed s rest
      (s, (if pbxId ∈ completed then resumed else []) ++ more)

def conferenceDestinationFailed (mutation : ConferenceMutationToken) (handsetCallId : CallId)
    (heldCalls completedHolds : List PbxCallId) : Controller × List DriverEffect :=
  match s.completeConferenceMutation mutation with
  | (s, false) => (s, [])
  | (s, true) =>
    match s.appearanceForCall handsetCallId with
    | none => (s, [])
    | some target =>
      if target.state ≠ .calling then (s, [])
      else
        let (s, effects) := s.hangup handsetCallId
        let (s, resumed) := resumeHeld completedHolds s heldCalls
        (s, effects ++ resumed)

def conferenceParticipantFailed : Controller × Option ConferenceParticipantFailureOutcome :=
  match s.conferenceSession callId, s.callPbxId callId with
  | some session, some failedCallId =>
    let owned := (ownedParticipants session).map (·.pbxCallId)
    let (s, effects) := s.hangup callId
    let survivingSession := s.conferenceSessionById session.id
    (s, some { conferenceId := session.id, failedCallId
               callIds := if survivingSession.isSome then [failedCallId] else owned
               survivingSession, effects })
  | _, _ => (s, none)

end Controller

end Sccp
