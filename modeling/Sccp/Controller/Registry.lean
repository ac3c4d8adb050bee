/-
  Sccp.Controller.Registry

  The call registry: lookups (`queries.rs`) and the edits of the four call
  tables that every operation is built from (`domains/call_registry.rs`),
  snapshot and restore included.
-/

import Sccp.Controller.State

namespace Sccp

namespace Controller

/-- `Controller::with_digit_timeouts`. -/
def withDigitTimeouts (firstDigit interdigit : Duration) : Controller where
  nextPbxId := 1
  nextAppearanceId := 1
  nextBridgeId := 1
  nextConferenceId := 1
  nextParticipantId := 1
  nextConferenceMutationGeneration := 1
  nextCallTransitionId := 1
  nextAutoAnswerGeneration := 1
  nextRemoteHangupGeneration := 1
  firstDigit := firstDigit
  interdigit := interdigit
  dialTerminator := '#'
  simulateEnbloc := true
  overlapDevices := []
  lineDialTones := ∅
  lineIncomingLimits := ∅
  callWaitingTones := ∅
  pendingPhoneAnswers := ∅
  pendingRouteMedia := []
  pendingCallTransitions := ∅
  autoAnswerRequests := ∅
  pendingAutoAnswers := ∅
  pendingRemoteHangups := ∅
  devices := ∅
  features := ∅
  pbx := ∅
  appearances := ∅
  bySccp := ∅
  byDevice := ∅
  sharedControlClaims := ∅
  bargeGroups := ∅
  bargesByHandset := ∅
  bargesByPbx := ∅
  conferencesByConsultation := ∅
  conferencesByPbx := ∅
  conferenceMutations := ∅
  transfers := {}
  voicemail := {}
  redirectClaims := []

variable (s : Controller)

/-! ## Lookups -/

/-- The appearance behind a handset call. -/
def appearanceForCall (callId : CallId) : Option CallAppearance :=
  match s.bySccp.get? callId with
  | none => none
  | some appearanceId => s.appearances.get? appearanceId

/-- The appearances a device shows. -/
def appearancesForDevice (device : DeviceId) : List CallAppearance :=
  ((s.byDevice.get? device).getD []).filterMap s.appearances.get?

/-- The appearances of a PBX call, in order. -/
def appearancesForPbx (pbxId : PbxCallId) : List CallAppearance :=
  match s.pbx.get? pbxId with
  | none => []
  | some call => call.appearanceIds.filterMap s.appearances.get?

/-- One appearance with the state of its PBX call. -/
def callSnapshot (appearanceId : CallAppearanceId) : Option CallSnapshot :=
  match s.appearances.get? appearanceId with
  | none => none
  | some appearance =>
    match s.pbx.get? appearance.pbxId with
    | none => none
    | some call =>
      some
        { sccpId := appearance.sccpId, pbxId := call.id, deviceId := appearance.deviceId
          lineInstance := appearance.lineInstance, line := call.line
          direction := call.direction, state := appearance.state, digits := call.digits
          info := appearance.info, codec := appearance.codec, audio := appearance.audio
          audioTransmit := appearance.audioTransmit, video := appearance.video
          digitDeadline := call.digitDeadline }

/-- The first appearance of a PBX call. -/
def primaryCallByPbx (pbxId : PbxCallId) : Option CallSnapshot :=
  match s.pbx.get? pbxId with
  | none => none
  | some call =>
    match call.appearanceIds.head? with
    | none => none
    | some appearanceId => s.callSnapshot appearanceId

def callPbxId (callId : CallId) : Option PbxCallId := (s.appearanceForCall callId).map (·.pbxId)

/-- The conference a PBX call is indexed to. -/
def conferenceSessionByPbx (pbxId : PbxCallId) : Option ConferenceSession :=
  match s.conferencesByPbx.get? pbxId with
  | none => none
  | some consultation => s.conferencesByConsultation.get? consultation

/-- The conference a handset call is in. -/
def conferenceSession (callId : CallId) : Option ConferenceSession :=
  match s.appearanceForCall callId with
  | none => none
  | some appearance => s.conferenceSessionByPbx appearance.pbxId

/-- The conference with this id. -/
def conferenceSessionById (conferenceId : ConferenceId) : Option ConferenceSession :=
  (s.conferencesByConsultation.find? fun _ session => session.id = conferenceId).map Prod.snd

/-- Whether a token is the current one of an owner that still exists. -/
def conferenceMutationIsActive (token : ConferenceMutationToken) : Bool :=
  s.conferenceMutations.get? token.owner = some token.generation && (match token.owner with
      | .session conferenceId => (s.conferenceSessionById conferenceId).isSome
      | .destination callId => s.pbx.contains callId)

/-- A call state that counts as an active call of the device. -/
def deviceHasActiveCall (deviceId : DeviceId) : Bool :=
  match (s.devices.get? deviceId).bind (·.activeCall) with
  | none => false
  | some callId =>
    (s.appearanceForCall callId).any fun appearance =>
      appearance.state = .collecting || appearance.state = .calling
        || appearance.state = .connected || appearance.state = .transferCollecting

/-- How an appearance is offered to its phone. -/
def inboundOfferForAppearance (appearance : CallAppearance) : InboundOffer :=
  { deviceId := appearance.deviceId, lineInstance := appearance.lineInstance
    callId := appearance.sccpId, ringMode := appearance.ringMode
    state := if s.deviceHasActiveCall appearance.deviceId then .callWaiting else .ringIn }

/-! ## Effects of one appearance -/

/-- Show a state on the phone of an appearance. -/
def appearanceStateEffect (appearance : CallAppearance) (state : HandsetCallState)
    (stopMedia : Bool) : DriverEffect :=
  .handset (.setCallState appearance.deviceId appearance.sccpId state stopMedia)

/-- The last effects for an appearance; a muted microphone is switched on again. -/
def appearanceTerminalEffects (appearance : CallAppearance) : List DriverEffect :=
  (if appearance.autoAnswerMode = some .oneWay then
    [.handset (.setMicrophoneMode appearance.deviceId appearance.sccpId true)]
  else []) ++ [appearanceStateEffect appearance .onHook true]

/-! ## Edits of one record -/

/-- Edit a PBX call (`pbx.get_mut`). -/
def modifyCall (pbxId : PbxCallId) (f : PbxCall → PbxCall) : Controller :=
  { s with pbx := s.pbx.modify pbxId f }

/-- Edit an appearance (`appearances.get_mut`). -/
def modifyAppearance (appearanceId : CallAppearanceId) (f : CallAppearance → CallAppearance) :
    Controller :=
  { s with appearances := s.appearances.modify appearanceId f }

/-- Edit a registered device (`devices.get_mut`). -/
def modifyDevice (device : DeviceId) (f : RegisteredDevice → RegisteredDevice) : Controller :=
  { s with devices := s.devices.modify device f }

def selectLine (device : DeviceId) (lineInstance : Nat) : Controller :=
  s.modifyDevice device fun state => { state with selectedLine := some lineInstance }

/-- Whether the handset call is an appearance of the device. -/
def ownedBy (callId : CallId) (device : DeviceId) : Bool :=
  (s.appearanceForCall callId).any fun appearance => appearance.deviceId = device

/-- Set the call a device's keys act on, if it is one of its own. -/
def setActiveCall (device : DeviceId) (callId : Option CallId) : Controller :=
  if callId.any fun callId => !s.ownedBy callId device then s
  else s.modifyDevice device fun state => { state with activeCall := callId }

/-- Select or deselect a call on the device that shows it. -/
def setCallSelected (device : DeviceId) (callId : CallId) (selected : Bool) : Controller :=
  if !s.ownedBy callId device then s
  else
    s.modifyDevice device fun state =>
      { state with
        selectedCalls :=
          if selected then state.selectedCalls.insert callId else without
            state.selectedCalls callId }

/-- Drop a call from the selection of the device that shows it. -/
def deselect (appearance : CallAppearance) : Controller :=
  s.modifyDevice appearance.deviceId fun state =>
    { state with selectedCalls := without state.selectedCalls appearance.sccpId }

/-! ## Allocation -/

def allocatePbxId : Controller × PbxCallId :=
  let used := s.pbx.keys.map (·.val)
  let (id, next) := allocate 64 used (used.length + 1) s.nextPbxId
  ({ s with nextPbxId := next }, ⟨id⟩)

def allocateBridgeId : Controller × PbxBridgeId :=
  let used := s.bargeGroups.values.map (·.bridgeId.val)
    ++ s.conferencesByConsultation.values.map (·.bridgeId.val)
  let (id, next) := allocate 64 used (used.length + 1) s.nextBridgeId
  ({ s with nextBridgeId := next }, ⟨id⟩)

def allocateAppearanceId : Controller × CallAppearanceId :=
  let used := s.appearances.keys.map (·.val)
  let (id, next) := allocate 64 used (used.length + 1) s.nextAppearanceId
  ({ s with nextAppearanceId := next }, ⟨id⟩)

def allocateCallTransitionId : Controller × CallTransitionId :=
  let used := s.pendingCallTransitions.keys.map (·.val)
  let (id, next) := allocate 64 used (used.length + 1) s.nextCallTransitionId
  ({ s with nextCallTransitionId := next }, ⟨id⟩)

/-! ## Adding and removing appearances and calls -/

/-- Enter an appearance in every index, if its ids are free. -/
def attachAppearance (appearance : CallAppearance) : Controller × Bool :=
  if !s.pbx.contains appearance.pbxId || s.appearances.contains appearance.id
      || s.bySccp.contains appearance.sccpId then
    (s, false)
  else
    ({ s with
      appearances := s.appearances.insert appearance.id appearance
      bySccp := s.bySccp.insert appearance.sccpId appearance.id
      byDevice := s.byDevice.insert appearance.deviceId
        (((s.byDevice.get? appearance.deviceId).getD []).insert appearance.id)
      pbx := s.pbx.modify appearance.pbxId fun call =>
        { call with appearanceIds := call.appearanceIds ++ [appearance.id] } },
      true)

/-- Enter a new PBX call with its first appearance, or nothing. -/
def insertPbxCall (call : PbxCall) (appearance : CallAppearance) : Controller × Bool :=
  if call.id ≠ appearance.pbxId ∨ call.appearanceIds ≠ [] ∨ s.pbx.contains call.id then (s, false)
  else
    match { s with pbx := s.pbx.insert call.id call }.attachAppearance appearance with
    | (s', true) => (s', true)
    | (s', false) => ({ s' with pbx := s'.pbx.erase call.id }, false)

/-- The `by_device` index without one appearance; an empty entry is dropped. -/
def dropFromDevice (byDevice : Table DeviceId (List CallAppearanceId)) (device : DeviceId)
    (appearanceId : CallAppearanceId) : Table DeviceId (List CallAppearanceId) :=
  match byDevice.get? device with
  | none => byDevice
  | some ids =>
    let rest := without ids appearanceId
    if rest = [] then byDevice.erase device else byDevice.insert device rest

/-- A call after one of its appearances is gone. -/
def forgetAppearance (call : PbxCall) (appearanceId : CallAppearanceId) : PbxCall :=
  { call with
    appearanceIds := without call.appearanceIds appearanceId
    activeAppearance :=
      if call.activeAppearance = some appearanceId then none else call.activeAppearance }

/-- A device after one of its handset calls is gone. -/
def forgetCall (device : RegisteredDevice) (callId : CallId) : RegisteredDevice :=
  { device with
    selectedCalls := without device.selectedCalls callId
    activeCall := if device.activeCall = some callId then none else device.activeCall }

/-- Drop an appearance from every index and from what waits for it. -/
def removeAppearance (appearanceId : CallAppearanceId) : Controller × Option CallAppearance :=
  match s.appearances.get? appearanceId with
  | none => (s, none)
  | some appearance =>
    ({ s with
      appearances := s.appearances.erase appearanceId
      callWaitingTones := s.callWaitingTones.filter fun _ schedule =>
        schedule.waitingCallId ≠ appearance.sccpId ∧ schedule.activeCallId ≠ appearance.sccpId
      pendingPhoneAnswers := s.pendingPhoneAnswers.erase appearance.sccpId
      pendingRouteMedia := without s.pendingRouteMedia appearance.sccpId
      bySccp := s.bySccp.erase appearance.sccpId
      byDevice := dropFromDevice s.byDevice appearance.deviceId appearanceId
      pbx := s.pbx.modify appearance.pbxId fun call => forgetAppearance call appearanceId
      sharedControlClaims :=
        if s.sharedControlClaims.get? appearance.pbxId = some (.steal appearanceId) then
          s.sharedControlClaims.erase appearance.pbxId
        else s.sharedControlClaims
      devices := s.devices.modify appearance.deviceId fun device =>
        forgetCall device appearance.sccpId },
      some appearance)

/-- Remove appearances one after the other. -/
def removeAppearances (s : Controller) : List CallAppearanceId → Controller
  | [] => s
  | appearanceId :: rest => (s.removeAppearance appearanceId).1.removeAppearances rest

/-- Cancel every scheduled or requested auto-answer of a PBX call. -/
def cancelAutoAnswersForPbx (pbxId : PbxCallId) : Controller :=
  { s with
    pendingAutoAnswers := s.pendingAutoAnswers.filter fun _ pending => pending.pbxId ≠ pbxId
    autoAnswerRequests := s.autoAnswerRequests.erase pbxId }

/-- The transactions that end with a PBX call, whether or not it is recorded. -/
def releaseCallClaims (pbxId : PbxCallId) : Controller :=
  cancelAutoAnswersForPbx
    { s with
      conferenceMutations := s.conferenceMutations.erase (.destination pbxId)
      voicemail := s.voicemail.cancelForPbx pbxId
      redirectClaims := without s.redirectClaims pbxId
      sharedControlClaims := s.sharedControlClaims.erase pbxId }
    pbxId

/-- Drop a PBX call, its claims and its appearances; the first one is handed back. -/
def removePbxCall (pbxId : PbxCallId) : Controller × Option (PbxCall × Option CallSnapshot) :=
  let s := s.releaseCallClaims pbxId
  match s.pbx.get? pbxId with
  | none => (s, none)
  | some call =>
    let primary := match call.appearanceIds.head? with
      | none => none
      | some appearanceId => s.callSnapshot appearanceId
    let s := s.removeAppearances call.appearanceIds
    match s.pbx.get? pbxId with
    | none => (s, none)
    | some call =>
      ({ s with pbx := s.pbx.erase pbxId },
        some ({ call with state := .ended, digitDeadline := none },
          primary.map fun snapshot => { snapshot with state := .ended, digitDeadline := none }))

/-! ## Snapshot and restore -/

/-- The tables that a call transition may have to put back. -/
def callDomainSnapshot : CallDomainSnapshot :=
  { devices := s.devices, pbxCalls := s.pbx, appearances := s.appearances
    appearanceBySccp := s.bySccp, sharedControlClaims := s.sharedControlClaims
    callWaitingTones := s.callWaitingTones, pendingPhoneAnswers := s.pendingPhoneAnswers
    pendingRouteMedia := s.pendingRouteMedia }

/-- Whether the device still acts on the target of the transition and both of
    its calls are still where the transition left them. -/
def transitionIsCurrent (transition : CallTransition) : Bool :=
  (s.devices.get? transition.deviceId).bind (·.activeCall) = some transition.targetCallId
    && (s.appearanceForCall transition.targetCallId).any (fun appearance =>
      appearance.pbxId = transition.targetPbxId)
    && transition.previousCallId.all (fun previous =>
      (s.appearanceForCall previous).any fun appearance =>
        some appearance.pbxId = transition.previousPbxId)

/-- The PBX calls a transition touched. -/
def affectedPbx (transition : CallTransition) : List PbxCallId :=
  transition.previousPbxId.toList ++ [transition.targetPbxId]

/-- The handset calls that show them, now or in the snapshot. -/
def affectedCalls (snapshot : CallDomainSnapshot) (transition : CallTransition) : List CallId :=
  let touches := fun (appearance : CallAppearance) =>
    decide (appearance.pbxId ∈ affectedPbx transition)
  (s.appearances.values.filter touches).map (·.sccpId)
    ++ (snapshot.appearances.values.filter touches).map (·.sccpId)
    ++ transition.targetCallId :: transition.previousCallId.toList

/-- The `by_device` index of a table of appearances. -/
def indexByDevice (appearances : Table CallAppearanceId CallAppearance) :
    Table DeviceId (List CallAppearanceId) :=
  appearances.entries.foldl (fun byDevice entry =>
      byDevice.insert entry.2.deviceId (((byDevice.get? entry.2.deviceId).getD []).insert entry.1))
    ∅

/-- Put a device's selection of the affected calls back, and for the device of
    the transition its active call. -/
def restoreDevice (calls : List CallId) (own : Bool) (before device : RegisteredDevice) :
    RegisteredDevice :=
  { device with
    activeCall := if own then before.activeCall else device.activeCall
    selectedCalls := calls.foldl (fun selected callId =>
        if callId ∈ before.selectedCalls then selected.insert callId else without selected callId)
      device.selectedCalls }

/-- Put the calls of a transition back as they were, if it is still current. -/
def restoreCallDomain (snapshot : CallDomainSnapshot) (transition : CallTransition) :
    Controller × Bool :=
  if !s.transitionIsCurrent transition then (s, false)
  else
    let pbxIds := affectedPbx transition
    let calls := s.affectedCalls snapshot transition
    let appearances :=
      (s.appearances.filter fun _ appearance => appearance.pbxId ∉ pbxIds).extend
        (snapshot.appearances.filter fun _ appearance => appearance.pbxId ∈ pbxIds)
    ({ s with
      pbx := (s.pbx.filter fun pbxId _ => pbxId ∉ pbxIds).extend
        (snapshot.pbxCalls.filter fun pbxId _ => pbxId ∈ pbxIds)
      appearances := appearances
      bySccp := (s.bySccp.filter fun callId _ => callId ∉ calls).extend
        (snapshot.appearanceBySccp.filter fun callId _ => callId ∈ calls)
      byDevice := indexByDevice appearances
      devices := s.devices.mapValues fun deviceId device =>
        match snapshot.devices.get? deviceId with
        | none => device
        | some before => restoreDevice calls (deviceId = transition.deviceId) before device
      sharedControlClaims := pbxIds.foldl (fun claims pbxId =>
          match snapshot.sharedControlClaims.get? pbxId with
          | some claim => claims.insert pbxId claim
          | none => claims.erase pbxId)
        s.sharedControlClaims
      callWaitingTones :=
        (s.callWaitingTones.filter fun callId schedule =>
          callId ∉ calls ∧ schedule.activeCallId ∉ calls).extend
        (snapshot.callWaitingTones.filter fun callId schedule =>
          callId ∈ calls ∨ schedule.activeCallId ∈ calls)
      pendingPhoneAnswers :=
        (s.pendingPhoneAnswers.filter fun callId _ => callId ∉ calls).extend
        (snapshot.pendingPhoneAnswers.filter fun callId _ => callId ∈ calls)
      pendingRouteMedia :=
        (snapshot.pendingRouteMedia.filter (· ∈ calls)).foldl (fun acc callId => acc.insert callId)
          (s.pendingRouteMedia.filter (· ∉ calls)) },
      true)

end Controller

end Sccp
