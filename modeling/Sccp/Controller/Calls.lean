/-
  Sccp.Controller.Calls

  Creating, presenting, dialling, answering, holding and sharing calls
  (`domains/call_registry.rs`, `controller.rs`).
-/

import Sccp.Controller.Registry

namespace Sccp

/-- What one round of a loop over the appearances of a call does to one of
    them: the edited record, the effects, and whether its device drops the call
    from its selection. -/
structure AppearanceEdit where
  appearance : CallAppearance
  effects : List DriverEffect := []
  deselect : Bool := false

namespace Controller

/-- The loops `for appearance_id in appearance_ids` of the source: ids without
    a record are skipped. -/
def forAppearances (edit : CallAppearanceId → CallAppearance → AppearanceEdit) (s : Controller) :
    List CallAppearanceId → Controller × List DriverEffect
  | [] => (s, [])
  | appearanceId :: rest =>
    match s.appearances.get? appearanceId with
    | none => forAppearances edit s rest
    | some appearance =>
      let e := edit appearanceId appearance
      let s := s.modifyAppearance appearanceId fun _ => e.appearance
      let s := if e.deselect then s.deselect appearance else s
      let (s, effects) := forAppearances edit s rest
      (s, e.effects ++ effects)

variable (s : Controller)

/-- A call in one of these states is what a device's keys act on. -/
def isEngaged (state : CallState) : Bool :=
  state = .collecting || state = .calling || state = .connected || state = .transferCollecting

def devicePrivacy (device : DeviceId) : Bool := (s.features.get? device).any (·.privacy)

/-! ## Conference identity and transfer progress, as call control touches them -/

def conferenceParticipantIdentity (call : PbxCall) (appearance : CallAppearance) :
    ConferenceParticipantIdentity :=
  if call.privacy || appearance.privacy || appearance.info.partyRestrictions ≠ 0 then {}
  else
    match appearance.info.direction with
    | .inbound =>
      { displayName := appearance.info.callingName, number := appearance.info.callingNumber }
    | .outbound =>
      { displayName := appearance.info.calledName, number := appearance.info.calledNumber }

/-- A session with the identity shown for one of its calls replaced. -/
def updateSessionIdentity (session : ConferenceSession) (pbxId : PbxCallId)
    (identity : ConferenceParticipantIdentity) : ConferenceSession :=
  if (session.participants.byPbx pbxId).isSome then
    { session with participants := session.participants.updateIdentity pbxId identity }
  else
    { session with
      pendingInvite := session.pendingInvite.map fun invite =>
        if invite.participant.pbxCallId = pbxId then
          { invite with
            participant := { invite.participant with
              displayName := identity.displayName, number := identity.number } }
        else invite }

def refreshConferenceParticipantIdentity (pbxId : PbxCallId) : Controller :=
  match s.conferencesByPbx.get? pbxId with
  | none => s
  | some key =>
    match s.conferencesByConsultation.get? key with
    | none => s
    | some session =>
      let participant := (session.participants.byPbx pbxId).or
        ((session.pendingInvite.map (·.participant)).filter (·.pbxCallId = pbxId))
      match participant with
      | none => s
      | some participant =>
        match s.pbx.get? pbxId, s.appearanceForCall participant.handsetCallId with
        | some call, some appearance =>
          let identity := conferenceParticipantIdentity call appearance
          { s with
            conferencesByConsultation := s.conferencesByConsultation.insert key
              (updateSessionIdentity session pbxId identity) }
        | _, _ => s

def advanceTransferForPbx (pbxId : PbxCallId) (phase : TransferPhase) : Controller :=
  match (s.pbx.get? pbxId).bind (·.appearanceIds.head?) with
  | none => s
  | some appearanceId =>
    match s.appearances.get? appearanceId with
    | none => s
    | some appearance =>
      let leg : TransferLeg := ⟨appearance.sccpId, pbxId⟩
      match (s.transfers.forLeg leg).filter (·.consultation = some leg) with
      | none => s
      | some t =>
        match s.transfers.edit t.deviceId fun t =>
          (t.advanceConsultation leg phase).map fun t => (t, ()) with
        | .error _ => s
        | .ok (transfers, _) => { s with transfers }

/-! ## New calls -/

def beginPhoneCall (sccpId : CallId) (binding : LineBinding) (codec : Codec) (now : Instant) :
    Controller × List DriverEffect :=
  if s.bySccp.contains sccpId then (s, [])
  else
    let device := binding.deviceId
    let (s, pbxId) := s.allocatePbxId
    let privacy := binding.appearance.privacy || s.devicePrivacy device
    let (s, appearanceId) := s.allocateAppearanceId
    let call : PbxCall :=
      { id := pbxId, line := binding.line.number, context := binding.line.context
        direction := .outbound, state := .collecting, outboundPhase := some .collecting
        privacy, activeAppearance := some appearanceId
        digitDeadline := some (now + s.firstDigit)
        simulatedEnblocEligible := s.simulateEnbloc
        overlapEnabled := decide (device ∈ s.overlapDevices) }
    let appearance : CallAppearance :=
      { id := appearanceId, sccpId, pbxId, deviceId := device
        lineInstance := binding.lineInstance, state := .collecting
        ringMode := binding.appearance.ringMode, privacy := binding.appearance.privacy
        info := { direction := .outbound, callingName := binding.line.callerName
                  callingNumber := binding.line.callerNumber }
        codec }
    match s.insertPbxCall call appearance with
    | (s, false) => (s, [])
    | (s, true) =>
      let s := s.selectLine device binding.lineInstance
      let s := s.setActiveCall device (some sccpId)
      let s := s.setCallSelected device sccpId true
      (s, [.backend (.createChannel sccpId pbxId binding codec)])

/-- The appearance an inbound call gets on one button. -/
def inboundCallAppearance (id : CallAppearanceId) (pbxId : PbxCallId)
    (candidate : InboundAppearance) : CallAppearance :=
  { id, sccpId := candidate.callId, pbxId, deviceId := candidate.binding.deviceId
    lineInstance := candidate.binding.lineInstance, state := .ringing
    ringMode := candidate.binding.appearance.ringMode
    privacy := candidate.binding.appearance.privacy
    info := { direction := .inbound, calledName := candidate.binding.appearance.displayLabel
              calledNumber := candidate.binding.line.number }
    codec := candidate.codec }

/-- The record of an inbound call before any appearance is attached. -/
def inboundCall (pbxId : PbxCallId) (line context : String) : PbxCall :=
  { id := pbxId, line, context, direction := .inbound, state := .ringing }

/-- `next_pbx_id.max(pbx_id.saturating_add(1))`. -/
def reservePbxId (pbxId : PbxCallId) : Controller :=
  { s with nextPbxId := max s.nextPbxId (min (pbxId.val + 1) (2 ^ 64 - 1)) }

def beginAsteriskCall (sccpId : CallId) (pbxId : PbxCallId) (binding : LineBinding)
    (codec : Codec) : Controller :=
  if s.bySccp.contains sccpId || s.pbx.contains pbxId then s
  else
    let s := s.reservePbxId pbxId
    let (s, appearanceId) := s.allocateAppearanceId
    (s.insertPbxCall (inboundCall pbxId binding.line.number binding.line.context)
      (inboundCallAppearance appearanceId pbxId { callId := sccpId, binding, codec })).1

def inboundOffer (candidate : InboundAppearance) : InboundOffer :=
  { deviceId := candidate.binding.deviceId, lineInstance := candidate.binding.lineInstance
    callId := candidate.callId, ringMode := candidate.binding.appearance.ringMode
    state := if s.deviceHasActiveCall candidate.binding.deviceId then .callWaiting else .ringIn }

def deviceIsBusy (device : DeviceId) : Bool :=
  (s.appearancesForDevice device).any fun appearance =>
    isEngaged appearance.state || appearance.state = .pickupCollecting
      || appearance.state = .parking || appearance.state = .retrieving || appearance.state = .held

/-- The structurally valid candidates, in order, and how many were excluded.  A
    handset call counts as seen even when its button turns out to be taken. -/
def eligibleCandidates (line : String) (seenCalls : List CallId)
    (seenButtons : List (DeviceId × Nat)) : List InboundAppearance → List InboundAppearance × Nat
  | [] => ([], 0)
  | candidate :: rest =>
    let button := (candidate.binding.deviceId, candidate.binding.lineInstance)
    if candidate.binding.line.number ≠ line ∨ !s.devices.contains candidate.binding.deviceId
        ∨ candidate.binding.appearance.ringMode = .disabled ∨ s.bySccp.contains candidate.callId
        ∨ candidate.callId ∈ seenCalls then
      let (eligible, excluded) := eligibleCandidates line seenCalls seenButtons rest
      (eligible, excluded + 1)
    else if button ∈ seenButtons then
      let (eligible, excluded) :=
        eligibleCandidates line (candidate.callId :: seenCalls) seenButtons rest
      (eligible, excluded + 1)
    else
      let (eligible, excluded) :=
        eligibleCandidates line (candidate.callId :: seenCalls) (button :: seenButtons) rest
      (candidate :: eligible, excluded)

/-- A candidate with do-not-disturb applied, and where it forwards to. -/
structure RoutedCandidate where
  candidate : InboundAppearance
  route : Option (ForwardingDestination × ForwardingRouteReason)

/-- Apply the do-not-disturb and forwarding settings of the candidate's device;
    `none` if it rejects the call. -/
def routeCandidate (candidate : InboundAppearance) : Option RoutedCandidate :=
  let features := (s.features.get? candidate.binding.deviceId).getD {}
  if features.dnd = .reject then none
  else
    let candidate :=
      if features.dnd = .silent then
        { candidate with binding := { candidate.binding with
            appearance := { candidate.binding.appearance with ringMode := .silent } } }
      else candidate
    let busy := if s.deviceIsBusy candidate.binding.deviceId then features.forwarding.busy else none
    some
      { candidate
        route := (features.forwarding.all.map fun d => (d, .unconditional)).or
          (busy.map fun d => (d, .busy)) }

/-- Attach the remaining ringing appearances of an inbound call in order. -/
def attachOffers (pbxId : PbxCallId) (s : Controller) :
    List InboundAppearance → Controller × List InboundOffer
  | [] => (s, [])
  | candidate :: rest =>
    let (s, appearanceId) := s.allocateAppearanceId
    match s.attachAppearance (inboundCallAppearance appearanceId pbxId candidate) with
    | (s, true) =>
      let offer := s.inboundOffer candidate
      let (s, offers) := attachOffers pbxId s rest
      (s, offer :: offers)
    | (s, false) => attachOffers pbxId s rest

/-- Whether every forwarding candidate names the first one's route. -/
def sameRoute (destination : ForwardingDestination) (reason : ForwardingRouteReason)
    (route : ForwardingDestination × ForwardingRouteReason) : Bool :=
  decide (route.1.text = destination.text) && (match route.2, reason with
    | .unconditional, .unconditional => true
    | .busy, .busy => true
    | .noAnswer, .noAnswer => true
    | _, _ => false)

def offerInboundCallWithPolicy (pbxId : PbxCallId) (candidates : List InboundAppearance) :
    Controller × InboundCallDisposition :=
  if s.pbx.contains pbxId then (s, .unavailable .conflict)
  else
    match candidates.head? with
    | none => (s, .unavailable .noEligibleAppearance)
    | some head =>
      let line := head.binding.line.number
      let (eligible, excluded) := s.eligibleCandidates line [] [] candidates
      let routed := eligible.filterMap s.routeCandidate
      let ringable := (routed.filter (·.route.isNone)).map (·.candidate)
      let forwarded := routed.filterMap fun r => r.route.map fun route => (r.candidate, route)
      let limit := (s.lineIncomingLimits.get? line).getD 6
      let incoming := (s.pbx.values.filter fun call =>
        call.direction = .inbound && call.line = line).length
      match ringable with
      | [] =>
        match forwarded with
        | [] =>
          let dndOnly := excluded = 0 && !eligible.isEmpty && routed.isEmpty
          (s, .unavailable (if dndOnly && incoming ≥ limit then .incomingLimit
            else if dndOnly then .doNotDisturb else .noEligibleAppearance))
        | (first, destination, reason) :: _ =>
          if forwarded.any fun r => !sameRoute destination reason r.2 then
            (s, .unavailable .forwardingConflict)
          else (s, .forward first.binding destination reason)
      | first :: others =>
        if incoming ≥ limit then (s, .unavailable .incomingLimit)
        else
          let s := s.reservePbxId pbxId
          let (s, appearanceId) := s.allocateAppearanceId
          match s.insertPbxCall (inboundCall pbxId line first.binding.line.context)
            (inboundCallAppearance appearanceId pbxId first) with
          | (s, false) => (s, .unavailable .conflict)
          | (s, true) =>
            let offer := s.inboundOffer first
            let (s, offers) := attachOffers pbxId s others
            (s, .offer (offer :: offers))

def sharedAppearanceState (state : CallState) (hasActiveAppearance : Bool) : CallState :=
  match state with
  | .ringing => .ringing
  | .held => .sharedHeld
  | .connected => .remoteInUse
  | .collecting | .pickupCollecting | .calling | .parking | .retrieving | .transferCollecting =>
    if hasActiveAppearance then .remoteInUse else state
  | state => state

def addCallAppearance (pbxId : PbxCallId) (sccpId : CallId) (binding : LineBinding)
    (codec : Codec) : Controller × Option CallAppearanceId :=
  match (s.pbx.get? pbxId).filter (·.line = binding.line.number) with
  | none => (s, none)
  | some call =>
    match call.appearanceIds.head?.bind s.appearances.get? with
    | none => (s, none)
    | some first =>
      if s.bySccp.contains sccpId then (s, none)
      else
        let (s, id) := s.allocateAppearanceId
        let info :=
          if call.direction = .inbound then
            { first.info with calledName := binding.appearance.displayLabel
                              calledNumber := binding.line.number }
          else first.info
        let appearance : CallAppearance :=
          { id, sccpId, pbxId, deviceId := binding.deviceId
            lineInstance := binding.lineInstance
            state := sharedAppearanceState call.state call.activeAppearance.isSome
            ringMode := binding.appearance.ringMode, privacy := binding.appearance.privacy
            info, codec }
        match s.attachAppearance appearance with
        | (s, true) => (s, some id)
        | (s, false) => (s, none)

end Controller

end Sccp
