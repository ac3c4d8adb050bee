/-
  Sccp.Controller.Sharing

  Answering, hold and resume, and shared-line control: steal, barge and the
  redirect claims of ringing calls (`domains/call_registry.rs`,
  `controller.rs`).
-/

import Sccp.Controller.CallControl

namespace Sccp

namespace Controller

variable (s : Controller)

/-- Make an appearance the line, the active call and a selected call of its
    device. -/
def focusDevice (appearance : CallAppearance) (callId : CallId) : Controller :=
  let s := s.selectLine appearance.deviceId appearance.lineInstance
  let s := s.setActiveCall appearance.deviceId (some callId)
  s.setCallSelected appearance.deviceId callId true

/-- A call handed to one appearance. -/
def connectCall (owner : CallAppearanceId) (privacy : Bool) (call : PbxCall) : PbxCall :=
  { call with
    state := .connected, activeAppearance := some owner, privacy := call.privacy || privacy }

def sharedControlEligible (appearance : CallAppearance) : Bool :=
  appearance.ringMode ≠ .disabled && s.devices.contains appearance.deviceId
    && !s.sharedControlClaims.contains appearance.pbxId
    && (s.pbx.get? appearance.pbxId).any (fun call => !call.privacy)

/-! ## Hold and resume -/

/-- Hold of one appearance of the call that `owner` holds. -/
def holdEdit (owner id : CallAppearanceId) (appearance : CallAppearance) : AppearanceEdit :=
  let cleanup : List DriverEffect :=
    ((appearance.video.cleanup appearance.deviceId appearance.sccpId).map .handset).toList
  let closed := { appearance with
    audio := .closed, audioTransmit := .closed, video := appearance.video.closeStreams }
  if id = owner then
    { appearance := { closed with state := .held }
      effects := cleanup ++ [appearanceStateEffect appearance .hold true] }
  else
    { appearance := { closed with state := .sharedHeld }
      effects := cleanup ++ [appearanceStateEffect appearance .holdRed false] }

def hold (callId : CallId) : Controller × List DriverEffect :=
  match s.appearanceForCall callId with
  | none => (s, [])
  | some owner =>
    match s.pbx.get? owner.pbxId with
    | none => (s, [])
    | some call =>
      if owner.pbxId ∈ s.redirectClaims ∨ s.bargeGroups.contains owner.pbxId
          ∨ s.pendingPhoneAnswers.contains callId ∨ !isEngaged call.state
          ∨ call.activeAppearance ≠ some owner.id then
        (s, [])
      else
        let s := s.modifyCall owner.pbxId fun call => { call with state := .held }
        let s := { s with sharedControlClaims := s.sharedControlClaims.erase owner.pbxId }
        let (s, effects) := forAppearances (holdEdit owner.id) s call.appearanceIds
        let s :=
          if (s.devices.get? owner.deviceId).any (fun device =>
            device.activeCall = some callId) then
            s.setActiveCall owner.deviceId none
          else s
        let s := s.setCallSelected owner.deviceId callId false
        (s, .backend (.hold owner.pbxId) :: effects)

/-- One appearance of a call that `requester` takes over while it is held. -/
def resumeEdit (requester : CallAppearanceId) (previousOwner : Option CallAppearanceId)
    (id : CallAppearanceId) (appearance : CallAppearance) : AppearanceEdit :=
  if id = requester then
    { appearance := { appearance with
        state := .connected, audio := .opening, audioTransmit := .closed } }
  else
    { appearance := { appearance with state := .remoteInUse }
      effects := [appearanceStateEffect appearance .remoteMultiline (previousOwner = some id)]
      deselect := true }

def resume (callId : CallId) : Controller × List DriverEffect :=
  match s.appearanceForCall callId with
  | none => (s, [])
  | some requester =>
    match s.pbx.get? requester.pbxId with
    | none => (s, [])
    | some call =>
      if requester.pbxId ∈ s.redirectClaims ∨ s.conferencesByPbx.contains requester.pbxId
          ∨ call.state ≠ .held ∨ ¬(requester.state = .held ∨ requester.state = .sharedHeld)
          ∨ (call.activeAppearance ≠ some requester.id ∧ !s.sharedControlEligible requester) then
        (s, [])
      else
        let privacy := requester.privacy || s.devicePrivacy requester.deviceId
        let s := s.modifyCall requester.pbxId (connectCall requester.id privacy)
        let s :=
          if call.activeAppearance ≠ some requester.id then
            { s with sharedControlClaims :=
                s.sharedControlClaims.insert requester.pbxId (.steal requester.id) }
          else s
        let (s, effects) :=
          forAppearances (resumeEdit requester.id call.activeAppearance) s call.appearanceIds
        let s := s.focusDevice requester callId
        (s, .backend (.resume requester.pbxId) :: effects
          ++ [.handset (.beginMedia requester.deviceId requester.sccpId requester.codec)])

/-! ## Answering -/

/-- One appearance of a ringing call that `winner` answers. -/
def answerEdit (winner id : CallAppearanceId) (appearance : CallAppearance) : AppearanceEdit :=
  if id = winner then { appearance := { appearance with state := .connected } }
  else
    { appearance := { appearance with state := .remoteInUse }
      effects := [appearanceStateEffect appearance .remoteMultiline false]
      deselect := true }

/-- Whether an active call must not be held to answer another one: it is
    engaged in a conference or a barge. -/
def cannotSetAside (active : CallId) : Bool :=
  (s.appearanceForCall active).any (fun appearance => isEngaged appearance.state)
    && ((s.conferenceSession active).isSome || s.bargesByHandset.contains active)

/-- Hold the call a device is on, if any. -/
def setAside (active : Option CallId) : Controller × List DriverEffect :=
  match active with
  | none => (s, [])
  | some active => s.hold active

/-- Hand a ringing call to the appearance that answers it. -/
def takeAnswer (winner : CallAppearance) (call : PbxCall) (callId : CallId) (privacy : Bool) :
    Controller × List DriverEffect :=
  let s := s.modifyCall winner.pbxId (connectCall winner.id privacy)
  let (s, effects) := forAppearances (answerEdit winner.id) s call.appearanceIds
  let s := { s with
    pendingPhoneAnswers := s.pendingPhoneAnswers.insert winner.sccpId winner.pbxId }
  (s.focusDevice winner callId,
    effects ++ [.handset (.beginAnswerMedia winner.deviceId winner.sccpId winner.codec)])

/-- Cancel the auto-answers of a call and the call-waiting tone of one handset
    call. -/
def stopAlerting (pbxId : PbxCallId) (callId : CallId) : Controller :=
  let s := s.cancelAutoAnswersForPbx pbxId
  { s with callWaitingTones := s.callWaitingTones.erase callId }

/-- Set the call the device is on aside and take the ringing one. -/
def answerFor (winner : CallAppearance) (call : PbxCall) (callId : CallId) :
    Controller × List DriverEffect :=
  let previousActive :=
    ((s.devices.get? winner.deviceId).bind (·.activeCall)).filter (· ≠ callId)
  if previousActive.any s.cannotSetAside then (s, [])
  else
    let privacy := winner.privacy || s.devicePrivacy winner.deviceId
    let (s, held) := s.setAside previousActive
    let (s, effects) := s.takeAnswer winner call callId privacy
    (s, held ++ effects)

/-- The auto-answers and the call-waiting tone are cancelled before the call the
    device is on can refuse to be set aside. -/
def phoneAnswer (callId : CallId) : Controller × List DriverEffect :=
  match s.appearanceForCall callId with
  | none => (s, [])
  | some winner =>
    match s.pbx.get? winner.pbxId with
    | none => (s, [])
    | some call =>
      if winner.pbxId ∈ s.redirectClaims ∨ call.state ≠ .ringing
          ∨ call.activeAppearance.isSome ∨ winner.state ≠ .ringing then
        (s, [])
      else
        (s.stopAlerting winner.pbxId callId).answerFor winner call callId

/-- One appearance of a call the PBX reports answered. -/
def pbxAnswerEdit (winner id : CallAppearanceId) (appearance : CallAppearance) : AppearanceEdit :=
  if id = winner then
    { appearance := { appearance with
        state := .connected
        audio := if isClosed appearance.audio then .opening else appearance.audio } }
  else
    { appearance := { appearance with state := .remoteInUse }
      effects := [appearanceStateEffect appearance .remoteMultiline false]
      deselect := true }

/-- The call record after the PBX reports it answered. -/
def pbxAnswerCall (winner : CallAppearanceId) (privacy : Bool) (call : PbxCall) : PbxCall :=
  { connectCall winner privacy call with
    outboundPhase :=
      if call.direction = .outbound ∧ call.outboundPhase.isSome then some .answered
      else call.outboundPhase }

/-- The media effect an answered call owes its winner. -/
def pbxAnswerMedia (winner : CallAppearance) (direction : Option CallDirection)
    (media : MediaStreamState) : List DriverEffect :=
  let connected : DriverEffect :=
    .handset (.setCallState winner.deviceId winner.sccpId .connected false)
  match media with
  | .open _ => [connected]
  | .opening => if direction = some .outbound then [connected] else []
  | .closed =>
    if direction = some .outbound then
      [.handset (.beginMedia winner.deviceId winner.sccpId winner.codec)]
    else [.handset (.beginAnswerMedia winner.deviceId winner.sccpId winner.codec)]

def pbxAnswer (pbxId : PbxCallId) : Controller × List DriverEffect :=
  if pbxId ∈ s.redirectClaims then (s, [])
  else
    match s.pbx.get? pbxId with
    | none => (s, [])
    | some call =>
      if (call.state = .connected ∧ call.activeAppearance.isSome)
          ∨ call.outboundPhase.any (fun phase =>
            OutboundCallPhase.answered.rank ≤ phase.rank) then
        (s, [])
      else
        match call.activeAppearance.or call.appearanceIds.head? with
        | none => (s, [])
        | some winnerId =>
          let before := s.appearances.get? winnerId
          let privacy := before.any fun a => a.privacy || s.devicePrivacy a.deviceId
          let direction := before.map (·.info.direction)
          let media := match before with
            | none => .closed
            | some a => if a.sccpId ∈ s.pendingRouteMedia then .opening else a.audio
          let s := s.modifyCall pbxId (pbxAnswerCall winnerId privacy)
          let (s, effects) := forAppearances (pbxAnswerEdit winnerId) s call.appearanceIds
          match s.appearances.get? winnerId with
          | none => (s, [])
          | some winner =>
            let s := s.focusDevice winner winner.sccpId
            let s := s.advanceTransferForPbx pbxId .connected
            (s, effects ++ pbxAnswerMedia winner direction media)

/-! ## Steal and barge -/

/-- One appearance of a connected call that `requester` takes over. -/
def stealEdit (requester : CallAppearanceId) (previousOwner : Option CallAppearanceId)
    (id : CallAppearanceId) (appearance : CallAppearance) : AppearanceEdit :=
  if id = requester then { appearance := { appearance with state := .connected } }
  else
    { appearance := { appearance with state := .remoteInUse }
      effects :=
        if previousOwner = some id then [appearanceStateEffect appearance .remoteMultiline true]
        else []
      deselect := true }

/-- Unlike the other takeovers, `steal` does not set the requester's active
    call. -/
def steal (callId : CallId) : Controller × List DriverEffect :=
  match s.appearanceForCall callId with
  | none => (s, [])
  | some requester =>
    match s.pbx.get? requester.pbxId with
    | none => (s, [])
    | some call =>
      if requester.pbxId ∈ s.redirectClaims
          ∨ s.pendingPhoneAnswers.any (fun _ pbxId => pbxId = requester.pbxId)
          ∨ call.state ≠ .connected ∨ requester.state ≠ .remoteInUse
          ∨ call.activeAppearance = some requester.id ∨ !s.sharedControlEligible requester then
        (s, [])
      else
        let privacy := requester.privacy || s.devicePrivacy requester.deviceId
        let s := s.modifyCall requester.pbxId fun call =>
          { call with
            activeAppearance := some requester.id, privacy := call.privacy || privacy }
        let s := { s with sharedControlClaims :=
            s.sharedControlClaims.insert requester.pbxId (.steal requester.id) }
        let (s, effects) :=
          forAppearances (stealEdit requester.id call.activeAppearance) s call.appearanceIds
        let s := s.selectLine requester.deviceId requester.lineInstance
        let s := s.setCallSelected requester.deviceId callId true
        (s, effects ++ [.handset (.beginMedia requester.deviceId requester.sccpId requester.codec)])

def deviceSupportsCodec (device : DeviceId) (codec : Codec) : Bool :=
  codec.isAudio && ((s.devices.get? device).bind (·.capabilities)).any (fun audio => codec ∈ audio)

/-- The bridge a barge joins: the running group's, or a new one. -/
def bargeBridge (target : PbxCallId) (mode : BargeMode) :
    Except BargeRejection (Controller × PbxBridgeId × Bool) :=
  match s.sharedControlClaims.get? target with
  | some (.steal _) => .error .conflict
  | some (.barge bridgeId) =>
    match s.bargeGroups.get? target with
    | none => .error .conflict
    | some group =>
      if mode ≠ .conference ∨ group.mode ≠ .conference then .error .alreadyBarged
      else .ok (s, bridgeId, false)
  | none =>
    let (s, bridgeId) := s.allocateBridgeId
    .ok (s, bridgeId, true)

/-- Record one more barging handset, in a new group or in the running one. -/
def recordBarge (session : BargeSession) (firstParticipant : Bool) : Controller :=
  let s := { s with
    bargesByHandset := s.bargesByHandset.insert session.handsetCallId session
    bargesByPbx := s.bargesByPbx.insert session.bargerCallId session.handsetCallId }
  if firstParticipant then
    { s with
      sharedControlClaims := s.sharedControlClaims.insert session.targetCallId
        (.barge session.bridgeId)
      bargeGroups := s.bargeGroups.insert session.targetCallId
        { bridgeId := session.bridgeId, mode := session.mode
          members := [session.handsetCallId] } }
  else
    { s with bargeGroups := s.bargeGroups.modify session.targetCallId fun group =>
        { group with members := group.members ++ [session.handsetCallId] } }

/-- The checks a barge makes before it claims anything. -/
def bargeGuard (requester : CallAppearance) (target : PbxCall) (callId : CallId)
    (binding : LineBinding) (codec : Codec) : Option BargeRejection :=
  if requester.state ≠ .remoteInUse ∨ target.state ≠ .connected
      ∨ target.activeAppearance = some requester.id then
    some .notRemote
  else if target.privacy then some .private
  else if requester.ringMode = .disabled ∨ binding.deviceId ≠ requester.deviceId
      ∨ binding.lineInstance ≠ requester.lineInstance ∨ binding.line.number ≠ target.line
      ∨ !s.devices.contains requester.deviceId then
    some .unavailable
  else
    match target.activeAppearance.bind s.appearances.get? with
    | none => some .unavailable
    | some owner =>
      if !s.deviceSupportsCodec requester.deviceId codec
          ∨ !s.deviceSupportsCodec owner.deviceId owner.codec then
        some .capability
      else if s.bargesByHandset.contains callId then some .alreadyBarged
      else if requester.pbxId ∈ s.redirectClaims then some .conflict
      else none

/-- Store the PBX call of a barging handset. -/
def addBarger (barger : PbxCall) : Controller :=
  { s with pbx := s.pbx.insert barger.id barger }

def barge (callId : CallId) (binding : LineBinding) (codec : Codec) (mode : BargeMode) :
    Controller × Except BargeRejection (List DriverEffect) :=
  match s.appearanceForCall callId with
  | none => (s, .error .unavailable)
  | some requester =>
    match s.pbx.get? requester.pbxId with
    | none => (s, .error .unavailable)
    | some target =>
      match s.bargeGuard requester target callId binding codec with
      | some rejection => (s, .error rejection)
      | none =>
        match s.bargeBridge target.id mode with
        | .error rejection => (s, .error rejection)
        | .ok (s, bridgeId, firstParticipant) =>
          let (s, bargerId) := s.allocatePbxId
          let barger : PbxCall :=
            { id := bargerId, line := target.line, context := target.context
              direction := .outbound, state := .connected, privacy := true }
          let s := s.addBarger barger
          let s := s.modifyAppearance requester.id fun a =>
            { a with
              state := .barged, codec, audio := .opening, video := a.video.closeStreams }
          let s := s.recordBarge
            { targetCallId := target.id, bargerCallId := bargerId, bridgeId
              handsetCallId := callId, mode } firstParticipant
          let s := s.selectLine requester.deviceId requester.lineInstance
          let s := s.setCallSelected requester.deviceId callId true
          (s, .ok [.backend (.createChannel callId bargerId binding codec),
            .backend (.barge (.join bridgeId target.id bargerId)),
            .handset (.beginMedia requester.deviceId callId codec)])

/-- Take one barging handset out of the barge tables; the second component says
    whether it was the last of its group. -/
def dropBarge (session : BargeSession) (callId : CallId) : Controller × Bool :=
  let s := { s with
    bargesByHandset := s.bargesByHandset.erase callId
    bargesByPbx := s.bargesByPbx.erase session.bargerCallId
    pbx := s.pbx.erase session.bargerCallId }
  let remaining := ((s.bargeGroups.get? session.targetCallId).map (·.members)).getD []
  if without remaining callId = [] then
    ({ s with
      bargeGroups := s.bargeGroups.erase session.targetCallId
      sharedControlClaims :=
        if s.sharedControlClaims.get? session.targetCallId = some (.barge session.bridgeId) then
          s.sharedControlClaims.erase session.targetCallId
        else s.sharedControlClaims },
      true)
  else
    ({ s with bargeGroups := s.bargeGroups.modify session.targetCallId fun group =>
        { group with members := without group.members callId } },
      false)

def endBargeInternal (callId : CallId) (bridgeJoined channelCreated restoreHandset : Bool) :
    Controller × List DriverEffect :=
  match s.bargesByHandset.get? callId with
  | none => (s, [])
  | some session =>
    let (s, lastParticipant) := s.dropBarge session callId
    let effects : List DriverEffect :=
      (if bridgeJoined then
        [.backend (.barge (.leave session.bridgeId session.bargerCallId lastParticipant))]
      else []) ++ (if channelCreated then [.backend (.hangup session.bargerCallId)] else [])
    match s.bySccp.get? callId with
    | none => (s, effects)
    | some appearanceId =>
      let restored := fun state (appearance : CallAppearance) =>
        if restoreHandset then [appearanceStateEffect appearance state true] else []
      if s.pbx.contains session.targetCallId then
        let presentation := match s.appearances.get? appearanceId with
          | none => []
          | some appearance => restored .remoteMultiline appearance
        (s.modifyAppearance appearanceId fun a =>
          { a with
            state := .remoteInUse, audio := .closed, audioTransmit := .closed
            video := a.video.closeStreams },
          effects ++ presentation)
      else
        match s.appearances.get? appearanceId with
        | none => (s, effects)
        | some appearance =>
          ((s.removeAppearance appearanceId).1, effects ++ restored .onHook appearance)

def endBarge (callId : CallId) (bridgeJoined channelCreated : Bool) :
    Controller × List DriverEffect :=
  s.endBargeInternal callId bridgeJoined channelCreated true

def abortBarge (callId : CallId) (bridgeJoined channelCreated : Bool) :
    Controller × List DriverEffect :=
  s.endBarge callId bridgeJoined channelCreated

/-- End the barges of a list of handsets in turn, without restoring them. -/
def endBarges (s : Controller) : List CallId → Controller × List DriverEffect
  | [] => (s, [])
  | callId :: rest =>
    let (s, effects) := s.endBargeInternal callId true true false
    let (s, more) := endBarges s rest
    (s, effects ++ more)

def endBargesForTarget (target : PbxCallId) : Controller × List DriverEffect :=
  s.endBarges (((s.bargeGroups.get? target).map (·.members)).getD [])

/-! ## Redirect claims of ringing calls -/

/-- The records of the appearances of a call, in its order. -/
def callAppearances (call : PbxCall) : List CallAppearance :=
  call.appearanceIds.filterMap s.appearances.get?

def forwardRingingCall (pbxId : PbxCallId) : Controller × List DriverEffect :=
  match s.pbx.get? pbxId with
  | none => (s, [])
  | some call =>
    if call.state ≠ .ringing ∨ call.activeAppearance.isSome then (s, [])
    else
      ((s.removePbxCall pbxId).1,
        (s.callAppearances call).map fun a => appearanceStateEffect a .onHook false)

def claimRingingForward (pbxId : PbxCallId) : Controller × Bool :=
  if pbxId ∈ s.redirectClaims ∨ (s.pbx.get? pbxId).all (fun call =>
        decide (call.state ≠ .ringing) || call.activeAppearance.isSome) then
    (s, false)
  else ({ s with redirectClaims := s.redirectClaims.insert pbxId }, true)

def rollbackRingingForward (pbxId : PbxCallId) : Controller × Bool :=
  ({ s with redirectClaims := without s.redirectClaims pbxId }, pbxId ∈ s.redirectClaims)

def completeRingingForward (pbxId : PbxCallId) : Controller × List DriverEffect :=
  if pbxId ∈ s.redirectClaims then (s.rollbackRingingForward pbxId).1.forwardRingingCall pbxId
  else (s, [])

def cancelInboundOffer (callId : CallId) : Controller × Bool :=
  match s.appearanceForCall callId with
  | none => (s, false)
  | some appearance =>
    match s.pbx.get? appearance.pbxId with
    | none => (s, false)
    | some call =>
      if appearance.pbxId ∈ s.redirectClaims ∨ call.state ≠ .ringing
          ∨ call.activeAppearance.isSome then
        (s, false)
      else
        let s := { s with pendingAutoAnswers := s.pendingAutoAnswers.erase callId }
        let s := (s.removeAppearance appearance.id).1
        if (s.pbx.get? appearance.pbxId).any (·.appearanceIds.isEmpty) then
          ({ s with pbx := s.pbx.erase appearance.pbxId }, true)
        else (s, true)

end Controller

end Sccp
