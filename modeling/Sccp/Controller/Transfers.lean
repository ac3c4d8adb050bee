/-
  Sccp.Controller.Transfers

  Switching between calls, consultation and direct transfers, and diverts to
  voicemail (`domains/call_registry.rs`, `domains/transfer.rs`,
  `domains/voicemail.rs`).
-/

import Sccp.Controller.Sharing

namespace Sccp

namespace Controller

variable (s : Controller) (device : DeviceId)

/-- The handset call a device's keys act on. -/
def activeCallOf : Option CallId := (s.devices.get? device).bind (·.activeCall)

/-- The state a handset call is shown in. -/
def callState (callId : CallId) : Option CallState := (s.appearanceForCall callId).map (·.state)

/-! ## Switching and additional calls -/

/-- Bring the target of a switch to the front, according to its state. -/
def activateTarget (target : CallAppearance) (callId : CallId) : Controller × List DriverEffect :=
  match target.state with
  | .ringing => s.phoneAnswer callId
  | .held | .sharedHeld => s.resume callId
  | .connected =>
    let s := s.setActiveCall device (some callId)
    let s := s.selectLine device target.lineInstance
    (s, [.handset (.setCallState device callId .connected false)])
  | _ => (s, [])

def switchActiveCall (callId : CallId) :
    Controller × Except CallSwitchRejection (List DriverEffect) :=
  match (s.appearanceForCall callId).filter (·.deviceId = device) with
  | none => (s, .error .unavailable)
  | some target =>
    if s.conferencesByPbx.contains target.pbxId
        ∨ ¬(target.state = .ringing ∨ target.state = .connected ∨ target.state = .held
          ∨ target.state = .sharedHeld) then
      (s, .error .conflict)
    else
      match s.devices.get? device with
      | none => (s, .error .unavailable)
      | some state =>
        if state.activeCall = some callId then (s, .ok [])
        else if state.activeCall.any s.cannotSetAside then (s, .error .conflict)
        else
          let engaged := state.activeCall.filter fun previous =>
            (s.callState previous).any isEngaged
          let (s, held) := s.setAside engaged
          if engaged.isSome ∧ held.isEmpty then (s, .error .conflict)
          else
            let (s, activate) := s.activateTarget device target callId
            if activate.isEmpty ∧ target.state ≠ .connected then (s, .error .conflict)
            else (s, .ok (held ++ activate))

def beginAdditionalPhoneCall (sccpId : CallId) (binding : LineBinding) (codec : Codec)
    (now : Instant) : Controller × Except CallSwitchRejection (List DriverEffect) :=
  if s.bySccp.contains sccpId || !s.devices.contains binding.deviceId then
    (s, .error .unavailable)
  else
    let active := s.activeCallOf binding.deviceId
    if active.any fun callId =>
      (s.conferenceSession callId).isSome || s.bargesByHandset.contains callId then
      (s, .error .conflict)
    else
      let (s, held) := s.setAside (active.filter fun callId => (s.callState callId).any isEngaged)
      let (s, created) := s.beginPhoneCall sccpId binding codec now
      if created.isEmpty then (s, .error .unavailable) else (s, .ok (held ++ created))

/-! ## Transfers -/

/-- A consultation channel is created on behalf of its source. -/
def asConsultationChannel (source consultation : PbxCallId) : DriverEffect → DriverEffect
  | .backend (.createChannel handsetCallId callId binding codec) =>
    if callId = consultation then
      .backend (.createConsultationChannel source handsetCallId callId binding codec)
    else .backend (.createChannel handsetCallId callId binding codec)
  | effect => effect

/-- Whether the effects put a PBX call on hold. -/
def holdsCall (pbxId : PbxCallId) (effects : List DriverEffect) : Bool :=
  effects.any fun effect => match effect with
    | .backend (.hold callId) => callId = pbxId
    | _ => false

/-- The checks `begin_transfer` makes on the source. -/
def transferSourceGuard (request : TransferConsultationRequest) (source : CallAppearance)
    (call : PbxCall) : Option TransferRejection :=
  if source.state ≠ .connected ∨ call.state ≠ .connected ∨ call.activeAppearance ≠ some source.id
      ∨ s.activeCallOf source.deviceId ≠ some request.sourceCallId then
    some .invalidPhase
  else if source.pbxId ∈ s.redirectClaims ∨ s.conferencesByPbx.contains source.pbxId
      ∨ s.bargesByHandset.contains request.sourceCallId ∨ (s.transfers.get source.deviceId).isSome
      ∨ s.bySccp.contains request.consultationCallId then
    some .conflict
  else none

/-- Record the transaction of a consultation that has just been created, or
    take the consultation down again. -/
def recordConsultation (request : TransferConsultationRequest) (transactionId : TransferId)
    (source consultation : CallAppearance) (effects : List DriverEffect) :
    Controller × Except TransferRejection (List DriverEffect) :=
  let s := s.modifyAppearanceOf request.consultationCallId fun a =>
    { a with state := .transferCollecting }
  let s := s.modifyCall consultation.pbxId fun call => { call with state := .transferCollecting }
  let effects := effects.map (asConsultationChannel source.pbxId consultation.pbxId)
  let transaction := TransferTransaction.forConsultation transactionId source.deviceId
    ⟨source.sccpId, source.pbxId⟩ .connected request.completeOnHangup
  match transaction.attachConsultation ⟨consultation.sccpId, consultation.pbxId⟩ with
  | .error rejection => (s, .error rejection)
  | .ok transaction =>
    match s.transfers.insert transaction with
    | .error rejection =>
      let s := (s.removePbxCall consultation.pbxId).1
      ((s.resume source.sccpId).1, .error rejection)
    | .ok transfers =>
      let s := { s with transfers }
      if !holdsCall source.pbxId effects then
        let s := match s.transfers.cancel source.deviceId transactionId .consultationFailure
            none with
          | .error _ => s
          | .ok (transfers, _) => { s with transfers }
        let s := (s.removePbxCall consultation.pbxId).1
        ((s.resume source.sccpId).1, .error .conflict)
      else
        let s := s.setCallSelected source.deviceId request.sourceCallId true
        let s := s.setCallSelected source.deviceId request.consultationCallId true
        (s, .ok (effects ++ [.handset (.beginTransfer source.deviceId request.sourceCallId
          request.consultationCallId consultation.lineInstance request.codec)]))

def beginTransfer (request : TransferConsultationRequest) :
    Controller × Except TransferRejection (List DriverEffect) :=
  match s.appearanceForCall request.sourceCallId with
  | none => (s, .error .wrongCall)
  | some source =>
    if request.sourceCallId = request.consultationCallId
        ∨ request.binding.deviceId ≠ source.deviceId then
      (s, .error .wrongCall)
    else
      match s.pbx.get? source.pbxId with
      | none => (s, .error .wrongCall)
      | some call =>
        match s.transferSourceGuard request source call with
        | some rejection => (s, .error rejection)
        | none =>
          let (transfers, transactionId) := s.transfers.allocateId
          let s := { s with transfers }
          match s.beginAdditionalPhoneCall request.consultationCallId request.binding
            request.codec request.now with
          | (s, .error _) => (s, .error .conflict)
          | (s, .ok effects) =>
            match s.appearanceForCall request.consultationCallId with
            | none => (s, .error .conflict)
            | some consultation =>
              s.recordConsultation request transactionId source consultation effects

def transferSetupCompleted (transactionId : TransferId)
    (milestone : TransferSetupMilestone) : Controller × Except TransferRejection Unit :=
  match s.transfers.recordSetupMilestone device transactionId milestone with
  | .error rejection => (s, .error rejection)
  | .ok transfers => ({ s with transfers }, .ok ())

def deferTransferAction (transactionId : TransferId)
    (action : DeferredTransferAction) : Controller × Except TransferRejection Unit :=
  match s.transfers.deferAction device transactionId action with
  | .error rejection => (s, .error rejection)
  | .ok transfers => ({ s with transfers }, .ok ())

def completeTransfer (consultationCallId : CallId)
    (trigger : TransferTrigger) : Controller × Except TransferRejection TransferCompletionPlan :=
  match (s.appearanceForCall consultationCallId).filter (·.deviceId = device) with
  | none => (s, .error .wrongCall)
  | some consultation =>
    match s.transfers.beginCompletion device trigger ⟨consultation.sccpId, consultation.pbxId⟩ with
    | .error rejection => (s, .error rejection)
    | .ok (transfers, completion) =>
      ({ s with transfers },
        .ok { completion, effects := [.backend (.transfer completion)] })

/-- Whether the call a handset reports is a leg of the transaction.  Call id
    zero stands for no call. -/
def reportedLegMatches (t : TransferTransaction) (reported : Option CallId) : Bool :=
  match reported.filter (·.val ≠ 0) with
  | none => true
  | some callId =>
    ((s.appearanceForCall callId).filter (·.deviceId = device)).any fun appearance =>
      t.contains ⟨appearance.sccpId, appearance.pbxId⟩

def completeDeviceTransfer (reported : Option CallId)
    (trigger : TransferTrigger) : Controller × Except TransferRejection TransferCompletionPlan :=
  match s.transfers.get device with
  | none => (s, .error .wrongCall)
  | some t =>
    if !s.reportedLegMatches device t reported then (s, .error .wrongCall)
    else
      match t.consultation with
      | none => (s, .error .consultationMissing)
      | some consultation => s.completeTransfer device consultation.handsetCallId trigger

/-- Order of two selected calls in a direct transfer: a held call first, then
    the call that is not active, then the smaller handset id. -/
def transfersBefore (active : Option CallId) (a b : CallAppearance) : Bool :=
  let held := fun (x : CallAppearance) => if x.state ≠ .held then 1 else 0
  let front := fun (x : CallAppearance) => if some x.sccpId = active then 1 else 0
  held a < held b || (held a = held b
    && (front a < front b || (front a = front b && a.sccpId.val ≤ b.sccpId.val)))

def directTransferEligible (appearance : CallAppearance) : Bool :=
  (appearance.state = .connected || appearance.state = .held)
    && !decide (appearance.pbxId ∈ s.redirectClaims)
    && !s.conferencesByPbx.contains appearance.pbxId
    && !s.bargesByHandset.contains appearance.sccpId

def directTransfer : Controller × Except TransferRejection TransferCompletionPlan :=
  if (s.transfers.get device).isSome then (s, .error .conflict)
  else
    match s.devices.get? device with
    | none => (s, .error .wrongCall)
    | some state =>
      match state.selectedCalls with
      | [first, second] =>
        match (s.appearanceForCall first).filter (·.deviceId = device),
          (s.appearanceForCall second).filter (·.deviceId = device) with
        | some a, some b =>
          if !s.directTransferEligible a ∨ !s.directTransferEligible b ∨ a.pbxId = b.pbxId then
            (s, .error .invalidSelection)
          else
            let (source, consultation) :=
              if transfersBefore state.activeCall a b then (a, b) else (b, a)
            let sourceState : TransferSourceState :=
              if source.state = .connected then .connected else .held
            let (transfers, transactionId) := s.transfers.allocateId
            let s := { s with transfers }
            match TransferTransaction.direct transactionId device
              ⟨source.sccpId, source.pbxId⟩ sourceState
              ⟨consultation.sccpId, consultation.pbxId⟩ with
            | .error rejection => (s, .error rejection)
            | .ok transaction =>
              match s.transfers.insert transaction with
              | .error rejection => (s, .error rejection)
              | .ok transfers =>
                { s with transfers }.completeTransfer device consultation.sccpId
                  .transferKey
        | _, _ => (s, .error .wrongCall)
      | _ => (s, .error .invalidSelection)

/-- Off-hook effects for every appearance of a PBX call. -/
def onHookEffects (pbxId : PbxCallId) : List DriverEffect :=
  (s.appearancesForPbx pbxId).map fun a => appearanceStateEffect a .onHook true

def transferSucceeded (transactionId : TransferId) : Controller × Option TransferTerminalOutcome :=
  match s.transfers.commit device transactionId with
  | none => (s, none)
  | some (transfers, transaction) =>
    let s := { s with transfers }
    match transaction.consultation with
    | none => (s, none)
    | some consultation =>
      if !s.pbx.contains transaction.source.pbxCallId
          || !s.pbx.contains consultation.pbxCallId then
        (s, none)
      else
        let effects := s.onHookEffects transaction.source.pbxCallId
          ++ s.onHookEffects consultation.pbxCallId
        let s := (s.removePbxCall transaction.source.pbxCallId).1
        let s := (s.removePbxCall consultation.pbxCallId).1
        (s, some { transaction, effects })

/-- Remove a leg that the PBX has already ended. -/
def removeTerminatedLeg (terminated : Bool) (leg : TransferLeg) : Controller × List DriverEffect :=
  if terminated then
    ((s.removePbxCall leg.pbxCallId).1, s.onHookEffects leg.pbxCallId)
  else (s, [])

/-- Whether the setup of a transfer got as far as an effect of the source's
    resume undoes. -/
def undoneBySetup (progress : List TransferSetupMilestone) : DriverEffect → Bool
  | .backend (.resume _) => decide (TransferSetupMilestone.sourceBackendHeld ∈ progress)
  | .handset _ => decide (TransferSetupMilestone.sourceHandsetHeld ∈ progress)
  | _ => true

/-- Take the consultation leg of a cancelled transfer down. -/
def removeConsultation (t : TransferTransaction) : Controller × List DriverEffect :=
  match t.consultation with
  | none => (s, [])
  | some consultation =>
    let hangup : List DriverEffect :=
      if .consultationChannelCreated ∈ t.executionProgress ∧ !t.consultationTerminated then
        [.backend (.hangup consultation.pbxCallId)]
      else []
    let onHook : List DriverEffect :=
      if .consultationHandsetStarted ∈ t.executionProgress then
        ((s.appearanceForCall consultation.handsetCallId).map fun a =>
          appearanceStateEffect a .onHook true).toList
      else []
    ((s.removePbxCall consultation.pbxCallId).1, hangup ++ onHook)

def abortTransfer (transactionId : TransferId) (reason : TransferCancellationReason) :
    Controller × Except TransferRejection TransferTerminalOutcome :=
  match s.transfers.cancel device transactionId reason none with
  | .error rejection => (s, .error rejection)
  | .ok (transfers, cancellation) =>
    let s := { s with transfers }
    let t := cancellation.transaction
    if t.mode = .direct then
      let (s, sourceEffects) := s.removeTerminatedLeg t.sourceTerminated t.source
      let (s, consultationEffects) := match t.consultation with
        | none => (s, [])
        | some consultation => s.removeTerminatedLeg t.consultationTerminated consultation
      (s, .ok { transaction := t, effects := sourceEffects ++ consultationEffects })
    else
      let (s, consultationEffects) := s.removeConsultation t
      let (s, resumed) :=
        if cancellation.sourceRecovery = .restoreConnected
            ∧ (s.appearanceForCall t.source.handsetCallId).isSome then
          s.resume t.source.handsetCallId
        else (s, [])
      let (s, sourceEffects) := s.removeTerminatedLeg
        (cancellation.sourceRecovery = .sourceGone ∧ t.sourceTerminated) t.source
      (s, .ok
        { transaction := t
          effects := consultationEffects ++ resumed.filter (undoneBySetup t.executionProgress)
            ++ sourceEffects })

/-! ## Diverts to voicemail -/

def beginVoicemailClaim (appearance : CallAppearance) (action : VoicemailAction)
    (target : VoicemailTarget) : Controller × Except VoicemailRejection VoicemailPlan :=
  if appearance.pbxId ∈ s.redirectClaims ∨ s.conferencesByPbx.contains appearance.pbxId
      ∨ s.bargesByHandset.contains appearance.sccpId
      ∨ (s.transfers.forLeg ⟨appearance.sccpId, appearance.pbxId⟩).isSome then
    (s, .error .conflict)
  else
    match s.voicemail.claim appearance.deviceId appearance.sccpId appearance.pbxId action
      target with
    | .error rejection => (s, .error rejection)
    | .ok (voicemail, transaction) =>
      -- the claim is free and the new transaction has just been claimed, so neither the
      -- second claim check of the source nor its execution step can fail
      match voicemail.beginExecution appearance.deviceId transaction.id with
      | .error rejection => (s, .error rejection)
      | .ok (voicemail, operation) =>
        ({ s with
          voicemail, redirectClaims := s.redirectClaims.insert appearance.pbxId },
          .ok { transaction := { transaction with phase := .executing }
                effects := [.backend (.voicemail operation)] })

def beginImmediateDivert (callId : CallId) (target : VoicemailTarget) :
    Controller × Except VoicemailRejection VoicemailPlan :=
  match (s.appearanceForCall callId).filter (·.deviceId = device) with
  | none => (s, .error .conflict)
  | some appearance =>
    match s.pbx.get? appearance.pbxId with
    | none => (s, .error .conflict)
    | some call =>
      if appearance.state ≠ .ringing ∨ call.state ≠ .ringing ∨ call.activeAppearance.isSome then
        (s, .error .invalidPhase)
      else s.beginVoicemailClaim appearance .immediateDivert target

def beginSelectedVoicemailTransfer (target : VoicemailTarget) :
    Controller × Except VoicemailRejection VoicemailPlan :=
  match (s.devices.get? device).map (·.selectedCalls) with
  | some [selected] =>
    match (s.appearanceForCall selected).filter (·.deviceId = device) with
    | none => (s, .error .conflict)
    | some appearance =>
      match s.pbx.get? appearance.pbxId with
      | none => (s, .error .conflict)
      | some call =>
        if (appearance.state = .connected ∨ appearance.state = .held)
            ∧ call.state = appearance.state ∧ call.activeAppearance = some appearance.id then
          s.beginVoicemailClaim appearance .transferSelected target
        else (s, .error .invalidPhase)
  | _ => (s, .error .conflict)

def abortVoicemail (transactionId : VoicemailTransactionId) :
    Controller × Except VoicemailRejection VoicemailTransaction :=
  match s.voicemail.cancel device transactionId with
  | .error rejection => (s, .error rejection)
  | .ok (voicemail, transaction) =>
    ({ s with voicemail, redirectClaims := without s.redirectClaims transaction.pbxCallId },
      .ok transaction)

def voicemailSucceeded (transactionId : VoicemailTransactionId) :
    Controller × Except VoicemailRejection VoicemailTerminalOutcome :=
  match (s.voicemail.get device).filter (·.id = transactionId) with
  | none => (s, .error .conflict)
  | some t =>
    let owned := (s.appearanceForCall t.handsetCallId).any fun a => a.pbxId = t.pbxCallId
    let disconnected := !s.devices.contains t.deviceId
    if t.pbxCallId ∉ s.redirectClaims ∨ (!owned ∧ !disconnected) ∨ !s.pbx.contains t.pbxCallId then
      (s, .error .conflict)
    else
      match s.voicemail.commit device transactionId with
      | .error rejection => (s, .error rejection)
      | .ok (voicemail, transaction) =>
        let effects := s.onHookEffects transaction.pbxCallId
        let s := { s with
          voicemail, redirectClaims := without s.redirectClaims transaction.pbxCallId }
        ((s.removePbxCall transaction.pbxCallId).1, .ok { transaction, effects })

def completeVoicemailNative (transactionId : VoicemailTransactionId)
    (pbxCallId : PbxCallId) : Controller × Except VoicemailRejection VoicemailNativeOutcome :=
  if (s.voicemail.get device).any fun t => t.id = transactionId ∧ t.pbxCallId = pbxCallId then
    let (s, outcome) := s.voicemailSucceeded device transactionId
    (s, outcome.map .committed)
  else if !s.pbx.contains pbxCallId ∧ (s.voicemail.forPbx pbxCallId).isNone
      ∧ pbxCallId ∉ s.redirectClaims then
    (s, .ok .callAlreadyEnded)
  else (s, .error .conflict)

end Controller

end Sccp
