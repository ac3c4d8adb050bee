/-
  Sccp.Controller.CallControl

  Digit collection, answering, hold and resume, shared-line steal and barge,
  and the redirect claims of ringing calls (`domains/call_registry.rs`).
-/

import Sccp.Controller.Calls

namespace Sccp

inductive Digit where
  | number (n : Nat)
  | star
  | pound
  | a
  | b
  | c
  | d
  | unknown (code : Nat)

def digitCharacter : Digit → Option Char
  | .number n => if n ≤ 9 then some (Char.ofNat (48 + n)) else none
  | .star => some '*'
  | .pound => some '#'
  | .a => some 'A'
  | .b => some 'B'
  | .c => some 'C'
  | .d => some 'D'
  | .unknown _ => none

/-- A dialable character, with `a`..`d` raised to capitals. -/
def dialable? (character : Char) : Option Char :=
  if character.isDigit || character = '*' || character = '#'
      || ('A' ≤ character && character ≤ 'D') then
    some character
  else if 'a' ≤ character && character ≤ 'd' then some character.toUpper
  else none

namespace Controller

variable (s : Controller)

/-- Edit the appearance a handset call is indexed to. -/
def modifyAppearanceOf (callId : CallId) (f : CallAppearance → CallAppearance) : Controller :=
  match s.bySccp.get? callId with
  | none => s
  | some appearanceId => s.modifyAppearance appearanceId f

/-- The active appearance of a call, or else its first one, with its id. -/
def leadAppearance (call : PbxCall) : Option (CallAppearanceId × CallAppearance) :=
  match call.activeAppearance.or call.appearanceIds.head? with
  | none => none
  | some appearanceId => (s.appearances.get? appearanceId).map fun a => (appearanceId, a)

/-! ## Outbound presentation -/

def outboundRoutePresentation (pbxId : PbxCallId) (destination : String) :
    Controller × List DriverEffect :=
  match (s.pbx.get? pbxId).filter fun call => call.direction = .outbound ∧ call.state
    = .calling with
  | none => (s, [])
  | some call =>
    match s.leadAppearance call with
    | none => (s, [])
    | some (appearanceId, appearance) =>
      let info := { appearance.info with calledNumber := destination }
      let s := s.modifyAppearance appearanceId fun a => { a with info }
      let s := s.modifyCall pbxId fun call => { call with outboundPhase := some .routing }
      let s := s.refreshConferenceParticipantIdentity pbxId
      (s, [.handset (.commitOutboundCall appearance.deviceId appearance.sccpId info)])

def advanceOutboundCallPhase (pbxId : PbxCallId) (next : OutboundCallPhase) :
    Controller × Option CallAppearance :=
  match s.pbx.get? pbxId with
  | none => (s, none)
  | some call =>
    if call.direction ≠ .outbound ∨ call.state ≠ .calling
        ∨ call.outboundPhase.all (fun current => next.rank ≤ current.rank) then
      (s, none)
    else
      match s.leadAppearance call with
      | none => (s, none)
      | some (_, appearance) =>
        (s.modifyCall pbxId fun call => { call with outboundPhase := some next },
          some appearance)

def publishOutboundRingOut (pbxId : PbxCallId) : Controller × List DriverEffect :=
  match s.pbx.get? pbxId with
  | none => (s, [])
  | some call =>
    if call.direction ≠ .outbound ∨ call.state ≠ .calling
        ∨ call.outboundIdentityStage ≠ .ready ∨ call.outboundPhase ≠ some .ringing then
      (s, [])
    else
      match s.leadAppearance call with
      | none => (s, [])
      | some (_, appearance) =>
        (s.modifyCall pbxId fun call => { call with outboundIdentityStage := .ringOutPublished },
          [.handset (.setCallState appearance.deviceId appearance.sccpId .ringOut false),
            .handset (.setCallInfo appearance.deviceId appearance.sccpId appearance.info)])

def pbxRinging (pbxId : PbxCallId) : Controller × List DriverEffect :=
  match s.advanceOutboundCallPhase pbxId .ringing with
  | (s, none) => (s, [])
  | (s, some appearance) =>
    let s := s.advanceTransferForPbx pbxId .ringing
    let (s, effects) := s.publishOutboundRingOut pbxId
    (s, .handset (.presentOutboundRinging appearance.deviceId appearance.sccpId appearance.info)
      :: effects)

/-- Whether a media stream is closed. -/
def isClosed : MediaStreamState → Bool
  | .closed => true
  | _ => false

/-- `pbx_progress_with_media_mode`; `coupled` selects the coupled media mode. -/
def pbxProgressWithMediaMode (pbxId : PbxCallId) (earlyMedia coupled : Bool) :
    Controller × List DriverEffect :=
  match s.pbx.get? pbxId with
  | none => (s, [])
  | some call =>
    if call.direction ≠ .outbound ∨ call.state ≠ .calling ∨ call.outboundPhase.any (fun phase =>
          OutboundCallPhase.progress.rank < phase.rank) then
      (s, [])
    else
      let publishProceed := call.outboundPhase.all fun phase =>
        phase.rank < OutboundCallPhase.routing.rank
      match s.leadAppearance call with
      | none => (s, [])
      | some (appearanceId, appearance) =>
        let beginMedia := earlyMedia && isClosed appearance.audio
        let coupled := beginMedia && coupled
        let s := s.modifyAppearance appearanceId fun a =>
          { a with
            audio := if beginMedia then .opening else a.audio
            audioTransmit := if coupled then .opening else a.audioTransmit }
        let s :=
          if coupled then
            { s with pendingRouteMedia := s.pendingRouteMedia.insert appearance.sccpId }
          else s
        let s := s.modifyCall pbxId fun call => { call with outboundPhase := some .progress }
        let s := s.advanceTransferForPbx pbxId .ringing
        let device := appearance.deviceId
        let callId := appearance.sccpId
        (s, (if publishProceed then
            [.handset (.setCallState device callId .proceed false)] else [])
          ++ (if coupled then [.handset (.beginOutboundMedia device callId appearance.codec)]
            else if beginMedia then
              [.handset (.beginEarlyMedia device callId appearance.codec)]
            else []))

/-! ## Digits -/

/-- Whether an appearance is collecting digits. -/
def isCollecting (state : CallState) : Bool :=
  state = .collecting || state = .pickupCollecting || state = .transferCollecting

def finishDigits (callId : CallId) : Controller × List DriverEffect :=
  match s.appearanceForCall callId with
  | none => (s, [])
  | some appearance =>
    if !isCollecting appearance.state then (s, [])
    else
      let pbxId := appearance.pbxId
      match s.pbx.get? pbxId with
      | none => (s, [])
      | some call =>
        let s := s.modifyCall pbxId fun call => { call with digitDeadline := none }
        if call.digits.isEmpty then (s, [])
        else
          match call.pendingPickup with
          | some pickup =>
            let next : CallState := if pickup.answer then .connected else .ringing
            let s := s.modifyCall pbxId fun call =>
              { call with
                pendingPickup := none, state := next
                activeAppearance := if pickup.answer then some appearance.id else none }
            let s := s.modifyAppearance appearance.id fun a =>
              { a with
                state := next, audio := if pickup.answer then .opening else .closed }
            (s, [.backend (.pickup (.directed pbxId appearance.deviceId callId
              appearance.codec call.digits pickup.context pickup.answer))])
          | none =>
            let leg : TransferLeg := ⟨callId, pbxId⟩
            let consultationTransfer :=
              (s.transfers.forLeg leg).any fun t => t.consultation = some leg
            let s := s.modifyCall pbxId fun call => { call with state := .calling }
            let s := s.modifyAppearance appearance.id fun a => { a with state := .calling }
            let s :=
              if consultationTransfer then s.advanceTransferForPbx pbxId .routing else s
            let (s, effects) := s.outboundRoutePresentation pbxId call.digits
            (s, effects ++ [.backend (.startRouting pbxId call.context call.digits)])

def enbloc (callId : CallId) (number : String) : Controller × List DriverEffect :=
  match s.appearanceForCall callId with
  | none => (s, [])
  | some appearance =>
    if appearance.state = .connected ∨ appearance.state = .held then
      match number.toList.mapM dialable? with
      | none => (s, [])
      | some digits => (s, digits.map fun digit => .backend (.sendDigit appearance.pbxId digit))
    else if !isCollecting appearance.state then (s, [])
    else
      let s :=
        if number.isEmpty then s
        else s.modifyCall appearance.pbxId fun call => { call with digits := number }
      s.finishDigits callId

/-- The tone that follows a digit that completes the secondary prefix. -/
def secondaryTone (line digits : String) : Option Tone :=
  ((s.lineDialTones.get? line).filter fun tones => tones.secondaryPrefix = some digits).map
    (·.secondary)

/-- A collecting call after one more digit, and whether it starts overlap
    routing. -/
def pushDigit (appearanceState : CallState) (character : Char) (now : Instant) (call : PbxCall) :
    PbxCall × Bool :=
  let eligible := call.simulatedEnblocEligible
    && call.lastDigitAt.all fun previous => decide (now - previous ≤ 400)
  let digits := call.digits.push character
  let call := { call with simulatedEnblocEligible := eligible, lastDigitAt := some now, digits }
  if appearanceState = .collecting ∧ call.overlapEnabled ∧ digits.length = 1 then
    ({ call with state := .calling, digitDeadline := none }, true)
  else
    let timeout := if eligible ∧ 4 ≤ digits.length then min s.interdigit 2000 else s.interdigit
    ({ call with
      digitDeadline := if appearanceState ≠ .pickupCollecting then some (now + timeout) else none },
      false)

def digit (callId : CallId) (key : Digit) (now : Instant) : Controller × List DriverEffect :=
  match digitCharacter key, s.appearanceForCall callId with
  | some character, some appearance =>
    let pbxId :=
      ((s.bargesByHandset.get? callId).map (·.bargerCallId)).getD appearance.pbxId
    if isCollecting appearance.state then
      if character = s.dialTerminator then s.finishDigits callId
      else
        match s.pbx.get? pbxId with
        | none => (s, [])
        | some call =>
          let (pushed, overlap) := s.pushDigit appearance.state character now call
          let tone : List DriverEffect :=
            ((s.secondaryTone call.line pushed.digits).map fun tone =>
              DriverEffect.handset (.startTone appearance.deviceId callId tone)).toList
          let s := s.modifyCall pbxId fun _ => pushed
          if overlap then
            let s := s.modifyAppearanceOf callId fun a => { a with state := .calling }
            let (s, effects) := s.outboundRoutePresentation pbxId pushed.digits
            (s, tone ++ effects ++ [.backend (.startRouting pbxId call.context pushed.digits)])
          else (s, tone)
    else if appearance.state = .connected ∨ appearance.state = .held
        ∨ (appearance.state = .calling ∧ (s.pbx.get? pbxId).any (·.overlapEnabled)) then
      (s, [.backend (.sendDigit pbxId character)])
    else (s, [])
  | _, _ => (s, [])

def speedDial (callId : CallId) (number : String) (awaitFurtherDigits : Bool) (now : Instant) :
    Controller × List DriverEffect :=
  if !awaitFurtherDigits then s.enbloc callId number
  else
    match s.appearanceForCall callId, number.toList.mapM dialable? with
    | some appearance, some digits =>
      if appearance.state ≠ .collecting ∧ appearance.state ≠ .transferCollecting then (s, [])
      else
        let terminated := digits.getLast? = some s.dialTerminator
        let digits := if terminated then digits.dropLast else digits
        match s.pbx.get? appearance.pbxId with
        | none => (s, [])
        | some _ =>
          let deadline := now + s.interdigit
          let s := s.modifyCall appearance.pbxId fun call =>
            { call with
              digits := String.ofList digits, lastDigitAt := some now
              simulatedEnblocEligible := false, digitDeadline := some deadline }
          if terminated then s.finishDigits callId else (s, [])
    | _, _ => (s, [])

/-- Finish digit collection for a list of handset calls in turn. -/
def finishAllDigits (s : Controller) : List CallId → Controller × List DriverEffect
  | [] => (s, [])
  | callId :: rest =>
    let (s, effects) := s.finishDigits callId
    let (s, more) := finishAllDigits s rest
    (s, effects ++ more)

def expireDigits (now : Instant) : Controller × List DriverEffect :=
  let expired := (s.pbx.values.filter fun call =>
      call.digitDeadline.any fun deadline => decide (deadline ≤ now)).filterMap fun call =>
    (call.appearanceIds.head?.bind s.appearances.get?).map (·.sccpId)
  s.finishAllDigits expired

end Controller

end Sccp
