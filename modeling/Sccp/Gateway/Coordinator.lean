/-
  Sccp.Gateway.Coordinator

  Coordination of handset calls and SIP calls (`bridge/src/coordinator.rs`).

  One task handles the events of both sides, one after the other, so that a handler is a function
  of the whole state.  What it asks of a side is appended to the trace; the answer comes from an
  environment that may look at everything that has happened.
-/

import Sccp.Gateway.Types
import Sccp.Lib.Table

namespace Sccp.Gateway

open Sccp

/-! ## Calls -/

inductive BridgeCallState where
  | collecting | calling | ringing | connected | held | transferCollecting
  deriving DecidableEq

inductive RelayPath where
  | reserved (relay : AllocatedRelay)
  | running (relay : RtpRelay)
  deriving DecidableEq

def RelayPath.addresses : RelayPath → RelayAddresses
  | reserved relay => relay.addresses
  | running relay => relay.addresses

inductive MediaRouteState where
  | unallocated
  | relay (path : RelayPath)
  | switchingToDirect (path : RelayPath)
  | direct
  | switchingToRelay (relay : AllocatedRelay)
  deriving DecidableEq

inductive MediaRouteKind where
  | unallocated | relay | direct | switching
  deriving DecidableEq

def MediaRouteState.kind : MediaRouteState → MediaRouteKind
  | unallocated => .unallocated
  | relay _ => .relay
  | direct => .direct
  | switchingToDirect _ | switchingToRelay _ => .switching

inductive MediaRouteAction where
  | none | setInitialDirect | reofferDirect | reofferRelay
  deriving DecidableEq

inductive PhoneMediaState where
  | closed
  | opening
  | ready (source : MediaEndpoint)
  | started (source target : MediaEndpoint)
  deriving DecidableEq

def PhoneMediaState.source : PhoneMediaState → Option MediaEndpoint
  | ready source | started source _ => some source
  | closed | opening => none

def PhoneMediaState.isStarted : PhoneMediaState → Bool
  | started .. => true
  | _ => false

inductive InboundProgress where
  | notApplicable | waitingForPhone | ringing | answerRequested | answered
  deriving DecidableEq

structure BridgeCall where
  device : DeviceId
  lineInstance : Nat
  account : AccountId
  sipCall : Option SipCallId
  direction : CallDirection
  state : BridgeCallState
  digits : String
  digitDeadline : Option Instant
  phoneMedia : PhoneMediaState
  remoteMedia : Option RemoteMedia
  mediaRoute : MediaRouteState
  codec : Codec
  inboundProgress : InboundProgress

structure AccountBinding where
  device : DeviceId
  lineInstance : Nat
  line : LineConfig

structure PendingIncomingCall where
  account : AccountId
  relay : AllocatedRelay

structure RegisteredStation where
  generation : SessionGeneration
  registration : DeviceRegistration
  capabilities : StationMediaCapabilities

/-! ## Media routes -/

def relayTarget (addresses : RelayAddresses) (codec : Codec) : MediaEndpoint where
  address := .v4 addresses.phoneFacingRtp.ip
  rtpPort := addresses.phoneFacingRtp.port
  rtcpPort := addresses.phoneFacingRtcp.port
  codec
  packetMs := DEFAULT_AUDIO_PACKET_MS
  maxFramesPerPacket := DEFAULT_AUDIO_MAX_FRAMES_PER_PACKET
  telephoneEventPayload := 101

def directTarget (remote : RemoteMedia) : MediaEndpoint where
  address := .v4 remote.endpoint.ip
  rtpPort := remote.endpoint.port
  rtcpPort := nextPort remote.endpoint.port
  codec := remote.codec
  packetMs := DEFAULT_AUDIO_PACKET_MS
  maxFramesPerPacket := DEFAULT_AUDIO_MAX_FRAMES_PER_PACKET
  telephoneEventPayload := 101

def relayPathAdvertisement (path : RelayPath) : SocketAddrV4 := path.addresses.sipFacingRtp

def relayAdvertisement : MediaRouteState → Option SocketAddrV4
  | .relay path | .switchingToDirect path => some (relayPathAdvertisement path)
  | .switchingToRelay relay => some relay.addresses.sipFacingRtp
  | .unallocated | .direct => none

def openReceiveSource (call : BridgeCall) (codec : Codec) : Option MediaEndpoint :=
  match call.mediaRoute with
  | .relay path | .switchingToDirect path => some (relayTarget path.addresses codec)
  | .switchingToRelay relay => some (relayTarget relay.addresses codec)
  | .direct => call.remoteMedia.map directTarget
  | .unallocated => none

def selectMediaRouteAction (direction : CallDirection) (inboundProgress : InboundProgress)
    (connected : Bool) (desired : MediaMode) (current : MediaRouteKind) : MediaRouteAction :=
  if direction = .inbound
      ∧ (inboundProgress = .waitingForPhone ∨ inboundProgress = .answerRequested)
      ∧ desired = .direct ∧ current = .relay then .setInitialDirect
  else if !connected then .none
  else
    match current, desired with
    | .relay, .direct => .reofferDirect
    | .direct, .relay => .reofferRelay
    | _, _ => .none

inductive SpeedDialCollectionAction where
  | ignore | wait | dial | transfer
  deriving DecidableEq

/-- `digits.pop()`. -/
def popDigit (digits : String) : String := String.ofList digits.toList.dropLast

/-- The action, and the call with its digits and its deadline. -/
def collectSpeedDial (call : BridgeCall) (number : String) (awaitFurtherDigits : Bool)
    (deadline : Instant) : SpeedDialCollectionAction × BridgeCall :=
  if call.state ≠ .collecting ∧ call.state ≠ .transferCollecting then (.ignore, call)
  else
    let terminated := awaitFurtherDigits && number.toList.getLast? = some '#'
    let call := { call with digits := if terminated then popDigit number else number }
    if awaitFurtherDigits && !terminated then
      (.wait, { call with digitDeadline := some deadline })
    else
      (if call.state = .transferCollecting then .transfer else .dial,
        { call with digitDeadline := none })

/-! ## Effects -/

/-- What the bridge does to the two sides, with the answers it gets. -/
inductive Effect where
  | sccp (device : DeviceId) (action : CommandAction)
  /-- The command that starts the media of a handset, and the call as it is when it is sent. -/
  | startMedia (device : DeviceId) (callId : CallId) (endpoint : MediaEndpoint)
      (call : Option BridgeCall)
  | offerIncomingCall (call : SipCallId) (device : DeviceId) (lineInstance : Nat) (info : CallInfo)
      (answer : Option CallId)
  | addAccount (config : AccountConfig) (answer : Option AccountId)
  | makeCall (callId : CallId) (account : AccountId) (destination : String)
      (advertised : SocketAddrV4) (answer : Option SipCallId)
  | sip (request : SipRequest) (ok : Bool)
  | advertised (account : AccountId) (call : SipCallId) (address : Option SocketAddrV4)
  /-- The line that the log gets when the SIP side ends a call. -/
  | logDisconnected (call : SipCallId)

/-! ## State and environment -/

structure Coordinator where
  config : AppConfig
  mediaPolicy : MediaPolicy
  registrations : Table DeviceId RegisteredStation
  accountsByLine : Table (DeviceId × Nat) AccountId
  bindingsByAccount : Table AccountId AccountBinding
  calls : Table CallId BridgeCall
  sccpBySip : Table SipCallId CallId
  pendingIncoming : Table SipCallId PendingIncomingCall
  lastDialed : Table (DeviceId × Nat) String
  /-- What was done to the two sides, in order. -/
  trace : List Effect

/-- The answers of the two sides, of the operating system and of the clock, and the order in
    which a hash map is iterated.  Each of them may depend on all that has happened. -/
structure World where
  addAccount : Coordinator → AccountConfig → Option AccountId
  makeCall : Coordinator → AccountId → String → SocketAddrV4 → Option SipCallId
  sip : Coordinator → SipRequest → Bool
  offerIncomingCall : Coordinator → DeviceId → Nat → CallInfo → Option CallId
  allocate : Coordinator → Option AllocatedRelay
  spawnRelay : Coordinator → AllocatedRelay → Bool
  now : Coordinator → Instant
  order : Coordinator → List CallId → List CallId

namespace Coordinator

def new (config : AppConfig) (mediaPolicy : MediaPolicy) : Coordinator where
  config
  mediaPolicy
  registrations := ∅
  accountsByLine := ∅
  bindingsByAccount := ∅
  calls := ∅
  sccpBySip := ∅
  pendingIncoming := ∅
  lastDialed := ∅
  trace := []

def record (b : Coordinator) (effect : Effect) : Coordinator :=
  { b with trace := b.trace ++ [effect] }

/-- Whether a command is delivered makes no difference. -/
def sendSccp (b : Coordinator) (device : DeviceId) (action : CommandAction) : Coordinator :=
  b.record (.sccp device action)

/-- `calls.get_mut`. -/
def editCall (b : Coordinator) (callId : CallId) (f : BridgeCall → BridgeCall) : Coordinator :=
  { b with calls := b.calls.modify callId f }

def prompt (b : Coordinator) (device : DeviceId) (callId : CallId) (text : String) : Coordinator :=
  b.sendSccp device (.displayPrompt callId 5 text)

def preferredCodec (b : Coordinator) (device : DeviceId) : Codec :=
  match b.registrations.get? device with
  | none => Codec.pcmu
  | some station =>
    if Codec.pcmu ∈ station.capabilities.audio then Codec.pcmu
    else if Codec.pcma ∈ station.capabilities.audio then Codec.pcma
    else Codec.pcmu

def deviceSupportsCodec (b : Coordinator) (device : DeviceId) (codec : Codec) : Bool :=
  match b.registrations.get? device with
  | none => codec = Codec.pcmu
  | some station => codec ∈ station.capabilities.audio

def phoneAddress (b : Coordinator) (device : DeviceId) : Option Ipv4Addr := do
  let registration := (← b.registrations.get? device).registration
  let reported :=
    match registration.reportedAddressForPeer with
    | some (.v4 address) => if address = 0 then none else some address
    | _ => none
  reported.or <| match registration.peer with
    | .v4 address => some address
    | .v6 address => toIpv4Mapped address

section Handlers

variable (w : World) (b : Coordinator) (callId : CallId)

/-- A request to the SIP side and its success. -/
def sipRequest (request : SipRequest) : Bool × Coordinator :=
  let ok := w.sip b request
  (ok, b.record (.sip request ok))

/-! ## The end of a call -/

def endCall (fromSip : Bool) : Coordinator :=
  match b.calls.get? callId with
  | none => b
  | some call =>
    let b := { b with calls := b.calls.erase callId }
    let b :=
      match call.sipCall with
      | none => b
      | some sipCall =>
        let b := { b with sccpBySip := b.sccpBySip.erase sipCall }
        if fromSip then b else (b.sipRequest w (.hangup sipCall)).2
    b.sendSccp call.device (.closeCall callId)

def endFromPhone : Coordinator := b.endCall w callId false

def failCall (message : String) : Coordinator :=
  let b :=
    match b.calls.get? callId with
    | none => b
    | some call =>
      (b.prompt call.device callId message).sendSccp call.device (.setCallState callId .congestion)
  b.endCall w callId false

/-! ## Registration -/

/-- The lines of a phone, from an index on. -/
def addAccounts (b : Coordinator) (device : DeviceId) (index : Nat) : List LineConfig → Coordinator
  | [] => b
  | line :: lines =>
    let lineInstance := index + 1
    let config := sipAccountConfig line
    let answer := w.addAccount b config
    let b := b.record (.addAccount config answer)
    let b :=
      match answer with
      | none => b
      | some account =>
        { b with
          accountsByLine := b.accountsByLine.insert (device, lineInstance) account
          bindingsByAccount :=
            b.bindingsByAccount.insert account { device, lineInstance, line } }
    b.addAccounts device (index + 1) lines

def endCalls (b : Coordinator) : List CallId → Coordinator
  | [] => b
  | callId :: rest => (b.endCall w callId false).endCalls rest

def removeAccounts (b : Coordinator) : List AccountId → Coordinator
  | [] => b
  | account :: rest =>
    let b := { b with bindingsByAccount := b.bindingsByAccount.erase account }
    (b.sipRequest w (.removeAccount account)).2.removeAccounts rest

def callsOf (device : DeviceId) : List CallId :=
  (b.calls.filter fun _ call => call.device = device).keys

def accountsOf (device : DeviceId) : List AccountId :=
  (b.accountsByLine.filter fun line _ => line.1 = device).values

def unregisterPhone (device : DeviceId) : Coordinator :=
  let b := { b with registrations := b.registrations.erase device }
  let b := b.endCalls w (w.order b (b.callsOf device))
  let accounts := b.accountsOf device
  let b := { b with accountsByLine := b.accountsByLine.filter fun line _ => line.1 ≠ device }
  b.removeAccounts w accounts

def registerPhone (generation : SessionGeneration)
    (registration : DeviceRegistration) : Coordinator :=
  let device := registration.id
  let current := b.registrations.get? device
  if current.any fun station => generation.val ≤ station.generation.val then b
  else
    let b := if current.isSome then b.unregisterPhone w device else b
    let b :=
      { b with
        registrations :=
          b.registrations.insert device { generation, registration, capabilities := ⟨[]⟩ } }
    match b.config.phone device with
    | none => b
    | some phone => b.addAccounts w device 0 phone.lines

/-! ## Dialing -/

def beginOutbound (device : DeviceId) (callId : CallId) (lineInstance : Nat) : Coordinator :=
  match b.accountsByLine.get? (device, lineInstance) with
  | none => b.prompt device callId "SIP line is not registered"
  | some account =>
    if b.calls.contains callId then b
    else
      let call : BridgeCall :=
        { device, lineInstance, account, sipCall := none, direction := .outbound
          state := .collecting, digits := "", digitDeadline := none, phoneMedia := .closed
          remoteMedia := none, mediaRoute := .unallocated, codec := b.preferredCodec device
          inboundProgress := .notApplicable }
      { b with calls := b.calls.insert callId call }.sendSccp device
        (.displayPrompt callId 0 "Enter number")

def dial : Coordinator :=
  match b.calls.get? callId with
  | none => b
  | some call =>
    if call.state ≠ .collecting ∨ call.digits = "" then b
    else
      let b := b.editCall callId fun call =>
        { call with state := .calling, digitDeadline := none }
      let b :=
        { b with
          lastDialed := b.lastDialed.insert (call.device, call.lineInstance) call.digits }
      match w.allocate b with
      | none => b.failCall w callId "No media ports available"
      | some relay =>
        let b := b.editCall callId fun call =>
          { call with mediaRoute := .relay (.reserved relay), phoneMedia := .opening }
        b.sendSccp call.device
          (.openReceiveChannel callId (relayTarget relay.addresses call.codec) call.codec)

def makeOutboundAfterPhoneMedia : Coordinator :=
  match b.calls.get? callId with
  | none => b
  | some call =>
    if call.direction ≠ .outbound ∨ call.sipCall.isSome ∨ call.digits = "" then b
    else
      match call.mediaRoute, b.bindingsByAccount.get? call.account with
      | .relay (.reserved relay), some binding =>
        let destination := destinationUri call.digits binding.line.registrar
        let advertised := relay.addresses.sipFacingRtp
        let answer := w.makeCall b call.account destination advertised
        let b := b.record (.makeCall callId call.account destination advertised answer)
        match answer with
        | none => b.failCall w callId "SIP call failed"
        | some sipCall =>
          let b := b.editCall callId fun call => { call with sipCall := some sipCall }
          let b := { b with sccpBySip := b.sccpBySip.insert sipCall callId }
          let info : CallInfo :=
            { direction := .outbound, callingName := binding.line.displayName
              callingNumber := binding.line.number, calledName := call.digits
              calledNumber := call.digits }
          (b.sendSccp call.device (.setCallInfo callId info)).sendSccp call.device
            (.setCallState callId .ringOut)
      | _, _ => b

def completeBlindTransfer : Coordinator :=
  match b.calls.get? callId with
  | none => b
  | some call =>
    if call.digits = "" then b
    else
      match b.bindingsByAccount.get? call.account, call.sipCall with
      | some binding, some sipCall =>
        let destination := destinationUri call.digits binding.line.registrar
        let (ok, b) := b.sipRequest w (.blindTransfer sipCall destination)
        b.prompt call.device callId (if ok then "Transfer sent" else "Transfer failed")
      | _, _ => b

/-- What digits that are complete are for. -/
def commitDigits : Coordinator :=
  if (b.calls.get? callId).any fun call => call.state = .transferCollecting then
    b.completeBlindTransfer w callId
  else b.dial w callId

def phoneDigit (digit : Digit) : Coordinator :=
  let character := digit.asChar
  match b.calls.get? callId with
  | none => b
  | some call =>
    match call.state with
    | .collecting | .transferCollecting =>
      if character = '#' then
        (b.editCall callId fun call => { call with digitDeadline := none }).commitDigits w callId
      else
        b.editCall callId fun call =>
          { call with
            digits := call.digits.push character
            digitDeadline := some (w.now b + b.config.interdigitTimeoutMs) }
    | .connected =>
      match call.sipCall with
      | none => b
      | some sipCall => (b.sipRequest w (.sendDtmf sipCall character.toString)).2
    | _ => b

def phoneSpeedDial (device : DeviceId) (callId : CallId) (lineInstance : Nat)
    (number : String) (awaitFurtherDigits : Bool) : Coordinator :=
  let b := if b.calls.contains callId then b else b.beginOutbound device callId lineInstance
  let deadline := w.now b + b.config.interdigitTimeoutMs
  match b.calls.get? callId with
  | none => b
  | some call =>
    let action := (collectSpeedDial call number awaitFurtherDigits deadline).1
    let b := b.editCall callId fun call =>
      (collectSpeedDial call number awaitFurtherDigits deadline).2
    match action with
    | .dial => b.dial w callId
    | .transfer => b.completeBlindTransfer w callId
    | .ignore | .wait => b

def expireDigits (b : Coordinator) : List CallId → Coordinator
  | [] => b
  | callId :: rest =>
    ((b.editCall callId fun call => { call with digitDeadline := none }).commitDigits w
      callId).expireDigits rest

def handleDigitDeadlines : Coordinator :=
  let now := w.now b
  let expired := (b.calls.filter fun _ call => call.digitDeadline.any (· ≤ now)).keys
  b.expireDigits w (w.order b expired)

/-! ## Media -/

/-- The end of `activate_media`, when a route can be used. -/
def startMedia (callId : CallId) (device : DeviceId) (phone : MediaEndpoint)
    (route : MediaRouteState) (target : MediaEndpoint) : Coordinator :=
  let b := b.editCall callId fun call =>
    { call with mediaRoute := route, phoneMedia := .started phone target }
  b.record (.startMedia device callId target (b.calls.get? callId))

def activateMedia : Coordinator :=
  match b.calls.get? callId with
  | none => b
  | some call =>
    if call.phoneMedia.isStarted then b
    else
      match call.phoneMedia.source, call.remoteMedia with
      | some phone, some remote =>
        match call.mediaRoute with
        | .direct => b.startMedia callId call.device phone .direct (directTarget remote)
        | .relay (.reserved relay) =>
          match relay.start (w.spawnRelay b relay) phone.address phone.rtpPort remote.endpoint with
          | none =>
            -- The relay is gone with the attempt to start it.
            (b.editCall callId fun call =>
              { call with mediaRoute := .unallocated }).failCall w callId
              "Unable to start audio relay"
          | some running =>
            b.startMedia callId call.device phone (.relay (.running running))
              (relayTarget relay.addresses remote.codec)
        | .relay (.running running) =>
          match phone.address with
          | .v6 _ => b
          | .v4 address =>
            b.startMedia callId call.device phone (.relay (.running
                (running.updateEndpoints ⟨address, phone.rtpPort⟩ remote.endpoint)))
              (relayTarget running.addresses remote.codec)
        | .unallocated | .switchingToDirect _ | .switchingToRelay _ => b
      | _, _ => b

def restartPhoneMedia : Coordinator :=
  let b :=
    match b.calls.get? callId with
    | none => b
    | some call =>
      match call.phoneMedia with
      | .started source _ =>
        (b.editCall callId fun call => { call with phoneMedia := .ready source }).sendSccp
          call.device (.stopMedia callId)
      | _ => b
  b.activateMedia w callId

def refreshRunningMedia : Coordinator :=
  match b.calls.get? callId with
  | none => b
  | some call =>
    match call.phoneMedia.source, call.remoteMedia with
    | some phone, some remote =>
      match call.mediaRoute with
      | .direct =>
        match call.phoneMedia with
        | .started _ target =>
          if target ≠ directTarget remote then b.restartPhoneMedia w callId else b
        | _ => b
      | .relay (.running relay) =>
        match phone.address with
        | .v6 _ => b
        | .v4 address =>
          b.editCall callId fun call =>
            { call with
              mediaRoute := .relay (.running
                (relay.updateEndpoints ⟨address, phone.rtpPort⟩ remote.endpoint)) }
      | _ => b
    | _, _ => b

def reconcileMediaRoute : Coordinator :=
  match b.calls.get? callId with
  | none => b
  | some call =>
    match call.phoneMedia.source, call.remoteMedia, call.sipCall with
    | some phone, some remote, some sipCall =>
      match phone.address with
      | .v6 _ => b
      | .v4 phoneAddress =>
        let desired :=
          b.mediaPolicy.select phoneAddress remote.endpoint.ip (remote.codec = call.codec)
        let action :=
          selectMediaRouteAction call.direction call.inboundProgress
            (call.state = .connected) desired call.mediaRoute.kind
        let advertisedPhone : SocketAddrV4 := ⟨phoneAddress, phone.rtpPort⟩
        match action with
        | .setInitialDirect =>
          let (ok, b) := b.sipRequest w (.setMediaAdvertisement sipCall advertisedPhone)
          if ok then b.editCall callId fun call => { call with mediaRoute := .direct }
          else b
        | .reofferDirect =>
          match call.mediaRoute with
          | .relay path =>
            let b := b.editCall callId fun call =>
              { call with mediaRoute := .switchingToDirect path }
            let (ok, b) := b.sipRequest w (.reofferMedia sipCall advertisedPhone)
            if ok then b
            else b.editCall callId fun call => { call with mediaRoute := .relay path }
          | _ => b
        | .reofferRelay =>
          match w.allocate b with
          | none => b.failCall w callId "Unable to reserve a safe media route"
          | some relay =>
            let b := b.editCall callId fun call =>
              { call with mediaRoute := .switchingToRelay relay }
            let (ok, b) :=
              b.sipRequest w (.reofferMedia sipCall relay.addresses.sipFacingRtp)
            if ok then b
            else b.failCall w callId "Unable to establish a safe media route"
        | .none => b
    | _, _, _ => b

/-! ## Answering -/

def answerIncoming : Coordinator :=
  match b.calls.get? callId with
  | none => b
  | some call =>
    if call.direction ≠ .inbound ∨ call.phoneMedia.source.isNone
        ∨ call.inboundProgress ≠ .answerRequested then b
    else
      match call.sipCall with
      | none => b
      | some sipCall =>
        let b := b.editCall callId fun call => { call with inboundProgress := .answered }
        let (ok, b) := b.sipRequest w (.answer sipCall)
        if ok then
          (b.sendSccp call.device (.stopRinging callId)).activateMedia w callId
        else b.failCall w callId "Unable to answer"

/-- The answer key, or the handset lifted while the call rings. -/
def requestAnswer : Coordinator :=
  (b.editCall callId fun call => { call with inboundProgress := .answerRequested }).answerIncoming
    w callId

def phoneOffHook (device : DeviceId) (callId : CallId) (lineInstance : Nat) : Coordinator :=
  if (b.calls.get? callId).any fun call => call.direction = .inbound && call.state = .ringing then
    b.requestAnswer w callId
  else b.beginOutbound device callId lineInstance

def incomingCall (account : AccountId) (sipCall : SipCallId)
    (remoteUri : String) (remoteMedia : Option RemoteMedia) : Coordinator :=
  let pending := b.pendingIncoming.get? sipCall
  let b := { b with pendingIncoming := b.pendingIncoming.erase sipCall }
  match b.bindingsByAccount.get? account with
  | none => (b.sipRequest w (.reject sipCall 404)).2
  | some binding =>
    let codec := remoteMedia.elim (b.preferredCodec binding.device) (·.codec)
    if !b.deviceSupportsCodec binding.device codec then
      (b.sipRequest w (.reject sipCall 488)).2
    else
      let relay : Except Nat AllocatedRelay :=
        match pending with
        | some pending => if pending.account = account then .ok pending.relay else .error 500
        | none =>
          match w.allocate b with
          | some relay => .ok relay
          | none => .error 503
      match relay with
      | .error status => (b.sipRequest w (.reject sipCall status)).2
      | .ok relay =>
        let (ok, b) :=
          b.sipRequest w (.setMediaAdvertisement sipCall relay.addresses.sipFacingRtp)
        if !ok then (b.sipRequest w (.reject sipCall 500)).2
        else
          let (callerName, callerNumber) := parseParty remoteUri
          let info : CallInfo :=
            { direction := .inbound, callingName := callerName, callingNumber := callerNumber
              calledName := binding.line.displayName, calledNumber := binding.line.number }
          let answer := w.offerIncomingCall b binding.device binding.lineInstance info
          let b := b.record
            (.offerIncomingCall sipCall binding.device binding.lineInstance info answer)
          match answer with
          | none => (b.sipRequest w (.reject sipCall 480)).2
          | some callId =>
            let waiting := b.calls.any fun _ call =>
              call.device = binding.device && (call.state = .connected || call.state = .held)
            let call : BridgeCall :=
              { device := binding.device, lineInstance := binding.lineInstance, account
                sipCall := some sipCall, direction := .inbound, state := .ringing
                digits := "", digitDeadline := none, phoneMedia := .opening, remoteMedia
                mediaRoute := .relay (.reserved relay), codec
                inboundProgress := .waitingForPhone }
            let b :=
              { b with
                calls := b.calls.insert callId call
                sccpBySip := b.sccpBySip.insert sipCall callId }
            let b := b.sendSccp binding.device
              (.openReceiveChannel callId (relayTarget relay.addresses codec) codec)
            if waiting then
              (b.sendSccp binding.device (.setCallState callId .callWaiting)).sendSccp
                binding.device (.stopRinging callId)
            else b

/-- The address for the SDP of a call, if the call of the bridge has one. -/
def callAdvertisement (call : BridgeCall) : Option (Option SocketAddrV4) :=
  match call.mediaRoute with
  | .direct | .switchingToRelay _ =>
    some (call.phoneMedia.source.bind fun media =>
      match media.address with
      | .v4 address => some ⟨address, media.rtpPort⟩
      | .v6 _ => none)
  | route => (relayAdvertisement route).map some

def mediaAdvertisement (account : AccountId) (sipCall : SipCallId) :
    Option SocketAddrV4 × Coordinator :=
  match (b.sccpBySip.get? sipCall).bind b.calls.get? |>.bind callAdvertisement with
  | some address => (address, b)
  | none =>
    match b.pendingIncoming.get? sipCall with
    | some pending =>
      (if pending.account = account then some pending.relay.addresses.sipFacingRtp else none, b)
    | none =>
      if !b.bindingsByAccount.contains account then (none, b)
      else
        match w.allocate b with
        | none => (none, b)
        | some relay =>
          (some relay.addresses.sipFacingRtp,
            { b with
              pendingIncoming := b.pendingIncoming.insert sipCall { account, relay } })

/-- The second half of `phone_media_ready` for a call that came in. -/
def ringOrAnswer : Coordinator :=
  match b.calls.get? callId with
  | none => b
  | some call =>
    let shouldRing :=
      call.inboundProgress = .waitingForPhone || call.inboundProgress = .answerRequested
    let answerRequested := call.inboundProgress = .answerRequested
    let b :=
      if call.inboundProgress = .waitingForPhone then
        b.editCall callId fun call => { call with inboundProgress := .ringing }
      else b
    let b :=
      match call.sipCall with
      | some sipCall => if shouldRing then (b.sipRequest w (.reject sipCall 180)).2 else b
      | none => b
    if answerRequested then b.answerIncoming w callId else b

def phoneMediaReady (endpoint : MediaEndpoint) : Coordinator :=
  match b.calls.get? callId with
  | none => b
  | some call =>
    let address : Option IpAddr :=
      if endpoint.address.isUnspecified then (b.phoneAddress call.device).map IpAddr.v4
      else some endpoint.address
    match address with
    | none => b.failCall w callId "Phone has no usable media address"
    | some address =>
      let b := b.editCall callId fun call =>
        { call with phoneMedia := .ready { endpoint with address } }
      let b :=
        if call.direction = .outbound then b.makeOutboundAfterPhoneMedia w callId
        else (b.reconcileMediaRoute w callId).ringOrAnswer w callId
      b.activateMedia w callId

/-! ## Events of the SIP side -/

def sipCallState (sipCall : SipCallId) (state : DialogState) : Coordinator :=
  match b.sccpBySip.get? sipCall with
  | none =>
    if state = .disconnected then
      { b with pendingIncoming := b.pendingIncoming.erase sipCall }
    else b
  | some callId =>
    match b.calls.get? callId with
    | none => b
    | some call =>
      match state with
      | .early | .connecting => b.sendSccp call.device (.setCallState callId .proceed)
      | .confirmed =>
        let b := b.editCall callId fun call => { call with state := .connected }
        let b := b.sendSccp call.device (.stopRinging callId)
        let b := b.sendSccp call.device (.setCallState callId .connected)
        (b.reconcileMediaRoute w callId).activateMedia w callId
      | .disconnected => (b.record (.logDisconnected sipCall)).endCall w callId true
      | .calling | .incoming | .unknown => b

/-- What `sip_media_state` does with its state at the end. -/
def applySipMediaState : SipMediaState → Coordinator
  | .active | .remoteHold => b.activateMedia w callId
  | .error => b.failCall w callId "SIP media failed"
  | .none | .localHold => b

def sipMediaState (sipCall : SipCallId) (state : SipMediaState)
    (remote : Option RemoteMedia) : Coordinator :=
  match b.sccpBySip.get? sipCall with
  | none => b
  | some callId =>
    match remote with
    | none => b.applySipMediaState w callId state
    | some remote =>
      match b.calls.get? callId with
      | none => b.failCall w callId "No compatible audio codec"
      | some call =>
        if !b.deviceSupportsCodec call.device remote.codec then
          b.failCall w callId "No compatible audio codec"
        else if call.codec ≠ remote.codec then
          -- The channel is opened again with the codec that the SIP side has chosen.
          let call :=
            { call with
              remoteMedia := some remote, codec := remote.codec, phoneMedia := .opening }
          let b := b.editCall callId fun _ => call
          match openReceiveSource call remote.codec with
          | none => b.failCall w callId "No receive-media source"
          | some source =>
            (b.sendSccp call.device (.closeReceiveChannel callId)).sendSccp call.device
              (.openReceiveChannel callId source remote.codec)
        else
          let endpointChanged :=
            call.remoteMedia.any fun previous => previous.endpoint ≠ remote.endpoint
          let b := b.editCall callId fun call => { call with remoteMedia := some remote }
          let b := b.reconcileMediaRoute w callId
          let b := if endpointChanged then b.refreshRunningMedia w callId else b
          b.applySipMediaState w callId state

def mediaReofferCompleted (sipCall : SipCallId) (accepted : Bool) : Coordinator :=
  match b.sccpBySip.get? sipCall with
  | none => b
  | some callId =>
    match b.calls.get? callId with
    | none => b
    | some call =>
      match call.mediaRoute with
      | .switchingToDirect path =>
        if accepted then
          (b.editCall callId fun call => { call with mediaRoute := .direct }).restartPhoneMedia
            w callId
        else
          let b := b.editCall callId fun call => { call with mediaRoute := .relay path }
          let (_, b) := b.sipRequest w
            (.setMediaAdvertisement sipCall (relayPathAdvertisement path))
          b.activateMedia w callId
      | .switchingToRelay relay =>
        if accepted then
          (b.editCall callId fun call =>
            { call with mediaRoute := .relay (.reserved relay) }).restartPhoneMedia w callId
        else
          (b.editCall callId fun call => { call with mediaRoute := .direct }).failCall w callId
            "SIP peer rejected the safe media route"
      | .unallocated | .relay _ | .direct => b

/-! ## Keys -/

def hold (callId : CallId) : Coordinator :=
  match b.calls.get? callId with
  | none => b
  | some call =>
    match call.sipCall with
    | none => b
    | some sipCall =>
      let (ok, b) := b.sipRequest w (.hold sipCall)
      if !ok then b
      else
        let b := b.editCall callId fun call =>
          { call with
            state := .held
            phoneMedia :=
              match call.phoneMedia with
              | .started source _ => .ready source
              | other => other }
        (b.sendSccp call.device (.stopMedia callId)).sendSccp call.device
          (.setCallState callId .hold)

def resume (callId : CallId) : Coordinator :=
  match b.calls.get? callId with
  | none => b
  | some call =>
    match call.sipCall with
    | none => b
    | some sipCall =>
      let (ok, b) := b.sipRequest w (.resume sipCall)
      if !ok then b
      else
        let b := b.editCall callId fun call => { call with state := .connected }
        (b.sendSccp call.device (.setCallState callId .connected)).activateMedia w callId

/-- The SIP call of another connected call of the device, whichever comes first. -/
def otherConnected (device : DeviceId) : Option SipCallId :=
  (w.order b b.calls.keys).findSome? fun id =>
    (b.calls.get? id).bind fun candidate =>
      if id ≠ callId ∧ candidate.device = device ∧ candidate.state = .connected then
        candidate.sipCall
      else none

def transfer (callId : CallId) : Coordinator :=
  match b.calls.get? callId with
  | none => b
  | some call =>
    match call.sipCall, b.otherConnected w callId call.device with
    | some active, some other => (b.sipRequest w (.attendedTransfer active other)).2
    | _, _ =>
      let b := b.hold w callId
      let b := b.editCall callId fun call =>
        { call with state := .transferCollecting, digits := "", digitDeadline := none }
      (b.prompt call.device callId "Transfer to").sendSccp call.device
        (.setCallState callId .transfer)

def conference : Coordinator :=
  match b.config.conferenceFeatureCode, (b.calls.get? callId).bind (·.sipCall) with
  | some code, some sipCall => (b.sipRequest w (.sendDtmf sipCall code)).2
  | _, _ => b

def redial : Coordinator :=
  match b.calls.get? callId with
  | none => b
  | some call =>
    match b.lastDialed.get? (call.device, call.lineInstance) with
    | none => b
    | some number =>
      (b.editCall callId fun call => { call with digits := number }).dial w callId

def softKey : SoftKey → Coordinator
  | .dial => b.commitDigits w callId
  | .backspace => b.editCall callId fun call => { call with digits := popDigit call.digits }
  | .endCall => b.endFromPhone w callId
  | .answer => b.requestAnswer w callId
  | .hold => b.hold w callId
  | .resume => b.resume w callId
  | .transfer => b.transfer w callId
  | .conference => b.conference w callId
  | .redial => b.redial w callId
  | .other => b

/-! ## Events -/

def handleDevice (deviceId : DeviceId) (generation : SessionGeneration) :
    DeviceEvent → Coordinator
  | .registered registration => b.registerPhone w generation registration
  | .disconnected => b.unregisterPhone w deviceId
  | .capabilities capabilities =>
    { b with
      registrations := b.registrations.modify deviceId fun station =>
        { station with capabilities } }
  | .offHook callId lineInstance => b.phoneOffHook w deviceId callId lineInstance
  | .onHook callId => b.endFromPhone w callId
  | .digit callId digit => b.phoneDigit w callId digit
  | .enblocCall callId lineInstance number =>
    let b := if b.calls.contains callId then b else b.beginOutbound deviceId callId lineInstance
    (b.editCall callId fun call =>
      { call with digits := number, digitDeadline := none }).dial w callId
  | .speedDial callId lineInstance number awaitFurtherDigits =>
    b.phoneSpeedDial w deviceId callId lineInstance number awaitFurtherDigits
  | .softKey callId softKey =>
    match callId with
    | none => b
    | some callId => b.softKey w callId softKey
  | .receiveChannelOpened callId ok endpoint =>
    if ok then b.phoneMediaReady w callId endpoint
    else b.failCall w callId "Phone rejected media channel"
  | .transmitChannelOpen callId rejected =>
    if rejected then b.failCall w callId "Phone rejected media transmission" else b
  | .mediaTransmissionFailed callId =>
    b.failCall w callId "Phone reported media transmission failure"
  | .other => b

/-- An event of a session that has been replaced is dropped, unless it registers. -/
def handleSccp : SccpEvent → Coordinator
  | .sessionError | .protocolWarning => b
  | .device deviceId generation event =>
    match event with
    | .registered registration => b.handleDevice w deviceId generation (.registered registration)
    | event =>
      if (b.registrations.get? deviceId).map (·.generation) = some generation then
        b.handleDevice w deviceId generation event
      else b

def handleSip : SipEvent → Coordinator
  | .registration .. => b
  | .incomingCall account call remoteUri remoteMedia =>
    b.incomingCall w account call remoteUri remoteMedia
  | .callState call state => b.sipCallState w call state
  | .mediaState call state remote => b.sipMediaState w call state remote
  | .mediaReofferCompleted call accepted => b.mediaReofferCompleted w call accepted
  | .messageWaiting account waiting =>
    match b.bindingsByAccount.get? account with
    | none => b
    | some binding => b.sendSccp binding.device (.setMwi binding.lineInstance waiting)
  | .mediaAdvertisementRequired account call =>
    let (address, b) := b.mediaAdvertisement w account call
    b.record (.advertised account call address)

/-- What the loop of `run` takes up. -/
inductive Event where
  | sccp (event : SccpEvent)
  | sip (event : SipEvent)
  | deadlines

def handle : Event → Coordinator
  | .sccp event => b.handleSccp w event
  | .sip event => b.handleSip w event
  | .deadlines => b.handleDigitDeadlines w

end Handlers

end Coordinator

end Sccp.Gateway
