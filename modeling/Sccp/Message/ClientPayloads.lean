/-
  Sccp.Message.ClientPayloads

  Payloads of station and service-node messages whose layout is selected by length or
  version, or whose fields are checked (`message/codec.rs`, `codec/media.rs`,
  `codec/conference.rs`).
-/

import Sccp.Message.Services

namespace Sccp.Message

open Sccp

/-! ## Registration -/

def REGISTER_ALTERNATE_BYTES : Nat := 32
def REGISTER_CANONICAL_BYTES : Nat := 124
def REGISTER_MAXIMUM_BYTES : Nat := 172

def validRegistrationCanonicalPrefix (bytes : Nat) : Bool :=
  [36, 40, 44, 48, 52, 64, 68, 72, 88, 92, 124].contains bytes

def registrationLayout (messageId : UInt32) (payloadBytes : Nat) : Checked RegistrationWireLayout :=
  if payloadBytes < REGISTER_ALTERNATE_BYTES then
    reject (.truncated messageId REGISTER_ALTERNATE_BYTES payloadBytes)
  else if REGISTER_MAXIMUM_BYTES < payloadBytes then
    reject (.trailingBytes messageId (payloadBytes - REGISTER_MAXIMUM_BYTES))
  else if payloadBytes = REGISTER_ALTERNATE_BYTES then .ok .alternate32
  else
    let prefixBytes := min payloadBytes REGISTER_CANONICAL_BYTES
    if ¬ validRegistrationCanonicalPrefix prefixBytes then
      reject (.invalidValue messageId "registration payload length" payloadBytes)
    else if prefixBytes < 2 ^ 8 then .ok (.canonical (UInt8.ofNat prefixBytes))
    else .error .panic

def registrationPrefixBytes : RegistrationWireLayout → Checked Nat
  | .alternate32 => .ok REGISTER_ALTERNATE_BYTES
  | .canonical prefixBytes =>
    if validRegistrationCanonicalPrefix prefixBytes.toNat then .ok prefixBytes.toNat
    else reject (.invalidValue MessageId.register.wireValue
      "canonical registration prefix length" prefixBytes.toNat)

/-- The first fields are checked in their order on the wire. -/
def incompatibleField (registration : RegistrationMessage) (wire : RegistrationWireDetails)
    (prefixBytes : Nat) : Option String :=
  let alternate : Bool := wire.layout = .alternate32
  let omits (fieldEnd : Nat) : Bool := alternate || prefixBytes < fieldEnd
  ([(alternate && registration.reportedAddress.isSome, "reported IPv4 address"),
    (alternate && registration.features ≠ 0, "features"),
    (omits 36 && wire.maxStreams ≠ 0, "maximum streams"),
    (omits 40 && wire.activeStreams ≠ 0, "active streams"),
    (omits 48 && wire.maxConferences ≠ 0, "maximum conferences"),
    (omits 52 && wire.activeConferences ≠ 0, "active conferences"),
    (omits 64 && wire.macAddressAndPadding.val.any (· ≠ 0), "MAC address and padding"),
    (omits 68 && wire.ipv4AddressScope ≠ 0, "IPv4 address scope"),
    (omits 72 && wire.maxLines ≠ 0, "maximum lines"),
    (omits 88 && registration.reportedIpv6Address.isSome, "reported IPv6 address"),
    (omits 92 && wire.ipv6AddressScope ≠ 0, "IPv6 address scope"),
    (omits 124 && registration.firmware ≠ "", "firmware"),
    (omits 124 && ¬ registration.configurationVersionStamp.bytes.isEmpty,
      "configuration version stamp")].find? Prod.fst).map Prod.snd

def validateRegistrationFields (registration : RegistrationMessage)
    (wire : RegistrationWireDetails) (prefixBytes : Nat) : Checked Unit :=
  let messageId := MessageId.register.wireValue
  let alternate : Bool := wire.layout = .alternate32
  match incompatibleField registration wire prefixBytes with
  | some field => reject (.invalidValue messageId field prefixBytes)
  | none =>
    if ¬ alternate ∧ prefixBytes < 44 ∧
        (registration.advertisedProtocol.isSome ∨ registration.features ≠ 0) then
      reject (.invalidValue messageId
        "protocol fields require a 44-byte registration prefix" prefixBytes)
    else if ¬ alternate ∧ 52 ≤ prefixBytes ∧ registration.advertisedProtocol = none then
      reject (.invalidValue messageId
        "registration protocol is absent from a layout that carries it" prefixBytes)
    else .ok ()

/-- The bits above the protocol number. -/
def featureMask : UInt32 := 0xffffff00

/-- The protocol number in the first byte of a word. -/
def nonZeroProtocol (byte : UInt8) : Option UInt32 :=
  if byte.toUInt32 ≠ 0 then some byte.toUInt32 else none

variable (p : List UInt8)

def decodeRegister (messageId : UInt32) : Checked RegistrationMessage := do
  let layout ← registrationLayout messageId p.length
  let prefixBytes ← registrationPrefixBytes layout
  let head ← slice p 0 prefixBytes
  let canonical := head ++ List.replicate (← usizeSub REGISTER_CANONICAL_BYTES prefixBytes) 0
  let value ← decode WireRegister.layout messageId canonical
  let alternate : Bool := layout = .alternate32
  if alternate ∧ (value.reportedAddress.val.drop 1).any (· ≠ 0) then
    reject (.nonZeroPadding messageId "alternate registration protocol")
  else
    let version := value.protocolFeatures.val.headD 0
    let deviceId ← DeviceId.new (← value.deviceId.text)
    let firmware ← (if ¬ alternate ∧ REGISTER_CANONICAL_BYTES ≤ prefixBytes then value.firmware.text
       else .ok "" : Checked String)
    let suffix ← sliceFrom p (min REGISTER_CANONICAL_BYTES p.length)
    let configurationVersionStamp ← BoundedBytes.new 48 suffix fun _ _ => .panic
    return {
      deviceId
      reportedAddress :=
        if alternate ∨ value.reportedAddress.val.all (· = 0) then none
        else some value.reportedAddress
      reportedIpv6Address :=
        if ¬ alternate ∧ 88 ≤ prefixBytes ∧ value.ipv6Address.val.any (· ≠ 0) then
          some value.ipv6Address
        else none
      deviceType := .ofWire value.deviceType
      advertisedProtocol :=
        if alternate then nonZeroProtocol (value.reportedAddress.val.headD 0)
        else if 44 ≤ prefixBytes then
          if version ≠ 0 ∨ ¬ (prefixBytes = 44 ∨ prefixBytes = 48) then some version.toUInt32
          else none
        else none
      features :=
        if ¬ alternate ∧ 44 ≤ prefixBytes then
          Layout.u32.read value.protocolFeatures.val &&& featureMask
        else 0
      firmware
      configurationVersionStamp
      wire := some {
        layout, stationUserId := value.stationUserId,
        stationInstance := value.stationInstance, maxStreams := value.maxStreams,
        activeStreams := value.activeStreams, macAddressAndPadding := value.macAddress,
        maxConferences := value.maxConferences, activeConferences := value.activeConferences,
        ipv4AddressScope := value.ipv4AddressScope, maxLines := value.maxLines,
        ipv6AddressScope := value.ipv6AddressScope } }

/-- A protocol number as a byte, at most 255. -/
def protocolByte (advertised : Option UInt32) : UInt8 :=
  UInt8.ofNat (min (advertised.getD 0).toNat 255)

theorem length_zeros (n : Nat) : (List.replicate n (0 : UInt8)).length = n := List.length_replicate

def zeroBlock (n : Nat) : Block n := ⟨List.replicate n 0, length_zeros n⟩

/-- A byte before the last three bytes of a word. -/
def withFirstByte (first : UInt8) (word : UInt32) : Block 4 :=
  ⟨first :: (leBytes 4 word.toNat).drop 1, by
    rw [List.length_cons, List.length_drop, length_leBytes]⟩

def defaultRegistrationDetails : RegistrationWireDetails where
  layout := .canonical (UInt8.ofNat REGISTER_CANONICAL_BYTES)
  stationUserId := 0
  stationInstance := 1
  maxStreams := 0
  activeStreams := 0
  macAddressAndPadding := zeroBlock 12
  maxConferences := 0
  activeConferences := 0
  ipv4AddressScope := 0
  maxLines := 0
  ipv6AddressScope := 0

def encodeRegister (registration : RegistrationMessage) : Checked (List UInt8) := do
  let messageId := MessageId.register.wireValue
  let wire := registration.wire.getD defaultRegistrationDetails
  let prefixBytes ← registrationPrefixBytes wire.layout
  validateRegistrationFields registration wire prefixBytes
  let alternate : Bool := wire.layout = .alternate32
  let deviceId ← WireFixedText.new 16 messageId "device ID" registration.deviceId.text
  let protocol := protocolByte registration.advertisedProtocol
  let firmware ← WireFixedText.new 32 messageId "firmware" registration.firmware
  let value : WireRegister :=
    { deviceId, stationUserId := wire.stationUserId, stationInstance := wire.stationInstance
      reportedAddress :=
        if alternate then withFirstByte protocol 0
        else registration.reportedAddress.getD (zeroBlock 4)
      deviceType := registration.deviceType.wireValue, maxStreams := wire.maxStreams
      activeStreams := wire.activeStreams
      protocolFeatures :=
        if alternate then zeroBlock 4 else withFirstByte protocol registration.features
      maxConferences := wire.maxConferences, activeConferences := wire.activeConferences
      macAddress := wire.macAddressAndPadding, ipv4AddressScope := wire.ipv4AddressScope
      maxLines := wire.maxLines
      ipv6Address := registration.reportedIpv6Address.getD (zeroBlock 16)
      ipv6AddressScope := wire.ipv6AddressScope, firmware }
  let payload := (WireRegister.layout.write value).take prefixBytes
  return if alternate then payload
    else payload ++ registration.configurationVersionStamp.bytes

/-! ## Enbloc calls -/

def MAX_STATION_BUTTON_INSTANCE : Nat := 255

inductive EnblocWireLayout where
  | withoutLine
  | line24
  | line25Packed
  | line25Aligned
  | line25Candidates
  deriving DecidableEq

namespace EnblocWireLayout

def select (protocol payloadBytes : Nat) (messageId : UInt32) : Checked EnblocWireLayout :=
  if protocol ≤ 16 ∧ payloadBytes = 24 then .ok withoutLine
  else if protocol ≤ 18 ∧ payloadBytes = 28 then .ok line24
  else if 19 ≤ protocol ∧ 29 ≤ payloadBytes ∧ payloadBytes ≤ 31 then .ok line25Packed
  else if 19 ≤ protocol ∧ payloadBytes = 32 then .ok line25Candidates
  else reject (.invalidLength messageId)

def canonical (protocol : Nat) : EnblocWireLayout :=
  if protocol ≤ 16 then withoutLine
  else if protocol ≤ 18 then line24
  else line25Aligned

end EnblocWireLayout

def validateEnblocLineInstance (lineInstance messageId : UInt32) : Checked Unit :=
  if lineInstance.toNat ≤ MAX_STATION_BUTTON_INSTANCE then .ok ()
  else reject (.invalidValue messageId "line instance" lineInstance.toNat)

/-- The called party and the line of an enbloc call. -/
abbrev EnblocFields := String × UInt32

def enblocFromWire (t a : Nat) (payload : List UInt8) (messageId : UInt32) :
    Checked EnblocFields := do
  let value ← decode (WireEnblocWithLine.layout t a) messageId payload
  value.calledParty.validate messageId
  validateEnblocLineInstance value.lineInstance messageId
  return (← value.calledParty.text, value.lineInstance)

variable (payload : List UInt8)

def enblocFromPackedWire (messageId : UInt32) : Checked EnblocFields := do
  let value ← decodePrefix (WireEnblocWithLine.layout 25 0) messageId payload
  value.calledParty.validate messageId
  validateZeroPayload (← sliceFrom payload 29) messageId (← usizeSub payload.length 29)
  validateEnblocLineInstance value.lineInstance messageId
  return (← value.calledParty.text, value.lineInstance)

/-- Both readings are computed before one is kept. -/
def selectEnblocCandidate (packed aligned : Checked EnblocFields) (payloadBytes : Nat)
    (messageId : UInt32) : Checked EnblocFields :=
  match packed, aligned with
  | .error .panic, _ => .error .panic
  | _, .error .panic => .error .panic
  | .ok packed, .ok aligned =>
    if packed = aligned then .ok packed
    else reject (.invalidValue messageId "conflicting Enbloc layout" payloadBytes)
  | .ok message, .error _ => .ok message
  | .error _, .ok message => .ok message
  | .error error, .error _ => .error error

def decodeEnbloc (protocol : Nat) (messageId : UInt32) :
    Checked EnblocFields := do
  match ← EnblocWireLayout.select protocol payload.length messageId with
  | .withoutLine =>
    let value ← decode WireEnblocWithoutLine.layout messageId payload
    return (← value.calledParty.text, 0)
  | .line24 => enblocFromWire 24 0 payload messageId
  | .line25Packed => enblocFromPackedWire payload messageId
  | .line25Aligned => enblocFromWire 25 3 payload messageId
  | .line25Candidates =>
    selectEnblocCandidate (enblocFromPackedWire payload messageId)
      (enblocFromWire 25 3 payload messageId) payload.length messageId

def enblocToWire (t a : Nat) (calledParty : String) (lineInstance : UInt32) :
    Checked (List UInt8) := do
  let messageId := MessageId.enblocCall.wireValue
  validateEnblocLineInstance lineInstance messageId
  let calledParty ← WireAlignedText.new t a messageId "called party" calledParty
  return (WireEnblocWithLine.layout t a).write ⟨calledParty, lineInstance⟩

def encodeEnbloc (calledParty : String) (lineInstance : UInt32) (protocol : Nat) :
    Checked (List UInt8) :=
  let messageId := MessageId.enblocCall.wireValue
  match EnblocWireLayout.canonical protocol with
  | .withoutLine =>
    if lineInstance = 0 then do
      let calledParty ← WireFixedText.new 24 messageId "called party" calledParty
      return WireEnblocWithoutLine.layout.write ⟨calledParty⟩
    else
      reject (.invalidValue messageId "line instance is unavailable before protocol 17"
        lineInstance.toNat)
  | .line24 => enblocToWire 24 0 calledParty lineInstance
  | .line25Packed => enblocToWire 25 0 calledParty lineInstance
  | .line25Aligned => enblocToWire 25 3 calledParty lineInstance
  | .line25Candidates => .error .panic

/-! ## Capability responses and port lists -/

def CAPABILITIES_RESPONSE_STANDARD_ENTRIES : Nat := 18
def CAPABILITIES_RESPONSE_EXTENDED_ENTRIES : Nat := 24
def CAPABILITIES_RESPONSE_MAX_ENTRIES : Nat := CAPABILITIES_RESPONSE_EXTENDED_ENTRIES

/-- Number of bytes of a response with room for the entries. -/
def capabilitiesPayloadBytes (entries : Nat) : Nat := 4 + entries * 16

/-- The capacity of the table, unless the payload has just the counted entries. -/
def capabilitiesReservoir (payloadBytes countedBytes : Nat) (messageId : UInt32) :
    Checked (Option Nat) :=
  if payloadBytes = countedBytes then .ok none
  else if payloadBytes = capabilitiesPayloadBytes CAPABILITIES_RESPONSE_STANDARD_ENTRIES then
    .ok (some CAPABILITIES_RESPONSE_STANDARD_ENTRIES)
  else if payloadBytes = capabilitiesPayloadBytes CAPABILITIES_RESPONSE_EXTENDED_ENTRIES then
    .ok (some CAPABILITIES_RESPONSE_EXTENDED_ENTRIES)
  else if payloadBytes < countedBytes then
    reject (.truncated messageId countedBytes payloadBytes)
  else do reject (.trailingBytes messageId (← usizeSub payloadBytes countedBytes))

/-- Consecutive chunks of sixteen bytes; what remains is dropped. -/
def chunks16 (bytes : List UInt8) : List (List UInt8) :=
  (List.range (bytes.length / 16)).map fun index => (bytes.drop (index * 16)).take 16

def mediaCapability (messageId : UInt32) (entry : List UInt8) : Checked MediaCapability := do
  let capability ← decode WireMediaCapability.layout messageId entry
  return {
    codec := .ofWire capability.codec, maxPacketMs := capability.maxFramesPerPacket,
    codecParameters := capability.codecParameters }

def decodeCapabilitiesResponse (messageId : UInt32) : Checked (List MediaCapability) :=
  if payload.length < 4 then reject (.truncated messageId 4 payload.length)
  else do
    let word ← decodePrefix WireOneWord.layout messageId payload
    let count ← usizeFromWire messageId "audio capabilities" word.value
    if CAPABILITIES_RESPONSE_MAX_ENTRIES < count then
      reject (.countTooLarge messageId "audio capabilities" count CAPABILITIES_RESPONSE_MAX_ENTRIES)
    else
      let countedBytes ← usizeAdd 4 (← usizeMul count 16)
      let reservoirEntries ← capabilitiesReservoir payload.length countedBytes messageId
      match reservoirEntries.filter (· < count) with
      | some entries =>
        reject (.countTooLarge messageId "audio capabilities" count entries)
      | none =>
        let entries ← sliceFrom payload 4
        if entries.length % 16 ≠ 0 then reject (.invalidLength messageId)
        else ((chunks16 entries).take count).mapM (mediaCapability messageId)

def encodeCapabilitiesResponse (capabilities : List MediaCapability) : Checked (List UInt8) := do
  let messageId := MessageId.capabilitiesResponse.wireValue
  if CAPABILITIES_RESPONSE_MAX_ENTRIES < capabilities.length then
    reject (.countTooLarge messageId "audio capabilities" capabilities.length
      CAPABILITIES_RESPONSE_MAX_ENTRIES)
  else
    let entries :=
      if capabilities.length ≤ CAPABILITIES_RESPONSE_STANDARD_ENTRIES then
        CAPABILITIES_RESPONSE_STANDARD_ENTRIES
      else CAPABILITIES_RESPONSE_EXTENDED_ENTRIES
    let count ← wireCount messageId "audio capabilities" capabilities.length
    let body := WireMediaCapability.layout.writeMany <| capabilities.map fun capability =>
      { codec := capability.codec.wireValue, maxFramesPerPacket := capability.maxPacketMs,
        codecParameters := capability.codecParameters }
    let payload := WireOneWord.layout.write ⟨count⟩ ++ body
    -- `resize` also shortens, but the table always has room for its entries
    return payload.take (capabilitiesPayloadBytes entries)
      ++ List.replicate (capabilitiesPayloadBytes entries - payload.length) 0

def MEDIA_PORT_LIST_MAX_PORTS : Nat := 16

def validateMediaPortCount (messageId : UInt32) (count : Nat) : Checked Unit :=
  if count ≤ MEDIA_PORT_LIST_MAX_PORTS then .ok ()
  else reject (.countTooLarge messageId "RTP ports" count MEDIA_PORT_LIST_MAX_PORTS)

/-- `&elements[..count]`. -/
def firstOf {α : Type} (elements : List α) (count : Nat) : Checked (List α) :=
  if count ≤ elements.length then .ok (elements.take count) else .error .panic

def decodeMediaPortList (messageId : UInt32) : Checked MediaPortList := do
  let value ← decode WireMediaPortList.layout messageId payload
  let count ← usizeFromWire messageId "RTP ports" value.count
  validateMediaPortCount messageId count
  let rtpPorts ← (← firstOf value.ports.val count).mapM fun port =>
    decodePort port messageId "RTP port"
  return ⟨rtpPorts⟩

/-- The elements, and then as many copies of the default as fill the array. -/
def fillArray {α : Type} (n : Nat) (default : α) (elements : List α) : Layout.Items α n :=
  ⟨elements.take n ++ List.replicate (n - (elements.take n).length) default, by
    rw [List.length_append, List.length_replicate, List.length_take]
    omega⟩

def encodeMediaPortList (message : MediaPortList) : Checked (List UInt8) := do
  let messageId := MessageId.mediaPortList.wireValue
  validateMediaPortCount messageId message.rtpPorts.length
  let count ← wireCount messageId "RTP ports" message.rtpPorts.length
  return WireMediaPortList.layout.write
    { count, ports := fillArray 16 0 (message.rtpPorts.map UInt16.toUInt32) }

/-! ## Media acknowledgements -/

def mediaTransmissionAckFromWire {Address : Type} [WireIpAddress Address]
    (value : WireStartMediaAck Address) (extension : Option (Block 8)) (messageId : UInt32) :
    Checked MediaTransmissionAck := do
  return {
    conferenceId := value.conferenceId, passthroughPartyId := value.passthroughPartyId,
    callReference := value.callReference, status := .ofWire value.status,
    address := ← WireIpAddress.toIp value.address messageId,
    port := ← decodePort value.port messageId "RTP port",
    wire := extension.map fun extension => ⟨some extension⟩ }

def decodeStartMediaAck (protocol : Nat) (messageId : UInt32) : Checked MediaTransmissionAck :=
  if 17 ≤ protocol then
    if payload.length = 40 then do
      let value ← decode (WireStartMediaAck.layout WireExtendedAddress) messageId payload
      mediaTransmissionAckFromWire value none messageId
    else if payload.length = 48 then do
      let value ← decode WireStartMediaAckV20.layout messageId payload
      mediaTransmissionAckFromWire value.base (some value.extension) messageId
    else if payload.length < 40 then reject (.truncated messageId 40 payload.length)
    else do reject (.trailingBytes messageId (← usizeSub payload.length 40))
  else do
    let value ← decode (WireStartMediaAck.layout WireIpv4Address) messageId payload
    mediaTransmissionAckFromWire value none messageId

/-- The acknowledgement with its address in one of the two forms. -/
def mediaTransmissionAckToWire (Address : Type) (ack : MediaTransmissionAck)
    (address : Address) : WireStartMediaAck Address where
  conferenceId := ack.conferenceId
  passthroughPartyId := ack.passthroughPartyId
  callReference := ack.callReference
  address := address
  port := ack.port.toUInt32
  status := ack.status.wireValue

def encodeStartMediaAck (ack : MediaTransmissionAck) (protocol : ProtocolVersion) :
    Checked (List UInt8) :=
  if 17 ≤ protocol.wire then
    let base := mediaTransmissionAckToWire WireExtendedAddress ack (.fromIp ack.address)
    match ack.wire.bind MediaTransmissionAckWire.extension with
    | some extension => .ok (WireStartMediaAckV20.layout.write ⟨base, extension⟩)
    | none => .ok ((WireStartMediaAck.layout WireExtendedAddress).write base)
  else do
    let address ← WireIpAddress.fromIp ack.address
      MessageId.startMediaTransmissionAck.wireValue "IP address family for this protocol version"
    return (WireStartMediaAck.layout WireIpv4Address).write
      (mediaTransmissionAckToWire WireIpv4Address ack address)

def openMultimediaAckFromWire {Address : Type} [WireIpAddress Address]
    (value : WireReceiveChannelAck Address) (messageId : UInt32) :
    Checked OpenMultimediaReceiveChannelAck := do
  let address ← WireIpAddress.toIp value.address messageId
  let port ← decodePort value.port messageId "multimedia port"
  return {
    status := .ofWire value.status, endpoint := { address, port },
    passthroughPartyId := value.passthroughPartyId, callReference := value.callReference }

def decodeOpenMultimediaAck (protocol : Nat) (messageId : UInt32) :
    Checked OpenMultimediaReceiveChannelAck :=
  if 17 ≤ protocol then do
    let value ← decode (WireReceiveChannelAck.layout WireExtendedAddress) messageId payload
    openMultimediaAckFromWire value messageId
  else do
    let value ← decode (WireReceiveChannelAck.layout WireIpv4Address) messageId payload
    openMultimediaAckFromWire value messageId

def openMultimediaAckToWire (Address : Type) (value : OpenMultimediaReceiveChannelAck)
    (address : Address) : WireReceiveChannelAck Address where
  status := value.status.wireValue
  address := address
  port := value.endpoint.port.toUInt32
  passthroughPartyId := value.passthroughPartyId
  callReference := value.callReference

def encodeOpenMultimediaAck (value : OpenMultimediaReceiveChannelAck)
    (protocol : ProtocolVersion) : Checked (List UInt8) :=
  if 17 ≤ protocol.wire then
    .ok ((WireReceiveChannelAck.layout WireExtendedAddress).write
      (openMultimediaAckToWire _ value (.fromIp value.endpoint.address)))
  else do
    let address ← WireIpAddress.fromIp value.endpoint.address
      MessageId.openMultimediaReceiveChannelAck.wireValue
      "IP address family for this protocol version"
    return (WireReceiveChannelAck.layout WireIpv4Address).write
      (openMultimediaAckToWire _ value address)

def startMultimediaAckFromWire {Address : Type} [WireIpAddress Address]
    (value : WireStartMediaAck Address) (messageId : UInt32) :
    Checked StartMultimediaTransmissionAck := do
  let address ← WireIpAddress.toIp value.address messageId
  let port ← decodePort value.port messageId "multimedia port"
  return {
    conferenceId := value.conferenceId, passthroughPartyId := value.passthroughPartyId,
    callReference := value.callReference, endpoint := { address, port },
    status := .ofWire value.status }

def decodeStartMultimediaAck (protocol : Nat) (messageId : UInt32) :
    Checked StartMultimediaTransmissionAck :=
  if 17 ≤ protocol then do
    let value ← decode (WireStartMediaAck.layout WireExtendedAddress) messageId payload
    startMultimediaAckFromWire value messageId
  else do
    let value ← decode (WireStartMediaAck.layout WireIpv4Address) messageId payload
    startMultimediaAckFromWire value messageId

def startMultimediaAckToWire (Address : Type) (value : StartMultimediaTransmissionAck)
    (address : Address) : WireStartMediaAck Address where
  conferenceId := value.conferenceId
  passthroughPartyId := value.passthroughPartyId
  callReference := value.callReference
  address := address
  port := value.endpoint.port.toUInt32
  status := value.status.wireValue

def encodeStartMultimediaAck (value : StartMultimediaTransmissionAck)
    (protocol : ProtocolVersion) : Checked (List UInt8) :=
  if 17 ≤ protocol.wire then
    .ok ((WireStartMediaAck.layout WireExtendedAddress).write
      (startMultimediaAckToWire _ value (.fromIp value.endpoint.address)))
  else do
    let address ← WireIpAddress.fromIp value.endpoint.address
      MessageId.startMultimediaTransmissionAck.wireValue
      "IP address family for this protocol version"
    return (WireStartMediaAck.layout WireIpv4Address).write
      (startMultimediaAckToWire _ value address)

def openReceiveAckFromWire {Address : Type} [WireIpAddress Address]
    (value : WireReceiveChannelAck Address) (messageId : UInt32) : Checked ClientMessage := do
  let address ← WireIpAddress.toIp value.address messageId
  let port ← decodePort value.port messageId "RTP port"
  return .openReceiveChannelAck (.ofWire value.status) address port value.passthroughPartyId
    value.callReference

def openReceiveAckToWire (Address : Type) (status : MediaStatus) (address : Address)
    (port : UInt16) (passthroughPartyId callReference : UInt32) :
    WireReceiveChannelAck Address where
  status := status.wireValue
  address := address
  port := port.toUInt32
  passthroughPartyId := passthroughPartyId
  callReference := callReference

def mediaFailureFromWire {Address : Type} [WireIpAddress Address]
    (value : WireMediaFailure Address) (messageId : UInt32) : Checked ClientMessage := do
  let address ← WireIpAddress.toIp value.address messageId
  let port ← decodePort value.port messageId "RTP port"
  return .mediaTransmissionFailure value.conferenceId value.passthroughPartyId address port
    value.callReference unspecifiedError

/-! ## Conference answers -/

def MAX_CONFERENCE_PASSTHROUGH_DATA : Nat := 2000
def MAX_AUDIT_CONFERENCE_ENTRIES : Nat := 32
def MAX_AUDIT_PARTICIPANT_DATA : Nat := 256

/-- A little-endian word in the payload; the four bytes must be there. -/
def wordAt (offset : Nat) : Checked UInt32 := do
  let bytes ← slice payload offset (← usizeAdd offset 4)
  let word ← CapabilityCursor.array 4 bytes
  return Layout.u32.read word.val

def validateConferenceDataLength (messageId : UInt32)
    (headerSize lengthOffset : Nat) : Checked Unit :=
  if payload.length < headerSize then
    reject (.truncated messageId headerSize payload.length)
  else do
    let dataLength ← usizeFromWire messageId "conference passthrough data"
      (← wordAt payload lengthOffset)
    if MAX_CONFERENCE_PASSTHROUGH_DATA < dataLength then
      reject (.countTooLarge messageId "conference passthrough data" dataLength
        MAX_CONFERENCE_PASSTHROUGH_DATA)
    else
      let needed ← usizeAdd headerSize dataLength
      if payload.length < needed then reject (.truncated messageId needed payload.length)
      else .ok ()

def validateConferenceDataForEncode (messageId : UInt32) (passthroughData : List UInt8) :
    Checked UInt32 :=
  if MAX_CONFERENCE_PASSTHROUGH_DATA < passthroughData.length then
    reject (.countTooLarge messageId "conference passthrough data" passthroughData.length
      MAX_CONFERENCE_PASSTHROUGH_DATA)
  else wireCount messageId "conference passthrough data" passthroughData.length

/-- The body of the create and modify responses. -/
def decodeConferenceResponse (messageId : UInt32) :
    Checked (WireConferenceResponseHeader × List UInt8) := do
  validateConferenceDataLength payload messageId 12 8
  WireConferenceResponse.counted.decodeZeroPadded messageId payload

def encodeConferenceResponse (conferenceId result : UInt32) (passthroughData : List UInt8)
    (messageId : UInt32) : Checked (List UInt8) := do
  let dataLength ← validateConferenceDataForEncode messageId passthroughData
  return WireConferenceResponse.counted.write ({ conferenceId, result, dataLength },
    passthroughData)

def auditConferenceEntryFromWire (entry : WireAuditConferenceEntry) :
    Checked AuditConferenceEntry := do
  return {
    conferenceId := entry.conferenceId, resourceType := .ofWire entry.resourceType,
    reservedParticipants := entry.reservedParticipants,
    activeParticipants := entry.activeParticipants, applicationId := entry.applicationId,
    applicationConferenceId := ← entry.applicationConferenceId.text,
    applicationData := ← entry.applicationData.text }

def decodeAuditConferenceResponse (messageId : UInt32) : Checked AuditConferenceResponse :=
  if p.length < 8 then reject (.truncated messageId 8 p.length)
  else do
    let numberOfEntries ← usizeFromWire messageId "conference audit entries" (← wordAt p 4)
    if MAX_AUDIT_CONFERENCE_ENTRIES < numberOfEntries then
      reject (.countTooLarge messageId "conference audit entries" numberOfEntries
        MAX_AUDIT_CONFERENCE_ENTRIES)
    else
      validateExactPayload p messageId (← usizeAdd 8 (← usizeMul numberOfEntries 76))
      let (header, entries) ← WireAuditConferenceResponse.counted.decode messageId p
      return { last := header.last, entries := ← entries.mapM auditConferenceEntryFromWire }

def auditConferenceEntryToWire (entry : AuditConferenceEntry) :
    Checked WireAuditConferenceEntry := do
  let messageId := MessageId.auditConferenceResponse.wireValue
  return {
    conferenceId := entry.conferenceId, resourceType := entry.resourceType.wireValue,
    reservedParticipants := entry.reservedParticipants,
    activeParticipants := entry.activeParticipants, applicationId := entry.applicationId,
    applicationConferenceId := ← WireFixedText.new 32 messageId "application conference ID"
      entry.applicationConferenceId,
    applicationData := ← WireFixedText.new 24 messageId "application data" entry.applicationData }

def encodeAuditConferenceResponse (response : AuditConferenceResponse) : Checked (List UInt8) :=
  let messageId := MessageId.auditConferenceResponse.wireValue
  if MAX_AUDIT_CONFERENCE_ENTRIES < response.entries.length then
    reject (.countTooLarge messageId "conference audit entries" response.entries.length
      MAX_AUDIT_CONFERENCE_ENTRIES)
  else do
    let numberOfEntries ← wireCount messageId "conference audit entries" response.entries.length
    let entries ← response.entries.mapM auditConferenceEntryToWire
    return WireAuditConferenceResponse.counted.write
      ({ last := response.last, numberOfEntries }, entries)

def decodeAddParticipantResponse (messageId : UInt32) :
    Checked AddParticipantResponse := do
  validatePayloadBounds p messageId 12 272
  let value ← decodePrefix WireAddParticipantResponseHeader.layout messageId p
  let alignment ← (if p.length = 272 then sliceFrom p 269 else .ok [] : Checked (List UInt8))
  if alignment.any (· ≠ 0) then
    reject (.invalidValue messageId "AddParticipantResponse alignment" 1)
  else
    let identifier ← slice p 12 (if p.length = 272 then 269 else p.length)
    let bridgeParticipantId ← BoundedBytes.new 257 identifier fun maximum actual =>
      .error (.countTooLarge messageId "bridge participant identifier" actual maximum)
    return {
      conferenceId := value.conferenceId, callReference := value.callReference,
      result := .ofWire value.result, bridgeParticipantId }

def encodeAddParticipantResponse (response : AddParticipantResponse) : List UInt8 :=
  let header : WireAddParticipantResponseHeader :=
    { conferenceId := response.conferenceId, callReference := response.callReference,
      result := response.result.wireValue }
  let payload := WireAddParticipantResponseHeader.layout.write header ++
    response.bridgeParticipantId.bytes
  payload ++ List.replicate (269 - payload.length) 0 ++ List.replicate 3 0

def decodeAuditParticipantResponse (messageId : UInt32) : Checked AuditParticipantResponse :=
  if p.length < 16 then reject (.truncated messageId 16 p.length)
  else do
    let participantEntries ← sliceFrom p 16
    if MAX_AUDIT_PARTICIPANT_DATA < participantEntries.length then
      reject (.countTooLarge messageId "participant audit data" participantEntries.length
        MAX_AUDIT_PARTICIPANT_DATA)
    else
      let value ← decode WireAuditParticipantResponseHeader.layout messageId (← slice p 0 16)
      return {
        result := .ofWire value.result, last := value.last, conferenceId := value.conferenceId,
        numberOfEntries := value.numberOfEntries, participantEntries }

def encodeAuditParticipantResponse (response : AuditParticipantResponse) : Checked (List UInt8) :=
  if MAX_AUDIT_PARTICIPANT_DATA < response.participantEntries.length then
    reject (.countTooLarge MessageId.auditParticipantResponse.wireValue "participant audit data"
      response.participantEntries.length MAX_AUDIT_PARTICIPANT_DATA)
  else
    .ok (WireAuditParticipantResponseHeader.layout.write
      { result := response.result.wireValue, last := response.last,
        conferenceId := response.conferenceId, numberOfEntries := response.numberOfEntries }
      ++ response.participantEntries)

/-! ## Layouts that the length selects -/

def decodeKeypadButton (messageId : UInt32) : Checked ClientMessage :=
  if p.length = 4 then do
    let value ← decode WireKeypadButtonLegacy.layout messageId p
    return .keypadButton (.fromKeypad value.button) 0 0 (some .legacyButtonOnly)
  else if p.length = 12 then do
    let value ← decode WireKeypadButtonWithCall.layout messageId p
    return .keypadButton (.fromKeypad value.base.button) value.lineInstance value.callReference
      (some .withCallIdentity)
  else if p.length = 20 then do
    let value ← decode WireKeypadButton.layout messageId p
    if value.keypadUnion ≠ 0 ∨ value.reserved ≠ 0 then
      reject (.invalidValue messageId "keypad reserved fields" 1)
    else
      return .keypadButton (.fromKeypad value.base.base.button) value.base.lineInstance
        value.base.callReference none
  else reject (.invalidLength messageId)

/-- Some stations leave the last word of the event out. -/
def decodeStimulusStatus (messageId : UInt32) : Checked (Option UInt32) :=
  if p.length = 12 then .ok none
  else if p.length = 16 then do
    let value ← decode WireOneWord.layout messageId (← sliceFrom p 12)
    return some value.value
  else reject (.invalidLength messageId)

def decodeStimulus (messageId : UInt32) : Checked ClientMessage := do
  let status ← decodeStimulusStatus p messageId
  let value ← decode WireStimulus.layout messageId (← slice p 0 12)
  return .stimulus (.ofWire value.stimulus) value.instanceNumber value.callReference status

def decodeOnHook (messageId : UInt32) : Checked ClientMessage :=
  if p.length = 0 then .ok (.onHook 0 0)
  else if p.length = 8 then do
    let value ← decode WireLineCall.layout messageId p
    return .onHook value.lineInstance value.callReference
  else reject (.invalidLength messageId)

def decodeOffHookWithCallingParty (t a : Nat) (p : List UInt8) (messageId : UInt32) :
    Checked ClientMessage := do
  let value ← decode (WireOffHookWithCallingParty.layout t a) messageId p
  validateZeroPayload value.alignment.val messageId a
  return .offHookWithCallingParty (← value.callingPartyNumber.text) (← value.voiceMailbox.text)
    value.lineInstance

def encodeOffHookWithCallingParty (t a : Nat) (callingPartyNumber voiceMailbox : String)
    (lineInstance : UInt32) : Checked (List UInt8) := do
  let messageId := MessageId.offHookWithCallingParty.wireValue
  let callingPartyNumber ← WireFixedText.new t messageId "calling party number" callingPartyNumber
  let voiceMailbox ← WireFixedText.new t messageId "voice mailbox" voiceMailbox
  return (WireOffHookWithCallingParty.layout t a).write
    { callingPartyNumber, voiceMailbox, alignment := zeroBlock a, lineInstance }

def decodeAlarm (messageId : UInt32) : Checked ClientMessage :=
  if p.length = 84 then do
    let value ← decode WireAlarmBase.layout messageId p
    return .alarm (.ofWire value.severity) (← value.text.text) none
  else if p.length = 92 then do
    let value ← decode WireAlarm.layout messageId p
    return .alarm (.ofWire value.base.severity) (← value.base.text.text)
      (some (value.parameter1, value.parameter2))
  else reject (.invalidLength messageId)

/-- Requests of some stations have no capabilities; the version does not tell. -/
def decodeFeatureStatusRequest (messageId : UInt32) : Checked ClientMessage :=
  if p.length = 4 then do
    let value ← decode WireOneWord.layout messageId p
    return .featureStatusRequest value.value none
  else if p.length = 8 then do
    let value ← decode WireFeatureStatusRequest.layout messageId p
    return .featureStatusRequest value.index (some value.capabilities)
  else reject (.invalidLength messageId)

def decodeCallCountRequest (messageId : UInt32) : Checked CallCountRequestPayload :=
  if p.length = 0 then .ok .empty
  else if p.length = 4 then do
    let value ← decode WireOneWord.layout messageId p
    return .legacyWord value.value
  else if h : p.length = CALL_COUNT_REQUEST_EXTENDED_BYTES then .ok (.extended ⟨p, h⟩)
  else reject (.invalidValue messageId "call-count request payload length" p.length)

def decodeRegisterToken (messageId : UInt32) : Checked RegisterTokenMessage := do
  let value ← decode WireRegisterToken.layout messageId p
  return {
    deviceId := ← DeviceId.new (← value.deviceId.text), deviceInstance := value.deviceInstance,
    address :=
      if value.ipv6Address.val.any (· ≠ 0) then .v6 value.ipv6Address
      else .v4 value.ipv4Address,
    deviceType := .ofWire value.deviceType, flags := value.flags }

/-- The address is a word whose most significant byte is the first octet. -/
def ipv4OfWord (word : UInt32) : Block 4 :=
  ⟨(leBytes 4 word.toNat).reverse, by rw [List.length_reverse, length_leBytes]⟩

def wordOfIpv4 (octets : Block 4) : UInt32 := Layout.u32.read octets.val.reverse

def decodeSpcpRegisterToken (messageId : UInt32) :
    Checked SpcpRegisterTokenMessage := do
  let value ← decode WireSpcpRegisterToken.layout messageId p
  return {
    deviceId := ← DeviceId.new (← value.deviceId.text), deviceInstance := value.deviceInstance,
    address := ipv4OfWord value.ipv4Address, deviceType := .ofWire value.deviceType,
    maxStreams := value.maxStreams }

/-- The expanded video layout is read when the payload has room for it. -/
def updateCapabilitiesVariant (protocol : Nat) : CapabilityUpdateVariant :=
  if 16 ≤ protocol ∧
      CapabilityUpdateVariant.version1ExpandedVideo.minimumPayloadBytes protocol ≤ p.length then
    .version1ExpandedVideo
  else .version1

end Sccp.Message
