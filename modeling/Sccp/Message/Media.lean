/-
  Sccp.Message.Media

  Messages that open channels and start transmissions (`message/mod.rs`,
  `message/codec.rs`, `message/codec/media.rs`).

  The layouts grow with the protocol version; the key and the salt of a stream stand in an
  encryption block whose place depends on the message and on the width of its address.
-/

import Sccp.Message.ServerLayouts
import Sccp.Message.ClientPayloads

namespace Sccp.Message

open Sccp

/-! ## Keying material -/

/-- SRTP keying material; shorter keys and salts are followed by zeros. -/
structure MediaEncryption where
  algorithm : EncryptionMethod
  key : Block 16
  keyLength : UInt8
  salt : Block 16
  saltLength : UInt8
  (mkiPresent keyDerivationRate : UInt32)
  bounded : keyLength.toNat ≤ 16 ∧ saltLength.toNat ≤ 16
  deriving DecidableEq

/-- `WireEncryptionInfo::from_public`. -/
def WireEncryptionInfo.fromPublic : Option MediaEncryption → WireEncryptionInfo
  | none =>
    { algorithm := 0, keyLength := 0, saltLength := 0, key := zeroBlock 16, salt := zeroBlock 16
      mkiPresent := 0, keyDerivationRate := 0 }
  | some encryption =>
    { algorithm := encryption.algorithm.wireValue
      keyLength := encryption.keyLength.toUInt16
      saltLength := encryption.saltLength.toUInt16
      key := encryption.key
      salt := encryption.salt
      mkiPresent := encryption.mkiPresent
      keyDerivationRate := encryption.keyDerivationRate }

/-! ## Audio -/

/-- Words of an open-receive command that the media runtime does not use. -/
structure OpenReceiveChannelWire where
  (conferenceId g723Bitrate streamPassthroughId associatedStreamId dtmfType mixingMode direction
    requestedAddressType audioLevelAdjustment : UInt32)
  latentCapabilities : Block 36
  deriving DecidableEq

structure StartMediaTransmissionWire where
  (conferenceId g723Bitrate streamPassthroughId associatedStreamId dtmfType mixingMode
    direction : UInt32)
  latentCapabilities : Block 36
  deriving DecidableEq

/-- The endpoint of a transmission on the wire. -/
structure MediaEndpoint where
  address : IpAddr
  (rtpPort rtcpPort : UInt16)
  codec : Codec
  (packetMs maxFramesPerPacket : UInt32)
  telephoneEventPayload : UInt8
  deriving DecidableEq

structure OpenReceiveParameters where
  packetMs : UInt32
  codec : Codec
  echoCancellation : EchoCancellation
  telephoneEventPayload : UInt8
  sourceAddress : IpAddr
  sourcePort : UInt16
  deriving DecidableEq

structure StartMediaParameters where
  endpoint : MediaEndpoint
  silenceSuppression : SilenceSuppression
  trafficClass : UInt8
  deriving DecidableEq

/-- The requested family follows the address. -/
def addressTypeOf : IpAddr → UInt32
  | .v4 _ => 0
  | .v6 _ => 1

section OpenReceive

variable (call party : UInt32) (parameters : OpenReceiveParameters) (info : WireEncryptionInfo)
  (wire : Option OpenReceiveChannelWire)

def openReceiveV11 : WireOpenReceiveV11 where
  conferenceId := wire.elim call (·.conferenceId)
  passthroughPartyId := party
  packetMillis := parameters.packetMs
  codec := parameters.codec.wireValue
  vad := parameters.echoCancellation.wireValue
  g723Bitrate := wire.elim 0 (·.g723Bitrate)
  callReference := call
  encryption := info
  streamPassthroughId := wire.elim 0 (·.streamPassthroughId)
  associatedStreamId := wire.elim 0 (·.associatedStreamId)
  rfc2833Payload := parameters.telephoneEventPayload.toUInt32
  dtmfType := wire.elim 10 (·.dtmfType)

def openReceiveAddressed {Address : Type} (remote : Address) : WireOpenReceiveAddressed
    Address where
  base := openReceiveV11 call party parameters info wire
  mixingMode := wire.elim 0 (·.mixingMode)
  direction := wire.elim 1 (·.direction)
  remote
  remotePort := parameters.sourcePort.toUInt32

def openReceiveV17 : WireOpenReceiveV17 where
  base := openReceiveAddressed call party parameters info wire (.fromIp parameters.sourceAddress)
  requestedAddressType :=
    wire.elim (addressTypeOf parameters.sourceAddress) (·.requestedAddressType)

def openReceiveV18 : WireOpenReceiveV18 where
  base := openReceiveV17 call party parameters info wire
  audioLevelAdjustment := wire.elim 0 (·.audioLevelAdjustment)

def openReceiveV21 : WireOpenReceiveV21 where
  base := openReceiveV18 call party parameters info wire
  latentCapabilities := ⟨wire.elim (zeroBlock 36) (·.latentCapabilities)⟩

end OpenReceive

def encodeOpenReceive (call party : UInt32) (parameters : OpenReceiveParameters)
    (encryption : Option MediaEncryption) (wire : Option OpenReceiveChannelWire)
    (protocol : ProtocolVersion) : Checked (List UInt8) :=
  let info := WireEncryptionInfo.fromPublic encryption
  if 21 ≤ protocol.wire then
    .ok (WireOpenReceiveV21.layout.write (openReceiveV21 call party parameters info wire))
  else if 18 ≤ protocol.wire then
    .ok (WireOpenReceiveV18.layout.write (openReceiveV18 call party parameters info wire))
  else if 17 ≤ protocol.wire then
    .ok (WireOpenReceiveV17.layout.write (openReceiveV17 call party parameters info wire))
  else do
    let remote ← WireIpAddress.fromIp parameters.sourceAddress
      MessageId.openReceiveChannel.wireValue "IP address family for pre-v17 protocol"
    if 12 ≤ protocol.wire then
      return (WireOpenReceiveAddressed.layout WireIpv4Address).write
        (openReceiveAddressed call party parameters info wire remote)
    else return WireOpenReceiveV11.layout.write (openReceiveV11 call party parameters info wire)

section StartMedia

variable (call party : UInt32) (parameters : StartMediaParameters) (info : WireEncryptionInfo)
  (wire : Option StartMediaTransmissionWire)

def startMediaBase {Address : Type} (remote : Address) : WireStartMediaBase Address where
  conferenceId := wire.elim call (·.conferenceId)
  passthroughPartyId := party
  remote
  remotePort := parameters.endpoint.rtpPort.toUInt32
  packetMillis := parameters.endpoint.packetMs
  codec := parameters.endpoint.codec.wireValue
  precedence := parameters.trafficClass.toUInt32
  silenceSuppression := parameters.silenceSuppression.wireValue
  maxFramesPerPacket := parameters.endpoint.maxFramesPerPacket
  g723Bitrate := wire.elim 0 (·.g723Bitrate)
  callReference := call
  encryption := info
  streamPassthroughId := wire.elim 0 (·.streamPassthroughId)
  associatedStreamId := wire.elim 0 (·.associatedStreamId)
  rfc2833Payload := parameters.endpoint.telephoneEventPayload.toUInt32
  dtmfType := wire.elim 10 (·.dtmfType)

def startMediaDirected {Address : Type} (remote : Address) : WireStartMediaDirected Address where
  base := startMediaBase call party parameters info wire remote
  mixingMode := wire.elim 0 (·.mixingMode)
  direction := wire.elim 1 (·.direction)

def startMediaV21 : WireStartMediaV21 where
  base := startMediaDirected call party parameters info wire (.fromIp parameters.endpoint.address)
  latentCapabilities := ⟨wire.elim (zeroBlock 36) (·.latentCapabilities)⟩

end StartMedia

def encodeStartMedia (call party : UInt32) (parameters : StartMediaParameters)
    (encryption : Option MediaEncryption) (wire : Option StartMediaTransmissionWire)
    (protocol : ProtocolVersion) : Checked (List UInt8) :=
  let info := WireEncryptionInfo.fromPublic encryption
  if 21 ≤ protocol.wire then
    .ok (WireStartMediaV21.layout.write (startMediaV21 call party parameters info wire))
  else if 17 ≤ protocol.wire then
    .ok ((WireStartMediaDirected.layout WireExtendedAddress).write
      (startMediaDirected call party parameters info wire (.fromIp parameters.endpoint.address)))
  else do
    let remote ← WireIpAddress.fromIp parameters.endpoint.address
      MessageId.startMediaTransmission.wireValue "IP address family for pre-v17 protocol"
    if 12 ≤ protocol.wire then
      return (WireStartMediaDirected.layout WireIpv4Address).write
        (startMediaDirected call party parameters info wire remote)
    else
      return (WireStartMediaBase.layout WireIpv4Address).write
        (startMediaBase call party parameters info wire remote)

/-! ## Multimedia payloads -/

/-- Two-word multimedia RTP descriptor; a payload number has seven bits. -/
structure MultimediaPayloadDescriptor where
  rfcNumber : UInt32
  payloadNumber : UInt8
  bounded : payloadNumber.toNat ≤ 127
  deriving DecidableEq

structure MultimediaPictureFormat where
  format : VideoFormat
  minimumPictureInterval : UInt32
  deriving DecidableEq

inductive MultimediaVideoCapabilityArm where
  | h261 (temporalSpatialTradeOffCapability stillImageTransmission : UInt32)
  | h263 (capabilityBitfield annexNAndWFutureUse : UInt32)
  | h263Plus (modelNumber bandwidth : UInt32)
  | h264 (profile level customMaxMbps customMaxFs customMaxDpb customMaxBrAndCpb : UInt32)
  deriving DecidableEq

def MultimediaVideoCapabilityArm.codec : MultimediaVideoCapabilityArm → Codec
  | h261 .. => .h261
  | h263 .. => .h263
  | h263Plus .. => .h263Plus
  | h264 .. => .h264

/-- The words after the picture formats. -/
def MultimediaVideoCapabilityArm.words : MultimediaVideoCapabilityArm → List UInt32
  | h261 temporalSpatialTradeOffCapability stillImageTransmission =>
    [temporalSpatialTradeOffCapability, stillImageTransmission, 0, 0, 0, 0]
  | h263 capabilityBitfield annexNAndWFutureUse =>
    [capabilityBitfield, annexNAndWFutureUse, 0, 0, 0, 0]
  | h263Plus modelNumber bandwidth => [modelNumber, bandwidth, 0, 0, 0, 0]
  | h264 profile level customMaxMbps customMaxFs customMaxDpb customMaxBrAndCpb =>
    [profile, level, customMaxMbps, customMaxFs, customMaxDpb, customMaxBrAndCpb]

def MAX_MULTIMEDIA_PICTURE_FORMATS : Nat := 5

structure MultimediaVideoCapability where
  bitRate : UInt32
  pictureFormats : List MultimediaPictureFormat
  conferenceServiceNumber : UInt32
  arm : MultimediaVideoCapabilityArm
  preservedWire : Option (Block 76)
  bounded : pictureFormats.length ≤ MAX_MULTIMEDIA_PICTURE_FORMATS
  deriving DecidableEq

inductive MultimediaCapabilityState where
  | video (capability : MultimediaVideoCapability)
  | preserved (bytes : Block 76)
  deriving DecidableEq

inductive MultimediaPayloadDirection where
  | receive | transmit
  deriving DecidableEq

/-- A payload is constructed from a video capability, or it was decoded. -/
inductive MultimediaPayload where
  | constructed (descriptor : MultimediaPayloadDescriptor) (capability : MultimediaVideoCapability)
  | decoded (descriptor : MultimediaPayloadDescriptor) (capability : MultimediaCapabilityState)
      (direction : MultimediaPayloadDirection) (protocol : ProtocolVersion)
      (compressionCodec : Codec)
  deriving DecidableEq

namespace MultimediaPayload

def descriptor : MultimediaPayload → MultimediaPayloadDescriptor
  | constructed descriptor _ | decoded descriptor .. => descriptor

def capability : MultimediaPayload → MultimediaCapabilityState
  | constructed _ capability => .video capability
  | decoded _ capability .. => capability

def compressionCodec : MultimediaPayload → Codec
  | constructed _ capability => capability.arm.codec
  | decoded _ _ _ _ compressionCodec => compressionCodec

def isValidFor (payload : MultimediaPayload) (direction : MultimediaPayloadDirection)
    (protocol : ProtocolVersion) : Bool :=
  match payload with
  | constructed .. => true
  | decoded _ _ decodedDirection decodedProtocol _ =>
    decodedDirection = direction && decodedProtocol.wire = protocol.wire

end MultimediaPayload

/-- The nineteen words of a capability as bytes. -/
def multimediaCapabilityBytes (words : List UInt32) (h : words.length = 19) : Block 76 :=
  ⟨Layout.u32.writeMany words, by rw [Layout.length_writeMany, h]; rfl⟩

/-- The words of the picture formats, with zeros for those that are absent. -/
def pictureWords (formats : List MultimediaPictureFormat) : List UInt32 :=
  ((formats.flatMap fun (picture : MultimediaPictureFormat) =>
      [picture.format.wireValue, picture.minimumPictureInterval])
    ++ List.replicate 10 0).take 10

@[simp] theorem length_pictureWords (formats : List MultimediaPictureFormat) :
    (pictureWords formats).length = 10 := by
  unfold pictureWords
  rw [List.length_take_of_le]
  rw [List.length_append, List.length_replicate]
  exact Nat.le_add_left _ _

def multimediaCapabilityToWire (payload : MultimediaPayload) : Block 76 :=
  match payload.capability with
  | .preserved bytes => bytes
  | .video capability =>
    match capability.preservedWire with
    | some bytes => bytes
    | none =>
      multimediaCapabilityBytes ([capability.bitRate, UInt32.ofNat capability.pictureFormats.length]
          ++ pictureWords capability.pictureFormats
          ++ [capability.conferenceServiceNumber] ++ capability.arm.words)
        (by cases capability.arm <;> simp [MultimediaVideoCapabilityArm.words])

def validateMultimediaPayload (payload : MultimediaPayload)
    (direction : MultimediaPayloadDirection) (protocol : ProtocolVersion) (messageId : UInt32) :
    Checked Unit :=
  if payload.isValidFor direction protocol then .ok ()
  else reject (.invalidValue messageId "multimedia payload provenance" 1)

def wireDescriptor (descriptor : MultimediaPayloadDescriptor) : WireMultimediaPayloadDescriptor :=
  ⟨descriptor.rfcNumber, descriptor.payloadNumber.toUInt32⟩

/-! ## Multimedia -/

structure OpenMultimediaChannel where
  (conferenceId passthroughPartyId lineInstance callReference : UInt32)
  payload : MultimediaPayload
  conferenceCreator : Bool
  encryption : Option MediaEncryption
  (streamPassthroughId associatedStreamId : UInt32)
  source : MediaEndpointAddress
  requestedAddressType : IpAddressType
  deriving DecidableEq

structure StartMultimediaTransmission where
  (conferenceId passthroughPartyId : UInt32)
  endpoint : MediaEndpointAddress
  callReference : UInt32
  payload : MultimediaPayload
  trafficClass : UInt8
  encryption : Option MediaEncryption
  (streamPassthroughId associatedStreamId : UInt32)
  deriving DecidableEq

/-- The fields of every layout of an open-multimedia command. -/
def openMultimediaCommon (value : OpenMultimediaChannel) (info : WireEncryptionInfo) :
    WireOpenMultimediaV11 where
  conferenceId := value.conferenceId
  passthroughPartyId := value.passthroughPartyId
  compressionType := value.payload.compressionCodec.wireValue
  lineInstance := value.lineInstance
  callReference := value.callReference
  payloadType := wireDescriptor value.payload.descriptor
  conferenceCreator := if value.conferenceCreator then 1 else 0
  capability := multimediaCapabilityToWire value.payload
  encryption := info
  streamPassthroughId := value.streamPassthroughId
  associatedStreamId := value.associatedStreamId

def openMultimediaAddressed {Address : Type} (value : OpenMultimediaChannel)
    (info : WireEncryptionInfo) (sourceAddress : Address) :
    WireOpenMultimediaAddressed Address where
  base := openMultimediaCommon value info
  sourceAddress
  sourcePort := value.source.port.toUInt32

def encodeOpenMultimedia (value : OpenMultimediaChannel) (protocol : ProtocolVersion) :
    Checked (List UInt8) := do
  let messageId := MessageId.openMultimediaChannel.wireValue
  validateMultimediaPayload value.payload .receive protocol messageId
  let info := WireEncryptionInfo.fromPublic value.encryption
  if 17 ≤ protocol.wire then
    return WireOpenMultimediaV17.layout.write
      { base := openMultimediaAddressed value info (.fromIp value.source.address)
        requestedAddressType := value.requestedAddressType.wireValue }
  else if 12 ≤ protocol.wire then do
    let sourceAddress ← WireIpAddress.fromIp value.source.address messageId
      "IP address family for this protocol version"
    return (WireOpenMultimediaAddressed.layout WireIpv4Address).write
      (openMultimediaAddressed value info sourceAddress)
  else return WireOpenMultimediaV11.layout.write (openMultimediaCommon value info)

def startMultimediaFields {Address : Type} (value : StartMultimediaTransmission)
    (info : WireEncryptionInfo) (remoteAddress : Address) : WireStartMultimedia Address where
  conferenceId := value.conferenceId
  passthroughPartyId := value.passthroughPartyId
  compressionType := value.payload.compressionCodec.wireValue
  remoteAddress
  remotePort := value.endpoint.port.toUInt32
  callReference := value.callReference
  payloadType := wireDescriptor value.payload.descriptor
  dscp := value.trafficClass.toUInt32
  capability := multimediaCapabilityToWire value.payload
  encryption := info
  streamPassthroughId := value.streamPassthroughId
  associatedStreamId := value.associatedStreamId

def startMultimediaToWire (Address : Type) [WireIpAddress Address]
    (value : StartMultimediaTransmission) : Checked (WireStartMultimedia Address) := do
  let remoteAddress ← WireIpAddress.fromIp value.endpoint.address
    MessageId.startMultimediaTransmission.wireValue "IP address family for this protocol version"
  return startMultimediaFields value (.fromPublic value.encryption) remoteAddress

def encodeStartMultimedia (value : StartMultimediaTransmission) (protocol : ProtocolVersion) :
    Checked (List UInt8) := do
  validateMultimediaPayload value.payload .transmit protocol
    MessageId.startMultimediaTransmission.wireValue
  if 17 ≤ protocol.wire then
    return (WireStartMultimedia.layout WireExtendedAddress).write
      (← startMultimediaToWire WireExtendedAddress value)
  else
    return (WireStartMultimedia.layout WireIpv4Address).write
      (← startMultimediaToWire WireIpv4Address value)

/-! ## Messages -/

/-- The messages of `ServerMessage` that carry keying material. -/
inductive MediaMessage where
  | openReceiveChannel (callReference passthroughPartyId : UInt32)
      (parameters : OpenReceiveParameters) (encryption : Option MediaEncryption)
      (wire : Option OpenReceiveChannelWire)
  | startMediaTransmission (callReference passthroughPartyId : UInt32)
      (parameters : StartMediaParameters) (encryption : Option MediaEncryption)
      (wire : Option StartMediaTransmissionWire)
  | openMultimediaChannel (message : OpenMultimediaChannel)
  | startMultimediaTransmission (message : StartMultimediaTransmission)
  deriving DecidableEq

namespace MediaMessage

def messageId : MediaMessage → MessageId
  | openReceiveChannel .. => .openReceiveChannel
  | startMediaTransmission .. => .startMediaTransmission
  | openMultimediaChannel .. => .openMultimediaChannel
  | startMultimediaTransmission .. => .startMultimediaTransmission

def payload (protocol : ProtocolVersion) : MediaMessage → Checked (List UInt8)
  | openReceiveChannel call party parameters encryption wire =>
    encodeOpenReceive call party parameters encryption wire protocol
  | startMediaTransmission call party parameters encryption wire =>
    encodeStartMedia call party parameters encryption wire protocol
  | openMultimediaChannel message => encodeOpenMultimedia message protocol
  | startMultimediaTransmission message => encodeStartMultimedia message protocol

def toFrame (message : MediaMessage) (protocol : ProtocolVersion) : Checked Frame := do
  let p ← message.payload protocol
  rejectNonStationRoute message.messageId.wireValue .controlToStation "control-to-station"
  return typedFrame message.messageId protocol.wire p

/-- `ServerMessage::encode`. -/
def encode (message : MediaMessage) (protocol : ProtocolVersion) : Checked (List UInt8) := do
  encodeFrame (← message.toFrame protocol)

end MediaMessage

end Sccp.Message
