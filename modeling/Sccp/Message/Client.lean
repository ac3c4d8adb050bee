/-
  Sccp.Message.Client

  Decoding and encoding of messages from stations (`message/codec.rs`).

  A payload is read in the layout that its identifier, its length and the protocol
  version select.  The messages of service nodes have the same decoder; the entry point
  for stations turns them away first.
-/

import Sccp.Message.ClientPayloads

namespace Sccp.Message

open Sccp

namespace ClientMessage

/-! ## Decoding -/

/-- The decoder of the identifier; the protocol is the session's or the header's. -/
def decodeAs (id : MessageId) (frame : Frame) (protocol : Nat) : Checked ClientMessage :=
  let p := frame.payload
  let messageId := frame.messageId
  match id with
  | .keepAlive => .ok keepAlive
  | .register => register <$> decodeRegister p messageId
  | .ipPort => do
      let value ← decode WireOneWord.layout messageId p
      return ipPort (← decodePort value.value messageId "RTP port")
  | .keypadButton => decodeKeypadButton p messageId
  | .enblocCall => do
      let (calledParty, lineInstance) ← decodeEnbloc p protocol messageId
      return enblocCall calledParty lineInstance
  | .stimulus => decodeStimulus p messageId
  | .offHook => do
      let value ← decode WireLineCall.layout messageId p
      return offHook value.lineInstance value.callReference
  | .onHook => decodeOnHook p messageId
  | .offHookWithCallingParty =>
    if 19 ≤ protocol then decodeOffHookWithCallingParty 25 2 p messageId
    else decodeOffHookWithCallingParty 24 0 p messageId
  | .lineStatusRequest => do
      let value ← decode WireOneWord.layout messageId p
      return lineStatRequest value.value
  | .configStatusRequest => .ok configStatRequest
  | .timeDateRequest => .ok timeDateRequest
  | .buttonTemplateRequest => .ok buttonTemplateRequest
  | .versionRequest => .ok versionRequest
  | .capabilitiesResponse => capabilitiesResponse <$> decodeCapabilitiesResponse p messageId
  | .mediaPortList => mediaPortList <$> decodeMediaPortList p messageId
  | .updateCapabilities =>
    capabilitiesUpdate <$> CapabilityUpdate.decode (updateCapabilitiesVariant p protocol) protocol p
  | .updateCapabilitiesV2 =>
    capabilitiesUpdate <$> CapabilityUpdate.decode .version2 protocol p
  | .updateCapabilitiesV3 =>
    capabilitiesUpdate <$> CapabilityUpdate.decode .version3 protocol p
  | .openMultimediaReceiveChannelAck =>
    openMultimediaReceiveChannelAck <$> decodeOpenMultimediaAck p protocol messageId
  | .serverRequest => .ok serverRequest
  | .alarm => decodeAlarm p messageId
  | .multicastMediaReceptionAck => do
      validateExactPayload p messageId 12
      let value ← decode WireMulticastReceptionAck.layout messageId p
      return multicastMediaReceptionAck (.ofWire value.status) value.passthroughPartyId
        value.callReference
  | .openReceiveChannelAck =>
    if 17 ≤ protocol then do
      let value ← decode (WireReceiveChannelAck.layout WireExtendedAddress) messageId p
      openReceiveAckFromWire value messageId
    else do
      let value ← decode (WireReceiveChannelAck.layout WireIpv4Address) messageId p
      openReceiveAckFromWire value messageId
  | .softKeySetRequest => .ok softKeySetRequest
  | .softKeyTemplateRequest => .ok softKeyTemplateRequest
  | .softKeyEvent => do
      let value ← decode WireSoftKeyEvent.layout messageId p
      return softKeyEvent value.event value.lineInstance value.callReference
  | .unregister =>
    if p.isEmpty then .ok (unregister 0)
    else do
      let value ← decode WireOneWord.layout messageId p
      return unregister value.value
  | .registerTokenRequest => registerToken <$> decodeRegisterToken p messageId
  | .spcpRegisterTokenRequest => spcpRegisterToken <$> decodeSpcpRegisterToken p messageId
  | .hookFlash => do
      let value ← decode WireLineCall.layout messageId p
      return hookFlash value.lineInstance value.callReference
  | .forwardStatusRequest => do
      let value ← decode WireOneWord.layout messageId p
      return forwardStatusRequest value.value
  | .speedDialStatusRequest => do
      let value ← decode WireOneWord.layout messageId p
      return speedDialStatusRequest value.value
  | .headsetStatus => do
      let value ← decode WireOneWord.layout messageId p
      return headsetStatus (value.value = 1)
  | .mediaResourceNotification => do
      let value ← decode WireMediaResourceNotification.layout messageId p
      return mediaResourceNotification {
        deviceType := .ofWire value.deviceType, inServiceStreams := value.inServiceStreams,
        maxStreamsPerConference := value.maxStreamsPerConference,
        outOfServiceStreams := value.outOfServiceStreams }
  | .mediaPathEvent => do
      let value ← decode WireAccessoryStatus.layout messageId p
      return mediaPathEvent (.ofWire value.accessory) (.ofWire value.state)
  | .mediaPathCapability => do
      let value ← decode WireAccessoryStatus.layout messageId p
      return mediaPathCapability (.ofWire value.accessory) (.ofWire value.state)
  | .registerAvailableLines =>
    if 4 ≤ p.length then do
      let value ← decode WireOneWord.layout messageId p
      return registerAvailableLines value.value
    else .ok (registerAvailableLines 0)
  | .deviceToUserData => deviceToUserData <$> decodeUserData p messageId
  | .deviceToUserDataResponse => deviceToUserDataResponse <$> decodeUserData p messageId
  | .deviceToUserDataV1 => deviceToUserDataV1 <$> decodeUserDataV1 p messageId
  | .deviceToUserDataResponseV1 => deviceToUserDataResponseV1 <$> decodeUserDataV1 p messageId
  | .portResponse => portResponse <$> decodePortResponse p protocol messageId
  | .subscriptionStatusRequest => do
      let value ← decode WireSubscriptionRequest.layout messageId p
      return subscriptionStatusRequest {
        transactionId := value.transactionId, featureId := value.featureId,
        timerSeconds := value.timerSeconds, subscriptionId := ← value.subscriptionId.text }
  | .subscribeDtmfPayloadResponse => do
      let value ← decode WireDtmfPayloadIdentity.layout messageId p
      return subscribeDtmfPayloadResponse
        ⟨value.payloadType, value.conferenceId, value.passthroughPartyId⟩
  | .unsubscribeDtmfPayloadResponse => do
      let value ← decode WireDtmfPayloadIdentity.layout messageId p
      return unsubscribeDtmfPayloadResponse
        ⟨value.payloadType, value.conferenceId, value.passthroughPartyId⟩
  | .serviceUrlStatusRequest => do
      let value ← decode WireOneWord.layout messageId p
      return serviceUrlStatusRequest value.value
  | .featureStatusRequest => decodeFeatureStatusRequest p messageId
  | .mediaTransmissionFailure =>
    if 17 ≤ protocol then do
      let value ← decode (WireMediaFailure.layout WireExtendedAddress) messageId p
      mediaFailureFromWire value messageId
    else do
      let value ← decode (WireMediaFailure.layout WireIpv4Address) messageId p
      mediaFailureFromWire value messageId
  | .connectionStatisticsResponse =>
    connectionStatisticsResponse <$> decodeConnectionStatistics p protocol messageId
  | .startMediaTransmissionAck =>
    startMediaTransmissionAck <$> decodeStartMediaAck p protocol messageId
  | .startMultimediaTransmissionAck =>
    startMultimediaTransmissionAck <$> decodeStartMultimediaAck p protocol messageId
  | .extensionDeviceCapabilities => do
      let value ← decode WireExtensionDeviceCapabilities.layout messageId p
      return extensionDeviceCapabilities {
        unknown1 := value.unknown1, unknown2 := value.unknown2, unknown3 := value.unknown3,
        description := ← value.description.text }
  | .locationInfo => do
      let value ← decode WireLocationInfo.layout messageId p
      validateZeroPayload value.alignment.val messageId 3
      return locationInfo (← value.xml.text)
  | .xmlAlarm => do
      let wirePayload ← BoundedBytes.new XML_ALARM_MAX_WIRE_BYTES p fun maximum actual =>
        .error (.countTooLarge MessageId.xmlAlarm.wireValue "alarm payload" actual maximum)
      return xmlAlarm ⟨wirePayload⟩
  | .callCountRequest => callCountRequest <$> decodeCallCountRequest p messageId
  | .createConferenceResponse => do
      let (header, passthroughData) ← decodeConferenceResponse p messageId
      return createConferenceResponse ⟨header.conferenceId, .ofWire header.result, passthroughData⟩
  | .deleteConferenceResponse => do
      validateExactPayload p messageId 8
      let value ← decode WireCallParty.layout messageId p
      return deleteConferenceResponse value.callReference (.ofWire value.passthroughPartyId)
  | .modifyConferenceResponse => do
      let (header, passthroughData) ← decodeConferenceResponse p messageId
      return modifyConferenceResponse ⟨header.conferenceId, .ofWire header.result, passthroughData⟩
  | .auditConferenceResponse =>
    auditConferenceResponse <$> decodeAuditConferenceResponse p messageId
  | .addParticipantResponse =>
    addParticipantResponse <$> decodeAddParticipantResponse p messageId
  | .auditParticipantResponse =>
    auditParticipantResponse <$> decodeAuditParticipantResponse p messageId
  | id =>
    if id.isKnown then knownOpaque <$> preserveKnownMessage frame id
    else .ok (unknown ⟨messageId, frame.protocolVersion, p⟩)

/-- `decode_using_protocol`. -/
def decodeUsingProtocol (frame : Frame) (protocol : Nat) : Checked ClientMessage :=
  decodeAs frame.messageType frame protocol

/-- Decodes a station-originated frame with the version of its session. -/
def decodeWithVersion (frame : Frame) (protocol : ProtocolVersion) : Checked ClientMessage := do
  ensureStationRoute frame .stationToControl "station-to-control"
  decodeUsingProtocol frame protocol.wire

/-- Decodes a station-originated frame with the version in its header. -/
def decode (frame : Frame) : Checked ClientMessage := do
  ensureStationRoute frame .stationToControl "station-to-control"
  decodeUsingProtocol frame frame.protocolVersion.toNat

/-! ## Encoding -/

/-- The identifier, the payload and the header version of a message, as a frame. -/
def toFrame (message : ClientMessage) (protocol : ProtocolVersion) : Checked Frame :=
  let version := protocol.wire
  match message with
  | keepAlive => .ok (typedFrame .keepAlive 0 [])
  | register registration => typedFrame .register 0 <$> encodeRegister registration
  | ipPort rtpPort =>
    .ok (typedFrame .ipPort version (WireOneWord.layout.write ⟨rtpPort.toUInt32⟩))
  | keypadButton button lineInstance callReference wireLayout =>
    let base : WireKeypadButtonWithCall := ⟨⟨button.keypadValue⟩, lineInstance, callReference⟩
    .ok <| typedFrame .keypadButton version <| match wireLayout with
      | some .legacyButtonOnly => WireKeypadButtonLegacy.layout.write base.base
      | some .withCallIdentity => WireKeypadButtonWithCall.layout.write base
      | none => WireKeypadButton.layout.write ⟨base, 0, 0⟩
  | enblocCall calledParty lineInstance =>
    typedFrame .enblocCall version <$> encodeEnbloc calledParty lineInstance version
  | .stimulus event instanceNumber callReference status =>
    .ok <| typedFrame .stimulus version <|
      WireStimulus.layout.write ⟨event.wireValue, instanceNumber, callReference⟩ ++
        match status with
        | some status => WireOneWord.layout.write ⟨status⟩
        | none => []
  | offHook lineInstance callReference =>
    .ok (typedFrame .offHook version (WireLineCall.layout.write ⟨lineInstance, callReference⟩))
  | onHook lineInstance callReference =>
    .ok (typedFrame .onHook version (WireLineCall.layout.write ⟨lineInstance, callReference⟩))
  | offHookWithCallingParty callingPartyNumber voiceMailbox lineInstance =>
    typedFrame .offHookWithCallingParty version <$> if 19 ≤ version then
        encodeOffHookWithCallingParty 25 2 callingPartyNumber voiceMailbox lineInstance
      else encodeOffHookWithCallingParty 24 0 callingPartyNumber voiceMailbox lineInstance
  | hookFlash lineInstance callReference =>
    .ok (typedFrame .hookFlash version (WireLineCall.layout.write ⟨lineInstance, callReference⟩))
  | forwardStatusRequest lineInstance =>
    .ok (typedFrame .forwardStatusRequest version (WireOneWord.layout.write ⟨lineInstance⟩))
  | speedDialStatusRequest speedDialInstance =>
    .ok (typedFrame .speedDialStatusRequest version (WireOneWord.layout.write ⟨speedDialInstance⟩))
  | lineStatRequest lineInstance =>
    .ok (typedFrame .lineStatusRequest version (WireOneWord.layout.write ⟨lineInstance⟩))
  | configStatRequest => .ok (typedFrame .configStatusRequest version [])
  | timeDateRequest => .ok (typedFrame .timeDateRequest version [])
  | buttonTemplateRequest => .ok (typedFrame .buttonTemplateRequest version [])
  | versionRequest => .ok (typedFrame .versionRequest version [])
  | capabilitiesResponse capabilities =>
    typedFrame .capabilitiesResponse version <$> encodeCapabilitiesResponse capabilities
  | mediaPortList message =>
    typedFrame .mediaPortList version <$> encodeMediaPortList message
  | capabilitiesUpdate update =>
    let messageId := update.variant.messageId
    .ok ⟨UInt32.ofNat version, messageId, padTypedPayload messageId update.rawPayload⟩
  | openMultimediaReceiveChannelAck ack =>
    typedFrame .openMultimediaReceiveChannelAck version <$> encodeOpenMultimediaAck ack protocol
  | serverRequest => .ok (typedFrame .serverRequest version [])
  | alarm severity text parameters => do
      let text ← WireFixedText.new 80 MessageId.alarm.wireValue "alarm text" text
      let base : WireAlarmBase := ⟨severity.wireValue, text⟩
      return typedFrame .alarm version <| match parameters with
        | some (parameter1, parameter2) => WireAlarm.layout.write ⟨base, parameter1, parameter2⟩
        | none => WireAlarmBase.layout.write base
  | multicastMediaReceptionAck status passthroughPartyId callReference =>
    .ok (typedFrame .multicastMediaReceptionAck version (WireMulticastReceptionAck.layout.write
        ⟨status.wireValue, passthroughPartyId, callReference⟩))
  | openReceiveChannelAck status address port passthroughPartyId callReference =>
    typedFrame .openReceiveChannelAck version <$> if 17 ≤ version then
        .ok ((WireReceiveChannelAck.layout WireExtendedAddress).write
          (openReceiveAckToWire _ status (.fromIp address) port passthroughPartyId callReference))
      else do
        let address ← WireIpAddress.fromIp address MessageId.openReceiveChannelAck.wireValue
          "IP address family for this protocol version"
        return (WireReceiveChannelAck.layout WireIpv4Address).write
          (openReceiveAckToWire _ status address port passthroughPartyId callReference)
  | softKeySetRequest => .ok (typedFrame .softKeySetRequest version [])
  | softKeyTemplateRequest => .ok (typedFrame .softKeyTemplateRequest version [])
  | softKeyEvent event lineInstance callReference =>
    .ok (typedFrame .softKeyEvent version
      (WireSoftKeyEvent.layout.write ⟨event, lineInstance, callReference⟩))
  | unregister reason =>
    .ok (typedFrame .unregister version (WireOneWord.layout.write ⟨reason⟩))
  | registerToken token => do
      let messageId := MessageId.registerTokenRequest.wireValue
      let deviceId ← WireFixedText.new 16 messageId "device ID" token.deviceId.text
      let (ipv4Address, ipv6Address) :=
        match token.address with
        | .v4 octets => (octets, zeroBlock 16)
        | .v6 octets => (zeroBlock 4, octets)
      return typedFrame .registerTokenRequest version <| WireRegisterToken.layout.write
        { deviceId, deviceInstance := token.deviceInstance, ipv4Address,
          deviceType := token.deviceType.wireValue, ipv6Address, flags := token.flags }
  | spcpRegisterToken token => do
      let messageId := MessageId.spcpRegisterTokenRequest.wireValue
      let deviceId ← WireFixedText.new 16 messageId "device ID" token.deviceId.text
      return typedFrame .spcpRegisterTokenRequest version <| WireSpcpRegisterToken.layout.write
        { deviceId, reserved := 0, deviceInstance := token.deviceInstance,
          ipv4Address := wordOfIpv4 token.address, deviceType := token.deviceType.wireValue,
          maxStreams := token.maxStreams }
  | connectionStatisticsResponse statistics =>
    typedFrame .connectionStatisticsResponse version <$>
      encodeConnectionStatistics statistics protocol
  | headsetStatus enabled =>
    .ok (typedFrame .headsetStatus version (WireOneWord.layout.write ⟨boolWord enabled⟩))
  | mediaResourceNotification notification =>
    .ok (typedFrame .mediaResourceNotification version (WireMediaResourceNotification.layout.write
        ⟨notification.deviceType.wireValue, notification.inServiceStreams,
          notification.maxStreamsPerConference, notification.outOfServiceStreams⟩))
  | mediaPathEvent path event =>
    .ok (typedFrame .mediaPathEvent version
      (WireAccessoryStatus.layout.write ⟨path.wireValue, event.wireValue⟩))
  | mediaPathCapability path capability =>
    .ok (typedFrame .mediaPathCapability version
      (WireAccessoryStatus.layout.write ⟨path.wireValue, capability.wireValue⟩))
  | mediaTransmissionFailure conferenceId passthroughPartyId address port callReference _ =>
    typedFrame .mediaTransmissionFailure version <$> if 17 ≤ version then
        .ok ((WireMediaFailure.layout WireExtendedAddress).write
          ⟨conferenceId, passthroughPartyId, .fromIp address, port.toUInt32, callReference⟩)
      else do
        let address ← WireIpAddress.fromIp address MessageId.mediaTransmissionFailure.wireValue
          "IP address family for this protocol version"
        return (WireMediaFailure.layout WireIpv4Address).write
          ⟨conferenceId, passthroughPartyId, address, port.toUInt32, callReference⟩
  | registerAvailableLines lines =>
    .ok (typedFrame .registerAvailableLines version (WireOneWord.layout.write ⟨lines⟩))
  | serviceUrlStatusRequest index =>
    .ok (typedFrame .serviceUrlStatusRequest version (WireOneWord.layout.write ⟨index⟩))
  | featureStatusRequest index capabilities =>
    .ok <| typedFrame .featureStatusRequest version <| match capabilities with
      | none => WireOneWord.layout.write ⟨index⟩
      | some capabilities => WireFeatureStatusRequest.layout.write ⟨index, capabilities⟩
  | startMediaTransmissionAck ack =>
    typedFrame .startMediaTransmissionAck version <$> encodeStartMediaAck ack protocol
  | startMultimediaTransmissionAck ack =>
    typedFrame .startMultimediaTransmissionAck version <$> encodeStartMultimediaAck ack protocol
  | extensionDeviceCapabilities capabilities => do
      let description ← WireFixedText.new 152 MessageId.extensionDeviceCapabilities.wireValue
        "extension-device capability description" capabilities.description
      return typedFrame .extensionDeviceCapabilities version <|
        WireExtensionDeviceCapabilities.layout.write
          ⟨capabilities.unknown1, capabilities.unknown2, capabilities.unknown3, description⟩
  | deviceToUserData data =>
    typedFrame .deviceToUserData version <$>
      encodeUserData data MessageId.deviceToUserData.wireValue
  | deviceToUserDataResponse data =>
    typedFrame .deviceToUserDataResponse version <$>
      encodeUserData data MessageId.deviceToUserDataResponse.wireValue
  | deviceToUserDataV1 data =>
    typedFrame .deviceToUserDataV1 version <$>
      encodeUserDataV1 data MessageId.deviceToUserDataV1.wireValue
  | deviceToUserDataResponseV1 data =>
    typedFrame .deviceToUserDataResponseV1 version <$>
      encodeUserDataV1 data MessageId.deviceToUserDataResponseV1.wireValue
  | portResponse endpoint =>
    typedFrame .portResponse version <$> encodePortResponse endpoint protocol
  | subscriptionStatusRequest subscription => do
      let subscriptionId ← WireFixedText.new 256 MessageId.subscriptionStatusRequest.wireValue
        "subscription ID" subscription.subscriptionId
      return typedFrame .subscriptionStatusRequest version <| WireSubscriptionRequest.layout.write
          ⟨subscription.transactionId, subscription.featureId, subscription.timerSeconds,
            subscriptionId⟩
  | subscribeDtmfPayloadResponse identity =>
    .ok (typedFrame .subscribeDtmfPayloadResponse version (WireDtmfPayloadIdentity.layout.write
      ⟨identity.payloadType, identity.conferenceId, identity.passthroughPartyId⟩))
  | unsubscribeDtmfPayloadResponse identity =>
    .ok (typedFrame .unsubscribeDtmfPayloadResponse version (WireDtmfPayloadIdentity.layout.write
        ⟨identity.payloadType, identity.conferenceId, identity.passthroughPartyId⟩))
  | locationInfo xml => do
      let xml ← WireFixedText.new 2401 MessageId.locationInfo.wireValue "location XML" xml
      return typedFrame .locationInfo version (WireLocationInfo.layout.write ⟨xml, zeroBlock 3⟩)
  | xmlAlarm message => .ok (typedFrame .xmlAlarm version message.wirePayload.bytes)
  | callCountRequest request =>
    .ok <| typedFrame .callCountRequest version <| match request with
      | .empty => []
      | .legacyWord value => WireOneWord.layout.write ⟨value⟩
      | .extended extended => extended.val
  | createConferenceResponse response =>
    typedFrame .createConferenceResponse version <$>
      encodeConferenceResponse response.conferenceId response.result.wireValue
        response.passthroughData MessageId.createConferenceResponse.wireValue
  | deleteConferenceResponse conferenceId result =>
    .ok (typedFrame .deleteConferenceResponse version
      (WireCallParty.layout.write ⟨conferenceId, result.wireValue⟩))
  | modifyConferenceResponse response =>
    typedFrame .modifyConferenceResponse version <$>
      encodeConferenceResponse response.conferenceId response.result.wireValue
        response.passthroughData MessageId.modifyConferenceResponse.wireValue
  | auditConferenceResponse response =>
    typedFrame .auditConferenceResponse version <$> encodeAuditConferenceResponse response
  | addParticipantResponse response =>
    .ok (typedFrame .addParticipantResponse version (encodeAddParticipantResponse response))
  | auditParticipantResponse response =>
    typedFrame .auditParticipantResponse version <$> encodeAuditParticipantResponse response
  | knownOpaque message => do
      ensurePreserveOnly message.id
      return ⟨message.protocolVersion, message.id.wireValue, message.payload.bytes⟩
  | unknown message => .ok ⟨message.protocolVersion, message.messageId, message.payload⟩

/-- Canonically encodes a message of a station. -/
def encode (message : ClientMessage) (protocol : ProtocolVersion) : Checked (List UInt8) := do
  let frame ← message.toFrame protocol
  rejectNonStationRoute frame.messageId .stationToControl "station-to-control"
  encodeFrame frame

/-- A frame from a station that is not too long is written as it is. -/
theorem encode_ok {message : ClientMessage} {protocol : ProtocolVersion} {frame : Frame}
    (hframe : message.toFrame protocol = .ok frame)
    (hroute : frame.messageType.route = some .stationToControl)
    (hlength : frame.payload.length ≤ 2048) :
    ∃ bytes, message.encode protocol = .ok bytes ∧ frame.encode = .ok bytes := by
  obtain ⟨bytes, hbytes⟩ : ∃ bytes, frame.encode = .ok bytes := by
    unfold Frame.encode
    dsimp only
    rw [if_neg (by unfold usizeMax; omega), if_neg (by unfold MAX_FRAME_SIZE; omega),
      if_neg (by omega)]
    exact ⟨_, rfl⟩
  refine ⟨bytes, Checked.bind_ok.mpr ⟨frame, hframe, ?_⟩, hbytes⟩
  refine Checked.bind_ok.mpr ⟨(), ?_, ?_⟩
  · unfold rejectNonStationRoute
    rw [show (MessageId.ofWire frame.messageId).route = _ from hroute]
    exact if_neg fun hne => hne rfl
  · rw [encodeFrame, hbytes]

end ClientMessage

end Sccp.Message
