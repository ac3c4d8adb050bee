/-
  Sccp.Message.Services

  Routes, padding and payloads that both directions share (`message/codec.rs`,
  `codec/services.rs`, `codec/io.rs`).
-/

import Sccp.Message.Messages

namespace Sccp.Message

open Sccp

/-! ## Routes and opaque frames -/

def ensureStationRoute (frame : Frame) (expected : MessageRoute) (expectedName : String) :
    Checked Unit :=
  match frame.messageType.route with
  | none => .ok ()
  | some actual =>
    if actual = expected then .ok ()
    else reject (.unexpectedRoute frame.messageId actual expectedName)

def rejectNonStationRoute (messageId : UInt32) (expectedRoute : MessageRoute)
    (expected : String) : Checked Unit :=
  match (MessageId.ofWire messageId).route with
  | none => .ok ()
  | some actual =>
    if actual ≠ expectedRoute then reject (.unexpectedRoute messageId actual expected)
    else .ok ()

def ensurePreserveOnly (id : MessageId) : Checked Unit :=
  if id.contract.any fun contract => contract.codec = .opaqueOnly then .ok ()
  else reject (.invalidValue id.wireValue "opaque preservation requires an opaque-only contract"
    id.wireValue.toNat)

def preserveKnownMessage (frame : Frame) (id : MessageId) : Checked KnownOpaqueMessage := do
  ensurePreserveOnly id
  let payload ← BoundedBytes.new MAX_OPAQUE_MESSAGE_BYTES frame.payload fun _ actual =>
    .error (.frameTooLarge (min usizeMax (actual + HEADER_SIZE)))
  return { id, protocolVersion := frame.protocolVersion, payload }

/-- Complete bytes of a frame. -/
def encodeFrame (frame : Frame) : Checked (List UInt8) :=
  match frame.encode with
  | .error e => reject e
  | .ok bytes => .ok bytes

/-! ## Padding -/

/-- Zeros up to the next 32-bit boundary. -/
def padDynamicPayload (output : List UInt8) : List UInt8 :=
  output ++ List.replicate ((4 - output.length % 4) % 4) 0

/-- The layouts that `pad_typed_payload` leaves alone. -/
def keepsLength : PayloadLayout → Bool
  | .opaqueBytes | .boundedOpaque | .boundedPreserved | .versionAndLengthSelected
  | .minimumLengthPreserved => true
  | _ => false

def padTypedPayload (messageId : UInt32) (payload : List UInt8) : List UInt8 :=
  match (MessageId.ofWire messageId).contract with
  | none => payload
  | some contract =>
    if keepsLength contract.payloadLayout then payload else padDynamicPayload payload

/-- The frame of a typed payload. -/
def typedFrame (id : MessageId) (header : Nat) (payload : List UInt8) : Frame where
  protocolVersion := UInt32.ofNat header
  messageId := id.wireValue
  payload := padTypedPayload id.wireValue payload

theorem padDynamicPayload_of_aligned {payload : List UInt8} (h : payload.length % 4 = 0) :
    padDynamicPayload payload = payload := by
  unfold padDynamicPayload
  rw [h]
  exact List.append_nil payload

/-- A payload that ends at a word boundary is not padded. -/
theorem padTypedPayload_of_aligned (messageId : UInt32) {payload : List UInt8}
    (h : payload.length % 4 = 0) : padTypedPayload messageId payload = payload := by
  unfold padTypedPayload
  split
  · rfl
  split
  · rfl
  · exact padDynamicPayload_of_aligned h

/-- Padding ends at a word boundary. -/
theorem length_padDynamicPayload (payload : List UInt8) :
    (padDynamicPayload payload).length % 4 = 0 := by
  unfold padDynamicPayload
  rw [List.length_append, List.length_replicate]
  omega

/-! ## Application data -/

/-- Largest number of application bytes in one message. -/
def MAX_USER_DATA : Nat := 2000

def encodeUserData (message : UserDataMessage) (messageId : UInt32) : Checked (List UInt8) :=
  if MAX_USER_DATA < message.data.length then
    reject (.countTooLarge messageId "user data" message.data.length MAX_USER_DATA)
  else do
    let dataLength ← wireCount messageId "user data" message.data.length
    return WireUserData.counted.write
      ({ applicationId := message.applicationId, lineInstance := message.lineInstance,
         callReference := message.callReference, transactionId := message.transactionId,
         dataLength }, message.data)

def decodeUserData (payload : List UInt8) (messageId : UInt32) : Checked UserDataMessage := do
  let (header, data) ← WireUserData.counted.decodeZeroPadded messageId payload
  if MAX_USER_DATA < data.length then
    reject (.countTooLarge messageId "user data" data.length MAX_USER_DATA)
  else
    return {
      applicationId := header.applicationId, lineInstance := header.lineInstance,
      callReference := header.callReference, transactionId := header.transactionId, data }

def encodeUserDataV1 (message : UserDataV1Message) (messageId : UInt32) : Checked (List UInt8) :=
  if MAX_USER_DATA < message.data.length then
    reject (.countTooLarge messageId "user data" message.data.length MAX_USER_DATA)
  else do
    let dataLength ← wireCount messageId "user data" message.data.length
    let header : WireUserDataHeader :=
      { applicationId := message.applicationId, lineInstance := message.lineInstance,
        callReference := message.callReference, transactionId := message.transactionId,
        dataLength }
    return WireUserDataV1.counted.write
      ({ header, sequenceFlag := message.sequenceFlag,
         displayPriority := message.displayPriority, conferenceId := message.conferenceId,
         applicationInstanceId := message.applicationInstanceId,
         routing := message.routing }, message.data)

def decodeUserDataV1 (payload : List UInt8) (messageId : UInt32) : Checked UserDataV1Message := do
  let (value, data) ← WireUserDataV1.counted.decodeZeroPadded messageId payload
  if MAX_USER_DATA < data.length then
    reject (.countTooLarge messageId "user data" data.length MAX_USER_DATA)
  else
    return {
      applicationId := value.header.applicationId, lineInstance := value.header.lineInstance,
      callReference := value.header.callReference,
      transactionId := value.header.transactionId, sequenceFlag := value.sequenceFlag,
      displayPriority := value.displayPriority, conferenceId := value.conferenceId,
      applicationInstanceId := value.applicationInstanceId, routing := value.routing, data }

/-! ## Port endpoints -/

def portEndpoint (value : WirePortResponse Address) (address : IpAddr)
    (mediaType : Option MediaType) (messageId : UInt32) : Checked PortEndpoint := do
  return {
    conferenceId := value.conferenceId, callReference := value.callReference,
    passthroughPartyId := value.passthroughPartyId, address,
    rtpPort := ← decodePort value.rtpPort messageId "RTP port",
    rtcpPort := ← decodePort value.rtcpPort messageId "RTCP port", mediaType }

def decodePortResponse (payload : List UInt8) (protocol : Nat) (messageId : UInt32) :
    Checked PortEndpoint :=
  if 20 ≤ protocol then do
    let value ← decode WirePortResponseV20.layout messageId payload
    let address ← WireIpAddress.toIp value.base.address messageId
    portEndpoint value.base address (some (.ofWire value.mediaType)) messageId
  else do
    let value ← decode (WirePortResponse.layout WireIpv4Address) messageId payload
    let address ← WireIpAddress.toIp value.address messageId
    portEndpoint value address none messageId

def encodePortResponse (endpoint : PortEndpoint) (protocol : ProtocolVersion) :
    Checked (List UInt8) :=
  let messageId := MessageId.portResponse.wireValue
  if 20 ≤ protocol.wire then
    match endpoint.mediaType with
    | none => reject (.invalidValue messageId "media type required from protocol 20" 0)
    | some mediaType =>
      let base : WirePortResponse WireExtendedAddress :=
        { conferenceId := endpoint.conferenceId, callReference := endpoint.callReference,
          passthroughPartyId := endpoint.passthroughPartyId,
          address := .fromIp endpoint.address, rtpPort := endpoint.rtpPort.toUInt32,
          rtcpPort := endpoint.rtcpPort.toUInt32 }
      .ok (WirePortResponseV20.layout.write ⟨base, mediaType.wireValue⟩)
  else do
    let address ← WireIpAddress.fromIp endpoint.address messageId
      "IP address family for this protocol version"
    return (WirePortResponse.layout WireIpv4Address).write
      { conferenceId := endpoint.conferenceId, callReference := endpoint.callReference,
        passthroughPartyId := endpoint.passthroughPartyId, address,
        rtpPort := endpoint.rtpPort.toUInt32, rtcpPort := endpoint.rtcpPort.toUInt32 }

end Sccp.Message
