/-
  Sccp.Message.Messages

  Public message types of stations and service nodes (`message/mod.rs`).

  Identities of calls, conferences, parties and applications are words; addresses are
  octets; an enumeration is the number it has on the wire.
-/

import Sccp.Message.Layouts
import Sccp.Message.Capabilities

namespace Sccp.Message

open Sccp

/-! ## Opaque frames -/

/-- A frame whose identifier is not in the catalog. -/
structure RawMessage where
  (messageId protocolVersion : UInt32)
  payload : List UInt8
  deriving DecidableEq

/-- A frame of a known identifier whose payload is kept as it is. -/
structure KnownOpaqueMessage where
  id : MessageId
  protocolVersion : UInt32
  payload : BoundedBytes MAX_OPAQUE_MESSAGE_BYTES
  deriving DecidableEq

/-! ## Registration -/

inductive RegistrationWireLayout where
  | alternate32
  | canonical (prefixBytes : UInt8)
  deriving DecidableEq

structure RegistrationWireDetails where
  layout : RegistrationWireLayout
  (stationUserId stationInstance maxStreams activeStreams : UInt32)
  macAddressAndPadding : Block 12
  (maxConferences activeConferences ipv4AddressScope maxLines ipv6AddressScope : UInt32)
  deriving DecidableEq

structure RegistrationMessage where
  deviceId : DeviceId
  reportedAddress : Option (Block 4)
  reportedIpv6Address : Option (Block 16)
  deviceType : DeviceType
  advertisedProtocol : Option UInt32
  features : UInt32
  firmware : String
  configurationVersionStamp : BoundedBytes 48
  wire : Option RegistrationWireDetails
  deriving DecidableEq

structure RegisterTokenMessage where
  deviceId : DeviceId
  deviceInstance : UInt32
  address : IpAddr
  deviceType : DeviceType
  flags : UInt32
  deriving DecidableEq

structure SpcpRegisterTokenMessage where
  deviceId : DeviceId
  deviceInstance : UInt32
  address : Block 4
  deviceType : DeviceType
  maxStreams : UInt32
  deriving DecidableEq

/-! ## Station events and answers -/

inductive KeypadButtonWireLayout where
  | legacyButtonOnly
  | withCallIdentity
  deriving DecidableEq

structure MediaPortList where
  rtpPorts : List UInt16
  deriving DecidableEq

/-- Number of bytes of the extended call-count request. -/
def CALL_COUNT_REQUEST_EXTENDED_BYTES : Nat := 152

inductive CallCountRequestPayload where
  | empty
  | legacyWord (value : UInt32)
  | extended (payload : Block CALL_COUNT_REQUEST_EXTENDED_BYTES)
  deriving DecidableEq

def XML_ALARM_MAX_WIRE_BYTES : Nat := 2048

structure XmlAlarmMessage where
  wirePayload : BoundedBytes XML_ALARM_MAX_WIRE_BYTES
  deriving DecidableEq

structure ExtensionDeviceCapabilities where
  (unknown1 unknown2 unknown3 : UInt32)
  description : String
  deriving DecidableEq

structure SubscriptionRequest where
  (transactionId featureId timerSeconds : UInt32)
  subscriptionId : String
  deriving DecidableEq

structure UserDataMessage where
  (applicationId lineInstance callReference transactionId : UInt32)
  data : List UInt8
  deriving DecidableEq

structure UserDataV1Message where
  (applicationId lineInstance callReference transactionId sequenceFlag displayPriority
    conferenceId applicationInstanceId routing : UInt32)
  data : List UInt8
  deriving DecidableEq

/-! ## Media -/

structure MediaEndpointAddress where
  address : IpAddr
  port : UInt16
  deriving DecidableEq

structure MediaTransmissionAckWire where
  extension : Option (Block 8)
  deriving DecidableEq

structure MediaTransmissionAck where
  (conferenceId passthroughPartyId callReference : UInt32)
  status : MediaStatus
  address : IpAddr
  port : UInt16
  wire : Option MediaTransmissionAckWire
  deriving DecidableEq

structure OpenMultimediaReceiveChannelAck where
  status : MediaStatus
  endpoint : MediaEndpointAddress
  (passthroughPartyId callReference : UInt32)
  deriving DecidableEq

structure StartMultimediaTransmissionAck where
  (conferenceId passthroughPartyId callReference : UInt32)
  endpoint : MediaEndpointAddress
  status : MediaStatus
  deriving DecidableEq

structure DtmfPayloadIdentity where
  (payloadType conferenceId passthroughPartyId : UInt32)
  deriving DecidableEq

structure MediaResourceNotification where
  deviceType : DeviceType
  (inServiceStreams maxStreamsPerConference outOfServiceStreams : UInt32)
  deriving DecidableEq

structure PortEndpoint where
  (conferenceId callReference passthroughPartyId : UInt32)
  address : IpAddr
  (rtpPort rtcpPort : UInt16)
  mediaType : Option MediaType
  deriving DecidableEq

/-! ## Conference answers -/

structure CreateConferenceResponse where
  conferenceId : UInt32
  result : CreateConferenceResult
  passthroughData : List UInt8
  deriving DecidableEq

structure ModifyConferenceResponse where
  conferenceId : UInt32
  result : ModifyConferenceResult
  passthroughData : List UInt8
  deriving DecidableEq

structure AuditConferenceEntry where
  conferenceId : UInt32
  resourceType : ConferenceResourceType
  (reservedParticipants activeParticipants applicationId : UInt32)
  (applicationConferenceId applicationData : String)
  deriving DecidableEq

structure AuditConferenceResponse where
  last : UInt32
  entries : List AuditConferenceEntry
  deriving DecidableEq

structure AddParticipantResponse where
  (conferenceId callReference : UInt32)
  result : AddParticipantResult
  bridgeParticipantId : BoundedBytes 257
  deriving DecidableEq

structure AuditParticipantResponse where
  result : AuditParticipantResult
  (last conferenceId numberOfEntries : UInt32)
  participantEntries : List UInt8
  deriving DecidableEq

/-! ## The messages of stations and service nodes -/

inductive ClientMessage where
  | keepAlive
  | register (registration : RegistrationMessage)
  | ipPort (rtpPort : UInt16)
  | keypadButton (button : Digit) (lineInstance callReference : UInt32)
      (wireLayout : Option KeypadButtonWireLayout)
  | enblocCall (calledParty : String) (lineInstance : UInt32)
  | stimulus (stimulus : Stimulus) (instanceNumber callReference : UInt32)
      (status : Option UInt32)
  | offHook (lineInstance callReference : UInt32)
  | onHook (lineInstance callReference : UInt32)
  | offHookWithCallingParty (callingPartyNumber voiceMailbox : String) (lineInstance : UInt32)
  | lineStatRequest (lineInstance : UInt32)
  | configStatRequest
  | timeDateRequest
  | buttonTemplateRequest
  | versionRequest
  | capabilitiesResponse (capabilities : List MediaCapability)
  | mediaPortList (message : MediaPortList)
  | capabilitiesUpdate (update : CapabilityUpdate)
  | openMultimediaReceiveChannelAck (ack : OpenMultimediaReceiveChannelAck)
  | serverRequest
  | alarm (severity : AlarmSeverity) (text : String) (parameters : Option (UInt32 × UInt32))
  | multicastMediaReceptionAck (status : MediaStatus) (passthroughPartyId callReference : UInt32)
  | openReceiveChannelAck (status : MediaStatus) (address : IpAddr) (port : UInt16)
      (passthroughPartyId callReference : UInt32)
  | softKeySetRequest
  | softKeyTemplateRequest
  | softKeyEvent (event lineInstance callReference : UInt32)
  | unregister (reason : UInt32)
  | registerToken (token : RegisterTokenMessage)
  | spcpRegisterToken (token : SpcpRegisterTokenMessage)
  | hookFlash (lineInstance callReference : UInt32)
  | forwardStatusRequest (lineInstance : UInt32)
  | speedDialStatusRequest (speedDialInstance : UInt32)
  | connectionStatisticsResponse (statistics : ConnectionStatistics)
  | headsetStatus (enabled : Bool)
  | mediaResourceNotification (notification : MediaResourceNotification)
  | mediaPathEvent (path : MediaPathId) (event : MediaPathEvent)
  | mediaPathCapability (path : MediaPathId) (capability : MediaPathCapability)
  | mediaTransmissionFailure (conferenceId passthroughPartyId : UInt32) (address : IpAddr)
      (port : UInt16) (callReference : UInt32) (status : MediaStatus)
  | registerAvailableLines (lines : UInt32)
  | serviceUrlStatusRequest (index : UInt32)
  | featureStatusRequest (index : UInt32) (capabilities : Option UInt32)
  | startMediaTransmissionAck (ack : MediaTransmissionAck)
  | startMultimediaTransmissionAck (ack : StartMultimediaTransmissionAck)
  | extensionDeviceCapabilities (capabilities : ExtensionDeviceCapabilities)
  | deviceToUserData (data : UserDataMessage)
  | deviceToUserDataResponse (data : UserDataMessage)
  | deviceToUserDataV1 (data : UserDataV1Message)
  | deviceToUserDataResponseV1 (data : UserDataV1Message)
  | portResponse (endpoint : PortEndpoint)
  | subscriptionStatusRequest (subscription : SubscriptionRequest)
  | subscribeDtmfPayloadResponse (identity : DtmfPayloadIdentity)
  | unsubscribeDtmfPayloadResponse (identity : DtmfPayloadIdentity)
  | locationInfo (xml : String)
  | xmlAlarm (message : XmlAlarmMessage)
  | callCountRequest (request : CallCountRequestPayload)
  | createConferenceResponse (response : CreateConferenceResponse)
  | deleteConferenceResponse (conferenceId : UInt32) (result : DeleteConferenceResult)
  | modifyConferenceResponse (response : ModifyConferenceResponse)
  | auditConferenceResponse (response : AuditConferenceResponse)
  | addParticipantResponse (response : AddParticipantResponse)
  | auditParticipantResponse (response : AuditParticipantResponse)
  | knownOpaque (message : KnownOpaqueMessage)
  | unknown (message : RawMessage)
  deriving DecidableEq

end Sccp.Message
