/-
  Sccp.Message.Layouts

  Wire layouts of station messages and of the parts that both directions share
  (`message/codec.rs`).

  Each record is one payload or the fixed part of one.  Layouts that differ only in the
  form of an address are one layout over the form.
-/

import Sccp.Message.Values
import Sccp.Message.Statistics

namespace Sccp.Message

open Sccp

/-! ## Addresses -/

/-- The forms of an address on the wire. -/
class WireIpAddress (Address : Type) where
  layout : Layout Address
  fromIp : IpAddr → UInt32 → String → Checked Address
  toIp : Address → UInt32 → Checked IpAddr

/-- Four octets, for IPv4 only. -/
structure WireIpv4Address where
  bytes : Block 4
  deriving DecidableEq

instance : WireIpAddress WireIpv4Address where
  layout := (Layout.block 4).iso (fun b => ⟨b⟩) WireIpv4Address.bytes
  fromIp
    | .v4 octets, _, _ => .ok ⟨octets⟩
    | .v6 _, messageId, field => reject (.invalidValue messageId field 1)
  toIp address _ := .ok (.v4 address.bytes)

/-- A family and room for sixteen octets. -/
structure WireExtendedAddress where
  family : UInt32
  bytes : Block 16
  deriving DecidableEq

namespace WireExtendedAddress

def fromIp : IpAddr → WireExtendedAddress
  | .v4 octets => ⟨0, octets.val ++ List.replicate 12 0, by
      rw [List.length_append, octets.property, List.length_replicate]⟩
  | .v6 octets => ⟨1, octets⟩

def toIp (address : WireExtendedAddress) (messageId : UInt32) : Checked IpAddr :=
  if address.family = 0 then .ok (.v4 (Layout.blockOf 4 address.bytes.val))
  else if address.family = 1 then .ok (.v6 address.bytes)
  else reject (.invalidValue messageId "IP address family" address.family.toNat)

end WireExtendedAddress

instance : WireIpAddress WireExtendedAddress where
  layout := (Layout.u32.pair (Layout.block 16)).iso (fun p => ⟨p.1, p.2⟩)
    (fun address => (address.family, address.bytes))
  fromIp address _ _ := .ok (.fromIp address)
  toIp := WireExtendedAddress.toIp

/-! ## Shared records -/

structure WireOneWord where
  value : UInt32

def WireOneWord.layout : Layout WireOneWord :=
  Layout.u32.iso (fun p => ⟨p⟩) (fun value => value.value)

structure WireLineCall where
  (lineInstance callReference : UInt32)

def WireLineCall.layout : Layout WireLineCall :=
  (Layout.u32.pair Layout.u32).iso (fun p => ⟨p.1, p.2⟩)
    fun value => (value.lineInstance, value.callReference)

structure WireCallParty where
  (callReference passthroughPartyId : UInt32)

def WireCallParty.layout : Layout WireCallParty :=
  (Layout.u32.pair Layout.u32).iso (fun p => ⟨p.1, p.2⟩)
    fun value => (value.callReference, value.passthroughPartyId)

structure WireUserDataHeader where
  (applicationId lineInstance callReference transactionId dataLength : UInt32)

def WireUserDataHeader.layout : Layout WireUserDataHeader :=
  (Layout.u32.pair <| Layout.u32.pair <| Layout.u32.pair <| Layout.u32.pair Layout.u32).iso
    (fun (a, b, c, d, e) => ⟨a, b, c, d, e⟩)
    fun value => (value.applicationId, value.lineInstance, value.callReference,
      value.transactionId, value.dataLength)

structure WireDtmfPayloadIdentity where
  (payloadType conferenceId passthroughPartyId : UInt32)

def WireDtmfPayloadIdentity.layout : Layout WireDtmfPayloadIdentity :=
  (Layout.u32.pair <| Layout.u32.pair Layout.u32).iso (fun p => ⟨p.1, p.2.1, p.2.2⟩)
    fun value => (value.payloadType, value.conferenceId, value.passthroughPartyId)

structure WireStartMediaAck (Address : Type) where
  (conferenceId passthroughPartyId callReference : UInt32)
  address : Address
  (port status : UInt32)

def WireStartMediaAck.layout (Address : Type) [WireIpAddress Address] :
    Layout (WireStartMediaAck Address) :=
  (Layout.u32.pair <| Layout.u32.pair <| Layout.u32.pair <| WireIpAddress.layout.pair <|
    Layout.u32.pair Layout.u32).iso
    (fun (a, b, c, d, e, f) => ⟨a, b, c, d, e, f⟩)
    fun value => (value.conferenceId, value.passthroughPartyId, value.callReference,
      value.address, value.port, value.status)

structure WireStartMediaAckV20 where
  base : WireStartMediaAck WireExtendedAddress
  extension : Block 8

def WireStartMediaAckV20.layout : Layout WireStartMediaAckV20 :=
  ((WireStartMediaAck.layout WireExtendedAddress).pair (Layout.block 8)).iso (fun p => ⟨p.1, p.2⟩)
    fun value => (value.base, value.extension)

structure WireReceiveChannelAck (Address : Type) where
  status : UInt32
  address : Address
  (port passthroughPartyId callReference : UInt32)

def WireReceiveChannelAck.layout (Address : Type) [WireIpAddress Address] :
    Layout (WireReceiveChannelAck Address) :=
  (Layout.u32.pair <| WireIpAddress.layout.pair <| Layout.u32.pair <|
    Layout.u32.pair Layout.u32).iso (fun (a, b, c, d, e) => ⟨a, b, c, d, e⟩)
    fun value => (value.status, value.address, value.port, value.passthroughPartyId,
      value.callReference)

/-- Application data of the length that the header says. -/
def WireUserData.counted : Counted WireUserDataHeader UInt8 :=
  ⟨WireUserDataHeader.layout, fun header => header.dataLength.toNat, Layout.u8⟩

/-- The part of `WireUserDataV1` before the data. -/
structure WireUserDataV1Header where
  header : WireUserDataHeader
  (sequenceFlag displayPriority conferenceId applicationInstanceId routing : UInt32)

def WireUserDataV1Header.layout : Layout WireUserDataV1Header :=
  (WireUserDataHeader.layout.pair <| Layout.u32.pair <| Layout.u32.pair <| Layout.u32.pair <|
    Layout.u32.pair Layout.u32).iso
    (fun (a, b, c, d, e, f) => ⟨a, b, c, d, e, f⟩)
    fun value => (value.header, value.sequenceFlag, value.displayPriority, value.conferenceId,
      value.applicationInstanceId, value.routing)

def WireUserDataV1.counted : Counted WireUserDataV1Header UInt8 :=
  ⟨WireUserDataV1Header.layout, fun value => value.header.dataLength.toNat, Layout.u8⟩

/-! ## Station records -/

structure WireRegister where
  deviceId : WireFixedText 16
  (stationUserId stationInstance : UInt32)
  reportedAddress : Block 4
  (deviceType maxStreams activeStreams : UInt32)
  protocolFeatures : Block 4
  (maxConferences activeConferences : UInt32)
  macAddress : Block 12
  (ipv4AddressScope maxLines : UInt32)
  ipv6Address : Block 16
  ipv6AddressScope : UInt32
  firmware : WireFixedText 32

def WireRegister.layout : Layout WireRegister :=
  ((Layout.block 16).pair <| Layout.u32.pair <| Layout.u32.pair <| (Layout.block 4).pair <|
    Layout.u32.pair <| Layout.u32.pair <| Layout.u32.pair <| (Layout.block 4).pair <|
    Layout.u32.pair <| Layout.u32.pair <| (Layout.block 12).pair <| Layout.u32.pair <|
    Layout.u32.pair <| (Layout.block 16).pair <| Layout.u32.pair (Layout.block 32)).iso
    (fun (a, b, c, d, e, f, g, h, i, j, k, l, m, n, o, p) =>
      ⟨a, b, c, d, e, f, g, h, i, j, k, l, m, n, o, p⟩)
    fun value => (value.deviceId, value.stationUserId, value.stationInstance,
      value.reportedAddress, value.deviceType, value.maxStreams, value.activeStreams,
      value.protocolFeatures, value.maxConferences, value.activeConferences, value.macAddress,
      value.ipv4AddressScope, value.maxLines, value.ipv6Address, value.ipv6AddressScope,
      value.firmware)

structure WireKeypadButtonLegacy where
  button : UInt32

def WireKeypadButtonLegacy.layout : Layout WireKeypadButtonLegacy :=
  Layout.u32.iso (fun p => ⟨p⟩) (fun value => value.button)

structure WireKeypadButtonWithCall where
  base : WireKeypadButtonLegacy
  (lineInstance callReference : UInt32)

def WireKeypadButtonWithCall.layout : Layout WireKeypadButtonWithCall :=
  (WireKeypadButtonLegacy.layout.pair <| Layout.u32.pair Layout.u32).iso
    (fun p => ⟨p.1, p.2.1, p.2.2⟩)
    fun value => (value.base, value.lineInstance, value.callReference)

structure WireKeypadButton where
  base : WireKeypadButtonWithCall
  (keypadUnion reserved : UInt32)

def WireKeypadButton.layout : Layout WireKeypadButton :=
  (WireKeypadButtonWithCall.layout.pair <| Layout.u32.pair Layout.u32).iso
    (fun p => ⟨p.1, p.2.1, p.2.2⟩) (fun value => (value.base, value.keypadUnion, value.reserved))

structure WireEnblocWithoutLine where
  calledParty : WireFixedText 24

def WireEnblocWithoutLine.layout : Layout WireEnblocWithoutLine :=
  (Layout.block 24).iso (fun p => ⟨p⟩) (fun value => value.calledParty)

structure WireEnblocWithLine (textBytes alignmentBytes : Nat) where
  calledParty : WireAlignedText textBytes alignmentBytes
  lineInstance : UInt32

def WireEnblocWithLine.layout (textBytes alignmentBytes : Nat) :
    Layout (WireEnblocWithLine textBytes alignmentBytes) :=
  ((WireAlignedText.layout textBytes alignmentBytes).pair Layout.u32).iso (fun p => ⟨p.1, p.2⟩)
    fun value => (value.calledParty, value.lineInstance)

structure WireOffHookWithCallingParty (textBytes alignmentBytes : Nat) where
  (callingPartyNumber voiceMailbox : WireFixedText textBytes)
  alignment : Block alignmentBytes
  lineInstance : UInt32

def WireOffHookWithCallingParty.layout (textBytes alignmentBytes : Nat) :
    Layout (WireOffHookWithCallingParty textBytes alignmentBytes) :=
  ((Layout.block textBytes).pair <| (Layout.block textBytes).pair <|
    (Layout.block alignmentBytes).pair Layout.u32).iso (fun p => ⟨p.1, p.2.1, p.2.2.1, p.2.2.2⟩)
    fun value => (value.callingPartyNumber, value.voiceMailbox, value.alignment,
      value.lineInstance)

structure WireStimulus where
  (stimulus instanceNumber callReference : UInt32)

def WireStimulus.layout : Layout WireStimulus :=
  (Layout.u32.pair <| Layout.u32.pair Layout.u32).iso (fun p => ⟨p.1, p.2.1, p.2.2⟩)
    fun value => (value.stimulus, value.instanceNumber, value.callReference)

structure WireMediaCapability where
  (codec maxFramesPerPacket : UInt32)
  codecParameters : Block 8

def WireMediaCapability.layout : Layout WireMediaCapability :=
  (Layout.u32.pair <| Layout.u32.pair (Layout.block 8)).iso (fun p => ⟨p.1, p.2.1, p.2.2⟩)
    fun value => (value.codec, value.maxFramesPerPacket, value.codecParameters)

structure WireMediaPortList where
  count : UInt32
  ports : Layout.Items UInt32 16

def WireMediaPortList.layout : Layout WireMediaPortList :=
  (Layout.u32.pair (Layout.u32.array 16)).iso (fun p => ⟨p.1, p.2⟩)
    fun value => (value.count, value.ports)

structure WireAlarmBase where
  severity : UInt32
  text : WireFixedText 80

def WireAlarmBase.layout : Layout WireAlarmBase :=
  (Layout.u32.pair (Layout.block 80)).iso (fun p => ⟨p.1, p.2⟩)
    fun value => (value.severity, value.text)

structure WireAlarm where
  base : WireAlarmBase
  (parameter1 parameter2 : UInt32)

def WireAlarm.layout : Layout WireAlarm :=
  (WireAlarmBase.layout.pair <| Layout.u32.pair Layout.u32).iso (fun p => ⟨p.1, p.2.1, p.2.2⟩)
    fun value => (value.base, value.parameter1, value.parameter2)

structure WireLocationInfo where
  xml : WireFixedText 2401
  alignment : Block 3

def WireLocationInfo.layout : Layout WireLocationInfo :=
  ((Layout.block 2401).pair (Layout.block 3)).iso (fun p => ⟨p.1, p.2⟩)
    fun value => (value.xml, value.alignment)

structure WireMulticastReceptionAck where
  (status passthroughPartyId callReference : UInt32)

def WireMulticastReceptionAck.layout : Layout WireMulticastReceptionAck :=
  (Layout.u32.pair <| Layout.u32.pair Layout.u32).iso (fun p => ⟨p.1, p.2.1, p.2.2⟩)
    fun value => (value.status, value.passthroughPartyId, value.callReference)

structure WireSoftKeyEvent where
  (event lineInstance callReference : UInt32)

def WireSoftKeyEvent.layout : Layout WireSoftKeyEvent :=
  (Layout.u32.pair <| Layout.u32.pair Layout.u32).iso (fun p => ⟨p.1, p.2.1, p.2.2⟩)
    fun value => (value.event, value.lineInstance, value.callReference)

structure WireRegisterToken where
  deviceId : WireFixedText 16
  deviceInstance : UInt32
  ipv4Address : Block 4
  deviceType : UInt32
  ipv6Address : Block 16
  flags : UInt32

def WireRegisterToken.layout : Layout WireRegisterToken :=
  ((Layout.block 16).pair <| Layout.u32.pair <| (Layout.block 4).pair <| Layout.u32.pair <|
    (Layout.block 16).pair Layout.u32).iso
    (fun (a, b, c, d, e, f) => ⟨a, b, c, d, e, f⟩)
    fun value => (value.deviceId, value.deviceInstance, value.ipv4Address, value.deviceType,
      value.ipv6Address, value.flags)

structure WireSpcpRegisterToken where
  deviceId : WireFixedText 16
  (reserved deviceInstance ipv4Address deviceType maxStreams : UInt32)

def WireSpcpRegisterToken.layout : Layout WireSpcpRegisterToken :=
  ((Layout.block 16).pair <| Layout.u32.pair <| Layout.u32.pair <| Layout.u32.pair <|
    Layout.u32.pair Layout.u32).iso
    (fun (a, b, c, d, e, f) => ⟨a, b, c, d, e, f⟩)
    fun value => (value.deviceId, value.reserved, value.deviceInstance, value.ipv4Address,
      value.deviceType, value.maxStreams)

structure WireMediaResourceNotification where
  (deviceType inServiceStreams maxStreamsPerConference outOfServiceStreams : UInt32)

def WireMediaResourceNotification.layout : Layout WireMediaResourceNotification :=
  (Layout.u32.pair <| Layout.u32.pair <| Layout.u32.pair Layout.u32).iso
    (fun p => ⟨p.1, p.2.1, p.2.2.1, p.2.2.2⟩)
    fun value => (value.deviceType, value.inServiceStreams, value.maxStreamsPerConference,
      value.outOfServiceStreams)

structure WireAccessoryStatus where
  (accessory state : UInt32)

def WireAccessoryStatus.layout : Layout WireAccessoryStatus :=
  (Layout.u32.pair Layout.u32).iso (fun p => ⟨p.1, p.2⟩)
    fun value => (value.accessory, value.state)

structure WireFeatureStatusRequest where
  (index capabilities : UInt32)

def WireFeatureStatusRequest.layout : Layout WireFeatureStatusRequest :=
  (Layout.u32.pair Layout.u32).iso (fun p => ⟨p.1, p.2⟩)
    fun value => (value.index, value.capabilities)

structure WireExtensionDeviceCapabilities where
  (unknown1 unknown2 unknown3 : UInt32)
  description : WireFixedText 152

def WireExtensionDeviceCapabilities.layout : Layout WireExtensionDeviceCapabilities :=
  (Layout.u32.pair <| Layout.u32.pair <| Layout.u32.pair (Layout.block 152)).iso
    (fun p => ⟨p.1, p.2.1, p.2.2.1, p.2.2.2⟩)
    fun value => (value.unknown1, value.unknown2, value.unknown3, value.description)

structure WireMediaFailure (Address : Type) where
  (conferenceId passthroughPartyId : UInt32)
  address : Address
  (port callReference : UInt32)

def WireMediaFailure.layout (Address : Type) [WireIpAddress Address] :
    Layout (WireMediaFailure Address) :=
  (Layout.u32.pair <| Layout.u32.pair <| WireIpAddress.layout.pair <|
    Layout.u32.pair Layout.u32).iso (fun (a, b, c, d, e) => ⟨a, b, c, d, e⟩)
    fun value => (value.conferenceId, value.passthroughPartyId, value.address, value.port,
      value.callReference)

structure WirePortResponse (Address : Type) where
  (conferenceId callReference passthroughPartyId : UInt32)
  address : Address
  (rtpPort rtcpPort : UInt32)

def WirePortResponse.layout (Address : Type) [WireIpAddress Address] :
    Layout (WirePortResponse Address) :=
  (Layout.u32.pair <| Layout.u32.pair <| Layout.u32.pair <| WireIpAddress.layout.pair <|
    Layout.u32.pair Layout.u32).iso
    (fun (a, b, c, d, e, f) => ⟨a, b, c, d, e, f⟩)
    fun value => (value.conferenceId, value.callReference, value.passthroughPartyId,
      value.address, value.rtpPort, value.rtcpPort)

structure WirePortResponseV20 where
  base : WirePortResponse WireExtendedAddress
  mediaType : UInt32

def WirePortResponseV20.layout : Layout WirePortResponseV20 :=
  ((WirePortResponse.layout WireExtendedAddress).pair Layout.u32).iso (fun p => ⟨p.1, p.2⟩)
    fun value => (value.base, value.mediaType)

structure WireSubscriptionRequest where
  (transactionId featureId timerSeconds : UInt32)
  subscriptionId : WireFixedText 256

def WireSubscriptionRequest.layout : Layout WireSubscriptionRequest :=
  (Layout.u32.pair <| Layout.u32.pair <| Layout.u32.pair (Layout.block 256)).iso
    (fun p => ⟨p.1, p.2.1, p.2.2.1, p.2.2.2⟩)
    fun value => (value.transactionId, value.featureId, value.timerSeconds, value.subscriptionId)

structure WireAddParticipantResponseHeader where
  (conferenceId callReference result : UInt32)

def WireAddParticipantResponseHeader.layout : Layout WireAddParticipantResponseHeader :=
  (Layout.u32.pair <| Layout.u32.pair Layout.u32).iso (fun p => ⟨p.1, p.2.1, p.2.2⟩)
    fun value => (value.conferenceId, value.callReference, value.result)

structure WireAuditParticipantResponseHeader where
  (result last conferenceId numberOfEntries : UInt32)

def WireAuditParticipantResponseHeader.layout : Layout WireAuditParticipantResponseHeader :=
  (Layout.u32.pair <| Layout.u32.pair <| Layout.u32.pair Layout.u32).iso
    (fun p => ⟨p.1, p.2.1, p.2.2.1, p.2.2.2⟩)
    fun value => (value.result, value.last, value.conferenceId, value.numberOfEntries)

structure WireAuditConferenceEntry where
  (conferenceId resourceType reservedParticipants activeParticipants applicationId : UInt32)
  applicationConferenceId : WireFixedText 32
  applicationData : WireFixedText 24

def WireAuditConferenceEntry.layout : Layout WireAuditConferenceEntry :=
  (Layout.u32.pair <| Layout.u32.pair <| Layout.u32.pair <| Layout.u32.pair <| Layout.u32.pair <|
    (Layout.block 32).pair (Layout.block 24)).iso
    (fun (a, b, c, d, e, f, g) => ⟨a, b, c, d, e, f, g⟩)
    fun value => (value.conferenceId, value.resourceType, value.reservedParticipants,
      value.activeParticipants, value.applicationId, value.applicationConferenceId,
      value.applicationData)

/-- The part of `WireConferenceResponse` before the data. -/
structure WireConferenceResponseHeader where
  (conferenceId result dataLength : UInt32)

def WireConferenceResponseHeader.layout : Layout WireConferenceResponseHeader :=
  (Layout.u32.pair <| Layout.u32.pair Layout.u32).iso (fun p => ⟨p.1, p.2.1, p.2.2⟩)
    fun value => (value.conferenceId, value.result, value.dataLength)

def WireConferenceResponse.counted : Counted WireConferenceResponseHeader UInt8 :=
  ⟨WireConferenceResponseHeader.layout, fun value => value.dataLength.toNat, Layout.u8⟩

/-- The part of `WireAuditConferenceResponse` before the entries. -/
structure WireAuditConferenceResponseHeader where
  (last numberOfEntries : UInt32)

def WireAuditConferenceResponseHeader.layout : Layout WireAuditConferenceResponseHeader :=
  (Layout.u32.pair Layout.u32).iso (fun p => ⟨p.1, p.2⟩)
    fun value => (value.last, value.numberOfEntries)

def WireAuditConferenceResponse.counted :
    Counted WireAuditConferenceResponseHeader WireAuditConferenceEntry :=
  ⟨WireAuditConferenceResponseHeader.layout, fun value => value.numberOfEntries.toNat,
    WireAuditConferenceEntry.layout⟩

end Sccp.Message
