/-
  Sccp.Message.ServerLayouts

  Wire layouts of the messages to stations (`message/codec.rs`).
-/

import Sccp.Message.Layouts

namespace Sccp.Message

open Sccp

/-! ## Media records -/

structure WireEncryptionInfo where
  algorithm : UInt32
  (keyLength saltLength : UInt16)
  (key salt : Block 16)
  (mkiPresent keyDerivationRate : UInt32)

def WireEncryptionInfo.layout : Layout WireEncryptionInfo :=
  (Layout.u32.pair <| Layout.u16.pair <| Layout.u16.pair <| (Layout.block 16).pair <|
    (Layout.block 16).pair <| Layout.u32.pair Layout.u32).iso
    (fun (a, b, c, d, e, f, g) => ⟨a, b, c, d, e, f, g⟩)
    fun value => (value.algorithm, value.keyLength, value.saltLength, value.key, value.salt,
      value.mkiPresent, value.keyDerivationRate)

structure WireLatentCapabilities where
  bytes : Block 36

def WireLatentCapabilities.layout : Layout WireLatentCapabilities :=
  (Layout.block 36).iso (fun p => ⟨p⟩) (fun value => value.bytes)

structure WireOpenReceiveV11 where
  (conferenceId passthroughPartyId packetMillis codec vad g723Bitrate callReference : UInt32)
  encryption : WireEncryptionInfo
  (streamPassthroughId associatedStreamId rfc2833Payload dtmfType : UInt32)

def WireOpenReceiveV11.layout : Layout WireOpenReceiveV11 :=
  (Layout.u32.pair <| Layout.u32.pair <| Layout.u32.pair <| Layout.u32.pair <| Layout.u32.pair <|
    Layout.u32.pair <| Layout.u32.pair <| WireEncryptionInfo.layout.pair <| Layout.u32.pair <|
    Layout.u32.pair <| Layout.u32.pair Layout.u32).iso
    (fun (a, b, c, d, e, f, g, h, i, j, k, l) => ⟨a, b, c, d, e, f, g, h, i, j, k, l⟩)
    fun value => (value.conferenceId, value.passthroughPartyId, value.packetMillis, value.codec,
      value.vad, value.g723Bitrate, value.callReference, value.encryption,
      value.streamPassthroughId, value.associatedStreamId, value.rfc2833Payload, value.dtmfType)

structure WireOpenReceiveAddressed (Address : Type) where
  base : WireOpenReceiveV11
  (mixingMode direction : UInt32)
  remote : Address
  remotePort : UInt32

def WireOpenReceiveAddressed.layout (Address : Type) [WireIpAddress Address] :
    Layout (WireOpenReceiveAddressed Address) :=
  (WireOpenReceiveV11.layout.pair <| Layout.u32.pair <| Layout.u32.pair <|
    WireIpAddress.layout.pair Layout.u32).iso (fun (a, b, c, d, e) => ⟨a, b, c, d, e⟩)
    fun value => (value.base, value.mixingMode, value.direction, value.remote, value.remotePort)

structure WireOpenReceiveV17 where
  base : WireOpenReceiveAddressed WireExtendedAddress
  requestedAddressType : UInt32

def WireOpenReceiveV17.layout : Layout WireOpenReceiveV17 :=
  ((WireOpenReceiveAddressed.layout WireExtendedAddress).pair Layout.u32).iso (fun p => ⟨p.1, p.2⟩)
    fun value => (value.base, value.requestedAddressType)

structure WireOpenReceiveV18 where
  base : WireOpenReceiveV17
  audioLevelAdjustment : UInt32

def WireOpenReceiveV18.layout : Layout WireOpenReceiveV18 :=
  (WireOpenReceiveV17.layout.pair Layout.u32).iso (fun p => ⟨p.1, p.2⟩)
    fun value => (value.base, value.audioLevelAdjustment)

structure WireOpenReceiveV21 where
  base : WireOpenReceiveV18
  latentCapabilities : WireLatentCapabilities

def WireOpenReceiveV21.layout : Layout WireOpenReceiveV21 :=
  (WireOpenReceiveV18.layout.pair WireLatentCapabilities.layout).iso (fun p => ⟨p.1, p.2⟩)
    fun value => (value.base, value.latentCapabilities)

structure WireStartMediaBase (Address : Type) where
  (conferenceId passthroughPartyId : UInt32)
  remote : Address
  (remotePort packetMillis codec precedence silenceSuppression maxFramesPerPacket g723Bitrate
    callReference : UInt32)
  encryption : WireEncryptionInfo
  (streamPassthroughId associatedStreamId rfc2833Payload dtmfType : UInt32)

def WireStartMediaBase.layout (Address : Type) [WireIpAddress Address] :
    Layout (WireStartMediaBase Address) :=
  (Layout.u32.pair <| Layout.u32.pair <| WireIpAddress.layout.pair <| Layout.u32.pair <|
    Layout.u32.pair <| Layout.u32.pair <| Layout.u32.pair <| Layout.u32.pair <| Layout.u32.pair <|
    Layout.u32.pair <| Layout.u32.pair <| WireEncryptionInfo.layout.pair <| Layout.u32.pair <|
    Layout.u32.pair <| Layout.u32.pair Layout.u32).iso
    (fun (a, b, c, d, e, f, g, h, i, j, k, l, m, n, o, p) =>
      ⟨a, b, c, d, e, f, g, h, i, j, k, l, m, n, o, p⟩)
    fun value => (value.conferenceId, value.passthroughPartyId, value.remote, value.remotePort,
      value.packetMillis, value.codec, value.precedence, value.silenceSuppression,
      value.maxFramesPerPacket, value.g723Bitrate, value.callReference, value.encryption,
      value.streamPassthroughId, value.associatedStreamId, value.rfc2833Payload, value.dtmfType)

structure WireStartMediaDirected (Address : Type) where
  base : WireStartMediaBase Address
  (mixingMode direction : UInt32)

def WireStartMediaDirected.layout (Address : Type) [WireIpAddress Address] :
    Layout (WireStartMediaDirected Address) :=
  ((WireStartMediaBase.layout Address).pair <| Layout.u32.pair Layout.u32).iso
    (fun p => ⟨p.1, p.2.1, p.2.2⟩) (fun value => (value.base, value.mixingMode, value.direction))

structure WireStartMediaV21 where
  base : WireStartMediaDirected WireExtendedAddress
  latentCapabilities : WireLatentCapabilities

def WireStartMediaV21.layout : Layout WireStartMediaV21 :=
  ((WireStartMediaDirected.layout WireExtendedAddress).pair WireLatentCapabilities.layout).iso
    (fun p => ⟨p.1, p.2⟩) (fun value => (value.base, value.latentCapabilities))

structure WireMultimediaPayloadDescriptor where
  (payloadRfcNumber payloadType : UInt32)

def WireMultimediaPayloadDescriptor.layout : Layout WireMultimediaPayloadDescriptor :=
  (Layout.u32.pair Layout.u32).iso (fun p => ⟨p.1, p.2⟩)
    fun value => (value.payloadRfcNumber, value.payloadType)

structure WireOpenMultimediaV11 where
  (conferenceId passthroughPartyId compressionType lineInstance callReference : UInt32)
  payloadType : WireMultimediaPayloadDescriptor
  conferenceCreator : UInt32
  capability : Block 76
  encryption : WireEncryptionInfo
  (streamPassthroughId associatedStreamId : UInt32)

def WireOpenMultimediaV11.layout : Layout WireOpenMultimediaV11 :=
  (Layout.u32.pair <| Layout.u32.pair <| Layout.u32.pair <| Layout.u32.pair <| Layout.u32.pair <|
    WireMultimediaPayloadDescriptor.layout.pair <| Layout.u32.pair <| (Layout.block 76).pair <|
    WireEncryptionInfo.layout.pair <| Layout.u32.pair Layout.u32).iso
    (fun (a, b, c, d, e, f, g, h, i, j, k) => ⟨a, b, c, d, e, f, g, h, i, j, k⟩)
    fun value => (value.conferenceId, value.passthroughPartyId, value.compressionType,
      value.lineInstance, value.callReference, value.payloadType, value.conferenceCreator,
      value.capability, value.encryption, value.streamPassthroughId, value.associatedStreamId)

structure WireOpenMultimediaAddressed (Address : Type) where
  base : WireOpenMultimediaV11
  sourceAddress : Address
  sourcePort : UInt32

def WireOpenMultimediaAddressed.layout (Address : Type) [WireIpAddress Address] :
    Layout (WireOpenMultimediaAddressed Address) :=
  (WireOpenMultimediaV11.layout.pair <| WireIpAddress.layout.pair Layout.u32).iso
    (fun p => ⟨p.1, p.2.1, p.2.2⟩)
    fun value => (value.base, value.sourceAddress, value.sourcePort)

structure WireOpenMultimediaV17 where
  base : WireOpenMultimediaAddressed WireExtendedAddress
  requestedAddressType : UInt32

def WireOpenMultimediaV17.layout : Layout WireOpenMultimediaV17 :=
  ((WireOpenMultimediaAddressed.layout WireExtendedAddress).pair Layout.u32).iso
    (fun p => ⟨p.1, p.2⟩) (fun value => (value.base, value.requestedAddressType))

structure WireStartMultimedia (Address : Type) where
  (conferenceId passthroughPartyId compressionType : UInt32)
  remoteAddress : Address
  (remotePort callReference : UInt32)
  payloadType : WireMultimediaPayloadDescriptor
  dscp : UInt32
  capability : Block 76
  encryption : WireEncryptionInfo
  (streamPassthroughId associatedStreamId : UInt32)

def WireStartMultimedia.layout (Address : Type) [WireIpAddress Address] :
    Layout (WireStartMultimedia Address) :=
  (Layout.u32.pair <| Layout.u32.pair <| Layout.u32.pair <| WireIpAddress.layout.pair <|
    Layout.u32.pair <| Layout.u32.pair <| WireMultimediaPayloadDescriptor.layout.pair <|
    Layout.u32.pair <| (Layout.block 76).pair <| WireEncryptionInfo.layout.pair <|
    Layout.u32.pair Layout.u32).iso
    (fun (a, b, c, d, e, f, g, h, i, j, k, l) => ⟨a, b, c, d, e, f, g, h, i, j, k, l⟩)
    fun value => (value.conferenceId, value.passthroughPartyId, value.compressionType,
      value.remoteAddress, value.remotePort, value.callReference, value.payloadType, value.dscp,
      value.capability, value.encryption, value.streamPassthroughId, value.associatedStreamId)

/-! ## Call and display records -/

structure WireConfigStatus where
  deviceId : WireFixedText 16
  (stationUserId stationInstance : UInt32)
  (userName serverName : WireFixedText 40)
  (lineCount speedDialCount : UInt32)

def WireConfigStatus.layout : Layout WireConfigStatus :=
  ((Layout.block 16).pair <| Layout.u32.pair <| Layout.u32.pair <| (Layout.block 40).pair <|
    (Layout.block 40).pair <| Layout.u32.pair Layout.u32).iso
    (fun (a, b, c, d, e, f, g) => ⟨a, b, c, d, e, f, g⟩)
    fun value => (value.deviceId, value.stationUserId, value.stationInstance, value.userName,
      value.serverName, value.lineCount, value.speedDialCount)

structure WireLineStatus where
  lineInstance : UInt32
  directoryNumber : WireFixedText 24
  (displayName displayLabel : WireFixedText 40)
  reserved : UInt32

def WireLineStatus.layout : Layout WireLineStatus :=
  (Layout.u32.pair <| (Layout.block 24).pair <| (Layout.block 40).pair <|
    (Layout.block 40).pair Layout.u32).iso (fun (a, b, c, d, e) => ⟨a, b, c, d, e⟩)
    fun value => (value.lineInstance, value.directoryNumber, value.displayName,
      value.displayLabel, value.reserved)

structure WireLineStatusDynamicHeader where
  (lineInstance lineType : UInt32)

def WireLineStatusDynamicHeader.layout : Layout WireLineStatusDynamicHeader :=
  (Layout.u32.pair Layout.u32).iso (fun p => ⟨p.1, p.2⟩)
    fun value => (value.lineInstance, value.lineType)

structure WireCallInfo where
  callingName : WireFixedText 40
  callingNumber : WireFixedText 24
  calledName : WireFixedText 40
  calledNumber : WireFixedText 24
  (lineInstance callReference callType : UInt32)
  originalCalledName : WireFixedText 40
  originalCalledNumber : WireFixedText 24
  lastRedirectingName : WireFixedText 40
  lastRedirectingNumber : WireFixedText 24
  (originalRedirectReason lastRedirectReason : UInt32)
  voiceMailboxes : Layout.Items (WireFixedText 24) 4
  (callInstance securityStatus partyRestrictions : UInt32)

def WireCallInfo.layout : Layout WireCallInfo :=
  ((Layout.block 40).pair <| (Layout.block 24).pair <| (Layout.block 40).pair <|
    (Layout.block 24).pair <| Layout.u32.pair <| Layout.u32.pair <| Layout.u32.pair <|
    (Layout.block 40).pair <| (Layout.block 24).pair <| (Layout.block 40).pair <|
    (Layout.block 24).pair <| Layout.u32.pair <| Layout.u32.pair <|
    ((Layout.block 24).array 4).pair <| Layout.u32.pair <| Layout.u32.pair Layout.u32).iso
    (fun (a, b, c, d, e, f, g, h, i, j, k, l, m, n, o, p, q) =>
      ⟨a, b, c, d, e, f, g, h, i, j, k, l, m, n, o, p, q⟩)
    fun value => (value.callingName, value.callingNumber, value.calledName, value.calledNumber,
      value.lineInstance, value.callReference, value.callType, value.originalCalledName,
      value.originalCalledNumber, value.lastRedirectingName, value.lastRedirectingNumber,
      value.originalRedirectReason, value.lastRedirectReason, value.voiceMailboxes,
      value.callInstance, value.securityStatus, value.partyRestrictions)

structure WireCallInfoDynamicHeader where
  (lineInstance callReference callType originalRedirectReason lastRedirectReason callInstance
    securityStatus partyRestrictions : UInt32)

def WireCallInfoDynamicHeader.layout : Layout WireCallInfoDynamicHeader :=
  (Layout.u32.pair <| Layout.u32.pair <| Layout.u32.pair <| Layout.u32.pair <| Layout.u32.pair <|
    Layout.u32.pair <| Layout.u32.pair Layout.u32).iso
    (fun (a, b, c, d, e, f, g, h) => ⟨a, b, c, d, e, f, g, h⟩) (fun value =>
      (value.lineInstance, value.callReference, value.callType, value.originalRedirectReason,
        value.lastRedirectReason, value.callInstance, value.securityStatus,
        value.partyRestrictions))

structure WirePromptStatus where
  timeoutSeconds : UInt32
  text : WireFixedText 32
  (lineInstance callReference : UInt32)

def WirePromptStatus.layout : Layout WirePromptStatus :=
  (Layout.u32.pair <| (Layout.block 32).pair <| Layout.u32.pair Layout.u32).iso
    (fun p => ⟨p.1, p.2.1, p.2.2.1, p.2.2.2⟩)
    fun value => (value.timeoutSeconds, value.text, value.lineInstance, value.callReference)

structure WireDynamicPromptHeader where
  (timeoutSeconds lineInstance callReference : UInt32)

def WireDynamicPromptHeader.layout : Layout WireDynamicPromptHeader :=
  (Layout.u32.pair <| Layout.u32.pair Layout.u32).iso (fun p => ⟨p.1, p.2.1, p.2.2⟩)
    fun value => (value.timeoutSeconds, value.lineInstance, value.callReference)

structure WireNotify where
  timeoutSeconds : UInt32
  text : WireFixedText 32

def WireNotify.layout : Layout WireNotify :=
  (Layout.u32.pair (Layout.block 32)).iso (fun p => ⟨p.1, p.2⟩)
    fun value => (value.timeoutSeconds, value.text)

structure WireDynamicNotifyHeader where
  timeoutSeconds : UInt32

def WireDynamicNotifyHeader.layout : Layout WireDynamicNotifyHeader :=
  Layout.u32.iso (fun p => ⟨p⟩) (fun value => value.timeoutSeconds)

structure WirePriorityNotify where
  (timeoutSeconds priority : UInt32)
  text : WireFixedText 32

def WirePriorityNotify.layout : Layout WirePriorityNotify :=
  (Layout.u32.pair <| Layout.u32.pair (Layout.block 32)).iso (fun p => ⟨p.1, p.2.1, p.2.2⟩)
    fun value => (value.timeoutSeconds, value.priority, value.text)

structure WireDynamicPriorityNotifyHeader where
  (timeoutSeconds priority : UInt32)

def WireDynamicPriorityNotifyHeader.layout : Layout WireDynamicPriorityNotifyHeader :=
  (Layout.u32.pair Layout.u32).iso (fun p => ⟨p.1, p.2⟩)
    fun value => (value.timeoutSeconds, value.priority)

structure WireSpeedDialStatus where
  instanceNumber : UInt32
  number : WireFixedText 24
  displayName : WireFixedText 40

def WireSpeedDialStatus.layout : Layout WireSpeedDialStatus :=
  (Layout.u32.pair <| (Layout.block 24).pair (Layout.block 40)).iso (fun p => ⟨p.1, p.2.1, p.2.2⟩)
    fun value => (value.instanceNumber, value.number, value.displayName)

structure WireServiceUrlStatus where
  index : UInt32
  url : WireFixedText 256
  label : WireFixedText 40

def WireServiceUrlStatus.layout : Layout WireServiceUrlStatus :=
  (Layout.u32.pair <| (Layout.block 256).pair (Layout.block 40)).iso (fun p => ⟨p.1, p.2.1, p.2.2⟩)
    fun value => (value.index, value.url, value.label)

end Sccp.Message
