/-
  Sccp.Message.Catalog

  The catalog of message identifiers (`message/catalog.rs`).

  Every known identifier has a number on the wire and a contract: who sends it to whom,
  whether its payload is typed, how the payload is laid out and how much of it a typed
  decoder keeps.
-/

import Sccp.Message.Wire

namespace Sccp

inductive MessageId where
  | keepAlive | register | ipPort | keypadButton | enblocCall | stimulus | offHook | onHook
  | hookFlash | forwardStatusRequest | speedDialStatusRequest | lineStatusRequest
  | configStatusRequest | timeDateRequest | buttonTemplateRequest | versionRequest
  | capabilitiesResponse | mediaPortList | serverRequest | alarm | multicastMediaReceptionAck
  | openReceiveChannelAck | connectionStatisticsResponse | offHookWithCallingParty
  | softKeySetRequest | softKeyEvent | unregister | softKeyTemplateRequest
  | registerTokenRequest | mediaTransmissionFailure | headsetStatus | mediaResourceNotification
  | registerAvailableLines | deviceToUserData | deviceToUserDataResponse | updateCapabilities
  | openMultimediaReceiveChannelAck | clearConference | serviceUrlStatusRequest
  | featureStatusRequest | createConferenceResponse | deleteConferenceResponse
  | modifyConferenceResponse | addParticipantResponse | auditConferenceResponse
  | auditParticipantResponse | deviceToUserDataV1 | deviceToUserDataResponseV1
  | updateCapabilitiesV2 | updateCapabilitiesV3 | portResponse | qosReservationNotify
  | qosErrorNotify | subscriptionStatusRequest | mediaPathEvent | mediaPathCapability
  | mwiNotification | registerAck | startTone | stopTone | setRinger | setLamp
  | setHookFlashDetect | setSpeakerMode | setMicrophoneMode | startMediaTransmission
  | stopMediaTransmission | startMediaReception | stopMediaReception | callInfo | forwardStatus
  | speedDialStatus | lineStatus | configStatus | defineTimeDate | startSessionTransmission
  | stopSessionTransmission | buttonTemplate | version | displayText | clearDisplay
  | capabilitiesRequest | enunciatorCommand | registerReject | serverResponse | reset
  | keepAliveAck | startMulticastMediaReception | startMulticastMediaTransmission
  | stopMulticastMediaReception | stopMulticastMediaTransmission | openReceiveChannel
  | closeReceiveChannel | connectionStatisticsRequest | softKeyTemplateResponse
  | softKeySetResponse | selectSoftKeys | callState | displayPromptStatus | clearPromptStatus
  | displayNotify | clearNotify | activateCallPlane | deactivateCallPlane | unregisterAck
  | backspaceResponse | registerTokenAck | registerTokenReject | startMediaFailureDetection
  | dialedNumber | userToDeviceData | featureStatus | displayPriorityNotify
  | clearPriorityNotify | startAnnouncement | stopAnnouncement | announcementFinish
  | notifyDtmfTone | sendDtmfTone | subscribeDtmfPayloadRequest | subscribeDtmfPayloadResponse
  | subscribeDtmfPayloadError | unsubscribeDtmfPayloadRequest | unsubscribeDtmfPayloadResponse
  | unsubscribeDtmfPayloadError | serviceUrlStatus | callSelectStatus | openMultimediaChannel
  | startMultimediaTransmission | stopMultimediaTransmission | miscellaneousCommand
  | flowControlCommand | closeMultimediaReceiveChannel | createConferenceRequest
  | deleteConferenceRequest | modifyConferenceRequest | addParticipantRequest
  | dropParticipantRequest | auditConferenceRequest | auditParticipantRequest
  | changeParticipantRequest | userToDeviceDataV1 | videoDisplayCommand | flowControlNotify
  | configStatusDynamic | displayDynamicNotify | displayDynamicPriorityNotify
  | displayDynamicPromptStatus | featureStatusDynamic | lineStatusDynamic
  | serviceUrlStatusDynamic | speedDialStatusDynamic | callInfoDynamic | portRequest
  | portClose | qosListen | qosPath | qosTeardown | updateDscp | qosModify | subscriptionStatus
  | notification | startMediaTransmissionAck | startMultimediaTransmissionAck
  | callHistoryDisposition | locationInfo | mwiResponse | extensionDeviceCapabilities
  | xmlAlarm | callCountRequest | callCountResponse | recordingStatus
  | spcpRegisterTokenRequest | spcpRegisterTokenAck | spcpRegisterTokenReject
  | unknown (value : UInt32)
  deriving DecidableEq

namespace MessageId

def wireValue : MessageId → UInt32
  | .keepAlive => 0x0000
  | .register => 0x0001
  | .ipPort => 0x0002
  | .keypadButton => 0x0003
  | .enblocCall => 0x0004
  | .stimulus => 0x0005
  | .offHook => 0x0006
  | .onHook => 0x0007
  | .hookFlash => 0x0008
  | .forwardStatusRequest => 0x0009
  | .speedDialStatusRequest => 0x000a
  | .lineStatusRequest => 0x000b
  | .configStatusRequest => 0x000c
  | .timeDateRequest => 0x000d
  | .buttonTemplateRequest => 0x000e
  | .versionRequest => 0x000f
  | .capabilitiesResponse => 0x0010
  | .mediaPortList => 0x0011
  | .serverRequest => 0x0012
  | .alarm => 0x0020
  | .multicastMediaReceptionAck => 0x0021
  | .openReceiveChannelAck => 0x0022
  | .connectionStatisticsResponse => 0x0023
  | .offHookWithCallingParty => 0x0024
  | .softKeySetRequest => 0x0025
  | .softKeyEvent => 0x0026
  | .unregister => 0x0027
  | .softKeyTemplateRequest => 0x0028
  | .registerTokenRequest => 0x0029
  | .mediaTransmissionFailure => 0x002a
  | .headsetStatus => 0x002b
  | .mediaResourceNotification => 0x002c
  | .registerAvailableLines => 0x002d
  | .deviceToUserData => 0x002e
  | .deviceToUserDataResponse => 0x002f
  | .updateCapabilities => 0x0030
  | .openMultimediaReceiveChannelAck => 0x0031
  | .clearConference => 0x0032
  | .serviceUrlStatusRequest => 0x0033
  | .featureStatusRequest => 0x0034
  | .createConferenceResponse => 0x0035
  | .deleteConferenceResponse => 0x0036
  | .modifyConferenceResponse => 0x0037
  | .addParticipantResponse => 0x0038
  | .auditConferenceResponse => 0x0039
  | .auditParticipantResponse => 0x0040
  | .deviceToUserDataV1 => 0x0041
  | .deviceToUserDataResponseV1 => 0x0042
  | .updateCapabilitiesV2 => 0x0043
  | .updateCapabilitiesV3 => 0x0044
  | .portResponse => 0x0045
  | .qosReservationNotify => 0x0046
  | .qosErrorNotify => 0x0047
  | .subscriptionStatusRequest => 0x0048
  | .mediaPathEvent => 0x0049
  | .mediaPathCapability => 0x004a
  | .mwiNotification => 0x004c
  | .registerAck => 0x0081
  | .startTone => 0x0082
  | .stopTone => 0x0083
  | .setRinger => 0x0085
  | .setLamp => 0x0086
  | .setHookFlashDetect => 0x0087
  | .setSpeakerMode => 0x0088
  | .setMicrophoneMode => 0x0089
  | .startMediaTransmission => 0x008a
  | .stopMediaTransmission => 0x008b
  | .startMediaReception => 0x008c
  | .stopMediaReception => 0x008d
  | .callInfo => 0x008f
  | .forwardStatus => 0x0090
  | .speedDialStatus => 0x0091
  | .lineStatus => 0x0092
  | .configStatus => 0x0093
  | .defineTimeDate => 0x0094
  | .startSessionTransmission => 0x0095
  | .stopSessionTransmission => 0x0096
  | .buttonTemplate => 0x0097
  | .version => 0x0098
  | .displayText => 0x0099
  | .clearDisplay => 0x009a
  | .capabilitiesRequest => 0x009b
  | .enunciatorCommand => 0x009c
  | .registerReject => 0x009d
  | .serverResponse => 0x009e
  | .reset => 0x009f
  | .keepAliveAck => 0x0100
  | .startMulticastMediaReception => 0x0101
  | .startMulticastMediaTransmission => 0x0102
  | .stopMulticastMediaReception => 0x0103
  | .stopMulticastMediaTransmission => 0x0104
  | .openReceiveChannel => 0x0105
  | .closeReceiveChannel => 0x0106
  | .connectionStatisticsRequest => 0x0107
  | .softKeyTemplateResponse => 0x0108
  | .softKeySetResponse => 0x0109
  | .selectSoftKeys => 0x0110
  | .callState => 0x0111
  | .displayPromptStatus => 0x0112
  | .clearPromptStatus => 0x0113
  | .displayNotify => 0x0114
  | .clearNotify => 0x0115
  | .activateCallPlane => 0x0116
  | .deactivateCallPlane => 0x0117
  | .unregisterAck => 0x0118
  | .backspaceResponse => 0x0119
  | .registerTokenAck => 0x011a
  | .registerTokenReject => 0x011b
  | .startMediaFailureDetection => 0x011c
  | .dialedNumber => 0x011d
  | .userToDeviceData => 0x011e
  | .featureStatus => 0x011f
  | .displayPriorityNotify => 0x0120
  | .clearPriorityNotify => 0x0121
  | .startAnnouncement => 0x0122
  | .stopAnnouncement => 0x0123
  | .announcementFinish => 0x0124
  | .notifyDtmfTone => 0x0127
  | .sendDtmfTone => 0x0128
  | .subscribeDtmfPayloadRequest => 0x0129
  | .subscribeDtmfPayloadResponse => 0x012a
  | .subscribeDtmfPayloadError => 0x012b
  | .unsubscribeDtmfPayloadRequest => 0x012c
  | .unsubscribeDtmfPayloadResponse => 0x012d
  | .unsubscribeDtmfPayloadError => 0x012e
  | .serviceUrlStatus => 0x012f
  | .callSelectStatus => 0x0130
  | .openMultimediaChannel => 0x0131
  | .startMultimediaTransmission => 0x0132
  | .stopMultimediaTransmission => 0x0133
  | .miscellaneousCommand => 0x0134
  | .flowControlCommand => 0x0135
  | .closeMultimediaReceiveChannel => 0x0136
  | .createConferenceRequest => 0x0137
  | .deleteConferenceRequest => 0x0138
  | .modifyConferenceRequest => 0x0139
  | .addParticipantRequest => 0x013a
  | .dropParticipantRequest => 0x013b
  | .auditConferenceRequest => 0x013c
  | .auditParticipantRequest => 0x013d
  | .changeParticipantRequest => 0x013e
  | .userToDeviceDataV1 => 0x013f
  | .videoDisplayCommand => 0x0140
  | .flowControlNotify => 0x0141
  | .configStatusDynamic => 0x0142
  | .displayDynamicNotify => 0x0143
  | .displayDynamicPriorityNotify => 0x0144
  | .displayDynamicPromptStatus => 0x0145
  | .featureStatusDynamic => 0x0146
  | .lineStatusDynamic => 0x0147
  | .serviceUrlStatusDynamic => 0x0148
  | .speedDialStatusDynamic => 0x0149
  | .callInfoDynamic => 0x014a
  | .portRequest => 0x014b
  | .portClose => 0x014c
  | .qosListen => 0x014d
  | .qosPath => 0x014e
  | .qosTeardown => 0x014f
  | .updateDscp => 0x0150
  | .qosModify => 0x0151
  | .subscriptionStatus => 0x0152
  | .notification => 0x0153
  | .startMediaTransmissionAck => 0x0154
  | .startMultimediaTransmissionAck => 0x0155
  | .callHistoryDisposition => 0x0156
  | .locationInfo => 0x0157
  | .mwiResponse => 0x0158
  | .extensionDeviceCapabilities => 0x0159
  | .xmlAlarm => 0x015a
  | .callCountRequest => 0x015e
  | .callCountResponse => 0x015f
  | .recordingStatus => 0x0160
  | .spcpRegisterTokenRequest => 0x8000
  | .spcpRegisterTokenAck => 0x8100
  | .spcpRegisterTokenReject => 0x8101
  | .unknown value => value

/-- Every known identifier, in the order of the catalog. -/
def allKnown : List MessageId := [
  .keepAlive, .register, .ipPort, .keypadButton, .enblocCall, .stimulus, .offHook, .onHook,
  .hookFlash, .forwardStatusRequest, .speedDialStatusRequest, .lineStatusRequest,
  .configStatusRequest, .timeDateRequest, .buttonTemplateRequest, .versionRequest,
  .capabilitiesResponse, .mediaPortList, .serverRequest, .alarm, .multicastMediaReceptionAck,
  .openReceiveChannelAck, .connectionStatisticsResponse, .offHookWithCallingParty,
  .softKeySetRequest, .softKeyEvent, .unregister, .softKeyTemplateRequest, .registerTokenRequest,
  .mediaTransmissionFailure, .headsetStatus, .mediaResourceNotification, .registerAvailableLines,
  .deviceToUserData, .deviceToUserDataResponse, .updateCapabilities,
  .openMultimediaReceiveChannelAck, .clearConference, .serviceUrlStatusRequest,
  .featureStatusRequest, .createConferenceResponse, .deleteConferenceResponse,
  .modifyConferenceResponse, .addParticipantResponse, .auditConferenceResponse,
  .auditParticipantResponse, .deviceToUserDataV1, .deviceToUserDataResponseV1,
  .updateCapabilitiesV2, .updateCapabilitiesV3, .portResponse, .qosReservationNotify,
  .qosErrorNotify, .subscriptionStatusRequest, .mediaPathEvent, .mediaPathCapability,
  .mwiNotification, .registerAck, .startTone, .stopTone, .setRinger, .setLamp,
  .setHookFlashDetect, .setSpeakerMode, .setMicrophoneMode, .startMediaTransmission,
  .stopMediaTransmission, .startMediaReception, .stopMediaReception, .callInfo, .forwardStatus,
  .speedDialStatus, .lineStatus, .configStatus, .defineTimeDate, .startSessionTransmission,
  .stopSessionTransmission, .buttonTemplate, .version, .displayText, .clearDisplay,
  .capabilitiesRequest, .enunciatorCommand, .registerReject, .serverResponse, .reset,
  .keepAliveAck, .startMulticastMediaReception, .startMulticastMediaTransmission,
  .stopMulticastMediaReception, .stopMulticastMediaTransmission, .openReceiveChannel,
  .closeReceiveChannel, .connectionStatisticsRequest, .softKeyTemplateResponse,
  .softKeySetResponse, .selectSoftKeys, .callState, .displayPromptStatus, .clearPromptStatus,
  .displayNotify, .clearNotify, .activateCallPlane, .deactivateCallPlane, .unregisterAck,
  .backspaceResponse, .registerTokenAck, .registerTokenReject, .startMediaFailureDetection,
  .dialedNumber, .userToDeviceData, .featureStatus, .displayPriorityNotify, .clearPriorityNotify,
  .startAnnouncement, .stopAnnouncement, .announcementFinish, .notifyDtmfTone, .sendDtmfTone,
  .subscribeDtmfPayloadRequest, .subscribeDtmfPayloadResponse, .subscribeDtmfPayloadError,
  .unsubscribeDtmfPayloadRequest, .unsubscribeDtmfPayloadResponse, .unsubscribeDtmfPayloadError,
  .serviceUrlStatus, .callSelectStatus, .openMultimediaChannel, .startMultimediaTransmission,
  .stopMultimediaTransmission, .miscellaneousCommand, .flowControlCommand,
  .closeMultimediaReceiveChannel, .createConferenceRequest, .deleteConferenceRequest,
  .modifyConferenceRequest, .addParticipantRequest, .dropParticipantRequest,
  .auditConferenceRequest, .auditParticipantRequest, .changeParticipantRequest,
  .userToDeviceDataV1, .videoDisplayCommand, .flowControlNotify, .configStatusDynamic,
  .displayDynamicNotify, .displayDynamicPriorityNotify, .displayDynamicPromptStatus,
  .featureStatusDynamic, .lineStatusDynamic, .serviceUrlStatusDynamic, .speedDialStatusDynamic,
  .callInfoDynamic, .portRequest, .portClose, .qosListen, .qosPath, .qosTeardown, .updateDscp,
  .qosModify, .subscriptionStatus, .notification, .startMediaTransmissionAck,
  .startMultimediaTransmissionAck, .callHistoryDisposition, .locationInfo, .mwiResponse,
  .extensionDeviceCapabilities, .xmlAlarm, .callCountRequest, .callCountResponse,
  .recordingStatus, .spcpRegisterTokenRequest, .spcpRegisterTokenAck, .spcpRegisterTokenReject]

/-- `MessageId::from`. -/
def ofWire (value : UInt32) : MessageId :=
  (allKnown.find? fun id => id.wireValue = value).getD (.unknown value)

end MessageId

/-- Whether a known message has a typed payload codec. -/
inductive CodecSupport where
  | typed | opaqueOnly
  deriving DecidableEq

/-- How a payload is laid out. -/
inductive PayloadLayout where
  | empty | fixed | versionSelected | versionAndLengthSelected | lengthSelected
  | minimumLengthPreserved | lengthPrefixed | boundedPreserved | boundedOpaque
  | dynamicWordPadded | opaqueBytes
  deriving DecidableEq

/-- Whether all semantic fields survive typed decoding and encoding. -/
inductive FieldFidelity where
  | lossless | canonicalServerOutput | semanticProjection | opaquePreserved
  deriving DecidableEq

structure MessageContract where
  route : MessageRoute
  codec : CodecSupport
  payloadLayout : PayloadLayout
  fieldFidelity : FieldFidelity
  deriving DecidableEq

namespace MessageId

/-- The contract of a known identifier. -/
def contract : MessageId → Option MessageContract
  | .keepAlive | .configStatusRequest | .timeDateRequest | .buttonTemplateRequest
  | .versionRequest | .serverRequest | .softKeySetRequest | .softKeyTemplateRequest =>
    some ⟨.stationToControl, .typed, .empty, .semanticProjection⟩
  | .register | .onHook | .capabilitiesResponse | .connectionStatisticsResponse =>
    some ⟨.stationToControl, .typed, .versionAndLengthSelected, .semanticProjection⟩
  | .ipPort | .offHook | .hookFlash | .forwardStatusRequest | .speedDialStatusRequest
  | .lineStatusRequest | .alarm | .multicastMediaReceptionAck | .offHookWithCallingParty
  | .softKeyEvent | .serviceUrlStatusRequest | .updateCapabilitiesV2
  | .subscriptionStatusRequest | .mediaPathEvent | .mediaPathCapability
  | .subscribeDtmfPayloadResponse | .unsubscribeDtmfPayloadResponse | .locationInfo
  | .extensionDeviceCapabilities =>
    some ⟨.stationToControl, .typed, .fixed, .lossless⟩
  | .keypadButton | .enblocCall | .updateCapabilities | .startMediaTransmissionAck
  | .callCountRequest =>
    some ⟨.stationToControl, .typed, .versionAndLengthSelected, .lossless⟩
  | .stimulus | .featureStatusRequest =>
    some ⟨.stationToControl, .typed, .lengthSelected, .lossless⟩
  | .mediaPortList | .unregister | .registerTokenRequest | .headsetStatus
  | .registerAvailableLines | .spcpRegisterTokenRequest =>
    some ⟨.stationToControl, .typed, .fixed, .semanticProjection⟩
  | .openReceiveChannelAck | .openMultimediaReceiveChannelAck
  | .startMultimediaTransmissionAck =>
    some ⟨.stationToControl, .typed, .versionSelected, .lossless⟩
  | .mediaTransmissionFailure =>
    some ⟨.stationToControl, .typed, .versionSelected, .semanticProjection⟩
  | .mediaResourceNotification | .clearConference | .deleteConferenceResponse
  | .qosReservationNotify | .qosErrorNotify | .mwiNotification =>
    some ⟨.serviceNodeToControl, .typed, .fixed, .lossless⟩
  | .deviceToUserData | .deviceToUserDataResponse | .deviceToUserDataV1
  | .deviceToUserDataResponseV1 =>
    some ⟨.stationToControl, .typed, .lengthPrefixed, .lossless⟩
  | .createConferenceResponse | .modifyConferenceResponse | .auditConferenceResponse =>
    some ⟨.serviceNodeToControl, .typed, .lengthPrefixed, .lossless⟩
  | .addParticipantResponse =>
    some ⟨.serviceNodeToControl, .typed, .minimumLengthPreserved, .lossless⟩
  | .auditParticipantResponse =>
    some ⟨.serviceNodeToControl, .typed, .boundedOpaque, .lossless⟩
  | .updateCapabilitiesV3 =>
    some ⟨.stationToControl, .typed, .minimumLengthPreserved, .lossless⟩
  | .portResponse =>
    some ⟨.serviceNodeToControl, .typed, .versionSelected, .semanticProjection⟩
  | .registerAck | .startTone | .setRinger | .setLamp | .setHookFlashDetect
  | .setSpeakerMode | .setMicrophoneMode | .stopMediaTransmission | .startMediaReception
  | .stopMediaReception | .speedDialStatus | .configStatus | .defineTimeDate | .version
  | .displayText | .enunciatorCommand | .registerReject | .reset
  | .stopMulticastMediaReception | .stopMulticastMediaTransmission | .closeReceiveChannel
  | .selectSoftKeys | .displayPromptStatus | .clearPromptStatus | .displayNotify
  | .activateCallPlane | .backspaceResponse | .registerTokenReject
  | .startMediaFailureDetection | .featureStatus | .displayPriorityNotify
  | .clearPriorityNotify | .notifyDtmfTone | .sendDtmfTone | .subscribeDtmfPayloadRequest
  | .subscribeDtmfPayloadError | .unsubscribeDtmfPayloadRequest
  | .unsubscribeDtmfPayloadError | .serviceUrlStatus | .callSelectStatus
  | .stopMultimediaTransmission | .miscellaneousCommand | .flowControlCommand
  | .closeMultimediaReceiveChannel | .videoDisplayCommand | .flowControlNotify
  | .featureStatusDynamic | .speedDialStatusDynamic | .subscriptionStatus | .notification
  | .callHistoryDisposition | .recordingStatus | .spcpRegisterTokenAck
  | .spcpRegisterTokenReject =>
    some ⟨.controlToStation, .typed, .fixed, .lossless⟩
  | .stopTone | .callInfo | .lineStatus | .buttonTemplate | .softKeyTemplateResponse
  | .softKeySetResponse | .callState | .unregisterAck =>
    some ⟨.controlToStation, .typed, .fixed, .canonicalServerOutput⟩
  | .startMediaTransmission | .startMulticastMediaReception
  | .startMulticastMediaTransmission | .openReceiveChannel | .dialedNumber
  | .openMultimediaChannel | .startMultimediaTransmission | .portRequest | .portClose =>
    some ⟨.controlToStation, .typed, .versionSelected, .lossless⟩
  | .forwardStatus | .connectionStatisticsRequest =>
    some ⟨.controlToStation, .typed, .versionSelected, .canonicalServerOutput⟩
  | .startSessionTransmission | .stopSessionTransmission =>
    some ⟨.controlToServiceNode, .typed, .versionSelected, .lossless⟩
  | .clearDisplay | .capabilitiesRequest | .keepAliveAck | .clearNotify
  | .deactivateCallPlane | .registerTokenAck =>
    some ⟨.controlToStation, .typed, .empty, .canonicalServerOutput⟩
  | .serverResponse =>
    some ⟨.controlToStation, .typed, .versionSelected, .semanticProjection⟩
  | .userToDeviceData | .userToDeviceDataV1 =>
    some ⟨.controlToStation, .typed, .lengthPrefixed, .lossless⟩
  | .startAnnouncement =>
    some ⟨.intraControl, .typed, .fixed, .canonicalServerOutput⟩
  | .stopAnnouncement | .announcementFinish =>
    some ⟨.intraControl, .typed, .fixed, .lossless⟩
  | .createConferenceRequest | .modifyConferenceRequest =>
    some ⟨.controlToServiceNode, .typed, .lengthPrefixed, .lossless⟩
  | .deleteConferenceRequest | .addParticipantRequest | .dropParticipantRequest
  | .auditConferenceRequest | .auditParticipantRequest | .changeParticipantRequest
  | .qosListen | .qosPath | .qosTeardown | .updateDscp | .qosModify | .mwiResponse =>
    some ⟨.controlToServiceNode, .typed, .fixed, .lossless⟩
  | .configStatusDynamic | .displayDynamicNotify | .displayDynamicPriorityNotify
  | .displayDynamicPromptStatus | .serviceUrlStatusDynamic =>
    some ⟨.controlToStation, .typed, .dynamicWordPadded, .lossless⟩
  | .lineStatusDynamic | .callInfoDynamic =>
    some ⟨.controlToStation, .typed, .dynamicWordPadded, .canonicalServerOutput⟩
  | .xmlAlarm =>
    some ⟨.stationToControl, .typed, .boundedPreserved, .lossless⟩
  | .callCountResponse =>
    some ⟨.controlToStation, .typed, .fixed, .semanticProjection⟩
  | .unknown _ => none

def route (id : MessageId) : Option MessageRoute := id.contract.map MessageContract.route

def isKnown : MessageId → Bool
  | .unknown _ => false
  | _ => true

end MessageId

/-- The identifier of a frame. -/
def Frame.messageType (frame : Frame) : MessageId := .ofWire frame.messageId

end Sccp
