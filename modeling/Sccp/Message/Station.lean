/-
  Sccp.Message.Station

  Messages whose texts have a length of their own (`message/codec/station.rs`).

  From protocol version 9, or when the station asks for it, the texts of the station's
  display follow a fixed header one by one, each ended by a zero byte.  Older sessions use
  fields of a fixed width instead.
-/

import Sccp.Message.ServerLayouts
import Sccp.Message.Services

namespace Sccp

/-! ## Session layout inputs -/

inductive DynamicCallInfoLayout where
  | fields12 | fields13 | fields15
  deriving DecidableEq

def DynamicCallInfoLayout.stringCount : DynamicCallInfoLayout → Nat
  | fields12 => 12
  | fields13 => 13
  | fields15 => 15

namespace ProtocolVersion

/-- General station messages use dynamic text layouts from version 9. -/
def usesDynamicGeneralUi (protocol : ProtocolVersion) : Bool := 9 ≤ protocol.wire

def usesDynamicSpeedDialStatus (protocol : ProtocolVersion) : Bool := 9 ≤ protocol.wire

def dynamicCallInfoLayout (protocol : ProtocolVersion) : DynamicCallInfoLayout :=
  if protocol.wire ≤ 15 then .fields12
  else if protocol.wire ≤ 18 then .fields13
  else .fields15

end ProtocolVersion

/-- `PhoneFeatures::DYNAMIC_MESSAGES`. -/
def DYNAMIC_MESSAGES : UInt32 := 0x01000000

structure StationSessionContext where
  protocol : ProtocolVersion
  features : UInt32

namespace StationSessionContext

/-- `features.contains(PhoneFeatures::DYNAMIC_MESSAGES)`. -/
def hasDynamicMessages (session : StationSessionContext) : Bool :=
  session.features &&& DYNAMIC_MESSAGES = DYNAMIC_MESSAGES

def usesDynamicGeneralUi (session : StationSessionContext) : Bool :=
  session.protocol.usesDynamicGeneralUi || session.hasDynamicMessages

def usesDynamicSpeedDialStatus (session : StationSessionContext) : Bool :=
  session.protocol.usesDynamicSpeedDialStatus || session.hasDynamicMessages

end StationSessionContext

/-! ## Texts -/

inductive LegacyCodePage where
  | iso8859_1 | ascii
  deriving DecidableEq

/-- The byte of a character in a legacy code page; a question mark if it has none. -/
def LegacyCodePage.byte (c : Char) : LegacyCodePage → UInt8
  | iso8859_1 => if c.toNat < 256 then UInt8.ofNat c.toNat else 0x3f
  | ascii => if c.toNat < 128 then UInt8.ofNat c.toNat else 0x3f

def stationTextBytes (value : String) (codePage : Option LegacyCodePage) : Checked (List UInt8) :=
  if '\x00' ∈ value.toList then reject .invalidText
  else
    match codePage with
    | none => .ok (utf8 value)
    | some page => .ok (value.toList.map page.byte)

def WireFixedText.newStation (n : Nat) (messageId : UInt32) (field value : String)
    (codePage : Option LegacyCodePage) : Checked (WireFixedText n) := do
  let bytes ← stationTextBytes value codePage
  WireFixedText.fromBytes n messageId field bytes

namespace Message

/-! ## Messages -/

structure ConfigurationStatus where
  deviceName : String
  (stationUserId stationInstance lineCount speedDialCount : UInt32)
  (userName serverName : String)
  deriving DecidableEq

/-- `CallInfo` with its words. -/
structure CallInfo where
  direction : CallDirection
  (callingName callingNumber calledName calledNumber : String)
  (originalCalledName originalCalledNumber : String)
  (lastRedirectingName lastRedirectingNumber : String)
  (originalRedirectReason lastRedirectReason partyRestrictions : UInt32)
  deriving DecidableEq

/-- The messages of `ServerMessage` that have a dynamic text layout. -/
inductive StationTextMessage where
  | configStatus (status : ConfigurationStatus)
  | lineStatus (instanceNumber : UInt32)
      (directoryNumber fullyQualifiedDisplayName displayLabel : String)
  | speedDialStatus (instanceNumber : UInt32) (number displayName : String)
  | serviceUrlStatus (index : UInt32) (url label extensionText : String)
  | callInfo (info : CallInfo) (lineInstance callReference : UInt32)
  | displayPrompt (timeoutSeconds : UInt32) (text : String) (lineInstance callReference : UInt32)
  | displayNotify (timeoutSeconds : UInt32) (text : String)
  | displayPriorityNotify (timeoutSeconds : UInt32) (priority : NotificationPriority)
      (text : String)
  deriving DecidableEq

/-! ## Fields of a dynamic layout -/

def pushDynamicText (output : List UInt8) (messageId : UInt32) (field text : String)
    (maximum : Nat) : Checked (List UInt8) :=
  if 0 ∈ utf8 text then reject .invalidText
  else if maximum < (utf8 text).length then
    reject (.textTooLong messageId field (utf8 text).length maximum)
  else .ok (output ++ utf8 text ++ [0])

def pushDynamicStationText (output : List UInt8) (messageId : UInt32) (field text : String)
    (maximum : Nat) (codePage : Option LegacyCodePage) : Checked (List UInt8) := do
  let bytes ← stationTextBytes text codePage
  if maximum < bytes.length then reject (.textTooLong messageId field bytes.length maximum)
  else .ok (output ++ bytes ++ [0])

def validateDynamicPadding (messageId : UInt32) (padding : List UInt8) : Checked Unit :=
  if 3 < padding.length ∨ padding.any (· ≠ 0) then
    reject (.trailingBytes messageId padding.length)
  else .ok ()

/-- The loop of `decode_dynamic_texts`: so many texts, and what follows them. -/
def takeTexts (messageId : UInt32) (length : Nat) :
    Nat → List UInt8 → Checked (List String × List UInt8)
  | 0, remaining => .ok ([], remaining)
  | count + 1, remaining =>
    match splitZero remaining with
    | none => reject (.truncated messageId (length + 1) length)
    | some (bytes, remaining) =>
      match ofUtf8? bytes with
      | none => reject .invalidText
      | some text => do
          let (fields, remaining) ← takeTexts messageId length count remaining
          return (text :: fields, remaining)

def decodeDynamicTexts (messageId : UInt32) (payload : List UInt8) (offset count : Nat) :
    Checked (List String) :=
  if payload.length % 4 ≠ 0 then reject (.invalidAlignment messageId payload.length)
  else if payload.length < offset then reject (.truncated messageId offset payload.length)
  else do
    let (fields, remaining) ← takeTexts messageId payload.length count (payload.drop offset)
    validateDynamicPadding messageId remaining
    return fields

/-- `fields[index]`. -/
def fieldAt (fields : List String) (index : Nat) : Checked String :=
  match fields[index]? with
  | none => .error .panic
  | some field => .ok field

def decodeDynamicText (messageId : UInt32) (payload : List UInt8) (offset : Nat) :
    Checked String := do
  let fields ← decodeDynamicTexts messageId payload offset 1
  fieldAt fields 0

/-- A text at the front of what remains, and the rest. -/
def takeDynamicText (messageId : UInt32) (remaining : List UInt8) (field : String)
    (maximum : Nat) : Checked (String × List UInt8) :=
  match splitZero remaining with
  | none => reject (.truncated messageId (remaining.length + 1) remaining.length)
  | some (bytes, rest) =>
    if maximum < bytes.length then
      reject (.textTooLong messageId field bytes.length maximum)
    else
      match ofUtf8? bytes with
      | none => reject .invalidText
      | some value => .ok (value, rest)

def takeDynamicWord (messageId : UInt32) (remaining : List UInt8) : Checked (UInt32 × List UInt8) :=
  if remaining.length < 4 then reject (.truncated messageId 4 remaining.length)
  else .ok (Layout.u32.read remaining, remaining.drop 4)

/-- A payload that must be as long as its header. -/
def ensureHeader (messageId : UInt32) (payload : List UInt8) (size : Nat) : Checked Unit :=
  if payload.length < size then reject (.truncated messageId size payload.length) else .ok ()

/-! ## Status messages -/

def decodeDynamicConfigStatus (payload : List UInt8) : Checked StationTextMessage :=
  let messageId := MessageId.configStatusDynamic.wireValue
  if payload.length % 4 ≠ 0 then reject (.invalidAlignment messageId payload.length)
  else do
    let (deviceName, remaining) ← takeDynamicText messageId payload "device name" 64
    let (stationUserId, remaining) ← takeDynamicWord messageId remaining
    let (stationInstance, remaining) ← takeDynamicWord messageId remaining
    let (lineCount, remaining) ← takeDynamicWord messageId remaining
    let (speedDialCount, remaining) ← takeDynamicWord messageId remaining
    let (userName, remaining) ← takeDynamicText messageId remaining "user name" 64
    let (serverName, remaining) ← takeDynamicText messageId remaining "server name" 256
    validateDynamicPadding messageId remaining
    return .configStatus { deviceName, stationUserId, stationInstance, lineCount, speedDialCount,
                           userName, serverName }

def encodeDynamicConfigStatus (value : ConfigurationStatus) : Checked (List UInt8) := do
  let messageId := MessageId.configStatusDynamic.wireValue
  let payload ← pushDynamicText [] messageId "device name" value.deviceName 64
  let payload := payload ++ Layout.u32.write value.stationUserId
    ++ Layout.u32.write value.stationInstance ++ Layout.u32.write value.lineCount
    ++ Layout.u32.write value.speedDialCount
  let payload ← pushDynamicText payload messageId "user name" value.userName 64
  let payload ← pushDynamicText payload messageId "server name" value.serverName 256
  return padDynamicPayload payload

def encodeDynamicLineStatus (instanceNumber : UInt32)
    (directoryNumber fullyQualifiedDisplayName displayLabel : String)
    (codePage : Option LegacyCodePage) : Checked (List UInt8) := do
  let messageId := MessageId.lineStatusDynamic.wireValue
  let payload := WireLineStatusDynamicHeader.layout.write ⟨instanceNumber, 15⟩
  let payload ← pushDynamicText payload messageId "line number" directoryNumber 24
  let payload ← pushDynamicStationText payload messageId "fully qualified display name"
    fullyQualifiedDisplayName 120 codePage
  let payload ← pushDynamicStationText payload messageId "line label" displayLabel 120 codePage
  return padDynamicPayload payload

def decodeDynamicLineStatus (payload : List UInt8) : Checked StationTextMessage := do
  let messageId := MessageId.lineStatusDynamic.wireValue
  ensureHeader messageId payload 8
  let header ← decode WireLineStatusDynamicHeader.layout messageId (payload.take 8)
  let fields ← decodeDynamicTexts messageId payload 8 3
  return .lineStatus header.lineInstance (← fieldAt fields 0) (← fieldAt fields 1)
    (← fieldAt fields 2)

def encodeDynamicSpeedDialStatus (instanceNumber : UInt32) (number displayName : String)
    (codePage : Option LegacyCodePage) : Checked (List UInt8) := do
  let messageId := MessageId.speedDialStatusDynamic.wireValue
  let payload := Layout.u32.write instanceNumber
  let payload ← pushDynamicText payload messageId "number" number 23
  let payload ← pushDynamicStationText payload messageId "display name" displayName 39 codePage
  return padDynamicPayload payload

def decodeDynamicSpeedDialStatus (payload : List UInt8) : Checked StationTextMessage :=
  let messageId := MessageId.speedDialStatusDynamic.wireValue
  if payload.length % 4 ≠ 0 then reject (.invalidAlignment messageId payload.length)
  else do
    let (instanceNumber, remaining) ← takeDynamicWord messageId payload
    let (number, remaining) ← takeDynamicText messageId remaining "number" 23
    let (displayName, remaining) ← takeDynamicText messageId remaining "display name" 39
    validateDynamicPadding messageId remaining
    return .speedDialStatus instanceNumber number displayName

/-- The extension text is sent from version 19. -/
def encodeDynamicServiceUrlStatus (index : UInt32) (url label extensionText : String)
    (protocol : ProtocolVersion) (codePage : Option LegacyCodePage) : Checked (List UInt8) := do
  let messageId := MessageId.serviceUrlStatusDynamic.wireValue
  let payload := WireOneWord.layout.write ⟨index⟩
  let payload ← pushDynamicText payload messageId "service URL" url 255
  let payload ← pushDynamicStationText payload messageId "service label" label 120 codePage
  let payload ← (if 19 ≤ protocol.wire then
      pushDynamicStationText payload messageId "service extension text" extensionText 120 codePage
    else .ok payload : Checked (List UInt8))
  return padDynamicPayload payload

def decodeDynamicServiceUrlStatus (payload : List UInt8) (protocol : ProtocolVersion) :
    Checked StationTextMessage := do
  let messageId := MessageId.serviceUrlStatusDynamic.wireValue
  ensureHeader messageId payload 4
  let header ← decode WireOneWord.layout messageId (payload.take 4)
  let fields ← decodeDynamicTexts messageId payload 4 (if 19 ≤ protocol.wire then 3 else 2)
  return .serviceUrlStatus header.value (← fieldAt fields 0) (← fieldAt fields 1)
    (fields[2]?.getD "")

/-! ## Call information -/

/-- The number that a direction has on the wire. -/
def callType : CallDirection → UInt32
  | .inbound => 1
  | .outbound => 2

/-- The texts of a call-information message in the order of a field table, each with its
    name and its limit. -/
def dynamicCallInfoFields (info : CallInfo) : DynamicCallInfoLayout → List (String × String × Nat)
  | .fields15 =>
    [("calling number", info.callingNumber, 24), ("original calling number", "", 24),
     ("called number", info.calledNumber, 24),
     ("original called number", info.originalCalledNumber, 24),
     ("last redirecting number", info.lastRedirectingNumber, 24),
     ("calling voicemail", "", 24), ("called voicemail", "", 24),
     ("original called voicemail", "", 24), ("last redirecting voicemail", "", 24),
     ("calling name", info.callingName, 120), ("called name", info.calledName, 120),
     ("original called name", info.originalCalledName, 120),
     ("last redirecting name", info.lastRedirectingName, 120),
     ("hunt pilot number", "", 24), ("hunt pilot name", "", 120)]
  | .fields13 =>
    [("calling number", info.callingNumber, 24), ("original calling number", "", 24),
     ("called number", info.calledNumber, 24),
     ("original called number", info.originalCalledNumber, 24),
     ("last redirecting number", info.lastRedirectingNumber, 24),
     ("calling voicemail", "", 24), ("called voicemail", "", 24),
     ("original called voicemail", "", 24), ("last redirecting voicemail", "", 24),
     ("calling name", info.callingName, 120), ("called name", info.calledName, 120),
     ("original called name", info.originalCalledName, 120),
     ("last redirecting name", info.lastRedirectingName, 120)]
  | .fields12 =>
    [("calling number", info.callingNumber, 24), ("called number", info.calledNumber, 24),
     ("original called number", info.originalCalledNumber, 24),
     ("last redirecting number", info.lastRedirectingNumber, 24),
     ("calling voicemail", "", 24), ("called voicemail", "", 24),
     ("original called voicemail", "", 24), ("last redirecting voicemail", "", 24),
     ("calling name", info.callingName, 120), ("called name", info.calledName, 120),
     ("original called name", info.originalCalledName, 120),
     ("last redirecting name", info.lastRedirectingName, 120)]

/-- Appends the texts of a field table. -/
def pushDynamicTexts (messageId : UInt32) :
    List (String × String × Nat) → List UInt8 → Checked (List UInt8)
  | [], output => .ok output
  | (field, text, maximum) :: rest, output => do
      let output ← pushDynamicText output messageId field text maximum
      pushDynamicTexts messageId rest output

def encodeDynamicCallInfo (info : CallInfo) (lineInstance callReference : UInt32)
    (protocol : ProtocolVersion) : Checked (List UInt8) := do
  let messageId := MessageId.callInfoDynamic.wireValue
  let payload := WireCallInfoDynamicHeader.layout.write
    { lineInstance, callReference, callType := callType info.direction
      originalRedirectReason := info.originalRedirectReason
      lastRedirectReason := info.lastRedirectReason
      callInstance := 1, securityStatus := 0
      partyRestrictions := info.partyRestrictions }
  let payload ← pushDynamicTexts messageId
    (dynamicCallInfoFields info protocol.dynamicCallInfoLayout) payload
  return padDynamicPayload payload

def decodeDynamicCallInfo (payload : List UInt8) (protocol : ProtocolVersion) :
    Checked StationTextMessage := do
  let messageId := MessageId.callInfoDynamic.wireValue
  ensureHeader messageId payload 32
  let header ← decode WireCallInfoDynamicHeader.layout messageId (payload.take 32)
  let fields ← decodeDynamicTexts messageId payload 32 protocol.dynamicCallInfoLayout.stringCount
  let field := fun wide narrow => fieldAt fields
    (if protocol.dynamicCallInfoLayout = .fields12 then narrow else wide)
  let callingNumber ← field 0 0
  let calledNumber ← field 2 1
  let originalCalledNumber ← field 3 2
  let lastRedirectingNumber ← field 4 3
  let callingName ← field 9 8
  let calledName ← field 10 9
  let originalCalledName ← field 11 10
  let lastRedirectingName ← field 12 11
  return .callInfo
    { direction := if header.callType = 1 then .inbound else .outbound
      callingName, callingNumber, calledName, calledNumber, originalCalledName
      originalCalledNumber, lastRedirectingName, lastRedirectingNumber
      originalRedirectReason := header.originalRedirectReason
      lastRedirectReason := header.lastRedirectReason
      partyRestrictions := header.partyRestrictions }
    header.lineInstance header.callReference

/-! ## Display texts -/

/-- The payload of a header and one text. -/
def encodeDynamicDisplay {α : Type} (header : Layout α) (value : α) (id : MessageId)
    (field text : String) : Checked (List UInt8) := do
  let payload ← pushDynamicText (header.write value) id.wireValue field text 96
  return padDynamicPayload payload

/-- The header of a payload and the text after it. -/
def decodeDynamicDisplay {α : Type} (header : Layout α) (id : MessageId) (payload : List UInt8)
    (size : Nat) : Checked (α × String) := do
  ensureHeader id.wireValue payload size
  let value ← decode header id.wireValue (payload.take size)
  let text ← decodeDynamicText id.wireValue payload size
  return (value, text)

/-! ## Fixed layouts -/

def encodeConfigStatus (status : ConfigurationStatus) (codePage : Option LegacyCodePage) :
    Checked (List UInt8) := do
  let messageId := MessageId.configStatus.wireValue
  return WireConfigStatus.layout.write
    { deviceId := ← WireFixedText.new 16 messageId "device ID" status.deviceName
      stationUserId := status.stationUserId
      stationInstance := status.stationInstance
      userName := ← WireFixedText.newStation 40 messageId "user name" status.userName codePage
      serverName := ← WireFixedText.newStation 40 messageId "server name" status.serverName codePage
      lineCount := status.lineCount
      speedDialCount := status.speedDialCount }

def encodeCallInfo (info : CallInfo) (lineInstance callReference : UInt32) :
    Checked (List UInt8) := do
  let messageId := MessageId.callInfo.wireValue
  let voiceMailbox ← WireFixedText.new 24 messageId "voice mailbox" ""
  return WireCallInfo.layout.write
    { callingName := ← WireFixedText.new 40 messageId "calling name" info.callingName
      callingNumber := ← WireFixedText.new 24 messageId "calling number" info.callingNumber
      calledName := ← WireFixedText.new 40 messageId "called name" info.calledName
      calledNumber := ← WireFixedText.new 24 messageId "called number" info.calledNumber
      lineInstance, callReference
      callType := callType info.direction
      originalCalledName := ← WireFixedText.new 40 messageId "original called name"
        info.originalCalledName
      originalCalledNumber := ← WireFixedText.new 24 messageId "original called number"
        info.originalCalledNumber
      lastRedirectingName := ← WireFixedText.new 40 messageId "last redirecting name"
        info.lastRedirectingName
      lastRedirectingNumber := ← WireFixedText.new 24 messageId "last redirecting number"
        info.lastRedirectingNumber
      originalRedirectReason := info.originalRedirectReason
      lastRedirectReason := info.lastRedirectReason
      voiceMailboxes := ⟨List.replicate 4 voiceMailbox, List.length_replicate⟩
      callInstance := 1, securityStatus := 0
      partyRestrictions := info.partyRestrictions }

def decodeCallInfo (payload : List UInt8) : Checked StationTextMessage := do
  let value ← decode WireCallInfo.layout MessageId.callInfo.wireValue payload
  return .callInfo
    { direction := if value.callType = inboundCall then .inbound else .outbound
      callingName := ← value.callingName.text
      callingNumber := ← value.callingNumber.text
      calledName := ← value.calledName.text
      calledNumber := ← value.calledNumber.text
      originalCalledName := ← value.originalCalledName.text
      originalCalledNumber := ← value.originalCalledNumber.text
      lastRedirectingName := ← value.lastRedirectingName.text
      lastRedirectingNumber := ← value.lastRedirectingNumber.text
      originalRedirectReason := value.originalRedirectReason
      lastRedirectReason := value.lastRedirectReason
      partyRestrictions := value.partyRestrictions }
    value.lineInstance value.callReference

/-! ## Encoding and decoding -/

namespace StationTextMessage

/-- The identifier and the payload of a message. -/
def payload (session : StationSessionContext) (codePage : Option LegacyCodePage) :
    StationTextMessage → Checked (MessageId × List UInt8)
  | configStatus status =>
    if session.usesDynamicGeneralUi then
      (.configStatusDynamic, ·) <$> encodeDynamicConfigStatus status
    else (.configStatus, ·) <$> encodeConfigStatus status codePage
  | lineStatus instanceNumber directoryNumber fullyQualifiedDisplayName displayLabel =>
    if session.usesDynamicGeneralUi then
      (.lineStatusDynamic, ·) <$> encodeDynamicLineStatus instanceNumber directoryNumber
        fullyQualifiedDisplayName displayLabel codePage
    else do
      let messageId := MessageId.lineStatus.wireValue
      return (.lineStatus, WireLineStatus.layout.write
        { lineInstance := instanceNumber
          directoryNumber := ← WireFixedText.new 24 messageId "line number" directoryNumber
          displayName := ← WireFixedText.newStation 40 messageId "display name"
            fullyQualifiedDisplayName codePage
          displayLabel := ← WireFixedText.newStation 40 messageId "line label" displayLabel codePage
          reserved := 0 })
  | speedDialStatus instanceNumber number displayName =>
    if session.usesDynamicSpeedDialStatus then
      (.speedDialStatusDynamic, ·) <$>
        encodeDynamicSpeedDialStatus instanceNumber number displayName codePage
    else do
      let messageId := MessageId.speedDialStatus.wireValue
      return (.speedDialStatus, WireSpeedDialStatus.layout.write
        { instanceNumber
          number := ← WireFixedText.new 24 messageId "number" number
          displayName := ← WireFixedText.newStation 40 messageId "display name" displayName
            codePage })
  | serviceUrlStatus index url label extensionText =>
    if session.protocol.wire ≤ 18 ∧ extensionText ≠ "" then
      reject (.invalidValue MessageId.serviceUrlStatusDynamic.wireValue
        "service URL extension for this protocol version" (utf8 extensionText).length)
    else if session.usesDynamicGeneralUi then
      (.serviceUrlStatusDynamic, ·) <$>
        encodeDynamicServiceUrlStatus index url label extensionText session.protocol codePage
    else do
      let messageId := MessageId.serviceUrlStatus.wireValue
      return (.serviceUrlStatus, WireServiceUrlStatus.layout.write
        { index
          url := ← WireFixedText.new 256 messageId "service URL" url
          label := ← WireFixedText.newStation 40 messageId "service label" label codePage })
  | callInfo info lineInstance callReference =>
    if session.usesDynamicGeneralUi then
      (.callInfoDynamic, ·) <$>
        encodeDynamicCallInfo info lineInstance callReference session.protocol
    else (.callInfo, ·) <$> encodeCallInfo info lineInstance callReference
  | displayPrompt timeoutSeconds text lineInstance callReference =>
    if session.usesDynamicGeneralUi then
      (.displayDynamicPromptStatus, ·) <$> encodeDynamicDisplay WireDynamicPromptHeader.layout
          ⟨timeoutSeconds, lineInstance, callReference⟩ .displayDynamicPromptStatus "prompt" text
    else do
      let text ← WireFixedText.new 32 MessageId.displayPromptStatus.wireValue "prompt" text
      return (.displayPromptStatus,
        WirePromptStatus.layout.write ⟨timeoutSeconds, text, lineInstance, callReference⟩)
  | displayNotify timeoutSeconds text =>
    if session.usesDynamicGeneralUi then
      (.displayDynamicNotify, ·) <$>
        encodeDynamicDisplay WireDynamicNotifyHeader.layout ⟨timeoutSeconds⟩
          .displayDynamicNotify "notification" text
    else do
      let text ← WireFixedText.new 32 MessageId.displayNotify.wireValue "notification" text
      return (.displayNotify, WireNotify.layout.write ⟨timeoutSeconds, text⟩)
  | displayPriorityNotify timeoutSeconds priority text =>
    if session.usesDynamicGeneralUi then
      (.displayDynamicPriorityNotify, ·) <$>
        encodeDynamicDisplay WireDynamicPriorityNotifyHeader.layout
          ⟨timeoutSeconds, priority.wireValue⟩ .displayDynamicPriorityNotify "notification" text
    else do
      let text ← WireFixedText.new 32 MessageId.displayPriorityNotify.wireValue "notification" text
      return (.displayPriorityNotify,
        WirePriorityNotify.layout.write ⟨timeoutSeconds, priority.wireValue, text⟩)

/-- The frame of a message. -/
def toFrame (message : StationTextMessage) (session : StationSessionContext)
    (codePage : Option LegacyCodePage) : Checked Frame := do
  let (id, p) ← message.payload session codePage
  rejectNonStationRoute id.wireValue .controlToStation "control-to-station"
  return typedFrame id session.protocol.wire p

/-- `encode_for_session`; `encode_for_legacy_session` with a code page. -/
def encodeForSession (message : StationTextMessage) (session : StationSessionContext)
    (codePage : Option LegacyCodePage) : Checked (List UInt8) := do
  encodeFrame (← message.toFrame session codePage)

/-- The branches of `decode_unchecked` for these messages; the other identifiers have none
    here. -/
def decodeUnchecked (id : MessageId) (p : List UInt8) (protocol : ProtocolVersion) :
    Option (Checked StationTextMessage) :=
  match id with
  | .configStatus => some do
      let value ← decode WireConfigStatus.layout id.wireValue p
      return configStatus
        { deviceName := ← value.deviceId.text
          stationUserId := value.stationUserId
          stationInstance := value.stationInstance
          userName := ← value.userName.text
          serverName := ← value.serverName.text
          lineCount := value.lineCount
          speedDialCount := value.speedDialCount }
  | .configStatusDynamic => some (decodeDynamicConfigStatus p)
  | .lineStatus => some do
      let value ← decode WireLineStatus.layout id.wireValue p
      return lineStatus value.lineInstance (← value.directoryNumber.text)
        (← value.displayName.text) (← value.displayLabel.text)
  | .lineStatusDynamic => some (decodeDynamicLineStatus p)
  | .speedDialStatus => some do
      let value ← decode WireSpeedDialStatus.layout id.wireValue p
      return speedDialStatus value.instanceNumber (← value.number.text) (← value.displayName.text)
  | .speedDialStatusDynamic => some (decodeDynamicSpeedDialStatus p)
  | .serviceUrlStatus => some do
      let value ← decode WireServiceUrlStatus.layout id.wireValue p
      return serviceUrlStatus value.index (← value.url.text) (← value.label.text) ""
  | .serviceUrlStatusDynamic => some (decodeDynamicServiceUrlStatus p protocol)
  | .callInfo => some (decodeCallInfo p)
  | .callInfoDynamic => some (decodeDynamicCallInfo p protocol)
  | .displayPromptStatus => some do
      let value ← decode WirePromptStatus.layout id.wireValue p
      return displayPrompt value.timeoutSeconds (← value.text.text) value.lineInstance
        value.callReference
  | .displayDynamicPromptStatus => some do
      let (value, text) ← decodeDynamicDisplay WireDynamicPromptHeader.layout id p 12
      return displayPrompt value.timeoutSeconds text value.lineInstance value.callReference
  | .displayNotify => some do
      let value ← decode WireNotify.layout id.wireValue p
      return displayNotify value.timeoutSeconds (← value.text.text)
  | .displayDynamicNotify => some do
      let (value, text) ← decodeDynamicDisplay WireDynamicNotifyHeader.layout id p 4
      return displayNotify value.timeoutSeconds text
  | .displayPriorityNotify => some do
      let value ← decode WirePriorityNotify.layout id.wireValue p
      return displayPriorityNotify value.timeoutSeconds (.ofWire value.priority) (← value.text.text)
  | .displayDynamicPriorityNotify => some do
      let (value, text) ← decodeDynamicDisplay WireDynamicPriorityNotifyHeader.layout id p 8
      return displayPriorityNotify value.timeoutSeconds (.ofWire value.priority) text
  | _ => none

/-- `ServerMessage::decode`, as far as it gives one of these messages. -/
def decode (frame : Frame) (protocol : ProtocolVersion) : Option (Checked StationTextMessage) :=
  match ensureStationRoute frame .controlToStation "control-to-station" with
  | .error e => some (.error e)
  | .ok () => decodeUnchecked frame.messageType frame.payload protocol

end StationTextMessage

end Message

end Sccp
