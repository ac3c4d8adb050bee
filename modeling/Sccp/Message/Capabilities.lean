/-
  Sccp.Message.Capabilities

  Structured station capability updates (`message/capabilities.rs`).

  An update has tables of fixed capacity at fixed offsets.  The decoder reads the declared
  entries through a cursor that checks every access against the payload, and keeps the
  payload itself, so that an update is encoded to the bytes it was decoded from.
-/

import Sccp.Message.Values

namespace Sccp.Message

open Sccp

def MAX_AUDIO_CAPABILITIES : Nat := 18
def MAX_VIDEO_CAPABILITIES : Nat := 10
def MAX_DATA_CAPABILITIES : Nat := 5
def MAX_CUSTOM_PICTURES : Nat := 6
def MAX_CONFERENCE_SERVICES : Nat := 4
def MAX_SERVICE_LAYOUTS : Nat := 5
def MAX_LEVEL_PREFERENCES : Nat := 4

def CUSTOM_PICTURES_OFFSET : Nat := 20
def CUSTOM_PICTURE_SIZE : Nat := 20
def CONFERENCE_OFFSET : Nat := CUSTOM_PICTURES_OFFSET + MAX_CUSTOM_PICTURES * CUSTOM_PICTURE_SIZE
def CONFERENCE_SERVICE_SIZE : Nat := 40
def CONFERENCE_SIZE : Nat := 12 + MAX_CONFERENCE_SERVICES * CONFERENCE_SERVICE_SIZE
def AUDIO_OFFSET : Nat := CONFERENCE_OFFSET + CONFERENCE_SIZE
def AUDIO_CAPABILITY_SIZE : Nat := 16
def VIDEO_OFFSET : Nat := AUDIO_OFFSET + MAX_AUDIO_CAPABILITIES * AUDIO_CAPABILITY_SIZE

/-- Wire-layout family used by a station capability update. -/
inductive CapabilityUpdateVariant where
  | version1
  | version1ExpandedVideo
  | version2
  | version3
  deriving DecidableEq

namespace CapabilityUpdateVariant

/-- The message that carries this layout. -/
def messageId : CapabilityUpdateVariant → UInt32
  | version1 | version1ExpandedVideo => 0x0030
  | version2 => 0x0043
  | version3 => 0x0044

def videoEntrySize (variant : CapabilityUpdateVariant) (protocol : Nat) : Nat :=
  match variant with
  | version1 => 116
  | version1ExpandedVideo | version2 => 132
  | version3 => if protocol < 17 then 136 else 140

def dataEntrySize : CapabilityUpdateVariant → Nat
  | version3 => 20
  | _ => 16

def codecParameterWords : CapabilityUpdateVariant → Nat
  | version1 => 2
  | _ => 6

def dataOffset (variant : CapabilityUpdateVariant) (protocol : Nat) : Nat :=
  VIDEO_OFFSET + MAX_VIDEO_CAPABILITIES * variant.videoEntrySize protocol

def minimumPayloadBytes (variant : CapabilityUpdateVariant) (protocol : Nat) : Nat :=
  variant.dataOffset protocol + MAX_DATA_CAPABILITIES * variant.dataEntrySize

def maximumPayloadBytes (variant : CapabilityUpdateVariant) (protocol : Nat) : Nat :=
  match variant with
  | version3 => 2380
  | _ => variant.minimumPayloadBytes protocol

end CapabilityUpdateVariant

/-! ## Tables -/

structure MediaCapability where
  codec : Codec
  maxPacketMs : UInt32
  codecParameters : Block 8
  deriving DecidableEq

structure CustomPictureFormat where
  (width height pixelAspectRatio pixelClockConversion pixelClockDivisor : UInt32)
  deriving DecidableEq

structure ConferenceServiceResource where
  layouts : List UInt32
  (serviceNumber maxStreams maxConferences activeConferenceOnRegistration : UInt32)
  deriving DecidableEq

structure ConferenceResource where
  (activeStreamsOnRegistration maxBandwidth : UInt32)
  services : List ConferenceServiceResource
  deriving DecidableEq

structure VideoLevelPreference where
  (transmitPreference format maxBitRate minBitRate minimumPictureInterval serviceNumber : UInt32)
  deriving DecidableEq

/-- The direction is a set of flags kept as a word. -/
structure VideoCapability where
  codec : Codec
  direction : UInt32
  levelPreferences : List VideoLevelPreference
  codecParameters : List UInt32
  encryptionCapability : Option EncryptionCapability
  addressType : Option IpAddressType
  deriving DecidableEq

structure DataCapability where
  (payloadCapability direction protocolDependentData maxBitRate : UInt32)
  encryptionCapability : Option EncryptionCapability
  deriving DecidableEq

/-- A decoded update, with the payload it came from. -/
structure CapabilityUpdate where
  variant : CapabilityUpdateVariant
  rtpPayloadFormat : UInt32
  customPictureFormats : List CustomPictureFormat
  conference : ConferenceResource
  audio : List MediaCapability
  video : List VideoCapability
  data : List DataCapability
  trailingWords : List UInt32
  rawPayload : List UInt8
  deriving DecidableEq

/-! ## The cursor -/

def requireLen (payload : List UInt8) (needed : Nat) (messageId : UInt32) : Checked Unit :=
  if payload.length < needed then reject (.truncated messageId needed payload.length)
  else .ok ()

def boundedWireCount (count : UInt32) (maximum : Nat) (field : String) (messageId : UInt32) :
    Checked Nat := do
  let count ← usizeFromWire messageId field count
  if maximum < count then reject (.countTooLarge messageId field count maximum) else .ok count

def requireDeclaredEntries (payload : List UInt8) (offset count entrySize : Nat)
    (messageId : UInt32) : Checked Unit :=
  if count = 0 then .ok ()
  else do requireLen payload (← usizeAdd offset (← usizeMul count entrySize)) messageId

/-- Bounded reader of the tables. -/
structure CapabilityCursor where
  payload : List UInt8
  messageId : UInt32

namespace CapabilityCursor

def bytes (cursor : CapabilityCursor) (offset length : Nat) : Checked (List UInt8) :=
  if usizeMax < offset + length then
    reject (.truncated cursor.messageId usizeMax cursor.payload.length)
  else do
    requireLen cursor.payload (offset + length) cursor.messageId
    slice cursor.payload offset (offset + length)

/-- The bytes as an array of a known length. -/
def array (n : Nat) (bytes : List UInt8) : Checked (Block n) :=
  if h : bytes.length = n then .ok ⟨bytes, h⟩ else .error .panic

/-- `word(offset + delta)`. -/
def word (cursor : CapabilityCursor) (offset : Nat) (delta : Nat := 0) : Checked UInt32 := do
  let bytes ← array 4 (← cursor.bytes (← usizeAdd offset delta) 4)
  return Layout.u32.read bytes.val

def optionalWord (cursor : CapabilityCursor) (offset : Nat) : Option UInt32 :=
  if offset + 4 ≤ cursor.payload.length then
    some (Layout.u32.read (cursor.payload.drop offset))
  else none

end CapabilityCursor

/-- The entries of a table: one call of `entry` for each index and offset. -/
def decodeEntries {α : Type} (table size count : Nat) (entry : Nat → Checked α) :
    Checked (List α) :=
  (List.range count).mapM fun index => do entry (← usizeAdd table (← usizeMul index size))

/-! ## Entries -/

section Entries

variable (cursor : CapabilityCursor) (offset : Nat)

def decodePictureEntry : Checked CustomPictureFormat := do
  return {
    width := ← cursor.word offset, height := ← cursor.word offset 4,
    pixelAspectRatio := ← cursor.word offset 8,
    pixelClockConversion := ← cursor.word offset 12,
    pixelClockDivisor := ← cursor.word offset 16 }

def decodeConferenceServiceEntry : Checked ConferenceServiceResource := do
  let layoutCount ← boundedWireCount (← cursor.word offset) MAX_SERVICE_LAYOUTS
    "conference service layouts" cursor.messageId
  let layouts ← decodeEntries (← usizeAdd offset 4) 4 layoutCount cursor.word
  return {
    layouts, serviceNumber := ← cursor.word offset 24, maxStreams := ← cursor.word offset 28,
    maxConferences := ← cursor.word offset 32,
    activeConferenceOnRegistration := ← cursor.word offset 36 }

def decodeAudioEntry : Checked MediaCapability := do
  return {
    codec := .ofWire (← cursor.word offset), maxPacketMs := ← cursor.word offset 4,
    codecParameters := ← CapabilityCursor.array 8 (← cursor.bytes (← usizeAdd offset 8) 8) }

def decodeLevelPreference : Checked VideoLevelPreference := do
  return {
    transmitPreference := ← cursor.word offset, format := ← cursor.word offset 4,
    maxBitRate := ← cursor.word offset 8, minBitRate := ← cursor.word offset 12,
    minimumPictureInterval := ← cursor.word offset 16,
    serviceNumber := ← cursor.word offset 20 }

/-- A word that only some layouts have. -/
def wordIf (present : Bool) (delta : Nat) : Checked (Option UInt32) :=
  if present then do return some (← cursor.word offset delta) else .ok none

def decodeVideoEntry (variant : CapabilityUpdateVariant) (protocol : Nat) :
    Checked VideoCapability := do
  let levelCount ← boundedWireCount (← cursor.word offset 8) MAX_LEVEL_PREFERENCES
    "video level preferences" cursor.messageId
  let levelPreferences ← decodeEntries (← usizeAdd offset 12) 24 levelCount
    (decodeLevelPreference cursor)
  let parametersOffset ← usizeAdd offset (108 + if variant = .version3 then 4 else 0)
  let codecParameters ← decodeEntries parametersOffset 4 variant.codecParameterWords cursor.word
  return {
    codec := .ofWire (← cursor.word offset), direction := ← cursor.word offset 4, levelPreferences,
    codecParameters,
    encryptionCapability := (← wordIf cursor offset (variant = .version3) 108).map WireEnum.ofWire,
    addressType :=
      (← wordIf cursor offset (variant = .version3 ∧ 17 ≤ protocol) 136).map WireEnum.ofWire }

def decodeDataEntry (variant : CapabilityUpdateVariant) : Checked DataCapability := do
  return {
    payloadCapability := ← cursor.word offset, direction := ← cursor.word offset 4,
    protocolDependentData := ← cursor.word offset 8, maxBitRate := ← cursor.word offset 12,
    encryptionCapability := (← wordIf cursor offset (variant = .version3) 16).map WireEnum.ofWire }

end Entries

/-- A short update has no conference services. -/
def conferenceServiceCount (cursor : CapabilityCursor) : Checked Nat :=
  match cursor.optionalWord (CONFERENCE_OFFSET + 8) with
  | some count =>
    boundedWireCount count MAX_CONFERENCE_SERVICES "conference services" cursor.messageId
  | none => .ok 0

/-- The complete words after the tables. -/
def decodeTrailingWords (trailing : List UInt8) : Checked (List UInt32) :=
  (List.range (trailing.length / 4)).mapM fun index => do
    let offset ← usizeMul index 4
    return Layout.u32.read (← slice trailing offset (← usizeAdd offset 4))

namespace CapabilityUpdate

def decode (variant : CapabilityUpdateVariant) (protocol : Nat) (payload : List UInt8) :
    Checked CapabilityUpdate := do
  let messageId := variant.messageId
  let videoSize := variant.videoEntrySize protocol
  let dataOffset := variant.dataOffset protocol
  let trailingOffset := dataOffset + MAX_DATA_CAPABILITIES * variant.dataEntrySize
  let required := if variant = .version3 then 20 else variant.minimumPayloadBytes protocol
  requireLen payload required messageId
  let maximum := variant.maximumPayloadBytes protocol
  if maximum < payload.length then
    reject (.trailingBytes messageId (payload.length - maximum))
  else
    let cursor : CapabilityCursor := ⟨payload, messageId⟩
    let audioCount ← boundedWireCount (← cursor.word 0) MAX_AUDIO_CAPABILITIES
      "audio capabilities" messageId
    let videoCount ← boundedWireCount (← cursor.word 4) MAX_VIDEO_CAPABILITIES
      "video capabilities" messageId
    let dataCount ← boundedWireCount (← cursor.word 8) MAX_DATA_CAPABILITIES
      "data capabilities" messageId
    let rtpPayloadFormat ← cursor.word 12
    let pictureCount ← boundedWireCount (← cursor.word 16) MAX_CUSTOM_PICTURES
      "custom picture formats" messageId
    requireDeclaredEntries payload CUSTOM_PICTURES_OFFSET pictureCount CUSTOM_PICTURE_SIZE messageId
    requireDeclaredEntries payload AUDIO_OFFSET audioCount AUDIO_CAPABILITY_SIZE messageId
    requireDeclaredEntries payload VIDEO_OFFSET videoCount videoSize messageId
    requireDeclaredEntries payload dataOffset dataCount variant.dataEntrySize messageId
    let customPictureFormats ← decodeEntries CUSTOM_PICTURES_OFFSET CUSTOM_PICTURE_SIZE
      pictureCount (decodePictureEntry cursor)
    let serviceCount ← conferenceServiceCount cursor
    requireDeclaredEntries payload (CONFERENCE_OFFSET + 12) serviceCount CONFERENCE_SERVICE_SIZE
      messageId
    let services ← decodeEntries (CONFERENCE_OFFSET + 12) CONFERENCE_SERVICE_SIZE serviceCount
      (decodeConferenceServiceEntry cursor)
    let conference : ConferenceResource :=
      { activeStreamsOnRegistration := (cursor.optionalWord CONFERENCE_OFFSET).getD 0,
        maxBandwidth := (cursor.optionalWord (CONFERENCE_OFFSET + 4)).getD 0, services }
    let audio ← decodeEntries AUDIO_OFFSET AUDIO_CAPABILITY_SIZE audioCount
      (decodeAudioEntry cursor)
    let video ← decodeEntries VIDEO_OFFSET videoSize videoCount
      fun offset => decodeVideoEntry cursor offset variant protocol
    let data ← decodeEntries dataOffset variant.dataEntrySize dataCount
      fun offset => decodeDataEntry cursor offset variant
    let trailingWords ← decodeTrailingWords (payload.drop trailingOffset)
    return {
      variant, rtpPayloadFormat, customPictureFormats, conference, audio, video, data,
      trailingWords, rawPayload := payload }

end CapabilityUpdate

end Sccp.Message
