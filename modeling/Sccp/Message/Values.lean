/-
  Sccp.Message.Values

  Values that messages carry (`message/values.rs`, `message/bounded.rs`, `types.rs`).

  A wire enumeration keeps every number and gives it back unchanged.  A number that has a
  name is decoded to the name, any other one to `Unknown`; `Unknown` can also be made
  with a number that has a name, and is then another value with the same number.
-/

import Sccp.Message.Codec
import Sccp.Message.Catalog

namespace Sccp.Message

open Sccp

/-! ## Wire enumerations -/

/-- The enumerations declared with `wire_enum!` that the modelled messages carry. -/
inductive WireKind where
  | addParticipantResult | alarmSeverity | auditParticipantResult | codec
  | conferenceResourceType | createConferenceResult | deleteConferenceResult | deviceType
  | echoCancellation | encryptionCapability | encryptionMethod | ipAddressType
  | mediaPathCapability | mediaPathEvent | mediaPathId | mediaStatus | mediaType
  | modifyConferenceResult | notificationPriority | silenceSuppression | stimulus | videoFormat

/-- The numbers that have a name, as intervals from the first to the last. -/
def WireKind.known : WireKind → List (Nat × Nat)
  | .addParticipantResult => [(0, 4)]
  | .alarmSeverity => [(0, 2), (4, 4), (7, 8), (10, 10), (20, 20)]
  | .auditParticipantResult | .conferenceResourceType | .echoCancellation
    | .encryptionCapability | .silenceSuppression => [(0, 1)]
  | .codec =>
    [(0, 16), (18, 20), (25, 25), (32, 33), (40, 49), (80, 86), (89, 90), (97, 98), (100, 115),
     (120, 120), (222, 222), (257, 262), (299, 302)]
  | .createConferenceResult | .ipAddressType | .mediaPathCapability | .mediaPathId => [(0, 3)]
  | .deleteConferenceResult | .mediaPathEvent => [(0, 2)]
  | .deviceType =>
    [(0, 10), (12, 13), (20, 21), (30, 30), (40, 43), (47, 47), (50, 53), (60, 62), (70, 73),
     (80, 85), (90, 90), (100, 100), (110, 113), (115, 115), (119, 122), (124, 129), (131, 131),
     (227, 230), (275, 275), (302, 302), (307, 309), (348, 348), (365, 365), (369, 369),
     (376, 376), (404, 404), (431, 431), (434, 437), (484, 484), (495, 497), (547, 548),
     (564, 564), (577, 577), (585, 586), (20000, 20000), (30002, 30002), (30006, 30008),
     (30016, 30016), (30018, 30019), (30027, 30028), (80000, 80001), (80003, 80007),
     (80009, 80009), (80011, 80013), (99991, 99993), (99999, 99999)]
  | .encryptionMethod | .modifyConferenceResult | .notificationPriority => [(0, 6)]
  | .mediaStatus => [(0, 12)]
  | .mediaType => [(0, 7)]
  | .stimulus =>
    [(0, 23), (27, 27), (33, 38), (123, 123), (125, 139), (143, 143), (192, 192), (194, 195),
     (197, 198), (240, 240), (253, 253), (255, 255)]
  | .videoFormat => [(0, 6), (232, 232)]

/-- The pattern of a named variant in `From<u32>`. -/
def WireKind.isKnown (kind : WireKind) (value : UInt32) : Bool :=
  kind.known.any fun interval => interval.1 ≤ value.toNat && value.toNat ≤ interval.2

/-- A value of a wire enumeration: a named variant, by its number, or `Unknown`. -/
inductive WireEnum (kind : WireKind) where
  | named (value : UInt32) (known : kind.isKnown value = true)
  | unknown (value : UInt32)
  deriving DecidableEq

namespace WireEnum

variable {kind : WireKind}

def wireValue : WireEnum kind → UInt32
  | named value _ => value
  | unknown value => value

/-- `From<u32>`. -/
def ofWire (value : UInt32) : WireEnum kind :=
  if known : kind.isKnown value = true then named value known else unknown value

/-- The number of a named variant. -/
def code : WireEnum kind → Option Nat
  | named value _ => some value.toNat
  | unknown _ => none

/-- The value is the one that its number is decoded to: no `Unknown` of a named number. -/
def Canonical (value : WireEnum kind) : Prop := ofWire value.wireValue = value

/-- A decoded number is given back unchanged, whether or not it has a name. -/
@[simp] theorem wireValue_ofWire (value : UInt32) :
    (ofWire value : WireEnum kind).wireValue = value := by
  unfold ofWire
  split
  · rfl
  · rfl

end WireEnum

abbrev AddParticipantResult := WireEnum .addParticipantResult
abbrev AlarmSeverity := WireEnum .alarmSeverity
abbrev AuditParticipantResult := WireEnum .auditParticipantResult
abbrev Codec := WireEnum .codec
abbrev ConferenceResourceType := WireEnum .conferenceResourceType
abbrev CreateConferenceResult := WireEnum .createConferenceResult
abbrev DeleteConferenceResult := WireEnum .deleteConferenceResult
abbrev DeviceType := WireEnum .deviceType
abbrev EchoCancellation := WireEnum .echoCancellation
abbrev EncryptionCapability := WireEnum .encryptionCapability
abbrev EncryptionMethod := WireEnum .encryptionMethod
abbrev IpAddressType := WireEnum .ipAddressType
abbrev MediaPathCapability := WireEnum .mediaPathCapability
abbrev MediaPathEvent := WireEnum .mediaPathEvent
abbrev MediaPathId := WireEnum .mediaPathId
abbrev MediaStatus := WireEnum .mediaStatus
abbrev MediaType := WireEnum .mediaType
abbrev ModifyConferenceResult := WireEnum .modifyConferenceResult
abbrev NotificationPriority := WireEnum .notificationPriority
abbrev SilenceSuppression := WireEnum .silenceSuppression
abbrev Stimulus := WireEnum .stimulus
abbrev VideoFormat := WireEnum .videoFormat

/-- `MediaStatus::UnspecifiedError`. -/
def unspecifiedError : MediaStatus := .ofWire 1

/-- `CallType::Inbound`. -/
def inboundCall : UInt32 := 1

def Codec.h261 : Codec := .ofWire 0x64
def Codec.h263 : Codec := .ofWire 0x65
def Codec.h263Plus : Codec := .ofWire 0x66
def Codec.h264 : Codec := .ofWire 0x67

/-! ## Digits, identities and bounded bytes -/

inductive Digit where
  | number (digit : UInt8)
  | star | pound | a | b | c | d
  | unknown (value : UInt32)
  deriving DecidableEq

namespace Digit

def fromKeypad (value : UInt32) : Digit :=
  if value.toNat ≤ 9 then number value.toUInt8
  else if value = 10 then star
  else if value = 11 then pound
  else if value = 12 then a
  else if value = 13 then b
  else if value = 14 then c
  else if value = 15 then d
  else unknown value

def keypadValue : Digit → UInt32
  | number digit => digit.toUInt32
  | star => 10
  | pound => 11
  | a => 12
  | b => 13
  | c => 14
  | d => 15
  | unknown value => value

end Digit

/-- `char::to_ascii_uppercase`. -/
def toAsciiUppercase (c : Char) : Char :=
  if 0x61 ≤ c.toNat ∧ c.toNat ≤ 0x7a then Char.ofNat (c.toNat - 0x20) else c

def isAsciiAlphanumeric (b : UInt8) : Bool :=
  (0x30 ≤ b && b ≤ 0x39) || (0x41 ≤ b && b ≤ 0x5a) || (0x61 ≤ b && b ≤ 0x7a)

/-- Exact station name. -/
structure DeviceId where
  text : String
  deriving DecidableEq

/-- Blanks around the name are removed and letters become capitals. -/
def DeviceId.new (value : String) : Checked DeviceId :=
  let value := String.ofList ((trim value).toList.map toAsciiUppercase)
  if value = "" ∨ 15 < (utf8 value).length ∨ ¬ (utf8 value).all isAsciiAlphanumeric then
    reject (.invalidDeviceId value)
  else .ok ⟨value⟩

/-- Bytes whose number the message bounds. -/
structure BoundedBytes (maximum : Nat) where
  bytes : List UInt8
  bounded : bytes.length ≤ maximum
  deriving DecidableEq

/-- `BoundedBytes::new`; the error is made from the bound and the actual length. -/
def BoundedBytes.new (maximum : Nat) (bytes : List UInt8) (error : Nat → Nat → Fault) :
    Checked (BoundedBytes maximum) :=
  if h : bytes.length ≤ maximum then .ok ⟨bytes, h⟩
  else .error (error maximum bytes.length)

/-- Largest payload of a frame. -/
def MAX_OPAQUE_MESSAGE_BYTES : Nat := MAX_FRAME_SIZE - HEADER_SIZE

/-! ## Addresses and ports -/

inductive IpAddr where
  | v4 (octets : Block 4)
  | v6 (octets : Block 16)
  deriving DecidableEq

def decodePort (value messageId : UInt32) (field : String) : Checked UInt16 :=
  if value.toNat < 2 ^ 16 then .ok value.toUInt16
  else reject (.invalidValue messageId field value.toNat)

/-- `u32::from` of a flag. -/
def boolWord (flag : Bool) : UInt32 := if flag then 1 else 0

/-- A number of elements as a word. -/
def wireCount (messageId : UInt32) (field : String) (count : Nat) : Checked UInt32 :=
  if count < 2 ^ 32 then .ok (UInt32.ofNat count)
  else reject (.countTooLarge messageId field count (2 ^ 32 - 1))

end Sccp.Message
