/-
  Sccp.Types

  Identities and plain data shared by the call-control modules: the ids the
  driver and the handsets give to calls, bridges, conferences and participants,
  the station-visible enumerations, and the configuration a call is bound to.

  Ids are wrapped naturals, so that two kinds of id cannot be confused; the
  widths of the counters that allocate them are stated where they allocate.
  Times are naturals on an arbitrary clock.
-/

import Mathlib.Algebra.Group.Nat.Defs
import Mathlib.Data.List.Basic

namespace Sccp

/-- Monotonic clock reading. -/
abbrev Instant := Nat

abbrev Duration := Nat

/-- The largest `usize`, which is 64 bits wide. -/
def usizeMax : Nat := 2 ^ 64 - 1

/-- Unicode white space, as `str::trim` removes it. -/
def isWhiteSpace (character : Char) : Bool :=
  let n := character.toNat
  (0x09 ≤ n && n ≤ 0x0d) || n = 0x20 || n = 0x85 || n = 0xa0 || n = 0x1680
    || (0x2000 ≤ n && n ≤ 0x200a) || n = 0x2028 || n = 0x2029 || n = 0x202f || n = 0x205f
    || n = 0x3000

/-- Whether nothing is left of a text after `str::trim`. -/
def isBlank (text : String) : Bool := text.toList.all isWhiteSpace

/-- Handset-visible call reference. -/
structure CallId where
  val : Nat
  deriving DecidableEq

/-- Driver-owned identity for a PBX channel. -/
structure PbxCallId where
  val : Nat
  deriving DecidableEq

/-- Driver-owned identity for a backend bridge. -/
structure PbxBridgeId where
  val : Nat
  deriving DecidableEq

/-- Identity of one handset presentation of a PBX call. -/
structure CallAppearanceId where
  val : Nat
  deriving DecidableEq

structure ConferenceId where
  val : Nat
  deriving DecidableEq

structure ParticipantId where
  val : Nat
  deriving DecidableEq

structure DeviceId where
  name : String
  deriving DecidableEq

/-- Generation of one device connection; later connections have larger ones. -/
structure SessionGeneration where
  val : Nat
  deriving DecidableEq

structure PassthroughPartyId where
  val : Nat
  deriving DecidableEq

/-- Payload capability identifier. -/
structure Codec where
  code : Nat
  deriving DecidableEq

/-- Whether `Codec::kind` is `Audio`: every assigned identifier that is not a
    video, text, data or telephone-event format. -/
def Codec.isAudio (codec : Codec) : Bool :=
  (0x02 ≤ codec.code && codec.code ≤ 0x10) || (0x12 ≤ codec.code && codec.code ≤ 0x14)
    || codec.code = 0x19 || (0x28 ≤ codec.code && codec.code ≤ 0x31)
    || (0x50 ≤ codec.code && codec.code ≤ 0x56) || codec.code = 0x59 || codec.code = 0x5a
    || codec.code = 0x61 || codec.code = 0x62

/-- Station tone identifier. -/
structure Tone where
  code : Nat
  deriving DecidableEq

/-- `Tone::Silence`: stops any current station tone. -/
def Tone.silence : Tone := ⟨0⟩

inductive CallDirection where
  | inbound
  | outbound
  deriving DecidableEq

/-- Station call-state indication shown by the call plane. -/
inductive HandsetCallState where
  | offHook
  | onHook
  | ringOut
  | ringIn
  | connected
  | busy
  | congestion
  | hold
  | callWaiting
  | transfer
  | park
  | proceed
  | remoteMultiline
  | invalidNumber
  | holdYellow
  | intercomOneWay
  | holdRed
  deriving DecidableEq

/-- Incoming-ring policy for a line appearance. -/
inductive AppearanceRingMode where
  | normal
  | silent
  | disabled
  deriving DecidableEq

inductive AutoAnswerMode where
  | oneWay
  | twoWay
  deriving DecidableEq

inductive AutoAnswerCause where
  | busy
  | unavailable
  | congestion
  deriving DecidableEq

structure AutoAnswerRequest where
  mode : AutoAnswerMode
  unavailableCause : Option AutoAnswerCause

/-- Party identity and redirection history presented for a call.  Empty
    strings mean that the identity is unavailable. -/
structure CallInfo where
  direction : CallDirection := .outbound
  callingName : String := ""
  callingNumber : String := ""
  calledName : String := ""
  calledNumber : String := ""
  originalCalledName : String := ""
  originalCalledNumber : String := ""
  lastRedirectingName : String := ""
  lastRedirectingNumber : String := ""
  originalRedirectReason : Nat := 0
  lastRedirectReason : Nat := 0
  partyRestrictions : Nat := 0

/-- One device's configured presentation of a logical line, as far as call
    control reads it. -/
structure LineAppearance where
  displayLabel : String
  ringMode : AppearanceRingMode := .normal
  privacy : Bool := false

structure LineConfig where
  number : String
  context : String
  callerName : String := ""
  callerNumber : String := ""

structure LineBinding where
  deviceId : DeviceId
  lineInstance : Nat
  appearance : LineAppearance
  line : LineConfig

/-- Tones used while an outbound call is collecting digits on a logical line. -/
structure LineDialToneConfig where
  initial : Tone
  secondaryPrefix : Option String
  secondary : Tone

/-- RTP endpoint and negotiated audio format for one media leg. -/
structure MediaEndpoint where
  address : String
  rtpPort : Nat
  rtcpPort : Nat
  codec : Codec
  packetMs : Nat
  maxFramesPerPacket : Nat
  telephoneEventPayload : Nat

end Sccp
