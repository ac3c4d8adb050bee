/-
  Sccp.Message.Capture

  The observed copy of a connection's traffic (`server/transport.rs`,
  `observation_sanitization` in `message/catalog.rs`).

  The copy is cut into frames by a buffer of its own.  A complete frame is reported with its
  keys overwritten or its payload suppressed; of anything else only the length is reported.
-/

import Sccp.Message.Catalog

namespace Sccp

/-- How much of the bytes of a frame an observation keeps. -/
inductive SignalingFidelity where
  | exact | secretsRedacted | payloadSuppressed | incompletePayloadSuppressed
  deriving DecidableEq

inductive ObservationSanitization where
  | preserve
  | redact (start stop : Nat)
  | suppressPayload
  deriving DecidableEq

def observationSanitization (messageId protocolHeader : Option UInt32) : ObservationSanitization :=
  let fromVersion17 := protocolHeader.any fun version => 17 ≤ version.toNat
  match messageId.map MessageId.ofWire with
  | some .openReceiveChannel => .redact 48 80
  | some .startMediaTransmission => if fromVersion17 then .redact 80 112 else .redact 64 96
  | some .openMultimediaChannel => .redact 128 160
  | some .startMultimediaTransmission =>
    if fromVersion17 then .redact 148 180 else .redact 132 164
  | some .deviceToUserData | some .deviceToUserDataResponse | some .deviceToUserDataV1
  | some .deviceToUserDataResponseV1 => .suppressPayload
  | _ => .preserve

structure ObservedFrame where
  (protocolHeader messageId : Option UInt32)
  fidelity : SignalingFidelity
  bytes : List UInt8
  deriving DecidableEq

/-- A little-endian word, if it is there. -/
def readU32 (bytes : List UInt8) (offset : Nat) : Option UInt32 :=
  if offset + 4 ≤ bytes.length then some (UInt32.ofNat (leNat ((bytes.drop offset).take 4)))
  else none

/-- `fill(0)`. -/
def zeroed (bytes : List UInt8) : List UInt8 := List.replicate bytes.length 0

def suppressPayload (bytes : List UInt8) : List UInt8 × SignalingFidelity :=
  (bytes.take 12 ++ zeroed (bytes.drop 12), .payloadSuppressed)

def redactRange (bytes : List UInt8) (start stop : Nat) : List UInt8 × SignalingFidelity :=
  if bytes.length ≤ start then (zeroed bytes, .payloadSuppressed)
  else
    let stop := min stop bytes.length
    (bytes.take start ++ zeroed ((bytes.take stop).drop start) ++ bytes.drop stop, .secretsRedacted)

def sanitizeFrame (bytes : List UInt8) (incomplete : Bool) : ObservedFrame :=
  let protocolHeader := readU32 bytes 4
  let messageId := readU32 bytes 8
  let (bytes, fidelity) :=
    if incomplete then (zeroed bytes, .incompletePayloadSuppressed)
    else
      match observationSanitization messageId protocolHeader with
      | .preserve => (bytes, .exact)
      | .redact start stop => redactRange bytes start stop
      | .suppressPayload => suppressPayload bytes
  { protocolHeader, messageId, fidelity, bytes }

/-- The copy that is waiting for the rest of its frame; a malformed header disables it. -/
inductive SignalingFrameBuffer where
  | active (buffer : List UInt8)
  | disabled
  deriving DecidableEq

namespace SignalingFrameBuffer

def new : SignalingFrameBuffer := .active []

/-- The loop of `push`. -/
def cutFrames (buffer : List UInt8) : List ObservedFrame × SignalingFrameBuffer :=
  if buffer.length < HEADER_SIZE then ([], .active buffer)
  else
    let wireLength := leNat (buffer.take 4)
    let totalBytes := wireLength + 8
    if wireLength < 4 ∨ MAX_FRAME_SIZE < totalBytes then ([sanitizeFrame buffer true], .disabled)
    else if h : buffer.length < totalBytes then ([], .active buffer)
    else
      have : (buffer.drop totalBytes).length < buffer.length := by
        rw [List.length_drop]
        omega
      let (frames, rest) := cutFrames (buffer.drop totalBytes)
      (sanitizeFrame (buffer.take totalBytes) false :: frames, rest)
termination_by buffer.length

def push (bytes : List UInt8) : SignalingFrameBuffer → List ObservedFrame × SignalingFrameBuffer
  | active buffer => cutFrames (buffer ++ bytes)
  | disabled => ([], disabled)

def takeIncomplete : SignalingFrameBuffer → Option ObservedFrame × SignalingFrameBuffer
  | active [] => (none, disabled)
  | active bytes => (some (sanitizeFrame bytes true), disabled)
  | disabled => (none, disabled)

/-- What is observed of chunks one after the other, and the buffer at the end. -/
def pushAll (b : SignalingFrameBuffer) :
    List (List UInt8) → List ObservedFrame × SignalingFrameBuffer
  | [] => ([], b)
  | chunk :: chunks =>
    let (frames, next) := b.push chunk
    let rest := next.pushAll chunks
    (frames ++ rest.1, rest.2)

end SignalingFrameBuffer

end Sccp
