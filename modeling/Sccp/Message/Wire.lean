/-
  Sccp.Message.Wire

  Frames and the incremental frame decoder (`message/wire.rs`).

  A frame on the wire is a header of three little-endian words, the length of what
  follows the second word, the protocol version and the message identifier, and
  then the payload.
-/

import Sccp.Lib.Bytes
import Sccp.Types

namespace Sccp

/-- Number of bytes in a frame header, including the message identifier. -/
def HEADER_SIZE : Nat := 12

/-- Largest complete frame accepted or emitted by the framing layer. -/
def MAX_FRAME_SIZE : Nat := 8192

inductive MessageRoute where
  | stationToControl | controlToStation | controlToServiceNode | serviceNodeToControl
  | intraControl
  deriving DecidableEq

/-- Validation and serialization failures of framing and of the message codecs. -/
inductive CodecError where
  | invalidLength (length : UInt32)
  | frameTooLarge (size : Nat)
  | truncated (messageId : UInt32) (needed actual : Nat)
  | invalidDeviceId (id : String)
  | invalidDefinition (definition : String)
  | invalidText
  | unsupportedProtocol (version : UInt32)
  | unexpectedRoute (messageId : UInt32) (actual : MessageRoute) (expected : String)
  | invalidValue (messageId : UInt32) (field : String) (value : Nat)
  | countTooLarge (messageId : UInt32) (field : String) (count maximum : Nat)
  | nonZeroPadding (messageId : UInt32) (field : String)
  | trailingBytes (messageId : UInt32) (count : Nat)
  | invalidAlignment (messageId : UInt32) (actual : Nat)
  | textTooLong (messageId : UInt32) (field : String) (actual maximum : Nat)
  | secretTooLong (field : String) (actual maximum : Nat)
  | wire (operation : String) (messageId : UInt32) (offset : Nat) (detail : String)
  deriving DecidableEq

/-- The fixed framing header. -/
structure WireHeader where
  wireLen : UInt32
  protocolVersion : UInt32
  messageId : UInt32
  deriving DecidableEq

namespace WireHeader

def write (header : WireHeader) : List UInt8 :=
  leBytes 4 header.wireLen.toNat ++ leBytes 4 header.protocolVersion.toNat
    ++ leBytes 4 header.messageId.toNat

/-- The header in the first twelve bytes. -/
def read (bytes : List UInt8) : WireHeader where
  wireLen := UInt32.ofNat (leNat (bytes.take 4))
  protocolVersion := UInt32.ofNat (leNat ((bytes.drop 4).take 4))
  messageId := UInt32.ofNat (leNat ((bytes.drop 8).take 4))

@[simp] theorem length_write (header : WireHeader) : header.write.length = HEADER_SIZE := by
  simp [write, HEADER_SIZE]

theorem ofNat_leNat_leBytes (word : UInt32) :
    UInt32.ofNat (leNat (leBytes 4 word.toNat)) = word := by
  have hword : word.toNat < 256 ^ 4 := by
    have := word.toNat_lt
    omega
  rw [leNat_leBytes hword, UInt32.ofNat_toNat]

/-- A header is read back from what was written, whatever follows it. -/
theorem read_write_append (header : WireHeader) (rest : List UInt8) :
    read (header.write ++ rest) = header := by
  obtain ⟨length, version, id⟩ := header
  have hlength := length_leBytes 4 length.toNat
  have hversion := length_leBytes 4 version.toNat
  have hid := length_leBytes 4 id.toNat
  simp only [read, write, List.append_assoc]
  rw [List.take_left' hlength, List.drop_left' hlength, List.take_left' hversion,
    show (8 : Nat) = 4 + 4 from rfl, ← List.drop_drop, List.drop_left' hlength,
    List.drop_left' hversion, List.take_left' hid]
  simp only [ofNat_leNat_leBytes]

end WireHeader

/-- One complete frame with an uninterpreted payload. -/
structure Frame where
  protocolVersion : UInt32
  messageId : UInt32
  payload : List UInt8
  deriving DecidableEq

/-- The length word counts the message identifier, but not the first two words. -/
def Frame.encode (frame : Frame) : Except CodecError (List UInt8) :=
  let wireLen := frame.payload.length + 4
  if usizeMax < wireLen then
    .error (.frameTooLarge usizeMax)
  else
    let total := wireLen + 8
    if MAX_FRAME_SIZE < total then
      .error (.frameTooLarge total)
    else if 2 ^ 32 ≤ wireLen then
      .error (.frameTooLarge wireLen)
    else
      let header : WireHeader :=
        { wireLen := UInt32.ofNat wireLen, protocolVersion := frame.protocolVersion,
          messageId := frame.messageId }
      .ok (header.write ++ frame.payload)

/-- Incremental decoder for a byte stream; it keeps an incomplete trailing frame. -/
structure FrameDecoder where
  buffer : List UInt8
  deriving DecidableEq

namespace FrameDecoder

def new : FrameDecoder := ⟨[]⟩

/-- The loop of `push`: the frames behind the first `consumed` bytes of the buffer,
    after those already found, and how far they reach. -/
def decodeFrames (buffer : List UInt8) (consumed : Nat) (frames : List Frame) :
    Except CodecError (List Frame × Nat) :=
  let retained := buffer.drop consumed
  if retained.length < HEADER_SIZE then
    .ok (frames, consumed)
  else
    let header := WireHeader.read (retained.take HEADER_SIZE)
    let length := header.wireLen
    if length.toNat < 4 then
      .error (.invalidLength length)
    else
      let total := length.toNat + 8
      if MAX_FRAME_SIZE < total then
        .error (.frameTooLarge total)
      else if h : retained.length < total then
        .ok (frames, consumed)
      else
        let payload := (retained.take total).drop HEADER_SIZE
        have : buffer.length - (consumed + total) < buffer.length - consumed := by
          have hretained : retained.length = buffer.length - consumed := List.length_drop
          omega
        decodeFrames buffer (consumed + total)
          (frames ++ [{ protocolVersion := header.protocolVersion,
                        messageId := header.messageId, payload }])
termination_by buffer.length - consumed

/-- Appends a chunk and gives every newly completed frame.  On an error the frames
    of this call are dropped and the buffer stays as extended. -/
def push (decoder : FrameDecoder) (bytes : List UInt8) :
    Except CodecError (List Frame) × FrameDecoder :=
  let buffer := decoder.buffer ++ bytes
  match decodeFrames buffer 0 [] with
  | .error e => (.error e, ⟨buffer⟩)
  | .ok (frames, consumed) => (.ok frames, ⟨buffer.drop consumed⟩)

def bufferedLen (decoder : FrameDecoder) : Nat := decoder.buffer.length

/-- Feeds chunks one after the other: the frames returned up to the first error,
    and that error or the decoder at the end. -/
def pushAll (decoder : FrameDecoder) :
    List (List UInt8) → List Frame × Except CodecError FrameDecoder
  | [] => ([], .ok decoder)
  | chunk :: chunks =>
    match decoder.push chunk with
    | (.error e, _) => ([], .error e)
    | (.ok frames, next) =>
      let rest := next.pushAll chunks
      (frames ++ rest.1, rest.2)

end FrameDecoder

end Sccp
