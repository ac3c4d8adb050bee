/-
  Sccp.Media.Audio

  Audio formats and their negotiation (`media/formats/audio.rs`).

  A station capability names a wire codec; the PBX knows audio formats, each of which stands
  for several wire codecs.  Negotiation walks the codecs in the station's order, or in the
  configured order while the station has not reported its capabilities.
-/

import Sccp.Controller.CodecMutation
import Sccp.Message.Capabilities

namespace Sccp.Media

open Message (MediaCapability)

/-- Station codecs, by their wire values. -/
abbrev StationCodec := Message.Codec

def DEFAULT_AUDIO_PACKET_MS : UInt32 := 20

def DEFAULT_AUDIO_MAX_FRAMES_PER_PACKET : UInt32 := 0

inductive AudioFormatError where
  | notAudio (codec : StationCodec)
  | unsupported (codec : StationCodec)

structure NegotiatedAudio where
  codec : StationCodec
  pbxFormat : PbxAudioFormat
  packetMs : UInt32
  maxFramesPerPacket : UInt32
  deriving DecidableEq

inductive AudioNegotiationError where
  | noRepresentableConfiguredCodec
  | noMutualCodec
  deriving DecidableEq

/-- Resolve a station codec without silently substituting a different format. -/
def pbxAudioFormat (codec : StationCodec) : Except AudioFormatError PbxAudioFormat :=
  match codec.code with
  | some 0x04 | some 0x05 => .ok .g711Ulaw
  | some 0x02 | some 0x03 => .ok .g711Alaw
  | some 0x06 | some 0x07 | some 0x08 => .ok .g722
  | some 0x09 => .ok .g723
  -- G.729 and its annexes are one format
  | some 0x0b | some 0x0c | some 0x0f | some 0x10 | some 0x55 => .ok .g729
  | some 0x52 => .ok .g726Aal2
  | some 0x50 => .ok .gsm
  | some 0x19 => .ok .slin16
  | some 0x56 => .ok .ilbc
  | some 0x28 => .ok .siren7
  | some 0x5a => .ok .opus
  | some code =>
    if Codec.isAudio ⟨code⟩ then .error (.unsupported codec) else .error (.notAudio codec)
  | none => .error (.notAudio codec)

/-- The codecs in their order, each at its first occurrence. -/
def withoutRepeats (codecs : List StationCodec) : List StationCodec :=
  codecs.foldl (fun kept codec => if codec ∈ kept then kept else kept ++ [codec]) []

/-- The codecs the negotiation tries, in this order. -/
def orderedCodecs (configured : List StationCodec) (station : Option (List MediaCapability)) :
    List StationCodec :=
  match station with
  | some capabilities =>
    withoutRepeats ((capabilities.map (·.codec)).filter (· ∈ configured))
  | none => configured

/-- The packet time of the station's entry for `codec`. -/
def stationMaxPacketMs (station : Option (List MediaCapability)) (codec : StationCodec) :
    Option UInt32 :=
  station.bind fun capabilities =>
    (capabilities.find? (·.codec = codec)).map (·.maxPacketMs)

/-- The loop of `negotiate_audio`, with its flag `has_representable`. -/
def selectAudio (station : Option (List MediaCapability)) (pbx : List PbxAudioFormat) :
    Bool → List StationCodec → Except AudioNegotiationError NegotiatedAudio
  | hasRepresentable, [] =>
    .error (if hasRepresentable then .noMutualCodec else .noRepresentableConfiguredCodec)
  | hasRepresentable, codec :: rest =>
    match pbxAudioFormat codec with
    | .error _ => selectAudio station pbx hasRepresentable rest
    | .ok pbxFormat =>
      if pbxFormat ∉ pbx then selectAudio station pbx true rest
      else if station.isSome
          && (stationMaxPacketMs station codec).all (· < DEFAULT_AUDIO_PACKET_MS) then
        selectAudio station pbx true rest
      else
        .ok
          { codec := codec
            pbxFormat := pbxFormat
            packetMs := DEFAULT_AUDIO_PACKET_MS
            maxFramesPerPacket := DEFAULT_AUDIO_MAX_FRAMES_PER_PACKET }

/-- Select the first configured codec represented by both endpoints. -/
def negotiateAudio (configured : List StationCodec) (station : Option (List MediaCapability))
    (pbx : List PbxAudioFormat) : Except AudioNegotiationError NegotiatedAudio :=
  selectAudio station pbx false (orderedCodecs configured station)

end Sccp.Media
