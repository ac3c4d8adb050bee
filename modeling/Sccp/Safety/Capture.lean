/-
  Sccp.Safety.Capture

  What an observer of a connection learns of one message.

  The copy of the traffic is cut where the frame decoder cuts it.  A message that carries
  keying material is reproduced with zeros in the place of key and salt and is otherwise
  unchanged.
-/

import Sccp.Message.Capture
import Sccp.Safety.Framing
import Sccp.Safety.MediaSecrets

namespace Sccp

/-! ## Complete frames -/

/-- The bytes of a frame. -/
def Frame.bytes (frame : Frame) : List UInt8 :=
  (WireHeader.mk (UInt32.ofNat (frame.payload.length + 4)) frame.protocolVersion
    frame.messageId).write ++ frame.payload

theorem Frame.encode_eq {frame : Frame} {bytes : List UInt8} (h : frame.encode = .ok bytes) :
    bytes = frame.bytes := by
  unfold Frame.encode at h
  dsimp only at h
  split at h
  · cases h
  split at h
  · cases h
  split at h
  · cases h
  · cases h
    rfl

/-- What is observed of a complete frame. -/
def observe (frame : Frame) : ObservedFrame := sanitizeFrame frame.bytes false

namespace WireHeader

/-- The first twelve bytes are those of the header that they are read as. -/
theorem write_read {bytes : List UInt8} (h : HEADER_SIZE ≤ bytes.length) :
    (read bytes).write = bytes.take HEADER_SIZE := by
  unfold HEADER_SIZE at h ⊢
  have hword (k : Nat) (hk : k + 4 ≤ bytes.length) :
      leBytes 4 (UInt32.ofNat (leNat ((bytes.drop k).take 4))).toNat = (bytes.drop k).take 4 := by
    have hlength : ((bytes.drop k).take 4).length = 4 := by
      rw [List.length_take, List.length_drop]
      omega
    have hlt := leNat_lt ((bytes.drop k).take 4)
    rw [hlength] at hlt
    rw [UInt32.toNat_ofNat_of_lt' (by omega)]
    have hback := leBytes_leNat ((bytes.drop k).take 4)
    rwa [hlength] at hback
  have h₀ := hword 0 (by omega)
  have h₄ := hword 4 (by omega)
  have h₈ := hword 8 (by omega)
  rw [List.drop_zero] at h₀
  simp only [read, write]
  rw [h₀, h₄, h₈, show (12 : Nat) = 4 + (4 + 4) from rfl, List.take_add, List.take_add,
    List.drop_drop, List.append_assoc]

end WireHeader

namespace FrameDecoder

/-- What the scanner takes off the front of the input are the bytes of the frame. -/
theorem scanFrame_bytes {bytes : List UInt8} {frame : Frame} {size : Nat}
    (h : scanFrame bytes = .item frame size) : bytes.take size = frame.bytes := by
  have hle := scanFrame_item h
  unfold scanFrame at h
  dsimp only at h
  split at h
  · cases h
  next hlong =>
  split at h
  · cases h
  split at h
  · cases h
  split at h
  · cases h
  next hsmall hlarge hcomplete =>
  cases h
  have h12 : HEADER_SIZE ≤ (bytes.take HEADER_SIZE).length := by
    rw [List.length_take]
    omega
  have hwrite := WireHeader.write_read h12
  generalize hread : WireHeader.read (bytes.take HEADER_SIZE) = header at hle hwrite ⊢
  have hpayload : ((bytes.take (header.wireLen.toNat + 8)).drop HEADER_SIZE).length + 4
      = header.wireLen.toNat := by
    rw [List.length_drop, List.length_take_of_le hle.2]
    have h12 : HEADER_SIZE = 12 := rfl
    omega
  unfold Frame.bytes
  dsimp only
  rw [hpayload, UInt32.ofNat_toNat]
  change _ = header.write ++ _
  rw [hwrite, List.take_take, Nat.min_self]
  have hprefix : (bytes.take (header.wireLen.toNat + 8)).take HEADER_SIZE
      = bytes.take HEADER_SIZE := by
    rw [List.take_take, Nat.min_eq_left hle.1]
  rw [← hprefix, List.take_append_drop]

end FrameDecoder

namespace SignalingFrameBuffer

open FrameDecoder

variable {buffer : List UInt8}

/-! ## The same boundaries -/

/-- The length word as both sides read it. -/
theorem wireLen_eq (h : HEADER_SIZE ≤ buffer.length) :
    (WireHeader.read (buffer.take HEADER_SIZE)).wireLen.toNat = leNat (buffer.take 4) := by
  have h12 : HEADER_SIZE = 12 := rfl
  have hlength : (buffer.take 4).length = 4 := List.length_take_of_le (by omega)
  have hlt := leNat_lt (buffer.take 4)
  rw [hlength] at hlt
  change (UInt32.ofNat (leNat ((buffer.take HEADER_SIZE).take 4))).toNat = _
  rw [List.take_take, h12, UInt32.toNat_ofNat_of_lt' (by simpa using hlt)]
  rfl

theorem cutFrames_more (h : scanFrame buffer = .more) :
    cutFrames buffer = ([], .active buffer) := by
  rw [cutFrames]
  unfold scanFrame at h
  dsimp only at h ⊢
  split at h
  · next hshort => exact if_pos hshort
  next hlong =>
  rw [if_neg hlong]
  rw [wireLen_eq (Nat.not_lt.mp hlong)] at h
  split at h
  · cases h
  split at h
  · cases h
  split at h
  · next hsmall hlarge hpartial => rw [if_neg (not_or.mpr ⟨hsmall, hlarge⟩), dif_pos hpartial]
  · cases h

theorem cutFrames_fail {e : CodecError} (h : scanFrame buffer = .fail e) :
    cutFrames buffer = ([sanitizeFrame buffer true], .disabled) := by
  rw [cutFrames]
  unfold scanFrame at h
  dsimp only at h ⊢
  split at h
  · cases h
  next hlong =>
  rw [if_neg hlong]
  rw [wireLen_eq (Nat.not_lt.mp hlong)] at h
  split at h
  · next hsmall => exact if_pos (.inl hsmall)
  split at h
  · next hlarge => exact if_pos (.inr hlarge)
  split at h
  · cases h
  · cases h

theorem cutFrames_item {frame : Frame} {size : Nat} (h : scanFrame buffer = .item frame size) :
    cutFrames buffer
      = (observe frame :: (cutFrames (buffer.drop size)).1, (cutFrames (buffer.drop size)).2) := by
  have hbytes := scanFrame_bytes h
  rw [cutFrames]
  unfold scanFrame at h
  dsimp only at h ⊢
  split at h
  · cases h
  next hlong =>
  rw [if_neg hlong]
  have hlen := wireLen_eq (Nat.not_lt.mp hlong)
  split at h
  · cases h
  split at h
  · cases h
  split at h
  · cases h
  next hsmall hlarge hcomplete =>
  rw [hlen] at hsmall hlarge hcomplete
  cases h
  rw [hlen] at hbytes ⊢
  rw [if_neg (not_or.mpr ⟨hsmall, hlarge⟩), dif_neg hcomplete, hbytes]
  rfl

/-- The bytes of frames one after the other. -/
def framesBytes (frames : List Frame) : List UInt8 := frames.flatMap Frame.bytes

/-- The observed frames are those that the decoder finds; on a malformed header the rest of
    the buffer is reported once, without its bytes, and nothing follows. -/
theorem cutFrames_drain (buffer : List UInt8) :
    (∀ rest, (frameScanner.drain buffer).2 = .ok rest → cutFrames buffer
      = ((frameScanner.drain buffer).1.map observe, .active rest))
    ∧ ∀ e, (frameScanner.drain buffer).2 = .error e → ∃ tail,
      buffer = framesBytes (frameScanner.drain buffer).1 ++ tail ∧ scanFrame tail = .fail e
        ∧ cutFrames buffer
        = ((frameScanner.drain buffer).1.map observe ++ [sanitizeFrame tail true], .disabled) := by
  induction buffer using Scanner.drain.induct (s := frameScanner) with
  | case1 buffer hscan =>
    rw [Scanner.drain_more hscan, cutFrames_more hscan]
    refine ⟨fun rest h => ?_, fun e h => by cases h⟩
    cases h
    rfl
  | case2 buffer e hscan =>
    rw [Scanner.drain_fail hscan, cutFrames_fail hscan]
    refine ⟨fun rest h => (by cases h), fun e' h => ⟨buffer, rfl, ?_, rfl⟩⟩
    cases h
    exact hscan
  | case3 buffer frame size hscan _ ih =>
    rw [Scanner.drain_item hscan, cutFrames_item hscan]
    obtain ⟨hok, herror⟩ := ih
    refine ⟨fun rest h => by rw [hok rest h]; rfl, fun e h => ?_⟩
    obtain ⟨tail, htail, hfail, hcut⟩ := herror e h
    refine ⟨tail, ?_, hfail, by rw [hcut]; rfl⟩
    change buffer = (frame.bytes ++ framesBytes _) ++ tail
    rw [List.append_assoc, ← htail, ← scanFrame_bytes hscan, List.take_append_drop]

theorem pushAll_append (b : SignalingFrameBuffer) (chunks later : List (List UInt8)) :
    b.pushAll (chunks ++ later) = ((b.pushAll chunks).1 ++ ((b.pushAll chunks).2.pushAll later).1,
      ((b.pushAll chunks).2.pushAll later).2) := by
  induction chunks generalizing b with
  | nil => rfl
  | cons chunk chunks ih =>
    rw [List.cons_append, pushAll, pushAll]
    dsimp only
    rw [ih, List.append_assoc]

theorem pushAll_disabled (chunks : List (List UInt8)) :
    disabled.pushAll chunks = ([], disabled) := by
  induction chunks with
  | nil => rfl
  | cons chunk chunks ih =>
    rw [pushAll]
    change ([] ++ (disabled.pushAll chunks).1, (disabled.pushAll chunks).2) = _
    rw [ih]
    rfl

/-- A well-formed stream is observed frame by frame, in any chunks. -/
theorem pushAll_of_ok (chunks : List (List UInt8)) {tail : List UInt8}
    (hsettled : frameScanner.scan buffer = .more)
    (h : (streamFrames (buffer ++ chunks.flatten)).2 = .ok tail) : (active buffer).pushAll chunks
      = ((streamFrames (buffer ++ chunks.flatten)).1.map observe, active tail) := by
  unfold streamFrames at h ⊢
  induction chunks generalizing buffer with
  | nil =>
    rw [List.flatten_nil, List.append_nil, Scanner.drain_more hsettled] at h ⊢
    cases h
    rfl
  | cons chunk chunks ih =>
    rw [List.flatten_cons, ← List.append_assoc] at h ⊢
    cases hfirst : (frameScanner.drain (buffer ++ chunk)).2 with
    | error e =>
      rw [Scanner.drain_append_of_error hfirst, hfirst] at h
      cases h
    | ok rest =>
      rw [Scanner.drain_append_of_ok hfirst] at h ⊢
      have hlater := ih (Scanner.scan_rest hfirst) h
      have hcut := (cutFrames_drain (buffer ++ chunk)).1 rest hfirst
      rw [pushAll]
      change ((cutFrames (buffer ++ chunk)).1 ++ ((cutFrames (buffer ++ chunk)).2.pushAll chunks).1,
        ((cutFrames (buffer ++ chunk)).2.pushAll chunks).2) = _
      rw [hcut]
      dsimp only
      rw [hlater, List.map_append]

/-- The observer and the decoder agree on a well-formed stream. -/
theorem boundaries_of_ok {chunks : List (List UInt8)} {frames : List Frame}
    {decoder : FrameDecoder} (h : FrameDecoder.new.pushAll chunks = (frames, .ok decoder)) :
    new.pushAll chunks = (frames.map observe, active decoder.buffer) := by
  rcases pushAll_new chunks with ⟨tail, htail, hpush⟩ | ⟨e, before, chunk, after, tail, _, _, _, _,
    hpush⟩
  · rw [h] at hpush
    cases hpush
    exact pushAll_of_ok chunks rfl htail
  · rw [h] at hpush
    cases hpush

/-- The chunk that the decoder refuses ends the observation: the frames that it completes are
    still observed, the malformed header and what is behind it as zeros, and nothing else. -/
theorem boundaries_of_error {chunks : List (List UInt8)} {frames : List Frame} {e : CodecError}
    (h : FrameDecoder.new.pushAll chunks = (frames, .error e)) :
    ∃ before chunk after decoder completed rest, chunks = before ++ chunk :: after
      ∧ FrameDecoder.new.pushAll before = (frames, .ok decoder)
      ∧ decoder.push chunk = (.error e, ⟨decoder.buffer ++ chunk⟩)
      ∧ decoder.buffer ++ chunk = framesBytes completed ++ rest ∧ scanFrame rest = .fail e
      ∧ new.pushAll before = (frames.map observe, active decoder.buffer)
      ∧ (active decoder.buffer).push chunk
        = (completed.map observe ++ [sanitizeFrame rest true], disabled)
      ∧ disabled.pushAll after = ([], disabled) ∧ new.pushAll chunks
        = ((frames ++ completed).map observe ++ [sanitizeFrame rest true], disabled) := by
  rcases pushAll_new chunks with ⟨tail, _, hpush⟩ | ⟨e', before, chunk, after, tail, hstream,
    hchunks, hbefore, hfailing, hpush⟩
  · rw [h] at hpush
    cases hpush
  rw [h] at hpush
  cases hpush
  have hahead : new.pushAll before = ((streamFrames before.flatten).1.map observe, active tail) :=
    pushAll_of_ok before rfl hbefore
  have hdecoder : FrameDecoder.new.pushAll before = ((streamFrames before.flatten).1, .ok ⟨tail⟩) :=
    FrameDecoder.pushAll_of_ok before settled_new hbefore
  -- What the chunk makes of the rest that was kept decides it.
  have hdrain : (frameScanner.drain (tail ++ chunk)).2 = .error e := by
    rw [List.flatten_append, List.flatten_singleton] at hfailing
    have happend := Scanner.drain_append_of_ok hbefore chunk
    unfold streamFrames at hfailing
    rw [happend] at hfailing
    exact hfailing
  obtain ⟨rest, hrest, hfail, hcut⟩ := (cutFrames_drain (tail ++ chunk)).2 e hdrain
  refine ⟨before, chunk, after, ⟨tail⟩, (frameScanner.drain (tail ++ chunk)).1, rest, hchunks,
    hdecoder, push_of_error hdrain, hrest, hfail, hahead, hcut, pushAll_disabled after, ?_⟩
  rw [hchunks, pushAll_append, hahead]
  dsimp only
  rw [pushAll]
  change (_ ++ ((cutFrames (tail ++ chunk)).1 ++ ((cutFrames (tail ++ chunk)).2.pushAll after).1),
      ((cutFrames (tail ++ chunk)).2.pushAll after).2) = _
  rw [hcut]
  dsimp only
  rw [pushAll_disabled, List.append_nil, List.map_append, List.append_assoc]

end SignalingFrameBuffer

/-! ## Media messages -/

/-- Whether a frame can be encoded depends on the length of its payload alone. -/
theorem Frame.encode_of_length {frame other : Frame} {bytes : List UInt8}
    (h : frame.encode = .ok bytes) (hlength : other.payload.length = frame.payload.length) :
    other.encode = .ok other.bytes := by
  unfold Frame.encode at h ⊢
  dsimp only at h ⊢
  rw [hlength]
  split at h
  · cases h
  next hsmall =>
  split at h
  · cases h
  next hframe =>
  split at h
  · cases h
  next hword =>
  rw [if_neg hsmall, if_neg hframe, if_neg hword]
  unfold Frame.bytes
  rw [hlength]

namespace Message

/-- The padding depends on the length of the payload alone. -/
theorem padTypedPayload_append (messageId : UInt32) (length : Nat) : ∃ padding, ∀ payload,
    payload.length = length → padTypedPayload messageId payload = payload ++ padding := by
  unfold padTypedPayload
  split
  · exact ⟨[], fun payload _ => (List.append_nil payload).symm⟩
  split
  · exact ⟨[], fun payload _ => (List.append_nil payload).symm⟩
  · exact ⟨_, fun payload hlength => by rw [padDynamicPayload, hlength]⟩

namespace MediaMessage

variable {message : MediaMessage} {protocol : ProtocolVersion} {bytes : List UInt8}

theorem toFrame_ok {payload : List UInt8} (h : message.payload protocol = .ok payload) :
    message.toFrame protocol = .ok (typedFrame message.messageId protocol.wire payload) := by
  have hroute : rejectNonStationRoute message.messageId.wireValue .controlToStation
      "control-to-station" = .ok () := by
    cases message <;> rfl
  unfold toFrame
  rw [h]
  dsimp only [bind, Except.bind]
  rw [hroute]
  rfl

/-- An encoded message is the bytes of its frame. -/
theorem encode_ok (h : message.encode protocol = .ok bytes) :
    ∃ payload, message.payload protocol = .ok payload
      ∧ (typedFrame message.messageId protocol.wire payload).encode = .ok bytes := by
  unfold encode at h
  cases hpayload : message.payload protocol with
  | error e =>
    unfold toFrame at h
    rw [hpayload] at h
    cases h
  | ok payload =>
    rw [toFrame_ok hpayload] at h
    refine ⟨payload, rfl, ?_⟩
    dsimp only [bind, Except.bind] at h
    unfold encodeFrame at h
    split at h
    · cases h
    next hframe =>
      cases h
      exact hframe

theorem encode_of_frame {payload : List UInt8} (hpayload : message.payload protocol = .ok payload)
    (h : (typedFrame message.messageId protocol.wire payload).encode = .ok bytes) :
    message.encode protocol = .ok bytes := by
  unfold encode encodeFrame
  rw [toFrame_ok hpayload]
  dsimp only [bind, Except.bind]
  rw [h]

/-- The bytes of an encoded message: a header that gives version and type, then keys and
    salts in the middle of bytes that do not depend on them. -/
theorem encode_secrets (h : message.encode protocol = .ok bytes) :
    ∃ header : WireHeader, ∃ before after, header.protocolVersion = UInt32.ofNat protocol.wire
      ∧ header.messageId = message.messageId.wireValue
      ∧ before.length = message.secretsOffset protocol ∧ ∀ other, message.SameButSecrets other →
        other.encode protocol = .ok (header.write ++ before ++ other.secrets ++ after) := by
  obtain ⟨payload, hpayload, hframe⟩ := encode_ok h
  obtain ⟨select, ⟨before, after, hoffset, hbytes⟩, hselects⟩ :=
    payload_selects (WireEncryptionInfo.fromPublic message.encryption).withoutSecrets hpayload
  have hself := hselects message.encryption
  rw [withEncryption_self, hpayload, Except.ok.injEq] at hself
  -- Every choice of keys gives a payload of this length, hence the same padding.
  obtain ⟨padding, hpadding⟩ :=
    padTypedPayload_append message.messageId.wireValue payload.length
  refine ⟨⟨UInt32.ofNat ((payload ++ padding).length + 4), UInt32.ofNat protocol.wire,
    message.messageId.wireValue⟩, before, after ++ padding, rfl, rfl, hoffset, ?_⟩
  rintro other ⟨hother, hshared⟩
  have hlater := hselects other.encryption
  rw [← hother, hbytes _ hshared.symm] at hlater
  change other.payload protocol = .ok (before ++ other.secrets ++ after) at hlater
  have hid : other.messageId = message.messageId := by
    rw [hother, messageId_withEncryption]
  have hlength : (before ++ other.secrets ++ after).length = payload.length := by
    have hpublic : payload = before ++ message.secrets ++ after := by
      rw [hself]
      exact hbytes _ rfl
    rw [hpublic]
    simp only [List.length_append, length_secrets]
  have hpadded := hpadding _ hlength
  have hsame : (before ++ other.secrets ++ after ++ padding).length
      = (payload ++ padding).length := by
    rw [List.length_append, hlength, List.length_append]
  refine encode_of_frame hlater ?_
  rw [hid]
  refine (Frame.encode_of_length hframe ?_).trans ?_
  · change (padTypedPayload message.messageId.wireValue _).length
      = (padTypedPayload message.messageId.wireValue _).length
    rw [hpadded, hpadding payload rfl, hsame]
  unfold Frame.bytes typedFrame
  dsimp only
  rw [hpadded, hsame]
  simp only [List.append_assoc]

/-- The range that is overwritten is the one where key and salt stand. -/
theorem observationSanitization_media (message : MediaMessage) (protocol : ProtocolVersion) :
    observationSanitization (some message.messageId.wireValue) (some (UInt32.ofNat protocol.wire))
      = .redact (HEADER_SIZE + message.secretsOffset protocol)
        (HEADER_SIZE + message.secretsOffset protocol + 32) := by
  have hversion : (UInt32.ofNat protocol.wire).toNat = protocol.wire :=
    UInt32.toNat_ofNat_of_lt' (Nat.lt_of_le_of_lt protocol.supported.2 (by decide))
  have hid (id : MessageId) (h : MessageId.ofWire id.wireValue = id) :
      (some id.wireValue).map MessageId.ofWire = some id := congrArg some h
  unfold observationSanitization secretsOffset HEADER_SIZE
  rw [Option.any_some, hversion]
  cases message with
  | openReceiveChannel =>
    rw [messageId, hid _ rfl]
    rfl
  | startMediaTransmission =>
    rw [messageId, hid _ rfl]
    by_cases h17 : 17 ≤ protocol.wire
    · simp only [h17, decide_true, if_true]
    · simp only [h17, decide_false, Bool.false_eq_true, if_false]
  | openMultimediaChannel =>
    rw [messageId, hid _ rfl]
    rfl
  | startMultimediaTransmission =>
    rw [messageId, hid _ rfl]
    by_cases h17 : 17 ≤ protocol.wire
    · simp only [h17, decide_true, if_true]
    · simp only [h17, decide_false, Bool.false_eq_true, if_false]

end MediaMessage

end Message

/-! ## What is observed -/

/-- The words that an observation is sorted by are those of the header. -/
theorem readU32_header (header : WireHeader) (rest : List UInt8) :
    readU32 (header.write ++ rest) 4 = some header.protocolVersion
      ∧ readU32 (header.write ++ rest) 8 = some header.messageId := by
  have hread := WireHeader.read_write_append header rest
  have hlength : 12 ≤ (header.write ++ rest).length := by
    rw [List.length_append, WireHeader.length_write]
    exact Nat.le_add_right _ _
  have hversion := congrArg WireHeader.protocolVersion hread
  have hid := congrArg WireHeader.messageId hread
  unfold readU32
  rw [if_pos (by omega), if_pos (by omega)]
  exact ⟨congrArg some hversion, congrArg some hid⟩

theorem redactRange_middle (before middle after : List UInt8) (h : middle ≠ []) :
    redactRange (before ++ middle ++ after) before.length (before.length + middle.length)
      = (before ++ List.replicate middle.length 0 ++ after, .secretsRedacted) := by
  have hpos : 0 < middle.length := List.length_pos_iff.mpr h
  have hstop : before.length + middle.length = (before ++ middle).length :=
    (List.length_append).symm
  unfold redactRange zeroed
  rw [if_neg (by simp only [List.length_append]; omega), hstop]
  have hmin : min (before ++ middle).length (before ++ middle ++ after).length
      = (before ++ middle).length :=
    Nat.min_eq_left ((List.prefix_append (before ++ middle) after).length_le)
  dsimp only
  rw [hmin, List.take_left, List.drop_left, List.drop_left]
  rw [List.append_assoc before middle after, List.take_left]

namespace Message.MediaMessage

/-- A media message is observed with zeros for its keys and salts, otherwise as it is. -/
theorem observe_encode {message : MediaMessage} {protocol : ProtocolVersion} {bytes : List UInt8}
    (h : message.encode protocol = .ok bytes) : ∃ before after,
      before.length = HEADER_SIZE + message.secretsOffset protocol
      ∧ bytes = before ++ message.secrets ++ after
      ∧ (∀ other, message.SameButSecrets other →
        other.encode protocol = .ok (before ++ other.secrets ++ after))
      ∧ ∀ other, message.SameButSecrets other →
        sanitizeFrame (before ++ other.secrets ++ after) false
          = { protocolHeader := some (UInt32.ofNat protocol.wire)
              messageId := some message.messageId.wireValue
              fidelity := .secretsRedacted
              bytes := before ++ List.replicate 32 0 ++ after } := by
  obtain ⟨header, before, after, hversion, hid, hoffset, hencode⟩ := encode_secrets h
  have hself : message.SameButSecrets message := ⟨(withEncryption_self message).symm, rfl⟩
  have hlength : (header.write ++ before).length
      = HEADER_SIZE + message.secretsOffset protocol := by
    rw [List.length_append, WireHeader.length_write, hoffset]
  refine ⟨header.write ++ before, after, hlength, ?_, hencode, fun other _ => ?_⟩
  · have hbytes := hencode message hself
    rw [h, Except.ok.injEq] at hbytes
    exact hbytes
  have hwords := readU32_header header (before ++ other.secrets ++ after)
  simp only [← List.append_assoc] at hwords
  unfold sanitizeFrame
  rw [hwords.1, hwords.2, hversion, hid]
  dsimp only
  rw [if_neg Bool.false_ne_true, observationSanitization_media]
  dsimp only
  have hne : other.secrets ≠ [] := by
    intro hnil
    have h32 := other.length_secrets
    rw [hnil] at h32
    cases h32
  have hredact := redactRange_middle (header.write ++ before) other.secrets after hne
  rw [other.length_secrets, hlength] at hredact
  rw [hredact]

end Message.MediaMessage

end Sccp
