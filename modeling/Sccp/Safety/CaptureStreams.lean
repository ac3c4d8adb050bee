/-
  Sccp.Safety.CaptureStreams

  What an observer of a connection learns of the whole stream.

  Two streams that differ in keys and salts alone look the same.  The buffers of their two
  observers hold matching bytes at any time, and matching bytes start with the same header, so
  that they are cut at the same places.
-/

import Sccp.Safety.Capture

namespace Sccp

/-! ## Streams that differ in secrets alone -/

/-- Two streams of frames, equal but for the keys and salts of the media messages among them.
    Behind the frames may stand the same bytes in both, complete or not. -/
inductive AlikeStreams : List UInt8 → List UInt8 → Prop
  | same (bytes : List UInt8) : AlikeStreams bytes bytes
  | frame {frame : Frame} {bytes left right : List UInt8} (encoded : frame.encode = .ok bytes)
      (later : AlikeStreams left right) : AlikeStreams (bytes ++ left) (bytes ++ right)
  | media {message other : Message.MediaMessage} {protocol : ProtocolVersion}
      {bytes bytes' left right : List UInt8} (alike : message.SameButSecrets other)
      (encoded : message.encode protocol = .ok bytes)
      (encoded' : other.encode protocol = .ok bytes') (later : AlikeStreams left right) :
      AlikeStreams (bytes ++ left) (bytes' ++ right)

/-- What has arrived of two such streams at one time. -/
def Matching (bytes bytes' : List UInt8) : Prop :=
  ∃ left right n, AlikeStreams left right ∧ bytes = left.take n ∧ bytes' = right.take n

/-- Two complete frames that an observer cannot tell apart. -/
def AlikeFrames (piece piece' : List UInt8) : Prop :=
  ∃ frame frame' : Frame, frame.encode = .ok piece ∧ frame'.encode = .ok piece'
    ∧ piece.length = piece'.length ∧ piece.take HEADER_SIZE = piece'.take HEADER_SIZE
    ∧ observe frame = observe frame'

theorem AlikeFrames.ofMedia {message other : Message.MediaMessage} {protocol : ProtocolVersion}
    {bytes bytes' : List UInt8} (alike : message.SameButSecrets other)
    (encoded : message.encode protocol = .ok bytes)
    (encoded' : other.encode protocol = .ok bytes') : AlikeFrames bytes bytes' := by
  have hself : message.SameButSecrets message := ⟨message.withEncryption_self.symm, rfl⟩
  obtain ⟨before, after, hlength, hbytes, hencode, hobserve⟩ :=
    Message.MediaMessage.observe_encode encoded
  obtain ⟨payload, _, hframe⟩ := Message.MediaMessage.encode_ok encoded
  obtain ⟨payload', _, hframe'⟩ := Message.MediaMessage.encode_ok encoded'
  have hbytes' := hencode other alike
  rw [encoded', Except.ok.injEq] at hbytes'
  refine ⟨_, _, hframe, hframe', ?_, ?_, ?_⟩
  · rw [hbytes, hbytes']
    simp only [List.length_append, Message.MediaMessage.length_secrets]
  · -- The header stands before the keys.
    have hheader : HEADER_SIZE ≤ before.length := by
      rw [hlength]
      exact Nat.le_add_right _ _
    rw [hbytes, hbytes', List.append_assoc, List.append_assoc,
      List.take_append_of_le_length hheader, List.take_append_of_le_length hheader]
  · unfold observe
    rw [← Frame.encode_eq hframe, ← Frame.encode_eq hframe', hbytes, hbytes',
      hobserve message hself, hobserve other alike]

theorem AlikeFrames.self {frame : Frame} {bytes : List UInt8} (h : frame.encode = .ok bytes) :
    AlikeFrames bytes bytes :=
  ⟨frame, frame, h, h, rfl, rfl, rfl⟩

namespace AlikeStreams

variable {left right : List UInt8}

/-- Two such streams are equal, or they start with frames that look the same. -/
theorem front (h : AlikeStreams left right) : left = right
    ∨ ∃ piece piece' later later', left = piece ++ later ∧ right = piece' ++ later'
      ∧ AlikeFrames piece piece' ∧ AlikeStreams later later' := by
  cases h with
  | same bytes => exact .inl rfl
  | frame encoded later => exact .inr ⟨_, _, _, _, rfl, rfl, .self encoded, later⟩
  | media alike encoded encoded' later =>
    exact .inr ⟨_, _, _, _, rfl, rfl, .ofMedia alike encoded encoded', later⟩

theorem length_eq (h : AlikeStreams left right) : left.length = right.length := by
  induction h with
  | same bytes => rfl
  | frame encoded later ih => rw [List.length_append, List.length_append, ih]
  | media alike encoded encoded' later ih =>
    obtain ⟨_, _, _, _, hlength, _⟩ := AlikeFrames.ofMedia alike encoded encoded'
    rw [List.length_append, List.length_append, ih, hlength]

/-- A header stands in front of the secrets of its frame. -/
theorem header_eq (h : AlikeStreams left right) : left.take HEADER_SIZE
    = right.take HEADER_SIZE := by
  rcases h.front with rfl | ⟨piece, piece', later, later', rfl, rfl, halike, _⟩
  · rfl
  obtain ⟨frame, frame', hframe, hframe', _, hheader, _⟩ := halike
  have hlong {f : Frame} {bytes : List UInt8} (h : f.encode = .ok bytes) :
      HEADER_SIZE ≤ bytes.length := by
    rw [Frame.encode_eq h, Frame.bytes, List.length_append, WireHeader.length_write]
    exact Nat.le_add_right _ _
  rw [List.take_append_of_le_length (hlong hframe), List.take_append_of_le_length (hlong hframe'),
    hheader]

end AlikeStreams

open FrameDecoder in
/-- A part of a frame is not yet a frame. -/
theorem scanFrame_cut {frame : Frame} {piece : List UInt8} (h : frame.encode = .ok piece)
    {n : Nat} (hn : n < piece.length) : scanFrame (piece.take n) = .more := by
  by_contra hscan
  have hwhole := scanFrame_append (piece.drop n) hscan
  have hitem := scanFrame_encode h []
  rw [List.append_nil] at hitem
  rw [List.take_append_drop, hitem] at hwhole
  have hle := (scanFrame_item hwhole.symm).2
  rw [List.length_take] at hle
  omega

namespace Matching

variable {bytes bytes' : List UInt8}

theorem self (bytes : List UInt8) : Matching bytes bytes :=
  ⟨bytes, bytes, bytes.length, .same bytes, List.take_length.symm, List.take_length.symm⟩

theorem header_eq (h : Matching bytes bytes') : bytes.take HEADER_SIZE
    = bytes'.take HEADER_SIZE := by
  obtain ⟨left, right, n, hstreams, rfl, rfl⟩ := h
  rw [List.take_take, List.take_take, Nat.min_comm, ← List.take_take, ← List.take_take,
    hstreams.header_eq]

/-- Less of two streams. -/
theorem take (h : Matching bytes bytes') (n : Nat) : Matching (bytes.take n) (bytes'.take n) := by
  obtain ⟨left, right, m, hstreams, rfl, rfl⟩ := h
  exact ⟨left, right, min n m, hstreams, List.take_take, List.take_take⟩

theorem ahead {rest rest' : List UInt8} (hlength : bytes.length = bytes'.length)
    (h : Matching (bytes ++ rest) (bytes' ++ rest')) : Matching bytes bytes' := by
  have htake := h.take bytes.length
  rwa [List.take_left, hlength, List.take_left] at htake

open FrameDecoder in
/-- What the decoder finds at the front: the same bytes, too little of the same header in
    both, or frames that look the same. -/
theorem front (h : Matching bytes bytes') : bytes = bytes'
    ∨ (scanFrame bytes = .more ∧ scanFrame bytes' = .more
      ∧ bytes.take HEADER_SIZE = bytes'.take HEADER_SIZE)
    ∨ ∃ frame frame' size, scanFrame bytes = .item frame size
      ∧ scanFrame bytes' = .item frame' size ∧ observe frame = observe frame'
      ∧ Matching (bytes.drop size) (bytes'.drop size) := by
  obtain ⟨left, right, n, hstreams, rfl, rfl⟩ := h
  rcases hstreams.front with rfl | ⟨piece, piece', later, later', rfl, rfl, halike, hlater⟩
  · exact .inl rfl
  obtain ⟨frame, frame', hframe, hframe', hlength, hheader, hobserve⟩ := halike
  by_cases hn : n < piece.length
  · have hn' : n < piece'.length := hlength ▸ hn
    rw [List.take_append_of_le_length (Nat.le_of_lt hn),
      List.take_append_of_le_length (Nat.le_of_lt hn')]
    refine .inr (.inl ⟨scanFrame_cut hframe hn, scanFrame_cut hframe' hn', ?_⟩)
    rw [List.take_take, List.take_take, Nat.min_comm, ← List.take_take, ← List.take_take, hheader]
  obtain ⟨m, rfl⟩ : ∃ m, n = piece.length + m := ⟨n - piece.length, by omega⟩
  rw [List.take_length_add_append, hlength, List.take_length_add_append]
  refine .inr (.inr ⟨frame, frame', piece'.length, ?_, scanFrame_encode hframe' _, hobserve,
    later, later', m, hlater, ?_, List.drop_left⟩)
  · rw [← hlength]
    exact scanFrame_encode hframe _
  · rw [← hlength]
    exact List.drop_left

end Matching

namespace SignalingFrameBuffer

open FrameDecoder

/-- The buffers of two observers that have seen as much as each other, with what is to come. -/
def AlikeBuffers (later later' : List UInt8) : SignalingFrameBuffer → SignalingFrameBuffer → Prop
  | active bytes, active bytes' =>
    bytes.length = bytes'.length ∧ Matching (bytes ++ later) (bytes' ++ later')
  | disabled, disabled => True
  | _, _ => False

theorem AlikeBuffers.self (later : List UInt8) (b : SignalingFrameBuffer) :
    AlikeBuffers later later b b := by
  cases b with
  | active bytes => exact ⟨rfl, .self _⟩
  | disabled => trivial

/-- Either more is needed on both sides or on neither. -/
theorem scan_more_iff {buffer buffer' : List UInt8} (h : Matching buffer buffer') :
    scanFrame buffer = .more ↔ scanFrame buffer' = .more := by
  rcases h.front with rfl | ⟨hmore, hmore', _⟩ | ⟨frame, frame', size, hitem, hitem', _⟩
  · rfl
  · exact ⟨fun _ => hmore', fun _ => hmore⟩
  · rw [hitem, hitem']
    exact ⟨fun h => (by cases h), fun h => by cases h⟩

/-- Buffers with a matching future are cut into frames that look the same. -/
theorem cutFrames_matching (buffer buffer' later later' : List UInt8)
    (hlength : buffer.length = buffer'.length)
    (h : Matching (buffer ++ later) (buffer' ++ later')) :
    (cutFrames buffer).1 = (cutFrames buffer').1
      ∧ AlikeBuffers later later' (cutFrames buffer).2 (cutFrames buffer').2 := by
  -- The induction follows the frames that are taken off the buffer.
  induction buffer using Scanner.drain.induct (s := frameScanner) generalizing buffer' with
  | case1 buffer hscan =>
    have hscan' := (scan_more_iff (h.ahead hlength)).mp hscan
    rw [cutFrames_more hscan, cutFrames_more hscan']
    exact ⟨rfl, hlength, h⟩
  | case2 buffer e hscan =>
    -- A malformed header has no counterpart but itself.
    rcases (h.ahead hlength).front with rfl | ⟨hmore, _⟩ | ⟨frame, frame', size, hitem, _⟩
    · rw [cutFrames_fail hscan]
      exact ⟨rfl, trivial⟩
    · cases hscan.symm.trans hmore
    · cases hscan.symm.trans hitem
  | case3 buffer frame size hscan _ ih =>
    have hne : scanFrame buffer ≠ .more := fun hmore => by
      have hboth := hscan.symm.trans hmore
      cases hboth
    have hne' : scanFrame buffer' ≠ .more := fun hmore' =>
      hne ((scan_more_iff (h.ahead hlength)).mpr hmore')
    have hfront : scanFrame (buffer ++ later) = .item frame size :=
      (scanFrame_append later hne).trans hscan
    have hle := (scanFrame_item hscan).2
    rcases h.front with heq | ⟨hmore, _⟩ | ⟨frame₁, frame', size₁, hitem, hitem', hobserve, hdrop⟩
    · obtain ⟨rfl, rfl⟩ := List.append_inj heq hlength
      exact ⟨rfl, .self _ _⟩
    · cases hfront.symm.trans hmore
    rw [hfront] at hitem
    cases hitem
    rw [scanFrame_append later' hne'] at hitem'
    have hle' : size ≤ buffer'.length := (scanFrame_item hitem').2
    rw [List.drop_append_of_le_length hle, List.drop_append_of_le_length hle'] at hdrop
    have hrest := ih (buffer'.drop size) (by rw [List.length_drop, List.length_drop, hlength]) hdrop
    rw [cutFrames_item hscan, cutFrames_item hitem', hobserve, hrest.1]
    exact ⟨rfl, hrest.2⟩

/-- The same chunk lengths of two streams that differ in secrets alone show the same. -/
theorem pushAll_matching {chunks chunks' : List (List UInt8)}
    (hlengths : chunks.map List.length = chunks'.map List.length) {b b' : SignalingFrameBuffer}
    (h : AlikeBuffers chunks.flatten chunks'.flatten b b') :
    (b.pushAll chunks).1 = (b'.pushAll chunks').1
      ∧ AlikeBuffers [] [] (b.pushAll chunks).2 (b'.pushAll chunks').2 := by
  induction chunks generalizing chunks' b b' with
  | nil =>
    rw [List.map_nil, eq_comm, List.map_eq_nil_iff] at hlengths
    subst hlengths
    exact ⟨rfl, h⟩
  | cons chunk chunks ih =>
    cases chunks' with
    | nil => cases hlengths
    | cons chunk' chunks' =>
    rw [List.map_cons, List.map_cons, List.cons.injEq] at hlengths
    obtain ⟨hchunk, hlengths⟩ := hlengths
    have hpush : (b.push chunk).1 = (b'.push chunk').1
        ∧ AlikeBuffers chunks.flatten chunks'.flatten (b.push chunk).2 (b'.push chunk').2 := by
      cases b with
      | active bytes =>
        cases b' with
        | active bytes' =>
          obtain ⟨hlength, hmatch⟩ := h
          rw [List.flatten_cons, List.flatten_cons, ← List.append_assoc,
            ← List.append_assoc] at hmatch
          exact cutFrames_matching _ _ _ _
            (by rw [List.length_append, List.length_append, hlength, hchunk]) hmatch
        | disabled => exact h.elim
      | disabled =>
        cases b' with
        | active bytes' => exact h.elim
        | disabled => exact ⟨rfl, trivial⟩
    have hlater := ih hlengths hpush.2
    rw [pushAll, pushAll]
    dsimp only
    rw [hpush.1, hlater.1]
    exact ⟨rfl, hlater.2⟩

/-- Of an incomplete frame the length and two words of the header are reported. -/
theorem sanitizeFrame_incomplete {bytes bytes' : List UInt8}
    (hlength : bytes.length = bytes'.length)
    (hheader : bytes.take HEADER_SIZE = bytes'.take HEADER_SIZE) :
    sanitizeFrame bytes true = sanitizeFrame bytes' true := by
  have hword (k : Nat) (hk : k + 4 ≤ 12) : readU32 bytes k = readU32 bytes' k := by
    have htake (b : List UInt8) : (b.drop k).take 4 = ((b.take HEADER_SIZE).drop k).take 4 := by
      rw [List.drop_take, List.take_take, Nat.min_eq_left]
      unfold HEADER_SIZE
      omega
    unfold readU32
    rw [hlength, htake bytes, hheader, ← htake]
  unfold sanitizeFrame zeroed
  rw [hword 4 (by omega), hword 8 (by omega), hlength]
  rfl

theorem takeIncomplete_matching {b b' : SignalingFrameBuffer} (h : AlikeBuffers [] [] b b') :
    b.takeIncomplete = b'.takeIncomplete := by
  cases b with
  | disabled =>
    cases b' with
    | active bytes' => exact h.elim
    | disabled => rfl
  | active bytes =>
    cases b' with
    | disabled => exact h.elim
    | active bytes' =>
    obtain ⟨hlength, hmatch⟩ := h
    rw [List.append_nil, List.append_nil] at hmatch
    have hsame := sanitizeFrame_incomplete hlength hmatch.header_eq
    cases bytes with
    | nil =>
      rw [List.eq_nil_of_length_eq_zero hlength.symm]
    | cons first bytes =>
      cases bytes' with
      | nil => cases hlength
      | cons first' bytes' => exact congrArg (fun observed => (some observed, disabled)) hsame

/-- Streams that differ in secrets alone give the same observations, also of what is left when
    the connection ends. -/
theorem alike_observed {left right : List UInt8} (h : AlikeStreams left right) (n : Nat)
    {chunks chunks' : List (List UInt8)} (hchunks : chunks.flatten = left.take n)
    (hchunks' : chunks'.flatten = right.take n)
    (hlengths : chunks.map List.length = chunks'.map List.length) :
    (new.pushAll chunks).1 = (new.pushAll chunks').1
      ∧ (new.pushAll chunks).2.takeIncomplete = (new.pushAll chunks').2.takeIncomplete := by
  have hstart : AlikeBuffers chunks.flatten chunks'.flatten new new :=
    ⟨rfl, left, right, n, h, hchunks, hchunks'⟩
  have hrun := pushAll_matching hlengths hstart
  exact ⟨hrun.1, takeIncomplete_matching hrun.2⟩

/-- The messages that carry data between a device and a user. -/
def userDataIds : List MessageId :=
  [.deviceToUserData, .deviceToUserDataResponse, .deviceToUserDataV1, .deviceToUserDataResponseV1]

theorem observe_userData {frame : Frame} (h : MessageId.ofWire frame.messageId ∈ userDataIds) :
    (observe frame).bytes
      = frame.bytes.take HEADER_SIZE ++ List.replicate frame.payload.length 0 := by
  have hword : readU32 frame.bytes 8 = some frame.messageId := (readU32_header _ _).2
  have hsuppress (version : Option UInt32) :
      observationSanitization (some frame.messageId) version = .suppressPayload := by
    unfold observationSanitization
    rw [Option.map_some]
    rcases List.mem_cons.mp h with h | h
    · rw [h]
    rcases List.mem_cons.mp h with h | h
    · rw [h]
    rcases List.mem_cons.mp h with h | h
    · rw [h]
    · rw [List.mem_singleton.mp h]
  have hdrop : frame.bytes.drop 12 = frame.payload :=
    List.drop_left' (WireHeader.length_write _)
  unfold observe sanitizeFrame
  rw [hword]
  dsimp only
  rw [if_neg Bool.false_ne_true, hsuppress]
  unfold suppressPayload zeroed
  rw [hdrop]
  rfl

/-- The messages that carry the keys of a stream. -/
def mediaIds : List MessageId :=
  [.openReceiveChannel, .startMediaTransmission, .openMultimediaChannel,
    .startMultimediaTransmission]

/-- A frame of any other message is reproduced as it is. -/
theorem observe_other {frame : Frame}
    (h : MessageId.ofWire frame.messageId ∉ mediaIds ++ userDataIds) :
    (observe frame).fidelity = .exact ∧ (observe frame).bytes = frame.bytes := by
  have hword : readU32 frame.bytes 8 = some frame.messageId := (readU32_header _ _).2
  have hpreserve (version : Option UInt32) :
      observationSanitization (some frame.messageId) version = .preserve := by
    unfold observationSanitization
    rw [Option.map_some]
    split
    -- every branch but the last is of a message that is listed
    case h_9 => rfl
    all_goals
      next heq =>
      rw [Option.some.inj heq] at h
      exact absurd (by decide) h
  unfold observe sanitizeFrame
  rw [hword]
  dsimp only
  rw [if_neg Bool.false_ne_true, hpreserve]
  exact ⟨rfl, rfl⟩

/-- Capture shows no secret and moves no boundary.  A stream is observed frame by frame where
    the decoder finds its frames; the chunk that the decoder refuses ends the observation for
    good.  Two streams that differ in the keys and salts of media messages alone show the same
    when they arrive in chunks of the same lengths.  A media message is reproduced byte by byte
    but for 32 zeros in the place of its key and salt.  Of a frame that is incomplete or
    malformed, and of data between a device and a user, no byte is shown; every other frame is
    reproduced. -/
theorem capture_keeps_secrets :
    (∀ chunks frames decoder, FrameDecoder.new.pushAll chunks = (frames, .ok decoder) →
      new.pushAll chunks = (frames.map observe, active decoder.buffer))
    ∧ (∀ chunks frames e, FrameDecoder.new.pushAll chunks = (frames, .error e) →
      ∃ before chunk after decoder completed rest, chunks = before ++ chunk :: after
        ∧ FrameDecoder.new.pushAll before = (frames, .ok decoder)
        ∧ decoder.push chunk = (.error e, ⟨decoder.buffer ++ chunk⟩)
        ∧ decoder.buffer ++ chunk = framesBytes completed ++ rest ∧ scanFrame rest = .fail e
        ∧ new.pushAll before = (frames.map observe, active decoder.buffer)
        ∧ (active decoder.buffer).push chunk
          = (completed.map observe ++ [sanitizeFrame rest true], disabled)
        ∧ disabled.pushAll after = ([], disabled) ∧ new.pushAll chunks
          = ((frames ++ completed).map observe ++ [sanitizeFrame rest true], disabled))
    ∧ (∀ left right n (chunks chunks' : List (List UInt8)), AlikeStreams left right →
      chunks.flatten = left.take n → chunks'.flatten = right.take n →
      chunks.map List.length = chunks'.map List.length →
      (new.pushAll chunks).1 = (new.pushAll chunks').1
        ∧ (new.pushAll chunks).2.takeIncomplete = (new.pushAll chunks').2.takeIncomplete)
    ∧ (∀ (message : Message.MediaMessage) protocol bytes, message.encode protocol = .ok bytes →
      ∃ frame before after, message.toFrame protocol = .ok frame ∧ frame.bytes = bytes
        ∧ bytes = before ++ message.secrets ++ after ∧ (∀ other, message.SameButSecrets other →
          other.encode protocol = .ok (before ++ other.secrets ++ after))
        ∧ (observe frame).fidelity = .secretsRedacted
        ∧ (observe frame).bytes = before ++ List.replicate message.secrets.length 0 ++ after)
    ∧ (∀ bytes, (sanitizeFrame bytes true).bytes = List.replicate bytes.length 0)
    ∧ (∀ bytes observed, (active bytes).takeIncomplete.1 = some observed →
      observed = sanitizeFrame bytes true)
    ∧ (∀ frame : Frame, MessageId.ofWire frame.messageId ∈ userDataIds → (observe frame).bytes
      = frame.bytes.take HEADER_SIZE ++ List.replicate frame.payload.length 0)
    ∧ ∀ frame : Frame, MessageId.ofWire frame.messageId ∉ mediaIds ++ userDataIds →
      (observe frame).fidelity = .exact ∧ (observe frame).bytes = frame.bytes := by
  refine ⟨fun _ _ _ h => boundaries_of_ok h, fun _ _ _ h => boundaries_of_error h,
    fun _ _ n _ _ h hchunks hchunks' hlengths => alike_observed h n hchunks hchunks' hlengths,
    fun message protocol bytes h => ?_, fun _ => rfl, fun bytes observed h => ?_,
    fun _ h => observe_userData h, fun _ h => observe_other h⟩
  · obtain ⟨before, after, _, hbytes, hothers, hobserve⟩ :=
      Message.MediaMessage.observe_encode h
    obtain ⟨payload, hpayload, hframe⟩ := Message.MediaMessage.encode_ok h
    have heq := (Frame.encode_eq hframe).symm
    have hself := hobserve message ⟨message.withEncryption_self.symm, rfl⟩
    rw [← hbytes, ← heq] at hself
    refine ⟨_, before, after, Message.MediaMessage.toFrame_ok hpayload, heq, hbytes, hothers, ?_,
      ?_⟩
    · exact congrArg ObservedFrame.fidelity hself
    · rw [message.length_secrets]
      exact congrArg ObservedFrame.bytes hself
  · cases bytes with
    | nil => cases h
    | cons first bytes =>
      cases h
      rfl

set_option maxRecDepth 4000 in
/-- A channel that is opened with one key or with another. -/
theorem capture_keeps_secrets_openReceive :
    let keyed (first : UInt8) := Message.MediaMessage.openReceiveChannel 7 9
      ⟨20, .ofWire 4, .ofWire 0, 101, .v4 ⟨[192, 0, 2, 1], rfl⟩, 4000⟩
      (some ⟨.ofWire 1, ⟨first :: List.replicate 15 1, rfl⟩, 16, ⟨List.replicate 16 2, rfl⟩, 14, 0,
        0, by decide⟩) none
    ∃ bytes bytes', (keyed 3).encode .V22 = .ok bytes ∧ (keyed 4).encode .V22 = .ok bytes'
      ∧ (new.pushAll [bytes]).1 = (new.pushAll [bytes']).1 := by
  intro keyed
  obtain ⟨bytes, hbytes⟩ : ∃ bytes, (keyed 3).encode .V22 = .ok bytes := ⟨_, rfl⟩
  have halike : (keyed 3).SameButSecrets (keyed 4) := ⟨rfl, rfl⟩
  obtain ⟨_, _, _, _, hothers, _⟩ := Message.MediaMessage.observe_encode hbytes
  have hbytes' := hothers _ halike
  have hstreams := AlikeStreams.media halike hbytes hbytes' (.same [])
  have hlength := hstreams.length_eq
  rw [List.append_nil, List.append_nil] at hstreams hlength
  refine ⟨bytes, _, hbytes, hbytes', ?_⟩
  refine (capture_keeps_secrets.2.2.1 bytes _ bytes.length [bytes] [_] hstreams ?_ ?_
    (congrArg (fun n => [n]) hlength)).1
  · rw [List.flatten_singleton, List.take_length]
  · rw [List.flatten_singleton, hlength, List.take_length]

end SignalingFrameBuffer

end Sccp
