/-
  Sccp.Safety.Framing

  How a byte stream is cut into frames does not depend on how it is cut into
  chunks.

  The loop of `push` is the draining of a scanner that looks at one frame, so that
  the frames of a stream, its error and its incomplete tail are those of the whole
  stream.  What does depend on the chunks is which frames are still returned when
  the stream turns out to be malformed: the chunk that brings the malformed header
  returns the error alone, without the frames it completed before it.
-/

import Sccp.Lib.Scanner
import Sccp.Message.Wire

namespace Sccp

namespace FrameDecoder

variable {bytes : List UInt8} {decoder : FrameDecoder} {frames : List Frame}

/-! ## One frame at the front of the buffer -/

/-- What the loop of `push` makes of the retained bytes. -/
def scanFrame (retained : List UInt8) : Scan Frame CodecError :=
  if retained.length < HEADER_SIZE then
    .more
  else
    let header := WireHeader.read (retained.take HEADER_SIZE)
    if header.wireLen.toNat < 4 then
      .fail (.invalidLength header.wireLen)
    else if MAX_FRAME_SIZE < header.wireLen.toNat + 8 then
      .fail (.frameTooLarge (header.wireLen.toNat + 8))
    else if retained.length < header.wireLen.toNat + 8 then
      .more
    else
      .item { protocolVersion := header.protocolVersion, messageId := header.messageId,
              payload := (retained.take (header.wireLen.toNat + 8)).drop HEADER_SIZE }
        (header.wireLen.toNat + 8)

theorem scanFrame_item {frame : Frame} {size : Nat} (h : scanFrame bytes = .item frame size) :
    HEADER_SIZE ≤ size ∧ size ≤ bytes.length := by
  unfold scanFrame at h
  dsimp only at h
  split at h
  · cases h
  split at h
  · cases h
  split at h
  · cases h
  split at h
  · cases h
  · cases h
    refine ⟨?_, by omega⟩
    rw [show HEADER_SIZE = 12 from rfl] at *
    omega

/-- The header, and the size it announces, do not change when more bytes arrive. -/
theorem scanFrame_append (more : List UInt8) (h : scanFrame bytes ≠ .more) :
    scanFrame (bytes ++ more) = scanFrame bytes := by
  unfold scanFrame at h ⊢
  dsimp only at h ⊢
  by_cases hshort : bytes.length < HEADER_SIZE
  · exact absurd (if_pos hshort) h
  have hlong : HEADER_SIZE ≤ bytes.length := by omega
  have hlonger : ¬ (bytes ++ more).length < HEADER_SIZE := by
    rw [List.length_append]
    omega
  have hheader : (bytes ++ more).take HEADER_SIZE = bytes.take HEADER_SIZE :=
    List.take_append_of_le_length hlong
  rw [if_neg hshort] at h
  rw [if_neg hshort, if_neg hlonger, hheader]
  generalize WireHeader.read (bytes.take HEADER_SIZE) = header at h ⊢
  by_cases hsmall : header.wireLen.toNat < 4
  · rw [if_pos hsmall, if_pos hsmall]
  by_cases hlarge : MAX_FRAME_SIZE < header.wireLen.toNat + 8
  · rw [if_neg hsmall, if_neg hsmall, if_pos hlarge, if_pos hlarge]
  rw [if_neg hsmall, if_neg hlarge] at h
  rw [if_neg hsmall, if_neg hsmall, if_neg hlarge, if_neg hlarge]
  by_cases hpartial : bytes.length < header.wireLen.toNat + 8
  · exact absurd (if_pos hpartial) h
  have hcomplete : header.wireLen.toNat + 8 ≤ bytes.length := by omega
  have hmore : ¬ (bytes ++ more).length < header.wireLen.toNat + 8 := by
    rw [List.length_append]
    omega
  rw [if_neg hpartial, if_neg hmore, List.take_append_of_le_length hcomplete]

theorem scanFrame_pos (h : scanFrame bytes = .item frame n) : 0 < n := by
  have := (scanFrame_item h).1
  rw [HEADER_SIZE] at this
  omega

theorem scanFrame_le (h : scanFrame bytes = .item frame n) : n ≤ bytes.length :=
  (scanFrame_item h).2

theorem scanFrame_append_item (more : List UInt8) (h : scanFrame bytes = .item frame n) :
    scanFrame (bytes ++ more) = .item frame n := by
  rw [scanFrame_append more (by rw [h]; simp), h]

theorem scanFrame_append_fail {e : CodecError} (more : List UInt8)
    (h : scanFrame bytes = .fail e) : scanFrame (bytes ++ more) = .fail e := by
  rw [scanFrame_append more (by rw [h]; simp), h]

/-- The scanner of frames. -/
def frameScanner : Scanner UInt8 Frame CodecError where
  scan := scanFrame
  size_pos _ _ _ h := scanFrame_pos h
  size_le _ _ _ h := scanFrame_le h
  item_append _ more _ _ h := scanFrame_append_item more h
  fail_append _ more _ h := scanFrame_append_fail more h

/-- What is kept for want of a complete frame is shorter than the largest frame. -/
theorem length_lt_of_more (h : scanFrame bytes = .more) : bytes.length < MAX_FRAME_SIZE := by
  unfold scanFrame at h
  dsimp only at h
  split at h
  · rename_i hshort
    rw [HEADER_SIZE] at hshort
    rw [MAX_FRAME_SIZE]
    omega
  split at h
  · cases h
  split at h
  · cases h
  · split at h
    · omega
    · cases h

/-- A frame that encodes is recognised at the front of whatever follows it. -/
theorem scanFrame_encode {frame : Frame} (h : frame.encode = .ok bytes) (rest : List UInt8) :
    scanFrame (bytes ++ rest) = .item frame bytes.length := by
  unfold Frame.encode at h
  dsimp only at h
  split at h
  · cases h
  split at h
  · cases h
  split at h
  · cases h
  rename_i hwide hlarge hword
  cases h
  generalize hheader : WireHeader.mk (UInt32.ofNat (frame.payload.length + 4))
    frame.protocolVersion frame.messageId = header
  have hlen : header.wireLen.toNat = frame.payload.length + 4 := by
    rw [← hheader]
    exact UInt32.toNat_ofNat_of_lt' (Nat.lt_of_not_le hword)
  have hwrite : header.write.length = 12 := header.length_write
  have hread : WireHeader.read ((header.write ++ frame.payload ++ rest).take HEADER_SIZE)
      = header := by
    rw [List.append_assoc, List.take_left' header.length_write,
      ← List.append_nil header.write, WireHeader.read_write_append]
  have hsize : (header.write ++ frame.payload).length = header.wireLen.toNat + 8 := by
    rw [List.length_append, hwrite, hlen]
    omega
  have htotal : (header.write ++ frame.payload ++ rest).length
      = header.wireLen.toNat + 8 + rest.length := by
    rw [List.length_append, hsize]
  unfold scanFrame
  dsimp only
  rw [hread, if_neg (by rw [htotal, hlen, HEADER_SIZE]; omega), if_neg (by omega),
    if_neg (by omega), if_neg (by omega), hsize, List.take_left' hsize,
    List.drop_left' header.length_write, ← hheader]

/-! ## The loop and the calls -/

/-- The loop drains the buffer behind the bytes already consumed. -/
theorem decodeFrames_drain (buffer : List UInt8) (consumed : Nat) (frames : List Frame) :
    (∀ e, (frameScanner.drain (buffer.drop consumed)).2 = .error e →
      decodeFrames buffer consumed frames = .error e)
    ∧ ∀ rest, (frameScanner.drain (buffer.drop consumed)).2 = .ok rest →
      ∃ last, buffer.drop last = rest ∧ decodeFrames buffer consumed frames
        = .ok (frames ++ (frameScanner.drain (buffer.drop consumed)).1, last) := by
  fun_induction decodeFrames buffer consumed frames with
  | case1 consumed frames retained hshort =>
    have hscan : frameScanner.scan retained = .more := if_pos hshort
    rw [Scanner.drain_more hscan]
    refine ⟨fun e h => (by cases h), fun rest h => ?_⟩
    cases h
    exact ⟨consumed, rfl, by rw [List.append_nil]⟩
  | case2 consumed frames retained hshort header length hsmall =>
    have hscan : frameScanner.scan retained = .fail (.invalidLength length) :=
      (if_neg hshort).trans (if_pos hsmall)
    rw [Scanner.drain_fail hscan]
    exact ⟨fun e h => by (cases h; rfl), fun rest h => by cases h⟩
  | case3 consumed frames retained hshort header length hsmall total hlarge =>
    have hscan : frameScanner.scan retained = .fail (.frameTooLarge total) :=
      (if_neg hshort).trans ((if_neg hsmall).trans (if_pos hlarge))
    rw [Scanner.drain_fail hscan]
    exact ⟨fun e h => by (cases h; rfl), fun rest h => by cases h⟩
  | case4 consumed frames retained hshort header length hsmall total hlarge hpartial =>
    have hscan : frameScanner.scan retained = .more :=
      (if_neg hshort).trans ((if_neg hsmall).trans ((if_neg hlarge).trans (if_pos hpartial)))
    rw [Scanner.drain_more hscan]
    refine ⟨fun e h => (by cases h), fun rest h => ?_⟩
    cases h
    exact ⟨consumed, rfl, by rw [List.append_nil]⟩
  | case5 consumed frames retained hshort header length hsmall total hlarge hcomplete payload
      _ ih =>
      have hscan : frameScanner.scan retained = .item
          { protocolVersion := header.protocolVersion, messageId := header.messageId, payload }
          total :=
        (if_neg hshort).trans ((if_neg hsmall).trans ((if_neg hlarge).trans (if_neg hcomplete)))
      rw [Scanner.drain_item hscan, List.drop_drop]
      refine ⟨ih.1, fun rest h => ?_⟩
      obtain ⟨last, hlast, hloop⟩ := ih.2 rest h
      refine ⟨last, hlast, ?_⟩
      rw [hloop, List.append_assoc, List.singleton_append]

theorem push_of_error {e : CodecError}
    (h : (frameScanner.drain (decoder.buffer ++ bytes)).2 = .error e) :
    decoder.push bytes = (.error e, ⟨decoder.buffer ++ bytes⟩) := by
  have hloop := (decodeFrames_drain (decoder.buffer ++ bytes) 0 []).1 e h
  rw [push, hloop]

theorem push_of_ok {rest : List UInt8}
    (h : (frameScanner.drain (decoder.buffer ++ bytes)).2 = .ok rest) :
    decoder.push bytes
      = (.ok (frameScanner.drain (decoder.buffer ++ bytes)).1, ⟨rest⟩) := by
  obtain ⟨last, hlast, hloop⟩ := (decodeFrames_drain (decoder.buffer ++ bytes) 0 []).2 rest h
  rw [push, hloop]
  dsimp only
  rw [hlast, List.nil_append, List.drop_zero]

/-- After a successful call less than one largest frame stays buffered. -/
theorem bufferedLen_push {next : FrameDecoder} (h : decoder.push bytes = (.ok frames, next)) :
    next.bufferedLen < MAX_FRAME_SIZE := by
  cases hdrain : (frameScanner.drain (decoder.buffer ++ bytes)).2 with
  | error e =>
    rw [push_of_error hdrain] at h
    cases h
  | ok rest =>
    rw [push_of_ok hdrain] at h
    cases h
    exact length_lt_of_more (Scanner.scan_rest hdrain)

/-! ## Whole streams -/

/-- The frames ahead of the first malformed header of a stream, and that header's
    error or the incomplete tail. -/
def streamFrames (stream : List UInt8) : List Frame × Except CodecError (List UInt8) :=
  frameScanner.drain stream

/-- Nothing more can be taken off the front of the buffer. -/
def Settled (decoder : FrameDecoder) : Prop := frameScanner.scan decoder.buffer = .more

theorem settled_new : Settled new := rfl

/-- A well-formed stream gives the same frames and the same tail in any chunks. -/
theorem pushAll_of_ok (chunks : List (List UInt8)) (hsettled : Settled decoder) {tail : List UInt8}
    (h : (streamFrames (decoder.buffer ++ chunks.flatten)).2 = .ok tail) :
    decoder.pushAll chunks
      = ((streamFrames (decoder.buffer ++ chunks.flatten)).1, .ok ⟨tail⟩) := by
  unfold streamFrames at h ⊢
  induction chunks generalizing decoder with
  | nil =>
    rw [List.flatten_nil, List.append_nil, Scanner.drain_more hsettled] at h ⊢
    cases h
    rfl
  | cons chunk chunks ih =>
    rw [List.flatten_cons, ← List.append_assoc] at h ⊢
    cases hfirst : (frameScanner.drain (decoder.buffer ++ chunk)).2 with
    | error e =>
      rw [Scanner.drain_append_of_error hfirst, hfirst] at h
      cases h
    | ok rest =>
      rw [Scanner.drain_append_of_ok hfirst] at h ⊢
      have hrest : Settled ⟨rest⟩ := Scanner.scan_rest hfirst
      have hlater := ih hrest h
      rw [pushAll, push_of_ok hfirst]
      dsimp only
      rw [hlater]

/-- In a malformed stream the error is that of the stream in any chunks, and it is
    returned by the chunk that completes the malformed header; what was returned
    before are the frames of the chunks before it. -/
theorem pushAll_of_error {chunks : List (List UInt8)} (hsettled : Settled decoder) {e : CodecError}
    (h : (streamFrames (decoder.buffer ++ chunks.flatten)).2 = .error e) :
    ∃ before chunk after tail, chunks = before ++ chunk :: after
      ∧ (streamFrames (decoder.buffer ++ before.flatten)).2 = .ok tail
      ∧ (streamFrames (decoder.buffer ++ (before ++ [chunk]).flatten)).2 = .error e
      ∧ decoder.pushAll chunks
        = ((streamFrames (decoder.buffer ++ before.flatten)).1, .error e) := by
  unfold streamFrames at h ⊢
  induction chunks generalizing decoder with
  | nil =>
    rw [List.flatten_nil, List.append_nil, Scanner.drain_more hsettled] at h
    cases h
  | cons chunk chunks ih =>
    rw [List.flatten_cons, ← List.append_assoc] at h
    cases hfirst : (frameScanner.drain (decoder.buffer ++ chunk)).2 with
    | error e' =>
      rw [Scanner.drain_append_of_error hfirst, hfirst] at h
      cases h
      refine ⟨[], chunk, chunks, decoder.buffer, rfl, ?_, ?_, ?_⟩
      · rw [List.flatten_nil, List.append_nil, Scanner.drain_more hsettled]
      · rw [List.nil_append, List.flatten_singleton, hfirst]
      · rw [pushAll, push_of_error hfirst, List.flatten_nil, List.append_nil,
          Scanner.drain_more hsettled]
    | ok rest =>
      rw [Scanner.drain_append_of_ok hfirst] at h
      have hrest : Settled ⟨rest⟩ := Scanner.scan_rest hfirst
      obtain ⟨before, failing, after, tail, hchunks, hbefore, hfailing, hpush⟩ := ih hrest h
      refine ⟨chunk :: before, failing, after, tail, by rw [hchunks]; rfl, ?_, ?_, ?_⟩
      · rw [List.flatten_cons, ← List.append_assoc, Scanner.drain_append_of_ok hfirst, hbefore]
      · rw [List.cons_append, List.flatten_cons, ← List.append_assoc,
          Scanner.drain_append_of_ok hfirst, hfailing]
      · rw [pushAll, push_of_ok hfirst]
        dsimp only
        rw [hpush, List.flatten_cons, ← List.append_assoc,
          Scanner.drain_append_of_ok hfirst]

theorem forall₂_of_mapM_encode {encodings : List (List UInt8)}
    (h : frames.mapM Frame.encode = .ok encodings) :
    List.Forall₂ (fun frame bytes => frame.encode = .ok bytes) frames encodings := by
  induction frames generalizing encodings with
  | nil =>
    cases h
    exact .nil
  | cons frame frames ih =>
    rw [List.mapM_cons] at h
    cases hfirst : frame.encode with
    | error e =>
      rw [hfirst] at h
      cases h
    | ok bytes =>
      cases hrest : frames.mapM Frame.encode with
      | error e =>
        rw [hfirst, hrest] at h
        cases h
      | ok later =>
        rw [hfirst, hrest] at h
        cases h
        exact .cons hfirst (ih hrest)

/-- A sequence of frames is read back from the stream of its encodings. -/
theorem streamFrames_encode {encodings : List (List UInt8)}
    (h : frames.mapM Frame.encode = .ok encodings) :
    streamFrames encodings.flatten = (frames, .ok []) :=
  Scanner.drain_flatten rfl
    ((forall₂_of_mapM_encode h).imp fun _ _ hencode rest => scanFrame_encode hencode rest)

/-- The two ways a sequence of chunks can end, by the stream they make up. -/
theorem pushAll_new (chunks : List (List UInt8)) :
    (∃ tail, (streamFrames chunks.flatten).2 = .ok tail
      ∧ new.pushAll chunks = ((streamFrames chunks.flatten).1, .ok ⟨tail⟩))
    ∨ ∃ e before chunk after tail, (streamFrames chunks.flatten).2 = .error e
      ∧ chunks = before ++ chunk :: after ∧ (streamFrames before.flatten).2 = .ok tail
      ∧ (streamFrames (before ++ [chunk]).flatten).2 = .error e
      ∧ new.pushAll chunks = ((streamFrames before.flatten).1, .error e) := by
  cases hstream : (streamFrames chunks.flatten).2 with
  | ok tail => exact .inl ⟨tail, rfl, pushAll_of_ok chunks settled_new hstream⟩
  | error e =>
    obtain ⟨before, chunk, after, tail, h⟩ := pushAll_of_error settled_new hstream
    exact .inr ⟨e, before, chunk, after, tail, rfl, h⟩

/-- Framing does not depend on the chunks.  Frames that encode are returned in order
    from any chunks of their encodings, with an empty buffer at the end.  Two
    partitions of one stream end with the same error or the same buffer, and with
    the same frames if there is no error.  If there is one, it is returned in either
    partition by the chunk that completes the malformed header, and the frames
    returned before it are those of the chunks ahead of that one, which are a first
    part of the frames ahead of the malformed header.  After a successful call less
    than one largest frame stays buffered. -/
theorem framing_of_chunks :
    (∀ frames encodings chunks, frames.mapM Frame.encode = .ok encodings →
      chunks.flatten = encodings.flatten → new.pushAll chunks = (frames, .ok new))
    ∧ (∀ chunks chunks' : List (List UInt8), chunks.flatten = chunks'.flatten →
      (new.pushAll chunks).2 = (new.pushAll chunks').2
      ∧ ∀ decoder, (new.pushAll chunks).2 = .ok decoder →
        (new.pushAll chunks).1 = (new.pushAll chunks').1)
    ∧ (∀ chunks e, (new.pushAll chunks).2 = .error e →
      ∃ before chunk after decoder, chunks = before ++ chunk :: after
        ∧ new.pushAll before = ((new.pushAll chunks).1, .ok decoder)
        ∧ (decoder.push chunk).1 = .error e
        ∧ (new.pushAll chunks).1 = (streamFrames before.flatten).1
        ∧ (new.pushAll chunks).1 <+: (streamFrames chunks.flatten).1)
    ∧ ∀ decoder next bytes frames, push decoder bytes = (.ok frames, next) →
      next.bufferedLen < MAX_FRAME_SIZE := by
  refine ⟨?_, ?_, ?_, fun decoder next bytes frames h => bufferedLen_push h⟩
  · intro frames encodings chunks hencode hchunks
    have hstream := streamFrames_encode hencode
    rw [← hchunks] at hstream
    have hpush := pushAll_of_ok chunks settled_new (congrArg Prod.snd hstream)
    rw [hpush]
    exact congrArg (·, _) (congrArg Prod.fst hstream)
  · intro chunks chunks' hsame
    rcases pushAll_new chunks with ⟨tail, htail, h⟩ |
      ⟨e, before, chunk, after, tail, he, -, -, -, h⟩
      <;> rcases pushAll_new chunks' with
        ⟨tail', htail', h'⟩ | ⟨e', before', chunk', after', tail', he', -, -, -, h'⟩
    · rw [hsame, htail'] at htail
      cases htail
      rw [h, h', hsame]
      exact ⟨rfl, fun _ _ => rfl⟩
    · rw [hsame, he'] at htail
      cases htail
    · rw [hsame, htail'] at he
      cases he
    · rw [hsame, he'] at he
      cases he
      rw [h, h']
      exact ⟨rfl, fun _ hok => by cases hok⟩
  · intro chunks e herror
    rcases pushAll_new chunks with ⟨tail, htail, h⟩ | ⟨e', before, chunk, after, tail, he, hchunks,
      hbefore, hfailing, h⟩
    · rw [h] at herror
      cases herror
    rw [h] at herror
    cases herror
    have hahead := pushAll_of_ok before settled_new hbefore
    have hrest (bytes : List UInt8) := Scanner.drain_append_of_ok hbefore bytes
    rw [List.flatten_append, List.flatten_singleton, streamFrames, hrest] at hfailing
    refine ⟨before, chunk, after, ⟨tail⟩, hchunks, ?_, ?_, by rw [h], ?_⟩
    · rw [h, hahead]
      rfl
    · rw [push_of_error hfailing]
    · rw [h, hchunks, List.flatten_append, streamFrames, streamFrames, hrest]
      exact List.prefix_append ..

/-- An empty frame, cut in its header, with an empty chunk in between. -/
theorem framing_of_cut_header :
    new.pushAll [leBytes 4 4 ++ leBytes 4 22, [], leBytes 4 0x100]
      = ([⟨22, 0x100, []⟩], .ok new) :=
  framing_of_chunks.1 [⟨22, 0x100, []⟩] [leBytes 4 4 ++ leBytes 4 22 ++ leBytes 4 0x100] _ rfl rfl

/-- A whole frame and a malformed header behind it, in two chunks and in one: the
    frame is returned only from the first. -/
theorem frame_lost_with_malformed_header :
    let frame := leBytes 4 4 ++ leBytes 4 22 ++ leBytes 4 0x100
    let malformed := List.replicate 12 0
    [frame, malformed].flatten = [frame ++ malformed].flatten
      ∧ new.pushAll [frame, malformed] = ([⟨22, 0x100, []⟩], .error (.invalidLength 0))
      ∧ new.pushAll [frame ++ malformed] = ([], .error (.invalidLength 0)) := by
  decide +kernel

end FrameDecoder

end Sccp
