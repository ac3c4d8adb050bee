/-
  Sccp.Safety.Statistics

  Which connection statistics survive the wire.

  A payload is always read back in the layout it was written in.  From protocol 22 on
  the decoder also tries the packed layout and prefers it, and some payloads of the
  aligned layout are packed payloads as well: the packed size of the quality data is
  then made of the upper bytes of the latency and of the lowest byte of the size.
-/

import Sccp.Message.Statistics

namespace Sccp

/-! ## What the decoders of the parts accept -/

theorem validateZeroPayload_bind {β : Type} {payload : List UInt8} {messageId : UInt32}
    {f : Unit → Checked β} {b : β} :
    (validateZeroPayload payload messageId payload.length >>= f) = .ok b ↔
      (∀ x ∈ payload, x = 0) ∧ f () = .ok b := by
  rw [Checked.bind_ok]
  constructor
  · rintro ⟨⟨⟩, hzero, hf⟩
    exact ⟨validateZeroPayload_ok.mp hzero, hf⟩
  · rintro ⟨hzero, hf⟩
    exact ⟨(), validateZeroPayload_ok.mpr hzero, hf⟩

/-- The payload has the length of a prefix with a whole reservoir of quality data. -/
def HoldsReservoir (payload : List UInt8) (prefixBytes : Nat) : Prop :=
  let reservoirEnd := prefixBytes + CONNECTION_QUALITY_MAX_BYTES
  reservoirEnd ≤ payload.length ∧ payload.length ≤ reservoirEnd + (4 - reservoirEnd % 4) % 4

instance (payload : List UInt8) (prefixBytes : Nat) :
    Decidable (HoldsReservoir payload prefixBytes) :=
  inferInstanceAs (Decidable (_ ∧ _))

/-- The bytes after the quality data are padding: the rest of a fixed reservoir, or the
    end of a word. -/
def QualityPadding (payload : List UInt8) (prefixBytes qualitySize : Nat) : Prop :=
  if HoldsReservoir payload prefixBytes then
    ∀ b ∈ payload.drop (prefixBytes + CONNECTION_QUALITY_MAX_BYTES), b = 0
  else
    payload.length ≤ prefixBytes + qualitySize + 3 ∧
      ∀ b ∈ payload.drop (prefixBytes + qualitySize), b = 0

theorem decodeConnectionStatisticsQuality_ok {payload quality : List UInt8}
    {prefixBytes : Nat} {qualitySize messageId : UInt32} (hwidth : prefixBytes < 2 ^ 32) :
    decodeConnectionStatisticsQuality payload prefixBytes qualitySize messageId = .ok quality ↔
      qualitySize.toNat ≤ CONNECTION_QUALITY_MAX_BYTES ∧
      prefixBytes + qualitySize.toNat ≤ payload.length ∧
      QualityPadding payload prefixBytes qualitySize.toNat ∧
      quality = (payload.drop prefixBytes).take qualitySize.toNat := by
  have hword := qualitySize.toNat_lt
  unfold decodeConnectionStatisticsQuality QualityPadding
  rw [usizeFromWire_eq]
  change (if _ then _ else _) = _ ↔ _
  by_cases hmax : CONNECTION_QUALITY_MAX_BYTES < qualitySize.toNat
  · rw [if_pos hmax]
    constructor
    · intro h
      cases h
    · rintro ⟨hle, -⟩
      exact absurd hle (Nat.not_le.mpr hmax)
  have husize : ¬ usizeMax < prefixBytes + qualitySize.toNat := by
    unfold usizeMax
    omega
  rw [if_neg hmax, if_neg husize]
  change (if _ then _ else _) = _ ↔ _
  by_cases hshort : payload.length < prefixBytes + qualitySize.toNat
  · rw [if_pos hshort]
    constructor
    · intro h
      cases h
    · rintro ⟨-, hle, -⟩
      exact absurd hle (Nat.not_le.mpr hshort)
  have hend : prefixBytes + qualitySize.toNat ≤ payload.length := Nat.not_lt.mp hshort
  have hslice : slice payload prefixBytes (prefixBytes + qualitySize.toNat) =
      .ok ((payload.drop prefixBytes).take qualitySize.toNat) := by
    rw [slice_ok (Nat.le_add_right _ _) hend, List.drop_take, Nat.add_sub_cancel_left]
  rw [if_neg hshort, sliceFrom_ok hend]
  change (if HoldsReservoir payload prefixBytes then _ else _) = _ ↔ _
  by_cases hreservoir : HoldsReservoir payload prefixBytes
  · rw [if_pos hreservoir, if_pos hreservoir, sliceFrom_ok hreservoir.1, hslice, ← List.length_drop]
    change (validateZeroPayload _ _ _ >>= fun _ => _) = _ ↔ _
    rw [validateZeroPayload_bind]
    constructor
    · rintro ⟨hzero, hquality⟩
      cases hquality
      exact ⟨Nat.not_lt.mp hmax, hend, hzero, rfl⟩
    · rintro ⟨-, -, hzero, rfl⟩
      exact ⟨hzero, rfl⟩
  rw [if_neg hreservoir, if_neg hreservoir]
  by_cases hsuffix : (payload.drop (prefixBytes + qualitySize.toNat)).length ≤ 3
  · rw [if_pos hsuffix, hslice, validateZeroPayload_bind]
    rw [List.length_drop] at hsuffix
    constructor
    · rintro ⟨hzero, hquality⟩
      cases hquality
      exact ⟨Nat.not_lt.mp hmax, hend, ⟨by omega, hzero⟩, rfl⟩
    · rintro ⟨-, -, ⟨-, hzero⟩, rfl⟩
      exact ⟨hzero, rfl⟩
  rw [if_neg hsuffix]
  rw [List.length_drop] at hsuffix
  constructor
  · intro h
    cases h
  · rintro ⟨-, -, ⟨hle, -⟩, -⟩
    exact absurd hle (by omega)

theorem decodeConnectionStatisticsQuality_returns (payload : List UInt8) (prefixBytes : Nat)
    (qualitySize messageId : UInt32) :
    (decodeConnectionStatisticsQuality payload prefixBytes qualitySize messageId).Returns := by
  unfold decodeConnectionStatisticsQuality
  rw [usizeFromWire_eq]
  refine (Checked.returns_ok _).bind fun size _ => ?_
  split
  · exact Checked.returns_reject _
  split
  · exact Checked.returns_reject _
  dsimp only
  split
  · exact Checked.returns_reject _
  next hend =>
  have hle : prefixBytes + size ≤ payload.length := Nat.not_lt.mp hend
  refine (sliceFrom_returns hle).bind fun suffix _ => ?_
  have hslice := slice_returns (Nat.le_add_right prefixBytes size) hle
  split
  · next hreservoir =>
    refine (sliceFrom_returns hreservoir.1).bind fun reservoir _ => ?_
    exact (validateZeroPayload_returns _ _ _).bind fun _ _ => hslice
  split
  · exact (validateZeroPayload_returns _ _ _).bind fun _ _ => hslice
  · exact Checked.returns_reject _

theorem ConnectionQualityStatistics.new_returns (bytes : List UInt8) :
    (ConnectionQualityStatistics.new bytes).Returns := by
  unfold ConnectionQualityStatistics.new
  split
  · exact Checked.returns_ok _
  · exact Checked.returns_reject _

theorem connectionStatisticsFromWire_returns {t a : Nat} (directoryNumber : WireAlignedText t a)
    (callReference processing : UInt32) (counters : WireConnectionStatisticsCounters)
    (quality : List UInt8) (messageId : UInt32) :
    (connectionStatisticsFromWire directoryNumber callReference processing counters quality
      messageId).Returns := by
  refine (validateZeroPayload_returns _ _ _).bind fun _ _ => ?_
  refine directoryNumber.value.text_returns.bind fun text _ => ?_
  exact (ConnectionQualityStatistics.new_returns quality).bind fun _ _ => Checked.returns_ok _

theorem decodeWordLayout_returns (t a baseBytes prefixBytes : Nat) (payload : List UInt8)
    (messageId : UInt32) :
    (decodeWordLayout t a baseBytes prefixBytes payload messageId).Returns := by
  have hquality : (decodeWordQuality t a baseBytes prefixBytes payload messageId).Returns := by
    unfold decodeWordQuality
    split
    · exact Checked.returns_ok _
    split
    · exact Checked.returns_reject _
    · refine (decodePrefix_returns _ _ _).bind fun value _ => ?_
      exact decodeConnectionStatisticsQuality_returns _ _ _ _
  refine (decodePrefix_returns _ _ _).bind fun base _ => hquality.bind fun quality _ => ?_
  exact connectionStatisticsFromWire_returns _ _ _ _ _ _

theorem decodePackedLayout_returns (payload : List UInt8) (messageId : UInt32) :
    (decodePackedLayout payload messageId).Returns := by
  have hquality : (decodePackedQuality payload messageId).Returns := by
    unfold decodePackedQuality
    split
    · next hbase =>
      refine (sliceFrom_returns hbase.1).bind fun padding _ => ?_
      exact (validateZeroPayload_returns _ _ _).bind fun _ _ => Checked.returns_ok _
    · refine (decodePrefix_returns _ _ _).bind fun value _ => ?_
      exact decodeConnectionStatisticsQuality_returns _ _ _ _
  refine (decodePrefix_returns _ _ _).bind fun base _ => hquality.bind fun quality _ => ?_
  exact connectionStatisticsFromWire_returns _ _ _ _ _ _

theorem decodeLayout_returns (layout : ConnectionStatisticsWireLayout) (payload : List UInt8)
    (messageId : UInt32) : (decodeLayout layout payload messageId).Returns := by
  cases layout with
  | pre19 => exact decodeWordLayout_returns _ _ _ _ _ _
  | aligned => exact decodeWordLayout_returns _ _ _ _ _ _
  | packed => exact decodePackedLayout_returns _ _

/-- A valid preferred reading is kept. -/
theorem selectLayout_preferred {statistics : ConnectionStatistics}
    {fallback : Checked ConnectionStatistics} (h : fallback.Returns) :
    selectLayout (.ok statistics) fallback = .ok statistics := by
  unfold selectLayout
  rcases fallback with (e | _) | _
  · rfl
  · exact absurd rfl h
  · rfl

/-- Otherwise the other reading is. -/
theorem selectLayout_fallback {statistics : ConnectionStatistics}
    {preferred : Checked ConnectionStatistics} (hreturns : preferred.Returns)
    (hnone : ∀ other, preferred ≠ .ok other) :
    selectLayout preferred (.ok statistics) = .ok statistics := by
  unfold selectLayout
  rcases preferred with (e | _) | other
  · rfl
  · exact absurd rfl hreturns
  · exact absurd rfl (hnone other)

/-! ## Reading back what was written -/

/-- A text as the encoder writes it: its bytes, then zeros. -/
def WireAlignedText.Holds {t a : Nat} (field : WireAlignedText t a) (text : String) : Prop :=
  (∃ padding, field.value.val = utf8 text ++ List.replicate padding 0) ∧
    ∀ b ∈ field.alignment.val, b = 0

theorem WireAlignedText.new_holds {t a : Nat} {messageId : UInt32} {field text : String}
    {written : WireAlignedText t a}
    (h : WireAlignedText.new t a messageId field text = .ok written) : written.Holds text := by
  obtain ⟨value, hvalue, hwritten⟩ := Checked.bind_ok.mp h
  cases hwritten
  unfold WireFixedText.new WireFixedText.fromBytes at hvalue
  split at hvalue
  · cases hvalue
    exact ⟨⟨_, rfl⟩, fun b hb => List.eq_of_mem_replicate hb⟩
  · cases hvalue

/-- What the last step makes of the parts of a well-formed payload. -/
theorem connectionStatisticsFromWire_ok {t a : Nat} {directoryNumber : WireAlignedText t a}
    {text : String} (hholds : directoryNumber.Holds text) (hnul : '\x00' ∉ text.toList)
    (htrim : trim text = text) (callReference processing : UInt32)
    (counters : WireConnectionStatisticsCounters) (quality : ConnectionQualityStatistics)
    (messageId : UInt32) :
    connectionStatisticsFromWire directoryNumber callReference processing counters quality.bytes
        messageId = .ok {
        directoryNumber := text, callReference,
        processing := StatisticsProcessing.ofWire processing,
        packetsSent := counters.packetsSent, octetsSent := counters.octetsSent,
        packetsReceived := counters.packetsReceived, octetsReceived := counters.octetsReceived,
        packetsLost := counters.packetsLost, jitterMillis := counters.jitterMillis,
        latencyMillis := counters.latencyMillis, quality } := by
  obtain ⟨⟨padding, hvalue⟩, hzero⟩ := hholds
  have hvalidate : directoryNumber.validate messageId = .ok () := by
    have h := (@validateZeroPayload_ok _ messageId).mpr hzero
    rwa [directoryNumber.alignment.property] at h
  have htext : directoryNumber.text = .ok text := by
    have h := WireFixedText.text_of_padded hvalue hnul
    rwa [htrim] at h
  have hquality : ConnectionQualityStatistics.new quality.bytes = .ok quality :=
    dif_pos quality.bounded
  unfold connectionStatisticsFromWire
  rw [hvalidate, htext, hquality]
  rfl

section WordLayouts

variable {t a : Nat}

variable (value : WireConnectionStatistics t a UInt32)

def WireConnectionStatistics.base : WireConnectionStatisticsBase t a UInt32 where
  directoryNumber := value.directoryNumber
  callReference := value.callReference
  processing := value.processing
  counters := value.statistics.counters

theorem WireConnectionStatistics.write_eq_base :
    value.write = (WireConnectionStatisticsBase.layout t a UInt32).write value.base ++
      (Layout.u32.write value.statistics.qualitySize ++ value.quality) := by
  change ((WireAlignedText.layout t a).write _ ++ (Layout.u32.write _ ++ (Layout.u32.write _ ++
      (WireConnectionStatisticsCounters.layout.write _ ++ Layout.u32.write _)))) ++ _ =
    ((WireAlignedText.layout t a).write _ ++ (Layout.u32.write _ ++ (Layout.u32.write _ ++
      WireConnectionStatisticsCounters.layout.write _))) ++ _
  simp only [List.append_assoc]
  rfl

theorem WireConnectionStatistics.length_write :
    value.write.length = t + a + 40 + value.quality.length := by
  unfold WireConnectionStatistics.write
  rw [List.length_append, Layout.length_write]
  rfl

/-- A payload without bytes after its quality data. -/
theorem WireConnectionStatistics.decodeQuality_write (messageId : UInt32) (hwidth : t + a < 2 ^ 31)
    (hsize : value.statistics.qualitySize.toNat = value.quality.length)
    (hbounded : value.quality.length ≤ CONNECTION_QUALITY_MAX_BYTES) :
    decodeConnectionStatisticsQuality value.write (t + a + 40) value.statistics.qualitySize
      messageId = .ok value.quality := by
  have hlength := value.length_write
  have hdrop : value.write.drop (t + a + 40) = value.quality :=
    List.drop_left' (Layout.length_write _ _)
  have hnone (n : Nat) (hn : value.write.length ≤ n) : ∀ b ∈ value.write.drop n, b = 0 := by
    rw [List.drop_eq_nil_of_le hn]
    intro b hb
    cases hb
  rw [decodeConnectionStatisticsQuality_ok (by omega), hsize]
  refine ⟨hbounded, Nat.le_of_eq hlength.symm, ?_, ?_⟩
  · unfold QualityPadding
    split
    · exact hnone _ (by omega)
    · exact ⟨by omega, hnone _ (by omega)⟩
  · rw [hdrop, List.take_length]

theorem WireConnectionStatistics.decodeWordLayout_write (messageId : UInt32)
    (hwidth : t + a < 2 ^ 31) (hsize : value.statistics.qualitySize.toNat = value.quality.length)
    (hbounded : value.quality.length ≤ CONNECTION_QUALITY_MAX_BYTES) :
    decodeWordLayout t a (t + a + 36) (t + a + 40) value.write messageId =
      connectionStatisticsFromWire value.directoryNumber value.callReference value.processing
        value.statistics.counters value.quality messageId := by
  have hlength := value.length_write
  have hbase := decodePrefix_write (WireConnectionStatisticsBase.layout t a UInt32) messageId
    value.base (Layout.u32.write value.statistics.qualitySize ++ value.quality)
  rw [← value.write_eq_base] at hbase
  have hquality : decodeWordQuality t a (t + a + 36) (t + a + 40) value.write messageId =
      .ok value.quality := by
    have hhead := decodePrefix_write (WireConnectionStatisticsPrefix.layout t a UInt32)
      messageId value.head value.quality
    change decodePrefix _ _ value.write = _ at hhead
    unfold decodeWordQuality
    rw [if_neg (by omega), if_neg (by omega), hhead]
    exact value.decodeQuality_write messageId hwidth hsize hbounded
  unfold decodeWordLayout
  rw [hbase, hquality]
  rfl

end WordLayouts

/-! ## The packed reading of an aligned payload -/

/-- The word one byte further on: three bytes of one word and the lowest byte of the next. -/
def carry (low high : UInt32) : UInt32 := UInt32.ofNat (low.toNat / 256 + 256 ^ 3 * high.toNat)

theorem toNat_carry (low high : UInt32) :
    (carry low high).toNat = low.toNat / 256 + 256 ^ 3 * (high.toNat % 256) := by
  have hlow := low.toNat_lt
  unfold carry
  rw [UInt32.toNat_ofNat']
  omega

/-- After a word that fits its lowest byte, only zero is the same one byte further on. -/
theorem carry_eq_self {low high : UInt32} (hlow : low.toNat < 256) :
    carry low high = high ↔ high = 0 := by
  rw [← UInt32.toNat_inj, toNat_carry, ← UInt32.toNat_inj]
  have hzero : (0 : UInt32).toNat = 0 := rfl
  rw [hzero]
  omega

theorem write_u32_eq (low : UInt32) (rest : List UInt8) : Layout.u32.write low ++ rest =
      Layout.u8.write low.toUInt8 ++ (leBytes 3 (low.toNat / 256) ++ rest) := by
  have hbyte : UInt8.ofNat low.toNat = low.toUInt8 := by
    apply UInt8.toNat.inj
    rw [UInt8.toNat_ofNat', UInt32.toNat_toUInt8]
  change leBytes 4 low.toNat ++ rest = _
  rw [leBytes, hbyte]
  rfl

/-- Three bytes and a word are a word and three bytes. -/
theorem write_carry (low high : UInt32) (rest : List UInt8) :
    leBytes 3 (low.toNat / 256) ++ (Layout.u32.write high ++ rest) =
      Layout.u32.write (carry low high) ++ (leBytes 3 (high.toNat / 256) ++ rest) := by
  have hlow := low.toNat_lt
  have hdiv : (low.toNat / 256 + 256 ^ 3 * high.toNat) / 256 ^ 4 = high.toNat / 256 := by omega
  have hword : leBytes 4 (carry low high).toNat =
      leBytes 4 (low.toNat / 256 + 256 ^ 3 * high.toNat) := by
    unfold carry
    rw [UInt32.toNat_ofNat']
    exact leBytes_mod 4 _
  change leBytes 3 _ ++ (leBytes 4 _ ++ rest) = leBytes 4 _ ++ _
  rw [hword, ← List.append_assoc, ← List.append_assoc, leBytes_append (by omega),
    show 3 + 4 = 4 + 3 from rfl, leBytes_add 4 3, hdiv]

/-- The packed prefix in an aligned payload. -/
def WireConnectionStatistics.packedPrefix (value : WireConnectionStatistics 25 3 UInt32) :
    WireConnectionStatisticsPackedPrefix :=
  let counters := value.statistics.counters
  { base :=
      { directoryNumber :=
          { value := ⟨value.directoryNumber.value.val ++ value.directoryNumber.alignment.val, by
              rw [List.length_append, value.directoryNumber.value.property,
                value.directoryNumber.alignment.property]⟩
            alignment := ⟨[], rfl⟩ }
        callReference := value.callReference
        processing := value.processing.toUInt8
        counters :=
          { packetsSent := carry value.processing counters.packetsSent
            octetsSent := carry counters.packetsSent counters.octetsSent
            packetsReceived := carry counters.octetsSent counters.packetsReceived
            octetsReceived := carry counters.packetsReceived counters.octetsReceived
            packetsLost := carry counters.octetsReceived counters.packetsLost
            jitterMillis := carry counters.packetsLost counters.jitterMillis
            latencyMillis := carry counters.jitterMillis counters.latencyMillis } }
    qualitySize := carry counters.latencyMillis value.statistics.qualitySize }

theorem WireConnectionStatistics.write_eq_packed (value : WireConnectionStatistics 25 3 UInt32) :
    value.write = WireConnectionStatisticsPackedPrefix.layout.write value.packedPrefix ++
      (leBytes 3 (value.statistics.qualitySize.toNat / 256) ++ value.quality) := by
  obtain ⟨number, reference, processing, ⟨⟨c1, c2, c3, c4, c5, c6, c7⟩, size⟩, quality⟩ := value
  have hwords : Layout.u32.write processing ++ (Layout.u32.write c1 ++ (Layout.u32.write c2 ++
      (Layout.u32.write c3 ++ (Layout.u32.write c4 ++ (Layout.u32.write c5 ++
      (Layout.u32.write c6 ++ (Layout.u32.write c7 ++ (Layout.u32.write size ++ quality)))))))) =
      Layout.u8.write processing.toUInt8 ++ (Layout.u32.write (carry processing c1) ++
      (Layout.u32.write (carry c1 c2) ++ (Layout.u32.write (carry c2 c3) ++
      (Layout.u32.write (carry c3 c4) ++ (Layout.u32.write (carry c4 c5) ++
      (Layout.u32.write (carry c5 c6) ++ (Layout.u32.write (carry c6 c7) ++
      (Layout.u32.write (carry c7 size) ++ (leBytes 3 (size.toNat / 256) ++ quality))))))))) := by
    rw [write_u32_eq]
    simp only [write_carry]
  simp only [WireConnectionStatistics.write, WireConnectionStatistics.head, packedPrefix,
    WireConnectionStatisticsPrefix.layout, WireConnectionStatisticsPackedPrefix.layout,
    WireConnectionStatisticsBase.layout, WireConnectionStatisticsTail.layout,
    WireConnectionStatisticsCounters.layout, WireAlignedText.layout,
      WireStatisticsProcessing.layout,
    Layout.iso, Layout.pair, Layout.block, List.append_assoc, List.nil_append]
  rw [hwords]

theorem WireConnectionStatistics.decodePackedLayout_write
    (value : WireConnectionStatistics 25 3 UInt32) (messageId : UInt32) :
    decodePackedLayout value.write messageId =
      (decodeConnectionStatisticsQuality value.write 65 value.packedPrefix.qualitySize messageId
        >>= fun quality =>
          connectionStatisticsFromWire value.packedPrefix.base.directoryNumber
            value.packedPrefix.base.callReference value.packedPrefix.base.processing.toUInt32
            value.packedPrefix.base.counters quality messageId) := by
  have hlength := value.length_write
  have hbase : decodePrefix (WireConnectionStatisticsBase.layout 28 0 UInt8) messageId
      value.write = .ok value.packedPrefix.base := by
    rw [value.write_eq_packed]
    change decodePrefix _ _ ((_ ++ _) ++ _) = _
    rw [List.append_assoc]
    exact decodePrefix_write _ _ _ _
  have hhead : decodePrefix WireConnectionStatisticsPackedPrefix.layout messageId value.write =
      .ok value.packedPrefix := by
    rw [value.write_eq_packed]
    exact decodePrefix_write _ _ _ _
  have hquality : decodePackedQuality value.write messageId =
      decodeConnectionStatisticsQuality value.write 65 value.packedPrefix.qualitySize
        messageId := by
    unfold decodePackedQuality
    rw [if_neg (by omega), hhead]
    rfl
  unfold decodePackedLayout
  rw [hbase, hquality]
  rfl

namespace ConnectionStatistics

variable {s : ConnectionStatistics}

/-- The payload in the aligned layout is a packed payload as well.  The size word of the
    packed layout is then the latency without its lowest byte. -/
def PackedTie (s : ConnectionStatistics) : Prop :=
  s.quality.bytes.length % 256 = 0 ∧
  s.quality.bytes.length ≤ s.latencyMillis.toNat / 256 ∧
  s.latencyMillis.toNat / 256 ≤ s.quality.bytes.length + 3 ∧
  ∀ b ∈ s.quality.bytes.drop (s.latencyMillis.toNat / 256 - 3), b = 0

instance (s : ConnectionStatistics) : Decidable s.PackedTie :=
  inferInstanceAs (Decidable (_ ∧ _ ∧ _ ∧ _))

/-- Nothing was counted, and the processing value fits a byte. -/
def Idle (s : ConnectionStatistics) : Prop :=
  s.processing.wireValue.toNat < 256 ∧ s.packetsSent = 0 ∧ s.octetsSent = 0 ∧
    s.packetsReceived = 0 ∧ s.octetsReceived = 0 ∧ s.packetsLost = 0 ∧ s.jitterMillis = 0 ∧
    s.latencyMillis = 0

instance (s : ConnectionStatistics) : Decidable s.Idle :=
  inferInstanceAs (Decidable (_ ∧ _ ∧ _ ∧ _ ∧ _ ∧ _ ∧ _ ∧ _))

/-- The wire value of the statistics, with the directory number already written. -/
def wire {t a : Nat} (s : ConnectionStatistics) (number : WireAlignedText t a) :
    WireConnectionStatistics t a UInt32 where
  directoryNumber := number
  callReference := s.callReference
  processing := s.processing.wireValue
  statistics := s.tail
  quality := s.quality.bytes

theorem encodeAs_ok {t a : Nat} {payload : List UInt8} (h : s.encodeAs t a = .ok payload) :
    ∃ number : WireAlignedText t a, number.Holds s.directoryNumber ∧
      payload = (s.wire number).write := by
  obtain ⟨number, hnumber, hpayload⟩ := Checked.bind_ok.mp h
  cases hpayload
  exact ⟨number, WireAlignedText.new_holds hnumber, rfl⟩

theorem toNat_qualitySize (s : ConnectionStatistics) :
    s.tail.qualitySize.toNat = s.quality.bytes.length := by
  have hbounded := s.quality.bounded
  unfold CONNECTION_QUALITY_MAX_BYTES at hbounded
  exact UInt32.toNat_ofNat_of_lt' (Nat.lt_of_le_of_lt hbounded (by decide))

/-- The layout that was written gives the statistics back, but for the processing value. -/
theorem decodeWordLayout_wire {t a : Nat} {number : WireAlignedText t a}
    (hnumber : number.Holds s.directoryNumber) (hnul : '\x00' ∉ s.directoryNumber.toList)
    (htrim : trim s.directoryNumber = s.directoryNumber) (hwidth : t + a < 2 ^ 31)
    (messageId : UInt32) :
    decodeWordLayout t a (t + a + 36) (t + a + 40) (s.wire number).write messageId =
      .ok { s with processing := StatisticsProcessing.ofWire s.processing.wireValue } := by
  rw [(s.wire number).decodeWordLayout_write messageId hwidth s.toNat_qualitySize s.quality.bounded]
  exact connectionStatisticsFromWire_ok hnumber hnul htrim _ _ _ s.quality _

/-- What the packed layout reads in an aligned payload. -/
def packed (s : ConnectionStatistics) (quality : ConnectionQualityStatistics) :
    ConnectionStatistics where
  directoryNumber := s.directoryNumber
  callReference := s.callReference
  processing := StatisticsProcessing.ofWire s.processing.wireValue.toUInt8.toUInt32
  packetsSent := carry s.processing.wireValue s.packetsSent
  octetsSent := carry s.packetsSent s.octetsSent
  packetsReceived := carry s.octetsSent s.packetsReceived
  octetsReceived := carry s.packetsReceived s.octetsReceived
  packetsLost := carry s.octetsReceived s.packetsLost
  jitterMillis := carry s.packetsLost s.jitterMillis
  latencyMillis := carry s.jitterMillis s.latencyMillis
  quality := quality

theorem packedPrefix_holds {number : WireAlignedText 25 3}
    (hnumber : number.Holds s.directoryNumber) :
    (s.wire number).packedPrefix.base.directoryNumber.Holds s.directoryNumber := by
  obtain ⟨⟨padding, hvalue⟩, hzero⟩ := hnumber
  have halignment : number.alignment.val = List.replicate 3 0 :=
    List.eq_replicate_of_mem hzero |>.trans (by rw [number.alignment.property])
  refine ⟨⟨padding + 3, ?_⟩, ?_⟩
  · change number.value.val ++ number.alignment.val = _
    rw [hvalue, halignment, List.append_assoc, List.replicate_append_replicate]
  · intro b hb
    cases hb

/-- The packed layout accepts the quality data just in a tie. -/
theorem decodeQuality_packed (number : WireAlignedText 25 3) (messageId : UInt32)
    {quality : List UInt8} : decodeConnectionStatisticsQuality (s.wire number).write 65
        (s.wire number).packedPrefix.qualitySize messageId = .ok quality ↔ s.PackedTie ∧
        quality = (leBytes 3 (s.quality.bytes.length / 256) ++ s.quality.bytes).take
          (s.latencyMillis.toNat / 256) := by
  have hbounded := s.quality.bounded
  have hlatency := s.latencyMillis.toNat_lt
  have hlength : (s.wire number).write.length = 68 + s.quality.bytes.length :=
    (s.wire number).length_write
  have hsize : (s.wire number).packedPrefix.qualitySize.toNat =
      s.latencyMillis.toNat / 256 + 256 ^ 3 * (s.quality.bytes.length % 256) := by
    rw [← s.toNat_qualitySize]
    exact toNat_carry _ _
  have hrest : (s.wire number).write.drop 65 =
      leBytes 3 (s.quality.bytes.length / 256) ++ s.quality.bytes := by
    rw [WireConnectionStatistics.write_eq_packed, ← s.toNat_qualitySize]
    exact List.drop_left' (Layout.length_write _ _)
  have hdrop (k : Nat) : (s.wire number).write.drop (65 + k) =
      (leBytes 3 (s.quality.bytes.length / 256) ++ s.quality.bytes).drop k := by
    rw [← List.drop_drop, hrest]
  rw [decodeConnectionStatisticsQuality_ok (by decide), hsize, hlength, hrest]
  unfold CONNECTION_QUALITY_MAX_BYTES at hbounded ⊢
  unfold PackedTie
  -- a size below the limit leaves no low byte of the length
  by_cases hmod : s.quality.bytes.length % 256 = 0
  swap
  · constructor
    · rintro ⟨hle, -⟩
      omega
    · rintro ⟨⟨hzero, -⟩, -⟩
      exact absurd hzero hmod
  have hreservoir : ¬ HoldsReservoir (s.wire number).write 65 := by
    unfold HoldsReservoir CONNECTION_QUALITY_MAX_BYTES
    rw [hlength]
    omega
  unfold QualityPadding
  rw [if_neg hreservoir, hlength, hmod, Nat.mul_zero, Nat.add_zero, hdrop]
  generalize hk : s.latencyMillis.toNat / 256 = k
  generalize hb : s.quality.bytes = bytes at hbounded hmod ⊢
  have hzero (hle : bytes.length ≤ k) :
      (∀ b ∈ (leBytes 3 (bytes.length / 256) ++ bytes).drop k, b = 0) ↔
        ∀ b ∈ bytes.drop (k - 3), b = 0 := by
    cases bytes with
    | nil =>
      refine iff_of_true ?_ ?_
      · intro b hb
        have hmem := List.mem_of_mem_drop hb
        change b ∈ [0, 0, 0] at hmem
        simpa using hmem
      · intro b hb
        rw [List.drop_nil] at hb
        cases hb
    | cons head rest =>
      rw [List.length_cons] at hmod hle
      rw [List.drop_append, length_leBytes,
        List.drop_eq_nil_of_le (by rw [length_leBytes]; omega), List.nil_append]
  constructor
  · rintro ⟨-, hle, ⟨hsuffix, hpadding⟩, hquality⟩
    have hlow : bytes.length ≤ k := by omega
    exact ⟨⟨rfl, hlow, by omega, (hzero hlow).mp hpadding⟩, hquality⟩
  · rintro ⟨⟨-, hlow, hhigh, hpadding⟩, hquality⟩
    refine ⟨by omega, by omega, ⟨by omega, (hzero hlow).mpr hpadding⟩, hquality⟩

/-- The statistics are read back just when their processing value is the one its number
    stands for and, from protocol 22 on, the payload is not a packed payload as well or
    there was nothing to shift. -/
def SurvivesWire (s : ConnectionStatistics) (protocol : ProtocolVersion) : Prop :=
  s.processing.Canonical ∧ (22 ≤ protocol.wire → s.PackedTie → s.Idle)

instance (s : ConnectionStatistics) (protocol : ProtocolVersion) :
    Decidable (s.SurvivesWire protocol) :=
  inferInstanceAs (Decidable (_ ∧ _))

/-- The packed layout gives the statistics themselves only when there is nothing to shift. -/
theorem packed_eq_self {quality : ConnectionQualityStatistics} (htie : s.PackedTie)
    (hquality : quality.bytes = (leBytes 3 (s.quality.bytes.length / 256) ++ s.quality.bytes).take
      (s.latencyMillis.toNat / 256)) : s.packed quality = s ↔ s.processing.Canonical ∧ s.Idle := by
  obtain ⟨number, reference, processing, c1, c2, c3, c4, c5, c6, c7, bytes⟩ := s
  dsimp only [PackedTie] at htie
  dsimp only at hquality
  unfold packed Idle
  rw [ConnectionStatistics.mk.injEq]
  dsimp only
  have hbyte : processing.wireValue.toUInt8.toUInt32.toNat = processing.wireValue.toNat % 256 := by
    rw [UInt8.toNat_toUInt32, UInt32.toNat_toUInt8]
  constructor
  · rintro ⟨-, -, hprocessing, h1, h2, h3, h4, h5, h6, h7, -⟩
    have hcanonical : processing.Canonical :=
      hprocessing ▸ StatisticsProcessing.canonical_ofWire _
    have hwire := congrArg StatisticsProcessing.wireValue hprocessing
    rw [StatisticsProcessing.wireValue_ofWire] at hwire
    have hlow : processing.wireValue.toNat < 256 := by
      rw [hwire] at hbyte
      omega
    -- each word is zero because the one before it fits its lowest byte
    have hzero {low high : UInt32} (hlow : low.toNat < 256) (h : carry low high = high) :
        high = 0 := (carry_eq_self hlow).mp h
    have z1 := hzero hlow h1
    have z2 := hzero (by rw [z1]; decide) h2
    have z3 := hzero (by rw [z2]; decide) h3
    have z4 := hzero (by rw [z3]; decide) h4
    have z5 := hzero (by rw [z4]; decide) h5
    have z6 := hzero (by rw [z5]; decide) h6
    have z7 := hzero (by rw [z6]; decide) h7
    exact ⟨hcanonical, hlow, z1, z2, z3, z4, z5, z6, z7⟩
  · rintro ⟨hcanonical, hlow, rfl, rfl, rfl, rfl, rfl, rfl, rfl⟩
    have hwire : processing.wireValue.toUInt8.toUInt32 = processing.wireValue := by
      apply UInt32.toNat.inj
      rw [hbyte, Nat.mod_eq_of_lt hlow]
    have hstart : carry processing.wireValue 0 = 0 := (carry_eq_self hlow).mpr rfl
    have hempty : bytes.bytes = [] := List.eq_nil_of_length_eq_zero (Nat.le_zero.mp htie.2.1)
    have hbytes : quality = bytes := by
      obtain ⟨read, hread⟩ := quality
      obtain ⟨written, hwritten⟩ := bytes
      dsimp only at hquality hempty
      subst hempty
      subst hquality
      rfl
    rw [hwire, hstart]
    exact ⟨rfl, rfl, hcanonical, rfl, rfl, rfl, rfl, rfl, rfl, rfl, hbytes⟩

/-- The packed layout reads an aligned payload just in a tie. -/
theorem decodePackedLayout_wire {number : WireAlignedText 25 3}
    (hnumber : number.Holds s.directoryNumber) (hnul : '\x00' ∉ s.directoryNumber.toList)
    (htrim : trim s.directoryNumber = s.directoryNumber) (messageId : UInt32)
    {read : ConnectionStatistics} : decodePackedLayout (s.wire number).write messageId = .ok read ↔
      s.PackedTie ∧ ∃ quality : ConnectionQualityStatistics,
        quality.bytes = (leBytes 3 (s.quality.bytes.length / 256) ++ s.quality.bytes).take
          (s.latencyMillis.toNat / 256) ∧ read = s.packed quality := by
  have hholds := packedPrefix_holds hnumber
  have hfrom (quality : ConnectionQualityStatistics) :=
    connectionStatisticsFromWire_ok hholds hnul htrim s.callReference
      s.processing.wireValue.toUInt8.toUInt32 (s.wire number).packedPrefix.base.counters quality
      messageId
  rw [WireConnectionStatistics.decodePackedLayout_write, Checked.bind_ok]
  constructor
  · rintro ⟨bytes, hbytes, hread⟩
    obtain ⟨htie, heq⟩ := (decodeQuality_packed number messageId).mp hbytes
    have hbounded : bytes.length ≤ CONNECTION_QUALITY_MAX_BYTES := by
      have hle := s.quality.bounded
      obtain ⟨hmod, hlow, hhigh, -⟩ := htie
      rw [heq, List.length_take]
      unfold CONNECTION_QUALITY_MAX_BYTES at hle ⊢
      omega
    refine ⟨htie, ⟨bytes, hbounded⟩, heq, ?_⟩
    have hvalue := (hfrom ⟨bytes, hbounded⟩).symm.trans hread
    cases hvalue
    rfl
  · rintro ⟨htie, quality, heq, rfl⟩
    exact ⟨quality.bytes, (decodeQuality_packed number messageId).mpr ⟨htie, heq⟩, hfrom quality⟩

/-- **Which statistics survive the wire.**  An encoded payload gives its statistics back
    at the version it was encoded for just when they satisfy `SurvivesWire`. -/
theorem decode_encode {s : ConnectionStatistics} {protocol : ProtocolVersion}
    {payload : List UInt8} (hencode : encodeConnectionStatistics s protocol = .ok payload)
    (htrim : trim s.directoryNumber = s.directoryNumber)
    (hnul : '\x00' ∉ s.directoryNumber.toList) :
    decodeConnectionStatistics payload protocol.wire CONNECTION_STATISTICS_RES = .ok s ↔
      s.SurvivesWire protocol := by
  have hword (t a : Nat) (number : WireAlignedText t a) (hnumber : number.Holds s.directoryNumber)
      (hwidth : t + a < 2 ^ 31) :=
    decodeWordLayout_wire hnumber hnul htrim hwidth CONNECTION_STATISTICS_RES
  have hself : (.ok { s with processing := StatisticsProcessing.ofWire s.processing.wireValue } :
      Checked ConnectionStatistics) = .ok s ↔ s.processing.Canonical := by
    rw [Except.ok.injEq, ConnectionStatistics.mk.injEq]
    constructor
    · rintro ⟨-, -, hprocessing, -⟩
      exact hprocessing
    · intro hcanonical
      exact ⟨rfl, rfl, hcanonical, rfl, rfl, rfl, rfl, rfl, rfl, rfl, rfl⟩
  unfold encodeConnectionStatistics at hencode
  split at hencode
  · cases hencode
  unfold SurvivesWire decodeConnectionStatistics
  by_cases h19 : 19 ≤ protocol.wire
  swap
  · -- the layout without alignment is the only one tried
    rw [if_neg h19] at hencode
    obtain ⟨number, hnumber, rfl⟩ := encodeAs_ok hencode
    rw [if_pos (by omega)]
    change decodeWordLayout 24 0 (24 + 0 + 36) (24 + 0 + 40) _ _ = _ ↔ _
    rw [hword 24 0 number hnumber (by decide), hself]
    exact ⟨fun h => ⟨h, fun h22 => absurd h22 (by omega)⟩, fun h => h.1⟩
  rw [if_pos h19] at hencode
  obtain ⟨number, hnumber, rfl⟩ := encodeAs_ok hencode
  have haligned : decodeLayout .aligned (s.wire number).write CONNECTION_STATISTICS_RES =
      .ok { s with processing := StatisticsProcessing.ofWire s.processing.wireValue } :=
    hword 25 3 number hnumber (by decide)
  have hearly (h22 : ¬ 22 ≤ protocol.wire) : s.processing.Canonical ↔
        s.processing.Canonical ∧ (22 ≤ protocol.wire → s.PackedTie → s.Idle) :=
    ⟨fun h => ⟨h, fun h' => absurd h' h22⟩, fun h => h.1⟩
  rw [if_neg (by omega), haligned]
  split
  · rw [selectLayout_preferred (decodeLayout_returns _ _ _), hself]
    exact hearly (by omega)
  split
  · rw [hself]
    exact hearly (by omega)
  next h21 =>
  have h22 : 22 ≤ protocol.wire := by omega
  change selectLayout (decodePackedLayout _ _) _ = _ ↔ _
  by_cases htie : s.PackedTie
  · -- the packed reading wins
    obtain ⟨quality, hquality⟩ : ∃ quality : ConnectionQualityStatistics,
        quality.bytes = (leBytes 3 (s.quality.bytes.length / 256) ++ s.quality.bytes).take
          (s.latencyMillis.toNat / 256) := by
      refine ⟨⟨_, ?_⟩, rfl⟩
      have hle := s.quality.bounded
      obtain ⟨hmod, hlow, hhigh, -⟩ := htie
      rw [List.length_take]
      unfold CONNECTION_QUALITY_MAX_BYTES at hle ⊢
      omega
    have hpacked := (decodePackedLayout_wire hnumber hnul htrim CONNECTION_STATISTICS_RES).mpr
      ⟨htie, quality, hquality, rfl⟩
    rw [hpacked, selectLayout_preferred (Checked.returns_ok _), Except.ok.injEq,
      packed_eq_self htie hquality]
    exact ⟨fun h => ⟨h.1, fun _ _ => h.2⟩, fun h => ⟨h.1, h.2 h22 htie⟩⟩
  · have hnone (other : ConnectionStatistics) :
        decodePackedLayout (s.wire number).write CONNECTION_STATISTICS_RES ≠ .ok other := by
      intro hread
      exact htie ((decodePackedLayout_wire hnumber hnul htrim _).mp hread).1
    rw [selectLayout_fallback (decodePackedLayout_returns _ _) hnone, hself]
    exact ⟨fun h => ⟨h, fun _ htie' => absurd htie' htie⟩, fun h => h.1⟩

/-- Statistics of a short call without quality data. -/
def shortCall : ConnectionStatistics where
  directoryNumber := "2002"
  callReference := 42
  processing := .clear
  packetsSent := 1
  octetsSent := 2
  packetsReceived := 3
  octetsReceived := 4
  packetsLost := 5
  jitterMillis := 6
  latencyMillis := 7
  quality := ⟨[], by decide⟩

/-- One quality byte rules the packed reading out. -/
theorem decode_encode_quality :
    (encodeConnectionStatistics { shortCall with quality := ⟨[0xa1], by decide⟩ } .V22).bind
        (fun payload => decodeConnectionStatistics payload 22 CONNECTION_STATISTICS_RES) =
      .ok { shortCall with quality := ⟨[0xa1], by decide⟩ } := by
  obtain ⟨payload, hpayload⟩ : ∃ payload,
      encodeConnectionStatistics { shortCall with quality := ⟨[0xa1], by decide⟩ } .V22 =
        .ok payload := ⟨_, rfl⟩
  rw [hpayload]
  exact (decode_encode hpayload (by decide) (by decide)).mpr (by decide)

/-- Without it the counters are read one byte off. -/
theorem shortCall_shifted : trim shortCall.directoryNumber = shortCall.directoryNumber ∧
    '\x00' ∉ shortCall.directoryNumber.toList ∧
    ∃ payload, encodeConnectionStatistics shortCall .V22 = .ok payload ∧
      decodeConnectionStatistics payload 22 CONNECTION_STATISTICS_RES ≠ .ok shortCall ∧
      (decodeConnectionStatistics payload 22 CONNECTION_STATISTICS_RES).map
        ConnectionStatistics.packetsSent = .ok 0x01000000 := by
  refine ⟨by decide, by decide, _, rfl, by decide, by decide⟩

end ConnectionStatistics

end Sccp
