/-
  Sccp.Message.Statistics

  Connection statistics of a call (`message/codec.rs`, `codec/media.rs`).

  There are three layouts.  Two of them differ in the width of the directory number
  and its alignment; the third packs the processing word into one byte, so that every
  word after it starts one byte into the word before.  The decoder reads a payload of
  protocol 19 or of protocol 22 and later in two of them and keeps one.
-/

import Sccp.Message.Codec

namespace Sccp

/-- The identifier of a statistics response. -/
def CONNECTION_STATISTICS_RES : UInt32 := 0x0023

/-- Maximum retained station quality-statistics payload. -/
def CONNECTION_QUALITY_MAX_BYTES : Nat := 600

/-! ## The message -/

/-- Whether a response clears the station counters. -/
inductive StatisticsProcessing where
  | clear
  | doNotClear
  | unknown (value : UInt32)
  deriving DecidableEq

namespace StatisticsProcessing

def wireValue : StatisticsProcessing → UInt32
  | clear => 0
  | doNotClear => 1
  | unknown value => value

def ofWire (value : UInt32) : StatisticsProcessing :=
  if value = 0 then clear else if value = 1 then doNotClear else unknown value

/-- The value is the one that its number stands for. -/
def Canonical (processing : StatisticsProcessing) : Prop :=
  ofWire processing.wireValue = processing

instance (processing : StatisticsProcessing) : Decidable processing.Canonical :=
  inferInstanceAs (Decidable (_ = _))

theorem wireValue_ofWire (value : UInt32) : (ofWire value).wireValue = value := by
  unfold ofWire
  split
  · next h => exact h.symm
  split
  · next h => exact h.symm
  · rfl

theorem canonical_ofWire (value : UInt32) : (ofWire value).Canonical := by
  unfold Canonical
  rw [wireValue_ofWire]

end StatisticsProcessing

/-- Bounded station quality data. -/
structure ConnectionQualityStatistics where
  bytes : List UInt8
  bounded : bytes.length ≤ CONNECTION_QUALITY_MAX_BYTES
  deriving DecidableEq

def ConnectionQualityStatistics.new (bytes : List UInt8) : Checked ConnectionQualityStatistics :=
  if h : bytes.length ≤ CONNECTION_QUALITY_MAX_BYTES then .ok ⟨bytes, h⟩
  else reject (.countTooLarge CONNECTION_STATISTICS_RES "quality statistics" bytes.length
    CONNECTION_QUALITY_MAX_BYTES)

/-- Packet, octet, timing and station-provided quality statistics for a call. -/
structure ConnectionStatistics where
  directoryNumber : String
  callReference : UInt32
  processing : StatisticsProcessing
  packetsSent : UInt32
  octetsSent : UInt32
  packetsReceived : UInt32
  octetsReceived : UInt32
  packetsLost : UInt32
  jitterMillis : UInt32
  latencyMillis : UInt32
  quality : ConnectionQualityStatistics
  deriving DecidableEq

/-! ## Wire layouts -/

structure WireAlignedText (textBytes alignmentBytes : Nat) where
  value : WireFixedText textBytes
  alignment : Block alignmentBytes
  deriving DecidableEq

namespace WireAlignedText

variable {t a : Nat}

def new (t a : Nat) (messageId : UInt32) (field value : String) :
    Checked (WireAlignedText t a) := do
  let value ← WireFixedText.new t messageId field value
  return { value, alignment := ⟨List.replicate a 0, List.length_replicate⟩ }

def text (field : WireAlignedText t a) : Checked String := field.value.text

def validate (field : WireAlignedText t a) (messageId : UInt32) : Checked Unit :=
  validateZeroPayload field.alignment.val messageId a

def layout (t a : Nat) : Layout (WireAlignedText t a) :=
  ((Layout.block t).pair (Layout.block a)).iso (fun p => ⟨p.1, p.2⟩)
    (fun field => (field.value, field.alignment))

end WireAlignedText

structure WireConnectionStatisticsCounters where
  packetsSent : UInt32
  octetsSent : UInt32
  packetsReceived : UInt32
  octetsReceived : UInt32
  packetsLost : UInt32
  jitterMillis : UInt32
  latencyMillis : UInt32
  deriving DecidableEq

def WireConnectionStatisticsCounters.layout : Layout WireConnectionStatisticsCounters :=
  (Layout.u32.pair <| Layout.u32.pair <| Layout.u32.pair <| Layout.u32.pair <|
    Layout.u32.pair <| Layout.u32.pair Layout.u32).iso
    (fun (a, b, c, d, e, f, g) => ⟨a, b, c, d, e, f, g⟩)
    (fun c => (c.packetsSent, c.octetsSent, c.packetsReceived, c.octetsReceived, c.packetsLost,
      c.jitterMillis, c.latencyMillis))

structure WireConnectionStatisticsTail where
  counters : WireConnectionStatisticsCounters
  qualitySize : UInt32
  deriving DecidableEq

def WireConnectionStatisticsTail.layout : Layout WireConnectionStatisticsTail :=
  (WireConnectionStatisticsCounters.layout.pair Layout.u32).iso (fun p => ⟨p.1, p.2⟩)
    (fun tail => (tail.counters, tail.qualitySize))

/-- The width of the processing field. -/
class WireStatisticsProcessing (α : Type) where
  layout : Layout α
  toWire : α → UInt32

instance : WireStatisticsProcessing UInt32 where
  layout := Layout.u32
  toWire := id

instance : WireStatisticsProcessing UInt8 where
  layout := Layout.u8
  toWire := UInt8.toUInt32

/-- The fields before the size of the quality data. -/
structure WireConnectionStatisticsBase (t a : Nat) (Processing : Type) where
  directoryNumber : WireAlignedText t a
  callReference : UInt32
  processing : Processing
  counters : WireConnectionStatisticsCounters
  deriving DecidableEq

def WireConnectionStatisticsBase.layout (t a : Nat) (Processing : Type)
    [WireStatisticsProcessing Processing] : Layout (WireConnectionStatisticsBase t a Processing) :=
  ((WireAlignedText.layout t a).pair <| Layout.u32.pair <|
    (WireStatisticsProcessing.layout : Layout Processing).pair
      WireConnectionStatisticsCounters.layout).iso (fun p => ⟨p.1, p.2.1, p.2.2.1, p.2.2.2⟩)
    (fun base => (base.directoryNumber, base.callReference, base.processing, base.counters))

/-- The fields before the quality data. -/
structure WireConnectionStatisticsPrefix (t a : Nat) (Processing : Type) where
  directoryNumber : WireAlignedText t a
  callReference : UInt32
  processing : Processing
  statistics : WireConnectionStatisticsTail
  deriving DecidableEq

def WireConnectionStatisticsPrefix.layout (t a : Nat) (Processing : Type)
    [WireStatisticsProcessing Processing] :
    Layout (WireConnectionStatisticsPrefix t a Processing) :=
  ((WireAlignedText.layout t a).pair <| Layout.u32.pair <|
    (WireStatisticsProcessing.layout : Layout Processing).pair
      WireConnectionStatisticsTail.layout).iso (fun p => ⟨p.1, p.2.1, p.2.2.1, p.2.2.2⟩)
    (fun head => (head.directoryNumber, head.callReference, head.processing, head.statistics))

/-- A whole payload; the number of quality bytes is the size in the tail. -/
structure WireConnectionStatistics (t a : Nat) (Processing : Type) where
  directoryNumber : WireAlignedText t a
  callReference : UInt32
  processing : Processing
  statistics : WireConnectionStatisticsTail
  quality : List UInt8
  deriving DecidableEq

def WireConnectionStatistics.head {t a : Nat} {Processing : Type}
    (value : WireConnectionStatistics t a Processing) :
    WireConnectionStatisticsPrefix t a Processing where
  directoryNumber := value.directoryNumber
  callReference := value.callReference
  processing := value.processing
  statistics := value.statistics

def WireConnectionStatistics.write {t a : Nat} {Processing : Type}
    [WireStatisticsProcessing Processing] (value : WireConnectionStatistics t a Processing) :
    List UInt8 :=
  (WireConnectionStatisticsPrefix.layout t a Processing).write value.head ++ value.quality

abbrev WireConnectionStatisticsPackedBase := WireConnectionStatisticsBase 28 0 UInt8

structure WireConnectionStatisticsPackedPrefix where
  base : WireConnectionStatisticsPackedBase
  qualitySize : UInt32
  deriving DecidableEq

def WireConnectionStatisticsPackedPrefix.layout : Layout WireConnectionStatisticsPackedPrefix :=
  ((WireConnectionStatisticsBase.layout 28 0 UInt8).pair Layout.u32).iso (fun p => ⟨p.1, p.2⟩)
    (fun head => (head.base, head.qualitySize))

def PRE_19_CONNECTION_STATISTICS_BASE_BYTES : Nat := 60
def PRE_19_CONNECTION_STATISTICS_PREFIX_BYTES : Nat := 64
def ALIGNED_CONNECTION_STATISTICS_BASE_BYTES : Nat := 64
def ALIGNED_CONNECTION_STATISTICS_PREFIX_BYTES : Nat := 68
def PACKED_CONNECTION_STATISTICS_BASE_BYTES : Nat := 61
def PACKED_CONNECTION_STATISTICS_PREFIX_BYTES : Nat := 65

/-! ## Encoding -/

namespace ConnectionStatistics

def tail (statistics : ConnectionStatistics) : WireConnectionStatisticsTail where
  counters :=
    { packetsSent := statistics.packetsSent, octetsSent := statistics.octetsSent,
      packetsReceived := statistics.packetsReceived,
      octetsReceived := statistics.octetsReceived, packetsLost := statistics.packetsLost,
      jitterMillis := statistics.jitterMillis, latencyMillis := statistics.latencyMillis }
  qualitySize := UInt32.ofNat statistics.quality.bytes.length

/-- The payload in the layout with a directory number of `t` and `a` bytes. -/
def encodeAs (t a : Nat) (statistics : ConnectionStatistics) : Checked (List UInt8) := do
  let directoryNumber ← WireAlignedText.new t a CONNECTION_STATISTICS_RES "directory number"
    statistics.directoryNumber
  let value : WireConnectionStatistics t a UInt32 :=
    { directoryNumber, callReference := statistics.callReference,
      processing := statistics.processing.wireValue, statistics := statistics.tail,
      quality := statistics.quality.bytes }
  return value.write

end ConnectionStatistics

def encodeConnectionStatistics (statistics : ConnectionStatistics) (protocol : ProtocolVersion) :
    Checked (List UInt8) :=
  if 2 ^ 32 ≤ statistics.quality.bytes.length then
    reject (.countTooLarge CONNECTION_STATISTICS_RES "quality statistics"
      statistics.quality.bytes.length CONNECTION_QUALITY_MAX_BYTES)
  else if 19 ≤ protocol.wire then statistics.encodeAs 25 3
  else statistics.encodeAs 24 0

/-! ## Decoding -/

inductive ConnectionStatisticsWireLayout where
  | pre19 | aligned | packed
  deriving DecidableEq

def decodeConnectionStatisticsQuality (payload : List UInt8) (prefixBytes : Nat)
    (qualitySize messageId : UInt32) : Checked (List UInt8) := do
  let qualitySize ← usizeFromWire messageId "quality statistics" qualitySize
  if CONNECTION_QUALITY_MAX_BYTES < qualitySize then
    reject (.countTooLarge messageId "quality statistics" qualitySize CONNECTION_QUALITY_MAX_BYTES)
  else if usizeMax < prefixBytes + qualitySize then reject (.invalidLength messageId)
  else
    let meaningfulEnd := prefixBytes + qualitySize
    if payload.length < meaningfulEnd then
      reject (.truncated messageId meaningfulEnd payload.length)
    else
      let reservoirEnd := prefixBytes + CONNECTION_QUALITY_MAX_BYTES
      let suffix ← sliceFrom payload meaningfulEnd
      let fixedReservoirPadding := (4 - reservoirEnd % 4) % 4
      if reservoirEnd ≤ payload.length ∧ payload.length ≤ reservoirEnd + fixedReservoirPadding then
        validateZeroPayload (← sliceFrom payload reservoirEnd) messageId
          (payload.length - reservoirEnd)
        slice payload prefixBytes meaningfulEnd
      else if suffix.length ≤ 3 then
        validateZeroPayload suffix messageId suffix.length
        slice payload prefixBytes meaningfulEnd
      else reject (.trailingBytes messageId suffix.length)

def connectionStatisticsFromWire {t a : Nat} (directoryNumber : WireAlignedText t a)
    (callReference processing : UInt32) (counters : WireConnectionStatisticsCounters)
    (quality : List UInt8) (messageId : UInt32) : Checked ConnectionStatistics := do
  directoryNumber.validate messageId
  let directoryNumber ← directoryNumber.text
  let quality ← ConnectionQualityStatistics.new quality
  return {
    directoryNumber, callReference, processing := StatisticsProcessing.ofWire processing,
    packetsSent := counters.packetsSent, octetsSent := counters.octetsSent,
    packetsReceived := counters.packetsReceived, octetsReceived := counters.octetsReceived,
    packetsLost := counters.packetsLost, jitterMillis := counters.jitterMillis,
    latencyMillis := counters.latencyMillis, quality }

/-- `select_layout`; both readings are computed before one is kept. -/
def selectLayout (preferred fallback : Checked ConnectionStatistics) :
    Checked ConnectionStatistics :=
  match preferred, fallback with
  | .error .panic, _ => .error .panic
  | _, .error .panic => .error .panic
  | .ok preferred, .ok _ => .ok preferred
  | .ok statistics, .error _ => .ok statistics
  | .error _, .ok statistics => .ok statistics
  | .error error, .error _ => .error error

/-- The quality data in the two arms of `decode_layout` whose words are aligned; a
    payload of just the base has none. -/
def decodeWordQuality (t a baseBytes prefixBytes : Nat) (payload : List UInt8)
    (messageId : UInt32) : Checked (List UInt8) :=
  if payload.length = baseBytes then .ok []
  else if payload.length < prefixBytes then
    reject (.truncated messageId prefixBytes payload.length)
  else do
    let value ← decodePrefix (WireConnectionStatisticsPrefix.layout t a UInt32) messageId payload
    decodeConnectionStatisticsQuality payload prefixBytes value.statistics.qualitySize messageId

def decodeWordLayout (t a baseBytes prefixBytes : Nat) (payload : List UInt8)
    (messageId : UInt32) : Checked ConnectionStatistics := do
  let base ← decodePrefix (WireConnectionStatisticsBase.layout t a UInt32) messageId payload
  let quality ← decodeWordQuality t a baseBytes prefixBytes payload messageId
  connectionStatisticsFromWire base.directoryNumber base.callReference
    (WireStatisticsProcessing.toWire base.processing) base.counters quality messageId

/-- The quality data in the packed arm; here the base may be padded to a word. -/
def decodePackedQuality (payload : List UInt8) (messageId : UInt32) : Checked (List UInt8) :=
  if PACKED_CONNECTION_STATISTICS_BASE_BYTES ≤ payload.length ∧ payload.length ≤ 64 then do
    validateZeroPayload (← sliceFrom payload PACKED_CONNECTION_STATISTICS_BASE_BYTES)
      messageId (payload.length - PACKED_CONNECTION_STATISTICS_BASE_BYTES)
    return []
  else do
    let value ← decodePrefix WireConnectionStatisticsPackedPrefix.layout messageId payload
    decodeConnectionStatisticsQuality payload PACKED_CONNECTION_STATISTICS_PREFIX_BYTES
      value.qualitySize messageId

def decodePackedLayout (payload : List UInt8) (messageId : UInt32) :
    Checked ConnectionStatistics := do
  let base ← decodePrefix (WireConnectionStatisticsBase.layout 28 0 UInt8) messageId payload
  let quality ← decodePackedQuality payload messageId
  connectionStatisticsFromWire base.directoryNumber base.callReference
    (WireStatisticsProcessing.toWire base.processing) base.counters quality messageId

def decodeLayout (layout : ConnectionStatisticsWireLayout) (payload : List UInt8)
    (messageId : UInt32) : Checked ConnectionStatistics :=
  match layout with
  | .pre19 =>
    decodeWordLayout 24 0 PRE_19_CONNECTION_STATISTICS_BASE_BYTES
      PRE_19_CONNECTION_STATISTICS_PREFIX_BYTES payload messageId
  | .aligned =>
    decodeWordLayout 25 3 ALIGNED_CONNECTION_STATISTICS_BASE_BYTES
      ALIGNED_CONNECTION_STATISTICS_PREFIX_BYTES payload messageId
  | .packed => decodePackedLayout payload messageId

/-- Some stations of protocol 22 use the packed base, so the packed reading wins when
    both readings are valid. -/
def decodeConnectionStatistics (payload : List UInt8) (protocol : Nat) (messageId : UInt32) :
    Checked ConnectionStatistics :=
  if protocol ≤ 18 then decodeLayout .pre19 payload messageId
  else if protocol = 19 then
    selectLayout (decodeLayout .aligned payload messageId) (decodeLayout .pre19 payload messageId)
  else if protocol ≤ 21 then decodeLayout .aligned payload messageId
  else
    selectLayout (decodeLayout .packed payload messageId) (decodeLayout .aligned payload messageId)

end Sccp
