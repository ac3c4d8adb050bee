/-
  Sccp.Safety.MediaSecrets

  Where keys and salts stand in a message.

  Two media messages that differ in key and salt alone have payloads that differ in 32
  consecutive bytes alone.  The place of these bytes is worked out from the layouts.
-/

import Sccp.Message.Media

namespace Sccp.Message

open Sccp

/-! ## The encryption block -/

/-- The block without its key and its salt. -/
def WireEncryptionInfo.withoutSecrets (info : WireEncryptionInfo) : WireEncryptionInfo :=
  { info with key := zeroBlock 16, salt := zeroBlock 16 }

/-- The key and the salt. -/
def WireEncryptionInfo.secrets (info : WireEncryptionInfo) : List UInt8 :=
  info.key.val ++ info.salt.val

/-- Bytes in which the secrets of a block stand at an offset, and nothing else depends on
    them; `shared` is what else is known of the block. -/
def Hides (offset : Nat) (shared : WireEncryptionInfo) (bytes : WireEncryptionInfo → List UInt8) :
    Prop :=
  ∃ before after, before.length = offset ∧ ∀ info, info.withoutSecrets = shared →
    bytes info = before ++ info.secrets ++ after

namespace Hides

variable {offset : Nat} {shared : WireEncryptionInfo} {bytes : WireEncryptionInfo → List UInt8}

theorem of_eq {offset' : Nat} (h : Hides offset shared bytes) (heq : offset = offset') :
    Hides offset' shared bytes := heq ▸ h

variable {α β : Type} {l : Layout α} {m : Layout β}

/-- A field in front. -/
theorem pair {f : WireEncryptionInfo → α × β} (hfirst : ∀ i j, (f i).1 = (f j).1)
    (h : Hides offset shared fun info => m.write (f info).2) :
    Hides (l.size + offset) shared fun info => (l.pair m).write (f info) := by
  obtain ⟨before, after, hlength, hbytes⟩ := h
  refine ⟨l.write (f shared).1 ++ before, after, ?_, fun info hinfo => ?_⟩
  · rw [List.length_append, l.length_write, hlength]
  · change l.write (f info).1 ++ m.write (f info).2 = _
    rw [hfirst info shared, show m.write (f info).2 = _ from hbytes info hinfo]
    simp only [List.append_assoc]

/-- What follows. -/
theorem followed (h : Hides offset shared bytes) (rest : List UInt8) :
    Hides offset shared (fun info => bytes info ++ rest) := by
  obtain ⟨before, after, hlength, hbytes⟩ := h
  refine ⟨before, after ++ rest, hlength, fun info hinfo => ?_⟩
  dsimp only
  rw [hbytes info hinfo]
  simp only [List.append_assoc]

/-- In the block itself an algorithm and two lengths come first. -/
theorem block (shared : WireEncryptionInfo) : Hides 8 shared WireEncryptionInfo.layout.write := by
  refine ⟨Layout.u32.write shared.algorithm ++ (Layout.u16.write shared.keyLength
      ++ Layout.u16.write shared.saltLength),
    Layout.u32.write shared.mkiPresent ++ Layout.u32.write shared.keyDerivationRate, ?_,
    fun info hinfo => ?_⟩
  · rw [List.length_append, List.length_append, Layout.length_write, Layout.length_write,
      Layout.length_write]
    rfl
  subst hinfo
  change Layout.u32.write _ ++ (Layout.u16.write _ ++ (Layout.u16.write _
    ++ (info.key.val ++ (info.salt.val ++ (Layout.u32.write _ ++ Layout.u32.write _))))) = _
  simp only [WireEncryptionInfo.secrets, WireEncryptionInfo.withoutSecrets, List.append_assoc]

/-- The block with the fields behind it. -/
theorem first {f : WireEncryptionInfo → WireEncryptionInfo × β} (hfirst : ∀ i, (f i).1 = i)
    (hrest : ∀ i j, (f i).2 = (f j).2) :
    Hides 8 shared fun info => (WireEncryptionInfo.layout.pair m).write (f info) := by
  obtain ⟨before, after, hlength, hbytes⟩ := block shared
  refine ⟨before, after ++ m.write (f shared).2, hlength, fun info hinfo => ?_⟩
  change WireEncryptionInfo.layout.write (f info).1 ++ m.write (f info).2 = _
  rw [hfirst, hbytes info hinfo, hrest info shared, List.append_assoc]

end Hides

/-! ## Audio layouts -/

/-- The room that a form of an address takes. -/
def addressSize (Address : Type) [WireIpAddress Address] : Nat :=
  (WireIpAddress.layout : Layout Address).size

section Layouts

variable (shared : WireEncryptionInfo)

theorem hides_openReceive (base : WireOpenReceiveV11) : Hides 36 shared
    (fun info => WireOpenReceiveV11.layout.write { base with encryption := info }) := by
  apply Hides.of_eq
  case h =>
    repeat apply Hides.pair fun _ _ => rfl
    exact .first (fun _ => rfl) fun _ _ => rfl
  case heq => rfl

/-- Eight words, the party and the address stand before the block. -/
theorem hides_startMedia {Address : Type} [WireIpAddress Address]
    (base : WireStartMediaBase Address) {size : Nat}
    (hsize : addressSize Address = size) : Hides (size + 48) shared
      (fun info => (WireStartMediaBase.layout Address).write { base with encryption := info }) := by
  apply Hides.of_eq
  case h =>
    repeat apply Hides.pair fun _ _ => rfl
    exact .first (fun _ => rfl) fun _ _ => rfl
  subst hsize
  change 4 + (4 + (addressSize Address + (4 + (4 + (4 + (4 + (4 + (4 + (4 + (4 + 8)))))))))) = _
  omega

theorem hides_openMultimedia (base : WireOpenMultimediaV11) : Hides 116 shared
    (fun info => WireOpenMultimediaV11.layout.write { base with encryption := info }) := by
  apply Hides.of_eq
  case h =>
    repeat apply Hides.pair fun _ _ => rfl
    exact .first (fun _ => rfl) fun _ _ => rfl
  case heq => rfl

theorem hides_startMultimedia {Address : Type} [WireIpAddress Address]
    (base : WireStartMultimedia Address) {size : Nat}
    (hsize : addressSize Address = size) : Hides (size + 116) shared
      (fun info => (WireStartMultimedia.layout Address).write
        { base with encryption := info }) := by
  apply Hides.of_eq
  case h =>
    repeat apply Hides.pair fun _ _ => rfl
    exact .first (fun _ => rfl) fun _ _ => rfl
  subst hsize
  change 4 + (4 + (4 + (addressSize Address + (4 + (4 + (8 + (4 + (76 + 8)))))))) = _
  omega

end Layouts

/-! ## The layouts of later versions

    Each of them is an earlier one with fields behind it. -/

section OpenReceive

variable (shared : WireEncryptionInfo) (call party : UInt32) (parameters : OpenReceiveParameters)
  (wire : Option OpenReceiveChannelWire)

theorem hides_openReceiveV11 : Hides 36 shared fun info =>
    WireOpenReceiveV11.layout.write (openReceiveV11 call party parameters info wire) :=
  hides_openReceive shared (openReceiveV11 call party parameters shared wire)

theorem hides_openReceiveAddressed {Address : Type} [WireIpAddress Address] (remote : Address) :
    Hides 36 shared fun info => (WireOpenReceiveAddressed.layout Address).write
      (openReceiveAddressed call party parameters info wire remote) :=
  (hides_openReceiveV11 shared call party parameters wire).followed
    (Layout.u32.write (wire.elim 0 (·.mixingMode)) ++ (Layout.u32.write (wire.elim 1 (·.direction))
      ++ (WireIpAddress.layout.write remote ++ Layout.u32.write parameters.sourcePort.toUInt32)))

theorem hides_openReceiveV17 : Hides 36 shared fun info =>
    WireOpenReceiveV17.layout.write (openReceiveV17 call party parameters info wire) :=
  (hides_openReceiveAddressed shared call party parameters wire
    (WireExtendedAddress.fromIp parameters.sourceAddress)).followed (Layout.u32.write
      (wire.elim (addressTypeOf parameters.sourceAddress) (·.requestedAddressType)))

theorem hides_openReceiveV18 : Hides 36 shared fun info =>
    WireOpenReceiveV18.layout.write (openReceiveV18 call party parameters info wire) :=
  (hides_openReceiveV17 shared call party parameters wire).followed
    (Layout.u32.write (wire.elim 0 (·.audioLevelAdjustment)))

theorem hides_openReceiveV21 : Hides 36 shared fun info =>
    WireOpenReceiveV21.layout.write (openReceiveV21 call party parameters info wire) :=
  (hides_openReceiveV18 shared call party parameters wire).followed
    (WireLatentCapabilities.layout.write ⟨wire.elim (zeroBlock 36) (·.latentCapabilities)⟩)

end OpenReceive

section StartMedia

variable (shared : WireEncryptionInfo) (call party : UInt32) (parameters : StartMediaParameters)
  (wire : Option StartMediaTransmissionWire)

theorem hides_startMediaBase {Address : Type} [WireIpAddress Address] (remote : Address)
    {size : Nat} (hsize : addressSize Address = size) :
    Hides (size + 48) shared fun info => (WireStartMediaBase.layout Address).write
      (startMediaBase call party parameters info wire remote) :=
  hides_startMedia shared (startMediaBase call party parameters shared wire remote) hsize

theorem hides_startMediaDirected {Address : Type} [WireIpAddress Address] (remote : Address)
    {size : Nat} (hsize : addressSize Address = size) :
    Hides (size + 48) shared fun info => (WireStartMediaDirected.layout Address).write
      (startMediaDirected call party parameters info wire remote) :=
  (hides_startMediaBase shared call party parameters wire remote hsize).followed
    (Layout.u32.write (wire.elim 0 (·.mixingMode)) ++ Layout.u32.write (wire.elim 1 (·.direction)))

theorem hides_startMediaV21 : Hides 68 shared fun info =>
    WireStartMediaV21.layout.write (startMediaV21 call party parameters info wire) :=
  (hides_startMediaDirected shared call party parameters wire
    (WireExtendedAddress.fromIp parameters.endpoint.address)
    (by rfl : addressSize WireExtendedAddress = 20)).followed
    (WireLatentCapabilities.layout.write ⟨wire.elim (zeroBlock 36) (·.latentCapabilities)⟩)

end StartMedia

section OpenMultimedia

variable (shared : WireEncryptionInfo) (value : OpenMultimediaChannel)

theorem hides_openMultimediaCommon : Hides 116 shared fun info =>
    WireOpenMultimediaV11.layout.write (openMultimediaCommon value info) :=
  hides_openMultimedia shared (openMultimediaCommon value shared)

theorem hides_openMultimediaAddressed {Address : Type} [WireIpAddress Address]
    (sourceAddress : Address) : Hides 116 shared fun info =>
      (WireOpenMultimediaAddressed.layout Address).write
        (openMultimediaAddressed value info sourceAddress) :=
  (hides_openMultimediaCommon shared value).followed
    (WireIpAddress.layout.write sourceAddress ++ Layout.u32.write value.source.port.toUInt32)

theorem hides_openMultimediaV17 : Hides 116 shared fun info =>
    WireOpenMultimediaV17.layout.write
      { base := openMultimediaAddressed value info (.fromIp value.source.address)
        requestedAddressType := value.requestedAddressType.wireValue } :=
  (hides_openMultimediaAddressed shared value
    (WireExtendedAddress.fromIp value.source.address)).followed
    (Layout.u32.write value.requestedAddressType.wireValue)

end OpenMultimedia

theorem hides_startMultimediaFields (shared : WireEncryptionInfo)
    (value : StartMultimediaTransmission) {Address : Type} [WireIpAddress Address]
    (remoteAddress : Address) {size : Nat} (hsize : addressSize Address = size) :
    Hides (size + 116) shared fun info => (WireStartMultimedia.layout Address).write
      (startMultimediaFields value info remoteAddress) :=
  hides_startMultimedia shared (startMultimediaFields value shared remoteAddress) hsize

/-! ## Messages -/

namespace MediaMessage

def encryption : MediaMessage → Option MediaEncryption
  | openReceiveChannel _ _ _ encryption _ => encryption
  | startMediaTransmission _ _ _ encryption _ => encryption
  | openMultimediaChannel message => message.encryption
  | startMultimediaTransmission message => message.encryption

/-- The message with other keying material. -/
def withEncryption (encryption : Option MediaEncryption) : MediaMessage → MediaMessage
  | openReceiveChannel call party parameters _ wire =>
    openReceiveChannel call party parameters encryption wire
  | startMediaTransmission call party parameters _ wire =>
    startMediaTransmission call party parameters encryption wire
  | openMultimediaChannel message => openMultimediaChannel { message with encryption }
  | startMultimediaTransmission message => startMultimediaTransmission { message with encryption }

@[simp] theorem withEncryption_self (message : MediaMessage) :
    message.withEncryption message.encryption = message := by
  cases message <;> rfl

/-- The messages differ in the bytes of key and salt at most. -/
def SameButSecrets (left right : MediaMessage) : Prop :=
  right = left.withEncryption right.encryption
    ∧ (WireEncryptionInfo.fromPublic left.encryption).withoutSecrets
      = (WireEncryptionInfo.fromPublic right.encryption).withoutSecrets

/-- Key and salt as the message carries them. -/
def secrets (message : MediaMessage) : List UInt8 :=
  (WireEncryptionInfo.fromPublic message.encryption).secrets

theorem length_secrets (message : MediaMessage) : message.secrets.length = 32 := by
  let info := WireEncryptionInfo.fromPublic message.encryption
  change (info.key.val ++ info.salt.val).length = 32
  rw [List.length_append, info.key.property, info.salt.property]

/-- Where the key starts in the payload.  The address in front of it is wider from version 17
    on. -/
def secretsOffset (protocol : ProtocolVersion) : MediaMessage → Nat
  | openReceiveChannel .. => 36
  | startMediaTransmission .. => if 17 ≤ protocol.wire then 68 else 52
  | openMultimediaChannel _ => 116
  | startMultimediaTransmission _ => if 17 ≤ protocol.wire then 136 else 120

@[simp] theorem messageId_withEncryption (encryption : Option MediaEncryption)
    (message : MediaMessage) : (message.withEncryption encryption).messageId
      = message.messageId := by
  cases message <;> rfl

/-- The payload as a function of the encryption block, whichever layout is selected. -/
def Selects (message : MediaMessage) (protocol : ProtocolVersion)
    (payload : WireEncryptionInfo → List UInt8) : Prop :=
  ∀ encryption, (message.withEncryption encryption).payload protocol
    = .ok (payload (.fromPublic encryption))

section Payload

variable (shared : WireEncryptionInfo) {protocol : ProtocolVersion} {bytes : List UInt8}

theorem openReceive_selects {call party : UInt32} {parameters : OpenReceiveParameters}
    {encryption : Option MediaEncryption} {wire : Option OpenReceiveChannelWire}
    (h : encodeOpenReceive call party parameters encryption wire protocol = .ok bytes) :
    ∃ payload, Hides 36 shared payload
      ∧ (openReceiveChannel call party parameters encryption wire).Selects protocol payload := by
  unfold Selects
  simp only [withEncryption, MediaMessage.payload]
  unfold encodeOpenReceive at h ⊢
  dsimp only at h ⊢
  split at h
  next h21 =>
    simp only [if_pos h21]
    exact ⟨_, hides_openReceiveV21 shared call party parameters wire, fun _ => rfl⟩
  next h21 =>
  split at h
  next h18 =>
    simp only [if_neg h21, if_pos h18]
    exact ⟨_, hides_openReceiveV18 shared call party parameters wire, fun _ => rfl⟩
  next h18 =>
  split at h
  next h17 =>
    simp only [if_neg h21, if_neg h18, if_pos h17]
    exact ⟨_, hides_openReceiveV17 shared call party parameters wire, fun _ => rfl⟩
  next h17 =>
  -- Before version 17 an address of the other family is refused, whatever the keys are.
  simp only [if_neg h21, if_neg h18, if_neg h17]
  cases hremote : (WireIpAddress.fromIp parameters.sourceAddress
      MessageId.openReceiveChannel.wireValue "IP address family for pre-v17 protocol" :
      Checked WireIpv4Address) with
  | error e =>
    rw [hremote] at h
    cases h
  | ok remote =>
    by_cases h12 : 12 ≤ protocol.wire
    · simp only [if_pos h12]
      exact ⟨_, hides_openReceiveAddressed shared call party parameters wire remote, fun _ => rfl⟩
    · simp only [if_neg h12]
      exact ⟨_, hides_openReceiveV11 shared call party parameters wire, fun _ => rfl⟩

theorem startMedia_selects {call party : UInt32} {parameters : StartMediaParameters}
    {encryption : Option MediaEncryption} {wire : Option StartMediaTransmissionWire}
    (h : encodeStartMedia call party parameters encryption wire protocol = .ok bytes) :
    ∃ payload, Hides (if 17 ≤ protocol.wire then 68 else 52) shared payload
      ∧ (startMediaTransmission call party parameters encryption wire).Selects protocol
        payload := by
  unfold Selects
  simp only [withEncryption, MediaMessage.payload]
  unfold encodeStartMedia at h ⊢
  dsimp only at h ⊢
  split at h
  next h21 =>
    have h17 : 17 ≤ protocol.wire := by omega
    simp only [if_pos h21, if_pos h17]
    exact ⟨_, hides_startMediaV21 shared call party parameters wire, fun _ => rfl⟩
  next h21 =>
  split at h
  next h17 =>
    simp only [if_neg h21, if_pos h17]
    exact ⟨_, hides_startMediaDirected shared call party parameters wire
      (WireExtendedAddress.fromIp parameters.endpoint.address)
    (by rfl : addressSize WireExtendedAddress = 20), fun _ => rfl⟩
  next h17 =>
  simp only [if_neg h21, if_neg h17]
  cases hremote : (WireIpAddress.fromIp parameters.endpoint.address
      MessageId.startMediaTransmission.wireValue "IP address family for pre-v17 protocol" :
      Checked WireIpv4Address) with
  | error e =>
    rw [hremote] at h
    cases h
  | ok remote =>
    by_cases h12 : 12 ≤ protocol.wire
    · simp only [if_pos h12]
      exact ⟨_, hides_startMediaDirected shared call party parameters wire remote
        (by rfl : addressSize WireIpv4Address = 4), fun _ => rfl⟩
    · simp only [if_neg h12]
      exact ⟨_, hides_startMediaBase shared call party parameters wire remote
        (by rfl : addressSize WireIpv4Address = 4), fun _ => rfl⟩

theorem openMultimedia_selects {value : OpenMultimediaChannel}
    (h : encodeOpenMultimedia value protocol = .ok bytes) : ∃ payload, Hides 116 shared payload
      ∧ (openMultimediaChannel value).Selects protocol payload := by
  unfold Selects
  simp only [withEncryption, MediaMessage.payload]
  unfold encodeOpenMultimedia at h ⊢
  dsimp only at h ⊢
  cases hvalid : validateMultimediaPayload value.payload .receive protocol
      MessageId.openMultimediaChannel.wireValue with
  | error e =>
    rw [hvalid] at h
    cases h
  | ok _ =>
  rw [hvalid] at h
  dsimp only [bind, Except.bind] at h ⊢
  by_cases h17 : 17 ≤ protocol.wire
  · simp only [if_pos h17]
    exact ⟨_, hides_openMultimediaV17 shared value, fun _ => rfl⟩
  rw [if_neg h17] at h
  simp only [if_neg h17]
  by_cases h12 : 12 ≤ protocol.wire
  · rw [if_pos h12] at h
    simp only [if_pos h12]
    cases hsource : (WireIpAddress.fromIp value.source.address
        MessageId.openMultimediaChannel.wireValue
        "IP address family for this protocol version" : Checked WireIpv4Address) with
    | error e =>
      rw [hsource] at h
      cases h
    | ok source =>
      exact ⟨_, hides_openMultimediaAddressed shared value source, fun _ => rfl⟩
  · simp only [if_neg h12]
    exact ⟨_, hides_openMultimediaCommon shared value, fun _ => rfl⟩

theorem startMultimedia_selects {value : StartMultimediaTransmission}
    (h : encodeStartMultimedia value protocol = .ok bytes) :
    ∃ payload, Hides (if 17 ≤ protocol.wire then 136 else 120) shared payload
      ∧ (startMultimediaTransmission value).Selects protocol payload := by
  unfold Selects
  simp only [withEncryption, MediaMessage.payload]
  unfold encodeStartMultimedia startMultimediaToWire at h ⊢
  dsimp only at h ⊢
  cases hvalid : validateMultimediaPayload value.payload .transmit protocol
      MessageId.startMultimediaTransmission.wireValue with
  | error e =>
    rw [hvalid] at h
    cases h
  | ok _ =>
  rw [hvalid] at h
  dsimp only [bind, Except.bind] at h ⊢
  by_cases h17 : 17 ≤ protocol.wire
  · simp only [if_pos h17]
    exact ⟨_, hides_startMultimediaFields shared value
      (WireExtendedAddress.fromIp value.endpoint.address)
      (by rfl : addressSize WireExtendedAddress = 20), fun _ => rfl⟩
  rw [if_neg h17] at h
  simp only [if_neg h17]
  cases hremote : (WireIpAddress.fromIp value.endpoint.address
      MessageId.startMultimediaTransmission.wireValue
      "IP address family for this protocol version" : Checked WireIpv4Address) with
  | error e =>
    rw [hremote] at h
    cases h
  | ok remote =>
    exact ⟨_, hides_startMultimediaFields shared value remote
      (by rfl : addressSize WireIpv4Address = 4), fun _ => rfl⟩

/-- Wherever a message can be encoded, its keys and salts stand at the offset and nothing
    else depends on them. -/
theorem payload_selects {message : MediaMessage} (h : message.payload protocol = .ok bytes) :
    ∃ payload, Hides (message.secretsOffset protocol) shared payload
      ∧ message.Selects protocol payload := by
  cases message with
  | openReceiveChannel call party parameters encryption wire => exact openReceive_selects shared h
  | startMediaTransmission call party parameters encryption wire =>
      exact startMedia_selects shared h
  | openMultimediaChannel value => exact openMultimedia_selects shared h
  | startMultimediaTransmission value => exact startMultimedia_selects shared h

end Payload

end MediaMessage

end Sccp.Message
