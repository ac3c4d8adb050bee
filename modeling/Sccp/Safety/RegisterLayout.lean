/-
  Sccp.Safety.RegisterLayout

  Registration keeps its layout.

  The prefix of a payload says which fields there are; the decoder reads the prefix as
  if zeros followed it.  So the record that the encoder makes of the registration
  agrees with the record that was read in every field but the two texts, and its
  bytes after the prefix are zero again.
-/

import Sccp.Message.Client

namespace Sccp.Message

open Sccp

/-! ## Device names -/

/-- A character of ASCII letters and digits only is one of them. -/
theorem isAsciiAlphanumeric_char {c : Char}
    (h : ∀ b ∈ String.utf8EncodeChar c, isAsciiAlphanumeric b = true) :
    (0x30 ≤ c.toNat ∧ c.toNat ≤ 0x39) ∨ (0x41 ≤ c.toNat ∧ c.toNat ≤ 0x5a) ∨
      (0x61 ≤ c.toNat ∧ c.toNat ≤ 0x7a) := by
  -- the first byte of a longer character is 0xc0 or more
  have hfirst : ∀ {n : Nat} {rest : List UInt8}, n < 256 →
      String.utf8EncodeChar c = UInt8.ofNat n :: rest →
      (0x30 ≤ n ∧ n ≤ 0x39) ∨ (0x41 ≤ n ∧ n ≤ 0x5a) ∨ (0x61 ≤ n ∧ n ≤ 0x7a) := by
    intro n rest hn heq
    have hb := h (UInt8.ofNat n) (by rw [heq]; exact List.mem_cons_self)
    simp only [isAsciiAlphanumeric, Bool.or_eq_true, Bool.and_eq_true, decide_eq_true_eq,
      UInt8.le_iff_toNat_le, UInt8.toNat_ofNat_of_lt' hn] at hb
    simpa [or_assoc] using hb
  have hencode : ∃ n rest, n < 256 ∧ String.utf8EncodeChar c = UInt8.ofNat n :: rest ∧
      (n = c.toNat ∨ 0xc0 ≤ n) := by
    unfold String.utf8EncodeChar
    dsimp only
    split
    · exact ⟨_, _, by omega, rfl, .inl rfl⟩
    split
    · exact ⟨_, _, by omega, rfl, .inr (by omega)⟩
    split
    · exact ⟨_, _, by omega, rfl, .inr (by omega)⟩
    · exact ⟨_, _, by omega, rfl, .inr (by omega)⟩
  obtain ⟨n, rest, hn, heq, hcase⟩ := hencode
  have := hfirst hn heq
  rcases hcase with rfl | hbig
  · exact this
  · omega

theorem toAsciiUppercase_idem (c : Char) :
    toAsciiUppercase (toAsciiUppercase c) = toAsciiUppercase c := by
  by_cases h : 0x61 ≤ c.toNat ∧ c.toNat ≤ 0x7a
  · have hupper : toAsciiUppercase c = Char.ofNat (c.toNat - 0x20) := if_pos h
    have hvalid : (c.toNat - 0x20).isValidChar := .inl (by omega)
    have hnat : (Char.ofNat (c.toNat - 0x20)).toNat = c.toNat - 0x20 := by
      rw [Char.ofNat, dif_pos hvalid]
      rfl
    rw [hupper]
    refine if_neg ?_
    rw [hnat]
    omega
  · have hsame : toAsciiUppercase c = c := if_neg h
    rw [hsame, hsame]

theorem trim_of_not_isWhiteSpace {text : String}
    (h : text.toList.any isWhiteSpace = false) : trim text = text := by
  rw [List.any_eq_false] at h
  apply String.toList_inj.mp
  have hdrop : text.toList.dropWhile isWhiteSpace = text.toList := by
    rw [List.dropWhile_eq_self_iff]
    intro hpos
    exact h _ (List.getElem_mem hpos)
  rw [toList_trim, hdrop, List.rdropWhile_eq_self_iff]
  intro hne
  exact h _ (List.getLast_mem hne)

/-- A name that was accepted is accepted again as it is. -/
theorem DeviceId.new_ok {value : String} {deviceId : DeviceId}
    (h : DeviceId.new value = .ok deviceId) :
    (utf8 deviceId.text).length ≤ 15 ∧ NulFree deviceId.text ∧ trim deviceId.text = deviceId.text ∧
      DeviceId.new deviceId.text = .ok deviceId := by
  unfold DeviceId.new at h
  dsimp only at h
  split at h
  · cases h
  next hcond =>
  obtain rfl := Except.ok.inj h
  generalize hname : String.ofList ((trim value).toList.map toAsciiUppercase) = name at hcond
  simp only [not_or, not_not] at hcond
  obtain ⟨hne, hlength, halphanumeric⟩ := hcond
  have hchar : ∀ c ∈ name.toList, (0x30 ≤ c.toNat ∧ c.toNat ≤ 0x39) ∨
      (0x41 ≤ c.toNat ∧ c.toNat ≤ 0x5a) ∨ (0x61 ≤ c.toNat ∧ c.toNat ≤ 0x7a) := by
    intro c hc
    refine isAsciiAlphanumeric_char fun b hb => ?_
    exact List.all_eq_true.mp halphanumeric b (List.mem_flatMap.mpr ⟨c, hc, hb⟩)
  have hwhite : name.toList.any isWhiteSpace = false := by
    rw [List.any_eq_false]
    intro c hc
    have := hchar c hc
    rw [Bool.not_eq_true]
    simp only [isWhiteSpace, Bool.or_eq_false_iff, Bool.and_eq_false_iff, decide_eq_false_iff_not]
    omega
  have htrim := trim_of_not_isWhiteSpace hwhite
  have hupper : String.ofList (name.toList.map toAsciiUppercase) = name := by
    rw [← hname, String.toList_ofList, List.map_map]
    congr 2
    funext c
    exact toAsciiUppercase_idem c
  refine ⟨Nat.le_of_not_lt hlength, fun hnul => ?_, htrim, ?_⟩
  · have := hchar _ hnul
    exact absurd this (by decide)
  unfold DeviceId.new
  dsimp only
  rw [htrim, hupper, if_neg]
  simp only [not_or, not_not]
  exact ⟨hne, hlength, halphanumeric⟩

/-! ## The selected prefix -/

section Prefix

/-- The layout of a payload and the number of bytes of its prefix. -/
structure Selects (payloadBytes : Nat) (layout : RegistrationWireLayout) (prefixBytes : Nat) :
    Prop where
  minimum : 32 ≤ payloadBytes
  maximum : payloadBytes ≤ 172
  prefixBytes_eq : prefixBytes = min payloadBytes 124
  layout_eq : (prefixBytes = 32 ∧ layout = .alternate32) ∨
    (validRegistrationCanonicalPrefix prefixBytes = true ∧
      layout = .canonical (UInt8.ofNat prefixBytes))

variable {payloadBytes prefixBytes : Nat} {layout : RegistrationWireLayout} {messageId : UInt32}

theorem validRegistrationCanonicalPrefix_le {bytes : Nat}
    (h : validRegistrationCanonicalPrefix bytes = true) : bytes ≤ 124 := by
  unfold validRegistrationCanonicalPrefix at h
  simp only [List.contains_iff_mem, List.mem_cons, List.not_mem_nil, or_false] at h
  omega

theorem validRegistrationCanonicalPrefix_iff {bytes : Nat} :
    validRegistrationCanonicalPrefix bytes = true ↔
      bytes = 36 ∨ bytes = 40 ∨ bytes = 44 ∨ bytes = 48 ∨ bytes = 52 ∨ bytes = 64 ∨ bytes = 68 ∨
        bytes = 72 ∨ bytes = 88 ∨ bytes = 92 ∨ bytes = 124 := by
  unfold validRegistrationCanonicalPrefix
  simp only [List.contains_iff_mem, List.mem_cons, List.not_mem_nil, or_false]

theorem registrationPrefixBytes_canonical
    (h : validRegistrationCanonicalPrefix prefixBytes = true) :
    registrationPrefixBytes (.canonical (UInt8.ofNat prefixBytes)) = .ok prefixBytes := by
  have hlt : prefixBytes < 2 ^ 8 := (validRegistrationCanonicalPrefix_le h).trans_lt (by decide)
  unfold registrationPrefixBytes
  dsimp only
  rw [UInt8.toNat_ofNat_of_lt' hlt, if_pos h]

theorem selects_iff :
    registrationLayout messageId payloadBytes = .ok layout ∧
      registrationPrefixBytes layout = .ok prefixBytes ↔
        Selects payloadBytes layout prefixBytes := by
  unfold registrationLayout REGISTER_ALTERNATE_BYTES REGISTER_MAXIMUM_BYTES
    REGISTER_CANONICAL_BYTES
  constructor
  · rintro ⟨hlayout, hbytes⟩
    split at hlayout
    · cases hlayout
    next hminimum =>
    split at hlayout
    · cases hlayout
    next hmaximum =>
    split at hlayout
    · next halternate =>
      cases hlayout
      cases hbytes
      unfold REGISTER_ALTERNATE_BYTES
      exact ⟨by omega, by omega, by omega, .inl ⟨rfl, rfl⟩⟩
    dsimp only at hlayout
    split at hlayout
    · cases hlayout
    next hvalid =>
    have hvalid := not_not.mp hvalid
    split at hlayout
    · cases hlayout
      rw [registrationPrefixBytes_canonical hvalid] at hbytes
      cases hbytes
      exact ⟨by omega, by omega, rfl, .inr ⟨hvalid, rfl⟩⟩
    · cases hlayout
  · rintro ⟨hminimum, hmaximum, rfl, hlayout⟩
    rw [if_neg (by omega), if_neg (by omega)]
    rcases hlayout with ⟨halternate, rfl⟩ | ⟨hvalid, rfl⟩
    · rw [if_pos (by omega)]
      refine ⟨rfl, ?_⟩
      rw [halternate]
      rfl
    have hcases := validRegistrationCanonicalPrefix_iff.mp hvalid
    rw [if_neg (by omega)]
    dsimp only
    rw [if_neg (not_not.mpr hvalid), if_pos (by omega)]
    exact ⟨rfl, registrationPrefixBytes_canonical hvalid⟩

theorem Selects.prefix_cases (h : Selects payloadBytes layout prefixBytes) :
    prefixBytes = 32 ∨ prefixBytes = 36 ∨ prefixBytes = 40 ∨ prefixBytes = 44 ∨
      prefixBytes = 48 ∨ prefixBytes = 52 ∨ prefixBytes = 64 ∨ prefixBytes = 68 ∨
        prefixBytes = 72 ∨ prefixBytes = 88 ∨ prefixBytes = 92 ∨ prefixBytes = 124 := by
  rcases h.layout_eq with ⟨halternate, -⟩ | ⟨hvalid, -⟩
  · exact .inl halternate
  · exact .inr (validRegistrationCanonicalPrefix_iff.mp hvalid)

theorem Selects.alternate_iff (h : Selects payloadBytes layout prefixBytes) :
    layout = .alternate32 ↔ prefixBytes = 32 := by
  rcases h.layout_eq with ⟨halternate, rfl⟩ | ⟨hvalid, rfl⟩
  · exact iff_of_true rfl halternate
  · have := validRegistrationCanonicalPrefix_iff.mp hvalid
    exact iff_of_false nofun (by omega)

/-! ## Fields after the prefix -/

/-- Every field that the prefix leaves out is zero. -/
structure ZeroAfter (value : WireRegister) (prefixBytes : Nat) : Prop where
  maxStreams : prefixBytes < 36 → value.maxStreams = 0
  activeStreams : prefixBytes < 40 → value.activeStreams = 0
  protocolFeatures : prefixBytes < 44 → value.protocolFeatures = zeroBlock 4
  maxConferences : prefixBytes < 48 → value.maxConferences = 0
  activeConferences : prefixBytes < 52 → value.activeConferences = 0
  macAddress : prefixBytes < 64 → value.macAddress = zeroBlock 12
  ipv4AddressScope : prefixBytes < 68 → value.ipv4AddressScope = 0
  maxLines : prefixBytes < 72 → value.maxLines = 0
  ipv6Address : prefixBytes < 88 → value.ipv6Address = zeroBlock 16
  ipv6AddressScope : prefixBytes < 92 → value.ipv6AddressScope = 0
  firmware : prefixBytes < 124 → value.firmware = zeroBlock 32

theorem read_register (bytes : List UInt8) :
    WireRegister.layout.read bytes = {
      deviceId := Layout.blockOf 16 bytes
      stationUserId := Layout.u32.read (bytes.drop 16)
      stationInstance := Layout.u32.read (bytes.drop 20)
      reportedAddress := Layout.blockOf 4 (bytes.drop 24)
      deviceType := Layout.u32.read (bytes.drop 28)
      maxStreams := Layout.u32.read (bytes.drop 32)
      activeStreams := Layout.u32.read (bytes.drop 36)
      protocolFeatures := Layout.blockOf 4 (bytes.drop 40)
      maxConferences := Layout.u32.read (bytes.drop 44)
      activeConferences := Layout.u32.read (bytes.drop 48)
      macAddress := Layout.blockOf 12 (bytes.drop 52)
      ipv4AddressScope := Layout.u32.read (bytes.drop 64)
      maxLines := Layout.u32.read (bytes.drop 68)
      ipv6Address := Layout.blockOf 16 (bytes.drop 72)
      ipv6AddressScope := Layout.u32.read (bytes.drop 88)
      firmware := Layout.blockOf 32 (bytes.drop 92) } := by
  simp only [WireRegister.layout, Layout.iso, Layout.pair, Layout.block, Layout.u32,
    Layout.leWord, List.drop_drop]

theorem leNat_zeros (count : Nat) : leNat (List.replicate count 0) = 0 := by
  induction count with
  | zero => rfl
  | succ count ih =>
    rw [List.replicate_succ, leNat, ih]
    rfl

theorem u32_read_zeros (count : Nat) : Layout.u32.read (List.replicate count 0) = 0 := by
  change UInt32.ofNat (leNat ((List.replicate count 0).take 4)) = 0
  rw [List.take_replicate, leNat_zeros]
  rfl

theorem blockOf_zeros (n count : Nat) :
    Layout.blockOf n (List.replicate count 0) = zeroBlock n := by
  apply Subtype.ext
  simp [Layout.blockOf, zeroBlock, List.replicate_append_replicate, List.take_replicate]

/-- A record of a prefix and zeros has zero fields after the prefix. -/
theorem zeroAfter_of_write {head : List UInt8} {value : WireRegister} {count : Nat}
    (hselects : Selects payloadBytes layout prefixBytes) (hlength : head.length = prefixBytes)
    (h : WireRegister.layout.write value = head ++ List.replicate count 0) :
    ZeroAfter value prefixBytes := by
  have hvalue := WireRegister.layout.read_write_self value
  rw [read_register, h] at hvalue
  have hzeros : ∀ offset, prefixBytes ≤ offset →
      ∃ count', (head ++ List.replicate count 0).drop offset = List.replicate count' 0 := by
    intro offset hle
    rw [List.drop_append, List.drop_eq_nil_of_le (by omega), List.nil_append,
      List.drop_replicate]
    exact ⟨_, rfl⟩
  have hword : ∀ offset, prefixBytes ≤ offset →
      Layout.u32.read ((head ++ List.replicate count 0).drop offset) = 0 := by
    intro offset hle
    obtain ⟨count', heq⟩ := hzeros offset hle
    rw [heq, u32_read_zeros]
  have hblock : ∀ n offset, prefixBytes ≤ offset →
      Layout.blockOf n ((head ++ List.replicate count 0).drop offset) = zeroBlock n := by
    intro n offset hle
    obtain ⟨count', heq⟩ := hzeros offset hle
    rw [heq, blockOf_zeros]
  have hcases := hselects.prefix_cases
  rw [← hvalue]
  exact {
    maxStreams := fun _ => hword 32 (by omega)
    activeStreams := fun _ => hword 36 (by omega)
    protocolFeatures := fun _ => hblock 4 40 (by omega)
    maxConferences := fun _ => hword 44 (by omega)
    activeConferences := fun _ => hword 48 (by omega)
    macAddress := fun _ => hblock 12 52 (by omega)
    ipv4AddressScope := fun _ => hword 64 (by omega)
    maxLines := fun _ => hword 68 (by omega)
    ipv6Address := fun _ => hblock 16 72 (by omega)
    ipv6AddressScope := fun _ => hword 88 (by omega)
    firmware := fun _ => hblock 32 92 (by omega) }

/-! ## What the decoder makes of a record -/

/-- The registration that a record stands for. -/
def registrationOf (layout : RegistrationWireLayout) (prefixBytes : Nat) (value : WireRegister)
    (deviceId : DeviceId) (firmware : String) (stamp : BoundedBytes 48) : RegistrationMessage :=
  let alternate : Bool := layout = .alternate32
  let version := value.protocolFeatures.val.headD 0
  { deviceId
    reportedAddress :=
      if alternate ∨ value.reportedAddress.val.all (· = 0) then none
      else some value.reportedAddress
    reportedIpv6Address :=
      if ¬ alternate ∧ 88 ≤ prefixBytes ∧ value.ipv6Address.val.any (· ≠ 0) then
        some value.ipv6Address
      else none
    deviceType := .ofWire value.deviceType
    advertisedProtocol :=
      if alternate then nonZeroProtocol (value.reportedAddress.val.headD 0)
      else if 44 ≤ prefixBytes then
        if version ≠ 0 ∨ ¬ (prefixBytes = 44 ∨ prefixBytes = 48) then some version.toUInt32
        else none
      else none
    features :=
      if ¬ alternate ∧ 44 ≤ prefixBytes then
        Layout.u32.read value.protocolFeatures.val &&& featureMask
      else 0
    firmware
    configurationVersionStamp := stamp
    wire := some {
      layout, stationUserId := value.stationUserId,
      stationInstance := value.stationInstance, maxStreams := value.maxStreams,
      activeStreams := value.activeStreams, macAddressAndPadding := value.macAddress,
      maxConferences := value.maxConferences, activeConferences := value.activeConferences,
      ipv4AddressScope := value.ipv4AddressScope, maxLines := value.maxLines,
      ipv6AddressScope := value.ipv6AddressScope } }

/-- A payload, the record that its prefix and zeros make up, and what is read from it. -/
structure Reads (p : List UInt8) (layout : RegistrationWireLayout) (prefixBytes : Nat)
    (value : WireRegister) (deviceId : DeviceId) (firmware : String) (stamp : BoundedBytes 48) :
    Prop where
  selects : Selects p.length layout prefixBytes
  record : WireRegister.layout.write value
    = p.take prefixBytes ++ List.replicate (124 - prefixBytes) 0
  protocol : layout = .alternate32 → ∀ b ∈ value.reportedAddress.val.drop 1, b = 0
  device : ∃ name, value.deviceId.text = .ok name ∧ DeviceId.new name = .ok deviceId
  firmwareText : if prefixBytes = 124 then value.firmware.text = .ok firmware else firmware = ""
  stamp : stamp.bytes = p.drop (min 124 p.length)

theorem decodeRegister_ok {p : List UInt8} {registration : RegistrationMessage} :
    decodeRegister p messageId = .ok registration ↔
      ∃ layout prefixBytes value deviceId firmware stamp,
        Reads p layout prefixBytes value deviceId firmware stamp ∧
          registration = registrationOf layout prefixBytes value deviceId firmware stamp := by
  constructor
  · intro h
    obtain ⟨layout, hlayout, h⟩ := Checked.bind_ok.mp h
    obtain ⟨prefixBytes, hfront, h⟩ := Checked.bind_ok.mp h
    have hselects := selects_iff.mp ⟨hlayout, hfront⟩
    have hle : prefixBytes ≤ p.length := by
      rw [hselects.prefixBytes_eq]
      exact Nat.min_le_left ..
    have hle' : prefixBytes ≤ 124 := by
      rw [hselects.prefixBytes_eq]
      exact Nat.min_le_right ..
    rw [slice_ok (Nat.zero_le _) hle, REGISTER_CANONICAL_BYTES, usizeSub_ok hle',
      sliceFrom_ok (Nat.min_le_right ..)] at h
    obtain ⟨head, hhead, h⟩ := Checked.bind_ok.mp h
    obtain ⟨padding, hpadding, h⟩ := Checked.bind_ok.mp h
    obtain rfl := Except.ok.inj hhead
    obtain rfl := Except.ok.inj hpadding
    obtain ⟨value, hvalue, h⟩ := Checked.bind_ok.mp h
    have hrecord := ((decode_ok _ _ _).mp hvalue).symm
    dsimp only at h
    split at h
    · cases h
    next hprotocol =>
    obtain ⟨name, hname, h⟩ := Checked.bind_ok.mp h
    obtain ⟨deviceId, hdevice, h⟩ := Checked.bind_ok.mp h
    obtain ⟨firmware, hfirmware, h⟩ := Checked.bind_ok.mp h
    obtain ⟨suffix, hsuffix, h⟩ := Checked.bind_ok.mp h
    obtain rfl := Except.ok.inj hsuffix
    obtain ⟨stamp, hstamp, h⟩ := Checked.bind_ok.mp h
    refine ⟨layout, prefixBytes, value, deviceId, firmware, stamp, ?_, (Except.ok.inj h).symm⟩
    refine ⟨hselects, hrecord, fun halternate b hb => ?_, ⟨name, hname, hdevice⟩, ?_, ?_⟩
    · by_contra hne
      refine hprotocol ⟨decide_eq_true halternate, ?_⟩
      exact List.any_eq_true.mpr ⟨b, hb, decide_eq_true hne⟩
    · have halternate := hselects.alternate_iff
      by_cases hfull : prefixBytes = 124
      · rw [if_pos hfull]
        rwa [if_pos ⟨by rw [decide_eq_true_eq, halternate]; omega, by omega⟩] at hfirmware
      · rw [if_neg hfull]
        rw [if_neg fun hand => hfull (by omega)] at hfirmware
        exact (Except.ok.inj hfirmware).symm
    · unfold BoundedBytes.new at hstamp
      split at hstamp
      · rw [← Except.ok.inj hstamp]
      · cases hstamp
  · rintro ⟨layout, prefixBytes, value, deviceId, firmware, stamp, hreads, rfl⟩
    obtain ⟨hselects, hrecord, hprotocol, ⟨name, hname, hdevice⟩, hfirmware, hstamp⟩ := hreads
    obtain ⟨hlayout, hfront⟩ : registrationLayout messageId p.length = _ ∧ _ :=
      selects_iff.mpr hselects
    have hle : prefixBytes ≤ p.length := by
      rw [hselects.prefixBytes_eq]
      exact Nat.min_le_left ..
    have hle' : prefixBytes ≤ 124 := by
      rw [hselects.prefixBytes_eq]
      exact Nat.min_le_right ..
    refine Checked.bind_ok.mpr ⟨layout, hlayout, Checked.bind_ok.mpr ⟨prefixBytes, hfront, ?_⟩⟩
    rw [slice_ok (Nat.zero_le _) hle, REGISTER_CANONICAL_BYTES, usizeSub_ok hle',
      sliceFrom_ok (Nat.min_le_right ..)]
    refine Checked.bind_ok.mpr ⟨_, rfl, Checked.bind_ok.mpr ⟨_, rfl, ?_⟩⟩
    refine Checked.bind_ok.mpr ⟨value, (decode_ok _ _ _).mpr hrecord.symm, ?_⟩
    dsimp only
    rw [if_neg]
    · refine Checked.bind_ok.mpr ⟨name, hname, Checked.bind_ok.mpr ⟨deviceId, hdevice, ?_⟩⟩
      refine Checked.bind_ok.mpr ⟨firmware, ?_, Checked.bind_ok.mpr ⟨_, rfl, ?_⟩⟩
      · have halternate := hselects.alternate_iff
        by_cases hfull : prefixBytes = 124
        · have hcond : ¬ decide (layout = .alternate32) = true ∧ 124 ≤ prefixBytes := by
            rw [decide_eq_true_eq, halternate]
            omega
          rw [if_pos hfull] at hfirmware
          exact (if_pos hcond).trans hfirmware
        have hcond : ¬ (¬ decide (layout = .alternate32) = true ∧ 124 ≤ prefixBytes) :=
          fun hand => hfull (by omega)
        rw [if_neg hfull] at hfirmware
        rw [hfirmware]
        exact if_neg hcond
      · refine Checked.bind_ok.mpr ⟨stamp, ?_, rfl⟩
        rw [← hstamp]
        exact dif_pos stamp.bounded
    · rintro ⟨halternate, hany⟩
      obtain ⟨b, hb, hne⟩ := List.any_eq_true.mp hany
      exact of_decide_eq_true hne (hprotocol (of_decide_eq_true halternate) b hb)

/-! ## What the encoder makes of a registration -/

theorem protocolByte_some (byte : UInt8) : protocolByte (some byte.toUInt32) = byte := by
  unfold protocolByte
  have hlt := byte.toNat_lt
  rw [Option.getD_some, UInt8.toNat_toUInt32, Nat.min_eq_left (by omega), UInt8.ofNat_toNat]

theorem protocolByte_nonZeroProtocol (byte : UInt8) :
    protocolByte (nonZeroProtocol byte) = byte := by
  unfold nonZeroProtocol
  split
  · exact protocolByte_some byte
  next hzero =>
  have hbyte : byte = 0 := by
    apply UInt8.toNat.inj
    have := congrArg UInt32.toNat (not_not.mp hzero)
    rwa [UInt8.toNat_toUInt32] at this
  rw [hbyte]
  rfl

/-- The feature bits and the protocol number make up the word again. -/
theorem withFirstByte_features (word : Block 4) :
    withFirstByte (word.val.headD 0) (Layout.u32.read word.val &&& featureMask) = word := by
  obtain ⟨bytes, hbytes⟩ := word
  match bytes, hbytes with
  | [b, c, d, e], hbytes =>
    apply Subtype.ext
    have htail : leNat [c, d, e] < 256 ^ 3 := leNat_lt [c, d, e]
    have hbyte := b.toNat_lt
    have hread : (Layout.u32.read [b, c, d, e]).toNat = b.toNat + 256 * leNat [c, d, e] := by
      change (UInt32.ofNat (b.toNat + 256 * leNat [c, d, e])).toNat = _
      exact UInt32.toNat_ofNat_of_lt' (by unfold UInt32.size; omega)
    have hhigh : (Layout.u32.read [b, c, d, e] &&& featureMask).toNat / 256
        = leNat [c, d, e] := by
      have hmask : featureMask.toNat = 0xffffff00 := rfl
      rw [UInt32.toNat_and, hread, hmask, ← Nat.shiftRight_eq_div_pow _ 8,
        Nat.shiftRight_and_distrib, show (0xffffff00 : Nat) >>> 8 = 2 ^ 24 - 1 from rfl,
        Nat.and_two_pow_sub_one_eq_mod, Nat.shiftRight_eq_div_pow]
      omega
    change b :: leBytes 3 ((Layout.u32.read [b, c, d, e] &&& featureMask).toNat / 256) = _
    rw [hhigh, show leBytes 3 (leNat [c, d, e]) = [c, d, e] from leBytes_leNat [c, d, e]]

theorem withFirstByte_zero {word : Block 4} (h : ∀ b ∈ word.val.drop 1, b = 0) :
    withFirstByte (word.val.headD 0) 0 = word := by
  obtain ⟨bytes, hbytes⟩ := word
  match bytes, hbytes with
  | [b, c, d, e], hbytes =>
    apply Subtype.ext
    have hzero : [c, d, e] = [0, 0, 0] := by
      simp only [List.drop_succ_cons, List.drop_zero, List.mem_cons, List.not_mem_nil, or_false,
        forall_eq_or_imp, forall_eq] at h
      rw [h.1, h.2.1, h.2.2]
    change b :: [0, 0, 0] = b :: [c, d, e]
    rw [hzero]

theorem eq_zeroBlock {n : Nat} {block : Block n} (h : ∀ b ∈ block.val, b = 0) :
    block = zeroBlock n :=
  Subtype.ext (List.eq_replicate_iff.mpr ⟨block.property, h⟩)

theorem any_zeroBlock (n : Nat) : (zeroBlock n).val.any (· ≠ 0) = false :=
  List.any_eq_false.mpr fun b hb => by
    rw [List.eq_of_mem_replicate hb]
    decide

variable {p : List UInt8} {value : WireRegister} {deviceId : DeviceId} {firmware : String}
  {stamp : BoundedBytes 48}

theorem Reads.prefixBytes_le (h : Reads p layout prefixBytes value deviceId firmware stamp) :
    prefixBytes ≤ p.length ∧ prefixBytes ≤ 124 := by
  rw [h.selects.prefixBytes_eq]
  exact ⟨Nat.min_le_left .., Nat.min_le_right ..⟩

theorem Reads.zeroAfter (h : Reads p layout prefixBytes value deviceId firmware stamp) :
    ZeroAfter value prefixBytes :=
  zeroAfter_of_write h.selects (List.length_take_of_le h.prefixBytes_le.1) h.record

theorem Reads.stamp_empty (h : Reads p layout prefixBytes value deviceId firmware stamp)
    (hshort : prefixBytes < 124) : stamp.bytes = [] := by
  have := h.selects.prefixBytes_eq
  rw [h.stamp]
  exact List.drop_eq_nil_of_le (by omega)

/-- A registration that was read has no value that its prefix leaves out. -/
theorem Reads.incompatibleField_eq_none
    (h : Reads p layout prefixBytes value deviceId firmware stamp) {wire : RegistrationWireDetails}
    (hwire : (registrationOf layout prefixBytes value deviceId firmware stamp).wire = some wire) :
    incompatibleField (registrationOf layout prefixBytes value deviceId firmware stamp) wire
      prefixBytes = none := by
  have hzero := h.zeroAfter
  have halternate := h.selects.alternate_iff
  obtain rfl := Option.some.inj hwire
  unfold incompatibleField
  rw [Option.map_eq_none_iff, List.find?_eq_none]
  simp only [List.forall_mem_cons, List.not_mem_nil, false_imp_iff, implies_true, and_true,
    Bool.and_eq_true, Bool.or_eq_true, decide_eq_true_eq, halternate, not_and, not_not,
    registrationOf]
  refine ⟨fun h32 => ?_, fun h32 => ?_, fun _ => hzero.maxStreams (by omega),
    fun _ => hzero.activeStreams (by omega), fun _ => hzero.maxConferences (by omega),
    fun _ => hzero.activeConferences (by omega), fun _ => ?_,
    fun _ => hzero.ipv4AddressScope (by omega), fun _ => hzero.maxLines (by omega),
    fun _ => ?_, fun _ => hzero.ipv6AddressScope (by omega), fun _ => ?_, fun _ => ?_⟩
  · rw [if_pos (.inl h32)]
    exact Bool.false_ne_true
  · exact if_neg fun hand => hand.1 h32
  · rw [hzero.macAddress (by omega), any_zeroBlock]
    exact Bool.false_ne_true
  · rw [if_neg fun hand => by omega]
    exact Bool.false_ne_true
  · have hfirmware := h.firmwareText
    rwa [if_neg (by omega)] at hfirmware
  · rw [h.stamp_empty (by omega)]
    rfl

/-- The fields that the encoder makes again are those of the record. -/
theorem Reads.fields_eq (h : Reads p layout prefixBytes value deviceId firmware stamp) :
    let registration := registrationOf layout prefixBytes value deviceId firmware stamp
    let protocol := protocolByte registration.advertisedProtocol
    let alternate : Bool := layout = .alternate32
    (if alternate then withFirstByte protocol 0
      else registration.reportedAddress.getD (zeroBlock 4)) = value.reportedAddress ∧
    (if alternate then zeroBlock 4 else withFirstByte protocol registration.features)
      = value.protocolFeatures ∧
    registration.reportedIpv6Address.getD (zeroBlock 16) = value.ipv6Address := by
  have hzero := h.zeroAfter
  have halternate := h.selects.alternate_iff
  have hcases := h.selects.prefix_cases
  have haddress : ∀ {n : Nat} {block : Block n}, block.val.all (· = 0) = true →
      block = zeroBlock n := by
    intro n block hall
    exact eq_zeroBlock fun b hb => of_decide_eq_true (List.all_eq_true.mp hall b hb)
  simp only [registrationOf, decide_eq_true_eq]
  refine ⟨?_, ?_, ?_⟩
  · by_cases h32 : layout = .alternate32
    · rw [if_pos h32, if_pos h32, protocolByte_nonZeroProtocol]
      exact withFirstByte_zero (h.protocol h32)
    · rw [if_neg h32]
      by_cases hunspecified : (value.reportedAddress.val.all fun b => decide (b = 0)) = true
      · rw [if_pos (.inr hunspecified), haddress hunspecified]
        rfl
      · rw [if_neg fun hor => hor.elim h32 hunspecified]
        rfl
  · by_cases h32 : layout = .alternate32
    · rw [if_pos h32]
      exact (hzero.protocolFeatures (by rw [halternate.mp h32]; decide)).symm
    · rw [if_neg h32, if_neg h32]
      by_cases h44 : 44 ≤ prefixBytes
      · have hversion : protocolByte (if value.protocolFeatures.val.headD 0 ≠ 0 ∨
            ¬ (prefixBytes = 44 ∨ prefixBytes = 48) then
              some (value.protocolFeatures.val.headD 0).toUInt32
            else none) = value.protocolFeatures.val.headD 0 := by
          split
          · exact protocolByte_some _
          next hnone =>
          rw [not_or, not_not] at hnone
          rw [hnone.1]
          rfl
        rw [if_pos h44, hversion, if_pos ⟨h32, h44⟩]
        exact withFirstByte_features value.protocolFeatures
      · rw [if_neg h44, if_neg fun hand => h44 hand.2, hzero.protocolFeatures (by omega)]
        rfl
  · by_cases h32 : layout = .alternate32
    · rw [if_neg fun hand => hand.1 h32, hzero.ipv6Address (by rw [halternate.mp h32]; decide)]
      rfl
    · by_cases h88 : 88 ≤ prefixBytes
      · by_cases hany : (value.ipv6Address.val.any fun b => decide (b ≠ 0)) = true
        · rw [if_pos ⟨h32, h88, hany⟩]
          rfl
        · rw [if_neg fun hand => hany hand.2.2]
          refine (eq_zeroBlock fun b hb => ?_).symm
          by_contra hne
          exact hany (List.any_eq_true.mpr ⟨b, hb, decide_eq_true hne⟩)
      · rw [if_neg fun hand => h88 hand.2.1, hzero.ipv6Address (by omega)]
        rfl

theorem Reads.validateRegistrationFields_ok
    (h : Reads p layout prefixBytes value deviceId firmware stamp) {wire : RegistrationWireDetails}
    (hwire : (registrationOf layout prefixBytes value deviceId firmware stamp).wire = some wire) :
    validateRegistrationFields (registrationOf layout prefixBytes value deviceId firmware stamp)
      wire prefixBytes = .ok () := by
  unfold validateRegistrationFields
  rw [h.incompatibleField_eq_none hwire]
  obtain rfl := Option.some.inj hwire
  have hcases := h.selects.prefix_cases
  simp only [registrationOf, decide_eq_true_eq]
  rw [if_neg, if_neg]
  · rintro ⟨h32, h52, hnone⟩
    rw [if_neg h32, if_pos (by omega), if_pos (.inr (by omega))] at hnone
    cases hnone
  · rintro ⟨h32, h44, hor⟩
    rw [if_neg h32, if_neg (by omega), if_neg fun hand => by omega] at hor
    exact hor.elim Bool.false_ne_true fun hne => hne rfl

/-- The record that the encoder writes: the one that was read, with its texts rewritten. -/
theorem Reads.encodeRegister_ok
    (h : Reads p layout prefixBytes value deviceId firmware stamp) {payload : List UInt8} :
    encodeRegister (registrationOf layout prefixBytes value deviceId firmware stamp) = .ok payload ↔
      ∃ name text,
        WireFixedText.new 16 MessageId.register.wireValue "device ID" deviceId.text = .ok name ∧
        WireFixedText.new 32 MessageId.register.wireValue "firmware" firmware = .ok text ∧
        payload = (WireRegister.layout.write
          { value with deviceId := name, firmware := text }).take prefixBytes ++ stamp.bytes := by
  have hfront := (selects_iff.mpr h.selects : registrationLayout 0 p.length = _ ∧ _).2
  have hvalid := h.validateRegistrationFields_ok rfl
  obtain ⟨haddress, hfeatures, hipv6⟩ := h.fields_eq
  have hdevice : (registrationOf layout prefixBytes value deviceId firmware
      stamp).deviceType.wireValue = value.deviceType := WireEnum.wireValue_ofWire _
  have hsuffix : ∀ bytes : List UInt8,
      (if decide (layout = .alternate32) = true then bytes else bytes ++ stamp.bytes)
        = bytes ++ stamp.bytes := by
    intro bytes
    split
    · next h32 =>
      have := h.selects.alternate_iff.mp (of_decide_eq_true h32)
      rw [h.stamp_empty (by omega), List.append_nil]
    · rfl
  have hwritten : ∀ name text, ({ value with
      deviceId := name
      reportedAddress :=
        if decide (layout = .alternate32) = true then
          withFirstByte (protocolByte (registrationOf layout prefixBytes value deviceId firmware
            stamp).advertisedProtocol) 0
        else (registrationOf layout prefixBytes value deviceId firmware
          stamp).reportedAddress.getD (zeroBlock 4)
      deviceType := (registrationOf layout prefixBytes value deviceId firmware
        stamp).deviceType.wireValue
      protocolFeatures :=
        if decide (layout = .alternate32) = true then zeroBlock 4
        else withFirstByte (protocolByte (registrationOf layout prefixBytes value deviceId firmware
          stamp).advertisedProtocol) (registrationOf layout prefixBytes value deviceId firmware
            stamp).features
      ipv6Address := (registrationOf layout prefixBytes value deviceId firmware
        stamp).reportedIpv6Address.getD (zeroBlock 16)
      firmware := text } : WireRegister) = { value with deviceId := name, firmware := text } := by
    intro name text
    rw [haddress, hdevice, hfeatures, hipv6]
  unfold encodeRegister
  constructor
  · intro h'
    obtain ⟨prefixBytes', hfront', h'⟩ := Checked.bind_ok.mp h'
    obtain rfl := Except.ok.inj (hfront.symm.trans hfront')
    obtain ⟨_, -, h'⟩ := Checked.bind_ok.mp h'
    obtain ⟨name, hname, h'⟩ := Checked.bind_ok.mp h'
    obtain ⟨text, htext, h'⟩ := Checked.bind_ok.mp h'
    refine ⟨name, text, hname, htext, ?_⟩
    rw [← hwritten, ← hsuffix]
    exact (Except.ok.inj h').symm
  · rintro ⟨name, text, hname, htext, rfl⟩
    refine Checked.bind_ok.mpr ⟨prefixBytes, hfront, Checked.bind_ok.mpr ⟨(), hvalid, ?_⟩⟩
    refine Checked.bind_ok.mpr ⟨name, hname, Checked.bind_ok.mpr ⟨text, htext, ?_⟩⟩
    rw [← hwritten, ← hsuffix]
    rfl

/-! ## Reading what was written -/

/-- Everything after the first field is kept with the fields but the texts. -/
theorem drop_write_register {value : WireRegister} (name : WireFixedText 16)
    {text : WireFixedText 32} (hle : 16 ≤ prefixBytes)
    (htext : prefixBytes < 124 → text = value.firmware) :
    (WireRegister.layout.write { value with deviceId := name, firmware := text }).drop prefixBytes
      = (WireRegister.layout.write value).drop prefixBytes := by
  by_cases hfull : prefixBytes < 124
  · obtain rfl := htext hfull
    have hskip : ∀ (head : Block 16) (rest : List UInt8),
        (head.val ++ rest).drop prefixBytes = rest.drop (prefixBytes - 16) := by
      intro head rest
      rw [List.drop_append, List.drop_eq_nil_of_le (by rw [head.property]; exact hle),
        head.property, List.nil_append]
    exact (hskip name _).trans (hskip value.deviceId _).symm
  · rw [List.drop_eq_nil_of_le, List.drop_eq_nil_of_le]
    · rw [Layout.length_write]
      exact Nat.le_of_not_lt hfull
    · rw [Layout.length_write]
      exact Nat.le_of_not_lt hfull

/-- The payload of a registration that was read reads as the same registration. -/
theorem Reads.written (h : Reads p layout prefixBytes value deviceId firmware stamp)
    {name : WireFixedText 16} {text : WireFixedText 32}
    (hname : WireFixedText.new 16 MessageId.register.wireValue "device ID" deviceId.text = .ok name)
    (htext : WireFixedText.new 32 MessageId.register.wireValue "firmware" firmware = .ok text) :
    let value' := { value with deviceId := name, firmware := text }
    let payload := (WireRegister.layout.write value').take prefixBytes ++ stamp.bytes
    payload.length = p.length ∧
      Reads payload layout prefixBytes value' deviceId firmware stamp := by
  intro value' payload
  have hfront := h.selects.prefixBytes_eq
  have hcases := h.selects.prefix_cases
  have htake : ((WireRegister.layout.write value').take prefixBytes).length = prefixBytes := by
    refine List.length_take_of_le ?_
    rw [Layout.length_write]
    exact h.prefixBytes_le.2
  have hlength : payload.length = p.length := by
    rw [List.length_append, htake, h.stamp, List.length_drop]
    omega
  have hfirmware := h.firmwareText
  have hempty : prefixBytes < 124 → text = value.firmware := by
    intro hshort
    rw [if_neg (by omega)] at hfirmware
    rw [h.zeroAfter.firmware hshort]
    refine Subtype.ext ((WireFixedText.new_ok.mp htext).2.trans ?_)
    rw [hfirmware]
    rfl
  have hdrop := drop_write_register name (by omega) hempty
  rw [h.record, List.drop_left' (List.length_take_of_le h.prefixBytes_le.1)] at hdrop
  obtain ⟨readName, -, hdevice⟩ := h.device
  obtain ⟨-, hnul, htrim, hagain⟩ := DeviceId.new_ok hdevice
  refine ⟨hlength, ?_, ?_, h.protocol, ⟨deviceId.text, ?_, hagain⟩, ?_, ?_⟩
  · rw [hlength]
    exact h.selects
  · rw [List.take_left' htake, ← hdrop, List.take_append_drop]
  · exact WireFixedText.text_of_new hname hnul htrim
  · by_cases hfull : prefixBytes = 124
    · rw [if_pos hfull] at hfirmware ⊢
      obtain ⟨hnul, htrim, -⟩ := WireFixedText.text_ok hfirmware
      exact WireFixedText.text_of_new htext hnul htrim
    · rw [if_neg hfull] at hfirmware ⊢
      exact hfirmware
  rw [hlength]
  by_cases hfull : prefixBytes = 124
  · rw [List.drop_left' (htake.trans (by omega))]
  · rw [h.stamp_empty (by omega)]
    exact (List.drop_eq_nil_of_le (by omega)).symm

/-- The payload has no firmware field, or its firmware leaves room for the NUL. -/
def FirmwareFits (p : List UInt8) : Prop :=
  p.length < 124 ∨ ∀ firmware : String,
    WireFixedText.text (Layout.blockOf 32 (p.drop 92)) = .ok firmware →
      (utf8 firmware).length ≤ 31

theorem Reads.firmware_eq (h : Reads p layout prefixBytes value deviceId firmware stamp)
    (hfull : prefixBytes = 124) : value.firmware = Layout.blockOf 32 (p.drop 92) := by
  have hvalue := WireRegister.layout.read_write_self value
  have hlength := h.prefixBytes_le.1
  rw [read_register, h.record, hfull] at hvalue
  rw [← hvalue]
  apply Subtype.ext
  rw [List.replicate_zero, List.append_nil, Layout.blockOf_of_le, Layout.blockOf_of_le,
    List.drop_take, List.take_take]
  · rfl
  · rw [List.length_drop]
    omega
  · rw [List.length_drop, List.length_take]
    omega

theorem Reads.firmwareFits_iff (h : Reads p layout prefixBytes value deviceId firmware stamp) :
    FirmwareFits p ↔ (utf8 firmware).length ≤ 31 := by
  have hfront := h.selects.prefixBytes_eq
  have hfirmware := h.firmwareText
  unfold FirmwareFits
  by_cases hfull : prefixBytes = 124
  · rw [if_pos hfull, h.firmware_eq hfull] at hfirmware
    constructor
    · rintro (hshort | hfits)
      · omega
      · exact hfits firmware hfirmware
    · intro hle
      refine .inr fun firmware' hfirmware' => ?_
      rwa [← Except.ok.inj (hfirmware.symm.trans hfirmware')]
  · rw [if_neg hfull] at hfirmware
    rw [hfirmware]
    exact iff_of_true (.inl (by omega)) (by decide)

/-- A payload that was read is written again, as long and as the same registration, just
    when its firmware fits. -/
theorem decodeRegister_encodeRegister {registration : RegistrationMessage}
    (h : decodeRegister p messageId = .ok registration) :
    FirmwareFits p ↔ ∃ payload, encodeRegister registration = .ok payload ∧
      payload.length = p.length ∧ decodeRegister payload messageId = .ok registration := by
  obtain ⟨layout, prefixBytes, value, deviceId, firmware, stamp, hreads, rfl⟩ :=
    decodeRegister_ok.mp h
  rw [hreads.firmwareFits_iff]
  constructor
  · intro hfits
    obtain ⟨readName, -, hdevice⟩ := hreads.device
    obtain ⟨hlength, -⟩ := DeviceId.new_ok hdevice
    obtain ⟨name, hname, -⟩ := WireFixedText.new_of_le (n := 16) hlength
    obtain ⟨text, htext, -⟩ := WireFixedText.new_of_le (n := 32) hfits
    obtain ⟨hsame, hagain⟩ := hreads.written hname htext
    refine ⟨_, hreads.encodeRegister_ok.mpr ⟨name, text, hname, htext, rfl⟩, hsame, ?_⟩
    exact decodeRegister_ok.mpr ⟨_, _, _, _, _, _, hagain, rfl⟩
  · rintro ⟨payload, hencode, -⟩
    obtain ⟨name, text, -, htext, -⟩ := hreads.encodeRegister_ok.mp hencode
    exact (WireFixedText.new_ok.mp htext).1

namespace ClientMessage

theorem decodeWithVersion_register {frame : Frame} {version : ProtocolVersion}
    {message : ClientMessage} (hid : frame.messageId = MessageId.register.wireValue) :
    decodeWithVersion frame version = .ok message ↔
      ∃ registration, decodeRegister frame.payload frame.messageId = .ok registration ∧
        register registration = message := by
  have htype : frame.messageType = .register := by
    rw [Frame.messageType, hid]
    rfl
  rw [← Checked.map_ok]
  unfold decodeWithVersion decodeUsingProtocol ensureStationRoute
  rw [htype]
  constructor
  · intro h
    obtain ⟨_, -, h⟩ := Checked.bind_ok.mp h
    exact h
  · intro h
    exact Checked.bind_ok.mpr ⟨(), rfl, h⟩

/-- A registration from a station is encoded again, as long and as the same message, just
    when the payload has no firmware field or a firmware of at most 31 bytes. -/
theorem register_decode_encode {frame : Frame} {version : ProtocolVersion}
    {message : ClientMessage} (hid : frame.messageId = MessageId.register.wireValue)
    (h : decodeWithVersion frame version = .ok message) :
    (∃ frame' bytes, message.toFrame version = .ok frame' ∧ message.encode version = .ok bytes ∧
      frame'.encode = .ok bytes ∧ frame'.payload.length = frame.payload.length ∧
      decodeWithVersion frame' version = .ok message) ↔ FirmwareFits frame.payload := by
  obtain ⟨registration, hdecode, rfl⟩ := (decodeWithVersion_register hid).mp h
  rw [decodeRegister_encodeRegister hdecode]
  constructor
  · rintro ⟨frame', bytes, hframe, -, -, hlength, hagain⟩
    obtain ⟨payload, hpayload, rfl⟩ := Checked.map_ok.mp hframe
    obtain ⟨registration', hread, hsame⟩ := (decodeWithVersion_register rfl).mp hagain
    rw [ClientMessage.register.inj hsame] at hread
    refine ⟨payload, hpayload, hlength, ?_⟩
    rw [hid]
    exact hread
  rintro ⟨payload, hpayload, hlength, hagain⟩
  have hframe : (register registration).toFrame version
      = .ok (typedFrame .register 0 payload) :=
    Checked.map_ok.mpr ⟨payload, hpayload, rfl⟩
  have hmaximum : payload.length ≤ 2048 := by
    obtain ⟨layout, prefixBytes, value, deviceId, firmware, stamp, hreads, -⟩ :=
      decodeRegister_ok.mp hagain
    have := hreads.selects.maximum
    omega
  obtain ⟨bytes, hbytes, hwritten⟩ := encode_ok hframe rfl hmaximum
  refine ⟨_, bytes, hframe, hbytes, hwritten, hlength, ?_⟩
  rw [hid] at hagain
  exact (decodeWithVersion_register rfl).mpr ⟨registration, hagain, rfl⟩

end ClientMessage

end Prefix

/-! ## A firmware that fills its field -/

namespace ReportingStation

/-- A station that reports a firmware in the layout of 124 bytes. -/
def record (firmware : WireFixedText 32) : WireRegister where
  deviceId := ⟨utf8 "SEP001122334455" ++ [0], by decide⟩
  stationUserId := 0
  stationInstance := 1
  reportedAddress := zeroBlock 4
  deviceType := 0
  maxStreams := 0
  activeStreams := 0
  protocolFeatures := zeroBlock 4
  maxConferences := 0
  activeConferences := 0
  macAddress := zeroBlock 12
  ipv4AddressScope := 0
  maxLines := 0
  ipv6Address := zeroBlock 16
  ipv6AddressScope := 0
  firmware

def frame (firmware : WireFixedText 32) : Frame :=
  ⟨0, MessageId.register.wireValue, WireRegister.layout.write (record firmware)⟩

theorem reads {firmware : WireFixedText 32} {text : String} (h : firmware.text = .ok text) :
    Reads (frame firmware).payload (.canonical 124) 124 (record firmware) ⟨"SEP001122334455"⟩ text
      ⟨[], by decide⟩ := by
  have hlength : (frame firmware).payload.length = 124 :=
    WireRegister.layout.length_write (record firmware)
  refine ⟨?_, ?_, nofun, ⟨"SEP001122334455", ?_, by decide⟩, ?_, ?_⟩
  · rw [hlength]
    exact ⟨by decide, by decide, by decide, .inr ⟨by decide, rfl⟩⟩
  · rw [List.take_of_length_le hlength.le]
    exact (List.append_nil _).symm
  · have hpadded : (record firmware).deviceId.val = utf8 "SEP001122334455" ++ List.replicate 1 0 :=
      rfl
    rw [WireFixedText.text_of_padded hpadded (by decide), trim_of_not_isWhiteSpace (by decide)]
  · rw [if_pos rfl]
    exact h
  · rw [hlength]
    exact (List.drop_eq_nil_of_le hlength.le).symm

theorem decodes {firmware : WireFixedText 32} {text : String} (h : firmware.text = .ok text) :
    ClientMessage.decodeWithVersion (frame firmware) .V22 = .ok (.register
      (registrationOf (.canonical 124) 124 (record firmware) ⟨"SEP001122334455"⟩ text
        ⟨[], by decide⟩)) :=
  (ClientMessage.decodeWithVersion_register rfl).mpr
    ⟨_, decodeRegister_ok.mpr ⟨_, _, _, _, _, _, reads h, rfl⟩, rfl⟩

/-- Thirty-two letters, which leave no room for a NUL. -/
def fullFirmware : WireFixedText 32 :=
  ⟨utf8 "aaaaaaaaaaaaaaaaaaaaaaaaaaaaaaaa", by decide⟩

theorem fullFirmware_text : fullFirmware.text = .ok "aaaaaaaaaaaaaaaaaaaaaaaaaaaaaaaa" := by
  have hpadded : fullFirmware.val = utf8 _ ++ List.replicate 0 0 := (List.append_nil _).symm
  rw [WireFixedText.text_of_padded hpadded (by decide), trim_of_not_isWhiteSpace (by decide)]

/-- A registration whose firmware fills the field is accepted, but not encoded again. -/
theorem not_register_decode_encode : ¬ ∀ (frame : Frame) (version : ProtocolVersion)
    (message : ClientMessage), frame.messageId = MessageId.register.wireValue →
    ClientMessage.decodeWithVersion frame version = .ok message →
    ∃ frame' bytes, message.toFrame version = .ok frame' ∧ message.encode version = .ok bytes ∧
      frame'.encode = .ok bytes ∧ frame'.payload.length = frame.payload.length ∧
      ClientMessage.decodeWithVersion frame' version = .ok message := by
  intro h
  obtain ⟨frame', bytes, hframe, -⟩ := h _ _ _ rfl (decodes fullFirmware_text)
  obtain ⟨written, hwritten, -⟩ := Checked.map_ok.mp hframe
  obtain ⟨name, text, -, htext, -⟩ := (reads fullFirmware_text).encodeRegister_ok.mp hwritten
  exact absurd (WireFixedText.new_ok.mp htext).1 (by decide)

def sccpTest : WireFixedText 32 := ⟨utf8 "SCCP-test" ++ List.replicate 23 0, by decide⟩

theorem sccpTest_text : sccpTest.text = .ok "SCCP-test" := by
  have hpadded : sccpTest.val = utf8 "SCCP-test" ++ List.replicate 23 0 := rfl
  rw [WireFixedText.text_of_padded hpadded (by decide), trim_of_not_isWhiteSpace (by decide)]

/-- A firmware of nine letters. -/
theorem register_decode_encode_sccpTest :
    let message : ClientMessage := .register (registrationOf (.canonical 124) 124
      (record sccpTest) ⟨"SEP001122334455"⟩ "SCCP-test" ⟨[], by decide⟩)
    (∃ frame' bytes, message.toFrame .V22 = .ok frame' ∧ message.encode .V22 = .ok bytes ∧
      frame'.encode = .ok bytes ∧ frame'.payload.length = (frame sccpTest).payload.length ∧
      ClientMessage.decodeWithVersion frame' .V22 = .ok message) ↔
        FirmwareFits (frame sccpTest).payload :=
  ClientMessage.register_decode_encode rfl (decodes sccpTest_text)

end ReportingStation

end Sccp.Message
