/-
  Sccp.Safety.Enbloc

  Enbloc calls of the two kinds of station that send a line with the number.

  From version 19 on a payload of 32 bytes is read in the packed layout and in the
  aligned one.  The line word of each reading lies over bytes that the other reading
  wants to be zero, so that two readings that both succeed give the line zero.
-/

import Sccp.Message.Client
import Sccp.Safety.Statistics

namespace Sccp

/-! ## Readers that return -/

namespace Checked

variable {α β : Type}

theorem returns_pure (a : α) : (pure a : Checked α).Returns := returns_ok a

theorem returns_bind {x : Checked α} {f : α → Checked β} :
    (x >>= f).Returns ↔ x.Returns ∧ ∀ a, x = .ok a → (f a).Returns := by
  constructor
  · intro h
    constructor
    · rintro rfl
      exact h rfl
    · rintro a rfl
      exact h
  · rintro ⟨hx, hf⟩
    exact hx.bind hf

theorem returns_map {x : Checked α} {f : α → β} : (f <$> x).Returns ↔ x.Returns := by
  cases x with
  | error e =>
    cases e with
    | error e => exact ⟨fun _ => returns_reject e, fun _ => returns_reject e⟩
    | panic => exact ⟨fun h => absurd rfl h, fun h => absurd rfl h⟩
  | ok a => exact ⟨fun _ => returns_ok a, fun _ => returns_ok _⟩

theorem returns_ite {c : Prop} [Decidable c] {x y : Checked α} :
    (if c then x else y).Returns ↔ (c → x.Returns) ∧ (¬ c → y.Returns) := by
  split
  · next hc => exact ⟨fun h => ⟨fun _ => h, fun hn => absurd hc hn⟩, fun h => h.1 hc⟩
  · next hc => exact ⟨fun h => ⟨fun hp => absurd hp hc, fun _ => h⟩, fun h => h.2 hc⟩

attribute [simp] returns_ok returns_pure returns_reject returns_bind returns_map returns_ite

end Checked

attribute [simp] decode_returns decodePrefix_returns validateExactPayload_returns
  validateZeroPayload_returns WireFixedText.text_returns

@[simp] theorem WireAlignedText.validate_returns {t a : Nat} (field : WireAlignedText t a)
    (messageId : UInt32) : (field.validate messageId).Returns :=
  validateZeroPayload_returns _ _ _

@[simp] theorem WireAlignedText.text_returns {t a : Nat} (field : WireAlignedText t a) :
    field.text.Returns := WireFixedText.text_returns _

namespace Message

variable {t a protocol : Nat}

@[simp] theorem validateEnblocLineInstance_returns (lineInstance messageId : UInt32) :
    (validateEnblocLineInstance lineInstance messageId).Returns := by
  simp [validateEnblocLineInstance]

@[simp] theorem enblocFromWire_returns (t a : Nat) (payload : List UInt8) (messageId : UInt32) :
    (enblocFromWire t a payload messageId).Returns := by
  simp [enblocFromWire]

/-- The packed layout starts with 29 bytes, so the rest of the payload can be taken. -/
theorem enblocFromPackedWire_returns (payload : List UInt8) (messageId : UInt32) :
    (enblocFromPackedWire payload messageId).Returns := by
  unfold enblocFromPackedWire
  refine (decodePrefix_returns _ _ _).bind fun value hvalue => ?_
  have hlength : 29 ≤ payload.length := decodePrefix_length _ _ _ hvalue
  rw [sliceFrom_ok hlength, usizeSub_ok hlength]
  refine (WireAlignedText.validate_returns _ _).bind fun _ _ => ?_
  refine (validateZeroPayload_returns _ _ _).bind fun _ _ => ?_
  simp

/-! ## The bytes of the layouts -/

/-- The bytes of a number below 256 are the number and zeros. -/
theorem leBytes_of_le {n : Nat} (h : n ≤ MAX_STATION_BUTTON_INSTANCE) :
    leBytes 4 n = [UInt8.ofNat n, 0, 0, 0] := by
  have hdiv : n / 256 = 0 := Nat.div_eq_of_lt (Nat.lt_succ_of_le h)
  simp only [leBytes, hdiv]
  rfl

theorem toNat_eq_zero_of_byte {n : Nat} (h : n ≤ MAX_STATION_BUTTON_INSTANCE)
    (hbyte : UInt8.ofNat n = 0) : n = 0 := by
  have hsmall : n < 2 ^ 8 := Nat.lt_succ_of_le h
  have hmod := congrArg UInt8.toNat hbyte
  rwa [UInt8.toNat_ofNat', Nat.mod_eq_of_lt hsmall] at hmod

theorem write_enblocWithLine (text : Block t) (alignment : Block a) (line : UInt32) :
    (WireEnblocWithLine.layout t a).write ⟨⟨text, alignment⟩, line⟩
      = text.val ++ alignment.val ++ leBytes 4 line.toNat := rfl

theorem eq_replicate_of_zero {bytes : List UInt8} (h : ∀ b ∈ bytes, b = 0) :
    bytes = List.replicate bytes.length 0 := List.eq_replicate_iff.mpr ⟨rfl, h⟩

theorem validateEnblocLineInstance_ok {line messageId : UInt32} :
    validateEnblocLineInstance line messageId = .ok () ↔
      line.toNat ≤ MAX_STATION_BUTTON_INSTANCE := by
  unfold validateEnblocLineInstance
  split
  · next h => exact iff_of_true rfl h
  · next h => exact iff_of_false nofun h

theorem WireAlignedText.validate_ok {field : WireAlignedText t a} {messageId : UInt32} :
    field.validate messageId = .ok () ↔ field.alignment.val = List.replicate a 0 := by
  have hzero : validateZeroPayload field.alignment.val messageId field.alignment.val.length = .ok ()
      ↔ _ := validateZeroPayload_ok
  rw [field.alignment.property] at hzero
  rw [WireAlignedText.validate, hzero, List.eq_replicate_iff]
  exact (and_iff_right field.alignment.property).symm

/-! ## What the two readings accept -/

variable {payload : List UInt8} {messageId line : UInt32} {party : String}

/-- The checks that both readings end with. -/
theorem enblocFields_ok {value : WireEnblocWithLine t a} : (do
      validateEnblocLineInstance value.lineInstance messageId
      return (← value.calledParty.text, value.lineInstance) : Checked EnblocFields)
        = .ok (party, line) ↔
      value.lineInstance = line ∧ line.toNat ≤ MAX_STATION_BUTTON_INSTANCE ∧
        value.calledParty.value.text = .ok party := by
  constructor
  · intro h
    obtain ⟨_, hline, h⟩ := Checked.bind_ok.mp h
    obtain ⟨text, htext, h⟩ := Checked.bind_ok.mp h
    obtain ⟨rfl, rfl⟩ := Prod.mk.inj (Except.ok.inj h)
    exact ⟨rfl, validateEnblocLineInstance_ok.mp hline, htext⟩
  · rintro ⟨rfl, hline, htext⟩
    refine Checked.bind_ok.mpr ⟨(), validateEnblocLineInstance_ok.mpr hline, ?_⟩
    exact Checked.bind_ok.mpr ⟨party, htext, rfl⟩

/-- The aligned reading: a text, zeros up to a word boundary, and a line. -/
theorem enblocFromWire_ok : enblocFromWire t a payload messageId = .ok (party, line) ↔
      ∃ text : WireFixedText t, payload = text.val ++ List.replicate a 0 ++ leBytes 4 line.toNat ∧
        line.toNat ≤ MAX_STATION_BUTTON_INSTANCE ∧ text.text = .ok party := by
  constructor
  · intro h
    obtain ⟨⟨⟨text, alignment⟩, line'⟩, hvalue, h⟩ := Checked.bind_ok.mp h
    obtain ⟨_, hzero, h⟩ := Checked.bind_ok.mp h
    obtain ⟨rfl, hline, htext⟩ := enblocFields_ok.mp h
    have hpayload := (decode_ok _ _ _).mp hvalue
    rw [write_enblocWithLine, WireAlignedText.validate_ok.mp hzero] at hpayload
    exact ⟨text, hpayload, hline, htext⟩
  · rintro ⟨text, hpayload, hline, htext⟩
    let alignment : Block a := ⟨List.replicate a 0, List.length_replicate⟩
    refine Checked.bind_ok.mpr ⟨⟨⟨text, alignment⟩, line⟩, (decode_ok _ _ _).mpr hpayload, ?_⟩
    refine Checked.bind_ok.mpr ⟨(), WireAlignedText.validate_ok.mpr rfl, ?_⟩
    exact enblocFields_ok.mpr ⟨rfl, hline, htext⟩

/-- The packed reading: a text, a line right after it, and zeros. -/
theorem enblocFromPackedWire_ok : enblocFromPackedWire payload messageId = .ok (party, line) ↔
      ∃ (text : WireFixedText 25) (padding : Nat),
        payload = text.val ++ leBytes 4 line.toNat ++ List.replicate padding 0 ∧
        line.toNat ≤ MAX_STATION_BUTTON_INSTANCE ∧ text.text = .ok party := by
  constructor
  · intro h
    obtain ⟨⟨⟨text, alignment⟩, line'⟩, hvalue, h⟩ := Checked.bind_ok.mp h
    have hlength : 29 ≤ payload.length := decodePrefix_length _ _ _ hvalue
    rw [sliceFrom_ok hlength, usizeSub_ok hlength] at h
    obtain ⟨_, -, h⟩ := Checked.bind_ok.mp h
    obtain ⟨rest, hrest, h⟩ := Checked.bind_ok.mp h
    obtain ⟨expected, hexpected, h⟩ := Checked.bind_ok.mp h
    obtain ⟨_, hzero, h⟩ := Checked.bind_ok.mp h
    obtain ⟨rfl, hline, htext⟩ := enblocFields_ok.mp h
    obtain rfl := Except.ok.inj hrest
    obtain rfl := Except.ok.inj hexpected
    rw [← List.length_drop, validateZeroPayload_ok] at hzero
    rw [decodePrefix_ok _ _ _ hlength] at hvalue
    have hwritten := (WireEnblocWithLine.layout 25 0).write_read payload hlength
    rw [Except.ok.inj hvalue, write_enblocWithLine, List.length_eq_zero_iff.mp alignment.property,
      List.append_nil] at hwritten
    refine ⟨text, (payload.drop 29).length, ?_, hline, htext⟩
    rw [← eq_replicate_of_zero hzero, hwritten]
    exact (List.take_append_drop 29 payload).symm
  · rintro ⟨text, padding, rfl, hline, htext⟩
    let alignment : Block 0 := ⟨[], rfl⟩
    have hwritten : (WireEnblocWithLine.layout 25 0).write ⟨⟨text, alignment⟩, line⟩
        = text.val ++ leBytes 4 line.toNat := by
      rw [write_enblocWithLine, List.append_nil]
    have hprefix : (text.val ++ leBytes 4 line.toNat).length = 29 := by
      rw [List.length_append, text.property, length_leBytes]
    have hlength : 29 ≤ (text.val ++ leBytes 4 line.toNat ++ List.replicate padding 0).length := by
      rw [List.length_append, hprefix]
      exact Nat.le_add_right ..
    unfold enblocFromPackedWire
    refine Checked.bind_ok.mpr ⟨⟨⟨text, alignment⟩, line⟩, ?_, ?_⟩
    · rw [← hwritten]
      exact decodePrefix_write _ _ _ _
    rw [sliceFrom_ok hlength, usizeSub_ok hlength]
    refine Checked.bind_ok.mpr ⟨(), WireAlignedText.validate_ok.mpr rfl, ?_⟩
    refine Checked.bind_ok.mpr ⟨_, rfl, Checked.bind_ok.mpr ⟨_, rfl, ?_⟩⟩
    refine Checked.bind_ok.mpr ⟨(), ?_, enblocFields_ok.mpr ⟨rfl, hline, htext⟩⟩
    rw [← List.length_drop, validateZeroPayload_ok, List.drop_left' hprefix]
    exact fun b hb => List.eq_of_mem_replicate hb

/-! ## Two readings of one payload -/

/-- Where a packed payload is an aligned one too, both lines are zero. -/
theorem enbloc_overlap {text text' : WireFixedText 25} {line' : UInt32}
    (hline : line.toNat ≤ MAX_STATION_BUTTON_INSTANCE)
    (hline' : line'.toNat ≤ MAX_STATION_BUTTON_INSTANCE)
    (h : text.val ++ leBytes 4 line.toNat ++ List.replicate 3 0
      = text'.val ++ List.replicate 3 0 ++ leBytes 4 line'.toNat) :
    text = text' ∧ line = line' := by
  rw [List.append_assoc, List.append_assoc, leBytes_of_le hline, leBytes_of_le hline'] at h
  obtain ⟨htext, hrest⟩ :=
    List.append_inj h (text.property.trans text'.property.symm)
  -- the first byte of the packed line is alignment, the first of the aligned line padding
  simp only [List.replicate, List.cons_append, List.nil_append, List.cons.injEq] at hrest
  obtain ⟨hfirst, -, -, hlast, -⟩ := hrest
  refine ⟨Subtype.ext htext, UInt32.toNat.inj ?_⟩
  rw [toNat_eq_zero_of_byte hline hfirst, toNat_eq_zero_of_byte hline' hlast.symm]

/-- Two readings of a payload that both succeed give the same call. -/
theorem enbloc_readings_agree {fields fields' : EnblocFields} (hlength : payload.length = 32)
    (hpacked : enblocFromPackedWire payload messageId = .ok fields)
    (haligned : enblocFromWire 25 3 payload messageId = .ok fields') : fields = fields' := by
  obtain ⟨party, line⟩ := fields
  obtain ⟨party', line'⟩ := fields'
  obtain ⟨text, padding, rfl, hline, htext⟩ := enblocFromPackedWire_ok.mp hpacked
  obtain ⟨text', hpayload, hline', htext'⟩ := enblocFromWire_ok.mp haligned
  have hpadding : padding = 3 := by
    simp only [List.length_append, text.property, length_leBytes, List.length_replicate] at hlength
    omega
  subst hpadding
  obtain ⟨rfl, rfl⟩ := enbloc_overlap hline hline' hpayload
  rw [htext] at htext'
  rw [Except.ok.inj htext']

/-- A call that either reading finds is the one that is selected. -/
theorem selectEnblocCandidate_ok {fields : EnblocFields} (hlength : payload.length = 32)
    (h : enblocFromPackedWire payload messageId = .ok fields ∨
      enblocFromWire 25 3 payload messageId = .ok fields) :
    selectEnblocCandidate (enblocFromPackedWire payload messageId)
      (enblocFromWire 25 3 payload messageId) payload.length messageId = .ok fields := by
  have hagree : ∀ fields fields', enblocFromPackedWire payload messageId = .ok fields →
      enblocFromWire 25 3 payload messageId = .ok fields' → fields = fields' :=
    fun _ _ => enbloc_readings_agree hlength
  have hpackedReturns := enblocFromPackedWire_returns payload messageId
  have halignedReturns := enblocFromWire_returns 25 3 payload messageId
  revert h hagree hpackedReturns halignedReturns
  generalize enblocFromPackedWire payload messageId = packed
  generalize enblocFromWire 25 3 payload messageId = aligned
  intro h hagree hpackedReturns halignedReturns
  unfold selectEnblocCandidate
  split
  · exact absurd rfl hpackedReturns
  · exact absurd rfl halignedReturns
  · next first second =>
    obtain rfl := hagree first second rfl rfl
    rw [if_pos rfl]
    exact h.elim id id
  · exact h.elim id nofun
  · exact h.elim nofun id
  · exact h.elim id nofun

/-! ## Encoded calls -/

/-- Number of bytes that a called party may have. -/
def enblocTextBytes (protocol : Nat) : Nat := if protocol ≤ 18 then 23 else 24

/-- The bytes of a call in a layout with a line. -/
theorem enblocToWire_ok (hline : line.toNat ≤ MAX_STATION_BUTTON_INSTANCE) :
    enblocToWire t a party line = .ok payload ↔
      ∃ text, WireFixedText.new t MessageId.enblocCall.wireValue "called party" party = .ok text ∧
        payload = text.val ++ List.replicate a 0 ++ leBytes 4 line.toNat := by
  constructor
  · intro h
    obtain ⟨_, -, h⟩ := Checked.bind_ok.mp h
    obtain ⟨field, hfield, h⟩ := Checked.bind_ok.mp h
    obtain ⟨text, htext, hval⟩ := Checked.bind_ok.mp hfield
    obtain rfl := Except.ok.inj hval
    exact ⟨text, htext, (Except.ok.inj h).symm⟩
  · rintro ⟨text, htext, rfl⟩
    refine Checked.bind_ok.mpr ⟨(), validateEnblocLineInstance_ok.mpr hline, ?_⟩
    exact Checked.bind_ok.mpr ⟨_, Checked.bind_ok.mpr ⟨text, htext, rfl⟩, rfl⟩

/-- A call that is encoded has a called party that fits. -/
theorem le_of_encodeEnbloc (h : encodeEnbloc party line protocol = .ok payload) :
    (utf8 party).length ≤ enblocTextBytes protocol := by
  have hfits : ∀ {t a : Nat}, enblocToWire t a party line = .ok payload →
      (utf8 party).length ≤ t - 1 := by
    intro t a h
    obtain ⟨_, hline, -⟩ := Checked.bind_ok.mp h
    obtain ⟨text, htext, -⟩ :=
      (enblocToWire_ok (validateEnblocLineInstance_ok.mp hline)).mp h
    exact (WireFixedText.new_ok.mp htext).1
  unfold encodeEnbloc EnblocWireLayout.canonical at h
  unfold enblocTextBytes
  by_cases h16 : protocol ≤ 16
  · rw [if_pos h16] at h
    rw [if_pos (by omega)]
    dsimp only at h
    split at h
    · obtain ⟨text, htext, -⟩ := Checked.bind_ok.mp h
      exact (WireFixedText.new_ok.mp htext).1
    · cases h
  rw [if_neg h16] at h
  by_cases h18 : protocol ≤ 18
  · rw [if_pos h18] at h ⊢
    exact hfits h
  · rw [if_neg h18] at h ⊢
    exact hfits h

/-- What the decoder finds in the canonical layout of a version. -/
theorem decodeEnbloc_encodeEnbloc (hnul : NulFree party) (htrim : trim party = party)
    (hfits : (utf8 party).length ≤ enblocTextBytes protocol)
    (hline : line.toNat ≤ MAX_STATION_BUTTON_INSTANCE) (hzero : protocol ≤ 16 → line = 0) :
    ∃ payload, encodeEnbloc party line protocol = .ok payload ∧ payload.length ≤ 32 ∧
      decodeEnbloc payload protocol messageId = .ok (party, line) := by
  have htext : ∀ {n : Nat} {text : WireFixedText n},
      text.val = utf8 party ++ List.replicate (n - (utf8 party).length) 0 →
        text.text = .ok party := by
    intro n text hval
    rw [WireFixedText.text_of_padded hval hnul, htrim]
  unfold enblocTextBytes at hfits
  unfold encodeEnbloc EnblocWireLayout.canonical decodeEnbloc EnblocWireLayout.select
  by_cases h16 : protocol ≤ 16
  · rw [if_pos (by omega)] at hfits
    obtain ⟨text, hnew, hval⟩ := WireFixedText.new_of_le (n := 24) hfits
    have hlength : (WireEnblocWithoutLine.layout.write ⟨text⟩).length = 24 := text.property
    refine ⟨WireEnblocWithoutLine.layout.write ⟨text⟩, ?_, by omega, ?_⟩
    · rw [if_pos h16]
      dsimp only
      rw [if_pos (hzero h16)]
      exact Checked.bind_ok.mpr ⟨text, hnew, rfl⟩
    · rw [if_pos ⟨h16, hlength⟩, hzero h16]
      refine Checked.bind_ok.mpr ⟨_, rfl, Checked.bind_ok.mpr ⟨_, decode_write _ _ _, ?_⟩⟩
      exact Checked.bind_ok.mpr ⟨party, htext hval, rfl⟩
  · rw [if_neg h16]
    by_cases h18 : protocol ≤ 18
    · rw [if_pos h18] at hfits ⊢
      obtain ⟨text, hnew, hval⟩ := WireFixedText.new_of_le (n := 24) hfits
      refine ⟨_, (enblocToWire_ok hline).mpr ⟨text, hnew, rfl⟩, ?_⟩
      have hlength : (text.val ++ List.replicate 0 0 ++ leBytes 4 line.toNat).length = 28 := by
        rw [List.length_append, List.length_append, text.property, length_leBytes]
        rfl
      refine ⟨by omega, ?_⟩
      rw [if_neg (by omega), if_pos ⟨h18, hlength⟩]
      exact Checked.bind_ok.mpr ⟨_, rfl, enblocFromWire_ok.mpr ⟨text, rfl, hline, htext hval⟩⟩
    · rw [if_neg h18] at hfits ⊢
      obtain ⟨text, hnew, hval⟩ := WireFixedText.new_of_le (n := 25) hfits
      refine ⟨_, (enblocToWire_ok hline).mpr ⟨text, hnew, rfl⟩, ?_⟩
      have hlength : (text.val ++ List.replicate 3 0 ++ leBytes 4 line.toNat).length = 32 := by
        rw [List.length_append, List.length_append, text.property, length_leBytes]
        rfl
      refine ⟨by omega, ?_⟩
      rw [if_neg (by omega), if_neg (by omega), if_neg (by omega), if_pos ⟨by omega, hlength⟩]
      refine Checked.bind_ok.mpr ⟨_, rfl, selectEnblocCandidate_ok hlength (.inr ?_)⟩
      exact enblocFromWire_ok.mpr ⟨text, rfl, hline, htext hval⟩

/-- A call as a station without alignment sends it: 25 bytes of text and a line word. -/
def packedEnbloc (calledParty : String) (lineInstance : UInt32) : List UInt8 :=
  utf8 calledParty ++ List.replicate (25 - (utf8 calledParty).length) 0 ++
    leBytes 4 lineInstance.toNat

theorem decodeEnbloc_packedEnbloc {padding : Nat} (hnul : NulFree party)
    (htrim : trim party = party) (hprotocol : 19 ≤ protocol) (hfits : (utf8 party).length ≤ 24)
    (hline : line.toNat ≤ MAX_STATION_BUTTON_INSTANCE) (hpadding : padding ≤ 3) :
    decodeEnbloc (packedEnbloc party line ++ List.replicate padding 0) protocol messageId
      = .ok (party, line) := by
  let text : WireFixedText 25 :=
    ⟨utf8 party ++ List.replicate (25 - (utf8 party).length) 0, by
      rw [List.length_append, List.length_replicate]
      omega⟩
  have htext : text.text = .ok party := by
    rw [WireFixedText.text_of_padded (rfl : text.val = _) hnul, htrim]
  generalize hpayload : packedEnbloc party line ++ List.replicate padding 0 = payload
  have hread : enblocFromPackedWire payload messageId = .ok (party, line) :=
    enblocFromPackedWire_ok.mpr ⟨text, padding, hpayload.symm, hline, htext⟩
  have hlength : payload.length = 29 + padding := by
    rw [← hpayload, List.length_append, List.length_replicate, packedEnbloc, List.length_append,
      length_leBytes]
    exact congrArg (· + 4 + padding) text.property
  unfold decodeEnbloc EnblocWireLayout.select
  rw [if_neg (by omega), if_neg (by omega)]
  by_cases hfull : padding = 3
  · rw [if_neg (by omega), if_pos (by omega)]
    exact Checked.bind_ok.mpr ⟨_, rfl, selectEnblocCandidate_ok (by omega) (.inl hread)⟩
  · rw [if_pos (by omega)]
    exact Checked.bind_ok.mpr ⟨_, rfl, hread⟩

namespace ClientMessage

theorem decodeWithVersion_enblocCall {frame : Frame} {version : ProtocolVersion}
    (hid : frame.messageId = MessageId.enblocCall.wireValue)
    (h : decodeEnbloc frame.payload version.wire frame.messageId = .ok (party, line)) :
    decodeWithVersion frame version = .ok (enblocCall party line) := by
  have htype : frame.messageType = .enblocCall := by
    rw [Frame.messageType, hid]
    rfl
  unfold decodeWithVersion decodeUsingProtocol ensureStationRoute
  rw [htype]
  refine Checked.bind_ok.mpr ⟨(), rfl, ?_⟩
  exact Checked.bind_ok.mpr ⟨_, h, rfl⟩

/-- A called party without NUL or surrounding blanks that the encoder takes at a version is
    read back with its line, which is zero before version 17.  From version 19 on a station
    without alignment is read the same, with up to three bytes of padding after the line. -/
theorem enblocCall_unambiguous (version : ProtocolVersion) (calledParty : String)
    (lineInstance : UInt32) (hnul : NulFree calledParty) (htrim : trim calledParty = calledParty)
    (haccepted : ∃ line bytes, (enblocCall calledParty line).encode version = .ok bytes)
    (hline : lineInstance.toNat ≤ MAX_STATION_BUTTON_INSTANCE)
    (hzero : version.wire < 17 → lineInstance = 0) :
    let message := enblocCall calledParty lineInstance
    (∃ frame bytes, message.toFrame version = .ok frame ∧ message.encode version = .ok bytes ∧
      frame.encode = .ok bytes ∧ decodeWithVersion frame version = .ok message) ∧
    (19 ≤ version.wire → ∀ frame : Frame, ∀ padding ≤ 3,
      frame.messageId = MessageId.enblocCall.wireValue →
      frame.payload = packedEnbloc calledParty lineInstance ++ List.replicate padding 0 →
      decodeWithVersion frame version = .ok message) := by
  have hfits : (utf8 calledParty).length ≤ enblocTextBytes version.wire := by
    obtain ⟨line, bytes, hencode⟩ := haccepted
    obtain ⟨frame, hframe, -⟩ := Checked.bind_ok.mp hencode
    obtain ⟨payload, hpayload, -⟩ := Checked.map_ok.mp hframe
    exact le_of_encodeEnbloc hpayload
  refine ⟨?_, fun hversion frame padding hpadding hid hpayload => ?_⟩
  · obtain ⟨payload, hencode, hlength, hdecode⟩ : ∃ payload, _ ∧ _ ∧
        decodeEnbloc payload _ MessageId.enblocCall.wireValue = _ :=
      decodeEnbloc_encodeEnbloc hnul htrim hfits hline fun h16 => hzero (by omega)
    let frame := typedFrame .enblocCall version.wire payload
    have hframe : (enblocCall calledParty lineInstance).toFrame version = .ok frame :=
      Checked.map_ok.mpr ⟨payload, hencode, rfl⟩
    have hpayload : frame.payload = payload := rfl
    obtain ⟨bytes, hbytes, hwritten⟩ := encode_ok hframe rfl (by rw [hpayload]; omega)
    exact ⟨frame, bytes, hframe, hbytes, hwritten, decodeWithVersion_enblocCall rfl hdecode⟩
  · refine decodeWithVersion_enblocCall hid ?_
    rw [hpayload]
    rw [enblocTextBytes, if_neg (by omega)] at hfits
    exact decodeEnbloc_packedEnbloc hnul htrim hversion hfits hline hpadding

/-- The longest number, with the highest line. -/
theorem enblocCall_unambiguous_longest : let message := enblocCall "012345678901234567890123" 255
    (∃ frame bytes, message.toFrame .V22 = .ok frame ∧ message.encode .V22 = .ok bytes ∧
      frame.encode = .ok bytes ∧ decodeWithVersion frame .V22 = .ok message) ∧
    (19 ≤ ProtocolVersion.V22.wire → ∀ frame : Frame, ∀ padding ≤ 3,
      frame.messageId = MessageId.enblocCall.wireValue →
      frame.payload = packedEnbloc "012345678901234567890123" 255 ++ List.replicate padding 0 →
      decodeWithVersion frame .V22 = .ok message) :=
  enblocCall_unambiguous .V22 "012345678901234567890123" 255 (by unfold NulFree; decide)
    (by decide) ⟨255, _, rfl⟩ (by decide) (by decide)

end ClientMessage

end Message

end Sccp
