/-
  Sccp.Message.Codec

  Helpers for payload layouts (`message/codec/io.rs`, `codec/fixed_text.rs`).

  A codec function answers with a value or an error, or it panics: a slice outside the
  payload, an unreachable branch or an overflowing offset is a fault of its own kind.
-/

import Mathlib.Data.List.DropRight
import Sccp.Lib.Layout
import Sccp.Lib.Utf8
import Sccp.Message.Wire

namespace Sccp

/-- How a codec function can fail to give a value. -/
inductive Fault where
  | error (e : CodecError)
  | panic
  deriving DecidableEq

/-- The outcome of a codec function. -/
abbrev Checked (α : Type) := Except Fault α

/-- `Err(e)`. -/
def reject {α : Type} (e : CodecError) : Checked α := .error (.error e)

/-- A sequence gives a value when both of its steps do. -/
theorem Checked.bind_ok {ε α β : Type} {x : Except ε α} {f : α → Except ε β} {b : β} :
    (x >>= f) = .ok b ↔ ∃ a, x = .ok a ∧ f a = .ok b := by
  cases x with
  | error e =>
    constructor
    · intro h
      cases h
    · rintro ⟨a, ha, -⟩
      cases ha
  | ok a =>
    constructor
    · intro h
      exact ⟨a, rfl, h⟩
    · rintro ⟨a', ha, hf⟩
      cases ha
      exact hf

theorem Checked.map_ok {ε α β : Type} {x : Except ε α} {f : α → β} {b : β} :
    f <$> x = .ok b ↔ ∃ a, x = .ok a ∧ f a = b := by
  cases x with
  | error e =>
    constructor
    · intro h
      cases h
    · rintro ⟨a, ha, -⟩
      cases ha
  | ok a =>
    constructor
    · intro h
      exact ⟨a, rfl, Except.ok.inj h⟩
    · rintro ⟨a', ha, rfl⟩
      cases ha
      rfl

/-- The function returns, with a value or with an error. -/
def Checked.Returns {α : Type} (x : Checked α) : Prop := x ≠ .error .panic

namespace Checked

variable {α β : Type}

theorem returns_ok (a : α) : Returns (.ok a : Checked α) := by
  intro h
  cases h

theorem returns_reject (e : CodecError) : Returns (reject e : Checked α) := by
  intro h
  cases h

/-- A sequence returns when its first step does and the second returns on its value. -/
theorem Returns.bind {x : Checked α} {f : α → Checked β} (hx : x.Returns)
    (hf : ∀ a, x = .ok a → (f a).Returns) : (x >>= f).Returns := by
  cases x with
  | error e =>
    intro h
    cases h
    exact hx rfl
  | ok a => exact hf a rfl

/-- What a list of values is mapped to, in order, up to the first that gives none. -/
theorem mapM_ok {ε : Type} {f : α → Except ε β} {values : List α} {results : List β} :
    values.mapM f = .ok results ↔ List.Forall₂ (fun a b => f a = .ok b) values results := by
  induction values generalizing results with
  | nil =>
    rw [List.mapM_nil]
    constructor
    · intro h
      cases h
      exact .nil
    · intro h
      cases h
      rfl
  | cons a rest ih =>
    rw [List.mapM_cons]
    constructor
    · intro h
      obtain ⟨b, hb, h⟩ := bind_ok.mp h
      obtain ⟨others, hothers, h⟩ := bind_ok.mp h
      cases h
      exact .cons hb (ih.mp hothers)
    · intro h
      cases h with
      | cons hb hrest => exact bind_ok.mpr ⟨_, hb, bind_ok.mpr ⟨_, ih.mpr hrest, rfl⟩⟩

end Checked

variable {payload : List UInt8} {start : Nat}

/-! ## Arithmetic on lengths and offsets -/

/-- A result of `usize` arithmetic, if it fits. -/
def usizeOf (value : Nat) : Checked Nat := if value ≤ usizeMax then .ok value else .error .panic

def usizeAdd (a b : Nat) : Checked Nat := usizeOf (a + b)

def usizeMul (a b : Nat) : Checked Nat := usizeOf (a * b)

/-- A difference must not be negative. -/
def usizeSub (a b : Nat) : Checked Nat := if b ≤ a then .ok (a - b) else .error .panic

theorem usizeSub_ok {a b : Nat} (h : b ≤ a) : usizeSub a b = .ok (a - b) := if_pos h

/-- A negotiated protocol version. -/
structure ProtocolVersion where
  wire : Nat
  supported : 3 ≤ wire ∧ wire ≤ 22
  deriving DecidableEq

def ProtocolVersion.V22 : ProtocolVersion := ⟨22, by decide⟩

/-! ## Slices -/

/-- `&payload[start..stop]`. -/
def slice (payload : List UInt8) (start stop : Nat) : Checked (List UInt8) :=
  if start ≤ stop ∧ stop ≤ payload.length then .ok ((payload.take stop).drop start)
  else .error .panic

/-- `&payload[start..]`. -/
def sliceFrom (payload : List UInt8) (start : Nat) : Checked (List UInt8) :=
  slice payload start payload.length

theorem slice_ok {stop : Nat} (hle : start ≤ stop) (hlength : stop ≤ payload.length) :
    slice payload start stop = .ok ((payload.take stop).drop start) := if_pos ⟨hle, hlength⟩

theorem slice_returns {stop : Nat} (hle : start ≤ stop) (hlength : stop ≤ payload.length) :
    (slice payload start stop).Returns := by
  rw [slice_ok hle hlength]
  exact Checked.returns_ok _

theorem sliceFrom_ok (h : start ≤ payload.length) :
    sliceFrom payload start = .ok (payload.drop start) := by
  rw [sliceFrom, slice_ok h (Nat.le_refl _), List.take_length]

theorem sliceFrom_returns (h : start ≤ payload.length) : (sliceFrom payload start).Returns :=
  slice_returns h (Nat.le_refl _)

/-! ## Exact, prefixed and padded layouts -/

/-- A word as a length or an offset. -/
def usizeFromWire (messageId : UInt32) (field : String) (value : UInt32) : Checked Nat :=
  if usizeMax < value.toNat then reject (.invalidValue messageId field value.toNat)
  else .ok value.toNat

theorem usizeFromWire_eq (messageId : UInt32) (field : String) (value : UInt32) :
    usizeFromWire messageId field value = .ok value.toNat := by
  have hvalue := value.toNat_lt
  refine if_neg ?_
  unfold usizeMax
  omega

/-- The text of the library's error for input that ends too early. -/
def shortReadDetail : String := "failed to fill whole buffer"

section Layouts

variable {α : Type} (l : Layout α) (messageId : UInt32) (payload : List UInt8)

def decodePrefix : Checked α :=
  if payload.length < l.size then reject (.wire "decode" messageId 0 shortReadDetail)
  else .ok (l.read payload)

def decode : Checked α :=
  if payload.length < l.size then reject (.wire "decode" messageId 0 shortReadDetail)
  else if payload.length ≠ l.size then
    reject (.trailingBytes messageId (payload.length - l.size))
  else .ok (l.read payload)

theorem decodePrefix_ok (h : l.size ≤ payload.length) :
    decodePrefix l messageId payload = .ok (l.read payload) := if_neg (Nat.not_lt.mpr h)

theorem decodePrefix_returns : (decodePrefix l messageId payload).Returns := by
  unfold decodePrefix
  split
  · exact Checked.returns_reject _
  · exact Checked.returns_ok _

/-- What follows a value does not matter to a prefix. -/
theorem decodePrefix_write (a : α) (rest : List UInt8) :
    decodePrefix l messageId (l.write a ++ rest) = .ok a := by
  rw [decodePrefix_ok, l.read_write]
  rw [List.length_append, l.length_write]
  exact Nat.le_add_right _ _

theorem decode_write (a : α) : decode l messageId (l.write a) = .ok a := by
  unfold decode
  rw [l.length_write, if_neg (Nat.lt_irrefl _), if_neg (by simp), l.read_write_self]

theorem decodePrefix_length {a : α} (h : decodePrefix l messageId payload = .ok a) :
    l.size ≤ payload.length := by
  by_contra hshort
  rw [decodePrefix, if_pos (Nat.lt_of_not_le hshort)] at h
  cases h

/-- A payload of the exact size is the image of the value read from it. -/
theorem decode_ok {a : α} : decode l messageId payload = .ok a ↔ payload = l.write a := by
  constructor
  · intro h
    unfold decode at h
    split at h
    · cases h
    split at h
    · cases h
    next hlength =>
    cases h
    exact (l.write_read_of_length (not_not.mp hlength)).symm
  · rintro rfl
    exact decode_write l messageId a

theorem decode_returns : (decode l messageId payload).Returns := by
  unfold decode
  split
  · exact Checked.returns_reject _
  split
  · exact Checked.returns_reject _
  · exact Checked.returns_ok _

end Layouts

/-! ## Counted layouts -/

/-- A fixed header and then as many elements as it says. -/
structure Counted (η α : Type) where
  header : Layout η
  count : η → Nat
  element : Layout α

namespace Counted

variable {η α : Type} (c : Counted η α) (messageId : UInt32) (payload : List UInt8)

/-- The header, the elements and what follows them, if the input is long enough. -/
def read : Option ((η × List α) × List UInt8) :=
  if payload.length < c.header.size then none
  else
    let header := c.header.read payload
    let body := payload.drop c.header.size
    let size := c.count header * c.element.size
    if body.length < size then none
    else some ((header, c.element.readMany (c.count header) body), body.drop size)

def write (value : η × List α) : List UInt8 :=
  c.header.write value.1 ++ c.element.writeMany value.2

def decode : Checked (η × List α) :=
  match c.read payload with
  | none => reject (.wire "decode" messageId 0 shortReadDetail)
  | some (value, rest) =>
    if rest.length ≠ 0 then reject (.trailingBytes messageId rest.length) else .ok value

def decodeZeroPadded : Checked (η × List α) :=
  if payload.length % 4 ≠ 0 then reject (.invalidAlignment messageId payload.length)
  else
    match c.read payload with
    | none => reject (.wire "decode" messageId 0 shortReadDetail)
    | some (value, rest) =>
      if 3 < rest.length ∨ rest.any (· ≠ 0) then
        reject (.trailingBytes messageId rest.length)
      else .ok value

end Counted

/-! ## Length checks -/

def validateExactPayload (payload : List UInt8) (messageId : UInt32) (expected : Nat) :
    Checked Unit :=
  if payload.length < expected then reject (.truncated messageId expected payload.length)
  else if expected < payload.length then
    reject (.trailingBytes messageId (payload.length - expected))
  else .ok ()

def validatePayloadBounds (payload : List UInt8) (messageId : UInt32) (minimum maximum : Nat) :
    Checked Unit :=
  if payload.length < minimum then reject (.truncated messageId minimum payload.length)
  else if maximum < payload.length then
    reject (.trailingBytes messageId (payload.length - maximum))
  else .ok ()

def validateZeroPayload (payload : List UInt8) (messageId : UInt32) (expected : Nat) :
    Checked Unit := do
  validateExactPayload payload messageId expected
  if payload.any (· ≠ 0) then reject (.invalidValue messageId "reserved payload byte" 1)
  else .ok ()

/-- Bytes of the expected number are accepted just when all of them are zero. -/
theorem validateZeroPayload_ok {payload : List UInt8} {messageId : UInt32} :
    validateZeroPayload payload messageId payload.length = .ok () ↔ ∀ b ∈ payload, b = 0 := by
  unfold validateZeroPayload validateExactPayload
  rw [if_neg (Nat.lt_irrefl _), if_neg (Nat.lt_irrefl _)]
  change (if payload.any (· ≠ 0) = true then _ else _) = _ ↔ _
  split
  · next hany =>
    constructor
    · intro h
      cases h
    · intro hzero
      obtain ⟨b, hb, hne⟩ := List.any_eq_true.mp hany
      exact absurd (hzero b hb) (of_decide_eq_true hne)
  · next hnone =>
    refine ⟨fun _ b hb => ?_, fun _ => rfl⟩
    by_contra hne
    exact hnone (List.any_eq_true.mpr ⟨b, hb, decide_eq_true hne⟩)

theorem validateExactPayload_returns (payload : List UInt8) (messageId : UInt32)
    (expected : Nat) : (validateExactPayload payload messageId expected).Returns := by
  unfold validateExactPayload
  split
  · exact Checked.returns_reject _
  split
  · exact Checked.returns_reject _
  · exact Checked.returns_ok _

theorem validateZeroPayload_returns (payload : List UInt8) (messageId : UInt32)
    (expected : Nat) : (validateZeroPayload payload messageId expected).Returns := by
  refine (validateExactPayload_returns payload messageId expected).bind fun _ _ => ?_
  split
  · exact Checked.returns_reject _
  · exact Checked.returns_ok _

/-! ## Fixed-width text -/

/-- `str::trim`. -/
def trim (text : String) : String :=
  String.ofList (((text.toList.dropWhile isWhiteSpace).reverse.dropWhile isWhiteSpace).reverse)

theorem toList_trim (text : String) :
    (trim text).toList = (text.toList.dropWhile isWhiteSpace).rdropWhile isWhiteSpace :=
  String.toList_ofList

/-- Trimming leaves a middle part of the text. -/
theorem toList_eq_trim (text : String) :
    ∃ before after, text.toList = before ++ (trim text).toList ++ after := by
  obtain ⟨before, hbefore⟩ := List.dropWhile_suffix isWhiteSpace (l := text.toList)
  obtain ⟨after, hafter⟩ :=
    List.rdropWhile_prefix isWhiteSpace (text.toList.dropWhile isWhiteSpace)
  refine ⟨before, after, ?_⟩
  rw [toList_trim, List.append_assoc, hafter, hbefore]

theorem trim_trim (text : String) : trim (trim text) = trim text := by
  apply String.toList_inj.mp
  rw [toList_trim, toList_trim]
  generalize hstart : text.toList.dropWhile isWhiteSpace = start
  have hfirst : start.dropWhile isWhiteSpace = start := by
    rw [← hstart, List.dropWhile_idempotent]
  -- removing blanks at the end does not uncover any at the start
  have hkept : (start.rdropWhile isWhiteSpace).dropWhile isWhiteSpace =
      start.rdropWhile isWhiteSpace := by
    rw [List.dropWhile_eq_self_iff]
    intro hpos
    have hfront := List.rdropWhile_prefix isWhiteSpace start
    rw [List.IsPrefix.getElem hfront hpos]
    exact List.dropWhile_eq_self_iff.mp hfirst (hpos.trans_le hfront.length_le)
  rw [hkept, List.rdropWhile_idempotent]

theorem mem_of_mem_trim {text : String} {c : Char} (h : c ∈ (trim text).toList) :
    c ∈ text.toList := by
  obtain ⟨before, after, htext⟩ := toList_eq_trim text
  rw [htext]
  exact List.mem_append_left _ (List.mem_append_right _ h)

theorem length_utf8_trim_le (text : String) : (utf8 (trim text)).length ≤ (utf8 text).length := by
  obtain ⟨before, after, htext⟩ := toList_eq_trim text
  unfold utf8
  rw [htext, List.flatMap_append, List.flatMap_append, List.length_append, List.length_append]
  omega

/-- `WireFixedText<N>`. -/
abbrev WireFixedText (n : Nat) := Block n

namespace WireFixedText

variable {n : Nat}
variable {value : String} {messageId : UInt32}

def fromBytes (n : Nat) (messageId : UInt32) (field : String) (value : List UInt8) :
    Checked (WireFixedText n) :=
  if h : value.length ≤ n - 1 then
    .ok ⟨value ++ List.replicate (n - value.length) 0, by
      rw [List.length_append, List.length_replicate]
      omega⟩
  else reject (.textTooLong messageId field value.length (n - 1))

def new (n : Nat) (messageId : UInt32) (field value : String) : Checked (WireFixedText n) :=
  fromBytes n messageId field (utf8 value)

/-- The text before the first NUL, or that fills the field. -/
def text (field : WireFixedText n) : Checked String :=
  match ofUtf8? (field.val.takeWhile (· ≠ 0)) with
  | none => reject .invalidText
  | some text => .ok (trim text)

theorem text_returns (field : WireFixedText n) : field.text.Returns := by
  unfold text
  split
  · exact Checked.returns_reject _
  · exact Checked.returns_ok _

/-- Text that zeros follow is read back, less the blanks around it. -/
theorem text_of_padded {field : WireFixedText n} {padding : Nat}
    (hfield : field.val = utf8 value ++ List.replicate padding 0) (hnul : '\x00' ∉ value.toList) :
    field.text = .ok (trim value) := by
  have hbytes : ∀ b ∈ utf8 value, decide (b ≠ 0) = true := by
    intro b hb
    exact decide_eq_true fun hzero => zero_notMem_utf8 hnul (hzero ▸ hb)
  have hpadding : (List.replicate padding (0 : UInt8)).takeWhile (· ≠ 0) = [] := by
    cases padding with
    | zero => rfl
    | succ padding => rfl
  have htext : field.val.takeWhile (· ≠ 0) = utf8 value := by
    rw [hfield, List.takeWhile_append_of_pos hbytes, hpadding, List.append_nil]
  unfold text
  rw [htext, ofUtf8?_utf8]

/-- The text of a field has no NUL and no blanks around it, and fits the field. -/
theorem text_ok {field : WireFixedText n} (h : field.text = .ok value) :
    '\x00' ∉ value.toList ∧ trim value = value ∧ (utf8 value).length ≤ n := by
  unfold text at h
  split at h
  · cases h
  next content hcontent =>
  cases h
  have hutf8 := utf8_of_ofUtf8? hcontent
  refine ⟨?_, trim_trim content, ?_⟩
  · intro hnul
    -- a NUL would be a zero byte before the first zero byte
    have hzero : 0 ∈ utf8 content := mem_utf8_of_nul (mem_of_mem_trim hnul)
    rw [hutf8] at hzero
    have hne := List.mem_takeWhile_imp hzero
    exact absurd hne (by decide)
  have htrim := length_utf8_trim_le content
  have hfront : (field.val.takeWhile (· ≠ 0)).length ≤ field.val.length :=
    (List.takeWhile_prefix _).length_le
  rw [hutf8] at htrim
  rw [field.property] at hfront
  exact htrim.trans hfront

/-- A field takes a text that leaves room for the NUL. -/
theorem new_ok {fieldName : String} {field : WireFixedText n} :
    new n messageId fieldName value = .ok field ↔ (utf8 value).length ≤ n - 1 ∧
        field.val = utf8 value ++ List.replicate (n - (utf8 value).length) 0 := by
  unfold new fromBytes
  split
  · next hle =>
    rw [Except.ok.injEq]
    constructor
    · rintro rfl
      exact ⟨hle, rfl⟩
    · rintro ⟨-, hval⟩
      exact Subtype.ext hval.symm
  next hlong =>
  constructor
  · intro h
    cases h
  · rintro ⟨hle, -⟩
    exact absurd hle hlong

theorem new_of_le {fieldName : String} (h : (utf8 value).length ≤ n - 1) :
    ∃ field : WireFixedText n, new n messageId fieldName value = .ok field ∧
        field.val = utf8 value ++ List.replicate (n - (utf8 value).length) 0 :=
  ⟨_, dif_pos h, rfl⟩

/-- A text that a field gave is read back from the field made of it. -/
theorem text_of_new {fieldName : String} {field : WireFixedText n}
    (h : new n messageId fieldName value = .ok field) (hnul : '\x00' ∉ value.toList)
    (htrim : trim value = value) : field.text = .ok value := by
  have htext := text_of_padded (new_ok.mp h).2 hnul
  rwa [htrim] at htext

end WireFixedText

end Sccp
