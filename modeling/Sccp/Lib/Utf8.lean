/-
  Sccp.Lib.Utf8

  Text as the bytes of its UTF-8 encoding.  Decoding is partial; it is the inverse of
  encoding, and only the character NUL has a zero byte in its encoding.  A text without NUL
  can therefore be ended by a zero byte, and a sequence of such texts is read back one by one.
-/

import Mathlib.Algebra.GroupWithZero.Nat
import Mathlib.Data.List.Basic

namespace Sccp

/-- The bytes of a text. -/
def utf8 (text : String) : List UInt8 := text.toList.flatMap String.utf8EncodeChar

/-- The text that bytes encode, if they encode one. -/
def ofUtf8? (bytes : List UInt8) : Option String := String.fromUTF8? bytes.toByteArray

theorem ofUtf8?_utf8 (text : String) : ofUtf8? (utf8 text) = some text := by
  have hbytes : (utf8 text).toByteArray = text.toByteArray := String.utf8Encode_toList
  unfold ofUtf8? String.fromUTF8?
  rw [hbytes, dif_pos text.isValidUTF8]
  rfl

theorem utf8_of_ofUtf8? {bytes : List UInt8} {text : String} (h : ofUtf8? bytes = some text) :
    utf8 text = bytes := by
  unfold ofUtf8? String.fromUTF8? at h
  split at h
  · cases h
    have hbytes : (utf8 (String.fromUTF8 bytes.toByteArray ‹_›)).toByteArray = bytes.toByteArray :=
      String.utf8Encode_toList
    have hlists := congrArg (fun b => b.data.toList) hbytes
    simpa only [List.toList_data_toByteArray] using hlists
  · cases h

theorem utf8ByteSize_eq_sum (text : String) :
    text.utf8ByteSize = (text.toList.map Char.utf8Size).sum := by
  have hbytes : (utf8 text).toByteArray = text.toByteArray := String.utf8Encode_toList
  have hsize := congrArg ByteArray.size hbytes
  rw [List.size_toByteArray, utf8, List.length_flatMap] at hsize
  simp only [String.length_utf8EncodeChar] at hsize
  exact hsize.symm

/-- A byte of the ASCII range only encodes the character of its number. -/
theorem toNat_of_mem_utf8EncodeChar {c : Char} {b : UInt8} (hb : b ∈ String.utf8EncodeChar c)
    (h : b.toNat < 128) : c.toNat = b.toNat := by
  have hbyte (n : Nat) (hlow : 128 ≤ n) (hlt : n < 256) : b ≠ UInt8.ofNat n := by
    rintro rfl
    rw [UInt8.toNat_ofNat_of_lt' hlt] at h
    omega
  unfold String.utf8EncodeChar at hb
  dsimp only at hb
  split at hb
  · next hle =>
    rw [List.mem_singleton] at hb
    rw [hb, UInt8.toNat_ofNat_of_lt' (by show _ < 256; omega)]
    rfl
  split at hb
  · simp only [List.mem_cons, List.not_mem_nil, or_false] at hb
    rcases hb with hb | hb
    · exact absurd hb (hbyte _ (by omega) (by omega))
    · exact absurd hb (hbyte _ (by omega) (by omega))
  split at hb
  · simp only [List.mem_cons, List.not_mem_nil, or_false] at hb
    rcases hb with hb | hb | hb
    · exact absurd hb (hbyte _ (by omega) (by omega))
    · exact absurd hb (hbyte _ (by omega) (by omega))
    · exact absurd hb (hbyte _ (by omega) (by omega))
  simp only [List.mem_cons, List.not_mem_nil, or_false] at hb
  rcases hb with hb | hb | hb | hb
  · exact absurd hb (hbyte _ (by omega) (by omega))
  · exact absurd hb (hbyte _ (by omega) (by omega))
  · exact absurd hb (hbyte _ (by omega) (by omega))
  · exact absurd hb (hbyte _ (by omega) (by omega))

/-- A text without NUL has no zero byte. -/
theorem zero_notMem_utf8 {text : String} (h : '\x00' ∉ text.toList) : 0 ∉ utf8 text := by
  intro hzero
  obtain ⟨c, hc, hb⟩ := List.mem_flatMap.mp hzero
  have hnul : c = '\x00' := Char.toNat_inj.mp (toNat_of_mem_utf8EncodeChar hb (by decide))
  exact h (hnul ▸ hc)

/-- A NUL is a zero byte. -/
theorem mem_utf8_of_nul {text : String} (h : '\x00' ∈ text.toList) : 0 ∈ utf8 text :=
  List.mem_flatMap.mpr ⟨'\x00', h, by decide⟩

/-! ## Text ended by a zero byte -/

/-- The text has no NUL. -/
def NulFree (text : String) : Prop := '\x00' ∉ text.toList

instance (text : String) : Decidable (NulFree text) := inferInstanceAs (Decidable (¬ _))

/-- The bytes before the first zero byte, and those after it. -/
def splitZero : List UInt8 → Option (List UInt8 × List UInt8)
  | [] => none
  | b :: rest => if b = 0 then some ([], rest) else (splitZero rest).map fun p => (b :: p.1, p.2)

theorem splitZero_append {bytes : List UInt8} (h : 0 ∉ bytes) (rest : List UInt8) :
    splitZero (bytes ++ 0 :: rest) = some (bytes, rest) := by
  induction bytes with
  | nil => rfl
  | cons b bytes ih =>
    rw [List.mem_cons, not_or] at h
    rw [List.cons_append, splitZero, if_neg (Ne.symm h.1), ih h.2]
    rfl

/-- The text with a zero byte after it. -/
def zeroEnded (text : String) : List UInt8 := utf8 text ++ [0]

theorem splitZero_zeroEnded {text : String} (h : NulFree text) (rest : List UInt8) :
    splitZero (zeroEnded text ++ rest) = some (utf8 text, rest) := by
  unfold zeroEnded
  rw [List.append_assoc]
  exact splitZero_append (zero_notMem_utf8 h) rest

@[simp] theorem length_zeroEnded (text : String) :
    (zeroEnded text).length = (utf8 text).length + 1 := by
  simp [zeroEnded]

end Sccp
