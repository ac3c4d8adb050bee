/-
  Sccp.Lib.Layout

  Binary layouts of a fixed size.

  A layout writes every value in the same number of bytes and reads a value from the
  first bytes of a longer list.  The two are inverse to each other: a value is read
  back whatever follows it, and every sequence of that many bytes is the image of
  the value read from it.  Words, byte blocks, pairs and arrays of layouts are
  layouts, and so is a layout carried over to a record with the same fields.
-/

import Sccp.Lib.Bytes

namespace Sccp

/-- A block of bytes of a fixed length. -/
abbrev Block (n : Nat) := { bytes : List UInt8 // bytes.length = n }

structure Layout (α : Type) where
  size : Nat
  write : α → List UInt8
  read : List UInt8 → α
  length_write : ∀ a, (write a).length = size
  read_write : ∀ a rest, read (write a ++ rest) = a
  write_read : ∀ bytes, size ≤ bytes.length → write (read bytes) = bytes.take size

namespace Layout

variable {α β : Type}

attribute [simp] length_write read_write

/-- A list of the right length is what is written for the value read from it. -/
theorem write_read_of_length (l : Layout α) {bytes : List UInt8} (h : bytes.length = l.size) :
    l.write (l.read bytes) = bytes := by
  rw [l.write_read bytes (Nat.le_of_eq h.symm), ← h, List.take_length]

theorem read_write_self (l : Layout α) (a : α) : l.read (l.write a) = a := by
  have h := l.read_write a []
  rwa [List.append_nil] at h

def u8 : Layout UInt8 where
  size := 1
  write b := [b]
  read bytes := bytes.headD 0
  length_write _ := rfl
  read_write _ _ := rfl
  write_read bytes h := by
    cases bytes with
    | nil => exact absurd h (by decide)
    | cons b rest => rfl

/-- A number in `width` bytes, least significant first. -/
def leWord {ω : Type} (width : Nat) (toNat : ω → Nat) (ofNat : Nat → ω)
    (hlt : ∀ w, toNat w < 256 ^ width) (hinv : ∀ w, ofNat (toNat w) = w)
    (hval : ∀ n, n < 256 ^ width → toNat (ofNat n) = n) : Layout ω where
  size := width
  write w := leBytes width (toNat w)
  read bytes := ofNat (leNat (bytes.take width))
  length_write _ := length_leBytes _ _
  read_write w rest := by
    rw [List.take_left' (length_leBytes _ _), leNat_leBytes (hlt w), hinv]
  write_read bytes h := by
    have hlength : (bytes.take width).length = width := List.length_take_of_le h
    have hnat := leNat_lt (bytes.take width)
    rw [hlength] at hnat
    rw [hval _ hnat]
    have hback := leBytes_leNat (bytes.take width)
    rwa [hlength] at hback

def u16 : Layout UInt16 :=
  leWord 2 UInt16.toNat UInt16.ofNat (fun w => w.toNat_lt) (fun _ => UInt16.ofNat_toNat)
    fun _ h => UInt16.toNat_ofNat_of_lt' h

def u32 : Layout UInt32 :=
  leWord 4 UInt32.toNat UInt32.ofNat (fun w => w.toNat_lt) (fun _ => UInt32.ofNat_toNat)
    fun _ h => UInt32.toNat_ofNat_of_lt' h

/-- The first bytes of a list, as if zeros followed it. -/
def blockOf (n : Nat) (bytes : List UInt8) : Block n :=
  ⟨(bytes ++ List.replicate n 0).take n, by simp⟩

theorem blockOf_of_le {n : Nat} {bytes : List UInt8} (h : n ≤ bytes.length) :
    (blockOf n bytes).val = bytes.take n :=
  List.take_append_of_le_length h

def block (n : Nat) : Layout (Block n) where
  size := n
  write := Subtype.val
  read := blockOf n
  length_write b := b.property
  read_write b rest := by
    apply Subtype.ext
    have hle : n ≤ (b.val ++ rest).length := by
      rw [List.length_append, b.property]
      exact Nat.le_add_right _ _
    rw [blockOf_of_le hle, List.take_left' b.property]
  write_read _ h := blockOf_of_le h

def pair (l : Layout α) (m : Layout β) : Layout (α × β) where
  size := l.size + m.size
  write p := l.write p.1 ++ m.write p.2
  read bytes := (l.read bytes, m.read (bytes.drop l.size))
  length_write p := by rw [List.length_append, l.length_write, m.length_write]
  read_write p rest := by
    rw [List.append_assoc, l.read_write, List.drop_left' (l.length_write _), m.read_write]
  write_read bytes h := by
    have hdrop : m.size ≤ (bytes.drop l.size).length := by
      rw [List.length_drop]
      omega
    dsimp only
    rw [l.write_read bytes (by omega), m.write_read _ hdrop, List.take_add]

/-- A layout carried over to a type with the same values. -/
def iso (l : Layout α) (f : α → β) (g : β → α) (hfg : ∀ b, f (g b) = b := by intro _; rfl)
    (hgf : ∀ a, g (f a) = a := by intro _; rfl) : Layout β where
  size := l.size
  write b := l.write (g b)
  read bytes := f (l.read bytes)
  length_write _ := l.length_write _
  read_write b rest := by rw [l.read_write, hfg]
  write_read bytes h := by rw [hgf, l.write_read bytes h]

/-! ## Arrays -/

/-- The elements one after the other. -/
def writeMany (l : Layout α) (elements : List α) : List UInt8 := elements.flatMap l.write

def readMany (l : Layout α) : Nat → List UInt8 → List α
  | 0, _ => []
  | count + 1, bytes => l.read bytes :: readMany l count (bytes.drop l.size)

@[simp] theorem length_writeMany (l : Layout α) (elements : List α) :
    (l.writeMany elements).length = elements.length * l.size := by
  induction elements with
  | nil => exact (Nat.zero_mul _).symm
  | cons a rest ih =>
    change (l.write a ++ l.writeMany rest).length = _
    rw [List.length_append, l.length_write, ih, List.length_cons, Nat.succ_mul, Nat.add_comm]

@[simp] theorem length_readMany (l : Layout α) (count : Nat) (bytes : List UInt8) :
    (l.readMany count bytes).length = count := by
  induction count generalizing bytes with
  | zero => rfl
  | succ count ih => rw [readMany, List.length_cons, ih]

theorem readMany_writeMany (l : Layout α) (elements : List α) (rest : List UInt8) :
    l.readMany elements.length (l.writeMany elements ++ rest) = elements := by
  induction elements with
  | nil => rfl
  | cons a others ih =>
    change l.read ((l.write a ++ l.writeMany others) ++ rest) ::
      l.readMany others.length (((l.write a ++ l.writeMany others) ++ rest).drop l.size) = _
    rw [List.append_assoc, l.read_write, List.drop_left' (l.length_write _), ih]

theorem writeMany_readMany (l : Layout α) {count : Nat} {bytes : List UInt8}
    (h : count * l.size ≤ bytes.length) :
    l.writeMany (l.readMany count bytes) = bytes.take (count * l.size) := by
  induction count generalizing bytes with
  | zero => rw [Nat.zero_mul, List.take_zero]; rfl
  | succ count ih =>
    rw [Nat.succ_mul] at h
    have hrest : count * l.size ≤ (bytes.drop l.size).length := by
      rw [List.length_drop]
      omega
    change l.write (l.read bytes) ++ l.writeMany (l.readMany count (bytes.drop l.size)) = _
    rw [l.write_read bytes (by omega), ih hrest, Nat.succ_mul, Nat.add_comm, List.take_add]

/-- A fixed number of elements. -/
abbrev Items (α : Type) (n : Nat) := { elements : List α // elements.length = n }

def array (l : Layout α) (n : Nat) : Layout (Items α n) where
  size := n * l.size
  write items := l.writeMany items.val
  read bytes := ⟨l.readMany n bytes, l.length_readMany n bytes⟩
  length_write items := by rw [l.length_writeMany, items.property]
  read_write items rest := by
    apply Subtype.ext
    have h := l.readMany_writeMany items.val rest
    rwa [items.property] at h
  write_read _ h := l.writeMany_readMany h

end Layout

end Sccp
