/-
  Sccp.Lib.Bytes

  Little-endian numbers as lists of bytes.  `leBytes w n` writes `n` in `w` bytes
  and `leNat` reads a list of bytes of any length; on the values that fit, the two
  are inverse to each other.
-/

import Mathlib.Data.List.Basic
import Mathlib.Tactic.Ring

namespace Sccp

/-- The `width` low bytes of `n`, least significant first. -/
def leBytes : Nat → Nat → List UInt8
  | 0, _ => []
  | width + 1, n => UInt8.ofNat n :: leBytes width (n / 256)

/-- The number a list of bytes stands for, least significant first. -/
def leNat : List UInt8 → Nat
  | [] => 0
  | b :: bs => b.toNat + 256 * leNat bs

@[simp] theorem length_leBytes (width n : Nat) : (leBytes width n).length = width := by
  induction width generalizing n with
  | zero => rfl
  | succ width ih => simp [leBytes, ih]

theorem leNat_lt (bs : List UInt8) : leNat bs < 256 ^ bs.length := by
  induction bs with
  | nil => simp [leNat]
  | cons b bs ih =>
    have hb : b.toNat < 256 := b.toNat_lt
    rw [leNat, List.length_cons, Nat.pow_succ]
    omega

/-- Reading back what was written gives the number, reduced to the width. -/
theorem leNat_leBytes_mod (width n : Nat) : leNat (leBytes width n) = n % 256 ^ width := by
  induction width generalizing n with
  | zero => simp [leBytes, leNat, Nat.mod_one]
  | succ width ih =>
    have hlow : (UInt8.ofNat n).toNat = n % 256 := by simp
    rw [leBytes, leNat, ih, hlow, Nat.pow_succ, Nat.mul_comm (256 ^ width) 256, Nat.mod_mul]

theorem leNat_leBytes {width n : Nat} (h : n < 256 ^ width) : leNat (leBytes width n) = n := by
  rw [leNat_leBytes_mod, Nat.mod_eq_of_lt h]

/-- Writing what was read gives the bytes back. -/
theorem leBytes_leNat (bs : List UInt8) : leBytes bs.length (leNat bs) = bs := by
  induction bs with
  | nil => rfl
  | cons b bs ih =>
    have hb : b.toNat < 256 := b.toNat_lt
    have hlow : UInt8.ofNat (b.toNat + 256 * leNat bs) = b := by
      apply UInt8.toNat.inj
      rw [UInt8.toNat_ofNat']
      omega
    have hhigh : (b.toNat + 256 * leNat bs) / 256 = leNat bs := by omega
    rw [List.length_cons, leNat, leBytes, hlow, hhigh, ih]

/-- Only the number modulo the width is written. -/
theorem leBytes_mod (width n : Nat) : leBytes width (n % 256 ^ width) = leBytes width n := by
  have h := leBytes_leNat (leBytes width n)
  rwa [length_leBytes, leNat_leBytes_mod] at h

/-- The low bytes of a number come first. -/
theorem leBytes_add (low high n : Nat) :
    leBytes (low + high) n = leBytes low n ++ leBytes high (n / 256 ^ low) := by
  induction low generalizing n with
  | zero => simp [leBytes]
  | succ low ih =>
    rw [Nat.succ_add, leBytes, leBytes, ih, Nat.div_div_eq_div_mul, ← Nat.pow_succ',
      List.cons_append]

theorem leBytes_append {low m : Nat} (hm : m < 256 ^ low) (high n : Nat) :
    leBytes low m ++ leBytes high n = leBytes (low + high) (m + 256 ^ low * n) := by
  have hmod : (m + 256 ^ low * n) % 256 ^ low = m := by
    rw [Nat.add_mul_mod_self_left, Nat.mod_eq_of_lt hm]
  have hdiv : (m + 256 ^ low * n) / 256 ^ low = n := by
    rw [Nat.add_mul_div_left _ _ (Nat.pow_pos (by decide)), Nat.div_eq_of_lt hm, Nat.zero_add]
  rw [leBytes_add, hdiv, ← leBytes_mod low (m + _), hmod]

end Sccp
