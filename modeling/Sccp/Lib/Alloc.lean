/-
  Sccp.Lib.Alloc

  Allocation of fresh numbers from a wrapping counter.

  The driver's allocators try `next`, `next + 1`, ... (wrapping around at the
  counter's width and skipping zero) until the candidate is unused.  The search
  is bounded here by the number of used values; past that bound every value the
  counter can take is used and the source never returns.
-/

import Mathlib.Algebra.Group.Nat.Defs
import Mathlib.Data.List.Basic
import Mathlib.Data.List.Nodup

namespace Sccp

/-- `x.wrapping_add(1).max(1)` at width `w`. -/
def wrappingSucc (w n : Nat) : Nat := max ((n + 1) % 2 ^ w) 1

/-- A number larger than every used one. -/
def aboveAll : List Nat → Nat
  | [] => 1
  | n :: rest => max (n + 1) (aboveAll rest)

/-- The first unused candidate from `next` on, with the counter after it. -/
def allocate (w : Nat) (used : List Nat) : Nat → Nat → Nat × Nat
  | 0, next => (aboveAll used, next)
  | fuel + 1, next =>
    let id := max next 1
    if id ∈ used then allocate w used fuel (wrappingSucc w id)
    else (id, wrappingSucc w id)

theorem lt_aboveAll {used : List Nat} {n : Nat} (h : n ∈ used) : n < aboveAll used := by
  induction used with
  | nil => simp at h
  | cons m rest ih =>
    simp only [aboveAll]
    rcases List.mem_cons.mp h with rfl | h'
    · omega
    · have := ih h'
      omega

/-- An allocated number is not in use. -/
theorem allocate_notMem (w : Nat) (used : List Nat) (fuel next : Nat) :
    (allocate w used fuel next).1 ∉ used := by
  induction fuel generalizing next with
  | zero =>
    intro h
    exact Nat.lt_irrefl _ (lt_aboveAll h)
  | succ fuel ih =>
    simp only [allocate]
    split
    · exact ih _
    · assumption

end Sccp
