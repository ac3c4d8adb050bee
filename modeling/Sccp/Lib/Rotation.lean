/-
  Sccp.Lib.Rotation

  A search that goes round `width` places and stops at the first free one.  With at least
  `width` attempts it asks every place, from whichever one it begins.
-/

import Mathlib.Data.Nat.ModEq

namespace Sccp

namespace Rotation

variable {width n pos i : Nat} {free : Nat → Bool}

/-- The first free place among `n`, from `pos` on. -/
def search (width : Nat) (free : Nat → Bool) : Nat → Nat → Option Nat
  | 0, _ => none
  | n + 1, pos => if free pos then some pos else search width free n ((pos + 1) % width)

theorem next_lt (hpos : pos < width) : (pos + 1) % width < width :=
  Nat.mod_lt _ (Nat.zero_lt_of_lt hpos)

/-- Going round from the next place is going round one further from this one. -/
theorem next_add (j : Nat) : ((pos + 1) % width + j) % width = (pos + (j + 1)) % width := by
  rw [Nat.mod_add_mod, Nat.add_assoc, Nat.add_comm 1 j]

/-- The place found is free, and no place asked before it is. -/
theorem search_some (hpos : pos < width) (h : search width free n pos = some i) :
    ∃ k, (pos + k) % width = i ∧ free i = true ∧ ∀ j < k, free ((pos + j) % width) = false := by
  induction n generalizing pos with
  | zero => cases h
  | succ n ih =>
    have hself : (pos + 0) % width = pos := Nat.mod_eq_of_lt hpos
    rw [search] at h
    split at h
    next hfree =>
      cases h
      exact ⟨0, hself, hfree, fun j hj => absurd hj (Nat.not_lt_zero j)⟩
    next hbusy =>
    obtain ⟨k, hk, hfree, hbefore⟩ := ih (next_lt hpos) h
    refine ⟨k + 1, by rw [← next_add, hk], hfree, ?_⟩
    intro j hj
    cases j with
    | zero => rw [hself, Bool.eq_false_iff]; exact hbusy
    | succ j => rw [← next_add]; exact hbefore j (by omega)

/-- Where nothing is found, every place asked was taken. -/
theorem search_none (hpos : pos < width) (h : search width free n pos = none) :
    ∀ j < n, free ((pos + j) % width) = false := by
  induction n generalizing pos with
  | zero => exact fun j hj => absurd hj (Nat.not_lt_zero j)
  | succ n ih =>
    rw [search] at h
    split at h
    · cases h
    next hbusy =>
    intro j hj
    cases j with
    | zero => rw [Nat.add_zero, Nat.mod_eq_of_lt hpos, Bool.eq_false_iff]; exact hbusy
    | succ j => rw [← next_add]; exact ih (next_lt hpos) h j (by omega)

/-- Enough attempts ask every place. -/
theorem search_covers (hpos : pos < width) (hn : width ≤ n)
    (h : search width free n pos = none) (hi : i < width) : free i = false := by
  by_cases hle : pos ≤ i
  · have hasked := search_none hpos h (i - pos) (by omega)
    rwa [show pos + (i - pos) = i by omega, Nat.mod_eq_of_lt hi] at hasked
  · have hasked := search_none hpos h (i + width - pos) (by omega)
    rwa [show pos + (i + width - pos) = i + width by omega, Nat.add_mod_right,
      Nat.mod_eq_of_lt hi] at hasked

/-- The first place is the one found just if it is free and no place between where the search
    begins and the last one is. -/
theorem search_eq_zero_iff (hpos : pos < width) (hn : width ≤ n) : search width free n pos = some 0
      ↔ free 0 = true ∧ ∀ i, 0 < pos → pos ≤ i → i < width → free i = false := by
  constructor
  · intro h
    obtain ⟨k, hk, hfree, hbefore⟩ := search_some hpos h
    refine ⟨hfree, ?_⟩
    intro i hp hle hi
    -- the search has gone round when it comes to the first place
    have hround : width ≤ pos + k := by
      by_contra hlt
      rw [Nat.mod_eq_of_lt (by omega)] at hk
      omega
    have hasked := hbefore (i - pos) (by omega)
    rwa [show pos + (i - pos) = i by omega, Nat.mod_eq_of_lt hi] at hasked
  · rintro ⟨hfirst, hlater⟩
    cases hfound : search width free n pos with
    | none =>
      have htaken := search_covers hpos hn hfound (Nat.zero_lt_of_lt hpos)
      rw [hfirst] at htaken
      cases htaken
    | some i =>
      obtain ⟨k, hk, hfree, hbefore⟩ := search_some hpos hfound
      have hi : i < width := hk ▸ Nat.mod_lt _ (Nat.zero_lt_of_lt hpos)
      by_contra hne
      have hne : i ≠ 0 := fun h => hne (congrArg some h)
      -- any other place is behind the first, which is free
      have hround : width - pos < k ∨ pos = 0 := by
        by_contra hcon
        rcases Nat.lt_or_ge (pos + k) width with hlt | hge
        · rw [Nat.mod_eq_of_lt hlt] at hk
          have htaken := hlater i (by omega) (by omega) hi
          rw [hfree] at htaken
          cases htaken
        · have heq : pos + k = width := by omega
          rw [heq, Nat.mod_self] at hk
          exact hne hk.symm
      have hasked : free 0 = false := by
        rcases hround with hround | hzero
        · have h := hbefore (width - pos) hround
          rwa [show pos + (width - pos) = width by omega, Nat.mod_self] at h
        have hk0 : 0 < k := by
          by_contra h0
          rw [hzero, show k = 0 by omega, Nat.zero_mod] at hk
          exact hne hk.symm
        have h := hbefore 0 hk0
        rwa [hzero, Nat.zero_mod] at h
      rw [hfirst] at hasked
      cases hasked

end Rotation

end Sccp
