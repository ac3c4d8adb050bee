/-
  Sccp.Lib.Leases

  Exclusive leases in two stages.  A client first reserves a key and then takes
  it; a third map says who holds each key.  The books balance when a key is held
  by exactly the client that reserved it or is taking it, and then no two
  clients can be at one key.
-/

import Mathlib.Logic.Function.Basic

namespace Sccp

/-- The books: who holds a key, what a client has reserved, what it is taking. -/
structure Leases (K C : Type*) where
  holder : K → Option C
  reserved : C → Option K
  taking : C → Option K

namespace Leases

variable {K C : Type*} {l : Leases K C} {k k' : K} {c c' : C}

/-- A client is at a key: it has reserved it or is taking it. -/
def At (l : Leases K C) (c : C) (k : K) : Prop := l.reserved c = some k ∨ l.taking c = some k

/-- A key is held by the client at it. -/
def Balanced (l : Leases K C) : Prop := ∀ k c, l.holder k = some c ↔ l.At c k

/-- Balanced books in which no client has reserved the key it is taking. -/
structure Sound (l : Leases K C) : Prop where
  balanced : l.Balanced
  apart : ∀ c k, l.reserved c = some k → l.taking c ≠ some k

theorem Balanced.exclusive (h : l.Balanced) (hc : l.At c k) (hc' : l.At c' k) : c = c' := by
  have h₁ := (h k c).mpr hc
  rw [(h k c').mpr hc'] at h₁
  exact (Option.some.inj h₁).symm

theorem sound_empty : (⟨fun _ => none, fun _ => none, fun _ => none⟩ : Leases K C).Sound :=
  ⟨fun k c => by simp [At], fun c k h => by cases h⟩

/-! ## What may happen to a lease -/

variable [DecidableEq K] [DecidableEq C]

def grant (l : Leases K C) (k : K) (c : C) : Leases K C :=
  { l with holder := Function.update l.holder k (some c)
           reserved := Function.update l.reserved c (some k) }

def release (l : Leases K C) (k : K) (c : C) : Leases K C :=
  { l with holder := Function.update l.holder k none
           reserved := Function.update l.reserved c none }

def promote (l : Leases K C) (k : K) (c : C) : Leases K C :=
  { l with reserved := Function.update l.reserved c none
           taking := Function.update l.taking c (some k) }

def finish (l : Leases K C) (k : K) (c : C) : Leases K C :=
  { l with holder := Function.update l.holder k none
           taking := Function.update l.taking c none }

/-- A free key is granted to a client that has nothing reserved. -/
theorem Sound.grant (h : l.Sound) (hk : l.holder k = none) (hc : l.reserved c = none) :
    (l.grant k c).Sound := by
  have htaking : l.taking c ≠ some k := fun ht => by
    rw [(h.balanced k c).mpr (.inr ht)] at hk; cases hk
  refine ⟨fun k' c' => ?_, fun c' k' => ?_⟩
  · have hb := h.balanced k' c'
    simp only [Leases.grant, At, Function.update_apply] at hb ⊢
    by_cases hk' : k' = k
    · subst hk'
      by_cases hc' : c' = c
      · simp [hc']
      · have : ¬ (l.reserved c' = some k' ∨ l.taking c' = some k') := by
          rw [← hb, hk]; simp
        simp [hc', this, Ne.symm hc']
    by_cases hc' : c' = c
    · subst hc'
      simp only [hk', if_false, if_true]
      rw [hb, hc]
      simp [Ne.symm hk']
    · simp [hk', hc', hb]
  · simp only [Leases.grant, Function.update_apply]
    split
    · rename_i hc'
      subst hc'
      intro hk' ht
      cases hk'
      exact htaking ht
    · exact h.apart c' k'

/-- A client gives up what it has reserved. -/
theorem Sound.release (h : l.Sound) (hc : l.reserved c = some k) : (l.release k c).Sound := by
  have hheld := (h.balanced k c).mpr (.inl hc)
  refine ⟨fun k' c' => ?_, fun c' k' => ?_⟩
  · have hb := h.balanced k' c'
    simp only [Leases.release, At, Function.update_apply] at hb ⊢
    by_cases hk' : k' = k
    · subst hk'
      -- no other client is at the key, and this one is not taking it
      by_cases hc' : c' = c
      · subst hc'; simp [h.apart c' k' hc]
      · have : ¬ (l.reserved c' = some k' ∨ l.taking c' = some k') := by
          rw [← hb, hheld]; simpa using Ne.symm hc'
        simp [hc', this]
    by_cases hc' : c' = c
    · subst hc'
      simp only [hk', if_false, if_true]
      rw [hb, hc]
      simp [Ne.symm hk']
    · simp [hk', hc', hb]
  · simp only [Leases.release, Function.update_apply]
    split
    · intro hk'; cases hk'
    · exact h.apart c' k'

omit [DecidableEq K] in
/-- A client starts to take what it has reserved. -/
theorem Sound.promote (h : l.Sound) (hc : l.reserved c = some k) (ht : l.taking c = none) :
    (l.promote k c).Sound := by
  refine ⟨fun k' c' => ?_, fun c' k' => ?_⟩
  · have hb := h.balanced k' c'
    simp only [Leases.promote, At, Function.update_apply] at hb ⊢
    by_cases hc' : c' = c
    · subst hc'
      simp only [if_true]
      rw [hb, hc, ht]
      simp
    · simp [hc', hb]
  · simp only [Leases.promote, Function.update_apply]
    split
    · intro hk'; cases hk'
    · exact h.apart c' k'

/-- A client is done with the key it was taking. -/
theorem Sound.finish (h : l.Sound) (hc : l.taking c = some k) : (l.finish k c).Sound := by
  have hheld := (h.balanced k c).mpr (.inr hc)
  refine ⟨fun k' c' => ?_, fun c' k' => ?_⟩
  · have hb := h.balanced k' c'
    simp only [Leases.finish, At, Function.update_apply] at hb ⊢
    by_cases hk' : k' = k
    · subst hk'
      by_cases hc' : c' = c
      · subst hc'
        have : l.reserved c' ≠ some k' := fun hr => h.apart c' k' hr hc
        simp [this]
      · have : ¬ (l.reserved c' = some k' ∨ l.taking c' = some k') := by
          rw [← hb, hheld]; simpa using Ne.symm hc'
        simp [hc', this]
    by_cases hc' : c' = c
    · subst hc'
      simp only [hk', if_false, if_true]
      rw [hb, hc]
      simp [Ne.symm hk']
    · simp [hk', hc', hb]
  · simp only [Leases.finish, Function.update_apply]
    split
    · intro _ hk'; cases hk'
    · exact h.apart c' k'

end Leases

end Sccp
