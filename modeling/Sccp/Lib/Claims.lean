/-
  Sccp.Lib.Claims

  Keys claimed by open records.

  An open record claims some keys, and a second table says which record has claimed
  a key.  The books are exact when that table names a record for a key just when the
  record is open and claims the key; no two open records then claim one key.
-/

import Sccp.Lib.Table

namespace Sccp

namespace Claims

variable {K I R : Type*} [DecidableEq K] [DecidableEq I] {keys : R → List K}
  {records : Table I R} {owners : Table K I}

/-- A key has an owner just when the owner is open and claims it. -/
def Exact (keys : R → List K) (records : Table I R) (owners : Table K I) : Prop :=
  ∀ k i, owners.get? k = some i ↔ ∃ r, records.get? i = some r ∧ k ∈ keys r

/-- Give some keys to one owner. -/
def claim (owners : Table K I) (claimed : List K) (i : I) : Table K I :=
  claimed.foldl (fun t k => t.insert k i) owners

/-- Take some keys from whoever has them. -/
def release (owners : Table K I) (claimed : List K) : Table K I :=
  claimed.foldl (fun t k => t.erase k) owners

omit [DecidableEq I] in
theorem get?_claim (owners : Table K I) (claimed : List K) (i : I) (k : K) :
    (claim owners claimed i).get? k = if k ∈ claimed then some i else owners.get? k := by
  induction claimed generalizing owners with
  | nil => rfl
  | cons c rest ih =>
    change (claim (owners.insert c i) rest i).get? k = _
    rw [ih, Table.get?_insert]
    by_cases hrest : k ∈ rest
    · rw [if_pos hrest, if_pos (List.mem_cons_of_mem c hrest)]
    · by_cases hc : k = c
      · rw [if_neg hrest, if_pos hc, if_pos (List.mem_cons.mpr (.inl hc))]
      · rw [if_neg hrest, if_neg hc, if_neg (by simp [hc, hrest])]

omit [DecidableEq I] in
theorem get?_release (owners : Table K I) (claimed : List K) (k : K) :
    (release owners claimed).get? k = if k ∈ claimed then none else owners.get? k := by
  induction claimed generalizing owners with
  | nil => rfl
  | cons c rest ih =>
    change (release (owners.erase c) rest).get? k = _
    rw [ih, Table.get?_erase]
    by_cases hrest : k ∈ rest
    · rw [if_pos hrest, if_pos (List.mem_cons_of_mem c hrest)]
    · by_cases hc : k = c
      · rw [if_neg hrest, if_pos hc, if_pos (List.mem_cons.mpr (.inl hc))]
      · rw [if_neg hrest, if_neg hc, if_neg (by simp [hc, hrest])]

theorem exact_empty : Exact keys (∅ : Table I R) ∅ := by
  intro k i
  constructor
  · intro h
    cases h
  · rintro ⟨r, h, -⟩
    cases h

/-- No two open records claim one key. -/
theorem Exact.apart (h : Exact keys records owners) {i j : I} {r s : R} {k : K}
    (hr : records.get? i = some r) (hs : records.get? j = some s) (hkr : k ∈ keys r)
    (hks : k ∈ keys s) : i = j := by
  have hi := (h k i).mpr ⟨r, hr, hkr⟩
  have hj := (h k j).mpr ⟨s, hs, hks⟩
  rw [hi] at hj
  exact Option.some.inj hj

/-- A key without an owner is not claimed. -/
theorem Exact.notMem_of_none (h : Exact keys records owners) {i : I} {r : R} {k : K}
    (hr : records.get? i = some r) (hk : owners.get? k = none) : k ∉ keys r := by
  intro hmem
  have howner := (h k i).mpr ⟨r, hr, hmem⟩
  rw [hk] at howner
  cases howner

/-- A new record may claim keys that nobody has. -/
theorem Exact.open_record (h : Exact keys records owners) {i : I} {r : R}
    (hi : records.get? i = none) (hfree : ∀ k ∈ keys r, owners.get? k = none) :
    Exact keys (records.insert i r) (claim owners (keys r) i) := by
  intro k j
  rw [get?_claim, Table.get?_insert]
  by_cases hk : k ∈ keys r
  · rw [if_pos hk]
    constructor
    · intro hj
      cases hj
      exact ⟨r, if_pos rfl, hk⟩
    rintro ⟨s, hs, hks⟩
    by_cases hj : j = i
    · rw [hj]
    · rw [if_neg hj] at hs
      exact absurd hks (h.notMem_of_none hs (hfree k hk))
  · rw [if_neg hk, h k j]
    constructor
    · rintro ⟨s, hs, hks⟩
      have hj : j ≠ i := by
        rintro rfl
        rw [hi] at hs
        cases hs
      exact ⟨s, by rw [if_neg hj, hs], hks⟩
    rintro ⟨s, hs, hks⟩
    by_cases hj : j = i
    · rw [if_pos hj] at hs
      cases hs
      exact absurd hks hk
    · rw [if_neg hj] at hs
      exact ⟨s, hs, hks⟩

/-- A record that is closed gives its keys back. -/
theorem Exact.close_record (h : Exact keys records owners) {i : I} {r : R}
    (hr : records.get? i = some r) : Exact keys (records.erase i) (release owners (keys r)) := by
  intro k j
  rw [get?_release, Table.get?_erase]
  by_cases hk : k ∈ keys r
  · rw [if_pos hk]
    constructor
    · intro hj
      cases hj
    rintro ⟨s, hs, hks⟩
    by_cases hj : j = i
    · rw [if_pos hj] at hs
      cases hs
    · rw [if_neg hj] at hs
      exact absurd (h.apart hs hr hks hk) hj
  · rw [if_neg hk, h k j]
    constructor
    · rintro ⟨s, hs, hks⟩
      have hj : j ≠ i := by
        rintro rfl
        rw [hr] at hs
        cases hs
        exact hk hks
      exact ⟨s, by rw [if_neg hj, hs], hks⟩
    rintro ⟨s, hs, hks⟩
    by_cases hj : j = i
    · rw [if_pos hj] at hs
      cases hs
    · rw [if_neg hj] at hs
      exact ⟨s, hs, hks⟩

end Claims

end Sccp
