/-
  Sccp.Lib.Positions

  A table of the positions of keys in a list.

  The table is exact when it names a position for a key just when the key stands there.  Then
  no key stands twice, and a key that is taken out leaves an exact table once the keys behind
  it are numbered anew.
-/

import Sccp.Lib.Table

namespace Sccp

namespace Positions

variable {K : Type*} [DecidableEq K] {t : Table K Nat} {keys : List K} {k : K} {i : Nat}

def Exact (t : Table K Nat) (keys : List K) : Prop :=
  ∀ k i, t.get? k = some i ↔ keys[i]? = some k

/-- Number the keys of a list from a position on. -/
def reindex (t : Table K Nat) : Nat → List K → Table K Nat
  | _, [] => t
  | i, k :: rest => reindex (t.insert k i) (i + 1) rest

theorem exact_empty : Exact (∅ : Table K Nat) [] := by
  intro k i
  simp

theorem Exact.position_unique (h : Exact t keys) {j : Nat} (hi : keys[i]? = some k)
    (hj : keys[j]? = some k) : i = j := by
  have hi := (h k i).mpr hi
  rw [(h k j).mpr hj] at hi
  exact (Option.some.inj hi).symm

theorem Exact.nodup (h : Exact t keys) : keys.Nodup := by
  rw [List.nodup_iff_getElem?_ne_getElem?]
  intro i j hij hj heq
  have hsome : keys[j]? = some keys[j] := List.getElem?_eq_getElem hj
  exact absurd (h.position_unique (heq.trans hsome) hsome) (Nat.ne_of_lt hij)

theorem Exact.contains_iff (h : Exact t keys) : t.contains k = true ↔ k ∈ keys := by
  rw [Table.contains_iff, List.mem_iff_getElem?]
  exact exists_congr fun i => h k i

/-- A new key at the end. -/
theorem Exact.push (h : Exact t keys) (hk : k ∉ keys) :
    Exact (t.insert k keys.length) (keys ++ [k]) := by
  intro k' i
  rw [Table.get?_insert, List.getElem?_append]
  by_cases hk' : k' = k
  · subst hk'
    rw [if_pos rfl]
    split
    next hlt =>
      refine iff_of_false (fun heq => ?_) fun hsome => hk (List.mem_of_getElem? hsome)
      exact absurd (Option.some.inj heq) (Nat.ne_of_gt hlt)
    next hge =>
      rw [List.getElem?_singleton]
      simp
      omega
  · rw [if_neg hk', h k' i]
    split
    · exact Iff.rfl
    next hge =>
      rw [List.getElem?_eq_none (by omega), List.getElem?_singleton]
      simp [Ne.symm hk']

theorem get?_reindex_of_not_mem (hk : k ∉ keys) : (reindex t i keys).get? k = t.get? k := by
  induction keys generalizing t i with
  | nil => rfl
  | cons head rest ih =>
    rw [List.mem_cons, not_or] at hk
    rw [reindex, ih hk.2, Table.get?_insert, if_neg hk.1]

theorem get?_reindex (hn : keys.Nodup) {j : Nat} (hk : keys[j]? = some k) :
    (reindex t i keys).get? k = some (i + j) := by
  induction keys generalizing t i j with
  | nil => cases hk
  | cons head rest ih =>
    rw [List.nodup_cons] at hn
    cases j with
    | zero =>
      cases hk
      rw [reindex, get?_reindex_of_not_mem hn.1, Table.get?_insert, if_pos rfl, Nat.add_zero]
    | succ j =>
      rw [reindex, ih hn.2 hk]
      congr 1
      omega

/-- A key taken out, and the keys behind it numbered anew. -/
theorem Exact.remove (h : Exact t keys) (hk : keys[i]? = some k) :
    Exact (reindex (t.erase k) i ((keys.eraseIdx i).drop i)) (keys.eraseIdx i) := by
  have hn := h.nodup
  have hdrop : (keys.eraseIdx i).drop i = keys.drop (i + 1) := by
    refine List.ext_getElem? fun j => ?_
    rw [List.getElem?_drop, List.getElem?_drop, List.getElem?_eraseIdx, if_neg (by omega)]
    congr 1
    omega
  rw [hdrop]
  intro k' j
  rw [List.getElem?_eraseIdx]
  by_cases hbehind : k' ∈ keys.drop (i + 1)
  · obtain ⟨m, hm⟩ := List.mem_iff_getElem?.mp hbehind
    rw [get?_reindex (hn.sublist (List.drop_sublist _ _)) hm]
    rw [List.getElem?_drop] at hm
    constructor
    · intro heq
      cases heq
      rw [if_neg (by omega), ← hm]
      congr 1
      omega
    · intro hj
      split at hj
      · have := h.position_unique hm hj
        omega
      · have := h.position_unique hm hj
        congr 1
        omega
  · have hfront : ∀ m, keys[m]? = some k' → m ≤ i := by
      intro m hm
      by_contra hlt
      refine hbehind (List.mem_iff_getElem?.mpr ⟨m - (i + 1), ?_⟩)
      rw [List.getElem?_drop, ← hm]
      congr 1
      omega
    rw [get?_reindex_of_not_mem hbehind, Table.get?_erase]
    split
    next heq =>
      subst heq
      refine iff_of_false (fun h => by cases h) fun hj => ?_
      split at hj
      · have := h.position_unique hk hj
        omega
      · have := h.position_unique hk hj
        omega
    next hne =>
      rw [h k' j]
      split
      · exact Iff.rfl
      next hge =>
        refine iff_of_false (fun hj => ?_) fun hj => ?_
        · have heq : j = i := by have := hfront j hj; omega
          rw [heq, hk] at hj
          exact hne (Option.some.inj hj).symm
        · have := hfront _ hj
          omega

end Positions

end Sccp
