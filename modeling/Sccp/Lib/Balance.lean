/-
  Sccp.Lib.Balance

  Journals in balance.  Entries of a journal open and close keys; the journal is in balance when
  every key was opened as often as it was closed, plus once more while it is open.
-/

import Mathlib.Data.List.Count

namespace Sccp

namespace Journal

universe u v

variable {K : Type u} {E : Type v} {opens closes : K → E → Bool}

/-- Every opening is met by one closing, but for those of the keys that are open. -/
def Balanced (opens closes : K → E → Bool) (isOpen : K → Bool) (journal : List E) : Prop :=
  ∀ k, journal.countP (opens k) = journal.countP (closes k) + (isOpen k).toNat

theorem balanced_nil : Balanced opens closes (fun _ => false) [] := fun _ => rfl

/-- Entries that account for what they change keep the balance. -/
theorem Balanced.append {isOpen isOpen' : K → Bool} {journal entries : List E}
    (h : Balanced opens closes isOpen journal)
    (hentries : ∀ k, entries.countP (opens k) + (isOpen k).toNat
      = entries.countP (closes k) + (isOpen' k).toNat) :
    Balanced opens closes isOpen' (journal ++ entries) := by
  intro k
  have hk := h k
  have hnew := hentries k
  rw [List.countP_append, List.countP_append]
  omega

/-- Entries that neither open nor close a key leave the balance as it is. -/
theorem Balanced.append_neutral {isOpen : K → Bool} {journal entries : List E}
    (h : Balanced opens closes isOpen journal)
    (hneutral : ∀ k, ∀ e ∈ entries, opens k e = false ∧ closes k e = false) :
    Balanced opens closes isOpen (journal ++ entries) := by
  refine h.append fun k => ?_
  have hopens : entries.countP (opens k) = 0 :=
    List.countP_eq_zero.mpr fun e he => by simp [(hneutral k e he).1]
  have hcloses : entries.countP (closes k) = 0 :=
    List.countP_eq_zero.mpr fun e he => by simp [(hneutral k e he).2]
  rw [hopens, hcloses]

end Journal

end Sccp
