/-
  Sccp.Lib.Lanes

  Lanes: for each resource a queue of the operations that reserved it, oldest
  first.  An operation enters the lanes of all its resources at once, at the
  back, and may leave them from any place; whoever comes to the front of a lane
  when it leaves is a candidate to be woken.
-/

import Sccp.Lib.Table

namespace Sccp

universe u v

/-- The queues of the resources that somebody reserved. -/
abbrev Lanes (R : Type u) (I : Type v) := Table R (List I)

namespace Lanes

variable {R : Type u} {I : Type v} [DecidableEq R]
variable {t : Lanes R I} {queue : List I}

/-- The queue of a resource. -/
def lane (t : Lanes R I) (r : R) : List I := (t.get? r).getD []

/-- Enter the lanes of a list of resources. -/
def pushAll (t : Lanes R I) (i : I) : List R → Lanes R I
  | [] => t
  | r :: rest => pushAll (t.insert r (t.lane r ++ [i])) i rest

/-- No lane is kept without an operation in it. -/
def NoneEmpty (t : Lanes R I) : Prop := ∀ r queue, t.get? r = some queue → queue ≠ []

theorem lane_insert (t : Lanes R I) (r x : R) (queue : List I) :
    lane (t.insert r queue) x = if x = r then queue else t.lane x := by
  unfold lane
  rw [Table.get?_insert]
  split <;> rfl

theorem lane_erase (t : Lanes R I) (r x : R) :
    lane (t.erase r) x = if x = r then [] else t.lane x := by
  unfold lane
  rw [Table.get?_erase]
  split <;> rfl

theorem lane_of_none {r : R} (h : t.get? r = none) : t.lane r = [] := by
  rw [lane, h]
  rfl

theorem lane_of_some {r : R} (h : t.get? r = some queue) : t.lane r = queue := by
  rw [lane, h]
  rfl

/-! ## Entering -/

theorem lane_pushAll (t : Lanes R I) (i : I) {rs : List R} (hrs : rs.Nodup) (x : R) :
    lane (t.pushAll i rs) x = if x ∈ rs then t.lane x ++ [i] else t.lane x := by
  induction rs generalizing t with
  | nil => simp [pushAll]
  | cons r rest ih =>
    obtain ⟨hr, hrest⟩ := List.nodup_cons.mp hrs
    rw [pushAll, ih _ hrest, lane_insert]
    by_cases hx : x = r
    · subst hx
      simp [hr]
    · simp [hx]

theorem noneEmpty_insert (h : t.NoneEmpty) {r : R} (hq : queue ≠ []) :
    NoneEmpty (t.insert r queue) := by
  intro x q hget
  rw [Table.get?_insert] at hget
  split at hget
  · cases hget
    exact hq
  · exact h x q hget

theorem noneEmpty_pushAll (h : t.NoneEmpty) (i : I) (rs : List R) : NoneEmpty (t.pushAll i rs) := by
  induction rs generalizing t with
  | nil => exact h
  | cons r rest ih => exact ih (noneEmpty_insert h (by simp))

/-! ## Leaving -/

variable [DecidableEq I]

/-- A queue without one operation. -/
def leave (queue : List I) (i : I) : List I :=
  if queue.head? = some i then queue.tail else without queue i

/-- Leave the lanes of a list of resources; the result lists the operations
    that are at the front of one of them now. -/
def releaseAll (t : Lanes R I) (i : I) : List R → Lanes R I × List I
  | [] => (t, [])
  | r :: rest =>
    match t.get? r with
    | none => releaseAll t i rest
    | some queue =>
      match (leave queue i).head? with
      | none => releaseAll (t.erase r) i rest
      | some next =>
        let (t, candidates) := releaseAll (t.insert r (leave queue i)) i rest
        (t, next :: candidates)

/-- In a queue without repetitions, leaving from the front and from the middle
    is the same. -/
theorem leave_eq (h : queue.Nodup) (i : I) : leave queue i = without queue i := by
  unfold leave
  split
  · next hhead =>
    obtain ⟨rest, rfl⟩ : ∃ rest, queue = i :: rest := by
      cases queue with
      | nil => cases hhead
      | cons a rest =>
        cases hhead
        exact ⟨rest, rfl⟩
    have hi := (List.nodup_cons.mp h).1
    have hrest : rest.filter (fun x => decide (x ≠ i)) = rest := by
      refine List.filter_eq_self.mpr fun x hx => ?_
      simp only [decide_eq_true_eq]
      rintro rfl
      exact hi hx
    simp only [without, List.tail_cons, List.filter_cons, ne_eq, not_true_eq_false,
      decide_false, Bool.false_eq_true, if_false]
    exact hrest.symm
  · rfl

theorem releaseAll_cons_none {i : I} {r : R} {rest : List R} (h : t.get? r = none) :
    t.releaseAll i (r :: rest) = t.releaseAll i rest := by
  simp only [releaseAll, h]

/-- The lanes and the candidates after leaving a list of lanes. -/
theorem releaseAll_spec (t : Lanes R I) (i : I) {rs : List R} (hrs : rs.Nodup)
    (hq : ∀ r, (t.lane r).Nodup) :
    (∀ x, lane (t.releaseAll i rs).1 x = if x ∈ rs then without (t.lane x) i else t.lane x)
      ∧ ∀ j, j ∈ (t.releaseAll i rs).2 ↔ ∃ r ∈ rs, (without (t.lane r) i).head? = some j := by
  induction rs generalizing t with
  | nil => simp [releaseAll]
  | cons r rest ih =>
    obtain ⟨hr, hrest⟩ := List.nodup_cons.mp hrs
    -- the other lanes of the operation are not touched while it leaves this one
    have hother : ∀ x ∈ rest, x ≠ r := fun x hx heq => hr (heq ▸ hx)
    cases hget : t.get? r with
    | none =>
      have hlane := lane_of_none hget
      obtain ⟨h1, h2⟩ := ih t hrest hq
      rw [releaseAll_cons_none hget]
      refine ⟨fun x => ?_, fun j => ?_⟩
      · rw [h1 x]
        by_cases hx : x = r
        · subst hx
          simp [hlane, without]
        · simp [hx]
      · rw [h2 j]
        simp [hlane, without]
    | some queue =>
      have hlane := lane_of_some hget
      have hleave : leave queue i = without (t.lane r) i := by
        rw [hlane]
        exact leave_eq (hlane ▸ hq r) i
      have hnodup : (without (t.lane r) i).Nodup := (hq r).filter _
      cases hhead : (leave queue i).head? with
      | none =>
        have hnil : without (t.lane r) i = [] := by
          rw [← hleave]
          exact List.head?_eq_none_iff.mp hhead
        have hq' : ∀ x, (lane (t.erase r) x).Nodup := by
          intro x
          rw [lane_erase]
          split
          · exact List.nodup_nil
          · exact hq x
        obtain ⟨h1, h2⟩ := ih (t.erase r) hrest hq'
        simp only [releaseAll, hget, hhead]
        refine ⟨fun x => ?_, fun j => ?_⟩
        · rw [h1 x, lane_erase]
          by_cases hx : x = r
          · subst hx
            simp [hr, hnil]
          · simp [hx]
        rw [h2 j]
        constructor
        · rintro ⟨x, hx, hj⟩
          rw [lane_erase, if_neg (hother x hx)] at hj
          exact ⟨x, List.mem_cons_of_mem _ hx, hj⟩
        rintro ⟨x, hx, hj⟩
        rcases List.mem_cons.mp hx with rfl | hx
        · rw [hnil] at hj
          cases hj
        · refine ⟨x, hx, ?_⟩
          rw [lane_erase, if_neg (hother x hx)]
          exact hj
      | some next =>
        have hq' : ∀ x, (lane (t.insert r (leave queue i)) x).Nodup := by
          intro x
          rw [lane_insert]
          split
          · exact hleave ▸ hnodup
          · exact hq x
        obtain ⟨h1, h2⟩ := ih (t.insert r (leave queue i)) hrest hq'
        simp only [releaseAll, hget, hhead]
        refine ⟨fun x => ?_, fun j => ?_⟩
        · rw [h1 x, lane_insert]
          by_cases hx : x = r
          · subst hx
            simp [hr, hleave]
          · simp [hx]
        rw [List.mem_cons, h2 j]
        constructor
        · rintro (rfl | ⟨x, hx, hj⟩)
          · exact ⟨r, List.mem_cons_self .., hleave ▸ hhead⟩
          · rw [lane_insert, if_neg (hother x hx)] at hj
            exact ⟨x, List.mem_cons_of_mem _ hx, hj⟩
        rintro ⟨x, hx, hj⟩
        rcases List.mem_cons.mp hx with rfl | hx
        · rw [← hleave, hhead] at hj
          exact .inl (Option.some.inj hj).symm
        · refine .inr ⟨x, hx, ?_⟩
          rw [lane_insert, if_neg (hother x hx)]
          exact hj

theorem noneEmpty_releaseAll (h : t.NoneEmpty) (i : I) (rs : List R) :
    NoneEmpty (t.releaseAll i rs).1 := by
  induction rs generalizing t with
  | nil => exact h
  | cons r rest ih =>
    simp only [releaseAll]
    split
    · exact ih h
    split
    · refine ih fun x q hget => ?_
      rw [Table.get?_erase] at hget
      split at hget
      · cases hget
      · exact h x q hget
    next next hhead =>
    refine ih (noneEmpty_insert h ?_)
    rintro heq
    rw [heq] at hhead
    cases hhead

end Lanes

end Sccp
