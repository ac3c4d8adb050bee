/-
  Sccp.Safety.Owner

  The resource lanes of the runtime owner, for every machine and every order of
  requests, completions, failures and deadlines.  An active operation is at the
  front of all its lanes, so no two of them share a resource; an operation that
  comes to the front of all its lanes is marked ready at that moment; and after
  each turn an operation waits only behind an active one.
-/

import Sccp.Runtime.Owner
import Sccp.Lib.Runs

namespace Sccp

namespace RuntimeOwner

variable {S Command Reply Resource Effect Completion : Type} [DecidableEq Resource]
variable {o o' : RuntimeOwner S Command Reply Resource Effect}
variable {id : OperationId} {pending queue : List OperationId} {resources : List Resource}

/-! ## The invariants -/

variable (o)

/-- An operation that waits or is active has reserved a resource. -/
def Reserves (id : OperationId) (r : Resource) : Prop :=
  (∃ w, o.waiting.get? id = some w ∧ r ∈ w.resources)
    ∨ ∃ resources, o.active.get? id = some resources ∧ r ∈ resources

/-- An operation is at the front of the lanes of these resources. -/
def AtFront (id : OperationId) (resources : List Resource) : Prop :=
  ∀ r ∈ resources, (o.order.lane r).head? = some id

variable {o}

/-- The lanes, the ready queue and the two tables agree.  Only the operations of
    `pending` may be at the front of all their lanes without being marked. -/
structure Lined (pending : List OperationId)
    (o : RuntimeOwner S Command Reply Resource Effect) : Prop where
  sorted : ∀ r, (o.order.lane r).Pairwise fun a b => a.val < b.val
  listed : ∀ r id, id ∈ o.order.lane r ↔ o.Reserves id r
  noneEmpty : o.order.NoneEmpty
  apart : ∀ id w, o.waiting.get? id = some w → o.active.get? id = none
  unique : ∀ id w, o.waiting.get? id = some w → w.resources.Nodup
  activeUnique : ∀ id resources, o.active.get? id = some resources → resources.Nodup
  front : ∀ id resources, o.active.get? id = some resources → o.AtFront id resources
  readyFront : ∀ id w, o.waiting.get? id = some w → w.ready = true → o.AtFront id w.resources
  woken : ∀ id w, o.waiting.get? id = some w → w.ready = false → o.AtFront id w.resources →
    id ∈ pending
  queued : ∀ id w, o.waiting.get? id = some w → (w.ready = true ↔ id ∈ o.ready)
  readyNodup : o.ready.Nodup
  readyMarked : ∀ id ∈ o.ready, id ∈ o.trace.marked
  marked : ∀ id w, o.waiting.get? id = some w → (w.ready = true ↔ id ∈ o.trace.marked)
  markedNodup : o.trace.marked.Nodup
  markedOld : ∀ id ∈ o.trace.marked, id.val < o.nextOperation
  old : ∀ id w, o.waiting.get? id = some w → id.val < o.nextOperation
  activeOld : ∀ id resources, o.active.get? id = some resources → id.val < o.nextOperation

/-- Every active operation has one worker, except `busy`, which has none. -/
structure Staffed (busy : Option OperationId)
    (o : RuntimeOwner S Command Reply Resource Effect) : Prop where
  working : ∀ id resources, o.active.get? id = some resources → busy ≠ some id →
    ∃ task effect, o.workers.get? task = some (id, effect)
  worker : ∀ task id effect, o.workers.get? task = some (id, effect) →
    (∃ resources, o.active.get? id = some resources) ∧ busy ≠ some id
  single : ∀ task task' id effect effect', o.workers.get? task = some (id, effect) →
    o.workers.get? task' = some (id, effect') → task = task'
  old : ∀ task x, o.workers.get? task = some x → task.val < o.nextTask

variable (o) in
/-- The operations that have been answered. -/
def Answered (id : OperationId) : Prop :=
  id ∈ o.trace.replies.map Prod.fst

/-- Two operations have a resource in common. -/
def Share (a b : List Resource) : Prop := ∃ r ∈ a, r ∈ b

/-- The trace: an operation waits, is active or has been answered, and the
    prepared ones come in admission order wherever they share a resource. -/
structure Booked (o : RuntimeOwner S Command Reply Resource Effect) : Prop where
  covered : ∀ id : OperationId, 1 ≤ id.val → id.val < o.nextOperation →
    o.waiting.get? id ≠ none ∨ o.active.get? id ≠ none ∨ o.Answered id
  answered : ∀ id, o.Answered id → o.waiting.get? id = none ∧ o.active.get? id = none
    ∧ id.val < o.nextOperation
  once : (o.trace.replies.map Prod.fst).Nodup
  ordered : o.trace.prepared.Pairwise fun x y => Share x.2 y.2 → x.1.val < y.1.val
  ahead : ∀ x ∈ o.trace.prepared, ∀ id w, o.waiting.get? id = some w → Share x.2 w.resources →
    x.1.val < id.val
  started : ∀ x ∈ o.trace.prepared, o.waiting.get? x.1 = none ∧ x.1.val < o.nextOperation
  preparedOnce : (o.trace.prepared.map Prod.fst).Nodup
  activePrepared : ∀ id resources, o.active.get? id = some resources →
    id ∈ o.trace.prepared.map Prod.fst
  preparedMarked : ∀ x ∈ o.trace.prepared, x.1 ∈ o.trace.marked
  expiredUnprepared : ∀ id, (id, .error .expiredBeforeExecution) ∈ o.trace.replies →
    id ∉ o.trace.prepared.map Prod.fst

/-! ## Queues -/

theorem nodup_of_sorted (h : queue.Pairwise fun a b => a.val < b.val) : queue.Nodup := by
  refine h.imp ?_
  rintro a b hlt rfl
  exact Nat.lt_irrefl _ hlt

theorem head?_without {a : OperationId} (h : queue.head? = some a) (hne : a ≠ id) :
    (without queue id).head? = some a := by
  cases queue with
  | nil => cases h
  | cons b rest =>
    cases h
    simp [without, hne]

theorem head?_push {a : OperationId} (h : queue.head? = some a) :
    (queue ++ [id]).head? = some a := by
  cases queue with
  | nil => cases h
  | cons b rest => exact h

theorem head?_of_push {a : OperationId} (h : (queue ++ [id]).head? = some a) (hne : a ≠ id) :
    queue.head? = some a := by
  cases queue with
  | nil =>
    cases h
    exact absurd rfl hne
  | cons b rest => exact h

theorem mem_retainUnique {R : Type} [DecidableEq R] {seen rs : List R} {r : R} :
    r ∈ retainUnique seen rs ↔ r ∈ rs ∧ r ∉ seen := by
  induction rs generalizing seen with
  | nil => simp [retainUnique]
  | cons a rest ih =>
    rw [retainUnique]
    split
    · next ha =>
      rw [ih, List.mem_cons]
      constructor
      · rintro ⟨hr, hs⟩
        exact ⟨.inr hr, hs⟩
      · rintro ⟨rfl | hr, hs⟩
        · exact absurd ha hs
        · exact ⟨hr, hs⟩
    next ha =>
    rw [List.mem_cons, ih, List.mem_cons, List.mem_cons, not_or]
    constructor
    · rintro (rfl | ⟨hr, _, hs⟩)
      · exact ⟨.inl rfl, ha⟩
      · exact ⟨.inr hr, hs⟩
    rintro ⟨rfl | hr, hs⟩
    · exact .inl rfl
    · by_cases hra : r = a
      · exact .inl hra
      · exact .inr ⟨hr, hra, hs⟩

theorem nodup_retainUnique {R : Type} [DecidableEq R] (seen rs : List R) :
    (retainUnique seen rs).Nodup := by
  induction rs generalizing seen with
  | nil => exact List.nodup_nil
  | cons a rest ih =>
    rw [retainUnique]
    split
    · exact ih seen
    · refine List.nodup_cons.mpr ⟨fun hmem => ?_, ih _⟩
      exact (mem_retainUnique.mp hmem).2 (List.mem_cons_self ..)

/-! ## Marking -/

variable (o) in
/-- Marking does nothing to an operation that is marked or not in front, and
    queues one that is. -/
theorem markReady_cases (id : OperationId) :
    (o.markReady id = o ∧ ∀ w, o.waiting.get? id = some w → w.ready = false →
        ¬ o.AtFront id w.resources)
      ∨ ∃ w, o.waiting.get? id = some w ∧ w.ready = false ∧ o.AtFront id w.resources
        ∧ o.markReady id = { o with
          waiting := o.waiting.insert id { w with ready := true }
          ready := o.ready ++ [id]
          trace := { o.trace with marked := o.trace.marked ++ [id] } } := by
  unfold markReady
  cases hw : o.waiting.get? id with
  | none => exact .inl ⟨rfl, fun w h => by cases h⟩
  | some w =>
    simp only
    split
    · next hg =>
      simp only [Bool.and_eq_true, Bool.not_eq_true', List.all_eq_true, decide_eq_true_eq] at hg
      exact .inr ⟨w, rfl, hg.1, hg.2, rfl⟩
    next hg =>
    refine .inl ⟨rfl, fun w' hw' hready hfront => hg ?_⟩
    cases hw'
    simp only [Bool.and_eq_true, Bool.not_eq_true', List.all_eq_true, decide_eq_true_eq]
    exact ⟨hready, hfront⟩

theorem lined_markReady (h : Lined (id :: pending) o) : Lined pending (o.markReady id) := by
  rcases o.markReady_cases id with ⟨heq, hnot⟩ | ⟨w, hw, hready, hfront, heq⟩
  · rw [heq]
    refine { h with woken := fun x v hx hr hf => ?_ }
    rcases List.mem_cons.mp (h.woken x v hx hr hf) with rfl | hp
    · exact absurd hf (hnot v hx hr)
    · exact hp
  rw [heq]
  have hnotReady : id ∉ o.ready := fun hmem => by
    have htrue := (h.queued id w hw).mpr hmem
    rw [hready] at htrue
    cases htrue
  have hnotMarked : id ∉ o.trace.marked := fun hmem => by
    have htrue := (h.marked id w hw).mpr hmem
    rw [hready] at htrue
    cases htrue
  -- the entries of the table are the old ones, with one flag changed
  have hget : ∀ x v, (o.waiting.insert id { w with ready := true }).get? x = some v →
      (x = id ∧ v = { w with ready := true }) ∨ (x ≠ id ∧ o.waiting.get? x = some v) := by
    intro x v hv
    rw [Table.get?_insert] at hv
    split at hv
    · next hx => exact .inl ⟨hx, (Option.some.inj hv).symm⟩
    · next hx => exact .inr ⟨hx, hv⟩
  have hold : ∀ x v, (o.waiting.insert id { w with ready := true }).get? x = some v →
      ∃ u, o.waiting.get? x = some u ∧ v.resources = u.resources := by
    intro x v hv
    rcases hget x v hv with ⟨rfl, rfl⟩ | ⟨_, hx⟩
    · exact ⟨w, hw, rfl⟩
    · exact ⟨v, hx, rfl⟩
  refine
    { sorted := h.sorted, listed := ?_, noneEmpty := h.noneEmpty, apart := ?_, unique := ?_
      activeUnique := h.activeUnique, front := h.front, readyFront := ?_, woken := ?_
      queued := ?_, readyNodup := ?_, readyMarked := ?_, marked := ?_, markedNodup := ?_
      markedOld := ?_, old := ?_, activeOld := h.activeOld }
  · intro r x
    rw [h.listed r x]
    refine or_congr ⟨?_, ?_⟩ Iff.rfl
    · rintro ⟨v, hv, hr⟩
      by_cases hx : x = id
      · subst hx
        cases hv.symm.trans hw
        refine ⟨{ w with ready := true }, ?_, hr⟩
        rw [Table.get?_insert, if_pos rfl]
      · exact ⟨v, by rw [Table.get?_insert, if_neg hx]; exact hv, hr⟩
    · rintro ⟨v, hv, hr⟩
      obtain ⟨u, hu, hres⟩ := hold x v hv
      exact ⟨u, hu, hres ▸ hr⟩
  · intro x v hv
    obtain ⟨u, hu, _⟩ := hold x v hv
    exact h.apart x u hu
  · intro x v hv
    obtain ⟨u, hu, hres⟩ := hold x v hv
    rw [hres]
    exact h.unique x u hu
  · intro x v hv hr
    rcases hget x v hv with ⟨rfl, rfl⟩ | ⟨_, hx⟩
    · exact hfront
    · exact h.readyFront x v hx hr
  · intro x v hv hr hf
    rcases hget x v hv with ⟨_, rfl⟩ | ⟨hne, hx⟩
    · cases hr
    · exact (List.mem_cons.mp (h.woken x v hx hr hf)).resolve_left hne
  · intro x v hv
    rw [List.mem_append, List.mem_singleton]
    rcases hget x v hv with ⟨rfl, rfl⟩ | ⟨hne, hx⟩
    · exact ⟨fun _ => .inr rfl, fun _ => rfl⟩
    · rw [h.queued x v hx]
      exact ⟨.inl, fun hor => hor.resolve_right hne⟩
  · exact h.readyNodup.append (List.nodup_singleton _) (List.disjoint_singleton.mpr hnotReady)
  · intro x hx
    rcases List.mem_append.mp hx with hx | hx
    · exact List.mem_append_left _ (h.readyMarked x hx)
    · exact List.mem_append_right _ hx
  · intro x v hv
    rw [List.mem_append, List.mem_singleton]
    rcases hget x v hv with ⟨rfl, rfl⟩ | ⟨hne, hx⟩
    · exact ⟨fun _ => .inr rfl, fun _ => rfl⟩
    · rw [h.marked x v hx]
      exact ⟨.inl, fun hor => hor.resolve_right hne⟩
  · exact h.markedNodup.append (List.nodup_singleton _) (List.disjoint_singleton.mpr hnotMarked)
  · intro x hx
    rcases List.mem_append.mp hx with hx | hx
    · exact h.markedOld x hx
    · rw [List.mem_singleton.mp hx]
      exact h.old id w hw
  · intro x v hv
    obtain ⟨u, hu, _⟩ := hold x v hv
    exact h.old x u hu

theorem lined_markEach (h : Lined pending o) : Lined [] (o.markEach pending) := by
  induction pending generalizing o with
  | nil => exact h
  | cons id rest ih => exact ih (lined_markReady h)

/-! ## Leaving the lanes -/

variable (o) in
/-- An operation that waits or is active, with its resources. -/
def Holds (id : OperationId) (resources : List Resource) : Prop :=
  (∃ w, o.waiting.get? id = some w ∧ w.resources = resources) ∨ o.active.get? id = some resources

theorem Holds.reserves_iff (h : Lined pending o) (hid : o.Holds id resources) (r : Resource) :
    o.Reserves id r ↔ r ∈ resources := by
  rcases hid with ⟨w, hw, rfl⟩ | ha
  · constructor
    · rintro (⟨v, hv, hr⟩ | ⟨rs, hrs, _⟩)
      · cases hv.symm.trans hw
        exact hr
      · cases (h.apart id w hw).symm.trans hrs
    · exact fun hr => .inl ⟨w, hw, hr⟩
  constructor
  · rintro (⟨v, hv, _⟩ | ⟨rs, hrs, hr⟩)
    · cases (h.apart id v hv).symm.trans ha
    · cases hrs.symm.trans ha
      exact hr
  · exact fun hr => .inr ⟨resources, ha, hr⟩

theorem Holds.nodup (h : Lined pending o) (hid : o.Holds id resources) : resources.Nodup := by
  rcases hid with ⟨w, hw, rfl⟩ | ha
  · exact h.unique id w hw
  · exact h.activeUnique id resources ha

/-- What is left of the owner when an operation has gone from the tables and the
    lanes. -/
structure Retired (o : RuntimeOwner S Command Reply Resource Effect) (id : OperationId)
    (resources : List Resource) (o' : RuntimeOwner S Command Reply Resource Effect) : Prop where
  waiting : ∀ x, o'.waiting.get? x = if x = id then none else o.waiting.get? x
  active : ∀ x, o'.active.get? x = if x = id then none else o.active.get? x
  order : o'.order = (o.order.releaseAll id resources).1
  readySub : o'.ready.Sublist o.ready
  ready : ∀ x, x ≠ id → (x ∈ o'.ready ↔ x ∈ o.ready)
  marked : o'.trace.marked = o.trace.marked
  nextOperation : o'.nextOperation = o.nextOperation

theorem lined_retire (h : Lined [] o) (hid : o.Holds id resources)
    (hret : o.Retired id resources o') : Lined (o.order.releaseAll id resources).2 o' := by
  have hnodup : ∀ r, (o.order.lane r).Nodup := fun r => nodup_of_sorted (h.sorted r)
  obtain ⟨hlane', hcand⟩ := o.order.releaseAll_spec id (hid.nodup h) hnodup
  -- the operation was in the lanes of its resources only
  have hlane : ∀ r, o'.order.lane r = without (o.order.lane r) id := by
    intro r
    rw [hret.order, hlane' r]
    split
    · rfl
    next hr =>
    refine (List.filter_eq_self.mpr fun x hx => ?_).symm
    simp only [ne_eq, decide_not, Bool.not_eq_true', decide_eq_false_iff_not]
    rintro rfl
    exact hr ((hid.reserves_iff h r).mp ((h.listed r x).mp hx))
  have hw : ∀ x w, o'.waiting.get? x = some w → x ≠ id ∧ o.waiting.get? x = some w := by
    intro x w hx
    rw [hret.waiting] at hx
    split at hx
    · cases hx
    · next hne => exact ⟨hne, hx⟩
  have ha : ∀ x rs, o'.active.get? x = some rs → x ≠ id ∧ o.active.get? x = some rs := by
    intro x rs hx
    rw [hret.active] at hx
    split at hx
    · cases hx
    · next hne => exact ⟨hne, hx⟩
  have hfront : ∀ x rs, x ≠ id → o.AtFront x rs → o'.AtFront x rs := by
    intro x rs hne hf r hr
    rw [hlane r]
    exact head?_without (hf r hr) hne
  constructor
  case sorted =>
    intro r
    rw [hlane r]
    exact (h.sorted r).filter _
  case listed =>
    intro r x
    rw [hlane r, mem_without, h.listed r x]
    constructor
    · rintro ⟨⟨w, hx, hr⟩ | ⟨rs, hx, hr⟩, hne⟩
      · exact .inl ⟨w, by rw [hret.waiting, if_neg hne]; exact hx, hr⟩
      · exact .inr ⟨rs, by rw [hret.active, if_neg hne]; exact hx, hr⟩
    rintro (⟨w, hx, hr⟩ | ⟨rs, hx, hr⟩)
    · obtain ⟨hne, hx⟩ := hw x w hx
      exact ⟨.inl ⟨w, hx, hr⟩, hne⟩
    · obtain ⟨hne, hx⟩ := ha x rs hx
      exact ⟨.inr ⟨rs, hx, hr⟩, hne⟩
  case noneEmpty =>
    rw [hret.order]
    exact Lanes.noneEmpty_releaseAll h.noneEmpty id resources
  case apart =>
    intro x w hx
    obtain ⟨hne, hx⟩ := hw x w hx
    rw [hret.active, if_neg hne]
    exact h.apart x w hx
  case unique => exact fun x w hx => h.unique x w (hw x w hx).2
  case activeUnique => exact fun x rs hx => h.activeUnique x rs (ha x rs hx).2
  case front => exact fun x rs hx => hfront x rs (ha x rs hx).1 (h.front x rs (ha x rs hx).2)
  case readyFront =>
    intro x w hx hr
    obtain ⟨hne, hx⟩ := hw x w hx
    exact hfront x w.resources hne (h.readyFront x w hx hr)
  case woken =>
    intro x w hx hr hf
    obtain ⟨hne, hx⟩ := hw x w hx
    -- it was not in front before, so it came to the front of a lane just now
    have hbefore : ∃ r ∈ w.resources, (o.order.lane r).head? ≠ some x := by
      by_contra hall
      have hfr : o.AtFront x w.resources := by
        intro r hr'
        by_contra hneq
        exact hall ⟨r, hr', hneq⟩
      exact List.not_mem_nil (h.woken x w hx hr hfr)
    obtain ⟨r, hr', hneq⟩ := hbefore
    have hnow := hf r hr'
    rw [hlane r] at hnow
    refine (hcand x).mpr ⟨r, ?_, hnow⟩
    by_contra hnotin
    have hsame : o'.order.lane r = o.order.lane r := by
      rw [hret.order, hlane' r, if_neg hnotin]
    rw [← hlane r, hsame] at hnow
    exact hneq hnow
  case queued =>
    intro x w hx
    obtain ⟨hne, hx⟩ := hw x w hx
    rw [hret.ready x hne]
    exact h.queued x w hx
  case readyNodup => exact h.readyNodup.sublist hret.readySub
  case readyMarked =>
    intro x hx
    rw [hret.marked]
    exact h.readyMarked x (hret.readySub.subset hx)
  case marked =>
    intro x w hx
    rw [hret.marked]
    exact h.marked x w (hw x w hx).2
  case markedNodup => rw [hret.marked]; exact h.markedNodup
  case markedOld => rw [hret.marked, hret.nextOperation]; exact h.markedOld
  case old =>
    intro x w hx
    rw [hret.nextOperation]
    exact h.old x w (hw x w hx).2
  case activeOld =>
    intro x rs hx
    rw [hret.nextOperation]
    exact h.activeOld x rs (ha x rs hx).2

/-! ## Coming and going -/

/-- An operation that was ready becomes active. -/
theorem lined_start (h : Lined [] o) {rest : List OperationId} (hready : o.ready = id :: rest)
    {w : Waiting Command Resource} (hw : o.waiting.get? id = some w)
    (hwaiting : ∀ x, o'.waiting.get? x = if x = id then none else o.waiting.get? x)
    (hactive : ∀ x, o'.active.get? x = if x = id then some w.resources else o.active.get? x)
    (horder : o'.order = o.order) (hrest : o'.ready = rest)
    (hmarked : o'.trace.marked = o.trace.marked) (hnext : o'.nextOperation = o.nextOperation) :
    Lined [] o' := by
  have hmem : id ∈ o.ready := by
    rw [hready]
    exact List.mem_cons_self ..
  have hisReady : w.ready = true := (h.queued id w hw).mpr hmem
  have hnodup : (id :: rest).Nodup := hready ▸ h.readyNodup
  have hget : ∀ x v, o'.waiting.get? x = some v → x ≠ id ∧ o.waiting.get? x = some v := by
    intro x v hx
    rw [hwaiting] at hx
    split at hx
    · cases hx
    · next hne => exact ⟨hne, hx⟩
  have hact : ∀ x rs, o'.active.get? x = some rs →
      (x = id ∧ rs = w.resources) ∨ (x ≠ id ∧ o.active.get? x = some rs) := by
    intro x rs hx
    rw [hactive] at hx
    split at hx
    · next heq => exact .inl ⟨heq, (Option.some.inj hx).symm⟩
    · next hne => exact .inr ⟨hne, hx⟩
  have hfront : ∀ x rs, o'.AtFront x rs ↔ o.AtFront x rs := by
    intro x rs
    unfold AtFront
    rw [horder]
  constructor
  case sorted => rw [horder]; exact h.sorted
  case listed =>
    intro r x
    rw [horder, h.listed r x]
    by_cases hx : x = id
    · subst hx
      rw [Holds.reserves_iff h (.inl ⟨w, hw, rfl⟩) r]
      constructor
      · exact fun hr => .inr ⟨w.resources, by rw [hactive, if_pos rfl], hr⟩
      rintro (⟨v, hv, _⟩ | ⟨rs, hrs, hr⟩)
      · exact absurd rfl (hget x v hv).1
      · rcases hact x rs hrs with ⟨_, rfl⟩ | ⟨hne, _⟩
        · exact hr
        · exact absurd rfl hne
    · unfold Reserves
      rw [hwaiting, hactive, if_neg hx, if_neg hx]
  case noneEmpty => rw [horder]; exact h.noneEmpty
  case apart =>
    intro x v hx
    obtain ⟨hne, hx⟩ := hget x v hx
    rw [hactive, if_neg hne]
    exact h.apart x v hx
  case unique => exact fun x v hx => h.unique x v (hget x v hx).2
  case activeUnique =>
    intro x rs hx
    rcases hact x rs hx with ⟨rfl, rfl⟩ | ⟨_, hx⟩
    · exact h.unique x w hw
    · exact h.activeUnique x rs hx
  case front =>
    intro x rs hx
    rw [hfront]
    rcases hact x rs hx with ⟨rfl, rfl⟩ | ⟨_, hx⟩
    · exact h.readyFront x w hw hisReady
    · exact h.front x rs hx
  case readyFront =>
    intro x v hx hr
    rw [hfront]
    exact h.readyFront x v (hget x v hx).2 hr
  case woken =>
    intro x v hx hr hf
    exact h.woken x v (hget x v hx).2 hr ((hfront x _).mp hf)
  case queued =>
    intro x v hx
    obtain ⟨hne, hx⟩ := hget x v hx
    rw [h.queued x v hx, hready, hrest, List.mem_cons]
    exact ⟨fun hor => hor.resolve_left hne, .inr⟩
  case readyNodup => rw [hrest]; exact (List.nodup_cons.mp hnodup).2
  case readyMarked =>
    intro x hx
    rw [hmarked]
    refine h.readyMarked x ?_
    rw [hready]
    exact List.mem_cons_of_mem _ (hrest ▸ hx)
  case marked =>
    intro x v hx
    rw [hmarked]
    exact h.marked x v (hget x v hx).2
  case markedNodup => rw [hmarked]; exact h.markedNodup
  case markedOld => rw [hmarked, hnext]; exact h.markedOld
  case old =>
    intro x v hx
    rw [hnext]
    exact h.old x v (hget x v hx).2
  case activeOld =>
    intro x rs hx
    rw [hnext]
    rcases hact x rs hx with ⟨rfl, _⟩ | ⟨_, hx⟩
    · exact h.old x w hw
    · exact h.activeOld x rs hx

/-- A new operation enters its lanes at the back. -/
theorem lined_admission (h : Lined [] o) (hid : id.val = o.nextOperation)
    {w : Waiting Command Resource} (hunready : w.ready = false) (hunique : w.resources.Nodup)
    (hwaiting : o'.waiting = o.waiting.insert id w) (hactive : o'.active = o.active)
    (horder : o'.order = o.order.pushAll id w.resources) (hready : o'.ready = o.ready)
    (hmarked : o'.trace.marked = o.trace.marked) (hnext : o'.nextOperation = o.nextOperation + 1) :
    Lined [id] o' := by
  have hlane : ∀ r, o'.order.lane r
      = if r ∈ w.resources then o.order.lane r ++ [id] else o.order.lane r := by
    intro r
    rw [horder]
    exact Lanes.lane_pushAll _ id hunique r
  have hget : ∀ x v, o'.waiting.get? x = some v →
      (x = id ∧ v = w) ∨ (x ≠ id ∧ o.waiting.get? x = some v) := by
    intro x v hx
    rw [hwaiting, Table.get?_insert] at hx
    split at hx
    · next heq => exact .inl ⟨heq, (Option.some.inj hx).symm⟩
    · next hne => exact .inr ⟨hne, hx⟩
  -- everybody else is older
  have hnewWaiting : o.waiting.get? id = none := by
    by_contra hne
    obtain ⟨v, hv⟩ := Option.ne_none_iff_exists'.mp hne
    exact Nat.lt_irrefl _ (hid ▸ h.old id v hv)
  have hnewActive : o.active.get? id = none := by
    by_contra hne
    obtain ⟨rs, hrs⟩ := Option.ne_none_iff_exists'.mp hne
    exact Nat.lt_irrefl _ (hid ▸ h.activeOld id rs hrs)
  have holder : ∀ r x, x ∈ o.order.lane r → x.val < id.val := by
    intro r x hx
    rw [hid]
    rcases (h.listed r x).mp hx with ⟨v, hv, _⟩ | ⟨rs, hrs, _⟩
    · exact h.old x v hv
    · exact h.activeOld x rs hrs
  have hpush : ∀ r x, (o.order.lane r).head? = some x → (o'.order.lane r).head? = some x := by
    intro r x hx
    rw [hlane r]
    split
    · exact head?_push hx
    · exact hx
  constructor
  case sorted =>
    intro r
    rw [hlane r]
    split
    · refine List.pairwise_append.mpr ⟨h.sorted r, List.pairwise_singleton _ _, ?_⟩
      intro a ha b hb
      rw [List.mem_singleton.mp hb]
      exact holder r a ha
    · exact h.sorted r
  case listed =>
    intro r x
    rw [hlane r]
    by_cases hx : x = id
    · subst hx
      have hnot : x ∉ o.order.lane r := fun hmem => Nat.lt_irrefl _ (holder r x hmem)
      have hres : o'.Reserves x r ↔ r ∈ w.resources := by
        constructor
        · rintro (⟨v, hv, hr⟩ | ⟨rs, hrs, _⟩)
          · rcases hget x v hv with ⟨_, rfl⟩ | ⟨hne, _⟩
            · exact hr
            · exact absurd rfl hne
          · rw [hactive, hnewActive] at hrs
            cases hrs
        · exact fun hr => .inl ⟨w, by rw [hwaiting, Table.get?_insert, if_pos rfl], hr⟩
      rw [hres]
      split
      · next hr => simp [hr]
      · next hr => simp [hr, hnot]
    · have hres : o'.Reserves x r ↔ o.Reserves x r := by
        unfold Reserves
        rw [hwaiting, hactive, Table.get?_insert, if_neg hx]
      rw [hres, ← h.listed r x]
      split
      · simp [hx]
      · rfl
  case noneEmpty =>
    rw [horder]
    exact Lanes.noneEmpty_pushAll h.noneEmpty id _
  case apart =>
    intro x v hx
    rw [hactive]
    rcases hget x v hx with ⟨rfl, _⟩ | ⟨_, hx⟩
    · exact hnewActive
    · exact h.apart x v hx
  case unique =>
    intro x v hx
    rcases hget x v hx with ⟨_, rfl⟩ | ⟨_, hx⟩
    · exact hunique
    · exact h.unique x v hx
  case activeUnique => rw [hactive]; exact h.activeUnique
  case front =>
    intro x rs hx r hr
    rw [hactive] at hx
    exact hpush r x (h.front x rs hx r hr)
  case readyFront =>
    intro x v hx hr
    rcases hget x v hx with ⟨_, rfl⟩ | ⟨_, hx⟩
    · rw [hunready] at hr
      cases hr
    · exact fun r hr' => hpush r x (h.readyFront x v hx hr r hr')
  case woken =>
    intro x v hx hr hf
    rcases hget x v hx with ⟨rfl, _⟩ | ⟨hne, hx⟩
    · exact List.mem_singleton_self _
    have hfront : o.AtFront x v.resources := by
      intro r hr'
      have hnow := hf r hr'
      rw [hlane r] at hnow
      split at hnow
      · exact head?_of_push hnow hne
      · exact hnow
    exact absurd (h.woken x v hx hr hfront) List.not_mem_nil
  case queued =>
    intro x v hx
    rw [hready]
    rcases hget x v hx with ⟨rfl, rfl⟩ | ⟨_, hx⟩
    · rw [hunready]
      refine ⟨fun hfalse => (by cases hfalse), fun hmem => ?_⟩
      exact absurd (h.markedOld x (h.readyMarked x hmem)) (by omega)
    · exact h.queued x v hx
  case readyNodup => rw [hready]; exact h.readyNodup
  case readyMarked => rw [hready, hmarked]; exact h.readyMarked
  case marked =>
    intro x v hx
    rw [hmarked]
    rcases hget x v hx with ⟨rfl, rfl⟩ | ⟨_, hx⟩
    · rw [hunready]
      refine ⟨fun hfalse => (by cases hfalse), fun hmem => ?_⟩
      exact absurd (h.markedOld x hmem) (by omega)
    · exact h.marked x v hx
  case markedNodup => rw [hmarked]; exact h.markedNodup
  case markedOld =>
    intro x hx
    rw [hmarked] at hx
    rw [hnext]
    exact Nat.lt_succ_of_lt (h.markedOld x hx)
  case old =>
    intro x v hx
    rw [hnext]
    rcases hget x v hx with ⟨rfl, _⟩ | ⟨_, hx⟩
    · omega
    · exact Nat.lt_succ_of_lt (h.old x v hx)
  case activeOld =>
    intro x rs hx
    rw [hactive] at hx
    rw [hnext]
    exact Nat.lt_succ_of_lt (h.activeOld x rs hx)

/-! ## What marking leaves alone -/

/-- Marking changes the flags of waiting operations, the ready queue and the
    marks of the trace. -/
structure Marks (o o' : RuntimeOwner S Command Reply Resource Effect) : Prop where
  active : o'.active = o.active
  workers : o'.workers = o.workers
  nextTask : o'.nextTask = o.nextTask
  nextOperation : o'.nextOperation = o.nextOperation
  replies : o'.trace.replies = o.trace.replies
  prepared : o'.trace.prepared = o.trace.prepared
  marked : ∀ id ∈ o.trace.marked, id ∈ o'.trace.marked
  gone : ∀ x, o.waiting.get? x = none → o'.waiting.get? x = none
  kept : ∀ x w', o'.waiting.get? x = some w' →
    ∃ w, o.waiting.get? x = some w ∧ w'.resources = w.resources
  stays : ∀ x, o.waiting.get? x ≠ none → o'.waiting.get? x ≠ none

omit [DecidableEq Resource] in
theorem Marks.refl (o : RuntimeOwner S Command Reply Resource Effect) : o.Marks o :=
  ⟨rfl, rfl, rfl, rfl, rfl, rfl, fun _ h => h, fun _ h => h, fun _ w h => ⟨w, h, rfl⟩, fun _ h => h⟩

omit [DecidableEq Resource] in
theorem Marks.trans {o₁ o₂ o₃ : RuntimeOwner S Command Reply Resource Effect}
    (h : o₁.Marks o₂) (h' : o₂.Marks o₃) : o₁.Marks o₃ where
  active := h'.active.trans h.active
  workers := h'.workers.trans h.workers
  nextTask := h'.nextTask.trans h.nextTask
  nextOperation := h'.nextOperation.trans h.nextOperation
  replies := h'.replies.trans h.replies
  prepared := h'.prepared.trans h.prepared
  marked := fun id hid => h'.marked id (h.marked id hid)
  gone := fun x hx => h'.gone x (h.gone x hx)
  kept := by
    intro x w hx
    obtain ⟨w', hx', hres'⟩ := h'.kept x w hx
    obtain ⟨w'', hx'', hres''⟩ := h.kept x w' hx'
    exact ⟨w'', hx'', hres'.trans hres''⟩
  stays := fun x hx => h'.stays x (h.stays x hx)

variable (o)

theorem marks_markReady (id : OperationId) : o.Marks (o.markReady id) := by
  rcases o.markReady_cases id with ⟨heq, _⟩ | ⟨w, hw, _, _, heq⟩
  · rw [heq]
    exact .refl o
  rw [heq]
  refine ⟨rfl, rfl, rfl, rfl, rfl, rfl, fun _ hid => List.mem_append_left _ hid, ?_, ?_, ?_⟩
  · intro x hx
    rw [Table.get?_insert, if_neg]
    · exact hx
    · rintro rfl
      rw [hw] at hx
      cases hx
  · intro x v hv
    rw [Table.get?_insert] at hv
    split at hv
    · next hx =>
      cases hv
      exact ⟨w, hx ▸ hw, rfl⟩
    · exact ⟨v, hv, rfl⟩
  · intro x hx
    rw [Table.get?_insert]
    split
    · simp
    · exact hx

theorem marks_markEach (ids : List OperationId) : o.Marks (o.markEach ids) := by
  induction ids generalizing o with
  | nil => exact .refl o
  | cons id rest ih => exact (o.marks_markReady id).trans (ih _)

variable {o}

omit [DecidableEq Resource] in
theorem Marks.booked (h : o.Marks o') (hb : Booked o) : Booked o' where
  covered := by
    intro id hpos hlt
    rw [h.nextOperation] at hlt
    rcases hb.covered id hpos hlt with hw | ha | hans
    · exact .inl (h.stays id hw)
    · exact .inr (.inl (h.active ▸ ha))
    · refine .inr (.inr ?_)
      unfold Answered
      rw [h.replies]
      exact hans
  answered := by
    intro id hans
    unfold Answered at hans
    rw [h.replies] at hans
    obtain ⟨hw, ha, hlt⟩ := hb.answered id hans
    exact ⟨h.gone id hw, h.active ▸ ha, h.nextOperation ▸ hlt⟩
  once := h.replies ▸ hb.once
  ordered := h.prepared ▸ hb.ordered
  ahead := by
    intro x hx id w' hw' hshare
    rw [h.prepared] at hx
    obtain ⟨w, hw, hres⟩ := h.kept id w' hw'
    exact hb.ahead x hx id w hw (hres ▸ hshare)
  started := by
    intro x hx
    rw [h.prepared] at hx
    exact ⟨h.gone _ (hb.started x hx).1, h.nextOperation ▸ (hb.started x hx).2⟩
  preparedOnce := h.prepared ▸ hb.preparedOnce
  activePrepared := by
    intro id resources ha
    rw [h.active] at ha
    rw [h.prepared]
    exact hb.activePrepared id resources ha
  preparedMarked := by
    intro x hx
    rw [h.prepared] at hx
    exact h.marked _ (hb.preparedMarked x hx)
  expiredUnprepared := by
    intro id hid
    rw [h.replies] at hid
    rw [h.prepared]
    exact hb.expiredUnprepared id hid

omit [DecidableEq Resource] in
theorem Marks.staffed (h : o.Marks o') {busy : Option OperationId} (hs : Staffed busy o) :
    Staffed busy o' where
  working := by
    rw [h.active, h.workers]
    exact hs.working
  worker := by
    rw [h.active, h.workers]
    exact hs.worker
  single := by
    rw [h.workers]
    exact hs.single
  old := by
    rw [h.workers, h.nextTask]
    exact hs.old

/-- Marks are bounded by the operations there are. -/
theorem Lined.marked_length (h : Lined pending o) : o.trace.marked.length ≤ o.nextOperation := by
  have hinj : (o.trace.marked.map OperationId.val).Nodup := by
    refine h.markedNodup.map ?_
    rintro ⟨a⟩ ⟨b⟩ rfl
    rfl
  have hsub : o.trace.marked.map OperationId.val ⊆ List.range o.nextOperation := by
    intro n hn
    obtain ⟨id, hid, rfl⟩ := List.mem_map.mp hn
    exact List.mem_range.mpr (h.markedOld id hid)
  have hle := (List.subperm_of_subset hinj hsub).length_le
  rwa [List.length_map, List.length_range] at hle

variable (o) in
/-- The turns that the start loop may still need. -/
def room : Nat :=
  o.ready.length + (o.nextOperation - o.trace.marked.length)

theorem room_markReady (h : Lined (id :: pending) o) : (o.markReady id).room = o.room := by
  have hafter := (lined_markReady h).marked_length
  rcases o.markReady_cases id with ⟨heq, _⟩ | ⟨w, _, _, _, heq⟩
  · rw [heq]
  · rw [heq] at hafter ⊢
    simp only [room, List.length_append, List.length_singleton] at hafter ⊢
    omega

theorem room_markEach (h : Lined pending o) : (o.markEach pending).room = o.room := by
  induction pending generalizing o with
  | nil => rfl
  | cons id rest ih => rw [markEach, ih (lined_markReady h), room_markReady h]

end RuntimeOwner

end Sccp
