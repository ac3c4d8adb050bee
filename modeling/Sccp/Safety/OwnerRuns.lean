/-
  Sccp.Safety.OwnerRuns

  Whole runs of the runtime owner.  Each operation of the owner keeps the lanes
  (`Lined`), the workers (`Staffed`) and the trace (`Booked`) in order; the start
  loop empties the ready queue; and then what waits, waits behind an active
  operation.
-/

import Sccp.Safety.Owner

namespace Sccp

namespace RuntimeOwner

variable {S Command Reply Resource Effect Completion : Type}
variable {o o' p : RuntimeOwner S Command Reply Resource Effect}
variable {id : OperationId} {w : Waiting Command Resource} {resources : List Resource}
  {busy : Option OperationId} {result : Except RequestError Reply}

/-! ## Edits that the invariants do not see -/

theorem Staffed.congr (h : Staffed busy o) (hactive : o'.active = o.active)
    (hworkers : o'.workers = o.workers) (htask : o'.nextTask = o.nextTask) : Staffed busy o' where
  working := by
    rw [hactive, hworkers]
    exact h.working
  worker := by
    rw [hactive, hworkers]
    exact h.worker
  single := by
    rw [hworkers]
    exact h.single
  old := by
    rw [hworkers, htask]
    exact h.old

theorem Booked.congr (h : Booked o) (hwaiting : o'.waiting = o.waiting)
    (hactive : o'.active = o.active) (hnext : o'.nextOperation = o.nextOperation)
    (hreplies : o'.trace.replies = o.trace.replies)
    (hprepared : o'.trace.prepared = o.trace.prepared)
    (hmarked : o'.trace.marked = o.trace.marked) : Booked o' where
  covered := by
    unfold Answered
    rw [hwaiting, hactive, hnext, hreplies]
    exact h.covered
  answered := by
    unfold Answered
    rw [hwaiting, hactive, hnext, hreplies]
    exact h.answered
  once := hreplies ▸ h.once
  ordered := hprepared ▸ h.ordered
  ahead := by
    rw [hwaiting, hprepared]
    exact h.ahead
  started := by
    rw [hwaiting, hprepared, hnext]
    exact h.started
  preparedOnce := hprepared ▸ h.preparedOnce
  activePrepared := by
    rw [hactive, hprepared]
    exact h.activePrepared
  preparedMarked := by
    rw [hprepared, hmarked]
    exact h.preparedMarked
  expiredUnprepared := by
    rw [hreplies, hprepared]
    exact h.expiredUnprepared

variable [DecidableEq Resource]

theorem Lined.congr {pending : List OperationId} (h : Lined pending o)
    (hwaiting : o'.waiting = o.waiting) (hready : o'.ready = o.ready)
    (horder : o'.order = o.order) (hactive : o'.active = o.active)
    (hnext : o'.nextOperation = o.nextOperation)
    (hmarked : o'.trace.marked = o.trace.marked) : Lined pending o' where
  sorted := horder ▸ h.sorted
  listed := by
    intro r id
    unfold Reserves
    rw [horder, hwaiting, hactive]
    exact h.listed r id
  noneEmpty := horder ▸ h.noneEmpty
  apart := by
    rw [hwaiting, hactive]
    exact h.apart
  unique := hwaiting ▸ h.unique
  activeUnique := hactive ▸ h.activeUnique
  front := by
    unfold AtFront
    rw [hactive, horder]
    exact h.front
  readyFront := by
    unfold AtFront
    rw [hwaiting, horder]
    exact h.readyFront
  woken := by
    unfold AtFront
    rw [hwaiting, horder]
    exact h.woken
  queued := by
    rw [hwaiting, hready]
    exact h.queued
  readyNodup := hready ▸ h.readyNodup
  readyMarked := by
    rw [hready, hmarked]
    exact h.readyMarked
  marked := by
    rw [hwaiting, hmarked]
    exact h.marked
  markedNodup := hmarked ▸ h.markedNodup
  markedOld := by
    rw [hmarked, hnext]
    exact h.markedOld
  old := by
    rw [hwaiting, hnext]
    exact h.old
  activeOld := by
    rw [hactive, hnext]
    exact h.activeOld

/-- The state of the machine and the deadlines are not part of the invariants. -/
structure Good (busy : Option OperationId) (o : RuntimeOwner S Command Reply Resource Effect) :
    Prop where
  lined : Lined [] o
  staffed : Staffed busy o
  booked : Booked o

/-- The owner after an operation has been taken from the ready queue, or looked
    up because its deadline has passed. -/
structure Popped (o : RuntimeOwner S Command Reply Resource Effect) (id : OperationId)
    (p : RuntimeOwner S Command Reply Resource Effect) : Prop where
  waiting : p.waiting = o.waiting
  order : p.order = o.order
  active : p.active = o.active
  workers : p.workers = o.workers
  nextTask : p.nextTask = o.nextTask
  nextOperation : p.nextOperation = o.nextOperation
  trace : p.trace = o.trace
  readySub : p.ready.Sublist o.ready
  ready : ∀ x, x ≠ id → (x ∈ p.ready ↔ x ∈ o.ready)

/-! ## An operation is answered -/

/-- An operation has gone and its reply has been sent. -/
structure Closed (o : RuntimeOwner S Command Reply Resource Effect) (id : OperationId)
    (result : Except RequestError Reply) (o' : RuntimeOwner S Command Reply Resource Effect) :
    Prop where
  workers : o'.workers = o.workers
  nextTask : o'.nextTask = o.nextTask
  replies : o'.trace.replies = o.trace.replies ++ [(id, result)]
  prepared : o'.trace.prepared = o.trace.prepared

theorem staffed_close (h : Staffed busy o) (hret : o.Retired id resources o')
    (hclosed : o.Closed id result o')
    (hidle : busy = some id ∨ (busy = none ∧ o.active.get? id = none)) : Staffed none o' := by
  -- the operation that has gone has no worker
  have hnone : ∀ task x effect, o.workers.get? task = some (x, effect) → x ≠ id := by
    intro task x effect hx heq
    obtain ⟨⟨rs, hrs⟩, hbusy⟩ := h.worker task x effect hx
    subst heq
    rcases hidle with hb | ⟨_, ha⟩
    · exact hbusy hb
    · cases ha.symm.trans hrs
  constructor
  case working =>
    intro x rs hx _
    rw [hret.active] at hx
    split at hx
    · cases hx
    next hne =>
    rw [hclosed.workers]
    refine h.working x rs hx ?_
    rcases hidle with hb | ⟨hb, _⟩
    · rw [hb]
      exact fun heq => hne (Option.some.inj heq).symm
    · rw [hb]
      exact fun heq => by cases heq
  case worker =>
    intro task x effect hx
    rw [hclosed.workers] at hx
    obtain ⟨⟨rs, hrs⟩, _⟩ := h.worker task x effect hx
    refine ⟨⟨rs, ?_⟩, fun heq => by cases heq⟩
    rw [hret.active, if_neg (hnone task x effect hx)]
    exact hrs
  case single =>
    rw [hclosed.workers]
    exact h.single
  case old =>
    rw [hclosed.workers, hclosed.nextTask]
    exact h.old

theorem booked_close (h : Booked o) (hret : o.Retired id resources o')
    (hclosed : o.Closed id result o') (hpending : ¬ o.Answered id) (hold : id.val < o.nextOperation)
    (hresult : result = .error .expiredBeforeExecution → id ∉ o.trace.prepared.map Prod.fst) :
    Booked o' := by
  have hanswered : ∀ x, o'.Answered x ↔ o.Answered x ∨ x = id := by
    intro x
    simp [Answered, hclosed.replies]
  have hwaiting : ∀ x w, o'.waiting.get? x = some w → o.waiting.get? x = some w := by
    intro x w hx
    rw [hret.waiting] at hx
    split at hx
    · cases hx
    · exact hx
  have hgone : ∀ x, o.waiting.get? x = none → o'.waiting.get? x = none := by
    intro x hx
    rw [hret.waiting]
    split
    · rfl
    · exact hx
  constructor
  case covered =>
    intro x hpos hlt
    rw [hret.nextOperation] at hlt
    rw [hret.waiting, hret.active, hanswered]
    by_cases hx : x = id
    · exact .inr (.inr (.inr hx))
    rw [if_neg hx, if_neg hx]
    rcases h.covered x hpos hlt with hw | ha | hans
    · exact .inl hw
    · exact .inr (.inl ha)
    · exact .inr (.inr (.inl hans))
  case answered =>
    intro x hx
    rw [hret.waiting, hret.active, hret.nextOperation]
    by_cases hxid : x = id
    · rw [if_pos hxid, if_pos hxid, hxid]
      exact ⟨rfl, rfl, hold⟩
    · rw [if_neg hxid, if_neg hxid]
      exact h.answered x (((hanswered x).mp hx).resolve_right hxid)
  case once =>
    rw [hclosed.replies, List.map_append]
    exact h.once.append (List.nodup_singleton _) (List.disjoint_singleton.mpr hpending)
  case ordered => rw [hclosed.prepared]; exact h.ordered
  case ahead =>
    intro x hx y w hw hshare
    rw [hclosed.prepared] at hx
    exact h.ahead x hx y w (hwaiting y w hw) hshare
  case started =>
    intro x hx
    rw [hclosed.prepared] at hx
    rw [hret.nextOperation]
    exact ⟨hgone _ (h.started x hx).1, (h.started x hx).2⟩
  case preparedOnce => rw [hclosed.prepared]; exact h.preparedOnce
  case activePrepared =>
    intro x rs hx
    rw [hret.active] at hx
    rw [hclosed.prepared]
    split at hx
    · cases hx
    · exact h.activePrepared x rs hx
  case preparedMarked =>
    intro x hx
    rw [hclosed.prepared] at hx
    rw [hret.marked]
    exact h.preparedMarked x hx
  case expiredUnprepared =>
    intro x hx
    rw [hclosed.prepared]
    rw [hclosed.replies, List.mem_append, List.mem_singleton] at hx
    rcases hx with hx | hx
    · exact h.expiredUnprepared x hx
    · obtain ⟨rfl, hr⟩ := Prod.mk.inj hx
      exact hresult hr.symm

/-- Leaving the lanes with a reply: the neighbours are woken and all is well. -/
theorem good_close (h : Good busy o) (hid : o.Holds id resources) (hret : o.Retired id resources o')
    (hclosed : o.Closed id result o')
    (hidle : busy = some id ∨ (busy = none ∧ o.active.get? id = none))
    (hresult : result = .error .expiredBeforeExecution → id ∉ o.trace.prepared.map Prod.fst) :
    Good none (o'.markEach (o.order.releaseAll id resources).2)
      ∧ (o'.markEach (o.order.releaseAll id resources).2).room = o'.room := by
  have hpending : ¬ o.Answered id := by
    intro hans
    obtain ⟨hw, ha, _⟩ := h.booked.answered id hans
    rcases hid with ⟨w, hw', _⟩ | ha'
    · cases hw.symm.trans hw'
    · cases ha.symm.trans ha'
  have hold : id.val < o.nextOperation := by
    rcases hid with ⟨w, hw, _⟩ | ha
    · exact h.lined.old id w hw
    · exact h.lined.activeOld id resources ha
  have hlined := lined_retire h.lined hid hret
  have hmarks := o'.marks_markEach (o.order.releaseAll id resources).2
  exact ⟨⟨lined_markEach hlined, hmarks.staffed (staffed_close h.staffed hret hclosed hidle),
    hmarks.booked (booked_close h.booked hret hclosed hpending hold hresult)⟩, room_markEach hlined⟩

variable (machine : RuntimeState S Command Reply Resource Effect Completion)

theorem good_expire (h : Good none o) (hp : o.Popped id p) (hw : o.waiting.get? id = some w) :
    Good none (p.expire machine id w) ∧ (p.expire machine id w).room = p.room := by
  have hactive := h.lined.apart id w hw
  have hunprepared : id ∉ o.trace.prepared.map Prod.fst := by
    intro hmem
    obtain ⟨x, hx, rfl⟩ := List.mem_map.mp hmem
    cases (h.booked.started x hx).1.symm.trans hw
  -- the owner once the request has been refused and its lanes left
  let q : RuntimeOwner S Command Reply Resource Effect :=
    { p with
      state := machine.expired p.state id
      waiting := p.waiting.erase id
      trace := { p.trace with
        replies := p.trace.replies ++ [(id, .error .expiredBeforeExecution)] }
      order := (p.order.releaseAll id w.resources).1 }
  have heq : p.expire machine id w = q.markEach (o.order.releaseAll id w.resources).2 := by
    rw [← hp.order]
    rfl
  have hret : o.Retired id w.resources q := by
    refine ⟨fun x => ?_, fun x => ?_, ?_, hp.readySub, hp.ready, ?_, hp.nextOperation⟩
    · exact (Table.get?_erase p.waiting id x).trans (by rw [hp.waiting])
    · show p.active.get? x = _
      rw [hp.active]
      split
      · next hx => rw [hx, hactive]
      · rfl
    · show (p.order.releaseAll id w.resources).1 = _
      rw [hp.order]
    · show p.trace.marked = _
      rw [hp.trace]
  have hclosed : o.Closed id (.error .expiredBeforeExecution) q := by
    refine ⟨hp.workers, hp.nextTask, ?_, ?_⟩
    · show p.trace.replies ++ _ = _
      rw [hp.trace]
    · show p.trace.prepared = _
      rw [hp.trace]
  rw [heq]
  exact good_close h (.inl ⟨w, hw, rfl⟩) hret hclosed (.inr ⟨rfl, hactive⟩) fun _ => hunprepared

/-! ## An operation is prepared, advanced and completed -/

omit [DecidableEq Resource] in
theorem staffed_start (h : Staffed none o) (hnone : o.active.get? id = none)
    (hactive : o'.active = o.active.insert id resources) (hworkers : o'.workers = o.workers)
    (htask : o'.nextTask = o.nextTask) : Staffed (some id) o' where
  working := by
    intro x rs hx hne
    rw [hactive, Table.get?_insert] at hx
    rw [hworkers]
    split at hx
    · next heq => exact absurd (by rw [heq]) hne
    · exact h.working x rs hx fun heq => by cases heq
  worker := by
    intro task x effect hx
    rw [hworkers] at hx
    obtain ⟨⟨rs, hrs⟩, _⟩ := h.worker task x effect hx
    have hxid : x ≠ id := by
      rintro rfl
      cases hnone.symm.trans hrs
    refine ⟨⟨rs, ?_⟩, fun heq => hxid (Option.some.inj heq).symm⟩
    rw [hactive, Table.get?_insert, if_neg hxid]
    exact hrs
  single := hworkers ▸ h.single
  old := by
    rw [hworkers, htask]
    exact h.old

/-- An operation at the front of its lanes is older than whoever waits behind
    it. -/
theorem Lined.ahead {pending : List OperationId} (h : Lined pending o)
    (hfront : o.AtFront id resources) {y : OperationId} (hw : o.waiting.get? y = some w)
    (hne : y ≠ id) (hshare : Share resources w.resources) : id.val < y.val := by
  obtain ⟨r, hr, hr'⟩ := hshare
  have hmem : y ∈ o.order.lane r := (h.listed r y).mpr (.inl ⟨w, hw, hr'⟩)
  have hhead := hfront r hr
  have hsorted := h.sorted r
  cases hlane : o.order.lane r with
  | nil =>
    rw [hlane] at hmem
    cases hmem
  | cons a rest =>
    rw [hlane] at hmem hhead hsorted
    cases hhead
    rcases List.mem_cons.mp hmem with heq | hmem
    · exact absurd heq hne
    · exact (List.pairwise_cons.mp hsorted).1 y hmem

theorem booked_start (hl : Lined [] o) (h : Booked o) (hw : o.waiting.get? id = some w)
    (hready : w.ready = true) (hwaiting : o'.waiting = o.waiting.erase id)
    (hactive : o'.active = o.active.insert id w.resources)
    (hnext : o'.nextOperation = o.nextOperation) (hreplies : o'.trace.replies = o.trace.replies)
    (hmarked : o'.trace.marked = o.trace.marked)
    (hprepared : o'.trace.prepared = o.trace.prepared ++ [(id, w.resources)]) : Booked o' := by
  have hgone : ∀ x, o.waiting.get? x = none → o'.waiting.get? x = none := by
    intro x hx
    rw [hwaiting, Table.get?_erase]
    split
    · rfl
    · exact hx
  have hget : ∀ x v, o'.waiting.get? x = some v → x ≠ id ∧ o.waiting.get? x = some v := by
    intro x v hx
    rw [hwaiting, Table.get?_erase] at hx
    split at hx
    · cases hx
    · next hne => exact ⟨hne, hx⟩
  have hunprepared : id ∉ o.trace.prepared.map Prod.fst := by
    intro hmem
    obtain ⟨x, hx, rfl⟩ := List.mem_map.mp hmem
    cases (h.started x hx).1.symm.trans hw
  have hunanswered : ∀ x, o.Answered x → x ≠ id := by
    rintro x hx rfl
    cases (h.answered x hx).1.symm.trans hw
  have hans : ∀ x, o'.Answered x ↔ o.Answered x := by
    intro x
    unfold Answered
    rw [hreplies]
  have hfront := hl.readyFront id w hw hready
  have hcases : ∀ x ∈ o'.trace.prepared, x ∈ o.trace.prepared ∨ x = (id, w.resources) := by
    intro x hx
    rw [hprepared, List.mem_append, List.mem_singleton] at hx
    exact hx
  constructor
  case covered =>
    intro x hpos hlt
    rw [hnext] at hlt
    rw [hwaiting, hactive, hans, Table.get?_erase, Table.get?_insert]
    by_cases hx : x = id
    · rw [if_pos hx, if_pos hx]
      exact .inr (.inl (by simp))
    · rw [if_neg hx, if_neg hx]
      exact h.covered x hpos hlt
  case answered =>
    intro x hx
    rw [hans] at hx
    obtain ⟨hw', ha', hlt⟩ := h.answered x hx
    refine ⟨hgone x hw', ?_, hnext ▸ hlt⟩
    rw [hactive, Table.get?_insert, if_neg (hunanswered x hx)]
    exact ha'
  case once => rw [hreplies]; exact h.once
  case ordered =>
    rw [hprepared]
    refine List.pairwise_append.mpr ⟨h.ordered, List.pairwise_singleton _ _, ?_⟩
    intro x hx y hy hshare
    rw [List.mem_singleton.mp hy] at hshare ⊢
    exact h.ahead x hx id w hw hshare
  case ahead =>
    intro x hx y v hv hshare
    obtain ⟨hne, hv⟩ := hget y v hv
    rcases hcases x hx with hx | rfl
    · exact h.ahead x hx y v hv hshare
    · exact hl.ahead hfront hv hne hshare
  case started =>
    intro x hx
    rw [hnext]
    rcases hcases x hx with hx | rfl
    · exact ⟨hgone _ (h.started x hx).1, (h.started x hx).2⟩
    · refine ⟨?_, hl.old id w hw⟩
      rw [hwaiting, Table.get?_erase, if_pos rfl]
  case preparedOnce =>
    rw [hprepared, List.map_append]
    exact h.preparedOnce.append (List.nodup_singleton _) (List.disjoint_singleton.mpr hunprepared)
  case activePrepared =>
    intro x rs hx
    rw [hprepared, List.map_append, List.mem_append]
    rw [hactive, Table.get?_insert] at hx
    split at hx
    · next heq => exact .inr (by simp [heq])
    · exact .inl (h.activePrepared x rs hx)
  case preparedMarked =>
    intro x hx
    rw [hmarked]
    rcases hcases x hx with hx | rfl
    · exact h.preparedMarked x hx
    · exact (hl.marked id w hw).mp hready
  case expiredUnprepared =>
    intro x hx
    rw [hreplies] at hx
    have hne : x ≠ id := hunanswered x (List.mem_map_of_mem hx)
    rw [hprepared, List.map_append, List.mem_append]
    rintro (hmem | hmem)
    · exact h.expiredUnprepared x hx hmem
    · exact hne (List.mem_singleton.mp hmem)

variable (o)

theorem markReady_sendReply (id x : OperationId) (result : Except RequestError Reply) :
    (o.sendReply x result).markReady id = (o.markReady id).sendReply x result := by
  unfold markReady sendReply
  simp only
  split
  · rfl
  · split <;> rfl

theorem markEach_sendReply (x : OperationId)
    (result : Except RequestError Reply) (ids : List OperationId) :
    (o.sendReply x result).markEach ids = (o.markEach ids).sendReply x result := by
  induction ids generalizing o with
  | nil => rfl
  | cons id rest ih => rw [markEach, markEach, markReady_sendReply, ih]

variable {o}

theorem good_advance (h : Good (some id) o) (hactive : o.active.get? id = some resources)
    (step : RuntimeStep Reply Effect) :
    Good none (o.advance id step) ∧ (o.advance id step).room = o.room := by
  cases step with
  | effect effect =>
    have hnew : o.workers.get? ⟨o.nextTask⟩ = none := by
      by_contra hne
      obtain ⟨x, hx⟩ := Option.ne_none_iff_exists'.mp hne
      exact Nat.lt_irrefl _ (h.staffed.old _ x hx)
    have hget : ∀ task x, (o.workers.insert ⟨o.nextTask⟩ (id, effect)).get? task = some x →
        (task = ⟨o.nextTask⟩ ∧ x = (id, effect)) ∨ o.workers.get? task = some x := by
      intro task x hx
      rw [Table.get?_insert] at hx
      split at hx
      · next heq => exact .inl ⟨heq, (Option.some.inj hx).symm⟩
      · exact .inr hx
    have hkept : ∀ task x, o.workers.get? task = some x →
        (o.workers.insert ⟨o.nextTask⟩ (id, effect)).get? task = some x := by
      intro task x hx
      rw [Table.get?_insert, if_neg]
      · exact hx
      · rintro rfl
        cases hnew.symm.trans hx
    have hstaffed : Staffed none (o.advance id (.effect effect)) := by
      constructor
      case working =>
        intro x rs hx _
        by_cases hxid : x = id
        · refine ⟨⟨o.nextTask⟩, effect, ?_⟩
          rw [hxid]
          exact (Table.get?_insert ..).trans (if_pos rfl)
        · obtain ⟨task, eff, ht⟩ := h.staffed.working x rs hx
            fun heq => hxid (Option.some.inj heq).symm
          exact ⟨task, eff, hkept task _ ht⟩
      case worker =>
        intro task x eff hx
        refine ⟨?_, fun heq => by cases heq⟩
        rcases hget task _ hx with ⟨_, heq⟩ | hx
        · cases heq
          exact ⟨resources, hactive⟩
        · exact (h.staffed.worker task x eff hx).1
      case single =>
        intro task task' x eff eff' hx hx'
        rcases hget task _ hx with ⟨ht, heq⟩ | hx <;> rcases hget task' _ hx' with ⟨ht', heq'⟩ | hx'
        · rw [ht, ht']
        · cases heq
          exact absurd rfl (h.staffed.worker task' _ eff' hx').2
        · cases heq'
          exact absurd rfl (h.staffed.worker task _ eff hx).2
        · exact h.staffed.single task task' x eff eff' hx hx'
      case old =>
        intro task x hx
        show task.val < o.nextTask + 1
        rcases hget task x hx with ⟨rfl, _⟩ | hx
        · exact Nat.lt_succ_self _
        · exact Nat.lt_succ_of_lt (h.staffed.old task x hx)
    exact ⟨⟨h.lined.congr rfl rfl rfl rfl rfl rfl, hstaffed,
      h.booked.congr rfl rfl rfl rfl rfl rfl⟩, rfl⟩
  | finished reply =>
    let q : RuntimeOwner S Command Reply Resource Effect :=
      { o with
        active := o.active.erase id
        order := (o.order.releaseAll id resources).1
        trace := { o.trace with replies := o.trace.replies ++ [(id, .ok reply)] } }
    have heq : o.advance id (.finished reply) = q.markEach (o.order.releaseAll id resources).2 := by
      simp only [advance, hactive]
      exact (markEach_sendReply _ id (.ok reply) _).symm
    have hwaiting : o.waiting.get? id = none := by
      by_contra hne
      obtain ⟨w, hw⟩ := Option.ne_none_iff_exists'.mp hne
      cases (h.lined.apart id w hw).symm.trans hactive
    have hret : o.Retired id resources q := by
      refine ⟨fun x => ?_, fun x => Table.get?_erase o.active id x, rfl, List.Sublist.refl _,
        fun _ _ => Iff.rfl, rfl, rfl⟩
      show o.waiting.get? x = _
      split
      · next hx => rw [hx, hwaiting]
      · rfl
    rw [heq]
    exact good_close h (.inr hactive) hret ⟨rfl, rfl, rfl, rfl⟩ (.inl rfl)
      fun hcontra => by cases hcontra

/-! ## The operations of the owner -/

omit [DecidableEq Resource] in
theorem booked_admission (h : Booked o) (hid : id.val = o.nextOperation)
    (hwaiting : o'.waiting = o.waiting.insert id w) (hactive : o'.active = o.active)
    (hnext : o'.nextOperation = o.nextOperation + 1) (htrace : o'.trace = o.trace) : Booked o' := by
  have hans : ∀ x, o'.Answered x ↔ o.Answered x := by
    intro x
    unfold Answered
    rw [htrace]
  have hother : ∀ x : OperationId, x.val < o.nextOperation → x ≠ id := by
    rintro x hlt rfl
    omega
  constructor
  case covered =>
    intro x hpos hlt
    rw [hwaiting, hactive, hans, Table.get?_insert]
    by_cases hx : x = id
    · rw [if_pos hx]
      exact .inl (by simp)
    rw [if_neg hx]
    refine h.covered x hpos ?_
    have hne : x.val ≠ id.val := fun heq => hx (by cases x; cases id; cases heq; rfl)
    omega
  case answered =>
    intro x hx
    obtain ⟨hw, ha, hlt⟩ := h.answered x ((hans x).mp hx)
    rw [hwaiting, hactive, hnext, Table.get?_insert, if_neg (hother x hlt)]
    exact ⟨hw, ha, Nat.lt_succ_of_lt hlt⟩
  case once => rw [htrace]; exact h.once
  case ordered => rw [htrace]; exact h.ordered
  case ahead =>
    intro x hx y v hv hshare
    rw [htrace] at hx
    rw [hwaiting, Table.get?_insert] at hv
    split at hv
    · next heq =>
      rw [heq, hid]
      exact (h.started x hx).2
    · exact h.ahead x hx y v hv hshare
  case started =>
    intro x hx
    rw [htrace] at hx
    obtain ⟨hw, hlt⟩ := h.started x hx
    rw [hwaiting, hnext, Table.get?_insert, if_neg (hother x.1 hlt)]
    exact ⟨hw, Nat.lt_succ_of_lt hlt⟩
  case preparedOnce => rw [htrace]; exact h.preparedOnce
  case activePrepared => rw [hactive, htrace]; exact h.activePrepared
  case preparedMarked => rw [htrace]; exact h.preparedMarked
  case expiredUnprepared => rw [htrace]; exact h.expiredUnprepared

theorem good_admitRequest (h : Good none o) (request : Request Command) :
    Good none (o.admitRequest machine request) := by
  unfold admitRequest
  split
  · exact ⟨h.lined.congr rfl rfl rfl rfl rfl rfl, h.staffed.congr rfl rfl rfl,
      h.booked.congr rfl rfl rfl rfl rfl rfl⟩
  refine ⟨?_, ?_, ?_⟩
  · exact lined_markReady (lined_admission h.lined rfl rfl (nodup_retainUnique [] _) rfl rfl rfl rfl
      rfl rfl)
  · exact (marks_markReady _ _).staffed (h.staffed.congr rfl rfl rfl)
  · exact (marks_markReady _ _).booked (booked_admission h.booked rfl rfl rfl rfl rfl)

omit [DecidableEq Resource] in
/-- An operation whose worker has gone is still active. -/
theorem staffed_completed (h : Staffed none o) {task : TaskId} {effect : Effect}
    (htask : o.workers.get? task = some (id, effect)) (state : S) :
    Staffed (some id) { o with state, workers := o.workers.erase task } := by
  have hget : ∀ t x, (o.workers.erase task).get? t = some x →
      t ≠ task ∧ o.workers.get? t = some x := by
    intro t x hx
    rw [Table.get?_erase] at hx
    split at hx
    · cases hx
    · next hne => exact ⟨hne, hx⟩
  constructor
  case working =>
    intro x rs hx hne
    obtain ⟨t, eff, ht⟩ := h.working x rs hx fun heq => by cases heq
    refine ⟨t, eff, ?_⟩
    refine (Table.get?_erase ..).trans ((if_neg ?_).trans ht)
    rintro rfl
    cases ht.symm.trans htask
    exact hne rfl
  case worker =>
    intro t x eff hx
    obtain ⟨hne, hx⟩ := hget t _ hx
    refine ⟨(h.worker t x eff hx).1, fun heq => hne ?_⟩
    rw [← Option.some.inj heq] at hx
    exact h.single t task id eff effect hx htask
  case single =>
    intro t t' x eff eff' hx hx'
    exact h.single t t' x eff eff' (hget t _ hx).2 (hget t' _ hx').2
  case old => exact fun t x hx => h.old t x (hget t x hx).2

theorem good_completed (h : Good none o) {task : TaskId} {effect : Effect}
    (htask : o.workers.get? task = some (id, effect)) (state : S) :
    Good (some id) { o with state, workers := o.workers.erase task } :=
  ⟨h.lined.congr rfl rfl rfl rfl rfl rfl, staffed_completed h.staffed htask state,
    h.booked.congr rfl rfl rfl rfl rfl rfl⟩

theorem good_completeEffect (h : Good none o) (task : TaskId) (result : Option Completion) :
    Good none (o.completeEffect machine task result) := by
  unfold completeEffect
  split
  · exact h
  next id effect htask =>
  obtain ⟨⟨resources, hactive⟩, _⟩ := h.staffed.worker task id effect htask
  cases result with
  | none => exact (good_advance (good_completed h htask _) hactive _).1
  | some completion => exact (good_advance (good_completed h htask _) hactive _).1

theorem Good.congr (h : Good busy o) (hwaiting : o'.waiting = o.waiting)
    (hready : o'.ready = o.ready) (horder : o'.order = o.order) (hactive : o'.active = o.active)
    (hworkers : o'.workers = o.workers) (htask : o'.nextTask = o.nextTask)
    (hnext : o'.nextOperation = o.nextOperation) (htrace : o'.trace = o.trace) : Good busy o' where
  lined := h.lined.congr hwaiting hready horder hactive hnext (by rw [htrace])
  staffed := h.staffed.congr hactive hworkers htask
  booked := h.booked.congr hwaiting hactive hnext (by rw [htrace]) (by rw [htrace]) (by rw [htrace])

theorem good_expireDue (now : Instant) (h : Good none o)
    (due : List (Instant × OperationId)) : Good none (o.expireDue machine now due) := by
  induction due generalizing o with
  | nil => exact h.congr rfl rfl rfl rfl rfl rfl rfl rfl
  | cons d rest ih =>
    obtain ⟨deadline, id⟩ := d
    unfold expireDue
    split
    · exact h.congr rfl rfl rfl rfl rfl rfl rfl rfl
    split
    · exact ih h
    · next w hw =>
      refine ih (good_expire machine h ?_ hw).1
      exact ⟨rfl, rfl, rfl, rfl, rfl, rfl, rfl, .refl _, fun _ _ => Iff.rfl⟩

theorem good_processTurn (h : Good none o) (t : OwnerTurn Command Completion) :
    Good none (o.processTurn machine t) := by
  cases t with
  | deadline now => exact good_expireDue machine now h _
  | request request => exact good_admitRequest machine h request
  | completion task result => exact good_completeEffect machine h task result

/-! ## The start loop -/

/-- One operation is taken from the ready queue. -/
theorem good_start (now : Instant) (h : Good none o) {rest : List OperationId}
    (hready : o.ready = id :: rest) (hw : o.waiting.get? id = some w) :
    Good none (start machine { o with ready := rest } now id w)
      ∧ (start machine { o with ready := rest } now id w).room < o.room := by
  have hmem : id ∈ o.ready := by
    rw [hready]
    exact List.mem_cons_self ..
  have hroom : rest.length + (o.nextOperation - o.trace.marked.length) < o.room := by
    rw [room, hready, List.length_cons]
    omega
  have hsub : rest.Sublist o.ready := by
    rw [hready]
    exact List.sublist_cons_self id rest
  have hiff : ∀ x, x ≠ id → (x ∈ rest ↔ x ∈ o.ready) := by
    intro x hx
    rw [hready, List.mem_cons]
    exact ⟨.inr, fun hor => hor.resolve_left hx⟩
  -- the deadline of the operation is dropped in both branches
  obtain ⟨p, hp, hrest, heq⟩ : ∃ p : RuntimeOwner S Command Reply Resource Effect,
      o.Popped id p ∧ p.ready = rest ∧ start machine { o with ready := rest } now id w =
        if w.request.isExpired now then p.expire machine id w
        else advance { p with
          state := (machine.prepare p.state id w.request.command).1
          waiting := p.waiting.erase id
          active := p.active.insert id w.resources
          trace := { p.trace with prepared := p.trace.prepared ++ [(id, w.resources)] } } id
          (machine.prepare p.state id w.request.command).2 := by
    unfold start
    cases w.request.deadline with
    | none =>
      exact ⟨{ o with ready := rest }, ⟨rfl, rfl, rfl, rfl, rfl, rfl, rfl, hsub, hiff⟩, rfl, rfl⟩
    | some deadline =>
      exact ⟨{ o with ready := rest, deadlines := without o.deadlines (deadline, id) },
        ⟨rfl, rfl, rfl, rfl, rfl, rfl, rfl, hsub, hiff⟩, rfl, rfl⟩
  have hproom : p.room < o.room := by
    rw [room, hrest, hp.nextOperation, hp.trace]
    exact hroom
  rw [heq]
  split
  · obtain ⟨hgood, hexp⟩ := good_expire machine h hp hw
    rw [hexp]
    exact ⟨hgood, hproom⟩
  have hisReady : w.ready = true := (h.lined.queued id w hw).mpr hmem
  let q : RuntimeOwner S Command Reply Resource Effect :=
    { p with
      state := (machine.prepare p.state id w.request.command).1
      waiting := p.waiting.erase id
      active := p.active.insert id w.resources
      trace := { p.trace with prepared := p.trace.prepared ++ [(id, w.resources)] } }
  have hlined : Lined [] q := by
    refine lined_start h.lined hready hw (fun x => ?_) (fun x => ?_) hp.order hrest ?_
      hp.nextOperation
    · exact (Table.get?_erase p.waiting id x).trans (by rw [hp.waiting])
    · exact (Table.get?_insert p.active id x w.resources).trans (by rw [hp.active])
    · show p.trace.marked = _
      rw [hp.trace]
  have hstaffed : Staffed (some id) q := by
    have hinsert : q.active = o.active.insert id w.resources := by
      show p.active.insert id w.resources = _
      rw [hp.active]
    exact staffed_start h.staffed (h.lined.apart id w hw) hinsert hp.workers hp.nextTask
  have hbooked : Booked q := by
    refine booked_start h.lined h.booked hw hisReady ?_ ?_ hp.nextOperation ?_ ?_ ?_
    · show p.waiting.erase id = _
      rw [hp.waiting]
    · show p.active.insert id w.resources = _
      rw [hp.active]
    · show p.trace.replies = _
      rw [hp.trace]
    · show p.trace.marked = _
      rw [hp.trace]
    · show p.trace.prepared ++ _ = _
      rw [hp.trace]
  have hactive : q.active.get? id = some w.resources :=
    (Table.get?_insert p.active id id w.resources).trans (if_pos rfl)
  obtain ⟨hgood, hadv⟩ := good_advance ⟨hlined, hstaffed, hbooked⟩ hactive
    (machine.prepare p.state id w.request.command).2
  refine ⟨hgood, ?_⟩
  rw [hadv]
  exact hproom

/-- An operation that expired while it was ready is skipped. -/
theorem good_skip (h : Good none o) {rest : List OperationId} (hready : o.ready = id :: rest)
    (hw : o.waiting.get? id = none) : Good none { o with ready := rest } := by
  have hnodup : (id :: rest).Nodup := hready ▸ h.lined.readyNodup
  have hl := h.lined
  refine ⟨?_, h.staffed.congr rfl rfl rfl, h.booked.congr rfl rfl rfl rfl rfl rfl⟩
  refine ⟨hl.sorted, hl.listed, hl.noneEmpty, hl.apart, hl.unique, hl.activeUnique, hl.front,
    hl.readyFront, hl.woken, ?_, (List.nodup_cons.mp hnodup).2, ?_, hl.marked, hl.markedNodup,
    hl.markedOld, hl.old, hl.activeOld⟩
  · intro x v hx
    have hne : x ≠ id := by
      rintro rfl
      cases hw.symm.trans hx
    rw [hl.queued x v hx, hready, List.mem_cons]
    exact ⟨fun hor => hor.resolve_left hne, .inr⟩
  · intro x hx
    refine hl.readyMarked x ?_
    rw [hready]
    exact List.mem_cons_of_mem _ hx

/-- With enough turns the loop ends, and then nothing is ready. -/
theorem good_startLoop (clock : OperationId → Instant) (fuel : Nat) (h : Good none o)
    (hfuel : o.room ≤ fuel) :
    Good none (startLoop machine clock fuel o) ∧ (startLoop machine clock fuel o).ready = [] := by
  induction fuel generalizing o with
  | zero =>
    refine ⟨h, List.length_eq_zero_iff.mp ?_⟩
    unfold room at hfuel
    show o.ready.length = 0
    omega
  | succ fuel ih =>
    rw [startLoop]
    split
    · next hnil => exact ⟨h, hnil⟩
    next id rest hready =>
    simp only
    split
    · next hw =>
      refine ih (good_skip h hready hw) ?_
      unfold room at hfuel ⊢
      rw [hready, List.length_cons] at hfuel
      show rest.length + (o.nextOperation - o.trace.marked.length) ≤ fuel
      omega
    · next w hw =>
      obtain ⟨hgood, hlt⟩ := good_start machine (clock id) h hready hw
      exact ih hgood (by omega)

theorem good_turn (h : Good none o) (t : ClockedTurn Command Completion) :
    Good none (o.turn machine t) ∧ (o.turn machine t).ready = [] := by
  refine good_startLoop machine t.2 _ (good_processTurn machine h t.1) ?_
  unfold room
  omega

/-! ## Runs -/

/-- The owner before its first turn. -/
def new (state : S) : RuntimeOwner S Command Reply Resource Effect := { state }

theorem good_new (state : S) :
    Good none (new state : RuntimeOwner S Command Reply Resource Effect) := by
  -- every table and every list of the new owner is empty
  refine ⟨?_, ?_, ?_⟩
  · constructor
    case sorted => exact fun _ => List.Pairwise.nil
    case listed =>
      intro r id
      refine ⟨fun hmem => (by cases hmem), ?_⟩
      rintro (⟨w, hw, _⟩ | ⟨rs, hrs, _⟩)
      · cases hw
      · cases hrs
    case readyNodup => exact List.nodup_nil
    case markedNodup => exact List.nodup_nil
    case readyMarked => exact fun _ hx => (by cases hx)
    case markedOld => exact fun _ hx => (by cases hx)
    all_goals exact fun _ _ hx => (by cases hx)
  · constructor
    case working => exact fun _ _ hx => (by cases hx)
    case worker => exact fun _ _ _ hx => (by cases hx)
    case single => exact fun _ _ _ _ _ hx => (by cases hx)
    case old => exact fun _ _ hx => (by cases hx)
  · constructor
    case covered =>
      intro id hpos hlt
      have hone : id.val < 1 := hlt
      omega
    case once => exact List.nodup_nil
    case ordered => exact List.Pairwise.nil
    case preparedOnce => exact List.nodup_nil
    case activePrepared => exact fun _ _ hx => (by cases hx)
    all_goals exact fun _ hx => (by cases hx)

/-- Whoever waits, waits for an active operation once nothing is ready. -/
theorem waiting_active (h : Good none o) (hready : o.ready = []) (hw : o.waiting.get? id = some w) :
    ∃ x resources, o.active.get? x = some resources := by
  -- by induction on the age: the front of a lane it is not at the front of is older
  obtain ⟨n, hn⟩ : ∃ n, n = id.val := ⟨_, rfl⟩
  induction n using Nat.strong_induction_on generalizing id w with
  | _ n ih =>
    have hunready : w.ready = false := by
      cases hr : w.ready with
      | false => rfl
      | true =>
        have hmem := (h.lined.queued id w hw).mp hr
        rw [hready] at hmem
        cases hmem
    have hbehind : ∃ r ∈ w.resources, (o.order.lane r).head? ≠ some id := by
      by_contra hall
      refine List.not_mem_nil (h.lined.woken id w hw hunready fun r hr => ?_)
      by_contra hne
      exact hall ⟨r, hr, hne⟩
    obtain ⟨r, hr, hne⟩ := hbehind
    have hmem : id ∈ o.order.lane r := (h.lined.listed r id).mpr (.inl ⟨w, hw, hr⟩)
    have hsorted := h.lined.sorted r
    cases hlane : o.order.lane r with
    | nil =>
      rw [hlane] at hmem
      cases hmem
    | cons a rest =>
      rw [hlane] at hmem hne hsorted
      have ha : id ≠ a := fun heq => hne (by rw [heq]; rfl)
      have hlt : a.val < id.val :=
        (List.pairwise_cons.mp hsorted).1 id ((List.mem_cons.mp hmem).resolve_left ha)
      have hfront : a ∈ o.order.lane r := by
        rw [hlane]
        exact List.mem_cons_self ..
      rcases (h.lined.listed r a).mp hfront with ⟨v, hv, _⟩ | ⟨rs, hrs, _⟩
      · exact ih a.val (by omega) hv rfl
      · exact ⟨a, rs, hrs⟩

/-- Nobody is left when no worker is. -/
theorem all_answered (h : Good none o) (hready : o.ready = [])
    (hworkers : ∀ task, o.workers.get? task = none) (hpos : 1 ≤ id.val)
    (hlt : id.val < o.nextOperation) : o.Answered id := by
  have hidle : ∀ x, o.active.get? x = none := by
    intro x
    by_contra hne
    obtain ⟨rs, hrs⟩ := Option.ne_none_iff_exists'.mp hne
    obtain ⟨task, effect, ht⟩ := h.staffed.working x rs hrs fun heq => by cases heq
    cases (hworkers task).symm.trans ht
  rcases h.booked.covered id hpos hlt with hw | ha | hans
  · obtain ⟨w, hw⟩ := Option.ne_none_iff_exists'.mp hw
    obtain ⟨x, rs, hrs⟩ := waiting_active h hready hw
    cases (hidle x).symm.trans hrs
  · exact absurd (hidle id) ha
  · exact hans

theorem good_run (state : S) (turns : List (ClockedTurn Command Completion)) :
    Good none (Runs.run (turn machine) (new state) turns)
      ∧ (Runs.run (turn machine) (new state) turns).ready = [] := by
  refine Runs.run_induction (I := fun o => Good none o ∧ o.ready = []) ?_
    ⟨good_new state, rfl⟩ turns
  exact fun o t h => good_turn machine h.1 t

/-- A waiting operation in front of all its lanes has been marked once, and is
    in the ready queue. -/
theorem Lined.front_marked (h : Lined [] o) (hw : o.waiting.get? id = some w)
    (hfront : o.AtFront id w.resources) : o.trace.marked.count id = 1 ∧ id ∈ o.ready := by
  have hready : w.ready = true := by
    cases hr : w.ready with
    | true => rfl
    | false => exact absurd (h.woken id w hw hr hfront) List.not_mem_nil
  exact ⟨List.count_eq_one_of_mem h.markedNodup ((h.marked id w hw).mp hready),
    (h.queued id w hw).mp hready⟩

end RuntimeOwner

end Sccp
