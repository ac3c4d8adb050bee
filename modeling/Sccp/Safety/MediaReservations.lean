/-
  Sccp.Safety.MediaReservations

  Who holds what in the media owner.  The reserved resources are those of the
  live reservations and of the restores that run, and no two of them share one;
  whoever waits conflicts with a reserved resource or with an earlier waiter;
  and of two waiters that share a resource the earlier one is granted first.
-/

import Sccp.Runtime.MediaOwner
import Sccp.Lib.Runs

namespace Sccp

namespace MediaOwner

variable {C : Type} {o o' : MediaOwner C}
variable {p : MediaOwner C} {rs : List MediaResource}

/-! ## Exclusive holders -/

/-- A live reservation, or a worker that runs. -/
inductive Holder where
  | reservation (id : Nat)
  | worker (worker : Nat)

/-- A restore that runs holds its call. -/
def WorkHolds : MediaWork C → MediaResource → Prop
  | .restore _ callId _, r => r = .call callId
  | .announcement .., _ => False

def Holds (o : MediaOwner C) : Holder → MediaResource → Prop
  | .reservation id, r => ∃ resources, o.reservations.get? id = some resources ∧ r ∈ resources
  | .worker worker, r => ∃ work, o.workers.get? worker = some work ∧ WorkHolds work r

structure Exclusive (o : MediaOwner C) : Prop where
  held : ∀ r, r ∈ o.reserved ↔ ∃ x, o.Holds x r
  alone : ∀ x y r, o.Holds x r → o.Holds y r → x = y
  old : ∀ id rs, o.reservations.get? id = some rs → id < o.nextId
  workerOld : ∀ w work, o.workers.get? w = some work → w < o.nextWorker

theorem Exclusive.congr (h : Exclusive o) (hreserved : o'.reserved = o.reserved)
    (hreservations : o'.reservations = o.reservations) (hworkers : o'.workers = o.workers)
    (hid : o.nextId ≤ o'.nextId) (hworker : o'.nextWorker = o.nextWorker) : Exclusive o' := by
  have hholds : ∀ x r, o'.Holds x r ↔ o.Holds x r := by
    intro x r
    cases x <;> simp only [Holds, hreservations, hworkers]
  constructor
  case held => simp only [hreserved, hholds]; exact h.held
  case alone => simp only [hholds]; exact h.alone
  case old =>
    rw [hreservations]
    exact fun id rs hrs => Nat.lt_of_lt_of_le (h.old id rs hrs) hid
  case workerOld => rw [hworkers, hworker]; exact h.workerOld

theorem Exclusive.fresh (h : Exclusive o) : o.workers.get? o.nextWorker = none := by
  by_contra hne
  obtain ⟨work, hwork⟩ := Option.ne_none_iff_exists'.mp hne
  exact Nat.lt_irrefl _ (h.workerOld _ work hwork)

/-- Somebody takes what nobody holds. -/
theorem Exclusive.take (h : Exclusive o) (x : Holder) {P : MediaResource → Prop}
    (hfree : ∀ r, P r → r ∉ o.reserved) (hreserved : ∀ r, r ∈ o'.reserved ↔ P r ∨ r ∈ o.reserved)
    (hholds : ∀ y r, o'.Holds y r ↔ y = x ∧ P r ∨ o.Holds y r)
    (hold : ∀ id rs, o'.reservations.get? id = some rs → id < o'.nextId)
    (hworkerOld : ∀ w work, o'.workers.get? w = some work → w < o'.nextWorker) : Exclusive o' := by
  refine ⟨fun r => ?_, fun y z r hy hz => ?_, hold, hworkerOld⟩
  · simp only [hreserved, h.held, hholds, exists_or, exists_eq_left]
  have hbusy : ∀ y, o.Holds y r → ¬ P r := fun y hy hp => hfree r hp ((h.held r).mpr ⟨y, hy⟩)
  rcases (hholds y r).mp hy with ⟨rfl, hp⟩ | hy <;> rcases (hholds z r).mp hz with ⟨rfl, hp'⟩ | hz
  · rfl
  · exact absurd hp (hbusy z hz)
  · exact absurd hp' (hbusy y hy)
  · exact h.alone y z r hy hz

/-- Somebody gives back all that it holds. -/
theorem Exclusive.give (h : Exclusive o) (x : Holder)
    (hreserved : ∀ r, r ∈ o'.reserved ↔ r ∈ o.reserved ∧ ¬ o.Holds x r)
    (hholds : ∀ y r, o'.Holds y r ↔ y ≠ x ∧ o.Holds y r)
    (hold : ∀ id rs, o'.reservations.get? id = some rs → id < o'.nextId)
    (hworkerOld : ∀ w work, o'.workers.get? w = some work → w < o'.nextWorker) : Exclusive o' := by
  refine ⟨fun r => ?_, fun y z r hy hz => ?_, hold, hworkerOld⟩
  · simp only [hreserved, h.held, hholds]
    constructor
    · rintro ⟨⟨y, hy⟩, hnot⟩
      refine ⟨y, ?_, hy⟩
      rintro rfl
      exact hnot hy
    · rintro ⟨y, hne, hy⟩
      exact ⟨⟨y, hy⟩, fun hx => hne (h.alone y x r hy hx)⟩
  · exact h.alone y z r ((hholds y r).mp hy).2 ((hholds z r).mp hz).2

/-- A worker starts. -/
theorem exclusive_start (h : Exclusive o) {work : MediaWork C}
    (hfree : ∀ r, WorkHolds work r → r ∉ o.reserved)
    (hreserved : ∀ r, r ∈ o'.reserved ↔ WorkHolds work r ∨ r ∈ o.reserved)
    (hreservations : o'.reservations = o.reservations)
    (hworkers : o'.workers = o.workers.insert o.nextWorker work)
    (hid : o'.nextId = o.nextId) (hworker : o'.nextWorker = o.nextWorker + 1) : Exclusive o' := by
  have hget : ∀ w, o'.workers.get? w = if w = o.nextWorker then some work else o.workers.get? w :=
    fun w => by rw [hworkers, Table.get?_insert]
  refine h.take (.worker o.nextWorker) hfree hreserved (fun y r => ?_) ?_ fun w v hw => ?_
  · cases y with
    | reservation id => simp [Holds, hreservations]
    | worker w =>
      by_cases hw : w = o.nextWorker
      · subst hw
        simp [Holds, hget, h.fresh]
      · simp [Holds, hget, hw]
  · rw [hreservations, hid]
    exact h.old
  · rw [hworker]
    rw [hget] at hw
    split at hw
    · next heq => omega
    · exact Nat.lt_succ_of_lt (h.workerOld w v hw)

/-- A worker has come back. -/
theorem exclusive_return (h : Exclusive o) {w : Nat} {work : MediaWork C}
    (hw : o.workers.get? w = some work)
    (hreserved : ∀ r, r ∈ o'.reserved ↔ r ∈ o.reserved ∧ ¬ WorkHolds work r)
    (hreservations : o'.reservations = o.reservations)
    (hworkers : o'.workers = o.workers.erase w) (hid : o'.nextId = o.nextId)
    (hworker : o'.nextWorker = o.nextWorker) : Exclusive o' := by
  have hget : ∀ v, o'.workers.get? v = if v = w then none else o.workers.get? v :=
    fun v => by rw [hworkers, Table.get?_erase]
  refine h.give (.worker w) (fun r => ?_) (fun y r => ?_) ?_ fun v u hv => ?_
  · simp [hreserved, Holds, hw]
  · cases y with
    | reservation id => simp [Holds, hreservations]
    | worker v => by_cases hv : v = w <;> simp [Holds, hget, hv]
  · rw [hreservations, hid]
    exact h.old
  · rw [hworker]
    rw [hget] at hv
    split at hv
    · cases hv
    · exact h.workerOld v u hv

/-- A reservation is granted for resources that nobody holds. -/
theorem exclusive_grant (h : Exclusive o) (hfree : ∀ r ∈ rs, r ∉ o.reserved)
    (hreserved : ∀ r, r ∈ o'.reserved ↔ r ∈ rs ∨ r ∈ o.reserved)
    (hreservations : o'.reservations = o.reservations.insert o.nextId rs)
    (hworkers : o'.workers = o.workers) (hid : o'.nextId = o.nextId + 1)
    (hworker : o'.nextWorker = o.nextWorker) : Exclusive o' := by
  have hget : ∀ i, o'.reservations.get? i
      = if i = o.nextId then some rs else o.reservations.get? i :=
    fun i => by rw [hreservations, Table.get?_insert]
  refine h.take (.reservation o.nextId) hfree hreserved (fun y r => ?_) (fun i v hv => ?_) ?_
  · cases y with
    | reservation i =>
      by_cases hi : i = o.nextId
      · subst hi
        have hnew : ¬ o.Holds (.reservation o.nextId) r := fun ⟨v, hv, _⟩ =>
          Nat.lt_irrefl _ (h.old _ v hv)
        simp only [Holds, hget, if_pos, Option.some.injEq, exists_eq_left', true_and]
        exact (or_iff_left hnew).symm
      · simp [Holds, hget, hi]
    | worker w => simp [Holds, hworkers]
  · rw [hid]
    rw [hget] at hv
    split at hv
    · next heq => omega
    · exact Nat.lt_succ_of_lt (h.old i v hv)
  · rw [hworkers, hworker]
    exact h.workerOld

/-- A reservation gives its resources back. -/
theorem exclusive_release (h : Exclusive o) {id : Nat} (hrs : o.reservations.get? id = some rs)
    (hreserved : ∀ r, r ∈ o'.reserved ↔ r ∈ o.reserved ∧ r ∉ rs)
    (hreservations : o'.reservations = o.reservations.erase id) (hworkers : o'.workers = o.workers)
    (hid : o'.nextId = o.nextId) (hworker : o'.nextWorker = o.nextWorker) : Exclusive o' := by
  have hget : ∀ i, o'.reservations.get? i = if i = id then none else o.reservations.get? i :=
    fun i => by rw [hreservations, Table.get?_erase]
  refine h.give (.reservation id) (fun r => ?_) (fun y r => ?_) (fun i v hv => ?_) ?_
  · simp [hreserved, Holds, hrs]
  · cases y with
    | reservation i => by_cases hi : i = id <;> simp [Holds, hget, hi]
    | worker w => simp [Holds, hworkers]
  · rw [hid]
    rw [hget] at hv
    split at hv
    · cases hv
    · exact h.old i v hv
  · rw [hworkers, hworker]
    exact h.workerOld

/-! ## What each operation does to the reservations -/

/-- The reservation side of the owner is untouched. -/
structure SameHolds (o o' : MediaOwner C) : Prop where
  reserved : o'.reserved = o.reserved
  reservations : o'.reservations = o.reservations
  workers : o'.workers = o.workers
  waiting : o'.waiting = o.waiting
  nextId : o'.nextId = o.nextId
  nextWorker : o'.nextWorker = o.nextWorker
  granted : o'.trace.granted = o.trace.granted
  arrivals : o'.trace.arrivals = o.trace.arrivals
  replies : o'.trace.replies = o.trace.replies

theorem SameHolds.refl (o : MediaOwner C) : o.SameHolds o :=
  ⟨rfl, rfl, rfl, rfl, rfl, rfl, rfl, rfl, rfl⟩

theorem SameHolds.exclusive (h : o.SameHolds o') (he : Exclusive o) : Exclusive o' :=
  he.congr h.reserved h.reservations h.workers (Nat.le_of_eq h.nextId.symm) h.nextWorker

variable (o)

theorem sameHolds_releaseAnchor (id : Nat) : o.SameHolds (o.releaseAnchor id) := by
  unfold releaseAnchor
  split
  · exact ⟨rfl, rfl, rfl, rfl, rfl, rfl, rfl, rfl, rfl⟩
  · exact ⟨rfl, rfl, rfl, rfl, rfl, rfl, rfl, rfl, rfl⟩

/-- The ticket that a reply answers, and the reservation it grants. -/
def answerOf : MediaReply → Option (Nat × Option Nat)
  | .reservation ticket id => some (ticket, id)
  | _ => none

def answers : List (Nat × Option Nat) := o.trace.replies.filterMap answerOf

/-- Reservations and leases take their ids from one counter. -/
def givesId : MediaReply → Bool
  | .reservation _ id => id.isSome
  | .anchor lease => lease.isSome
  | _ => false

def issued : Nat := o.trace.replies.countP givesId

theorem answers_reply (r : MediaReply) :
    (o.reply r).answers = o.answers ++ (answerOf r).toList := by
  unfold answers reply
  rw [List.filterMap_append]
  cases hr : answerOf r <;> simp [hr]

theorem issued_reply (r : MediaReply) : (o.reply r).issued = o.issued + (givesId r).toNat := by
  unfold issued reply
  rw [List.countP_append]
  cases hr : givesId r <;> simp [hr]

variable {o}

/-- Restores may have started, and ids may have been given to leases. -/
structure Dispatched (o o' : MediaOwner C) : Prop where
  exclusive : Exclusive o → Exclusive o'
  reserved : ∀ r ∈ o.reserved, r ∈ o'.reserved
  waiting : o'.waiting = o.waiting
  granted : o'.trace.granted = o.trace.granted
  arrivals : o'.trace.arrivals = o.trace.arrivals
  reservations : o'.reservations = o.reservations
  answers : o'.answers = o.answers
  issued : o.issued ≤ o'.issued
  nextId : o'.nextId + o.issued = o.nextId + o'.issued

theorem Dispatched.trans (h : o.Dispatched o') (h' : o'.Dispatched p) : o.Dispatched p where
  exclusive := fun he => h'.exclusive (h.exclusive he)
  reserved := fun r hr => h'.reserved r (h.reserved r hr)
  waiting := h'.waiting.trans h.waiting
  granted := h'.granted.trans h.granted
  arrivals := h'.arrivals.trans h.arrivals
  reservations := h'.reservations.trans h.reservations
  answers := h'.answers.trans h.answers
  issued := Nat.le_trans h.issued h'.issued
  nextId := by
    have hid := h.nextId
    have hid' := h'.nextId
    omega

theorem Dispatched.nextId_le (h : o.Dispatched o') : o.nextId ≤ o'.nextId := by
  have hid := h.nextId
  have hissued := h.issued
  omega

theorem SameHolds.dispatched (h : o.SameHolds o') : o.Dispatched o' := by
  have hissued : o'.issued = o.issued := congrArg (List.countP givesId) h.replies
  refine ⟨h.exclusive, fun r hr => ?_, h.waiting, h.granted, h.arrivals, h.reservations,
    congrArg (List.filterMap answerOf) h.replies, Nat.le_of_eq hissued.symm, ?_⟩
  · rw [h.reserved]
    exact hr
  · rw [h.nextId, hissued]

/-- A reply to something else than a request for a reservation. -/
theorem dispatched_reply (o : MediaOwner C) {r : MediaReply} (hanswer : answerOf r = none)
    (hgives : givesId r = false) : o.Dispatched (o.reply r) := by
  have hissued := o.issued_reply r
  have hanswers := o.answers_reply r
  rw [hgives] at hissued
  rw [hanswer] at hanswers
  refine ⟨fun he => he.congr rfl rfl rfl (Nat.le_refl _) rfl, fun _ hr => hr, rfl, rfl, rfl, rfl,
    hanswers.trans (List.append_nil _), Nat.le_of_eq hissued.symm, ?_⟩
  rw [hissued]
  rfl

theorem dispatched_startRestore (id : Nat) {c : PbxCallId} (plan : C)
    (hfree : MediaResource.call c ∉ o.reserved) : o.Dispatched (o.startRestore id c plan) := by
  refine ⟨fun he => ?_, fun _ hr => List.mem_insert_of_mem hr, rfl, rfl, rfl, rfl, rfl,
    Nat.le_refl _, rfl⟩
  refine exclusive_start he (fun r hr => ?_) (fun _ => List.mem_insert_iff) rfl rfl rfl rfl
  cases hr
  exact hfree

variable (o)

theorem dispatched_dispatchEach (ids : List Nat) : o.Dispatched (o.dispatchEach ids) := by
  induction ids generalizing o with
  | nil => exact (SameHolds.refl o).dispatched
  | cons id rest ih =>
    rw [dispatchEach]
    split
    · exact ih o
    next anchor hanchor =>
    split
    · have hsame : o.SameHolds { o with cancelledAnchors := o.cancelledAnchors ++ [id] } :=
        ⟨rfl, rfl, rfl, rfl, rfl, rfl, rfl, rfl, rfl⟩
      exact hsame.dispatched.trans (ih _)
    next hfree =>
    split
    · exact (o.sameHolds_releaseAnchor id).dispatched.trans (ih _)
    · next restore _ => exact (dispatched_startRestore id restore hfree).trans (ih _)

theorem dispatched_dispatchCancelledAnchors : o.Dispatched o.dispatchCancelledAnchors := by
  have hsame : o.SameHolds { o with cancelledAnchors := [] } :=
    ⟨rfl, rfl, rfl, rfl, rfl, rfl, rfl, rfl, rfl⟩
  exact hsame.dispatched.trans (dispatched_dispatchEach _ _)

theorem dispatched_acquireAnchor (reservation : Nat) (callId : PbxCallId)
    (reason : MediaAnchorReason) (restore : Option C) :
    o.Dispatched (o.acquireAnchor reservation callId reason restore) := by
  unfold acquireAnchor
  split
  · unfold allocateId
    by_cases hid : o.nextId + 1 < 2 ^ 64
    · rw [if_pos hid]
      have hissued := o.issued_reply (.anchor (some ⟨callId, reason, o.nextId⟩))
      have hanswers := o.answers_reply (.anchor (some ⟨callId, reason, o.nextId⟩))
      refine ⟨fun he => he.congr rfl rfl rfl (Nat.le_succ _) rfl, fun _ hr => hr, rfl, rfl, rfl,
        rfl, hanswers.trans (List.append_nil _), hissued ▸ Nat.le_add_right _ _, ?_⟩
      exact (Nat.succ_add _ _).trans (congrArg (o.nextId + ·) hissued).symm
    · rw [if_neg hid]
      exact o.dispatched_reply rfl rfl
  · exact o.dispatched_reply rfl rfl

/-- A command that neither asks for a reservation nor releases one. -/
theorem dispatched_process {command : MediaCommand C}
    (hreserve : ∀ resources wait, command ≠ .reserve resources wait)
    (hrelease : ∀ id, command ≠ .releaseReservation id) : o.Dispatched (o.process command) := by
  cases command with
  | reserve resources wait => exact absurd rfl (hreserve resources wait)
  | releaseReservation id => exact absurd rfl (hrelease id)
  | acquireAnchor reservation callId reason restore =>
    exact o.dispatched_acquireAnchor reservation callId reason restore
  | releaseAnchor id explicit =>
    cases explicit with
    | true => exact (o.sameHolds_releaseAnchor id).dispatched.trans (dispatched_reply _ rfl rfl)
    | false => exact SameHolds.dispatched ⟨rfl, rfl, rfl, rfl, rfl, rfl, rfl, rfl, rfl⟩
  | nextGeneration =>
    show o.Dispatched o.allocateGeneration
    unfold allocateGeneration
    split
    · exact o.dispatched_reply rfl rfl
    · refine Dispatched.trans (SameHolds.dispatched ?_) (dispatched_reply _ rfl rfl)
      exact ⟨rfl, rfl, rfl, rfl, rfl, rfl, rfl, rfl, rfl⟩
  | deferAnnouncement id generation timer =>
    exact SameHolds.dispatched ⟨rfl, rfl, rfl, rfl, rfl, rfl, rfl, rfl, rfl⟩
  | _ =>
    refine Dispatched.trans (SameHolds.dispatched ?_) (dispatched_reply _ rfl rfl)
    exact ⟨rfl, rfl, rfl, rfl, rfl, rfl, rfl, rfl, rfl⟩

variable {o}

theorem dispatched_dueEach (now : Instant) (o : MediaOwner C)
    (due : List (ConferenceId × ActiveConferenceAnnouncement)) :
    o.Dispatched (o.dueEach now due) := by
  induction due generalizing o with
  | nil => exact (SameHolds.refl o).dispatched
  | cons d rest ih =>
    obtain ⟨id, active⟩ := d
    rw [dueEach]
    split
    · refine Dispatched.trans ?_ (ih _)
      refine ⟨fun h => ?_, fun _ hr => hr, rfl, rfl, rfl, rfl, rfl, Nat.le_refl _, rfl⟩
      exact exclusive_start h (fun _ => False.elim) (fun _ => by simp [WorkHolds]) rfl rfl rfl rfl
    · exact ih o

/-- The owner when a restore has come back, before anybody tries again. -/
def restored (o : MediaOwner C) (worker id : Nat) (callId : PbxCallId) : MediaOwner C :=
  let back := releaseAnchor { o with workers := o.workers.erase worker } id
  { back with reserved := without back.reserved (.call callId) }

theorem exclusive_restored (h : Exclusive o) {w i : Nat} {c : PbxCallId} {plan : C}
    (hw : o.workers.get? w = some (.restore i c plan)) : Exclusive (o.restored w i c) := by
  have hsame := sameHolds_releaseAnchor { o with workers := o.workers.erase w } i
  refine exclusive_return h hw (fun r => ?_) hsame.reservations hsame.workers hsame.nextId
    hsame.nextWorker
  show r ∈ without (releaseAnchor _ i).reserved (.call c) ↔ _
  rw [mem_without, hsame.reserved]
  rfl

/-- A completion is unknown, or ends an announcement, or a restore. -/
theorem complete_cases (o : MediaOwner C) (worker : Nat) (timer : Option Instant) :
    o.complete worker timer = o
    ∨ (∃ id generation announcements,
      o.workers.get? worker = some (.announcement id generation)
      ∧ o.complete worker timer = dispatchCancelledAnchors
        { o with workers := o.workers.erase worker, announcements })
    ∨ ∃ id callId plan, o.workers.get? worker = some (.restore id callId plan)
      ∧ o.complete worker timer = (o.restored worker id
        callId).dispatchCancelledAnchors.retryWaiting.dispatchCancelledAnchors := by
  unfold complete
  split
  · exact .inl rfl
  · next id generation hw =>
    cases timer with
    | none => exact .inr (.inl ⟨id, generation, _, hw, rfl⟩)
    | some timer => exact .inr (.inl ⟨id, generation, _, hw, rfl⟩)
  · next id callId plan hw => exact .inr (.inr ⟨id, callId, plan, hw, rfl⟩)

theorem dispatched_announced {w : Nat} {id : ConferenceId} {g : AnnouncementGeneration}
    (hw : o.workers.get? w = some (.announcement id g))
    (announcements : Table ConferenceId ActiveConferenceAnnouncement) :
    o.Dispatched { o with workers := o.workers.erase w, announcements } := by
  refine ⟨fun h => ?_, fun _ hr => hr, rfl, rfl, rfl, rfl, rfl, Nat.le_refl _, rfl⟩
  exact exclusive_return h hw (fun _ => by simp [WorkHolds]) rfl rfl rfl rfl

/-- A waiter conflicts with a reserved resource or with an earlier waiter. -/
def Conflicts (reserved : List MediaResource) (earlier : List Waiter)
    (resources : List MediaResource) : Prop :=
  ∃ r ∈ resources, r ∈ reserved ∨ ∃ v ∈ earlier, r ∈ v.resources

variable (o)

theorem withAnnouncements_subset (rs : List MediaResource) :
    ∀ r ∈ rs, r ∈ o.withAnnouncements rs := fun _ hr => List.mem_append_left _ hr

/-- A reservation request waits, is refused or is granted. -/
theorem reserve_cases (w : Waiter) :
    (Conflicts o.reserved o.waiting (o.withAnnouncements w.resources) ∧ w.wait = true
      ∧ o.reserve w = { o with
        waiting := o.waiting ++ [{ w with resources := o.withAnnouncements w.resources }] })
    ∨ (o.reserve w = o.reply (.reservation w.ticket none)
      ∧ ((Conflicts o.reserved o.waiting (o.withAnnouncements w.resources) ∧ w.wait = false)
        ∨ 2 ^ 64 ≤ o.nextId + 1))
    ∨ (¬ Conflicts o.reserved o.waiting (o.withAnnouncements w.resources)
      ∧ o.nextId + 1 < 2 ^ 64
      ∧ o.reserve w = reply { o with
          nextId := o.nextId + 1
          reserved := o.withAnnouncements w.resources ∪ o.reserved
          reservations := o.reservations.insert o.nextId (o.withAnnouncements w.resources)
          trace := { o.trace with granted := o.trace.granted ++ [w.ticket] } }
          (.reservation w.ticket (some o.nextId))) := by
  have hiff : ((o.withAnnouncements w.resources).any fun r =>
      r ∈ o.reserved || o.waiting.any fun v => r ∈ v.resources) = true
      ↔ Conflicts o.reserved o.waiting (o.withAnnouncements w.resources) := by
    simp [Conflicts]
  unfold reserve
  simp only
  split
  · next hany =>
    have hconf := hiff.mp hany
    split
    · next hwait => exact .inl ⟨hconf, hwait, rfl⟩
    · next hwait => exact .inr (.inl ⟨rfl, .inl ⟨hconf, by simpa using hwait⟩⟩)
  next hany =>
  have hfree : ¬ Conflicts o.reserved o.waiting (o.withAnnouncements w.resources) :=
    fun hconf => hany (hiff.mpr hconf)
  unfold allocateId
  by_cases hid : o.nextId + 1 < 2 ^ 64
  · rw [if_pos hid]
    exact .inr (.inr ⟨hfree, hid, rfl⟩)
  · rw [if_neg hid]
    exact .inr (.inl ⟨rfl, .inr (Nat.le_of_not_lt hid)⟩)

variable {o}

theorem exclusive_reserve (h : Exclusive o) (w : Waiter) : Exclusive (o.reserve w) := by
  rcases o.reserve_cases w with ⟨_, _, heq⟩ | ⟨heq, _⟩ | ⟨hfree, _, heq⟩
  · rw [heq]
    exact h.congr rfl rfl rfl (Nat.le_refl _) rfl
  · rw [heq]
    exact h.congr rfl rfl rfl (Nat.le_refl _) rfl
  · rw [heq]
    refine exclusive_grant h ?_ (fun r => List.mem_union_iff) rfl rfl rfl rfl
    exact fun r hr hmem => hfree ⟨r, hr, .inl hmem⟩

theorem exclusive_retryWaiting (h : Exclusive o) : Exclusive o.retryWaiting := by
  have hfold : ∀ (ws : List Waiter) (o : MediaOwner C), Exclusive o →
      Exclusive (ws.foldl reserve o) := by
    intro ws
    induction ws with
    | nil => exact fun _ h => h
    | cons w rest ih => exact fun o h => ih _ (exclusive_reserve h w)
  exact hfold _ _ (h.congr rfl rfl rfl (Nat.le_refl _) rfl)

/-! ## Nobody waits for nothing -/

/-- Every waiter is kept by something. -/
def Blocked (o : MediaOwner C) : Prop :=
  ∀ pre w post, o.waiting = pre ++ w :: post → Conflicts o.reserved pre w.resources

theorem Conflicts.mono {reserved reserved' : List MediaResource} {earlier : List Waiter}
    (h : Conflicts reserved earlier rs) (hsub : ∀ r ∈ reserved, r ∈ reserved') :
    Conflicts reserved' earlier rs := by
  obtain ⟨r, hr, hor⟩ := h
  exact ⟨r, hr, hor.imp_left (hsub r)⟩

theorem Blocked.grow (h : Blocked o) (hwaiting : o'.waiting = o.waiting)
    (hreserved : ∀ r ∈ o.reserved, r ∈ o'.reserved) : Blocked o' := by
  intro pre w post hsplit
  rw [hwaiting] at hsplit
  exact (h pre w post hsplit).mono hreserved

theorem blocked_reserve (h : Blocked o) (w : Waiter) : Blocked (o.reserve w) := by
  rcases o.reserve_cases w with ⟨hconf, _, heq⟩ | ⟨heq, _⟩ | ⟨_, _, heq⟩
  · rw [heq]
    intro pre v post hsplit
    have hsplit : o.waiting ++ [{ w with resources := o.withAnnouncements w.resources }]
        = pre ++ v :: post := hsplit
    -- the waiter is the new one, or it was there before
    rcases List.eq_nil_or_concat post with rfl | ⟨init, last, rfl⟩
    · obtain ⟨hpre, hv⟩ := List.append_inj' hsplit rfl
      cases hv
      rw [← hpre]
      exact hconf
    have hsplit' : o.waiting ++ [{ w with resources := o.withAnnouncements w.resources }]
        = (pre ++ v :: init) ++ [last] := by
      rw [hsplit, List.append_assoc]
      simp
    obtain ⟨hold, _⟩ := List.append_inj' hsplit' rfl
    exact h pre v init hold
  · rw [heq]
    exact h.grow rfl fun _ hr => hr
  · rw [heq]
    exact h.grow rfl fun _ hr => List.mem_union_iff.mpr (.inr hr)

/-! ## The order of arrival -/

/-- The owner while the requests of `pending` are tried: whoever waits or is tried has a
    ticket, the earlier the smaller. -/
structure Orderly (pending : List Waiter) (o : MediaOwner C) : Prop where
  exclusive : Exclusive o
  blocked : Blocked o
  sorted : ((o.waiting ++ pending).map Waiter.ticket).Pairwise (· < ·)
  old : ∀ w ∈ o.waiting ++ pending, w.ticket < o.trace.arrivals
  waits : ∀ w ∈ o.waiting, w.wait = true

/-- Two requests that share a resource, from the moment when both wait: `a` is granted before
    `b`, unless the ids run out. -/
inductive Turnout (base : List Nat) (a b : Nat) (pending : List Waiter) (o : MediaOwner C) :
    Prop where
  | waiting (v w : Waiter) (new : List Nat) (hv : v ∈ o.waiting ++ pending)
      (hw : w ∈ o.waiting ++ pending) (first : v.ticket = a) (second : w.ticket = b)
      (willing : v.wait = true ∧ w.wait = true) (share : ∃ r ∈ v.resources, r ∈ w.resources)
      (granted : o.trace.granted = base ++ new) (ungranted : b ∉ new)
  | first (new : List Nat) (granted : o.trace.granted = base ++ new) (done : a ∈ new)
      (ungranted : b ∉ new)
  | both (pre mid post : List Nat)
      (granted : o.trace.granted = base ++ (pre ++ a :: (mid ++ b :: post)))
  | spent (new : List Nat) (granted : o.trace.granted = base ++ new) (ungranted : b ∉ new)
      (exhausted : 2 ^ 64 ≤ o.nextId + 1)

/-- A step that keeps the invariants and the order of those who wait. -/
structure Keeps (pending pending' : List Waiter) (o o' : MediaOwner C) : Prop where
  orderly : Orderly pending o → Orderly pending' o'
  turnout : Orderly pending o → ∀ base a b, a < b → Turnout base a b pending o →
    Turnout base a b pending' o'

variable {base : List Nat} {a b : Nat}
variable {pending pending' pending'' : List Waiter} {w : Waiter}

theorem Turnout.congr (h : Turnout base a b pending o)
    (hwaiting : ∀ w ∈ o.waiting ++ pending, w ∈ o'.waiting ++ pending')
    (hgranted : o'.trace.granted = o.trace.granted) (hid : o.nextId ≤ o'.nextId) :
    Turnout base a b pending' o' := by
  cases h with
  | waiting v w new hv hw hf hs willing share granted hout =>
    exact .waiting v w new (hwaiting v hv) (hwaiting w hw) hf hs willing share
      (hgranted.trans granted) hout
  | first new granted done hout => exact .first new (hgranted.trans granted) done hout
  | both pre mid post granted => exact .both pre mid post (hgranted.trans granted)
  | spent new granted hout exhausted =>
    exact .spent new (hgranted.trans granted) hout (by omega)

theorem Turnout.result (h : Turnout base a b pending o) : ∃ new, o.trace.granted = base ++ new
      ∧ (b ∈ new → ∃ pre mid post, new = pre ++ a :: (mid ++ b :: post)) := by
  cases h with
  | waiting v w new hv hw hf hs willing share granted hout =>
    exact ⟨new, granted, fun hb => absurd hb hout⟩
  | first new granted done hout => exact ⟨new, granted, fun hb => absurd hb hout⟩
  | both pre mid post granted => exact ⟨_, granted, fun _ => ⟨pre, mid, post, rfl⟩⟩
  | spent new granted hout exhausted => exact ⟨new, granted, fun hb => absurd hb hout⟩

/-- The one that is tried next has the smallest ticket of those that are tried. -/
theorem Orderly.next (h : Orderly (w :: pending) o) :
    (∀ v ∈ o.waiting, v.ticket < w.ticket) ∧ ∀ v ∈ pending, w.ticket < v.ticket := by
  have hsorted := h.sorted
  rw [List.map_append, List.map_cons, List.pairwise_append, List.pairwise_cons] at hsorted
  exact ⟨fun v hv => hsorted.2.2 _ (List.mem_map_of_mem hv) _ List.mem_cons_self,
    fun v hv => hsorted.2.1.1 _ (List.mem_map_of_mem hv)⟩

/-- Somebody else than the one that is tried. -/
theorem Orderly.other (h : Orderly (w :: pending) o) {v : Waiter}
    (hv : v ∈ o.waiting ++ w :: pending) :
    v = w ∨ v.ticket ≠ w.ticket ∧ v ∈ o.waiting ++ pending := by
  rcases List.mem_append.mp hv with hv | hv
  · exact .inr ⟨Nat.ne_of_lt (h.next.1 v hv), List.mem_append_left _ hv⟩
  rcases List.mem_cons.mp hv with rfl | hv
  · exact .inl rfl
  · exact .inr ⟨Nat.ne_of_gt (h.next.2 v hv), List.mem_append_right _ hv⟩

theorem orderly_reserve (h : Orderly (w :: pending) o) : Orderly pending (o.reserve w) := by
  have hexclusive := exclusive_reserve h.exclusive w
  have hblocked := blocked_reserve h.blocked w
  have hsub : (o.waiting ++ pending).Sublist (o.waiting ++ w :: pending) :=
    List.Sublist.append_left (List.sublist_cons_self _ _) _
  rcases o.reserve_cases w with ⟨_, hwait, heq⟩ | ⟨heq, _⟩ | ⟨_, _, heq⟩ <;>
    rw [heq] at hexclusive hblocked ⊢
  · refine ⟨hexclusive, hblocked, ?_, fun v hv => ?_, fun v hv => ?_⟩
    · show ((o.waiting ++ [_] ++ pending).map Waiter.ticket).Pairwise _
      simpa using h.sorted
    · rw [List.append_assoc] at hv
      rcases List.mem_append.mp hv with hv | hv
      · exact h.old v (List.mem_append_left _ hv)
      rcases List.mem_cons.mp hv with rfl | hv
      · exact h.old w (by simp)
      · exact h.old v (hsub.subset (List.mem_append_right _ hv))
    · rcases List.mem_append.mp hv with hv | hv
      · exact h.waits v hv
      · rw [List.mem_singleton.mp hv]
        exact hwait
  · exact ⟨hexclusive, hblocked, h.sorted.sublist (hsub.map _),
      fun v hv => h.old v (hsub.subset hv), h.waits⟩
  · exact ⟨hexclusive, hblocked, h.sorted.sublist (hsub.map _),
      fun v hv => h.old v (hsub.subset hv), h.waits⟩

/-- A request is tried; it does not get past an earlier one. -/
theorem turnout_reserve (ho : Orderly (w :: pending) o) (hab : a < b)
    (h : Turnout base a b (w :: pending) o) : Turnout base a b pending (o.reserve w) := by
  rcases o.reserve_cases w with ⟨hconf, hwait, heq⟩ | ⟨heq, hwhy⟩ | ⟨hfree, hid, heq⟩ <;> rw [heq]
  · -- it joins those that wait
    let again : Waiter := { w with resources := o.withAnnouncements w.resources }
    have hkept : ∀ v ∈ o.waiting ++ w :: pending, ∃ v' ∈ o.waiting ++ [again] ++ pending,
        v'.ticket = v.ticket ∧ v'.wait = v.wait ∧ ∀ r ∈ v.resources, r ∈ v'.resources := by
      intro v hv
      rcases ho.other hv with rfl | ⟨_, hv⟩
      · exact ⟨again, by simp, rfl, rfl, o.withAnnouncements_subset v.resources⟩
      · refine ⟨v, ?_, rfl, rfl, fun r hr => hr⟩
        rw [List.append_assoc]
        exact (List.Sublist.append_left (List.sublist_append_right _ _) _).subset hv
    cases h with
    | waiting v u new hv hu hf hs willing share granted hout =>
      obtain ⟨v', hv', hvt, hvw, hvr⟩ := hkept v hv
      obtain ⟨u', hu', hut, huw, hur⟩ := hkept u hu
      obtain ⟨r, hrv, hru⟩ := share
      exact .waiting v' u' new hv' hu' (hvt.trans hf) (hut.trans hs)
        ⟨hvw.trans willing.1, huw.trans willing.2⟩ ⟨r, hvr r hrv, hur r hru⟩ granted hout
    | first new granted done hout => exact .first new granted done hout
    | both pre mid post granted => exact .both pre mid post granted
    | spent new granted hout exhausted => exact .spent new granted hout exhausted
  · -- it is refused
    cases h with
    | waiting v u new hv hu hf hs willing share granted hout =>
      rcases hwhy with ⟨_, hno⟩ | hspent
      · have hother : ∀ x ∈ o.waiting ++ w :: pending, x.wait = true →
            x ∈ o.waiting ++ pending := by
          intro x hx hyes
          rcases ho.other hx with rfl | ⟨_, hx⟩
          · rw [hno] at hyes
            cases hyes
          · exact hx
        exact .waiting v u new (hother v hv willing.1) (hother u hu willing.2) hf hs willing share
          granted hout
      · exact .spent new granted hout hspent
    | first new granted done hout => exact .first new granted done hout
    | both pre mid post granted => exact .both pre mid post granted
    | spent new granted hout exhausted => exact .spent new granted hout exhausted
  · -- it is granted
    have hsnoc : ∀ {new}, o.trace.granted = base ++ new →
        o.trace.granted ++ [w.ticket] = base ++ (new ++ [w.ticket]) := by
      intro new hnew
      rw [hnew, List.append_assoc]
    have hnot : ∀ {new}, b ∉ new → b ≠ w.ticket → b ∉ new ++ [w.ticket] := by
      intro new hb hne hmem
      rcases List.mem_append.mp hmem with hmem | hmem
      · exact hb hmem
      · exact hne (List.mem_singleton.mp hmem)
    cases h with
    | waiting v u new hv hu hf hs willing share granted hout =>
      rcases ho.other hv with rfl | ⟨hne, hv'⟩
      · exact .first _ (hsnoc granted) (by rw [hf]; simp) (hnot hout (by omega))
      rcases ho.other hu with rfl | ⟨hne', hu'⟩
      · -- the first still waits and shares a resource, so the second is not granted
        refine absurd ?_ hfree
        obtain ⟨r, hrv, hru⟩ := share
        refine ⟨r, o.withAnnouncements_subset _ r hru, .inr ⟨v, ?_, hrv⟩⟩
        rcases List.mem_append.mp hv' with hmem | hmem
        · exact hmem
        · have hlt := ho.next.2 v hmem
          omega
      · exact .waiting v u _ hv' hu' hf hs willing share (hsnoc granted)
          (hnot hout (hs ▸ hne'))
    | first new granted done hout =>
      by_cases hb : b = w.ticket
      · obtain ⟨l₁, l₂, rfl⟩ := List.append_of_mem done
        refine .both l₁ l₂ [] ((hsnoc granted).trans ?_)
        rw [hb, List.append_assoc]
        rfl
      · exact .first _ (hsnoc granted) (List.mem_append_left _ done) (hnot hout hb)
    | both pre mid post granted =>
      refine .both pre mid (post ++ [w.ticket]) ((hsnoc granted).trans ?_)
      simp
    | spent new granted hout exhausted => exact absurd hid (Nat.not_lt_of_le exhausted)

/-! ## Turns -/

theorem Keeps.trans (h : o.Keeps pending pending' o') (h' : o'.Keeps pending' pending'' p) :
    o.Keeps pending pending'' p where
  orderly := fun ho => h'.orderly (h.orderly ho)
  turnout := fun ho base a b hab hturn =>
    h'.turnout (h.orderly ho) base a b hab (h.turnout ho base a b hab hturn)

theorem Dispatched.keeps (h : o.Dispatched o') : o.Keeps pending pending o' where
  orderly := fun ho => by
    refine ⟨h.exclusive ho.exclusive, ho.blocked.grow h.waiting h.reserved, ?_, ?_, ?_⟩ <;>
      rw [h.waiting]
    · exact ho.sorted
    · rw [h.arrivals]
      exact ho.old
    · exact ho.waits
  turnout := fun _ _ _ _ _ hturn => by
    refine hturn.congr (fun w hw => ?_) h.granted h.nextId_le
    rw [h.waiting]
    exact hw

variable (o)

theorem keeps_reserve (w : Waiter) : o.Keeps (w :: pending) pending (o.reserve w) where
  orderly := orderly_reserve
  turnout := fun ho _ _ _ hab => turnout_reserve ho hab

theorem keeps_foldl (ws : List Waiter) : o.Keeps ws [] (ws.foldl reserve o) := by
  induction ws generalizing o with
  | nil => exact ⟨fun ho => ho, fun _ _ _ _ _ hturn => hturn⟩
  | cons w rest ih => exact (o.keeps_reserve w).trans (ih _)

/-- A request that arrives has the next ticket. -/
theorem keeps_arrive (resources : List MediaResource) (wait : Bool) :
    o.Keeps [] [] (o.process (.reserve resources wait)) := by
  refine Keeps.trans ⟨fun ho => ?_, fun ho base a b _ hturn => ?_⟩ (keeps_reserve _ _)
  · have hsorted := ho.sorted
    have hold := ho.old
    rw [List.append_nil] at hsorted hold
    refine ⟨ho.exclusive.congr rfl rfl rfl (Nat.le_refl _) rfl, ho.blocked.grow rfl fun _ hr => hr,
      ?_, fun w hw => ?_, ho.waits⟩
    · rw [List.map_append]
      refine List.pairwise_append.mpr ⟨hsorted, List.pairwise_singleton _ _, fun t ht t' ht' => ?_⟩
      obtain ⟨w, hw, rfl⟩ := List.mem_map.mp ht
      rw [List.mem_singleton.mp ht']
      exact hold w hw
    · rcases List.mem_append.mp hw with hw | hw
      · exact Nat.lt_succ_of_lt (hold w hw)
      · rw [List.mem_singleton.mp hw]
        exact Nat.lt_succ_self _
  · refine hturn.congr (fun w hw => ?_) rfl (Nat.le_refl _)
    rw [List.append_nil] at hw
    exact List.mem_append_left _ hw

variable {o}

/-- Resources are given back, restores may take them, and everybody tries again. -/
theorem keeps_retry (hexclusive : Exclusive o → Exclusive p) (hwaiting : p.waiting = o.waiting)
    (hid : p.nextId = o.nextId) (hgranted : p.trace.granted = o.trace.granted)
    (harrivals : p.trace.arrivals = o.trace.arrivals) :
    o.Keeps [] [] p.dispatchCancelledAnchors.retryWaiting := by
  have hdisp := p.dispatched_dispatchCancelledAnchors
  have hsame := hdisp.waiting.trans hwaiting
  refine Keeps.trans ⟨fun ho => ?_, fun ho base a b _ hturn => ?_⟩ (keeps_foldl _ _)
  · have hsorted := ho.sorted
    have hold := ho.old
    rw [List.append_nil, ← hsame] at hsorted hold
    refine ⟨(hdisp.exclusive (hexclusive ho.exclusive)).congr rfl rfl rfl (Nat.le_refl _) rfl,
      fun pre w post hsplit => ?_, hsorted, fun w hw => ?_, fun w hw => (by cases hw)⟩
    · have hlen := congrArg List.length hsplit
      simp at hlen
    · show w.ticket < p.dispatchCancelledAnchors.trace.arrivals
      rw [hdisp.arrivals, harrivals]
      exact hold w hw
  · refine hturn.congr (fun w hw => ?_) (hdisp.granted.trans hgranted) ?_
    · rw [List.append_nil, ← hsame] at hw
      exact hw
    · rw [← hid]
      exact hdisp.nextId_le

variable (o)

theorem keeps_releaseReservation (id : Nat) : o.Keeps [] [] (o.releaseReservation id) := by
  unfold releaseReservation
  simp only
  split
  · exact keeps_retry (fun h => h) rfl rfl rfl rfl
  next resources hresources =>
  refine keeps_retry (fun h => ?_) rfl rfl rfl rfl
  refine exclusive_release h hresources (fun r => ?_) rfl rfl rfl rfl
  simp

theorem keeps_process (command : MediaCommand C) : o.Keeps [] [] (o.process command) := by
  cases command with
  | reserve resources wait => exact keeps_arrive o resources wait
  | releaseReservation id => exact keeps_releaseReservation o id
  | _ =>
    refine (o.dispatched_process (fun resources wait heq => ?_) fun id heq => ?_).keeps
    · cases heq
    · cases heq

theorem keeps_complete (worker : Nat) (timer : Option Instant) :
    o.Keeps [] [] (o.complete worker timer) := by
  rcases o.complete_cases worker timer with heq | ⟨i, g, announcements, hw, heq⟩
    | ⟨i, c, plan, hw, heq⟩ <;> rw [heq]
  · exact (SameHolds.refl o).dispatched.keeps
  · exact ((dispatched_announced hw announcements).trans
      (dispatched_dispatchCancelledAnchors _)).keeps
  · have hsame := sameHolds_releaseAnchor { o with workers := o.workers.erase worker } i
    exact (keeps_retry (fun h => exclusive_restored h hw) hsame.waiting hsame.nextId hsame.granted
      hsame.arrivals).trans (dispatched_dispatchCancelledAnchors _).keeps

theorem keeps_turn (t : MediaTurn C) : o.Keeps [] [] (o.turn t) := by
  cases t with
  | command command =>
    exact (keeps_process o command).trans (dispatched_dispatchCancelledAnchors _).keeps
  | completed worker timer => exact keeps_complete o worker timer
  | due now => exact (dispatched_dueEach now o _).keeps

variable {o}

theorem orderly_new : Orderly [] ({} : MediaOwner C) := by
  have hfree : ∀ x r, ¬ Holds ({} : MediaOwner C) x r := by
    intro x r hx
    cases x <;>
      · obtain ⟨_, hget, _⟩ := hx
        cases hget
  refine ⟨⟨fun r => ?_, fun x y r hx => absurd hx (hfree x r), ?_, ?_⟩, ?_, List.Pairwise.nil,
    ?_, ?_⟩
  · refine ⟨fun hr => (by cases hr), fun ⟨x, hx⟩ => absurd hx (hfree x r)⟩
  · exact fun _ _ h => (by cases h)
  · exact fun _ _ h => (by cases h)
  · intro pre w post hsplit
    have hlen := congrArg List.length hsplit
    simp at hlen
  · exact fun _ h => (by cases h)
  · exact fun _ h => (by cases h)

theorem orderly_run (turns : List (MediaTurn C)) : Orderly [] (Runs.run turn {} turns) :=
  Runs.run_induction (fun o t => (keeps_turn o t).orderly) orderly_new turns

/-- Of two that wait for a common resource, the one that came first is granted first. -/
theorem granted_in_order (h : Orderly [] o) {v w : Waiter} (hv : v ∈ o.waiting)
    (hw : w ∈ o.waiting) (hlt : v.ticket < w.ticket) (hshare : ∃ r ∈ v.resources, r ∈ w.resources)
    (later : List (MediaTurn C)) :
    ∃ new, (Runs.run turn o later).trace.granted = o.trace.granted ++ new
      ∧ (w.ticket ∈ new → ∃ pre mid post, new = pre ++ v.ticket :: (mid ++ w.ticket :: post)) := by
  have hstart : Turnout o.trace.granted v.ticket w.ticket [] o :=
    .waiting v w [] (List.mem_append_left _ hv) (List.mem_append_left _ hw) rfl rfl
      ⟨h.waits v hv, h.waits w hw⟩ hshare (List.append_nil _).symm (fun hmem => by cases hmem)
  refine Turnout.result (Runs.run_induction
    (I := fun p => Orderly [] p ∧ Turnout o.trace.granted v.ticket w.ticket [] p)
    (fun p t hp => ?_) ⟨h, hstart⟩ later).2
  exact ⟨(keeps_turn p t).orderly hp.1, (keeps_turn p t).turnout hp.1 _ _ _ hlt hp.2⟩

end MediaOwner

end Sccp
