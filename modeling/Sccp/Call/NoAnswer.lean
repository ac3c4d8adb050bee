/-
  Sccp.Call.NoAnswer

  The no-answer timers of ringing calls (`call/forwarding.rs`): one timer for
  each call, pending until it is due and claimed while its route is tried.
-/

import Sccp.Call.Forwarding
import Sccp.Lib.Table
import Mathlib.Data.List.Sort

namespace Sccp

inductive ForwardingRejection where
  | conflict
  | invalidPhase
  | invalidDestination
  | destinationTooLong
  | invalidContext
  | identifierExhausted
  deriving DecidableEq

structure NoAnswerTimerId where
  val : Nat
  deriving DecidableEq

inductive NoAnswerTimerPhase where
  | pending
  | claimed
  deriving DecidableEq

structure NoAnswerTimer where
  id : NoAnswerTimerId
  callId : PbxCallId
  deadline : Instant
  phase : NoAnswerTimerPhase
  context : ForwardingContext
  destination : ForwardingDestination

/-- A timer whose route is being tried. -/
def NoAnswerTimer.claimed (timer : NoAnswerTimer) : NoAnswerTimer :=
  { timer with phase := .claimed }

/-- The live timers, each stored under its call. -/
structure NoAnswerTimerRegistry where
  nextId : Nat := 0
  byCall : Table PbxCallId NoAnswerTimer := ∅

namespace NoAnswerTimerRegistry

variable (r : NoAnswerTimerRegistry)

def get (r : NoAnswerTimerRegistry) (callId : PbxCallId) : Option NoAnswerTimer :=
  r.byCall.get? callId

def schedule (callId : PbxCallId) (deadline : Instant)
    (context : ForwardingContext) (destination : ForwardingDestination) :
    Except ForwardingRejection (NoAnswerTimerRegistry × NoAnswerTimer) :=
  if r.byCall.contains callId then .error .conflict
  else if r.nextId + 1 ≥ 2 ^ 64 then .error .identifierExhausted
  else
    let timer : NoAnswerTimer :=
      { id := ⟨r.nextId + 1⟩, callId, deadline, phase := .pending, context, destination }
    .ok ({ nextId := r.nextId + 1, byCall := r.byCall.insert callId timer }, timer)

/-- Remove the timer of a call if it satisfies `p`. -/
def removeIf (callId : PbxCallId) (p : NoAnswerTimer → Bool) :
    Except ForwardingRejection (NoAnswerTimerRegistry × NoAnswerTimer) :=
  match (r.get callId).filter p with
  | none => .error .conflict
  | some timer => .ok ({ r with byCall := r.byCall.erase callId }, timer)

def cancel (callId : PbxCallId) (timerId : NoAnswerTimerId) :
    Except ForwardingRejection (NoAnswerTimerRegistry × NoAnswerTimer) :=
  r.removeIf callId fun timer => timer.id = timerId

def cancelPending (callId : PbxCallId) (timerId : NoAnswerTimerId) :
    Except ForwardingRejection (NoAnswerTimerRegistry × NoAnswerTimer) :=
  r.removeIf callId fun timer => timer.id = timerId ∧ timer.phase = .pending

def commit (callId : PbxCallId) (timerId : NoAnswerTimerId) :
    Except ForwardingRejection (NoAnswerTimerRegistry × NoAnswerTimer) :=
  r.removeIf callId fun timer => timer.id = timerId ∧ timer.phase = .claimed

/-- The order in which due timers are claimed: by deadline, id and call. -/
def expiresBefore (a b : NoAnswerTimer) : Bool :=
  a.deadline < b.deadline
    || (a.deadline = b.deadline && (a.id.val < b.id.val
      || (a.id.val = b.id.val && a.callId.val ≤ b.callId.val)))

/-- Claim the timer of a call. -/
def claim (callId : PbxCallId) (timer : NoAnswerTimer) : NoAnswerTimerRegistry :=
  { r with byCall := r.byCall.insert callId timer.claimed }

/-- Claim the timers of a list that are still pending. -/
def claimEach (r : NoAnswerTimerRegistry) :
    List NoAnswerTimer → NoAnswerTimerRegistry × List NoAnswerTimer
  | [] => (r, [])
  | due :: rest =>
    match (r.get due.callId).filter fun timer => timer.id = due.id ∧ timer.phase = .pending with
    | none => claimEach r rest
    | some timer =>
      let (r, others) := claimEach (r.claim due.callId timer) rest
      (r, timer.claimed :: others)

/-- Claim every pending timer that is due, in expiry order. -/
def claimExpired (now : Instant) : NoAnswerTimerRegistry × List NoAnswerTimer :=
  r.claimEach ((r.byCall.values.filter fun timer =>
      timer.phase = .pending && timer.deadline ≤ now).insertionSort fun a b => expiresBefore a b)

/-! ## What the edits keep -/

/-- Each timer is stored under its call, and its id has been issued to it
    alone. -/
structure Sound (r : NoAnswerTimerRegistry) : Prop where
  keyed : ∀ c t, r.get c = some t → t.callId = c
  issued : ∀ c t, r.get c = some t → t.id.val ≤ r.nextId
  single : ∀ c c' t t', r.get c = some t → r.get c' = some t' → t.id = t'.id → c = c'

/-- A later registry that has issued no timer: each timer of it was there
    before, pending or as it is. -/
structure Settles (r r' : NoAnswerTimerRegistry) : Prop where
  nextId : r'.nextId = r.nextId
  kept : ∀ c t', r'.get c = some t' → ∃ t, r.get c = some t ∧ t'.id = t.id
    ∧ t'.callId = t.callId ∧ (t'.phase = .pending → t.phase = .pending)

variable {r r' r'' : NoAnswerTimerRegistry}
variable {t : NoAnswerTimer} {c : PbxCallId}

theorem Settles.refl (r : NoAnswerTimerRegistry) : r.Settles r :=
  ⟨rfl, fun _ t h => ⟨t, h, rfl, rfl, fun hp => hp⟩⟩

theorem Settles.trans (h : r.Settles r') (h' : r'.Settles r'') : r.Settles r'' := by
  refine ⟨h'.nextId.trans h.nextId, fun c t'' ht'' => ?_⟩
  obtain ⟨t', ht', hid', hcall', hphase'⟩ := h'.kept c t'' ht''
  obtain ⟨t, ht, hid, hcall, hphase⟩ := h.kept c t' ht'
  exact ⟨t, ht, hid'.trans hid, hcall'.trans hcall, fun hp => hphase (hphase' hp)⟩

theorem Settles.sound (h : r.Settles r') (hr : r.Sound) : r'.Sound := by
  refine ⟨fun c t' ht' => ?_, fun c t' ht' => ?_, fun c c' t' u' ht' hu' heq => ?_⟩
  · obtain ⟨t, ht, _, hcall, _⟩ := h.kept c t' ht'
    rw [hcall, hr.keyed c t ht]
  · obtain ⟨t, ht, hid, _⟩ := h.kept c t' ht'
    rw [hid, h.nextId]
    exact hr.issued c t ht
  · obtain ⟨t, ht, hid, _⟩ := h.kept c t' ht'
    obtain ⟨u, hu, hid', _⟩ := h.kept c' u' hu'
    exact hr.single c c' t u ht hu (hid.symm.trans (heq.trans hid'))

theorem sound_schedule (hr : r.Sound) {deadline : Instant} {context : ForwardingContext}
    {destination : ForwardingDestination}
    (h : r.schedule c deadline context destination = .ok (r', t)) : r'.Sound := by
  unfold schedule at h
  split at h
  · cases h
  split at h
  · cases h
  cases h
  have hget : ∀ x u, (r.byCall.insert c (NoAnswerTimer.mk ⟨r.nextId + 1⟩ c deadline .pending
      context destination)).get? x = some u →
      (x = c ∧ u.callId = c ∧ u.id.val = r.nextId + 1) ∨ (x ≠ c ∧ r.get x = some u) := by
    intro x u hu
    rw [Table.get?_insert] at hu
    split at hu
    · next hx =>
      cases hu
      exact .inl ⟨hx, rfl, rfl⟩
    · next hx => exact .inr ⟨hx, hu⟩
  refine ⟨fun x u hu => ?_, fun x u hu => ?_, fun x y u v hu hv heq => ?_⟩
  · rcases hget x u hu with ⟨hx, hcall, _⟩ | ⟨_, hold⟩
    · rw [hcall, hx]
    · exact hr.keyed x u hold
  · rcases hget x u hu with ⟨_, _, hid⟩ | ⟨_, hold⟩
    · exact Nat.le_of_eq hid
    · exact Nat.le_succ_of_le (hr.issued x u hold)
  -- the new id is above every stored one
  rcases hget x u hu with ⟨hx, _, hid⟩ | ⟨_, hold⟩ <;>
    rcases hget y v hv with ⟨hy, _, hid'⟩ | ⟨_, hold'⟩
  · rw [hx, hy]
  · have hle := hr.issued y v hold'
    rw [← heq, hid] at hle
    omega
  · have hle := hr.issued x u hold
    rw [heq, hid'] at hle
    omega
  · exact hr.single x y u v hold hold' heq

/-- A removed timer was the one of its call, and it satisfied the test. -/
theorem removeIf_ok {p : NoAnswerTimer → Bool} (h : r.removeIf c p = .ok (r', t)) :
    r.get c = some t ∧ p t = true ∧ r' = { r with byCall := r.byCall.erase c } := by
  unfold removeIf at h
  split at h
  · cases h
  next u hu =>
  cases h
  obtain ⟨hget, hp⟩ := Option.filter_eq_some_iff.mp hu
  exact ⟨hget, hp, rfl⟩

theorem get_erase (r : NoAnswerTimerRegistry) (c x : PbxCallId) :
    ({ r with byCall := r.byCall.erase c } : NoAnswerTimerRegistry).get x
      = if x = c then none else r.get x := Table.get?_erase ..

theorem get_claim (r : NoAnswerTimerRegistry) (c x : PbxCallId) (t : NoAnswerTimer) :
    (r.claim c t).get x = if x = c then some t.claimed else r.get x := Table.get?_insert ..

theorem settles_erase (r : NoAnswerTimerRegistry) (c : PbxCallId) :
    r.Settles { r with byCall := r.byCall.erase c } := by
  refine ⟨rfl, fun x t' ht' => ?_⟩
  rw [get_erase] at ht'
  split at ht'
  · cases ht'
  · exact ⟨t', ht', rfl, rfl, fun hp => hp⟩

theorem settles_removeIf {p : NoAnswerTimer → Bool} (h : r.removeIf c p = .ok (r', t)) :
    r.Settles r' := by
  obtain ⟨_, _, rfl⟩ := removeIf_ok h
  exact settles_erase r c

/-- Claiming the timer of a call settles it. -/
theorem settles_claim (h : r.get c = some t) : r.Settles (r.claim c t) := by
  refine ⟨rfl, fun x t' ht' => ?_⟩
  rw [get_claim] at ht'
  split at ht'
  · next hx =>
    cases ht'
    exact ⟨t, hx ▸ h, rfl, rfl, fun hp => by cases hp⟩
  · exact ⟨t', ht', rfl, rfl, fun hp => hp⟩

theorem settles_claimEach (r : NoAnswerTimerRegistry) (dues : List NoAnswerTimer) :
    r.Settles (r.claimEach dues).1 := by
  induction dues generalizing r with
  | nil => exact .refl r
  | cons due rest ih =>
    simp only [claimEach]
    split
    · exact ih r
    · next t ht =>
      obtain ⟨hget, _⟩ := Option.filter_eq_some_iff.mp ht
      exact (settles_claim hget).trans (ih _)

/-- A claimed timer stays as it is while others are claimed. -/
theorem claimEach_claimed (h : r.get c = some t) (hphase : t.phase = .claimed)
    (dues : List NoAnswerTimer) : (r.claimEach dues).1.get c = some t := by
  induction dues generalizing r with
  | nil => exact h
  | cons due rest ih =>
    simp only [claimEach]
    split
    · exact ih h
    next u hu =>
    obtain ⟨hget, hp⟩ := Option.filter_eq_some_iff.mp hu
    refine ih ?_
    rw [get_claim, if_neg]
    · exact h
    · rintro rfl
      cases h.symm.trans hget
      simp [hphase] at hp

/-- A timer that is claimed was pending, and is stored as claimed afterwards. -/
theorem claimEach_mem (hr : r.Sound) (dues : List NoAnswerTimer) (ht : t ∈ (r.claimEach dues).2) :
    (∃ u, r.get t.callId = some u ∧ u.phase = .pending ∧ u.id = t.id)
      ∧ (r.claimEach dues).1.get t.callId = some t ∧ t.phase = .claimed := by
  induction dues generalizing r with
  | nil => cases ht
  | cons due rest ih =>
    simp only [claimEach] at ht ⊢
    cases hdue : (r.get due.callId).filter fun timer =>
        decide (timer.id = due.id ∧ timer.phase = .pending) with
    | none =>
      rw [hdue] at ht
      exact ih hr ht
    | some u =>
      rw [hdue] at ht
      obtain ⟨hget, hp⟩ := Option.filter_eq_some_iff.mp hdue
      have hpending : u.phase = .pending := (of_decide_eq_true hp).2
      have hcall : u.callId = due.callId := hr.keyed _ _ hget
      have hsound := (settles_claim hget).sound hr
      rcases List.mem_cons.mp ht with rfl | hrest
      · have hnow : (r.claim due.callId u).get due.callId = some u.claimed := by
          rw [get_claim, if_pos rfl]
        refine ⟨⟨u, ?_, hpending, rfl⟩, ?_, rfl⟩
        · show r.get u.callId = some u
          rw [hcall, hget]
        · show ((r.claim due.callId u).claimEach rest).1.get u.callId = some u.claimed
          rw [hcall]
          exact claimEach_claimed hnow rfl rest
      obtain ⟨⟨v, hv, hvp, hvid⟩, hafter, hclaimed⟩ := ih hsound hrest
      refine ⟨?_, hafter, hclaimed⟩
      rw [get_claim] at hv
      split at hv
      · cases hv
        cases hvp
      · exact ⟨v, hv, hvp, hvid⟩

/-- No timer is claimed twice in one go. -/
theorem claimEach_nodup (hr : r.Sound) (dues : List NoAnswerTimer) :
    ((r.claimEach dues).2.map (·.id)).Nodup := by
  induction dues generalizing r with
  | nil => exact List.nodup_nil
  | cons due rest ih =>
    simp only [claimEach]
    split
    · exact ih hr
    next u hu =>
    obtain ⟨hget, _⟩ := Option.filter_eq_some_iff.mp hu
    have hsound := (settles_claim hget).sound hr
    refine List.nodup_cons.mpr ⟨fun hmem => ?_, ih hsound⟩
    obtain ⟨t, ht, hid⟩ := List.mem_map.mp hmem
    obtain ⟨⟨v, hv, hvp, hvid⟩, _⟩ := claimEach_mem hsound rest ht
    -- the other claimed timer would be the one of this call
    have hnow : (r.claim due.callId u).get due.callId = some u.claimed := by
      rw [get_claim, if_pos rfl]
    have hcall := hsound.single _ _ _ _ hv hnow (hvid.trans hid)
    rw [hcall, hnow] at hv
    cases hv
    cases hvp

theorem settles_claimExpired (r : NoAnswerTimerRegistry) (now : Instant) :
    r.Settles (r.claimExpired now).1 := r.settles_claimEach _

theorem claimExpired_mem (hr : r.Sound) {now : Instant} (ht : t ∈ (r.claimExpired now).2) :
    (∃ u, r.get t.callId = some u ∧ u.phase = .pending ∧ u.id = t.id)
      ∧ (r.claimExpired now).1.get t.callId = some t ∧ t.phase = .claimed :=
  claimEach_mem hr _ ht

theorem claimExpired_nodup (hr : r.Sound) (now : Instant) :
    ((r.claimExpired now).2.map (·.id)).Nodup := claimEach_nodup hr _

end NoAnswerTimerRegistry

end Sccp
