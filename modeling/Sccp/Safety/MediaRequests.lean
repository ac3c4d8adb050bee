/-
  Sccp.Safety.MediaRequests

  The fate of each request for a reservation.  The turns say which requests have come; the
  ticket of a request is its number among them.  Every request waits or has one answer, a
  granted one holds what it asked for until its release, and only a full counter or a
  conflict that the caller will not wait for is an answer without a reservation.
-/

import Mathlib.Data.List.Induction
import Mathlib.Data.List.Perm.Basic
import Sccp.Safety.MediaReservations

namespace Sccp

namespace MediaOwner

variable {C : Type} {o o' : MediaOwner C}
variable {turns : List (MediaTurn C)} {pending : List Waiter}

/-! ## Requests and answers -/

/-- The resources that a turn asks for, and whether its caller waits. -/
def askOf : MediaTurn C → Option (List MediaResource × Bool)
  | .command (.reserve resources wait) => some (resources, wait)
  | _ => none

/-- The requests for a reservation, in the order of arrival. -/
def asked (turns : List (MediaTurn C)) : List (List MediaResource × Bool) :=
  turns.filterMap askOf

/-- The resources of a request are all held, and with a conference no more than calls that
    are in its announcement. -/
def Covers (asked held : List MediaResource) : Prop :=
  (∀ r ∈ asked, r ∈ held)
    ∧ ∀ r ∈ held, r ∈ asked ∨ (∃ id, .conference id ∈ asked) ∧ ∃ id, r = .call id

/-- The caller did not want to wait, and the request came upon a conflict. -/
def Refusable (turns : List (MediaTurn C)) (ticket : Nat) : Prop :=
  ∃ pre resources post, turns = pre ++ .command (.reserve resources false) :: post
    ∧ (asked pre).length = ticket
    ∧ Conflicts (Runs.run turn {} pre).reserved (Runs.run turn {} pre).waiting
        ((Runs.run turn {} pre).withAnnouncements resources)

/-- A reservation has been released after it was granted. -/
def Released (turns : List (MediaTurn C)) (id : Nat) : Prop :=
  ∃ pre post, turns = pre ++ .command (.releaseReservation id) :: post
    ∧ id ∈ (Runs.run turn {} pre).answers.filterMap Prod.snd

/-- What has become of the requests, when those of `pending` are being tried; `refusable` says
    who may be refused, and `released` which reservations have been given back. -/
structure Fates (asks : List (List MediaResource × Bool)) (refusable released : Nat → Prop)
    (pending : List Waiter) (o : MediaOwner C) : Prop where
  arrivals : o.trace.arrivals = asks.length
  nextId : o.nextId = o.issued + 1
  each : ((o.waiting ++ pending).map Waiter.ticket ++ o.answers.map Prod.fst).Perm
    (List.range asks.length)
  waits : ∀ w ∈ o.waiting ++ pending, ∃ resources,
    asks[w.ticket]? = some (resources, w.wait) ∧ Covers resources w.resources
  granted : o.trace.granted = o.answers.filterMap fun a => a.2.map fun _ => a.1
  refused : ∀ ticket, (ticket, none) ∈ o.answers → 2 ^ 64 ≤ o.issued + 2 ∨ refusable ticket
  grants : ∀ ticket id, (ticket, some id) ∈ o.answers → id < o.nextId
    ∧ (o.reservations.get? id = none ↔ released id)
    ∧ ∃ resources wait, asks[ticket]? = some (resources, wait)
      ∧ ∀ rs, o.reservations.get? id = some rs → Covers resources rs
  live : ∀ id rs, o.reservations.get? id = some rs → ∃ ticket, (ticket, some id) ∈ o.answers
  past : ∀ id, released id → id < o.nextId

variable {asks : List (List MediaResource × Bool)}
variable {refusable refusable' released released' : Nat → Prop}

/-! ## One request -/

theorem covers_refl (rs : List MediaResource) : Covers rs rs :=
  ⟨fun _ hr => hr, fun _ hr => .inl hr⟩

/-- The calls of an announcement come along. -/
theorem Covers.withAnnouncements {asked held : List MediaResource} (h : Covers asked held)
    (o : MediaOwner C) : Covers asked (o.withAnnouncements held) := by
  refine ⟨fun r hr => o.withAnnouncements_subset held r (h.1 r hr), fun r hr => ?_⟩
  rcases List.mem_append.mp hr with hr | hr
  · exact h.2 r hr
  obtain ⟨x, hx, hr⟩ := List.mem_flatMap.mp hr
  cases x with
  | call id => cases hr
  | conference id =>
    have hasked : MediaResource.conference id ∈ asked := by
      rcases h.2 _ hx with hx | ⟨_, _, hcall⟩
      · exact hx
      · cases hcall
    refine .inr ⟨⟨id, hasked⟩, ?_⟩
    cases hget : o.announcements.get? id with
    | none =>
      simp only [hget] at hr
      cases hr
    | some active =>
      simp only [hget] at hr
      obtain ⟨anchor, _, rfl⟩ := List.mem_map.mp hr
      exact ⟨_, rfl⟩

/-- Nothing has been said to a request, and nobody's reservation has changed. -/
theorem Fates.congr (h : Fates asks refusable released pending o)
    (hwaiting : o'.waiting = o.waiting) (hreservations : o'.reservations = o.reservations)
    (hanswers : o'.answers = o.answers) (hgranted : o'.trace.granted = o.trace.granted)
    (harrivals : o'.trace.arrivals = o.trace.arrivals) (hissued : o.issued ≤ o'.issued)
    (hid : o'.nextId + o.issued = o.nextId + o'.issued) :
    Fates asks refusable released pending o' := by
  have hold := h.nextId
  have hle : o.nextId ≤ o'.nextId := by omega
  constructor
  case arrivals => exact harrivals.trans h.arrivals
  case nextId => omega
  case each => rw [hwaiting, hanswers]; exact h.each
  case waits => rw [hwaiting]; exact h.waits
  case granted => rw [hgranted, hanswers]; exact h.granted
  case refused =>
    rw [hanswers]
    exact fun ticket hmem => (h.refused ticket hmem).imp_left fun hspent => by omega
  case grants =>
    rw [hanswers, hreservations]
    intro ticket id hmem
    obtain ⟨hlt, hgrant⟩ := h.grants ticket id hmem
    exact ⟨Nat.lt_of_lt_of_le hlt hle, hgrant⟩
  case live => rw [hreservations, hanswers]; exact h.live
  case past => exact fun id hid => Nat.lt_of_lt_of_le (h.past id hid) hle

theorem Fates.of_dispatched (h : Fates asks refusable released pending o)
    (hd : o.Dispatched o') : Fates asks refusable released pending o' :=
  h.congr hd.waiting hd.reservations hd.answers hd.granted hd.arrivals hd.issued hd.nextId

theorem Fates.mono (h : Fates asks refusable released pending o)
    (hrefusable : ∀ ticket, refusable ticket → refusable' ticket)
    (hreleased : ∀ id, released' id ↔ released id) : Fates asks refusable' released' pending o :=
  { h with
    refused := fun ticket hmem => (h.refused ticket hmem).imp_right (hrefusable ticket)
    grants := by simpa only [hreleased] using h.grants
    past := by simpa only [hreleased] using h.past }

/-- The request that is being tried has its answer; one that is granted takes the next id. -/
theorem Fates.answer {w : Waiter} {id : Option Nat} {resources rs : List MediaResource}
    (h : Fates asks refusable released (w :: pending) o)
    (hasked : asks[w.ticket]? = some (resources, w.wait)) (hcovers : Covers resources rs)
    (hid : ∀ i ∈ id, i = o.nextId) (hwhy : id = none → 2 ^ 64 ≤ o.issued + 2 ∨ refusable w.ticket)
    (hnext : o'.nextId = o.nextId + id.toList.length)
    (hissued : o'.issued = o.issued + id.toList.length)
    (hanswers : o'.answers = o.answers ++ [(w.ticket, id)])
    (hgranted : o'.trace.granted = o.trace.granted ++ (id.map fun _ => w.ticket).toList)
    (hget : ∀ i, o'.reservations.get? i = if i ∈ id then some rs else o.reservations.get? i)
    (hwaiting : o'.waiting = o.waiting) (harrivals : o'.trace.arrivals = o.trace.arrivals) :
    Fates asks refusable released pending o' := by
  have hle : o.nextId ≤ o'.nextId := hnext ▸ Nat.le_add_right _ _
  have hold : ∀ i, i < o.nextId → o'.reservations.get? i = o.reservations.get? i := by
    intro i hlt
    rw [hget, if_neg]
    exact fun hmem => Nat.ne_of_lt hlt (hid i hmem)
  constructor
  case arrivals => exact harrivals.trans h.arrivals
  case nextId => rw [hnext, hissued, h.nextId, Nat.add_right_comm]
  case each =>
    rw [hwaiting, hanswers]
    refine List.Perm.trans ?_ h.each
    simp only [List.map_append, List.map_cons, List.map_nil, List.append_assoc]
    refine List.Perm.append_left _ ?_
    rw [← List.append_assoc]
    exact List.perm_append_singleton _ _
  case waits =>
    rw [hwaiting]
    intro v hv
    refine h.waits v ?_
    exact (List.Sublist.append_left (List.sublist_cons_self _ _) _).subset hv
  case granted =>
    rw [hgranted, hanswers, List.filterMap_append, h.granted]
    cases id <;> rfl
  case refused =>
    rw [hanswers, hissued]
    intro ticket hmem
    rcases List.mem_append.mp hmem with hmem | hmem
    · exact (h.refused ticket hmem).imp_left fun hspent => by omega
    · cases List.mem_singleton.mp hmem
      exact hwhy rfl
  case grants =>
    rw [hanswers]
    intro ticket i hmem
    rcases List.mem_append.mp hmem with hmem | hmem
    · obtain ⟨hlt, hgrant⟩ := h.grants ticket i hmem
      rw [hold i hlt]
      exact ⟨Nat.lt_of_lt_of_le hlt hle, hgrant⟩
    · cases List.mem_singleton.mp hmem
      obtain rfl := hid i rfl
      rw [hget, if_pos (Option.mem_some_self _)]
      refine ⟨hnext ▸ Nat.lt_succ_self _, ⟨fun hnone => (by cases hnone), fun hreleased => ?_⟩,
        resources, w.wait, hasked, fun rs' hrs => ?_⟩
      · exact absurd (h.past _ hreleased) (Nat.lt_irrefl _)
      · cases hrs
        exact hcovers
  case live =>
    intro i rs' hrs
    rw [hget] at hrs
    rw [hanswers]
    split at hrs
    · next hmem => exact ⟨w.ticket, by rw [← Option.mem_def.mp hmem]; simp⟩
    · obtain ⟨ticket, hmem⟩ := h.live i rs' hrs
      exact ⟨ticket, List.mem_append_left _ hmem⟩
  case past => exact fun i hi => Nat.lt_of_lt_of_le (h.past i hi) hle

/-- A request that is tried waits, is refused or is granted. -/
theorem fates_reserve {w : Waiter} (h : Fates asks refusable released (w :: pending) o)
    (hwait : w.wait = true
      ∨ (Conflicts o.reserved o.waiting (o.withAnnouncements w.resources) → refusable w.ticket)) :
    Fates asks refusable released pending (o.reserve w) := by
  obtain ⟨resources, hasked, hcovers⟩ := h.waits w (by simp)
  have hcovers := hcovers.withAnnouncements o
  rcases o.reserve_cases w with ⟨_, _, heq⟩ | ⟨heq, hwhy⟩ | ⟨_, _, heq⟩
  · -- the request joins those that wait
    rw [heq]
    refine { h with each := ?_, waits := fun v hv => ?_ }
    · show ((o.waiting ++ [_] ++ pending).map Waiter.ticket ++ o.answers.map Prod.fst).Perm _
      simpa using h.each
    · rw [List.append_assoc] at hv
      rcases List.mem_append.mp hv with hv | hv
      · exact h.waits v (List.mem_append_left _ hv)
      rcases List.mem_cons.mp hv with rfl | hv
      · exact ⟨resources, hasked, hcovers⟩
      · exact h.waits v (List.mem_append_right _ (List.mem_cons_of_mem _ hv))
  · rw [heq]
    refine h.answer hasked hcovers (fun i hi => (by cases hi)) (fun _ => ?_) rfl
      (o.issued_reply _) (o.answers_reply _) (List.append_nil _).symm (fun _ => rfl) rfl rfl
    rcases hwhy with ⟨hconf, hno⟩ | hspent
    · refine .inr ((hwait.resolve_left fun hyes => ?_) hconf)
      rw [hno] at hyes
      cases hyes
    · rw [h.nextId] at hspent
      exact .inl hspent
  · rw [heq]
    refine h.answer hasked hcovers
      (fun i (hi : some o.nextId = some i) => (Option.some.inj hi).symm)
      (fun hnone => (by cases hnone)) rfl (issued_reply _ _) (answers_reply _ _) rfl
      (fun i => ?_) rfl rfl
    refine (Table.get?_insert ..).trans ?_
    simp only [Option.mem_some_iff, eq_comm]

/-! ## Turns -/

theorem asked_snoc (turns : List (MediaTurn C)) (t : MediaTurn C) :
    asked (turns ++ [t]) = asked turns ++ (askOf t).toList := by
  unfold asked
  rw [List.filterMap_append]
  cases ht : askOf t <;> simp [ht]

theorem Refusable.snoc {ticket : Nat} (h : Refusable turns ticket) (t : MediaTurn C) :
    Refusable (turns ++ [t]) ticket := by
  obtain ⟨pre, resources, post, rfl, hrest⟩ := h
  exact ⟨pre, resources, post ++ [t], by simp, hrest⟩

theorem released_snoc {t : MediaTurn C} {id : Nat} : Released (turns ++ [t]) id
    ↔ Released turns id ∨ t = .command (.releaseReservation id)
      ∧ id ∈ (Runs.run turn {} turns).answers.filterMap Prod.snd := by
  constructor
  · rintro ⟨pre, post, heq, hmem⟩
    rcases List.eq_nil_or_concat post with rfl | ⟨init, last, rfl⟩
    · obtain ⟨rfl, ht⟩ := List.append_inj' heq rfl
      exact .inr ⟨List.head_eq_of_cons_eq ht, hmem⟩
    · have heq' : turns ++ [t] = (pre ++ .command (.releaseReservation id) :: init) ++ [last] := by
        rw [heq]
        simp
      obtain ⟨rfl, _⟩ := List.append_inj' heq' rfl
      exact .inl ⟨pre, init, rfl, hmem⟩
  · rintro (⟨pre, post, rfl, hmem⟩ | ⟨rfl, hmem⟩)
    · exact ⟨pre, post ++ [t], by simp, hmem⟩
    · exact ⟨turns, [], rfl, hmem⟩

/-- The fates after some turns. -/
def FatesAfter (turns : List (MediaTurn C)) : MediaOwner C → Prop :=
  Fates (asked turns) (Refusable turns) (Released turns) []

/-- A turn that neither asks for a reservation nor releases one. -/
theorem FatesAfter.snoc (h : FatesAfter turns o) {t : MediaTurn C} (hask : askOf t = none)
    (hrelease : ∀ id, t ≠ .command (.releaseReservation id)) : FatesAfter (turns ++ [t]) o := by
  unfold FatesAfter
  rw [asked_snoc, hask, Option.toList_none, List.append_nil]
  exact h.mono (fun _ => (·.snoc t)) fun id =>
    released_snoc.trans (or_iff_left fun hor => hrelease id hor.1)

/-- A live reservation is released. -/
theorem Fates.release (h : Fates asks refusable released pending o) {id : Nat}
    (hreleased : ∀ i, released' i ↔ released i ∨ i = id ∧ i ∈ o.answers.filterMap Prod.snd)
    (reserved : List MediaResource) :
    Fates asks refusable released' pending
      { o with reservations := o.reservations.erase id, reserved } := by
  have hget := Table.get?_erase o.reservations id
  refine { h with grants := fun ticket i hmem => ?_, live := fun i rs hrs => ?_,
                  past := fun i hi => ?_ }
  · obtain ⟨hlt, hiff, resources, wait, hask, hcovers⟩ := h.grants ticket i hmem
    have hgiven : i ∈ o.answers.filterMap Prod.snd := List.mem_filterMap.mpr ⟨_, hmem, rfl⟩
    simp only [hreleased, hget]
    refine ⟨hlt, ?_, resources, wait, hask, fun rs hrs => ?_⟩
    · split
      · next heq => exact ⟨fun _ => .inr ⟨heq, hgiven⟩, fun _ => rfl⟩
      · next hne => exact hiff.trans (or_iff_left fun hor => hne hor.1).symm
    · split at hrs
      · cases hrs
      · exact hcovers rs hrs
  · rw [hget] at hrs
    split at hrs
    · cases hrs
    · exact h.live i rs hrs
  · rcases (hreleased i).mp hi with hi | ⟨_, hgiven⟩
    · exact h.past i hi
    · obtain ⟨⟨ticket, given⟩, hmem, rfl⟩ := List.mem_filterMap.mp hgiven
      exact (h.grants ticket i hmem).1

/-- A request comes, with the next ticket. -/
theorem Fates.arrive (h : Fates asks refusable released [] o) (resources : List MediaResource)
    (wait : Bool) :
    Fates (asks ++ [(resources, wait)]) refusable released
      [{ ticket := o.trace.arrivals, resources, wait }]
      { o with trace := { o.trace with arrivals := o.trace.arrivals + 1 } } := by
  have hlen : (asks ++ [(resources, wait)]).length = asks.length + 1 := List.length_append
  have hkept : ∀ {k : Nat} {ask : List MediaResource × Bool}, asks[k]? = some ask →
      (asks ++ [(resources, wait)])[k]? = some ask := by
    intro k ask hk
    obtain ⟨hlt, _⟩ := List.getElem?_eq_some_iff.mp hk
    rw [List.getElem?_append_left hlt]
    exact hk
  refine { h with arrivals := ?_, each := ?_, waits := fun w hw => ?_,
                  grants := fun ticket id hmem => ?_ }
  · rw [hlen]
    exact congrArg (· + 1) h.arrivals
  · rw [hlen, List.range_succ, ← h.arrivals]
    have heach := h.each
    rw [List.append_nil, ← h.arrivals] at heach
    refine List.Perm.trans ?_ (heach.append_right _)
    simp only [List.map_append, List.map_cons, List.map_nil, List.append_assoc]
    exact List.Perm.append_left _ (@List.perm_append_comm _ [o.trace.arrivals] _)
  · rcases List.mem_append.mp hw with hw | hw
    · obtain ⟨rs, hask, hcovers⟩ := h.waits w (List.mem_append_left _ hw)
      exact ⟨rs, hkept hask, hcovers⟩
    · rw [List.mem_singleton.mp hw, h.arrivals]
      exact ⟨resources, List.getElem?_concat_length, covers_refl _⟩
  · obtain ⟨hlt, hiff, rs, ask, hask, hcovers⟩ := h.grants ticket id hmem
    exact ⟨hlt, hiff, rs, ask, hkept hask, hcovers⟩

theorem fates_foldl {ws : List Waiter} (h : Fates asks refusable released ws o)
    (hwait : ∀ w ∈ ws, w.wait = true) :
    Fates asks refusable released [] (ws.foldl MediaOwner.reserve o) := by
  induction ws generalizing o with
  | nil => exact h
  | cons w rest ih =>
    refine ih (fates_reserve h (.inl (hwait w List.mem_cons_self))) fun v hv => ?_
    exact hwait v (List.mem_cons_of_mem _ hv)

/-- Restores may take what has been given back, and everybody tries again. -/
theorem Fates.retry (h : Fates asks refusable released [] o)
    (hwait : ∀ w ∈ o.waiting, w.wait = true) :
    Fates asks refusable released [] o.dispatchCancelledAnchors.retryWaiting := by
  have hd := o.dispatched_dispatchCancelledAnchors
  have h' := h.of_dispatched hd
  have heach := h'.each
  have hwaits := h'.waits
  rw [List.append_nil] at heach hwaits
  exact fates_foldl { h' with each := heach, waits := hwaits } (hd.waiting ▸ hwait)

theorem fates_releaseReservation (h : FatesAfter turns o) (hrun : Runs.run turn {} turns = o)
    (hwait : ∀ w ∈ o.waiting, w.wait = true) (id : Nat) :
    FatesAfter (turns ++ [.command (.releaseReservation id)]) (o.releaseReservation id) := by
  have hreleased : ∀ i, Released (turns ++ [.command (.releaseReservation id)]) i
      ↔ Released turns i ∨ i = id ∧ i ∈ o.answers.filterMap Prod.snd := by
    intro i
    rw [released_snoc, hrun]
    refine or_congr_right (and_congr_left fun _ => ⟨fun heq => ?_, fun heq => by rw [heq]⟩)
    cases heq
    rfl
  have hmono : Fates (asked turns) (Refusable (turns ++ [.command (.releaseReservation id)]))
      (Released turns) [] o := h.mono (fun _ => (·.snoc _)) fun _ => Iff.rfl
  unfold FatesAfter releaseReservation
  rw [asked_snoc, show askOf (.command (.releaseReservation id) : MediaTurn C) = none from rfl,
    Option.toList_none, List.append_nil]
  simp only
  split
  · next hnone =>
    -- an id that is not live has been released already, or was never given
    refine (hmono.mono (fun _ hx => hx) fun i => ?_).retry hwait
    refine (hreleased i).trans (or_iff_left_of_imp ?_)
    rintro ⟨rfl, hgiven⟩
    obtain ⟨⟨ticket, given⟩, hmem, rfl⟩ := List.mem_filterMap.mp hgiven
    exact (h.grants ticket i hmem).2.1.mp hnone
  · exact (hmono.release hreleased _).retry hwait

theorem fates_process (h : FatesAfter turns o) (hrun : Runs.run turn {} turns = o)
    (hwait : ∀ w ∈ o.waiting, w.wait = true) (command : MediaCommand C) :
    FatesAfter (turns ++ [.command command]) (o.process command) := by
  cases command with
  | reserve resources wait =>
    have hreleased : ∀ id, Released (turns ++ [.command (.reserve resources wait)]) id
        ↔ Released turns id := fun id => released_snoc.trans
      (or_iff_left fun hrelease => (by cases hrelease.1))
    have harrive := (h.arrive resources wait).mono
      (fun _ hrefusable => hrefusable.snoc (.command (.reserve resources wait))) hreleased
    unfold FatesAfter
    rw [asked_snoc]
    refine fates_reserve harrive ?_
    cases wait with
    | true => exact .inl rfl
    | false =>
      refine .inr fun hconf => ⟨turns, resources, [], rfl, h.arrivals.symm, ?_⟩
      rw [hrun]
      exact hconf
  | releaseReservation id => exact fates_releaseReservation h hrun hwait id
  | _ =>
    refine (h.snoc ?_ fun id heq => ?_).of_dispatched
      (o.dispatched_process (fun resources wait heq => ?_) fun id heq => ?_)
    · rfl
    · cases heq
    · cases heq
    · cases heq

theorem fates_turn (ho : Orderly [] o) (h : FatesAfter turns o) (hrun : Runs.run turn {} turns = o)
    (t : MediaTurn C) : FatesAfter (turns ++ [t]) (o.turn t) := by
  cases t with
  | command command =>
    exact (fates_process h hrun ho.waits command).of_dispatched
      (dispatched_dispatchCancelledAnchors _)
  | completed worker timer =>
    have h' : FatesAfter (turns ++ [.completed worker timer]) o :=
      h.snoc rfl fun id heq => (by cases heq)
    show FatesAfter _ (o.complete worker timer)
    rcases o.complete_cases worker timer with heq | ⟨i, g, announcements, hw, heq⟩
      | ⟨i, c, plan, hw, heq⟩ <;> rw [heq]
    · exact h'
    · exact h'.of_dispatched
        ((dispatched_announced hw announcements).trans (dispatched_dispatchCancelledAnchors _))
    · have hsame := sameHolds_releaseAnchor { o with workers := o.workers.erase worker } i
      have hanswers := congrArg (List.filterMap answerOf) hsame.replies
      have hissued := congrArg (List.countP givesId) hsame.replies
      refine Fates.of_dispatched (Fates.retry ?_ ?_) (dispatched_dispatchCancelledAnchors _)
      · refine h'.congr hsame.waiting hsame.reservations hanswers hsame.granted hsame.arrivals
          (Nat.le_of_eq hissued.symm) ?_
        exact congrArg₂ (· + ·) hsame.nextId hissued.symm
      · show ∀ w ∈ (releaseAnchor _ i).waiting, _
        rw [hsame.waiting]
        exact ho.waits
  | due now =>
    have h' : FatesAfter (turns ++ [.due now]) o := h.snoc rfl fun id heq => (by cases heq)
    exact h'.of_dispatched (dispatched_dueEach now o _)

theorem fates_run (turns : List (MediaTurn C)) : FatesAfter turns (Runs.run turn {} turns) := by
  induction turns using List.reverseRecOn with
  | nil =>
    constructor
    case arrivals => rfl
    case nextId => rfl
    case each => exact List.Perm.refl _
    case waits => exact fun _ hw => (by cases hw)
    case granted => rfl
    case refused => exact fun _ hmem => (by cases hmem)
    case grants => exact fun _ _ hmem => (by cases hmem)
    case live => exact fun _ _ hrs => (by cases hrs)
    case past =>
      rintro id ⟨pre, post, heq, _⟩
      exact absurd heq (List.append_ne_nil_of_right_ne_nil _ (List.cons_ne_nil _ _)).symm
  | append_singleton turns t ih =>
    rw [Runs.run_append]
    exact fates_turn (orderly_run turns) ih rfl t

end MediaOwner

end Sccp
