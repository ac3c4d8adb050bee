/-
  Sccp.Safety.Qos

  Bookkeeping of the reservation controller.

  A call changes the two live indexes and the retired keys in one of three ways: a
  reservation is opened under a fresh id and a fresh key, a live one gets another
  phase, or a live one is retired.  `Booked` is what all three keep, and with them
  every call.
-/

import Sccp.Lib.Runs
import Sccp.Qos.Reservations

namespace Sccp

namespace QosReservationController

variable {c : QosReservationController} {id : QosReservationId} {key : ReservationKey}
  {r : Reservation}

variable (c)

/-- The id has not been allocated yet. -/
def Unallocated (id : QosReservationId) : Prop :=
  ∃ next, c.nextId = some next ∧ next.val ≤ id.val

/-- A key that was never started: neither live nor retired. -/
def Fresh (key : ReservationKey) : Prop :=
  c.byKey.get? key = none ∧ key ∉ c.retired

variable {c}

/-- The two live indexes are inverse to each other, no live key is retired, the
    capacities hold, and live ids have been allocated. -/
structure Booked (c : QosReservationController) : Prop where
  inverse : ∀ key id, c.byKey.get? key = some id ↔ ∃ r, c.byId.get? id = some r ∧ r.key = key
  apart : ∀ key ∈ c.retired, c.byKey.get? key = none
  live : c.byId.size ≤ c.limits.maximumLiveReservations
  generations : c.byId.size + c.retired.length ≤ c.limits.maximumGenerations
  allocated : ∀ id r, c.byId.get? id = some r → ¬ c.Unallocated id

theorem Booked.byKey (h : Booked c) (hr : c.byId.get? id = some r) : c.byKey.get? r.key = some id :=
  (h.inverse r.key id).mpr ⟨r, hr, rfl⟩

theorem Booked.key_inj (h : Booked c) {id' : QosReservationId} {r' : Reservation}
    (hr : c.byId.get? id = some r) (hr' : c.byId.get? id' = some r') (hkey : r.key = r'.key) :
    id = id' := by
  have hid := h.byKey hr
  rw [hkey, h.byKey hr'] at hid
  exact (Option.some.inj hid).symm

theorem unallocated_of_succ {id : QosReservationId} (id' : QosReservationId)
    {nextId : Option QosReservationId}
    (h : nextId = id.succ?) (h' : ∃ next, nextId = some next ∧ next.val ≤ id'.val) :
    id.val < id'.val := by
  obtain ⟨next, hnext, hle⟩ := h'
  rw [h, QosReservationId.succ?] at hnext
  split at hnext
  · cases hnext
    dsimp only at hle
    omega
  · cases hnext

/-! ## The three changes -/

variable (c)

/-- A controller whose next id is skipped. -/
def skipped (id : QosReservationId) : QosReservationController :=
  { c with nextId := id.succ? }

/-- A controller with a reservation opened under `id`. -/
def opened (id : QosReservationId) (r : Reservation) : QosReservationController :=
  { c with nextId := id.succ?, byKey := c.byKey.insert r.key id, byId := c.byId.insert id r }

/-- A controller with the reservation `id` retired. -/
def closed (id : QosReservationId) (r : Reservation) : QosReservationController :=
  { c with byId := c.byId.erase id, byKey := c.byKey.erase r.key,
           retired := c.retired.insert r.key }

theorem get?_setPhase (id id' : QosReservationId)
    (phase : ReservationPhase) : (c.setPhase id phase).byId.get? id'
      = if id' = id then (c.byId.get? id).map fun r => { r with phase } else c.byId.get? id' :=
  Table.get?_modify ..

theorem get?_opened (id id' : QosReservationId) (r : Reservation) :
    (c.opened id r).byId.get? id' = if id' = id then some r else c.byId.get? id' :=
  Table.get?_insert ..

theorem get?_closed (id id' : QosReservationId) (r : Reservation) :
    (c.closed id r).byId.get? id' = if id' = id then none else c.byId.get? id' :=
  Table.get?_erase ..

theorem size_setPhase (id : QosReservationId)
    (phase : ReservationPhase) : (c.setPhase id phase).byId.size = c.byId.size :=
  List.length_map ..

variable {c}

theorem booked_setPhase (h : Booked c) (id : QosReservationId) (phase : ReservationPhase) :
    Booked (c.setPhase id phase) where
  inverse key id' := by
    -- the phase is not what the key index reads
    have hkeys : (∃ r, (c.setPhase id phase).byId.get? id' = some r ∧ r.key = key)
        ↔ ∃ r, c.byId.get? id' = some r ∧ r.key = key := by
      rw [get?_setPhase]
      by_cases hid : id' = id
      · subst hid
        rw [if_pos rfl]
        cases c.byId.get? id' <;> simp
      · rw [if_neg hid]
    rw [hkeys]
    exact h.inverse key id'
  apart := h.apart
  live := by
    rw [size_setPhase]
    exact h.live
  generations := by
    rw [size_setPhase]
    exact h.generations
  allocated id' r hr := by
    rw [get?_setPhase] at hr
    split at hr
    · next hid =>
      cases hlive : c.byId.get? id with
      | none =>
        rw [hlive] at hr
        cases hr
      | some r' =>
        rw [hid]
        exact h.allocated id r' hlive
    · exact h.allocated id' r hr

theorem booked_skipped (h : Booked c) (hnext : c.nextId = some id) : Booked (c.skipped id) where
  inverse := h.inverse
  apart := h.apart
  live := h.live
  generations := h.generations
  allocated id' r hr hun := by
    have hlt := unallocated_of_succ id' rfl hun
    exact h.allocated id' r hr ⟨id, hnext, Nat.le_of_lt hlt⟩

theorem booked_opened (h : Booked c) (hnext : c.nextId = some id) (hfresh : c.Fresh r.key)
    (hlive : c.byId.size < c.limits.maximumLiveReservations)
    (hgenerations : c.byId.size + c.retired.length < c.limits.maximumGenerations) :
    Booked (c.opened id r) := by
  have hnone : c.byId.get? id = none := by
    cases hget : c.byId.get? id with
    | none => rfl
    | some r' => exact absurd ⟨id, hnext, Nat.le_refl _⟩ (h.allocated id r' hget)
  have hsize : (c.opened id r).byId.size = c.byId.size + 1 := Table.size_insert_of_none hnone r
  refine ⟨?_, ?_, ?_, ?_, ?_⟩
  · intro key id'
    rw [get?_opened]
    change (c.byKey.insert r.key id).get? key = some id' ↔ _
    rw [Table.get?_insert]
    by_cases hkey : key = r.key
    · subst hkey
      rw [if_pos rfl]
      constructor
      · rintro hid
        cases hid
        exact ⟨r, if_pos rfl, rfl⟩
      rintro ⟨r', hr', hkey'⟩
      split at hr'
      · next hid => rw [hid]
      -- another live reservation cannot have the fresh key
      have := (h.inverse r.key id').mpr ⟨r', hr', hkey'⟩
      rw [hfresh.1] at this
      cases this
    · rw [if_neg hkey]
      by_cases hid : id' = id
      · subst hid
        rw [if_pos rfl]
        constructor
        · intro hlater
          obtain ⟨r', hr', -⟩ := (h.inverse key id').mp hlater
          rw [hnone] at hr'
          cases hr'
        · rintro ⟨r', hr', hkey'⟩
          cases hr'
          exact absurd hkey'.symm hkey
      · rw [if_neg hid]
        exact h.inverse key id'
  · intro key hretired
    have hne : key ≠ r.key := fun heq => hfresh.2 (heq ▸ hretired)
    change (c.byKey.insert r.key id).get? key = none
    rw [Table.get?_insert, if_neg hne]
    exact h.apart key hretired
  · rw [hsize]
    exact hlive
  · rw [hsize]
    change c.byId.size + 1 + c.retired.length ≤ c.limits.maximumGenerations
    omega
  · intro id' r' hr' hun
    have hlt := unallocated_of_succ id' rfl hun
    rw [get?_opened, if_neg (by rintro rfl; omega)] at hr'
    exact h.allocated id' r' hr' ⟨id, hnext, Nat.le_of_lt hlt⟩

theorem booked_closed (h : Booked c) (hr : c.byId.get? id = some r) : Booked (c.closed id r) := by
  have hbyKey := h.byKey hr
  have hnew : r.key ∉ c.retired := by
    intro hretired
    rw [h.apart r.key hretired] at hbyKey
    cases hbyKey
  have hsize : (c.closed id r).byId.size + 1 = c.byId.size := Table.size_erase_of_some hr
  have hretired : (c.closed id r).retired = r.key :: c.retired := List.insert_of_not_mem hnew
  refine ⟨?_, ?_, ?_, ?_, ?_⟩
  · intro key id'
    rw [get?_closed]
    change (c.byKey.erase r.key).get? key = some id' ↔ _
    rw [Table.get?_erase]
    by_cases hkey : key = r.key
    · subst hkey
      rw [if_pos rfl]
      constructor
      · intro hnone
        cases hnone
      rintro ⟨r', hr', hkey'⟩
      split at hr'
      · cases hr'
      · next hid => exact absurd (h.key_inj hr' hr hkey') hid
    · rw [if_neg hkey]
      by_cases hid : id' = id
      · subst hid
        rw [if_pos rfl]
        constructor
        · intro hlater
          obtain ⟨r', hr', hkey'⟩ := (h.inverse key id').mp hlater
          rw [hr] at hr'
          cases hr'
          exact absurd hkey'.symm hkey
        · rintro ⟨r', hr', -⟩
          cases hr'
      · rw [if_neg hid]
        exact h.inverse key id'
  · intro key hmem
    change (c.byKey.erase r.key).get? key = none
    rw [hretired] at hmem
    rw [Table.get?_erase]
    split
    · rfl
    next hne =>
    rcases List.mem_cons.mp hmem with heq | hold
    · exact absurd heq hne
    · exact h.apart key hold
  · have hlive := h.live
    change (c.closed id r).byId.size ≤ c.limits.maximumLiveReservations
    omega
  · have hgenerations := h.generations
    rw [hretired, List.length_cons]
    change (c.closed id r).byId.size + (c.retired.length + 1) ≤ c.limits.maximumGenerations
    omega
  · intro id' r' hr'
    rw [get?_closed] at hr'
    split at hr'
    · cases hr'
    · exact h.allocated id' r' hr'

/-! ## The calls -/

theorem retire_of_some (hr : c.byId.get? id = some r) : c.retire id = (c.closed id r, .ok r) := by
  rw [retire, hr]
  rfl

theorem retire_of_none (hr : c.byId.get? id = none) :
    c.retire id = (c, .error (.unknownReservation id)) := by
  rw [retire, hr]

/-- The wire key of a request. -/
def requestKey (request : QosReservationRequest) : ReservationKey :=
  { flow := request.flow, direction := request.direction }

/-- What a start leaves behind under its id: the phase and the events it gives. -/
inductive Opening (id : QosReservationId) : ReservationPhase → List QosReservationEvent → Prop
  | awaited (due : Instant) : Opening id (.establishing due) []
  | unconfirmed : Opening id (.active .available) [.activeWithoutConfirmation id]

variable (c)

/-- A start is refused, or it spends an id on a deadline that overflows, or it opens
    a reservation under a fresh key within the capacities. -/
theorem start_cases (request : QosReservationRequest) (now : Instant) :
    (∃ e, c.start request now = (c, .error e))
    ∨ (∃ id e, c.nextId = some id ∧ c.start request now = (c.skipped id, .error e))
    ∨ ∃ id phase events, c.nextId = some id ∧ c.Fresh (requestKey request)
      ∧ c.byId.size < c.limits.maximumLiveReservations
      ∧ c.byId.size + c.retired.length < c.limits.maximumGenerations
      ∧ Opening id phase events
      ∧ c.start request now = (c.opened id ⟨requestKey request, phase⟩,
        .ok (id, { messages := [setupMessage request], events })) := by
  unfold start
  split
  · exact .inl ⟨_, rfl⟩
  split
  · exact .inl ⟨_, rfl⟩
  next hlive =>
  split
  · exact .inl ⟨_, rfl⟩
  next hgenerations =>
  dsimp only
  split
  · exact .inl ⟨_, rfl⟩
  next hkey =>
  have hfresh : c.Fresh (requestKey request) := by
    rw [Bool.or_eq_true, not_or, Bool.not_eq_true, Bool.not_eq_true, Table.not_contains_iff] at hkey
    refine ⟨hkey.1, fun hmem => ?_⟩
    have hcontains : c.retired.contains (requestKey request) = true :=
      List.contains_iff_mem.mpr hmem
    exact Bool.noConfusion (hcontains.symm.trans hkey.2)
  split
  · exact .inl ⟨_, rfl⟩
  next id hnext =>
  split
  · split
    · exact .inr (.inl ⟨id, _, hnext, rfl⟩)
    · next due _ =>
      exact .inr (.inr ⟨id, _, _, hnext, hfresh, by omega, by omega, .awaited due, rfl⟩)
  · exact .inr (.inr ⟨id, _, _, hnext, hfresh, by omega, by omega, .unconfirmed, rfl⟩)

/-- A modification is refused, or it is the first of an active reservation. -/
theorem modify_cases (id : QosReservationId)
    (traffic : QosTrafficSpecification) (application : QosApplicationIdentifier)
    (responseTimeout : Duration) (now : Instant) :
    (∃ e, c.modify id traffic application responseTimeout now = (c, .error e))
    ∨ ∃ key due, c.byId.get? id = some ⟨key, .active .available⟩
      ∧ c.modify id traffic application responseTimeout now
        = (c.setPhase id (.active (.pending due)),
          .ok { messages := [.qosModify key.flow key.direction traffic application] }) := by
  unfold modify
  split
  · exact .inl ⟨_, rfl⟩
  split
  · exact .inl ⟨_, rfl⟩
  split
  · exact .inl ⟨_, rfl⟩
  next reservation hr =>
  obtain ⟨key, phase⟩ := reservation
  dsimp only
  split
  · exact .inl ⟨_, rfl⟩
  · split
    · exact .inl ⟨_, rfl⟩
    · next due _ => exact .inr ⟨key, due, hr, rfl⟩
  · exact .inl ⟨_, rfl⟩

theorem handleReservationNotify_cases (key : ReservationKey) :
    c.handleReservationNotify key = (c, {})
    ∨ ∃ id key' due, c.byKey.get? key = some id ∧ c.byId.get? id = some ⟨key', .establishing due⟩
      ∧ c.handleReservationNotify key
        = (c.setPhase id (.active .available), { events := [.established id] }) := by
  unfold handleReservationNotify
  split
  · exact .inl rfl
  next id hkey =>
  split
  · exact .inl rfl
  next reservation hr =>
  obtain ⟨key', phase⟩ := reservation
  dsimp only
  split
  · next due => exact .inr ⟨id, key', due, hkey, hr, rfl⟩
  · exact .inl rfl

/-- The events that end a reservation together with its teardown message, when an
    error is handled. -/
inductive Ending (id : QosReservationId) (failure : QosReservationFailure) :
    QosReservationEvent → Prop
  | preempted : Ending id failure (.preempted id failure)
  | failed : Ending id failure (.failed id failure)

theorem handleError_cases (key : ReservationKey) (failure : QosReservationFailure) :
    c.handleError key failure = (c, {})
    ∨ ∃ id r, c.byKey.get? key = some id ∧ c.byId.get? id = some r
      ∧ ((∃ due, r.phase = .active (.pending due) ∧ isModifyFailure failure.errorCode = true
          ∧ c.handleError key failure = (c.setPhase id (.active .failureReported),
            { events := [.modificationFailed id failure] }))
        ∨ (failure.errorCode = .reservationTornDown
          ∧ c.handleError key failure = (c.closed id r, { events := [.tornDown id] }))
        ∨ ∃ event, failure.errorCode ≠ .reservationTornDown ∧ Ending id failure event
          ∧ c.handleError key failure = (c.closed id r,
            { messages := [teardownMessage r.key], events := [event] })) := by
  unfold handleError
  split
  · exact .inl rfl
  next id hkey =>
  split
  · next hmodify =>
    split
    · exact .inl rfl
    next hcorrelates =>
    unfold correlatesModification at hcorrelates
    split at hcorrelates
    · next key' due hr => exact .inr ⟨id, _, hkey, hr, .inl ⟨due, rfl, hmodify, rfl⟩⟩
    · exact absurd rfl hcorrelates
  cases hr : c.byId.get? id with
  | none =>
    rw [retire_of_none hr]
    exact .inl rfl
  | some r =>
    rw [retire_of_some hr]
    refine .inr ⟨id, r, hkey, hr, ?_⟩
    dsimp only
    split
    · next htorn => exact .inr (.inl ⟨htorn, rfl⟩)
    next hother =>
    split
    · exact .inr (.inr ⟨_, hother, .preempted, rfl⟩)
    · exact .inr (.inr ⟨_, hother, .failed, rfl⟩)

theorem teardown_fst (id : QosReservationId) : (c.teardown id).1 = (c.retire id).1 := by
  unfold teardown
  split
  · next heq => rw [heq]
  · next heq => rw [heq]

variable {c}

theorem release_fst (turn : QosReservationController × QosTransition) (id : QosReservationId) :
    (release turn id).1 = (turn.1.retire id).1 := by
  unfold release
  dsimp only
  split
  · next heq => rw [heq]
  · next heq => rw [heq]

/-! ## What the changes keep, every call keeps -/

/-- A property that no elementary change of the controller breaks. -/
structure Keeps (I : QosReservationController → Prop) : Prop where
  setPhase : ∀ c id phase, I c → I (c.setPhase id phase)
  skipped : ∀ c id, c.nextId = some id → I c → I (c.skipped id)
  opened : ∀ c id r, c.nextId = some id → c.Fresh r.key →
    c.byId.size < c.limits.maximumLiveReservations →
    c.byId.size + c.retired.length < c.limits.maximumGenerations → I c → I (c.opened id r)
  closed : ∀ c id r, c.byId.get? id = some r → I c → I (c.closed id r)

namespace Keeps

variable {I : QosReservationController → Prop}

theorem retire (hI : Keeps I) (h : I c) (id : QosReservationId) : I (c.retire id).1 := by
  cases hr : c.byId.get? id with
  | none =>
    rw [retire_of_none hr]
    exact h
  | some r =>
    rw [retire_of_some hr]
    exact hI.closed c id r hr h

theorem expire (hI : Keeps I) {turn : QosReservationController × QosTransition} (h : I turn.1)
    (id : QosReservationId) : I (expire turn id).1 := by
  have hretire := hI.retire h id
  unfold QosReservationController.expire
  dsimp only
  split
  · split
    · next heq =>
      rw [heq] at hretire
      exact hretire
    · next heq =>
      rw [heq] at hretire
      exact hretire
  · exact hI.setPhase turn.1 id _ h
  · exact h

/-- The loops of `poll` and `drain` keep what their turns keep. -/
theorem foldl {turn : QosReservationController × QosTransition → QosReservationId →
      QosReservationController × QosTransition}
    (hturn : ∀ t id, I t.1 → I (turn t id).1) (ids : List QosReservationId)
    {t : QosReservationController × QosTransition} (h : I t.1) : I (ids.foldl turn t).1 := by
  induction ids generalizing t with
  | nil => exact h
  | cons id ids ih => exact ih (hturn t id h)

theorem start (hI : Keeps I) (h : I c) (request : QosReservationRequest) (now : Instant) :
    I (c.start request now).1 := by
  rcases start_cases c request now with ⟨e, heq⟩ | ⟨id, e, hnext, heq⟩
    | ⟨id, phase, events, hnext, hfresh, hlive, hgenerations, -, heq⟩
  · rw [heq]
    exact h
  · rw [heq]
    exact hI.skipped c id hnext h
  · rw [heq]
    exact hI.opened c id _ hnext hfresh hlive hgenerations h

theorem modify (hI : Keeps I) (h : I c) (id : QosReservationId)
    (traffic : QosTrafficSpecification) (application : QosApplicationIdentifier)
    (responseTimeout : Duration) (now : Instant) :
    I (c.modify id traffic application responseTimeout now).1 := by
  rcases modify_cases c id traffic application responseTimeout now with ⟨e, heq⟩
    | ⟨key, due, -, heq⟩
  · rw [heq]
    exact h
  · rw [heq]
    exact hI.setPhase c id _ h

theorem handleMessage (hI : Keeps I) (h : I c) (message : ControlMessage) :
    I (c.handleMessage message).1 := by
  unfold QosReservationController.handleMessage
  split
  · rcases handleReservationNotify_cases c _ with heq | ⟨id, key, due, -, -, heq⟩
    · rw [heq]
      exact h
    · rw [heq]
      exact hI.setPhase c id _ h
  · rcases handleError_cases c _ _ with heq | ⟨id, r, -, hr, hcases⟩
    · rw [heq]
      exact h
    · rcases hcases with ⟨due, -, -, heq⟩ | ⟨-, heq⟩ | ⟨event, -, -, heq⟩
      · rw [heq]
        exact hI.setPhase c id _ h
      · rw [heq]
        exact hI.closed c id r hr h
      · rw [heq]
        exact hI.closed c id r hr h
  · exact h

theorem step (hI : Keeps I) (h : I c) (operation : Operation) : I (c.step operation) := by
  cases operation with
  | start request now => exact hI.start h request now
  | modify id traffic application responseTimeout now =>
    exact hI.modify h id traffic application responseTimeout now
  | updateDscp id dscp => exact h
  | teardown id =>
    rw [QosReservationController.step, teardown_fst]
    exact hI.retire h id
  | handleMessage message => exact hI.handleMessage h message
  | poll now => exact foldl (fun t id ht => hI.expire ht id) _ h
  | drain =>
    refine foldl (fun t id ht => ?_) _ h
    rw [release_fst]
    exact hI.retire ht id

end Keeps

theorem keeps_booked : Keeps Booked where
  setPhase _ id phase h := booked_setPhase h id phase
  skipped _ _ hnext h := booked_skipped h hnext
  opened _ _ _ hnext hfresh hlive hgenerations h := booked_opened h hnext hfresh hlive hgenerations
  closed _ _ _ hr h := booked_closed h hr

theorem booked_new {limits : QosReservationLimits} (h : new limits = .ok c) :
    Booked c ∧ c.limits = limits := by
  unfold new at h
  split at h
  · cases h
  next limits' hvalid =>
  cases h
  refine ⟨⟨?_, ?_, Nat.zero_le _, Nat.zero_le _, ?_⟩, ?_⟩
  · intro key id
    simp
  · intro key hkey
    cases hkey
  · intro id r hr
    cases hr
  unfold QosReservationLimits.validate at hvalid
  split at hvalid
  · cases hvalid
  split at hvalid
  · cases hvalid
  split at hvalid
  · cases hvalid
  split at hvalid
  · cases hvalid
  cases hvalid
  rfl

/-! ## What a run starts -/

/-- Seen from `c`: the limits are the same, no key became fresh, no id unallocated. -/
structure Spends (c c' : QosReservationController) : Prop where
  limits : c'.limits = c.limits
  fresh : ∀ key, c'.Fresh key → c.Fresh key
  unallocated : ∀ id, c'.Unallocated id → c.Unallocated id

theorem unallocated_of_lt {id id' : QosReservationId} (hnext : c.nextId = some id)
    (h : ∃ next, id.succ? = some next ∧ next.val ≤ id'.val) : c.Unallocated id' :=
  ⟨id, hnext, Nat.le_of_lt (unallocated_of_succ _ rfl h)⟩

variable (c)

theorem keeps_spends : Keeps (Spends c) where
  setPhase _ _ _ h := ⟨h.limits, h.fresh, h.unallocated⟩
  skipped _ _ hnext h :=
    ⟨h.limits, h.fresh, fun id hid => h.unallocated id (unallocated_of_lt hnext hid)⟩
  opened c' id r hnext hfresh _ _ h := by
    refine ⟨h.limits, fun key hkey => h.fresh key ?_, fun id' hid =>
      h.unallocated id' (unallocated_of_lt hnext hid)⟩
    obtain ⟨hnone, hretired⟩ := hkey
    change (c'.byKey.insert r.key id).get? key = none at hnone
    rw [Table.get?_insert] at hnone
    split at hnone
    · cases hnone
    · exact ⟨hnone, hretired⟩
  closed c' id r _ h := by
    refine ⟨h.limits, fun key hkey => h.fresh key ?_, h.unallocated⟩
    obtain ⟨hnone, hretired⟩ := hkey
    change (c'.byKey.erase r.key).get? key = none at hnone
    change key ∉ c'.retired.insert r.key at hretired
    rw [List.mem_insert_iff, not_or] at hretired
    rw [Table.get?_erase, if_neg hretired.1] at hnone
    exact ⟨hnone, hretired.2⟩

theorem spends_step (operation : Operation) : Spends c (c.step operation) :=
  (keeps_spends c).step ⟨rfl, fun _ h => h, fun _ h => h⟩ operation

variable {c}

/-- A start gives out a fresh key under an unallocated id, and spends both. -/
theorem started_spent {operation : Operation} (h : (id, key) ∈ c.started operation) :
    c.started operation = [(id, key)] ∧ c.Fresh key ∧ c.Unallocated id
      ∧ ¬ (c.step operation).Fresh key
      ∧ ∀ id', (c.step operation).Unallocated id' → id.val < id'.val := by
  cases operation with
  | start request now =>
    simp only [started, step] at h ⊢
    rcases start_cases c request now with ⟨e, heq⟩ | ⟨id', e, -, heq⟩
      | ⟨id', phase, events, hnext, hfresh, -, -, -, heq⟩
    · rw [heq] at h
      cases h
    · rw [heq] at h
      cases h
    rw [heq] at h ⊢
    dsimp only at h ⊢
    cases List.mem_singleton.mp h
    refine ⟨rfl, hfresh, ⟨id, hnext, Nat.le_refl _⟩, ?_, ?_⟩
    · rintro ⟨hnone, -⟩
      change (c.byKey.insert (requestKey request) id).get? (requestKey request) = none
        at hnone
      rw [Table.get?_insert, if_pos rfl] at hnone
      cases hnone
    · intro id'' hid
      exact unallocated_of_succ _ rfl hid
  | _ => cases h

/-- The ids a run starts are unallocated before it, and increase. -/
theorem started_increase (c : QosReservationController) (operations : List Operation) :
    (∀ p ∈ Runs.outputs step started c operations, c.Unallocated p.1)
    ∧ (Runs.outputs step started c operations).Pairwise fun p q => p.1.val < q.1.val := by
  induction operations generalizing c with
  | nil => exact ⟨fun p hp => (by cases hp), .nil⟩
  | cons operation rest ih =>
    obtain ⟨hlater, hpairwise⟩ := ih (c.step operation)
    rw [Runs.outputs]
    refine ⟨fun p hp => ?_, List.pairwise_append.mpr ⟨?_, hpairwise, fun p hp q hq => ?_⟩⟩
    · rcases List.mem_append.mp hp with hp | hp
      · exact (started_spent hp).2.2.1
      · exact (spends_step c operation).unallocated p.1 (hlater p hp)
    · cases hstarted : c.started operation with
      | nil => exact .nil
      | cons p rest' =>
        have hp : p ∈ c.started operation := hstarted ▸ List.mem_cons_self
        rw [← hstarted, (started_spent hp).1]
        exact List.pairwise_singleton ..
    · exact (started_spent hp).2.2.2.2 q.1 (hlater q hq)

/-- No key is started twice. -/
theorem oneShot_keys :
    Runs.OneShot step (fun c operation => (c.started operation).map Prod.snd) (fun _ => True)
      Fresh where
  keeps _ _ _ := trivial
  nodup c operation _ := by
    cases hstarted : c.started operation with
    | nil => exact List.nodup_nil
    | cons p rest =>
      have hp : p ∈ c.started operation := hstarted ▸ List.mem_cons_self
      rw [← hstarted, (started_spent hp).1]
      exact List.nodup_singleton _
  stored c operation key _ hkey := by
    obtain ⟨p, hp, rfl⟩ := List.mem_map.mp hkey
    exact (started_spent hp).2.1
  spent c operation key _ hkey := by
    obtain ⟨p, hp, rfl⟩ := List.mem_map.mp hkey
    exact (started_spent hp).2.2.2.1
  back c operation key _ hkey := (spends_step c operation).fresh key hkey

theorem run_booked {limits : QosReservationLimits} (h : new limits = .ok c)
    (operations : List Operation) : Booked (Runs.run step c operations) :=
  Runs.run_induction (I := Booked) (fun _ operation hc => keeps_booked.step hc operation)
    (booked_new h).1 operations

/-- A notification or an error for a key that is not live does nothing. -/
theorem handleMessage_of_not_live (h : c.byKey.get? key = none) (failure : QosReservationFailure) :
    c.handleMessage (.qosReservationNotify key.flow key.direction) = (c, {})
      ∧ c.handleMessage (.qosErrorNotify key.flow key.direction failure) = (c, {}) := by
  constructor
  · rw [handleMessage, handleReservationNotify, h]
  · rw [handleMessage, handleError, h]

/-- Bookkeeping over every sequence of calls of a controller with valid limits. -/
theorem reservation_bookkeeping {limits : QosReservationLimits} {c₀ : QosReservationController}
    (hnew : new limits = .ok c₀) (operations : List Operation) :
    let c := Runs.run step c₀ operations
    let started := Runs.outputs step started c₀ operations
    (∀ key id, c.byKey.get? key = some id ↔ ∃ r, c.byId.get? id = some r ∧ r.key = key)
    ∧ (∀ id r, c.byId.get? id = some r → r.key ∉ c.retired)
    ∧ c.byId.size ≤ limits.maximumLiveReservations
    ∧ c.byId.size + c.retired.length ≤ limits.maximumGenerations
    ∧ started.Pairwise (fun p q => p.1.val < q.1.val)
    ∧ (started.map Prod.snd).Nodup
    ∧ ∀ key failure, key ∈ c.retired ∨ c.byKey.get? key = none →
      c.handleMessage (.qosReservationNotify key.flow key.direction) = (c, {})
      ∧ c.handleMessage (.qosErrorNotify key.flow key.direction failure) = (c, {}) := by
  intro c started
  have hbooked : Booked c := run_booked hnew operations
  have hlimits : c.limits = limits := by
    have hkeeps : ∀ c' operation, c'.limits = limits → (step c' operation).limits = limits :=
      fun c' operation h => (spends_step c' operation).limits.trans h
    exact Runs.run_induction hkeeps (booked_new hnew).2 operations
  refine ⟨hbooked.inverse, ?_, hlimits ▸ hbooked.live, hlimits ▸ hbooked.generations,
    (started_increase c₀ operations).2, ?_, ?_⟩
  · intro id r hr hretired
    have hnone := hbooked.apart r.key hretired
    rw [hbooked.byKey hr] at hnone
    cases hnone
  · have hnodup := oneShot_keys.outputs_nodup (s := c₀) trivial operations
    rwa [← Runs.map_outputs] at hnodup
  · rintro key failure (hretired | hnone)
    · exact handleMessage_of_not_live (hbooked.apart key hretired) failure
    · exact handleMessage_of_not_live hnone failure

/-- Two reservations, the second started after the first was torn down. -/
theorem bookkeeping_of_two_starts :
    (Runs.outputs step started Sample.qosController Sample.qosTwoStarts).length = 2
      ∧ (Runs.outputs step started Sample.qosController Sample.qosTwoStarts).Pairwise
        (fun p q => p.1.val < q.1.val) := by
  have hnew : new Sample.qosLimits = .ok Sample.qosController := rfl
  exact ⟨by decide, (reservation_bookkeeping hnew Sample.qosTwoStarts).2.2.2.2.1⟩

/-! ## Calls that fail -/

variable (c)

/-- The error that a call returns, if it does. -/
def failure : Operation → Option QosReservationError
  | .start request now =>
    match (c.start request now).2 with
    | .error e => some e
    | .ok _ => none
  | .modify id traffic application responseTimeout now =>
    match (c.modify id traffic application responseTimeout now).2 with
    | .error e => some e
    | .ok _ => none
  | .updateDscp id dscp =>
    match c.updateDscp id dscp with
    | .error e => some e
    | .ok _ => none
  | .teardown id =>
    match (c.teardown id).2 with
    | .error e => some e
    | .ok _ => none
  | _ => none

/-- A call that fails leaves the controller as it was. -/
def Atomic (operation : Operation) : Prop :=
  ∀ e, c.failure operation = some e → c.step operation = c

variable {c}

/-- Nothing but its deadline can refuse the request. -/
structure Admits (c : QosReservationController) (request : QosReservationRequest) : Prop where
  valid : c.validateRequest request = .ok ()
  live : c.byId.size < c.limits.maximumLiveReservations
  generations : c.byId.size + c.retired.length < c.limits.maximumGenerations
  fresh : c.Fresh (requestKey request)
  ids : c.nextId ≠ none

/-- The deadline of a start that awaits a confirmation, and that nothing else refuses, is a
    reading of the clock. -/
def DeadlineFits (c : QosReservationController) : Operation → Prop
  | .start request now => c.Admits request → confirmed request.setup = true →
      now + request.responseTimeout < instantLimit
  | _ => True

theorem skipped_ne (hnext : c.nextId = some id) : c.skipped id ≠ c := by
  intro heq
  have hid : id.succ? = some id := by
    have := congrArg nextId heq
    rwa [hnext] at this
  unfold QosReservationId.succ? at hid
  split at hid
  · have hval := congrArg QosReservationId.val (Option.some.inj hid)
    exact absurd hval (Nat.succ_ne_self id.val)
  · cases hid

/-- A start that nothing but its deadline can refuse. -/
theorem start_of_admits {request : QosReservationRequest} (h : c.Admits request) (now : Instant)
    (hconfirmed : confirmed request.setup = true) :
    ∃ id, c.nextId = some id ∧ (instantLimit ≤ now + request.responseTimeout →
      ∃ e, c.start request now = (c.skipped id, .error e)) := by
  obtain ⟨id, hnext⟩ := Option.ne_none_iff_exists'.mp h.ids
  refine ⟨id, hnext, fun hover => ?_⟩
  have hkey : ¬ (c.byKey.contains (requestKey request)
      || c.retired.contains (requestKey request)) = true := by
    rw [Bool.or_eq_true, not_or, Bool.not_eq_true, Table.not_contains_iff, List.contains_iff_mem]
    exact h.fresh
  unfold requestKey at hkey
  have hlive := h.live
  have hgenerations := h.generations
  unfold start
  rw [h.valid]
  dsimp only
  rw [if_neg (by omega), if_neg (by omega), if_neg hkey, hnext]
  dsimp only
  rw [if_pos hconfirmed, deadline, if_neg (Nat.not_lt.mpr hover)]
  exact ⟨_, rfl⟩

/-- A start that fails leaves the controller as it was, or its deadline overflows after
    everything else has been accepted. -/
theorem start_failed {request : QosReservationRequest} {now : Instant}
    {c' : QosReservationController} {e : QosReservationError}
    (h : c.start request now = (c', .error e)) :
    c' = c ∨ c.Admits request ∧ confirmed request.setup = true
      ∧ instantLimit ≤ now + request.responseTimeout := by
  unfold start at h
  split at h
  · exact .inl (Prod.mk.inj h).1.symm
  next hvalid =>
  split at h
  · exact .inl (Prod.mk.inj h).1.symm
  next hlive =>
  split at h
  · exact .inl (Prod.mk.inj h).1.symm
  next hgenerations =>
  dsimp only at h
  split at h
  · exact .inl (Prod.mk.inj h).1.symm
  next hkey =>
  have hfresh : c.Fresh (requestKey request) := by
    rw [Bool.or_eq_true, not_or, Bool.not_eq_true, Table.not_contains_iff,
      List.contains_iff_mem] at hkey
    exact hkey
  split at h
  · exact .inl (Prod.mk.inj h).1.symm
  next id hnext =>
  split at h
  · next hconfirmed =>
    refine .inr ⟨⟨hvalid, by omega, by omega, hfresh, by simp [hnext]⟩, hconfirmed, ?_⟩
    unfold deadline at h
    split at h
    · next hdeadline =>
      split at hdeadline
      · cases hdeadline
      · next hover => exact Nat.le_of_not_lt hover
    · cases (Prod.mk.inj h).2
  · cases (Prod.mk.inj h).2

/-- Failed calls are atomic just where no deadline overflows after an id has been issued. -/
theorem atomic_iff (c : QosReservationController) (operation : Operation) :
    c.Atomic operation ↔ c.DeadlineFits operation := by
  unfold Atomic DeadlineFits step
  cases operation with
  | start request now =>
    dsimp only
    constructor
    · intro hatomic hadmits hconfirmed
      by_contra hover
      obtain ⟨id, hnext, hskip⟩ := start_of_admits hadmits now hconfirmed
      obtain ⟨e, hstart⟩ := hskip (Nat.le_of_not_lt hover)
      refine skipped_ne hnext ?_
      have hsame := hatomic e (by rw [failure, hstart])
      rwa [hstart] at hsame
    intro hfits e hfail
    dsimp only [failure] at hfail
    rcases hstart : c.start request now with ⟨c', _ | _⟩
    · rcases start_failed hstart with hsame | ⟨hadmits, hconfirmed, hover⟩
      · exact hsame
      · exact absurd (hfits hadmits hconfirmed) (Nat.not_lt.mpr hover)
    · rw [hstart] at hfail
      cases hfail
  | modify id traffic application responseTimeout now =>
    refine iff_of_true (fun e hfail => ?_) trivial
    dsimp only [failure] at hfail ⊢
    rcases modify_cases c id traffic application responseTimeout now with
      ⟨e', hmodify⟩ | ⟨key, due, -, hmodify⟩
    · rw [hmodify]
    · rw [hmodify] at hfail
      cases hfail
  | teardown id =>
    refine iff_of_true (fun e hfail => ?_) trivial
    dsimp only [failure, teardown] at hfail ⊢
    cases hr : c.byId.get? id with
    | none => rw [retire_of_none hr]
    | some r =>
      rw [retire_of_some hr] at hfail
      cases hfail
  | updateDscp id dscp => exact iff_of_true (fun _ _ => rfl) trivial
  | handleMessage message => exact iff_of_true nofun trivial
  | poll now => exact iff_of_true nofun trivial
  | drain => exact iff_of_true nofun trivial

/-- A start at the last reading of the clock fails and spends the first id. -/
theorem not_atomic_last_reading : new Sample.qosLimits = .ok Sample.qosController
    ∧ ¬ Sample.qosController.Atomic (.start (Sample.qosRequest 42 .path) (instantLimit - 1)) := by
  refine ⟨rfl, fun hatomic => ?_⟩
  have hfail : (Sample.qosController.failure
      (.start (Sample.qosRequest 42 .path) (instantLimit - 1))).isSome = true := by decide
  obtain ⟨e, he⟩ := Option.isSome_iff_exists.mp hfail
  have hnext := congrArg nextId (hatomic e he)
  revert hnext
  decide

end QosReservationController

end Sccp
