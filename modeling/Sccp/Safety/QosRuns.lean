/-
  Sccp.Safety.QosRuns

  What a reservation controller says about one reservation over a run.

  Each reservation lives through a small automaton, `Life`, whose letters are the
  messages and events about it.  Every call of the controller moves each
  reservation by one accepted word, mostly the empty one, so that the whole trace
  of a reservation is a word of the automaton; what occurs once, and what comes
  last or first, is read off the automaton.
-/

import Mathlib.Data.Fintype.Basic
import Sccp.Lib.Acceptor
import Sccp.Safety.Qos

namespace Sccp

namespace QosReservationEvent

/-- The reservation an event is about. -/
def id : QosReservationEvent → QosReservationId
  | .established id | .activeWithoutConfirmation id | .establishmentTimedOut id
  | .failed id _ | .preempted id _ | .modificationFailed id _ | .modificationOutcomeUnknown id
  | .tornDown id => id

end QosReservationEvent

/-- A message or an event. -/
inductive QosEmission where
  | message (message : ControlMessage)
  | event (event : QosReservationEvent)
  deriving DecidableEq

/-- What a message or an event means in the life of its reservation.  `failure` is
    an event that goes with a teardown message and ends the reservation. -/
inductive QosLetter where
  | setup | activation | modify | outcome | dscp | teardown | failure | tornDown | other
  deriving DecidableEq

instance : Fintype QosLetter :=
  ⟨{.setup, .activation, .modify, .outcome, .dscp, .teardown, .failure, .tornDown, .other},
    fun letter => by cases letter <;> decide⟩

namespace QosEmission

def letter : QosEmission → QosLetter
  | .message (.qosListen ..) | .message (.qosPath ..) => .setup
  | .message (.qosModify ..) => .modify
  | .message (.updateDscp ..) => .dscp
  | .message (.qosTeardown ..) => .teardown
  | .message _ => .other
  | .event (.established _) | .event (.activeWithoutConfirmation _) => .activation
  | .event (.modificationFailed ..) | .event (.modificationOutcomeUnknown _) => .outcome
  | .event (.establishmentTimedOut _) | .event (.failed ..) | .event (.preempted ..) => .failure
  | .event (.tornDown _) => .tornDown

/-- `EstablishmentTimedOut`, `Failed`, `Preempted` or `TornDown`. -/
def isTerminal (e : QosEmission) : Bool := e.letter = .failure || e.letter = .tornDown

/-- `Established` or `ActiveWithoutConfirmation`. -/
def isActivation (e : QosEmission) : Bool := e.letter = .activation

def isTeardown (e : QosEmission) : Bool := e.letter = .teardown

def isModify (e : QosEmission) : Bool := e.letter = .modify

/-- `ModificationFailed` or `ModificationOutcomeUnknown`. -/
def isOutcome (e : QosEmission) : Bool := e.letter = .outcome

end QosEmission

/-! ## The life of a reservation -/

/-- `closing` is the time between a teardown message and the event that goes with it. -/
inductive QosLife where
  | unborn | establishing | available | modifying | modified | closing | ended
  deriving DecidableEq

instance : Fintype QosLife :=
  ⟨{.unborn, .establishing, .available, .modifying, .modified, .closing, .ended},
    fun life => by cases life <;> decide⟩

namespace QosLife

def next : QosLife → QosLetter → Option QosLife
  | .unborn, .setup => some .establishing
  | .establishing, .activation => some .available
  | .available, .modify => some .modifying
  | .modifying, .outcome => some .modified
  | .available, .dscp => some .available
  | .modified, .dscp => some .modified
  | .establishing, .teardown | .available, .teardown | .modifying, .teardown
  | .modified, .teardown => some .closing
  | .establishing, .tornDown | .available, .tornDown | .modifying, .tornDown
  | .modified, .tornDown => some .ended
  | .closing, .failure | .closing, .tornDown => some .ended
  | _, _ => none

/-- The life after one message or event about the reservation. -/
def turn (life : QosLife) (e : QosEmission) : Option QosLife := life.next e.letter

open Acceptor

variable {life life' : QosLife} {trace before after : List QosEmission} {e : QosEmission}

/-- A class of letters that needs a life of some kind and leaves the kind for good
    occurs at most once. -/
theorem countP_letter (P : QosLetter → Bool) (isOpen : QosLife → Bool)
    (hneeds : ∀ s l s', next s l = some s' → P l = true → isOpen s = true)
    (hspends : ∀ s l s', next s l = some s' → P l = true → isOpen s' = false)
    (hback : ∀ s l s', next s l = some s' → isOpen s' = true → isOpen s = true)
    (h : accept turn life trace = some life') : trace.countP (fun e => P e.letter) ≤ 1 := by
  refine countP_le_one (fun s => isOpen s = true) (fun s e s' => hneeds s e.letter s') ?_
    (fun s e s' => hback s e.letter s') h
  intro s e s' hnext hP hopen
  rw [hspends s e.letter s' hnext hP] at hopen
  cases hopen

theorem countP_isTerminal (h : accept turn life trace = some life') :
    trace.countP (·.isTerminal) ≤ 1 :=
  countP_letter (fun l => l = .failure || l = .tornDown) ((· ≠ .ended))
    (by decide) (by decide) (by decide) h

theorem countP_isActivation (h : accept turn life trace = some life') :
    trace.countP (·.isActivation) ≤ 1 :=
  countP_letter ((· = .activation)) (fun s => s = .unborn || s = .establishing)
    (by decide) (by decide) (by decide) h

theorem countP_isTeardown (h : accept turn life trace = some life') :
    trace.countP (·.isTeardown) ≤ 1 :=
  countP_letter ((· = .teardown)) (fun s => !(s = .closing || s = .ended))
    (by decide) (by decide) (by decide) h

theorem countP_isModify (h : accept turn life trace = some life') : trace.countP (·.isModify) ≤ 1 :=
  countP_letter ((· = .modify))
    (fun s => s = .unborn || s = .establishing || s = .available)
    (by decide) (by decide) (by decide) h

theorem countP_isOutcome (h : accept turn life trace = some life') :
    trace.countP (·.isOutcome) ≤ 1 :=
  countP_letter ((· = .outcome))
    (fun s => !(s = .modified || s = .closing || s = .ended))
    (by decide) (by decide) (by decide) h

/-- Nothing follows a terminal event. -/
theorem eq_nil_of_isTerminal (h : accept turn life (before ++ e :: after) = some life')
    (hterminal : e.isTerminal = true) : after = [] := by
  have hended : ∀ s l s', next s l = some s' → (decide (l = .failure) || decide (l = .tornDown))
      = true → ∀ l', next s' l' = none := by decide
  exact eq_nil_of_dead (fun s s' hnext e' => hended s e.letter s' hnext hterminal e'.letter) h

/-- A modification outcome comes after its modification. -/
theorem modify_before_outcome (h : accept turn .unborn (before ++ e :: after) = some life')
    (houtcome : e.isOutcome = true) : ∃ q ∈ before, q.isModify = true := by
  have henter : ∀ s l s', next s l = some s' → s' = .modifying →
      s = .modifying ∨ decide (l = .modify) = true := by decide
  have hneeds : ∀ s l s', next s l = some s' → decide (l = .outcome) = true → s = .modifying := by
    decide
  exact exists_before turn (Q := fun q => q.isModify = true) (· = .modifying)
    (fun s q s' => henter s q.letter s')
    (fun s s' hnext => hneeds s e.letter s' hnext houtcome) (by decide) h

/-- No teardown was sent for a reservation that is live. -/
theorem countP_isTeardown_of_live (h : accept turn life trace = some life')
    (hlive : ¬ (life' = .closing ∨ life' = .ended)) : trace.countP (·.isTeardown) = 0 := by
  have hleads : ∀ s l s', next s l = some s' → decide (l = .teardown) = true →
      s' = .closing ∨ s' = .ended := by decide
  have hstays : ∀ s l s', next s l = some s' → s = .closing ∨ s = .ended →
      s' = .closing ∨ s' = .ended := by decide
  exact countP_eq_zero_of_last turn (fun s e s' => hleads s e.letter s')
    (fun s e s' => hstays s e.letter s') hlive h

end QosLife

namespace QosReservationController

variable {c : QosReservationController} {id : QosReservationId}

/-! ## What a call says about one reservation -/

/-- The reservation a message of a call is about: the one the call names or starts,
    or the live one whose key a teardown carries. -/
def messageOwner (c : QosReservationController) (operation : Operation)
    (message : ControlMessage) : Option QosReservationId :=
  match operation with
  | .start request now =>
    match (c.start request now).2 with
    | .ok (id, _) => some id
    | .error _ => none
  | .modify id .. | .updateDscp id _ | .teardown id => some id
  | .handleMessage _ | .poll _ | .drain =>
    match message with
    | .qosTeardown flow direction => c.byKey.get? { flow, direction }
    | _ => none

/-- The messages and then the events of a call that are about one reservation. -/
def about (id : QosReservationId) (c : QosReservationController) (operation : Operation) :
    List QosEmission :=
  ((c.transition operation).messages.filter
      fun message => messageOwner c operation message = some id).map .message
    ++ ((c.transition operation).events.filter fun event => event.id = id).map .event

/-- What a call does to one reservation, and what it says about it. -/
inductive Effect (c c' : QosReservationController) (id : QosReservationId) :
    List QosEmission → Prop
  | idle (hget : c'.byId.get? id = c.byId.get? id) : Effect c c' id []
  | opened {message events key phase} (hunallocated : c.Unallocated id)
      (hsetup : (QosEmission.message message).letter = .setup) (hopening : Opening id phase events)
      (hget : c'.byId.get? id = some ⟨key, phase⟩) :
      Effect c c' id (.message message :: events.map .event)
  | established {key due} (hlive : c.byId.get? id = some ⟨key, .establishing due⟩)
      (hget : c'.byId.get? id = some ⟨key, .active .available⟩) :
      Effect c c' id [.event (.established id)]
  | modified {key due traffic application}
      (hlive : c.byId.get? id = some ⟨key, .active .available⟩)
      (hget : c'.byId.get? id = some ⟨key, .active (.pending due)⟩) :
      Effect c c' id [.message (.qosModify key.flow key.direction traffic application)]
  | settled {key due event correlation}
      (hlive : c.byId.get? id = some ⟨key, .active (.pending due)⟩)
      (houtcome : (QosEmission.event event).letter = .outcome)
      (hcorrelation : correlation = .outcomeUnknown ∨ correlation = .failureReported)
      (hget : c'.byId.get? id = some ⟨key, .active correlation⟩) :
      Effect c c' id [.event event]
  | marked {r dscp} (hlive : c.byId.get? id = some r) (hactive : r.phase.state = .active)
      (hget : c'.byId.get? id = c.byId.get? id) :
      Effect c c' id [.message (.updateDscp r.key.flow dscp)]
  | closed {r event} (hlive : c.byId.get? id = some r)
      (hterminal : (QosEmission.event event).isTerminal = true)
      (hget : c'.byId.get? id = none) :
      Effect c c' id [.message (teardownMessage r.key), .event event]
  | reported {r} (hlive : c.byId.get? id = some r) (hget : c'.byId.get? id = none) :
      Effect c c' id [.event (.tornDown id)]

/-- The life a phase stands for. -/
def lifeOf : ReservationPhase → QosLife
  | .establishing _ => .establishing
  | .active .available => .available
  | .active (.pending _) => .modifying
  | .active .outcomeUnknown | .active .failureReported => .modified

theorem lifeOf_live (phase : ReservationPhase) :
    ¬ (lifeOf phase = .closing ∨ lifeOf phase = .ended) := by
  cases phase with
  | establishing due => simp [lifeOf]
  | active correlation => cases correlation <;> simp [lifeOf]

/-- A life that fits what the controller knows of an id. -/
def Agrees (c : QosReservationController) (id : QosReservationId) (life : QosLife) : Prop :=
  match c.byId.get? id with
  | some r => life = lifeOf r.phase
  | none => (life = .unborn ∨ life = .ended) ∧ (c.Unallocated id → life = .unborn)

variable {r : Reservation} {operation : Operation}
  {gives : QosReservationId → Reservation → QosTransition} {ids : List QosReservationId}
  {message : ControlMessage}

theorem Agrees.of_some {life : QosLife} (h : Agrees c id life) (hr : c.byId.get? id = some r) :
    life = lifeOf r.phase := by
  unfold Agrees at h
  rw [hr] at h
  exact h

theorem agrees_some (hr : c.byId.get? id = some r) : Agrees c id (lifeOf r.phase) := by
  unfold Agrees
  rw [hr]

theorem agrees_ended (hr : c.byId.get? id = none) (hallocated : ¬ c.Unallocated id) :
    Agrees c id .ended := by
  unfold Agrees
  rw [hr]
  exact ⟨.inr rfl, fun hun => absurd hun hallocated⟩

open Acceptor in
/-- Each call moves a reservation along its life. -/
theorem Effect.accepted {c' : QosReservationController} {trace : List QosEmission}
    (h : Effect c c' id trace) (hbooked : Booked c) (hspends : Spends c c') {life : QosLife}
    (hagrees : Agrees c id life) :
    ∃ life', accept QosLife.turn life trace = some life' ∧ Agrees c' id life' := by
  have hallocated {r : Reservation} (hr : c.byId.get? id = some r) : ¬ c'.Unallocated id :=
    fun hun => hbooked.allocated id r hr (hspends.unallocated id hun)
  cases h with
  | idle hget =>
    refine ⟨life, rfl, ?_⟩
    unfold Agrees at hagrees ⊢
    rw [hget]
    split at hagrees
    · exact hagrees
    · exact ⟨hagrees.1, fun hun => hagrees.2 (hspends.unallocated id hun)⟩
  | opened hunallocated hsetup hopening hget =>
    have hnone : c.byId.get? id = none := by
      cases hr : c.byId.get? id with
      | none => rfl
      | some r => exact absurd hunallocated (hbooked.allocated id r hr)
    have hunborn : life = .unborn := by
      unfold Agrees at hagrees
      rw [hnone] at hagrees
      exact hagrees.2 hunallocated
    refine ⟨_, ?_, agrees_some hget⟩
    rw [hunborn, accept, QosLife.turn, hsetup]
    cases hopening with
    | awaited due => rfl
    | unconfirmed => rfl
  | established hlive hget =>
    rw [hagrees.of_some hlive]
    exact ⟨_, rfl, agrees_some hget⟩
  | modified hlive hget =>
    rw [hagrees.of_some hlive]
    exact ⟨_, rfl, agrees_some hget⟩
  | settled hlive houtcome hcorrelation hget =>
    rw [hagrees.of_some hlive]
    refine ⟨_, ?_, agrees_some hget⟩
    rw [accept, QosLife.turn, houtcome]
    rcases hcorrelation with rfl | rfl
    · rfl
    · rfl
  | @marked r dscp hlive hactive hget =>
    rw [hagrees.of_some hlive]
    refine ⟨_, ?_, agrees_some (hget.trans hlive)⟩
    obtain ⟨key, phase⟩ := r
    cases phase with
    | establishing due => cases hactive
    | active correlation =>
      cases correlation with
      | pending due => cases hactive
      | _ => rfl
  | @closed r event hlive hterminal hget =>
    rw [hagrees.of_some hlive]
    refine ⟨.ended, ?_, agrees_ended hget (hallocated hlive)⟩
    have hclosing : accept QosLife.turn .closing [.event event] = some .ended := by
      have hended : ∀ l, (decide (l = .failure) || decide (l = .tornDown)) = true →
          QosLife.next .closing l = some .ended := by decide
      rw [accept, QosLife.turn, hended _ hterminal]
      rfl
    have hteardown : QosLife.turn (lifeOf r.phase) (.message (teardownMessage r.key))
        = some .closing := by
      obtain ⟨key, phase⟩ := r
      cases phase with
      | establishing due => rfl
      | active correlation => cases correlation <;> rfl
    rw [accept, hteardown]
    exact hclosing
  | @reported r hlive hget =>
    rw [hagrees.of_some hlive]
    refine ⟨.ended, ?_, agrees_ended hget (hallocated hlive)⟩
    obtain ⟨key, phase⟩ := r
    cases phase with
    | establishing due => rfl
    | active correlation => cases correlation <;> rfl

/-! ## The loops of `poll` and `drain` -/

/-- A turn of a loop that reads and writes one live reservation only. -/
structure LocalTurn (turn : QosReservationController × QosTransition → QosReservationId →
      QosReservationController × QosTransition)
    (gives : QosReservationId → Reservation → QosTransition)
    (leaves : Reservation → Option Reservation) : Prop where
  gives : ∀ c transition id r, c.byId.get? id = some r → (turn (c, transition) id).2
    = { messages := transition.messages ++ (gives id r).messages
        events := transition.events ++ (gives id r).events }
  leaves : ∀ c transition id r, c.byId.get? id = some r → ∀ id',
    (turn (c, transition) id).1.byId.get? id'
      = if id' = id then leaves r else c.byId.get? id'

/-- What a loop gives for an id. -/
def givenFor (gives : QosReservationId → Reservation → QosTransition) (c : QosReservationController)
    (id : QosReservationId) : QosTransition :=
  match c.byId.get? id with
  | some r => gives id r
  | none => {}

theorem givenFor_some (hr : c.byId.get? id = some r) : givenFor gives c id = gives id r := by
  rw [givenFor, hr]

/-- A loop over distinct live ids gives for each of them, in order, what its turn gives,
    and changes just these. -/
theorem LocalTurn.foldl {turn : QosReservationController × QosTransition → QosReservationId →
      QosReservationController × QosTransition} {leaves : Reservation → Option Reservation}
    (hturn : LocalTurn turn gives leaves) (hnodup : ids.Nodup)
    (hlive : ∀ id ∈ ids, ∃ r, c.byId.get? id = some r) (transition : QosTransition) :
    (ids.foldl turn (c, transition)).2
      = { messages := transition.messages ++ ids.flatMap fun id => (givenFor gives c id).messages
          events := transition.events ++ ids.flatMap fun id => (givenFor gives c id).events }
    ∧ ∀ id, (ids.foldl turn (c, transition)).1.byId.get? id
      = if id ∈ ids then (c.byId.get? id).bind leaves else c.byId.get? id := by
  induction ids generalizing c transition with
  | nil => simp
  | cons first ids ih =>
    obtain ⟨hfirst, hrest⟩ := List.nodup_cons.mp hnodup
    obtain ⟨r, hr⟩ := hlive first List.mem_cons_self
    have hgives := hturn.gives c transition first r hr
    have hleaves := hturn.leaves c transition first r hr
    obtain ⟨c', transition', hc'⟩ : ∃ c' transition', turn (c, transition) first
        = (c', transition') := ⟨_, _, rfl⟩
    rw [hc'] at hgives hleaves
    dsimp only at hgives hleaves
    -- the later ids are as they were
    have hsame {id : QosReservationId} (hid : id ∈ ids) : c'.byId.get? id = c.byId.get? id := by
      rw [hleaves id, if_neg (by rintro rfl; exact hfirst hid)]
    have hgiven {id : QosReservationId} (hid : id ∈ ids) :
        givenFor gives c' id = givenFor gives c id := by
      rw [givenFor, givenFor, hsame hid]
    obtain ⟨htransition, hget⟩ := ih hrest
      (fun id hid => by rw [hsame hid]; exact hlive id (List.mem_cons_of_mem _ hid)) transition'
    rw [List.foldl_cons, hc']
    refine ⟨?_, fun id => ?_⟩
    · rw [htransition, hgives, List.flatMap_cons, List.flatMap_cons, givenFor_some hr]
      congr 1
      · rw [List.append_assoc, List.flatMap_congr fun id hid => by rw [hgiven hid]]
      · rw [List.append_assoc, List.flatMap_congr fun id hid => by rw [hgiven hid]]
    rw [hget id]
    by_cases hid : id ∈ ids
    · rw [if_pos hid, if_pos (List.mem_cons_of_mem _ hid), hsame hid]
    rw [if_neg hid, hleaves id]
    by_cases hfirst' : id = first
    · rw [if_pos hfirst', if_pos (hfirst' ▸ List.mem_cons_self), hfirst', hr]
      rfl
    · rw [if_neg hfirst', if_neg (by simp [hfirst', hid])]

/-- Of what is said about distinct things, the part about one of them. -/
theorem filter_flatMap_of_tag {α β : Type*} [DecidableEq α] {f : α → List β} (tag : β → Option α)
    {as : List α} (hnodup : as.Nodup) (htag : ∀ a ∈ as, ∀ b ∈ f a, tag b = some a) (a : α) :
    (as.flatMap f).filter (fun b => tag b = some a) = if a ∈ as then f a else [] := by
  induction as with
  | nil => rfl
  | cons first as ih =>
    obtain ⟨hfirst, hrest⟩ := List.nodup_cons.mp hnodup
    have hlater := ih hrest fun a ha => htag a (List.mem_cons_of_mem _ ha)
    have hmine := htag first List.mem_cons_self
    rw [List.flatMap_cons, List.filter_append, hlater]
    by_cases ha : a = first
    · subst ha
      have hall : (f a).filter (fun b => tag b = some a) = f a :=
        List.filter_eq_self.mpr fun b hb => by simp [hmine b hb]
      rw [hall, if_neg hfirst, if_pos List.mem_cons_self, List.append_nil]
    have hnone : (f first).filter (fun b => tag b = some a) = [] := by
      refine List.filter_eq_nil_iff.mpr fun b hb => ?_
      rw [hmine b hb]
      simp [Ne.symm ha]
    rw [hnone, List.nil_append]
    by_cases hmem : a ∈ as
    · rw [if_pos hmem, if_pos (List.mem_cons_of_mem _ hmem)]
    · rw [if_neg hmem, if_neg (by simp [ha, hmem])]

/-- What an expired reservation gives. -/
def expiryGives (id : QosReservationId) (r : Reservation) : QosTransition :=
  match r.phase with
  | .establishing _ =>
    { messages := [teardownMessage r.key], events := [.establishmentTimedOut id] }
  | .active (.pending _) => { events := [.modificationOutcomeUnknown id] }
  | .active _ => {}

/-- What becomes of an expired reservation. -/
def expiryLeaves (r : Reservation) : Option Reservation :=
  match r.phase with
  | .establishing _ => none
  | .active (.pending _) => some { r with phase := .active .outcomeUnknown }
  | .active _ => some r

theorem expire_local : LocalTurn expire expiryGives expiryLeaves where
  gives c transition id r hr := by
    unfold expire
    dsimp only
    rw [state, hr, retire_of_some hr]
    obtain ⟨key, phase⟩ := r
    cases phase with
    | establishing due => rfl
    | active correlation => cases correlation <;> simp [ReservationPhase.state, expiryGives]
  leaves c transition id r hr id' := by
    unfold expire
    dsimp only
    rw [state, hr, retire_of_some hr]
    obtain ⟨key, phase⟩ := r
    cases phase with
    | establishing due => exact get?_closed ..
    | active correlation =>
      cases correlation with
      | pending due =>
        refine (get?_setPhase ..).trans ?_
        rw [hr]
        rfl
      | _ =>
        by_cases hid : id' = id
        · subst hid
          rw [if_pos rfl]
          exact hr
        · rw [if_neg hid]
          rfl

/-- What `drain` gives for one reservation. -/
def releaseGives (id : QosReservationId) (r : Reservation) : QosTransition :=
  { messages := [teardownMessage r.key], events := [.tornDown id] }

theorem release_local : LocalTurn release releaseGives (fun _ => none) where
  gives c transition id r hr := by
    unfold release
    dsimp only
    rw [retire_of_some hr]
    rfl
  leaves c transition id r hr id' := by
    unfold release
    dsimp only
    rw [retire_of_some hr]
    exact get?_closed ..

theorem sortIds_spec (hnodup : ids.Nodup) :
    (sortIds ids).Pairwise (fun a b => a.val < b.val) ∧ (sortIds ids).Nodup
      ∧ ∀ id, id ∈ sortIds ids ↔ id ∈ ids := by
  have hperm : (sortIds ids).Perm ids := List.mergeSort_perm ..
  have hnodup' : (sortIds ids).Nodup := hperm.nodup_iff.mpr hnodup
  have hsorted : (sortIds ids).Pairwise fun a b => decide (a.val ≤ b.val) = true := by
    refine List.pairwise_mergeSort (fun a b c hab hbc => ?_) (fun a b => ?_) ids
    · simp only [decide_eq_true_eq] at hab hbc ⊢
      omega
    · simp only [Bool.or_eq_true, decide_eq_true_eq]
      omega
  refine ⟨?_, hnodup', fun id => hperm.mem_iff⟩
  refine (hsorted.and hnodup').imp fun {a b} hab => ?_
  have hle : a.val ≤ b.val := of_decide_eq_true hab.1
  have hne : a.val ≠ b.val := by
    intro heq
    apply hab.2
    obtain ⟨x, _, _⟩ := a
    obtain ⟨y, _, _⟩ := b
    cases heq
    rfl
  omega

variable (c)

/-- The ids whose observation has elapsed, in order. -/
def dueIds (now : Instant) : List QosReservationId :=
  sortIds (c.byId.entries.filterMap fun (id, r) => if elapsed now r.phase then some id else none)

theorem nodup_due (now : Instant) :
    (c.byId.entries.filterMap fun (id, r) =>
      if elapsed now r.phase then some id else none).Nodup := by
  have hsub : (c.byId.entries.filterMap fun (id, r) =>
      if elapsed now r.phase then some id else none)
      = (c.byId.filter fun _ r => elapsed now r.phase).keys := by
    unfold Table.keys Table.filter
    dsimp only
    induction c.byId.entries with
    | nil => rfl
    | cons e rest ih =>
      by_cases he : elapsed now e.2.phase = true
      · rw [List.filterMap_cons_some (by rw [if_pos he]), List.filter_cons_of_pos (by exact he),
          List.map_cons, ih]
      · rw [List.filterMap_cons_none (by rw [if_neg he]), List.filter_cons_of_neg (by exact he), ih]
  rw [hsub]
  exact (c.byId.filter _).nodup

variable {c}

theorem mem_dueIds {now : Instant} :
    id ∈ c.dueIds now ↔ ∃ r, c.byId.get? id = some r ∧ elapsed now r.phase = true := by
  rw [dueIds, (sortIds_spec (nodup_due c now)).2.2, List.mem_filterMap]
  constructor
  · rintro ⟨⟨id', r⟩, hmem, hif⟩
    dsimp only at hif
    split at hif
    · next helapsed =>
      cases hif
      exact ⟨r, Table.get?_eq_some.mpr hmem, helapsed⟩
    · cases hif
  · rintro ⟨r, hr, helapsed⟩
    exact ⟨(id, r), Table.get?_eq_some.mp hr, if_pos helapsed⟩

variable (c)

theorem poll_spec (now : Instant) :
    (c.poll now).2
      = { messages := (c.dueIds now).flatMap fun id => (givenFor expiryGives c id).messages
          events := (c.dueIds now).flatMap fun id => (givenFor expiryGives c id).events }
    ∧ ∀ id, (c.poll now).1.byId.get? id
      = if id ∈ c.dueIds now then (c.byId.get? id).bind expiryLeaves else c.byId.get? id := by
  have hlive : ∀ id ∈ c.dueIds now, ∃ r, c.byId.get? id = some r := by
    intro id hid
    obtain ⟨r, hr, -⟩ := mem_dueIds.mp hid
    exact ⟨r, hr⟩
  have h := expire_local.foldl (sortIds_spec (nodup_due c now)).2.1 hlive {}
  exact h

theorem nodup_keys : c.byId.keys.Nodup := c.byId.nodup

variable {c}

theorem mem_sortIds_keys : id ∈ sortIds c.byId.keys ↔ ∃ r, c.byId.get? id = some r := by
  rw [(sortIds_spec (nodup_keys c)).2.2, Table.mem_keys]

theorem drain_spec (c : QosReservationController) :
    c.drain.2
      = { messages := (sortIds c.byId.keys).flatMap fun id => (givenFor releaseGives c id).messages
          events := (sortIds c.byId.keys).flatMap fun id => (givenFor releaseGives c id).events }
    ∧ ∀ id, c.drain.1.byId.get? id = none := by
  have h := release_local.foldl (c := c) (sortIds_spec (nodup_keys c)).2.1
    (fun id hid => mem_sortIds_keys.mp hid) {}
  refine ⟨h.1, fun id => ?_⟩
  have hget := h.2 id
  by_cases hid : id ∈ sortIds c.byId.keys
  · rw [if_pos hid] at hget
    refine hget.trans ?_
    cases c.byId.get? id <;> rfl
  rw [if_neg hid] at hget
  refine hget.trans ?_
  cases hr : c.byId.get? id with
  | none => rfl
  | some r => exact absurd (mem_sortIds_keys.mpr ⟨r, hr⟩) hid

/-! ## Every call -/

/-- What a loop says about one id. -/
theorem about_of_loop (operation : Operation) (hnodup : ids.Nodup)
    (hlive : ∀ id ∈ ids, ∃ r, c.byId.get? id = some r) (htransition : c.transition operation
      = { messages := ids.flatMap fun id => (givenFor gives c id).messages
          events := ids.flatMap fun id => (givenFor gives c id).events })
    (howner : ∀ id r, c.byId.get? id = some r → ∀ message ∈ (gives id r).messages,
      messageOwner c operation message = some id)
    (hevent : ∀ id r, ∀ event ∈ (gives id r).events, event.id = id) (id : QosReservationId) :
    about id c operation = if id ∈ ids then
      (givenFor gives c id).messages.map .message ++ (givenFor gives c id).events.map .event
      else [] := by
  have hmessages := filter_flatMap_of_tag (messageOwner c operation) hnodup
    (f := fun id => (givenFor gives c id).messages)
    (fun id hid message hmessage => by
      obtain ⟨r, hr⟩ := hlive id hid
      rw [givenFor_some hr] at hmessage
      exact howner id r hr message hmessage) id
  have hevents := filter_flatMap_of_tag (fun event => some event.id) hnodup
    (f := fun id => (givenFor gives c id).events)
    (fun id hid event hmem => by
      obtain ⟨r, hr⟩ := hlive id hid
      rw [givenFor_some hr] at hmem
      exact congrArg some (hevent id r event hmem)) id
  simp only [Option.some.injEq] at hevents
  rw [about, htransition, hmessages, hevents]
  split
  · rfl
  · rfl

theorem owner_teardown (hbooked : Booked c) (hr : c.byId.get? id = some r)
    (hloop : (∃ message, operation = .handleMessage message)
      ∨ (∃ now, operation = .poll now) ∨ operation = .drain) :
    messageOwner c operation (teardownMessage r.key) = some id := by
  have hkey := hbooked.byKey hr
  rcases hloop with ⟨message, rfl⟩ | ⟨now, rfl⟩ | rfl
  · exact hkey
  · exact hkey
  · exact hkey

theorem effect_poll (hbooked : Booked c) (now : Instant) (id : QosReservationId) :
    Effect c (c.step (.poll now)) id (about id c (.poll now)) := by
  obtain ⟨htransition, hget⟩ := poll_spec c now
  have hlive : ∀ id ∈ c.dueIds now, ∃ r, c.byId.get? id = some r := by
    intro id hid
    obtain ⟨r, hr, -⟩ := mem_dueIds.mp hid
    exact ⟨r, hr⟩
  have hnodup : (c.dueIds now).Nodup := (sortIds_spec (nodup_due c now)).2.1
  rw [about_of_loop (.poll now) hnodup hlive htransition ?_ ?_ id]
  · by_cases hid : id ∈ c.dueIds now
    · obtain ⟨r, hr, helapsed⟩ := mem_dueIds.mp hid
      have hget' := hget id
      rw [if_pos hid, hr] at hget'
      rw [if_pos hid, givenFor_some hr]
      obtain ⟨key, phase⟩ := r
      cases phase with
      | establishing due => exact .closed hr rfl hget'
      | active correlation =>
        cases correlation with
        | pending due => exact .settled hr rfl (.inl rfl) hget'
        | _ => cases helapsed
    · have hget' := hget id
      rw [if_neg hid] at hget'
      rw [if_neg hid]
      exact .idle hget'
  · intro id r hr message hmessage
    obtain ⟨key, phase⟩ := r
    cases phase with
    | establishing due =>
      cases List.mem_singleton.mp hmessage
      exact owner_teardown hbooked hr (.inr (.inl ⟨now, rfl⟩))
    | active correlation => cases correlation <;> cases hmessage
  · intro id r event hevent
    obtain ⟨key, phase⟩ := r
    cases phase with
    | establishing due =>
      cases List.mem_singleton.mp hevent
      rfl
    | active correlation =>
      cases correlation with
      | pending due =>
        cases List.mem_singleton.mp hevent
        rfl
      | _ => cases hevent

theorem effect_drain (hbooked : Booked c) (id : QosReservationId) :
    Effect c (c.step .drain) id (about id c .drain) := by
  obtain ⟨htransition, hget⟩ := drain_spec c
  have hnodup := (sortIds_spec (nodup_keys c)).2.1
  rw [about_of_loop .drain hnodup (fun id hid => mem_sortIds_keys.mp hid) htransition ?_ ?_ id]
  · by_cases hid : id ∈ sortIds c.byId.keys
    · obtain ⟨r, hr⟩ := mem_sortIds_keys.mp hid
      rw [if_pos hid, givenFor_some hr]
      exact .closed hr rfl (hget id)
    · rw [if_neg hid]
      refine .idle ((hget id).trans ?_)
      cases hr : c.byId.get? id with
      | none => rfl
      | some r => exact absurd (mem_sortIds_keys.mpr ⟨r, hr⟩) hid
  · intro id r hr message hmessage
    cases List.mem_singleton.mp hmessage
    exact owner_teardown hbooked hr (.inr (.inr rfl))
  · intro id r event hevent
    cases List.mem_singleton.mp hevent
    rfl

/-! ## What each call says -/

theorem transition_start (request : QosReservationRequest) (now : Instant) :
    c.transition (.start request now) = match (c.start request now).2 with
      | .ok (_, said) => said
      | .error _ => {} := rfl

variable (own : QosReservationId)

theorem transition_modify (traffic : QosTrafficSpecification)
    (application : QosApplicationIdentifier) (responseTimeout : Duration) (now : Instant) :
    c.transition (.modify own traffic application responseTimeout now)
      = match (c.modify own traffic application responseTimeout now).2 with
        | .ok said => said
        | .error _ => {} := rfl

theorem transition_updateDscp (dscp : UInt8) :
    c.transition (.updateDscp own dscp) = match c.updateDscp own dscp with
      | .ok said => said
      | .error _ => {} := rfl

theorem transition_teardown :
    c.transition (.teardown own) = match (c.teardown own).2 with
      | .ok said => said
      | .error _ => {} := rfl

theorem transition_handleMessage (message : ControlMessage) :
    c.transition (.handleMessage message) = (c.handleMessage message).2 := rfl

theorem step_start (request : QosReservationRequest) (now : Instant) :
    c.step (.start request now) = (c.start request now).1 := rfl

theorem step_modify (traffic : QosTrafficSpecification)
    (application : QosApplicationIdentifier) (responseTimeout : Duration) (now : Instant) :
    c.step (.modify own traffic application responseTimeout now)
      = (c.modify own traffic application responseTimeout now).1 := rfl

theorem step_teardown :
    c.step (.teardown own) = (c.teardown own).1 := rfl

theorem step_handleMessage (message : ControlMessage) :
    c.step (.handleMessage message) = (c.handleMessage message).1 := rfl

theorem messageOwner_start (request : QosReservationRequest) (now : Instant)
    (message : ControlMessage) :
    messageOwner c (.start request now) message = match (c.start request now).2 with
      | .ok (id, _) => some id
      | .error _ => none := rfl

/-- What a call says that is about one reservation only. -/
theorem about_of_single (howner : ∀ message ∈ (c.transition operation).messages,
      messageOwner c operation message = some own)
    (hevent : ∀ event ∈ (c.transition operation).events, event.id = own) (id : QosReservationId) :
    about id c operation = if id = own then
      (c.transition operation).messages.map .message
        ++ (c.transition operation).events.map .event
      else [] := by
  unfold about
  by_cases hid : id = own
  · subst hid
    rw [if_pos rfl, List.filter_eq_self.mpr fun message hm => by simp [howner message hm],
      List.filter_eq_self.mpr fun event he => by simp [hevent event he]]
  rw [if_neg hid, List.filter_eq_nil_iff.mpr fun message hm => by
      rw [howner message hm]
      simp [Ne.symm hid],
    List.filter_eq_nil_iff.mpr fun event he => by
      rw [hevent event he]
      simp [Ne.symm hid]]
  rfl

theorem about_of_silent (h : c.transition operation = {}) (id : QosReservationId) :
    about id c operation = [] := by
  rw [about, h]
  rfl

/-- A call that fails or has nothing to say leaves every live reservation alone. -/
theorem effect_silent (h : c.transition operation = {})
    (hget : (c.step operation).byId.get? id = c.byId.get? id) :
    Effect c (c.step operation) id (about id c operation) := by
  rw [about_of_silent h]
  exact .idle hget

theorem effect_start (request : QosReservationRequest) (now : Instant) (id : QosReservationId) :
    Effect c (c.step (.start request now)) id (about id c (.start request now)) := by
  rcases start_cases c request now with ⟨e, heq⟩ | ⟨own, e, hnext, heq⟩
    | ⟨own, phase, events, hnext, hfresh, hlive, hgenerations, hopening, heq⟩
  · refine effect_silent ?_ ?_
    · rw [transition_start, heq]
    · rw [step_start, heq]
  · refine effect_silent ?_ ?_
    · rw [transition_start, heq]
    · rw [step_start, heq]
      rfl
  have htransition : c.transition (.start request now)
      = { messages := [setupMessage request], events } := by rw [transition_start, heq]
  have howner : ∀ message ∈ (c.transition (.start request now)).messages,
      messageOwner c (.start request now) message = some own := by
    intro message _
    rw [messageOwner_start, heq]
  have hevent : ∀ event ∈ (c.transition (.start request now)).events, event.id = own := by
    intro event hevent
    rw [htransition] at hevent
    cases hopening with
    | awaited due => cases hevent
    | unconfirmed =>
      cases List.mem_singleton.mp hevent
      rfl
  have hget : (c.step (.start request now)).byId.get? id
      = if id = own then some ⟨requestKey request, phase⟩ else c.byId.get? id := by
    rw [step_start, heq]
    exact get?_opened ..
  rw [about_of_single own howner hevent, htransition]
  by_cases hid : id = own
  · subst hid
    rw [if_pos rfl] at hget ⊢
    refine .opened ⟨id, hnext, Nat.le_refl _⟩ ?_ hopening hget
    unfold setupMessage
    dsimp only
    split <;> rfl
  · rw [if_neg hid] at hget ⊢
    exact .idle hget

theorem effect_modify (traffic : QosTrafficSpecification)
    (application : QosApplicationIdentifier) (responseTimeout : Duration) (now : Instant)
    (id : QosReservationId) :
    Effect c (c.step (.modify own traffic application responseTimeout now)) id
      (about id c (.modify own traffic application responseTimeout now)) := by
  rcases modify_cases c own traffic application responseTimeout now with ⟨e, heq⟩
    | ⟨key, due, hlive, heq⟩
  · refine effect_silent ?_ ?_
    · rw [transition_modify, heq]
    · rw [step_modify, heq]
  have htransition : c.transition (.modify own traffic application responseTimeout now)
      = { messages := [.qosModify key.flow key.direction traffic application] } := by
    rw [transition_modify, heq]
  have hget : (c.step (.modify own traffic application responseTimeout now)).byId.get? id
      = if id = own then some ⟨key, .active (.pending due)⟩ else c.byId.get? id := by
    rw [step_modify, heq]
    refine (get?_setPhase ..).trans ?_
    rw [hlive]
    rfl
  rw [about_of_single own (fun _ _ => rfl) (by rw [htransition]; intro _ h; cases h),
    htransition]
  by_cases hid : id = own
  · subst hid
    rw [if_pos rfl] at hget ⊢
    exact .modified hlive hget
  · rw [if_neg hid] at hget ⊢
    exact .idle hget

theorem updateDscp_cases (c : QosReservationController) (id : QosReservationId) (dscp : UInt8) :
    (∃ e, c.updateDscp id dscp = .error e)
    ∨ ∃ r, c.byId.get? id = some r ∧ r.phase.state = .active
      ∧ c.updateDscp id dscp = .ok { messages := [.updateDscp r.key.flow dscp] } := by
  unfold updateDscp
  split
  · exact .inl ⟨_, rfl⟩
  split
  · exact .inl ⟨_, rfl⟩
  next r hr =>
  split
  · exact .inl ⟨_, rfl⟩
  next hstate => exact .inr ⟨r, hr, not_not.mp hstate, rfl⟩

theorem effect_updateDscp (dscp : UInt8) (id : QosReservationId) :
    Effect c (c.step (.updateDscp own dscp)) id (about id c (.updateDscp own dscp)) := by
  rcases updateDscp_cases c own dscp with ⟨e, heq⟩ | ⟨r, hr, hactive, heq⟩
  · exact effect_silent (by rw [transition_updateDscp, heq]) rfl
  have htransition : c.transition (.updateDscp own dscp)
      = { messages := [.updateDscp r.key.flow dscp] } := by rw [transition_updateDscp, heq]
  rw [about_of_single own (fun _ _ => rfl) (by rw [htransition]; intro _ h; cases h),
    htransition]
  by_cases hid : id = own
  · subst hid
    rw [if_pos rfl]
    exact .marked hr hactive rfl
  · rw [if_neg hid]
    exact .idle rfl

theorem effect_teardown (own id : QosReservationId) :
    Effect c (c.step (.teardown own)) id (about id c (.teardown own)) := by
  cases hr : c.byId.get? own with
  | none =>
    refine effect_silent ?_ ?_
    · rw [transition_teardown, teardown, retire_of_none hr]
    · rw [step_teardown, teardown_fst, retire_of_none hr]
  | some r =>
    have htransition : c.transition (.teardown own)
        = { messages := [teardownMessage r.key], events := [.tornDown own] } := by
      rw [transition_teardown, teardown, retire_of_some hr]
    have hget : (c.step (.teardown own)).byId.get? id
        = if id = own then none else c.byId.get? id := by
      rw [step_teardown, teardown_fst, retire_of_some hr]
      exact get?_closed ..
    rw [about_of_single own (fun _ _ => rfl)
      (by rw [htransition]; intro _ h; cases List.mem_singleton.mp h; rfl), htransition]
    by_cases hid : id = own
    · subst hid
      rw [if_pos rfl] at hget ⊢
      exact .closed hr rfl hget
    · rw [if_neg hid] at hget ⊢
      exact .idle hget

/-- A message that changes nothing and says nothing. -/
theorem effect_ignored (heq : c.handleMessage message = (c, {})) (id : QosReservationId) :
    Effect c (c.step (.handleMessage message)) id (about id c (.handleMessage message)) := by
  refine effect_silent ?_ ?_
  · rw [transition_handleMessage, heq]
  · rw [step_handleMessage, heq]

/-- A message that says something of one reservation and changes only that one. -/
theorem effect_handled {own : QosReservationId} {c' : QosReservationController}
    {said : QosTransition} (heq : c.handleMessage message = (c', said))
    (howner : ∀ m ∈ said.messages, messageOwner c (.handleMessage message) m = some own)
    (hevent : ∀ event ∈ said.events, event.id = own)
    (hother : ∀ id, id ≠ own → c'.byId.get? id = c.byId.get? id)
    (hown : Effect c c' own (said.messages.map .message ++ said.events.map .event))
    (id : QosReservationId) :
    Effect c (c.step (.handleMessage message)) id (about id c (.handleMessage message)) := by
  have htransition : c.transition (.handleMessage message)
    = said := by rw [transition_handleMessage, heq]
  have hstep : c.step (.handleMessage message) = c' := by rw [step_handleMessage, heq]
  rw [about_of_single own (htransition ▸ howner) (htransition ▸ hevent), htransition, hstep]
  by_cases hid : id = own
  · subst hid
    rw [if_pos rfl]
    exact hown
  · rw [if_neg hid]
    exact .idle (hother id hid)

theorem get?_setPhase_of_ne (phase : ReservationPhase)
    (h : id ≠ own) : (c.setPhase own phase).byId.get? id = c.byId.get? id := by
  rw [get?_setPhase, if_neg h]

theorem get?_setPhase_self (hr : c.byId.get? id = some r) (phase : ReservationPhase) :
    (c.setPhase id phase).byId.get? id = some { r with phase } := by
  rw [get?_setPhase, if_pos rfl, hr]
  rfl

theorem get?_closed_of_ne (r : Reservation) (h : id ≠ own) :
    (c.closed own r).byId.get? id = c.byId.get? id := by
  rw [get?_closed, if_neg h]

theorem get?_closed_self (r : Reservation) : (c.closed id r).byId.get? id = none := by
  rw [get?_closed, if_pos rfl]

theorem effect_notify (key : ReservationKey) (id : QosReservationId) :
    Effect c (c.step (.handleMessage (.qosReservationNotify key.flow key.direction))) id
      (about id c (.handleMessage (.qosReservationNotify key.flow key.direction))) := by
  have hmessage : c.handleMessage (.qosReservationNotify key.flow key.direction)
      = c.handleReservationNotify key := rfl
  rcases handleReservationNotify_cases c key with heq | ⟨own, key', due, -, hlive, heq⟩
  · exact effect_ignored (hmessage.trans heq) id
  rw [← hmessage] at heq
  refine effect_handled heq (fun _ h => by cases h) (fun _ h => ?_)
    (fun id hid => get?_setPhase_of_ne own _ hid)
    (.established hlive (get?_setPhase_self hlive _)) id
  cases List.mem_singleton.mp h
  rfl

theorem effect_error (hbooked : Booked c) (key : ReservationKey) (failure : QosReservationFailure)
    (id : QosReservationId) :
    Effect c (c.step (.handleMessage (.qosErrorNotify key.flow key.direction failure))) id
      (about id c (.handleMessage (.qosErrorNotify key.flow key.direction failure))) := by
  have hmessage : c.handleMessage (.qosErrorNotify key.flow key.direction failure)
      = c.handleError key failure := rfl
  rcases handleError_cases c key failure with heq | ⟨own, r, -, hlive, hcases⟩
  · exact effect_ignored (hmessage.trans heq) id
  rw [← hmessage] at hcases
  obtain ⟨key', phase⟩ := r
  rcases hcases with ⟨due, hphase, -, heq⟩ | ⟨-, heq⟩ | ⟨event, -, hending, heq⟩
  · dsimp only at hphase
    subst hphase
    refine effect_handled heq (fun _ h => by cases h) (fun _ h => ?_)
      (fun id hid => get?_setPhase_of_ne own _ hid)
      (.settled hlive rfl (.inr rfl) (get?_setPhase_self hlive _)) id
    cases List.mem_singleton.mp h
    rfl
  · refine effect_handled heq (fun _ h => by cases h) (fun _ h => ?_)
      (fun id hid => get?_closed_of_ne own _ hid) (.reported hlive (get?_closed_self _)) id
    cases List.mem_singleton.mp h
    rfl
  refine effect_handled heq (fun _ h => ?_) (fun _ h => ?_)
    (fun id hid => get?_closed_of_ne own _ hid)
    (.closed hlive (by cases hending <;> rfl) (get?_closed_self _)) id
  · cases List.mem_singleton.mp h
    exact owner_teardown hbooked hlive (.inl ⟨_, rfl⟩)
  · cases List.mem_singleton.mp h
    cases hending <;> rfl

/-- What any call does to a reservation, and what it says about it. -/
theorem effect_step (hbooked : Booked c) (operation : Operation) (id : QosReservationId) :
    Effect c (c.step operation) id (about id c operation) := by
  cases operation with
  | start request now => exact effect_start request now id
  | modify own traffic application responseTimeout now =>
    exact effect_modify own traffic application responseTimeout now id
  | updateDscp own dscp => exact effect_updateDscp own dscp id
  | teardown own => exact effect_teardown own id
  | handleMessage message =>
    cases message with
    | qosReservationNotify flow direction => exact effect_notify ⟨flow, direction⟩ id
    | qosErrorNotify flow direction failure =>
      exact effect_error hbooked ⟨flow, direction⟩ failure id
    | _ => exact effect_ignored rfl id
  | poll now => exact effect_poll hbooked now id
  | drain => exact effect_drain hbooked id

/-! ## Runs -/

open Acceptor in
/-- The trace of a reservation over a run is a word of its life. -/
theorem accept_outputs (hbooked : Booked c) {life : QosLife} (hagrees : Agrees c id life)
    (operations : List Operation) :
    ∃ life', accept QosLife.turn life (Runs.outputs step (about id) c operations) = some life'
      ∧ Agrees (Runs.run step c operations) id life' := by
  induction operations generalizing c life with
  | nil => exact ⟨life, rfl, hagrees⟩
  | cons operation rest ih =>
    obtain ⟨mid, hmid, hagrees'⟩ := (effect_step hbooked operation id).accepted hbooked
      (spends_step c operation) hagrees
    obtain ⟨life', hlife', hlast⟩ := ih (keeps_booked.step hbooked operation) hagrees'
    exact ⟨life', accept_append.mpr ⟨mid, hmid, hlife'⟩, hlast⟩

theorem agrees_new {limits : QosReservationLimits} (h : new limits = .ok c)
    (id : QosReservationId) : Agrees c id .unborn := by
  unfold new at h
  split at h
  · cases h
  · cases h
    exact ⟨.inl rfl, fun _ => rfl⟩

/-- What the service node's report that a live reservation is torn down gives. -/
theorem about_tornDown (hbooked : Booked c) {key : ReservationKey}
    {failure : QosReservationFailure} (htorn : failure.errorCode = .reservationTornDown)
    (hkey : c.byKey.get? key = some id) :
    about id c (.handleMessage (.qosErrorNotify key.flow key.direction failure))
      = [.event (.tornDown id)] := by
  obtain ⟨r, hr, -⟩ := (hbooked.inverse key id).mp hkey
  have htransition : c.transition
      (.handleMessage (.qosErrorNotify key.flow key.direction failure))
      = { events := [.tornDown id] } := by
    have hmodify : isModifyFailure failure.errorCode = false := by rw [htorn]; rfl
    rw [transition_handleMessage, handleMessage, handleError, hkey]
    dsimp only
    rw [hmodify, if_neg Bool.false_ne_true, retire_of_some hr]
    dsimp only
    rw [if_pos htorn]
  rw [about_of_single id (by rw [htransition]; intro _ h; cases h)
    (by rw [htransition]; intro _ h; cases List.mem_singleton.mp h; rfl), if_pos rfl, htransition]
  rfl

open Acceptor in
/-- No teardown message is sent, before or after, for a reservation that the service
    node reports as torn down while it is live. -/
theorem no_teardown_of_report {limits : QosReservationLimits} (hnew : new limits = .ok c)
    {before after : List Operation} {key : ReservationKey} {failure : QosReservationFailure}
    (htorn : failure.errorCode = .reservationTornDown)
    (hkey : (Runs.run step c before).byKey.get? key = some id) :
    (Runs.outputs step (about id) c (before ++ .handleMessage
      (.qosErrorNotify key.flow key.direction failure) :: after)).countP (·.isTeardown) = 0 := by
  have hbooked := run_booked hnew before
  obtain ⟨r, hr, -⟩ := (hbooked.inverse key id).mp hkey
  obtain ⟨life, hlife, hagrees⟩ := accept_outputs (booked_new hnew).1 (agrees_new hnew id) before
  obtain ⟨last, hlast, -⟩ := accept_outputs (booked_new hnew).1 (agrees_new hnew id)
    (before ++ .handleMessage (.qosErrorNotify key.flow key.direction failure) :: after)
  have hlive : ¬ (life = .closing ∨ life = .ended) := by
    rw [hagrees.of_some hr]
    exact lifeOf_live r.phase
  have hbefore := QosLife.countP_isTeardown_of_live hlife hlive
  rw [Runs.outputs_append, Runs.outputs, about_tornDown hbooked htorn hkey,
    List.singleton_append] at hlast ⊢
  have hafter := QosLife.eq_nil_of_isTerminal hlast rfl
  rw [hafter, List.countP_append, hbefore]
  rfl

/-- What is said of distinct things in turn, at most once of each, is in their order. -/
theorem map_flatMap_sublist {α β γ : Type*} {f : α → List β} {g : β → γ} (tag : α → γ)
    {as : List α} (h : ∀ a ∈ as, (f a).map g = [] ∨ (f a).map g = [tag a]) :
    ((as.flatMap f).map g).Sublist (as.map tag) := by
  induction as with
  | nil => exact .slnil
  | cons a as ih =>
    have hrest := ih fun b hb => h b (List.mem_cons_of_mem _ hb)
    rw [List.flatMap_cons, List.map_append, List.map_cons]
    rcases h a List.mem_cons_self with hnil | hone
    · rw [hnil]
      exact hrest.cons _
    · rw [hone]
      exact hrest.cons_cons _

/-- The events of a call are in id order, and its messages are about reservations in
    id order. -/
def InIdOrder (c : QosReservationController) (operation : Operation) : Prop :=
  ((c.transition operation).events.map (·.id)).Pairwise (fun a b => a.val < b.val)
  ∧ ∃ ids : List QosReservationId, ids.Pairwise (fun a b => a.val < b.val)
    ∧ (c.transition operation).messages.map (messageOwner c operation) = ids.map some

theorem inIdOrder_of_loop (operation : Operation) (hsorted : ids.Pairwise fun a b => a.val < b.val)
    (htransition : c.transition operation
      = { messages := ids.flatMap fun id => (givenFor gives c id).messages
          events := ids.flatMap fun id => (givenFor gives c id).events })
    (hmessages : ∀ id ∈ ids, (givenFor gives c id).messages.map (messageOwner c operation) = []
      ∨ (givenFor gives c id).messages.map (messageOwner c operation) = [some id])
    (hevents : ∀ id ∈ ids, (givenFor gives c id).events.map (·.id) = []
      ∨ (givenFor gives c id).events.map (·.id) = [id]) : InIdOrder c operation := by
  rw [InIdOrder, htransition]
  constructor
  · have hsub := map_flatMap_sublist (fun id => id) hevents
    rw [List.map_id'] at hsub
    exact hsorted.sublist hsub
  · obtain ⟨ids', hsub, heq⟩ := List.sublist_map_iff.mp (map_flatMap_sublist some hmessages)
    exact ⟨ids', hsorted.sublist hsub, heq⟩

theorem inIdOrder_poll (hbooked : Booked c) (now : Instant) : InIdOrder c (.poll now) := by
  refine inIdOrder_of_loop _ (sortIds_spec (nodup_due c now)).1 (poll_spec c now).1
    (fun id hid => ?_) (fun id hid => ?_)
  · obtain ⟨r, hr, -⟩ := mem_dueIds.mp hid
    rw [givenFor_some hr]
    have howner := owner_teardown hbooked hr (.inr (.inl ⟨now, rfl⟩))
    obtain ⟨key, phase⟩ := r
    cases phase with
    | establishing due => exact .inr (congrArg (fun owner => [owner]) howner)
    | active correlation => cases correlation <;> exact .inl rfl
  obtain ⟨r, hr, -⟩ := mem_dueIds.mp hid
  rw [givenFor_some hr]
  obtain ⟨key, phase⟩ := r
  cases phase with
  | establishing due => exact .inr rfl
  | active correlation =>
    cases correlation with
    | pending due => exact .inr rfl
    | _ => exact .inl rfl

theorem inIdOrder_drain (hbooked : Booked c) : InIdOrder c .drain := by
  refine inIdOrder_of_loop _ (sortIds_spec (nodup_keys c)).1 (drain_spec c).1
    (fun id hid => ?_) (fun id hid => ?_)
  · obtain ⟨r, hr⟩ := mem_sortIds_keys.mp hid
    rw [givenFor_some hr]
    exact .inr (congrArg (fun owner => [owner]) (owner_teardown hbooked hr (.inr (.inr rfl))))
  · obtain ⟨r, hr⟩ := mem_sortIds_keys.mp hid
    rw [givenFor_some hr]
    exact .inr rfl

variable (c)

/-- Nothing is due right after a poll. -/
theorem dueIds_poll (now : Instant) : (c.poll now).1.dueIds now = [] := by
  refine List.eq_nil_iff_forall_not_mem.mpr fun id hid => ?_
  obtain ⟨r, hr, helapsed⟩ := mem_dueIds.mp hid
  rw [(poll_spec c now).2] at hr
  split at hr
  · next hdue =>
    obtain ⟨r', hr', -⟩ := mem_dueIds.mp hdue
    rw [hr', Option.bind_some] at hr
    obtain ⟨key, phase⟩ := r'
    cases phase with
    | establishing due => cases hr
    | active correlation => cases correlation <;> (cases hr; cases helapsed)
  · next hdue => exact hdue (mem_dueIds.mpr ⟨r, hr, helapsed⟩)

theorem poll_again (now : Instant) : ((c.poll now).1.poll now).2 = {} := by
  rw [(poll_spec (c.poll now).1 now).1, dueIds_poll]
  rfl

variable {c}

theorem InIdOrder.owned (h : InIdOrder c operation)
    (hmem : message ∈ (c.transition operation).messages) :
    ∃ id, messageOwner c operation message = some id := by
  obtain ⟨ids, -, heq⟩ := h.2
  have howner : messageOwner c operation message ∈ ids.map some :=
    heq ▸ List.mem_map.mpr ⟨message, hmem, rfl⟩
  obtain ⟨id, -, hid⟩ := List.mem_map.mp howner
  exact ⟨id, hid.symm⟩

/-- Every message of a call is about some reservation. -/
theorem message_owned (hbooked : Booked c) (operation : Operation)
    (hmem : message ∈ (c.transition operation).messages) :
    ∃ id, messageOwner c operation message = some id := by
  cases operation with
  | start request now =>
    rw [transition_start] at hmem
    rw [messageOwner_start]
    cases hstart : (c.start request now).2 with
    | error e =>
      rw [hstart] at hmem
      cases hmem
    | ok result => exact ⟨result.1, rfl⟩
  | modify id => exact ⟨id, rfl⟩
  | updateDscp id => exact ⟨id, rfl⟩
  | teardown id => exact ⟨id, rfl⟩
  | handleMessage incoming =>
    cases incoming with
    | qosReservationNotify flow direction =>
      rw [transition_handleMessage, handleMessage] at hmem
      rcases handleReservationNotify_cases c ⟨flow, direction⟩ with heq | ⟨_, _, _, -, -, heq⟩
      · rw [heq] at hmem
        cases hmem
      · rw [heq] at hmem
        cases hmem
    | qosErrorNotify flow direction failure =>
      rw [transition_handleMessage, handleMessage] at hmem
      rcases handleError_cases c ⟨flow, direction⟩ failure with heq | ⟨own, r, -, hr, hcases⟩
      · rw [heq] at hmem
        cases hmem
      rcases hcases with ⟨_, -, -, heq⟩ | ⟨-, heq⟩ | ⟨event, -, -, heq⟩
      · rw [heq] at hmem
        cases hmem
      · rw [heq] at hmem
        cases hmem
      · rw [heq] at hmem
        cases List.mem_singleton.mp hmem
        exact ⟨own, owner_teardown hbooked hr (.inl ⟨_, rfl⟩)⟩
    | _ => cases hmem
  | poll now => exact (inIdOrder_poll hbooked now).owned hmem
  | drain => exact (inIdOrder_drain hbooked).owned hmem

/-- Messages and events over every sequence of calls of a controller with valid
    limits.  The trace of an id has at most one terminal event, with nothing after
    it, at most one activation, at most one teardown message, and none if the
    service node reports the live reservation as torn down, at most one modification
    message and at most one outcome of it, after that message.  `poll` and `drain`
    speak in id order, and a second `poll` at the same time says nothing.  No message
    falls outside the traces. -/
theorem reservation_outputs {limits : QosReservationLimits} {c₀ : QosReservationController}
    (hnew : new limits = .ok c₀) (operations : List Operation) :
    (∀ id, let trace := Runs.outputs step (about id) c₀ operations
      trace.countP (·.isTerminal) ≤ 1
      ∧ (∀ before e after, trace = before ++ e :: after → e.isTerminal = true → after = [])
      ∧ trace.countP (·.isActivation) ≤ 1
      ∧ trace.countP (·.isTeardown) ≤ 1
      ∧ (∀ before after key failure, operations = before ++ .handleMessage
            (.qosErrorNotify key.flow key.direction failure) :: after →
          failure.errorCode = .reservationTornDown →
          (Runs.run step c₀ before).byKey.get? key = some id →
          trace.countP (·.isTeardown) = 0)
      ∧ trace.countP (·.isModify) ≤ 1
      ∧ trace.countP (·.isOutcome) ≤ 1
      ∧ ∀ before e after, trace = before ++ e :: after → e.isOutcome = true →
          ∃ q ∈ before, q.isModify = true)
    ∧ (∀ before operation after message, operations = before ++ operation :: after →
        message ∈ ((Runs.run step c₀ before).transition operation).messages →
        ∃ id, messageOwner (Runs.run step c₀ before) operation message = some id)
    ∧ ∀ now, let c := Runs.run step c₀ operations
      InIdOrder c (.poll now) ∧ InIdOrder c .drain ∧ ((c.poll now).1.poll now).2 = {} := by
  refine ⟨fun id => ?_, ?_, fun now => ?_⟩
  · obtain ⟨life, hlife, -⟩ := accept_outputs (booked_new hnew).1 (agrees_new hnew id) operations
    intro trace
    change Acceptor.accept QosLife.turn .unborn trace = some life at hlife
    refine ⟨QosLife.countP_isTerminal hlife, ?_, QosLife.countP_isActivation hlife,
      QosLife.countP_isTeardown hlife, ?_, QosLife.countP_isModify hlife,
      QosLife.countP_isOutcome hlife, ?_⟩
    · intro before e after htrace hterminal
      rw [htrace] at hlife
      exact QosLife.eq_nil_of_isTerminal hlife hterminal
    · rintro before after key failure rfl htorn hkey
      exact no_teardown_of_report hnew htorn hkey
    · intro before e after htrace houtcome
      rw [htrace] at hlife
      exact QosLife.modify_before_outcome hlife houtcome
  · rintro before operation after message - hmem
    exact message_owned (run_booked hnew before) operation hmem
  · have hbooked := run_booked hnew operations
    exact ⟨inIdOrder_poll hbooked now, inIdOrder_drain hbooked, poll_again _ now⟩

/-- A reservation that is established, modified and torn down. -/
theorem reservation_outputs_of_modified :
    (Runs.outputs step (about firstId) Sample.qosController Sample.qosModified).length = 5
      ∧ (Runs.outputs step (about firstId) Sample.qosController Sample.qosModified).countP
        (·.isTeardown) ≤ 1 := by
  have hnew : new Sample.qosLimits = .ok Sample.qosController := rfl
  exact ⟨by decide +kernel, ((reservation_outputs hnew Sample.qosModified).1 firstId).2.2.2.1⟩

end QosReservationController

end Sccp
