/-
  Sccp.Ledger.Transitions

  Call transitions, auto-answer, pickup and parking as moves on the ledger.
-/

import Sccp.Ledger.Lifecycle

namespace Sccp

open Ledger (Via)
open Function (update)

namespace Controller

variable {s : Controller}
variable {c : CallId} {t : CallTransition} {s' : Controller}

/-! ## Call transitions -/

theorem ledger_recordTransition (snapshot : CallDomainSnapshot)
    (transition : CallTransitionId → CallTransition) :
    ∃ i pending, pending.transition = transition i
      ∧ (s.recordTransition snapshot transition).1.ledger = s.ledger.pend i pending.view
      ∧ (s.recordTransition snapshot transition).1.pendingCallTransitions.get? i = some pending
      ∧ (s.recordTransition snapshot transition).2 = transition i := by
  refine ⟨s.allocateCallTransitionId.2, { transition := transition s.allocateCallTransitionId.2
                                          snapshot, progress := [] }, rfl, ?_, ?_, rfl⟩
  · apply Ledger.ext <;> try rfl
    funext x
    have hsame : s.allocateCallTransitionId.1.pendingCallTransitions = s.pendingCallTransitions :=
      rfl
    by_cases hx : x = s.allocateCallTransitionId.2 <;>
      simp [ledger, recordTransition, Ledger.pend, Table.get?_insert, hx, hsame]
  · simp [recordTransition, Table.get?_insert]

theorem via_recordTransition (snapshot : CallDomainSnapshot)
    (transition : CallTransitionId → CallTransition) :
    Via s.ledger (s.recordTransition snapshot transition).1.ledger := by
  obtain ⟨i, pending, _, hl, _⟩ := ledger_recordTransition (s := s) snapshot transition
  exact .step (.pend i pending.view) trivial (.of_eq hl)

theorem via_beginActiveCallSwitchTransaction (d : DeviceId) (c : CallId) :
    Via s.ledger (s.beginActiveCallSwitchTransaction d c).1.ledger := by
  have h := via_switchActiveCall (s := s) (d := d) (c := c)
  unfold beginActiveCallSwitchTransaction
  split
  · exact .refl _
  simp only
  split
  · exact .refl _
  split
  · next s' _ heq =>
    rw [heq] at h
    exact h
  next s' effects heq =>
  rw [heq] at h
  refine h.trans ?_
  dsimp only
  exact via_recordTransition _ _

theorem via_beginAdditionalPhoneCallTransaction (c : CallId)
    (binding : LineBinding) (codec : Codec) (now : Instant) :
    Via s.ledger (s.beginAdditionalPhoneCallTransaction c binding codec now).1.ledger := by
  have h := via_beginAdditionalPhoneCall (s := s) c binding codec now
  unfold beginAdditionalPhoneCallTransaction
  split
  · exact .refl _
  simp only
  split
  · exact .refl _
  split
  · next s' _ heq =>
    rw [heq] at h
    exact h
  next s' effects heq =>
  rw [heq] at h
  split
  · exact h
  · refine h.trans ?_
    dsimp only
    exact via_recordTransition _ _

/-- Storing a transition again keeps what the ledger sees of it. -/
theorem ledger_storeTransition (h : ∀ pending, s.pendingCallTransitions.get? t.id = some pending →
      ({ pending with transition := t } : PendingCallTransition).view = pending.view) :
    (s.storeTransition t).ledger = s.ledger := by
  apply Ledger.ext <;> try rfl
  funext i
  by_cases hi : i = t.id
  · subst hi
    cases hp : s.pendingCallTransitions.get? t.id with
    | none => simp [ledger, storeTransition, Table.get?_modify, hp]
    | some pending => simp [ledger, storeTransition, Table.get?_modify, hp, h pending hp]
  · simp [ledger, storeTransition, Table.get?_modify, hi]

/-- The transition an additional call has recorded is the one it reports. -/
theorem beginAdditionalPhoneCallTransaction_stored {binding : LineBinding} {codec : Codec}
    {now : Instant} (h : s.beginAdditionalPhoneCallTransaction c binding codec now = (s', .ok t)) :
    ∃ pending, s'.pendingCallTransitions.get? t.id = some pending ∧ pending.transition = t := by
  unfold beginAdditionalPhoneCallTransaction at h
  split at h
  · cases h
  simp only at h
  split at h
  · cases h
  split at h
  · cases h
  next s₁ effects heq =>
  split at h
  · cases h
  simp only [Prod.mk.injEq, Except.ok.injEq] at h
  obtain ⟨rfl, rfl⟩ := h
  obtain ⟨i, pending, ht, _, hstored, hid⟩ :=
    ledger_recordTransition (s := s₁) s.callDomainSnapshot _
  exact ⟨pending, by rw [hid]; exact hstored, by rw [hid, ht]⟩

/-! Dialling does not touch the pending transitions. -/

@[simp] theorem pending_modifyCall (p : PbxCallId) (f : PbxCall → PbxCall) :
    (s.modifyCall p f).pendingCallTransitions = s.pendingCallTransitions := rfl

@[simp] theorem pending_modifyAppearance (a : CallAppearanceId)
    (f : CallAppearance → CallAppearance) :
    (s.modifyAppearance a f).pendingCallTransitions = s.pendingCallTransitions := rfl

@[simp] theorem pending_advanceTransferForPbx (p : PbxCallId) (phase : TransferPhase) :
    (s.advanceTransferForPbx p phase).pendingCallTransitions = s.pendingCallTransitions := by
  unfold advanceTransferForPbx
  split
  · rfl
  split
  · rfl
  · simp only
    split
    · rfl
    · split <;> rfl

@[simp] theorem pending_refreshConferenceParticipantIdentity (p : PbxCallId) :
    (s.refreshConferenceParticipantIdentity p).pendingCallTransitions
      = s.pendingCallTransitions := by
  unfold refreshConferenceParticipantIdentity
  split
  · rfl
  split
  · rfl
  · simp only
    split
    · rfl
    · split <;> rfl

@[simp] theorem pending_outboundRoutePresentation (p : PbxCallId) (destination : String) :
    (s.outboundRoutePresentation p destination).1.pendingCallTransitions
      = s.pendingCallTransitions := by
  unfold outboundRoutePresentation
  split
  · rfl
  · split
    · rfl
    · simp

theorem pending_finishDigits (c : CallId) :
    (s.finishDigits c).1.pendingCallTransitions = s.pendingCallTransitions := by
  unfold finishDigits
  split
  · rfl
  split
  · rfl
  simp only
  split
  · rfl
  split
  · rfl
  split
  · rfl
  · simp only [pending_outboundRoutePresentation]
    split
    · simp
    · simp

theorem pending_enbloc (c : CallId) (number : String) :
    (s.enbloc c number).1.pendingCallTransitions = s.pendingCallTransitions := by
  unfold enbloc
  split
  · rfl
  split
  · split <;> rfl
  · split
    · rfl
    · simp only [pending_finishDigits]
      split <;> rfl

theorem via_beginHotlineCallTransaction (request : HotlineCallRequest) :
    Via s.ledger (s.beginHotlineCallTransaction request).1.ledger := by
  have hadd := via_beginAdditionalPhoneCallTransaction (s := s) request.handsetCallId
    request.binding request.codec request.now
  unfold beginHotlineCallTransaction
  split
  · next s' _ heq =>
    rw [heq] at hadd
    exact hadd
  next s' t heq =>
  rw [heq] at hadd
  have hroute := Via.trans hadd (via_enbloc request.handsetCallId request.destination)
  simp only
  split
  · exact hroute.trans (via_abortCallTransition t.id [])
  split
  · exact hroute
  refine hroute.trans (.of_eq (ledger_storeTransition ?_))
  intro pending hp
  obtain ⟨stored, hstored, ht⟩ := beginAdditionalPhoneCallTransaction_stored heq
  have hp' : s'.pendingCallTransitions.get? t.id = some pending := by
    rw [pending_enbloc] at hp
    exact hp
  rw [hstored] at hp'
  cases hp'
  subst ht
  rfl

theorem ledger_modifyAppearanceOf_quiet {f : CallAppearance → CallAppearance}
    (hf : ∀ v, (f v).view = v.view) : (s.modifyAppearanceOf c f).ledger = s.ledger := by
  unfold modifyAppearanceOf
  split
  · rfl
  · exact ledger_modifyAppearance_quiet _ hf

theorem via_commitCallTransition (i : CallTransitionId) :
    Via s.ledger (s.commitCallTransition i).1.ledger := by
  unfold commitCallTransition
  split
  · exact .refl _
  next pending _ =>
  have hl := s.ledger_erasePending i
  refine .step (.unpend (· = i)) trivial (.of_eq ?_)
  simp only
  split
  · exact hl
  · refine Eq.trans (ledger_modifyAppearanceOf_quiet ?_) hl
    exact fun _ => rfl

theorem ledger_recordCallTransitionSuccess (i : CallTransitionId) (effect : DriverEffect) :
    (s.recordCallTransitionSuccess i effect).1.ledger = s.ledger := by
  apply Ledger.ext <;> try rfl
  funext x
  by_cases hx : x = i
  · subst hx
    cases hp : s.pendingCallTransitions.get? x <;>
      simp [ledger, recordCallTransitionSuccess, Table.get?_modify, hp, PendingCallTransition.view]
  · simp [ledger, recordCallTransitionSuccess, Table.get?_modify, hx]

theorem via_compensateUnrecordedCallTransitionEffect {effect : DriverEffect} :
    Via s.ledger (s.compensateUnrecordedCallTransitionEffect t effect).1.ledger := by
  unfold compensateUnrecordedCallTransitionEffect
  split
  · exact .refl _
  simp only
  split
  · split <;> exact .refl _
  · split <;> exact .refl _
  · split <;> exact .refl _
  · split
    · exact via_pbxHangupWithEffects _
    · exact .refl _
  · split <;> exact .refl _
  · exact .refl _
  split
  · split <;> exact .refl _
  · split
    · split <;> exact .refl _
    · split <;> exact .refl _

/-! ## Auto-answer -/

theorem ledger_scheduleEach (p : PbxCallId) (request : AutoAnswerRequest)
    (policy : AutoAnswerPolicy) (now : Instant) (cs : List CallId) :
    (scheduleEach p request policy now s cs).ledger = s.ledger := by
  induction cs generalizing s with
  | nil => rfl
  | cons c rest ih =>
    simp only [scheduleEach]
    exact ih

theorem ledger_setAutoAnswerRequest (p : PbxCallId) (request : AutoAnswerRequest) :
    (s.setAutoAnswerRequest p request).1.ledger = s.ledger := by
  unfold setAutoAnswerRequest
  split <;> rfl

theorem ledger_scheduleAutoAnswers (p : PbxCallId) (policy : AutoAnswerPolicy) (now : Instant) :
    (s.scheduleAutoAnswers p policy now).1.ledger = s.ledger := by
  unfold scheduleAutoAnswers
  split
  · rfl
  simp only
  split
  · rfl
  · exact ledger_scheduleEach ..

/-- The transition a switch has recorded is the one it reports. -/
theorem beginActiveCallSwitchTransaction_stored {d : DeviceId}
    (h : s.beginActiveCallSwitchTransaction d c = (s', .ok t)) :
    ∃ pending, s'.pendingCallTransitions.get? t.id = some pending ∧ pending.transition = t := by
  unfold beginActiveCallSwitchTransaction at h
  split at h
  · cases h
  simp only at h
  split at h
  · cases h
  split at h
  · cases h
  next s₁ effects heq =>
  simp only [Prod.mk.injEq, Except.ok.injEq] at h
  obtain ⟨rfl, rfl⟩ := h
  obtain ⟨i, pending, ht, _, hstored, hid⟩ :=
    ledger_recordTransition (s := s₁) s.callDomainSnapshot _
  exact ⟨pending, by rw [hid]; exact hstored, by rw [hid, ht]⟩

theorem via_beginAutoAnswer (pending : PendingAutoAnswer) :
    Via s.ledger (s.beginAutoAnswer pending).1.ledger := by
  unfold beginAutoAnswer
  split
  · exact .refl _
  next a _ =>
  split
  · exact .refl _
  split
  · exact .refl _
  have hone := via_beginActiveCallSwitchTransaction (s := s) a.deviceId pending.callId
  split
  · next s' _ heq =>
    rw [heq] at hone
    exact hone
  · next s' t heq =>
    rw [heq] at hone
    exact hone

theorem beginAutoAnswer_stored {pending : PendingAutoAnswer}
    (h : s.beginAutoAnswer pending = (s', .ok t)) :
    (s'.storeTransition (withAutoAnswerTone pending t)).ledger = s'.ledger := by
  unfold beginAutoAnswer at h
  split at h
  · cases h
  split at h
  · cases h
  split at h
  · cases h
  split at h
  · cases h
  · next s₁ t₁ heq =>
    simp only [Prod.mk.injEq, Except.ok.injEq] at h
    obtain ⟨rfl, rfl⟩ := h
    obtain ⟨stored, hs, ht⟩ := beginActiveCallSwitchTransaction_stored heq
    refine ledger_storeTransition fun p hp => ?_
    have hp' : s₁.pendingCallTransitions.get? t₁.id = some p := hp
    rw [hs] at hp'
    cases hp'
    subst ht
    rfl

theorem via_answerDue (due : List PendingAutoAnswer) : Via s.ledger (s.answerDue due).1.ledger := by
  induction due generalizing s with
  | nil => exact .refl _
  | cons pending rest ih =>
    simp only [answerDue]
    split
    · exact ih
    have hone := via_beginAutoAnswer
      (s := { s with pendingAutoAnswers := s.pendingAutoAnswers.erase pending.callId }) pending
    split
    · next s' _ heq =>
      rw [heq] at hone
      exact Via.trans hone ih
    · next s' t heq =>
      rw [heq] at hone
      exact (Via.trans hone (.of_eq (beginAutoAnswer_stored heq))).trans ih

theorem via_expireAutoAnswers {now : Instant} :
    Via s.ledger (s.expireAutoAnswers now).1.ledger := via_answerDue _

/-! ## Pickup -/

theorem via_beginDirectedPickup {permitted enabled answer : Bool} {context : String} :
    Via s.ledger (s.beginDirectedPickup c permitted enabled context answer).1.ledger := by
  unfold beginDirectedPickup
  split
  · exact .refl _
  split
  · exact .refl _
  split
  · exact .refl _
  · split
    · exact .refl _
    · exact .restated (e := { state := fun _ => .pickupCollecting, pickup := fun _ => true })
        (ledger_restateOne _ _ (fun _ _ => rfl) fun _ => rfl)

theorem via_groupPickup {permitted answer : Bool} :
    Via s.ledger (s.groupPickup c permitted answer).1.ledger := by
  unfold groupPickup
  split
  · exact .refl _
  split
  · exact .refl _
  · next a _ =>
    exact .restated (e := .own (if answer then .connected else .ringing)
        (if answer then some a.id else none)) (ledger_restateOne _ _ (fun _ _ => rfl) fun _ => rfl)

/-! ## Parking -/

theorem via_park {enabled : Bool} {lot : Option String} :
    Via s.ledger (s.park c enabled lot).1.ledger := by
  unfold park
  split
  · exact .refl _
  split
  · exact .refl _
  split
  · exact .refl _
  · split
    · exact .refl _
    · exact .restated (e := .to .parking) (ledger_restateOne _ _ (fun _ _ => rfl) fun _ => rfl)

theorem via_settleWaiting {waiting : CallState} {edit : CallAppearance → CallAppearance}
    {a : CallAppearance} (hedit : ∀ v, (edit v).view = { v.view with state := .connected })
    (h : s.settleWaiting c waiting edit = some (s', a)) : Via s.ledger s'.ledger := by
  unfold settleWaiting at h
  split at h
  · cases h
  split at h
  · cases h
  · cases h
    exact .restated (e := .to .connected) (ledger_restateOne _ _ (fun _ _ => rfl) hedit)

theorem via_parkingFailed : Via s.ledger (s.parkingFailed c).1.ledger := by
  unfold parkingFailed
  split
  · exact .refl _
  · next hset => exact via_settleWaiting (fun _ => rfl) hset

theorem via_parkingRetrieved : Via s.ledger (s.parkingRetrieved c).1.ledger := by
  unfold parkingRetrieved
  split
  · exact .refl _
  · next hset => exact via_settleWaiting (fun _ => rfl) hset

theorem via_parkingConfirmed {slot : Nat} : Via s.ledger (s.parkingConfirmed c slot).1.ledger := by
  unfold parkingConfirmed
  split
  · exact .refl _
  · split
    · exact .refl _
    · exact via_hangup c

theorem via_parkingRetrievalFailed : Via s.ledger (s.parkingRetrievalFailed c).1.ledger := by
  unfold parkingRetrievalFailed
  split
  · exact via_hangup c
  · exact .refl _

/-- The views of a call that retrieves a parked one. -/
def retrievalCallView (p : PbxCallId) (a : CallAppearanceId) : CallView :=
  { id := p, state := .retrieving, pickup := false, ids := [], active := some a
    dialing := false }

def retrievalView (a : CallAppearanceId) (c : CallId) (p : PbxCallId) (d : DeviceId) :
    AppearanceView :=
  { id := a, sccpId := c, pbxId := p, deviceId := d, state := .retrieving }

theorem via_beginParkingRetrieval {binding : LineBinding} {codec : Codec} {lot : Option String}
    {slot : Nat} {info : CallInfo} :
    Via s.ledger (s.beginParkingRetrieval c binding codec lot slot info).1.ledger := by
  unfold beginParkingRetrieval
  split
  · exact .refl _
  simp only
  split
  · next s' hins =>
    have hl := ledger_insertPbxCall_false _ hins
    exact .of_eq hl
  next s' hins =>
  obtain ⟨hen, hl⟩ := ledger_insertPbxCall _ hins
  simp only [ledger_setCallSelected, ledger_selectLine]
  exact .step (.create (retrievalCallView s.allocatePbxId.2 _)
    (retrievalView _ c s.allocatePbxId.2 binding.deviceId)) hen (.of_eq hl)

/-! ## Conference operations that hang up -/

theorem via_resumeHeld (completed ps : List PbxCallId) :
    Via s.ledger (resumeHeld completed s ps).1.ledger := by
  induction ps generalizing s with
  | nil => exact .refl _
  | cons p rest ih =>
    simp only [resumeHeld]
    split
    · exact ih
    · exact (via_resume _).trans ih

theorem via_conferenceDestinationFailed {token : ConferenceMutationToken}
    {holds completed : List PbxCallId} :
    Via s.ledger (s.conferenceDestinationFailed token c holds completed).1.ledger := by
  have hdone := via_completeConferenceMutation (s := s) (t := token)
  unfold conferenceDestinationFailed
  split
  · next s' heq =>
    rw [heq] at hdone
    exact hdone
  next s' heq =>
  rw [heq] at hdone
  split
  · exact hdone
  · split
    · exact hdone
    · exact (Via.trans hdone (via_hangup c)).trans (via_resumeHeld _ _)

theorem via_conferenceParticipantFailed :
    Via s.ledger (s.conferenceParticipantFailed c).1.ledger := by
  unfold conferenceParticipantFailed
  split
  · exact via_hangup c
  · exact .refl _

end Controller

end Sccp
