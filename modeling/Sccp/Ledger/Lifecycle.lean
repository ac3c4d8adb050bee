/-
  Sccp.Ledger.Lifecycle

  Hangups, rollbacks, disconnects and registrations as moves on the ledger.
  These operations are built from the others, and so are their proofs.
-/

import Sccp.Ledger.ConferenceControl

namespace Sccp

open Ledger (Via)
open Function (update)

namespace Controller

variable {s : Controller}
variable {c : CallId} {p : PbxCallId}
  {hangup : Hangup}

/-! ## Handset hangup -/

theorem ledger_completeRemoteHangup (c : CallId) :
    (s.completeRemoteHangup c).1.ledger = s.ledger := by
  unfold completeRemoteHangup
  split <;> rfl

theorem completeRemoteHangup_none {s' : Controller} (h : s.completeRemoteHangup c = (s', none)) :
    s' = s := by
  unfold completeRemoteHangup at h
  split at h <;> cases h
  rfl

theorem via_hangupInConference {session : ConferenceSession}
    {outcome : Controller × List DriverEffect} (h : s.hangupInConference c session = some outcome)
    (hsession : ∃ k, s.conferencesByConsultation.get? k = some session) :
    Via s.ledger outcome.1.ledger := by
  unfold hangupInConference at h
  split at h
  · cases h
    exact via_abortConferenceInvite ..
  split at h
  · cases h
    exact via_cancelConference c
  split at h
  · split at h
    · cases h
      exact .refl _
    · cases h
      exact via_activeConferenceDeparture hsession
  · split at h
    · cases h
      exact via_endConferenceInternal ..
    · cases h

theorem via_hangupOrdinary {cleanup : Bool} :
    Via s.ledger (s.hangupOrdinary c cleanup).1.ledger := by
  unfold hangupOrdinary
  split
  · exact .refl _
  next a ha =>
  split
  · exact .refl _
  split
  · exact .refl _
  · split
    · exact .step (.detach a.id) trivial (.of_eq (s.ledger_removeAppearance a.id))
    · exact via_removePbxCall _

/-- A hangup goes to the conference of the call, else to its barge, else to the
    call itself. -/
theorem via_hangupInternal {cleanup : Bool} :
    Via s.ledger (s.hangupInternal c cleanup).1.ledger := by
  unfold hangupInternal
  split
  · next s' _ heq =>
    have h := ledger_completeRemoteHangup (s := s) c
    rw [heq] at h
    exact .of_eq h
  next s' heq =>
  have hs := completeRemoteHangup_none heq
  subst hs
  split
  · next outcome hout =>
    obtain ⟨session, hsession, hout⟩ := Option.bind_eq_some_iff.mp hout
    exact via_hangupInConference hout (conferenceSession_get? hsession)
  · split
    · exact via_endBargeInternal c true true true
    · exact via_hangupOrdinary

theorem via_hangup (c : CallId) : Via s.ledger (s.hangup c).1.ledger := via_hangupInternal

/-! ## PBX hangup -/

theorem via_noteHangup (leg : TransferLeg) : Via s.ledger (s.noteTransferHangup leg).ledger := by
  unfold noteTransferHangup
  split
  · exact .refl _
  next r hr =>
  unfold TransferRegistry.noteHangup at hr
  split at hr
  · cases hr
  split at hr
  · cases hr
  · cases hr
    exact via_putTransfer rfl

theorem via_pbxHangupTransfer {t : TransferTransaction} :
    Via s.ledger (s.pbxHangupTransfer p t).1.ledger := by
  unfold pbxHangupTransfer
  have hnote := via_noteHangup (s := s)
    (if t.source.pbxCallId = p then t.source else t.consultation.getD t.source)
  simp only
  generalize s.noteTransferHangup
    (if t.source.pbxCallId = p then t.source else t.consultation.getD t.source) = s₁ at hnote ⊢
  split
  · exact hnote
  have habort : Via s.ledger (s₁.abortTransfer t.deviceId t.id
      (if t.source.pbxCallId = p then .sourceHangup else .consultationHangup)).1.ledger :=
    hnote.trans via_abortTransfer
  split
  · next s₂ _ heq =>
    rw [heq] at habort
    exact habort
  · next s₂ outcome heq =>
    rw [heq] at habort
    exact habort

theorem via_pbxHangupConference {session : ConferenceSession}
    (hsession : ∃ k, s.conferencesByConsultation.get? k = some session) :
    Via s.ledger (s.pbxHangupConference p session).1.ledger := by
  unfold pbxHangupConference
  refine .step (.dropToken (.session session.id)) trivial
    (Via.trans (.of_eq (s.ledger_dropSessionToken session)) ?_)
  simp only
  split
  · exact via_conferenceParticipantRemoved _ _
  split
  · exact via_abortConferenceInvite ..
  split
  · split
    · exact via_abortConference ..
    · exact via_endConferenceInternal ..
  · exact via_endConferenceInternal ..
  · exact via_activeConferenceDeparture hsession

theorem via_endBargesForTarget (p : PbxCallId) :
    Via s.ledger (s.endBargesForTarget p).1.ledger := via_endBarges _

theorem via_pbxHangupSettled (p : PbxCallId) (effects : List DriverEffect) :
    Via s.ledger (s.pbxHangupSettled p effects).1.ledger := by
  unfold pbxHangupSettled
  split
  · exact via_pbxHangupTransfer
  split
  · next session hsession =>
    exact via_pbxHangupConference (conferenceSessionByPbx_get? hsession)
  split
  · exact via_endBargeInternal ..
  have hgone := via_removePbxCall (s := (s.endBargesForTarget p).1) p
  simp only
  refine (via_endBargesForTarget p).trans ?_
  split
  · exact .refl _
  split
  · next s' heq =>
    rw [heq] at hgone
    exact hgone
  · next s' _ heq =>
    rw [heq] at hgone
    exact hgone

/-! ## Rollback of transitions -/

theorem ledger_erasePending (i : CallTransitionId) :
    ({ s with pendingCallTransitions := s.pendingCallTransitions.erase i } : Controller).ledger
      = s.ledger.unpend (· = i) := by
  apply Ledger.ext <;> try rfl
  funext x
  by_cases hx : x = i <;> simp [ledger, Ledger.unpend, Ledger.replace, Table.get?_erase, hx]

theorem transitionIsCurrent_enabled {pending : PendingCallTransition}
    (h : s.transitionIsCurrent pending.transition = true) :
    (Move.restore pending.view).Enabled s.ledger := by
  simp only [transitionIsCurrent, Bool.and_eq_true, decide_eq_true_eq] at h
  obtain ⟨⟨hdevice, htarget⟩, hprevious⟩ := h
  refine ⟨?_, ?_, ?_⟩
  · obtain ⟨a, ha, hp⟩ := (Option.any_eq_true _ _).mp htarget
    exact ⟨a.view, s.ledger_appOf ha, of_decide_eq_true hp⟩
  · intro c hc
    obtain ⟨a, ha, hp⟩ := (Option.any_eq_true _ _).mp ((Option.all_eq_true _ _).mp hprevious c hc)
    exact ⟨a.view, s.ledger_appOf ha, (of_decide_eq_true hp).symm⟩
  · obtain ⟨device, hd, hx⟩ := Option.bind_eq_some_iff.mp hdevice
    exact Option.map_eq_some_iff.mpr ⟨device, hd, hx⟩

theorem via_abortTarget {transition : CallTransition} {progress : CallTransitionProgress}
    (h : Via s.ledger (hangup s transition.targetPbxId).1.ledger) :
    Via s.ledger (s.abortTarget hangup transition progress).1.ledger := by
  unfold abortTarget
  simp only
  split
  · exact .refl _
  · split
    · exact h
    · exact .refl _
  · split
    · exact .refl _
    · exact .refl _

theorem via_abortCallTransitionWith (i : CallTransitionId) (progress : CallTransitionProgress)
    (hhangup : ∀ (s' : Controller) p, Via s'.ledger (hangup s' p).1.ledger) :
    Via s.ledger (s.abortCallTransitionWith hangup i progress).1.ledger := by
  unfold abortCallTransitionWith
  split
  · exact .refl _
  next pending hp =>
  simp only
  have hvia : Via s.ledger ({ s with
      pendingCallTransitions := s.pendingCallTransitions.erase i } : Controller).ledger :=
    .step (.unpend (· = i)) trivial (.of_eq (s.ledger_erasePending i))
  generalize ({ s with
    pendingCallTransitions := s.pendingCallTransitions.erase i } : Controller) = s₁ at hvia ⊢
  rcases s₁.ledger_restoreCallDomain pending with h | ⟨hcur, hdone, hrestored⟩
  · rw [h]
    exact hvia
  have hback : Via s.ledger (s₁.restoreCallDomain pending.snapshot pending.transition).1.ledger :=
    .trans hvia (.step (.restore pending.view) (transitionIsCurrent_enabled hcur)
      (.of_eq hrestored))
  split
  · next s₂ heq =>
    rw [heq] at hback
    exact hback
  · next s₂ heq =>
    rw [heq] at hback
    exact hback.trans (via_abortTarget (hhangup s₂ _))

theorem via_abortTransitions (hhangup : ∀ (s' : Controller) p, Via s'.ledger (hangup s' p).1.ledger)
    (ids : List (CallTransitionId × CallTransitionProgress)) :
    Via s.ledger (s.abortTransitions hangup p ids).1.ledger := by
  induction ids generalizing s with
  | nil => exact .refl _
  | cons entry rest ih =>
    exact (via_abortCallTransitionWith entry.1 entry.2 hhangup).trans ih

/-- The recursion of hangups and aborts: by induction on the nesting allowed. -/
theorem via_pbxHangupFuel (n : Nat) (s : Controller) (p : PbxCallId) :
    Via s.ledger (pbxHangupFuel n s p).1.ledger := by
  induction n generalizing s p with
  | zero => exact via_pbxHangupSettled p []
  | succ n ih =>
    have habort := via_abortTransitions (s := s) (p := p) (fun s' q => ih s' q) (s.transitionsOf p)
    simp only [pbxHangupFuel]
    split
    · exact habort
    · exact habort.trans (via_pbxHangupSettled p _)

theorem via_pbxHangupWithEffects (p : PbxCallId) :
    Via s.ledger (s.pbxHangupWithEffects p).1.ledger :=
  via_pbxHangupFuel _ s p

theorem via_pbxHangup (p : PbxCallId) : Via s.ledger (s.pbxHangup p).1.ledger :=
  via_pbxHangupFuel _ s p

theorem via_abortCallTransition (i : CallTransitionId) (progress : CallTransitionProgress) :
    Via s.ledger (s.abortCallTransition i progress).1.ledger :=
  via_abortCallTransitionWith i progress fun s' q => via_pbxHangupFuel _ s' q

theorem via_beginRemoteHangup {tone : Option Tone} {delay : Duration} {now : Instant} :
    Via s.ledger (s.beginRemoteHangup p tone delay now).1.ledger := by
  unfold beginRemoteHangup
  split
  · split
    · exact via_pbxHangupWithEffects p
    · have hnext : ({ s with nextRemoteHangupGeneration := s.nextRemoteHangupGeneration + 1 } :
          Controller).ledger = s.ledger := rfl
      have hlater := via_pbxHangupWithEffects
        (s := { s with nextRemoteHangupGeneration := s.nextRemoteHangupGeneration + 1 }) p
      simp only
      split
      · next s' heq =>
        rw [heq] at hlater
        exact hlater
      · next s' outcome heq =>
        rw [heq] at hlater
        exact hlater
  · exact via_pbxHangupWithEffects p

/-! ## Disconnect and registration -/

theorem via_terminateAll (cs : List CallId) : Via s.ledger (s.terminateAll cs).1.ledger := by
  induction cs generalizing s with
  | nil => exact .refl _
  | cons c rest ih => exact (via_hangup c).trans ih

theorem via_departCalls (ps : List PbxCallId) : Via s.ledger (s.departCalls ps).1.ledger := by
  induction ps generalizing s with
  | nil => exact .refl _
  | cons p rest ih =>
    simp only [departCalls]
    split
    · exact ih
    · next session hsession =>
      exact (via_activeConferenceDeparture (conferenceSessionByPbx_get? hsession)).trans ih

theorem via_leaveConferences (d : DeviceId) (sessions : List ConferenceSession) :
    Via s.ledger (leaveConferences d s sessions).1.ledger := by
  induction sessions generalizing s with
  | nil => exact .refl _
  | cons session rest ih =>
    simp only [leaveConferences]
    split
    · exact (via_departCalls _).trans ih
    · exact (via_endConferenceInternal ..).trans ih

theorem via_removeDeviceAppearances (ids : List CallAppearanceId) :
    Via s.ledger (s.removeDeviceAppearances ids).1.ledger := by
  induction ids generalizing s with
  | nil => exact .refl _
  | cons a rest ih =>
    have hone : Via s.ledger (s.removeAppearance a).1.ledger :=
      .step (.detach a) trivial (.of_eq (s.ledger_removeAppearance a))
    simp only [removeDeviceAppearances]
    split
    · next s' heq =>
      rw [heq] at hone
      exact hone.trans ih
    · next s' appearance heq =>
      rw [heq] at hone
      exact hone.trans ih

theorem via_endEmptyCalls (ps : List PbxCallId) : Via s.ledger (s.endEmptyCalls ps).1.ledger := by
  induction ps generalizing s with
  | nil => exact .refl _
  | cons p rest ih =>
    exact ((via_endBargesForTarget p).trans (via_removePbxCall p)).trans ih

theorem ledger_dropDeviceSchedules (d : DeviceId) :
    ∃ P, (s.dropDeviceSchedules d).ledger = s.ledger.unpend P := by
  refine ⟨fun i => ∃ v, s.ledger.pending i = some v ∧ v.deviceId = d, ?_⟩
  apply Ledger.ext <;> try rfl
  funext i
  cases h : s.pendingCallTransitions.get? i with
  | none => simp [ledger, dropDeviceSchedules, Ledger.unpend, Ledger.replace, Table.get?_filter, h]
  | some pending =>
    by_cases hd : pending.transition.deviceId = d <;>
      simp [ledger, dropDeviceSchedules, Ledger.unpend, Ledger.replace, Table.get?_filter, h, hd,
        Option.filter, PendingCallTransition.view]

theorem ledger_eraseDevice (d : DeviceId) :
    ({ s with devices := s.devices.erase d } : Controller).ledger = s.ledger.unregister d := by
  apply Ledger.ext <;> try rfl
  funext x
  by_cases hx : x = d <;> simp [ledger, Ledger.unregister, Table.get?_erase, hx]

theorem via_abortDeviceTransfer {d : DeviceId} :
    Via s.ledger (s.abortDeviceTransfer d).1.ledger := by
  unfold abortDeviceTransfer
  split
  · exact .refl _
  next t ht =>
  have habort : Via s.ledger (s.abortTransfer d t.id .deviceDisconnect).1.ledger :=
    via_abortTransfer
  split
  · next s' _ heq =>
    rw [heq] at habort
    exact habort
  · next s' outcome heq =>
    rw [heq] at habort
    exact habort

theorem via_forgetDevice (d : DeviceId) : Via s.ledger (s.forgetDevice d).1.ledger := by
  have hgone : Via s.ledger ({ s with devices := s.devices.erase d } : Controller).ledger :=
    .step (.unregister d) trivial (.of_eq (s.ledger_eraseDevice d))
  unfold forgetDevice
  exact (hgone.trans (via_removeDeviceAppearances _)).trans (via_endEmptyCalls _)

theorem via_disconnected (d : DeviceId) : Via s.ledger (s.disconnected d).1.ledger := by
  obtain ⟨P, hP⟩ := ledger_dropDeviceSchedules (s := s) d
  have h₀ : Via s.ledger (s.dropDeviceSchedules d).ledger :=
    .step (.unpend P) trivial (.of_eq hP)
  unfold disconnected
  exact ((((h₀.trans via_abortDeviceTransfer).trans (via_leaveConferences d _)).trans
    (via_endBarges _)).trans (via_terminateAll _)).trans (via_forgetDevice d)

theorem ledger_registerDevice (d : DeviceId) (generation : SessionGeneration) :
    ({ s with devices := s.devices.insert d { sessionGeneration := generation } } :
      Controller).ledger = s.ledger.register d := by
  apply Ledger.ext <;> try rfl
  funext x
  by_cases hx : x = d <;> simp [ledger, Ledger.register, Table.get?_insert, hx]

theorem via_registerSession {g : SessionGeneration} {d : DeviceId} :
    Via s.ledger (s.registerSession g d).1.ledger := by
  unfold registerSession
  split
  · exact .refl _
  simp only
  split
  · exact (via_disconnected d).trans
      (.step (.register d) trivial (.of_eq (ledger_registerDevice d g)))
  · exact .step (.register d) trivial (.of_eq (ledger_registerDevice d g))

end Controller

end Sccp
