/-
  Sccp.Ledger.Transfers

  Switching between calls, transfers and diverts as moves on the ledger.
-/

import Sccp.Ledger.Sharing

namespace Sccp

open Ledger (Via)

namespace Controller

variable {s : Controller}
variable {d : DeviceId} {i : VoicemailTransactionId} {target : VoicemailTarget} {c : CallId}
  {t : VoicemailTransaction} {r r' : VoicemailRegistry}

/-! ## Switching and additional calls -/

theorem via_activateTarget {target : CallAppearance} :
    Via s.ledger (s.activateTarget d target c).1.ledger := by
  unfold activateTarget
  split
  · exact via_phoneAnswer c
  · exact via_resume c
  · exact via_resume c
  · simp only [ledger_selectLine]
    exact via_setActiveCall
  · exact .refl _

theorem via_switchActiveCall : Via s.ledger (s.switchActiveCall d c).1.ledger := by
  unfold switchActiveCall
  split
  · exact .refl _
  split
  · exact .refl _
  split
  · exact .refl _
  next state _ =>
  split
  · exact .refl _
  split
  · exact .refl _
  have hvia := (setAside_setAside (s := s) (state.activeCall.filter
    fun previous => (s.callState previous).any isEngaged)).via
  simp only
  split
  · exact hvia
  · split
    · exact hvia.trans via_activateTarget
    · exact hvia.trans via_activateTarget

/-- An additional call: the device's call is set aside, then a new call is
    created. -/
theorem via_beginAdditionalPhoneCall (c : CallId)
    (binding : LineBinding) (codec : Codec) (now : Instant) :
    Via s.ledger (s.beginAdditionalPhoneCall c binding codec now).1.ledger := by
  unfold beginAdditionalPhoneCall
  split
  · exact .refl _
  simp only
  split
  · exact .refl _
  have hvia := (setAside_setAside (s := s) ((s.activeCallOf binding.deviceId).filter
    fun callId => (s.callState callId).any isEngaged)).via
  have hnew := hvia.trans (via_beginPhoneCall c binding codec now)
  split
  · exact hnew
  · exact hnew

/-! ## Transfers -/

/-- A transfer is stored. -/
theorem via_putTransfer {s' : Controller} {t : TransferTransaction} (hl : s'.ledger = s.ledger) :
    Via s.ledger ({ s' with transfers := s'.transfers.put t } : Controller).ledger := by
  rw [ledger_putTransfer, hl]
  exact .single (.setTransfer t.deviceId (some t)) fun u hu => by cases hu; rfl

theorem via_transferSetupCompleted {i : TransferId} {milestone : TransferSetupMilestone} :
    Via s.ledger (s.transferSetupCompleted d i milestone).1.ledger := by
  unfold transferSetupCompleted
  split
  · exact .refl _
  · next r hr =>
    obtain ⟨_, _, _, _, rfl, _⟩ := TransferRegistry.editExact_ok hr
    exact via_putTransfer rfl

theorem via_deferTransferAction {i : TransferId} {action : DeferredTransferAction} :
    Via s.ledger (s.deferTransferAction d i action).1.ledger := by
  unfold deferTransferAction
  split
  · exact .refl _
  · next r hr =>
    obtain ⟨_, _, _, _, rfl, _⟩ := TransferRegistry.editExact_ok hr
    exact via_putTransfer rfl

theorem via_completeTransfer {trigger : TransferTrigger} :
    Via s.ledger (s.completeTransfer d c trigger).1.ledger := by
  unfold completeTransfer
  split
  · exact .refl _
  split
  · exact .refl _
  · next r completion hr =>
    obtain ⟨_, _, _, _, rfl⟩ := TransferRegistry.edit_ok hr
    exact via_putTransfer rfl

theorem via_completeDeviceTransfer {reported : Option CallId} {trigger : TransferTrigger} :
    Via s.ledger (s.completeDeviceTransfer d reported trigger).1.ledger := by
  unfold completeDeviceTransfer
  split
  · exact .refl _
  split
  · exact .refl _
  · split
    · exact .refl _
    · exact via_completeTransfer

theorem via_directTransfer : Via s.ledger (s.directTransfer d).1.ledger := by
  unfold directTransfer
  split
  · exact .refl _
  split
  · exact .refl _
  split
  · split
    · split
      · exact .refl _
      · simp only
        split
        · exact .refl _
        next t ht =>
        split
        · exact .refl _
        next r hr =>
        obtain ⟨rfl, _⟩ := TransferRegistry.insert_ok hr
        refine Via.trans ?_ via_completeTransfer
        exact @via_putTransfer s { s with transfers := s.transfers.allocateId.1 } _ rfl
    · exact .refl _
  · exact .refl _

theorem via_removePbxCall (p : PbxCallId) : Via s.ledger (s.removePbxCall p).1.ledger :=
  .step (.endCall p) trivial (.of_eq (s.ledger_removePbxCall p))

/-- The transaction of a device is dropped. -/
theorem via_dropTransfer (d : DeviceId) :
    Via s.ledger ({ s with transfers := s.transfers.drop d } : Controller).ledger := by
  refine .step (.setTransfer d none) ?_ (.of_eq (s.ledger_dropTransfer d))
  intro u hu
  cases hu

theorem via_transferSucceeded {i : TransferId} :
    Via s.ledger (s.transferSucceeded d i).1.ledger := by
  unfold transferSucceeded
  split
  · exact .refl _
  next r t hc =>
  obtain ⟨rfl, _⟩ := TransferRegistry.commit_some hc
  have hdrop := via_dropTransfer (s := s) d
  simp only
  split
  · exact hdrop
  · split
    · exact hdrop
    · exact hdrop.trans ((via_removePbxCall _).trans (via_removePbxCall _))

theorem via_removeTerminatedLeg (terminated : Bool) (leg : TransferLeg) :
    Via s.ledger (s.removeTerminatedLeg terminated leg).1.ledger := by
  unfold removeTerminatedLeg
  split
  · exact via_removePbxCall _
  · exact .refl _

theorem via_removeConsultation (t : TransferTransaction) :
    Via s.ledger (s.removeConsultation t).1.ledger := by
  unfold removeConsultation
  split
  · exact .refl _
  · exact via_removePbxCall _

theorem via_abortTransfer {i : TransferId} {reason : TransferCancellationReason} :
    Via s.ledger (s.abortTransfer d i reason).1.ledger := by
  unfold abortTransfer
  split
  · exact .refl _
  next r cancellation hc =>
  obtain ⟨rfl, _⟩ := TransferRegistry.cancel_ok hc
  have hdrop := via_dropTransfer (s := s) d
  simp only
  generalize cancellation.transaction = t
  split
  · refine hdrop.trans ((via_removeTerminatedLeg t.sourceTerminated t.source).trans ?_)
    split
    · exact .refl _
    · exact via_removeTerminatedLeg _ _
  refine hdrop.trans ((via_removeConsultation t).trans ?_)
  split
  · exact (via_resume _).trans (via_removeTerminatedLeg _ _)
  · exact via_removeTerminatedLeg _ _

theorem via_modifyCall (p : PbxCallId) {f : PbxCall → PbxCall} {e : CallEdit}
    (hf : ∀ call, (f call).view = e.apply call.view) : Via s.ledger (s.modifyCall p f).ledger :=
  .restated (ledger_modifyCall _ fun call _ => hf call)

/-- The appearance of a handset call, if there is one, changes its state. -/
theorem via_modifyAppearanceOf (c : CallId) {f : CallAppearance → CallAppearance}
    {state : CallState} (hf : ∀ v, (f v).view = { v.view with state }) :
    Via s.ledger (s.modifyAppearanceOf c f).ledger := by
  unfold modifyAppearanceOf
  split
  · exact .refl _
  · exact .restated (ledger_modifyAppearance _ ⟨0⟩ hf)

/-- Recording a consultation stores the transaction if the source is on hold;
    otherwise the consultation goes and the source is resumed. -/
theorem via_recordConsultation {request : TransferConsultationRequest}
    {i : TransferId} {source consultation : CallAppearance} {effects : List DriverEffect} :
    Via s.ledger (s.recordConsultation request i source consultation effects).1.ledger := by
  unfold recordConsultation
  refine (via_modifyAppearanceOf request.consultationCallId
    (f := fun v => { v with state := .transferCollecting }) fun _ => rfl).trans
    ((via_modifyCall consultation.pbxId
      (f := fun call => { call with state := .transferCollecting })
      (e := .to .transferCollecting) fun _ => rfl).trans ?_)
  simp only
  split
  · exact .refl _
  next t ht =>
  split
  · exact (via_removePbxCall _).trans (via_resume _)
  next r hr =>
  obtain ⟨rfl, _⟩ := TransferRegistry.insert_ok hr
  have hput := via_putTransfer (s := (s.modifyAppearanceOf request.consultationCallId
    fun v => { v with state := .transferCollecting }).modifyCall consultation.pbxId
      fun call => { call with state := .transferCollecting }) (t := t) rfl
  split
  · refine hput.trans (Via.trans ?_ ((via_removePbxCall _).trans (via_resume _)))
    split
    · exact .refl _
    · next hc =>
      obtain ⟨rfl, _⟩ := TransferRegistry.cancel_ok hc
      exact via_dropTransfer _
  · simp only [ledger_setCallSelected]
    exact hput

theorem via_beginTransfer {request : TransferConsultationRequest} :
    Via s.ledger (s.beginTransfer request).1.ledger := by
  unfold beginTransfer
  split
  · exact .refl _
  split
  · exact .refl _
  split
  · exact .refl _
  split
  · exact .refl _
  · have hvia := via_beginAdditionalPhoneCall
      (s := { s with transfers := s.transfers.allocateId.1 })
      request.consultationCallId request.binding request.codec request.now
    simp only
    split
    · next heq =>
      rw [heq] at hvia
      exact hvia
    next heq =>
    rw [heq] at hvia
    refine Via.trans hvia ?_
    simp only
    split
    · exact .refl _
    · exact via_recordConsultation

/-! ## Diverts to voicemail -/

theorem claim_ok {p : PbxCallId} {action : VoicemailAction}
    (h : r.claim d c p action target = .ok (r', t)) :
    t.deviceId = d ∧ ∀ d', r'.byDevice.get? d' = if d' = d then some t else r.byDevice.get? d' := by
  unfold VoicemailRegistry.claim at h
  split at h
  · cases h
  split at h
  · cases h
  · cases h
    exact ⟨rfl, fun d' => Table.get?_insert ..⟩

theorem beginExecution_ok {operation : VoicemailOperation}
    (h : r.beginExecution d i = .ok (r', operation)) : r' = r.setPhase d .executing := by
  unfold VoicemailRegistry.beginExecution at h
  split at h
  · cases h
  split at h
  · cases h
  · cases h
    rfl

theorem via_beginVoicemailClaim {a : CallAppearance} {action : VoicemailAction} :
    Via s.ledger (s.beginVoicemailClaim a action target).1.ledger := by
  unfold beginVoicemailClaim
  split
  · exact .refl _
  split
  · exact .refl _
  next r t hr =>
  obtain ⟨hd, hget⟩ := claim_ok hr
  split
  · exact .refl _
  next r' operation hr' =>
  have hr'' := beginExecution_ok hr'
  subst hr''
  refine .step (.setRedirect a.pbxId True) trivial
    (.step (.setDivert a.deviceId (some { t with phase := .executing }))
      (fun u hu => by cases hu; exact hd) (.of_eq ?_))
  apply Ledger.ext <;> try rfl
  · funext x
    by_cases hx : x = a.deviceId <;>
      simp [ledger, Move.apply, Ledger.setDivert, Ledger.setRedirect,
        VoicemailRegistry.setPhase, Table.get?_modify, hget, hx]
  · funext q
    by_cases hq : q = a.pbxId <;>
      simp [ledger, Move.apply, Ledger.setDivert, Ledger.setRedirect, hq]

theorem via_beginImmediateDivert : Via s.ledger (s.beginImmediateDivert d c target).1.ledger := by
  unfold beginImmediateDivert
  split
  · exact .refl _
  split
  · exact .refl _
  · split
    · exact .refl _
    · exact via_beginVoicemailClaim

theorem via_beginSelectedVoicemailTransfer :
    Via s.ledger (s.beginSelectedVoicemailTransfer d target).1.ledger := by
  unfold beginSelectedVoicemailTransfer
  split
  · split
    · exact .refl _
    · split
      · exact .refl _
      · split
        · exact via_beginVoicemailClaim
        · exact .refl _
  · exact .refl _

theorem cancelDivert_ok (h : r.cancel d i = .ok (r', t)) : r' = r.drop d := by
  unfold VoicemailRegistry.cancel at h
  split at h
  · cases h
  split at h
  · cases h
  · cases h
    rfl

theorem commitDivert_ok (h : r.commit d i = .ok (r', t)) : r' = r.drop d := by
  unfold VoicemailRegistry.commit at h
  split at h
  · cases h
  split at h
  · cases h
  · cases h
    rfl

/-- A divert ends together with its redirect claim. -/
theorem via_dropDivert :
    Via s.ledger
      ({ s with
        voicemail := s.voicemail.drop d
        redirectClaims := without s.redirectClaims t.pbxCallId } : Controller).ledger := by
  refine .step (.setDivert d none) ?_
    (.step (.setRedirect t.pbxCallId False) trivial (.of_eq (s.ledger_dropDivert d _)))
  intro u hu
  cases hu

theorem via_abortVoicemail : Via s.ledger (s.abortVoicemail d i).1.ledger := by
  unfold abortVoicemail
  split
  · exact .refl _
  next r t hr =>
  have hr' := cancelDivert_ok hr
  subst hr'
  exact via_dropDivert

theorem via_voicemailSucceeded : Via s.ledger (s.voicemailSucceeded d i).1.ledger := by
  unfold voicemailSucceeded
  split
  · exact .refl _
  simp only
  split
  · exact .refl _
  split
  · exact .refl _
  · next r t hr =>
    have hr' := commitDivert_ok hr
    subst hr'
    exact (via_dropDivert (t := t)).trans (via_removePbxCall _)

theorem via_completeVoicemailNative {p : PbxCallId} :
    Via s.ledger (s.completeVoicemailNative d i p).1.ledger := by
  unfold completeVoicemailNative
  split
  · exact via_voicemailSucceeded
  · split <;> exact .refl _

end Controller

end Sccp
