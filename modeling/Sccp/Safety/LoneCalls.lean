/-
  Sccp.Safety.LoneCalls

  A call that no transfer, conference or barge knows.  The hangup of a call ends
  transactions and takes calls out of conferences and barges; it enters no call into
  any of them, so a lone call stays alone whatever is hung up around it.
-/

import Sccp.Ledger.Coherence

namespace Sccp

open Function (update)

/-- No transfer has the call as a leg, no conference seats it, and it barges into nothing. -/
structure Ledger.Lone (l : Ledger) (p : PbxCallId) : Prop where
  untransferred : ∀ d t, l.transfer d = some t →
    t.source.pbxCallId ≠ p ∧ ∀ leg, t.consultation = some leg → leg.pbxCallId ≠ p
  unindexed : l.sessionOf p = none
  unseated : ∀ k v, l.session k = some v → ∀ x ∈ v.participants, x.pbxCallId ≠ p
  unbarging : l.bargeOf p = none
  barging : ∀ c b, l.barge c = some b → b.bargerCallId ≠ p

namespace Ledger.Lone

variable {l l' : Ledger} {p : PbxCallId}

theorem of_books (h : l.Lone p) (htransfer : l'.transfer = l.transfer)
    (hindex : l'.sessionOf = l.sessionOf) (hsession : l'.session = l.session)
    (hbargeOf : l'.bargeOf = l.bargeOf) (hbarge : l'.barge = l.barge) : l'.Lone p where
  untransferred := htransfer ▸ h.untransferred
  unindexed := hindex ▸ h.unindexed
  unseated := hsession ▸ h.unseated
  unbarging := hbargeOf ▸ h.unbarging
  barging := hbarge ▸ h.barging

theorem endCall (h : l.Lone p) (q : PbxCallId) : (l.endCall q).Lone p := by
  obtain ⟨_, _, _, _, _, _, heq⟩ := l.endCall_eq q
  rw [heq]
  exact h.of_books rfl rfl rfl rfl rfl

theorem detach (h : l.Lone p) (a : CallAppearanceId) : (l.detach a).Lone p := by
  obtain ⟨_, _, _, _, _, _, heq⟩ := l.detach_eq a
  rw [heq]
  exact h.of_books rfl rfl rfl rfl rfl

theorem setTransfer (h : l.Lone p) (d : DeviceId) {t : Option TransferTransaction}
    (ht : ∀ u, t = some u →
      u.source.pbxCallId ≠ p ∧ ∀ leg, u.consultation = some leg → leg.pbxCallId ≠ p) :
    (l.setTransfer d t).Lone p where
  untransferred d' u hu := by
    by_cases hd : d' = d
    · subst hd
      exact ht u (by simpa [Ledger.setTransfer] using hu)
    · exact h.untransferred d' u (by simpa [Ledger.setTransfer, hd] using hu)
  unindexed := h.unindexed
  unseated := h.unseated
  unbarging := h.unbarging
  barging := h.barging

theorem bargeOut (h : l.Lone p) (b : BargeSession) (c : CallId) : (l.bargeOut b c).Lone p where
  untransferred := h.untransferred
  unindexed := h.unindexed
  unseated := h.unseated
  unbarging := by
    show update l.bargeOf b.bargerCallId none p = none
    by_cases hb : p = b.bargerCallId
    · rw [hb, Function.update_self]
    · rw [Function.update_of_ne hb]
      exact h.unbarging
  barging := by
    intro c' b' hb'
    change update l.barge c none c' = some b' at hb'
    by_cases hc : c' = c
    · rw [hc, Function.update_self] at hb'
      cases hb'
    · rw [Function.update_of_ne hc] at hb'
      exact h.barging c' b' hb'

end Ledger.Lone

namespace Controller

variable {s : Controller} {p : PbxCallId} {session : ConferenceSession}

theorem lone_removePbxCall (h : s.ledger.Lone p) (q : PbxCallId) :
    (s.removePbxCall q).1.ledger.Lone p := by
  rw [ledger_removePbxCall]
  exact h.endCall q

theorem lone_removeCalls (h : s.ledger.Lone p) (ps : List ConferenceParticipant) :
    (s.removeCalls ps).ledger.Lone p := by
  induction ps generalizing s with
  | nil => exact h
  | cons q rest ih => exact ih (lone_removePbxCall h _)

/-! ## Transfers -/

theorem lone_noteTransferHangup (h : s.ledger.Lone p) (leg : TransferLeg) :
    (s.noteTransferHangup leg).ledger.Lone p := by
  unfold noteTransferHangup
  split
  · exact h
  next r hr =>
  unfold TransferRegistry.noteHangup at hr
  split at hr
  · cases hr
  next d t ht =>
  split at hr
  · cases hr
  next t' ht' =>
  cases hr
  rw [ledger_putTransfer]
  -- the legs stay what they are
  have hold := h.untransferred d t (Table.find?_some ht).1
  refine h.setTransfer _ fun u hu => ?_
  cases hu
  unfold TransferTransaction.noteHangup at ht'
  split at ht'
  · cases ht'
    exact hold
  · split at ht'
    · cases ht'
      exact hold
    · cases ht'

theorem lone_focusDevice (h : s.ledger.Lone p) (a : CallAppearance) (c : CallId) :
    (s.focusDevice a c).ledger.Lone p := by
  unfold focusDevice
  simp only [ledger_setCallSelected]
  refine Ledger.Lone.of_books (l := s.ledger) h ?_ ?_ ?_ ?_ ?_
  all_goals
    unfold setActiveCall
    split <;> rfl

theorem lone_restate (h : s.ledger.Lone p) {s' : Controller} {q : PbxCallId} {e : CallEdit}
    {g : Shows} (heq : s'.ledger = s.ledger.restate q e g) : s'.ledger.Lone p := by
  rw [heq]
  exact h.of_books rfl rfl rfl rfl rfl

theorem lone_resume (h : s.ledger.Lone p) (c : CallId) : (s.resume c).1.ledger.Lone p := by
  unfold resume
  split
  · exact h
  next requester _ =>
  split
  · exact h
  next call _ =>
  split
  · exact h
  simp only
  have hconnect := lone_restate h (ledger_connectCall (s := s) requester.pbxId requester.id
    (requester.privacy || s.devicePrivacy requester.deviceId))
  refine lone_focusDevice (lone_restate ?_ (ledger_loopAmong requester.pbxId requester.id .connected
    .remoteInUse (view_resumeEdit _ _))) _ c
  split
  · exact hconnect.of_books rfl rfl rfl rfl rfl
  · exact hconnect

theorem lone_removeTerminatedLeg (h : s.ledger.Lone p) (terminated : Bool) (leg : TransferLeg) :
    (s.removeTerminatedLeg terminated leg).1.ledger.Lone p := by
  unfold removeTerminatedLeg
  split
  · exact lone_removePbxCall h _
  · exact h

theorem lone_abortTransfer (h : s.ledger.Lone p) (d : DeviceId) (i : TransferId)
    (reason : TransferCancellationReason) : (s.abortTransfer d i reason).1.ledger.Lone p := by
  unfold abortTransfer
  split
  · exact h
  next r cancellation hc =>
  obtain ⟨rfl, _⟩ := TransferRegistry.cancel_ok hc
  have hdrop : ({ s with transfers := s.transfers.drop d } : Controller).ledger.Lone p := by
    rw [ledger_dropTransfer]
    exact h.setTransfer d fun _ hu => by cases hu
  simp only
  generalize cancellation.transaction = t
  split
  · have hsource := lone_removeTerminatedLeg hdrop t.sourceTerminated t.source
    split
    · exact hsource
    · exact lone_removeTerminatedLeg hsource _ _
  have hgone : (({ s with transfers := s.transfers.drop d } : Controller).removeConsultation
      t).1.ledger.Lone p := by
    unfold removeConsultation
    split
    · exact hdrop
    · exact lone_removePbxCall hdrop _
  split
  · exact lone_removeTerminatedLeg (lone_resume hgone _) _ _
  · exact lone_removeTerminatedLeg hgone _ _

theorem lone_pbxHangupTransfer (h : s.ledger.Lone p) (q : PbxCallId) (t : TransferTransaction) :
    (s.pbxHangupTransfer q t).1.ledger.Lone p := by
  unfold pbxHangupTransfer
  simp only
  have hnote := lone_noteTransferHangup h
    (if t.source.pbxCallId = q then t.source else t.consultation.getD t.source)
  split
  · exact hnote
  have habort := lone_abortTransfer hnote t.deviceId t.id
    (if t.source.pbxCallId = q then .sourceHangup else .consultationHangup)
  split
  · next s₂ _ heq =>
    rw [heq] at habort
    exact habort
  · next s₂ outcome heq =>
    rw [heq] at habort
    exact habort

/-! ## Conferences -/

/-- Nobody among the participants of a stored session is the call. -/
theorem lone_stored (h : s.ledger.Lone p) {key : CallId}
    (hstored : s.conferencesByConsultation.get? key = some session) :
    ∀ x ∈ session.participants.participants, x.pbxCallId ≠ p := by
  intro x hx
  have hkey : s.ledger.session key = some session.view := by simp [ledger, hstored]
  exact h.unseated key _ hkey x.view (List.mem_map_of_mem hx)

theorem lone_dropSession (h : s.ledger.Lone p) (key : CallId) :
    (s.dropSession key).ledger.Lone p := by
  rw [ledger_dropSession]
  refine ⟨h.untransferred, h.unindexed, fun k v hv => ?_, h.unbarging, h.barging⟩
  change update s.ledger.session key none k = some v at hv
  by_cases hk : k = key
  · rw [hk, Function.update_self] at hv
    cases hv
  · rw [Function.update_of_ne hk] at hv
    exact h.unseated k v hv

theorem lone_unindexCalls (h : s.ledger.Lone p) (ps : List ConferenceParticipant) :
    (s.unindexCalls ps).ledger.Lone p := by
  rw [ledger_unindexCalls]
  refine ⟨h.untransferred, ?_, h.unseated, h.unbarging, h.barging⟩
  show (if p ∈ callsOf ps then none else s.ledger.sessionOf p) = none
  rw [h.unindexed, ite_self]

theorem lone_indexCalls (h : s.ledger.Lone p) (key : CallId) {ps : List ConferenceParticipant}
    (hps : ∀ x ∈ ps, x.pbxCallId ≠ p) : (s.indexCalls key ps).ledger.Lone p := by
  rw [ledger_indexCalls]
  refine ⟨h.untransferred, ?_, h.unseated, h.unbarging, h.barging⟩
  show (if p ∈ callsOf ps then some key else s.ledger.sessionOf p) = none
  rw [if_neg, h.unindexed]
  intro hmem
  obtain ⟨x, hx, hxp⟩ := List.mem_map.mp hmem
  exact hps x hx hxp

theorem lone_putSession (h : s.ledger.Lone p) (key : CallId)
    (hsession : ∀ x ∈ session.participants.participants, x.pbxCallId ≠ p) :
    (s.putSession key session).ledger.Lone p := by
  rw [ledger_putSession]
  refine ⟨h.untransferred, h.unindexed, fun k v hv => ?_, h.unbarging, h.barging⟩
  change update s.ledger.session key (some session.view) k = some v at hv
  by_cases hk : k = key
  · rw [hk, Function.update_self] at hv
    cases hv
    intro x hx
    obtain ⟨y, hy, rfl⟩ := List.mem_map.mp hx
    exact hsession y hy
  · rw [Function.update_of_ne hk] at hv
    exact h.unseated k v hv

theorem lone_dropSessionToken (h : s.ledger.Lone p) (session : ConferenceSession) :
    (s.dropSessionToken session).ledger.Lone p := by
  rw [ledger_dropSessionToken]
  exact h.of_books rfl rfl rfl rfl rfl

theorem lone_reconnectOriginal (h : s.ledger.Lone p) (q : PbxCallId)
    (original : Option CallAppearance) (media : Bool) :
    (s.reconnectOriginal q original media).ledger.Lone p := by
  cases original with
  | none => exact lone_restate h (s.ledger_modifyCall (e := .to .connected) fun _ _ => rfl)
  | some a =>
    exact lone_restate h (ledger_restateOne q a.id (e := .to .connected) (fun _ _ => rfl)
      fun _ => rfl)

theorem lone_reconnectModerator (h : s.ledger.Lone p) (moderator : Option ConferenceParticipant)
    (media : Bool) : (s.reconnectModerator moderator media).ledger.Lone p := by
  cases moderator with
  | none => exact h
  | some m =>
    have hcall := lone_restate h (s.ledger_modifyCall (p := m.pbxCallId)
      (f := fun call => { call with state := .connected }) (e := .to .connected) fun _ _ => rfl)
    unfold reconnectModerator modifyAppearanceOf
    simp only
    split
    · exact hcall
    · exact lone_restate hcall (ledger_modifyAppearance _ ⟨0⟩ fun _ => rfl)

theorem lone_abortConference (h : s.ledger.Lone p) (c : CallId)
    (created channel needsResume media : Bool) :
    (s.abortConference c created channel needsResume media).1.ledger.Lone p := by
  unfold abortConference
  split
  · exact h
  split
  · exact h
  split
  · exact h
  simp only [ledger_setCallSelected, ledger_selectLine]
  exact lone_reconnectOriginal (lone_removePbxCall (lone_unindexCalls (lone_dropSessionToken
    (lone_dropSession h _) _) _) _) _ _ _

theorem lone_abortConferenceInvite (h : s.ledger.Lone p) (c : CallId)
    (channel needsResume media : Bool) :
    (s.abortConferenceInvite c channel needsResume media).1.ledger.Lone p := by
  unfold abortConferenceInvite
  split
  · exact h
  next found _ =>
  split
  · exact h
  next session hsession =>
  split
  · exact h
  split
  · exact h
  have hseats := lone_stored h hsession
  have hput : (s.putSession found.consultationHandsetCallId
      { session with pendingInvite := none }).ledger.Lone p := lone_putSession h _ hseats
  exact lone_reconnectModerator (lone_removePbxCall (lone_unindexCalls hput _) _) _ _

theorem lone_endConferenceInternal (h : s.ledger.Lone p) (session : ConferenceSession)
    (created : Bool) (hungUp : Option PbxCallId) :
    (s.endConferenceInternal session created hungUp).1.ledger.Lone p :=
  lone_removeCalls (lone_unindexCalls (lone_dropSession (lone_dropSessionToken h session) _) _) _

/-- A session that goes on without one participant seats nobody new. -/
theorem replaceConsultation_participants (session : ConferenceSession) (needed : Bool) :
    (replaceConsultation session needed).participants = session.participants := by
  unfold replaceConsultation
  split
  · rfl
  · split <;> rfl

theorem afterDeparture_participants (session : ConferenceSession) (q : PbxCallId) :
    (afterDeparture session q).participants = session.participants := by
  unfold afterDeparture
  rw [replaceConsultation_participants]
  split
  · rfl
  · split <;> rfl

theorem lone_activeConferenceDeparture (h : s.ledger.Lone p) (session : ConferenceSession)
    (q : PbxCallId) (hungUp : Option PbxCallId) (announce : Bool) :
    (s.activeConferenceDeparture session q hungUp announce).1.ledger.Lone p := by
  unfold activeConferenceDeparture
  split
  · exact lone_endConferenceInternal h session true hungUp
  next departing _ =>
  split
  · exact lone_endConferenceInternal h session true hungUp
  split
  · exact h
  next stored hstored =>
  have hseats : ∀ x ∈ (afterDeparture
      { stored with participants := stored.participants.remove departing.id }
      departing.pbxCallId).participants.participants, x.pbxCallId ≠ p := by
    rw [afterDeparture_participants]
    exact fun x hx => lone_stored h hstored x (List.mem_filter.mp hx).1
  exact lone_putSession (lone_indexCalls (lone_removePbxCall (lone_unindexCalls
    (lone_dropSession h _) _) _) _ hseats) _ hseats

theorem lone_conferenceParticipantRemoved (h : s.ledger.Lone p) (i : ConferenceId)
    (participant : ParticipantId) :
    (s.conferenceParticipantRemoved i participant).1.ledger.Lone p := by
  unfold conferenceParticipantRemoved
  split
  · exact h
  next key session hsession =>
  split
  · next pending removed _ _ =>
    split
    · exact h
    have hseats : ∀ x ∈ (replaceConsultation
        { session with
          participants := session.participants.remove participant
          pendingParticipantMutation := none }
        (session.consultationCallId = removed.pbxCallId)).participants.participants,
        x.pbxCallId ≠ p := by
      rw [replaceConsultation_participants]
      exact fun x hx =>
        lone_stored h (Table.find?_some hsession).1 x (List.mem_filter.mp hx).1
    exact lone_putSession (lone_removePbxCall (lone_indexCalls (lone_unindexCalls
      (lone_dropSession h _) _) _ hseats) _) _ hseats
  · exact h

theorem lone_pbxHangupConference (h : s.ledger.Lone p) (q : PbxCallId)
    (session : ConferenceSession) : (s.pbxHangupConference q session).1.ledger.Lone p := by
  have htoken := lone_dropSessionToken h session
  unfold pbxHangupConference
  simp only
  split
  · exact lone_conferenceParticipantRemoved htoken _ _
  split
  · exact lone_abortConferenceInvite htoken _ _ _ _
  split
  · split
    · exact lone_abortConference htoken _ _ _ _ _
    · exact lone_endConferenceInternal htoken _ _ _
  · exact lone_endConferenceInternal htoken _ _ _
  · exact lone_activeConferenceDeparture htoken _ _ _ _

/-! ## Barges and the end of the call -/

theorem lone_endBargeInternal (h : s.ledger.Lone p) (c : CallId) (joined created restore : Bool) :
    (s.endBargeInternal c joined created restore).1.ledger.Lone p := by
  unfold endBargeInternal
  split
  · exact h
  next b _ =>
  have hdrop : (s.dropBarge b c).1.ledger.Lone p := by
    rw [ledger_dropBarge]
    exact h.bargeOut b c
  simp only
  split
  · exact hdrop
  next a _ =>
  split
  · exact lone_restate hdrop (ledger_modifyAppearance _ b.targetCallId fun _ => rfl)
  · split
    · exact hdrop
    · rw [ledger_removeAppearance]
      exact hdrop.detach a

theorem lone_endBarges (h : s.ledger.Lone p) (cs : List CallId) :
    (s.endBarges cs).1.ledger.Lone p := by
  induction cs generalizing s with
  | nil => exact h
  | cons c rest ih => exact ih (lone_endBargeInternal h c true true false)

theorem lone_pbxHangupSettled (h : s.ledger.Lone p) (q : PbxCallId) (effects : List DriverEffect) :
    (s.pbxHangupSettled q effects).1.ledger.Lone p := by
  unfold pbxHangupSettled
  split
  · exact lone_pbxHangupTransfer h q _
  split
  · exact lone_pbxHangupConference h q _
  split
  · exact lone_endBargeInternal h _ _ _ _
  have hbarges := lone_endBarges h (((s.bargeGroups.get? q).map (·.members)).getD [])
  have hgone := lone_removePbxCall hbarges q
  simp only
  split
  · exact hbarges
  split
  · next s' heq =>
    change ((s.endBarges _).1.removePbxCall q).1.ledger.Lone p at hgone
    change (s.endBarges _).1.removePbxCall q = _ at heq
    rw [heq] at hgone
    exact hgone
  · next s' _ heq =>
    change (s.endBarges _).1.removePbxCall q = _ at heq
    rw [heq] at hgone
    exact hgone

/-! ## Rollbacks -/

variable {hangup : Hangup}

theorem lone_abortCallTransitionWith
    (hhangup : ∀ (s : Controller) q, s.ledger.Lone p → (hangup s q).1.ledger.Lone p)
    (h : s.ledger.Lone p) (i : CallTransitionId) (progress : CallTransitionProgress) :
    (s.abortCallTransitionWith hangup i progress).1.ledger.Lone p := by
  unfold abortCallTransitionWith
  split
  · exact h
  next pending _ =>
  have hrestored : (restoreCallDomain { s with
      pendingCallTransitions := s.pendingCallTransitions.erase i } pending.snapshot
      pending.transition).1.ledger.Lone p := by
    unfold restoreCallDomain
    split <;> exact h.of_books rfl rfl rfl rfl rfl
  simp only
  split
  · next s' heq =>
    rw [heq] at hrestored
    exact hrestored
  next s' heq =>
  rw [heq] at hrestored
  unfold abortTarget
  simp only
  split
  · exact hrestored
  · split
    · exact hhangup _ _ hrestored
    · exact hrestored
  · split <;> exact hrestored

theorem lone_abortTransitions
    (hhangup : ∀ (s : Controller) q, s.ledger.Lone p → (hangup s q).1.ledger.Lone p)
    (h : s.ledger.Lone p) (q : PbxCallId) (ids : List (CallTransitionId × CallTransitionProgress)) :
    (s.abortTransitions hangup q ids).1.ledger.Lone p := by
  induction ids generalizing s with
  | nil => exact h
  | cons e rest ih => exact ih (lone_abortCallTransitionWith hhangup h e.1 e.2)

/-- Whatever is hung up, a lone call stays alone. -/
theorem lone_pbxHangupFuel (n : Nat) (s : Controller) (q : PbxCallId) (h : s.ledger.Lone p) :
    (pbxHangupFuel n s q).1.ledger.Lone p := by
  induction n generalizing s q with
  | zero => exact lone_pbxHangupSettled h q []
  | succ n ih =>
    have haborted := lone_abortTransitions ih h q (s.transitionsOf q)
    unfold pbxHangupFuel
    simp only
    split
    · exact haborted
    · exact lone_pbxHangupSettled haborted q _

end Controller

end Sccp
