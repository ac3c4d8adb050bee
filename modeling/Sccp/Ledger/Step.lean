/-
  Sccp.Ledger.Step

  Every operation of the controller is a sequence of moves.
-/

import Sccp.Ledger.Transitions

namespace Sccp

open Ledger (Via)

namespace Controller

variable (s : Controller)

/-- Every operation is a sequence of moves. -/
theorem via_step (op : Op) : Via s.ledger (s.step op).ledger := by
  cases op with
  | registerSession g d => exact via_registerSession
  | disconnected d => exact via_disconnected d
  | updateCapabilities d capabilities => exact .of_eq (ledger_modifyDevice_quiet _ fun _ => rfl)
  | setCallSelected d c selected => exact .of_eq (s.ledger_setCallSelected d c selected)
  | beginPhoneCall c binding codec now => exact via_beginPhoneCall c binding codec now
  | beginAdditionalPhoneCall c binding codec now =>
    exact via_beginAdditionalPhoneCall c binding codec now
  | beginAsteriskCall c p binding codec => exact via_beginAsteriskCall
  | offerInboundCallWithPolicy p candidates => exact via_offerInboundCallWithPolicy
  | addCallAppearance p c binding codec => exact via_addCallAppearance
  | cancelInboundOffer c => exact via_cancelInboundOffer c
  | digit c key now => exact via_digit
  | enbloc c number => exact via_enbloc c number
  | speedDial c number await now => exact via_speedDial
  | expireDigits now => exact via_finishAllDigits _
  | pbxRinging p => exact via_pbxRinging p
  | pbxProgressWithMediaMode p earlyMedia coupled =>
    exact via_pbxProgressWithMediaMode p earlyMedia coupled
  | phoneAnswer c => exact via_phoneAnswer c
  | pbxAnswer p => exact via_pbxAnswer p
  | hold c => exact via_hold c
  | resume c => exact via_resume c
  | steal c => exact via_steal c
  | barge c binding codec mode => exact via_barge
  | abortBarge c joined created => exact via_endBargeInternal ..
  | hangup c => exact via_hangup c
  | pbxHangup p => exact via_pbxHangup p
  | beginRemoteHangup p tone delay now => exact via_beginRemoteHangup
  | forwardRingingCall p => exact via_forwardRingingCall p
  | claimRingingForward p => exact via_claimRingingForward p
  | rollbackRingingForward p => exact via_rollbackRingingForward p
  | completeRingingForward p => exact via_completeRingingForward p
  | switchActiveCall d c => exact via_switchActiveCall
  | beginActiveCallSwitchTransaction d c => exact via_beginActiveCallSwitchTransaction d c
  | beginAdditionalPhoneCallTransaction c binding codec now =>
    exact via_beginAdditionalPhoneCallTransaction c binding codec now
  | beginHotlineCallTransaction request => exact via_beginHotlineCallTransaction request
  | commitCallTransition i => exact via_commitCallTransition i
  | recordCallTransitionSuccess i effect =>
    exact .of_eq (ledger_recordCallTransitionSuccess i effect)
  | abortCallTransition i progress => exact via_abortCallTransition i progress
  | compensateUnrecordedCallTransitionEffect t effect =>
    exact via_compensateUnrecordedCallTransitionEffect
  | setAutoAnswerRequest p request => exact .of_eq (ledger_setAutoAnswerRequest p request)
  | scheduleAutoAnswers p policy now => exact .of_eq (ledger_scheduleAutoAnswers p policy now)
  | expireAutoAnswers now => exact via_expireAutoAnswers
  | beginTransfer request => exact via_beginTransfer
  | transferSetupCompleted d i milestone => exact via_transferSetupCompleted
  | deferTransferAction d i action => exact via_deferTransferAction
  | completeTransfer d c trigger => exact via_completeTransfer
  | completeDeviceTransfer d reported trigger => exact via_completeDeviceTransfer
  | directTransfer d => exact via_directTransfer
  | transferSucceeded d i => exact via_transferSucceeded
  | abortTransfer d i reason => exact via_abortTransfer
  | beginImmediateDivert d c target => exact via_beginImmediateDivert
  | beginSelectedVoicemailTransfer d target => exact via_beginSelectedVoicemailTransfer
  | abortVoicemail d i => exact via_abortVoicemail
  | voicemailSucceeded d i => exact via_voicemailSucceeded
  | completeVoicemailNative d i p => exact via_completeVoicemailNative
  | joinCallsWithMedia d c permitted policy => exact via_joinCallsWithMedia
  | abortJoinConference c created resumed => exact via_abortJoinConference
  | beginConferenceWithMedia request policy => exact via_beginConferenceWithMedia
  | abortConference c created channel needsResume media => exact via_abortConference ..
  | confirmConference c => exact via_confirmConference
  | conferenceMerged c => exact via_conferenceMerged
  | beginConferenceInvite c c' binding codec now => exact via_beginConferenceInvite
  | conferenceInviteMerged c => exact via_conferenceInviteMerged
  | abortConferenceInvite c channel needsResume media => exact via_abortConferenceInvite ..
  | claimConferenceMutation c => exact via_claimConferenceMutation
  | claimConferenceMutationById i => exact via_claimConferenceMutationById
  | completeConferenceMutation token => exact via_completeConferenceMutation
  | beginConferenceModeratorLegTransition c isHeld =>
    exact via_beginConferenceModeratorLegTransition
  | conferenceModeratorLegTransitioned i participant isHeld =>
    exact via_conferenceModeratorLegTransitioned
  | abortConferenceModeratorLegTransition i participant isHeld music attempted =>
    exact via_abortConferenceModeratorLegTransition
  | beginConferenceParticipantMute d i participant muted => exact via_beginConferenceParticipantMute
  | conferenceParticipantMuted i participant muted => exact via_conferenceParticipantMuted
  | abortConferenceParticipantMute i participant muted => exact via_releaseMutation
  | beginConferenceParticipantRemoval d i participant => exact via_beginConferenceParticipantRemoval
  | conferenceParticipantRemoved i participant =>
    exact via_conferenceParticipantRemoved i participant
  | abortConferenceParticipantRemoval i participant => exact via_releaseMutation
  | beginConferenceParticipantRoleChange d i participant moderator =>
    exact via_beginConferenceParticipantRoleChange
  | conferenceParticipantRoleChanged i participant moderator =>
    exact via_conferenceParticipantRoleChanged
  | abortConferenceParticipantRoleChange i participant moderator => exact via_releaseMutation
  | cancelConference c => exact via_cancelConference c
  | endConference c => exact via_endConference
  | endConferenceByModerator d i => exact via_endConferenceByModerator
  | drainConferencesForShutdown => exact via_drainSessions _
  | conferenceParticipantFailed c => exact via_conferenceParticipantFailed
  | beginConferenceDestination request => exact via_beginConferenceDestination
  | conferenceDestinationFailed token c holds completed => exact via_conferenceDestinationFailed
  | beginDirectedPickup c permitted enabled context answer => exact via_beginDirectedPickup
  | groupPickup c permitted answer => exact via_groupPickup
  | park c enabled lot => exact via_park
  | parkingFailed c => exact via_parkingFailed
  | parkingConfirmed c slot => exact via_parkingConfirmed
  | beginParkingRetrieval c binding codec lot slot info => exact via_beginParkingRetrieval
  | parkingRetrieved c => exact via_parkingRetrieved
  | parkingRetrievalFailed c => exact via_parkingRetrievalFailed

end Controller

/-! ## Sessions -/

namespace Ledger

variable {l : Ledger}

theorem reseat_session (old key : CallId) (off on : List PbxCallId) (session : SessionView) :
    (l.reseat old off (some (key, session)) on).session
      = fun c => if c = key then some session else if c = old then none else l.session c := by
  funext c
  simp [reseat]

/-- A move of sessions is a reseat. -/
theorem move_session (l : Ledger) (m : Move) :
    (m.apply l).session = l.session ∨ ∃ old off new on, m = .reseat old off new on := by
  cases m with
  | reseat old off new on => exact .inr ⟨old, off, new, on, rfl⟩
  | endCall p => exact .inl (l.endCall_session p)
  | detach a =>
    refine .inl ?_
    show (l.detach a).session = l.session
    unfold detach
    split <;> rfl
  | _ => exact .inl rfl

theorem sessionsApart_store {old key : CallId} {off on : List PbxCallId} {session : SessionView}
    (h : l.SessionsApart) (hseat : SeatOk l old key session) :
    (l.reseat old off (some (key, session)) on).SessionsApart := by
  have hother : ∀ k v, (if k = old then none else l.session k) = some v →
      k ≠ old ∧ l.session k = some v := by
    intro k v hv
    by_cases hk : k = old
    · simp [hk] at hv
    · exact ⟨hk, by simpa [hk] using hv⟩
  have hkey : session.consultationHandsetCallId = key := by
    rcases hseat with ⟨v₀, hv₀, _, hnext, _⟩ | ⟨_, hkey, _⟩
    · exact hnext (h.keyed _ _ hv₀)
    · exact hkey
  have hfresh : ∀ k v, k ≠ old → l.session k = some v → v.id ≠ session.id := by
    intro k v hk hv heq
    rcases hseat with ⟨v₀, hv₀, hid, _⟩ | ⟨hnew, _⟩
    · exact hk (h.single _ _ _ _ hv hv₀ (heq.trans hid))
    · exact hnew k v hv heq
  constructor
  · intro k v hv
    rw [reseat_session] at hv
    by_cases hk : k = key
    · simp only [hk, if_true, Option.some.injEq] at hv
      rw [← hv, hkey, hk]
    · simp only [hk, if_false] at hv
      exact h.keyed k v (hother k v hv).2
  intro k k' v v' hv hv' heq
  rw [reseat_session] at hv hv'
  by_cases hk : k = key <;> by_cases hk' : k' = key
  · rw [hk, hk']
  · simp only [hk, if_true, Option.some.injEq, hk', if_false] at hv hv'
    obtain ⟨hold, hv'⟩ := hother k' v' hv'
    exact absurd (heq.symm.trans (congrArg _ hv.symm)) (hfresh k' v' hold hv')
  · simp only [hk, if_false, Option.some.injEq, hk', if_true] at hv hv'
    obtain ⟨hold, hv⟩ := hother k v hv
    exact absurd (heq.trans (congrArg _ hv'.symm)) (hfresh k v hold hv)
  · simp only [hk, hk', if_false] at hv hv'
    exact h.single _ _ _ _ (hother k v hv).2 (hother k' v' hv').2 heq

theorem sessionsApart_drop (old : CallId) (off on : List PbxCallId) (h : l.SessionsApart) :
    (l.reseat old off none on).SessionsApart := by
  have hold : ∀ k v, (l.reseat old off none on).session k = some v → l.session k = some v := by
    intro k v hv
    by_cases hk : k = old
    · simp [reseat, hk] at hv
    · simpa [reseat, hk] using hv
  exact ⟨fun k v hv => h.keyed k v (hold k v hv),
    fun k k' v v' hv hv' => h.single k k' v v' (hold k v hv) (hold k' v' hv')⟩

theorem sessionsApart_move {m : Move} (h : l.SessionsApart) (hm : m.Enabled l) :
    (m.apply l).SessionsApart := by
  rcases l.move_session m with heq | ⟨old, off, new, on, rfl⟩
  · exact ⟨heq ▸ h.keyed, heq ▸ h.single⟩
  · rcases new with _ | ⟨key, session⟩
    · exact sessionsApart_drop old off on h
    · exact sessionsApart_store h hm

/-- Sessions are apart, and those that are not active yet have nothing pending. -/
structure SessionsSound (l : Ledger) : Prop extends SessionsApart l where
  early : ∀ k v, l.session k = some v → v.Early

theorem sessionsSound_move {m : Move} (h : l.SessionsSound) (hm : m.Enabled l) :
    (m.apply l).SessionsSound := by
  refine ⟨sessionsApart_move h.toSessionsApart hm, ?_⟩
  rcases l.move_session m with heq | ⟨old, off, new, on, rfl⟩
  · rw [heq]
    exact h.early
  intro k v hv
  rcases new with _ | ⟨key, session⟩
  · by_cases hk : k = old
    · simp [Move.apply, reseat, hk] at hv
    · exact h.early k v (by simpa [Move.apply, reseat, hk] using hv)
  simp only [Move.apply, reseat_session] at hv
  by_cases hk : k = key
  · simp only [hk, if_true, Option.some.injEq] at hv
    subst hv
    rcases hm with ⟨v₀, hv₀, _, _, hearly⟩ | ⟨_, _, hearly⟩
    · exact hearly h.toSessionsApart (h.early _ _ hv₀)
    · exact hearly
  · by_cases hold : k = old
    · rw [if_neg hk, if_pos hold] at hv
      cases hv
    · exact h.early k v (by simpa [hk, hold] using hv)

theorem Via.sessionsSound {l' : Ledger} (h : Via l l') (hl : l.SessionsSound) : l'.SessionsSound :=
  h.preserves (fun _ _ hm hs => sessionsSound_move hs hm) hl

end Ledger

end Sccp
