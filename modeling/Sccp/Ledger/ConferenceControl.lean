/-
  Sccp.Ledger.ConferenceControl

  The two-step changes of one participant, and the conferences that a backend
  application hosts, as moves on the ledger.
-/

import Sccp.Ledger.Conference

namespace Sccp

open Ledger (Via)
open Function (update)

namespace Controller

variable {s : Controller}
variable {i : ConferenceId} {participant : ParticipantId} {isHeld : Bool}

/-! ## Reservations -/

theorem via_releaseMutation {kind : ConferenceParticipantMutationKind} :
    Via s.ledger (s.releaseMutation i participant kind).1.ledger := by
  unfold releaseMutation
  split
  · exact .refl _
  next key session hentry =>
  split
  · exact via_putSession (Table.find?_some hentry).1 rfl rfl fun _ h hphase =>
      ⟨(h hphase).1, rfl, (h hphase).2.2⟩
  · exact .refl _

theorem participantGuard_active {session : ConferenceSession} {authorized : Bool}
    {i : ParticipantId} {p : ConferenceParticipant}
    (h : participantGuard session authorized i = .ok p) : session.phase = .active := by
  unfold participantGuard at h
  split at h
  · cases h
  · next hphase => simpa using hphase

theorem via_beginConferenceParticipantMute {d : DeviceId} {muted : Bool} :
    Via s.ledger (s.beginConferenceParticipantMute d i participant muted).1.ledger := by
  unfold beginConferenceParticipantMute
  split
  · exact .refl _
  next key session hentry =>
  split
  · exact .refl _
  next participant hguard =>
  split
  · exact .refl _
  split
  · exact .refl _
  · exact via_putSession (Table.find?_some hentry).1 rfl rfl fun _ _ =>
      .of_active (participantGuard_active hguard)

theorem via_conferenceParticipantMuted {muted : Bool} :
    Via s.ledger (s.conferenceParticipantMuted i participant muted).1.ledger := by
  unfold conferenceParticipantMuted
  split
  · exact .refl _
  next key session hentry =>
  split
  · next pending _ hpending _ =>
    split
    · exact .refl _
    · exact via_putSession (Table.find?_some hentry).1 rfl rfl fun _ =>
        early_of_pending rfl (.inr (by simp [hpending]))
  · exact .refl _

theorem via_beginConferenceParticipantRemoval {d : DeviceId} :
    Via s.ledger (s.beginConferenceParticipantRemoval d i participant).1.ledger := by
  unfold beginConferenceParticipantRemoval
  split
  · exact .refl _
  next key session hentry =>
  split
  · exact .refl _
  next participant hguard =>
  split
  · exact .refl _
  split
  · exact .refl _
  · exact via_putSession (Table.find?_some hentry).1 rfl rfl fun _ _ =>
      .of_active (participantGuard_active hguard)

theorem via_beginConferenceParticipantRoleChange {d : DeviceId} {moderator : Bool} :
    Via s.ledger (s.beginConferenceParticipantRoleChange d i participant moderator).1.ledger := by
  unfold beginConferenceParticipantRoleChange
  split
  · exact .refl _
  next key session hentry =>
  simp only
  split
  · exact .refl _
  next participant hguard =>
  split
  · exact .refl _
  split
  · exact .refl _
  · split
    · exact .refl _
    · exact via_putSession (Table.find?_some hentry).1 rfl rfl fun _ _ =>
        .of_active (participantGuard_active hguard)

theorem via_conferenceParticipantRoleChanged {moderator : Bool} :
    Via s.ledger (s.conferenceParticipantRoleChanged i participant moderator).1.ledger := by
  unfold conferenceParticipantRoleChanged
  split
  · exact .refl _
  next key session hentry =>
  split
  · next pending _ hpending _ =>
    have hearly : ∀ next : ConferenceSession, next.phase = session.phase →
        session.view.Early → next.view.Early :=
      fun _ hphase => early_of_pending hphase (.inr (by simp [hpending]))
    split
    · exact .refl _
    · split
      · exact via_putSession (Table.find?_some hentry).1 rfl rfl fun _ => hearly _ rfl
      · exact via_putSession (Table.find?_some hentry).1 rfl rfl fun _ => hearly _ rfl
  · exact .refl _

/-! ## Moderator hold -/

theorem via_beginConferenceModeratorLegTransition {c : CallId} :
    Via s.ledger (s.beginConferenceModeratorLegTransition c isHeld).1.ledger := by
  unfold beginConferenceModeratorLegTransition
  split
  · exact .refl _
  next session hsession =>
  split
  · exact .refl _
  next hphase =>
  have hearly : ∀ (key : CallId) (stored next : ConferenceSession),
      s.sessionEntryById session.id = some (key, stored) → next.phase = stored.phase →
      s.ledger.SessionsApart → stored.view.Early → next.view.Early := by
    intro key stored next hentry hnext hapart _
    obtain ⟨k, hk⟩ := conferenceSession_get? hsession
    obtain ⟨_, rfl⟩ := entry_unique hapart hk hentry
    exact .of_active (hnext.trans (by simpa using hphase))
  split
  · exact .refl _
  split
  · exact .refl _
  split
  · exact .refl _
  split
  · exact .refl _
  · simp only
    split
    · split
      · exact .refl _
      · split
        · exact .refl _
        · next key stored hentry =>
          exact via_putSession (Table.find?_some hentry).1 rfl rfl
            (hearly key stored _ hentry rfl)
    split
    · exact .refl _
    · split
      · exact .refl _
      · next key stored hentry =>
        simp only
        rw [ledger_modifyAppearance_quiet]
        · exact via_putSession (Table.find?_some hentry).1 rfl rfl
            (hearly key stored _ hentry rfl)
        · exact fun _ => rfl

/-- The state a moderator's leg is shown in. -/
def legState (isHeld : Bool) : CallState := if isHeld then .held else .connected

theorem view_moderatorLeg (isHeld : Bool) (a : CallAppearance) :
    (moderatorLeg isHeld a).view = { a.view with state := legState isHeld } := by
  cases isHeld <;> rfl

theorem via_conferenceModeratorLegTransitioned :
    Via s.ledger (s.conferenceModeratorLegTransitioned i participant isHeld).1.ledger := by
  unfold conferenceModeratorLegTransitioned
  split
  · exact .refl _
  next key session hsession =>
  split
  · next pending q hpend hq =>
    split
    · exact .refl _
    split
    · exact .refl _
    next id hid =>
    split
    · exact .refl _
    next a ha =>
    simp only [ledger_setCallSelected, ledger_selectLine]
    generalize hs' : s.putSession key _ = s'
    have hvia : Via s.ledger s'.ledger :=
      hs' ▸ via_putSession (Table.find?_some hsession).1 rfl rfl fun _ =>
        early_of_pending rfl (.inr (by simp [hpend]))
    exact hvia.trans (.restated (e := {}) (g := Shows.only id (legState isHeld))
      (ledger_modifyAppearance _ a.pbxId (view_moderatorLeg isHeld)))
  · exact .refl _

theorem via_abortConferenceModeratorLegTransition {music : List ParticipantId} {attempted : Bool} :
    Via s.ledger (s.abortConferenceModeratorLegTransition i participant isHeld music
      attempted).1.ledger := by
  have hquiet : ∀ (s' : Controller) (c : CallId) (m : MediaStreamState),
      (s'.modifyAppearanceOf c fun a => { a with audio := m }).ledger = s'.ledger := by
    intro s' c m
    unfold modifyAppearanceOf
    split
    · rfl
    · exact ledger_modifyAppearance_quiet _ fun _ => rfl
  unfold abortConferenceModeratorLegTransition
  split
  · exact .refl _
  next key session hentry =>
  have hstored := (Table.find?_some hentry).1
  have hput : Via s.ledger (s.putSession key { session with
      pendingParticipantMutation := none }).ledger :=
    via_putSession hstored rfl rfl fun _ h hphase => ⟨(h hphase).1, rfl, (h hphase).2.2⟩
  split
  · exact .refl _
  split
  · exact .refl _
  simp only
  split
  · rw [hquiet]
    exact hput
  split
  · rw [hquiet]
    exact hput
  · exact hput

/-! ## Removal -/

/-- As in `ledger_depart`, with the remaining calls indexed before the call
    ends. -/
theorem ledger_remove (key : CallId) (gone : ConferenceParticipant) (next : ConferenceSession)
    (ps : List ConferenceParticipant) :
    (((((s.dropSession key).unindexCalls [gone]).indexCalls next.consultationHandsetCallId
      ps).removePbxCall gone.pbxCallId).1.putSession next.consultationHandsetCallId next).ledger
      = (s.ledger.reseat key [gone.pbxCallId] (some (next.consultationHandsetCallId, next.view))
        (callsOf ps)).endCall gone.pbxCallId := by
  rw [← ledger_depart, ledger_putSession, ledger_putSession, ledger_removePbxCall,
    ledger_indexCalls, ledger_indexCalls, ledger_removePbxCall]
  have h : ∀ l : Ledger, ∀ f : PbxCallId → Option CallId,
      ({ l with sessionOf := f } : Ledger).endCall gone.pbxCallId
        = { l.endCall gone.pbxCallId with sessionOf := f } := by
    intro l f
    have := l.seated_endCall l.session f gone.pbxCallId
    refine this.trans ?_
    rw [show (l.endCall gone.pbxCallId).seated l.session f
      = { l.endCall gone.pbxCallId with session := l.session, sessionOf := f } from rfl,
      ← l.endCall_session gone.pbxCallId]
  rw [h, Ledger.endCall_sessionOf]

theorem via_conferenceParticipantRemoved (i : ConferenceId) (participant : ParticipantId) :
    Via s.ledger (s.conferenceParticipantRemoved i participant).1.ledger := by
  unfold conferenceParticipantRemoved
  split
  · exact .refl _
  next key session hsession =>
  split
  · next pending removed hpending hremoved =>
    split
    · exact .refl _
    simp only
    refine .step (.reseat key [removed.pbxCallId] (some (_, _)) (callsOf _)) ?_
      (.step (.endCall removed.pbxCallId) trivial (.of_eq (ledger_remove ..)))
    refine seatOk_stored (Table.find?_some hsession).1
      (replaceConsultation_id ..) (fun _ => rfl) fun _ h => ?_
    have hactive : session.phase = .active :=
      h.active (.inr (by simp [ConferenceSession.view, hpending]))
    exact replaceConsultation_early _ _ (.of_active hactive)
  · exact .refl _

/-! ## Destination conferences -/

theorem via_holdAll (cs : List CallId) : Via s.ledger (s.holdAll cs).1.ledger := by
  induction cs generalizing s with
  | nil => exact .refl _
  | cons c rest ih =>
    simp only [holdAll]
    exact (via_hold c).trans ih

theorem via_beginConferenceDestination {request : ConferenceDestinationRequest} :
    Via s.ledger (s.beginConferenceDestination request).1.ledger := by
  unfold beginConferenceDestination
  split
  · exact .refl _
  split
  · exact .refl _
  next target _ =>
  split
  · exact .refl _
  split
  · exact .refl _
  simp only
  split
  · exact .refl _
  have hissue := via_allocateConferenceMutation (s := s) (.destination target.pbxId)
  split
  · next s₁ heq =>
    rw [heq] at hissue
    exact hissue
  next s₁ mutation heq =>
  rw [heq] at hissue
  refine hissue.trans ((via_holdAll ((s.ordinaryConnected target).map Prod.snd)).trans ?_)
  split
  · exact .refl _
  refine .restated (p := target.pbxId) (e := .to .calling)
    (g := Shows.only target.id .calling) ?_
  rw [ledger_modifyCall _ (e := .to .calling) fun _ _ => rfl,
    ledger_modifyAppearance _ target.pbxId (fun _ => rfl), Ledger.restate_restate]
  rfl

end Controller

end Sccp
