/-
  Sccp.Ledger.Conference

  Conferences as moves on the ledger.  A session and the index of its calls
  change in one `reseat`, however many steps the operation takes for it; calls
  are connected or ended one at a time.
-/

import Sccp.Ledger.Transfers

namespace Sccp

open Ledger (Via)
open Function (update)

namespace Ledger

/-- A ledger with other conference tables. -/
def seated (l : Ledger) (f : CallId → Option SessionView) (g : PbxCallId → Option CallId) :
    Ledger := { l with session := f, sessionOf := g }

variable (l : Ledger)

theorem seated_detach (f : CallId → Option SessionView) (g : PbxCallId → Option CallId)
    (a : CallAppearanceId) : (l.seated f g).detach a = (l.detach a).seated f g := by
  unfold detach
  simp only [seated]
  split <;> rfl

theorem seated_detachAll (f : CallId → Option SessionView) (g : PbxCallId → Option CallId)
    (ids : List CallAppearanceId) :
    (l.seated f g).detachAll ids = (l.detachAll ids).seated f g := by
  induction ids generalizing l with
  | nil => rfl
  | cons a rest ih => simp only [detachAll, seated_detach, ih]

/-- The end of a call does not look at the conference tables. -/
theorem seated_endCall (f : CallId → Option SessionView) (g : PbxCallId → Option CallId)
    (p : PbxCallId) : (l.seated f g).endCall p = (l.endCall p).seated f g := by
  have hrel : (l.seated f g).release p = (l.release p).seated f g := rfl
  unfold endCall
  rw [hrel, seated_detachAll]
  rfl

theorem endCall_session (p : PbxCallId) : (l.endCall p).session = l.session := by
  have h := l.seated_endCall l.session l.sessionOf p
  rw [show l.seated l.session l.sessionOf = l from rfl] at h
  rw [h]
  rfl

theorem endCall_sessionOf (p : PbxCallId) : (l.endCall p).sessionOf = l.sessionOf := by
  have h := l.seated_endCall l.session l.sessionOf p
  rw [show l.seated l.session l.sessionOf = l from rfl] at h
  rw [h]
  rfl

end Ledger

namespace Controller

variable {s : Controller}
variable {c : CallId} {session stored : ConferenceSession} {r : ConferenceParticipantRegistry}
  {ps : List ConferenceParticipant} {binding : LineBinding}

/-! ## Sessions -/

theorem ledger_putSession_reseat (key : CallId) (session : ConferenceSession) :
    (s.putSession key session).ledger = s.ledger.reseat key [] (some (key, session.view)) [] := by
  rw [ledger_putSession]
  apply Ledger.ext <;> try rfl
  funext c
  by_cases hc : c = key <;> simp [Ledger.reseat, hc]

theorem seatOk_stored {key key' : CallId} (h : s.conferencesByConsultation.get? key = some stored)
    (hid : session.id = stored.id)
    (hkey : stored.consultationHandsetCallId = key → session.consultationHandsetCallId = key')
    (hearly : s.ledger.SessionsApart → stored.view.Early → session.view.Early) :
    SeatOk s.ledger key key' session.view :=
  .inl ⟨stored.view, by simp [ledger, h], hid, hkey, hearly⟩

/-- A change of a session in which something is pending keeps it active. -/
theorem early_of_pending (hphase : session.phase = stored.phase)
    (hpending : stored.pendingInvite.isSome ∨ stored.pendingParticipantMutation.isSome)
    (h : stored.view.Early) : session.view.Early := by
  refine .of_active (hphase.trans (h.active ?_))
  rcases hpending with hp | hp
  · exact .inl (by simpa [ConferenceSession.view, Option.ne_none_iff_isSome] using hp)
  · exact .inr (by simpa [ConferenceSession.view, Option.ne_none_iff_isSome] using hp)

/-- A stored session is replaced by another stage of it. -/
theorem via_putSession {key : CallId} (h : s.conferencesByConsultation.get? key = some stored)
    (hid : session.id = stored.id)
    (hkey : session.consultationHandsetCallId = stored.consultationHandsetCallId)
    (hearly : s.ledger.SessionsApart → stored.view.Early → session.view.Early) :
    Via s.ledger (s.putSession key session).ledger :=
  .step (.reseat key [] (some (key, session.view)) [])
    (seatOk_stored h hid (fun h' => hkey.trans h') hearly)
    (.of_eq (ledger_putSession_reseat key session))

/-- A session is stored and its calls are indexed to it. -/
theorem ledger_seat (key : CallId) (session : ConferenceSession) (ps : List ConferenceParticipant) :
    ((s.indexCalls key ps).putSession key session).ledger
      = s.ledger.reseat key [] (some (key, session.view)) (callsOf ps) := by
  rw [ledger_putSession, ledger_indexCalls]
  apply Ledger.ext <;> try rfl
  funext c
  by_cases hc : c = key <;> simp [Ledger.reseat, hc]

theorem via_seat (key : CallId) (session : ConferenceSession) (ps : List ConferenceParticipant)
    (hnew : ∀ k w, s.ledger.session k = some w → w.id ≠ session.id)
    (hkey : session.consultationHandsetCallId = key) (hearly : session.view.Early) :
    Via s.ledger ((s.indexCalls key ps).putSession key session).ledger :=
  .step (.reseat key [] (some (key, session.view)) (callsOf ps)) (.inr ⟨hnew, hkey, hearly⟩)
    (.of_eq (ledger_seat key session ps))

theorem ledger_seat' (key : CallId) (session : ConferenceSession)
    (ps : List ConferenceParticipant) : ((s.putSession key session).indexCalls key ps).ledger
      = s.ledger.reseat key [] (some (key, session.view)) (callsOf ps) := by
  rw [ledger_indexCalls, ledger_putSession]
  apply Ledger.ext <;> try rfl
  funext c
  by_cases hc : c = key <;> simp [Ledger.reseat, hc]

/-- A session goes with its token and the index of its calls. -/
theorem ledger_unseat (key : CallId) (session : ConferenceSession)
    (ps : List ConferenceParticipant) :
    (((s.dropSession key).dropSessionToken session).unindexCalls ps).ledger
      = (s.ledger.reseat key (callsOf ps) none []).dropToken (.session session.id) := by
  rw [ledger_unindexCalls, ledger_dropSessionToken, ledger_dropSession]
  apply Ledger.ext <;> try rfl
  funext c
  by_cases hc : c = key <;> simp [Ledger.reseat, Ledger.dropToken, hc]

theorem via_unseat (key : CallId) (session : ConferenceSession) (ps : List ConferenceParticipant) :
    Via s.ledger (((s.dropSession key).dropSessionToken session).unindexCalls ps).ledger :=
  .step (.reseat key (callsOf ps) none []) trivial (.step (.dropToken (.session session.id)) trivial
      (.of_eq (ledger_unseat key session ps)))

/-- A new conference id is not the id of a session. -/
theorem allocateConferenceId_fresh {k : CallId} {w : SessionView}
    (h : s.ledger.session k = some w) : w.id ≠ s.allocateConferenceId.2 := by
  obtain ⟨session, hsession, rfl⟩ := Option.map_eq_some_iff.mp h
  intro heq
  have hused : s.allocateConferenceId.2.val ∈ s.conferencesByConsultation.values.map (·.id.val) :=
    List.mem_map.mpr ⟨session, Table.mem_values.mpr ⟨k, hsession⟩, congrArg ConferenceId.val heq⟩
  exact allocate_notMem 32 (s.conferencesByConsultation.values.map (·.id.val))
    ((s.conferencesByConsultation.values.map (·.id.val)).length + 1) s.nextConferenceId hused

theorem ledger_allocateConferenceId : s.allocateConferenceId.1.ledger = s.ledger := rfl

theorem ledger_conferenceParticipant (a : CallAppearance) (moderator : Bool) :
    (s.conferenceParticipant a moderator).1.ledger = s.ledger := rfl

theorem ledger_conferenceParticipants (moderator : Bool) (chosen : List CallAppearance) :
    (s.conferenceParticipants moderator chosen).1.ledger = s.ledger := by
  induction chosen generalizing s moderator with
  | nil => rfl
  | cons a rest ih => exact ih false

theorem insert_participants {r' : ConferenceParticipantRegistry} {q : ConferenceParticipant}
    (h : r.insert q = .ok r') : r'.participants = r.participants ++ [q] := by
  unfold ConferenceParticipantRegistry.insert at h
  split at h
  · cases h
  split at h
  · cases h
  · split at h
    · cases h
    · cases h
      rfl

theorem insertAll_participants {r' : ConferenceParticipantRegistry} (h : r.insertAll ps = .ok r') :
    r'.participants = r.participants ++ ps := by
  induction ps generalizing r with
  | nil =>
    cases h
    simp
  | cons p rest ih =>
    unfold ConferenceParticipantRegistry.insertAll at h
    split at h
    · cases h
    · next r₁ hins =>
      rw [ih h, insert_participants hins]
      simp

theorem ofList_participants (h : ConferenceParticipantRegistry.ofList ps = .ok r) :
    r.participants = ps ∧ ∃ p ∈ r.participants, p.moderator = true := by
  unfold ConferenceParticipantRegistry.ofList at h
  split at h
  · cases h
  next r' hall =>
  split at h
  · cases h
  next hcount =>
  cases h
  refine ⟨by simpa using insertAll_participants hall, ?_⟩
  obtain ⟨p, hp⟩ := List.exists_mem_of_length_pos (Nat.pos_of_ne_zero hcount)
  exact ⟨p, List.mem_filter.mp hp⟩

/-- A session that has just been made: its participants are new. -/
theorem early_new (hregistry : ConferenceParticipantRegistry.ofList ps = .ok session.participants)
    (hheld : ∀ p ∈ ps, p.held = false) (hinvite : session.pendingInvite = none)
    (hmutation : session.pendingParticipantMutation = none) : session.view.Early := by
  obtain ⟨hps, p, hp, hmoderator⟩ := ofList_participants hregistry
  refine fun _ => ⟨by simp [ConferenceSession.view, hinvite], hmutation, ?_,
    p.view, List.mem_map.mpr ⟨p, hp, rfl⟩, hmoderator⟩
  intro v hv
  obtain ⟨q, hq, rfl⟩ := List.mem_map.mp hv
  exact hheld q (hps ▸ hq)

theorem conferenceParticipants_held (moderator : Bool) (chosen : List CallAppearance) :
    ∀ p ∈ (s.conferenceParticipants moderator chosen).2, p.held = false := by
  induction chosen generalizing s moderator with
  | nil => exact fun p hp => (by cases hp)
  | cons a rest ih =>
    intro p hp
    rcases List.mem_cons.mp hp with rfl | hp
    · rfl
    · exact ih false p hp

/-! ## Joining selected calls -/

theorem via_joinCalls (d : DeviceId) (c : CallId) (permitted : Bool) :
    Via s.ledger (s.joinCalls d c permitted).1.ledger := by
  unfold joinCalls
  split
  · exact .refl _
  split
  · exact .refl _
  split
  · exact .refl _
  next chosen _ =>
  rcases chosen with _ | ⟨original, _ | ⟨consultation, rest⟩⟩
  · exact .refl _
  · exact .refl _
  have hl := ledger_conferenceParticipants (s := s) true (original :: consultation :: rest)
  simp only
  split
  · exact .of_eq hl
  next registry hregistry =>
  refine Via.trans (.of_eq ?_) (via_seat _ _ _ ?_ rfl ?_)
  · rw [ledger_allocateBridgeId, ledger_allocateConferenceId, hl]
  · rw [ledger_allocateBridgeId]
    exact fun k w hw => allocateConferenceId_fresh hw
  · exact early_new hregistry (conferenceParticipants_held true _) rfl rfl

/-- The media policy of a session is not in the ledger. -/
theorem ledger_configureConferenceMedia (c : CallId) (policy : ConferenceMediaPolicy) :
    (s.configureConferenceMedia c policy).1.ledger = s.ledger := by
  unfold configureConferenceMedia
  split
  · rfl
  next session _ =>
  split
  · rfl
  next stored hs =>
  split
  · rfl
  rw [ledger_putSession]
  apply Ledger.ext <;> try rfl
  funext x
  by_cases hx : x = session.consultationHandsetCallId
  · simp [ledger, hx, hs, ConferenceSession.view]
  · simp [hx]

theorem via_abortJoinConference {created : Bool} {resumed : List PbxCallId} :
    Via s.ledger (s.abortJoinConference c created resumed).1.ledger := by
  unfold abortJoinConference
  split
  · exact .refl _
  · split
    · exact .refl _
    · exact via_unseat ..

theorem via_joinCallsWithMedia {d : DeviceId} {permitted : Bool} {policy : ConferenceMediaPolicy} :
    Via s.ledger (s.joinCallsWithMedia d c permitted policy).1.ledger := by
  have hjoin := via_joinCalls (s := s) d c permitted
  unfold joinCallsWithMedia
  split
  · next s₁ _ heq =>
    rw [heq] at hjoin
    exact hjoin
  next s₁ effects heq =>
  rw [heq] at hjoin
  have hconf := ledger_configureConferenceMedia (s := s₁) c policy
  refine hjoin.trans ?_
  split
  · next s₂ hmedia =>
    rw [hmedia] at hconf
    exact Via.trans (.of_eq hconf) (via_abortJoinConference)
  · next s₂ hmedia =>
    rw [hmedia] at hconf
    exact .of_eq hconf

/-! ## Consultation conferences -/

/-- The calls of the participants are connected one after the other. -/
theorem via_connectParticipants (ps : List ConferenceParticipant) :
    Via s.ledger (s.connectParticipants ps).ledger := by
  induction ps generalizing s with
  | nil => exact .refl _
  | cons q rest ih =>
    simp only [connectParticipants]
    exact (via_modifyCall q.pbxCallId (f := fun call => { call with state := .connected })
      (e := .to .connected) fun _ => rfl).trans
      ((via_modifyAppearanceOf q.handsetCallId (f := fun a => { a with state := .connected })
        fun _ => rfl).trans ih)

theorem via_recordConference {original consultation : CallAppearance} {c' : CallId} :
    Via s.ledger (s.recordConference original consultation c c').1.ledger := by
  unfold recordConference
  simp only
  split
  · refine .of_eq ?_
    rw [ledger_conferenceParticipant, ledger_conferenceParticipant]
  next participants hregistry =>
  refine Via.trans (.of_eq ?_) (via_seat _ _ _ ?_ rfl ?_)
  · rw [ledger_allocateBridgeId, ledger_allocateConferenceId, ledger_conferenceParticipant,
      ledger_conferenceParticipant]
  · intro k w hw
    rw [ledger_allocateBridgeId, ledger_allocateConferenceId] at hw
    exact allocateConferenceId_fresh hw
  refine early_new hregistry ?_ rfl rfl
  intro p hp
  rcases List.mem_cons.mp hp with rfl | hp
  · rfl
  · rw [List.mem_singleton.mp hp]
    rfl

/-- The original call is held, the consultation is created and the session is
    stored; nothing after the hold can fail. -/
theorem via_beginConference {c' : CallId} {codec : Codec} {now : Instant} {permitted : Bool} :
    Via s.ledger (s.beginConference c c' binding codec now permitted).1.ledger := by
  unfold beginConference
  split
  · exact .refl _
  split
  · exact .refl _
  split
  · exact .refl _
  split
  · exact .refl _
  · split
    · exact .refl _
    · have hvia := via_hold (s := s) c
      simp only
      split
      · exact hvia
      refine hvia.trans (Via.trans (via_beginPhoneCall c' binding codec now) ?_)
      split
      · exact via_resume c
      · exact via_recordConference

theorem via_reconnectOriginal (p : PbxCallId) (original : Option CallAppearance) (media : Bool) :
    Via s.ledger (s.reconnectOriginal p original media).ledger := by
  unfold reconnectOriginal
  cases original with
  | none => exact via_modifyCall p (e := .to .connected) fun _ => rfl
  | some a =>
    simp only
    refine .restated (e := .to .connected) (g := Shows.only a.id .connected)
      (ledger_restateOne p a.id (fun _ _ => rfl) fun _ => rfl)

theorem via_abortConference (c : CallId) (created channel needsResume media : Bool) :
    Via s.ledger (s.abortConference c created channel needsResume media).1.ledger := by
  unfold abortConference
  split
  · exact .refl _
  split
  · exact .refl _
  · split
    · exact .refl _
    · simp only [ledger_setCallSelected, ledger_selectLine]
      exact (via_unseat ..).trans ((via_removePbxCall _).trans (via_reconnectOriginal ..))

theorem via_beginConferenceWithMedia {request : ConferenceConsultationRequest}
    {policy : ConferenceMediaPolicy} :
    Via s.ledger (s.beginConferenceWithMedia request policy).1.ledger := by
  have hbegin : Via s.ledger (s.beginConference request.originalCallId
      request.consultationCallId request.binding request.codec request.now
      request.permitted).1.ledger := via_beginConference
  unfold beginConferenceWithMedia
  split
  · next s₁ _ heq =>
    rw [heq] at hbegin
    exact hbegin
  next s₁ effects heq =>
  rw [heq] at hbegin
  have hconf := ledger_configureConferenceMedia (s := s₁) request.consultationCallId policy
  split
  · next s₂ hmedia =>
    rw [hmedia] at hconf
    exact hbegin.trans (Via.trans (.of_eq hconf) (via_abortConference ..))
  · next s₂ hmedia =>
    rw [hmedia] at hconf
    exact hbegin.trans (.of_eq hconf)

theorem via_confirmConference : Via s.ledger (s.confirmConference c).1.ledger := by
  unfold confirmConference
  split
  · exact .refl _
  split
  · exact .refl _
  split
  · exact .refl _
  next session hsession =>
  split
  · exact .refl _
  next hphase =>
  split
  · exact .refl _
  · refine via_putSession hsession rfl rfl fun _ h _ => h ?_
    simp only [ne_eq, not_not] at hphase
    simp [ConferenceSession.view, hphase]

theorem via_conferenceMerged : Via s.ledger (s.conferenceMerged c).1.ledger := by
  unfold conferenceMerged
  split
  · exact .refl _
  next found _ =>
  split
  · exact .refl _
  next session hsession =>
  split
  · exact .refl _
  simp only
  generalize (if session.mediaPolicy.muteOnEntry then
    muteListeners session.participants else session.participants) = participants
  have hput : Via s.ledger (s.putSession found.consultationHandsetCallId
      { session with phase := .active, participants }).ledger :=
    via_putSession hsession rfl rfl fun _ _ => .of_active rfl
  exact hput.trans (via_connectParticipants _)

/-! ## Invites -/

/-- Where sessions are stored under their own keys, looking one up again finds
    the same one. -/
theorem stored_view_eq {s' : Controller} {k : CallId} (hl : s'.ledger.session = s.ledger.session)
    (hapart : s'.ledger.SessionsApart)
    (hsession : s.conferencesByConsultation.get? k = some session)
    (hstored : s'.conferencesByConsultation.get? session.consultationHandsetCallId = some stored) :
    stored.view = session.view := by
  have hv : s'.ledger.session k = some session.view := by
    rw [hl]
    simp [ledger, hsession]
  have hk : session.consultationHandsetCallId = k := hapart.keyed k _ hv
  have hv' : s'.ledger.session k = some stored.view := by
    rw [← hk]
    simp [ledger, hstored]
  rw [hv] at hv'
  exact (Option.some.inj hv').symm

/-- Where no two sessions have the same id, a session is found by its id. -/
theorem entry_unique {k key : CallId} (hapart : s.ledger.SessionsApart)
    (hsession : s.conferencesByConsultation.get? k = some session)
    (hentry : s.sessionEntryById session.id = some (key, stored)) : key = k ∧ stored = session := by
  obtain ⟨hstored, hid⟩ := Table.find?_some hentry
  have hkey : key = k := hapart.single key k stored.view session.view (by simp [ledger, hstored])
    (by simp [ledger, hsession]) (of_decide_eq_true hid)
  subst hkey
  rw [hsession] at hstored
  exact ⟨rfl, (Option.some.inj hstored).symm⟩

theorem conferenceSessionByPbx_get? {p : PbxCallId} {session : ConferenceSession}
    (h : s.conferenceSessionByPbx p = some session) :
    ∃ k, s.conferencesByConsultation.get? k = some session := by
  unfold conferenceSessionByPbx at h
  split at h
  · cases h
  · exact ⟨_, h⟩

theorem conferenceSession_get? (h : s.conferenceSession c = some session) :
    ∃ k, s.conferencesByConsultation.get? k = some session := by
  unfold conferenceSession at h
  split at h
  · cases h
  · exact conferenceSessionByPbx_get? h

theorem inviteModerator_active {moderator : ConferenceParticipant}
    (h : s.inviteModerator session c binding = .ok moderator) : session.phase = .active := by
  unfold inviteModerator at h
  split at h
  · cases h
  · next hg =>
    simp only [not_or, ne_eq, not_not] at hg
    exact hg.1

theorem via_beginConferenceInvite {c' : CallId} {codec : Codec} {now : Instant} :
    Via s.ledger (s.beginConferenceInvite c c' binding codec now).1.ledger := by
  unfold beginConferenceInvite
  split
  · exact .refl _
  next hfresh =>
  split
  · exact .refl _
  next session hsession =>
  split
  · exact .refl _
  next moderator hmoderator =>
  have hvia := via_hold (s := s) c
  simp only
  split
  · exact hvia
  have hnew := hvia.trans (via_beginPhoneCall (s := (s.hold c).1) c' binding codec now)
  have hsame : ((s.hold c).1.beginPhoneCall c' binding codec now).1.ledger.session
      = s.ledger.session := by
    rcases beginPhoneCall_cases (s.hold c).1 c' binding codec now with
      ⟨htaken, _⟩ | ⟨p, a, _, hcreated⟩
    · exact absurd (hold_bySccp (s := s) c c' ▸ htaken) hfresh
    · exact hcreated.session.trans (hold_holding c).session
  refine hnew.trans ?_
  generalize ((s.hold c).1.beginPhoneCall c' binding codec now).1 = s₁ at hsame ⊢
  split
  · exact via_resume c
  next invite hinvite =>
  have hpart := ledger_conferenceParticipant (s := s₁) invite false
  generalize s₁.conferenceParticipant invite false = r at hpart ⊢
  refine Via.trans (.of_eq hpart) ?_
  split
  · exact (via_resume c).trans (via_removePbxCall _)
  next stored hstored =>
  refine .step (.reseat session.consultationHandsetCallId []
    (some (session.consultationHandsetCallId, _)) _) ?_ (.of_eq (ledger_seat' ..))
  refine seatOk_stored hstored rfl id fun hapart _ => .of_active ?_
  obtain ⟨k, hk⟩ := conferenceSession_get? hsession
  have hview := stored_view_eq ((congrArg Ledger.session hpart).trans hsame) hapart hk hstored
  exact (congrArg SessionView.phase hview).trans (inviteModerator_active hmoderator)

theorem via_conferenceInviteMerged : Via s.ledger (s.conferenceInviteMerged c).1.ledger := by
  unfold conferenceInviteMerged
  split
  · exact .refl _
  next found _ =>
  split
  · exact .refl _
  next session hsession =>
  split
  · exact .refl _
  next invite hinvite =>
  split
  · exact .refl _
  split
  · exact .refl _
  next registry _ =>
  simp only
  generalize (if session.mediaPolicy.muteOnEntry then
    registry.setMuted invite.participant.id true else registry) = participants
  have hput : Via s.ledger (s.putSession found.consultationHandsetCallId
      { session with pendingInvite := none, participants }).ledger :=
    via_putSession hsession rfl rfl fun _ =>
      early_of_pending rfl (.inl (by simp [hinvite]))
  exact hput.trans (via_connectParticipants _)

theorem via_reconnectModerator (moderator : Option ConferenceParticipant) (media : Bool) :
    Via s.ledger (s.reconnectModerator moderator media).ledger := by
  cases moderator with
  | none => exact .refl _
  | some m =>
    exact (via_modifyCall m.pbxCallId (e := .to .connected) fun _ => rfl).trans
      (via_modifyAppearanceOf m.handsetCallId fun _ => rfl)

theorem via_abortConferenceInvite (c : CallId) (channel needsResume media : Bool) :
    Via s.ledger (s.abortConferenceInvite c channel needsResume media).1.ledger := by
  unfold abortConferenceInvite
  split
  · exact .refl _
  next found hfound =>
  split
  · exact .refl _
  next session hsession =>
  split
  · exact .refl _
  next invite hinvite =>
  split
  · exact .refl _
  have hl : ((s.putSession found.consultationHandsetCallId
      { session with pendingInvite := none }).unindexCalls [invite.participant]).ledger
      = s.ledger.reseat found.consultationHandsetCallId [invite.participant.pbxCallId]
        (some (found.consultationHandsetCallId,
          { session with pendingInvite := none }.view)) [] := by
    rw [ledger_unindexCalls, ledger_putSession]
    apply Ledger.ext <;> try rfl
    funext x
    by_cases hx : x = found.consultationHandsetCallId <;> simp [Ledger.reseat, hx]
  simp only
  refine .step (.reseat found.consultationHandsetCallId
    [invite.participant.pbxCallId] (some (found.consultationHandsetCallId, _)) [])
    ?_ (Via.trans (.of_eq hl) ?_)
  · exact seatOk_stored hsession rfl id fun _ =>
      early_of_pending rfl (.inl (by simp [hinvite]))
  · exact (via_removePbxCall _).trans (via_reconnectModerator ..)

/-! ## Endings -/

theorem via_removeCalls (ps : List ConferenceParticipant) :
    Via s.ledger (s.removeCalls ps).ledger := by
  induction ps generalizing s with
  | nil => exact .refl _
  | cons q rest ih =>
    simp only [removeCalls]
    exact (via_removePbxCall _).trans ih

variable (session)

theorem via_endConferenceInternal (created : Bool) (hungUp : Option PbxCallId) :
    Via s.ledger (s.endConferenceInternal session created hungUp).1.ledger := by
  unfold endConferenceInternal
  have hl : (((s.dropSessionToken session).dropSession
      session.consultationHandsetCallId).unindexCalls (ownedParticipants session)).ledger
      = (s.ledger.dropToken (.session session.id)).reseat session.consultationHandsetCallId
        (callsOf (ownedParticipants session)) none [] := by
    rw [ledger_unindexCalls, ledger_dropSession, ledger_dropSessionToken]
    apply Ledger.ext <;> try rfl
    funext c
    by_cases hc : c = session.consultationHandsetCallId <;> simp [Ledger.reseat, hc]
  refine .step (.dropToken (.session session.id)) trivial
    (.step (.reseat session.consultationHandsetCallId (callsOf (ownedParticipants session)) none [])
      trivial (Via.trans (.of_eq hl) (via_removeCalls _)))

/-- A session is stored anew without one of its calls, which ends. -/
theorem ledger_depart (key : CallId) (gone : ConferenceParticipant) (next : ConferenceSession)
    (ps : List ConferenceParticipant) :
    (((((s.dropSession key).unindexCalls [gone]).removePbxCall gone.pbxCallId).1.indexCalls
      next.consultationHandsetCallId ps).putSession next.consultationHandsetCallId next).ledger
      = (s.ledger.reseat key [gone.pbxCallId] (some (next.consultationHandsetCallId, next.view))
        (callsOf ps)).endCall gone.pbxCallId := by
  have hgone : ((s.dropSession key).unindexCalls [gone]).ledger
      = s.ledger.seated (update s.ledger.session key none)
        (fun p => if p ∈ callsOf [gone] then none else s.ledger.sessionOf p) := by
    rw [ledger_unindexCalls, ledger_dropSession]
    rfl
  have hnext : ∃ f g, s.ledger.reseat key [gone.pbxCallId]
      (some (next.consultationHandsetCallId, next.view)) (callsOf ps) = s.ledger.seated f g
      ∧ f = update (update s.ledger.session key none) next.consultationHandsetCallId
        (some next.view) ∧ g = fun p => if p ∈ callsOf ps then some next.consultationHandsetCallId
        else if p ∈ callsOf [gone] then none else s.ledger.sessionOf p := by
    refine ⟨_, _, rfl, ?_, rfl⟩
    funext c
    by_cases hc : c = next.consultationHandsetCallId
    · simp [hc]
    · simp only [hc, if_false, Function.update_apply]
  obtain ⟨f, g, hreseat, rfl, rfl⟩ := hnext
  rw [ledger_putSession, ledger_indexCalls, ledger_removePbxCall, hgone, hreseat,
    Ledger.seated_endCall, Ledger.seated_endCall]
  rfl

theorem replaceConsultation_id (needed : Bool) :
    (replaceConsultation session needed).id = session.id := by
  unfold replaceConsultation
  split <;> try rfl
  split <;> rfl

theorem afterDeparture_id (p : PbxCallId) : (afterDeparture session p).id = session.id := by
  unfold afterDeparture
  rw [replaceConsultation_id]
  split
  · rfl
  · split <;> rfl

theorem replaceConsultation_early (needed : Bool)
    (h : session.view.Early) : (replaceConsultation session needed).view.Early := by
  unfold replaceConsultation
  split
  · exact h
  · split
    · exact h
    · exact h

theorem afterDeparture_early (p : PbxCallId)
    (h : session.view.Early) : (afterDeparture session p).view.Early := by
  unfold afterDeparture
  apply replaceConsultation_early
  split
  · exact h
  · split
    · exact h
    · exact h

variable {session}

/-- A conference that goes on without one participant still has a moderator. -/
theorem moderator_remains {departing : ConferenceParticipant}
    (hmem : departing ∈ session.participants.participants) (h : mustEnd session departing = false) :
    ∃ p ∈ (session.participants.remove departing.id).participants, p.moderator = true := by
  simp only [mustEnd, Bool.or_eq_false_iff, decide_eq_false_iff_not] at h
  have hcount : ((session.participants.remove departing.id).participants.filter
      (·.moderator)).length ≠ 0 := by
    have heq := session.participants.countP_remove hmem (·.moderator)
    have hne : session.participants.moderatorCount - (if departing.moderator then 1 else 0) ≠ 0 :=
      h.1.1.2
    unfold ConferenceParticipantRegistry.moderatorCount at hne
    omega
  obtain ⟨p, hp⟩ := List.exists_mem_of_length_pos (Nat.pos_of_ne_zero hcount)
  exact ⟨p, List.mem_filter.mp hp⟩

theorem via_activeConferenceDeparture {p : PbxCallId} {hungUp : Option PbxCallId} {announce : Bool}
    (hsession : ∃ k, s.conferencesByConsultation.get? k = some session) :
    Via s.ledger (s.activeConferenceDeparture session p hungUp announce).1.ledger := by
  unfold activeConferenceDeparture
  split
  · exact via_endConferenceInternal session true hungUp
  next departing hdep =>
  split
  · exact via_endConferenceInternal session true hungUp
  next hgoes =>
  split
  · exact .refl _
  next stored hstored =>
  simp only
  refine .step (.reseat session.consultationHandsetCallId [departing.pbxCallId]
    (some (_, _)) (callsOf _)) ?_
    (.step (.endCall departing.pbxCallId) trivial (.of_eq (ledger_depart ..)))
  refine seatOk_stored hstored (afterDeparture_id ..) (fun _ => rfl)
    fun hapart hearly => afterDeparture_early _ _ fun hphase => ?_
  obtain ⟨k, hk⟩ := hsession
  have hkey : session.consultationHandsetCallId = k :=
    hapart.keyed k session.view (by simp [ledger, hk])
  rw [hkey, hk] at hstored
  cases hstored
  obtain ⟨hinvite, hmutation, hheld, _⟩ := hearly hphase
  obtain ⟨q, hq, hmoderator⟩ := moderator_remains
    (List.mem_of_find?_eq_some hdep) (by simpa using hgoes)
  refine ⟨hinvite, hmutation, fun v hv => ?_, q.view, List.mem_map_of_mem hq, hmoderator⟩
  obtain ⟨x, hx, rfl⟩ := List.mem_map.mp hv
  exact hheld _ (List.mem_map_of_mem (List.mem_filter.mp hx).1)

theorem via_cancelConference (c : CallId) : Via s.ledger (s.cancelConference c).1.ledger := by
  unfold cancelConference
  split
  · exact .refl _
  · split
    · exact .refl _
    · exact via_abortConference ..

theorem via_endConference : Via s.ledger (s.endConference c).1.ledger := by
  unfold endConference
  split
  · exact .refl _
  · split
    · exact .refl _
    · exact via_endConferenceInternal ..

theorem via_endConferenceByModerator {d : DeviceId} {i : ConferenceId} :
    Via s.ledger (s.endConferenceByModerator d i).1.ledger := by
  unfold endConferenceByModerator
  split
  · exact .refl _
  next session _ =>
  split
  · exact .refl _
  split
  · exact .refl _
  · split
    · exact .refl _
    · exact via_endConferenceInternal session true none

theorem via_drainSessions (sessions : List ConferenceSession) :
    Via s.ledger (s.drainSessions sessions).1.ledger := by
  induction sessions generalizing s with
  | nil => exact .refl _
  | cons session rest ih =>
    simp only [drainSessions]
    exact (via_endConferenceInternal ..).trans ih

/-! ## Tokens -/

theorem via_completeConferenceMutation {t : ConferenceMutationToken} :
    Via s.ledger (s.completeConferenceMutation t).1.ledger := by
  rcases s.ledger_completeConferenceMutation t with h | h
  · exact .of_eq h
  · exact .step (.dropToken t.owner) trivial (.of_eq h)

theorem via_allocateConferenceMutation (o : ConferenceMutationOwner) :
    Via s.ledger (s.allocateConferenceMutation o).1.ledger := by
  rcases s.ledger_allocateConferenceMutation o with h | ⟨hen, h⟩
  · exact .of_eq h
  · exact .step (.issue o) hen (.of_eq h)

theorem via_claimConferenceMutation : Via s.ledger (s.claimConferenceMutation c).1.ledger := by
  unfold claimConferenceMutation
  split
  · exact .refl _
  · exact via_allocateConferenceMutation _

theorem via_claimConferenceMutationById {i : ConferenceId} :
    Via s.ledger (s.claimConferenceMutationById i).1.ledger := by
  unfold claimConferenceMutationById
  split
  · exact .refl _
  · exact via_allocateConferenceMutation _

end Controller

end Sccp
