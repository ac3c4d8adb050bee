/-
  Sccp.Safety.MusicRuns

  Conference music over runs.  From the merge that makes a conference active on,
  the music of its participants agrees with its listeners in every state of a run
  exactly if no step of the run is one of those that the switches do not cover.
-/

import Sccp.Safety.Music

namespace Sccp

/-- Who is in a session, who is invited by whom, what is reserved, and the music
    class: what only operations on the conference change. -/
structure Roster where
  members : List (Audience.Member ParticipantId)
  invite : Option (ParticipantId × Bool × Bool)
  mutation : Option ConferenceParticipantMutation
  musicClass : Option String
  deriving DecidableEq

/-! ## The condition on a step -/

namespace ConferenceSession

def roster (session : ConferenceSession) : Roster :=
  { members := session.members
    invite := session.pendingInvite.map fun invite =>
      (invite.moderatorId, invite.musicStarted, invite.participant.moderator)
    mutation := session.pendingParticipantMutation
    musicClass := session.mediaPolicy.musicOnHoldClass }

/-- When an operation on the session leaves the music right: an invite, unless its
    moderator is marked as held while another one listens; a merge, unless no
    moderator listens; a departure that does not end the conference, unless it is
    that of the last listening moderator.  Without participants who are not
    moderators there is no music to be right. -/
def Careful (session : ConferenceSession) : ConferenceOperation → Prop
  | .invite moderatorCallId .. =>
    ∀ m, session.participants.participants.find? (fun p =>
        p.moderator && p.handsetCallId = moderatorCallId) = some m →
      m.held = true → session.participants.activeModeratorCount = 1 →
      ∀ p ∈ session.participants.participants, p.moderator = true
  | .mergeInvite _ => session.participants.activeModeratorCount ≠ 0
  | .depart pbxId _ _ =>
    ∀ m, session.participants.participants.find? (·.pbxCallId = pbxId) = some m →
      Controller.mustEnd session m = false → m.moderator = true → m.held = false →
      session.participants.activeModeratorCount = 1 →
      ∀ p ∈ session.participants.participants, p.moderator = true
  | _ => True

end ConferenceSession

/-! ## One session -/

/-- A session and the music of its participants. -/
structure Seated (session : ConferenceSession) (music : Music) : Prop where
  classed : session.mediaPolicy.musicOnHoldClass.isSome = true
  sound : Audience.Sound session.members session.inviting music
  invite : ∀ invite, session.pendingInvite = some invite →
    invite.musicStarted = decide (session.participants.activeModeratorCount = 1)
      ∧ invite.participant.moderator = false
  silent : ∀ i, i ∉ session.participants.participants.map (·.id) → music i = false

/-- Every participant who is not a moderator hears music exactly when no moderator
    listens. -/
def Agree (session : ConferenceSession) (music : Music) : Prop :=
  ∀ p ∈ session.participants.participants, p.moderator = false → music p.id = !session.listened

section

variable {session session' : ConferenceSession} {music : Music} {effects : List DriverEffect}
  {op : ConferenceOperation}

theorem Seated.agree (h : Seated session music) : Agree session music := by
  intro p hp hlistener
  rw [ConferenceSession.listened_eq]
  exact h.sound.guests p.member (List.mem_map_of_mem hp) hlistener

/-- The music of the participants of a session alone. -/
def ofSession (session : ConferenceSession) (music : Music) : Music :=
  fun i => decide (i ∈ session.participants.participants.map (·.id)) && music i

theorem ofSession_mem {y : Audience.Member ParticipantId} (h : y ∈ session.members)
    (music : Music) : ofSession session music y.id = music y.id := by
  obtain ⟨p, hp, rfl⟩ := List.mem_map.mp h
  have hmem : p.id ∈ session.participants.participants.map (·.id) := List.mem_map_of_mem hp
  simp only [ofSession, ConferenceParticipant.member, hmem, decide_true, Bool.true_and]

/-- The music of a session that an operation has made, from what it has switched. -/
theorem Seated.of_sound (hclass : session'.mediaPolicy.musicOnHoldClass.isSome = true)
    (hsound : Audience.Sound session'.members session'.inviting music)
    (hinvite : ∀ invite, session'.pendingInvite = some invite →
      invite.musicStarted = decide (session'.participants.activeModeratorCount = 1)
        ∧ invite.participant.moderator = false) : Seated session' (ofSession session' music) where
  classed := hclass
  sound := hsound.congr fun _ hy => ofSession_mem hy music
  invite := hinvite
  silent := by
    intro i hi
    simp [ofSession, hi]

theorem inviting_of_none (h : session.pendingInvite = none) : session.inviting = none := by
  rw [ConferenceSession.inviting, h]
  rfl

theorem hosts_of_moderators (h : ∀ p ∈ session.participants.participants, p.moderator = true) :
    ∀ y ∈ session.members, y.host = true := by
  intro y hy
  obtain ⟨p, hp, rfl⟩ := List.mem_map.mp hy
  exact h p hp

/-- A careful operation leaves the music right. -/
theorem Seated.staged (h : Seated session music) (hstage : Stage session session' effects op)
    (hpolicy : session'.mediaPolicy = session.mediaPolicy) (hcare : session.Careful op) :
    Seated session' (ofSession session' (music.play effects)) := by
  have hn := session.members_nodup
  have hsound := h.sound
  have hclass : session'.mediaPolicy.musicOnHoldClass.isSome = true := by
    rw [hpolicy]
    exact h.classed
  have hnone : ∀ {x : ConferenceSession}, x.pendingInvite = none → ∀ invite,
      x.pendingInvite = some invite →
      invite.musicStarted = decide (x.participants.activeModeratorCount = 1)
        ∧ invite.participant.moderator = false := by
    intro x hx invite hinvite
    rw [hx] at hinvite
    cases hinvite
  have hcount : ∀ x : ConferenceSession, x.members = session.members →
      x.participants.activeModeratorCount = session.participants.activeModeratorCount := by
    intro x hx
    rw [← ConferenceSession.presence_members, hx, ConferenceSession.presence_members]
  have hstill : session'.members = session.members →
      session'.pendingInvite = session.pendingInvite → Quiet effects →
      Seated session' (ofSession session' (music.play effects)) := by
    intro hmembers hinvite hquiet
    rw [Music.play_quiet _ hquiet]
    refine .of_sound hclass ?_ ?_
    · rw [hmembers, ConferenceSession.inviting, hinvite]
      exact hsound
    · rw [hinvite, hcount _ hmembers]
      exact h.invite
  cases hstage with
  | muted hmembers hinvite hquiet => exact hstill hmembers hinvite hquiet
  | notInvited hmembers hinvite hquiet => exact hstill hmembers hinvite hquiet
  | invited m guest hfound hidle hmembers hinvite hlistener hmusic =>
    rw [inviting_of_none hidle] at hsound
    have hm : m ∈ session.participants.participants := List.mem_of_find?_eq_some hfound
    have hmoderator : m.moderator = true := by
      have := List.find?_some hfound
      simp only [Bool.and_eq_true] at this
      exact this.1
    rw [hmusic]
    refine .of_sound hclass ?_ ?_
    · have hout : session'.inviting = some m.id := by
        rw [ConferenceSession.inviting, hinvite]
        rfl
      rw [hmembers, hout, ← ConferenceSession.presence_members]
      refine hsound.steppedOut (x := m.member) hn (List.mem_map_of_mem hm) hmoderator ?_
      intro haway hone
      rw [ConferenceSession.presence_members] at hone
      exact hosts_of_moderators (hcare m hfound haway hone)
    · intro invite heq
      rw [hinvite] at heq
      cases heq
      exact ⟨by rw [hcount _ hmembers], hlistener⟩
  | merged invite hpending hmembers hnew hdone hmusic =>
    obtain ⟨hstarted, hlistener⟩ := h.invite invite hpending
    rw [ConferenceSession.inviting, hpending] at hsound
    rw [hmusic, hstarted]
    refine .of_sound hclass ?_ (hnone hdone)
    rw [hmembers, inviting_of_none hdone, ← ConferenceSession.presence_members]
    simp only [decide_eq_true_eq]
    refine hsound.joined (x := invite.participant.member) hn ?_ hlistener hnew (h.silent _ ?_)
    · rw [ConferenceSession.presence_members]
      exact hcare
    · intro hin
      obtain ⟨p, hp, hid⟩ := List.mem_map.mp hin
      exact hnew p.member (List.mem_map_of_mem hp) hid
  | aborted invite hpending hmembers hdone hmusic =>
    obtain ⟨hstarted, _⟩ := h.invite invite hpending
    rw [ConferenceSession.inviting, hpending] at hsound
    rw [hmusic, hstarted]
    refine .of_sound hclass ?_ (hnone hdone)
    rw [hmembers, inviting_of_none hdone, ← ConferenceSession.presence_members]
    simp only [decide_eq_true_eq]
    exact hsound.returned hn
  | @moved c isHeld p hp hmoderator hchanges hidle hmembers hdone hmusic =>
    rw [inviting_of_none hidle] at hsound
    rw [hmusic]
    refine .of_sound hclass ?_ (hnone hdone)
    rw [hmembers, inviting_of_none hdone, ← ConferenceSession.presence_members]
    exact hsound.moved (x := p.member) hn (List.mem_map_of_mem hp) hmoderator hchanges
  | promoted p hp hlistener hpresent hidle hmembers hdone hmusic =>
    rw [inviting_of_none hidle] at hsound
    rw [hmusic]
    refine .of_sound hclass ?_ (hnone hdone)
    rw [hmembers, inviting_of_none hdone, ← ConferenceSession.presence_members]
    exact hsound.promoted (x := p.member) hn (List.mem_map_of_mem hp) hlistener hpresent
  | demoted p hp hmoderator hpresent hidle hmembers hdone hmusic =>
    rw [inviting_of_none hidle] at hsound
    rw [hmusic]
    refine .of_sound hclass ?_ (hnone hdone)
    rw [hmembers, inviting_of_none hdone, ← ConferenceSession.presence_members]
    exact hsound.demoted (x := p.member) hn (List.mem_map_of_mem hp) hmoderator hpresent
  | removed p hp hlistener hidle hmembers hdone hquiet =>
    rw [inviting_of_none hidle] at hsound
    rw [Music.play_quiet _ hquiet]
    refine .of_sound hclass ?_ (hnone hdone)
    rw [hmembers, inviting_of_none hdone]
    refine hsound.left (x := p.member) hn (List.mem_map_of_mem hp) fun hpresent => ?_
    rw [Audience.Member.present, ConferenceParticipant.member, hlistener] at hpresent
    cases hpresent
  | departed p hfound hgoes hidle hmembers hdone hquiet =>
    rw [inviting_of_none hidle] at hsound
    rw [Music.play_quiet _ hquiet]
    refine .of_sound hclass ?_ (hnone hdone)
    rw [hmembers, inviting_of_none hdone]
    refine hsound.left (x := p.member) hn
      (List.mem_map_of_mem (List.mem_of_find?_eq_some hfound)) fun hpresent hone => ?_
    simp only [Audience.Member.present, ConferenceParticipant.member, Bool.and_eq_true,
      Bool.not_eq_true'] at hpresent
    rw [ConferenceSession.presence_members] at hone
    exact hosts_of_moderators (hcare p hfound hgoes hpresent.1 hpresent.2 hone)

/-- The end of a conference leaves no music that could be wrong. -/
theorem ConferenceSession.EndsBy.careful (h : session.EndsBy op) : session.Careful op := by
  cases op with
  | depart p hungUp announce =>
    intro m hm hgoes
    rw [h m hm] at hgoes
    cases hgoes
  | _ => exact False.elim h

theorem agree_iff : Agree session music ↔ ∀ y ∈ session.members, y.host = false →
    music y.id = !Audience.attended session.members session.inviting := by
  rw [← ConferenceSession.listened_eq]
  constructor
  · intro h y hy hguest
    obtain ⟨p, hp, rfl⟩ := List.mem_map.mp hy
    exact h p hp hguest
  · intro h p hp hlistener
    exact h p.member (List.mem_map_of_mem hp) hlistener

/-- A participant who is not a moderator, unless all are. -/
theorem exists_guest (h : ¬∀ p ∈ session.participants.participants, p.moderator = true) :
    ∃ y ∈ session.members, y.host = false := by
  simp only [not_forall, Bool.not_eq_true] at h
  obtain ⟨p, hp, hlistener⟩ := h
  exact ⟨p.member, List.mem_map_of_mem hp, hlistener⟩

/-- Only careful operations leave the music right. -/
theorem Seated.careful (h : Seated session music) (hstage : Stage session session' effects op)
    (hagree : Agree session' (ofSession session' (music.play effects))) : session.Careful op := by
  have hn := session.members_nodup
  have hagree' : ∀ y ∈ session'.members, y.host = false →
      music.play effects y.id = !Audience.attended session'.members session'.inviting := by
    intro y hy hguest
    rw [← agree_iff.mp hagree y hy hguest, ofSession_mem hy]
  cases hstage with
  | muted => trivial
  | notInvited => trivial
  | invited m guest hfound hidle hmembers hinvite hlistener hmusic =>
    intro m' hm' haway hone
    rw [hfound] at hm'
    cases hm'
    by_contra hall
    obtain ⟨y, hy, hguest⟩ := exists_guest hall
    have hout : session'.inviting = some m.id := by
      rw [ConferenceSession.inviting, hinvite]
      rfl
    rw [← ConferenceSession.presence_members] at hone
    have hwrong := hagree' y (hmembers ▸ hy) hguest
    rw [hmusic, ← ConferenceSession.presence_members, if_pos hone, hmembers, hout] at hwrong
    exact Audience.steppedOut_wrong (x := m.member) hn
      (List.mem_map_of_mem (List.mem_of_find?_eq_some hfound)) haway hone hy hguest hwrong
  | merged invite hpending hmembers hnew hdone hmusic =>
    obtain ⟨hstarted, hlistener⟩ := h.invite invite hpending
    intro hzero
    -- the new participant is silent although nobody listens
    have hjoin := hagree' invite.participant.member (by simp [hmembers]) hlistener
    have hquiet : music invite.participant.id = false := by
      refine h.silent _ fun hin => ?_
      obtain ⟨p, hp, hid⟩ := List.mem_map.mp hin
      exact hnew p.member (List.mem_map_of_mem hp) hid
    have hempty : Audience.presence session'.members = 0 := by
      rw [← ConferenceSession.presence_members] at hzero
      simp only [Audience.presence] at hzero
      rw [hmembers, Audience.presence, List.countP_append, hzero]
      simp [Audience.Member.present, ConferenceParticipant.member, hlistener]
    rw [hmusic, hstarted, hzero, Audience.attended_of_none hempty] at hjoin
    rw [show (decide (0 = 1)) = false from rfl, if_neg Bool.false_ne_true] at hjoin
    exact Bool.false_ne_true (hquiet.symm.trans hjoin)
  | aborted => trivial
  | moved => trivial
  | promoted => trivial
  | demoted => trivial
  | removed => trivial
  | departed p hfound hgoes hidle hmembers hdone hquiet =>
    intro m hm _ hmoderator hpresent hone
    rw [hfound] at hm
    cases hm
    by_contra hall
    obtain ⟨y, hy, hguest⟩ := exists_guest hall
    have hsound := h.sound
    rw [inviting_of_none hidle] at hsound
    rw [← ConferenceSession.presence_members] at hone
    have hp : p.member ∈ session.members :=
      List.mem_map_of_mem (List.mem_of_find?_eq_some hfound)
    have hstays : y ∈ session'.members := by
      rw [hmembers]
      refine List.mem_filter.mpr ⟨hy, ?_⟩
      rw [decide_eq_true_eq]
      intro hid
      rw [List.inj_on_of_nodup_map hn hy hp hid, ConferenceParticipant.member, hmoderator] at hguest
      cases hguest
    have hwrong := hagree' y hstays hguest
    rw [Music.play_quiet _ hquiet, hmembers, inviting_of_none hdone] at hwrong
    exact Audience.left_wrong (x := p.member) hn hsound hp
      (by simp [Audience.Member.present, ConferenceParticipant.member, hmoderator, hpresent])
      hone hy hguest hwrong

/-- A session with the same roster has the same music. -/
theorem Seated.of_roster (h : Seated session music) (hroster : session'.roster = session.roster) :
    Seated session' music := by
  simp only [ConferenceSession.roster, Roster.mk.injEq] at hroster
  obtain ⟨hmembers, hinvite, _, hclass⟩ := hroster
  have hcount : session'.participants.activeModeratorCount
      = session.participants.activeModeratorCount := by
    rw [← ConferenceSession.presence_members, hmembers, ConferenceSession.presence_members]
  have hinviting : session'.inviting = session.inviting := by
    have hfst := congrArg (Option.map Prod.fst) hinvite
    rw [Option.map_map, Option.map_map] at hfst
    exact hfst
  refine ⟨hclass ▸ h.classed, ?_, ?_, ?_⟩
  · rw [hmembers, hinviting]
    exact h.sound
  · intro invite heq
    rw [heq] at hinvite
    obtain ⟨invite₀, hinvite₀, hsame⟩ := Option.map_eq_some_iff.mp hinvite.symm
    simp only [Prod.mk.injEq] at hsame
    obtain ⟨hstarted, hlistener⟩ := h.invite invite₀ hinvite₀
    rw [hcount, ← hsame.2.1, ← hsame.2.2]
    exact ⟨hstarted, hlistener⟩
  intro i hi
  refine h.silent i fun hin => hi ?_
  have hids : ∀ x : ConferenceSession, x.participants.participants.map (·.id)
      = x.members.map (·.id) := by
    intro x
    rw [ConferenceSession.members, List.map_map]
    rfl
  rw [hids, hmembers, ← hids]
  exact hin

end

/-! ## Runs -/

namespace Concert

variable {i : ConferenceId} {w : Concert} {e : ConcertEvent}

/-- In the session, if it is there, the music agrees with the listeners. -/
def Agrees (i : ConferenceId) (w : Concert) : Prop :=
  ∀ session, w.controller.conferenceSessionById i = some session → Agree session w.music

instance (session : ConferenceSession) (music : Music) : Decidable (Agree session music) :=
  inferInstanceAs (Decidable (∀ p ∈ session.participants.participants, _ → _))

instance (i : ConferenceId) : DecidablePred (Agrees i) := fun w =>
  match h : w.controller.conferenceSessionById i with
  | none => .isTrue fun session hsession => by
      rw [h] at hsession
      cases hsession
  | some session =>
    decidable_of_iff (Agree session w.music) ⟨fun hagree x hx => by
        rw [h] at hx
        cases hx
        exact hagree, fun hagrees => hagrees session h⟩

/-- A committed operation on the conference, or an event that leaves its roster as
    it is. -/
def InScope (i : ConferenceId) (w : Concert) : ConcertEvent → Prop
  | .operation op => (w.controller.commitOperation i op).isSome = true
  | .elsewhere event =>
    ((w.controller.handle event).conferenceSessionById i).map (·.roster)
      = (w.controller.conferenceSessionById i).map (·.roster)

instance (i : ConferenceId) (w : Concert) : ∀ e, Decidable (InScope i w e)
  | .operation op =>
    inferInstanceAs (Decidable ((w.controller.commitOperation i op).isSome = true))
  | .elsewhere event =>
    inferInstanceAs (Decidable (((w.controller.handle event).conferenceSessionById i).map
      (·.roster) = (w.controller.conferenceSessionById i).map (·.roster)))

/-- The condition on one event: the operation on the conference, if it is one, is
    careful. -/
def Careful (i : ConferenceId) (w : Concert) : ConcertEvent → Prop
  | .operation op =>
    ∀ session, w.controller.conferenceSessionById i = some session → session.Careful op
  | .elsewhere _ => True

/-- The sessions are in order, and the music of this one is right. -/
structure Sound (i : ConferenceId) (w : Concert) : Prop where
  sessions : w.controller.ledger.SessionsSound
  seated : ∀ session, w.controller.conferenceSessionById i = some session → Seated session w.music

theorem Sound.agrees (h : Sound i w) : Agrees i w :=
  fun session hsession => (h.seated session hsession).agree

/-- What a committed operation makes of the concert. -/
theorem Sound.operation (h : Sound i w) {op : ConferenceOperation}
    (hscope : InScope i w (.operation op)) :
    (step i w (.operation op)).controller.ledger.SessionsSound
      ∧ ∃ session, w.controller.conferenceSessionById i = some session
        ∧ ((step i w (.operation op)).controller.conferenceSessionById i = none ∧ session.EndsBy op
          ∨ ∃ session' effects, Stage session session' effects op
            ∧ session'.mediaPolicy = session.mediaPolicy
            ∧ (step i w (.operation op)).controller.conferenceSessionById i = some session'
            ∧ (step i w (.operation op)).music = ofSession session' (w.music.play effects)) := by
  obtain ⟨⟨s', effects⟩, hcommit⟩ := Option.isSome_iff_exists.mp hscope
  have hsessions := (Controller.via_commitOperation hcommit).sessionsSound h.sessions
  have hclass := fun session hsession => (h.seated session hsession).classed
  obtain ⟨session, hsession, hout⟩ := Controller.commit_staged h.sessions hclass hcommit
  simp only [step, hcommit]
  refine ⟨hsessions, session, hsession, ?_⟩
  rcases hout with hgone | ⟨k, session', hget, hid, hpolicy, hstage⟩
  · exact .inl hgone
  obtain ⟨_, _, _, hi⟩ := Controller.get?_of_byId hsession
  have hbyId : s'.conferenceSessionById i = some session' := by
    rw [← hi, ← hid]
    exact Controller.byId_insert hsessions.toSessionsApart hget
  refine .inr ⟨session', effects, hstage, hpolicy, hbyId, ?_⟩
  funext p
  simp only [Controller.participantIds, hbyId, Option.map_some, Option.getD_some, ofSession]

theorem Sound.step (h : Sound i w) (hscope : InScope i w e) (hcare : Careful i w e) :
    Sound i (Concert.step i w e) := by
  cases e with
  | operation op =>
    obtain ⟨hsessions, session, hsession, hout⟩ := h.operation hscope
    refine ⟨hsessions, fun x hx => ?_⟩
    rcases hout with ⟨hgone, _⟩ | ⟨session', effects, hstage, hpolicy, hbyId, hmusic⟩
    · rw [hgone] at hx
      cases hx
    rw [hbyId] at hx
    cases hx
    rw [hmusic]
    exact (h.seated session hsession).staged hstage hpolicy (hcare session hsession)
  | elsewhere event =>
    refine ⟨(w.controller.via_handle event).sessionsSound h.sessions, fun x hx => ?_⟩
    have hroster : ((w.controller.handle event).conferenceSessionById i).map (·.roster)
        = (w.controller.conferenceSessionById i).map (·.roster) := hscope
    have hx' : (w.controller.handle event).conferenceSessionById i = some x := hx
    rw [hx'] at hroster
    obtain ⟨session, hsession, hsame⟩ := Option.map_eq_some_iff.mp hroster.symm
    exact (h.seated session hsession).of_roster hsame.symm

theorem Sound.careful (h : Sound i w) (hscope : InScope i w e)
    (hagrees : Agrees i (Concert.step i w e)) : Careful i w e := by
  cases e with
  | operation op =>
    intro x hx
    obtain ⟨_, session, hsession, hout⟩ := h.operation hscope
    rw [hsession] at hx
    have hsame := Option.some.inj hx
    subst hsame
    rcases hout with ⟨_, hends⟩ | ⟨session', effects, hstage, _, hbyId, hmusic⟩
    · exact hends.careful
    · refine (h.seated session hsession).careful hstage ?_
      rw [← hmusic]
      exact hagrees session' hbyId
  | elsewhere event => trivial

end Concert

/-! ## The start of a conference -/

namespace Controller

variable {s s' : Controller} {session : ConferenceSession}

theorem members_muteListeners (r : ConferenceParticipantRegistry) :
    (muteListeners r).participants.map (·.member) = r.participants.map (·.member) := by
  unfold muteListeners
  generalize (r.participants.filter (!·.moderator)).map (·.id) = ids
  induction ids generalizing r with
  | nil => rfl
  | cons i rest ih => exact (ih _).trans (members_setMuted r i true)

/-- A session that is not active yet has a listening moderator once it is. -/
theorem attended_of_early (h : session.view.Early) (hphase : session.phase ≠ .active) :
    Audience.attended session.members none = true := by
  obtain ⟨_, _, hheld, v, hv, hmoderator⟩ := h hphase
  obtain ⟨p, hp, rfl⟩ := List.mem_map.mp hv
  have hpresent : p.held = false := hheld p.view hv
  have hmoderator : p.moderator = true := hmoderator
  simp only [Audience.attended, List.any_eq_true]
  refine ⟨p.member, List.mem_map_of_mem hp, ?_⟩
  simp [Audience.Member.present, ConferenceParticipant.member, hmoderator, hpresent]

/-- Nobody hears music while a moderator listens. -/
theorem seated_silent {session' : ConferenceSession} (hmembers : session'.members = session.members)
    (hidle : session'.pendingInvite = none)
    (hclass : session'.mediaPolicy.musicOnHoldClass.isSome = true)
    (hlisten : Audience.attended session.members none = true) : Seated session' fun _ => false := by
  refine ⟨hclass, ?_, ?_, fun _ _ => rfl⟩
  · rw [inviting_of_none hidle, hmembers]
    refine ⟨fun y _ _ => ?_, fun _ _ _ => rfl⟩
    rw [hlisten]
    rfl
  · intro invite heq
    rw [hidle] at heq
    cases heq

/-- Silence is right when a conference becomes active. -/
theorem sound_merged (hsound : s.ledger.SessionsSound) {c : CallId}
    (hsession : s.conferenceSession c = some session)
    (hclass : session.mediaPolicy.musicOnHoldClass.isSome = true)
    (h : s.conferenceMerged c = (s', true)) :
    Concert.Sound session.id { controller := s', music := fun _ => false } := by
  have hfree := (s.via_step (.conferenceMerged c)).sessionsSound hsound
  simp only [step, h] at hfree
  refine ⟨hfree, fun x hx => ?_⟩
  obtain ⟨k, hk⟩ := conferenceSession_get? hsession
  have hown := get?_own_key hsound.toSessionsApart hk
  have hearly := hsound.early k session.view (by simp [ledger, hk])
  unfold conferenceMerged at h
  rw [hsession] at h
  simp only [hown] at h
  split at h
  · cases h
  next hphase =>
  have hphase : session.phase ≠ .active := by
    simp only [ne_eq, not_not] at hphase
    rw [hphase]
    decide
  cases h
  have hidle : session.pendingInvite = none := by
    have hview := (hearly hphase).1
    simpa [ConferenceSession.view] using hview
  have hbyId := byId_insert hfree.toSessionsApart (get?_put (conferences_connectParticipants _))
  rw [show session.id = _ from rfl, hbyId] at hx
  cases hx
  have hmembers : (if session.mediaPolicy.muteOnEntry then muteListeners session.participants
      else session.participants).participants.map (·.member) = session.members := by
    split
    · exact members_muteListeners _
    · rfl
  exact seated_silent hmembers hidle hclass (attended_of_early hearly hphase)

end Controller

/-- Along every run of committed operations on a conference with a music class,
    from the merge that makes it active on, the music of its participants agrees
    with its listeners in every state exactly if every operation is careful. -/
theorem conference_music (firstDigit interdigit : Duration) (history : List Event)
    (callId : CallId) (session : ConferenceSession) (s : Controller)
    (hsession : ((Controller.withDigitTimeouts firstDigit interdigit).handleAll
      history).conferenceSession callId = some session)
    (hclass : session.mediaPolicy.musicOnHoldClass.isSome = true)
    (hmerged : ((Controller.withDigitTimeouts firstDigit interdigit).handleAll
      history).conferenceMerged callId = (s, true))
    (events : List ConcertEvent)
    (hscope : Runs.Each (Concert.step session.id) (Concert.InScope session.id)
      { controller := s, music := fun _ => false } events) :
    Runs.Always (Concert.step session.id) (Concert.Agrees session.id)
        { controller := s, music := fun _ => false } events
      ↔ Runs.Each (Concert.step session.id) (Concert.Careful session.id)
        { controller := s, music := fun _ => false } events := by
  have hstart := Controller.sound_merged
    (Controller.sessionsSound_handleAll _ history (Controller.sessionsSound_init ..)) hsession
    hclass hmerged
  exact Runs.always_iff_each_within (fun _ h => h.agrees) (fun _ _ h hD hC => h.step hD hC)
    (fun _ _ h hD hP => h.careful hD hP) hstart hscope

/-! ## The last listener leaves -/

namespace Sample

/-- A call, and a consultation that is about to be merged with it. -/
def consultation : List Event :=
  [.operate (register desk), .operate (.beginPhoneCall ⟨1⟩ (binding desk) codec 0),
    .operate (.enbloc ⟨1⟩ "5"), .operate (.pbxAnswer ⟨1⟩),
    .operate (.beginConferenceWithMedia
      { originalCallId := ⟨1⟩, consultationCallId := ⟨2⟩, binding := binding desk, codec
        now := 0, permitted := true }
      { musicOnHoldClass := some "default" }),
    .operate (.enbloc ⟨2⟩ "6"), .operate (.pbxAnswer ⟨2⟩), .operate (.confirmConference ⟨2⟩)]

def consulting : Controller := (Controller.withDigitTimeouts 5 5).handleAll consultation

/-- The session of the consultation. -/
def merging : ConferenceSession := (consulting.conferenceSession ⟨2⟩).get (by decide +kernel)

/-- The conference when it becomes active. -/
def opening : Concert :=
  { controller := (consulting.conferenceMerged ⟨2⟩).1, music := fun _ => false }

/-- A third call joins, and the second one becomes a moderator. -/
def threeCalls : List ConcertEvent :=
  [.operation (.invite ⟨1⟩ ⟨3⟩ (binding desk) codec 0), .elsewhere (.operate (.enbloc ⟨3⟩ "7")),
    .elsewhere (.operate (.pbxAnswer ⟨3⟩)), .operation (.mergeInvite ⟨3⟩),
    .operation (.changeRole desk ⟨2⟩ true)]

/-- The second moderator is held, and the first one departs. -/
def departure : List ConcertEvent :=
  [.operation (.hold ⟨2⟩ true), .operation (.depart ⟨1⟩ none true)]

/-- The calls stay in scope, but the departure leaves the wrong music. -/
theorem calls_inScope : merging.mediaPolicy.musicOnHoldClass.isSome = true
    ∧ (consulting.conferenceMerged ⟨2⟩).2 = true
    ∧ Runs.Each (Concert.step merging.id) (Concert.InScope merging.id) opening threeCalls
    ∧ Runs.Each (Concert.step merging.id) (Concert.InScope merging.id) opening
        (threeCalls ++ departure)
    ∧ ¬ Runs.Always (Concert.step merging.id) (Concert.Agrees merging.id) opening
        (threeCalls ++ departure) := by
  decide +kernel

end Sample

theorem conference_music_three_calls :
    Runs.Always (Concert.step Sample.merging.id) (Concert.Agrees Sample.merging.id)
        Sample.opening Sample.threeCalls
      ↔ Runs.Each (Concert.step Sample.merging.id) (Concert.Careful Sample.merging.id)
        Sample.opening Sample.threeCalls := by
  obtain ⟨hclass, hmerged, hscope, -, -⟩ := Sample.calls_inScope
  exact conference_music 5 5 Sample.consultation ⟨2⟩ Sample.merging
    (Sample.consulting.conferenceMerged ⟨2⟩).1 (Option.some_get _).symm hclass
    (Prod.ext rfl hmerged) Sample.threeCalls hscope

/-- The second moderator is held when the first one departs: the third call is in
    a conference without a listening moderator, and in silence. -/
theorem last_listener_leaves_silence :
    ¬∀ events, Runs.Each (Concert.step Sample.merging.id) (Concert.InScope Sample.merging.id)
        Sample.opening events →
      Runs.Always (Concert.step Sample.merging.id) (Concert.Agrees Sample.merging.id)
        Sample.opening events := by
  intro h
  obtain ⟨-, -, -, hscope, hsilent⟩ := Sample.calls_inScope
  exact hsilent (h (Sample.threeCalls ++ Sample.departure) hscope)

end Sccp
