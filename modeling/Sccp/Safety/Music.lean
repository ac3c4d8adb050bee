/-
  Sccp.Safety.Music

  Conference music.  Each committed operation switches music on or off for the
  participants that are not moderators, by its own count of the moderators that
  listen.  The operations are changes of an audience; what they switch is right
  unless the last listener leaves, or the count includes the wrong moderator.
-/

import Sccp.Controller.ConferenceRuns
import Sccp.Ledger.Events
import Sccp.Lib.Audience
import Sccp.Lib.Runs
import Sccp.Safety.CallRecords

namespace Sccp

open Ledger (Via)
open Function (update)

/-! ## Effects -/

/-- Whether an effect switches music. -/
def DriverEffect.isMusic : DriverEffect → Bool
  | .backend (.bridge (.setParticipantMusicOnHold ..)) => true
  | _ => false

/-- A list of effects that switches no music. -/
def Quiet (effects : List DriverEffect) : Prop := ∀ e ∈ effects, e.isMusic = false

namespace Music

theorem play_append (music : Music) (effects more : List DriverEffect) :
    music.play (effects ++ more) = (music.play effects).play more := by
  fun_induction play music effects <;> simp_all [play]

theorem play_quiet (music : Music) {effects : List DriverEffect} (h : Quiet effects) :
    music.play effects = music := by
  fun_induction play music effects with
  | case1 => rfl
  | case2 music bridge participant call cls enabled rest ih =>
    exact absurd (h _ (List.mem_cons_self ..)) (by simp [DriverEffect.isMusic])
  | case3 music e rest hne ih => exact ih fun x hx => h x (List.mem_cons_of_mem _ hx)

/-- One switch for each participant of a list. -/
theorem play_map (music : Music) (bridge : PbxBridgeId) (cls : String) (on : Bool)
    (ps : List ConferenceParticipant) :
    music.play (ps.map fun p => .backend (.bridge (.setParticipantMusicOnHold bridge p.id
      p.pbxCallId cls on))) = Audience.switch music (ps.map (·.id)) on := by
  induction ps generalizing music with
  | nil =>
    funext i
    simp [play, Audience.switch]
  | cons p rest ih =>
    rw [List.map_cons, play, ih, List.map_cons]
    funext i
    by_cases hi : i ∈ rest.map (·.id)
    · rw [Audience.switch_of_mem on hi, Audience.switch_of_mem on (List.mem_cons_of_mem _ hi)]
    rw [Audience.switch_of_notMem on hi]
    by_cases hp : i = p.id
    · rw [hp, Audience.switch_of_mem on (List.mem_cons_self ..), Function.update_self]
    · rw [Function.update_of_ne hp, Audience.switch_of_notMem on]
      simp only [List.mem_cons, not_or]
      exact ⟨hp, hi⟩

end Music

theorem Quiet.append {a b : List DriverEffect} (ha : Quiet a) (hb : Quiet b) : Quiet (a ++ b) := by
  intro e he
  rcases List.mem_append.mp he with he | he
  · exact ha e he
  · exact hb e he

theorem quiet_nil : Quiet [] := fun _ h => by cases h

theorem Quiet.cons {e : DriverEffect} {effects : List DriverEffect} (he : e.isMusic = false)
    (h : Quiet effects) : Quiet (e :: effects) := by
  intro x hx
  rcases List.mem_cons.mp hx with rfl | hx
  · exact he
  · exact h x hx

theorem quiet_handset (effect : HandsetEffect) : Quiet [.handset effect] := .cons rfl quiet_nil

namespace Controller

variable {s : Controller}
variable {session : ConferenceSession}

theorem quiet_forAppearances (edit : CallAppearanceId → CallAppearance → AppearanceEdit)
    (h : ∀ id a, Quiet (edit id a).effects) (ids : List CallAppearanceId) :
    Quiet (forAppearances edit s ids).2 := by
  induction ids generalizing s with
  | nil => exact quiet_nil
  | cons id rest ih =>
    unfold forAppearances
    split
    · exact ih
    · exact (h id _).append ih

theorem quiet_holdEdit (owner id : CallAppearanceId) (a : CallAppearance) :
    Quiet (holdEdit owner id a).effects := by
  have hcleanup : Quiet ((a.video.cleanup a.deviceId a.sccpId).map
    DriverEffect.handset).toList := by
    cases a.video.cleanup a.deviceId a.sccpId with
    | none => exact quiet_nil
    | some effect => exact quiet_handset effect
  unfold holdEdit
  split <;> exact hcleanup.append (quiet_handset _)

theorem quiet_hold (c : CallId) : Quiet (s.hold c).2 := by
  unfold hold
  split
  · exact quiet_nil
  split
  · exact quiet_nil
  split
  · exact quiet_nil
  · intro e he
    rcases List.mem_cons.mp he with rfl | he
    · rfl
    · exact quiet_forAppearances _ (quiet_holdEdit _) _ e he

theorem quiet_beginPhoneCall (c : CallId) (binding : LineBinding) (codec : Codec)
    (now : Instant) : Quiet (s.beginPhoneCall c binding codec now).2 := by
  unfold beginPhoneCall
  split
  · exact quiet_nil
  simp only
  split
  · exact quiet_nil
  · intro e he
    rw [List.mem_singleton.mp he]
    rfl

/-! ## What leaves the sessions alone -/

theorem conferences_setActiveCall (d : DeviceId) (c : Option CallId) :
    (s.setActiveCall d c).conferencesByConsultation = s.conferencesByConsultation := by
  rw [setActiveCall_frame]

theorem conferences_setCallSelected (d : DeviceId) (c : CallId) (selected : Bool) :
    (s.setCallSelected d c selected).conferencesByConsultation = s.conferencesByConsultation := by
  rw [setCallSelected_frame]

theorem conferences_modifyAppearanceOf (c : CallId) (f : CallAppearance → CallAppearance) :
    (s.modifyAppearanceOf c f).conferencesByConsultation = s.conferencesByConsultation := by
  unfold modifyAppearanceOf
  split <;> rfl

theorem conferences_forAppearances (edit : CallAppearanceId → CallAppearance → AppearanceEdit)
    (ids : List CallAppearanceId) :
    (forAppearances edit s ids).1.conferencesByConsultation = s.conferencesByConsultation := by
  rw [forAppearances_frame]

theorem conferences_hold (c : CallId) :
    (s.hold c).1.conferencesByConsultation = s.conferencesByConsultation := by
  unfold hold
  split
  · rfl
  split
  · rfl
  split
  · rfl
  simp only [conferences_setCallSelected]
  split
  · rw [conferences_setActiveCall, conferences_forAppearances]
    rfl
  · rw [conferences_forAppearances]
    rfl

theorem conferences_insertPbxCall (call : PbxCall) (a : CallAppearance) :
    (s.insertPbxCall call a).1.conferencesByConsultation = s.conferencesByConsultation := by
  have hattach : ∀ s' : Controller, (s'.attachAppearance a).1.conferencesByConsultation
      = s'.conferencesByConsultation := by
    intro s'
    unfold attachAppearance
    split <;> rfl
  have h := hattach { s with pbx := s.pbx.insert call.id call }
  unfold insertPbxCall
  split
  · rfl
  split <;>
    · next heq =>
      rw [heq] at h
      exact h

theorem conferences_beginPhoneCall (c : CallId) (binding : LineBinding) (codec : Codec)
    (now : Instant) : (s.beginPhoneCall c binding codec now).1.conferencesByConsultation
      = s.conferencesByConsultation := by
  unfold beginPhoneCall
  split
  · rfl
  simp only
  split
  · next s' heq =>
    have h := congrArg (fun r => r.1.conferencesByConsultation) heq
    exact h.symm.trans (conferences_insertPbxCall ..)
  next s' heq =>
  have h := congrArg (fun r => r.1.conferencesByConsultation) heq
  rw [conferences_setCallSelected, conferences_setActiveCall]
  exact h.symm.trans (conferences_insertPbxCall ..)

theorem conferences_indexCalls (key : CallId) (ps : List ConferenceParticipant) :
    (s.indexCalls key ps).conferencesByConsultation = s.conferencesByConsultation := by
  induction ps generalizing s with
  | nil => rfl
  | cons p rest ih => exact ih

theorem conferences_unindexCalls (ps : List ConferenceParticipant) :
    (s.unindexCalls ps).conferencesByConsultation = s.conferencesByConsultation := by
  induction ps generalizing s with
  | nil => rfl
  | cons p rest ih => exact ih

theorem conferences_removeAppearances (ids : List CallAppearanceId) :
    (s.removeAppearances ids).conferencesByConsultation = s.conferencesByConsultation := by
  induction ids generalizing s with
  | nil => rfl
  | cons id rest ih =>
    refine ih.trans ?_
    unfold removeAppearance
    split <;> rfl

theorem conferences_removePbxCall (p : PbxCallId) :
    (s.removePbxCall p).1.conferencesByConsultation = s.conferencesByConsultation := by
  unfold removePbxCall
  simp only
  split
  · rfl
  · split <;> exact conferences_removeAppearances _

theorem conferences_removeCalls (ps : List ConferenceParticipant) :
    (s.removeCalls ps).conferencesByConsultation = s.conferencesByConsultation := by
  induction ps generalizing s with
  | nil => rfl
  | cons p rest ih => exact ih.trans (conferences_removePbxCall _)

theorem conferences_connectParticipants (ps : List ConferenceParticipant) :
    (s.connectParticipants ps).conferencesByConsultation = s.conferencesByConsultation := by
  induction ps generalizing s with
  | nil => rfl
  | cons p rest ih => exact ih.trans (conferences_modifyAppearanceOf ..)

theorem conferences_reconnectModerator (m : Option ConferenceParticipant) (media : Bool) :
    (s.reconnectModerator m media).conferencesByConsultation = s.conferencesByConsultation := by
  unfold reconnectModerator
  split
  · rfl
  · exact conferences_modifyAppearanceOf ..

/-! ## Sessions by id -/

theorem byId_of_get? (hapart : s.ledger.SessionsApart) {k : CallId}
    (h : s.conferencesByConsultation.get? k = some session) :
    s.sessionEntryById session.id = some (k, session) := by
  cases hentry : s.sessionEntryById session.id with
  | none => exact absurd (Table.find?_none.mp hentry k session h) (by simp)
  | some entry =>
    obtain ⟨hk, hsession⟩ := entry_unique hapart h hentry
    rw [← hk, ← hsession]

theorem conferenceSessionById_eq (i : ConferenceId) :
    s.conferenceSessionById i = (s.sessionEntryById i).map Prod.snd := rfl

theorem get?_of_byId {i : ConferenceId} (h : s.conferenceSessionById i = some session) :
    ∃ k, s.sessionEntryById i = some (k, session) ∧ s.conferencesByConsultation.get? k
      = some session ∧ session.id = i := by
  obtain ⟨⟨k, v⟩, hentry, rfl⟩ := Option.map_eq_some_iff.mp h
  obtain ⟨hget, hid⟩ := Table.find?_some hentry
  exact ⟨k, hentry, hget, of_decide_eq_true hid⟩

/-- The session that is stored last under some key is found by its id. -/
theorem byId_insert {s' : Controller} (hapart : s'.ledger.SessionsApart) {k : CallId}
    (h : s'.conferencesByConsultation.get? k = some session) :
    s'.conferenceSessionById session.id = some session := by
  rw [conferenceSessionById_eq, byId_of_get? hapart h]
  rfl

/-- A session that is dropped is not found any more. -/
theorem byId_erase {s' : Controller} (hapart : s.ledger.SessionsApart) {k : CallId}
    (h : s.conferencesByConsultation.get? k = some session)
    (hdrop : s'.conferencesByConsultation = s.conferencesByConsultation.erase k) :
    s'.conferenceSessionById session.id = none := by
  rw [conferenceSessionById_eq, Option.map_eq_none_iff, sessionEntryById, Table.find?_none, hdrop]
  intro k' v hv
  rw [Table.get?_erase] at hv
  split at hv
  · cases hv
  next hne =>
  rw [decide_eq_false_iff_not]
  intro hid
  exact hne (hapart.single k' k v.view session.view (by simp [ledger, hv])
    (by simp [ledger, h]) hid)

end Controller

/-! ## A session as an audience -/

def ConferenceParticipant.member (p : ConferenceParticipant) : Audience.Member ParticipantId :=
  { id := p.id, host := p.moderator, away := p.held }

namespace ConferenceSession

variable (session : ConferenceSession)

def members : List (Audience.Member ParticipantId) :=
  session.participants.participants.map (·.member)

/-- The moderator who is inviting somebody. -/
def inviting : Option ParticipantId := session.pendingInvite.map (·.moderatorId)

/-- Whether a moderator listens: one who is not held, and not inviting somebody. -/
def listened : Bool :=
  session.participants.participants.any fun p =>
    p.moderator && !p.held && session.pendingInvite.all fun invite => invite.moderatorId ≠ p.id

/-- The session with a reserved mutation. -/
def reserving (mutation : ConferenceParticipantMutation) : ConferenceSession :=
  { session with pendingParticipantMutation := some mutation }

theorem members_nodup : (session.members.map (·.id)).Nodup := by
  have h := session.participants.idsNodup
  rw [members, List.map_map]
  exact h

theorem listened_eq : session.listened = Audience.attended session.members session.inviting := by
  rw [listened, Audience.attended, members, List.any_map]
  congr 1
  funext p
  cases hinvite : session.pendingInvite with
  | none => simp [inviting, hinvite, ConferenceParticipant.member, Audience.Member.present]
  | some invite => simp [inviting, hinvite, ConferenceParticipant.member, Audience.Member.present]

theorem presence_members :
    Audience.presence session.members = session.participants.activeModeratorCount := by
  rw [Audience.presence, members, List.countP_map,
    ConferenceParticipantRegistry.activeModeratorCount, List.countP_eq_length_filter]
  rfl

theorem guests_members : Audience.guests session.members
    = (session.participants.participants.filter (!·.moderator)).map (·.id) := by
  rw [Audience.guests, members, List.filter_map, List.map_map]
  rfl

theorem play_music {session : ConferenceSession}
    (hclass : session.mediaPolicy.musicOnHoldClass.isSome = true) (music : Music) (on : Bool) :
    music.play (Controller.conferenceMusicEffects session on)
      = Audience.switch music (Audience.guests session.members) on := by
  obtain ⟨cls, hcls⟩ := Option.isSome_iff_exists.mp hclass
  rw [Controller.conferenceMusicEffects, hcls, guests_members]
  exact music.play_map session.bridgeId cls on _

end ConferenceSession

/-! ## What an operation does to its session -/

/-- A session, the one it becomes by an operation, and the music that the effects
    of the operation switch. -/
inductive Stage (session session' : ConferenceSession) (effects : List DriverEffect) :
    ConferenceOperation → Prop
  | muted {requester : DeviceId} {participantId : ParticipantId} {muted : Bool}
      (members : session'.members = session.members)
      (invite : session'.pendingInvite = session.pendingInvite) (quiet : Quiet effects) :
      Stage session session' effects (.mute requester participantId muted)
  | notInvited {inviteCallId : CallId} {channelCreated needsResume restoreMedia : Bool}
      (members : session'.members = session.members)
      (invite : session'.pendingInvite = session.pendingInvite) (quiet : Quiet effects) :
      Stage session session' effects
        (.abortInvite inviteCallId channelCreated needsResume restoreMedia)
  | invited {moderatorCallId inviteCallId : CallId} {binding : LineBinding} {codec : Codec}
      {now : Instant} (m guest : ConferenceParticipant)
      (found : session.participants.participants.find? (fun p =>
        p.moderator && p.handsetCallId = moderatorCallId) = some m)
      (idle : session.pendingInvite = none) (members : session'.members = session.members)
      (invite : session'.pendingInvite = some
        { moderatorId := m.id, moderatorCallId := m.pbxCallId
          musicStarted := decide (session.participants.activeModeratorCount = 1)
          participant := guest })
      (listener : guest.moderator = false)
      (music : ∀ music : Music, music.play effects
        = if session.participants.activeModeratorCount = 1 then
            Audience.switch music (Audience.guests session.members) true
          else music) :
      Stage session session' effects (.invite moderatorCallId inviteCallId binding codec now)
  | merged {inviteCallId : CallId} (invite : ConferenceInvite)
      (pending : session.pendingInvite = some invite)
      (members : session'.members = session.members ++ [invite.participant.member])
      (new : ∀ y ∈ session.members, y.id ≠ invite.participant.id)
      (done : session'.pendingInvite = none)
      (music : ∀ music : Music, music.play effects = if invite.musicStarted then
            Audience.switch music (Audience.guests session.members) false
          else music) :
      Stage session session' effects (.mergeInvite inviteCallId)
  | aborted {inviteCallId : CallId} {channelCreated needsResume restoreMedia : Bool}
      (invite : ConferenceInvite) (pending : session.pendingInvite = some invite)
      (members : session'.members = session.members) (done : session'.pendingInvite = none)
      (music : ∀ music : Music, music.play effects = if invite.musicStarted then
            Audience.switch music (Audience.guests session.members) false
          else music) :
      Stage session session' effects
        (.abortInvite inviteCallId channelCreated needsResume restoreMedia)
  | moved {callId : CallId} {held : Bool} (p : ConferenceParticipant)
      (mem : p ∈ session.participants.participants) (moderator : p.moderator = true)
      (changes : p.held = !held) (idle : session.pendingInvite = none)
      (members : session'.members
        = Audience.modify session.members p.id fun y => { y with away := held })
      (done : session'.pendingInvite = none)
      (music : ∀ music : Music, music.play effects
        = if session.participants.activeModeratorCount = (if held then 1 else 0) then
            Audience.switch music (Audience.guests session.members) held
          else music) :
      Stage session session' effects (.hold callId held)
  | promoted {requester : DeviceId} {participantId : ParticipantId} (p : ConferenceParticipant)
      (mem : p ∈ session.participants.participants) (listener : p.moderator = false)
      (present : p.held = false) (idle : session.pendingInvite = none)
      (members : session'.members
        = Audience.modify session.members p.id fun y => { y with host := true })
      (done : session'.pendingInvite = none)
      (music : ∀ music : Music, music.play effects
        = if session.participants.activeModeratorCount = 0 then
            Audience.switch music (Audience.guests session.members) false
          else music) :
      Stage session session' effects (.changeRole requester participantId true)
  | demoted {requester : DeviceId} {participantId : ParticipantId} (p : ConferenceParticipant)
      (mem : p ∈ session.participants.participants) (moderator : p.moderator = true)
      (present : p.held = false) (idle : session.pendingInvite = none)
      (members : session'.members
        = Audience.modify session.members p.id fun y => { y with host := false })
      (done : session'.pendingInvite = none)
      (music : ∀ music : Music, music.play effects
        = if session.participants.activeModeratorCount = 1 then
            Audience.switch music
              ((session.members.filter fun y => !y.host || decide (y.id = p.id)).map (·.id)) true
          else music) :
      Stage session session' effects (.changeRole requester participantId false)
  | removed {requester : DeviceId} {participantId : ParticipantId} (p : ConferenceParticipant)
      (mem : p ∈ session.participants.participants) (listener : p.moderator = false)
      (idle : session.pendingInvite = none)
      (members : session'.members = Audience.without session.members p.id)
      (done : session'.pendingInvite = none) (quiet : Quiet effects) :
      Stage session session' effects (.remove requester participantId)
  | departed {pbxId : PbxCallId} {alreadyHungUp : Option PbxCallId} {announce : Bool}
      (p : ConferenceParticipant)
      (found : session.participants.participants.find? (·.pbxCallId = pbxId) = some p)
      (goesOn : Controller.mustEnd session p = false) (idle : session.pendingInvite = none)
      (members : session'.members = Audience.without session.members p.id)
      (done : session'.pendingInvite = none) (quiet : Quiet effects) :
      Stage session session' effects (.depart pbxId alreadyHungUp announce)

/-- An operation that ends the conference: the departure of somebody who is not in
    it, or without whom it cannot go on. -/
def ConferenceSession.EndsBy (session : ConferenceSession) : ConferenceOperation → Prop
  | .depart pbxId _ _ =>
    ∀ p, session.participants.participants.find? (·.pbxCallId = pbxId) = some p →
      Controller.mustEnd session p = true
  | _ => False

namespace Controller

variable {s s' : Controller} {session : ConferenceSession} {effects : List DriverEffect}
variable {i : ConferenceId} {c k : CallId} {p : ParticipantId} {s₁ : Controller} {d : DeviceId}
  {r : ConferenceParticipantRegistry} {moderator : Bool}

/-- A session has been replaced by the one that an operation makes of it. -/
def Staged (s' : Controller) (session : ConferenceSession) (effects : List DriverEffect)
    (op : ConferenceOperation) : Prop :=
  ∃ k session', s'.conferencesByConsultation.get? k = some session' ∧ session'.id = session.id
    ∧ session'.mediaPolicy = session.mediaPolicy ∧ Stage session session' effects op

/-- Looking a session up under its own key finds it. -/
theorem get?_own_key (hapart : s.ledger.SessionsApart)
    (h : s.conferencesByConsultation.get? k = some session) :
    s.conferencesByConsultation.get? session.consultationHandsetCallId = some session := by
  have hkey : session.consultationHandsetCallId = k :=
    hapart.keyed k session.view (by simp [ledger, h])
  rw [hkey]
  exact h

/-- What was stored last is there. -/
theorem get?_put
    (h : s'.conferencesByConsultation = (s.putSession k session).conferencesByConsultation) :
    s'.conferencesByConsultation.get? k = some session := by
  rw [h]
  exact (Table.get?_insert ..).trans (if_pos rfl)

theorem inviteModerator_ok {binding : LineBinding} {m : ConferenceParticipant}
    (h : s.inviteModerator session c binding = .ok m) :
    session.pendingInvite = none ∧ session.participants.participants.find? (fun p =>
      p.moderator && p.handsetCallId = c) = some m := by
  unfold inviteModerator at h
  split at h
  · cases h
  next hg =>
  simp only [not_or, Option.not_isSome_iff_eq_none] at hg
  refine ⟨hg.2.1, ?_⟩
  split at h
  · cases h
  next m' hm' =>
  split at h
  · cases h
  split at h
  · cases h
  · cases h
    exact hm'

theorem staged_invite (hapart : s.ledger.SessionsApart) {c' : CallId} {binding : LineBinding}
    {codec : Codec} {now : Instant} (hsession : s.conferenceSession c = some session)
    (hclass : session.mediaPolicy.musicOnHoldClass.isSome = true)
    (h : s.beginConferenceInvite c c' binding codec now = (s', .ok effects)) :
    Staged s' session effects (.invite c c' binding codec now) := by
  obtain ⟨k, hk⟩ := conferenceSession_get? hsession
  have hown := get?_own_key hapart hk
  unfold beginConferenceInvite at h
  split at h
  · cases h
  rw [hsession] at h
  simp only at h
  split at h
  · cases h
  next m hm =>
  split at h
  · cases h
  split at h
  · cases h
  next invite hinvite =>
  split at h
  · cases h
  next stored hstored =>
  obtain ⟨hidle, hfound⟩ := inviteModerator_ok hm
  have hsame : stored = session := by
    have hstored' : s.conferencesByConsultation.get?
        session.consultationHandsetCallId = some stored := by
      rw [← conferences_hold (s := s) c,
        ← conferences_beginPhoneCall (s := (s.hold c).1) c' binding codec now]
      exact hstored
    rw [hown] at hstored'
    exact (Option.some.inj hstored').symm
  subst hsame
  cases h
  refine ⟨_, _, get?_put (conferences_indexCalls ..), ?_⟩
  refine ⟨rfl, rfl, .invited m _ hfound hidle rfl rfl ?_ fun music => ?_⟩
  · rfl
  have hrest : Quiet (.handset (.beginCall binding.deviceId binding.lineInstance
      c' codec) :: ((s.hold c).1.beginPhoneCall c' binding codec now).2) :=
    .cons rfl (quiet_beginPhoneCall c' binding codec now)
  rw [List.append_assoc, Music.play_append, Music.play_quiet _ (quiet_hold c),
    Music.play_append, Music.play_quiet _ hrest]
  split
  · exact ConferenceSession.play_music hclass music true
  · rfl

/-! Registries as lists of members. -/

theorem members_setMuted (r : ConferenceParticipantRegistry) (i : ParticipantId) (muted : Bool) :
    (r.setMuted i muted).participants.map (·.member) = r.participants.map (·.member) := by
  simp only [ConferenceParticipantRegistry.setMuted, ConferenceParticipantRegistry.mapParticipants,
    List.map_map]
  apply List.map_congr_left
  intro p _
  simp only [Function.comp_apply]
  split <;> rfl

theorem members_setHeld (r : ConferenceParticipantRegistry) (i : ParticipantId) (isHeld : Bool) :
    (r.setHeld i isHeld).participants.map (·.member)
      = Audience.modify (r.participants.map (·.member)) i fun y => { y with away := isHeld } := by
  simp only [ConferenceParticipantRegistry.setHeld, ConferenceParticipantRegistry.mapParticipants,
    Audience.modify, List.map_map]
  apply List.map_congr_left
  intro p _
  simp only [Function.comp_apply, ConferenceParticipant.member]
  split <;> rfl

theorem members_setModerator {r' : ConferenceParticipantRegistry} {i : ParticipantId}
    (h : r.setModerator i moderator = .ok r') : r'.participants.map (·.member)
      = Audience.modify (r.participants.map (·.member)) i fun y =>
        { y with host := moderator } := by
  unfold ConferenceParticipantRegistry.setModerator at h
  split at h
  · cases h
  split at h
  · cases h
  split at h
  · cases h
  cases h
  simp only [ConferenceParticipantRegistry.mapParticipants, Audience.modify, List.map_map]
  apply List.map_congr_left
  intro p _
  simp only [Function.comp_apply, ConferenceParticipant.member]
  split <;> rfl

theorem members_remove (r : ConferenceParticipantRegistry) (i : ParticipantId) :
    (r.remove i).participants.map (·.member)
      = Audience.without (r.participants.map (·.member)) i := by
  rw [Audience.without, List.filter_map]
  rfl

theorem get_mem {i : ParticipantId} {p : ConferenceParticipant} (h : r.get i = some p) :
    p ∈ r.participants ∧ p.id = i :=
  ⟨List.mem_of_find?_eq_some h, by simpa using List.find?_some h⟩

theorem insert_new {r' : ConferenceParticipantRegistry} {q : ConferenceParticipant}
    (h : r.insert q = .ok r') : ∀ y ∈ r.participants.map (·.member), y.id ≠ q.id := by
  unfold ConferenceParticipantRegistry.insert at h
  split at h
  · cases h
  split at h
  · cases h
  · next hid =>
    intro y hy heq
    obtain ⟨p, hp, rfl⟩ := List.mem_map.mp hy
    exact hid (List.mem_map.mpr ⟨p, hp, heq⟩)

theorem quiet_muteOnEntry (session : ConferenceSession) (ps : List ConferenceParticipant) :
    Quiet (conferenceMuteOnEntryEffects session ps) := by
  unfold conferenceMuteOnEntryEffects
  split
  · exact quiet_nil
  · intro e he
    obtain ⟨p, _, rfl⟩ := List.mem_map.mp he
    rfl

theorem quiet_announcement (session : ConferenceSession) (announcement : ConferenceAnnouncement) :
    Quiet (conferenceAnnouncementEffectsForSession session announcement) := by
  unfold conferenceAnnouncementEffectsForSession
  simp only
  split
  · exact quiet_nil
  · exact .cons rfl quiet_nil

/-! Invites. -/

theorem confirmConferenceInvite_music {invite : ConferenceInvite}
    (hsession : s.conferenceSession c = some session)
    (hinvite : session.pendingInvite = some invite)
    (hclass : session.mediaPolicy.musicOnHoldClass.isSome = true)
    (h : s.confirmConferenceInvite c = .ok effects) (music : Music) : music.play effects
      = if invite.musicStarted then Audience.switch music (Audience.guests session.members) false
        else music := by
  unfold confirmConferenceInvite at h
  rw [hsession] at h
  simp only [hinvite] at h
  split at h
  · cases h
  next pending hpending =>
  cases (Option.filter_eq_some_iff.mp hpending).1
  split at h
  · cases h
  split at h
  · cases h
  cases h
  rw [List.append_assoc, Music.play_append, Music.play_quiet]
  · split
    · exact ConferenceSession.play_music hclass music false
    · rfl
  · exact .cons rfl (.cons rfl (quiet_muteOnEntry _ _))

theorem staged_mergeInvite (hapart : s.ledger.SessionsApart)
    (hsession : s.conferenceSession c = some session)
    (hclass : session.mediaPolicy.musicOnHoldClass.isSome = true)
    (hconfirm : s.confirmConferenceInvite c = .ok effects)
    (h : s.conferenceInviteMerged c = (s', true)) : Staged s' session effects (.mergeInvite c) := by
  obtain ⟨k, hk⟩ := conferenceSession_get? hsession
  have hown := get?_own_key hapart hk
  unfold conferenceInviteMerged at h
  rw [hsession] at h
  simp only [hown] at h
  split at h
  · cases h
  next invite hinvite =>
  split at h
  · cases h
  next hcall =>
  split at h
  · cases h
  next registry hregistry =>
  cases h
  refine ⟨_, _, get?_put (conferences_connectParticipants _), rfl, rfl,
    .merged invite hinvite ?_ (insert_new hregistry) rfl fun music => ?_⟩
  · have hmembers : registry.participants.map (·.member)
        = session.members ++ [invite.participant.member] := by
      rw [insert_participants hregistry, List.map_append]
      rfl
    show (if session.mediaPolicy.muteOnEntry then
      registry.setMuted invite.participant.id true
      else registry).participants.map (·.member) = _
    split
    · rw [members_setMuted, hmembers]
    · exact hmembers
  · exact confirmConferenceInvite_music hsession hinvite hclass hconfirm music

theorem staged_abortInvite (hapart : s.ledger.SessionsApart) {channel needsResume media : Bool}
    (hsession : s.conferenceSession c = some session)
    (hclass : session.mediaPolicy.musicOnHoldClass.isSome = true)
    (h : s.abortConferenceInvite c channel needsResume media = (s', effects)) :
    Staged s' session effects (.abortInvite c channel needsResume media) := by
  obtain ⟨k, hk⟩ := conferenceSession_get? hsession
  have hown := get?_own_key hapart hk
  have hstill : s' = s → effects = [] →
      Staged s' session effects (.abortInvite c channel needsResume media) := by
    rintro rfl rfl
    exact ⟨k, session, hk, rfl, rfl, .notInvited rfl rfl quiet_nil⟩
  unfold abortConferenceInvite at h
  rw [hsession] at h
  simp only [hown] at h
  split at h
  · cases h
    exact hstill rfl rfl
  next invite hinvite =>
  split at h
  · cases h
    exact hstill rfl rfl
  cases h
  have hput : ∀ s₁ : Controller, (((s₁.unindexCalls [invite.participant]).removePbxCall
      invite.participant.pbxCallId).1.reconnectModerator (inviteOwner session invite)
      media).conferencesByConsultation = s₁.conferencesByConsultation := by
    intro s₁
    rw [conferences_reconnectModerator, conferences_removePbxCall, conferences_unindexCalls]
  refine ⟨session.consultationHandsetCallId, _, get?_put (hput _), ?_⟩
  refine ⟨rfl, rfl, .aborted invite hinvite rfl rfl fun music => ?_⟩
  rw [List.append_assoc, List.append_assoc, Music.play_append, Music.play_quiet]
  · split
    · exact ConferenceSession.play_music hclass music false
    · rfl
  refine Quiet.append ?_ (.append ?_ (.cons rfl ?_))
  · split
    · exact .cons rfl quiet_nil
    · exact quiet_nil
  · split
    · split
      · exact .cons rfl quiet_nil
      · exact quiet_nil
    · exact quiet_nil
  split
  · split
    · exact .cons rfl quiet_nil
    · exact quiet_nil
  · exact quiet_nil

/-! Two-step changes. -/

theorem entry_reserved {key : CallId} {mutation : ConferenceParticipantMutation}
    (hapart : s₁.ledger.SessionsApart) (hentry : s.sessionEntryById i = some (key, session))
    (h : s₁.conferencesByConsultation = (s.reserveMutation key session
      mutation).conferencesByConsultation) :
    s₁.sessionEntryById i = some (key, session.reserving mutation) := by
  have hid : session.id = i := of_decide_eq_true (Table.find?_some hentry).2
  have hget : s₁.conferencesByConsultation.get? key = some (session.reserving mutation) :=
    get?_put h
  rw [← hid]
  exact byId_of_get? hapart hget

theorem staged_mute (hsound : s.ledger.SessionsSound) {muted : Bool}
    (hbegin : s.beginConferenceParticipantMute d i p muted = (s₁, .ok effects))
    (h : s₁.conferenceParticipantMuted i p muted = (s', true)) :
    ∃ session, s.conferenceSessionById i = some session
      ∧ Staged s' session effects (.mute d p muted) := by
  have hfree := (s.via_step (.beginConferenceParticipantMute d i p muted)).sessionsSound hsound
  simp only [step, hbegin] at hfree
  unfold beginConferenceParticipantMute at hbegin
  split at hbegin
  · cases hbegin
  next key session hentry =>
  refine ⟨session, by rw [conferenceSessionById_eq, hentry]; rfl, ?_⟩
  split at hbegin
  · cases hbegin
  split at hbegin
  · cases hbegin
  split at hbegin
  · cases hbegin
  cases hbegin
  have hentry₁ := entry_reserved hfree.toSessionsApart hentry rfl
  unfold conferenceParticipantMuted at h
  rw [hentry₁] at h
  simp only at h
  split at h
  · split at h
    · cases h
    · cases h
      refine ⟨_, _, get?_put rfl, ?_⟩
      exact ⟨rfl, rfl, .muted (members_setMuted ..) rfl (.cons rfl quiet_nil)⟩
  · cases h

theorem participantGuard_ok {authorized : Bool} {i : ParticipantId} {p : ConferenceParticipant}
    (h : participantGuard session authorized i = .ok p) :
    session.pendingInvite = none ∧ p ∈ session.participants.participants ∧ p.id = i := by
  unfold participantGuard at h
  split at h
  · cases h
  split at h
  · cases h
  split at h
  · cases h
  next hpending =>
  split at h
  · cases h
  next q hq =>
  cases h
  simp only [not_or, Option.not_isSome_iff_eq_none] at hpending
  exact ⟨hpending.2, get_mem hq⟩

theorem stage_role {session' : ConferenceSession} {i : ParticipantId} {p : ConferenceParticipant}
    (hclass : session.mediaPolicy.musicOnHoldClass.isSome = true)
    (hp : p ∈ session.participants.participants) (hid : p.id = i) (hrole : p.moderator ≠ moderator)
    (hheld : p.held = false) (hidle : session.pendingInvite = none) (hmembers : session'.members
      = Audience.modify session.members i fun y => { y with host := moderator })
    (hdone : session'.pendingInvite = none) :
    Stage session session' (roleChangeMusic session i moderator) (.changeRole d i moderator) := by
  subst hid
  cases moderator with
  | true =>
    refine .promoted p hp (by simpa using hrole) hheld hidle hmembers hdone fun music => ?_
    unfold roleChangeMusic
    simp only [true_and, Bool.not_true, Bool.false_eq_true, false_and, if_false]
    split
    · exact ConferenceSession.play_music hclass music false
    · rfl
  | false =>
    refine .demoted p hp (by simpa using hrole) hheld hidle hmembers hdone fun music => ?_
    obtain ⟨cls, hcls⟩ := Option.isSome_iff_exists.mp hclass
    unfold roleChangeMusic
    simp only [Bool.false_eq_true, false_and, if_false, Bool.not_false, true_and, hcls]
    split
    · rw [Music.play_map, ConferenceSession.members, List.filter_map, List.map_map]
      rfl
    · rfl

theorem staged_changeRole (hsound : s.ledger.SessionsSound)
    (hclass : ∀ session, s.conferenceSessionById i = some session →
      session.mediaPolicy.musicOnHoldClass.isSome = true)
    (hbegin : s.beginConferenceParticipantRoleChange d i p moderator = (s₁, .ok effects))
    (h : s₁.conferenceParticipantRoleChanged i p moderator = (s', true)) :
    ∃ session, s.conferenceSessionById i = some session
      ∧ Staged s' session effects (.changeRole d p moderator) := by
  have hfree := (s.via_step
    (.beginConferenceParticipantRoleChange d i p moderator)).sessionsSound hsound
  simp only [step, hbegin] at hfree
  unfold beginConferenceParticipantRoleChange at hbegin
  split at hbegin
  · cases hbegin
  next key session hentry =>
  have hsession : s.conferenceSessionById i = some session := by
    rw [conferenceSessionById_eq, hentry]
    rfl
  refine ⟨session, hsession, ?_⟩
  simp only at hbegin
  split at hbegin
  · cases hbegin
  next q hguard =>
  obtain ⟨hidle, hq, hid⟩ := participantGuard_ok hguard
  split at hbegin
  · cases hbegin
  next hrole =>
  split at hbegin
  · cases hbegin
  next hfree' =>
  split at hbegin
  · cases hbegin
  cases hbegin
  have hentry₁ := entry_reserved hfree.toSessionsApart hentry rfl
  unfold conferenceParticipantRoleChanged at h
  rw [hentry₁] at h
  simp only at h
  split at h
  · split at h
    · cases h
    · split at h
      · cases h
      · next registry hregistry =>
        cases h
        refine ⟨_, _, get?_put rfl, rfl, rfl,
          stage_role (hclass _ hsession) hq hid hrole ?_ hidle ?_ hidle⟩
        · simp only [not_or, Bool.not_eq_true] at hfree'
          exact hfree'.1
        · exact members_setModerator hregistry
  · cases h

theorem replaceConsultation_kept (session : ConferenceSession) (needed : Bool) :
    (replaceConsultation session needed).participants = session.participants
      ∧ (replaceConsultation session needed).pendingInvite = session.pendingInvite
      ∧ (replaceConsultation session needed).mediaPolicy = session.mediaPolicy := by
  unfold replaceConsultation
  split
  · exact ⟨rfl, rfl, rfl⟩
  · split <;> exact ⟨rfl, rfl, rfl⟩

theorem afterDeparture_kept (session : ConferenceSession) (p : PbxCallId) :
    (afterDeparture session p).participants = session.participants
      ∧ (afterDeparture session p).pendingInvite = session.pendingInvite
      ∧ (afterDeparture session p).mediaPolicy = session.mediaPolicy := by
  unfold afterDeparture
  simp only
  split
  · exact replaceConsultation_kept _ _
  · split
    · exact replaceConsultation_kept _ _
    · exact replaceConsultation_kept _ _

theorem staged_remove (hsound : s.ledger.SessionsSound) {more : List DriverEffect}
    (hbegin : s.beginConferenceParticipantRemoval d i p = (s₁, .ok effects))
    (h : s₁.conferenceParticipantRemoved i p = (s', some more)) :
    ∃ session, s.conferenceSessionById i = some session
      ∧ Staged s' session (effects ++ more) (.remove d p) := by
  have hfree := (s.via_step (.beginConferenceParticipantRemoval d i p)).sessionsSound hsound
  simp only [step, hbegin] at hfree
  unfold beginConferenceParticipantRemoval at hbegin
  split at hbegin
  · cases hbegin
  next key session hentry =>
  refine ⟨session, by rw [conferenceSessionById_eq, hentry]; rfl, ?_⟩
  split at hbegin
  · cases hbegin
  next q hguard =>
  obtain ⟨hidle, hq, hid⟩ := participantGuard_ok hguard
  split at hbegin
  · cases hbegin
  next hlistener =>
  split at hbegin
  · cases hbegin
  cases hbegin
  have hentry₁ := entry_reserved hfree.toSessionsApart hentry rfl
  unfold conferenceParticipantRemoved at h
  rw [hentry₁] at h
  simp only at h
  split at h
  · next pending removed hpending hremoved =>
    split at h
    · cases h
    cases h
    have hkept := replaceConsultation_kept
      { session with
        participants := session.participants.remove p
        pendingParticipantMutation := none }
      (session.consultationCallId = removed.pbxCallId)
    refine ⟨_, _, get?_put rfl, replaceConsultation_id .., hkept.2.2,
      .removed q hq (by simpa using hlistener) hidle ?_ ?_ ?_⟩
    · rw [hid]
      exact (congrArg (fun r : ConferenceParticipantRegistry =>
        r.participants.map (·.member)) hkept.1).trans (members_remove ..)
    · exact hkept.2.1.trans hidle
    · refine Quiet.append (.cons rfl quiet_nil) ?_
      intro e he
      obtain ⟨a, _, rfl⟩ := Option.map_eq_some_iff.mp (Option.mem_toList.mp he)
      rfl
  · cases h

/-- What the begin of a moderator's hold has checked and reserved. -/
structure LegBegun (s s₁ : Controller) (session : ConferenceSession) (callId : CallId)
    (isHeld : Bool) (effects : List DriverEffect) (key : CallId) (p : ConferenceParticipant) :
    Prop where
  idle : session.pendingInvite = none
  mem : p ∈ session.participants.participants
  moderator : p.moderator = true
  changes : p.held ≠ isHeld
  entry : s.sessionEntryById session.id = some (key, session)
  sessions : s₁.conferencesByConsultation
    = (s.reserveMutation key session
      { participantId := p.id, callId := p.pbxCallId,
        kind := .hold isHeld }).conferencesByConsultation
  music : session.mediaPolicy.musicOnHoldClass.isSome = true → ∀ music : Music, music.play effects
    = if session.participants.activeModeratorCount = (if isHeld then 1 else 0) then
        Audience.switch music (Audience.guests session.members) isHeld
      else music

theorem legBegun (hapart : s.ledger.SessionsApart) {isHeld : Bool}
    (hsession : s.conferenceSession c = some session)
    (h : s.beginConferenceModeratorLegTransition c isHeld = (s₁, .ok effects)) :
    ∃ key p, LegBegun s s₁ session c isHeld effects key p := by
  obtain ⟨k, hk⟩ := conferenceSession_get? hsession
  unfold beginConferenceModeratorLegTransition at h
  rw [hsession] at h
  simp only at h
  split at h
  · cases h
  split at h
  · cases h
  next hpending =>
  simp only [not_or, Option.not_isSome_iff_eq_none] at hpending
  split at h
  · cases h
  next p hp =>
  obtain ⟨hfind, hmoderator⟩ := Option.filter_eq_some_iff.mp hp
  split at h
  · cases h
  next hchanges =>
  split at h
  · cases h
  next appearance happearance =>
  have hmem := List.mem_of_find?_eq_some hfind
  cases isHeld with
  | true =>
    simp only [if_true] at h
    split at h
    · cases h
    split at h
    · cases h
    next key stored hentry =>
    obtain ⟨rfl, rfl⟩ := entry_unique hapart hk hentry
    cases h
    refine ⟨_, p, hpending.2, hmem, hmoderator, hchanges, hentry, rfl, fun hclass music => ?_⟩
    have hshown : Quiet [appearanceStateEffect appearance .hold true] :=
      quiet_handset _
    rw [List.append_nil, Music.play_append, Music.play_quiet _ hshown, if_pos rfl]
    split
    · exact ConferenceSession.play_music hclass music true
    · rfl
  | false =>
    simp only [Bool.false_eq_true, if_false] at h
    split at h
    · cases h
    split at h
    · cases h
    next key stored hentry =>
    obtain ⟨rfl, rfl⟩ := entry_unique hapart hk hentry
    cases h
    refine ⟨_, p, hpending.2, hmem, hmoderator, hchanges, hentry, rfl, fun hclass music => ?_⟩
    rw [List.nil_append, Music.play_append,
      Music.play_quiet _ (quiet_handset _), if_neg Bool.false_ne_true]
    split
    · exact ConferenceSession.play_music hclass music false
    · rfl

theorem staged_hold (hsound : s.ledger.SessionsSound) {isHeld : Bool}
    (hsession : s.conferenceSession c = some session)
    (hclass : session.mediaPolicy.musicOnHoldClass.isSome = true)
    (hbegin : s.beginConferenceModeratorLegTransition c isHeld = (s₁, .ok effects))
    (h : s₁.conferenceModeratorLegTransitioned session.id p isHeld = (s', true)) :
    Staged s' session effects (.hold c isHeld) := by
  have hfree := (s.via_step (.beginConferenceModeratorLegTransition c isHeld)).sessionsSound hsound
  simp only [step, hbegin] at hfree
  obtain ⟨key, q, hleg⟩ := legBegun hsound.toSessionsApart hsession hbegin
  have hentry₁ := entry_reserved hfree.toSessionsApart hleg.entry hleg.sessions
  unfold conferenceModeratorLegTransitioned at h
  rw [hentry₁] at h
  simp only at h
  split at h
  · next pending q' hpending hq' =>
    split at h
    · cases h
    next hmatch =>
    simp only [not_or, ne_eq, not_not] at hmatch
    cases hpending
    split at h
    · cases h
    split at h
    · cases h
    cases h
    obtain ⟨hq, hid⟩ := get_mem hq'
    refine ⟨key, _, get?_put (conferences_setCallSelected ..), ?_⟩
    refine ⟨rfl, rfl, .moved q hleg.mem hleg.moderator ?_ hleg.idle ?_ hleg.idle
      (hleg.music hclass)⟩
    · have hchanges := hleg.changes
      revert hchanges
      cases q.held <;> cases isHeld <;> decide
    · have hsame : q.id = p := hmatch.1
      rw [hsame]
      exact members_setHeld ..
  · cases h

/-! Departures. -/

theorem byId_endConferenceInternal (hapart : s.ledger.SessionsApart)
    (hk : s.conferencesByConsultation.get? k = some session) (created : Bool)
    (hungUp : Option PbxCallId) :
    (s.endConferenceInternal session created hungUp).1.conferenceSessionById session.id = none := by
  have hkey : session.consultationHandsetCallId = k :=
    hapart.keyed k session.view (by simp [ledger, hk])
  refine byId_erase hapart hk ?_
  unfold endConferenceInternal
  simp only [conferences_removeCalls, conferences_unindexCalls]
  rw [hkey]
  rfl

theorem staged_depart (hapart : s.ledger.SessionsApart)
    (hk : s.conferencesByConsultation.get? k = some session) {p : PbxCallId}
    {hungUp : Option PbxCallId} {announce : Bool}
    (h : s.activeConferenceDeparture session p hungUp announce = (s', effects)) :
    (s'.conferenceSessionById session.id = none ∧ session.EndsBy (.depart p hungUp announce))
      ∨ Staged s' session effects (.depart p hungUp announce) := by
  have hown := get?_own_key hapart hk
  have hgone := byId_endConferenceInternal hapart hk true hungUp
  unfold activeConferenceDeparture at h
  split at h
  · next hnone =>
    rw [h] at hgone
    exact .inl ⟨hgone, fun q hq => by rw [hnone] at hq; cases hq⟩
  next departing hfound =>
  split at h
  · next hends =>
    cases h
    refine .inl ⟨hgone, fun q hq => ?_⟩
    rw [hfound] at hq
    cases hq
    exact hends
  next hgoes =>
  have hgoes : mustEnd session departing = false := by simpa using hgoes
  have hidle : session.pendingInvite = none := by
    simp only [mustEnd, Bool.or_eq_false_iff] at hgoes
    simpa using hgoes.1.2
  simp only [hown] at h
  cases h
  have hkept := afterDeparture_kept
    { session with participants := session.participants.remove departing.id }
    departing.pbxCallId
  refine .inr ⟨_, _, get?_put rfl, afterDeparture_id .., hkept.2.2,
    .departed departing hfound hgoes hidle ?_ (hkept.2.1.trans hidle) ?_⟩
  · exact (congrArg (fun r : ConferenceParticipantRegistry =>
      r.participants.map (·.member)) hkept.1).trans (members_remove ..)
  refine Quiet.append (.append ?_ ?_) ?_
  · split
    · exact .cons rfl quiet_nil
    · exact quiet_nil
  · intro e he
    obtain ⟨a, _, rfl⟩ := Option.map_eq_some_iff.mp (Option.mem_toList.mp he)
    rfl
  · split
    · exact quiet_announcement _ _
    · exact quiet_nil

/-! ## Committed operations -/

theorem concerns_iff :
    s.concerns c i = true ↔ ∃ session, s.conferenceSession c = some session ∧ session.id = i := by
  simp [concerns, Option.any_eq_true]

/-- A committed operation has found its session, and has ended it or made a new
    stage of it. -/
theorem commit_staged (hsound : s.ledger.SessionsSound) {op : ConferenceOperation}
    (hclass : ∀ session, s.conferenceSessionById i = some session →
      session.mediaPolicy.musicOnHoldClass.isSome = true)
    (h : s.commitOperation i op = some (s', effects)) :
    ∃ session, s.conferenceSessionById i = some session
      ∧ ((s'.conferenceSessionById i = none ∧ session.EndsBy op)
        ∨ Staged s' session effects op) := by
  have hapart := hsound.toSessionsApart
  have hfound : ∀ c, ¬(!s.concerns c i) = true → ∃ session, s.conferenceSession c = some session
      ∧ session.id = i ∧ s.conferenceSessionById i = some session := by
    intro c hc
    obtain ⟨session, hsession, rfl⟩ := concerns_iff.mp (by simpa using hc)
    obtain ⟨k, hk⟩ := conferenceSession_get? hsession
    exact ⟨session, hsession, rfl, byId_insert hapart hk⟩
  cases op with
  | invite c c' binding codec now =>
    simp only [commitOperation] at h
    split at h
    · cases h
    next hc =>
    obtain ⟨session, hsession, rfl, hbyId⟩ := hfound c hc
    split at h
    · cases h
    · next s₁ begun hbegin =>
      cases h
      exact ⟨session, hbyId, .inr (staged_invite hapart hsession (hclass _ hbyId) hbegin)⟩
  | mergeInvite c =>
    simp only [commitOperation] at h
    split at h
    · cases h
    next hc =>
    obtain ⟨session, hsession, rfl, hbyId⟩ := hfound c hc
    split at h
    · cases h
    next begun hconfirm =>
    split at h
    · cases h
    next s₁ hmerged =>
    cases h
    exact ⟨session, hbyId, .inr (staged_mergeInvite hapart hsession
      (hclass _ hbyId) hconfirm hmerged)⟩
  | abortInvite c channel needsResume media =>
    simp only [commitOperation] at h
    split at h
    · cases h
    next hc =>
    obtain ⟨session, hsession, rfl, hbyId⟩ := hfound c hc
    exact ⟨session, hbyId, .inr (staged_abortInvite hapart hsession (hclass _ hbyId)
      (Option.some.inj h))⟩
  | hold c isHeld =>
    simp only [commitOperation] at h
    split at h
    · cases h
    next hc =>
    obtain ⟨session, hsession, rfl, hbyId⟩ := hfound c hc
    split at h
    · cases h
    next s₁ begun hbegin =>
    split at h
    · cases h
    split at h
    · cases h
    · next s₂ hmoved =>
      cases h
      exact ⟨session, hbyId, .inr (staged_hold hsound hsession (hclass _ hbyId) hbegin hmoved)⟩
  | mute d p muted =>
    simp only [commitOperation] at h
    split at h
    · cases h
    next s₁ begun hbegin =>
    split at h
    · cases h
    next s₂ hmuted =>
    cases h
    obtain ⟨session, hbyId, hstaged⟩ := staged_mute hsound hbegin hmuted
    exact ⟨session, hbyId, .inr hstaged⟩
  | changeRole d p moderator =>
    simp only [commitOperation] at h
    split at h
    · cases h
    next s₁ begun hbegin =>
    split at h
    · cases h
    next s₂ hchanged =>
    cases h
    obtain ⟨session, hbyId, hstaged⟩ := staged_changeRole hsound hclass hbegin hchanged
    exact ⟨session, hbyId, .inr hstaged⟩
  | remove d p =>
    simp only [commitOperation] at h
    split at h
    · cases h
    next s₁ begun hbegin =>
    split at h
    · cases h
    next s₂ more hremoved =>
    cases h
    obtain ⟨session, hbyId, hstaged⟩ := staged_remove hsound hbegin hremoved
    exact ⟨session, hbyId, .inr hstaged⟩
  | depart p hungUp announce =>
    simp only [commitOperation] at h
    split at h
    · cases h
    · next session hbyId =>
      obtain ⟨k, _, hk, rfl⟩ := get?_of_byId hbyId
      exact ⟨session, hbyId, staged_depart hapart hk (Option.some.inj h)⟩

/-- A committed operation is made of operations of the controller. -/
theorem via_commitOperation {op : ConferenceOperation}
    (h : s.commitOperation i op = some (s', effects)) : Via s.ledger s'.ledger := by
  cases op with
  | invite c c' binding codec now =>
    have hstep := s.via_step (.beginConferenceInvite c c' binding codec now)
    simp only [commitOperation] at h
    split at h
    · cases h
    split at h
    · cases h
    · next s₁ begun hbegin =>
      cases h
      simpa only [step, hbegin] using hstep
  | mergeInvite c =>
    have hstep := s.via_step (.conferenceInviteMerged c)
    simp only [commitOperation] at h
    split at h
    · cases h
    split at h
    · cases h
    split at h
    · cases h
    · next s₁ hmerged =>
      cases h
      simpa only [step, hmerged] using hstep
  | abortInvite c channel needsResume media =>
    have hstep := via_abortConferenceInvite (s := s) c channel needsResume media
    simp only [commitOperation] at h
    split at h
    · cases h
    · rw [Option.some.inj h] at hstep
      exact hstep
  | hold c isHeld =>
    have hstep := s.via_step (.beginConferenceModeratorLegTransition c isHeld)
    simp only [commitOperation] at h
    split at h
    · cases h
    split at h
    · cases h
    next s₁ begun hbegin =>
    split at h
    · cases h
    next p _ =>
    have hmove := s₁.via_step (.conferenceModeratorLegTransitioned i p.id isHeld)
    split at h
    · cases h
    next s₂ hmoved =>
    cases h
    simp only [step, hbegin, hmoved] at hstep hmove
    exact hstep.trans hmove
  | mute d p muted =>
    have hstep := s.via_step (.beginConferenceParticipantMute d i p muted)
    simp only [commitOperation] at h
    split at h
    · cases h
    next s₁ begun hbegin =>
    have hcommit := s₁.via_step (.conferenceParticipantMuted i p muted)
    split at h
    · cases h
    next s₂ hmuted =>
    cases h
    simp only [step, hbegin, hmuted] at hstep hcommit
    exact hstep.trans hcommit
  | changeRole d p moderator =>
    have hstep := s.via_step (.beginConferenceParticipantRoleChange d i p moderator)
    simp only [commitOperation] at h
    split at h
    · cases h
    next s₁ begun hbegin =>
    have hcommit := s₁.via_step (.conferenceParticipantRoleChanged i p moderator)
    split at h
    · cases h
    next s₂ hchanged =>
    cases h
    simp only [step, hbegin, hchanged] at hstep hcommit
    exact hstep.trans hcommit
  | remove d p =>
    have hstep := s.via_step (.beginConferenceParticipantRemoval d i p)
    simp only [commitOperation] at h
    split at h
    · cases h
    next s₁ begun hbegin =>
    have hcommit := s₁.via_step (.conferenceParticipantRemoved i p)
    split at h
    · cases h
    next s₂ more hremoved =>
    cases h
    simp only [step, hbegin, hremoved] at hstep hcommit
    exact hstep.trans hcommit
  | depart p hungUp announce =>
    simp only [commitOperation] at h
    split at h
    · cases h
    next session hbyId =>
    obtain ⟨k, _, hk, _⟩ := get?_of_byId hbyId
    have hstep : Via s.ledger (s.activeConferenceDeparture session p hungUp announce).1.ledger :=
      via_activeConferenceDeparture ⟨k, hk⟩
    rw [Option.some.inj h] at hstep
    exact hstep

end Controller

end Sccp
