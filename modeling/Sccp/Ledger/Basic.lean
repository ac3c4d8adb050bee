/-
  Sccp.Ledger.Basic

  The ledger: what the controller's registries say about each other, without
  media, digits, party identities, timers or iteration order.  The six
  consistency checks of the source read nothing else.

  A move is one consistent edit of the ledger: a call changes state together
  with its appearances, an appearance leaves with its index entries, a call
  ends with its claims.  Every operation of the controller is a sequence of
  moves; what a move preserves is proved once, on the ledger.
-/

import Sccp.Controller.Events
import Sccp.Call.TransferRuns
import Mathlib.Logic.Function.Basic

namespace Sccp

open Function (update)

/-! ## Views of the records -/

/-- A PBX call as the checks see it. -/
structure CallView where
  id : PbxCallId
  state : CallState
  pickup : Bool
  ids : List CallAppearanceId
  active : Option CallAppearanceId
  dialing : Bool

/-- Whether a call has an outbound phase and is not answered yet. -/
def PbxCall.dialing (call : PbxCall) : Bool :=
  call.direction = .outbound && call.outboundPhase.any (· ≠ .answered)

def PbxCall.view (call : PbxCall) : CallView :=
  { id := call.id, state := call.state, pickup := call.pendingPickup.isSome
    ids := call.appearanceIds, active := call.activeAppearance, dialing := call.dialing }

/-- An appearance as the checks see it. -/
structure AppearanceView where
  id : CallAppearanceId
  sccpId : CallId
  pbxId : PbxCallId
  deviceId : DeviceId
  state : CallState

def CallAppearance.view (appearance : CallAppearance) : AppearanceView :=
  { id := appearance.id, sccpId := appearance.sccpId, pbxId := appearance.pbxId
    deviceId := appearance.deviceId, state := appearance.state }

structure ParticipantView where
  id : ParticipantId
  pbxCallId : PbxCallId
  handsetCallId : CallId
  deviceId : DeviceId
  moderator : Bool
  muted : Bool
  held : Bool

def ConferenceParticipant.view (p : ConferenceParticipant) : ParticipantView :=
  { id := p.id, pbxCallId := p.pbxCallId, handsetCallId := p.handsetCallId
    deviceId := p.deviceId, moderator := p.moderator, muted := p.muted, held := p.held }

structure InviteView where
  moderatorId : ParticipantId
  moderatorCallId : PbxCallId
  participant : ParticipantView

def ConferenceInvite.view (invite : ConferenceInvite) : InviteView :=
  { moderatorId := invite.moderatorId, moderatorCallId := invite.moderatorCallId
    participant := invite.participant.view }

/-- A conference session without names, bridge and media policy. -/
structure SessionView where
  id : ConferenceId
  deviceId : DeviceId
  originalHandsetCallId : CallId
  originalCallId : PbxCallId
  consultationHandsetCallId : CallId
  consultationCallId : PbxCallId
  phase : ConferencePhase
  origin : ConferenceOrigin
  participants : List ParticipantView
  invite : Option InviteView
  mutation : Option ConferenceParticipantMutation

def ConferenceSession.view (session : ConferenceSession) : SessionView :=
  { id := session.id, deviceId := session.deviceId
    originalHandsetCallId := session.originalHandsetCallId
    originalCallId := session.originalCallId
    consultationHandsetCallId := session.consultationHandsetCallId
    consultationCallId := session.consultationCallId
    phase := session.phase, origin := session.origin
    participants := session.participants.participants.map (·.view)
    invite := session.pendingInvite.map (·.view)
    mutation := session.pendingParticipantMutation }

/-- The part of a snapshot that a rollback puts back into the ledger. -/
structure DomainView where
  call : PbxCallId → Option CallView
  app : CallAppearanceId → Option AppearanceView
  bySccp : CallId → Option CallAppearanceId
  device : DeviceId → Option (Option CallId)
  claim : PbxCallId → Option SharedControlClaim

def CallDomainSnapshot.view (snapshot : CallDomainSnapshot) : DomainView where
  call p := (snapshot.pbxCalls.get? p).map (·.view)
  app a := (snapshot.appearances.get? a).map (·.view)
  bySccp := snapshot.appearanceBySccp.get?
  device d := (snapshot.devices.get? d).map (·.activeCall)
  claim := snapshot.sharedControlClaims.get?

/-- A pending call transition: its device, its two calls and its snapshot. -/
structure PendingView where
  deviceId : DeviceId
  targetCallId : CallId
  targetPbxId : PbxCallId
  previousCallId : Option CallId
  previousPbxId : Option PbxCallId
  domain : DomainView

def PendingCallTransition.view (pending : PendingCallTransition) : PendingView :=
  { deviceId := pending.transition.deviceId, targetCallId := pending.transition.targetCallId
    targetPbxId := pending.transition.targetPbxId
    previousCallId := pending.transition.previousCallId
    previousPbxId := pending.transition.previousPbxId, domain := pending.snapshot.view }

/-- The PBX calls of a transition. -/
def PendingView.affected (v : PendingView) : List PbxCallId :=
  v.previousPbxId.toList ++ [v.targetPbxId]

/-- A call without one of its appearances. -/
def CallView.forget (call : CallView) (a : CallAppearanceId) : CallView :=
  { call with
    ids := without call.ids a
    active := if call.active = some a then none else call.active }

/-! ## The ledger -/

@[ext] structure Ledger where
  call : PbxCallId → Option CallView
  app : CallAppearanceId → Option AppearanceView
  bySccp : CallId → Option CallAppearanceId
  byDevice : DeviceId → CallAppearanceId → Prop
  device : DeviceId → Option (Option CallId)
  claim : PbxCallId → Option SharedControlClaim
  group : PbxCallId → Option BargeGroup
  barge : CallId → Option BargeSession
  bargeOf : PbxCallId → Option CallId
  session : CallId → Option SessionView
  sessionOf : PbxCallId → Option CallId
  token : ConferenceMutationOwner → Option Nat
  nextToken : Nat
  transfer : DeviceId → Option TransferTransaction
  divert : DeviceId → Option VoicemailTransaction
  redirect : PbxCallId → Prop
  pending : CallTransitionId → Option PendingView

/-- The ledger of a controller. -/
def Controller.ledger (s : Controller) : Ledger where
  call p := (s.pbx.get? p).map (·.view)
  app a := (s.appearances.get? a).map (·.view)
  bySccp := s.bySccp.get?
  byDevice d a := ∃ ids, s.byDevice.get? d = some ids ∧ a ∈ ids
  device d := (s.devices.get? d).map (·.activeCall)
  claim := s.sharedControlClaims.get?
  group := s.bargeGroups.get?
  barge := s.bargesByHandset.get?
  bargeOf := s.bargesByPbx.get?
  session c := (s.conferencesByConsultation.get? c).map (·.view)
  sessionOf := s.conferencesByPbx.get?
  token := s.conferenceMutations.get?
  nextToken := s.nextConferenceMutationGeneration
  transfer := s.transfers.byDevice.get?
  divert := s.voicemail.byDevice.get?
  redirect p := p ∈ s.redirectClaims
  pending i := (s.pendingCallTransitions.get? i).map (·.view)

/-- A change of a call that leaves its id and its list of appearances alone. -/
structure CallEdit where
  state : CallState → CallState := id
  active : Option CallAppearanceId → Option CallAppearanceId := id
  pickup : Bool → Bool := id
  dialing : Bool → Bool := id

def CallEdit.apply (e : CallEdit) (v : CallView) : CallView :=
  { v with
    state := e.state v.state, active := e.active v.active, pickup := e.pickup v.pickup
    dialing := e.dialing v.dialing }

/-- The outbound phase of a call is set, and nothing else. -/
def CallEdit.dial (dialing : Bool) : CallEdit := { dialing := fun _ => dialing }

/-- An appearance shown in a new state, if there is one. -/
def AppearanceView.shown (v : AppearanceView) : Option CallState → AppearanceView
  | none => v
  | some state => { v with state }

/-- New states for some appearances. -/
abbrev Shows := CallAppearanceId → Option CallState

/-- No appearance changes. -/
def Shows.nothing : Shows := fun _ => none

/-- One appearance changes. -/
def Shows.only (a : CallAppearanceId) (state : CallState) : Shows :=
  fun x => if x = a then some state else none

/-- The appearances of a list change: one of them to `state`, the others to
    `other`. -/
def Shows.among (ids : List CallAppearanceId) (a : CallAppearanceId) (state other : CallState) :
    Shows :=
  fun x => if x ∈ ids then some (if x = a then state else other) else none

/-- Later changes override earlier ones. -/
def Shows.after (g' g : Shows) : Shows := fun x => (g' x).or (g x)

namespace Ledger

open scoped Classical in
/-- Replace the value at each key that satisfies a predicate. -/
noncomputable def replace {K V : Type} (f : K → V) (P : K → Prop) (g : K → V) : K → V :=
  fun k => if P k then g k else f k

variable (l : Ledger)

/-- The appearance a handset call is indexed to. -/
def appOf (callId : CallId) : Option AppearanceView := (l.bySccp callId).bind l.app

/-! ## Moves on calls and appearances -/

def restate (p : PbxCallId) (e : CallEdit) (g : Shows) : Ledger :=
  { l with
    call := update l.call p ((l.call p).map e.apply)
    app := fun a => (l.app a).map (·.shown (g a)) }

def create (call : CallView) (v : AppearanceView) : Ledger :=
  { l with
    call := update l.call call.id (some { call with ids := [v.id] })
    app := update l.app v.id (some v)
    bySccp := update l.bySccp v.sccpId (some v.id)
    byDevice := fun d a => l.byDevice d a ∨ (d = v.deviceId ∧ a = v.id) }

def attach (v : AppearanceView) : Ledger :=
  { l with
    call := update l.call v.pbxId
      ((l.call v.pbxId).map fun call => { call with ids := call.ids ++ [v.id] })
    app := update l.app v.id (some v)
    bySccp := update l.bySccp v.sccpId (some v.id)
    byDevice := fun d a => l.byDevice d a ∨ (d = v.deviceId ∧ a = v.id) }

def detach (a : CallAppearanceId) : Ledger :=
  match l.app a with
  | none => l
  | some v =>
    { l with
      call := update l.call v.pbxId ((l.call v.pbxId).map (·.forget a))
      app := update l.app a none
      bySccp := update l.bySccp v.sccpId none
      byDevice := fun d x => l.byDevice d x ∧ ¬(d = v.deviceId ∧ x = a)
      device := update l.device v.deviceId
        ((l.device v.deviceId).map fun x => if x = some v.sccpId then none else x)
      claim :=
        if l.claim v.pbxId = some (.steal a) then update l.claim v.pbxId none else l.claim }

/-- Detach appearances one after the other. -/
def detachAll (l : Ledger) : List CallAppearanceId → Ledger
  | [] => l
  | a :: rest => detachAll (l.detach a) rest

/-- End the transactions that are tied to a PBX call. -/
def release (p : PbxCallId) : Ledger :=
  { l with
    token := update l.token (.destination p) none
    divert := fun d => (l.divert d).filter (·.pbxCallId ≠ p)
    redirect := fun q => l.redirect q ∧ q ≠ p
    claim := update l.claim p none }

def dropCall (p : PbxCallId) : Ledger := { l with call := update l.call p none }

def endCall (p : PbxCallId) : Ledger :=
  ((l.release p).detachAll (((l.call p).map (·.ids)).getD [])).dropCall p

/-! ## Moves on devices and shared control -/

def point (d : DeviceId) (x : Option CallId) : Ledger :=
  { l with device := update l.device d ((l.device d).map fun _ => x) }

def register (d : DeviceId) : Ledger := { l with device := update l.device d (some none) }

def unregister (d : DeviceId) : Ledger := { l with device := update l.device d none }

def setClaim (p : PbxCallId) (claim : Option SharedControlClaim) : Ledger :=
  { l with claim := update l.claim p claim }

/-- The record of a barging call. -/
def bargerView (p : PbxCallId) : CallView :=
  { id := p, state := .connected, pickup := false, ids := [], active := none, dialing := false }

def bargeIn (b : BargeSession) (a : CallAppearanceId) (first : Bool) : Ledger :=
  { l with
    call := update l.call b.bargerCallId (some (bargerView b.bargerCallId))
    app := update l.app a ((l.app a).map fun v => { v with state := .barged })
    barge := update l.barge b.handsetCallId (some b)
    bargeOf := update l.bargeOf b.bargerCallId (some b.handsetCallId)
    claim := if first then update l.claim b.targetCallId (some (.barge b.bridgeId)) else l.claim
    group := update l.group b.targetCallId (if first then
        some { bridgeId := b.bridgeId, mode := b.mode, members := [b.handsetCallId] }
      else
        (l.group b.targetCallId).map fun group =>
          { group with members := group.members ++ [b.handsetCallId] }) }

/-- The members of a target's barge group without one handset. -/
def othersBarging (b : BargeSession) (callId : CallId) : List CallId :=
  without (((l.group b.targetCallId).map (·.members)).getD []) callId

def bargeOut (b : BargeSession) (callId : CallId) : Ledger :=
  { l with
    call := update l.call b.bargerCallId none
    barge := update l.barge callId none
    bargeOf := update l.bargeOf b.bargerCallId none
    group := update l.group b.targetCallId (if l.othersBarging b callId = [] then none
      else
        (l.group b.targetCallId).map fun group =>
          { group with members := without group.members callId })
    claim :=
      if l.othersBarging b callId = [] ∧ l.claim b.targetCallId = some (.barge b.bridgeId) then
        update l.claim b.targetCallId none
      else l.claim }

/-! ## Moves on conferences, transfers and diverts -/

open scoped Classical in
/-- Take a session from its key and some calls from the index, then store a
    session under its key and index calls to it. -/
noncomputable def reseat (old : CallId) (off : List PbxCallId)
    (new : Option (CallId × SessionView)) (on : List PbxCallId) : Ledger :=
  { l with
    session := fun c =>
      match new with
      | some (key, v) => if c = key then some v else if c = old then none else l.session c
      | none => if c = old then none else l.session c
    sessionOf := fun p =>
      match new with
      | some (key, _) => if p ∈ on then some key else if p ∈ off then none else l.sessionOf p
      | none => if p ∈ off then none else l.sessionOf p }

def issue (owner : ConferenceMutationOwner) : Ledger :=
  { l with token := update l.token owner (some l.nextToken), nextToken := l.nextToken + 1 }

def dropToken (owner : ConferenceMutationOwner) : Ledger :=
  { l with token := update l.token owner none }

def setTransfer (d : DeviceId) (t : Option TransferTransaction) : Ledger :=
  { l with transfer := update l.transfer d t }

def setDivert (d : DeviceId) (t : Option VoicemailTransaction) : Ledger :=
  { l with divert := update l.divert d t }

def setRedirect (p : PbxCallId) (claimed : Prop) : Ledger :=
  { l with redirect := update l.redirect p claimed }

/-! ## Moves on call transitions -/

def pend (i : CallTransitionId) (v : PendingView) : Ledger :=
  { l with pending := update l.pending i (some v) }

/-- Drop the pending transitions that satisfy a predicate. -/
noncomputable def unpend (P : CallTransitionId → Prop) : Ledger :=
  { l with pending := replace l.pending P fun _ => none }

/-- The handset calls that show the calls of a transition, now or in its
    snapshot. -/
def affectedCall (v : PendingView) (c : CallId) : Prop :=
  (∃ a w, l.app a = some w ∧ w.pbxId ∈ v.affected ∧ w.sccpId = c)
    ∨ (∃ a w, v.domain.app a = some w ∧ w.pbxId ∈ v.affected ∧ w.sccpId = c)
    ∨ c = v.targetCallId ∨ v.previousCallId = some c

/-- The appearances after a rollback. -/
def restoredApp (v : PendingView) (a : CallAppearanceId) : Option AppearanceView :=
  ((v.domain.app a).filter (·.pbxId ∈ v.affected)).or ((l.app a).filter (·.pbxId ∉ v.affected))

/-- The devices after a rollback. -/
def restoredDevice (v : PendingView) (d : DeviceId) : Option (Option CallId) :=
  (l.device d).map fun x =>
    if d = v.deviceId then (v.domain.device d).getD x else x

noncomputable def restore (v : PendingView) : Ledger :=
  { l with
    call := replace l.call (· ∈ v.affected) v.domain.call
    app := l.restoredApp v
    bySccp := replace l.bySccp (l.affectedCall v) v.domain.bySccp
    byDevice := fun d a => ∃ w, l.restoredApp v a = some w ∧ w.deviceId = d
    device := l.restoredDevice v
    claim := replace l.claim (· ∈ v.affected) v.domain.claim }

end Ledger

/-! ## Sequences of moves -/

inductive Move where
  | restate (p : PbxCallId) (e : CallEdit) (g : Shows)
  | create (call : CallView) (v : AppearanceView)
  | attach (v : AppearanceView)
  | detach (a : CallAppearanceId)
  | endCall (p : PbxCallId)
  | dropCall (p : PbxCallId)
  | point (d : DeviceId) (x : Option CallId)
  | register (d : DeviceId)
  | unregister (d : DeviceId)
  | setClaim (p : PbxCallId) (claim : Option SharedControlClaim)
  | bargeIn (b : BargeSession) (a : CallAppearanceId) (first : Bool)
  | bargeOut (b : BargeSession) (callId : CallId)
  | reseat (old : CallId) (off : List PbxCallId) (new : Option (CallId × SessionView))
      (on : List PbxCallId)
  | issue (owner : ConferenceMutationOwner)
  | dropToken (owner : ConferenceMutationOwner)
  | setTransfer (d : DeviceId) (t : Option TransferTransaction)
  | setDivert (d : DeviceId) (t : Option VoicemailTransaction)
  | setRedirect (p : PbxCallId) (claimed : Prop)
  | pend (i : CallTransitionId) (v : PendingView)
  | unpend (P : CallTransitionId → Prop)
  | restore (v : PendingView)

/-- Until a session is active nothing is pending in it, nobody in it is held, and
    it has a moderator. -/
def SessionView.Early (v : SessionView) : Prop :=
  v.phase ≠ .active → v.invite = none ∧ v.mutation = none
    ∧ (∀ p ∈ v.participants, p.held = false) ∧ ∃ p ∈ v.participants, p.moderator = true

theorem SessionView.Early.of_active {v : SessionView} (h : v.phase = .active) : v.Early :=
  fun hne => absurd h hne

/-- A session with an invite or a reserved mutation is active. -/
theorem SessionView.Early.active {v : SessionView} (h : v.Early)
    (hpending : v.invite ≠ none ∨ v.mutation ≠ none) : v.phase = .active := by
  by_contra hne
  obtain ⟨hinvite, hmutation, _⟩ := h hne
  rcases hpending with hp | hp
  · exact hp hinvite
  · exact hp hmutation

/-- Every session is stored under its consultation call, and no two sessions
    have the same id. -/
structure Ledger.SessionsApart (l : Ledger) : Prop where
  keyed : ∀ k v, l.session k = some v → v.consultationHandsetCallId = k
  single : ∀ k k' v v', l.session k = some v → l.session k' = some v' → v.id = v'.id → k = k'

/-- A session that may be stored under a key: it continues the one that it is
    taken from, or it is new and has an id of its own. -/
def SeatOk (l : Ledger) (old key : CallId) (v : SessionView) : Prop :=
  (∃ v₀, l.session old = some v₀ ∧ v.id = v₀.id
    ∧ (v₀.consultationHandsetCallId = old → v.consultationHandsetCallId = key)
    ∧ (l.SessionsApart → v₀.Early → v.Early))
  ∨ ((∀ k w, l.session k = some w → w.id ≠ v.id) ∧ v.consultationHandsetCallId = key ∧ v.Early)

namespace Move

/-- The ledger after a move. -/
noncomputable def apply (l : Ledger) : Move → Ledger
  | restate p e g => l.restate p e g
  | create call v => l.create call v
  | attach v => l.attach v
  | detach a => l.detach a
  | endCall p => l.endCall p
  | dropCall p => l.dropCall p
  | point d x => l.point d x
  | register d => l.register d
  | unregister d => l.unregister d
  | setClaim p claim => l.setClaim p claim
  | bargeIn b a first => l.bargeIn b a first
  | bargeOut b callId => l.bargeOut b callId
  | reseat old off new on => l.reseat old off new on
  | issue owner => l.issue owner
  | dropToken owner => l.dropToken owner
  | setTransfer d t => l.setTransfer d t
  | setDivert d t => l.setDivert d t
  | setRedirect p claimed => l.setRedirect p claimed
  | pend i v => l.pend i v
  | unpend P => l.unpend P
  | restore v => l.restore v

/-- What the operations check before a move. -/
def Enabled (l : Ledger) : Move → Prop
  | create call v =>
    call.id = v.pbxId ∧ l.call call.id = none ∧ l.app v.id = none ∧ l.bySccp v.sccpId = none
  | attach v => l.call v.pbxId ≠ none ∧ l.app v.id = none ∧ l.bySccp v.sccpId = none
  | dropCall p => ∀ v, l.call p = some v → v.ids = []
  | point d x => ∀ c, x = some c → ∃ v, l.appOf c = some v ∧ v.deviceId = d
  | bargeIn b _ _ => l.call b.bargerCallId = none
  | issue owner => l.token owner = none
  | setTransfer d t => ∀ u, t = some u → u.deviceId = d
  | setDivert d t => ∀ u, t = some u → u.deviceId = d
  | reseat old _ (some (key, session)) _ => SeatOk l old key session
  | restore v =>
    (∃ w, l.appOf v.targetCallId = some w ∧ w.pbxId = v.targetPbxId)
      ∧ (∀ c, v.previousCallId = some c → ∃ w, l.appOf c = some w ∧ v.previousPbxId = some w.pbxId)
      ∧ l.device v.deviceId = some (some v.targetCallId)
  | _ => True

end Move

/-- `Via l l'`: the ledger goes from `l` to `l'` by moves that are enabled where they
    are made. -/
inductive Ledger.Via : Ledger → Ledger → Prop where
  | refl (l : Ledger) : Via l l
  | step {l l' : Ledger} (m : Move) (enabled : m.Enabled l) (rest : Via (m.apply l) l') :
      Via l l'

namespace Ledger.Via

variable {l l' l'' : Ledger}

theorem trans (h : Via l l') (h' : Via l' l'') : Via l l'' := by
  induction h with
  | refl => exact h'
  | step m en _ ih => exact .step m en (ih h')

theorem of_eq (h : l' = l) : Via l l' := by
  subst h
  exact .refl _

theorem single (m : Move) (en : m.Enabled l) : Via l (m.apply l) :=
  .step m en (.refl _)

theorem restated {p : PbxCallId} {e : CallEdit} {g : Shows} (h : l' = l.restate p e g) : Via l l' :=
  .step (.restate p e g) trivial (of_eq h)

/-- What every move preserves, a sequence of them preserves. -/
theorem preserves {I : Ledger → Prop}
    (step : ∀ (l : Ledger) (m : Move), m.Enabled l → I l → I (m.apply l)) (h : Via l l')
    (hi : I l) : I l' := by
  induction h with
  | refl => exact hi
  | step m en _ ih => exact ih (step _ m en hi)

end Ledger.Via

end Sccp
