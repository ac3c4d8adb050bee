/-
  Sccp.Ledger.Sharing

  Hold, resume, answer, steal and barge as moves on the ledger.  A takeover is
  one `restate`: the call changes hands together with every appearance it
  lists.
-/

import Sccp.Ledger.Calls

namespace Sccp

open Ledger (Via)
open Function (update)

namespace Controller

variable {s : Controller}
variable {c : CallId} {l : Ledger}

/-! ## Takeovers -/

/-- A loop over the appearances of a call that one of them wins. -/
theorem ledger_loopAmong {edit : CallAppearanceId → CallAppearance → AppearanceEdit}
    {ids : List CallAppearanceId} (p : PbxCallId) (winner : CallAppearanceId) (st other : CallState)
    (hedit : ∀ id a, (edit id a).appearance.view
      = { a.view with state := if id = winner then st else other }) :
    (forAppearances edit s ids).1.ledger
      = s.ledger.restate p {} (Shows.among ids winner st other) :=
  s.ledger_forAppearances p hedit ids

theorem restate_nothing_restate (l : Ledger) (p : PbxCallId) (e : CallEdit) (g : Shows) :
    (l.restate p e Shows.nothing).restate p {} g = l.restate p e g := by
  rw [Ledger.restate_restate]
  congr 1
  funext x
  simp [Shows.after, Shows.nothing]

theorem setClaim_restate (l : Ledger) (p q : PbxCallId) (claim : Option SharedControlClaim)
    (e : CallEdit) (g : Shows) :
    (l.setClaim p claim).restate q e g = (l.restate q e g).setClaim p claim := rfl

theorem ledger_eraseClaim (p : PbxCallId) :
    ({ s with sharedControlClaims := s.sharedControlClaims.erase p } : Controller).ledger
      = s.ledger.setClaim p none := by
  apply Ledger.ext <;> try rfl
  funext q
  by_cases hq : q = p <;> simp [ledger, Ledger.setClaim, Table.get?_erase, hq]

theorem ledger_insertClaim (p : PbxCallId) (claim : SharedControlClaim) :
    ({ s with sharedControlClaims := s.sharedControlClaims.insert p claim } : Controller).ledger
      = s.ledger.setClaim p (some claim) := by
  apply Ledger.ext <;> try rfl
  funext q
  by_cases hq : q = p <;> simp [ledger, Ledger.setClaim, Table.get?_insert, hq]

/-! ## Hold -/

/-- What `hold` has checked when it takes effect. -/
structure HoldGuard (s : Controller) (c : CallId) (owner : CallAppearance) (call : PbxCall) :
    Prop where
  shown : s.appearanceForCall c = some owner
  live : s.pbx.get? owner.pbxId = some call
  unclaimed : owner.pbxId ∉ s.redirectClaims
  unbarged : s.bargeGroups.get? owner.pbxId = none
  unanswered : s.pendingPhoneAnswers.contains c = false
  engaged : isEngaged call.state = true
  owned : call.activeAppearance = some owner.id

/-- The ledger with one call on hold. -/
def held (l : Ledger) (p : PbxCallId) (ids : List CallAppearanceId) (owner : CallAppearanceId) :
    Ledger :=
  (l.restate p (.to .held) (Shows.among ids owner .held .sharedHeld)).setClaim p none

/-- The ledger after an attempt to hold a handset call. -/
inductive Holding (s : Controller) (c : CallId) : Ledger → Prop
  | refused : Holding s c s.ledger
  | aside {owner : CallAppearance} {call : PbxCall} (guard : HoldGuard s c owner call) :
      Holding s c (held s.ledger owner.pbxId call.appearanceIds owner.id)
  | idle {owner : CallAppearance} {call : PbxCall} (guard : HoldGuard s c owner call) :
      Holding s c
        ((held s.ledger owner.pbxId call.appearanceIds owner.id).point owner.deviceId none)

theorem ledger_holdLoop (owner : CallAppearance) (call : PbxCall) :
    (forAppearances (holdEdit owner.id)
      ({ s.modifyCall owner.pbxId fun call => { call with state := .held } with
        sharedControlClaims := s.sharedControlClaims.erase owner.pbxId } : Controller)
      call.appearanceIds).1.ledger
      = held s.ledger owner.pbxId call.appearanceIds owner.id := by
  rw [ledger_loopAmong owner.pbxId owner.id .held .sharedHeld]
  · refine Eq.trans (congrArg (fun l => Ledger.restate l owner.pbxId {} _)
      (ledger_eraseClaim (s := s.modifyCall owner.pbxId
        fun call => { call with state := .held }) owner.pbxId)) ?_
    rw [ledger_modifyCall s (e := .to .held) fun _ _ => rfl, setClaim_restate,
      restate_nothing_restate]
    rfl
  · intro id a
    unfold holdEdit
    by_cases h : id = owner.id <;> simp [h, CallAppearance.view]

/-- `hold` does nothing, or tells the backend and puts the call on hold. -/
theorem hold_cases (s : Controller) (c : CallId) :
    s.hold c = (s, []) ∨ ∃ owner call, HoldGuard s c owner call
      ∧ (∃ effects, (s.hold c).2 = .backend (.hold owner.pbxId) :: effects)
      ∧ ((s.hold c).1.ledger = held s.ledger owner.pbxId call.appearanceIds owner.id
        ∨ (s.hold c).1.ledger
          = (held s.ledger owner.pbxId call.appearanceIds owner.id).point owner.deviceId none) := by
  unfold hold
  split
  · exact .inl rfl
  next owner hown =>
  split
  · exact .inl rfl
  next call hcall =>
  split
  · exact .inl rfl
  next hg =>
  simp only [not_or, Bool.not_eq_true, Bool.not_eq_false', ne_eq, not_not] at hg
  obtain ⟨hred, hbarge, hpend, heng, hact⟩ := hg
  have guard : HoldGuard s c owner call :=
    ⟨hown, hcall, hred, Table.not_contains_iff.mp hbarge, hpend, by simpa using heng, hact⟩
  refine .inr ⟨owner, call, guard, ⟨_, rfl⟩, ?_⟩
  have hl := ledger_holdLoop (s := s) owner call
  simp only [ledger_setCallSelected]
  split
  · rcases Controller.ledger_setActiveCall (s := (forAppearances (holdEdit owner.id)
      ({ s.modifyCall owner.pbxId fun call => { call with state := .held } with
        sharedControlClaims := s.sharedControlClaims.erase owner.pbxId } : Controller)
      call.appearanceIds).1) (d := owner.deviceId) (x := none) with h | ⟨_, h⟩
    · exact .inl (h.trans hl)
    · exact .inr (h.trans (congrArg (Ledger.point · owner.deviceId none) hl))
  · exact .inl hl

theorem hold_holding (c : CallId) : Holding s c (s.hold c).1.ledger := by
  rcases hold_cases s c with h | ⟨owner, call, guard, _, h | h⟩
  · rw [h]
    exact .refused
  · rw [h]
    exact .aside guard
  · rw [h]
    exact .idle guard

theorem Holding.via (h : Holding s c l) : Via s.ledger l := by
  have hheld : ∀ p ids owner, Via s.ledger (held s.ledger p ids owner) := fun p ids owner =>
    .step (.restate p (.to .held) (Shows.among ids owner .held .sharedHeld)) trivial
      (.single (.setClaim p none) trivial)
  cases h with
  | refused => exact .refl _
  | aside => exact hheld ..
  | idle =>
    refine (hheld ..).trans (.single (.point _ none) ?_)
    intro x hx
    cases hx

theorem via_hold (c : CallId) : Via s.ledger (s.hold c).1.ledger :=
  (hold_holding c).via

theorem Holding.bySccp (h : Holding s c l) : l.bySccp = s.ledger.bySccp := by
  cases h <;> rfl

theorem Holding.session (h : Holding s c l) : l.session = s.ledger.session := by
  cases h <;> rfl

/-- Holding a call keeps every handset id. -/
theorem hold_bySccp (c : CallId) (x : CallId) :
    (s.hold c).1.bySccp.contains x = s.bySccp.contains x := by
  have h : (s.hold c).1.bySccp.get? x = s.bySccp.get? x :=
    congrFun (hold_holding (s := s) c).bySccp x
  cases hx : s.bySccp.get? x with
  | none => rw [Table.not_contains_iff.mpr hx, Table.not_contains_iff.mpr (h.trans hx)]
  | some a =>
    rw [Table.contains_iff.mpr ⟨a, hx⟩, Table.contains_iff.mpr ⟨a, h.trans hx⟩]

/-- The ledger after a device's call is set aside, if it has one. -/
def SetAside (s : Controller) (active : Option CallId) (l : Ledger) : Prop :=
  l = s.ledger ∨ ∃ c, active = some c ∧ Holding s c l

theorem setAside_setAside (active : Option CallId) :
    SetAside s active (s.setAside active).1.ledger := by
  cases active with
  | none => exact .inl rfl
  | some c => exact .inr ⟨c, rfl, hold_holding c⟩

theorem SetAside.via {active : Option CallId} (h : SetAside s active l) : Via s.ledger l := by
  rcases h with rfl | ⟨c, _, h⟩
  · exact .refl _
  · exact h.via

/-! ## Resume -/

/-- A device brings one of its calls to the front. -/
theorem via_focusDevice {a : CallAppearance} : Via s.ledger (s.focusDevice a c).ledger := by
  unfold focusDevice
  simp only [ledger_setCallSelected]
  have hv : Via (s.selectLine a.deviceId a.lineInstance).ledger
      ((s.selectLine a.deviceId a.lineInstance).setActiveCall a.deviceId (some c)).ledger :=
    via_setActiveCall
  rw [s.ledger_selectLine a.deviceId a.lineInstance] at hv
  exact hv

/-- The ledger of a call that one of its appearances has connected to. -/
def takenOver (l : Ledger) (p : PbxCallId) (ids : List CallAppearanceId)
    (winner : CallAppearanceId) : Ledger :=
  l.restate p (.own .connected (some winner)) (Shows.among ids winner .connected .remoteInUse)

theorem view_resumeEdit (requester : CallAppearanceId) (previous : Option CallAppearanceId)
    (id : CallAppearanceId) (a : CallAppearance) :
    (resumeEdit requester previous id a).appearance.view
      = { a.view with state := if id = requester then .connected else .remoteInUse } := by
  unfold resumeEdit
  by_cases h : id = requester <;> simp [h, CallAppearance.view]

theorem ledger_connectCall (p : PbxCallId) (owner : CallAppearanceId) (privacy : Bool) :
    (s.modifyCall p (connectCall owner privacy)).ledger
      = s.ledger.restate p (.own .connected (some owner)) Shows.nothing :=
  ledger_modifyCall s fun _ _ => rfl

theorem via_resume (c : CallId) : Via s.ledger (s.resume c).1.ledger := by
  unfold resume
  split
  · exact .refl _
  next requester _ =>
  split
  · exact .refl _
  next call _ =>
  split
  · exact .refl _
  simp only
  refine .step (.restate requester.pbxId (.own .connected (some requester.id))
    (Shows.among call.appearanceIds requester.id .connected .remoteInUse)) trivial ?_
  by_cases hact : call.activeAppearance = some requester.id
  · rw [if_neg (by simpa using hact)]
    refine Via.trans (.of_eq ?_) via_focusDevice
    rw [ledger_loopAmong requester.pbxId requester.id .connected .remoteInUse
      (view_resumeEdit _ _), ledger_connectCall, restate_nothing_restate]
    rfl
  rw [if_pos (by simpa using hact)]
  refine .step (.setClaim requester.pbxId (some (.steal requester.id))) trivial
    (Via.trans (.of_eq ?_) via_focusDevice)
  rw [ledger_loopAmong requester.pbxId requester.id .connected .remoteInUse (view_resumeEdit _ _)]
  refine Eq.trans (congrArg (fun l => Ledger.restate l requester.pbxId {} _)
    (ledger_insertClaim (s := s.modifyCall requester.pbxId
      (connectCall requester.id (requester.privacy
        || s.devicePrivacy requester.deviceId))) requester.pbxId
      (.steal requester.id))) ?_
  rw [ledger_connectCall, setClaim_restate, restate_nothing_restate]
  rfl

/-! ## Answering -/

/-- What `phone_answer` has checked when it takes effect. -/
structure AnswerGuard (s : Controller) (c : CallId) (winner : CallAppearance) (call : PbxCall) :
    Prop where
  shown : s.appearanceForCall c = some winner
  live : s.pbx.get? winner.pbxId = some call
  unclaimed : winner.pbxId ∉ s.redirectClaims
  ringing : call.state = .ringing
  unowned : call.activeAppearance = none
  shownRinging : winner.state = .ringing

theorem view_answerEdit (winner id : CallAppearanceId) (a : CallAppearance) :
    (answerEdit winner id a).appearance.view
      = { a.view with state := if id = winner then .connected else .remoteInUse } := by
  unfold answerEdit
  by_cases h : id = winner <;> simp [h, CallAppearance.view]

theorem ledger_answerLoop (winner : CallAppearance) (call : PbxCall) (privacy : Bool) :
    (forAppearances (answerEdit winner.id)
      (s.modifyCall winner.pbxId (connectCall winner.id privacy)) call.appearanceIds).1.ledger
      = takenOver s.ledger winner.pbxId call.appearanceIds winner.id := by
  rw [ledger_loopAmong winner.pbxId winner.id .connected .remoteInUse (view_answerEdit _),
    ledger_connectCall, restate_nothing_restate]
  rfl

theorem via_takeAnswer {winner : CallAppearance} {call : PbxCall} {privacy : Bool} :
    Via s.ledger (s.takeAnswer winner call c privacy).1.ledger := by
  have hl := ledger_answerLoop (s := s) winner call privacy
  refine .step (.restate winner.pbxId (.own .connected (some winner.id))
    (Shows.among call.appearanceIds winner.id .connected .remoteInUse)) trivial ?_
  unfold takeAnswer
  simp only
  generalize (forAppearances (answerEdit winner.id)
    (s.modifyCall winner.pbxId (connectCall winner.id privacy)) call.appearanceIds).1 = s' at hl
  exact Via.trans (.of_eq hl) (via_focusDevice
    (s := { s' with
      pendingPhoneAnswers := s'.pendingPhoneAnswers.insert winner.sccpId winner.pbxId }))

theorem via_answerFor {winner : CallAppearance} {call : PbxCall} :
    Via s.ledger (s.answerFor winner call c).1.ledger := by
  unfold answerFor
  simp only
  split
  · exact .refl _
  · exact (setAside_setAside _).via.trans via_takeAnswer

theorem via_phoneAnswer (c : CallId) : Via s.ledger (s.phoneAnswer c).1.ledger := by
  unfold phoneAnswer
  split
  · exact .refl _
  next winner _ =>
  split
  · exact .refl _
  split
  · exact .refl _
  · -- the alerting schedules that are dropped first are not in the ledger
    exact via_answerFor (s := s.stopAlerting winner.pbxId c)

theorem view_pbxAnswerEdit (winner id : CallAppearanceId) (a : CallAppearance) :
    (pbxAnswerEdit winner id a).appearance.view
      = { a.view with state := if id = winner then .connected else .remoteInUse } := by
  unfold pbxAnswerEdit
  by_cases h : id = winner <;> simp [h, CallAppearance.view]

/-- The ledger after a call's outbound phase has ended with the answer. -/
def undialed (l : Ledger) (p : PbxCallId) : Ledger := l.restate p (.dial false) Shows.nothing

theorem dialing_pbxAnswerCall (winner : CallAppearanceId) (privacy : Bool) (call : PbxCall) :
    (pbxAnswerCall winner privacy call).dialing = false := by
  simp only [PbxCall.dialing, pbxAnswerCall, connectCall]
  split
  · simp
  next h =>
  rw [not_and_or] at h
  rcases h with h | h
  · simp [h]
  · simp [Option.not_isSome_iff_eq_none.mp h]

theorem ledger_pbxAnswerLoop (p : PbxCallId) (winner : CallAppearanceId) (call : PbxCall)
    (privacy : Bool) :
    (forAppearances (pbxAnswerEdit winner) (s.modifyCall p (pbxAnswerCall winner privacy))
      call.appearanceIds).1.ledger
      = takenOver (undialed s.ledger p) p call.appearanceIds winner := by
  rw [ledger_loopAmong p winner .connected .remoteInUse (view_pbxAnswerEdit _),
    ledger_modifyCall s (e := { CallEdit.own .connected (some winner) with
      dialing := fun _ => false }) fun call' _ => ?_,
    restate_nothing_restate, takenOver, undialed, Ledger.restate_restate]
  · congr 1
    funext x
    simp [Shows.after, Shows.nothing]
  · rw [PbxCall.view, dialing_pbxAnswerCall]
    rfl

theorem via_pbxAnswer (p : PbxCallId) : Via s.ledger (s.pbxAnswer p).1.ledger := by
  unfold pbxAnswer
  split
  · exact .refl _
  split
  · exact .refl _
  next call _ =>
  split
  · exact .refl _
  split
  · exact .refl _
  next winner _ =>
  simp only
  refine .step (.restate p (.dial false) Shows.nothing) trivial
    (.step (.restate p (.own .connected (some winner))
      (Shows.among call.appearanceIds winner .connected .remoteInUse)) trivial ?_)
  generalize hs' : (forAppearances (pbxAnswerEdit winner) _ _).1 = s'
  have hl : s'.ledger = takenOver (undialed s.ledger p) p call.appearanceIds winner :=
    hs' ▸ ledger_pbxAnswerLoop p winner call _
  split
  · exact .of_eq hl
  · exact Via.trans (.of_eq hl) (Via.trans via_focusDevice
      (via_advanceTransferForPbx p .connected))

/-! ## Steal -/

/-- The edit of a call that changes hands while it is connected. -/
def CallEdit.stolen (owner : CallAppearanceId) : CallEdit := { active := fun _ => some owner }

theorem view_stealEdit (requester : CallAppearanceId) (previous : Option CallAppearanceId)
    (id : CallAppearanceId) (a : CallAppearance) :
    (stealEdit requester previous id a).appearance.view
      = { a.view with state := if id = requester then .connected else .remoteInUse } := by
  unfold stealEdit
  by_cases h : id = requester <;> simp [h, CallAppearance.view]

theorem via_steal (c : CallId) : Via s.ledger (s.steal c).1.ledger := by
  unfold steal
  split
  · exact .refl _
  next requester _ =>
  split
  · exact .refl _
  next call _ =>
  split
  · exact .refl _
  simp only [ledger_setCallSelected, ledger_selectLine]
  refine .step (.restate requester.pbxId (CallEdit.stolen requester.id)
    (Shows.among call.appearanceIds requester.id .connected .remoteInUse)) trivial
    (.step (.setClaim requester.pbxId (some (.steal requester.id))) trivial (.of_eq ?_))
  rw [ledger_loopAmong requester.pbxId requester.id .connected .remoteInUse (view_stealEdit _ _)]
  refine Eq.trans (congrArg (fun l => Ledger.restate l requester.pbxId {} _)
    (ledger_insertClaim (s := s.modifyCall requester.pbxId _) requester.pbxId
      (.steal requester.id))) ?_
  rw [ledger_modifyCall s (e := CallEdit.stolen requester.id) fun _ _ => rfl,
    setClaim_restate, restate_nothing_restate]
  rfl

/-! ## Barge -/

theorem ledger_bargeBridge {target : PbxCallId} {mode : BargeMode} {s' : Controller}
    {bridge : PbxBridgeId} {first : Bool}
    (h : s.bargeBridge target mode = .ok (s', bridge, first)) : s'.ledger = s.ledger := by
  unfold bargeBridge at h
  split at h
  · cases h
  · split at h
    · cases h
    · split at h
      · cases h
      · cases h
        rfl
  · cases h
    exact s.ledger_allocateBridgeId

theorem ledger_recordBarge (b : BargeSession) (first : Bool) :
    (s.recordBarge b first).ledger =
      { s.ledger with
        barge := update s.ledger.barge b.handsetCallId (some b)
        bargeOf := update s.ledger.bargeOf b.bargerCallId (some b.handsetCallId)
        claim :=
          if first then update s.ledger.claim b.targetCallId (some (.barge b.bridgeId))
          else s.ledger.claim
        group := update s.ledger.group b.targetCallId (if first then
            some { bridgeId := b.bridgeId, mode := b.mode, members := [b.handsetCallId] }
          else
            (s.ledger.group b.targetCallId).map fun group =>
              { group with members := group.members ++ [b.handsetCallId] }) } := by
  unfold recordBarge
  cases first with
  | true =>
    apply Ledger.ext <;> try rfl
    · funext q
      by_cases hq : q = b.targetCallId <;> simp [ledger, Table.get?_insert, hq]
    · funext q
      by_cases hq : q = b.targetCallId <;> simp [ledger, Table.get?_insert, hq]
    · funext q
      by_cases hq : q = b.handsetCallId <;> simp [ledger, Table.get?_insert, hq]
    · funext q
      by_cases hq : q = b.bargerCallId <;> simp [ledger, Table.get?_insert, hq]
  | false =>
    apply Ledger.ext <;> try rfl
    · funext q
      by_cases hq : q = b.targetCallId <;> simp [ledger, Table.get?_modify, hq]
    · funext q
      by_cases hq : q = b.handsetCallId <;> simp [ledger, Table.get?_insert, hq]
    · funext q
      by_cases hq : q = b.bargerCallId <;> simp [ledger, Table.get?_insert, hq]

theorem ledger_insertBarger {b : PbxCall} (h : b.view = Ledger.bargerView b.id) :
    (s.addBarger b).ledger
      = { s.ledger with call := update s.ledger.call b.id (some (Ledger.bargerView b.id)) } := by
  apply Ledger.ext <;> try rfl
  funext q
  by_cases hq : q = b.id <;> simp [ledger, addBarger, Table.get?_insert, hq, h]

theorem ledger_modifyAppearance_barged (a : CallAppearanceId) {f : CallAppearance → CallAppearance}
    (hf : ∀ v, (f v).view = { v.view with state := .barged }) :
    (s.modifyAppearance a f).ledger
      = { s.ledger with
          app := update s.ledger.app a ((s.ledger.app a).map fun v =>
            { v with state := .barged }) } := by
  apply Ledger.ext <;> try rfl
  funext x
  by_cases h : x = a
  · subst h
    cases hx : s.appearances.get? x <;> simp [ledger, modifyAppearance, Table.get?_modify, hx, hf]
  · simp [ledger, modifyAppearance, Table.get?_modify, h]

theorem via_barge {binding : LineBinding} {codec : Codec} {mode : BargeMode} :
    Via s.ledger (s.barge c binding codec mode).1.ledger := by
  unfold barge
  split
  · exact .refl _
  next requester _ =>
  split
  · exact .refl _
  next target _ =>
  split
  · exact .refl _
  split
  · exact .refl _
  next s' bridge first hbridge =>
  have hl := ledger_bargeBridge hbridge
  have hfresh : s.ledger.call s'.allocatePbxId.2 = none := by
    rw [← hl, ← s'.ledger_allocatePbxId]
    exact ledger_call_none _ s'.allocatePbxId_fresh
  simp only [ledger_setCallSelected, ledger_selectLine]
  refine .step (.bargeIn
    { targetCallId := target.id, bargerCallId := s'.allocatePbxId.2
      bridgeId := bridge, handsetCallId := c, mode } requester.id first) hfresh
    (.of_eq ?_)
  rw [ledger_recordBarge]
  have hbarger := ledger_insertBarger (s := s'.allocatePbxId.1) (b :=
    { id := s'.allocatePbxId.2, line := target.line, context := target.context,
      direction := .outbound, state := .connected, privacy := true }) rfl
  rw [ledger_allocatePbxId, hl] at hbarger
  rw [ledger_modifyAppearance_barged, hbarger]
  · rfl
  · exact fun _ => rfl

/-- One barge ends: its PBX call goes, and its handset shows the target again or
    leaves with it. -/
theorem via_endBargeInternal (c : CallId) (joined created restore : Bool) :
    Via s.ledger (s.endBargeInternal c joined created restore).1.ledger := by
  unfold endBargeInternal
  split
  · exact .refl _
  next b _ =>
  refine .step (.bargeOut b c) trivial (Via.trans (.of_eq (s.ledger_dropBarge b c)) ?_)
  simp only
  split
  · exact .refl _
  next a _ =>
  split
  · exact .restated (ledger_modifyAppearance _ b.targetCallId fun _ => rfl)
  · split
    · exact .refl _
    · exact .step (.detach a) trivial (.of_eq (ledger_removeAppearance _ a))

/-- A list of barges ends one after the other. -/
theorem via_endBarges (cs : List CallId) : Via s.ledger (s.endBarges cs).1.ledger := by
  induction cs generalizing s with
  | nil => exact .refl _
  | cons c rest ih =>
    simp only [endBarges]
    exact (via_endBargeInternal c true true false).trans ih

/-! ## Ringing calls -/

theorem via_forwardRingingCall (p : PbxCallId) :
    Via s.ledger (s.forwardRingingCall p).1.ledger := by
  unfold forwardRingingCall
  split
  · exact .refl _
  · split
    · exact .refl _
    · exact .step (.endCall p) trivial (.of_eq (ledger_removePbxCall _ p))

theorem via_claimRingingForward (p : PbxCallId) :
    Via s.ledger (s.claimRingingForward p).1.ledger := by
  unfold claimRingingForward
  split
  · exact .refl _
  · exact .step (.setRedirect p True) trivial (.of_eq (s.ledger_addRedirect p))

theorem via_rollbackRingingForward (p : PbxCallId) :
    Via s.ledger (s.rollbackRingingForward p).1.ledger :=
  .step (.setRedirect p False) trivial (.of_eq (s.ledger_dropRedirect p))

theorem via_completeRingingForward (p : PbxCallId) :
    Via s.ledger (s.completeRingingForward p).1.ledger := by
  unfold completeRingingForward
  split
  · exact (via_rollbackRingingForward p).trans (via_forwardRingingCall p)
  · exact .refl _

theorem via_cancelInboundOffer (c : CallId) : Via s.ledger (s.cancelInboundOffer c).1.ledger := by
  unfold cancelInboundOffer
  split
  · exact .refl _
  next a _ =>
  split
  · exact .refl _
  split
  · exact .refl _
  refine .step (.detach a.id) trivial (Via.trans (.of_eq (ledger_removeAppearance
    ({ s with pendingAutoAnswers := s.pendingAutoAnswers.erase c } : Controller) a.id)) ?_)
  simp only
  split
  · next hempty =>
    refine .step (.dropCall a.pbxId) ?_ (.of_eq (ledger_erasePbx _ a.pbxId))
    intro v hv
    obtain ⟨call', hcall', rfl⟩ := Option.map_eq_some_iff.mp hv
    rw [hcall'] at hempty
    exact show call'.appearanceIds = [] by simpa using hempty
  · exact .refl _

end Controller

end Sccp
