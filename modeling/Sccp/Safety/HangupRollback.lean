/-
  Sccp.Safety.HangupRollback

  A PBX hangup first rolls back the call transitions that involve the call and
  then takes one of four ways: the transfer the call is a leg of, its
  conference, its barge, or the plain end of the call.  Only the last one returns
  the effects of the rollback.  Which way it takes and whether the rollback has
  effects follows from the state before: from the pending transitions with their
  progress and snapshots, and from what the call is a part of.
-/

import Sccp.Ledger.Events
import Sccp.Safety.LoneCalls

namespace Sccp

variable {s : Controller}

namespace Controller

variable {p : PbxCallId}

/-- The effects a hangup reports, if it reports anything. -/
def hangupEffects (outcome : Option PbxHangupOutcome) : List DriverEffect :=
  (outcome.map (·.effects)).getD []

/-- The state and the effects once the transitions that involve a call are
    aborted (`abort_call_transitions_for_pbx`). -/
def rolledBack (s : Controller) (pbxId : PbxCallId) : Controller × List DriverEffect :=
  s.abortTransitions (pbxHangupFuel (s.pendingCallTransitions.size - 1)) pbxId
    (s.transitionsOf pbxId)

/-- A hangup rolls back, and goes on unless the rollback has ended the call. -/
theorem pbxHangupWithEffects_eq (pbxId : PbxCallId) : s.pbxHangupWithEffects pbxId
      = if !(s.rolledBack pbxId).2.isEmpty ∧ !(s.rolledBack pbxId).1.pbx.contains pbxId then
          ((s.rolledBack pbxId).1,
            some { primary := s.primaryCallByPbx pbxId, effects := (s.rolledBack pbxId).2 })
        else (s.rolledBack pbxId).1.pbxHangupSettled pbxId (s.rolledBack pbxId).2 := by
  unfold pbxHangupWithEffects rolledBack
  cases hsize : s.pendingCallTransitions.size with
  | zero =>
    have hnone : s.transitionsOf pbxId = [] := by
      rw [transitionsOf, List.length_eq_zero_iff.mp hsize]
      rfl
    rw [hnone]
    rfl
  | succ n => rfl

/-! ## Ending the barges of a call -/

theorem dropBarge_pbx (b : BargeSession) (c : CallId) :
    (s.dropBarge b c).1.pbx = s.pbx.erase b.bargerCallId
      ∧ (s.dropBarge b c).1.bargesByHandset = s.bargesByHandset.erase c := by
  unfold dropBarge
  dsimp only
  split <;> exact ⟨rfl, rfl⟩

theorem contains_removeAppearance (a : CallAppearanceId) (p : PbxCallId) :
    (s.removeAppearance a).1.pbx.contains p = s.pbx.contains p
      ∧ (s.removeAppearance a).1.bargesByHandset = s.bargesByHandset := by
  unfold removeAppearance
  split
  · exact ⟨rfl, rfl⟩
  · exact ⟨Table.contains_modify _ _ _ _, rfl⟩

/-- The end of a barge takes the barging call away, and no other. -/
theorem contains_endBargeInternal {c : CallId} {b : BargeSession}
    (h : s.bargesByHandset.get? c = some b) (joined created restore : Bool) (p : PbxCallId) :
    (s.endBargeInternal c joined created restore).1.pbx.contains p
        = (s.pbx.erase b.bargerCallId).contains p
      ∧ (s.endBargeInternal c joined created restore).1.bargesByHandset
        = s.bargesByHandset.erase c := by
  obtain ⟨hpbx, hbarges⟩ := dropBarge_pbx (s := s) b c
  unfold endBargeInternal
  rw [h]
  dsimp only
  generalize (s.dropBarge b c).1 = s' at hpbx hbarges
  rw [← hpbx, ← hbarges]
  split
  · exact ⟨rfl, rfl⟩
  split
  · exact ⟨rfl, rfl⟩
  · split
    · exact ⟨rfl, rfl⟩
    · exact contains_removeAppearance _ p

/-- A call is still there after a list of barges has ended exactly if none of
    them was its own. -/
theorem contains_endBarges (cs : List CallId) (p : PbxCallId) :
    (s.endBarges cs).1.pbx.contains p = true ↔ s.pbx.contains p = true
        ∧ ∀ c ∈ cs, ∀ b, s.bargesByHandset.get? c = some b → b.bargerCallId ≠ p := by
  induction cs generalizing s with
  | nil => simp [endBarges]
  | cons c rest ih =>
    show ((s.endBargeInternal c true true false).1.endBarges rest).1.pbx.contains p = true ↔ _
    rw [ih]
    cases hb : s.bargesByHandset.get? c with
    | none =>
      have hsame : (s.endBargeInternal c true true false).1 = s := by
        unfold endBargeInternal
        rw [hb]
      simp [hsame, hb]
    | some b =>
      obtain ⟨hpbx, hbarges⟩ := contains_endBargeInternal hb true true false p
      rw [hpbx, hbarges, Table.contains_erase, Bool.and_eq_true, decide_eq_true_eq]
      constructor
      · rintro ⟨⟨hne, hp⟩, hrest⟩
        refine ⟨hp, fun x hx b' hb' => ?_⟩
        by_cases hxc : x = c
        · subst hxc
          rw [← Option.mem_unique hb hb']
          exact Ne.symm hne
        · refine hrest x ((List.mem_cons.mp hx).resolve_left hxc) b' ?_
          rw [Table.get?_erase, if_neg hxc]
          exact hb'
      · rintro ⟨hp, hall⟩
        refine ⟨⟨Ne.symm (hall c List.mem_cons_self b hb), hp⟩, fun x hx b' hb' => ?_⟩
        rw [Table.get?_erase] at hb'
        split at hb'
        · cases hb'
        · exact hall x (List.mem_cons_of_mem _ hx) b' hb'

/-! ## The branch a hangup takes -/

/-- The call is no leg of a transfer, in no conference and no barge: it ends by
    itself. -/
structure PlainCall (s : Controller) (pbxId : PbxCallId) : Prop where
  untransferred : s.transferOf pbxId = none
  unconferenced : s.conferenceSessionByPbx pbxId = none
  unbarging : s.bargesByPbx.get? pbxId = none
  targeted : ∀ c ∈ ((s.bargeGroups.get? pbxId).map (·.members)).getD [],
    ∀ b, s.bargesByHandset.get? c = some b → b.bargerCallId ≠ pbxId

/-- Removing a call that is there reports it. -/
theorem removePbxCall_some (h : s.pbx.contains p = true) :
    ∃ s' removed, s.removePbxCall p = (s', some removed) := by
  have hkept : ∀ (ids : List CallAppearanceId) (s' : Controller), s'.pbx.contains p = true →
      (s'.removeAppearances ids).pbx.contains p = true := by
    intro ids
    induction ids with
    | nil => exact fun _ h => h
    | cons a rest ih =>
      exact fun s' h => ih _ ((contains_removeAppearance a p).1.trans h)
  obtain ⟨call, hcall⟩ := Table.contains_iff.mp (show (s.releaseCallClaims p).pbx.contains p = true
    from h)
  have hthere := hkept call.appearanceIds (s.releaseCallClaims p) h
  obtain ⟨call', hcall'⟩ := Table.contains_iff.mp hthere
  unfold removePbxCall
  dsimp only
  rw [hcall]
  dsimp only
  rw [hcall']
  exact ⟨_, _, rfl⟩

/-- The plain end of a call that is there returns the effects of the rollback
    before its own. -/
theorem settled_plain (hplain : s.PlainCall p) (hp : s.pbx.contains p = true)
    (rollback : List DriverEffect) : hangupEffects (s.pbxHangupSettled p rollback).2
      = rollback ++ hangupEffects (s.pbxHangupSettled p []).2 := by
  have hthere : (s.endBargesForTarget p).1.pbx.contains p = true :=
    (contains_endBarges _ p).mpr ⟨hp, hplain.targeted⟩
  obtain ⟨call, hcall⟩ := Table.contains_iff.mp hthere
  obtain ⟨s', removed, hremoved⟩ := removePbxCall_some hthere
  unfold pbxHangupSettled
  simp only [hplain.untransferred, hplain.unconferenced, hplain.unbarging, hcall, hremoved]
  simp [hangupEffects]

/-- Where the call is not plain, the effects of the rollback make no difference
    to what is returned: they are dropped. -/
theorem settled_dropped (h : ¬ s.PlainCall p) (rollback : List DriverEffect) :
    hangupEffects (s.pbxHangupSettled p rollback).2
      = hangupEffects (s.pbxHangupSettled p []).2 := by
  unfold pbxHangupSettled
  split
  · rfl
  next htransfer =>
  split
  · rfl
  next hconf =>
  split
  · rfl
  next hbarge =>
  have hgone : (s.endBargesForTarget p).1.pbx.get? p = none := by
    rw [← Table.not_contains_iff, Bool.eq_false_iff]
    intro hthere
    exact h ⟨htransfer, hconf, hbarge, ((contains_endBarges _ p).mp hthere).2⟩
  simp only [hgone]

/-! ## What a hangup returns of its rollback -/

/-- Every effect of the rollback is returned. -/
def KeepsRollback (s : Controller) (pbxId : PbxCallId) : Prop :=
  (s.rolledBack pbxId).2.Sublist (hangupEffects (s.pbxHangupWithEffects pbxId).2)

/-- The rollback has effects, and what is returned is what the transfer, the conference or
    the barge returns without them. -/
def DropsRollback (s : Controller) (pbxId : PbxCallId) : Prop :=
  (s.rolledBack pbxId).2 ≠ [] ∧ hangupEffects (s.pbxHangupWithEffects pbxId).2
    = hangupEffects ((s.rolledBack pbxId).1.pbxHangupSettled pbxId []).2

/-- The effects of the rollback are returned where it ends the call, or leaves it plain. -/
theorem keepsRollback_of_branch (h : (s.rolledBack p).2 = []
      ∨ (s.rolledBack p).1.pbx.contains p = false ∨ (s.rolledBack p).1.PlainCall p) :
    s.KeepsRollback p := by
  rw [KeepsRollback, pbxHangupWithEffects_eq]
  generalize s.rolledBack p = r at h ⊢
  obtain ⟨s', rollback⟩ := r
  by_cases hnil : rollback = []
  · rw [hnil]
    exact List.nil_sublist _
  by_cases hp : s'.pbx.contains p = true
  · rw [if_neg (by simp [hp])]
    have hplain : s'.PlainCall p := by simpa [hnil, hp] using h
    rw [settled_plain hplain hp]
    exact List.sublist_append_left _ _
  · rw [if_pos (by simp [hnil, hp])]
    exact List.Sublist.refl _

/-- Where the rollback leaves the call and its transfer, conference or barge, its effects
    are dropped. -/
theorem dropsRollback_of_branch (hsome : (s.rolledBack p).2 ≠ [])
    (hp : (s.rolledBack p).1.pbx.contains p = true)
    (hplain : ¬ (s.rolledBack p).1.PlainCall p) : s.DropsRollback p := by
  refine ⟨hsome, ?_⟩
  rw [pbxHangupWithEffects_eq, if_neg (by simp [hp])]
  exact settled_dropped hplain _

/-! ## Rollbacks that end no call -/

/-- The transaction, conference and barge registries of two states agree. -/
structure SameRegistries (s s' : Controller) : Prop where
  transfers : s'.transfers = s.transfers
  conferencesByPbx : s'.conferencesByPbx = s.conferencesByPbx
  conferencesByConsultation : s'.conferencesByConsultation = s.conferencesByConsultation
  bargesByPbx : s'.bargesByPbx = s.bargesByPbx
  bargesByHandset : s'.bargesByHandset = s.bargesByHandset
  bargeGroups : s'.bargeGroups = s.bargeGroups

theorem SameRegistries.refl (s : Controller) : SameRegistries s s := ⟨rfl, rfl, rfl, rfl, rfl, rfl⟩

theorem SameRegistries.trans {s₁ s₂ s₃ : Controller} (h : SameRegistries s₁ s₂)
    (h' : SameRegistries s₂ s₃) : SameRegistries s₁ s₃ :=
  ⟨h'.transfers.trans h.transfers, h'.conferencesByPbx.trans h.conferencesByPbx,
    h'.conferencesByConsultation.trans h.conferencesByConsultation,
    h'.bargesByPbx.trans h.bargesByPbx, h'.bargesByHandset.trans h.bargesByHandset,
    h'.bargeGroups.trans h.bargeGroups⟩

theorem SameRegistries.plainCall {s' : Controller} (h : SameRegistries s s') (p : PbxCallId) :
    s'.PlainCall p ↔ s.PlainCall p := by
  have htransfer : s'.transferOf p = s.transferOf p := by rw [transferOf, transferOf, h.transfers]
  have hconf : s'.conferenceSessionByPbx p = s.conferenceSessionByPbx p := by
    rw [conferenceSessionByPbx, conferenceSessionByPbx, h.conferencesByPbx,
      h.conferencesByConsultation]
  constructor
  · rintro ⟨h₁, h₂, h₃, h₄⟩
    exact ⟨htransfer ▸ h₁, hconf ▸ h₂, h.bargesByPbx ▸ h₃,
      by rwa [h.bargeGroups, h.bargesByHandset] at h₄⟩
  · rintro ⟨h₁, h₂, h₃, h₄⟩
    exact ⟨htransfer.trans h₁, hconf.trans h₂, h.bargesByPbx ▸ h₃,
      by rwa [h.bargeGroups, h.bargesByHandset]⟩

/-- Whether the abort of a transition hangs its target up: the target was
    ringing and the backend has answered it. -/
def hangsUpTarget (transition : CallTransition) (progress : CallTransitionProgress) : Bool :=
  transition.kind = .switch .ringing && .targetBackendStarted ∈ progress

section AbortTarget

variable {hangup : Hangup}
variable {transition : CallTransition} {progress : CallTransitionProgress} {state : CallState}

theorem abortTarget_ringing (hkind : transition.kind = .switch .ringing)
    (hstarted : .targetBackendStarted ∉ progress) :
    s.abortTarget hangup transition progress = (s, []) := by
  unfold abortTarget
  rw [hkind]
  exact if_neg (by simpa using hstarted)

theorem abortTarget_switch (hkind : transition.kind = .switch state) (hringing : state ≠ .ringing) :
    s.abortTarget hangup transition progress
      = if (state = .held ∨ state = .sharedHeld) ∧ .targetBackendStarted ∈ progress then
          (s, .backend (.hold transition.targetPbxId) :: (if .targetHandsetChanged ∈ progress then
            [.handset (.setCallState transition.deviceId transition.targetCallId .hold true)]
          else []))
        else (s, []) := by
  unfold abortTarget
  rw [hkind]
  cases state with
  | ringing => exact absurd rfl hringing
  | _ => simp only [decide_eq_true_eq]

theorem abortTarget_quiet (h : hangsUpTarget transition progress = false) :
    (s.abortTarget hangup transition progress).1 = s := by
  cases hkind : transition.kind with
  | additional =>
    unfold abortTarget
    rw [hkind]
  | switch state =>
    by_cases hringing : state = .ringing
    · subst hringing
      rw [abortTarget_ringing hkind (by simpa [hangsUpTarget, hkind] using h)]
    · rw [abortTarget_switch hkind hringing]
      split <;> rfl

end AbortTarget

theorem sameRegistries_restoreCallDomain (snapshot : CallDomainSnapshot)
    (transition : CallTransition) : SameRegistries s (s.restoreCallDomain snapshot transition).1
      ∧ (s.restoreCallDomain snapshot transition).1.pendingCallTransitions
        = s.pendingCallTransitions := by
  unfold restoreCallDomain
  split
  · exact ⟨.refl _, rfl⟩
  · exact ⟨⟨rfl, rfl, rfl, rfl, rfl, rfl⟩, rfl⟩

/-- The abort of one transition that hangs nothing up. -/
theorem sameRegistries_abort (hangup : Hangup)
    {i : CallTransitionId} {progress : CallTransitionProgress}
    (h : ∀ pending, s.pendingCallTransitions.get? i = some pending →
      hangsUpTarget pending.transition progress = false) :
    SameRegistries s (s.abortCallTransitionWith hangup i progress).1
      ∧ ∀ j pending, (s.abortCallTransitionWith hangup i progress).1.pendingCallTransitions.get? j
        = some pending → s.pendingCallTransitions.get? j = some pending := by
  unfold abortCallTransitionWith
  split
  · exact ⟨.refl _, fun _ _ h => h⟩
  next pending hpending =>
  have hquiet := h pending hpending
  have herased : ∀ j x, (s.pendingCallTransitions.erase i).get? j = some x →
      s.pendingCallTransitions.get? j = some x := by
    intro j x hx
    rw [Table.get?_erase] at hx
    split at hx
    · cases hx
    · exact hx
  obtain ⟨hsame, hkept⟩ := sameRegistries_restoreCallDomain
    (s := { s with pendingCallTransitions := s.pendingCallTransitions.erase i })
    pending.snapshot pending.transition
  dsimp only
  split
  · next s' hres =>
    rw [hres] at hsame hkept
    replace hkept : s'.pendingCallTransitions = s.pendingCallTransitions.erase i := hkept
    exact ⟨⟨hsame.1, hsame.2, hsame.3, hsame.4, hsame.5, hsame.6⟩,
      fun j x hx => herased j x (hkept ▸ hx)⟩
  next s' hres =>
  rw [hres] at hsame hkept
  replace hkept : s'.pendingCallTransitions = s.pendingCallTransitions.erase i := hkept
  dsimp only
  rw [abortTarget_quiet hquiet]
  exact ⟨⟨hsame.1, hsame.2, hsame.3, hsame.4, hsame.5, hsame.6⟩,
    fun j x hx => herased j x (hkept ▸ hx)⟩

variable (ids : List (CallTransitionId × CallTransitionProgress))

theorem sameRegistries_abortTransitions {hangup : Hangup}
    (h : ∀ e ∈ ids, ∀ pending, s.pendingCallTransitions.get? e.1 = some pending →
      hangsUpTarget pending.transition e.2 = false) :
    SameRegistries s (s.abortTransitions hangup p ids).1 := by
  induction ids generalizing s with
  | nil => exact .refl _
  | cons e rest ih =>
    obtain ⟨hsame, hkept⟩ := sameRegistries_abort hangup (h e List.mem_cons_self)
    exact hsame.trans (ih fun e' he' pending hpending =>
      h e' (List.mem_cons_of_mem _ he') pending (hkept _ _ hpending))

/-! ## The pending transitions of a call -/

/-- A pending transition goes from or to the call. -/
def Involves (s : Controller) (pbxId : PbxCallId) (i : CallTransitionId)
    (pending : PendingCallTransition) : Prop :=
  s.pendingCallTransitions.get? i = some pending
    ∧ (pending.transition.targetPbxId = pbxId ∨ pending.transition.previousPbxId = some pbxId)

theorem involves_of_mem {e : CallTransitionId × CallTransitionProgress}
    (he : e ∈ s.transitionsOf p) :
    ∃ pending, s.Involves p e.1 pending ∧ e.2 = pending.progress := by
  obtain ⟨entry, hentry, rfl⟩ := List.mem_map.mp he
  obtain ⟨hmem, hinvolved⟩ := List.mem_filter.mp hentry
  exact ⟨entry.2, ⟨Table.get?_eq_some.mpr hmem, by simpa using hinvolved⟩, rfl⟩

/-- What holds of every transition that involves the call holds of each that the rollback
    aborts. -/
theorem forall_transitionsOf {P : PendingCallTransition → CallTransitionProgress → Prop}
    (h : ∀ i pending, s.Involves p i pending → P pending pending.progress) :
    ∀ e ∈ s.transitionsOf p, ∀ pending, s.pendingCallTransitions.get? e.1 = some pending →
      P pending e.2 := by
  intro e he pending hpending
  obtain ⟨pending', hinvolves, hprogress⟩ := involves_of_mem he
  cases hpending.symm.trans hinvolves.1
  rw [hprogress]
  exact h e.1 _ hinvolves

/-- No pending transition that involves the call has an answered target. -/
def NoAnsweredTarget (s : Controller) (pbxId : PbxCallId) : Prop :=
  ∀ i pending, s.Involves pbxId i pending →
    hangsUpTarget pending.transition pending.progress = false

theorem plainCall_rolledBack (h : s.NoAnsweredTarget p) :
    (s.rolledBack p).1.PlainCall p ↔ s.PlainCall p :=
  (sameRegistries_abortTransitions _ (forall_transitionsOf (P := fun pending progress =>
    hangsUpTarget pending.transition progress = false) h)).plainCall p

/-! ## The rollback, read off the state before -/

/-- A call that nothing knows is plain, whatever the rollback hangs up. -/
theorem plainCall_of_lone (h : s.ledger.Lone p) : s.PlainCall p where
  untransferred := by
    unfold transferOf
    rw [Option.map_eq_none_iff, Table.find?_none]
    intro d t ht
    obtain ⟨hsource, hconsultation⟩ := h.untransferred d t ht
    cases hc : t.consultation with
    | none => simp [hsource]
    | some leg => simp [hsource, hconsultation leg hc]
  unconferenced := by
    have hindex : s.conferencesByPbx.get? p = none := h.unindexed
    rw [conferenceSessionByPbx, hindex]
  unbarging := h.unbarging
  targeted c _ b hb := h.barging c b hb

theorem lone_rolledBack (h : s.ledger.Lone p) : (s.rolledBack p).1.ledger.Lone p :=
  lone_abortTransitions (lone_pbxHangupFuel _) h p _

/-- Whether the abort of a transition has effects besides what the hangup of the call settles
    anyway, by what was recorded for it. -/
def owes (pbxId : PbxCallId) (pending : PendingCallTransition) (progress : CallTransitionProgress) :
    Bool :=
  let transition := pending.transition
  (match transition.kind with
    | .additional => true
    | .switch state => .targetBackendStarted ∈ progress
      ∧ (state = .ringing ∨ (state = .held ∨ state = .sharedHeld)
        ∧ (transition.targetPbxId ≠ pbxId ∨ .targetHandsetChanged ∈ progress)))
  || decide (.targetMicrophoneDisabled ∈ progress)
  || (.previousBackendHeld ∈ progress && transition.previousPbxId.any (· ≠ pbxId))
  || (.previousHandsetHeld ∈ progress
    && transition.previousCallId.any pending.snapshot.appearanceBySccp.contains)

variable {hangup : Hangup}
variable {i : CallTransitionId} {pending : PendingCallTransition}
  {progress : CallTransitionProgress}

/-- The state without a pending transition. -/
abbrev forgetting (s : Controller) (i : CallTransitionId) : Controller :=
  { s with pendingCallTransitions := s.pendingCallTransitions.erase i }

/-- A transition that has been overtaken is forgotten. -/
theorem abort_overtaken (h : s.pendingCallTransitions.get? i = some pending)
    (hcurrent : s.transitionIsCurrent pending.transition = false) :
    s.abortCallTransitionWith hangup i progress
      = (s.forgetting i, []) := by
  have hrestore : (s.forgetting i).restoreCallDomain pending.snapshot pending.transition
      = (s.forgetting i, false) := by
    unfold restoreCallDomain
    rw [if_pos]
    exact congrArg (!·) hcurrent
  unfold abortCallTransitionWith
  simp only [h, hrestore]

/-- The state with the snapshot of a transition put back. -/
def putBack (s : Controller) (i : CallTransitionId) (pending : PendingCallTransition) :
    Controller :=
  ((s.forgetting i).restoreCallDomain pending.snapshot pending.transition).1

/-- The effects that undo what was done for a transition, once its snapshot is put back. -/
def undoing (s : Controller) (hangup : Hangup)
    (transition : CallTransition) (progress : CallTransitionProgress) : List DriverEffect :=
  (s.abortTarget hangup transition progress).2
    ++ (if .targetMicrophoneDisabled ∈ progress then
        [.handset (.setMicrophoneMode transition.deviceId transition.targetCallId true)]
      else [])
    ++ s.previousRestored transition progress

/-- A transition that is still current has its snapshot put back and what was done undone. -/
theorem abort_current (h : s.pendingCallTransitions.get? i = some pending)
    (hcurrent : s.transitionIsCurrent pending.transition = true)
    (hquiet : hangsUpTarget pending.transition progress = false) :
    s.abortCallTransitionWith hangup i progress
      = (s.putBack i pending,
        (s.putBack i pending).undoing hangup pending.transition progress) := by
  have hrestore : (s.forgetting i).restoreCallDomain pending.snapshot pending.transition
      = (s.putBack i pending, true) := by
    unfold putBack restoreCallDomain
    have hstays : ¬ (!(s.forgetting i).transitionIsCurrent pending.transition) = true := by
      rw [Bool.not_eq_true, Bool.not_eq_false']
      exact hcurrent
    rw [if_neg hstays]
  unfold abortCallTransitionWith
  simp only [h, hrestore, abortTarget_quiet hquiet]
  rfl

/-- The index and the calls of the snapshot count for what the transition touched. -/
theorem putBack_tables (hcurrent : s.transitionIsCurrent pending.transition = true) :
    (∀ c, pending.transition.previousCallId = some c →
        (s.putBack i pending).bySccp.get? c = pending.snapshot.appearanceBySccp.get? c)
      ∧ (∀ p ∈ affectedPbx pending.transition,
        (s.putBack i pending).pbx.contains p = pending.snapshot.pbxCalls.contains p)
      ∧ ∀ a v, pending.snapshot.appearances.get? a = some v →
        v.pbxId ∈ affectedPbx pending.transition →
          (s.putBack i pending).appearances.get? a = some v := by
  have hstays : ¬ (!(s.forgetting i).transitionIsCurrent pending.transition) = true := by
    rw [Bool.not_eq_true, Bool.not_eq_false']
    exact hcurrent
  unfold putBack restoreCallDomain
  rw [if_neg hstays]
  refine ⟨fun c hc => ?_, fun p hp => ?_, fun a v ha hv => ?_⟩
  · have hmem : c ∈ (s.forgetting i).affectedCalls pending.snapshot pending.transition := by
      refine List.mem_append_right _ (List.mem_cons_of_mem _ ?_)
      rw [hc]
      exact List.mem_singleton_self c
    simp only [Table.get?_extend, Table.get?_filter]
    cases pending.snapshot.appearanceBySccp.get? c <;> simp [hmem]
  · simp only [Table.contains, Table.get?_extend, Table.get?_filter]
    cases pending.snapshot.pbxCalls.get? p <;> simp [hp]
  · simp [Table.get?_extend, ha, hv]

/-- An abort that owes nothing has no effects but those the hangup settles. -/
theorem undoing_nil (h : owes p pending progress = false)
    (hgone : ∀ c, pending.transition.previousCallId = some c →
      pending.snapshot.appearanceBySccp.contains c = false → s.appearanceForCall c = none) :
    (s.undoing hangup pending.transition progress).filter (!settledByHangup p ·) = [] := by
  simp only [owes, Bool.or_eq_false_iff] at h
  obtain ⟨⟨⟨htarget, hmicrophone⟩, hbackend⟩, hhandset⟩ := h
  have htargetNil : (s.abortTarget hangup pending.transition progress).2.filter
      (!settledByHangup p ·) = [] := by
    cases hkind : pending.transition.kind with
    | additional =>
      rw [hkind] at htarget
      cases htarget
    | switch state =>
      simp only [hkind, decide_eq_false_iff_not] at htarget
      by_cases hringing : state = .ringing
      · subst hringing
        rw [abortTarget_ringing hkind fun hstarted => htarget ⟨hstarted, .inl rfl⟩]
        rfl
      rw [abortTarget_switch hkind hringing]
      split
      · next hheld =>
        have hsettled : pending.transition.targetPbxId = p ∧ .targetHandsetChanged ∉ progress := by
          simpa [hheld.1, hheld.2, hringing] using htarget
        simp [settledByHangup, hsettled.1, hsettled.2]
      · rfl
  have hpreviousNil : (s.previousRestored pending.transition progress).filter
      (!settledByHangup p ·) = [] := by
    unfold previousRestored
    rw [List.filter_append, List.append_eq_nil_iff]
    constructor
    · cases hprevious : pending.transition.previousPbxId with
      | none => rfl
      | some c =>
        by_cases hheld : .previousBackendHeld ∈ progress
        · have hc : c = p := by simpa [hprevious, hheld] using hbackend
          simp [hheld, settledByHangup, hc]
        · simp [hheld]
    · cases hprevious : pending.transition.previousCallId with
      | none => rfl
      | some c =>
        by_cases hheld : .previousHandsetHeld ∈ progress
        · have hlacks : pending.snapshot.appearanceBySccp.contains c = false := by
            simpa [hprevious, hheld] using hhandset
          simp [hgone c hprevious hlacks]
        · cases hfound : s.appearanceForCall c with
          | none => simp [hfound]
          | some previous => simp [hfound, hheld]
  unfold undoing
  rw [List.filter_append, List.filter_append, htargetNil, hpreviousNil, if_neg]
  · rfl
  · simpa using hmicrophone

/-- An abort that owes something tells it. -/
theorem undoing_ne_nil (h : owes p pending progress = true)
    (hquiet : hangsUpTarget pending.transition progress = false)
    (hshown : ∀ c, pending.transition.previousCallId = some c →
      pending.snapshot.appearanceBySccp.contains c = true → (s.appearanceForCall c).isSome) :
    (s.undoing hangup pending.transition progress).filter (!settledByHangup p ·) ≠ [] := by
  simp only [owes, Bool.or_eq_true, Bool.and_eq_true, decide_eq_true_eq] at h
  -- it is enough that one effect is left
  have hany : ∃ e ∈ s.undoing hangup pending.transition progress, settledByHangup p e = false := by
    unfold undoing
    rcases h with ((htarget | hmicrophone) | ⟨hheld, hbackend⟩) | ⟨hheld, hhandset⟩
    · suffices hfound : ∃ e ∈ (s.abortTarget hangup pending.transition progress).2,
          settledByHangup p e = false by
        obtain ⟨e, he, hkept⟩ := hfound
        exact ⟨e, List.mem_append_left _ (List.mem_append_left _ he), hkept⟩
      cases hkind : pending.transition.kind with
      | additional =>
        unfold abortTarget
        rw [hkind]
        exact ⟨_, List.mem_append_right _ (List.mem_singleton_self _), rfl⟩
      | switch state =>
      simp only [hkind, decide_eq_true_eq] at htarget
      obtain ⟨hstarted, hstate⟩ := htarget
      have hringing : state ≠ .ringing := by
        rintro rfl
        simp [hangsUpTarget, hkind, hstarted] at hquiet
      obtain ⟨hheld, htold⟩ := hstate.resolve_left hringing
      rw [abortTarget_switch hkind hringing, if_pos ⟨hheld, hstarted⟩]
      rcases htold with hne | hchanged
      · exact ⟨_, List.mem_cons_self, by simpa [settledByHangup] using hne⟩
      · refine ⟨.handset (.setCallState pending.transition.deviceId
          pending.transition.targetCallId .hold true), List.mem_cons_of_mem _ ?_, rfl⟩
        rw [if_pos hchanged]
        exact List.mem_singleton_self _
    · refine ⟨.handset (.setMicrophoneMode pending.transition.deviceId
        pending.transition.targetCallId true), List.mem_append_left _ (List.mem_append_right _ ?_),
        rfl⟩
      rw [if_pos hmicrophone]
      exact List.mem_singleton_self _
    · obtain ⟨c, hc, hne⟩ := (Option.any_eq_true _ _).mp hbackend
      refine ⟨.backend (.resume c), List.mem_append_right _ (List.mem_append_left _ ?_),
        by simpa [settledByHangup] using hne⟩
      simp [hc, hheld]
    · obtain ⟨c, hc, hcontains⟩ := (Option.any_eq_true _ _).mp hhandset
      obtain ⟨previous, hprevious⟩ := Option.isSome_iff_exists.mp (hshown c hc hcontains)
      refine ⟨appearanceStateEffect previous .connected false,
        List.mem_append_right _ (List.mem_append_right _ ?_), rfl⟩
      simp [hc, hprevious, hheld]
  obtain ⟨e, he, hkept⟩ := hany
  exact List.ne_nil_of_mem (List.mem_filter.mpr ⟨he, by simp [hkept]⟩)

theorem abort_missing (h : s.pendingCallTransitions.get? i = none) :
    s.abortCallTransitionWith hangup i progress = (s, []) := by
  unfold abortCallTransitionWith
  simp only [h]

theorem quiet_of_owes (h : owes p pending progress = false) :
    hangsUpTarget pending.transition progress = false := by
  simp only [owes, Bool.or_eq_false_iff] at h
  have htarget := h.1.1.1
  by_contra hquiet
  simp only [hangsUpTarget, Bool.not_eq_false, Bool.and_eq_true, decide_eq_true_eq] at hquiet
  simp [hquiet.1, hquiet.2] at htarget

/-- The transitions that are pending after the abort of one were pending before. -/
theorem pending_abort (hquiet : ∀ pending, s.pendingCallTransitions.get? i = some pending →
      hangsUpTarget pending.transition progress = false)
    {P : PendingCallTransition → CallTransitionProgress → Prop}
    {rest : List (CallTransitionId × CallTransitionProgress)}
    (h : ∀ e ∈ rest, ∀ pending, s.pendingCallTransitions.get? e.1 = some pending →
      P pending e.2) :
    ∀ e ∈ rest, ∀ pending,
      (s.abortCallTransitionWith hangup i progress).1.pendingCallTransitions.get? e.1
        = some pending → P pending e.2 :=
  fun e he pending hpending => h e he pending ((sameRegistries_abort hangup hquiet).2 _ _ hpending)

theorem abortTransitions_overtaken
    (h : ∀ e ∈ ids, ∀ pending, s.pendingCallTransitions.get? e.1 = some pending →
      s.transitionIsCurrent pending.transition = false) :
    (s.abortTransitions hangup p ids).2 = [] := by
  induction ids generalizing s with
  | nil => rfl
  | cons e rest ih =>
    have hrest : ∀ e' ∈ rest, ∀ pending, s.pendingCallTransitions.get? e'.1 = some pending →
        s.transitionIsCurrent pending.transition = false :=
      fun e' he' => h e' (List.mem_cons_of_mem _ he')
    obtain ⟨i, progress⟩ := e
    unfold abortTransitions
    cases hpending : s.pendingCallTransitions.get? i with
    | none =>
      rw [abort_missing hpending]
      exact ih hrest
    | some pending =>
      rw [abort_overtaken hpending (h _ List.mem_cons_self pending hpending)]
      refine ih fun e' he' pending' hpending' => hrest e' he' pending' ?_
      rw [Table.get?_erase] at hpending'
      split at hpending'
      · cases hpending'
      · exact hpending'

theorem abortTransitions_owesNothing
    (h : ∀ e ∈ ids, ∀ pending, s.pendingCallTransitions.get? e.1 = some pending →
      owes p pending e.2 = false) : (s.abortTransitions hangup p ids).2 = [] := by
  induction ids generalizing s with
  | nil => rfl
  | cons e rest ih =>
    obtain ⟨i, progress⟩ := e
    have hthis := h _ List.mem_cons_self
    have hnone : ((s.abortCallTransitionWith hangup i progress).2).filter
        (!settledByHangup p ·) = [] := by
      cases hpending : s.pendingCallTransitions.get? i with
      | none =>
        rw [abort_missing hpending]
        rfl
      | some pending =>
        have howes := hthis pending hpending
        cases hcurrent : s.transitionIsCurrent pending.transition with
        | false =>
          rw [abort_overtaken hpending hcurrent]
          rfl
        | true =>
          rw [abort_current hpending hcurrent (quiet_of_owes howes)]
          refine undoing_nil howes fun c hc hlacks => ?_
          have hindex : (s.putBack i pending).bySccp.get? c = none :=
            ((putBack_tables hcurrent).1 c hc).trans (Table.not_contains_iff.mp hlacks)
          rw [appearanceForCall, hindex]
    have hrest := ih (s := (s.abortCallTransitionWith hangup i progress).1)
      (pending_abort (fun pending hpending => quiet_of_owes (hthis pending hpending))
      (P := fun pending progress => owes p pending progress = false)
      fun e' he' => h e' (List.mem_cons_of_mem _ he'))
    unfold abortTransitions
    simp only
    rw [hnone, hrest]
    rfl

/-- The abort of a transition whose snapshot is older than the call. -/
theorem abort_older (hquiet : hangsUpTarget pending.transition progress = false)
    (hpending : s.pendingCallTransitions.get? i = some pending)
    (hinvolved : p ∈ affectedPbx pending.transition)
    (hlacks : pending.snapshot.pbxCalls.contains p = false) :
    s.abortCallTransitionWith hangup i progress
        = (s.forgetting i, [])
      ∨ (s.abortCallTransitionWith hangup i progress).1.pbx.contains p = false := by
  cases hcurrent : s.transitionIsCurrent pending.transition with
  | false => exact .inl (abort_overtaken hpending hcurrent)
  | true =>
    rw [abort_current hpending hcurrent hquiet]
    exact .inr (((putBack_tables hcurrent).2.1 p hinvolved).trans hlacks)

/-- The rollback to snapshots that are older than the call has no effects, or ends it. -/
theorem abortTransitions_older
    (h : ∀ e ∈ ids, ∀ pending, s.pendingCallTransitions.get? e.1 = some pending →
      hangsUpTarget pending.transition e.2 = false ∧ p ∈ affectedPbx pending.transition
        ∧ pending.snapshot.pbxCalls.contains p = false) :
    ((s.abortTransitions hangup p ids).2 = []
        ∨ (s.abortTransitions hangup p ids).1.pbx.contains p = false)
      ∧ (s.pbx.contains p = false →
        (s.abortTransitions hangup p ids).1.pbx.contains p = false) := by
  induction ids generalizing s with
  | nil => exact ⟨.inl rfl, id⟩
  | cons e rest ih =>
    obtain ⟨i, progress⟩ := e
    have hthis := h _ List.mem_cons_self
    have hrest := ih (s := (s.abortCallTransitionWith hangup i progress).1)
      (pending_abort (fun pending hpending => (hthis pending hpending).1)
      (P := fun pending progress => hangsUpTarget pending.transition progress = false
        ∧ p ∈ affectedPbx pending.transition
        ∧ pending.snapshot.pbxCalls.contains p = false)
      fun e' he' => h e' (List.mem_cons_of_mem _ he'))
    have hstep : (s.abortCallTransitionWith hangup i progress).2 = []
          ∧ (s.abortCallTransitionWith hangup i progress).1.pbx = s.pbx
        ∨ (s.abortCallTransitionWith hangup i progress).1.pbx.contains p = false := by
      cases hpending : s.pendingCallTransitions.get? i with
      | none =>
        rw [abort_missing hpending]
        exact .inl ⟨rfl, rfl⟩
      | some pending =>
        obtain ⟨hquiet, hinvolved, hlacks⟩ := hthis pending hpending
        refine (abort_older hquiet hpending hinvolved hlacks).imp_left fun heq => ?_
        rw [heq]
        exact ⟨rfl, rfl⟩
    unfold abortTransitions
    simp only
    rcases hstep with ⟨hnil, hpbx⟩ | hgone
    · rw [hnil, ← hpbx]
      exact hrest
    · exact ⟨.inr (hrest.2 hgone), fun _ => hrest.2 hgone⟩

/-! ## When the effects are returned -/

/-- The state before a hangup from which the effects of the rollback are returned: the call is
    plain and no switch to it or from it has answered its target, or nothing knows the call
    at all; or every transition of the call has been overtaken, or owes nothing, or is older
    than the call. -/
def RollbackReturned (s : Controller) (pbxId : PbxCallId) : Prop :=
  (s.PlainCall pbxId ∧ s.NoAnsweredTarget pbxId) ∨ s.ledger.Lone pbxId
  ∨ (∀ i pending, s.Involves pbxId i pending → s.transitionIsCurrent pending.transition = false)
  ∨ (∀ i pending, s.Involves pbxId i pending → owes pbxId pending pending.progress = false)
  ∨ (s.NoAnsweredTarget pbxId ∧ ∀ i pending, s.Involves pbxId i pending →
    pending.snapshot.pbxCalls.contains pbxId = false)

/-- One transition involves the call, and its snapshot shows the previous call where the
    transition has found it. -/
structure SoleTransition (s : Controller) (pbxId : PbxCallId) : Prop where
  sole : ∀ i j pending pending', s.Involves pbxId i pending → s.Involves pbxId j pending' → i = j
  shown : ∀ i pending, s.Involves pbxId i pending → ∀ c a,
    pending.transition.previousCallId = some c →
    pending.snapshot.appearanceBySccp.get? c = some a →
    ∃ v, pending.snapshot.appearances.get? a = some v
      ∧ pending.transition.previousPbxId = some v.pbxId

theorem mem_affectedPbx (h : s.Involves p i pending) : p ∈ affectedPbx pending.transition := by
  rcases h.2 with htarget | hprevious
  · exact List.mem_append_right _ (List.mem_singleton.mpr htarget.symm)
  · refine List.mem_append_left _ ?_
    rw [hprevious]
    exact List.mem_singleton_self p

theorem keepsRollback_of_returned (h : s.RollbackReturned p) : s.KeepsRollback p := by
  refine keepsRollback_of_branch ?_
  rcases h with ⟨hplain, hquiet⟩ | hlone | hovertaken | howes | ⟨hquiet, holder⟩
  · exact .inr (.inr ((plainCall_rolledBack hquiet).mpr hplain))
  · exact .inr (.inr (plainCall_of_lone (lone_rolledBack hlone)))
  · exact .inl (abortTransitions_overtaken _ (forall_transitionsOf
      (P := fun pending _ => s.transitionIsCurrent pending.transition = false) hovertaken))
  · exact .inl (abortTransitions_owesNothing _ (forall_transitionsOf
      (P := fun pending progress => owes p pending progress = false) howes))
  · refine (abortTransitions_older _ (forall_transitionsOf
      (P := fun pending progress => hangsUpTarget pending.transition progress = false
        ∧ p ∈ affectedPbx pending.transition ∧ pending.snapshot.pbxCalls.contains p = false)
      fun i pending hi =>
        ⟨hquiet i pending hi, mem_affectedPbx hi, holder i pending hi⟩)).1.imp_right .inl

/-- The one transition of the call is the whole list of the rollback. -/
theorem transitionsOf_sole (h : s.SoleTransition p) (hi : s.Involves p i pending) :
    s.transitionsOf p = [(i, pending.progress)] := by
  have hfilter : (s.pendingCallTransitions.entries.filter fun entry =>
      entry.2.transition.targetPbxId = p || entry.2.transition.previousPbxId = some p)
      = [(i, pending)] := by
    generalize hl : (s.pendingCallTransitions.entries.filter fun entry =>
      entry.2.transition.targetPbxId = p || entry.2.transition.previousPbxId = some p) = l
    have hnodup : l.Nodup := hl ▸ (s.pendingCallTransitions.nodup.of_map _).filter _
    have hall : ∀ e ∈ l, e = (i, pending) := by
      intro e he
      obtain ⟨hmem, hinvolved⟩ := List.mem_filter.mp (hl ▸ he)
      have he' : s.Involves p e.1 e.2 := ⟨Table.get?_eq_some.mpr hmem, by simpa using hinvolved⟩
      obtain rfl := h.sole e.1 i e.2 pending he' hi
      cases hi.1.symm.trans he'.1
      rfl
    have hmem : (i, pending) ∈ l := by
      rw [← hl]
      exact List.mem_filter.mpr ⟨Table.get?_eq_some.mp hi.1, by simpa using hi.2⟩
    cases l with
    | nil => cases hmem
    | cons e rest =>
      obtain rfl := hall e List.mem_cons_self
      have hrest : rest = [] := by
        refine List.eq_nil_iff_forall_not_mem.mpr fun e' he' => ?_
        obtain rfl := hall e' (List.mem_cons_of_mem _ he')
        exact (List.nodup_cons.mp hnodup).1 he'
      rw [hrest]
  rw [transitionsOf, hfilter]
  rfl

theorem dropsRollback_of_not (hsole : s.SoleTransition p) (hquiet : s.NoAnsweredTarget p)
    (h : ¬ s.RollbackReturned p) : s.DropsRollback p := by
  simp only [RollbackReturned, not_or, not_and, not_forall] at h
  obtain ⟨hplain, -, ⟨i, pending, hi, hcurrent⟩, ⟨j, y, hj, howes⟩, hsnapshot⟩ := h
  obtain ⟨k, z, hk, hthere⟩ := hsnapshot hquiet
  -- the three are one transition
  obtain rfl := hsole.sole i j pending y hi hj
  obtain rfl := hsole.sole i k pending z hi hk
  cases hi.1.symm.trans hj.1
  cases hi.1.symm.trans hk.1
  have hcur : s.transitionIsCurrent pending.transition = true := by simpa using hcurrent
  obtain ⟨hindex, hpbx, happearances⟩ := putBack_tables (i := i) hcur
  have hrolled : s.rolledBack p = (s.putBack i pending,
      ((s.putBack i pending).undoing (pbxHangupFuel (s.pendingCallTransitions.size - 1))
        pending.transition pending.progress).filter (!settledByHangup p ·) ++ []) := by
    rw [rolledBack, transitionsOf_sole hsole hi, abortTransitions,
      abort_current hi.1 hcur (hquiet i pending hi)]
    rfl
  refine dropsRollback_of_branch ?_ ?_ fun h => ?_
  · rw [hrolled, List.append_nil]
    refine undoing_ne_nil (by simpa using howes) (hquiet i pending hi) fun c hc hcontains => ?_
    obtain ⟨a, ha⟩ := Table.contains_iff.mp hcontains
    obtain ⟨v, hv, hprevious⟩ := hsole.shown i pending hi c a hc ha
    have hmem : v.pbxId ∈ affectedPbx pending.transition := by
      refine List.mem_append_left _ ?_
      rw [hprevious]
      exact List.mem_singleton_self _
    rw [appearanceForCall, (hindex c hc).trans ha]
    exact Option.isSome_iff_exists.mpr ⟨v, happearances a v hv hmem⟩
  · rw [hrolled]
    exact (hpbx p (mem_affectedPbx hi)).trans (by simpa using hthere)
  · exact hplain ((plainCall_rolledBack hquiet).mp h) hquiet

end Controller

namespace Sample

/-- A consultation whose phone goes back to the source: the switch is under way
    and the hold of the consultation has been executed and shown. -/
def swapping : List Event :=
  [.operate (register desk), .operate (.beginPhoneCall ⟨1⟩ (binding desk) codec 0),
    .operate (.enbloc ⟨1⟩ "5"), .operate (.pbxAnswer ⟨1⟩),
    .operate (.beginTransfer
      { sourceCallId := ⟨1⟩, consultationCallId := ⟨2⟩, binding := binding desk, codec
        completeOnHangup := false, now := 0 }),
    .operate (.enbloc ⟨2⟩ "6"), .operate (.pbxAnswer ⟨2⟩),
    .operate (.beginActiveCallSwitchTransaction desk ⟨1⟩),
    .operate (.recordCallTransitionSuccess ⟨1⟩ (.backend (.hold ⟨2⟩))),
    .operate (.recordCallTransitionSuccess ⟨1⟩ (.handset (.setCallState desk ⟨2⟩ .hold true)))]

/-- The controller with the switch back to the source under way. -/
def swapped : Controller := (Controller.withDigitTimeouts 5 5).handleAll swapping

end Sample

end Sccp
