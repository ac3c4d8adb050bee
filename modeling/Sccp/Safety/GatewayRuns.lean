/-
  Sccp.Safety.GatewayRuns

  The books of the SIP bridge along its runs.

  Every handler but the registration of phones is a sequence of moves, whatever the two sides
  answer, so long as the SIP side gives calls fresh names.
-/

import Sccp.Safety.GatewaySteps

namespace Sccp.Gateway

open Sccp

/-- What the two sides are trusted with: a SIP call is given no name that a live call has, a
    handset call and an account are given fresh names, and an iteration visits everything. -/
structure World.Sound (w : World) : Prop where
  makeCall : ∀ b account destination advertised sipCall,
    w.makeCall b account destination advertised = some sipCall → b.Unused sipCall
  offerIncomingCall : ∀ b device lineInstance info callId,
    w.offerIncomingCall b device lineInstance info = some callId → b.calls.get? callId = none
  addAccount : ∀ b config account,
    w.addAccount b config = some account → b.bindingsByAccount.get? account = none
  order : ∀ b ids, (w.order b ids).Perm ids

/-- No outbound call gets the name of a reservation that was left behind. -/
def World.LeavesReservations (w : World) : Prop :=
  ∀ b account destination advertised sipCall,
    w.makeCall b account destination advertised = some sipCall →
      b.pendingIncoming.get? sipCall = none

theorem Handled.tail {A : Coordinator → Coordinator → Prop} {b b' b'' : Coordinator}
    (h : Handled A b b') (hmoves : Moves b' b'') : Handled A b b'' := by
  cases h with
  | quiet h => exact .quiet (h.trans hmoves)
  | once before attach after => exact .once before attach (after.trans hmoves)

theorem Handled.head {A : Coordinator → Coordinator → Prop} {b b' b'' : Coordinator}
    (h : Handled A b' b'') (hmoves : Moves b b') : Handled A b b'' := by
  cases h with
  | quiet h => exact .quiet (hmoves.trans h)
  | once before attach after => exact .once (hmoves.trans before) attach after

namespace Coordinator

variable {b b' : Coordinator} {device : DeviceId} {callId : CallId}

/-! ## Notes -/

theorem record_moves (b : Coordinator) {effect : Effect} (h : effect.isNeutral = true) :
    Moves b (b.record effect) :=
  .single (.note b effect h)

theorem Moves.record (h : Moves b b') {effect : Effect} (hneutral : effect.isNeutral = true) :
    Moves b (b'.record effect) :=
  h.tail (.note b' effect hneutral)

variable (w : World)

theorem sipRequest_moves (b : Coordinator) {request : SipRequest}
    (h : (Effect.sip request true).isNeutral = true) : Moves b (b.sipRequest w request).2 := by
  refine record_moves b ?_
  cases request <;> first | rfl | exact h

theorem Moves.sip (h : Moves b b') {request : SipRequest}
    (hneutral : (Effect.sip request true).isNeutral = true) : Moves b (b'.sipRequest w request).2 :=
  h.trans (sipRequest_moves w b' hneutral)

/-- What is done to one call is a sequence of moves. -/
theorem CallSteps.moves {E : CallMedia → CallMedia → Prop} (h : CallSteps E callId b b') :
    Moves b b' := by
  induction h with
  | refl => exact .refl
  | tail _ hstep ih =>
    cases hstep with
    | note hneutral _ => exact Moves.record ih hneutral
    | dialed lastDialed => exact ih.tail (.dialed _ lastDialed)
    | edit h => exact ih.tail (.edit _ callId _ fun call hcall => (h call hcall).1)
    | start device phone target hcall hroute _ _ =>
      refine Moves.record (ih.tail (.edit _ callId _ fun call _ => ?_)) rfl
      exact keeps_of_route rfl rfl rfl rfl hroute
    | close hcall heffects _ => exact ih.tail (.close _ callId _ _ hcall heffects)

theorem moves_of_steps (h : ∀ p, CallSteps (CallMedia.Edit p) callId b b') : Moves b b' :=
  (h b.mediaPolicy).moves

theorem endCall_moves (b : Coordinator) (callId : CallId) : Moves b (b.endCall w callId false) :=
  moves_of_steps fun _ => CallSteps.endCall w .refl

theorem failCall_moves (b : Coordinator) (callId : CallId) (message : String) :
    Moves b (b.failCall w callId message) :=
  moves_of_steps fun _ => CallSteps.failCall w .refl message

/-- A call that the SIP side has ended is closed, and not hung up again. -/
theorem endCall_fromSip_moves {call : BridgeCall} {sipCall : SipCallId}
    (hcall : b.calls.get? callId = some call) (hsip : call.sipCall = some sipCall) :
    Moves b ((b.record (.logDisconnected sipCall)).endCall w callId true) := by
  have hclosing := closing_disconnected call.device callId sipCall
  have hmove := Move.close b callId call _ hcall (hsip ▸ hclosing)
  refine .single ?_
  convert hmove using 1
  unfold endCall
  have hget : (b.record (.logDisconnected sipCall)).calls.get? callId = some call := hcall
  rw [hget]
  simp [hsip, sendSccp, record, unindexed]

/-! ## Dialing -/

theorem beginOutbound_moves (b : Coordinator) (device : DeviceId) (callId : CallId)
    (lineInstance : Nat) : Moves b (b.beginOutbound device callId lineInstance) := by
  unfold beginOutbound
  split
  · exact record_moves b rfl
  next account haccount =>
  split
  · exact .refl
  next hnew =>
  have hnone : b.calls.get? callId = none :=
    Table.not_contains_iff.mp (Bool.eq_false_iff.mpr hnew)
  exact .single (.start b callId _ device "Enter number" hnone rfl haccount)

/-- The only place where a call is given a SIP side by the SIP stack's answer. -/
theorem makeOutboundAfterPhoneMedia_handled (b : Coordinator) (callId : CallId) :
    Handled (Placed w) b (b.makeOutboundAfterPhoneMedia w callId) := by
  unfold makeOutboundAfterPhoneMedia
  split
  · exact .quiet .refl
  next call hcall =>
  split
  · exact .quiet .refl
  next hguard =>
  simp only [not_or, Bool.not_eq_true, Option.isSome_eq_false_iff,
    Option.isNone_iff_eq_none] at hguard
  split
  · next relay binding hroute hbinding =>
    have hrouted : call.mediaRoute ≠ .unallocated := fun h => by cases hroute.symm.trans h
    dsimp only
    split
    · next hanswer =>
      rw [hanswer]
      exact .quiet ((record_moves b rfl).trans (failCall_moves w _ callId _))
    next sipCall hanswer =>
    rw [hanswer]
    refine .once .refl (.intro callId call sipCall _ _ _ hcall hguard.2.1 hrouted
      hanswer) (Moves.record (record_moves _ rfl) rfl)
  · exact .quiet .refl

/-- The key or the call of a phone that starts a call if there is none yet. -/
theorem beginIfNew_moves (b : Coordinator) (device : DeviceId) (callId : CallId)
    (lineInstance : Nat) : Moves b
      (if b.calls.contains callId then b else b.beginOutbound device callId lineInstance) := by
  split
  · exact .refl
  · exact beginOutbound_moves b device callId lineInstance

theorem expireDigits_moves (b : Coordinator) (ids : List CallId) :
    Moves b (b.expireDigits w ids) := by
  induction ids generalizing b with
  | nil => exact .refl
  | cons callId rest ih =>
    have hcommit := (editDigits_steps (p := b.mediaPolicy) b callId (·.digits) fun _ => none).trans
      (commitDigits_steps w _ callId)
    exact (CallSteps.moves hcommit).trans (ih _)

theorem handleDigitDeadlines_moves (b : Coordinator) : Moves b (b.handleDigitDeadlines w) :=
  expireDigits_moves w b _

/-! ## Answering -/

theorem phoneOffHook_moves (b : Coordinator) (device : DeviceId) (callId : CallId)
    (lineInstance : Nat) : Moves b (b.phoneOffHook w device callId lineInstance) := by
  unfold phoneOffHook
  split
  · exact moves_of_steps fun _ => requestAnswer_steps w b callId
  · exact beginOutbound_moves b device callId lineInstance

theorem phoneMediaReady_handled (b : Coordinator) (callId : CallId) (endpoint : MediaEndpoint) :
    Handled (Placed w) b (b.phoneMediaReady w callId endpoint) := by
  unfold phoneMediaReady
  split
  · exact .quiet .refl
  dsimp only
  split
  · exact .quiet (failCall_moves w b callId _)
  next address _ =>
  have hready : Moves b (b.editCall callId fun call =>
      { call with phoneMedia := .ready { endpoint with address } }) :=
    .single (.edit b callId _ fun _ _ => keeps_of_eq rfl rfl rfl rfl rfl)
  refine Handled.tail ?_ (moves_of_steps fun _ => activateMedia_steps w _ callId)
  split
  · exact (makeOutboundAfterPhoneMedia_handled w _ callId).head hready
  · exact .quiet ((hready.trans (reconcileMediaRoute_steps w _ callId).moves).trans
      (moves_of_steps fun _ => ringOrAnswer_steps w _ callId))

/-! ## Incoming calls -/

/-- A call that is offered is attached to its SIP call at once, and to no other call. -/
theorem incomingCall_handled (b : Coordinator) (account : AccountId) (sipCall : SipCallId)
    (remoteUri : String) (remoteMedia : Option RemoteMedia) :
    Handled (Offered w sipCall) b (b.incomingCall w account sipCall remoteUri remoteMedia) := by
  unfold incomingCall
  dsimp only
  have hcleared : (b.pendingIncoming.erase sipCall).get? sipCall = none := by
    rw [Table.get?_erase, if_pos rfl]
  generalize hreleased : { b with
    pendingIncoming := b.pendingIncoming.erase sipCall : Coordinator } = released
  have hrelease : Moves b released := hreleased ▸ .single (.release b sipCall)
  split
  · exact .quiet (Moves.sip w hrelease rfl)
  next binding hbinding =>
  split
  · exact .quiet (Moves.sip w hrelease rfl)
  split
  · exact .quiet (Moves.sip w hrelease rfl)
  next relay _ =>
  have hset : Moves b (released.sipRequest w
      (.setMediaAdvertisement sipCall relay.addresses.sipFacingRtp)).2 :=
    Moves.sip w hrelease rfl
  split
  · exact .quiet (Moves.sip w hset rfl)
  split
  · next hanswer =>
    rw [hanswer]
    exact .quiet (Moves.sip w (Moves.record hset rfl) rfl)
  next callId hanswer =>
  rw [hanswer]
  subst hreleased
  have hoffer := fun info hanswer => Offered.intro (w := w)
    (b := ({ b with
        pendingIncoming := b.pendingIncoming.erase sipCall }.sipRequest w
      (.setMediaAdvertisement sipCall relay.addresses.sipFacingRtp)).2) callId
    { device := binding.device, lineInstance := binding.lineInstance, account
      sipCall := some sipCall, direction := .inbound, state := .ringing
      digits := "", digitDeadline := none, phoneMedia := .opening, remoteMedia
      mediaRoute := .relay (.reserved relay)
      codec := remoteMedia.elim (b.preferredCodec binding.device) (·.codec)
      inboundProgress := .waitingForPhone }
    binding.device binding.lineInstance info binding rfl nofun hbinding rfl rfl
    hcleared hanswer
  split
  · refine .once hset (hoffer _ hanswer) ?_
    exact Moves.record (Moves.record (Moves.record .refl rfl) rfl) rfl
  · refine .once hset (hoffer _ hanswer) ?_
    exact Moves.record .refl rfl

theorem callAdvertisement_eq_none {call : BridgeCall} (h : callAdvertisement call = none) :
    call.mediaRoute = .unallocated := by
  rcases hroute : call.mediaRoute with _ | path | path | _ | relay
  · rfl
  all_goals simp [callAdvertisement, hroute, relayAdvertisement] at h

theorem mediaAdvertisement_moves (b : Coordinator) (account : AccountId) (sipCall : SipCallId) :
    Moves b (b.mediaAdvertisement w account sipCall).2 := by
  unfold mediaAdvertisement
  split
  · exact .refl
  next hnone =>
  split
  · exact .refl
  split
  · exact .refl
  split
  · exact .refl
  · refine .single (.reserve b sipCall _ fun c call hc hcall => ?_)
    rw [hc, Option.bind_some, hcall, Option.bind_some] at hnone
    exact callAdvertisement_eq_none hnone

/-! ## Events of the SIP side -/

theorem sipCallState_moves (b : Coordinator) (hbooks : b.CallIndex) (sipCall : SipCallId)
    (state : DialogState) : Moves b (b.sipCallState w sipCall state) := by
  unfold sipCallState
  split
  · split
    · exact .single (.release b sipCall)
    · exact .refl
  next callId hindex =>
  split
  · exact .refl
  next call hcall =>
  by_cases hlive : state ≠ .disconnected
  · have hsteps := sipCallState_steps w hlive hindex
    unfold Coordinator.sipCallState at hsteps
    rw [hindex] at hsteps
    dsimp only at hsteps
    rw [hcall] at hsteps
    exact hsteps.moves
  obtain rfl := not_not.mp hlive
  obtain ⟨indexed, hindexed, hsip⟩ := (hbooks.indexed sipCall callId).mp hindex
  rw [hcall] at hindexed
  rw [← Option.some.inj hindexed] at hsip
  exact endCall_fromSip_moves w hcall hsip

/-! ## The end of a registration -/

/-- Two states with the same devices, lines and accounts. -/
structure SameLines (b b' : Coordinator) : Prop where
  registrations : b'.registrations = b.registrations
  accountsByLine : b'.accountsByLine = b.accountsByLine
  bindingsByAccount : b'.bindingsByAccount = b.bindingsByAccount

theorem endCall_sameLines (b : Coordinator) (callId : CallId) :
    b.SameLines (b.endCall w callId false) := by
  rcases hcall : b.calls.get? callId with _ | call
  · unfold endCall
    rw [hcall]
    exact ⟨rfl, rfl, rfl⟩
  · obtain ⟨effects, -, -, heq⟩ := endCall_eq w hcall
    rw [heq]
    exact ⟨rfl, rfl, rfl⟩

theorem get?_endCall (b : Coordinator) (callId c : CallId) :
    (b.endCall w callId false).calls.get? c = if c = callId then none else b.calls.get? c := by
  rcases hcall : b.calls.get? callId with _ | call
  · have hgone : b.endCall w callId false = b := by
      unfold endCall
      rw [hcall]
    rw [hgone]
    by_cases hc : c = callId
    · rw [if_pos hc, hc, hcall]
    · rw [if_neg hc]
  · obtain ⟨effects, -, -, heq⟩ := endCall_eq w hcall
    rw [heq]
    exact Table.get?_erase ..

theorem endCalls_moves (b : Coordinator) (ids : List CallId) : Moves b (b.endCalls w ids) := by
  induction ids generalizing b with
  | nil => exact .refl
  | cons callId rest ih => exact (endCall_moves w b callId).trans (ih _)

theorem endCalls_sameLines (b : Coordinator) (ids : List CallId) :
    b.SameLines (b.endCalls w ids) := by
  induction ids generalizing b with
  | nil => exact ⟨rfl, rfl, rfl⟩
  | cons callId rest ih =>
    have hone := endCall_sameLines w b callId
    have hrest := ih (b.endCall w callId false)
    exact ⟨hrest.registrations.trans hone.registrations,
      hrest.accountsByLine.trans hone.accountsByLine,
      hrest.bindingsByAccount.trans hone.bindingsByAccount⟩

theorem get?_endCalls (b : Coordinator) (ids : List CallId) (c : CallId) :
    (b.endCalls w ids).calls.get? c = if c ∈ ids then none else b.calls.get? c := by
  induction ids generalizing b with
  | nil => simp [endCalls]
  | cons callId rest ih =>
    rw [endCalls, ih, get?_endCall]
    by_cases hc : c = callId <;> by_cases hrest : c ∈ rest <;> simp [hc, hrest]

/-- What the removal of accounts leaves. -/
theorem removeAccounts_spec (b : Coordinator) (accounts : List AccountId) :
    (b.removeAccounts w accounts).registrations = b.registrations
      ∧ (b.removeAccounts w accounts).accountsByLine = b.accountsByLine
      ∧ (b.removeAccounts w accounts).calls = b.calls
      ∧ ∀ account, (b.removeAccounts w accounts).bindingsByAccount.get? account
          = if account ∈ accounts then none else b.bindingsByAccount.get? account := by
  induction accounts generalizing b with
  | nil => simp [removeAccounts]
  | cons first rest ih =>
    obtain ⟨hregistrations, hlines, hcalls, hbindings⟩ := ih
      ({ b with bindingsByAccount := b.bindingsByAccount.erase first }.sipRequest w
        (.removeAccount first)).2
    refine ⟨hregistrations, hlines, hcalls, fun account => ?_⟩
    rw [removeAccounts, hbindings]
    dsimp only [sipRequest, record]
    rw [Table.get?_erase]
    by_cases hfirst : account = first <;> by_cases hrest : account ∈ rest <;> simp [hfirst, hrest]

theorem removeAccounts_turns (b : Coordinator) (accounts : List AccountId) :
    Turns b (b.removeAccounts w accounts) := by
  induction accounts generalizing b with
  | nil => exact .refl
  | cons first rest ih =>
    have herased : Turns b { b with bindingsByAccount := b.bindingsByAccount.erase first } :=
      .single (.lines rfl rfl rfl rfl)
    exact (herased.trans (Moves.turns (sipRequest_moves w _ rfl))).trans (ih _)

theorem unregisterPhone_turns (b : Coordinator) (device : DeviceId) :
    Turns b (b.unregisterPhone w device) := by
  unfold unregisterPhone
  dsimp only
  have herased : Turns b { b with registrations := b.registrations.erase device } :=
    .single (.lines rfl rfl rfl rfl)
  have hended := herased.trans (Moves.turns (endCalls_moves w _ (w.order
    { b with registrations := b.registrations.erase device } (b.callsOf device))))
  refine Relation.ReflTransGen.trans ?_ (removeAccounts_turns w _ _)
  exact hended.tail (.lines rfl rfl rfl rfl)

theorem mem_callsOf {c : CallId} :
    c ∈ b.callsOf device ↔ ∃ call, b.calls.get? c = some call ∧ call.device = device := by
  unfold callsOf
  rw [Table.mem_keys]
  simp [Option.filter_eq_some_iff]

theorem mem_accountsOf {account : AccountId} : account ∈ b.accountsOf device
      ↔ ∃ lineInstance, b.accountsByLine.get? (device, lineInstance) = some account := by
  unfold accountsOf
  rw [Table.mem_values]
  constructor
  · rintro ⟨⟨other, lineInstance⟩, hget⟩
    rw [Table.get?_filter, Option.filter_eq_some_iff] at hget
    obtain rfl : other = device := of_decide_eq_true hget.2
    exact ⟨lineInstance, hget.1⟩
  rintro ⟨lineInstance, hget⟩
  refine ⟨(device, lineInstance), ?_⟩
  rw [Table.get?_filter, Option.filter_eq_some_iff]
  exact ⟨hget, decide_eq_true rfl⟩

/-- The device is gone with its lines, their accounts and its calls; the others are untouched. -/
theorem unregisterPhone_spec (hw : w.Sound) (b : Coordinator) (device : DeviceId) :
    (b.unregisterPhone w device).registrations = b.registrations.erase device
      ∧ (b.unregisterPhone w device).accountsByLine
          = b.accountsByLine.filter (fun line _ => line.1 ≠ device)
      ∧ (∀ account, (b.unregisterPhone w device).bindingsByAccount.get? account
          = if account ∈ b.accountsOf device then none else b.bindingsByAccount.get? account)
      ∧ ∀ c, (b.unregisterPhone w device).calls.get? c
          = if c ∈ b.callsOf device then none else b.calls.get? c := by
  unfold unregisterPhone
  dsimp only
  generalize herased : { b with
    registrations := b.registrations.erase device : Coordinator } = erased
  have hcallsOf : erased.callsOf device = b.callsOf device := by rw [← herased]; rfl
  have horder := hw.order erased (erased.callsOf device)
  generalize w.order erased (erased.callsOf device) = ids at horder ⊢
  have hsame := endCalls_sameLines w erased ids
  have hended := get?_endCalls w erased ids
  generalize erased.endCalls w ids = ended at hsame hended ⊢
  have haccountsOf : ended.accountsOf device = b.accountsOf device := by
    unfold accountsOf
    rw [hsame.accountsByLine, ← herased]
  obtain ⟨hregistrations, hlines, hcalls, hbindings⟩ := removeAccounts_spec w
    { ended with accountsByLine := ended.accountsByLine.filter fun line _ => line.1 ≠ device }
    (ended.accountsOf device)
  refine ⟨?_, ?_, fun account => ?_, fun c => ?_⟩
  · rw [hregistrations, hsame.registrations, ← herased]
  · rw [hlines, hsame.accountsByLine, ← herased]
  · rw [hbindings, haccountsOf, hsame.bindingsByAccount, ← herased]
  · rw [hcalls, hended, ← herased]
    have hmem : c ∈ ids ↔ c ∈ b.callsOf device := by rw [horder.mem_iff, hcallsOf]
    simp only [hmem]

theorem get?_filter_line (b : Coordinator) (device other : DeviceId) (lineInstance : Nat) :
    (b.accountsByLine.filter fun line _ => line.1 ≠ device).get? (other, lineInstance)
      = if other = device then none else b.accountsByLine.get? (other, lineInstance) := by
  rw [Table.get?_filter]
  rcases b.accountsByLine.get? (other, lineInstance) with _ | account
  · simp
  · by_cases hd : other = device <;> simp [Option.filter, hd]

theorem LineBooks.unregisterPhone (hw : w.Sound) (h : b.LineBooks) (device : DeviceId) :
    (b.unregisterPhone w device).LineBooks := by
  obtain ⟨hregistrations, hlines, hbindings, hcalls⟩ := unregisterPhone_spec w hw b device
  refine ⟨fun other lineInstance account => ?_, fun other lineInstance account hget => ?_,
    fun c call hcall => ?_⟩
  · rw [hlines, get?_filter_line]
    simp only [hbindings]
    by_cases hmine : account ∈ b.accountsOf device
    · rw [if_pos hmine]
      refine ⟨fun hget => ?_, fun ⟨_, hnone, _⟩ => by cases hnone⟩
      -- an account of the device is no account of another one
      split at hget
      · cases hget
      next hother =>
      obtain ⟨mine, hmine⟩ := mem_accountsOf.mp hmine
      obtain ⟨binding, hbinding, hdevice, _⟩ := (h.inverse _ _ _).mp hmine
      obtain ⟨binding', hbinding', hdevice', _⟩ := (h.inverse _ _ _).mp hget
      rw [hbinding] at hbinding'
      obtain rfl := Option.some.inj hbinding'
      exact absurd (hdevice'.symm.trans hdevice) hother
    · rw [if_neg hmine, ← h.inverse]
      split
      · next hother =>
        subst hother
        exact ⟨nofun, fun hget => absurd (mem_accountsOf.mpr ⟨lineInstance, hget⟩) hmine⟩
      · exact Iff.rfl
  · rw [hlines, get?_filter_line] at hget
    split at hget
    · cases hget
    · next hother =>
      rw [hregistrations, Table.contains_erase, decide_eq_true hother, Bool.true_and]
      exact h.registered other lineInstance account hget
  · rw [hcalls] at hcall
    split at hcall
    · cases hcall
    next hnot =>
    have hother : call.device ≠ device := fun hd => hnot (mem_callsOf.mpr ⟨call, hcall, hd⟩)
    rw [hlines, get?_filter_line, if_neg hother]
    exact h.bound c call hcall

/-! ## Registration -/

/-- Lines from an index on that have no account yet. -/
def FreeFrom (b : Coordinator) (device : DeviceId) (index : Nat) : Prop :=
  ∀ lineInstance, index < lineInstance → b.accountsByLine.get? (device, lineInstance) = none

theorem LineBooks.bind (h : b.LineBooks) {index : Nat} {account : AccountId} (line : LineConfig)
    (hregistered : b.registrations.contains device = true) (hfree : b.FreeFrom device index)
    (hnew : b.bindingsByAccount.get? account = none) :
    { b with
      accountsByLine := b.accountsByLine.insert (device, index + 1) account
      bindingsByAccount := b.bindingsByAccount.insert account
        { device, lineInstance := index + 1, line } : Coordinator }.LineBooks := by
  have hline := hfree (index + 1) (Nat.lt_succ_self index)
  refine ⟨fun other lineInstance old => ?_, fun other lineInstance old hget => ?_,
    fun c call hcall => ?_⟩
  · dsimp only
    rw [Table.get?_insert, Table.get?_insert]
    by_cases hkey : (other, lineInstance) = (device, index + 1)
    · obtain ⟨rfl, rfl⟩ := Prod.mk.injEq .. ▸ hkey
      rw [if_pos rfl]
      constructor
      · intro hold
        rw [← Option.some.inj hold, if_pos rfl]
        exact ⟨_, rfl, rfl, rfl⟩
      rintro ⟨binding, hbinding, hdevice, hinstance⟩
      split at hbinding
      · next hold => rw [hold]
      -- the line had no account before
      have hget := (h.inverse _ _ _).mpr ⟨binding, hbinding, hdevice, hinstance⟩
      rw [hline] at hget
      cases hget
    · rw [if_neg hkey, h.inverse]
      refine exists_congr fun binding => and_congr_left fun hplace => ?_
      split
      · next hold =>
        rw [hold, hnew]
        refine ⟨nofun, fun hbinding => absurd ?_ hkey⟩
        obtain rfl := Option.some.inj hbinding
        rw [← hplace.1, ← hplace.2]
      · exact Iff.rfl
  · dsimp only at hget
    rw [Table.get?_insert] at hget
    split at hget
    · next hkey =>
      obtain ⟨rfl, -⟩ := Prod.mk.injEq .. ▸ hkey
      exact hregistered
    · exact h.registered other lineInstance old hget
  · have hget := h.bound c call hcall
    dsimp only
    rw [Table.get?_insert]
    split
    · next hkey =>
      rw [hkey, hline] at hget
      cases hget
    · exact hget

theorem addAccounts_turns (b : Coordinator) (device : DeviceId) (index : Nat)
    (lines : List LineConfig) : Turns b (b.addAccounts w device index lines) := by
  induction lines generalizing b index with
  | nil => exact .refl
  | cons line rest ih =>
    have hnoted : ∀ answer, Turns b (b.record (.addAccount (sipAccountConfig line) answer)) :=
      fun _ => (record_moves b rfl).turns
    rw [addAccounts]
    rcases w.addAccount b (sipAccountConfig line) with _ | account
    · exact (hnoted none).trans (ih _ _)
    · refine Relation.ReflTransGen.trans ?_ (ih _ _)
      exact (hnoted (some account)).tail (.lines rfl rfl rfl rfl)

theorem registerPhone_turns (b : Coordinator) (generation : SessionGeneration)
    (registration : DeviceRegistration) : Turns b (b.registerPhone w generation registration) := by
  unfold registerPhone
  dsimp only
  split
  · exact .refl
  have hunregistered : Turns b (if (b.registrations.get? registration.id).isSome then
      b.unregisterPhone w registration.id else b) := by
    split
    · exact unregisterPhone_turns w b registration.id
    · exact .refl
  split
  · exact hunregistered.tail (.lines rfl rfl rfl rfl)
  · refine Relation.ReflTransGen.trans ?_ (addAccounts_turns w _ _ _ _)
    exact hunregistered.tail (.lines rfl rfl rfl rfl)

theorem LineBooks.addAccounts (hw : w.Sound) (hlines : b.LineBooks) {index : Nat}
    (lines : List LineConfig) (hregistered : b.registrations.contains device = true)
    (hfree : b.FreeFrom device index) : (b.addAccounts w device index lines).LineBooks := by
  induction lines generalizing b index with
  | nil => exact hlines
  | cons line rest ih =>
    have hnoted : ∀ answer, Moves b (b.record (.addAccount (sipAccountConfig line) answer)) :=
      fun _ => record_moves b rfl
    rw [Coordinator.addAccounts]
    rcases hanswer : w.addAccount b (sipAccountConfig line) with _ | account
    · exact ih (hlines.moves (hnoted none)) hregistered fun i hi => hfree i (Nat.lt_of_succ_lt hi)
    have hlines' := hlines.moves (hnoted (some account))
    have hnew := hw.addAccount _ _ _ hanswer
    refine ih (hlines'.bind line hregistered hfree hnew) hregistered fun i hi => ?_
    have hother : (device, i) ≠ (device, index + 1) := fun heq =>
      absurd (congrArg Prod.snd heq) (Nat.ne_of_gt hi)
    dsimp only
    rw [Table.get?_insert, if_neg hother]
    exact hfree i (Nat.lt_of_succ_lt hi)

theorem LineBooks.free (h : b.LineBooks) (index : Nat)
    (hnot : b.registrations.contains device = false) : b.FreeFrom device index := by
  intro lineInstance _
  rcases hget : b.accountsByLine.get? (device, lineInstance) with _ | account
  · rfl
  · rw [h.registered device lineInstance account hget] at hnot
    cases hnot

theorem LineBooks.registerPhone (hw : w.Sound) (hlines : b.LineBooks)
    (generation : SessionGeneration) (registration : DeviceRegistration) :
    (b.registerPhone w generation registration).LineBooks := by
  unfold Coordinator.registerPhone
  dsimp only
  split
  · exact hlines
  -- the device is not registered when its lines are added
  obtain ⟨b', hb', hlines', hnot⟩ : ∃ b' : Coordinator,
      (if (b.registrations.get? registration.id).isSome then
        b.unregisterPhone w registration.id else b) = b'
      ∧ b'.LineBooks ∧ b'.registrations.contains registration.id = false := by
    split
    · refine ⟨_, rfl, hlines.unregisterPhone w hw _, ?_⟩
      rw [(unregisterPhone_spec w hw b registration.id).1, Table.contains_erase]
      simp
    · next hnone => exact ⟨_, rfl, hlines, Bool.eq_false_iff.mpr hnone⟩
  rw [hb']
  generalize hnow : { b' with
    registrations := b'.registrations.insert registration.id
      { generation, registration, capabilities := ⟨[]⟩ } : Coordinator } = now
  have hregistered : now.registrations.contains registration.id = true := by
    rw [← hnow, Table.contains_insert]
    simp
  have hlinesNow : now.LineBooks := by
    rw [← hnow]
    refine hlines'.same_lines rfl rfl (fun other hother => ?_) hlines'.bound
    rw [Table.contains_insert, hother, Bool.or_true]
  have hfree : now.FreeFrom registration.id 0 := by
    rw [← hnow]
    exact hlines'.free 0 hnot
  split
  · exact hlinesNow
  · exact hlinesNow.addAccounts w hw _ hregistered hfree

/-! ## Runs -/

/-- A call that comes in has no name that a live call has. -/
def Unclashing (b : Coordinator) : Event → Prop
  | .sip (.incomingCall _ sipCall _ _) => b.Unused sipCall
  | _ => True

/-- Whether a device event begins or ends a registration. -/
def isRegistration : DeviceEvent → Bool
  | .registered _ | .disconnected => true
  | _ => false

/-- One call at most is placed while an event of a phone is handled. -/
theorem handleDevice_handled (b : Coordinator) (deviceId : DeviceId)
    (generation : SessionGeneration) {event : DeviceEvent} (h : isRegistration event = false) :
    Handled (Placed w) b (b.handleDevice w deviceId generation event) := by
  cases event with
  | registered registration => cases h
  | disconnected => cases h
  | capabilities capabilities => exact .quiet (.single (.station b deviceId _))
  | offHook callId lineInstance => exact .quiet (phoneOffHook_moves w b deviceId callId _)
  | onHook callId => exact .quiet (endCall_moves w b callId)
  | digit callId digit =>
    exact .quiet (moves_of_steps fun _ => phoneDigit_steps w b callId digit)
  | enblocCall callId lineInstance number =>
    refine .quiet (((beginIfNew_moves b deviceId callId lineInstance).trans ?_).trans
      (moves_of_steps fun _ => dial_steps w _ callId))
    exact moves_of_steps fun _ => editDigits_steps _ callId (fun _ => number) fun _ => none
  | speedDial callId lineInstance number awaitFurtherDigits =>
    refine .quiet ((beginIfNew_moves b deviceId callId lineInstance).trans ?_)
    exact moves_of_steps fun _ => phoneSpeedDial_steps w b deviceId callId lineInstance number _
  | softKey callId key =>
    rcases callId with _ | callId
    · exact .quiet .refl
    · exact .quiet (moves_of_steps fun _ => softKey_steps w b callId key)
  | receiveChannelOpened callId ok endpoint =>
    rcases ok with _ | _
    · exact .quiet (failCall_moves w b callId _)
    · exact phoneMediaReady_handled w b callId endpoint
  | transmitChannelOpen callId rejected =>
    rcases rejected with _ | _
    · exact .quiet .refl
    · exact .quiet (failCall_moves w b callId _)
  | mediaTransmissionFailed callId => exact .quiet (failCall_moves w b callId _)
  | other => exact .quiet .refl

/-- A registration gives no call a SIP side. -/
theorem handleDevice_turns (b : Coordinator) (deviceId : DeviceId)
    (generation : SessionGeneration) {event : DeviceEvent} (h : isRegistration event = true) :
    Turns b (b.handleDevice w deviceId generation event) := by
  cases event with
  | registered registration => exact registerPhone_turns w b generation registration
  | disconnected => exact unregisterPhone_turns w b deviceId
  | _ => cases h

theorem handleSip_handled (hcalls : b.CallIndex) (event : SipEvent) :
    Moves b (b.handleSip w event) ∨ ∃ account sipCall remoteUri remoteMedia,
      event = .incomingCall account sipCall remoteUri remoteMedia
        ∧ Handled (Offered w sipCall) b (b.handleSip w event) := by
  cases event with
  | registration account registered => exact .inl .refl
  | incomingCall account call remoteUri remoteMedia =>
    exact .inr ⟨account, call, remoteUri, remoteMedia, rfl, incomingCall_handled w b _ _ _ _⟩
  | callState call state => exact .inl (sipCallState_moves w b hcalls call state)
  | mediaState call state remote =>
    rcases hindex : b.sccpBySip.get? call with _ | callId
    · exact .inl (by simp only [handleSip, sipMediaState, hindex, Relation.ReflTransGen.refl])
    · exact .inl (sipMediaState_steps w state remote hindex).moves
  | mediaReofferCompleted call accepted =>
    rcases hindex : b.sccpBySip.get? call with _ | callId
    · refine .inl ?_
      simp only [handleSip, mediaReofferCompleted, hindex, Relation.ReflTransGen.refl]
    · exact .inl (mediaReofferCompleted_steps w accepted hindex).moves
  | messageWaiting account waiting =>
    rcases hbinding : b.bindingsByAccount.get? account with _ | binding
    · simp only [handleSip, hbinding]
      exact .inl .refl
    · simp only [handleSip, hbinding]
      exact .inl (record_moves b rfl)
  | mediaAdvertisementRequired account call =>
    exact .inl (Moves.record (mediaAdvertisement_moves w b account call) rfl)

theorem CallBooks.placed {w : World} (hw : w.Sound) (hleaves : w.LeavesReservations)
    (h : b.CallBooks) (hplaced : Placed w b b') : b'.CallBooks := by
  refine ⟨h.toCallIndex.placed hplaced fun _ _ _ _ => hw.makeCall b _ _ _ _, ?_⟩
  obtain ⟨_, _, _, _, _, _, _, _, _, hanswer⟩ := hplaced
  exact h.reserved_insert (hleaves _ _ _ _ _ hanswer)

theorem CallBooks.offered {w : World} (hw : w.Sound) {sipCall : SipCallId} (h : b.CallBooks)
    (hunused : b.Unused sipCall) (hoffered : Offered w sipCall b b') : b'.CallBooks := by
  refine ⟨h.toCallIndex.offered hoffered hunused fun _ _ _ _ => hw.offerIncomingCall b _ _ _ _, ?_⟩
  obtain ⟨_, _, _, _, _, _, _, _, _, _, _, hclear, _⟩ := hoffered
  exact h.reserved_insert hclear

theorem handleDevice_books (hw : w.Sound) (hleaves : w.LeavesReservations) (hcalls : b.CallBooks)
    (hlines : b.LineBooks) (deviceId : DeviceId) (generation : SessionGeneration)
    (event : DeviceEvent) : (b.handleDevice w deviceId generation event).CallBooks
      ∧ (b.handleDevice w deviceId generation event).LineBooks := by
  rcases hregistration : isRegistration event with _ | _
  · cases handleDevice_handled w b deviceId generation hregistration with
    | quiet h => exact ⟨hcalls.turns h.turns, hlines.moves h⟩
    | once before attach after =>
      have hcalls' := (hcalls.turns before.turns).placed hw hleaves attach
      exact ⟨hcalls'.turns after.turns, ((hlines.moves before).placed attach).moves after⟩
  refine ⟨hcalls.turns (handleDevice_turns w b deviceId generation hregistration), ?_⟩
  cases event with
  | registered registration => exact hlines.registerPhone w hw generation registration
  | disconnected => exact hlines.unregisterPhone w hw deviceId
  | _ => cases hregistration

theorem handleSip_books (hw : w.Sound) (hcalls : b.CallBooks) (hlines : b.LineBooks)
    {event : SipEvent} (hclash : b.Unclashing (.sip event)) :
    (b.handleSip w event).CallBooks ∧ (b.handleSip w event).LineBooks := by
  rcases handleSip_handled w hcalls.toCallIndex event with h | ⟨account, sipCall, _, _, rfl, h⟩
  · exact ⟨hcalls.turns h.turns, hlines.moves h⟩
  cases h with
  | quiet h => exact ⟨hcalls.turns h.turns, hlines.moves h⟩
  | once before attach after =>
    have hcalls' := (hcalls.turns before.turns).offered hw (Unused.turns hclash before.turns) attach
    exact ⟨hcalls'.turns after.turns, ((hlines.moves before).offered attach).moves after⟩

theorem handle_books (hw : w.Sound) (hleaves : w.LeavesReservations) (hcalls : b.CallBooks)
    (hlines : b.LineBooks) {event : Event} (hclash : b.Unclashing event) :
    (b.handle w event).CallBooks ∧ (b.handle w event).LineBooks := by
  rcases event with event | event | _
  · rcases event with _ | _ | ⟨deviceId, generation, event⟩
    · exact ⟨hcalls, hlines⟩
    · exact ⟨hcalls, hlines⟩
    · unfold handle handleSccp
      dsimp only
      split
      · exact handleDevice_books w hw hleaves hcalls hlines _ _ _
      · split
        · exact handleDevice_books w hw hleaves hcalls hlines _ _ _
        · exact ⟨hcalls, hlines⟩
  · exact handleSip_books w hw hcalls hlines hclash
  · have hmoves := handleDigitDeadlines_moves w b
    exact ⟨hcalls.turns hmoves.turns, hlines.moves hmoves⟩

theorem new_books (config : AppConfig) (mediaPolicy : MediaPolicy) :
    (new config mediaPolicy).CallBooks ∧ (new config mediaPolicy).LineBooks := by
  constructor
  · exact {
      indexed := fun s c => ⟨nofun, fun ⟨_, hcall, _⟩ => by cases hcall⟩
      reserved := fun s hs => by cases hs
      routed := fun c call s hcall => by cases hcall
      closed := Journal.balanced_nil
      detached := Journal.balanced_nil }
  exact {
    inverse := fun device lineInstance account =>
      ⟨nofun, fun ⟨_, hbinding, _⟩ => by cases hbinding⟩
    registered := fun device lineInstance account hget => by cases hget
    bound := fun c call hcall => by cases hcall }

/-- What the tables and the trace of the bridge say at any moment. -/
structure Bookkeeping (b : Coordinator) : Prop where
  indexed : ∀ s c, b.sccpBySip.get? s = some c
    ↔ ∃ call, b.calls.get? c = some call ∧ call.sipCall = some s
  inverse : ∀ device lineInstance account,
    b.accountsByLine.get? (device, lineInstance) = some account
      ↔ ∃ binding, b.bindingsByAccount.get? account = some binding
          ∧ binding.device = device ∧ binding.lineInstance = lineInstance
  bindingRegistered : ∀ account binding, b.bindingsByAccount.get? account = some binding →
    b.registrations.contains binding.device = true
  callRegistered : ∀ c call, b.calls.get? c = some call →
    b.registrations.contains call.device = true
  callBound : ∀ c call, b.calls.get? c = some call →
    b.accountsByLine.get? (call.device, call.lineInstance) = some call.account
  notReserved : ∀ c call s, b.calls.get? c = some call → call.sipCall = some s →
    b.pendingIncoming.contains s = false
  /-- Every call that began is closed on the handset once, unless it is still there. -/
  closedOnce : ∀ c, b.trace.countP (Effect.opensCall c)
    = b.trace.countP (Effect.closesCall c) + (b.calls.contains c).toNat
  /-- Every SIP call that a call had is hung up once, unless the SIP side has ended it or it is
      still there. -/
  hungUpOnce : ∀ s, b.trace.countP (Effect.attaches s)
    = b.trace.countP (Effect.hangsUp s) + b.trace.countP (Effect.endedBySip s)
      + (b.sccpBySip.contains s).toNat

theorem countP_detaches (s : SipCallId) (trace : List Effect) : trace.countP (Effect.detaches s)
      = trace.countP (Effect.hangsUp s) + trace.countP (Effect.endedBySip s) := by
  induction trace with
  | nil => rfl
  | cons effect rest ih =>
    -- no effect is both a request to hang up and a line of the log
    have hexclusive : effect.hangsUp s = true → effect.endedBySip s = false := by
      intro hhangs
      unfold Effect.hangsUp at hhangs
      split at hhangs
      · rfl
      · cases hhangs
    rw [List.countP_cons, List.countP_cons, List.countP_cons, ih]
    unfold Effect.detaches
    rcases hhangs : effect.hangsUp s with _ | _ <;> rcases hends : effect.endedBySip s with _ | _
    · simp
    · simp
      omega
    · simp
      omega
    · rw [hexclusive hhangs] at hends
      cases hends

theorem bookkeeping_of_books (hcalls : b.CallBooks) (hlines : b.LineBooks) : b.Bookkeeping where
  indexed := hcalls.indexed
  inverse := hlines.inverse
  bindingRegistered := fun account binding hbinding =>
    hlines.registered _ _ account ((hlines.inverse _ _ _).mpr ⟨binding, hbinding, rfl, rfl⟩)
  callRegistered := fun c call hcall => hlines.registered _ _ _ (hlines.bound c call hcall)
  callBound := hlines.bound
  notReserved := fun c call s hcall hsip => by
    have hindexed := (hcalls.indexed s c).mpr ⟨call, hcall, hsip⟩
    refine Bool.eq_false_iff.mpr fun hpending => ?_
    rw [hcalls.reserved s hpending] at hindexed
    cases hindexed
  closedOnce := hcalls.closed
  hungUpOnce := fun s => by
    rw [← countP_detaches]
    exact hcalls.detached s

/-- The books are right in every state that the bridge reaches, if no outbound call is given the
    name under which an incoming call has left a reservation. -/
theorem bookkeeping_along_runs (hw : w.Sound) (hleaves : w.LeavesReservations)
    (config : AppConfig) (mediaPolicy : MediaPolicy) {events : List Event}
    (hclash : Runs.Each (handle w) Unclashing (new config mediaPolicy) events) :
    Runs.Always (handle w) Bookkeeping (new config mediaPolicy) events :=
  Runs.always_of_each (I := fun b => b.CallBooks ∧ b.LineBooks)
    (fun _ h => bookkeeping_of_books h.1 h.2)
    (fun _ _ h hevent => handle_books w hw hleaves h.1 h.2 hevent)
    (new_books config mediaPolicy) hclash

/-! ### A phone with one line -/

def desk : DeviceId := ⟨"SEP001122334455"⟩

def deskConfig : AppConfig where
  phones := [{
    device := "SEP001122334455"
    lines := [{
      number := "100", displayName := "Desk", registrar := "sip:pbx", outboundProxy := none
      username := "desk", password := "", authUsername := none }] }]
  interdigitTimeoutMs := 4000
  conferenceFeatureCode := none

def deskRegistration : DeviceRegistration where
  id := desk
  peer := .v4 0xC0000202
  reportedAddress := none
  reportedIpv6Address := none

def deskEndpoint : MediaEndpoint where
  address := .v4 0xC0000202
  rtpPort := 20000
  rtcpPort := 20001
  codec := Codec.pcmu
  packetMs := DEFAULT_AUDIO_PACKET_MS
  maxFramesPerPacket := DEFAULT_AUDIO_MAX_FRAMES_PER_PACKET
  telephoneEventPayload := 101

def deskRelay : AllocatedRelay where
  addresses := ⟨⟨0xC0000201, 4000⟩, ⟨0xC0000201, 4001⟩, ⟨0xC0000201, 4002⟩, ⟨0xC0000201, 4003⟩⟩

/-- Two sides that do what they are asked, and a SIP stack with one slot for calls, which it takes
    for an outbound call unless it is `held` or a live call has it. -/
def oneSlotWorld (held : Coordinator → Bool) : World where
  addAccount b _ := if b.bindingsByAccount.contains ⟨0⟩ then none else some ⟨0⟩
  makeCall b _ _ _ :=
    if held b || b.calls.any fun _ call => call.sipCall = some ⟨1⟩ then none else some ⟨1⟩
  sip _ _ := true
  offerIncomingCall b _ _ _ := if b.calls.contains ⟨70⟩ then none else some ⟨70⟩
  allocate _ := some deskRelay
  spawnRelay _ _ := true
  now _ := 0
  order _ ids := ids

theorem oneSlotWorld_sound (held : Coordinator → Bool) : (oneSlotWorld held).Sound where
  makeCall := fun b account destination advertised sipCall hanswer c call hcall hsip => by
    simp only [oneSlotWorld, Option.ite_none_left_eq_some, Option.some.injEq, Bool.or_eq_true,
      not_or, Bool.not_eq_true] at hanswer
    obtain ⟨⟨-, hunused⟩, rfl⟩ := hanswer
    have hnot := Table.any_eq_false.mp hunused c call hcall
    simp [hsip] at hnot
  offerIncomingCall := fun b device lineInstance info callId hanswer => by
    simp only [oneSlotWorld, Option.ite_none_left_eq_some, Option.some.injEq,
      Bool.not_eq_true] at hanswer
    obtain ⟨hnew, rfl⟩ := hanswer
    exact Table.not_contains_iff.mp hnew
  addAccount := fun b config account hanswer => by
    simp only [oneSlotWorld, Option.ite_none_left_eq_some, Option.some.injEq,
      Bool.not_eq_true] at hanswer
    obtain ⟨hnew, rfl⟩ := hanswer
    exact Table.not_contains_iff.mp hnew
  order := fun _ _ => .refl _

/-- The phone registers, an incoming SIP call reserves a relay and is gone again before it is
    offered, and the phone dials while the end of that call is still queued. -/
def dialAfterReservation : List Event :=
  [.sccp (.device desk ⟨1⟩ (.registered deskRegistration)),
    .sip (.mediaAdvertisementRequired ⟨0⟩ ⟨1⟩), .sccp (.device desk ⟨1⟩ (.enblocCall ⟨7⟩ 1 "200")),
    .sccp (.device desk ⟨1⟩ (.receiveChannelOpened ⟨7⟩ true deskEndpoint))]

theorem dialAfterReservation_unclashing (w : World) (config : AppConfig)
    (mediaPolicy : MediaPolicy) :
    Runs.Each (handle w) Unclashing (new config mediaPolicy) dialAfterReservation :=
  ⟨trivial, trivial, trivial, trivial, trivial⟩

/-- The phone dials, the call is attached to a SIP call and answered, and the SIP side ends it;
    an incoming call then reserves a relay under its name. -/
def dialAndEnd : List Event :=
  [.sccp (.device desk ⟨1⟩ (.registered deskRegistration)),
    .sccp (.device desk ⟨1⟩ (.enblocCall ⟨7⟩ 1 "200")),
    .sccp (.device desk ⟨1⟩ (.receiveChannelOpened ⟨7⟩ true deskEndpoint)),
    .sip (.callState ⟨1⟩ .confirmed), .sip (.callState ⟨1⟩ .disconnected),
    .sip (.mediaAdvertisementRequired ⟨0⟩ ⟨1⟩)]

/-- A stack that takes no slot with a reservation keeps the books right: the call is opened and
    closed once, and its SIP call attached and ended once. -/
theorem bookkeeping_of_careful_stack :
    let careful := oneSlotWorld fun b => b.pendingIncoming.contains ⟨1⟩
    let trace := (Runs.run (handle careful) (new deskConfig ⟨[]⟩) dialAndEnd).trace
    Runs.Always (handle careful) Bookkeeping (new deskConfig ⟨[]⟩) dialAndEnd
      ∧ trace.countP (Effect.opensCall ⟨7⟩) = 1 ∧ trace.countP (Effect.closesCall ⟨7⟩) = 1
      ∧ trace.countP (Effect.attaches ⟨1⟩) = 1 ∧ trace.countP (Effect.endedBySip ⟨1⟩) = 1 := by
  refine ⟨bookkeeping_along_runs _ (oneSlotWorld_sound _) ?_ _ _
    ⟨trivial, trivial, trivial, trivial, trivial, trivial, trivial⟩, by decide, by decide,
    by decide, by decide⟩
  intro b account destination advertised sipCall hanswer
  simp only [oneSlotWorld, Option.ite_none_left_eq_some, Option.some.injEq, Bool.or_eq_true,
    not_or, Bool.not_eq_true] at hanswer
  obtain ⟨⟨hclear, -⟩, rfl⟩ := hanswer
  exact Table.not_contains_iff.mp hclear

/-- Else the outbound call gets the slot, and the reservation stays under its name. -/
theorem reservation_beside_call : (oneSlotWorld fun _ => false).Sound
    ∧ Runs.Each (handle (oneSlotWorld fun _ => false)) Unclashing (new deskConfig ⟨[]⟩)
        dialAfterReservation
    ∧ ¬ Runs.Always (handle (oneSlotWorld fun _ => false)) Bookkeeping (new deskConfig ⟨[]⟩)
        dialAfterReservation := by
  refine ⟨oneSlotWorld_sound _, dialAfterReservation_unclashing _ _ _, fun halways => ?_⟩
  generalize hb : Runs.run (handle (oneSlotWorld fun _ => false)) (new deskConfig ⟨[]⟩)
    dialAfterReservation = b
  have hbooks : b.Bookkeeping := by
    rw [← hb]
    exact (List.append_nil dialAfterReservation ▸ halways).split.2
  have hcall : (b.calls.get? ⟨7⟩).map (·.sipCall) = some (some ⟨1⟩) := by
    rw [← hb]
    decide
  have hpending : b.pendingIncoming.contains ⟨1⟩ = true := by
    rw [← hb]
    decide
  obtain ⟨call, hget, hsip⟩ := Option.map_eq_some_iff.mp hcall
  rw [hbooks.notReserved ⟨7⟩ call ⟨1⟩ hget hsip] at hpending
  cases hpending

end Coordinator

end Sccp.Gateway
