/-
  Sccp.Safety.GatewayCalls

  What the handlers of the SIP bridge make of the media of one call.

  A handler that is given a call leaves every other call as it is.  Of the call itself the media
  side is looked at alone: where it is sent, where it comes from and how far it has got.  A
  handler changes it by a sequence of edits, and ends the call at most.
-/

import Sccp.Safety.GatewayRuns

namespace Sccp.Gateway

open Sccp

namespace Coordinator

open CallMedia

/-! ## Steps of one call -/

/-- A step that leaves the other calls alone. -/
inductive Tweak (E : CallMedia → CallMedia → Prop) (callId : CallId) :
    Coordinator → Coordinator → Prop where
  | aside {b b' : Coordinator} (hcalls : b'.calls = b.calls)
      (htrace : ∀ effect ∈ b'.trace, effect ∈ b.trace ∨ effect.isStart = false)
      (hpolicy : b'.mediaPolicy = b.mediaPolicy) : Tweak E callId b b'
  | gone {b b' : Coordinator} (hgone : b'.calls.get? callId = none)
      (hothers : ∀ c, c ≠ callId → b'.calls.get? c = b.calls.get? c)
      (htrace : ∀ effect ∈ b'.trace, effect ∈ b.trace ∨ effect.isStart = false)
      (hpolicy : b'.mediaPolicy = b.mediaPolicy) : Tweak E callId b b'
  | edit {b : Coordinator} {f : BridgeCall → BridgeCall}
      (h : ∀ call, b.calls.get? callId = some call → E call.media (f call).media) :
      Tweak E callId b (b.editCall callId f)
  | start {b : Coordinator} {call : BridgeCall} (device : DeviceId) (phone : MediaEndpoint)
      (route : MediaRouteState) (target : MediaEndpoint)
      (hcall : b.calls.get? callId = some call)
      (hbegin : CallMedia.Begin call.media
        { call.media with route, phone := .started phone target })
      (h : E call.media { call.media with route, phone := .started phone target }) :
      Tweak E callId b (b.startMedia callId device phone route target)

abbrev Tweaks (E : CallMedia → CallMedia → Prop) (callId : CallId) :
    Coordinator → Coordinator → Prop :=
  Relation.ReflTransGen (Tweak E callId)

/-- A call, if it is there, has media of a kind. -/
def At (Q : CallMedia → Prop) (b : Coordinator) (callId : CallId) : Prop :=
  ∀ call, b.calls.get? callId = some call → Q call.media

/-- The media that was started is of a kind. -/
def Starts (Q : CallMedia → Prop) (b : Coordinator) : Prop :=
  ∀ device callId target call, .startMedia device callId target call ∈ b.trace →
    ∃ call', call = some call' ∧ Q call'.media ∧ (∃ m, CallMedia.Begin m call'.media)
      ∧ ∃ source, call'.phoneMedia = .started source target

variable {E : CallMedia → CallMedia → Prop} {Q : CallMedia → Prop} {callId : CallId}
  {b b' : Coordinator}

theorem Tweaks.others (h : Tweaks E callId b b') {c : CallId} (hc : c ≠ callId) :
    b'.calls.get? c = b.calls.get? c := by
  induction h with
  | refl => rfl
  | tail _ htweak ih =>
    refine Eq.trans ?_ ih
    cases htweak with
    | aside hcalls _ _ => rw [hcalls]
    | gone _ hothers _ _ => exact hothers c hc
    | edit _ => exact (Table.get?_modify ..).trans (if_neg hc)
    | start _ _ _ _ _ _ _ => exact (Table.get?_modify ..).trans (if_neg hc)

theorem Tweaks.policy (h : Tweaks E callId b b') : b'.mediaPolicy = b.mediaPolicy := by
  induction h with
  | refl => rfl
  | tail _ htweak ih =>
    refine Eq.trans ?_ ih
    cases htweak with
    | aside _ _ hpolicy => exact hpolicy
    | gone _ _ _ hpolicy => exact hpolicy
    | edit _ => rfl
    | start _ _ _ _ _ _ _ => rfl

theorem get?_startMedia {call : BridgeCall} (device : DeviceId) (phone : MediaEndpoint)
    (route : MediaRouteState) (target : MediaEndpoint) (hcall : b.calls.get? callId = some call) :
    (b.startMedia callId device phone route target).calls.get? callId
      = some { call with mediaRoute := route, phoneMedia := .started phone target } :=
  get?_editCall.mpr ⟨call, hcall, (if_pos rfl).symm⟩

/-- What every edit keeps, the steps of the call keep. -/
theorem Tweak.at (hE : ∀ m m', Q m → E m m' → Q m') (h : Tweak E callId b b')
    (hat : b.At Q callId) : b'.At Q callId := by
  intro call' hcall'
  cases h with
  | aside hcalls _ _ =>
    rw [hcalls] at hcall'
    exact hat call' hcall'
  | gone hgone _ _ _ =>
    rw [hgone] at hcall'
    cases hcall'
  | edit hedit =>
    obtain ⟨call, hcall, rfl⟩ := get?_editCall.mp hcall'
    rw [if_pos rfl]
    exact hE _ _ (hat call hcall) (hedit call hcall)
  | start device phone route target hcall hbegin hstart =>
    rw [get?_startMedia device phone route target hcall] at hcall'
    rw [← Option.some.inj hcall']
    exact hE _ _ (hat _ hcall) hstart

/-- Media is started for calls of the kind that the edits keep. -/
theorem Tweak.keeps (hE : ∀ m m', Q m → E m m' → Q m') (h : Tweak E callId b b')
    (hat : b.At Q callId) (hstarts : b.Starts Q) : b'.At Q callId ∧ b'.Starts Q := by
  refine ⟨h.at hE hat, ?_⟩
  have hold : ∀ {b' : Coordinator},
      (∀ effect ∈ b'.trace, effect ∈ b.trace ∨ effect.isStart = false) → b'.Starts Q := by
    intro b' htrace device c target call he
    rcases htrace _ he with he | he
    · exact hstarts device c target call he
    · cases he
  cases h with
  | aside _ htrace _ => exact hold htrace
  | gone _ _ htrace _ => exact hold htrace
  | edit _ => exact hold fun _ he => .inl he
  | start device phone route target hcall hbegin hstart =>
    intro device' c target' call' he
    rcases List.mem_append.mp he with he | he
    · exact hstarts device' c target' call' he
    · obtain ⟨-, -, htarget, hcall'⟩ := Effect.startMedia.inj (List.mem_singleton.mp he)
      exact ⟨_, hcall'.trans (get?_startMedia device phone route target hcall),
        hE _ _ (hat _ hcall) hstart, ⟨_, hbegin⟩, phone, by rw [htarget]⟩

theorem Tweaks.at (hE : ∀ m m', Q m → E m m' → Q m') (h : Tweaks E callId b b')
    (hat : b.At Q callId) : b'.At Q callId := by
  induction h with
  | refl => exact hat
  | tail _ htweak ih => exact htweak.at hE ih

theorem Tweaks.keeps (hE : ∀ m m', Q m → E m m' → Q m') (h : Tweaks E callId b b')
    (hat : b.At Q callId) (hstarts : b.Starts Q) : b'.At Q callId ∧ b'.Starts Q := by
  induction h with
  | refl => exact ⟨hat, hstarts⟩
  | tail _ htweak ih => exact htweak.keeps hE ih.1 ih.2

/-! ## Steps that every handler takes -/

variable (w : World) {p : MediaPolicy}

theorem Tweaks.record (h : Tweaks E callId b b') {effect : Effect}
    (hno : effect.isStart = false) : Tweaks E callId b (b'.record effect) := by
  refine h.tail (.aside rfl (fun e he => ?_) rfl)
  rcases List.mem_append.mp he with he | he
  · exact .inl he
  · exact .inr (List.mem_singleton.mp he ▸ hno)

theorem Tweaks.aside (h : Tweaks E callId b b') {b'' : Coordinator} (hcalls : b''.calls = b'.calls)
    (htrace : b''.trace = b'.trace) (hpolicy : b''.mediaPolicy = b'.mediaPolicy) :
    Tweaks E callId b b'' :=
  h.tail (.aside hcalls (fun _ he => .inl (htrace ▸ he)) hpolicy)

theorem Tweaks.edit (h : Tweaks E callId b b') {f : BridgeCall → BridgeCall}
    (hE : ∀ call, b'.calls.get? callId = some call → E call.media (f call).media) :
    Tweaks E callId b (b'.editCall callId f) :=
  h.tail (.edit hE)

/-- The end of a call: it is gone, and nothing was started. -/
structure Ended (callId : CallId) (b b' : Coordinator) : Prop where
  gone : b'.calls.get? callId = none
  others : ∀ c, c ≠ callId → b'.calls.get? c = b.calls.get? c
  trace : ∀ effect ∈ b'.trace, effect ∈ b.trace ∨ effect.isStart = false
  policy : b'.mediaPolicy = b.mediaPolicy

theorem Ended.tweak (h : Ended callId b b') : Tweak E callId b b' :=
  .gone h.gone h.others h.trace h.policy

theorem endCall_ended (b : Coordinator) (callId : CallId) (fromSip : Bool) :
    Ended callId b (b.endCall w callId fromSip) := by
  rcases hcall : b.calls.get? callId with _ | call
  · have hsame : b.endCall w callId fromSip = b := by
      unfold endCall
      rw [hcall]
    rw [hsame]
    exact ⟨hcall, fun _ _ => rfl, fun _ he => .inl he, rfl⟩
  obtain ⟨herased, hpolicy, htrace⟩ : (b.endCall w callId fromSip).calls = b.calls.erase callId
      ∧ (b.endCall w callId fromSip).mediaPolicy = b.mediaPolicy
      ∧ ∀ effect ∈ (b.endCall w callId fromSip).trace,
          effect ∈ b.trace ∨ effect.isStart = false := by
    unfold endCall
    rw [hcall]
    dsimp only
    rcases call.sipCall with _ | sipCall
    · exact ⟨rfl, rfl, fun _ => mem_append_noStart rfl fun _ he => .inl he⟩
    rcases fromSip with _ | _
    · exact ⟨rfl, rfl, fun _ => mem_append_noStart rfl fun _ =>
        mem_append_noStart rfl fun _ he => .inl he⟩
    · exact ⟨rfl, rfl, fun _ => mem_append_noStart rfl fun _ he => .inl he⟩
  refine ⟨?_, fun c hc => ?_, htrace, hpolicy⟩
  · rw [herased, Table.get?_erase, if_pos rfl]
  · rw [herased, Table.get?_erase, if_neg hc]

theorem failCall_ended (b : Coordinator) (callId : CallId) (message : String) :
    Ended callId b (b.failCall w callId message) := by
  unfold failCall
  split
  · exact endCall_ended w b callId false
  next call _ =>
  have hended := endCall_ended w ((b.prompt call.device callId message).sendSccp call.device
    (.setCallState callId .congestion)) callId false
  refine ⟨hended.gone, hended.others, fun effect he => ?_, hended.policy⟩
  rcases hended.trace effect he with he | hno
  · exact mem_append_noStart rfl (fun _ => mem_append_noStart rfl fun _ he => .inl he) he
  · exact .inr hno

/-- An edit does not matter to a call that fails at once. -/
theorem editCall_failCall_ended (b : Coordinator) (callId : CallId) (f : BridgeCall → BridgeCall)
    (message : String) : Ended callId b ((b.editCall callId f).failCall w callId message) := by
  have hended := failCall_ended w (b.editCall callId f) callId message
  refine ⟨hended.gone, fun c hc => (hended.others c hc).trans ?_, hended.trace, hended.policy⟩
  exact (Table.get?_modify ..).trans (if_neg hc)

theorem Tweaks.endCall (h : Tweaks E callId b b') (fromSip : Bool) :
    Tweaks E callId b (b'.endCall w callId fromSip) :=
  h.tail (endCall_ended w b' callId fromSip).tweak

theorem Tweaks.failCall (h : Tweaks E callId b b') (message : String) :
    Tweaks E callId b (b'.failCall w callId message) :=
  h.tail (failCall_ended w b' callId message).tweak

/-- What is done to one call is a sequence of its tweaks. -/
theorem CallSteps.tweaks (h : CallSteps E callId b b') : Tweaks E callId b b' := by
  refine Relation.ReflTransGen.mono (fun b b' hstep => ?_) _ _ h
  cases hstep with
  | note _ hno => exact Tweak.aside rfl (fun _ => mem_append_noStart hno fun _ he => .inl he) rfl
  | dialed _ => exact .aside rfl (fun _ he => .inl he) rfl
  | edit h => exact .edit fun call hcall => (h call hcall).2
  | start device phone target hcall _ hbegin hE =>
    exact .start device phone _ target hcall hbegin hE
  | close _ _ hno =>
    refine .gone ?_ (fun c hc => ?_) (fun effect he => ?_) rfl
    · exact (Table.get?_erase ..).trans (if_pos rfl)
    · exact (Table.get?_erase ..).trans (if_neg hc)
    · exact (List.mem_append.mp he).imp_right (hno effect)

/-- The only place where a call is given a SIP side by the SIP stack's answer. -/
theorem makeOutboundAfterPhoneMedia_tweaks (b : Coordinator) (callId : CallId) :
    Tweaks (Edit p) callId b (b.makeOutboundAfterPhoneMedia w callId) := by
  unfold makeOutboundAfterPhoneMedia
  split
  · exact .refl
  split
  · exact .refl
  split
  · dsimp only
    split
    · exact Tweaks.failCall w (Tweaks.record .refl rfl) _
    next sipCall _ =>
    have hattach : ∀ effect : Effect, effect.isStart = false →
        Tweaks (Edit p) callId b ((b.record effect).editCall callId fun call =>
          { call with sipCall := some sipCall }) := fun effect hno =>
      Tweaks.edit (Tweaks.record .refl hno) fun call _ => .attach call.media
    refine Tweaks.record (Tweaks.record ?_ rfl) rfl
    exact Tweaks.aside (hattach _ rfl) rfl rfl rfl
  · exact .refl

/-- A change of the route starts nothing. -/
theorem Tweaks.reroute_trace (h : Tweaks (Reroute p) callId b b') :
    ∀ effect ∈ b'.trace, effect ∈ b.trace ∨ effect.isStart = false := by
  induction h with
  | refl => exact fun _ he => .inl he
  | tail _ htweak ih =>
    cases htweak with
    | aside _ htrace _ =>
      intro effect he
      rcases htrace effect he with he | hno
      · exact ih effect he
      · exact .inr hno
    | gone _ _ htrace _ =>
      intro effect he
      rcases htrace effect he with he | hno
      · exact ih effect he
      · exact .inr hno
    | edit _ => exact ih
    | start device phone route target hcall hbegin hreroute =>
      -- the phone's side would have to change
      have hidle := hbegin.idle
      rw [← hreroute.phone] at hidle
      cases hidle

/-! ## All calls -/

/-- Every call, and every call whose media was started, has media of a kind. -/
structure Fine (Q : CallMedia → Prop) (b : Coordinator) : Prop where
  calls : ∀ c, b.At Q c
  starts : b.Starts Q

/-- The media of a call that has just begun. -/
structure Fresh (m : CallMedia) : Prop where
  silent : m.phone.source = none
  attached : m.direction = .inbound → m.attached = true
  route : m.route ≠ .direct

/-- What new calls have and edits keep. -/
structure Stable (policy : MediaPolicy) (Q : CallMedia → Prop) : Prop where
  fresh : ∀ m, Fresh m → Q m
  edit : ∀ m m', Q m → Edit policy m m' → Q m'

theorem Fine.tweaks_of (h : b.Fine Q) (hE : ∀ m m', Q m → E m m' → Q m')
    (ht : Tweaks E callId b b') : b'.Fine Q := by
  obtain ⟨hat, hstarts⟩ := ht.keeps hE (h.calls callId) h.starts
  refine ⟨fun c => ?_, hstarts⟩
  by_cases hc : c = callId
  · rw [hc]
    exact hat
  · intro call hcall
    rw [ht.others hc] at hcall
    exact h.calls c call hcall

theorem Fine.tweaks (h : b.Fine Q) (hQ : Stable p Q) (ht : Tweaks (Edit p) callId b b') :
    b'.Fine Q :=
  h.tweaks_of hQ.edit ht

theorem Fine.steps (h : b.Fine Q) (hQ : Stable p Q) (hs : CallSteps (Edit p) callId b b') :
    b'.Fine Q :=
  h.tweaks hQ hs.tweaks

/-- Calls that are gone do not matter, nor what is recorded that starts nothing. -/
theorem Fine.fewer (h : b.Fine Q)
    (hcalls : ∀ c call, b'.calls.get? c = some call → b.calls.get? c = some call)
    (htrace : ∀ effect ∈ b'.trace, effect ∈ b.trace ∨ effect.isStart = false) : b'.Fine Q := by
  refine ⟨fun c call hcall => h.calls c call (hcalls c call hcall), ?_⟩
  intro device c target call he
  rcases htrace _ he with he | he
  · exact h.starts device c target call he
  · cases he

theorem Fine.record (h : b.Fine Q) {effect : Effect} (hno : effect.isStart = false) :
    (b.record effect).Fine Q :=
  h.fewer (fun _ _ => id) fun _ => mem_append_noStart hno fun _ he => .inl he

theorem Fine.sip (h : b.Fine Q) {request : SipRequest} : (b.sipRequest w request).2.Fine Q :=
  h.record rfl

theorem Fine.same (h : b.Fine Q) (hcalls : b'.calls = b.calls) (htrace : b'.trace = b.trace) :
    b'.Fine Q :=
  h.fewer (fun _ _ hcall => hcalls ▸ hcall) fun _ he => .inl (htrace ▸ he)

theorem Fine.begin (h : b.Fine Q) {call : BridgeCall} (hcall : Q call.media)
    (hcalls : b'.calls = b.calls.insert callId call) (htrace : b'.trace = b.trace) : b'.Fine Q := by
  refine ⟨fun c other hother => ?_, fun device c target other he =>
    h.starts device c target other (htrace ▸ he)⟩
  rw [hcalls, Table.get?_insert] at hother
  split at hother
  · rw [← Option.some.inj hother]
    exact hcall
  · exact h.calls c other hother

theorem Fine.beginOutbound (h : b.Fine Q) (hQ : Stable p Q) (device : DeviceId)
    (callId : CallId) (lineInstance : Nat) :
    (b.beginOutbound device callId lineInstance).Fine Q := by
  unfold Coordinator.beginOutbound
  split
  · exact h.record rfl
  split
  · exact h
  · refine Fine.record ?_ rfl
    refine h.begin (hQ.fresh _ ⟨rfl, fun hin => ?_, fun hdirect => ?_⟩) rfl rfl
    · cases hin
    · cases hdirect

theorem Fine.beginIfNew (h : b.Fine Q) (hQ : Stable p Q) (device : DeviceId)
    (callId : CallId) (lineInstance : Nat) : (if b.calls.contains callId then b
      else b.beginOutbound device callId lineInstance).Fine Q := by
  split
  · exact h
  · exact h.beginOutbound hQ device callId lineInstance

theorem Fine.endCalls (h : b.Fine Q) (ids : List CallId) : (b.endCalls w ids).Fine Q := by
  induction ids generalizing b with
  | nil => exact h
  | cons callId rest ih =>
    have hended := endCall_ended w b callId false
    refine ih (h.fewer (fun c call hcall => ?_) hended.trace)
    by_cases hc : c = callId
    · rw [hc, hended.gone] at hcall
      cases hcall
    · rwa [hended.others c hc] at hcall

theorem Fine.removeAccounts (h : b.Fine Q) (accounts : List AccountId) :
    (b.removeAccounts w accounts).Fine Q := by
  induction accounts generalizing b with
  | nil => exact h
  | cons account rest ih =>
    refine ih (Fine.sip w ?_)
    exact h.same rfl rfl

theorem Fine.unregisterPhone (h : b.Fine Q) (device : DeviceId) :
    (b.unregisterPhone w device).Fine Q := by
  unfold Coordinator.unregisterPhone
  dsimp only
  have herased : { b with
      registrations := b.registrations.erase device : Coordinator }.Fine Q := h.same rfl rfl
  have hended := herased.endCalls w (w.order { b with
    registrations := b.registrations.erase device } (b.callsOf device))
  refine Fine.removeAccounts w ?_ _
  exact hended.same rfl rfl

theorem Fine.addAccounts (h : b.Fine Q) (device : DeviceId) (index : Nat)
    (lines : List LineConfig) : (b.addAccounts w device index lines).Fine Q := by
  induction lines generalizing b index with
  | nil => exact h
  | cons line rest ih =>
    have hasked : (b.record (.addAccount (sipAccountConfig line)
        (w.addAccount b (sipAccountConfig line)))).Fine Q := h.record rfl
    rw [Coordinator.addAccounts]
    refine ih ?_ (index + 1)
    split
    · next hnone =>
      rw [hnone] at hasked ⊢
      exact hasked
    · next account hsome =>
      rw [hsome] at hasked ⊢
      exact hasked.same rfl rfl

theorem Fine.registerPhone (h : b.Fine Q) (generation : SessionGeneration)
    (registration : DeviceRegistration) : (b.registerPhone w generation registration).Fine Q := by
  unfold Coordinator.registerPhone
  dsimp only
  split
  · exact h
  have hfree : (if (b.registrations.get? registration.id).isSome then
      b.unregisterPhone w registration.id else b).Fine Q := by
    split
    · exact h.unregisterPhone w _
    · exact h
  have hnow : { (if (b.registrations.get? registration.id).isSome then
      b.unregisterPhone w registration.id else b) with
        registrations := (if (b.registrations.get? registration.id).isSome then
          b.unregisterPhone w registration.id else b).registrations.insert registration.id
            { generation, registration, capabilities := ⟨[]⟩ } : Coordinator }.Fine Q :=
    hfree.same rfl rfl
  split
  · exact hnow
  · exact hnow.addAccounts w _ _ _

theorem Fine.expireDigits (h : b.Fine Q) (hQ : Stable p Q) (ids : List CallId) :
    (b.expireDigits w ids).Fine Q := by
  induction ids generalizing b with
  | nil => exact h
  | cons callId rest ih =>
    exact ih (h.steps hQ ((editDigits_steps b callId (·.digits) fun _ => none).trans
      (commitDigits_steps w _ callId)))

theorem Fine.incomingCall (h : b.Fine Q) (hQ : Stable p Q) (account : AccountId)
    (sipCall : SipCallId) (remoteUri : String) (remoteMedia : Option RemoteMedia) :
    (b.incomingCall w account sipCall remoteUri remoteMedia).Fine Q := by
  unfold Coordinator.incomingCall
  dsimp only
  have hreleased : { b with
      pendingIncoming := b.pendingIncoming.erase sipCall : Coordinator }.Fine Q := h.same rfl rfl
  split
  · exact hreleased.sip w
  next binding _ =>
  split
  · exact hreleased.sip w
  split
  · exact hreleased.sip w
  next relay _ =>
  split
  · exact (hreleased.sip w).sip w
  split
  · exact Fine.sip w (Fine.record (hreleased.sip w) rfl)
  next callId _ =>
  have hasked : ∀ effect : Effect, effect.isStart = false → (({ b with
      pendingIncoming := b.pendingIncoming.erase sipCall :
        Coordinator }.sipRequest w (.setMediaAdvertisement sipCall
          relay.addresses.sipFacingRtp)).2.record effect).Fine Q :=
    fun effect hno => (hreleased.sip w).record hno
  -- the new call waits for its phone
  have hfresh : ∀ call : BridgeCall, call.phoneMedia = .opening →
      call.sipCall = some sipCall → call.mediaRoute = .relay (.reserved relay) →
      Q call.media := by
    intro call hphone hsip hroute
    refine hQ.fresh _ ⟨?_, fun _ => ?_, ?_⟩
    · exact congrArg PhoneMediaState.source hphone
    · exact congrArg Option.isSome hsip
    · intro hdirect
      exact absurd (hroute.symm.trans hdirect) nofun
  split
  · refine Fine.record (Fine.record (Fine.record ?_ rfl) rfl) rfl
    exact (hasked _ rfl).begin (hfresh _ rfl rfl rfl) rfl rfl
  · refine Fine.record ?_ rfl
    exact (hasked _ rfl).begin (hfresh _ rfl rfl rfl) rfl rfl

theorem Fine.sipCallState (h : b.Fine Q) (hQ : Stable b.mediaPolicy Q) (sipCall : SipCallId)
    (state : DialogState) : (b.sipCallState w sipCall state).Fine Q := by
  unfold Coordinator.sipCallState
  split
  · split
    · exact h.same rfl rfl
    · exact h
  next callId hindex =>
  split
  · exact h
  next call hcall =>
  by_cases hlive : state ≠ .disconnected
  · have hsteps := sipCallState_steps w hlive hindex
    unfold Coordinator.sipCallState at hsteps
    rw [hindex] at hsteps
    dsimp only at hsteps
    rw [hcall] at hsteps
    exact h.steps hQ hsteps
  · obtain rfl := not_not.mp hlive
    exact (h.record rfl).tweaks hQ (Tweaks.endCall w .refl true)

theorem mediaAdvertisement_same (b : Coordinator) (account : AccountId) (sipCall : SipCallId) :
    (b.mediaAdvertisement w account sipCall).2.calls = b.calls
      ∧ (b.mediaAdvertisement w account sipCall).2.trace = b.trace := by
  unfold mediaAdvertisement
  split
  · exact ⟨rfl, rfl⟩
  split
  · exact ⟨rfl, rfl⟩
  · split
    · exact ⟨rfl, rfl⟩
    · split <;> exact ⟨rfl, rfl⟩

/-- Three events bring new addresses or settle a change of the route; all others keep what edits
    keep. -/
theorem Fine.handle (h : b.Fine Q) (hQ : Stable b.mediaPolicy Q) (event : Event)
    (hready : ∀ device generation callId endpoint,
      event = .sccp (.device device generation (.receiveChannelOpened callId true endpoint)) →
        (b.registrations.get? device).map (·.generation) = some generation →
          (b.phoneMediaReady w callId endpoint).Fine Q)
    (hmedia : ∀ sipCall state remote, event = .sip (.mediaState sipCall state (some remote)) →
      (b.sipMediaState w sipCall state (some remote)).Fine Q)
    (hreoffer : ∀ sipCall accepted, event = .sip (.mediaReofferCompleted sipCall accepted) →
      (b.mediaReofferCompleted w sipCall accepted).Fine Q) : (b.handle w event).Fine Q := by
  rcases event with event | event | _
  · rcases event with _ | _ | ⟨deviceId, generation, event⟩
    · exact h
    · exact h
    · have hdevice : (b.registrations.get? deviceId).map (·.generation) = some generation →
          (b.handleDevice w deviceId generation event).Fine Q := by
        intro hcurrent
        cases event with
        | registered registration => exact h.registerPhone w generation registration
        | disconnected => exact h.unregisterPhone w deviceId
        | capabilities capabilities => exact h.same rfl rfl
        | offHook callId lineInstance =>
          unfold handleDevice phoneOffHook
          dsimp only
          split
          · exact h.steps hQ (requestAnswer_steps w b callId)
          · exact h.beginOutbound hQ deviceId callId lineInstance
        | onHook callId => exact h.tweaks hQ (Tweaks.endCall w .refl false)
        | digit callId digit => exact h.steps hQ (phoneDigit_steps w b callId digit)
        | enblocCall callId lineInstance number =>
          have hbegun := h.beginIfNew hQ deviceId callId lineInstance
          exact (hbegun.steps hQ (editDigits_steps _ callId (fun _ => number) fun _ => none)).steps
            hQ (dial_steps w _ callId)
        | speedDial callId lineInstance number awaitFurtherDigits =>
          exact (h.beginIfNew hQ deviceId callId lineInstance).steps hQ
            (phoneSpeedDial_steps w b deviceId callId lineInstance number _)
        | softKey callId key =>
          rcases callId with _ | callId
          · exact h
          · exact h.steps hQ (softKey_steps w b callId key)
        | receiveChannelOpened callId ok endpoint =>
          rcases ok with _ | _
          · exact h.tweaks hQ (Tweaks.failCall w .refl _)
          · exact hready deviceId generation callId endpoint rfl hcurrent
        | transmitChannelOpen callId rejected =>
          rcases rejected with _ | _
          · exact h
          · exact h.tweaks hQ (Tweaks.failCall w .refl _)
        | mediaTransmissionFailed callId => exact h.tweaks hQ (Tweaks.failCall w .refl _)
        | other => exact h
      unfold Coordinator.handle handleSccp
      dsimp only
      split
      · exact h.registerPhone w generation _
      · split
        · next hcurrent => exact hdevice hcurrent
        · exact h
  · cases event with
    | registration account registered => exact h
    | incomingCall account call remoteUri remoteMedia =>
      exact h.incomingCall w hQ account call remoteUri remoteMedia
    | callState call state => exact h.sipCallState w hQ call state
    | mediaState call state remote =>
      rcases remote with _ | remote
      · unfold Coordinator.handle handleSip sipMediaState
        dsimp only
        split
        · exact h
        · exact h.steps hQ (applySipMediaState_steps w b _ state)
      · exact hmedia call state remote rfl
    | mediaReofferCompleted call accepted => exact hreoffer call accepted rfl
    | messageWaiting account waiting =>
      rcases hbinding : b.bindingsByAccount.get? account with _ | binding
      · simp only [Coordinator.handle, handleSip, hbinding]
        exact h
      · simp only [Coordinator.handle, handleSip, hbinding]
        exact h.record rfl
    | mediaAdvertisementRequired account call =>
      obtain ⟨hcalls, htrace⟩ := mediaAdvertisement_same w b account call
      exact Fine.record (h.same hcalls htrace) rfl
  · exact h.expireDigits w hQ _

theorem new_fine (config : AppConfig) (mediaPolicy : MediaPolicy) :
    (new config mediaPolicy).Fine Q :=
  ⟨fun _ _ hcall => (by cases hcall), fun _ _ _ _ he => (by cases he)⟩

/-! ## What a handler leaves alone -/

/-- The events of a SIP call reach the call that the index has for it. -/
theorem sipCallState_tweaks {b : Coordinator} {sipCall : SipCallId} (state : DialogState)
    (hindex : b.sccpBySip.get? sipCall = some callId) :
    Tweaks Any callId b (b.sipCallState w sipCall state) := by
  by_cases hlive : state ≠ .disconnected
  · exact (CallSteps.any (sipCallState_steps w hlive hindex)).tweaks
  obtain rfl := not_not.mp hlive
  unfold sipCallState
  rw [hindex]
  dsimp only
  split
  · exact .refl
  · exact Tweaks.endCall w (Tweaks.record .refl rfl) true

/-! ## The policy of the configuration -/

theorem policy_of_moves (h : Moves b b') : b'.mediaPolicy = b.mediaPolicy := by
  induction h with
  | refl => rfl
  | tail _ hmove ih => cases hmove <;> exact ih

theorem removeAccounts_policy (b : Coordinator) (accounts : List AccountId) :
    (b.removeAccounts w accounts).mediaPolicy = b.mediaPolicy := by
  induction accounts generalizing b with
  | nil => rfl
  | cons account rest ih => exact ih _

theorem unregisterPhone_policy (b : Coordinator) (device : DeviceId) :
    (b.unregisterPhone w device).mediaPolicy = b.mediaPolicy := by
  have hended := fun b ids => policy_of_moves (endCalls_moves w b ids)
  exact (removeAccounts_policy w _ _).trans (hended { b with
    registrations := b.registrations.erase device } _)

theorem addAccounts_policy (b : Coordinator) (device : DeviceId) (index : Nat)
    (lines : List LineConfig) : (b.addAccounts w device index lines).mediaPolicy
      = b.mediaPolicy := by
  induction lines generalizing b index with
  | nil => rfl
  | cons line rest ih =>
    rw [addAccounts, ih]
    split <;> rfl

theorem registerPhone_policy (b : Coordinator) (generation : SessionGeneration)
    (registration : DeviceRegistration) :
    (b.registerPhone w generation registration).mediaPolicy = b.mediaPolicy := by
  unfold registerPhone
  dsimp only
  split
  · rfl
  have hfree : (if (b.registrations.get? registration.id).isSome then
      b.unregisterPhone w registration.id else b).mediaPolicy = b.mediaPolicy := by
    split
    · exact unregisterPhone_policy w b _
    · rfl
  split
  · exact hfree
  · exact (addAccounts_policy w _ _ _ _).trans hfree

theorem policy_of_handled {A : Coordinator → Coordinator → Prop} (h : Handled A b b')
    (hA : ∀ mid mid', A mid mid' → mid'.mediaPolicy = mid.mediaPolicy) :
    b'.mediaPolicy = b.mediaPolicy := by
  cases h with
  | quiet h => exact policy_of_moves h
  | once before attach after =>
    exact ((policy_of_moves after).trans (hA _ _ attach)).trans (policy_of_moves before)

theorem handleDevice_policy (b : Coordinator) (deviceId : DeviceId)
    (generation : SessionGeneration) (event : DeviceEvent) :
    (b.handleDevice w deviceId generation event).mediaPolicy = b.mediaPolicy := by
  rcases hregistration : isRegistration event with _ | _
  · exact policy_of_handled (handleDevice_handled w b deviceId generation hregistration)
      fun _ _ ⟨_, _, _, _, _, _, _, _, _, _⟩ => rfl
  cases event with
  | registered registration => exact registerPhone_policy w b generation registration
  | disconnected => exact unregisterPhone_policy w b deviceId
  | _ => cases hregistration

/-- No event changes the policy. -/
theorem handle_policy (b : Coordinator) (event : Event) :
    (b.handle w event).mediaPolicy = b.mediaPolicy := by
  rcases event with event | event | _
  · rcases event with _ | _ | ⟨deviceId, generation, event⟩
    · rfl
    · rfl
    · unfold handle handleSccp
      dsimp only
      split
      · exact handleDevice_policy w b _ _ _
      · split
        · exact handleDevice_policy w b _ _ _
        · rfl
  · cases event with
    | registration account registered => rfl
    | incomingCall account call remoteUri remoteMedia =>
      exact policy_of_handled (incomingCall_handled w b account call remoteUri remoteMedia)
        fun _ _ ⟨_, _, _, _, _, _, _, _, _, _, _, _, _⟩ => rfl
    | callState call state =>
      rcases hindex : b.sccpBySip.get? call with _ | callId
      · unfold handle handleSip sipCallState
        dsimp only
        rw [hindex]
        dsimp only
        split <;> rfl
      · exact (sipCallState_tweaks w state hindex).policy
    | mediaState call state remote =>
      rcases hindex : b.sccpBySip.get? call with _ | callId
      · unfold handle handleSip sipMediaState
        dsimp only
        rw [hindex]
      · exact policy_of_moves (sipMediaState_steps w state remote hindex).moves
    | mediaReofferCompleted call accepted =>
      rcases hindex : b.sccpBySip.get? call with _ | callId
      · unfold handle handleSip mediaReofferCompleted
        dsimp only
        rw [hindex]
      · exact policy_of_moves (mediaReofferCompleted_steps w accepted hindex).moves
    | messageWaiting account waiting =>
      unfold handle handleSip
      dsimp only
      rcases b.bindingsByAccount.get? account with _ | binding <;> rfl
    | mediaAdvertisementRequired account call =>
      exact policy_of_moves (Moves.record (mediaAdvertisement_moves w b account call) rfl)
  · exact policy_of_moves (handleDigitDeadlines_moves w b)

end Coordinator

end Sccp.Gateway
