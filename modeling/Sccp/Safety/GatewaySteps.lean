/-
  Sccp.Safety.GatewaySteps

  What the handlers of the SIP bridge do to one call.

  A handler that is given a call takes a few steps with it: it notes what it asks for, edits the
  call, starts its media or closes it.  The books look at whose call it is and how it ends, and
  the media side at where its media goes; a step says what becomes of both.
-/

import Sccp.Safety.Gateway

namespace Sccp.Gateway

open Sccp

/-! ## The media of a call -/

/-- What decides about the media of a call. -/
structure CallMedia where
  direction : CallDirection
  attached : Bool
  connected : Bool
  progress : InboundProgress
  phone : PhoneMediaState
  remote : Option RemoteMedia
  route : MediaRouteState
  codec : Codec

def BridgeCall.media (call : BridgeCall) : CallMedia where
  direction := call.direction
  attached := call.sipCall.isSome
  connected := call.state = .connected
  progress := call.inboundProgress
  phone := call.phoneMedia
  remote := call.remoteMedia
  route := call.mediaRoute
  codec := call.codec

namespace CallMedia

/-- The policy allows media between the phone and the peer as they are now. -/
def Allowed (policy : MediaPolicy) (m : CallMedia) : Prop :=
  ∀ phone remote, m.phone.source = some phone → m.remote = some remote →
    ∃ address, phone.address = .v4 address
      ∧ policy.select address remote.endpoint.ip (remote.codec = m.codec) = .direct

/-- The answer key does something. -/
def Answerable (m : CallMedia) : Prop :=
  m.direction = .inbound ∧ m.phone.source.isSome = true ∧ m.attached = true

/-- What a change of the route may be. -/
inductive Reroute (policy : MediaPolicy) : CallMedia → CallMedia → Prop where
  | stay (m : CallMedia) : Reroute policy m m
  | initialDirect {m : CallMedia} (hdirection : m.direction = .inbound)
      (hprogress : m.progress = .waitingForPhone ∨ m.progress = .answerRequested)
      (hroute : m.route.kind = .relay) (hallowed : m.Allowed policy) :
      Reroute policy m { m with route := .direct }
  | toDirect {m : CallMedia} {path : RelayPath} (hroute : m.route = .relay path)
      (hremote : m.remote.isSome = true) :
      Reroute policy m { m with route := .switchingToDirect path }
  | toRelay {m : CallMedia} (relay : AllocatedRelay) (hroute : m.route = .direct) :
      Reroute policy m { m with route := .switchingToRelay relay }

/-- The start of media on a route that can be used. -/
inductive Begin : CallMedia → CallMedia → Prop where
  | direct {m : CallMedia} {phone : MediaEndpoint} {remote : RemoteMedia}
      (hidle : m.phone.isStarted = false) (hphone : m.phone.source = some phone)
      (hremote : m.remote = some remote) (hroute : m.route = .direct) :
      Begin m { m with phone := .started phone (directTarget remote) }
  | relay {m : CallMedia} {phone : MediaEndpoint} {remote : RemoteMedia} {path : RelayPath}
      {address : Ipv4Addr} {running : RtpRelay} (hidle : m.phone.isStarted = false)
      (hphone : m.phone.source = some phone) (hremote : m.remote = some remote)
      (haddress : phone.address = .v4 address) (hroute : m.route = .relay path)
      (htoPhone : running.phone = ⟨address, phone.rtpPort⟩)
      (htoSip : running.sip = remote.endpoint) :
      Begin m { m with
        route := .relay (.running running)
        phone := .started phone (relayTarget running.addresses remote.codec) }

theorem Reroute.phone {policy : MediaPolicy} {m m' : CallMedia} (h : Reroute policy m m') :
    m'.phone = m.phone := by
  cases h <;> rfl

theorem Begin.idle {m m' : CallMedia} (h : Begin m m') : m.phone.isStarted = false := by
  cases h <;> assumption

/-- What the handlers do to the media of a call, step by step. -/
inductive Edit (policy : MediaPolicy) : CallMedia → CallMedia → Prop where
  | same (m : CallMedia) : Edit policy m m
  | connect (m : CallMedia) (connected : Bool) : Edit policy m { m with connected }
  | attach (m : CallMedia) : Edit policy m { m with attached := true }
  | ring {m : CallMedia} (h : m.progress = .waitingForPhone) :
      Edit policy m { m with progress := .ringing }
  | request {m : CallMedia} (h : ¬ m.Answerable) :
      Edit policy m { m with progress := .answerRequested }
  | answer {m : CallMedia} (h : m.Answerable) : Edit policy m { m with progress := .answered }
  | pause {m : CallMedia} {source target : MediaEndpoint} (h : m.phone = .started source target)
      (connected : Bool) : Edit policy m { m with phone := .ready source, connected }
  | open (m : CallMedia) (relay : AllocatedRelay) :
      Edit policy m { m with route := .relay (.reserved relay), phone := .opening }
  | reopen (m : CallMedia) (remote : RemoteMedia) :
      Edit policy m { m with phone := .opening, remote := some remote, codec := remote.codec }
  | refresh {m : CallMedia} {relay : RtpRelay} {phone : MediaEndpoint} {remote : RemoteMedia}
      {address : Ipv4Addr} (hroute : m.route = .relay (.running relay))
      (hphone : m.phone.source = some phone) (hremote : m.remote = some remote)
      (haddress : phone.address = .v4 address) :
      Edit policy m { m with
        route := .relay (.running (relay.updateEndpoints ⟨address, phone.rtpPort⟩
          remote.endpoint)) }
  | reroute {m m' : CallMedia} (h : Reroute policy m m') : Edit policy m m'
  | begin {m m' : CallMedia} (h : Begin m m') : Edit policy m m'

end CallMedia

/-- The commands that start media. -/
def Effect.isStart : Effect → Bool
  | .startMedia .. => true
  | _ => false

namespace Coordinator

theorem editCall_editCall (b : Coordinator) (callId : CallId) (f g : BridgeCall → BridgeCall) :
    (b.editCall callId f).editCall callId g = b.editCall callId (g ∘ f) := by
  unfold editCall
  dsimp only
  rw [Table.modify_modify]

/-! ## The end of a call -/

theorem closing_closeCall (device : DeviceId) (callId : CallId) :
    Closing callId none [.sccp device (.closeCall callId)] where
  opens := fun _ => rfl
  closes := fun c => by simp [Effect.closesCall, List.countP_cons, eq_comm]
  attaches := fun _ => rfl
  detaches := fun _ => rfl

theorem closing_hangup (device : DeviceId) (callId : CallId) (sipCall : SipCallId) (ok : Bool) :
    Closing callId (some sipCall)
      [.sip (.hangup sipCall) ok, .sccp device (.closeCall callId)] where
  opens := fun _ => rfl
  closes := fun c => by simp [Effect.closesCall, List.countP_cons, eq_comm]
  attaches := fun _ => rfl
  detaches := fun s => by
    simp [Effect.detaches, Effect.hangsUp, Effect.endedBySip, List.countP_cons]

theorem closing_disconnected (device : DeviceId) (callId : CallId) (sipCall : SipCallId) :
    Closing callId (some sipCall) [.logDisconnected sipCall, .sccp device (.closeCall callId)] where
  opens := fun _ => rfl
  closes := fun c => by simp [Effect.closesCall, List.countP_cons, eq_comm]
  attaches := fun _ => rfl
  detaches := fun s => by
    simp [Effect.detaches, Effect.hangsUp, Effect.endedBySip, List.countP_cons]

end Coordinator

theorem Closing.cons_neutral {callId : CallId} {sipCall : Option SipCallId}
    {effects : List Effect} (h : Closing callId sipCall effects) {effect : Effect}
    (hneutral : effect.isNeutral = true) : Closing callId sipCall (effect :: effects) where
  opens := fun c => by
    rw [List.countP_cons_of_neg (by simp [(Effect.neutral_call hneutral c).1]), h.opens]
  closes := fun c => by
    rw [List.countP_cons_of_neg (by simp [(Effect.neutral_call hneutral c).2]), h.closes]
  attaches := fun s => by
    rw [List.countP_cons_of_neg (by simp [(Effect.neutral_sip hneutral s).1]), h.attaches]
  detaches := fun s => by
    rw [List.countP_cons_of_neg (by simp [(Effect.neutral_sip hneutral s).2]), h.detaches]

namespace Coordinator

variable (w : World)
variable {call : BridgeCall} {b : Coordinator} {f : BridgeCall → BridgeCall} {sipCall : SipCallId}

/-- What is appended to a trace and is no start. -/
theorem mem_append_noStart {effects : List Effect} {trace : List Effect} {effect next : Effect}
    (hno : next.isStart = false)
    (htrace : ∀ e ∈ effects, e ∈ trace ∨ e.isStart = false) (he : effect ∈ effects ++ [next]) :
    effect ∈ trace ∨ effect.isStart = false := by
  rcases List.mem_append.mp he with he | he
  · exact htrace effect he
  · exact .inr (List.mem_singleton.mp he ▸ hno)

/-- A call that is ended here is hung up and closed, and nothing is started for it. -/
theorem endCall_eq {callId : CallId} (hcall : b.calls.get? callId = some call) :
    ∃ effects, Closing callId call.sipCall effects
      ∧ (∀ effect ∈ effects, effect.isStart = false)
      ∧ b.endCall w callId false = { b with
          calls := b.calls.erase callId
          sccpBySip := b.unindexed call.sipCall
          trace := b.trace ++ effects } := by
  unfold endCall
  rw [hcall]
  dsimp only
  rcases hsip : call.sipCall with _ | sipCall
  · exact ⟨_, closing_closeCall call.device callId, fun _ he => List.mem_singleton.mp he ▸ rfl, rfl⟩
  refine ⟨_, closing_hangup call.device callId sipCall
    (w.sip { b with
      calls := b.calls.erase callId
      sccpBySip := b.sccpBySip.erase sipCall } (.hangup sipCall)), ?_, ?_⟩
  · simp [Effect.isStart]
  · simp [sendSccp, sipRequest, record, unindexed]

theorem failCall_eq {callId : CallId} (message : String) (hcall : b.calls.get? callId = some call) :
    ∃ effects, Closing callId call.sipCall effects
      ∧ (∀ effect ∈ effects, effect.isStart = false)
      ∧ b.failCall w callId message = { b with
          calls := b.calls.erase callId
          sccpBySip := b.unindexed call.sipCall
          trace := b.trace ++ effects } := by
  unfold failCall
  rw [hcall]
  dsimp only
  generalize htold : (b.prompt call.device callId message).sendSccp call.device
    (.setCallState callId .congestion) = told
  have hget : told.calls.get? callId = some call := by rw [← htold]; exact hcall
  obtain ⟨effects, heffects, hno, heq⟩ := endCall_eq w hget
  refine ⟨.sccp call.device (.displayPrompt callId 5 message)
    :: .sccp call.device (.setCallState callId .congestion) :: effects,
    (heffects.cons_neutral rfl).cons_neutral rfl, ?_, ?_⟩
  · simpa [Effect.isStart] using hno
  · rw [heq, ← htold]
    simp [prompt, sendSccp, record, unindexed]

/-! ## Steps of one call -/

/-- An edit of what the books do not look at. -/
theorem keeps_of_eq {call' : BridgeCall} (hdevice : call'.device = call.device)
    (hline : call'.lineInstance = call.lineInstance) (haccount : call'.account = call.account)
    (hsip : call'.sipCall = call.sipCall) (hroute : call'.mediaRoute = call.mediaRoute) :
    Keeps call call' :=
  ⟨hdevice, hline, haccount, hsip, fun h => hroute ▸ h⟩

/-- An edit that gives a call a route. -/
theorem keeps_of_route {call' : BridgeCall} (hdevice : call'.device = call.device)
    (hline : call'.lineInstance = call.lineInstance) (haccount : call'.account = call.account)
    (hsip : call'.sipCall = call.sipCall) (hroute : call'.mediaRoute ≠ .unallocated) :
    Keeps call call' :=
  ⟨hdevice, hline, haccount, hsip, fun _ => hroute⟩

/-- A step with one call, which leaves the other calls alone and gives none a SIP call. -/
inductive CallStep (E : CallMedia → CallMedia → Prop) (callId : CallId) :
    Coordinator → Coordinator → Prop where
  | note {b : Coordinator} {effect : Effect} (hneutral : effect.isNeutral = true)
      (hno : effect.isStart = false) : CallStep E callId b (b.record effect)
  | dialed {b : Coordinator} (lastDialed : Table (DeviceId × Nat) String) :
      CallStep E callId b { b with lastDialed }
  | edit {b : Coordinator} {f : BridgeCall → BridgeCall}
      (h : ∀ call, b.calls.get? callId = some call →
        Keeps call (f call) ∧ E call.media (f call).media) :
      CallStep E callId b (b.editCall callId f)
  | start {b : Coordinator} {call : BridgeCall} (device : DeviceId) (phone : MediaEndpoint)
      {route : MediaRouteState} (target : MediaEndpoint)
      (hcall : b.calls.get? callId = some call) (hroute : route ≠ .unallocated)
      (hbegin : CallMedia.Begin call.media
        { call.media with route, phone := .started phone target })
      (h : E call.media { call.media with route, phone := .started phone target }) :
      CallStep E callId b (b.startMedia callId device phone route target)
  | close {b : Coordinator} {call : BridgeCall} {effects : List Effect}
      (hcall : b.calls.get? callId = some call) (heffects : Closing callId call.sipCall effects)
      (hno : ∀ effect ∈ effects, effect.isStart = false) :
      CallStep E callId b { b with
        calls := b.calls.erase callId
        sccpBySip := b.unindexed call.sipCall
        trace := b.trace ++ effects }

abbrev CallSteps (E : CallMedia → CallMedia → Prop) (callId : CallId) :
    Coordinator → Coordinator → Prop :=
  Relation.ReflTransGen (CallStep E callId)

variable {E : CallMedia → CallMedia → Prop} {p : MediaPolicy} {callId : CallId}
  {b b' : Coordinator}

theorem CallSteps.mono {F : CallMedia → CallMedia → Prop} (hmono : ∀ m m', E m m' → F m m')
    (h : CallSteps E callId b b') : CallSteps F callId b b' := by
  refine Relation.ReflTransGen.mono (fun _ _ hstep => ?_) _ _ h
  cases hstep with
  | note hneutral hno => exact .note hneutral hno
  | dialed lastDialed => exact .dialed lastDialed
  | edit h => exact .edit fun call hcall => ⟨(h call hcall).1, hmono _ _ (h call hcall).2⟩
  | start device phone target hcall hroute hbegin hE =>
    exact .start device phone target hcall hroute hbegin (hmono _ _ hE)
  | close hcall heffects hno => exact .close hcall heffects hno

theorem CallSteps.record (h : CallSteps E callId b b') {effect : Effect}
    (hneutral : effect.isNeutral = true) (hno : effect.isStart = false) :
    CallSteps E callId b (b'.record effect) :=
  h.tail (.note hneutral hno)

theorem CallSteps.sip (h : CallSteps E callId b b') {request : SipRequest}
    (hneutral : (Effect.sip request true).isNeutral = true) :
    CallSteps E callId b (b'.sipRequest w request).2 := by
  refine CallSteps.record h ?_ rfl
  cases request <;> first | rfl | exact hneutral

theorem CallSteps.edit (h : CallSteps E callId b b') (hkeeps : ∀ call, Keeps call (f call))
    (hE : ∀ call : BridgeCall, E call.media (f call).media) :
    CallSteps E callId b (b'.editCall callId f) :=
  h.tail (.edit fun call _ => ⟨hkeeps call, hE call⟩)

/-- The edit of a call that has been looked up. -/
theorem CallSteps.editOf (h : CallSteps E callId b b') (hcall : b'.calls.get? callId = some call)
    (hkeeps : Keeps call (f call)) (hE : E call.media (f call).media) :
    CallSteps E callId b (b'.editCall callId f) := by
  refine h.tail (.edit fun call' hcall' => ?_)
  rw [hcall] at hcall'
  obtain rfl := Option.some.inj hcall'
  exact ⟨hkeeps, hE⟩

theorem CallSteps.endCall (h : CallSteps E callId b b') :
    CallSteps E callId b (b'.endCall w callId false) := by
  rcases hcall : b'.calls.get? callId with _ | call
  · unfold Coordinator.endCall
    rwa [hcall]
  · obtain ⟨effects, heffects, hno, heq⟩ := endCall_eq w hcall
    rw [heq]
    exact h.tail (.close hcall heffects hno)

theorem CallSteps.failCall (h : CallSteps E callId b b') (message : String) :
    CallSteps E callId b (b'.failCall w callId message) := by
  rcases hcall : b'.calls.get? callId with _ | call
  · unfold Coordinator.failCall
    rw [hcall]
    exact CallSteps.endCall w h
  · obtain ⟨effects, heffects, hno, heq⟩ := failCall_eq w message hcall
    rw [heq]
    exact h.tail (.close hcall heffects hno)

/-- An edit does not matter to a call that fails at once. -/
theorem editCall_failCall_steps (message : String) (hcall : b.calls.get? callId = some call)
    (hsip : (f call).sipCall = call.sipCall) :
    CallSteps E callId b ((b.editCall callId f).failCall w callId message) := by
  have hget : (b.editCall callId f).calls.get? callId = some (f call) :=
    get?_editCall.mpr ⟨call, hcall, (if_pos rfl).symm⟩
  obtain ⟨effects, heffects, hno, heq⟩ := failCall_eq w message hget
  rw [hsip] at heffects
  have hclose : CallStep E callId b _ := .close hcall heffects hno
  refine .single ?_
  convert hclose using 1
  rw [heq, hsip]
  unfold editCall
  dsimp only
  rw [Table.erase_modify]
  rfl

/-! ## Media -/

open CallMedia

/-- A relay that has started knows both ends. -/
theorem start_eq_some {relay : AllocatedRelay} {spawned : Bool} {phone : IpAddr}
    {phonePort : UInt16} {sipPeer : SocketAddrV4} {running : RtpRelay}
    (h : relay.start spawned phone phonePort sipPeer = some running) :
    ∃ address, phone = .v4 address ∧ running =
      ⟨relay.addresses, ⟨address, phonePort⟩, sipPeer⟩ := by
  unfold AllocatedRelay.start at h
  split at h
  · cases h
  next address =>
  split at h
  · exact ⟨address, rfl, (Option.some.inj h).symm⟩
  · cases h

theorem activateMedia_steps (b : Coordinator) (callId : CallId) :
    CallSteps (Edit p) callId b (b.activateMedia w callId) := by
  unfold activateMedia
  split
  · exact .refl
  next call hcall =>
  split
  · exact .refl
  next hstarted =>
  have hidle : call.media.phone.isStarted = false := Bool.eq_false_iff.mpr hstarted
  split
  · next phone remote hphone hremote =>
    split
    · next hroute =>
      have hbegin : Begin call.media _ := .direct hidle hphone hremote hroute
      have hsame : { call.media with
          route := .direct, phone := .started phone (directTarget remote) }
          = { call.media with phone := .started phone (directTarget remote) } := by
        rw [← hroute]
        rfl
      rw [← hsame] at hbegin
      exact .single (.start call.device phone _ hcall nofun hbegin (.begin hbegin))
    · next relay hroute =>
      split
      · -- the call loses its route, and is gone before anybody sees it
        exact editCall_failCall_steps w _ hcall rfl
      next running hrun =>
      obtain ⟨address, haddress, rfl⟩ := start_eq_some hrun
      have hbegin : Begin call.media _ :=
        @Begin.relay _ _ _ _ _ ⟨relay.addresses, ⟨address, phone.rtpPort⟩,
          remote.endpoint⟩ hidle hphone hremote haddress hroute rfl rfl
      exact .single (.start call.device phone _ hcall nofun hbegin (.begin hbegin))
    · next running hroute =>
      split
      · exact .refl
      next address haddress =>
      have hbegin : Begin call.media _ :=
        @Begin.relay _ _ _ _ _ (running.updateEndpoints
          ⟨address, phone.rtpPort⟩ remote.endpoint) hidle hphone hremote haddress hroute rfl rfl
      exact .single (.start call.device phone _ hcall nofun hbegin (.begin hbegin))
    all_goals exact .refl
  · exact .refl

theorem CallSteps.activateMedia (h : CallSteps (Edit p) callId b b') :
    CallSteps (Edit p) callId b (b'.activateMedia w callId) :=
  h.trans (activateMedia_steps w b' callId)

variable (b)

theorem restartPhoneMedia_steps (callId : CallId) :
    CallSteps (Edit p) callId b (b.restartPhoneMedia w callId) := by
  unfold restartPhoneMedia
  refine CallSteps.activateMedia w ?_
  split
  · exact .refl
  next call hcall =>
  split
  · next source target hphone =>
    refine CallSteps.record (CallSteps.editOf .refl hcall ?_ ?_) rfl rfl
    · exact keeps_of_eq rfl rfl rfl rfl rfl
    · exact .pause hphone call.media.connected
  · exact .refl

theorem refreshRunningMedia_steps (callId : CallId) :
    CallSteps (Edit p) callId b (b.refreshRunningMedia w callId) := by
  unfold refreshRunningMedia
  split
  · exact .refl
  next call hcall =>
  split
  · next phone remote hphone hremote =>
    split
    · split
      · split
        · exact restartPhoneMedia_steps w b callId
        · exact .refl
      · exact .refl
    · next relay hroute =>
      split
      · exact .refl
      · next address haddress =>
        refine CallSteps.editOf .refl hcall ?_ (.refresh hroute hphone hremote haddress)
        exact keeps_of_route rfl rfl rfl rfl nofun
    · exact .refl
  · exact .refl

/-- Which change of the route the policy asks for. -/
theorem select_initialDirect {direction : CallDirection} {progress : InboundProgress}
    {connected : Bool} {desired : MediaMode} {current : MediaRouteKind}
    (h : selectMediaRouteAction direction progress connected desired current = .setInitialDirect) :
    direction = .inbound ∧ (progress = .waitingForPhone ∨ progress = .answerRequested)
      ∧ desired = .direct ∧ current = .relay := by
  unfold selectMediaRouteAction at h
  split at h
  · next hinitial => exact hinitial
  · split at h
    · cases h
    · split at h <;> cases h

theorem select_reofferRelay {direction : CallDirection} {progress : InboundProgress}
    {connected : Bool} {desired : MediaMode} {current : MediaRouteKind}
    (h : selectMediaRouteAction direction progress connected desired current = .reofferRelay) :
    current = .direct := by
  unfold selectMediaRouteAction at h
  split at h
  · cases h
  split at h
  · cases h
  · split at h
    · cases h
    · rfl
    · cases h

theorem allowed_of_select {m : CallMedia} {phone : MediaEndpoint} {remote : RemoteMedia}
    {address : Ipv4Addr} (hphone : m.phone.source = some phone) (hremote : m.remote = some remote)
    (haddress : phone.address = .v4 address)
    (hselect : p.select address remote.endpoint.ip (remote.codec = m.codec) = .direct) :
    m.Allowed p := by
  intro phone' remote' hphone' hremote'
  rw [hphone] at hphone'
  rw [hremote] at hremote'
  obtain rfl := Option.some.inj hphone'
  obtain rfl := Option.some.inj hremote'
  exact ⟨address, haddress, hselect⟩

theorem reconcileMediaRoute_steps (callId : CallId) :
    CallSteps (Reroute b.mediaPolicy) callId b (b.reconcileMediaRoute w callId) := by
  unfold reconcileMediaRoute
  split
  · exact .refl
  next call hcall =>
  split
  · next phone remote sipCall hphone hremote hsip =>
    split
    · exact .refl
    next address haddress =>
    dsimp only
    split
    · next haction =>
      obtain ⟨hdirection, hprogress, hdesired, hcurrent⟩ := select_initialDirect haction
      split
      · refine CallSteps.editOf (CallSteps.sip w .refl rfl) hcall ?_ ?_
        · exact keeps_of_route rfl rfl rfl rfl nofun
        · exact .initialDirect hdirection hprogress hcurrent
            (allowed_of_select hphone hremote haddress hdesired)
      · exact CallSteps.sip w .refl rfl
    · split
      · next path hroute =>
        split
        · refine CallSteps.sip w (CallSteps.editOf .refl hcall ?_ ?_) rfl
          · exact keeps_of_route rfl rfl rfl rfl nofun
          · exact .toDirect hroute (Option.isSome_iff_exists.mpr ⟨remote, hremote⟩)
        -- the call is back where it was
        have hback : ∀ b' : Coordinator, b'.calls = b.calls →
            CallSteps (Reroute b.mediaPolicy) callId b' ((b'.editCall callId
                fun call => { call with mediaRoute := .switchingToDirect path }
              ).editCall callId
                fun call => { call with mediaRoute := .relay path }) := by
          intro b' hcalls
          rw [editCall_editCall]
          have hsame : { call.media with route := .relay path } = call.media := by
            rw [← hroute]
            rfl
          refine CallSteps.editOf .refl (hcalls ▸ hcall) ?_ ?_
          · exact keeps_of_route rfl rfl rfl rfl nofun
          · show Reroute _ call.media { call.media with route := .relay path }
            rw [hsame]
            exact .stay _
        have hasked : ∀ request answer, (Effect.sip request true).isNeutral = true →
            CallSteps (Reroute b.mediaPolicy) callId b
              (b.record (.sip request answer)) := fun request answer hneutral =>
          CallSteps.record .refl (by cases request <;> first | rfl | exact hneutral) rfl
        exact Relation.ReflTransGen.trans (hasked _ _ rfl) (hback _ rfl)
      · exact .refl
    · next haction =>
      split
      · exact CallSteps.failCall w .refl _
      next relay _ =>
      have hdirect : call.media.route = .direct := by
        have hkind := select_reofferRelay haction
        unfold MediaRouteState.kind at hkind
        split at hkind
        · cases hkind
        · cases hkind
        · assumption
        · cases hkind
        · cases hkind
      have hswitch : CallSteps (Reroute b.mediaPolicy) callId b (b.editCall callId
          fun call => { call with mediaRoute := .switchingToRelay relay }) :=
        CallSteps.editOf .refl hcall (keeps_of_route rfl rfl rfl rfl nofun) (.toRelay relay hdirect)
      split
      · exact CallSteps.sip w hswitch rfl
      · exact CallSteps.failCall w (CallSteps.sip w hswitch rfl) _
    · exact .refl
  · exact .refl

variable {b}

theorem CallSteps.reconcile (h : CallSteps (Edit p) callId b b') (hpolicy : b'.mediaPolicy = p) :
    CallSteps (Edit p) callId b (b'.reconcileMediaRoute w callId) := by
  refine Relation.ReflTransGen.trans h (CallSteps.mono (fun m m' hreroute => ?_)
    (reconcileMediaRoute_steps w b' callId))
  rw [hpolicy] at hreroute
  exact .reroute hreroute

/-! ## Answering -/

theorem answerIncoming_steps (b : Coordinator) (callId : CallId) :
    CallSteps (Edit p) callId b (b.answerIncoming w callId) := by
  unfold answerIncoming
  split
  · exact .refl
  next call hcall =>
  split
  · exact .refl
  next hguard =>
  simp only [not_or, Decidable.not_not, Bool.not_eq_true, Option.isNone_eq_false_iff] at hguard
  split
  · exact .refl
  next sipCall hsip =>
  have hanswer : CallSteps (Edit p) callId b ((b.editCall callId fun call =>
      { call with inboundProgress := .answered }).sipRequest w (.answer sipCall)).2 := by
    refine CallSteps.sip w (CallSteps.editOf .refl hcall ?_ (.answer ⟨hguard.1, hguard.2.1,
      Option.isSome_iff_exists.mpr ⟨sipCall, hsip⟩⟩)) rfl
    exact keeps_of_eq rfl rfl rfl rfl rfl
  dsimp only
  split
  · exact CallSteps.activateMedia w (CallSteps.record hanswer rfl rfl)
  · exact CallSteps.failCall w hanswer _

/-- A call that cannot be answered stays as it is. -/
theorem answerIncoming_of_not (hcall : b.calls.get? callId = some call)
    (hnot : ¬ call.media.Answerable) : b.answerIncoming w callId = b := by
  unfold answerIncoming
  rw [hcall]
  dsimp only
  split
  · rfl
  next hguard =>
  simp only [not_or, Decidable.not_not, Bool.not_eq_true, Option.isNone_eq_false_iff] at hguard
  split
  · rfl
  · next sipCall hsip =>
    exact absurd ⟨hguard.1, hguard.2.1, Option.isSome_iff_exists.mpr ⟨sipCall, hsip⟩⟩ hnot

theorem requestAnswer_steps (b : Coordinator) (callId : CallId) :
    CallSteps (Edit p) callId b (b.requestAnswer w callId) := by
  unfold requestAnswer
  rcases hcall : b.calls.get? callId with _ | call
  · have hedit : CallSteps (Edit p) callId b (b.editCall callId fun call =>
        { call with inboundProgress := .answerRequested }) :=
      .single (.edit fun call' hcall' => by rw [hcall] at hcall'; cases hcall')
    exact hedit.trans (answerIncoming_steps w _ callId)
  have hget : (b.editCall callId fun call =>
      { call with inboundProgress := .answerRequested }).calls.get? callId
        = some { call with inboundProgress := .answerRequested } :=
    get?_editCall.mpr ⟨call, hcall, (if_pos rfl).symm⟩
  by_cases hanswerable : call.media.Answerable
  · -- the request is met at once
    obtain ⟨hdirection, hsource, hattached⟩ := hanswerable
    obtain ⟨sipCall, hsip⟩ := Option.isSome_iff_exists.mp hattached
    have hanswer : CallSteps (Edit p) callId b ((b.editCall callId ((fun call : BridgeCall =>
        { call with inboundProgress := .answered }) ∘ fun call =>
        { call with inboundProgress := .answerRequested })).sipRequest w (.answer sipCall)).2 :=
      CallSteps.sip w (CallSteps.editOf .refl hcall (keeps_of_eq rfl rfl rfl rfl rfl)
        (.answer ⟨hdirection, hsource, hattached⟩)) rfl
    have hguard : ¬ (call.direction ≠ .inbound ∨ call.phoneMedia.source.isNone = true) := by
      rw [not_or, not_not, Bool.not_eq_true, Option.isNone_eq_false_iff]
      exact ⟨hdirection, hsource⟩
    unfold answerIncoming
    rw [hget]
    dsimp only
    rw [if_neg (by simpa [not_or] using hguard), hsip, editCall_editCall]
    dsimp only
    split
    · exact CallSteps.activateMedia w (CallSteps.record hanswer rfl rfl)
    · exact CallSteps.failCall w hanswer _
  · rw [answerIncoming_of_not w hget hanswerable]
    exact CallSteps.editOf .refl hcall (keeps_of_eq rfl rfl rfl rfl rfl) (.request hanswerable)

theorem ringOrAnswer_steps (b : Coordinator) (callId : CallId) :
    CallSteps (Edit p) callId b (b.ringOrAnswer w callId) := by
  unfold ringOrAnswer
  split
  · exact .refl
  next call hcall =>
  dsimp only
  generalize hrung : (if call.inboundProgress = .waitingForPhone then
    b.editCall callId fun call => { call with inboundProgress := .ringing } else b) = rung
  have hring : CallSteps (Edit p) callId b rung := by
    subst hrung
    split
    · next hwaiting =>
      exact CallSteps.editOf .refl hcall (keeps_of_eq rfl rfl rfl rfl rfl) (.ring hwaiting)
    · exact .refl
  have htell : ∀ told, CallSteps (Edit p) callId rung told →
      CallSteps (Edit p) callId b (if call.inboundProgress = .answerRequested then
        told.answerIncoming w callId else told) := by
    intro told htold
    split
    · exact (hring.trans htold).trans (answerIncoming_steps w told callId)
    · exact hring.trans htold
  apply htell
  split
  · split
    · exact CallSteps.sip w .refl rfl
    · exact .refl
  · exact .refl

/-! ## Dialing and keys -/

variable (b)

theorem dial_steps (callId : CallId) : CallSteps (Edit p) callId b (b.dial w callId) := by
  unfold dial
  split
  · exact .refl
  next call hcall =>
  split
  · exact .refl
  have hcalling : CallSteps (Edit p) callId b (b.editCall callId fun call =>
      { call with state := .calling, digitDeadline := none }) :=
    CallSteps.edit .refl (fun _ => keeps_of_eq rfl rfl rfl rfl rfl)
      fun call => .connect call.media false
  have hdialed := hcalling.tail (.dialed
    (b.lastDialed.insert (call.device, call.lineInstance) call.digits))
  dsimp only
  split
  · exact CallSteps.failCall w hdialed _
  next relay _ =>
  refine CallSteps.record (CallSteps.edit hdialed (fun _ => ?_)
    fun call => .open call.media relay) rfl rfl
  exact keeps_of_route rfl rfl rfl rfl nofun

theorem completeBlindTransfer_steps (callId : CallId) :
    CallSteps (Edit p) callId b (b.completeBlindTransfer w callId) := by
  unfold completeBlindTransfer
  split
  · exact .refl
  split
  · exact .refl
  · split
    · exact CallSteps.record (CallSteps.sip w .refl rfl) rfl rfl
    · exact .refl

theorem commitDigits_steps (callId : CallId) :
    CallSteps (Edit p) callId b (b.commitDigits w callId) := by
  unfold commitDigits
  split
  · exact completeBlindTransfer_steps w b callId
  · exact dial_steps w b callId

/-- Digits and deadlines matter to nobody. -/
theorem editDigits_steps (callId : CallId) (digits : BridgeCall → String)
    (digitDeadline : BridgeCall → Option Instant) :
    CallSteps (Edit p) callId b (b.editCall callId fun call =>
      { call with digits := digits call, digitDeadline := digitDeadline call }) :=
  CallSteps.edit .refl (fun _ => keeps_of_eq rfl rfl rfl rfl rfl) fun call => .same call.media

theorem phoneDigit_steps (callId : CallId) (digit : Digit) :
    CallSteps (Edit p) callId b (b.phoneDigit w callId digit) := by
  unfold phoneDigit
  dsimp only
  split
  · exact .refl
  split
  all_goals first
    | exact .refl
    | split
  · exact (editDigits_steps b callId (·.digits) fun _ => none).trans (commitDigits_steps w _ _)
  · exact editDigits_steps b callId _ _
  · exact (editDigits_steps b callId (·.digits) fun _ => none).trans (commitDigits_steps w _ _)
  · exact editDigits_steps b callId _ _
  · exact .refl
  · exact CallSteps.sip w .refl rfl

theorem collectSpeedDial_steps (callId : CallId) (number : String)
    (awaitFurtherDigits : Bool) (deadline : Instant) :
    CallSteps (Edit p) callId b (b.editCall callId fun call =>
      (collectSpeedDial call number awaitFurtherDigits deadline).2) := by
  refine .single (.edit fun call _ => ?_)
  unfold collectSpeedDial
  split
  · exact ⟨keeps_of_eq rfl rfl rfl rfl rfl, .same _⟩
  · dsimp only
    split <;> exact ⟨keeps_of_eq rfl rfl rfl rfl rfl, .same _⟩

/-- The key of a phone goes on with the call that it has begun. -/
theorem phoneSpeedDial_steps (device : DeviceId) (callId : CallId)
    (lineInstance : Nat) (number : String) (awaitFurtherDigits : Bool) : CallSteps (Edit p) callId
      (if b.calls.contains callId then b else b.beginOutbound device callId lineInstance)
      (b.phoneSpeedDial w device callId lineInstance number awaitFurtherDigits) := by
  unfold phoneSpeedDial
  generalize (if b.calls.contains callId then b else b.beginOutbound device callId lineInstance)
    = begun
  dsimp only
  have hcollect := collectSpeedDial_steps (p := p) begun callId number awaitFurtherDigits
    (w.now begun + begun.config.interdigitTimeoutMs)
  split
  · exact .refl
  split
  · exact hcollect.trans (dial_steps w _ callId)
  · exact hcollect.trans (completeBlindTransfer_steps w _ callId)
  · exact hcollect
  · exact hcollect

theorem hold_steps (callId : CallId) : CallSteps (Edit p) callId b (b.hold w callId) := by
  unfold hold
  split
  · exact .refl
  split
  · exact .refl
  dsimp only
  split
  · exact CallSteps.sip w .refl rfl
  refine CallSteps.record (CallSteps.record (CallSteps.edit (CallSteps.sip w .refl rfl)
    (fun _ => ?_) fun call => ?_) rfl rfl) rfl rfl
  · exact keeps_of_eq rfl rfl rfl rfl rfl
  rcases hphone : call.phoneMedia with _ | _ | source | ⟨source, target⟩
  · simpa [BridgeCall.media, hphone] using (.connect call.media false : Edit p call.media _)
  · simpa [BridgeCall.media, hphone] using (.connect call.media false : Edit p call.media _)
  · simpa [BridgeCall.media, hphone] using (.connect call.media false : Edit p call.media _)
  · exact .pause hphone false

theorem resume_steps (callId : CallId) : CallSteps (Edit p) callId b (b.resume w callId) := by
  unfold resume
  split
  · exact .refl
  split
  · exact .refl
  dsimp only
  split
  · exact CallSteps.sip w .refl rfl
  refine CallSteps.activateMedia w (CallSteps.record (CallSteps.edit
    (CallSteps.sip w .refl rfl) (fun _ => ?_) fun call => ?_) rfl rfl)
  · exact keeps_of_eq rfl rfl rfl rfl rfl
  · exact .connect call.media true

theorem transfer_steps (callId : CallId) : CallSteps (Edit p) callId b (b.transfer w callId) := by
  unfold transfer
  split
  · exact .refl
  split
  · exact CallSteps.sip w .refl rfl
  · refine CallSteps.record (CallSteps.record (CallSteps.edit (hold_steps w b callId)
      (fun _ => ?_) fun call => ?_) rfl rfl) rfl rfl
    · exact keeps_of_eq rfl rfl rfl rfl rfl
    · exact .connect call.media false

theorem redial_steps (callId : CallId) : CallSteps (Edit p) callId b (b.redial w callId) := by
  unfold redial
  split
  · exact .refl
  split
  · exact .refl
  · next number _ =>
    exact (editDigits_steps b callId (fun _ => number) (·.digitDeadline)).trans
      (dial_steps w _ callId)

theorem conference_steps (callId : CallId) :
    CallSteps (Edit p) callId b (b.conference w callId) := by
  unfold conference
  split
  · exact CallSteps.sip w .refl rfl
  · exact .refl

theorem softKey_steps (callId : CallId) (key : SoftKey) :
    CallSteps (Edit p) callId b (b.softKey w callId key) := by
  cases key with
  | dial => exact commitDigits_steps w b callId
  | backspace => exact editDigits_steps b callId _ (·.digitDeadline)
  | endCall => exact CallSteps.endCall w .refl
  | answer => exact requestAnswer_steps w b callId
  | hold => exact hold_steps w b callId
  | resume => exact resume_steps w b callId
  | transfer => exact transfer_steps w b callId
  | conference => exact conference_steps w b callId
  | redial => exact redial_steps w b callId
  | other => exact .refl

variable {b}

/-! ## Events of the SIP side -/

theorem applySipMediaState_steps (b : Coordinator) (callId : CallId) (state : SipMediaState) :
    CallSteps (Edit p) callId b (b.applySipMediaState w callId state) := by
  unfold applySipMediaState
  split
  · exact activateMedia_steps w b callId
  · exact activateMedia_steps w b callId
  · exact CallSteps.failCall w .refl _
  · exact .refl
  · exact .refl

/-- Any change of the media of a call. -/
def Any : CallMedia → CallMedia → Prop := fun _ _ => True

theorem CallSteps.any (h : CallSteps E callId b b') : CallSteps Any callId b b' :=
  CallSteps.mono (fun _ _ _ => trivial) h

theorem CallSteps.editAny (h : CallSteps Any callId b b') (hkeeps : ∀ call, Keeps call (f call)) :
    CallSteps Any callId b (b'.editCall callId f) :=
  CallSteps.edit h hkeeps fun _ => trivial

/-- The events of a SIP call reach the call that the index has for it. -/
theorem sipCallState_steps {state : DialogState} (hlive : state ≠ .disconnected)
    (hindex : b.sccpBySip.get? sipCall = some callId) :
    CallSteps (Edit b.mediaPolicy) callId b (b.sipCallState w sipCall state) := by
  unfold sipCallState
  rw [hindex]
  dsimp only
  split
  · exact .refl
  split
  · exact CallSteps.record .refl rfl rfl
  · exact CallSteps.record .refl rfl rfl
  · have hconnected : CallSteps (Edit b.mediaPolicy) callId b (b.editCall callId fun call =>
        { call with state := .connected }) :=
      CallSteps.edit .refl (fun _ => keeps_of_eq rfl rfl rfl rfl rfl)
        fun call => .connect call.media true
    exact CallSteps.activateMedia w (CallSteps.reconcile w
      (CallSteps.record (CallSteps.record hconnected rfl rfl) rfl rfl) rfl)
  · exact absurd rfl hlive
  all_goals exact .refl

theorem sipMediaState_steps (state : SipMediaState) (remote : Option RemoteMedia)
    (hindex : b.sccpBySip.get? sipCall = some callId) :
    CallSteps Any callId b (b.sipMediaState w sipCall state remote) := by
  have happly : ∀ b', CallSteps Any callId b b' →
      CallSteps Any callId b (b'.applySipMediaState w callId state) := fun b' h =>
    h.trans (CallSteps.any (applySipMediaState_steps (p := b.mediaPolicy) w b' callId state))
  unfold sipMediaState
  rw [hindex]
  dsimp only
  split
  · exact happly b .refl
  next remote =>
  split
  · exact CallSteps.failCall w .refl _
  next call hcall =>
  split
  · exact CallSteps.failCall w .refl _
  split
  · -- the call that was looked up takes the place of the call it was
    have hreopen : CallSteps Any callId b (b.editCall callId fun _ =>
        { call with
          remoteMedia := some remote, codec := remote.codec
          phoneMedia := .opening }) :=
      CallSteps.editOf .refl hcall (keeps_of_eq rfl rfl rfl rfl rfl) trivial
    split
    · exact CallSteps.failCall w hreopen _
    · exact CallSteps.record (CallSteps.record hreopen rfl rfl) rfl rfl
  · refine happly _ ?_
    have hremote : CallSteps Any callId b (b.editCall callId fun call =>
        { call with remoteMedia := some remote }) :=
      CallSteps.editAny .refl fun _ => keeps_of_eq rfl rfl rfl rfl rfl
    have hroute := hremote.trans (CallSteps.any (reconcileMediaRoute_steps w _ callId))
    split
    · exact hroute.trans (CallSteps.any (refreshRunningMedia_steps (p := b.mediaPolicy) w _ callId))
    · exact hroute

theorem mediaReofferCompleted_steps (accepted : Bool)
    (hindex : b.sccpBySip.get? sipCall = some callId) :
    CallSteps Any callId b (b.mediaReofferCompleted w sipCall accepted) := by
  have hrestart : ∀ b', CallSteps Any callId b b' →
      CallSteps Any callId b (b'.restartPhoneMedia w callId) := fun b' h =>
    h.trans (CallSteps.any (restartPhoneMedia_steps (p := b.mediaPolicy) w b' callId))
  have hedited : ∀ route, route ≠ .unallocated → CallSteps Any callId b (b.editCall callId
      fun call => { call with mediaRoute := route }) := fun route hroute =>
    CallSteps.editAny .refl fun _ => keeps_of_route rfl rfl rfl rfl hroute
  unfold mediaReofferCompleted
  rw [hindex]
  dsimp only
  split
  · exact .refl
  split
  · split
    · exact hrestart _ (hedited .direct nofun)
    · refine Relation.ReflTransGen.trans ?_
        (CallSteps.any (activateMedia_steps (p := b.mediaPolicy) w _ callId))
      exact CallSteps.sip w (hedited (.relay _) nofun) rfl
  · split
    · exact hrestart _ (hedited (.relay _) nofun)
    · exact CallSteps.failCall w (hedited .direct nofun) _
  all_goals exact .refl

end Coordinator

end Sccp.Gateway
