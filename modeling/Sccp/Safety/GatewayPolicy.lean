/-
  Sccp.Safety.GatewayPolicy

  Direct media and the policy of the SIP bridge.

  The policy is asked when a route is chosen.  Media that goes to the peer itself is allowed as
  long as a call on a direct route is given no address that the policy forbids, but where the
  policy is asked again, and as long as an accepted change of the route is still allowed.
-/

import Sccp.Safety.GatewayMedia

namespace Sccp.Gateway

open Sccp

namespace CallMedia

/-- `Allowed`, to be evaluated. -/
def allowed (policy : MediaPolicy) (m : CallMedia) : Bool :=
  match m.phone.source, m.remote with
  | some phone, some remote =>
    match phone.address with
    | .v4 address => policy.select address remote.endpoint.ip (remote.codec = m.codec) = .direct
    | .v6 _ => false
  | _, _ => true

theorem allowed_iff {policy : MediaPolicy} {m : CallMedia} :
    m.allowed policy = true ↔ m.Allowed policy := by
  unfold allowed Allowed
  rcases m.phone.source with _ | phone
  · simp
  · rcases m.remote with _ | remote
    · simp
    · rcases haddress : phone.address with address | address <;> simp [haddress]

/-- The route of a connected call is chosen again if the policy wants another one. -/
def asksAgain (m : CallMedia) : Bool :=
  m.connected && m.attached && m.phone.source.any fun phone =>
    match phone.address with
    | .v4 _ => true
    | .v6 _ => false

/-- A direct route is one that the policy allows. -/
def Cleared (policy : MediaPolicy) (m : CallMedia) : Prop := m.route = .direct → m.Allowed policy

/-- A direct route is allowed, or is about to be looked at again. -/
def Pending (policy : MediaPolicy) (m : CallMedia) : Prop :=
  m.route = .direct → m.Allowed policy ∨ m.asksAgain = true

variable {policy : MediaPolicy} {m m' : CallMedia}

/-- What the policy looks at is unchanged. -/
theorem Allowed.congr (h : m.Allowed policy) (hphone : m'.phone.source = m.phone.source)
    (hremote : m'.remote = m.remote) (hcodec : m'.codec = m.codec) : m'.Allowed policy := by
  intro phone remote hphone' hremote'
  rw [hphone] at hphone'
  rw [hremote] at hremote'
  rw [hcodec]
  exact h phone remote hphone' hremote'

/-- A phone whose address is not known yet is allowed everything. -/
theorem Allowed.of_silent (hsilent : m.phone.source = none) : m.Allowed policy := by
  intro phone remote hphone
  rw [hsilent] at hphone
  cases hphone

theorem Cleared.edit (h : m.Cleared policy) (hedit : Edit policy m m') : m'.Cleared policy := by
  intro hdirect
  cases hedit with
  | same => exact h hdirect
  | connect connected => exact (h hdirect).congr rfl rfl rfl
  | attach => exact (h hdirect).congr rfl rfl rfl
  | ring _ => exact (h hdirect).congr rfl rfl rfl
  | request _ => exact (h hdirect).congr rfl rfl rfl
  | answer _ => exact (h hdirect).congr rfl rfl rfl
  | pause hphone connected =>
    refine (h hdirect).congr ?_ rfl rfl
    rw [hphone]
    rfl
  | «open» relay => cases hdirect
  | reopen remote => exact .of_silent rfl
  | refresh _ _ _ _ => cases hdirect
  | reroute hreroute =>
    cases hreroute with
    | stay => exact h hdirect
    | initialDirect _ _ _ hallowed => exact hallowed.congr rfl rfl rfl
    | toDirect _ _ => cases hdirect
    | toRelay _ _ => cases hdirect
  | begin hbegin =>
    cases hbegin with
    | direct _ hphone hremote hroute =>
      refine (h hroute).congr ?_ rfl rfl
      rw [hphone]
      rfl
    | relay _ _ _ _ _ _ _ => cases hdirect

theorem cleared_stable (policy : MediaPolicy) : Coordinator.Stable policy (Cleared policy) where
  fresh := fun _ hfresh hdirect => absurd hdirect hfresh.route
  edit := fun _ _ h hedit => h.edit hedit

theorem Pending.reroute (h : m.Pending policy) (hreroute : Reroute policy m m') :
    m'.Pending policy := by
  intro hdirect
  cases hreroute with
  | stay => exact h hdirect
  | initialDirect _ _ _ hallowed => exact .inl (hallowed.congr rfl rfl rfl)
  | toDirect _ _ => cases hdirect
  | toRelay _ _ => cases hdirect

end CallMedia

namespace Coordinator

open CallMedia

variable {callId : CallId} {b : Coordinator} (w : World)

/-- A connected call on a direct route that is left alone is where the policy wants it. -/
theorem desired_of_none {direction : CallDirection} {progress : InboundProgress}
    {desired : MediaMode}
    (h : selectMediaRouteAction direction progress true desired .direct = .none) :
    desired = .direct := by
  unfold selectMediaRouteAction at h
  rw [if_neg (by simp), if_neg (by simp)] at h
  rcases desired with _ | _
  · rfl
  · cases h

theorem kind_of_reofferDirect {direction : CallDirection} {progress : InboundProgress}
    {connected : Bool} {desired : MediaMode} {current : MediaRouteKind}
    (h : selectMediaRouteAction direction progress connected desired current = .reofferDirect) :
    current = .relay := by
  unfold selectMediaRouteAction at h
  split at h
  · cases h
  split at h
  · cases h
  · split at h
    · rfl
    · cases h
    · cases h

/-- Where the policy is asked again, it has allowed what is direct afterwards. -/
theorem reconcileMediaRoute_settles (b : Coordinator) (callId : CallId) :
    (b.reconcileMediaRoute w callId).At
      (fun m => m.asksAgain = true → m.Cleared b.mediaPolicy) callId := by
  unfold reconcileMediaRoute
  split
  · next hnone => exact fun call hcall => by rw [hnone] at hcall; cases hcall
  next call hcall =>
  -- a call whose route is no direct one has nothing to settle
  have hother : ∀ {b' : Coordinator} (route : MediaRouteState), route ≠ .direct →
      (∀ call', b'.calls.get? callId = some call' → call'.mediaRoute = route) →
      b'.At (fun m => m.asksAgain = true → m.Cleared b.mediaPolicy) callId := by
    intro b' route hroute hcalls call' hcall' _ hdirect
    exact absurd ((hcalls call' hcall').symm.trans hdirect) hroute
  have hedited : ∀ {b' : Coordinator} {route : MediaRouteState}, ∀ call',
      (b'.editCall callId fun call => { call with mediaRoute := route }).calls.get? callId
        = some call' → call'.mediaRoute = route := by
    intro b' route call' hcall'
    obtain ⟨old, -, rfl⟩ := get?_editCall.mp hcall'
    rw [if_pos rfl]
  have hgone : ∀ {b' b'' : Coordinator}, Ended callId b' b'' →
      b''.At (fun m => m.asksAgain = true → m.Cleared b.mediaPolicy) callId := by
    intro b' b'' hended call' hcall'
    rw [hended.gone] at hcall'
    cases hcall'
  split
  · next phone remote sipCall hphone hremote hsip =>
    split
    · next address haddress =>
      intro call' hcall' hasks
      obtain rfl := Option.mem_unique hcall' hcall
      have hknown : call'.media.phone.source = some phone := hphone
      simp [asksAgain, hknown, haddress] at hasks
    next address haddress =>
    dsimp only
    split
    · next haction =>
      obtain ⟨-, -, hdesired, hcurrent⟩ := select_initialDirect haction
      split
      · intro call' hcall' _ _
        obtain ⟨old, hold, rfl⟩ := get?_editCall.mp hcall'
        obtain rfl := Option.mem_unique hold hcall
        rw [if_pos rfl]
        exact (allowed_of_select (m := old.media) hphone hremote haddress
          hdesired).congr rfl rfl rfl
      · refine hother call.mediaRoute (fun hdirect => ?_) fun call' hcall' =>
          congrArg BridgeCall.mediaRoute (Option.mem_unique hcall' hcall)
        rw [hdirect] at hcurrent
        cases hcurrent
    · next haction =>
      split
      · split
        · exact hother _ (by exact nofun) hedited
        · exact hother _ (by exact nofun) hedited
      refine hother call.mediaRoute (fun hdirect => ?_) fun call' hcall' =>
        congrArg BridgeCall.mediaRoute (Option.mem_unique hcall' hcall)
      have hcurrent := kind_of_reofferDirect haction
      rw [hdirect] at hcurrent
      cases hcurrent
    · split
      · exact hgone (failCall_ended w b callId _)
      · split
        · exact hother _ (by exact nofun) hedited
        · exact hgone (failCall_ended w _ callId _)
    · next haction =>
      intro call' hcall' hasks hdirect
      obtain rfl := Option.mem_unique hcall' hcall
      have hconnected : decide (call'.state = .connected) = true := by
        unfold asksAgain at hasks
        simp only [Bool.and_eq_true] at hasks
        exact hasks.1.1
      have hroute : call'.mediaRoute = .direct := hdirect
      rw [hconnected, hroute] at haction
      exact allowed_of_select hphone hremote haddress (desired_of_none haction)
  · next hunknown =>
    intro call' hcall' hasks _ phone remote hphone hremote
    obtain rfl := Option.mem_unique hcall' hcall
    have hattached : call'.sipCall.isSome = true := by
      unfold asksAgain at hasks
      simp only [Bool.and_eq_true] at hasks
      exact hasks.1.2
    obtain ⟨sipCall, hsip⟩ := Option.isSome_iff_exists.mp hattached
    exact (hunknown phone remote sipCall hphone hremote hsip).elim

/-! ## Addresses that the policy allows -/

/-- The address that `phone_media_ready` takes for the phone. -/
def receiveAddress (b : Coordinator) (call : BridgeCall) (endpoint : MediaEndpoint) :
    Option IpAddr :=
  if endpoint.address.isUnspecified then (b.phoneAddress call.device).map IpAddr.v4
  else some endpoint.address

/-- What an event may bring to a call whose route is direct or becomes direct. -/
def keepsToPolicy (b : Coordinator) : Event → Bool
  | .sccp (.device device generation (.receiveChannelOpened callId true endpoint)) =>
    decide ((b.registrations.get? device).map (·.generation) ≠ some generation)
      || (b.calls.get? callId).all fun call =>
        (b.receiveAddress call endpoint).all fun address =>
          let m := { call.media with phone := .ready { endpoint with address } }
          decide (m.route ≠ .direct) || m.allowed b.mediaPolicy
            || (decide (m.direction ≠ .outbound) && m.asksAgain)
  | .sip (.mediaState sipCall _ (some remote)) =>
    ((b.sccpBySip.get? sipCall).bind b.calls.get?).all fun call =>
      let m := { call.media with remote := some remote }
      decide (m.route ≠ .direct) || decide (m.codec ≠ remote.codec) || m.allowed b.mediaPolicy
        || m.asksAgain
  | .sip (.mediaReofferCompleted sipCall true) =>
    ((b.sccpBySip.get? sipCall).bind b.calls.get?).all fun call =>
      match call.mediaRoute with
      | .switchingToDirect _ => call.media.allowed b.mediaPolicy
      | _ => true
  | _ => true

/-- A call apart, on a direct route or not, that is settled by asking the policy. -/
theorem reconcile_cleared {policy : MediaPolicy}
    (h : b.FineBut (Cleared policy) callId (CallMedia.Pending policy))
      (hpolicy : b.mediaPolicy = policy) :
    (b.reconcileMediaRoute w callId).Fine (Cleared policy) := by
  subst hpolicy
  have hpending := h.reconcile w fun m m' => CallMedia.Pending.reroute
  refine hpending.fine fun call hcall hdirect => ?_
  rcases hpending.mine call hcall hdirect with hallowed | hasks
  · exact hallowed
  · exact reconcileMediaRoute_settles w b callId call hcall hasks hdirect

theorem phoneMediaReady_cleared (h : b.Fine (Cleared b.mediaPolicy)) (endpoint : MediaEndpoint)
    (hkeeps : ∀ call address, b.calls.get? callId = some call →
      b.receiveAddress call endpoint = some address → call.mediaRoute = .direct →
      CallMedia.Allowed b.mediaPolicy { call.media with phone := .ready { endpoint with address } }
        ∨ call.direction ≠ .outbound
          ∧ CallMedia.asksAgain { call.media with phone := .ready { endpoint with address } }
              = true) :
    (b.phoneMediaReady w callId endpoint).Fine (Cleared b.mediaPolicy) := by
  unfold phoneMediaReady
  split
  · exact h
  next call hcall =>
  dsimp only
  split
  · exact h.tweaks (cleared_stable _) (Tweaks.failCall w .refl _)
  next address haddress =>
  have hready : (b.editCall callId fun call => { call with
      phoneMedia := .ready { endpoint with address } }).FineBut (Cleared b.mediaPolicy)
        callId (CallMedia.Pending b.mediaPolicy) := by
    refine h.but.edit fun call' hcall' _ hdirect => ?_
    obtain rfl := Option.mem_unique hcall' hcall
    exact (hkeeps call' address hcall' haddress hdirect).imp id (·.2)
  split
  · next houtbound =>
    have hout : (b.editCall callId fun call => { call with
        phoneMedia := .ready { endpoint with address } }).FineBut (Cleared b.mediaPolicy)
          callId (Cleared b.mediaPolicy) := by
      refine h.but.edit fun call' hcall' _ hdirect => ?_
      obtain rfl := Option.mem_unique hcall' hcall
      rcases hkeeps call' address hcall' haddress hdirect with hallowed | ⟨hnot, -⟩
      · exact hallowed
      · exact absurd houtbound hnot
    exact hout.done.tweaks (cleared_stable b.mediaPolicy)
      ((makeOutboundAfterPhoneMedia_tweaks w _ callId).trans
        (activateMedia_steps w _ callId).tweaks)
  · have hsettled := reconcile_cleared w hready rfl
    exact hsettled.steps (cleared_stable b.mediaPolicy)
      (CallSteps.activateMedia w (ringOrAnswer_steps w _ callId))

theorem sipMediaState_cleared (h : b.Fine (Cleared b.mediaPolicy)) (sipCall : SipCallId)
    (state : SipMediaState) (remote : RemoteMedia)
    (hkeeps : ∀ callId call, b.sccpBySip.get? sipCall = some callId →
      b.calls.get? callId = some call → call.mediaRoute = .direct → call.codec = remote.codec →
      CallMedia.Allowed b.mediaPolicy { call.media with remote := some remote }
        ∨ CallMedia.asksAgain { call.media with remote := some remote } = true) :
    (b.sipMediaState w sipCall state (some remote)).Fine (Cleared b.mediaPolicy) := by
  have hstable := cleared_stable b.mediaPolicy
  unfold sipMediaState
  split
  · exact h
  next callId hindex =>
  dsimp only
  split
  · exact h.tweaks hstable (Tweaks.failCall w .refl _)
  next call hcall =>
  split
  · exact h.tweaks hstable (Tweaks.failCall w .refl _)
  split
  · have hreopen : Tweaks (Edit b.mediaPolicy) callId b (b.editCall callId fun _ =>
        { call with
          remoteMedia := some remote, codec := remote.codec, phoneMedia :=
            .opening }) := by
      refine .single (.edit fun call' hcall' => ?_)
      obtain rfl := Option.mem_unique hcall' hcall
      exact .reopen call'.media remote
    split
    · exact h.tweaks hstable (Tweaks.failCall w hreopen _)
    · exact h.tweaks hstable (Tweaks.record (Tweaks.record hreopen rfl) rfl)
  · next hcodec =>
    have hpending : (b.editCall callId fun call =>
        { call with remoteMedia := some remote }).FineBut (Cleared b.mediaPolicy) callId
          (CallMedia.Pending b.mediaPolicy) := by
      refine h.but.edit fun call' hcall' _ hdirect => ?_
      obtain rfl := Option.mem_unique hcall' hcall
      exact hkeeps callId call' hindex hcall' hdirect (Decidable.not_not.mp hcodec)
    have hsettled := reconcile_cleared w hpending rfl
    have hrefreshed : ∀ b' : Coordinator, b'.Fine (Cleared b.mediaPolicy) →
        (b'.applySipMediaState w callId state).Fine (Cleared b.mediaPolicy) :=
      fun b' hfine => hfine.steps hstable (applySipMediaState_steps w b' callId state)
    refine hrefreshed _ ?_
    split
    · exact hsettled.steps hstable (refreshRunningMedia_steps w _ callId)
    · exact hsettled

theorem mediaReofferCompleted_cleared (h : b.Fine (Cleared b.mediaPolicy)) (sipCall : SipCallId)
    (accepted : Bool)
    (hkeeps : ∀ callId call path, accepted = true → b.sccpBySip.get? sipCall = some callId →
      b.calls.get? callId = some call → call.mediaRoute = .switchingToDirect path →
      call.media.Allowed b.mediaPolicy) :
    (b.mediaReofferCompleted w sipCall accepted).Fine (Cleared b.mediaPolicy) := by
  have hstable := cleared_stable b.mediaPolicy
  unfold mediaReofferCompleted
  split
  · exact h
  next callId hindex =>
  split
  · exact h
  next call hcall =>
  have hrelay : ∀ path, (b.editCall callId fun call =>
      { call with mediaRoute := .relay path }).Fine (Cleared b.mediaPolicy) := fun path =>
    FineBut.done (h.but.edit fun _ _ _ hdirect => by cases hdirect)
  split
  · next path hroute =>
    split
    · next haccepted =>
      have hdirect : (b.editCall callId fun call =>
          { call with mediaRoute := .direct }).FineBut (Cleared b.mediaPolicy) callId
            (Cleared b.mediaPolicy) := by
        refine h.but.edit fun call' hcall' _ _ => ?_
        obtain rfl := Option.mem_unique hcall' hcall
        exact (hkeeps callId call' path haccepted hindex hcall' hroute).congr rfl rfl rfl
      exact hdirect.done.steps hstable (restartPhoneMedia_steps w _ callId)
    · exact ((hrelay path).sip w).steps hstable (activateMedia_steps w _ callId)
  · next relay hroute =>
    split
    · exact (hrelay _).steps hstable (restartPhoneMedia_steps w _ callId)
    have hended := editCall_failCall_ended w b callId
      (fun call => { call with mediaRoute := .direct })
      "SIP peer rejected the safe media route"
    exact h.tweaks hstable (.single hended.tweak)
  all_goals exact h

/-- Media that is started to the peer itself, past any relay, is allowed by the policy for the
    phone and the peer as they are then. -/
def DirectStartsAllowed (b : Coordinator) : Prop :=
  ∀ device callId target call, .startMedia device callId target call ∈ b.trace →
    ∃ call' source remote, call = some call' ∧ call'.phoneMedia = .started source target
      ∧ call'.remoteMedia = some remote
      ∧ (target.address = .v4 remote.endpoint.ip → target.rtpPort = remote.endpoint.port →
          (∀ path : RelayPath, call'.mediaRoute = .relay path →
            target ≠ relayTarget path.addresses target.codec) →
          ∃ address, source.address = .v4 address
            ∧ b.mediaPolicy.select address remote.endpoint.ip (remote.codec = call'.codec)
                = .direct)

theorem Fine.directStartsAllowed (h : b.Fine (Cleared b.mediaPolicy)) : b.DirectStartsAllowed := by
  intro device c target call he
  obtain ⟨call', hsome, hcleared, ⟨m, hbegin⟩, source, hstarted⟩ := h.starts device c target call he
  have hphone : call'.media.phone = .started source target := hstarted
  have hsource : call'.media.phone.source = some source := by rw [hphone]; rfl
  have hroute : ∃ remote, call'.remoteMedia = some remote
      ∧ (call'.mediaRoute = .direct ∨ ∃ path : RelayPath, call'.mediaRoute = .relay path
          ∧ target = relayTarget path.addresses target.codec) := by
    generalize hmedia : call'.media = media at hbegin hphone
    cases hbegin with
    | direct _ _ hremote hroute =>
      refine ⟨_, (congrArg CallMedia.remote hmedia).trans hremote, .inl ?_⟩
      exact (congrArg CallMedia.route hmedia).trans hroute
    | relay _ _ hremote _ _ _ _ =>
      refine ⟨_, (congrArg CallMedia.remote hmedia).trans hremote, .inr ⟨.running _,
        congrArg CallMedia.route hmedia, ?_⟩⟩
      obtain ⟨-, rfl⟩ := PhoneMediaState.started.inj hphone
      rfl
  obtain ⟨remote, hremote, hdirect | ⟨path, hpath, htarget⟩⟩ := hroute
  · exact ⟨call', source, remote, hsome, hstarted, hremote, fun _ _ _ =>
      hcleared hdirect source remote hsource hremote⟩
  · exact ⟨call', source, remote, hsome, hstarted, hremote, fun _ _ hnot =>
      absurd htarget (hnot path hpath)⟩

theorem handle_cleared (h : b.Fine (Cleared b.mediaPolicy)) {event : Event}
    (hkeeps : b.keepsToPolicy event = true) : (b.handle w event).Fine (Cleared b.mediaPolicy) := by
  refine h.handle w (cleared_stable _) event ?_ ?_ ?_
  · rintro device generation callId endpoint rfl hcurrent
    refine phoneMediaReady_cleared w h endpoint fun call address hcall haddress hdirect => ?_
    simp only [keepsToPolicy, hcurrent, hcall, haddress, Option.all_some, ne_eq,
      not_true_eq_false, decide_false, Bool.false_or, Bool.or_eq_true, Bool.and_eq_true,
      decide_eq_true_eq, allowed_iff] at hkeeps
    rcases hkeeps with (hnot | hallowed) | hasks
    · exact absurd hdirect hnot
    · exact .inl hallowed
    · exact .inr hasks
  · rintro sipCall state remote rfl
    refine sipMediaState_cleared w h sipCall state remote fun callId call hindex hcall hdirect
      hcodec => ?_
    simp only [keepsToPolicy, hindex, hcall, Option.bind_some, Option.all_some, ne_eq,
      Bool.or_eq_true, decide_eq_true_eq, allowed_iff] at hkeeps
    rcases hkeeps with ((hnot | hnot) | hallowed) | hasks
    · exact absurd hdirect hnot
    · exact absurd hcodec hnot
    · exact .inl hallowed
    · exact .inr hasks
  · rintro sipCall accepted rfl
    refine mediaReofferCompleted_cleared w h sipCall accepted fun callId call path haccepted hindex
      hcall hroute => ?_
    subst haccepted
    simpa [keepsToPolicy, hindex, hcall, hroute, allowed_iff] using hkeeps

/-- Media goes to the peer itself only where the policy allows it, in every run whose events keep
    to the policy. -/
theorem direct_starts_allowed (config : AppConfig) (mediaPolicy : MediaPolicy)
    {events : List Event} (hkeeps : Runs.Each (handle w) (fun b event =>
      b.keepsToPolicy event = true) (new config mediaPolicy) events) :
    Runs.Always (handle w) DirectStartsAllowed (new config mediaPolicy) events := by
  refine Runs.always_of_each (I := fun b => b.mediaPolicy = mediaPolicy
    ∧ b.Fine (Cleared b.mediaPolicy)) (fun _ h => h.2.directStartsAllowed)
    (fun b event h hevent => ?_) ⟨rfl, new_fine config mediaPolicy⟩ hkeeps
  have hpolicy := handle_policy w b event
  refine ⟨hpolicy.trans h.1, ?_⟩
  rw [hpolicy]
  exact handle_cleared w h.2 hevent

/-- The peer takes the direct route that it is offered in the branch. -/
def acceptedDirect : List Event :=
  connectedThroughTrunk ++ [.sip (.mediaState ⟨1⟩ .active (some remoteBranch)),
      .sip (.mediaReofferCompleted ⟨1⟩ true)]

theorem acceptedDirect_starts_allowed : Runs.Always (handle (oneSlotWorld fun _ => false))
    DirectStartsAllowed (new deskConfig branchPolicy) acceptedDirect :=
  direct_starts_allowed _ deskConfig branchPolicy (by decide)

/-- The peer takes the direct route, but is back at the trunk when it says so. -/
def movedDuringChange : List Event :=
  connectedThroughTrunk ++ [.sip (.mediaState ⟨1⟩ .active (some remoteBranch)),
      .sip (.mediaState ⟨1⟩ .active (some remoteTrunk)), .sip (.mediaReofferCompleted ⟨1⟩ true)]

/-- What a start says of the media of its call. -/
structure StartedMedia where
  target : MediaEndpoint
  phone : PhoneMediaState
  remote : Option RemoteMedia
  route : MediaRouteState
  codec : Codec
  deriving DecidableEq

def startedMedia : Effect → Option StartedMedia
  | .startMedia _ _ target (some call) =>
    some ⟨target, call.phoneMedia, call.remoteMedia, call.mediaRoute, call.codec⟩
  | _ => none

/-- The phone sends to the trunk itself, which the policy forbids. -/
theorem forbidden_direct_start : ¬ Runs.Always (handle (oneSlotWorld fun _ => false))
    DirectStartsAllowed (new deskConfig branchPolicy) movedDuringChange := by
  intro halways
  generalize hb : Runs.run (handle (oneSlotWorld fun _ => false)) (new deskConfig branchPolicy)
    movedDuringChange = b
  have hallowed : b.DirectStartsAllowed := by
    rw [← hb]
    exact (List.append_nil movedDuringChange ▸ halways).split.2
  have hpolicy : b.mediaPolicy = branchPolicy := by rw [← hb]; rfl
  have hlast : b.trace.getLast?.map startedMedia
      = some (some ⟨directTarget remoteTrunk, .started deskEndpoint (directTarget remoteTrunk),
          some remoteTrunk, .direct, Codec.pcmu⟩) := by
    rw [← hb]
    decide
  obtain ⟨effect, hmem, heffect⟩ := Option.map_eq_some_iff.mp hlast
  unfold startedMedia at heffect
  split at heffect
  · next device callId target call =>
    obtain ⟨rfl, hphone, hknown, hroute, hcodec⟩ := StartedMedia.mk.inj (Option.some.inj heffect)
    obtain ⟨call', source, remote, hsome, hstarted, hremote, hselect⟩ :=
      hallowed device callId _ _ (List.mem_of_getLast? hmem)
    obtain rfl := Option.some.inj hsome
    rw [hremote] at hknown
    obtain rfl := Option.some.inj hknown
    obtain ⟨rfl, -⟩ := PhoneMediaState.started.inj (hstarted.symm.trans hphone)
    obtain ⟨address, haddress, hdirect⟩ := hselect rfl rfl fun path hpath => by
      rw [hroute] at hpath
      cases hpath
    obtain rfl := IpAddr.v4.inj haddress
    rw [hpolicy, hcodec] at hdirect
    exact absurd hdirect (by decide)
  · cases heffect

end Coordinator

end Sccp.Gateway
