/-
  Sccp.Safety.GatewayMedia

  Where the media of a call of the SIP bridge goes.

  The relay and the phone follow the endpoints of a call, but for a relay that was kept for a
  change of the route that the peer rejects.  And media goes past the relay only where the policy
  allows it, so long as the policy allows the addresses that a call on a direct route is given.
-/

import Sccp.Safety.GatewayCalls

namespace Sccp.Gateway

open Sccp

namespace CallMedia

/-! ## Media that follows the endpoints -/

/-- The media that runs goes to where the two sides are now. -/
def InSync (m : CallMedia) : Prop :=
  ∀ source target, m.phone = .started source target → match m.route with
    | .relay (.running relay) =>
      (∃ address, source.address = .v4 address ∧ relay.phone = ⟨address, source.rtpPort⟩)
        ∧ (∃ remote, m.remote = some remote ∧ relay.sip = remote.endpoint)
        ∧ target.address = .v4 relay.addresses.phoneFacingRtp.ip
        ∧ target.rtpPort = relay.addresses.phoneFacingRtp.port
    | .direct =>
      ∃ remote, m.remote = some remote ∧ target.address = .v4 remote.endpoint.ip
        ∧ target.rtpPort = remote.endpoint.port
    | _ => True

/-- The relay sends to the phone, and the phone to the relay. -/
structure Joined (source target : MediaEndpoint) (relay : RtpRelay) : Prop where
  phone : ∃ address, source.address = .v4 address ∧ relay.phone = ⟨address, source.rtpPort⟩
  address : target.address = .v4 relay.addresses.phoneFacingRtp.ip
  port : target.rtpPort = relay.addresses.phoneFacingRtp.port

/-- What holds of a call while the peer's endpoint may have changed. -/
structure Drifted (m : CallMedia) : Prop where
  attached : m.direction = .inbound → m.attached = true
  progress : m.direction = .inbound → m.phone.source.isSome = true →
    m.progress ≠ .waitingForPhone ∧ m.progress ≠ .answerRequested
  remote : ∀ source target, m.phone = .started source target → m.remote.isSome = true
  joined : ∀ source target relay, m.phone = .started source target →
    m.route = .relay (.running relay) ∨ m.route = .switchingToDirect (.running relay) →
      Joined source target relay

/-- The relay, or the phone on a direct route, sends to the peer's endpoint. -/
def Current (m : CallMedia) : Prop :=
  ∀ source target remote, m.phone = .started source target → m.remote = some remote →
    (∀ relay, m.route = .relay (.running relay) → relay.sip = remote.endpoint)
      ∧ (m.route = .direct → target.address = .v4 remote.endpoint.ip
          ∧ target.rtpPort = remote.endpoint.port)

/-- What holds of every call between two events. -/
structure Tracked (m : CallMedia) : Prop extends Drifted m where
  current : Current m

theorem Tracked.inSync {m : CallMedia} (h : m.Tracked) : m.InSync := by
  intro source target hstarted
  obtain ⟨remote, hremote⟩ := Option.isSome_iff_exists.mp (h.remote source target hstarted)
  obtain ⟨hrelay, hdirect⟩ := h.current source target remote hstarted hremote
  split
  · next relay hroute =>
    have hjoined := h.joined source target relay hstarted (.inl hroute)
    exact ⟨hjoined.phone, ⟨remote, hremote, hrelay relay hroute⟩, hjoined.address, hjoined.port⟩
  · next hroute => exact ⟨remote, hremote, hdirect hroute⟩
  · trivial

/-- Media that does not run has nothing to follow. -/
theorem Drifted.tracked {m : CallMedia} (h : m.Drifted) (hidle : m.phone.isStarted = false) :
    m.Tracked where
  toDrifted := h
  current := fun source target remote hstarted => by
    rw [hstarted] at hidle
    cases hidle

theorem not_started {m : CallMedia} (hidle : m.phone.isStarted = false) {source target}
    (hstarted : m.phone = .started source target) : False := by
  rw [hstarted] at hidle
  cases hidle

/-- The source of media that runs is known. -/
theorem source_isSome {m : CallMedia} {source target : MediaEndpoint}
    (hstarted : m.phone = .started source target) : m.phone.source.isSome = true := by
  rw [hstarted]
  rfl

variable {policy : MediaPolicy} {m m' : CallMedia}

theorem Drifted.reroute (h : m.Drifted) (hreroute : Reroute policy m m') : m'.Drifted := by
  cases hreroute with
  | stay => exact h
  | initialDirect hdirection hprogress hroute hallowed =>
    exact ⟨h.attached, h.progress, h.remote, fun source target relay _ hroute => by
      rcases hroute with hroute | hroute <;> cases hroute⟩
  | toDirect hroute hremote =>
    refine ⟨h.attached, h.progress, h.remote, fun source target relay hstarted hswitch => ?_⟩
    rcases hswitch with hswitch | hswitch
    · cases hswitch
    · obtain rfl := MediaRouteState.switchingToDirect.inj hswitch
      exact h.joined source target relay hstarted (.inl hroute)
  | toRelay relay hroute =>
    exact ⟨h.attached, h.progress, h.remote, fun source target relay _ hroute => by
      rcases hroute with hroute | hroute <;> cases hroute⟩

/-- A call whose media runs is past the point where its first route is chosen. -/
theorem Drifted.not_initial (h : m.Drifted) (hdirection : m.direction = .inbound)
    (hprogress : m.progress = .waitingForPhone ∨ m.progress = .answerRequested)
    {source target : MediaEndpoint} (hstarted : m.phone = .started source target) : False := by
  obtain ⟨hwaiting, hrequested⟩ := h.progress hdirection (source_isSome hstarted)
  exact hprogress.elim hwaiting hrequested

theorem Current.reroute (h : m.Drifted) (hcurrent : m.Current) (hreroute : Reroute policy m m') :
    m'.Current := by
  intro source target remote hstarted hremote
  cases hreroute with
  | stay => exact hcurrent source target remote hstarted hremote
  | initialDirect hdirection hprogress hroute hallowed =>
    exact (h.not_initial hdirection hprogress hstarted).elim
  | toDirect hroute _ => exact ⟨nofun, nofun⟩
  | toRelay relay hroute => exact ⟨nofun, nofun⟩

/-- Media that begins goes where the two sides are. -/
theorem Tracked.begin (h : m.Tracked) (hbegin : Begin m m') : m'.Tracked := by
  cases hbegin with
  | direct hidle hphone hremote hroute =>
    rename_i phone remote
    refine ⟨⟨h.attached, fun hin _ => h.progress hin ?_, fun _ _ _ => ?_, ?_⟩, ?_⟩
    · rw [hphone]
      rfl
    · dsimp only
      rw [hremote]
      rfl
    · intro source target relay _ hrelay
      dsimp only at hrelay
      rw [hroute] at hrelay
      rcases hrelay with hrelay | hrelay <;> cases hrelay
    intro source target remote' hstarted hremote'
    obtain ⟨rfl, rfl⟩ := PhoneMediaState.started.inj hstarted
    rw [hremote] at hremote'
    obtain rfl := Option.some.inj hremote'
    refine ⟨fun relay hrelay => ?_, fun _ => ⟨rfl, rfl⟩⟩
    rw [hroute] at hrelay
    cases hrelay
  | relay hidle hphone hremote haddress hroute htoPhone htoSip =>
    rename_i phone remote path address running
    refine ⟨⟨h.attached, fun hin _ => h.progress hin ?_, fun _ _ _ => ?_, ?_⟩, ?_⟩
    · rw [hphone]
      rfl
    · dsimp only
      rw [hremote]
      rfl
    · intro source target relay hstarted hrelay
      obtain ⟨rfl, rfl⟩ := PhoneMediaState.started.inj hstarted
      rcases hrelay with hrelay | hrelay
      · obtain rfl := RelayPath.running.inj (MediaRouteState.relay.inj hrelay)
        exact ⟨⟨address, haddress, htoPhone⟩, rfl, rfl⟩
      · cases hrelay
    intro source target remote' hstarted hremote'
    rw [hremote] at hremote'
    obtain rfl := Option.some.inj hremote'
    refine ⟨fun relay hrelay => ?_, nofun⟩
    obtain rfl := RelayPath.running.inj (MediaRouteState.relay.inj hrelay)
    exact htoSip

/-- The relay is told the endpoints of the call. -/
theorem Drifted.refresh (h : m.Drifted) {relay : RtpRelay} {phone : MediaEndpoint}
    {remote : RemoteMedia} {address : Ipv4Addr} (hroute : m.route = .relay (.running relay))
    (hphone : m.phone.source = some phone) (hremote : m.remote = some remote)
    (haddress : phone.address = .v4 address) :
    Tracked { m with
      route := .relay (.running
        (relay.updateEndpoints ⟨address, phone.rtpPort⟩ remote.endpoint)) } := by
  refine ⟨⟨h.attached, h.progress, h.remote, ?_⟩, ?_⟩
  · intro source target relay' hstarted hrelay
    have hjoined := h.joined source target relay hstarted (.inl hroute)
    have hsource : source = phone := by
      dsimp only at hstarted
      rw [hstarted] at hphone
      exact Option.some.inj hphone
    rcases hrelay with hrelay | hrelay
    · obtain rfl := RelayPath.running.inj (MediaRouteState.relay.inj hrelay)
      exact ⟨⟨address, hsource ▸ haddress, hsource ▸ rfl⟩, hjoined.address, hjoined.port⟩
    · cases hrelay
  · intro source target remote' hstarted hremote'
    dsimp only at hremote'
    rw [hremote] at hremote'
    obtain rfl := Option.some.inj hremote'
    refine ⟨fun relay' hrelay => ?_, nofun⟩
    obtain rfl := RelayPath.running.inj (MediaRouteState.relay.inj hrelay)
    rfl

theorem Tracked.edit (h : m.Tracked) (hedit : Edit policy m m') : m'.Tracked := by
  cases hedit with
  | same => exact h
  | connect connected => exact ⟨⟨h.attached, h.progress, h.remote, h.joined⟩, h.current⟩
  | attach => exact ⟨⟨fun _ => rfl, h.progress, h.remote, h.joined⟩, h.current⟩
  | ring hprogress => exact ⟨⟨h.attached, fun _ _ => ⟨nofun, nofun⟩, h.remote, h.joined⟩, h.current⟩
  | request hnot =>
    -- the source of the phone is not known yet
    refine ⟨⟨h.attached, fun hin hsource => ?_, h.remote, h.joined⟩, h.current⟩
    exact absurd ⟨hin, hsource, h.attached hin⟩ hnot
  | answer hanswerable =>
    exact ⟨⟨h.attached, fun _ _ => ⟨nofun, nofun⟩, h.remote, h.joined⟩, h.current⟩
  | pause hphone connected =>
    refine Drifted.tracked ⟨h.attached, fun hin _ => ?_, nofun, nofun⟩ rfl
    exact h.progress hin (source_isSome hphone)
  | «open» relay => exact Drifted.tracked ⟨h.attached, nofun, nofun, nofun⟩ rfl
  | reopen remote => exact Drifted.tracked ⟨h.attached, nofun, nofun, nofun⟩ rfl
  | refresh hroute hphone hremote haddress =>
      exact h.toDrifted.refresh hroute hphone hremote haddress
  | reroute hreroute => exact ⟨h.toDrifted.reroute hreroute, h.current.reroute h.toDrifted hreroute⟩
  | begin hbegin => exact h.begin hbegin

theorem tracked_stable (policy : MediaPolicy) : Coordinator.Stable policy Tracked where
  fresh := fun m hfresh => by
    have hidle : m.phone.isStarted = false := by
      have hsilent := hfresh.silent
      rcases hphone : m.phone with _ | _ | source | ⟨source, target⟩
      · rfl
      · rfl
      · rw [hphone] at hsilent
        cases hsilent
      · rw [hphone] at hsilent
        cases hsilent
    refine Drifted.tracked ⟨hfresh.attached, fun _ hsource => ?_, ?_, ?_⟩ hidle
    · rw [hfresh.silent] at hsource
      cases hsource
    · exact fun source target hstarted => (not_started hidle hstarted).elim
    · exact fun source target relay hstarted => (not_started hidle hstarted).elim
  edit := fun _ _ h hedit => h.edit hedit

end CallMedia

namespace Coordinator

open CallMedia

/-! ## One call apart -/

/-- Every call is fine, but one is of another kind for the moment. -/
structure FineBut (Q : CallMedia → Prop) (callId : CallId) (R : CallMedia → Prop)
    (b : Coordinator) : Prop where
  others : ∀ c, c ≠ callId → b.At Q c
  mine : b.At R callId
  starts : b.Starts Q

variable {Q R S : CallMedia → Prop} {callId : CallId} {b b' : Coordinator} {policy : MediaPolicy}
  (w : World)

theorem Fine.but (h : b.Fine Q) : b.FineBut Q callId Q :=
  ⟨fun c _ => h.calls c, h.calls callId, h.starts⟩

theorem FineBut.fine (h : b.FineBut Q callId R) (hat : b.At Q callId) : b.Fine Q := by
  refine ⟨fun c => ?_, h.starts⟩
  by_cases hc : c = callId
  · rw [hc]
    exact hat
  · exact h.others c hc

theorem FineBut.done (h : b.FineBut Q callId Q) : b.Fine Q := h.fine h.mine

theorem FineBut.edit (h : b.FineBut Q callId R) {f : BridgeCall → BridgeCall}
    (hf : ∀ call, b.calls.get? callId = some call → R call.media → S (f call).media) :
    (b.editCall callId f).FineBut Q callId S := by
  refine ⟨fun c hc call' hcall' => ?_, fun call' hcall' => ?_, h.starts⟩
  · obtain ⟨call, hcall, rfl⟩ := get?_editCall.mp hcall'
    rw [if_neg hc]
    exact h.others c hc call hcall
  · obtain ⟨call, hcall, rfl⟩ := get?_editCall.mp hcall'
    rw [if_pos rfl]
    exact hf call hcall (h.mine call hcall)

theorem FineBut.record (h : b.FineBut Q callId R) {effect : Effect}
    (hno : effect.isStart = false) : (b.record effect).FineBut Q callId R := by
  refine ⟨h.others, h.mine, fun device c target call he => ?_⟩
  rcases List.mem_append.mp he with he | he
  · exact h.starts device c target call he
  · rw [← List.mem_singleton.mp he] at hno
    cases hno

theorem FineBut.reconcile (h : b.FineBut Q callId R)
    (hR : ∀ m m', R m → Reroute b.mediaPolicy m m' → R m') :
    (b.reconcileMediaRoute w callId).FineBut Q callId R := by
  have ht := (reconcileMediaRoute_steps w b callId).tweaks
  have htrace := ht.reroute_trace
  refine ⟨fun c hc call hcall => ?_, ?_, fun device c target call he => ?_⟩
  · rw [ht.others hc] at hcall
    exact h.others c hc call hcall
  · exact ht.at hR h.mine
  · rcases htrace _ he with he | he
    · exact h.starts device c target call he
    · cases he

/-! ## Media that follows the endpoints -/

/-- Media that is stopped and started again is in sync. -/
theorem restartPhoneMedia_fine (h : b.FineBut Tracked callId Drifted) :
    (b.restartPhoneMedia w callId).Fine Tracked := by
  have hstart : ∀ b' : Coordinator, b'.Fine Tracked → (b'.activateMedia w callId).Fine Tracked :=
    fun b' hfine => hfine.steps (tracked_stable b'.mediaPolicy) (activateMedia_steps w b' callId)
  unfold restartPhoneMedia
  refine hstart _ ?_
  split
  · next hnone => exact h.fine fun call hcall => by rw [hnone] at hcall; cases hcall
  next call hcall =>
  split
  · next source target hphone =>
    have hpaused : (b.editCall callId fun call =>
        { call with phoneMedia := .ready source }).FineBut Tracked callId Tracked := by
      refine h.edit fun call' hcall' hdrifted => ?_
      obtain rfl := Option.mem_unique hcall' hcall
      refine Drifted.tracked ⟨hdrifted.attached, fun hin _ => ?_, nofun, nofun⟩ rfl
      exact hdrifted.progress hin (source_isSome hphone)
    exact (hpaused.record rfl).done
  next hidle =>
  refine h.fine fun call' hcall' => (h.mine call' hcall').tracked ?_
  obtain rfl := Option.mem_unique hcall' hcall
  show call'.phoneMedia.isStarted = false
  unfold PhoneMediaState.isStarted
  split
  · next source target hstarted => exact absurd hstarted (hidle source target)
  · rfl

/-- The relay and the phone are told where the peer is now. -/
theorem refreshRunningMedia_fine (h : b.FineBut Tracked callId Drifted) :
    (b.refreshRunningMedia w callId).Fine Tracked := by
  unfold refreshRunningMedia
  split
  · next hnone => exact h.fine fun call hcall => by rw [hnone] at hcall; cases hcall
  next call hcall =>
  have hdrifted := h.mine call hcall
  have hfine : call.media.Current → b.Fine Tracked := fun hcurrent =>
    h.fine fun call' hcall' => by rw [Option.mem_unique hcall' hcall]; exact ⟨hdrifted, hcurrent⟩
  split
  · next phone remote hphone hremote =>
    have hremote' : ∀ {remote'}, call.media.remote = some remote' → remote' = remote :=
      fun h => Option.mem_unique h hremote
    split
    · next hroute =>
      have hdirect : call.media.route = .direct := hroute
      split
      · next source target hstarted =>
        split
        · exact restartPhoneMedia_fine w h
        next htarget =>
        -- the phone sends there already
        rw [ne_eq, Decidable.not_not] at htarget
        refine hfine fun source' target' other hstarted' hother => ⟨?_, fun _ => ?_⟩
        · intro relay hrelay
          rw [hdirect] at hrelay
          cases hrelay
        obtain ⟨-, rfl⟩ := PhoneMediaState.started.inj (hstarted.symm.trans hstarted')
        rw [hremote' hother, htarget]
        exact ⟨rfl, rfl⟩
      · next hidle =>
        exact hfine fun source target _ hstarted => absurd hstarted (hidle source target)
    · next relay hroute =>
      split
      · next other haddress =>
        -- a relay does not run for a phone that is not reached by IPv4
        refine hfine fun source target _ hstarted => ?_
        obtain ⟨address, hsource, -⟩ :=
          (hdrifted.joined source target relay hstarted (.inl hroute)).phone
        have hsame : source = phone := by
          have hknown : call.media.phone.source = some phone := hphone
          rw [hstarted] at hknown
          exact Option.some.inj hknown
        rw [hsame, haddress] at hsource
        cases hsource
      · next address haddress =>
        refine FineBut.done (h.edit fun call' hcall' _ => ?_)
        obtain rfl := Option.mem_unique hcall' hcall
        exact hdrifted.refresh hroute hphone hremote haddress
    · next hdirect hrelay =>
      refine hfine fun source target _ _ _ => ⟨fun relay hroute => ?_, fun hroute => ?_⟩
      · exact absurd hroute (hrelay relay)
      · exact absurd hroute hdirect
  · next hunknown =>
    refine hfine fun source target remote hstarted hremote => ?_
    refine (hunknown source remote ?_ hremote).elim
    exact congrArg PhoneMediaState.source hstarted

/-- A phone that has just opened its channel. -/
structure Readied (m : CallMedia) : Prop where
  attached : m.direction = .inbound → m.attached = true
  ready : ∃ source, m.phone = .ready source

theorem Readied.tracked {m : CallMedia} (h : Readied m) (hprogress : m.direction = .inbound →
      m.progress ≠ .waitingForPhone ∧ m.progress ≠ .answerRequested) : m.Tracked := by
  obtain ⟨source, hready⟩ := h.ready
  refine Drifted.tracked ⟨h.attached, fun hin _ => hprogress hin, ?_, ?_⟩ (by rw [hready]; rfl)
  · intro source' target hstarted
    rw [hready] at hstarted
    cases hstarted
  · intro source' target relay hstarted
    rw [hready] at hstarted
    cases hstarted

theorem Fine.activateMedia (h : b.Fine Tracked) : (b.activateMedia w callId).Fine Tracked :=
  h.steps (tracked_stable b.mediaPolicy) (activateMedia_steps w b callId)

theorem Fine.failCall (h : b.Fine Tracked) (message : String) :
    (b.failCall w callId message).Fine Tracked :=
  h.tweaks (tracked_stable b.mediaPolicy) (Tweaks.failCall w .refl message)

theorem answerIncoming_fine (h : b.FineBut Tracked callId fun m =>
    Readied m ∧ m.progress = .answerRequested) : (b.answerIncoming w callId).Fine Tracked := by
  rcases hcall : b.calls.get? callId with _ | call
  · unfold answerIncoming
    rw [hcall]
    exact h.fine fun call' hcall' => by rw [hcall] at hcall'; cases hcall'
  obtain ⟨hreadied, hrequested⟩ := h.mine call hcall
  by_cases hanswerable : call.media.Answerable
  · have hanswered : (b.editCall callId fun call =>
        { call with inboundProgress := .answered }).FineBut Tracked callId Tracked := by
      refine h.edit fun call' hcall' hmine => ?_
      exact Readied.tracked ⟨hmine.1.attached, hmine.1.ready⟩ fun _ => ⟨nofun, nofun⟩
    obtain ⟨hdirection, hsource, hattached⟩ := hanswerable
    obtain ⟨sipCall, hsip⟩ := Option.isSome_iff_exists.mp hattached
    have hguard : ¬ (call.direction ≠ .inbound ∨ call.phoneMedia.source.isNone = true
        ∨ call.inboundProgress ≠ .answerRequested) := by
      rw [not_or, not_or, not_not, not_not, Bool.not_eq_true, Option.isNone_eq_false_iff]
      exact ⟨hdirection, hsource, hrequested⟩
    unfold answerIncoming
    rw [hcall]
    dsimp only
    rw [if_neg hguard, hsip]
    dsimp only
    split
    · exact ((hanswered.done.sip w).record rfl).activateMedia w
    · exact (hanswered.done.sip w).failCall w _
  · rw [answerIncoming_of_not w hcall hanswerable]
    refine h.fine fun call' hcall' => (h.mine call' hcall').1.tracked fun hin => ?_
    rw [hcall] at hcall'
    obtain rfl := Option.some.inj hcall'
    -- what keeps a call that came in from being answered is that its phone is not ready
    obtain ⟨source, hready⟩ := hreadied.ready
    exact absurd ⟨hin, by rw [hready]; rfl, hreadied.attached hin⟩ hanswerable

theorem ringOrAnswer_fine (h : b.FineBut Tracked callId Readied) :
    (b.ringOrAnswer w callId).Fine Tracked := by
  unfold ringOrAnswer
  split
  · next hnone => exact h.fine fun call hcall => by rw [hnone] at hcall; cases hcall
  next call hcall =>
  have hreadied := h.mine call hcall
  dsimp only
  by_cases hwaiting : call.inboundProgress = .waitingForPhone
  · have hrung : (b.editCall callId fun call =>
        { call with inboundProgress := .ringing }).FineBut Tracked callId Tracked := by
      refine h.edit fun call' hcall' hmine => ?_
      exact Readied.tracked ⟨hmine.attached, hmine.ready⟩ fun _ => ⟨nofun, nofun⟩
    have hnot : ¬ call.inboundProgress = .answerRequested := by rw [hwaiting]; exact nofun
    simp only [hwaiting, if_true, reduceCtorEq, decide_false, if_false]
    split
    · split
      · exact hrung.done.sip w
      · exact hrung.done
    · exact hrung.done
  · rw [if_neg hwaiting]
    by_cases hrequested : call.inboundProgress = .answerRequested
    · have hmine : b.FineBut Tracked callId fun m =>
          Readied m ∧ m.progress = .answerRequested :=
        ⟨h.others, fun call' hcall' => by
          rw [Option.mem_unique hcall' hcall]
          exact ⟨hreadied, hrequested⟩, h.starts⟩
      rw [if_pos (by simpa using hrequested)]
      refine answerIncoming_fine w ?_
      split
      · split
        · exact hmine.record rfl
        · exact hmine
      · exact hmine
    · have hfine : b.Fine Tracked := h.fine fun call' hcall' => by
        rw [Option.mem_unique hcall' hcall]
        exact hreadied.tracked fun _ => ⟨hwaiting, hrequested⟩
      rw [if_neg (by simpa using hrequested)]
      split
      · split
        · exact hfine.sip w
        · exact hfine
      · exact hfine

theorem phoneMediaReady_fine (h : b.Fine Tracked) (callId : CallId) (endpoint : MediaEndpoint) :
    (b.phoneMediaReady w callId endpoint).Fine Tracked := by
  unfold phoneMediaReady
  split
  · exact h
  next call hcall =>
  dsimp only
  split
  · exact h.failCall w _
  next address _ =>
  have hready : (b.editCall callId fun call => { call with
      phoneMedia := .ready { endpoint with address } }).FineBut Tracked callId Readied :=
    h.but.edit fun call' _ htracked => ⟨htracked.attached, ⟨_, rfl⟩⟩
  refine Fine.activateMedia w ?_
  split
  · next houtbound =>
    have hout : (b.editCall callId fun call => { call with
        phoneMedia := .ready { endpoint with address } }).Fine Tracked := by
      refine hready.fine fun call' hcall' =>
        (hready.mine call' hcall').tracked fun hin => ?_
      obtain ⟨old, hold, rfl⟩ := get?_editCall.mp hcall'
      rw [hcall] at hold
      obtain rfl := Option.some.inj hold
      rw [if_pos rfl] at hin
      exact absurd (houtbound.symm.trans hin) nofun
    exact hout.tweaks (tracked_stable b.mediaPolicy) (makeOutboundAfterPhoneMedia_tweaks w _ callId)
  · refine ringOrAnswer_fine w (hready.reconcile w fun m m' hmine hreroute => ?_)
    refine ⟨fun hin => ?_, hreroute.phone ▸ hmine.ready⟩
    cases hreroute <;> exact hmine.attached hin

theorem Fine.applySipMediaState (h : b.Fine Tracked) (state : SipMediaState) :
    (b.applySipMediaState w callId state).Fine Tracked :=
  h.steps (tracked_stable b.mediaPolicy) (applySipMediaState_steps w b callId state)

/-- A new endpoint of the peer is told to whoever sends to it. -/
theorem newRemote_fine (h : b.Fine Tracked) {call : BridgeCall} (remote : RemoteMedia)
    (hcall : b.calls.get? callId = some call) :
    (if (call.remoteMedia.any fun previous => previous.endpoint ≠ remote.endpoint) then
      ((b.editCall callId fun call =>
        { call with remoteMedia := some remote }).reconcileMediaRoute w
          callId).refreshRunningMedia w
          callId
    else (b.editCall callId fun call =>
      { call with remoteMedia := some remote }).reconcileMediaRoute w callId).Fine Tracked := by
  split
  · have hdrifted : (b.editCall callId fun call =>
        { call with remoteMedia := some remote }).FineBut Tracked callId Drifted :=
      h.but.edit fun call' _ htracked =>
        ⟨htracked.attached, htracked.progress, fun _ _ _ => rfl, htracked.joined⟩
    exact refreshRunningMedia_fine w (hdrifted.reconcile w fun m m' => Drifted.reroute)
  next hsame =>
  have htracked : (b.editCall callId fun call =>
      { call with remoteMedia := some remote }).FineBut Tracked callId Tracked := by
    refine h.but.edit fun call' hcall' htracked => ?_
    obtain rfl := Option.mem_unique hcall' hcall
    refine ⟨⟨htracked.attached, htracked.progress, fun _ _ _ => rfl, htracked.joined⟩, ?_⟩
    intro source target remote' hstarted hremote'
    obtain rfl := Option.some.inj hremote'
    -- the endpoint is the one that was known before
    obtain ⟨previous, hprevious⟩ :=
      Option.isSome_iff_exists.mp (htracked.remote source target hstarted)
    have hendpoint : previous.endpoint = remote.endpoint := by
      by_contra hne
      have hremote : call'.remoteMedia = some previous := hprevious
      refine hsame ?_
      rw [hremote]
      exact decide_eq_true hne
    rw [← hendpoint]
    exact htracked.current source target previous hstarted hprevious
  exact htracked.done.steps (tracked_stable _) (CallSteps.reconcile w .refl rfl)

theorem sipMediaState_fine (h : b.Fine Tracked) (sipCall : SipCallId) (state : SipMediaState)
    (remote : RemoteMedia) : (b.sipMediaState w sipCall state (some remote)).Fine Tracked := by
  unfold sipMediaState
  split
  · exact h
  next callId _ =>
  dsimp only
  split
  · exact h.failCall w _
  next call hcall =>
  split
  · exact h.failCall w _
  split
  · have hreopen : Tweaks (Edit b.mediaPolicy) callId b (b.editCall callId fun _ =>
        { call with
          remoteMedia := some remote, codec := remote.codec, phoneMedia :=
            .opening }) := by
      refine .single (.edit fun call' hcall' => ?_)
      rw [hcall] at hcall'
      obtain rfl := Option.some.inj hcall'
      exact .reopen call.media remote
    have hfine := h.tweaks (tracked_stable b.mediaPolicy) hreopen
    split
    · exact hfine.failCall w _
    · exact (hfine.record rfl).record rfl
  · exact (newRemote_fine w h remote hcall).applySipMediaState w state

/-- The relay that is kept for a change to the direct route still sends to the peer's endpoint
    when the change is rejected. -/
def FallbackCurrent (b : Coordinator) : Event → Prop
  | .sip (.mediaReofferCompleted sipCall false) =>
    ∀ callId call relay remote, b.sccpBySip.get? sipCall = some callId →
      b.calls.get? callId = some call → call.phoneMedia.isStarted = true →
        call.mediaRoute = .switchingToDirect (.running relay) → call.remoteMedia = some remote →
          relay.sip = remote.endpoint
  | _ => True

theorem mediaReofferCompleted_fine (h : b.Fine Tracked) (sipCall : SipCallId) (accepted : Bool)
    (hcurrent : b.FallbackCurrent (.sip (.mediaReofferCompleted sipCall accepted))) :
    (b.mediaReofferCompleted w sipCall accepted).Fine Tracked := by
  unfold mediaReofferCompleted
  split
  · exact h
  next callId hindex =>
  split
  · exact h
  next call hcall =>
  split
  · next path hroute =>
    split
    · refine restartPhoneMedia_fine w (h.but.edit fun call' _ htracked => ?_)
      exact ⟨htracked.attached, htracked.progress, htracked.remote, nofun⟩
    next hrejected =>
    obtain rfl : accepted = false := Bool.eq_false_iff.mpr hrejected
    have hback : (b.editCall callId fun call =>
        { call with mediaRoute := .relay path }).FineBut Tracked callId Tracked := by
      refine h.but.edit fun call' hcall' htracked => ?_
      obtain rfl := Option.mem_unique hcall' hcall
      refine ⟨⟨htracked.attached, htracked.progress, htracked.remote, ?_⟩, ?_⟩
      · intro source target relay hstarted hrelay
        rcases hrelay with hrelay | hrelay
        · obtain rfl := MediaRouteState.relay.inj hrelay
          exact htracked.joined source target relay hstarted (.inr hroute)
        · cases hrelay
      intro source target remote hstarted hremote
      refine ⟨fun relay hrelay => ?_, nofun⟩
      obtain rfl := MediaRouteState.relay.inj hrelay
      refine hcurrent callId call' relay remote hindex hcall' ?_ hroute hremote
      exact congrArg PhoneMediaState.isStarted hstarted
    exact Fine.activateMedia w (Fine.sip w hback.done)
  · next relay hroute =>
    split
    · refine restartPhoneMedia_fine w (h.but.edit fun call' _ htracked => ?_)
      refine ⟨htracked.attached, htracked.progress, htracked.remote, ?_⟩
      intro source target relay' _ hrelay
      rcases hrelay with hrelay | hrelay <;> cases hrelay
    have hended := editCall_failCall_ended w b callId
      (fun call => { call with mediaRoute := .direct })
      "SIP peer rejected the safe media route"
    refine h.fewer (fun c call' hcall' => ?_) hended.trace
    by_cases hc : c = callId
    · rw [hc, hended.gone] at hcall'
      cases hcall'
    · rwa [hended.others c hc] at hcall'
  all_goals exact h

/-- The media that runs is in sync for every call. -/
def MediaInSync (b : Coordinator) : Prop :=
  ∀ c call, b.calls.get? c = some call → call.media.InSync

/-- What a rejected change leaves behind when the relay was not told of the peer's move. -/
theorem fallbackCurrent_of_inSync {event : Event}
    (hsync : (b.handle w event).MediaInSync) : b.FallbackCurrent event := by
  unfold FallbackCurrent
  split
  · next sipCall =>
    intro callId call relay remote hindex hcall hstarted hroute hremote
    obtain ⟨source, target, hphone⟩ : ∃ source target, call.phoneMedia
      = .started source target := by
      unfold PhoneMediaState.isStarted at hstarted
      split at hstarted
      · next source target hphone => exact ⟨source, target, hphone⟩
      · cases hstarted
    -- the call is back on its relay, and its media runs as before
    have hback : (b.handle w (.sip (.mediaReofferCompleted sipCall false))).calls.get? callId
        = some { call with mediaRoute := .relay (.running relay) } := by
      have hget : (b.editCall callId fun call =>
          { call with mediaRoute := .relay (.running relay) }).calls.get? callId
            = some { call with mediaRoute := .relay (.running relay) } :=
        get?_editCall.mpr ⟨call, hcall, (if_pos rfl).symm⟩
      have hidle : ∀ b' : Coordinator, b'.calls.get? callId
            = some { call with mediaRoute := .relay (.running relay) } →
          (b'.activateMedia w callId).calls.get? callId
            = some { call with mediaRoute := .relay (.running relay) } := by
        intro b' hget'
        unfold activateMedia
        rw [hget']
        dsimp only
        rw [if_pos hstarted]
        exact hget'
      unfold handle handleSip mediaReofferCompleted
      dsimp only
      rw [hindex]
      dsimp only
      rw [hcall]
      dsimp only
      rw [hroute]
      exact hidle _ hget
    obtain ⟨-, ⟨remote', hremote', hsip⟩, -⟩ := hsync callId _ hback source target hphone
    have hsame : call.remoteMedia = some remote' := hremote'
    rw [hremote] at hsame
    rw [Option.some.inj hsame]
    exact hsip
  · trivial

/-- Media follows the endpoints in every state of a run just when no relay is taken back that
    was not told of a move of the peer. -/
theorem media_in_sync_iff (config : AppConfig) (mediaPolicy : MediaPolicy) (events : List Event) :
    Runs.Always (handle w) MediaInSync (new config mediaPolicy) events
      ↔ Runs.Each (handle w) FallbackCurrent (new config mediaPolicy) events :=
  Runs.always_iff_each (I := Fine Tracked) (fun _ h c call hcall => (h.calls c call hcall).inSync)
    (fun _ event h hcurrent => h.handle w (tracked_stable _) event
      (fun _ _ callId endpoint _ _ => phoneMediaReady_fine w h callId endpoint)
      (fun sipCall state remote _ => sipMediaState_fine w h sipCall state remote)
      fun sipCall accepted heq => mediaReofferCompleted_fine w h sipCall accepted (heq ▸ hcurrent))
    (fun _ _ _ => fallbackCurrent_of_inSync w) (new_fine config mediaPolicy) events

/-! ### A change that the peer rejects -/

/-- Media between the phones' network and one network of the SIP side may be direct. -/
def branchPolicy : MediaPolicy where
  directRoutes :=
    [{ phones := [⟨fun address => address >>> 8 = 0xC00002⟩]
       sip := [⟨fun address => address >>> 8 = 0xCB0071⟩] }]

/-- A peer in another network. -/
def remoteTrunk : RemoteMedia where
  endpoint := ⟨0x0A000001, 5000⟩
  codec := Codec.pcmu
  payloadType := 0

/-- A peer in the network of the policy. -/
def remoteBranch : RemoteMedia where
  endpoint := ⟨0xCB007105, 6000⟩
  codec := Codec.pcmu
  payloadType := 0

/-- The phone has a connected call whose media is relayed to the trunk. -/
def connectedThroughTrunk : List Event :=
  [.sccp (.device desk ⟨1⟩ (.registered deskRegistration)),
    .sccp (.device desk ⟨1⟩ (.capabilities ⟨[Codec.pcmu]⟩)),
    .sccp (.device desk ⟨1⟩ (.enblocCall ⟨7⟩ 1 "200")),
    .sccp (.device desk ⟨1⟩ (.receiveChannelOpened ⟨7⟩ true deskEndpoint)),
    .sip (.mediaState ⟨1⟩ .active (some remoteTrunk)), .sip (.callState ⟨1⟩ .confirmed)]

/-- The peer moves to the branch, and rejects the direct route that it is offered there. -/
def rejectedDirect : List Event :=
  connectedThroughTrunk ++ [.sip (.mediaState ⟨1⟩ .active (some remoteBranch)),
      .sip (.mediaReofferCompleted ⟨1⟩ false)]

/-- The relay goes on sending to the trunk. -/
theorem relay_left_behind : ¬ Runs.Always (handle (oneSlotWorld fun _ => false)) MediaInSync
    (new deskConfig branchPolicy) rejectedDirect := by
  intro halways
  generalize hb : Runs.run (handle (oneSlotWorld fun _ => false)) (new deskConfig branchPolicy)
    rejectedDirect = b
  have hsync : b.MediaInSync := by
    rw [← hb]
    exact (List.append_nil rejectedDirect ▸ halways).split.2
  have hcall : (b.calls.get? ⟨7⟩).map (fun call =>
        (call.phoneMedia, call.mediaRoute, call.remoteMedia))
      = some (.started deskEndpoint (relayTarget deskRelay.addresses Codec.pcmu),
          .relay (.running ⟨deskRelay.addresses, ⟨0xC0000202, 20000⟩, remoteTrunk.endpoint⟩),
          some remoteBranch) := by
    rw [← hb]
    decide
  obtain ⟨call, hget, hmedia⟩ := Option.map_eq_some_iff.mp hcall
  obtain ⟨hphone, hrest⟩ := Prod.mk.inj hmedia
  obtain ⟨hroute, hremote⟩ := Prod.mk.inj hrest
  have hinSync := hsync ⟨7⟩ call hget _ _ hphone
  have hmatch : call.media.route = _ := hroute
  rw [hmatch] at hinSync
  obtain ⟨-, ⟨remote, hknown, hsip⟩, -⟩ := hinSync
  have hsame : call.remoteMedia = some remote := hknown
  rw [hremote] at hsame
  rw [← Option.some.inj hsame] at hsip
  exact absurd hsip (by decide)

end Coordinator

end Sccp.Gateway
