/-
  Sccp.Ledger.Calls

  New calls, digit collection, pickup and parking as moves on the ledger.
-/

import Sccp.Ledger.Edits

namespace Sccp

open Ledger (Via)

/-- Put a call in a state. -/
def CallEdit.to (state : CallState) : CallEdit := { state := fun _ => state }

/-- Put a call in a state, with an owner. -/
def CallEdit.own (state : CallState) (owner : Option CallAppearanceId) : CallEdit :=
  { state := fun _ => state, active := fun _ => owner }

/-- The edit that ends the digit collection of a pickup. -/
def CallEdit.pickedUp (answer : Bool) (a : CallAppearanceId) : CallEdit :=
  { state := fun _ => if answer then .connected else .ringing
    active := fun _ => if answer then some a else none
    pickup := fun _ => false }

namespace Controller

variable {s : Controller}
variable {c : CallId} {p : PbxCallId} {a : CallAppearanceId} {d : DeviceId} {l l' : Ledger}

/-! ## Transfers and conference identities along the way -/

theorem via_advanceTransferForPbx (p : PbxCallId) (phase : TransferPhase) :
    Via s.ledger (s.advanceTransferForPbx p phase).ledger := by
  unfold advanceTransferForPbx
  split
  · exact .refl _
  split
  · exact .refl _
  next a ha =>
  simp only
  split
  · exact .refl _
  next t ht =>
  obtain ⟨hfind, _⟩ := Option.filter_eq_some_iff.mp ht
  have hg := TransferRegistry.forLeg_some hfind
  unfold TransferRegistry.edit
  simp only [hg]
  cases hadv : t.advanceConsultation ⟨a.sccpId, p⟩ phase with
  | error e => exact .refl _
  | ok t' =>
    have hc := TransferTransaction.advanceConsultation_continues hadv
    simp only [Except.map]
    rw [s.ledger_putTransfer, hc.deviceId]
    exact .single (.setTransfer t.deviceId (some t')) (fun u hu => by cases hu; exact hc.deviceId)

theorem view_updateSessionIdentity (session : ConferenceSession) (p : PbxCallId)
    (identity : ConferenceParticipantIdentity) :
    (updateSessionIdentity session p identity).view = session.view := by
  unfold updateSessionIdentity
  split
  · simp only [ConferenceSession.view, ConferenceParticipantRegistry.updateIdentity,
      ConferenceParticipantRegistry.mapParticipants, List.map_map]
    congr 1
    apply List.map_congr_left
    intro q _
    simp only [Function.comp_apply]
    split <;> rfl
  simp only [ConferenceSession.view]
  congr 1
  cases session.pendingInvite with
  | none => rfl
  | some invite =>
    simp only [Option.map_some]
    split <;> rfl

@[simp] theorem ledger_refreshConferenceParticipantIdentity (p : PbxCallId) :
    (s.refreshConferenceParticipantIdentity p).ledger = s.ledger := by
  unfold refreshConferenceParticipantIdentity
  split
  · rfl
  next key _ =>
  split
  · rfl
  next session hs =>
  simp only
  split
  · rfl
  split
  · rw [show ∀ v, ({ s with
          conferencesByConsultation := s.conferencesByConsultation.insert key v } :
        Controller) = s.putSession key v from fun _ => rfl,
      ledger_putSession, view_updateSessionIdentity]
    apply Ledger.ext <;> try rfl
    funext c
    by_cases hc : c = key
    · simp [ledger, hc, hs]
    · simp [hc]
  · rfl

/-- An outbound call that is calling gets a phase before the answer. -/
theorem via_setPhase {s' : Controller} {call : PbxCall} {next : OutboundCallPhase}
    (hl : s'.ledger = s.ledger) (hcall : s'.pbx.get? p = some call)
    (hout : call.direction = .outbound) (hnext : next ≠ .answered) :
    Via s.ledger
      (s'.modifyCall p fun call => { call with outboundPhase := some next }).ledger := by
  rw [← hl]
  refine .step (.restate p (.dial true) Shows.nothing) trivial
    (.of_eq (ledger_modifyCall (e := .dial true) _ fun call' hcall' => ?_))
  rw [hcall] at hcall'
  cases hcall'
  simp [PbxCall.view, PbxCall.dialing, CallEdit.apply, CallEdit.dial, hout, hnext]

theorem via_outboundRoutePresentation (p : PbxCallId) (destination : String) :
    Via s.ledger (s.outboundRoutePresentation p destination).1.ledger := by
  unfold outboundRoutePresentation
  split
  · exact .refl _
  next call hcall =>
  obtain ⟨hcall, hg⟩ := Option.filter_eq_some_iff.mp hcall
  split
  · exact .refl _
  next id a _ =>
  have hg : call.direction = .outbound ∧ call.state = .calling := by simpa using hg
  simp only [ledger_refreshConferenceParticipantIdentity]
  exact via_setPhase (s.ledger_modifyAppearance_quiet fun _ => rfl) hcall hg.1 (by decide)

theorem via_advanceOutboundCallPhase (p : PbxCallId) (next : OutboundCallPhase)
    (hnext : next ≠ .answered) : Via s.ledger (s.advanceOutboundCallPhase p next).1.ledger := by
  unfold advanceOutboundCallPhase
  split
  · exact .refl _
  next call hcall =>
  split
  · exact .refl _
  next hg =>
  simp only [not_or, ne_eq, not_not] at hg
  split
  · exact .refl _
  · exact via_setPhase rfl hcall hg.1 hnext

@[simp] theorem ledger_publishOutboundRingOut (p : PbxCallId) :
    (s.publishOutboundRingOut p).1.ledger = s.ledger := by
  unfold publishOutboundRingOut
  split
  · rfl
  split
  · rfl
  · split
    · rfl
    · exact ledger_modifyCall_quiet _ fun _ _ => rfl

theorem via_pbxRinging (p : PbxCallId) : Via s.ledger (s.pbxRinging p).1.ledger := by
  have h := via_advanceOutboundCallPhase (s := s) p .ringing (by decide)
  unfold pbxRinging
  split
  · next s' heq =>
    rw [heq] at h
    exact h
  next s' a heq =>
  rw [heq] at h
  simp only [ledger_publishOutboundRingOut]
  exact h.trans (via_advanceTransferForPbx p .ringing)

theorem via_pbxProgressWithMediaMode (p : PbxCallId) (earlyMedia coupled : Bool) :
    Via s.ledger (s.pbxProgressWithMediaMode p earlyMedia coupled).1.ledger := by
  unfold pbxProgressWithMediaMode
  split
  · exact .refl _
  next call hcall =>
  split
  · exact .refl _
  next hg =>
  simp only [not_or, ne_eq, not_not] at hg
  simp only
  split
  · exact .refl _
  next id a _ =>
  refine Via.trans ?_ (via_advanceTransferForPbx p .ringing)
  split
  · exact via_setPhase (s.ledger_modifyAppearance_quiet fun _ => rfl) hcall hg.1 (by decide)
  · exact via_setPhase (s.ledger_modifyAppearance_quiet fun _ => rfl) hcall hg.1 (by decide)

/-! ## Digits -/

/-- One appearance changes state together with its call. -/
theorem ledger_restateOne (p : PbxCallId) (a : CallAppearanceId) {f : PbxCall → PbxCall}
    {f' : CallAppearance → CallAppearance} {e : CallEdit} {t : CallState}
    (hf : ∀ call, s.pbx.get? p = some call → (f call).view = e.apply call.view)
    (hf' : ∀ v, (f' v).view = { v.view with state := t }) :
    ((s.modifyCall p f).modifyAppearance a f').ledger = s.ledger.restate p e (Shows.only a t) := by
  rw [ledger_modifyAppearance _ p hf', ledger_modifyCall _ hf, Ledger.restate_restate]
  congr 1
  funext x
  simp [Shows.after, Shows.nothing]

theorem via_finishDigits (c : CallId) : Via s.ledger (s.finishDigits c).1.ledger := by
  unfold finishDigits
  split
  · exact .refl _
  next a ha =>
  split
  · exact .refl _
  simp only
  split
  · exact .refl _
  next call hp =>
  have hq : (s.modifyCall a.pbxId fun call =>
    { call with digitDeadline := none }).ledger
      = s.ledger := ledger_modifyCall_quiet _ fun _ _ => rfl
  split
  · exact .of_eq hq
  split
  · next pickup _ =>
    refine .restated (p := a.pbxId) (e := .pickedUp pickup.answer a.id)
      (g := Shows.only a.id (if pickup.answer then .connected else .ringing)) ?_
    rw [ledger_restateOne (e := .pickedUp pickup.answer a.id)
      (t := if pickup.answer then .connected else .ringing), hq]
    · exact fun _ _ => rfl
    · exact fun _ => rfl
  have hl : (((s.modifyCall a.pbxId fun call =>
        { call with digitDeadline := none }).modifyCall a.pbxId fun call =>
        { call with state := .calling }).modifyAppearance a.id fun v =>
        { v with state := .calling }).ledger
      = s.ledger.restate a.pbxId (.to .calling) (Shows.only a.id .calling) := by
    rw [ledger_restateOne (e := .to .calling) (t := .calling), hq]
    · exact fun _ _ => rfl
    · exact fun _ => rfl
  refine Via.trans ?_ (via_outboundRoutePresentation _ _)
  split
  · exact Via.trans (.restated hl) (via_advanceTransferForPbx a.pbxId .routing)
  · exact .restated hl

theorem ledger_setDigits (p : PbxCallId) (number : String) :
    (s.modifyCall p fun call => { call with digits := number }).ledger = s.ledger :=
  ledger_modifyCall_quiet _ fun _ _ => rfl

/-- Dialling a whole number finishes the digits of the same call. -/
theorem via_enbloc (c : CallId) (number : String) : Via s.ledger (s.enbloc c number).1.ledger := by
  unfold enbloc
  split
  · exact .refl _
  next a ha =>
  split
  · split <;> exact .refl _
  split
  · exact .refl _
  simp only
  split
  · exact via_finishDigits c
  · have hq := ledger_setDigits (s := s) a.pbxId number
    exact Via.trans (.of_eq hq) (via_finishDigits c)

theorem via_speedDial {number : String} {await : Bool} {now : Instant} :
    Via s.ledger (s.speedDial c number await now).1.ledger := by
  unfold speedDial
  split
  · exact via_enbloc c number
  split
  · next a digits ha hd =>
    split
    · exact .refl _
    simp only
    split
    · exact .refl _
    split
    · refine Via.trans ?_ (via_finishDigits c)
      exact .of_eq (ledger_modifyCall_quiet _ fun _ _ => rfl)
    · exact .of_eq (ledger_modifyCall_quiet _ fun _ _ => rfl)
  · exact .refl _

/-- What one more digit does to a call. -/
theorem view_pushDigit (st : CallState) (character : Char) (now : Instant) (call : PbxCall) :
    (s.pushDigit st character now call).1.view
      = (if (s.pushDigit st character now call).2 then CallEdit.to .calling else {}).apply
        call.view := by
  unfold pushDigit
  simp only
  split <;> rfl

theorem modifyAppearanceOf_eq {id : CallAppearanceId} (h : s.bySccp.get? c = some id)
    (f : CallAppearance → CallAppearance) : s.modifyAppearanceOf c f = s.modifyAppearance id f := by
  simp [modifyAppearanceOf, h]

theorem appearanceForCall_some {a : CallAppearance} (h : s.appearanceForCall c = some a) :
    ∃ id, s.bySccp.get? c = some id ∧ s.appearances.get? id = some a := by
  unfold appearanceForCall at h
  split at h
  · cases h
  · next id hid => exact ⟨id, hid, h⟩

/-- The PBX call a handset's digits go to: its own channel while it barges. -/
def digitTarget (s : Controller) (c : CallId) (a : CallAppearance) : PbxCallId :=
  ((s.bargesByHandset.get? c).map (·.bargerCallId)).getD a.pbxId

/-- A digit may end collection, or start overlap routing at once. -/
theorem via_digit {key : Digit} {now : Instant} : Via s.ledger (s.digit c key now).1.ledger := by
  unfold digit
  split
  · next character a hk ha =>
    simp only
    split
    · split
      · exact via_finishDigits c
      · split
        · exact .refl _
        · next call hp =>
          have hview := view_pushDigit (s := s) a.state character now call
          cases hov : (s.pushDigit a.state character now call).2 with
          | false =>
            simp only [hov, if_false, Bool.false_eq_true] at hview ⊢
            refine .of_eq (ledger_modifyCall_quiet _ ?_)
            intro call' hp'
            rw [hp] at hp'
            cases hp'
            exact hview
          | true =>
            simp only [hov, if_true] at hview ⊢
            obtain ⟨id, hid, -⟩ := appearanceForCall_some ha
            refine Via.trans (.restated (p := s.digitTarget c a) (e := .to .calling)
              (g := Shows.only id .calling) ?_) (via_outboundRoutePresentation _ _)
            refine (congrArg ledger (modifyAppearanceOf_eq (s := s.modifyCall _ _) hid _)).trans ?_
            refine ledger_restateOne _ _ ?_ fun _ => rfl
            intro call' hp'
            have he : call' = call := Option.mem_unique hp' hp
            rw [he]
            exact hview
    · split <;> exact .refl _
  · exact .refl _

theorem via_finishAllDigits (cs : List CallId) : Via s.ledger (s.finishAllDigits cs).1.ledger := by
  induction cs generalizing s with
  | nil => exact .refl _
  | cons c rest ih =>
    simp only [finishAllDigits]
    exact (via_finishDigits c).trans ih

/-! ## New calls and appearances -/

/-- A registered device's keys now act on a call of its own. -/
theorem via_setActiveCall {x : Option CallId} : Via s.ledger (s.setActiveCall d x).ledger := by
  rcases s.ledger_setActiveCall (d := d) (x := x) with h' | ⟨hen, h'⟩
  · exact .of_eq h'
  · exact .step (.point d x) hen (.of_eq h')

/-- The view of a new outbound call. -/
def newCallView (p : PbxCallId) (a : CallAppearanceId) : CallView :=
  { id := p, state := .collecting, pickup := false, ids := [], active := some a, dialing := true }

/-- The view of its appearance. -/
def newAppearanceView (a : CallAppearanceId) (c : CallId) (p : PbxCallId) (d : DeviceId) :
    AppearanceView :=
  { id := a, sccpId := c, pbxId := p, deviceId := d, state := .collecting }

/-- The ledger with a new call, before or after its device points at it. -/
inductive Created (l : Ledger) (c : CallId) (d : DeviceId) (p : PbxCallId)
    (a : CallAppearanceId) : Ledger → Prop
  | idle (fresh : (Move.create (newCallView p a) (newAppearanceView a c p d)).Enabled l) :
      Created l c d p a (l.create (newCallView p a) (newAppearanceView a c p d))
  | pointed (fresh : (Move.create (newCallView p a) (newAppearanceView a c p d)).Enabled l) :
      Created l c d p a ((l.create (newCallView p a) (newAppearanceView a c p d)).point d (some c))

/-- A new call is created unless its handset id is taken. -/
theorem beginPhoneCall_cases (s : Controller) (c : CallId) (binding : LineBinding) (codec : Codec)
    (now : Instant) : (s.bySccp.contains c = true ∧ s.beginPhoneCall c binding codec now = (s, []))
    ∨ ∃ p a, (s.beginPhoneCall c binding codec now).2
        = [.backend (.createChannel c p binding codec)] ∧ Created s.ledger c binding.deviceId p a
        (s.beginPhoneCall c binding codec now).1.ledger := by
  unfold beginPhoneCall
  split
  · next hc => exact .inl ⟨hc, rfl⟩
  next hc =>
  have hc' : s.bySccp.get? c = none := Table.not_contains_iff.mp (by simpa using hc)
  simp only
  split
  · next s' hins =>
    exact (insertPbxCall_fresh _ rfl rfl s.allocatePbxId_fresh
      s.allocatePbxId.1.allocateAppearanceId_fresh hc' hins).elim
  next s' hins =>
  obtain ⟨hen, hl⟩ := ledger_insertPbxCall _ hins
  have hl' : (s'.selectLine binding.deviceId binding.lineInstance).ledger = s.ledger.create
        (newCallView s.allocatePbxId.2 s.allocatePbxId.1.allocateAppearanceId.2)
        (newAppearanceView s.allocatePbxId.1.allocateAppearanceId.2 c s.allocatePbxId.2
          binding.deviceId) := by
    rw [ledger_selectLine]
    exact hl
  simp only [ledger_setCallSelected]
  refine .inr ⟨_, s.allocatePbxId.1.allocateAppearanceId.2, rfl, ?_⟩
  rcases (s'.selectLine binding.deviceId binding.lineInstance).ledger_setActiveCall
    (d := binding.deviceId) (x := some c) with h | ⟨_, h⟩
  · rw [h, hl']
    exact .idle hen
  · rw [h, hl']
    exact .pointed hen

theorem Created.via (h : Created l c d p a l') : Via l l' := by
  cases h with
  | idle fresh => exact .single (.create _ _) fresh
  | pointed fresh =>
    refine .step (.create _ _) fresh (.single (.point d (some c)) ?_)
    intro x hx
    cases hx
    exact ⟨newAppearanceView a c p d, by simp [Ledger.appOf, Move.apply, Ledger.create,
      newAppearanceView], rfl⟩

theorem Created.session (h : Created l c d p a l') : l'.session = l.session := by
  cases h <;> rfl

theorem via_beginPhoneCall (c : CallId) (binding : LineBinding) (codec : Codec) (now : Instant) :
    Via s.ledger (s.beginPhoneCall c binding codec now).1.ledger := by
  rcases s.beginPhoneCall_cases c binding codec now with ⟨_, h⟩ | ⟨p, a, _, h⟩
  · rw [h]
    exact .refl _
  · exact h.via

/-- The view of an inbound call and of its appearances. -/
def inboundCallView (p : PbxCallId) : CallView :=
  { id := p, state := .ringing, pickup := false, ids := [], active := none, dialing := false }

def inboundView (a : CallAppearanceId) (c : CallId) (p : PbxCallId) (d : DeviceId) :
    AppearanceView :=
  { id := a, sccpId := c, pbxId := p, deviceId := d, state := .ringing }

theorem via_beginAsteriskCall {binding : LineBinding} {codec : Codec} :
    Via s.ledger (s.beginAsteriskCall c p binding codec).ledger := by
  unfold beginAsteriskCall
  split
  · exact .refl _
  simp only
  rcases hins : (s.reservePbxId p).allocateAppearanceId.1.insertPbxCall _ _ with ⟨s', _ | _⟩
  · have hl := ledger_insertPbxCall_false _ hins
    exact .of_eq hl
  · obtain ⟨hen, hl⟩ := ledger_insertPbxCall _ hins
    exact .step (.create (inboundCallView p) (inboundView _ c p binding.deviceId)) hen (.of_eq hl)

/-- The ringing appearances of one call are attached in turn. -/
theorem via_attachOffers (candidates : List InboundAppearance) :
    Via s.ledger (attachOffers p s candidates).1.ledger := by
  induction candidates generalizing s with
  | nil => exact .refl _
  | cons x rest ih =>
    simp only [attachOffers]
    split
    · next s' hat =>
      obtain ⟨hen, hl⟩ := ledger_attachAppearance _ hat
      have hvia : Via s.ledger s'.ledger :=
        .step (.attach (inboundView _ x.callId p x.binding.deviceId)) hen (.of_eq hl)
      exact hvia.trans ih
    · next s' hat =>
      have hs := attachAppearance_false _ hat
      subst hs
      exact ih (s := s.allocateAppearanceId.1)

theorem via_offerInboundCallWithPolicy {candidates : List InboundAppearance} :
    Via s.ledger (s.offerInboundCallWithPolicy p candidates).1.ledger := by
  unfold offerInboundCallWithPolicy
  split
  · exact .refl _
  split
  · exact .refl _
  simp only
  split
  · split
    · exact .refl _
    · split <;> exact .refl _
  next first others _ =>
  split
  · exact .refl _
  split
  · next s' hins =>
    have hl := ledger_insertPbxCall_false _ hins
    exact .of_eq hl
  next s' hins =>
  obtain ⟨hen, hl⟩ := ledger_insertPbxCall _ hins
  have hvia : Via s.ledger s'.ledger :=
    .step (.create (inboundCallView p)
      (inboundView _ first.callId p first.binding.deviceId)) hen (.of_eq hl)
  exact hvia.trans (via_attachOffers others)

theorem via_addCallAppearance {binding : LineBinding} {codec : Codec} :
    Via s.ledger (s.addCallAppearance p c binding codec).1.ledger := by
  unfold addCallAppearance
  split
  · exact .refl _
  split
  · exact .refl _
  split
  · exact .refl _
  simp only
  split
  · next s' hat =>
    obtain ⟨hen, hl⟩ := ledger_attachAppearance _ hat
    exact .step (.attach _) hen (.of_eq hl)
  next s' hat =>
  have hs := attachAppearance_false _ hat
  subst hs
  exact .refl _

end Controller

end Sccp
