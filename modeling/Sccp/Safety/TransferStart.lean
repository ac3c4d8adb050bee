/-
  Sccp.Safety.TransferStart

  A consultation is created and made active before the last checks of
  `begin_transfer`.  Where one of them fails, the consultation is removed again
  and the source resumed: the removal leaves no trace of the consultation, and
  the resume restores a source that was held, up to its media, its privacy and
  the selection.
-/

import Sccp.Ledger.Events
import Sccp.Safety.CallRecords

namespace Sccp

variable {s s' : Controller}

namespace Controller

/-! ## The consultation comes and goes -/

/-- The records of one new call on a device, next to those of a state. -/
structure Consulting (s : Controller) (c : CallId) (d : DeviceId) (p : PbxCallId)
    (x : CallAppearanceId) (s' : Controller) : Prop where
  freshCall : s.pbx.get? p = none
  freshAppearance : s.appearances.get? x = none
  freshIndex : s.bySccp.get? c = none
  call : ∃ call, s'.pbx.get? p = some call ∧ call.appearanceIds = [x]
  calls : ∀ q, q ≠ p → s'.pbx.get? q = s.pbx.get? q
  appearance : ∃ a, s'.appearances.get? x = some a ∧ a.sccpId = c ∧ a.pbxId = p ∧ a.deviceId = d
  appearances : ∀ y, y ≠ x → s'.appearances.get? y = s.appearances.get? y
  index : s'.bySccp.get? c = some x
  indexes : ∀ y, y ≠ c → s'.bySccp.get? y = s.bySccp.get? y
  active : s'.activeCallOf d = some c
  selected : ∀ y, y ∈ s'.selectedOf d ↔ y = c ∨ y ∈ s.selectedOf d
  registered : s'.devices.contains d = true
  redirectClaims : s'.redirectClaims = s.redirectClaims
  conferencesByPbx : s'.conferencesByPbx = s.conferencesByPbx
  features : s'.features = s.features

theorem insertPbxCall_eq {call : PbxCall} {a : CallAppearance} (hid : call.id = a.pbxId)
    (hids : call.appearanceIds = []) (hp : s.pbx.get? call.id = none)
    (ha : s.appearances.get? a.id = none) (hc : s.bySccp.get? a.sccpId = none) :
    s.insertPbxCall call a = ({ s with
      pbx := (s.pbx.insert call.id call).modify a.pbxId fun call =>
        { call with appearanceIds := call.appearanceIds ++ [a.id] }
      appearances := s.appearances.insert a.id a
      bySccp := s.bySccp.insert a.sccpId a.id
      byDevice := s.byDevice.insert a.deviceId
        (((s.byDevice.get? a.deviceId).getD []).insert a.id) }, true) := by
  have hin : (s.pbx.insert call.id call).contains a.pbxId = true := by
    rw [Table.contains_insert, hid, decide_eq_true rfl, Bool.true_or]
  have hnew : s.pbx.contains a.pbxId = false := Table.not_contains_iff.mpr (hid ▸ hp)
  unfold insertPbxCall attachAppearance
  rw [if_neg (by simp [hid, hids, hnew])]
  dsimp only
  rw [if_neg (by simp [hin, Table.not_contains_iff.mpr ha, Table.not_contains_iff.mpr hc])]

/-- The state with a new call inserted and brought to the front. -/
theorem consulting_inserted {call : PbxCall} {a : CallAppearance} (hid : call.id = a.pbxId)
    (hids : call.appearanceIds = []) (hp : s.pbx.get? call.id = none)
    (ha : s.appearances.get? a.id = none) (hc : s.bySccp.get? a.sccpId = none)
    (hreg : s.devices.contains a.deviceId = true) {s₁ : Controller} {ok : Bool}
    (hins : s.insertPbxCall call a = (s₁, ok)) : ok = true ∧ s₁.transfers = s.transfers
      ∧ Consulting s a.sccpId a.deviceId a.pbxId a.id (s₁.focusDevice a a.sccpId) := by
  rw [insertPbxCall_eq hid hids hp ha hc] at hins
  obtain ⟨hs, hok⟩ := Prod.mk.inj hins
  refine ⟨hok.symm, by rw [← hs], ?_⟩
  have hcalls : s₁.pbx = (s.pbx.insert call.id call).modify a.pbxId fun call =>
      { call with appearanceIds := call.appearanceIds ++ [a.id] } := by rw [← hs]
  have happs : s₁.appearances = s.appearances.insert a.id a := by rw [← hs]
  have hindex : s₁.bySccp = s.bySccp.insert a.sccpId a.id := by rw [← hs]
  have hdevices : s₁.devices = s.devices := by rw [← hs]
  have hself : s₁.appearances.get? a.id = some a := by
    rw [happs, Table.get?_insert, if_pos rfl]
  have hshown : s₁.appearanceForCall a.sccpId = some a := by
    unfold appearanceForCall
    rw [hindex, Table.get?_insert, if_pos rfl]
    exact hself
  obtain ⟨hactive, -, hselected⟩ := focusDevice_focused (ownedBy_of_shown hshown)
    (by rw [hdevices]; exact hreg)
  have hframe := focusDevice_frame (s := s₁) a a.sccpId
  refine ⟨hid ▸ hp, ha, hc, ?_, fun q hq => ?_, ⟨a, ?_, rfl, rfl, rfl⟩, fun y hy => ?_, ?_,
    fun y hy => ?_, hactive, fun y => ?_, ?_, ?_, ?_, ?_⟩
  · refine ⟨{ call with appearanceIds := call.appearanceIds ++ [a.id] }, ?_, by simp [hids]⟩
    rw [hframe]
    show s₁.pbx.get? a.pbxId = _
    rw [hcalls, Table.get?_modify, if_pos rfl, ← hid, Table.get?_insert, if_pos rfl]
    rfl
  · rw [hframe]
    show s₁.pbx.get? q = _
    rw [hcalls, Table.get?_modify, if_neg hq, hid, Table.get?_insert, if_neg hq]
  · rw [hframe]
    exact hself
  · rw [hframe]
    show s₁.appearances.get? y = _
    rw [happs, Table.get?_insert, if_neg hy]
  · rw [hframe]
    show s₁.bySccp.get? a.sccpId = _
    rw [hindex, Table.get?_insert, if_pos rfl]
  · rw [hframe]
    show s₁.bySccp.get? y = _
    rw [hindex, Table.get?_insert, if_neg hy]
  · rw [hselected, selectedOf, hdevices, selectedOf]
  · obtain ⟨state, hstate, -⟩ := Option.bind_eq_some_iff.mp hactive
    exact Table.contains_iff.mpr ⟨state, hstate⟩
  · rw [hframe, ← hs]
  · rw [hframe, ← hs]
  · rw [hframe, ← hs]

/-- A phone call under a fresh handset id is created and brought to the front. -/
theorem beginPhoneCall_consulting {c : CallId} {binding : LineBinding} (codec : Codec)
    (now : Instant) (hfresh : s.bySccp.get? c = none)
    (hreg : s.devices.contains binding.deviceId = true) :
    ∃ x, Consulting s c binding.deviceId s.allocatePbxId.2 x
        (s.beginPhoneCall c binding codec now).1
      ∧ (s.beginPhoneCall c binding codec now).1.transfers = s.transfers
      ∧ (s.beginPhoneCall c binding codec now).2
        = [.backend (.createChannel c s.allocatePbxId.2 binding codec)] := by
  have hp := s.allocatePbxId_fresh
  have hx := s.allocatePbxId.1.allocateAppearanceId_fresh
  unfold beginPhoneCall
  rw [if_neg (by simp [Table.not_contains_iff.mpr hfresh])]
  dsimp only
  rcases hins : s.allocatePbxId.1.allocateAppearanceId.1.insertPbxCall _ _ with ⟨s₁, ok⟩
  obtain ⟨rfl, htransfers, hcons⟩ := consulting_inserted rfl rfl hp hx hfresh hreg hins
  dsimp only
  obtain ⟨h₁, h₂, h₃, h₄, h₅, h₆, h₇, h₈, h₉, h₁₀, h₁₁, h₁₂, h₁₃, h₁₄, h₁₅⟩ := hcons
  refine ⟨_, ⟨h₁, h₂, h₃, h₄, h₅, h₆, h₇, h₈, h₉, h₁₀, h₁₁, h₁₂, h₁₃, h₁₄, h₁₅⟩, ?_, rfl⟩
  rw [setCallSelected_frame, setActiveCall_frame]
  exact htransfers

section Consultation

variable {c : CallId} {d : DeviceId} {p : PbxCallId} {x : CallAppearanceId}

/-- The new call is found under its handset id. -/
theorem Consulting.shown (h : Consulting s c d p x s') :
    ∃ a, s'.appearanceForCall c = some a ∧ a.sccpId = c ∧ a.pbxId = p := by
  obtain ⟨a, ha, hc, hp, -⟩ := h.appearance
  refine ⟨a, ?_, hc, hp⟩
  unfold appearanceForCall
  rw [h.index]
  exact ha

/-- Edits of the new call's own records. -/
theorem Consulting.edit (h : Consulting s c d p x s') {f : CallAppearance → CallAppearance}
    {g : PbxCall → PbxCall}
    (hf : ∀ a, (f a).sccpId = a.sccpId ∧ (f a).pbxId = a.pbxId ∧ (f a).deviceId = a.deviceId)
    (hg : ∀ call, (g call).appearanceIds = call.appearanceIds) :
    Consulting s c d p x ((s'.modifyAppearanceOf c f).modifyCall p g) := by
  have hdef : (s'.modifyAppearanceOf c f).modifyCall p g
      = { s' with pbx := s'.pbx.modify p g, appearances := s'.appearances.modify x f } := by
    unfold modifyAppearanceOf
    rw [h.index]
    rfl
  obtain ⟨call, hcall, hids⟩ := h.call
  obtain ⟨a, ha, hac, hap, had⟩ := h.appearance
  rw [hdef]
  refine ⟨h.freshCall, h.freshAppearance, h.freshIndex, ⟨g call, ?_, (hg call).trans hids⟩,
    fun q hq => ?_, ⟨f a, ?_, (hf a).1.trans hac, (hf a).2.1.trans hap, (hf a).2.2.trans had⟩,
    fun y hy => ?_, h.index, h.indexes, h.active, h.selected, h.registered, h.redirectClaims,
    h.conferencesByPbx, h.features⟩
  · exact (Table.get?_modify _ _ _ _).trans (by rw [if_pos rfl, hcall]; rfl)
  · exact (Table.get?_modify _ _ _ _).trans ((if_neg hq).trans (h.calls q hq))
  · exact (Table.get?_modify _ _ _ _).trans (by rw [if_pos rfl, ha]; rfl)
  · exact (Table.get?_modify _ _ _ _).trans ((if_neg hy).trans (h.appearances y hy))

theorem Consulting.withTransfers (h : Consulting s c d p x s') (transfers : TransferRegistry) :
    Consulting s c d p x { s' with transfers } :=
  ⟨h.freshCall, h.freshAppearance, h.freshIndex, h.call, h.calls, h.appearance, h.appearances,
    h.index, h.indexes, h.active, h.selected, h.registered, h.redirectClaims, h.conferencesByPbx,
    h.features⟩

/-- The records are those of a state again; only the device has lost its active
    call. -/
structure Vanished (s : Controller) (c : CallId) (d : DeviceId) (s' : Controller) : Prop where
  calls : ∀ q, s'.pbx.get? q = s.pbx.get? q
  appearances : ∀ y, s'.appearances.get? y = s.appearances.get? y
  indexes : ∀ y, s'.bySccp.get? y = s.bySccp.get? y
  active : s'.activeCallOf d = none
  selected : ∀ y, y ∈ s'.selectedOf d ↔ y ∈ s.selectedOf d ∧ y ≠ c
  registered : s'.devices.contains d = true
  redirectClaims : ∀ q, q ∈ s'.redirectClaims → q ∈ s.redirectClaims
  conferencesByPbx : s'.conferencesByPbx = s.conferencesByPbx
  features : s'.features = s.features

/-- Removing the new call leaves no trace of it. -/
theorem Consulting.removed (h : Consulting s c d p x s') : Vanished s c d (s'.removePbxCall p).1
      ∧ (s'.removePbxCall p).1.transfers = s'.transfers := by
  obtain ⟨call, hcall, hids⟩ := h.call
  obtain ⟨a, ha, hac, hap, had⟩ := h.appearance
  subst hac hap had
  let s₁ := s'.releaseCallClaims a.pbxId
  have hcall₁ : s₁.pbx.get? a.pbxId = some call := hcall
  have ha₁ : s₁.appearances.get? x = some a := ha
  have hone : (s₁.removeAppearances [x]) = (s₁.removeAppearance x).1 := rfl
  have hremove : (s₁.removeAppearance x).1 = { s₁ with
      appearances := s₁.appearances.erase x
      callWaitingTones := s₁.callWaitingTones.filter fun _ schedule =>
        schedule.waitingCallId ≠ a.sccpId ∧ schedule.activeCallId ≠ a.sccpId
      pendingPhoneAnswers := s₁.pendingPhoneAnswers.erase a.sccpId
      pendingRouteMedia := without s₁.pendingRouteMedia a.sccpId
      bySccp := s₁.bySccp.erase a.sccpId
      byDevice := dropFromDevice s₁.byDevice a.deviceId x
      pbx := s₁.pbx.modify a.pbxId fun call => forgetAppearance call x
      sharedControlClaims :=
        if s₁.sharedControlClaims.get? a.pbxId = some (.steal x) then
          s₁.sharedControlClaims.erase a.pbxId
        else s₁.sharedControlClaims
      devices := s₁.devices.modify a.deviceId fun device => forgetCall device a.sccpId } := by
    unfold removeAppearance
    rw [ha₁]
  have hgone : (s₁.removeAppearance x).1.pbx.get? a.pbxId = some (forgetAppearance call x) := by
    rw [hremove]
    exact (Table.get?_modify _ _ _ _).trans (by rw [if_pos rfl, hcall₁]; rfl)
  have hdef : (s'.removePbxCall a.pbxId).1
      = { (s₁.removeAppearance x).1 with pbx := (s₁.removeAppearance x).1.pbx.erase a.pbxId } := by
    unfold removePbxCall
    dsimp only
    rw [show (s'.releaseCallClaims a.pbxId).pbx.get? a.pbxId = some call from hcall]
    dsimp only
    rw [hids, show (s'.releaseCallClaims a.pbxId).removeAppearances [x]
      = (s₁.removeAppearance x).1 from rfl, hgone]
  obtain ⟨state, hstate, hstateCall⟩ := Option.bind_eq_some_iff.mp h.active
  have hdevice : (s'.devices.modify a.deviceId fun device => forgetCall device a.sccpId).get?
      a.deviceId = some (forgetCall state a.sccpId) := by
    rw [Table.get?_modify, if_pos rfl, hstate]
    rfl
  rw [hdef, hremove]
  refine ⟨⟨fun q => ?_, fun y => ?_, fun y => ?_, ?_, fun y => ?_, ?_, fun q hq => ?_,
    h.conferencesByPbx, h.features⟩, rfl⟩
  · refine (Table.get?_erase _ _ _).trans ?_
    split
    · next hq => rw [hq, h.freshCall]
    · next hq => exact (Table.get?_modify _ _ _ _).trans ((if_neg hq).trans (h.calls q hq))
  · refine (Table.get?_erase _ _ _).trans ?_
    split
    · next hy => rw [hy, h.freshAppearance]
    · next hy => exact h.appearances y hy
  · refine (Table.get?_erase _ _ _).trans ?_
    split
    · next hy => rw [hy, h.freshIndex]
    · next hy => exact h.indexes y hy
  · refine (congrArg (Option.bind · (·.activeCall)) hdevice).trans ?_
    show (if state.activeCall = some a.sccpId then none else state.activeCall) = none
    rw [if_pos hstateCall]
  · have hafter := h.selected y
    rw [selectedOf, hstate, Option.map_some, Option.getD_some] at hafter
    show y ∈ (((s'.devices.modify a.deviceId fun device => forgetCall device a.sccpId).get?
      a.deviceId).map (·.selectedCalls)).getD [] ↔ _
    rw [hdevice, Option.map_some, Option.getD_some]
    refine mem_without.trans ((and_congr_left' hafter).trans ?_)
    exact ⟨fun hy => ⟨hy.1.resolve_left hy.2, hy.2⟩, fun hy => ⟨.inr hy.1, hy.2⟩⟩
  · exact Table.contains_iff.mpr ⟨_, hdevice⟩
  · exact h.redirectClaims ▸ (mem_without.mp hq).1

end Consultation

/-! ## What `begin_transfer` checks -/

/-- What `begin_transfer` has checked when it allocates an id. -/
structure TransferReady (s : Controller) (request : TransferConsultationRequest)
    (source : CallAppearance) (call : PbxCall) : Prop where
  shown : s.appearanceForCall request.sourceCallId = some source
  distinct : request.sourceCallId ≠ request.consultationCallId
  device : request.binding.deviceId = source.deviceId
  live : s.pbx.get? source.pbxId = some call
  shownConnected : source.state = .connected
  connected : call.state = .connected
  owned : call.activeAppearance = some source.id
  active : s.activeCallOf source.deviceId = some request.sourceCallId
  unclaimed : source.pbxId ∉ s.redirectClaims
  unconferenced : s.conferencesByPbx.get? source.pbxId = none
  unbarging : s.bargesByHandset.contains request.sourceCallId = false
  idle : s.transfers.get source.deviceId = none
  fresh : s.bySccp.get? request.consultationCallId = none

/-- A request that fails one of these checks changes nothing. -/
theorem beginTransfer_unready {request : TransferConsultationRequest}
    (h : ¬ ∃ source call, TransferReady s request source call) :
    (s.beginTransfer request).1 = s := by
  unfold beginTransfer
  split
  · rfl
  next source hshown =>
  split
  · rfl
  next hids =>
  simp only [not_or, ne_eq, not_not] at hids
  split
  · rfl
  next call hcall =>
  split
  · rfl
  next hguard =>
  unfold transferSourceGuard at hguard
  split at hguard
  · cases hguard
  next hphase =>
  split at hguard
  · cases hguard
  next hconflict =>
  simp only [not_or, ne_eq, not_not, Bool.not_eq_true,
    Option.isSome_eq_false_iff, Option.isNone_iff_eq_none] at hphase hconflict
  obtain ⟨hst, hcst, hown, hact⟩ := hphase
  obtain ⟨hred, hconf, hbarge, htr, hnew⟩ := hconflict
  exact absurd ⟨source, call, hshown, hids.1, hids.2, hcall, hst, hcst,
    hown, hact, hred, Table.not_contains_iff.mp hconf, hbarge, htr,
    Table.not_contains_iff.mp hnew⟩ h

/-- The state in which the source is about to be held: an id is allocated. -/
def withTransferId (s : Controller) : Controller :=
  { s with transfers := s.transfers.allocateId.1 }

section Ready

variable {request : TransferConsultationRequest} {source : CallAppearance} {call : PbxCall}

theorem TransferReady.registered (ready : TransferReady s request source call) :
    s.devices.contains source.deviceId = true := by
  obtain ⟨state, hstate, -⟩ := Option.bind_eq_some_iff.mp ready.active
  exact Table.contains_iff.mpr ⟨state, hstate⟩

/-- The source can be held: it is not barged, and its answer is not pending. -/
structure Holdable (s : Controller) (request : TransferConsultationRequest)
    (source : CallAppearance) : Prop where
  unbarged : s.bargeGroups.get? source.pbxId = none
  unanswered : s.pendingPhoneAnswers.contains request.sourceCallId = false

theorem TransferReady.holdGuard (ready : TransferReady s request source call)
    (h : Holdable s request source) : HoldGuard s.withTransferId request.sourceCallId source call :=
  ⟨ready.shown, ready.live, ready.unclaimed, h.unbarged, h.unanswered,
    by simp [ready.connected, isEngaged], ready.owned⟩

theorem TransferReady.hold_refused (ready : TransferReady s request source call)
    (h : ¬ Holdable s request source) :
    s.withTransferId.hold request.sourceCallId = (s.withTransferId, []) := by
  refine Controller.hold_refused ?_
  rintro ⟨owner, call', guard⟩
  have howner := Option.mem_unique ready.shown guard.shown
  subst howner
  exact h ⟨guard.unbarged, guard.unanswered⟩

/-- The id the consultation gets does not depend on the hold of the source. -/
theorem allocatePbxId_congr (hkeys : s'.pbx.keys = s.pbx.keys)
    (hnext : s'.nextPbxId = s.nextPbxId) : s'.allocatePbxId.2 = s.allocatePbxId.2 := by
  unfold allocatePbxId
  rw [hkeys, hnext]

theorem allocatePbxId_hold (s : Controller) (c : CallId) :
    (s.hold c).1.allocatePbxId.2 = s.allocatePbxId.2 := by
  by_cases hguard : ∃ owner call, HoldGuard s c owner call
  case neg => rw [Controller.hold_refused hguard]
  case pos =>
    obtain ⟨owner, call, guard⟩ := hguard
    have hframe := (hold_held guard).frame
    refine allocatePbxId_congr ?_ (by rw [hframe])
    rw [hframe]
    exact Table.keys_modify _ _ _

/-- The state with the source held, if it can be. -/
def sourceHeld (s : Controller) (request : TransferConsultationRequest) : Controller :=
  (s.withTransferId.hold request.sourceCallId).1

/-- The hold leaves the registries that the consultation needs alone. -/
theorem TransferReady.sourceHeld (ready : TransferReady s request source call) :
    (s.sourceHeld request).bySccp = s.bySccp
      ∧ (s.sourceHeld request).transfers = s.transfers.allocateId.1
      ∧ (s.sourceHeld request).devices.contains source.deviceId = true := by
  unfold Controller.sourceHeld
  by_cases h : Holdable s request source
  · have hheld := hold_held (ready.holdGuard h)
    refine ⟨?_, ?_, (hheld.registered _).trans ready.registered⟩
    · rw [hheld.frame]
      rfl
    · rw [hheld.frame]
      rfl
  · rw [ready.hold_refused h]
    exact ⟨rfl, rfl, ready.registered⟩

/-- A checked request holds the source, creates the consultation and goes on to
    record the transaction. -/
theorem beginTransfer_ready (ready : TransferReady s request source call) :
    ∃ x s₂ consultation, Consulting (s.sourceHeld request) request.consultationCallId
        source.deviceId s.allocatePbxId.2 x s₂ ∧ s₂.transfers = s.transfers.allocateId.1
      ∧ consultation.sccpId = request.consultationCallId ∧ consultation.pbxId = s.allocatePbxId.2
      ∧ s.beginTransfer request = s₂.recordConsultation request s.transfers.allocateId.2 source
        consultation ((s.withTransferId.hold request.sourceCallId).2
          ++ [.backend (.createChannel request.consultationCallId s.allocatePbxId.2
            request.binding request.codec)]) := by
  obtain ⟨hindex, htransfers, hreg⟩ := ready.sourceHeld
  obtain ⟨x, hcons, htr, heffects⟩ := beginPhoneCall_consulting
    (s := s.sourceHeld request) (c := request.consultationCallId) request.codec request.now
    (by rw [hindex]; exact ready.fresh) (by rw [ready.device]; exact hreg)
  have hid : (s.sourceHeld request).allocatePbxId.2 = s.allocatePbxId.2 := allocatePbxId_hold _ _
  rw [hid, ready.device] at hcons
  rw [hid] at heffects
  obtain ⟨consultation, hshown, hsccp, hpbx⟩ := hcons.shown
  refine ⟨x, _, consultation, hcons, htr.trans htransfers, hsccp, hpbx, ?_⟩
  have hguard : s.transferSourceGuard request source call = none := by
    unfold transferSourceGuard
    rw [if_neg (by simp [ready.shownConnected, ready.connected, ready.owned, ready.active]),
      if_neg (by simp [ready.unclaimed, Table.not_contains_iff.mpr ready.unconferenced,
        ready.unbarging, ready.idle, Table.not_contains_iff.mpr ready.fresh])]
  -- the device's call is the source, which is in no conference and no barge
  have hactive : s.withTransferId.activeCallOf request.binding.deviceId
      = some request.sourceCallId := by
    rw [ready.device]
    exact ready.active
  have hplain : (s.withTransferId.conferenceSession request.sourceCallId).isSome = false := by
    have hshown : s.withTransferId.appearanceForCall request.sourceCallId = some source :=
      ready.shown
    have hconf : s.withTransferId.conferencesByPbx.get? source.pbxId = none := ready.unconferenced
    unfold conferenceSession conferenceSessionByPbx
    rw [hshown]
    dsimp only
    rw [hconf]
    rfl
  have hengaged : (s.withTransferId.callState request.sourceCallId).any isEngaged = true := by
    have hshown : s.withTransferId.appearanceForCall request.sourceCallId = some source :=
      ready.shown
    rw [callState, hshown, Option.map_some, Option.any_some, ready.shownConnected]
    rfl
  have hadditional : s.withTransferId.beginAdditionalPhoneCall request.consultationCallId
      request.binding request.codec request.now
      = (((s.sourceHeld request).beginPhoneCall request.consultationCallId request.binding
          request.codec request.now).1, .ok ((s.withTransferId.hold request.sourceCallId).2
          ++ ((s.sourceHeld request).beginPhoneCall request.consultationCallId request.binding
            request.codec request.now).2)) := by
    unfold beginAdditionalPhoneCall
    rw [if_neg (by
      rw [show s.withTransferId.bySccp.contains request.consultationCallId = false from
        Table.not_contains_iff.mpr ready.fresh, ready.device,
        show s.withTransferId.devices.contains source.deviceId = true from ready.registered]
      simp), hactive]
    dsimp only
    rw [Option.any_some, hplain, show s.withTransferId.bargesByHandset.contains
      request.sourceCallId = false from ready.unbarging, if_neg (by simp), Option.filter_some,
      if_pos hengaged]
    refine if_neg ?_
    rw [show (s.withTransferId.setAside (some request.sourceCallId)).1 = s.sourceHeld request
      from rfl, heffects]
    simp
  unfold beginTransfer
  rw [ready.shown]
  dsimp only
  rw [if_neg (by simp [ready.distinct, ready.device]), ready.live]
  dsimp only
  rw [hguard]
  dsimp only
  rw [show ({ s with transfers := s.transfers.allocateId.1 } : Controller) = s.withTransferId
    from rfl, hadditional]
  dsimp only
  rw [hshown, heffects]

/-! ## How it ends -/

/-- Another transaction has one of the legs: the source, or stale the id the
    consultation gets. -/
def Foreign (s : Controller) (request : TransferConsultationRequest) (source : CallAppearance) :
    Bool :=
  s.transfers.byDevice.any fun _ t => t.contains ⟨source.sccpId, source.pbxId⟩
    || t.contains ⟨request.consultationCallId, s.allocatePbxId.2⟩

/-- The hold of the source is among the effects exactly if it took place. -/
theorem holdsCall_begun (ready : TransferReady s request source call) (p : PbxCallId) :
    holdsCall source.pbxId (((s.withTransferId.hold request.sourceCallId).2
      ++ [DriverEffect.backend (.createChannel request.consultationCallId p request.binding
        request.codec)]).map (asConsultationChannel source.pbxId p)) = true
      ↔ Holdable s request source := by
  constructor
  · intro hholds
    by_contra h
    rw [ready.hold_refused h] at hholds
    simp [holdsCall, asConsultationChannel] at hholds
  intro h
  have guard := ready.holdGuard h
  rcases hold_cases s.withTransferId request.sourceCallId with
    hsame | ⟨owner, call', guard', h', -⟩
  · exact absurd (congrArg Prod.snd hsame) (hold_of_guard guard)
  obtain ⟨rfl, -⟩ := guard.unique guard'
  obtain ⟨effects, heffects⟩ := h'
  rw [heffects]
  simp [holdsCall, asConsultationChannel]

/-- A transaction that has just been stored can be cancelled. -/
theorem cancel_put (r : TransferRegistry) (t : TransferTransaction) (hphase : t.phase = .collecting)
    (reason : TransferCancellationReason) :
    ∃ cancellation, (r.put t).cancel t.deviceId t.id reason none
      = .ok ((r.put t).drop t.deviceId, cancellation) := by
  have hget : (r.put t).byDevice.get? t.deviceId = some t := by
    rw [TransferRegistry.put, Table.get?_insert, if_pos rfl]
  unfold TransferRegistry.cancel TransferTransaction.cancellation
  rw [hget, Option.filter_some, if_pos (by simp)]
  dsimp only
  rw [if_neg (by simp [hphase]), if_neg (by simp)]
  exact ⟨_, rfl⟩

/-- Storing and dropping a transaction of an idle device is no change. -/
theorem get_drop_put {r : TransferRegistry} (t : TransferTransaction) {d : DeviceId}
    (hd : t.deviceId = d) (hidle : r.get d = none) (d' : DeviceId) :
    ((r.put t).drop d).get d' = r.get d' := by
  refine (Table.get?_erase _ _ _).trans ?_
  split
  · next h => rw [h, hidle]
  · next h => exact (Table.get?_insert _ _ _ _).trans (if_neg (by rw [hd]; exact h))

/-- The two ends of a checked request: it succeeds, or the consultation is gone
    again and the source's resume has been tried. -/
theorem beginTransfer_outcome (ready : TransferReady s request source call) :
    (Holdable s request source ∧ s.Foreign request source = false
        ∧ ∃ s' effects, s.beginTransfer request = (s', .ok effects))
      ∨ (¬ (Holdable s request source ∧ s.Foreign request source = false)
        ∧ ∃ s₄ r, Vanished (s.sourceHeld request) request.consultationCallId source.deviceId s₄
          ∧ (∀ d, s₄.transfers.get d = s.transfers.get d)
          ∧ s.beginTransfer request = ((s₄.resume source.sccpId).1, .error r)) := by
  obtain ⟨x, s₂, consultation, hcons, htr, hsccp, hpbx, hdef⟩ := beginTransfer_ready ready
  have hother : source.pbxId ≠ s.allocatePbxId.2 := by
    intro h
    have hfresh : s.pbx.get? s.allocatePbxId.2 = none := s.allocatePbxId_fresh
    rw [← h, ready.live] at hfresh
    cases hfresh
  have hedited := hcons.edit (f := fun a => { a with state := .transferCollecting })
    (g := fun call => { call with state := .transferCollecting })
    (fun _ => ⟨rfl, rfl, rfl⟩) (fun _ => rfl)
  have htr₃ : ((s₂.modifyAppearanceOf request.consultationCallId fun a =>
      { a with state := .transferCollecting }).modifyCall s.allocatePbxId.2 fun call =>
        { call with state := .transferCollecting }).transfers = s.transfers.allocateId.1 := by
    rw [← htr]
    unfold modifyAppearanceOf
    split <;> rfl
  rw [hdef]
  unfold recordConsultation
  dsimp only
  rw [hsccp, hpbx]
  generalize ((s₂.modifyAppearanceOf request.consultationCallId fun a =>
      { a with state := .transferCollecting }).modifyCall s.allocatePbxId.2 fun call =>
        { call with state := .transferCollecting }) = s₃ at hedited htr₃
  rw [htr₃]
  have hattach : (TransferTransaction.forConsultation s.transfers.allocateId.2 source.deviceId
      ⟨source.sccpId, source.pbxId⟩ .connected request.completeOnHangup).attachConsultation
        ⟨request.consultationCallId, s.allocatePbxId.2⟩
      = .ok { TransferTransaction.forConsultation s.transfers.allocateId.2 source.deviceId
          ⟨source.sccpId, source.pbxId⟩ .connected request.completeOnHangup with
        consultation := some ⟨request.consultationCallId, s.allocatePbxId.2⟩ } := by
    unfold TransferTransaction.attachConsultation
    rw [if_neg (by simp [TransferTransaction.forConsultation]), if_neg]
    intro h
    exact hother (congrArg TransferLeg.pbxCallId h)
  have hnone : s.transfers.allocateId.1.byDevice.contains source.deviceId = false :=
    Table.not_contains_iff.mpr ready.idle
  have hinsert : s.transfers.allocateId.1.insert
      { TransferTransaction.forConsultation s.transfers.allocateId.2 source.deviceId
          ⟨source.sccpId, source.pbxId⟩ .connected request.completeOnHangup with
        consultation := some ⟨request.consultationCallId, s.allocatePbxId.2⟩ }
      = if s.Foreign request source = true then .error .conflict
        else .ok (s.transfers.allocateId.1.put
          { TransferTransaction.forConsultation s.transfers.allocateId.2 source.deviceId
              ⟨source.sccpId, source.pbxId⟩ .connected request.completeOnHangup with
            consultation := some ⟨request.consultationCallId, s.allocatePbxId.2⟩ }) := by
    unfold TransferRegistry.insert Foreign
    exact if_congr (by rw [← Bool.false_or (s.transfers.byDevice.any _), ← hnone]; rfl) rfl rfl
  rw [hattach]
  dsimp only
  rw [hinsert]
  by_cases hforeign : s.Foreign request source = true
  · rw [if_pos hforeign]
    obtain ⟨hvanished, hkept⟩ := hedited.removed
    refine .inr ⟨fun h => absurd (hforeign.symm.trans h.2) (by simp), _, _, hvanished,
      fun d => ?_, rfl⟩
    rw [hkept, htr₃]
    rfl
  rw [if_neg hforeign]
  dsimp only
  have hholds := holdsCall_begun ready s.allocatePbxId.2
  by_cases hheld : Holdable s request source
  · refine .inl ⟨hheld, by simpa using hforeign, ?_⟩
    rw [if_neg (by rw [hholds.mpr hheld]; simp)]
    exact ⟨_, _, rfl⟩
  rw [if_pos (by simpa using fun h => hheld (hholds.mp h))]
  obtain ⟨cancellation, hcancel⟩ := cancel_put s.transfers.allocateId.1
    { TransferTransaction.forConsultation s.transfers.allocateId.2 source.deviceId
        ⟨source.sccpId, source.pbxId⟩ .connected request.completeOnHangup with
      consultation := some ⟨request.consultationCallId, s.allocatePbxId.2⟩ } rfl
    .consultationFailure
  replace hcancel : (s.transfers.allocateId.1.put _).cancel source.deviceId
    s.transfers.allocateId.2 .consultationFailure none = _ := hcancel
  rw [hcancel]
  dsimp only
  obtain ⟨hvanished, hkept⟩ := ((hedited.withTransfers (s.transfers.allocateId.1.put
    { TransferTransaction.forConsultation s.transfers.allocateId.2 source.deviceId
        ⟨source.sccpId, source.pbxId⟩ .connected request.completeOnHangup with
      consultation := some ⟨request.consultationCallId, s.allocatePbxId.2⟩ })).withTransfers
    _).removed
  refine .inr ⟨fun h => hheld h.1, _, _, hvanished, fun d => ?_, rfl⟩
  rw [hkept]
  exact get_drop_put _ rfl ready.idle d

/-! ## What is restored -/

/-- The source call, its appearances, the active call, the line and the selection
    of its device and the transactions are as before, and there is no
    consultation. -/
structure SourceRestored (s : Controller) (request : TransferConsultationRequest)
    (s' : Controller) : Prop where
  call : ∀ source call, s.appearanceForCall request.sourceCallId = some source →
    s.pbx.get? source.pbxId = some call → s'.pbx.get? source.pbxId = some call
  appearances : ∀ source call, s.appearanceForCall request.sourceCallId = some source →
    s.pbx.get? source.pbxId = some call →
    ∀ id ∈ call.appearanceIds, s'.appearances.get? id = s.appearances.get? id
  active : ∀ source, s.appearanceForCall request.sourceCallId = some source →
    s'.activeCallOf source.deviceId = s.activeCallOf source.deviceId
  line : ∀ source, s.appearanceForCall request.sourceCallId = some source →
    s'.selectedLineOf source.deviceId = s.selectedLineOf source.deviceId
  selected : ∀ source, s.appearanceForCall request.sourceCallId = some source →
    ∀ y, y ∈ s'.selectedOf source.deviceId ↔ y ∈ s.selectedOf source.deviceId
  transfers : ∀ d, s'.transfers.get d = s.transfers.get d
  consultation : s'.bySccp.get? request.consultationCallId
    = s.bySccp.get? request.consultationCallId
  calls : ∀ p, s'.pbx.contains p = s.pbx.contains p

theorem SourceRestored.refl (s : Controller) (request : TransferConsultationRequest) :
    SourceRestored s request s :=
  ⟨fun _ _ _ h => h, fun _ _ _ _ _ _ => rfl, fun _ _ => rfl, fun _ _ => rfl,
    fun _ _ _ => Iff.rfl, fun _ => rfl, rfl, fun _ => rfl⟩

/-- A video stream is neither open nor has a token. -/
def VideoClosed : VideoMediaState → Prop
  | .ready _ receive transmit token => receive = .closed ∧ transmit = .closed ∧ token = none
  | _ => True

/-- An appearance as a hold and a resume of the call leave it: the one that resumes is
    connected with its audio opening, any other one is in use elsewhere without media. -/
def AsResumed (a : CallAppearance) (resumes : Prop) : Prop :=
  a.audioTransmit = .closed ∧ VideoClosed a.video
    ∧ (resumes → a.state = .connected ∧ a.audio = .opening)
    ∧ (¬ resumes → a.state = .remoteInUse ∧ a.audio = .closed)

theorem resumed_iff (owner id : CallAppearanceId) (a : CallAppearance) :
    (resumeEdit owner (some owner) id (holdEdit owner id a).appearance).appearance = a
      ↔ AsResumed a (id = owner) := by
  obtain ⟨⟩ := a
  next video _ =>
  have hvideo : video.closeStreams = video ↔ VideoClosed video := by
    cases video <;> simp [VideoMediaState.closeStreams, VideoClosed, eq_comm]
  by_cases h : id = owner <;> simp [resumeEdit, holdEdit, AsResumed, h, eq_comm]
  all_goals tauto

/-- A source that a hold and a resume leave as it is: nothing but the appearance
    shown keeps it from resuming, the call takes no privacy on, every appearance
    has the media the two leave (the owner's audio opening, the others in use
    elsewhere without media), and the device has the source's line and, of the
    call's handset calls, the source alone selected. -/
structure Restorable (s : Controller) (request : TransferConsultationRequest)
    (source : CallAppearance) (call : PbxCall) : Prop where
  keyed : source.sccpId = request.sourceCallId
  listed : ∀ id, s.bySccp.get? request.sourceCallId = some id → id ∈ call.appearanceIds
  privacy : (source.privacy || s.devicePrivacy source.deviceId) = true → call.privacy = true
  media : ∀ id ∈ call.appearanceIds, ∀ a, s.appearances.get? id = some a →
    AsResumed a (id = source.id)
  line : s.selectedLineOf source.deviceId = some source.lineInstance
  selected : request.sourceCallId ∈ s.selectedOf source.deviceId
  unselected : request.consultationCallId ∉ s.selectedOf source.deviceId
  alone : ∀ id ∈ call.appearanceIds, id ≠ source.id → ∀ a, s.appearances.get? id = some a →
    a.deviceId = source.deviceId → a.sccpId ≠ request.sourceCallId →
    a.sccpId ∉ s.selectedOf source.deviceId

theorem connectCall_held {owner : CallAppearanceId} {privacy : Bool} {call : PbxCall}
    (hstate : call.state = .connected) (howned : call.activeAppearance = some owner) :
    connectCall owner privacy { call with state := .held } = call
      ↔ (privacy = true → call.privacy = true) := by
  obtain ⟨⟩ := call
  cases hstate
  cases howned
  simp [connectCall, Bool.or_eq_left_iff_imp]

/-- The device is back on the source only if the resume of the source took
    effect. -/
theorem resumeReady_of_active {s₁ s₄ : Controller} {c y : CallId} {d : DeviceId} {n : CallId}
    (hv : Vanished s₁ n d s₄) (h : (s₄.resume y).1.activeCallOf d = some c) :
    y = c ∧ ∃ requester call, ResumeReady s₄ c requester call := by
  have hy : c = y := (activeCallOf_resume h).resolve_right fun hnone => by
    rw [hv.active] at hnone
    cases hnone
  subst hy
  refine ⟨rfl, ?_⟩
  rcases resume_cases s₄ c with ⟨hsame, -⟩ | ⟨-, hready⟩
  · rw [hsame] at h
    cases hv.active.symm.trans h
  · exact hready

/-- A source that could not be held cannot be resumed: its device stays on no
    call. -/
theorem not_restored_unheld (ready : TransferReady s request source call)
    (hheld : ¬ Holdable s request source) {s₄ : Controller}
    (hv : Vanished (s.sourceHeld request) request.consultationCallId source.deviceId s₄) :
    ¬ SourceRestored s request (s₄.resume source.sccpId).1 := by
  intro h
  obtain ⟨-, requester, call', hready⟩ :=
    resumeReady_of_active hv ((h.active source ready.shown).trans ready.active)
  rw [sourceHeld, ready.hold_refused hheld] at hv
  obtain ⟨id, hid, ha⟩ := appearanceForCall_some ready.shown
  have hshown : s₄.appearanceForCall request.sourceCallId = some source := by
    have hid' : s.withTransferId.bySccp.get? request.sourceCallId = some id := hid
    unfold appearanceForCall
    rw [hv.indexes, hid']
    exact (hv.appearances id).trans ha
  obtain rfl := Option.mem_unique hshown hready.shown
  have hlive := (hv.calls source.pbxId).symm.trans hready.live
  rw [show s.withTransferId.pbx.get? source.pbxId = some call from ready.live] at hlive
  have hheld' := hready.held
  rw [← Option.some.inj hlive, ready.connected] at hheld'
  cases hheld'

/-- The records of the source once the consultation is gone. -/
structure SourceAside (s : Controller) (request : TransferConsultationRequest)
    (source : CallAppearance) (call : PbxCall) (s₄ : Controller) : Prop where
  live : s₄.pbx.get? source.pbxId = some { call with state := .held }
  calls : ∀ p, s₄.pbx.contains p = s.pbx.contains p
  index : s₄.bySccp.get? request.sourceCallId = s.bySccp.get? request.sourceCallId
  consultation : s₄.bySccp.get? request.consultationCallId = none
  appearances : ∀ x, s₄.appearances.get? x = if x ∈ call.appearanceIds then
        (s.appearances.get? x).map fun a => (holdEdit source.id x a).appearance
      else s.appearances.get? x
  selected : ∀ y, y ∈ s₄.selectedOf source.deviceId ↔ (y ∈ s.selectedOf source.deviceId
    ∧ y ≠ request.sourceCallId) ∧ y ≠ request.consultationCallId
  registered : s₄.devices.contains source.deviceId = true
  unclaimed : source.pbxId ∉ s₄.redirectClaims
  unconferenced : s₄.conferencesByPbx.get? source.pbxId = none
  privacy : s₄.devicePrivacy source.deviceId = s.devicePrivacy source.deviceId

theorem TransferReady.aside (ready : TransferReady s request source call)
    (hheld : Holdable s request source) {s₄ : Controller}
    (hv : Vanished (s.sourceHeld request) request.consultationCallId source.deviceId s₄) :
    SourceAside s request source call s₄ := by
  have guard := ready.holdGuard hheld
  have hsel := mem_selectedOf_hold guard ready.registered
  have h := hold_held guard
  change Held s.withTransferId source call (s.sourceHeld request) at h
  change ∀ y, y ∈ (s.sourceHeld request).selectedOf source.deviceId ↔ _ at hsel
  refine ⟨(hv.calls _).trans (h.pbx_self ready.live), fun p => ?_, ?_, ?_, fun x => ?_,
    fun y => (hv.selected y).trans (and_congr_left' (hsel y)), hv.registered, fun hp => ?_, ?_, ?_⟩
  · unfold Table.contains
    rw [hv.calls]
    show (s.sourceHeld request).pbx.contains p = s.pbx.contains p
    rw [h.frame]
    exact Table.contains_modify _ _ _ _
  · rw [hv.indexes, h.frame]
    rfl
  · rw [hv.indexes, h.frame]
    exact ready.fresh
  · exact (hv.appearances x).trans (h.appearance x)
  · have hp' := hv.redirectClaims _ hp
    rw [h.frame] at hp'
    exact ready.unclaimed hp'
  · rw [hv.conferencesByPbx, h.frame]
    exact ready.unconferenced
  · unfold devicePrivacy
    rw [hv.features, h.frame]
    rfl

/-- The source shown held: what a resume reads of it is unchanged. -/
theorem SourceAside.shown (ready : TransferReady s request source call) {s₄ : Controller}
    (h : SourceAside s request source call s₄) {id : CallAppearanceId}
    (hid : s.bySccp.get? request.sourceCallId = some id) :
    s₄.appearanceForCall request.sourceCallId = some (if id ∈ call.appearanceIds then
      (holdEdit source.id id source).appearance else source) := by
  have ha : s.appearances.get? id = some source := by
    have hshown := ready.shown
    unfold appearanceForCall at hshown
    rw [hid] at hshown
    exact hshown
  unfold appearanceForCall
  rw [h.index, hid]
  dsimp only
  rw [h.appearances, ha]
  split <;> rfl

/-- The source can be resumed exactly if its appearance is one of the call's. -/
theorem SourceAside.resumeReady (ready : TransferReady s request source call) {s₄ : Controller}
    (h : SourceAside s request source call s₄) {id : CallAppearanceId}
    (hid : s.bySccp.get? request.sourceCallId = some id) :
    (∃ requester call', ResumeReady s₄ request.sourceCallId requester call')
      ↔ id ∈ call.appearanceIds := by
  have hshown := h.shown ready hid
  constructor
  · rintro ⟨requester, call', hready⟩
    by_contra hunlisted
    rw [if_neg hunlisted] at hshown
    obtain rfl := Option.mem_unique hshown hready.shown
    have hstate := hready.shownHeld
    rw [ready.shownConnected] at hstate
    rcases hstate with hstate | hstate <;> cases hstate
  intro hlisted
  rw [if_pos hlisted] at hshown
  obtain ⟨hpbx, hkey, hdev, -⟩ := holdEdit_fields source.id id source
  refine ⟨_, { call with state := .held }, hshown, ?_, ?_, ?_, rfl, holdEdit_shownHeld, .inl ?_⟩
  · rw [hpbx]
    exact h.live
  · rw [hpbx]
    exact h.unclaimed
  · rw [hpbx]
    exact h.unconferenced
  · rw [hkey]
    exact ready.owned

/-- What the resume of the held source makes of the records. -/
structure SourceBack (s : Controller) (request : TransferConsultationRequest)
    (source : CallAppearance) (call : PbxCall) (s₅ : Controller) : Prop where
  live : s₅.pbx.get? source.pbxId = some
    (connectCall source.id (source.privacy || s.devicePrivacy source.deviceId)
      { call with state := .held })
  calls : ∀ p, s₅.pbx.contains p = s.pbx.contains p
  appearances : ∀ x ∈ call.appearanceIds, s₅.appearances.get? x = (s.appearances.get? x).map
    fun a =>
      (resumeEdit source.id (some source.id) x (holdEdit source.id x a).appearance).appearance
  active : s₅.activeCallOf source.deviceId = some request.sourceCallId
  line : s₅.selectedLineOf source.deviceId = some source.lineInstance
  selected : ∀ y, y ∈ s₅.selectedOf source.deviceId ↔ y = request.sourceCallId
    ∨ (((y ∈ s.selectedOf source.deviceId ∧ y ≠ request.sourceCallId)
        ∧ y ≠ request.consultationCallId)
      ∧ ∀ id ∈ call.appearanceIds, id ≠ source.id → ∀ a, s.appearances.get? id = some a →
        a.deviceId = source.deviceId → a.sccpId ≠ y)
  consultation : s₅.bySccp.get? request.consultationCallId = none

theorem SourceAside.back (ready : TransferReady s request source call) {s₄ : Controller}
    (h : SourceAside s request source call s₄) {id : CallAppearanceId}
    (hid : s.bySccp.get? request.sourceCallId = some id) (hlisted : id ∈ call.appearanceIds) :
    SourceBack s request source call (s₄.resume request.sourceCallId).1
      ∧ (s₄.resume request.sourceCallId).1.transfers = s₄.transfers := by
  obtain ⟨requester, call', hready⟩ := (h.resumeReady ready hid).mpr hlisted
  have hshown := h.shown ready hid
  rw [if_pos hlisted] at hshown
  have hrequester := Option.mem_unique hshown hready.shown
  obtain ⟨hpbx, hkey, hdev, -⟩ := holdEdit_fields source.id id source
  obtain ⟨-, hpriv, hline⟩ := holdEdit_kept source.id id source
  rw [hrequester] at hpbx hkey hdev hpriv hline
  have hlive := hready.live
  rw [hpbx, h.live] at hlive
  obtain rfl := Option.some.inj hlive
  have hback := resume_resumed hready (by rw [hkey]; exact ready.owned)
    (by rw [hdev]; exact h.registered)
  refine ⟨⟨?_, fun p => ?_, fun x hx => ?_, hdev ▸ hback.active, ?_, fun y => ?_, ?_⟩,
    hback.transfers⟩
  · rw [hback.calls, hpbx, hkey, hpriv, hdev, h.privacy]
    exact (Table.get?_modify _ _ _ _).trans (by rw [if_pos rfl, h.live]; rfl)
  · rw [hback.calls, Table.contains_modify]
    exact h.calls p
  · rw [hback.appearance, if_pos hx, h.appearances, if_pos hx, Option.map_map, hkey]
    rfl
  · rw [← hdev, hback.line, hline]
  · have hsel := hback.selected y
    rw [hdev] at hsel
    rw [hsel, h.selected, hkey]
    refine or_congr_right (and_congr_right fun _ => forall₃_congr fun id' hid' _ => ?_)
    -- the hold keeps the device and the handset call of every record
    rw [h.appearances, if_pos hid']
    cases s.appearances.get? id' with
    | none => simp
    | some a =>
      simp only [Option.map_some, Option.some.injEq, forall_eq', (holdEdit_fields ..).2.2.1,
        (holdEdit_kept ..).1]
  · rw [hback.bySccp]
    exact h.consultation

/-- A resumed source is as before exactly if it was restorable. -/
theorem SourceBack.restored_iff (ready : TransferReady s request source call) {s₅ : Controller}
    (h : SourceBack s request source call s₅)
    (htransfers : ∀ d, s₅.transfers.get d = s.transfers.get d)
    (hkeyed : source.sccpId = request.sourceCallId)
    (hlisted : ∀ id, s.bySccp.get? request.sourceCallId = some id → id ∈ call.appearanceIds) :
    SourceRestored s request s₅ ↔ Restorable s request source call := by
  constructor
  · intro hr
    have hsel : ∀ y, y ∈ s.selectedOf source.deviceId → _ := fun y hy =>
      (h.selected y).mp ((hr.selected source ready.shown y).mpr hy)
    refine ⟨hkeyed, hlisted, ?_, fun x hx a ha => ?_, ?_, ?_, fun hy => ?_,
      fun x hx hne a ha hd hother hy => ?_⟩
    · exact (connectCall_held ready.connected ready.owned).mp
        (Option.some.inj (h.live.symm.trans (hr.call source call ready.shown ready.live)))
    · have hsame := (h.appearances x hx).symm.trans
        (hr.appearances source call ready.shown ready.live x hx)
      rw [ha] at hsame
      exact (resumed_iff ..).mp (Option.some.inj hsame)
    · exact (hr.line source ready.shown).symm.trans h.line
    · exact (hr.selected source ready.shown _).mp ((h.selected _).mpr (.inl rfl))
    · rcases hsel _ hy with h' | h'
      · exact ready.distinct h'.symm
      · exact h'.1.2 rfl
    · exact ((hsel _ hy).resolve_left hother).2 x hx hne a ha hd rfl
  · intro hr
    refine ⟨fun source' call' hs hc => ?_, fun source' call' hs hc x hx => ?_,
      fun source' hs => ?_, fun source' hs => ?_, fun source' hs y => ?_, htransfers,
      h.consultation.trans ready.fresh.symm, h.calls⟩
    all_goals obtain rfl := Option.mem_unique ready.shown hs
    · obtain rfl := Option.mem_unique ready.live hc
      rw [h.live, (connectCall_held ready.connected ready.owned).mpr hr.privacy]
    · obtain rfl := Option.mem_unique ready.live hc
      rw [h.appearances x hx]
      cases ha : s.appearances.get? x with
      | none => rfl
      | some a => exact congrArg some ((resumed_iff ..).mpr (hr.media x hx a ha))
    · rw [h.active, ready.active]
    · rw [h.line, hr.line]
    · rw [h.selected]
      constructor
      · rintro (rfl | hy)
        · exact hr.selected
        · exact hy.1.1.1
      intro hy
      by_cases hc : y = request.sourceCallId
      · exact .inl hc
      · refine .inr ⟨⟨⟨hy, hc⟩, fun hn => hr.unselected (hn ▸ hy)⟩,
          fun x hx hne a ha hd hsame => ?_⟩
        exact hr.alone x hx hne a ha hd (hsame ▸ hc) (hsame ▸ hy)

/-- A failed start leaves its source, the device and the transactions as they
    were, and no consultation. -/
def RestoresSource (s : Controller) (request : TransferConsultationRequest) : Prop :=
  ∀ r, (s.beginTransfer request).2 = .error r → SourceRestored s request (s.beginTransfer request).1

/-- In every state a failed start restores its source exactly if it is rejected
    by the first checks, or the source can be held and either no other
    transaction has one of the legs or a hold and a resume leave the source as it
    is. -/
theorem restoresSource_iff (s : Controller) (request : TransferConsultationRequest) :
    s.RestoresSource request ↔ ∀ source call, TransferReady s request source call →
      Holdable s request source
        ∧ (s.Foreign request source = false ∨ Restorable s request source call) := by
  by_cases hready : ∃ source call, TransferReady s request source call
  case neg =>
    refine ⟨fun _ source call ready => absurd ⟨source, call, ready⟩ hready, fun _ r _ => ?_⟩
    rw [beginTransfer_unready hready]
    exact .refl s request
  case pos =>
    obtain ⟨source, call, ready⟩ := hready
    have hone : (∀ source call, TransferReady s request source call → Holdable s request source
        ∧ (s.Foreign request source = false ∨ Restorable s request source call))
        ↔ Holdable s request source
          ∧ (s.Foreign request source = false ∨ Restorable s request source call) := by
      refine ⟨fun h => h source call ready, fun h source' call' ready' => ?_⟩
      obtain rfl := Option.some.inj (ready.shown.symm.trans ready'.shown)
      obtain rfl := Option.some.inj (ready.live.symm.trans ready'.live)
      exact h
    rw [hone]
    rcases beginTransfer_outcome ready with ⟨hheld, hforeign, s', effects, heq⟩
      | ⟨hlate, s₄, r, hv, htransfers, heq⟩
    · refine ⟨fun _ => ⟨hheld, .inl hforeign⟩, fun _ r hr => ?_⟩
      rw [heq] at hr
      cases hr
    have hrestores : s.RestoresSource request
        ↔ SourceRestored s request (s₄.resume source.sccpId).1 := by
      rw [RestoresSource, heq]
      exact ⟨fun h => h r rfl, fun h _ _ => h⟩
    rw [hrestores]
    by_cases hheld : Holdable s request source
    case neg =>
      exact ⟨fun h => absurd h (not_restored_unheld ready hheld hv), fun h => absurd h.1 hheld⟩
    case pos =>
      have haside := ready.aside hheld hv
      obtain ⟨id, hid, -⟩ := appearanceForCall_some ready.shown
      constructor
      · intro hr
        obtain ⟨hkeyed, hback⟩ :=
          resumeReady_of_active hv ((hr.active source ready.shown).trans ready.active)
        have hlisted := (haside.resumeReady ready hid).mp hback
        obtain ⟨hsource, htr⟩ := haside.back ready hid hlisted
        rw [hkeyed] at hr
        refine ⟨hheld, .inr ((hsource.restored_iff ready (fun d => ?_) hkeyed
          fun id' hid' => ?_).mp hr)⟩
        · rw [htr]
          exact htransfers d
        · rw [← Option.mem_unique hid hid']
          exact hlisted
      · rintro ⟨-, hforeign | hr⟩
        · exact absurd ⟨hheld, hforeign⟩ hlate
        · obtain ⟨hsource, htr⟩ := haside.back ready hid (hr.listed id hid)
          rw [hr.keyed]
          refine (hsource.restored_iff ready (fun d => ?_) hr.keyed hr.listed).mpr hr
          rw [htr]
          exact htransfers d

end Ready

end Controller

namespace Sample

/-- A phone asks for a consultation before the backend has confirmed that its
    call was answered. -/
def unanswered : List Event :=
  [.operate (register desk), .operate (offer [(1, desk)]), .operate (.phoneAnswer ⟨1⟩)]

def transferRequest : TransferConsultationRequest :=
  { sourceCallId := ⟨1⟩, consultationCallId := ⟨2⟩, binding := binding desk, codec
    completeOnHangup := false, now := 0 }

/-- The appearance the consultation starts from. -/
def consulted : CallAppearance :=
  (((Controller.withDigitTimeouts 5 5).handleAll unanswered).appearanceForCall ⟨1⟩).get (by decide)

/-- The outcome of the start. -/
def consultationStart : Controller × Except TransferRejection (List DriverEffect) :=
  ((Controller.withDigitTimeouts 5 5).handleAll unanswered).beginTransfer transferRequest

end Sample

namespace Controller

/-- The hold of the source refuses, the consultation is removed, and the device
    is left without an active call. -/
theorem not_restoresSource_unanswered : ¬ ∀ firstDigit interdigit events request,
      ((withDigitTimeouts firstDigit interdigit).handleAll events).RestoresSource request := by
  intro h
  have hrejected : ¬ Sample.consultationStart.2.toOption.isSome = true := by decide
  have hactive : Sample.consultationStart.1.activeCallOf Sample.consulted.deviceId
      = ((withDigitTimeouts 5 5).handleAll Sample.unanswered).activeCallOf
        Sample.consulted.deviceId := by
    cases hres : Sample.consultationStart.2 with
    | error r =>
      exact (h 5 5 Sample.unanswered Sample.transferRequest r hres).active _
        (Option.some_get _).symm
    | ok effects => exact absurd (by rw [hres]; rfl) hrejected
  exact absurd hactive (by decide)

end Controller

end Sccp
