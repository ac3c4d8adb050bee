/-
  Sccp.Safety.CallRecords

  What holding, resuming and answering do to the records themselves, with the
  media, the privacy and the ring modes that the ledger leaves out.  Each
  operation writes a few tables; the lemmas here say which, and what becomes of
  each record in them.
-/

import Sccp.Ledger.Sharing

namespace Sccp

variable {s : Controller}

/-! ## Tables without an entry -/

namespace Table

variable {K V : Type} [DecidableEq K]

theorem filter_eq_self {t : Table K V} {p : K → V → Bool}
    (h : ∀ k v, t.get? k = some v → p k v = true) : t.filter p = t := by
  have hentries : t.entries.filter (fun e => p e.1 e.2) = t.entries :=
    List.filter_eq_self.mpr fun e he =>
      h e.1 e.2 (Table.get?_eq_some.mpr he)
  obtain ⟨entries, nodup⟩ := t
  simp only [Table.filter]
  congr 1

theorem erase_eq_self {t : Table K V} {k : K} (h : t.get? k = none) : t.erase k = t := by
  refine filter_eq_self fun k' v hk' => ?_
  have hne : k' ≠ k := by
    rintro rfl
    rw [h] at hk'
    cases hk'
  simpa using hne

theorem keys_modify (t : Table K V) (k : K) (f : V → V) : (t.modify k f).keys = t.keys := by
  simp [keys, modify, mapValues, List.map_map, Function.comp_def]

end Table

namespace Controller

/-! ## Devices -/

theorem setActiveCall_frame (d : DeviceId) (x : Option CallId) :
    s.setActiveCall d x = { s with devices := (s.setActiveCall d x).devices } := by
  unfold setActiveCall
  split <;> rfl

theorem setCallSelected_frame (d : DeviceId) (c : CallId) (selected : Bool) :
    s.setCallSelected d c selected
      = { s with devices := (s.setCallSelected d c selected).devices } := by
  unfold setCallSelected
  split <;> rfl

/-- Bringing a call to the front edits the device alone. -/
theorem focusDevice_frame (a : CallAppearance) (c : CallId) :
    s.focusDevice a c = { s with devices := (s.focusDevice a c).devices } := by
  unfold focusDevice
  dsimp only
  rw [setCallSelected_frame, setActiveCall_frame]
  rfl

theorem contains_setActiveCall (d d' : DeviceId) (x : Option CallId) :
    (s.setActiveCall d x).devices.contains d' = s.devices.contains d' := by
  unfold setActiveCall
  split
  · rfl
  · exact Table.contains_modify _ _ _ _

/-- Taking a device off its call puts no device on another one. -/
theorem activeCallOf_setActiveCall_none {d d' : DeviceId} {y : CallId}
    (h : (s.setActiveCall d none).activeCallOf d' = some y) : s.activeCallOf d' = some y := by
  have hset : (s.setActiveCall d none).devices.get? d'
      = if d' = d then (s.devices.get? d).map fun state => { state with activeCall := none }
        else s.devices.get? d' := Table.get?_modify _ _ _ _
  unfold activeCallOf at h ⊢
  rw [hset] at h
  split at h
  · cases hd : s.devices.get? d with
    | none => rw [hd] at h; cases h
    | some state => rw [hd] at h; cases h
  · exact h

theorem activeCallOf_setCallSelected (d d' : DeviceId) (c : CallId) (selected : Bool) :
    (s.setCallSelected d c selected).activeCallOf d' = s.activeCallOf d' := by
  unfold setCallSelected
  split
  · rfl
  unfold activeCallOf modifyDevice
  dsimp only
  rw [Table.get?_modify]
  split
  · next hd =>
    subst hd
    cases s.devices.get? d' <;> rfl
  · rfl

theorem contains_setCallSelected (d d' : DeviceId) (c : CallId) (selected : Bool) :
    (s.setCallSelected d c selected).devices.contains d' = s.devices.contains d' := by
  unfold setCallSelected
  split
  · rfl
  · exact Table.contains_modify _ _ _ _

/-! ## Loops over the appearances of a call -/

section Loops

variable {edit : CallAppearanceId → CallAppearance → AppearanceEdit}

/-- One round of a loop over appearances. -/
theorem forAppearances_cons_some {id : CallAppearanceId} {a : CallAppearance}
    (ha : s.appearances.get? id = some a) (rest : List CallAppearanceId) :
    (forAppearances edit s (id :: rest)).1 = (forAppearances edit (if (edit id a).deselect then
        (s.modifyAppearance id fun _ => (edit id a).appearance).deselect a
      else s.modifyAppearance id fun _ => (edit id a).appearance) rest).1 := by
  rw [forAppearances, ha]

variable (edit) in
/-- A loop over appearances writes appearances and devices. -/
theorem forAppearances_frame (ids : List CallAppearanceId) :
    (forAppearances edit s ids).1 = { s with
      appearances := (forAppearances edit s ids).1.appearances
      devices := (forAppearances edit s ids).1.devices } := by
  induction ids generalizing s with
  | nil => rfl
  | cons id rest ih =>
    unfold forAppearances
    split
    · exact ih
    · rw [ih]
      split <;> rfl

/-- A loop that deselects nothing leaves the devices alone. -/
theorem devices_forAppearances (h : ∀ id a, (edit id a).deselect = false)
    (ids : List CallAppearanceId) : (forAppearances edit s ids).1.devices = s.devices := by
  induction ids generalizing s with
  | nil => rfl
  | cons id rest ih =>
    unfold forAppearances
    split
    · exact ih
    · refine ih.trans ?_
      rw [if_neg (by simp [h])]
      rfl

/-- A loop whose edit says the same twice edits each listed appearance once. -/
theorem get?_forAppearances
    (h : ∀ id a, (edit id (edit id a).appearance).appearance = (edit id a).appearance)
    (ids : List CallAppearanceId) (x : CallAppearanceId) :
    (forAppearances edit s ids).1.appearances.get? x
      = if x ∈ ids then (s.appearances.get? x).map fun a => (edit x a).appearance
        else s.appearances.get? x := by
  induction ids generalizing s with
  | nil => rfl
  | cons id rest ih =>
    unfold forAppearances
    split
    · next hnone =>
      rw [ih]
      by_cases hx : x = id
      · subst hx
        simp [hnone]
      · simp [hx]
    next a ha =>
    have hstep : ∀ (s' : Controller),
        s'.appearances = s.appearances.modify id (fun _ => (edit id a).appearance) →
        (forAppearances edit s' rest).1.appearances.get? x
          = if x ∈ id :: rest then (s.appearances.get? x).map fun a => (edit x a).appearance
            else s.appearances.get? x := by
      intro s' hs'
      rw [ih, hs', Table.get?_modify]
      by_cases hx : x = id
      · subst hx
        simp [ha, h]
      · simp [hx]
    refine hstep (if (edit id a).deselect then
        (s.modifyAppearance id fun _ => (edit id a).appearance).deselect a
      else s.modifyAppearance id fun _ => (edit id a).appearance) ?_
    split <;> rfl

end Loops

variable {c : CallId} {owner : CallAppearance} {call : PbxCall}

/-! ## Hold -/

theorem hold_of_guard (guard : HoldGuard s c owner call) : (s.hold c).2 ≠ [] := by
  unfold hold
  rw [guard.shown]
  dsimp only
  rw [guard.live]
  dsimp only
  rw [if_neg]
  · exact List.cons_ne_nil _ _
  · simp [guard.unclaimed, guard.unanswered, guard.engaged, guard.owned,
      Table.not_contains_iff.mpr guard.unbarged]

theorem HoldGuard.unique {owner' : CallAppearance} {call' : PbxCall}
    (guard : HoldGuard s c owner call) (guard' : HoldGuard s c owner' call') :
    owner = owner' ∧ call = call' := by
  have howner := Option.some.inj (guard.shown.symm.trans guard'.shown)
  subst howner
  exact ⟨rfl, Option.some.inj (guard.live.symm.trans guard'.live)⟩

/-- Where nothing can be held, nothing happens. -/
theorem hold_refused (h : ¬ ∃ owner call, HoldGuard s c owner call) : s.hold c = (s, []) := by
  rcases hold_cases s c with hsame | ⟨owner, call, guard, -⟩
  · exact hsame
  · exact absurd ⟨owner, call, guard⟩ h

theorem closeStreams_closeStreams (v : VideoMediaState) :
    v.closeStreams.closeStreams = v.closeStreams := by
  cases v <;> rfl

theorem holdEdit_again (owner id : CallAppearanceId) (a : CallAppearance) :
    (holdEdit owner id (holdEdit owner id a).appearance).appearance
      = (holdEdit owner id a).appearance := by
  unfold holdEdit
  by_cases h : id = owner <;> simp [h, closeStreams_closeStreams]

/-- A held appearance stays what it was, whatever the hold does to its media. -/
theorem holdEdit_shownHeld {owner id : CallAppearanceId} {a : CallAppearance} :
    (holdEdit owner id a).appearance.state = .held
      ∨ (holdEdit owner id a).appearance.state = .sharedHeld := by
  unfold holdEdit
  dsimp only
  split
  · exact .inl rfl
  · exact .inr rfl

theorem holdEdit_fields (owner id : CallAppearanceId) (a : CallAppearance) :
    (holdEdit owner id a).appearance.pbxId = a.pbxId ∧ (holdEdit owner id a).appearance.id = a.id
      ∧ (holdEdit owner id a).appearance.deviceId = a.deviceId
      ∧ (holdEdit owner id a).appearance.ringMode = a.ringMode := by
  unfold holdEdit
  dsimp only
  split <;> exact ⟨rfl, rfl, rfl, rfl⟩

theorem holdEdit_kept (owner id : CallAppearanceId) (a : CallAppearance) :
    (holdEdit owner id a).appearance.sccpId = a.sccpId
      ∧ (holdEdit owner id a).appearance.privacy = a.privacy
      ∧ (holdEdit owner id a).appearance.lineInstance = a.lineInstance := by
  unfold holdEdit
  dsimp only
  split <;> exact ⟨rfl, rfl, rfl⟩

/-- What a hold that takes effect does to the records. -/
structure Held (s : Controller) (owner : CallAppearance) (call : PbxCall) (s' : Controller) :
    Prop where
  frame : s' = { s with
    pbx := s.pbx.modify owner.pbxId fun call => { call with state := .held }
    sharedControlClaims := s.sharedControlClaims.erase owner.pbxId
    appearances := s'.appearances, devices := s'.devices }
  appearance : ∀ x, s'.appearances.get? x = if x ∈ call.appearanceIds then
        (s.appearances.get? x).map fun a => (holdEdit owner.id x a).appearance
      else s.appearances.get? x
  registered : ∀ d, s'.devices.contains d = s.devices.contains d
  active : ∀ d y, s'.activeCallOf d = some y → s.activeCallOf d = some y

/-- The state after the appearances of a call have been shown held. -/
def heldLoop (s : Controller) (owner : CallAppearance) (call : PbxCall) : Controller :=
  (forAppearances (holdEdit owner.id)
    { s.modifyCall owner.pbxId fun call => { call with state := .held } with
      sharedControlClaims := s.sharedControlClaims.erase owner.pbxId } call.appearanceIds).1

theorem heldLoop_devices (owner : CallAppearance) (call : PbxCall) :
    (s.heldLoop owner call).devices = s.devices := by
  refine devices_forAppearances (fun id a => ?_) _
  unfold holdEdit
  dsimp only
  split <;> rfl

/-- A hold that takes effect takes the device off the call and deselects it. -/
theorem hold_eq (guard : HoldGuard s c owner call) :
    (s.hold c).1 = (if (s.devices.get? owner.deviceId).any (fun device =>
        device.activeCall = some c) then
        (s.heldLoop owner call).setActiveCall owner.deviceId none
      else s.heldLoop owner call).setCallSelected owner.deviceId c false := by
  rw [← heldLoop_devices owner call]
  unfold hold
  rw [guard.shown]
  dsimp only
  rw [guard.live]
  dsimp only
  rw [if_neg]
  · rfl
  · simp [guard.unclaimed, guard.unanswered, guard.engaged, guard.owned,
      Table.not_contains_iff.mpr guard.unbarged]

theorem hold_held (guard : HoldGuard s c owner call) : Held s owner call (s.hold c).1 := by
  have hframe := forAppearances_frame (holdEdit owner.id)
    (s := { s.modifyCall owner.pbxId fun call => { call with state := .held } with
      sharedControlClaims := s.sharedControlClaims.erase owner.pbxId }) call.appearanceIds
  have hget := get?_forAppearances
    (s := { s.modifyCall owner.pbxId fun call => { call with state := .held } with
      sharedControlClaims := s.sharedControlClaims.erase owner.pbxId })
    (holdEdit_again owner.id) call.appearanceIds
  have hdevices := s.heldLoop_devices owner call
  rw [hold_eq guard]
  change s.heldLoop owner call = _ at hframe
  have hlast : ∀ s₃ : Controller, s₃ = { s.heldLoop owner call with devices := s₃.devices } →
      (∀ d, s₃.devices.contains d = (s.heldLoop owner call).devices.contains d) →
      (∀ d y, s₃.activeCallOf d = some y → (s.heldLoop owner call).activeCallOf d = some y) →
      Held s owner call (s₃.setCallSelected owner.deviceId c false) := by
    intro s₃ h₃ hd₃ ha₃
    refine ⟨?_, ?_, fun d => ?_, fun d y hy => ?_⟩
    · rw [setCallSelected_frame, h₃, hframe]
      rfl
    · rw [setCallSelected_frame, h₃]
      exact hget
    · rw [← hdevices, ← hd₃]
      exact contains_setCallSelected _ _ _ _
    · have hy₂ := ha₃ d y ((activeCallOf_setCallSelected _ _ _ _).symm.trans hy)
      rw [activeCallOf, hdevices] at hy₂
      exact hy₂
  split
  · exact hlast _ (setActiveCall_frame _ _) (fun d => contains_setActiveCall _ _ _)
      fun d y => activeCallOf_setActiveCall_none
  · exact hlast _ rfl (fun d => rfl) fun d y hy => hy

/-- A handset call shows the same appearance after a hold, in another state if
    the call that is held lists it. -/
theorem Held.appearanceForCall {s' : Controller} (h : Held s owner call s') {id : CallAppearanceId}
    {a : CallAppearance} (hid : s.bySccp.get? c = some id) (ha : s.appearances.get? id = some a) :
    s'.appearanceForCall c = some (if id ∈ call.appearanceIds then
      (holdEdit owner.id id a).appearance else a) := by
  have hindex : s'.bySccp = s.bySccp := by rw [h.frame]
  unfold Controller.appearanceForCall
  rw [hindex, hid]
  dsimp only
  rw [h.appearance, ha]
  split <;> rfl

theorem Held.pbx_self {s' : Controller} (h : Held s owner call s')
    (hlive : s.pbx.get? owner.pbxId = some call) :
    s'.pbx.get? owner.pbxId = some { call with state := .held } := by
  rw [h.frame]
  exact (Table.get?_modify _ _ _ _).trans (by rw [if_pos rfl, hlive]; rfl)

theorem Held.pbx_of_ne {s' : Controller} (h : Held s owner call s') {p : PbxCallId}
    (hp : p ≠ owner.pbxId) : s'.pbx.get? p = s.pbx.get? p := by
  rw [h.frame]
  exact (Table.get?_modify _ _ _ _).trans (if_neg hp)

/-! ## Resume -/

/-- What `resume` asks for. -/
structure ResumeReady (s : Controller) (c : CallId) (requester : CallAppearance)
    (call : PbxCall) : Prop where
  shown : s.appearanceForCall c = some requester
  live : s.pbx.get? requester.pbxId = some call
  unclaimed : requester.pbxId ∉ s.redirectClaims
  unconferenced : s.conferencesByPbx.get? requester.pbxId = none
  held : call.state = .held
  shownHeld : requester.state = .held ∨ requester.state = .sharedHeld
  entitled : call.activeAppearance = some requester.id ∨ s.sharedControlEligible requester = true

/-- `resume` refuses and changes nothing, or is ready and has effects. -/
theorem resume_cases (s : Controller) (c : CallId) :
    (s.resume c = (s, []) ∧ ¬ ∃ requester call, ResumeReady s c requester call)
      ∨ ((s.resume c).2 ≠ [] ∧ ∃ requester call, ResumeReady s c requester call) := by
  unfold resume
  split
  · next hnone =>
    refine .inl ⟨rfl, ?_⟩
    rintro ⟨requester, call, ready⟩
    cases hnone.symm.trans ready.shown
  next requester hreq =>
  split
  · next hnone =>
    refine .inl ⟨rfl, ?_⟩
    rintro ⟨requester', call, ready⟩
    obtain rfl := Option.mem_unique hreq ready.shown
    cases hnone.symm.trans ready.live
  next call hcall =>
  split
  · next hg =>
    refine .inl ⟨rfl, ?_⟩
    rintro ⟨requester', call', ready⟩
    obtain rfl := Option.mem_unique hreq ready.shown
    obtain rfl := Option.mem_unique hcall ready.live
    have hplain := Table.not_contains_iff.mpr ready.unconferenced
    rcases hg with h | h | h | h | ⟨h, h'⟩
    · exact ready.unclaimed h
    · rw [hplain] at h; cases h
    · exact h ready.held
    · exact h ready.shownHeld
    · rcases ready.entitled with hown | helig
      · exact h hown
      · rw [helig] at h'; cases h'
  · next hg =>
    simp only [not_or, not_and, ne_eq, not_not, Bool.not_eq_true, Bool.not_eq_eq_eq_not] at hg
    obtain ⟨hred, hconf, hheld, hshown, helig⟩ := hg
    refine .inr ⟨List.cons_ne_nil _ _, requester, call, hreq, hcall, hred,
      Table.not_contains_iff.mp hconf, hheld, or_iff_not_imp_left.mpr hshown, ?_⟩
    by_cases hown : call.activeAppearance = some requester.id
    · exact .inl hown
    · exact .inr (by simpa using helig hown)

/-! ## Selections -/

/-- The calls a device has selected. -/
def selectedOf (s : Controller) (d : DeviceId) : List CallId :=
  ((s.devices.get? d).map (·.selectedCalls)).getD []

/-- The line a device has selected. -/
def selectedLineOf (s : Controller) (d : DeviceId) : Option Nat :=
  (s.devices.get? d).bind (·.selectedLine)

theorem get?_modifyDevice (d d' : DeviceId) (f : RegisteredDevice → RegisteredDevice) :
    (s.modifyDevice d f).devices.get? d'
      = if d' = d then (s.devices.get? d).map f else s.devices.get? d' := Table.get?_modify _ _ _ _

theorem selectedOf_setActiveCall (d d' : DeviceId) (x : Option CallId) :
    (s.setActiveCall d x).selectedOf d' = s.selectedOf d' := by
  unfold setActiveCall
  split
  · rfl
  unfold selectedOf
  rw [get?_modifyDevice]
  split
  · next hd =>
    subst hd
    cases s.devices.get? d' <;> rfl
  · rfl

/-- A device selects or deselects a call of its own. -/
theorem mem_selectedOf_setCallSelected {d : DeviceId} (howned : s.ownedBy c d = true)
    (hreg : s.devices.contains d = true) (selected : Bool) (y : CallId) :
    y ∈ (s.setCallSelected d c selected).selectedOf d
      ↔ if selected then y = c ∨ y ∈ s.selectedOf d else y ∈ s.selectedOf d ∧ y ≠ c := by
  obtain ⟨state, hstate⟩ := Table.contains_iff.mp hreg
  unfold setCallSelected selectedOf
  rw [howned, if_neg (by simp), get?_modifyDevice, if_pos rfl, hstate]
  cases selected <;> simp [mem_without]

theorem ownedBy_of_shown {a : CallAppearance} (h : s.appearanceForCall c = some a) :
    s.ownedBy c a.deviceId = true := by
  rw [ownedBy, h, Option.any_some, decide_eq_true_eq]

/-- A hold deselects the call and nothing else. -/
theorem mem_selectedOf_hold (guard : HoldGuard s c owner call)
    (hreg : s.devices.contains owner.deviceId = true) (y : CallId) :
    y ∈ (s.hold c).1.selectedOf owner.deviceId ↔ y ∈ s.selectedOf owner.deviceId ∧ y ≠ c := by
  have howned : ∀ s₃ : Controller, s₃ = { s.heldLoop owner call with devices := s₃.devices } →
      s₃.ownedBy c owner.deviceId = true := by
    intro s₃ h₃
    obtain ⟨id, hid, ha⟩ := appearanceForCall_some guard.shown
    have hget := get?_forAppearances
      (s := { s.modifyCall owner.pbxId fun call => { call with state := .held } with
        sharedControlClaims := s.sharedControlClaims.erase owner.pbxId })
      (holdEdit_again owner.id) call.appearanceIds id
    have hframe : (s.heldLoop owner call).bySccp = s.bySccp := by
      unfold heldLoop
      rw [forAppearances_frame]
      rfl
    have hshown : s₃.appearanceForCall c = some (if id ∈ call.appearanceIds then
        (holdEdit owner.id id owner).appearance else owner) := by
      rw [h₃]
      unfold appearanceForCall
      dsimp only
      rw [hframe, hid]
      refine hget.trans ?_
      change (if id ∈ call.appearanceIds then (s.appearances.get? id).map _
        else s.appearances.get? id) = _
      rw [ha]
      split <;> rfl
    rw [ownedBy, hshown, Option.any_some, decide_eq_true_eq]
    unfold holdEdit
    dsimp only
    split
    · split <;> rfl
    · rfl
  have hdevices := s.heldLoop_devices owner call
  rw [hold_eq guard]
  split
  · rw [mem_selectedOf_setCallSelected (howned _ (setActiveCall_frame _ _))
      (by rw [contains_setActiveCall, hdevices]; exact hreg), selectedOf_setActiveCall]
    unfold selectedOf
    rw [hdevices]
    simp
  · rw [mem_selectedOf_setCallSelected (howned _ rfl) (by rw [hdevices]; exact hreg)]
    unfold selectedOf
    rw [hdevices]
    simp

section Loops

variable {edit : CallAppearanceId → CallAppearance → AppearanceEdit}
  {dropped : CallAppearanceId → Bool}

variable (edit dropped) in
/-- A loop that takes the call from some appearances deselects their handset
    calls, and no others. -/
theorem mem_selectedOf_forAppearances (hdrop : ∀ id a, (edit id a).deselect = dropped id)
    (hkeep : ∀ id a, (edit id a).appearance.deviceId = a.deviceId
      ∧ (edit id a).appearance.sccpId = a.sccpId)
    (ids : List CallAppearanceId) (d : DeviceId) (y : CallId) :
    y ∈ (forAppearances edit s ids).1.selectedOf d ↔ y ∈ s.selectedOf d
      ∧ ∀ id ∈ ids, dropped id = true → ∀ a, s.appearances.get? id = some a →
        a.deviceId = d → a.sccpId ≠ y := by
  induction ids generalizing s with
  | nil => simp [forAppearances]
  | cons id rest ih =>
    cases ha : s.appearances.get? id with
    | none =>
      rw [show (forAppearances edit s (id :: rest)).1 = (forAppearances edit s rest).1 by
        rw [forAppearances, ha], ih]
      constructor
      · rintro ⟨hy, hrest⟩
        refine ⟨hy, fun id' hid' hd x hx => ?_⟩
        rcases List.mem_cons.mp hid' with rfl | hid'
        · rw [ha] at hx; cases hx
        · exact hrest id' hid' hd x hx
      · rintro ⟨hy, hall⟩
        exact ⟨hy, fun id' hid' => hall id' (List.mem_cons_of_mem _ hid')⟩
    | some a =>
      -- the records keep their device and their handset call through the round
      have hrecords : ∀ (s' : Controller),
          s'.appearances = s.appearances.modify id (fun _ => (edit id a).appearance) →
          ((∀ id' ∈ rest, dropped id' = true → ∀ x, s'.appearances.get? id' = some x →
              x.deviceId = d → x.sccpId ≠ y)
            ↔ ∀ id' ∈ rest, dropped id' = true → ∀ x, s.appearances.get? id' = some x →
              x.deviceId = d → x.sccpId ≠ y) := by
        intro s' hs'
        refine forall₃_congr fun id' _ _ => ?_
        rw [hs', Table.get?_modify]
        by_cases hid : id' = id
        · subst hid
          rw [if_pos rfl, ha]
          simp [(hkeep id' a).1, (hkeep id' a).2]
        · rw [if_neg hid]
      by_cases hd : dropped id = true
      · rw [forAppearances_cons_some ha, if_pos ((hdrop id a).trans hd), ih, hrecords _ rfl]
        have hsel : y ∈ ((s.modifyAppearance id fun _ => (edit id a).appearance).deselect
            a).selectedOf d ↔ y ∈ s.selectedOf d ∧ (a.deviceId = d → a.sccpId ≠ y) := by
          unfold deselect selectedOf
          rw [get?_modifyDevice]
          by_cases hdev : d = a.deviceId
          · subst hdev
            rw [if_pos rfl]
            show y ∈ ((s.devices.get? a.deviceId).map _ |>.map _).getD [] ↔ _
            cases s.devices.get? a.deviceId <;> simp [mem_without, eq_comm]
          · rw [if_neg hdev]
            exact ⟨fun h => ⟨h, fun h' => absurd h'.symm hdev⟩, And.left⟩
        rw [hsel]
        constructor
        · rintro ⟨⟨hy, hself⟩, hrest⟩
          refine ⟨hy, fun id' hid' hd' x hx => ?_⟩
          rcases List.mem_cons.mp hid' with rfl | hid'
          · rw [ha] at hx
            rw [← Option.some.inj hx]
            exact hself
          · exact hrest id' hid' hd' x hx
        · rintro ⟨hy, hall⟩
          exact ⟨⟨hy, hall id List.mem_cons_self hd a ha⟩,
            fun id' hid' => hall id' (List.mem_cons_of_mem _ hid')⟩
      · rw [forAppearances_cons_some ha, if_neg (by rw [hdrop]; exact hd), ih, hrecords _ rfl]
        refine and_congr_right fun _ => ⟨fun hrest id' hid' hd' => ?_, fun hall id' hid' =>
          hall id' (List.mem_cons_of_mem _ hid')⟩
        rcases List.mem_cons.mp hid' with rfl | hid'
        · exact absurd hd' hd
        · exact hrest id' hid' hd'

variable (edit) in
/-- A loop over appearances registers nobody and drops nobody. -/
theorem contains_forAppearances (ids : List CallAppearanceId) (d : DeviceId) :
    (forAppearances edit s ids).1.devices.contains d = s.devices.contains d := by
  induction ids generalizing s with
  | nil => rfl
  | cons id rest ih =>
    unfold forAppearances
    split
    · exact ih
    refine ih.trans ?_
    split
    · exact Table.contains_modify _ _ _ _
    · rfl

end Loops

/-! ## The records after a resume -/

theorem resumeEdit_again (requester : CallAppearanceId) (previous : Option CallAppearanceId)
    (id : CallAppearanceId) (a : CallAppearance) :
    (resumeEdit requester previous id (resumeEdit requester previous id a).appearance).appearance
      = (resumeEdit requester previous id a).appearance := by
  unfold resumeEdit
  by_cases h : id = requester <;> simp [h]

theorem resumeEdit_keeps (requester : CallAppearanceId) (previous : Option CallAppearanceId)
    (id : CallAppearanceId) (a : CallAppearance) :
    (resumeEdit requester previous id a).appearance.deviceId = a.deviceId
      ∧ (resumeEdit requester previous id a).appearance.sccpId = a.sccpId := by
  unfold resumeEdit
  split <;> exact ⟨rfl, rfl⟩

/-- What the owner's resume of its call does to the records. -/
structure Resumed (s : Controller) (c : CallId) (owner : CallAppearance) (call : PbxCall)
    (s' : Controller) : Prop where
  calls : s'.pbx = s.pbx.modify owner.pbxId
    (connectCall owner.id (owner.privacy || s.devicePrivacy owner.deviceId))
  appearance : ∀ x, s'.appearances.get? x = if x ∈ call.appearanceIds then
        (s.appearances.get? x).map fun a => (resumeEdit owner.id (some owner.id) x a).appearance
      else s.appearances.get? x
  bySccp : s'.bySccp = s.bySccp
  transfers : s'.transfers = s.transfers
  active : s'.activeCallOf owner.deviceId = some c
  line : s'.selectedLineOf owner.deviceId = some owner.lineInstance
  selected : ∀ y, y ∈ s'.selectedOf owner.deviceId ↔ y = c ∨ (y ∈ s.selectedOf owner.deviceId
    ∧ ∀ id ∈ call.appearanceIds, id ≠ owner.id → ∀ a, s.appearances.get? id = some a →
      a.deviceId = owner.deviceId → a.sccpId ≠ y)

/-- Bringing a call of its own to the front makes it a registered device's line,
    active call and a selected call. -/
theorem focusDevice_focused {a : CallAppearance} (howned : s.ownedBy c a.deviceId = true)
    (hreg : s.devices.contains a.deviceId = true) :
    (s.focusDevice a c).activeCallOf a.deviceId = some c
      ∧ (s.focusDevice a c).selectedLineOf a.deviceId = some a.lineInstance
      ∧ ∀ y, y ∈ (s.focusDevice a c).selectedOf a.deviceId
        ↔ y = c ∨ y ∈ s.selectedOf a.deviceId := by
  obtain ⟨state, hstate⟩ := Table.contains_iff.mp hreg
  have hline : (s.selectLine a.deviceId a.lineInstance).devices.get? a.deviceId
      = some { state with selectedLine := some a.lineInstance } := by
    rw [selectLine, get?_modifyDevice, if_pos rfl, hstate]
    rfl
  have howned₁ : (s.selectLine a.deviceId a.lineInstance).ownedBy c a.deviceId = true := howned
  have hactive : ((s.selectLine a.deviceId a.lineInstance).setActiveCall a.deviceId
      (some c)).devices.get? a.deviceId
      = some { state with selectedLine := some a.lineInstance, activeCall := some c } := by
    unfold setActiveCall
    rw [if_neg (by simp [howned₁]), get?_modifyDevice, if_pos rfl, hline]
    rfl
  have howned₂ : ((s.selectLine a.deviceId a.lineInstance).setActiveCall a.deviceId
      (some c)).ownedBy c a.deviceId = true := by
    rw [setActiveCall_frame]
    exact howned
  have hselected : (s.focusDevice a c).devices.get? a.deviceId
      = some { state with
        selectedLine := some a.lineInstance, activeCall := some c
        selectedCalls := state.selectedCalls.insert c } := by
    unfold focusDevice setCallSelected
    dsimp only
    rw [howned₂, if_neg (by simp), get?_modifyDevice, if_pos rfl, hactive]
    rfl
  refine ⟨?_, ?_, fun y => ?_⟩
  · rw [activeCallOf, hselected]
    rfl
  · rw [selectedLineOf, hselected]
    rfl
  · rw [selectedOf, selectedOf, hselected, hstate]
    exact List.mem_insert_iff

theorem resume_resumed (ready : ResumeReady s c owner call)
    (howned : call.activeAppearance = some owner.id)
    (hreg : s.devices.contains owner.deviceId = true) : Resumed s c owner call (s.resume c).1 := by
  let s₁ := s.modifyCall owner.pbxId
    (connectCall owner.id (owner.privacy || s.devicePrivacy owner.deviceId))
  have hdef : (s.resume c).1 = (forAppearances (resumeEdit owner.id (some owner.id)) s₁
      call.appearanceIds).1.focusDevice owner c := by
    unfold resume
    rw [ready.shown]
    dsimp only
    rw [ready.live]
    dsimp only
    rw [if_neg, howned, if_neg (by simp)]
    simp [ready.unclaimed, Table.not_contains_iff.mpr ready.unconferenced, ready.held,
      ready.shownHeld, howned]
  have hframe := forAppearances_frame (s := s₁) (resumeEdit owner.id (some owner.id))
    call.appearanceIds
  have hget := get?_forAppearances (s := s₁) (resumeEdit_again owner.id (some owner.id))
    call.appearanceIds
  have hsel := mem_selectedOf_forAppearances (s := s₁) (resumeEdit owner.id (some owner.id))
    (fun id => decide (id ≠ owner.id)) (fun id a => by unfold resumeEdit; split <;> simp [*])
    (fun id a => resumeEdit_keeps owner.id (some owner.id) id a) call.appearanceIds owner.deviceId
  have hcontains := contains_forAppearances (s := s₁) (resumeEdit owner.id (some owner.id))
    call.appearanceIds owner.deviceId
  rw [hdef]
  generalize (forAppearances (resumeEdit owner.id (some owner.id)) s₁ call.appearanceIds).1 = s₂
    at hframe hget hsel hcontains
  have hshown : s₂.ownedBy c owner.deviceId = true := by
    obtain ⟨id, hid, ha⟩ := appearanceForCall_some ready.shown
    have hindex : s₂.bySccp.get? c = some id := by rw [hframe]; exact hid
    have hrecord := hget id
    change _ = if id ∈ call.appearanceIds then (s.appearances.get? id).map _
      else s.appearances.get? id at hrecord
    rw [ha] at hrecord
    unfold ownedBy appearanceForCall
    rw [hindex]
    dsimp only
    rw [hrecord]
    split
    · rw [Option.map_some, Option.any_some, (resumeEdit_keeps ..).1]
      exact decide_eq_true rfl
    · exact decide_eq_true rfl
  obtain ⟨hactive, hline, hfocus⟩ := focusDevice_focused hshown (hcontains.trans hreg)
  refine ⟨?_, ?_, ?_, ?_, hactive, hline, fun y => ?_⟩
  · rw [focusDevice_frame, hframe]
    rfl
  · rw [focusDevice_frame]
    exact hget
  · rw [focusDevice_frame, hframe]
    rfl
  · rw [focusDevice_frame, hframe]
    rfl
  · rw [hfocus, hsel]
    simp only [decide_eq_true_eq]
    exact Iff.rfl

theorem activeCallOf_modifyDevice {d d' : DeviceId} {f : RegisteredDevice → RegisteredDevice}
    (hf : ∀ state, (f state).activeCall = state.activeCall) :
    (s.modifyDevice d f).activeCallOf d' = s.activeCallOf d' := by
  unfold activeCallOf
  rw [get?_modifyDevice]
  split
  · next hd =>
    subst hd
    cases s.devices.get? d' with
    | none => rfl
    | some state => exact hf state
  · rfl

theorem activeCallOf_forAppearances
    {edit : CallAppearanceId → CallAppearance → AppearanceEdit} (ids : List CallAppearanceId)
    (d : DeviceId) : (forAppearances edit s ids).1.activeCallOf d = s.activeCallOf d := by
  induction ids generalizing s with
  | nil => rfl
  | cons id rest ih =>
    unfold forAppearances
    split
    · exact ih
    refine ih.trans ?_
    split
    · exact activeCallOf_modifyDevice fun _ => rfl
    · rfl

theorem activeCallOf_focusDevice {a : CallAppearance} {y z : CallId} {d : DeviceId}
    (h : (s.focusDevice a y).activeCallOf d = some z) : z = y ∨ s.activeCallOf d = some z := by
  unfold focusDevice at h
  dsimp only at h
  rw [activeCallOf_setCallSelected] at h
  have hline : (s.selectLine a.deviceId a.lineInstance).activeCallOf d = s.activeCallOf d :=
    activeCallOf_modifyDevice fun _ => rfl
  unfold setActiveCall at h
  split at h
  · exact .inr (hline ▸ h)
  unfold activeCallOf at h
  rw [get?_modifyDevice] at h
  split at h
  · cases hd : (s.selectLine a.deviceId a.lineInstance).devices.get? a.deviceId with
    | none => rw [hd] at h; cases h
    | some state =>
      rw [hd] at h
      exact .inl (Option.some.inj h).symm
  · exact .inr (hline ▸ h)

/-- A resume makes no other call than its own a device's active call. -/
theorem activeCallOf_resume {y z : CallId} {d : DeviceId}
    (h : (s.resume y).1.activeCallOf d = some z) : z = y ∨ s.activeCallOf d = some z := by
  unfold resume at h
  split at h
  · exact .inr h
  next requester _ =>
  split at h
  · exact .inr h
  next call _ =>
  split at h
  · exact .inr h
  · refine (activeCallOf_focusDevice h).imp_right fun hloop => ?_
    rw [activeCallOf_forAppearances] at hloop
    split at hloop <;> exact hloop

end Controller

end Sccp
