/-
  Sccp.Ledger.Edits

  The ledger after each of the edits that the controller's operations are built
  from.  Edits of media, digits, selections, timers and counters leave the
  ledger alone; the others are single moves.
-/

import Sccp.Ledger.Basic

namespace Sccp

open Function (update)

namespace Ledger

@[simp] theorem shown_none (v : AppearanceView) : v.shown none = v := rfl

@[simp] theorem shown_some (v : AppearanceView) (st : CallState) :
    v.shown (some st) = { v with state := st } := rfl

@[simp] theorem shown_shown (v : AppearanceView) (x y : Option CallState) :
    (v.shown x).shown y = v.shown (y.or x) := by
  cases x <;> cases y <;> rfl

@[simp] theorem apply_id (v : CallView) : ({} : CallEdit).apply v = v := rfl

theorem restate_nothing (l : Ledger) (p : PbxCallId) : l.restate p {} Shows.nothing = l := by
  apply Ledger.ext <;> try rfl
  · funext q
    by_cases h : q = p
    · subst h
      cases hq : l.call q <;> simp [restate, hq]
    · simp [restate, h]
  · funext a
    cases ha : l.app a <;> simp [restate, Shows.nothing, ha]

/-- Two changes of one call are one change. -/
theorem restate_restate (l : Ledger) (p : PbxCallId) (e e' : CallEdit) (g g' : Shows) :
    (l.restate p e g).restate p e' g' =
      l.restate p
        { state := e'.state ∘ e.state, active := e'.active ∘ e.active
          pickup := e'.pickup ∘ e.pickup, dialing := e'.dialing ∘ e.dialing }
        (g'.after g) := by
  apply Ledger.ext <;> try rfl
  · funext q
    by_cases h : q = p
    · subst h
      cases hq : l.call q <;> simp [restate, hq, CallEdit.apply]
    · simp [restate, h]
  · funext a
    cases ha : l.app a <;> simp [restate, Shows.after, ha]

end Ledger

namespace Controller

variable (s : Controller)
variable {a : CallAppearance} {s' : Controller} {p : PbxCallId} {call : PbxCall}

/-! ## Single records -/

theorem ledger_modifyCall {f : PbxCall → PbxCall} {e : CallEdit}
    (hf : ∀ call, s.pbx.get? p = some call → (f call).view = e.apply call.view) :
    (s.modifyCall p f).ledger = s.ledger.restate p e Shows.nothing := by
  apply Ledger.ext <;> try rfl
  · funext q
    by_cases h : q = p
    · subst h
      cases hq : s.pbx.get? q with
      | none => simp [ledger, modifyCall, Ledger.restate, Table.get?_modify, hq]
      | some call =>
        simp [ledger, modifyCall, Ledger.restate, Table.get?_modify, hq, hf call hq]
    · simp [ledger, modifyCall, Ledger.restate, Table.get?_modify, h]
  · funext a
    cases ha : s.appearances.get? a <;> simp [ledger, modifyCall, Ledger.restate, Shows.nothing, ha]

theorem ledger_modifyCall_quiet {f : PbxCall → PbxCall}
    (hf : ∀ call, s.pbx.get? p = some call → (f call).view = call.view) :
    (s.modifyCall p f).ledger = s.ledger := by
  rw [s.ledger_modifyCall (e := {}) hf, Ledger.restate_nothing]

theorem ledger_modifyAppearance {a : CallAppearanceId} {f : CallAppearance → CallAppearance}
    {st : CallState} (p : PbxCallId) (hf : ∀ v, (f v).view = { v.view with state := st }) :
    (s.modifyAppearance a f).ledger = s.ledger.restate p {} (Shows.only a st) := by
  apply Ledger.ext <;> try rfl
  · funext q
    by_cases h : q = p
    · subst h
      cases hq : s.pbx.get? q <;> simp [ledger, modifyAppearance, Ledger.restate, hq]
    · simp [ledger, modifyAppearance, Ledger.restate, h]
  funext x
  by_cases h : x = a
  · subst h
    cases hx : s.appearances.get? x <;>
      simp [ledger, modifyAppearance, Ledger.restate, Shows.only, Table.get?_modify, hx, hf]
  · simp [ledger, modifyAppearance, Ledger.restate, Shows.only, Table.get?_modify, h,
      Function.comp_def]

theorem ledger_modifyAppearance_quiet {a : CallAppearanceId}
    {f : CallAppearance → CallAppearance} (hf : ∀ v, (f v).view = v.view) :
    (s.modifyAppearance a f).ledger = s.ledger := by
  apply Ledger.ext <;> try rfl
  funext x
  by_cases h : x = a
  · subst h
    cases hx : s.appearances.get? x <;> simp [ledger, modifyAppearance, Table.get?_modify, hx, hf]
  · simp [ledger, modifyAppearance, Table.get?_modify, h]

theorem ledger_modifyDevice_quiet {d : DeviceId} {f : RegisteredDevice → RegisteredDevice}
    (hf : ∀ device, (f device).activeCall = device.activeCall) :
    (s.modifyDevice d f).ledger = s.ledger := by
  apply Ledger.ext <;> try rfl
  funext x
  by_cases h : x = d
  · subst h
    cases hx : s.devices.get? x <;> simp [ledger, modifyDevice, Table.get?_modify, hx, hf]
  · simp [ledger, modifyDevice, Table.get?_modify, h]

@[simp] theorem ledger_selectLine (d : DeviceId) (line : Nat) :
    (s.selectLine d line).ledger = s.ledger :=
  s.ledger_modifyDevice_quiet fun _ => rfl

@[simp] theorem ledger_setCallSelected (d : DeviceId) (c : CallId) (selected : Bool) :
    (s.setCallSelected d c selected).ledger = s.ledger := by
  unfold setCallSelected
  split
  · rfl
  · exact s.ledger_modifyDevice_quiet fun _ => rfl

@[simp] theorem ledger_deselect (a : CallAppearance) : (s.deselect a).ledger = s.ledger :=
  s.ledger_modifyDevice_quiet fun _ => rfl

/-! ## Lookups -/

theorem ledger_call (h : s.pbx.get? p = some call) : s.ledger.call p = some call.view := by
  simp [ledger, h]

theorem ledger_call_none (h : s.pbx.get? p = none) : s.ledger.call p = none := by
  simp [ledger, h]

theorem ledger_app {a : CallAppearanceId} {v : CallAppearance}
    (h : s.appearances.get? a = some v) : s.ledger.app a = some v.view := by
  simp [ledger, h]

theorem ledger_appOf {c : CallId} (h : s.appearanceForCall c = some a) :
    s.ledger.appOf c = some a.view := by
  unfold appearanceForCall at h
  split at h
  · cases h
  · next id hid => simp [ledger, Ledger.appOf, hid, h]

theorem ledger_setActiveCall {d : DeviceId} {x : Option CallId} :
    (s.setActiveCall d x).ledger = s.ledger
      ∨ ((Move.point d x).Enabled s.ledger ∧ (s.setActiveCall d x).ledger
        = s.ledger.point d x) := by
  unfold setActiveCall
  split
  · exact .inl rfl
  next h =>
  refine .inr ⟨?_, ?_⟩
  · intro c hc
    subst hc
    have h' : s.ownedBy c d = true := by simpa using h
    unfold ownedBy at h'
    cases ha : s.appearanceForCall c with
    | none => simp [ha] at h'
    | some a => exact ⟨a.view, s.ledger_appOf ha, by simpa [ha, CallAppearance.view] using h'⟩
  apply Ledger.ext <;> try rfl
  funext y
  by_cases hy : y = d
  · subst hy
    cases hx : s.devices.get? y <;>
      simp [ledger, modifyDevice, Ledger.point, Table.get?_modify, hx]
  · simp [ledger, modifyDevice, Ledger.point, Table.get?_modify, hy]

/-! ## Allocation -/

@[simp] theorem ledger_allocatePbxId : s.allocatePbxId.1.ledger = s.ledger := rfl

@[simp] theorem ledger_allocateBridgeId : s.allocateBridgeId.1.ledger = s.ledger := rfl

@[simp] theorem ledger_allocateAppearanceId : s.allocateAppearanceId.1.ledger = s.ledger := rfl

@[simp] theorem ledger_reservePbxId (p : PbxCallId) : (s.reservePbxId p).ledger = s.ledger := rfl

theorem allocatePbxId_fresh : s.allocatePbxId.1.pbx.get? s.allocatePbxId.2 = none := by
  rw [Table.get?_eq_none]
  intro h
  have hfresh := allocate_notMem 64 (s.pbx.keys.map (·.val))
    ((s.pbx.keys.map (·.val)).length + 1) s.nextPbxId
  exact hfresh (List.mem_map.mpr ⟨_, h, rfl⟩)

theorem allocateAppearanceId_fresh :
    s.allocateAppearanceId.1.appearances.get? s.allocateAppearanceId.2 = none := by
  rw [Table.get?_eq_none]
  intro h
  have hfresh := allocate_notMem 64 (s.appearances.keys.map (·.val))
    ((s.appearances.keys.map (·.val)).length + 1) s.nextAppearanceId
  exact hfresh (List.mem_map.mpr ⟨_, h, rfl⟩)

/-! ## Appearances and calls -/

theorem ledger_attachAppearance (h : s.attachAppearance a = (s', true)) :
    (Move.attach a.view).Enabled s.ledger ∧ s'.ledger = s.ledger.attach a.view := by
  unfold attachAppearance at h
  split at h
  · cases h
  next hg =>
  simp only [Bool.or_eq_true, Bool.not_eq_true', not_or, Bool.not_eq_true] at hg
  obtain ⟨⟨hp, ha⟩, hc⟩ := hg
  cases h
  have hp' : s.pbx.contains a.pbxId = true := by simpa using hp
  obtain ⟨call, hcall⟩ := Table.contains_iff.mp hp'
  have ha' := Table.not_contains_iff.mp ha
  have hc' := Table.not_contains_iff.mp hc
  refine ⟨⟨?_, ?_, hc'⟩, ?_⟩
  · simp [ledger, CallAppearance.view, hcall]
  · simp [ledger, CallAppearance.view, ha']
  apply Ledger.ext <;> try rfl
  · funext q
    by_cases hq : q = a.pbxId
    · subst hq
      simp [ledger, Ledger.attach, CallAppearance.view, Table.get?_modify, hcall,
        PbxCall.view, PbxCall.dialing]
    · simp [ledger, Ledger.attach, CallAppearance.view, Table.get?_modify, hq]
  · funext x
    by_cases hx : x = a.id
    · subst hx
      simp [ledger, Ledger.attach, CallAppearance.view, Table.get?_insert]
    · simp [ledger, Ledger.attach, CallAppearance.view, Table.get?_insert, hx]
  · funext x
    by_cases hx : x = a.sccpId
    · subst hx
      simp [ledger, Ledger.attach, CallAppearance.view, Table.get?_insert]
    · simp [ledger, Ledger.attach, CallAppearance.view, Table.get?_insert, hx]
  funext d x
  by_cases hd : d = a.deviceId
  · subst hd
    cases hg : s.byDevice.get? a.deviceId <;>
      simp [ledger, Ledger.attach, CallAppearance.view, Table.get?_insert, hg, or_comm]
  · simp [ledger, Ledger.attach, CallAppearance.view, Table.get?_insert, hd]

theorem attachAppearance_false (h : s.attachAppearance a = (s', false)) : s' = s := by
  unfold attachAppearance at h
  split at h <;> cases h
  rfl

theorem ledger_insertPbxCall (h : s.insertPbxCall call a = (s', true)) :
    (Move.create call.view a.view).Enabled s.ledger
      ∧ s'.ledger = s.ledger.create call.view a.view := by
  unfold insertPbxCall at h
  split at h
  · cases h
  next hg =>
  simp only [ne_eq, not_or, not_not, Bool.not_eq_true] at hg
  obtain ⟨hid, hids, hnew⟩ := hg
  have hnew' := Table.not_contains_iff.mp hnew
  split at h
  · next s'' hat =>
    cases h
    obtain ⟨⟨_, ha, hc⟩, hl⟩ := ledger_attachAppearance _ hat
    refine ⟨⟨hid, ?_, ha, hc⟩, ?_⟩
    · simp [ledger, PbxCall.view, hnew']
    rw [hl]
    apply Ledger.ext <;> try rfl
    funext q
    by_cases hq : q = call.id
    · subst hq
      simp [ledger, Ledger.attach, Ledger.create, CallAppearance.view, PbxCall.view,
        Table.get?_insert, hid, hids]
    · have hq' : q ≠ a.pbxId := by rw [← hid]; exact hq
      simp [ledger, Ledger.attach, Ledger.create, CallAppearance.view, PbxCall.view,
        Table.get?_insert, hq, hq']
  · cases h

/-- A call and an appearance with fresh ids are never refused. -/
theorem insertPbxCall_fresh (hid : call.id = a.pbxId) (hids : call.appearanceIds = [])
    (hp : s.pbx.get? call.id = none) (ha : s.appearances.get? a.id = none)
    (hc : s.bySccp.get? a.sccpId = none) (h : s.insertPbxCall call a = (s', false)) : False := by
  have hp' := Table.not_contains_iff.mpr hp
  have ha' := Table.not_contains_iff.mpr ha
  have hc' := Table.not_contains_iff.mpr hc
  have hin : (s.pbx.insert call.id call).contains a.pbxId = true :=
    Table.contains_iff.mpr ⟨call, by rw [hid]; exact Table.get?_insert .. |>.trans (if_pos rfl)⟩
  simp [insertPbxCall, attachAppearance, hid ▸ hp', hid, hids, ha', hc', hid ▸ hin] at h

/-- A failed insertion leaves the table of calls as it was, up to its order. -/
theorem ledger_insertPbxCall_false (h : s.insertPbxCall call a = (s', false)) :
    s'.ledger = s.ledger := by
  unfold insertPbxCall at h
  split at h
  · cases h
    rfl
  next hg =>
  simp only [ne_eq, not_or, not_not, Bool.not_eq_true] at hg
  have hnew := Table.not_contains_iff.mp hg.2.2
  split at h
  · cases h
  next s'' hat =>
  have hs := attachAppearance_false _ hat
  subst hs
  cases h
  apply Ledger.ext <;> try rfl
  funext q
  by_cases hq : q = call.id
  · subst hq
    simp [ledger, Table.get?_erase, hnew]
  · simp [ledger, Table.get?_erase, Table.get?_insert, hq]

theorem mem_dropFromDevice (t : Table DeviceId (List CallAppearanceId)) (d d' : DeviceId)
    (a x : CallAppearanceId) : (∃ ids, (dropFromDevice t d a).get? d' = some ids ∧ x ∈ ids)
      ↔ (∃ ids, t.get? d' = some ids ∧ x ∈ ids) ∧ ¬(d' = d ∧ x = a) := by
  unfold dropFromDevice
  cases hd : t.get? d with
  | none =>
    constructor
    · rintro ⟨ids, hids, hx⟩
      refine ⟨⟨ids, hids, hx⟩, ?_⟩
      rintro ⟨rfl, _⟩
      rw [hd] at hids
      cases hids
    · rintro ⟨h, _⟩
      exact h
  | some ids =>
    simp only
    by_cases he : d' = d
    · subst he
      split
      · next hempty =>
        simp only [Table.get?_erase, if_true, hd, Option.some.injEq, exists_eq_left',
          reduceCtorEq, false_and, exists_false, false_iff, not_and, true_and, not_not]
        intro hx
        by_contra hne
        have : x ∈ without ids a := mem_without.mpr ⟨hx, hne⟩
        rw [hempty] at this
        cases this
      · simp [Table.get?_insert, hd, mem_without]
    · split <;> simp [Table.get?_erase, Table.get?_insert, he]

theorem ledger_removeAppearance (a : CallAppearanceId) :
    (s.removeAppearance a).1.ledger = s.ledger.detach a := by
  unfold removeAppearance
  cases ha : s.appearances.get? a with
  | none => simp [Ledger.detach, ledger, ha]
  | some w =>
    have hl : s.ledger.app a = some w.view := by simp [ledger, ha]
    simp only [Ledger.detach, hl]
    apply Ledger.ext <;> try rfl
    · funext q
      by_cases hq : q = w.pbxId
      · subst hq
        cases hc : s.pbx.get? w.pbxId <;>
          simp [ledger, CallAppearance.view, Table.get?_modify, hc, PbxCall.view,
            PbxCall.dialing, CallView.forget, forgetAppearance]
      · simp [ledger, CallAppearance.view, Table.get?_modify, hq]
    · funext x
      by_cases hx : x = a
      · simp [ledger, Table.get?_erase, hx]
      · simp [ledger, Table.get?_erase, hx]
    · funext x
      by_cases hx : x = w.sccpId
      · simp [ledger, CallAppearance.view, Table.get?_erase, hx]
      · simp [ledger, CallAppearance.view, Table.get?_erase, hx]
    · funext d x
      exact propext (mem_dropFromDevice s.byDevice w.deviceId d a x)
    · funext d
      by_cases hd : d = w.deviceId
      · subst hd
        cases hg : s.devices.get? w.deviceId with
        | none => simp [ledger, CallAppearance.view, Table.get?_modify, hg]
        | some device =>
          by_cases hc : device.activeCall = some w.sccpId <;>
            simp [ledger, CallAppearance.view, Table.get?_modify, hg, forgetCall, hc]
      · simp [ledger, CallAppearance.view, Table.get?_modify, hd]
    · funext q
      by_cases hsteal : s.sharedControlClaims.get? w.pbxId = some (.steal a)
      · by_cases hq : q = w.pbxId <;>
          simp [ledger, CallAppearance.view, hsteal, Table.get?_erase, hq]
      · simp [ledger, CallAppearance.view, hsteal]

theorem ledger_removeAppearances (ids : List CallAppearanceId) :
    (s.removeAppearances ids).ledger = s.ledger.detachAll ids := by
  induction ids generalizing s with
  | nil => rfl
  | cons a rest ih =>
    simp only [removeAppearances, Ledger.detachAll]
    rw [ih, ledger_removeAppearance]

theorem ledger_releaseCallClaims (p : PbxCallId) :
    (s.releaseCallClaims p).ledger = s.ledger.release p := by
  apply Ledger.ext <;> try rfl
  · funext q
    by_cases hq : q = p
    · simp [ledger, releaseCallClaims, cancelAutoAnswersForPbx, Ledger.release, Table.get?_erase,
        hq]
    · simp [ledger, releaseCallClaims, cancelAutoAnswersForPbx, Ledger.release, Table.get?_erase,
        hq]
  · funext o
    by_cases ho : o = .destination p
    · simp [ledger, releaseCallClaims, cancelAutoAnswersForPbx, Ledger.release, Table.get?_erase,
        ho]
    · simp [ledger, releaseCallClaims, cancelAutoAnswersForPbx, Ledger.release, Table.get?_erase,
        ho]
  · funext d
    exact VoicemailRegistry.get?_cancelForPbx ..
  · funext q
    simp [ledger, releaseCallClaims, cancelAutoAnswersForPbx, Ledger.release, mem_without]

theorem ledger_removePbxCall (p : PbxCallId) :
    (s.removePbxCall p).1.ledger = s.ledger.endCall p := by
  have hrel := s.ledger_releaseCallClaims p
  have hcall : (s.releaseCallClaims p).pbx.get? p = s.pbx.get? p := rfl
  unfold removePbxCall
  simp only [hcall]
  cases hp : s.pbx.get? p with
  | none =>
    have hids : ((s.ledger.call p).map (·.ids)).getD [] = [] := by
      simp [ledger, hp]
    simp only [Ledger.endCall, hids, Ledger.detachAll, hrel]
    apply Ledger.ext <;> try rfl
    funext q
    by_cases hq : q = p
    · subst hq
      simp [Ledger.dropCall, Ledger.release, ledger, hp]
    · simp [Ledger.dropCall, hq]
  | some call =>
    have hdet := (s.releaseCallClaims p).ledger_removeAppearances call.appearanceIds
    have hids : ((s.ledger.call p).map (·.ids)).getD [] = call.appearanceIds := by
      simp [ledger, hp, PbxCall.view]
    simp only
    split
    · next hnone =>
      simp only [Ledger.endCall, hids, ← hrel, ← hdet]
      apply Ledger.ext <;> try rfl
      funext q
      by_cases hq : q = p
      · subst hq
        simp [Ledger.dropCall, ledger, hnone]
      · simp [Ledger.dropCall, hq]
    simp only [Ledger.endCall, hids, ← hrel, ← hdet]
    apply Ledger.ext <;> try rfl
    funext q
    by_cases hq : q = p
    · subst hq
      simp [Ledger.dropCall, ledger, Table.get?_erase]
    · simp [Ledger.dropCall, ledger, Table.get?_erase, hq]

theorem ledger_erasePbx (p : PbxCallId) :
    ({ s with pbx := s.pbx.erase p } : Controller).ledger = s.ledger.dropCall p := by
  apply Ledger.ext <;> try rfl
  funext q
  by_cases hq : q = p
  · subst hq
    simp [Ledger.dropCall, ledger, Table.get?_erase]
  · simp [Ledger.dropCall, ledger, Table.get?_erase, hq]

/-! ## Loops over the appearances of a call -/

/-- A loop that shows each appearance of a list in a state of its own. -/
theorem ledger_forAppearances {edit : CallAppearanceId → CallAppearance → AppearanceEdit}
    {st : CallAppearanceId → CallState} (p : PbxCallId)
    (hedit : ∀ id a, (edit id a).appearance.view = { a.view with state := st id })
    (ids : List CallAppearanceId) :
    (forAppearances edit s ids).1.ledger =
      s.ledger.restate p {} (fun x => if x ∈ ids then some (st x) else none) := by
  induction ids generalizing s with
  | nil => exact (Ledger.restate_nothing _ _).symm
  | cons id rest ih =>
    have hstep : ∀ l : Ledger, (l.restate p {} (Shows.only id (st id))).restate p {}
        (fun x => if x ∈ rest then some (st x) else none)
        = l.restate p {} (fun x => if x ∈ id :: rest then some (st x) else none) := by
      intro l
      rw [Ledger.restate_restate]
      congr 1
      funext x
      by_cases hx : x ∈ rest
      · simp [Shows.after, hx]
      by_cases hid : x = id
      · subst hid
        simp [Shows.after, Shows.only, hx]
      · simp [Shows.after, Shows.only, hx, hid]
    simp only [forAppearances]
    cases hid : s.appearances.get? id with
    | none =>
      simp only
      rw [ih, ← hstep]
      congr 1
      apply Ledger.ext <;> try rfl
      · exact (congrArg Ledger.call (Ledger.restate_nothing s.ledger p)).symm
      funext x
      by_cases hx : x = id
      · simp [Ledger.restate, ledger, hx, hid]
      · simp [Ledger.restate, Shows.only, hx]
    | some a =>
      simp only
      have hmod : (s.modifyAppearance id fun _ => (edit id a).appearance).ledger
          = s.ledger.restate p {} (Shows.only id (st id)) := by
        apply Ledger.ext <;> try rfl
        · exact (congrArg Ledger.call (Ledger.restate_nothing s.ledger p)).symm
        funext x
        by_cases hx : x = id
        · simp [Ledger.restate, modifyAppearance, ledger, Shows.only, hx, hid,
            Table.get?_modify, hedit]
        · simp [Ledger.restate, modifyAppearance, ledger, Shows.only, hx,
            Table.get?_modify, Function.comp_def]
      split
      · rw [ih, ledger_deselect, hmod, hstep]
      · rw [ih, hmod, hstep]

/-! ## Conference tables -/

theorem ledger_putSession (key : CallId) (session : ConferenceSession) :
    (s.putSession key session).ledger =
      { s.ledger with session := update s.ledger.session key (some session.view) } := by
  apply Ledger.ext <;> try rfl
  funext c
  by_cases hc : c = key
  · simp [ledger, putSession, Table.get?_insert, hc]
  · simp [ledger, putSession, Table.get?_insert, hc]

theorem ledger_dropSession (key : CallId) :
    (s.dropSession key).ledger =
      { s.ledger with session := update s.ledger.session key none } := by
  apply Ledger.ext <;> try rfl
  funext c
  by_cases hc : c = key
  · simp [ledger, dropSession, Table.get?_erase, hc]
  · simp [ledger, dropSession, Table.get?_erase, hc]

/-- The PBX calls of a list of participants. -/
def callsOf (ps : List ConferenceParticipant) : List PbxCallId := ps.map (·.pbxCallId)

theorem ledger_indexCalls (key : CallId) (ps : List ConferenceParticipant) :
    (s.indexCalls key ps).ledger =
      { s.ledger with
        sessionOf := fun p => if p ∈ callsOf ps then some key else s.ledger.sessionOf p } := by
  induction ps generalizing s with
  | nil => simp [indexCalls, callsOf]
  | cons q rest ih =>
    simp only [indexCalls, ih]
    apply Ledger.ext <;> try rfl
    funext p
    by_cases hr : p ∈ callsOf rest
    · simp only [callsOf, List.mem_map] at hr
      simp [callsOf, hr]
    simp only [callsOf, List.mem_map] at hr
    by_cases hp : p = q.pbxCallId
    · simp [ledger, callsOf, Table.get?_insert, hp]
    · simp [ledger, callsOf, hr, Table.get?_insert, hp]

theorem ledger_unindexCalls (ps : List ConferenceParticipant) :
    (s.unindexCalls ps).ledger =
      { s.ledger with
        sessionOf := fun p => if p ∈ callsOf ps then none else s.ledger.sessionOf p } := by
  induction ps generalizing s with
  | nil => simp [unindexCalls, callsOf]
  | cons q rest ih =>
    simp only [unindexCalls, ih]
    apply Ledger.ext <;> try rfl
    funext p
    by_cases hr : p ∈ callsOf rest
    · simp only [callsOf, List.mem_map] at hr
      simp [callsOf, hr]
    simp only [callsOf, List.mem_map] at hr
    by_cases hp : p = q.pbxCallId
    · simp [ledger, callsOf, Table.get?_erase, hp]
    · simp [ledger, callsOf, hr, Table.get?_erase, hp]

theorem ledger_dropSessionToken (session : ConferenceSession) :
    (s.dropSessionToken session).ledger = s.ledger.dropToken (.session session.id) := by
  apply Ledger.ext <;> try rfl
  funext o
  by_cases ho : o = .session session.id
  · simp [ledger, dropSessionToken, Ledger.dropToken, Table.get?_erase, ho]
  · simp [ledger, dropSessionToken, Ledger.dropToken, Table.get?_erase, ho]

theorem ledger_completeConferenceMutation (token : ConferenceMutationToken) :
    (s.completeConferenceMutation token).1.ledger = s.ledger
      ∨ (s.completeConferenceMutation token).1.ledger = s.ledger.dropToken token.owner := by
  unfold completeConferenceMutation
  split
  · exact .inl rfl
  refine .inr ?_
  apply Ledger.ext <;> try rfl
  funext o
  by_cases ho : o = token.owner
  · simp [ledger, Ledger.dropToken, Table.get?_erase, ho]
  · simp [ledger, Ledger.dropToken, Table.get?_erase, ho]

theorem ledger_allocateConferenceMutation (owner : ConferenceMutationOwner) :
    (s.allocateConferenceMutation owner).1.ledger = s.ledger ∨ ((Move.issue owner).Enabled s.ledger
        ∧ (s.allocateConferenceMutation owner).1.ledger = s.ledger.issue owner) := by
  unfold allocateConferenceMutation
  split
  · exact .inl rfl
  next hfree =>
  simp only
  split
  · exact .inl rfl
  refine .inr ⟨?_, ?_⟩
  · exact Table.not_contains_iff.mp (by simpa using hfree)
  apply Ledger.ext <;> try rfl
  funext o
  by_cases ho : o = owner
  · simp [ledger, Ledger.issue, Table.get?_insert, ho]
  · simp [ledger, Ledger.issue, Table.get?_insert, ho]

/-! ## Barge tables -/

theorem ledger_dropBarge (b : BargeSession) (c : CallId) :
    (s.dropBarge b c).1.ledger = s.ledger.bargeOut b c := by
  unfold dropBarge
  simp only
  split
  · next hempty =>
    apply Ledger.ext <;> try rfl
    · funext q
      by_cases hq : q = b.bargerCallId
      · simp [ledger, Ledger.bargeOut, Table.get?_erase, hq]
      · simp [ledger, Ledger.bargeOut, Table.get?_erase, hq]
    · funext q
      by_cases hclaim : s.sharedControlClaims.get? b.targetCallId = some (.barge b.bridgeId)
      · by_cases hq : q = b.targetCallId <;>
          simp [ledger, Ledger.bargeOut, Ledger.othersBarging, hempty, hclaim, Table.get?_erase, hq]
      · simp [ledger, Ledger.bargeOut, hclaim]
    · funext q
      by_cases hq : q = b.targetCallId <;>
        simp [ledger, Ledger.bargeOut, Ledger.othersBarging, hempty, Table.get?_erase, hq]
    · funext q
      by_cases hq : q = c <;> simp [ledger, Ledger.bargeOut, Table.get?_erase, hq]
    · funext q
      by_cases hq : q = b.bargerCallId <;> simp [ledger, Ledger.bargeOut, Table.get?_erase, hq]
  · next hne =>
    apply Ledger.ext <;> try rfl
    · funext q
      by_cases hq : q = b.bargerCallId <;> simp [ledger, Ledger.bargeOut, Table.get?_erase, hq]
    · simp [ledger, Ledger.bargeOut, Ledger.othersBarging, hne]
    · funext q
      by_cases hq : q = b.targetCallId <;>
        simp [ledger, Ledger.bargeOut, Ledger.othersBarging, hne, Table.get?_modify, hq]
    · funext q
      by_cases hq : q = c <;> simp [ledger, Ledger.bargeOut, Table.get?_erase, hq]
    · funext q
      by_cases hq : q = b.bargerCallId <;> simp [ledger, Ledger.bargeOut, Table.get?_erase, hq]

/-! ## Transfers, diverts and redirect claims -/

theorem ledger_putTransfer (t : TransferTransaction) :
    ({ s with transfers := s.transfers.put t } : Controller).ledger
      = s.ledger.setTransfer t.deviceId (some t) := by
  apply Ledger.ext <;> try rfl
  funext d
  by_cases hd : d = t.deviceId <;> simp [ledger, Ledger.setTransfer, TransferRegistry.get?_put, hd]

theorem ledger_dropTransfer (d : DeviceId) :
    ({ s with transfers := s.transfers.drop d } : Controller).ledger
      = s.ledger.setTransfer d none := by
  apply Ledger.ext <;> try rfl
  funext x
  by_cases hx : x = d <;> simp [ledger, Ledger.setTransfer, TransferRegistry.get?_drop, hx]

theorem ledger_dropDivert (d : DeviceId) (p : PbxCallId) :
    ({ s with voicemail := s.voicemail.drop d, redirectClaims := without s.redirectClaims p } :
      Controller).ledger = (s.ledger.setDivert d none).setRedirect p False := by
  apply Ledger.ext <;> try rfl
  · funext x
    by_cases hx : x = d <;>
      simp [ledger, Ledger.setDivert, Ledger.setRedirect, VoicemailRegistry.get?_drop, hx]
  · funext q
    by_cases hq : q = p <;> simp [ledger, Ledger.setDivert, Ledger.setRedirect, mem_without, hq]

theorem ledger_addRedirect (p : PbxCallId) :
    ({ s with redirectClaims := s.redirectClaims.insert p } : Controller).ledger
      = s.ledger.setRedirect p True := by
  apply Ledger.ext <;> try rfl
  funext q
  by_cases hq : q = p <;> simp [ledger, Ledger.setRedirect, hq]

theorem ledger_dropRedirect (p : PbxCallId) :
    ({ s with redirectClaims := without s.redirectClaims p } : Controller).ledger
      = s.ledger.setRedirect p False := by
  apply Ledger.ext <;> try rfl
  funext q
  by_cases hq : q = p <;> simp [ledger, Ledger.setRedirect, mem_without, hq]

/-! ## Rollback -/

theorem affectedPbx_eq (pending : PendingCallTransition) :
    affectedPbx pending.transition = pending.view.affected := rfl

theorem mem_affectedCalls (pending : PendingCallTransition) (c : CallId) :
    c ∈ s.affectedCalls pending.snapshot pending.transition
      ↔ s.ledger.affectedCall pending.view c := by
  have key : ∀ (t : Table CallAppearanceId CallAppearance) (P : PbxCallId → Prop) [DecidablePred P],
      c ∈ (t.values.filter fun a => decide (P a.pbxId)).map (·.sccpId)
        ↔ ∃ a w, (t.get? a).map (·.view) = some w ∧ P w.pbxId ∧ w.sccpId = c := by
    intro t P _
    simp only [List.mem_map, List.mem_filter, Table.mem_values, decide_eq_true_eq]
    constructor
    · rintro ⟨w, ⟨⟨a, ha⟩, hp⟩, rfl⟩
      exact ⟨a, w.view, by simp [ha], hp, rfl⟩
    · rintro ⟨a, w, hw, hp, rfl⟩
      obtain ⟨w', hw', rfl⟩ := Option.map_eq_some_iff.mp hw
      exact ⟨w', ⟨⟨a, hw'⟩, hp⟩, rfl⟩
  simp only [affectedCalls, List.mem_append, List.mem_cons, Option.mem_toList]
  rw [key, key]
  unfold Ledger.affectedCall
  rw [or_assoc]
  rfl

theorem mem_indexByDevice (t : Table CallAppearanceId CallAppearance) (d : DeviceId)
    (a : CallAppearanceId) : (∃ ids, (indexByDevice t).get? d = some ids ∧ a ∈ ids)
      ↔ ∃ w, t.get? a = some w ∧ w.deviceId = d := by
  have key : ∀ (entries : List (CallAppearanceId × CallAppearance))
      (index : Table DeviceId (List CallAppearanceId)),
      (∃ ids, (entries.foldl (fun byDevice entry =>
          byDevice.insert entry.2.deviceId
            (((byDevice.get? entry.2.deviceId).getD []).insert entry.1)) index).get? d = some ids
          ∧ a ∈ ids)
        ↔ (∃ ids, index.get? d = some ids ∧ a ∈ ids) ∨ ∃ w, (a, w) ∈ entries ∧ w.deviceId = d := by
    intro entries
    induction entries with
    | nil => intro index; simp
    | cons e rest ih =>
      intro index
      simp only [List.foldl_cons, ih, List.mem_cons]
      have hhead : (∃ ids, (index.insert e.2.deviceId
            (((index.get? e.2.deviceId).getD []).insert e.1)).get? d = some ids ∧ a ∈ ids)
          ↔ (∃ ids, index.get? d = some ids ∧ a ∈ ids) ∨ (a = e.1 ∧ e.2.deviceId = d) := by
        by_cases hd : d = e.2.deviceId
        · subst hd
          cases index.get? e.2.deviceId <;> simp [Table.get?_insert, or_comm]
        · simp [Table.get?_insert, hd, Ne.symm hd]
      rw [hhead, or_assoc]
      refine or_congr_right ?_
      constructor
      · rintro (⟨rfl, hd⟩ | ⟨w, hw, hd⟩)
        · exact ⟨e.2, .inl rfl, hd⟩
        · exact ⟨w, .inr hw, hd⟩
      · rintro ⟨w, rfl | hw, hd⟩
        · exact .inl ⟨rfl, hd⟩
        · exact .inr ⟨w, hw, hd⟩
  refine (key t.entries ∅).trans ?_
  simp [Table.get?_eq_some]

theorem get?_foldl_claims (pbxIds : List PbxCallId)
    (before live : Table PbxCallId SharedControlClaim) (q : PbxCallId) :
    (pbxIds.foldl (fun claims pbxId =>
      match before.get? pbxId with
      | some claim => claims.insert pbxId claim
      | none => claims.erase pbxId) live).get? q
      = if q ∈ pbxIds then before.get? q else live.get? q := by
  induction pbxIds generalizing live with
  | nil => simp
  | cons p rest ih =>
    simp only [List.foldl_cons, ih, List.mem_cons]
    by_cases hr : q ∈ rest
    · simp [hr]
    by_cases hq : q = p
    · subst hq
      cases hb : before.get? q <;> simp [hr, Table.get?_insert, Table.get?_erase]
    · cases hb : before.get? p <;> simp [hr, hq, Table.get?_insert, Table.get?_erase]

theorem get?_replaced {K V : Type} [DecidableEq K] (live before : Table K V) (P : K → Prop)
    [DecidablePred P] (k : K) : ((live.filter fun k _ => decide (¬P k)).extend
      (before.filter fun k _ => decide (P k))).get? k
      = Ledger.replace live.get? P before.get? k := by
  by_cases h : P k
  · cases hb : before.get? k <;> cases hl : live.get? k <;>
      simp [Table.get?_extend, Ledger.replace, h, hb, hl, Option.filter]
  · cases hb : before.get? k <;> cases hl : live.get? k <;>
      simp [Table.get?_extend, Ledger.replace, h, hb, hl, Option.filter]

theorem ledger_restoreCallDomain (pending : PendingCallTransition) :
    s.restoreCallDomain pending.snapshot pending.transition = (s, false)
      ∨ (s.transitionIsCurrent pending.transition = true
        ∧ (s.restoreCallDomain pending.snapshot pending.transition).2 = true
        ∧ (s.restoreCallDomain pending.snapshot pending.transition).1.ledger
          = s.ledger.restore pending.view) := by
  unfold restoreCallDomain
  split
  · exact .inl rfl
  next hcur =>
  refine .inr ⟨by simpa using hcur, rfl, ?_⟩
  have happ : ∀ a, (((s.appearances.filter fun _ appearance =>
        decide (appearance.pbxId ∉ affectedPbx pending.transition)).extend
      (pending.snapshot.appearances.filter fun _ appearance =>
        decide (appearance.pbxId ∈ affectedPbx pending.transition))).get? a).map (·.view)
      = s.ledger.restoredApp pending.view a := by
    intro a
    rw [Table.get?_extend, Table.get?_filter, Table.get?_filter, affectedPbx_eq]
    unfold Ledger.restoredApp
    have hs : s.ledger.app a = (s.appearances.get? a).map (·.view) := rfl
    have hb : pending.view.domain.app a = (pending.snapshot.appearances.get? a).map (·.view) := rfl
    rw [hs, hb]
    cases hx : pending.snapshot.appearances.get? a with
    | none =>
      cases hy : s.appearances.get? a with
      | none => rfl
      | some w =>
        by_cases hw : w.pbxId ∈ pending.view.affected <;>
          simp [Option.filter, hw, CallAppearance.view]
    | some u =>
      by_cases hu : u.pbxId ∈ pending.view.affected
      · simp [Option.filter, hu, CallAppearance.view]
      cases hy : s.appearances.get? a with
      | none => simp [Option.filter, hu, CallAppearance.view]
      | some w =>
        by_cases hw : w.pbxId ∈ pending.view.affected <;>
          simp [Option.filter, hu, hw, CallAppearance.view]
  apply Ledger.ext <;> try rfl
  · funext q
    have h := get?_replaced s.pbx pending.snapshot.pbxCalls (· ∈ affectedPbx pending.transition) q
    simp only [ledger, Ledger.restore]
    refine (congrArg (Option.map (·.view)) h).trans ?_
    by_cases hq : q ∈ affectedPbx pending.transition
    · have hq' : q ∈ pending.view.affected := hq
      simp only [Ledger.replace, hq, hq', if_true]
      rfl
    · have hq' : q ∉ pending.view.affected := hq
      simp [Ledger.replace, hq, hq']
  · funext a
    exact happ a
  · funext c
    have h := get?_replaced s.bySccp pending.snapshot.appearanceBySccp
      (· ∈ s.affectedCalls pending.snapshot pending.transition) c
    refine h.trans ?_
    by_cases hc : s.ledger.affectedCall pending.view c
    · have hc' := (s.mem_affectedCalls pending c).mpr hc
      simp only [Ledger.restore, Ledger.replace, hc, hc', if_true]
      rfl
    have hc' : c ∉ s.affectedCalls pending.snapshot pending.transition :=
      fun h => hc ((s.mem_affectedCalls pending c).mp h)
    simp only [Ledger.restore, Ledger.replace, hc, hc', if_false]
    rfl
  · funext d a
    refine propext ((mem_indexByDevice _ d a).trans ?_)
    simp only [Ledger.restore, ← happ]
    constructor
    · rintro ⟨w, hw, hd⟩
      exact ⟨w.view, Option.map_eq_some_iff.mpr ⟨w, hw, rfl⟩, hd⟩
    · rintro ⟨w, hw, hd⟩
      obtain ⟨w', hw', rfl⟩ := Option.map_eq_some_iff.mp hw
      exact ⟨w', hw', hd⟩
  · funext d
    have hb : pending.view.domain.device d
        = (pending.snapshot.devices.get? d).map (·.activeCall) := rfl
    have hdev : pending.view.deviceId = pending.transition.deviceId := rfl
    simp only [ledger, Ledger.restore, Ledger.restoredDevice, Table.get?_mapValues, hb, hdev]
    cases hx : s.devices.get? d with
    | none => rfl
    | some device =>
      cases hy : pending.snapshot.devices.get? d with
      | none => by_cases hd : d = pending.transition.deviceId <;> simp
      | some before =>
        by_cases hd : d = pending.transition.deviceId <;> simp [restoreDevice, hd]
  · funext q
    refine (get?_foldl_claims _ _ _ q).trans ?_
    by_cases hq : q ∈ affectedPbx pending.transition
    · have hq' : q ∈ pending.view.affected := hq
      simp only [Ledger.restore, Ledger.replace, hq, hq', if_true]
      rfl
    · have hq' : q ∉ pending.view.affected := hq
      simp only [Ledger.restore, Ledger.replace, hq, hq', if_false]
      rfl

end Controller

end Sccp
