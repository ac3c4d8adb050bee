/-
  Sccp.Safety.CallSwitching

  What an operation that moves a handset from one call to another leaves behind
  when a part of it refuses.  Answering holds the call the device is on and goes
  on without it if the hold refuses; a switch and a transfer hold first and find
  out later that the target cannot be reached.

  What a hold does is said once, on the ledger: it refuses and changes nothing,
  or it takes the one call whose owner shows the handset call.
-/

import Sccp.Ledger.Events
import Sccp.Safety.CallRecords

namespace Sccp

open Ledger (Via)
open Function (update)

variable {s : Controller}

/-! ## Talk paths -/

namespace Controller

/-- The PBX call is connected at an appearance of the device. -/
def Talking (s : Controller) (device : DeviceId) (pbxId : PbxCallId) : Prop :=
  ∃ call id appearance, s.pbx.get? pbxId = some call ∧ call.state = .connected
    ∧ call.activeAppearance = some id ∧ s.appearances.get? id = some appearance
    ∧ appearance.deviceId = device

theorem talking_iff_any {device : DeviceId} {pbxId : PbxCallId} :
    s.Talking device pbxId ↔ (s.pbx.get? pbxId).any (fun call => call.state = .connected
      && call.activeAppearance.any fun id =>
        (s.appearances.get? id).any fun appearance => appearance.deviceId = device) := by
  simp only [Talking, Option.any_eq_true, Bool.and_eq_true, decide_eq_true_eq]
  constructor
  · rintro ⟨call, id, appearance, hcall, hstate, hactive, happ, hdev⟩
    exact ⟨call, hcall, hstate, id, hactive, appearance, happ, hdev⟩
  · rintro ⟨call, hcall, hstate, id, hactive, appearance, happ, hdev⟩
    exact ⟨call, id, appearance, hcall, hstate, hactive, happ, hdev⟩

instance {device : DeviceId} {pbxId : PbxCallId} : Decidable (s.Talking device pbxId) :=
  decidable_of_iff _ talking_iff_any.symm

end Controller

/-- A talk path as the ledger has it. -/
def Ledger.Talking (l : Ledger) (device : DeviceId) (pbxId : PbxCallId) : Prop :=
  ∃ call id v, l.call pbxId = some call ∧ call.state = .connected ∧ call.active = some id
    ∧ l.app id = some v ∧ v.deviceId = device

namespace Controller

theorem talking_ledger {device : DeviceId} {pbxId : PbxCallId} :
    s.Talking device pbxId ↔ s.ledger.Talking device pbxId := by
  constructor
  · rintro ⟨call, id, appearance, hcall, hstate, hactive, happ, hdev⟩
    exact ⟨call.view, id, appearance.view, s.ledger_call hcall, hstate, hactive,
      s.ledger_app happ, hdev⟩
  rintro ⟨call, id, v, hcall, hstate, hactive, happ, hdev⟩
  obtain ⟨call', hcall', rfl⟩ := Option.map_eq_some_iff.mp hcall
  obtain ⟨appearance, happ', rfl⟩ := Option.map_eq_some_iff.mp happ
  exact ⟨call', id, appearance, hcall', hstate, hactive, happ', hdev⟩

end Controller

namespace Ledger

/-- A restatement leaves the talk paths of the other calls as they were. -/
theorem talking_restate {l : Ledger} {p q : PbxCallId} (hq : q ≠ p) (e : CallEdit) (g : Shows)
    (device : DeviceId) : (l.restate p e g).Talking device q ↔ l.Talking device q := by
  have hdev : ∀ (v : AppearanceView) (st : Option CallState), (v.shown st).deviceId = v.deviceId :=
    fun v st => by cases st <;> rfl
  have hsame : (l.restate p e g).call q = l.call q := Function.update_of_ne hq _ _
  constructor
  · rintro ⟨call, id, v, hcall, hstate, hactive, happ, rfl⟩
    obtain ⟨v', hv', rfl⟩ := Option.map_eq_some_iff.mp happ
    exact ⟨call, id, v', hsame ▸ hcall, hstate, hactive, hv', (hdev _ _).symm⟩
  · rintro ⟨call, id, v, hcall, hstate, hactive, happ, rfl⟩
    refine ⟨call, id, v.shown (g id), hsame.trans hcall, hstate, hactive, ?_, hdev _ _⟩
    simp [Ledger.restate, happ]

/-- A call that is put on hold is no talk path. -/
theorem not_talking_held {l : Ledger} {p : PbxCallId} (g : Shows) (device : DeviceId) :
    ¬ (l.restate p (.to .held) g).Talking device p := by
  rintro ⟨call, id, v, hcall, hstate, -⟩
  have hself : (l.restate p (.to .held) g).call p = (l.call p).map (CallEdit.to .held).apply :=
    Function.update_self _ _ _
  rw [hself] at hcall
  obtain ⟨call', -, rfl⟩ := Option.map_eq_some_iff.mp hcall
  cases hstate

end Ledger

namespace Controller

variable {c : CallId} {winner : CallAppearance} {call : PbxCall} {active : Option CallId}
  {privacy : Bool}

/-! ## Setting a call aside -/

/-- The device's call can be held, and it is the given PBX call. -/
def Releases (s : Controller) (active : Option CallId) (pbxId : PbxCallId) : Prop :=
  ∃ c owner call, active = some c ∧ HoldGuard s c owner call ∧ owner.pbxId = pbxId

/-- Setting a call aside closes the talk paths of the call it holds, and no
    others. -/
theorem talking_setAside {device : DeviceId} {q : PbxCallId} :
    (s.setAside active).1.Talking device q ↔ s.Talking device q ∧ ¬ s.Releases active q := by
  cases active with
  | none =>
    refine ⟨fun h => ⟨h, ?_⟩, And.left⟩
    rintro ⟨c, owner, call, hc, -⟩
    cases hc
  | some c =>
    show (s.hold c).1.Talking device q ↔ _
    rcases hold_cases s c with h | ⟨owner, call, guard, -, hledger⟩
    · rw [h]
      refine ⟨fun htalk => ⟨htalk, ?_⟩, And.left⟩
      rintro ⟨c', owner, call, hc, guard, -⟩
      cases hc
      exact hold_of_guard guard (congrArg Prod.snd h)
    -- the pointer and the claim are no part of a talk path
    have hlast : (s.hold c).1.Talking device q ↔ (s.ledger.restate owner.pbxId (.to .held)
        (Shows.among call.appearanceIds owner.id .held .sharedHeld)).Talking device q := by
      rw [talking_ledger]
      rcases hledger with h | h <;> rw [h] <;> exact Iff.rfl
    rw [hlast]
    by_cases hq : q = owner.pbxId
    · subst hq
      refine ⟨fun h => absurd h (Ledger.not_talking_held _ _), fun h => absurd ?_ h.2⟩
      exact ⟨c, owner, call, rfl, guard, rfl⟩
    rw [Ledger.talking_restate hq, talking_ledger]
    refine ⟨fun htalk => ⟨htalk, ?_⟩, And.left⟩
    rintro ⟨c', owner', call', hc, guard', rfl⟩
    cases hc
    exact hq (congrArg CallAppearance.pbxId (guard'.unique guard).1)

theorem SetAside.sessionOf {l : Ledger} (h : SetAside s active l) :
    l.sessionOf = s.ledger.sessionOf := by
  rcases h with rfl | ⟨c, -, h⟩
  · rfl
  · cases h <;> rfl

theorem conferencesByPbx_setAside (active : Option CallId) (q : PbxCallId) :
    (s.setAside active).1.conferencesByPbx.get? q = s.conferencesByPbx.get? q :=
  congrFun (setAside_setAside (s := s) active).sessionOf q

/-! ## Answering -/

/-- The answered call is a talk path; the other talk paths are those that were
    there. -/
theorem talking_takeAnswer {device : DeviceId} {q : PbxCallId} (hq : q ≠ winner.pbxId) :
    (s.takeAnswer winner call c privacy).1.Talking device q ↔ s.Talking device q := by
  have hl := ledger_answerLoop (s := s) winner call privacy
  unfold takeAnswer
  dsimp only
  generalize (forAppearances (answerEdit winner.id)
    (s.modifyCall winner.pbxId (connectCall winner.id privacy)) call.appearanceIds).1 = s' at hl
  rw [focusDevice_frame]
  show s'.Talking device q ↔ s.Talking device q
  rw [talking_ledger, hl, takenOver, Ledger.talking_restate hq, talking_ledger]

theorem conferencesByPbx_takeAnswer (q : PbxCallId) :
    (s.takeAnswer winner call c privacy).1.conferencesByPbx.get? q = s.conferencesByPbx.get? q := by
  have hl := ledger_answerLoop (s := s) winner call privacy
  unfold takeAnswer
  dsimp only
  generalize (forAppearances (answerEdit winner.id)
    (s.modifyCall winner.pbxId (connectCall winner.id privacy)) call.appearanceIds).1 = s' at hl
  rw [focusDevice_frame]
  exact congrFun (congrArg Ledger.sessionOf hl) q

theorem takeAnswer_ne_nil : (s.takeAnswer winner call c privacy).2 ≠ [] := by
  unfold takeAnswer
  exact List.append_ne_nil_of_right_ne_nil _ (List.cons_ne_nil _ _)

theorem phoneAnswer_of_guard (guard : AnswerGuard s c winner call) :
    s.phoneAnswer c = (s.stopAlerting winner.pbxId c).answerFor winner call c := by
  unfold phoneAnswer
  rw [guard.shown]
  dsimp only
  rw [guard.live]
  dsimp only
  rw [if_neg]
  simp [guard.unclaimed, guard.ringing, guard.unowned, guard.shownRinging]

theorem phoneAnswer_cases (s : Controller) (c : CallId) :
    s.phoneAnswer c = (s, []) ∨ ∃ winner call, AnswerGuard s c winner call := by
  unfold phoneAnswer
  split
  · exact .inl rfl
  next winner hwin =>
  split
  · exact .inl rfl
  next call hcall =>
  split
  · exact .inl rfl
  next hg =>
  simp only [not_or, ne_eq, not_not, Bool.not_eq_true, Option.isSome_eq_false_iff,
    Option.isNone_iff_eq_none] at hg
  obtain ⟨hred, hring, hnone, hshown⟩ := hg
  exact .inr ⟨winner, call, hwin, hcall, hred, hring, hnone, hshown⟩

theorem AnswerGuard.unique {winner' : CallAppearance} {call' : PbxCall}
    (guard : AnswerGuard s c winner call) (guard' : AnswerGuard s c winner' call') :
    winner = winner' ∧ call = call' := by
  have hwinner := Option.some.inj (guard.shown.symm.trans guard'.shown)
  subst hwinner
  exact ⟨rfl, Option.some.inj (guard.live.symm.trans guard'.live)⟩

/-- No auto-answer of the PBX call is asked for or scheduled, and the handset
    call sounds no call-waiting tone. -/
structure Silent (s : Controller) (pbxId : PbxCallId) (callId : CallId) : Prop where
  unscheduled : ∀ c pending, s.pendingAutoAnswers.get? c = some pending → pending.pbxId ≠ pbxId
  unrequested : s.autoAnswerRequests.get? pbxId = none
  untoned : s.callWaitingTones.get? callId = none

theorem stopAlerting_eq_self {pbxId : PbxCallId} {callId : CallId} :
    s.stopAlerting pbxId callId = s ↔ s.Silent pbxId callId := by
  constructor
  · intro h
    have hpending := congrArg Controller.pendingAutoAnswers h
    have hrequests := congrArg Controller.autoAnswerRequests h
    have htones := congrArg Controller.callWaitingTones h
    refine ⟨fun c pending hc => ?_, ?_, ?_⟩
    · have hkept : (s.pendingAutoAnswers.get? c).filter (fun x => decide (x.pbxId ≠ pbxId))
          = s.pendingAutoAnswers.get? c :=
        (Table.get?_filter s.pendingAutoAnswers (fun _ x => decide (x.pbxId ≠ pbxId)) c).symm.trans
          (congrArg (fun t => t.get? c) hpending)
      rw [hc] at hkept
      exact of_decide_eq_true (Option.filter_eq_some_iff.mp hkept).2
    · rw [← hrequests]
      exact (Table.get?_erase _ _ _).trans (if_pos rfl)
    · rw [← htones]
      exact (Table.get?_erase _ _ _).trans (if_pos rfl)
  · rintro ⟨hpending, hrequests, htones⟩
    have h₁ : s.pendingAutoAnswers.filter (fun _ pending => pending.pbxId ≠ pbxId)
        = s.pendingAutoAnswers :=
      Table.filter_eq_self fun c pending hc => decide_eq_true (hpending c pending hc)
    unfold stopAlerting cancelAutoAnswersForPbx
    dsimp only
    rw [h₁, Table.erase_eq_self hrequests, Table.erase_eq_self htones]

/-- An answer that has effects leaves the device no other talk path outside
    conferences, and one without effects changes nothing. -/
def AnswersOneCall (s : Controller) (c : CallId) : Prop :=
  ((s.phoneAnswer c).2 ≠ [] → ∀ winner, s.appearanceForCall c = some winner →
      ∀ q, q ≠ winner.pbxId → (s.phoneAnswer c).1.conferencesByPbx.get? q = none →
        ¬ (s.phoneAnswer c).1.Talking winner.deviceId q)
    ∧ ((s.phoneAnswer c).2 = [] → (s.phoneAnswer c).1 = s)

/-- The call a device is on, when it answers another one. -/
def previousActive (s : Controller) (winner : CallAppearance) (c : CallId) : Option CallId :=
  (s.activeCallOf winner.deviceId).filter (· ≠ c)

/-- The device of a ringing call is ready for it: where the call it is on may
    not be set aside, nothing alerts for the ringing one, and otherwise every
    other talk path of the device is that call and can be held. -/
def ReadyToAnswer (s : Controller) (winner : CallAppearance) (c : CallId) : Prop :=
  if (s.previousActive winner c).any s.cannotSetAside then s.Silent winner.pbxId c
  else ∀ q, q ≠ winner.pbxId → s.conferencesByPbx.get? q = none →
    s.Talking winner.deviceId q → s.Releases (s.previousActive winner c) q

/-- The alerting schedules take no part in a hold. -/
theorem releases_stopAlerting {p : PbxCallId} {q : PbxCallId} :
    (s.stopAlerting p c).Releases active q ↔ s.Releases active q := by
  constructor
  · rintro ⟨x, owner, call, hx, g, hq⟩
    exact ⟨x, owner, call, hx,
      ⟨g.shown, g.live, g.unclaimed, g.unbarged, g.unanswered, g.engaged, g.owned⟩, hq⟩
  · rintro ⟨x, owner, call, hx, g, hq⟩
    exact ⟨x, owner, call, hx,
      ⟨g.shown, g.live, g.unclaimed, g.unbarged, g.unanswered, g.engaged, g.owned⟩, hq⟩

/-- An answer for a device whose call may not be set aside has stopped the
    alerts and done nothing else. -/
theorem answerFor_refused (call : PbxCall)
    (h : (s.previousActive winner c).any s.cannotSetAside = true) :
    s.answerFor winner call c = (s, []) := by
  unfold answerFor
  exact if_pos h

/-- The talk paths after an answer. -/
theorem answerFor_taken (call : PbxCall)
    (h : ¬ (s.previousActive winner c).any s.cannotSetAside = true) :
    (s.answerFor winner call c).2 ≠ [] ∧ ∀ q, q ≠ winner.pbxId →
        (s.answerFor winner call c).1.conferencesByPbx.get? q = s.conferencesByPbx.get? q
        ∧ ((s.answerFor winner call c).1.Talking winner.deviceId q
          ↔ s.Talking winner.deviceId q ∧ ¬ s.Releases (s.previousActive winner c) q) := by
  have hdef : s.answerFor winner call c
      = (((s.setAside (s.previousActive winner c)).1.takeAnswer winner call c
          (winner.privacy || s.devicePrivacy winner.deviceId)).1,
        (s.setAside (s.previousActive winner c)).2
          ++ ((s.setAside (s.previousActive winner c)).1.takeAnswer winner call c
            (winner.privacy || s.devicePrivacy winner.deviceId)).2) := by
    unfold answerFor
    exact if_neg h
  rw [hdef]
  refine ⟨List.append_ne_nil_of_right_ne_nil _ takeAnswer_ne_nil, fun q hq => ⟨?_, ?_⟩⟩
  · exact (conferencesByPbx_takeAnswer q).trans (conferencesByPbx_setAside _ q)
  · exact (talking_takeAnswer hq).trans talking_setAside

/-- In every state an answer leaves one talk path, and a refused one the state,
    exactly when the device of the ringing call is ready for it. -/
theorem answersOneCall_iff_ready (s : Controller) (c : CallId) : s.AnswersOneCall c
      ↔ ∀ winner call, AnswerGuard s c winner call → s.ReadyToAnswer winner c := by
  by_cases hguard : ∃ winner call, AnswerGuard s c winner call
  case neg =>
    have hsame : s.phoneAnswer c = (s, []) := (phoneAnswer_cases s c).resolve_right hguard
    rw [AnswersOneCall, hsame]
    refine ⟨fun _ winner call guard => absurd ⟨winner, call, guard⟩ hguard, fun _ => ?_⟩
    exact ⟨fun hne => absurd rfl hne, fun _ => rfl⟩
  case pos =>
    obtain ⟨winner, call, guard⟩ := hguard
    have hdef := phoneAnswer_of_guard guard
    have hready : (∀ winner call, AnswerGuard s c winner call → s.ReadyToAnswer winner c)
        ↔ s.ReadyToAnswer winner c := by
      refine ⟨fun h => h winner call guard, fun h winner' call' guard' => ?_⟩
      rwa [← (guard.unique guard').1]
    rw [hready, AnswersOneCall, hdef]
    unfold ReadyToAnswer
    by_cases hrefused : (s.previousActive winner c).any s.cannotSetAside = true
    · have hnone := answerFor_refused (s := s.stopAlerting winner.pbxId c) call hrefused
      rw [if_pos hrefused, hnone, ← stopAlerting_eq_self]
      exact ⟨fun h => h.2 rfl, fun h => ⟨fun hne => absurd rfl hne, fun _ => h⟩⟩
    obtain ⟨hne, hafter⟩ :=
      answerFor_taken (s := s.stopAlerting winner.pbxId c) call hrefused
    rw [if_neg hrefused]
    constructor
    · rintro ⟨h, -⟩ q hq hplain htalk
      by_contra hkept
      refine h hne winner guard.shown q hq ((hafter q hq).1.trans hplain) ?_
      exact (hafter q hq).2.mpr ⟨htalk, fun hrel => hkept (releases_stopAlerting.mp hrel)⟩
    refine fun h => ⟨fun _ winner' hwin q hq hplain htalk => ?_, fun hnil => absurd hnil hne⟩
    obtain rfl := Option.mem_unique guard.shown hwin
    obtain ⟨htalk, hkept⟩ := (hafter q hq).2.mp htalk
    exact hkept (releases_stopAlerting.mpr (h q hq ((hafter q hq).1.symm.trans hplain) htalk))

end Controller

namespace Sample

/-- A second call arrives while the answer of the first is under way. -/
def answering : List Event :=
  [.operate (register desk), .operate (offer [(1, desk)]), .operate (.phoneAnswer ⟨1⟩),
    .operate (.offerInboundCallWithPolicy ⟨8⟩ [{ callId := ⟨2⟩, binding := binding desk, codec }])]

/-- The appearance of the second call. -/
def secondCall : CallAppearance :=
  (((Controller.withDigitTimeouts 5 5).handleAll answering).appearanceForCall ⟨2⟩).get (by decide)

end Sample

namespace Controller

/-- The hold of the first call refuses while the backend has not confirmed its
    answer, and both calls are connected on the same device. -/
theorem not_answersOneCall_while_answering : ¬ ∀ firstDigit interdigit events c,
      ((withDigitTimeouts firstDigit interdigit).handleAll events).AnswersOneCall c := by
  intro h
  refine (h 5 5 Sample.answering ⟨2⟩).1 (by decide) Sample.secondCall
    (Option.some_get _).symm ⟨7⟩ ?_ ?_ ?_
  all_goals decide

end Controller

namespace Controller

/-! ## Switching -/

/-- The call plane of two states is the same. -/
structure SameCallPlane (s s' : Controller) : Prop where
  pbx : s'.pbx = s.pbx
  appearances : s'.appearances = s.appearances
  bySccp : s'.bySccp = s.bySccp
  byDevice : s'.byDevice = s.byDevice
  redirectClaims : s'.redirectClaims = s.redirectClaims
  sharedControlClaims : s'.sharedControlClaims = s.sharedControlClaims
  devices : s'.devices = s.devices
  callWaitingTones : s'.callWaitingTones = s.callWaitingTones
  pendingPhoneAnswers : s'.pendingPhoneAnswers = s.pendingPhoneAnswers
  pendingAutoAnswers : s'.pendingAutoAnswers = s.pendingAutoAnswers
  autoAnswerRequests : s'.autoAnswerRequests = s.autoAnswerRequests

theorem SameCallPlane.of_eq {s' : Controller} (h : s' = s) : SameCallPlane s s' := by
  subst h
  exact ⟨rfl, rfl, rfl, rfl, rfl, rfl, rfl, rfl, rfl, rfl, rfl⟩

/-- What `switch_active_call` validates before it touches a call. -/
structure SwitchReady (s : Controller) (d : DeviceId) (c : CallId) (target : CallAppearance) :
    Prop where
  shown : s.appearanceForCall c = some target
  owned : target.deviceId = d
  unconferenced : s.conferencesByPbx.contains target.pbxId = false
  switchable : target.state = .ringing ∨ target.state = .connected ∨ target.state = .held
    ∨ target.state = .sharedHeld
  registered : s.devices.contains d = true
  elsewhere : s.activeCallOf d ≠ some c
  free : (s.activeCallOf d).any s.cannotSetAside = false

/-- The call a switch has to hold first. -/
def engagedCall (s : Controller) (d : DeviceId) : Option CallId :=
  (s.activeCallOf d).filter fun previous => (s.callState previous).any isEngaged

/-- A validated switch holds the engaged call and brings the target to the
    front. -/
theorem switchActiveCall_ready {d : DeviceId} {c : CallId} {target : CallAppearance}
    (ready : SwitchReady s d c target) : s.switchActiveCall d c =
      if (s.engagedCall d).isSome ∧ (s.setAside (s.engagedCall d)).2.isEmpty then
        ((s.setAside (s.engagedCall d)).1, .error .conflict)
      else if ((s.setAside (s.engagedCall d)).1.activateTarget d target c).2.isEmpty
          ∧ target.state ≠ .connected then
        (((s.setAside (s.engagedCall d)).1.activateTarget d target c).1, .error .conflict)
      else
        (((s.setAside (s.engagedCall d)).1.activateTarget d target c).1,
          .ok ((s.setAside (s.engagedCall d)).2
            ++ ((s.setAside (s.engagedCall d)).1.activateTarget d target c).2)) := by
  obtain ⟨state, hstate⟩ := Table.contains_iff.mp ready.registered
  have hactive : s.activeCallOf d = state.activeCall := by rw [activeCallOf, hstate]; rfl
  have helsewhere := ready.elsewhere
  have hfree := ready.free
  rw [hactive] at helsewhere hfree
  unfold switchActiveCall engagedCall
  rw [ready.shown, Option.filter_some, if_pos (by simp [ready.owned]), hactive]
  dsimp only
  rw [if_neg (by simp [ready.unconferenced, ready.switchable]), hstate]
  dsimp only
  rw [if_neg helsewhere, if_neg (by simp [hfree])]

/-- A switch that does not pass the validation leaves the state alone. -/
theorem switchActiveCall_unready {d : DeviceId} {c : CallId}
    (h : ¬ ∃ target, SwitchReady s d c target) : (s.switchActiveCall d c).1 = s := by
  unfold switchActiveCall
  split
  · rfl
  next target htarget =>
  obtain ⟨hshown, howned⟩ := Option.filter_eq_some_iff.mp htarget
  split
  · rfl
  next hg =>
  have hconf : s.conferencesByPbx.contains target.pbxId = false :=
    Bool.eq_false_iff.mpr fun h => hg (.inl h)
  have hswitchable := not_not.mp fun h => hg (.inr h)
  split
  · rfl
  next state hstate =>
  have hactive : s.activeCallOf d = state.activeCall := by
    rw [activeCallOf, hstate]
    rfl
  split
  · rfl
  next helsewhere =>
  split
  · rfl
  next hfree =>
  refine absurd ⟨target, hshown, by simpa using howned, hconf, hswitchable,
    Table.contains_iff.mpr ⟨state, hstate⟩, hactive ▸ helsewhere, ?_⟩ h
  rw [hactive]
  simpa using hfree

/-- The target of a switch can be brought to the front: it can be answered, it
    can be resumed, or it is connected already. -/
def CanFollow (s : Controller) (c : CallId) (target : CallAppearance) : Prop :=
  match target.state with
  | .ringing => ∃ winner call, AnswerGuard s c winner call
  | .held | .sharedHeld => ∃ requester call, ResumeReady s c requester call
  | _ => True

/-- An answer that may be made has effects, and one that may not changes
    nothing: the call the device is on does not stand in its way. -/
theorem phoneAnswer_follows {c : CallId} (hfree : ∀ winner call, AnswerGuard s c winner call →
      (s.previousActive winner c).any s.cannotSetAside = false) :
    (s.phoneAnswer c = (s, []) ∧ ¬ ∃ winner call, AnswerGuard s c winner call)
      ∨ ((s.phoneAnswer c).2 ≠ [] ∧ ∃ winner call, AnswerGuard s c winner call) := by
  by_cases hguard : ∃ winner call, AnswerGuard s c winner call
  case neg => exact .inl ⟨(phoneAnswer_cases s c).resolve_right hguard, hguard⟩
  case pos =>
    obtain ⟨winner, call, guard⟩ := hguard
    refine .inr ⟨?_, winner, call, guard⟩
    rw [phoneAnswer_of_guard guard]
    refine (answerFor_taken (s := s.stopAlerting winner.pbxId c) call ?_).1
    rw [show ((s.stopAlerting winner.pbxId c).previousActive winner c).any
      (s.stopAlerting winner.pbxId c).cannotSetAside = false from hfree winner call guard]
    exact Bool.false_ne_true

/-- Bringing the target to the front fails exactly if it cannot follow, and
    changes nothing then. -/
theorem activateTarget_fails {d : DeviceId} {c : CallId} {target : CallAppearance}
    (hfree : ∀ winner call, AnswerGuard s c winner call →
      (s.previousActive winner c).any s.cannotSetAside = false)
    (hswitchable : target.state = .ringing ∨ target.state = .connected ∨ target.state = .held
      ∨ target.state = .sharedHeld) :
    ((s.activateTarget d target c).2.isEmpty ∧ target.state ≠ .connected ↔ ¬ s.CanFollow c target)
      ∧ (¬ s.CanFollow c target → (s.activateTarget d target c).1 = s) := by
  have hresume : ((s.resume c).2.isEmpty ↔ ¬ ∃ requester call, ResumeReady s c requester call)
      ∧ ((¬ ∃ requester call, ResumeReady s c requester call) → (s.resume c).1 = s) := by
    rcases resume_cases s c with ⟨h, hno⟩ | ⟨h, hyes⟩
    · rw [h]
      exact ⟨⟨fun _ => hno, fun _ => rfl⟩, fun _ => rfl⟩
    · exact ⟨⟨fun h' => absurd (List.isEmpty_iff.mp h') h, fun h' => absurd hyes h'⟩,
        fun h' => absurd hyes h'⟩
  unfold CanFollow activateTarget
  rcases hswitchable with h | h | h | h <;> rw [h] <;> dsimp only
  · rcases phoneAnswer_follows hfree with ⟨heq, hno⟩ | ⟨hne, hyes⟩
    · rw [heq]
      exact ⟨⟨fun _ => hno, fun _ => ⟨rfl, by simp⟩⟩, fun _ => rfl⟩
    · exact ⟨⟨fun h' => absurd (List.isEmpty_iff.mp h'.1) hne, fun h' => absurd hyes h'⟩,
        fun h' => absurd hyes h'⟩
  · simp
  · exact ⟨⟨fun h' => hresume.1.mp h'.1, fun h' => ⟨hresume.1.mpr h', by simp⟩⟩, hresume.2⟩
  · exact ⟨⟨fun h' => hresume.1.mp h'.1, fun h' => ⟨hresume.1.mpr h', by simp⟩⟩, hresume.2⟩

/-- The target can be brought to the front once the given call is held, told
    from the state before: an answer must not be for an appearance of the held
    call, and a resume finds the claim of the held call gone. -/
def CanFollowHeld (s : Controller) (c : CallId) (target owner : CallAppearance) (call : PbxCall) :
    Prop :=
  match target.state with
  | .ringing => (∃ winner call', AnswerGuard s c winner call')
      ∧ ∀ id, s.bySccp.get? c = some id → id ∉ call.appearanceIds
  | .held | .sharedHeld => target.pbxId ∉ s.redirectClaims
      ∧ if target.pbxId = owner.pbxId then
          target.id = owner.id ∨ (target.ringMode ≠ .disabled
            ∧ s.devices.contains target.deviceId = true ∧ call.privacy = false)
        else
          ∃ call', s.pbx.get? target.pbxId = some call' ∧ call'.state = .held
            ∧ (call'.activeAppearance = some target.id ∨ s.sharedControlEligible target = true)
  | _ => True

section Held

variable {x c : CallId} {owner target : CallAppearance} {call : PbxCall} {s' : Controller}

/-- An answer after a hold is an answer before it, of an appearance the held call
    does not list. -/
theorem answerGuard_held (h : Held s owner call s') (guard : HoldGuard s x owner call) :
    (∃ winner call', AnswerGuard s' c winner call') ↔ (∃ winner call', AnswerGuard s c winner call')
        ∧ ∀ id, s.bySccp.get? c = some id → id ∉ call.appearanceIds := by
  have hredirect : s'.redirectClaims = s.redirectClaims := by rw [h.frame]
  have hindex : s'.bySccp = s.bySccp := by rw [h.frame]
  constructor
  · rintro ⟨winner, call', g⟩
    obtain ⟨id, hid, ha⟩ := appearanceForCall_some g.shown
    rw [hindex] at hid
    have hunlisted : id ∉ call.appearanceIds := by
      intro hmem
      rw [h.appearance, if_pos hmem] at ha
      obtain ⟨a, -, rfl⟩ := Option.map_eq_some_iff.mp ha
      have hstate := g.shownRinging
      unfold holdEdit at hstate
      dsimp only at hstate
      split at hstate <;> cases hstate
    have hother : winner.pbxId ≠ owner.pbxId := by
      intro hsame
      have hlive := g.live
      rw [hsame, h.pbx_self guard.live] at hlive
      have hringing := g.ringing
      rw [← Option.some.inj hlive] at hringing
      cases hringing
    rw [h.appearance, if_neg hunlisted] at ha
    refine ⟨⟨winner, call', ?_, ?_, hredirect ▸ g.unclaimed, g.ringing, g.unowned,
      g.shownRinging⟩, fun id' hid' => ?_⟩
    · rw [appearanceForCall, hid]
      exact ha
    · rw [← h.pbx_of_ne hother]
      exact g.live
    · rw [← Option.mem_unique hid hid']
      exact hunlisted
  · rintro ⟨⟨winner, call', g⟩, hunlisted⟩
    obtain ⟨id, hid, ha⟩ := appearanceForCall_some g.shown
    have hother : winner.pbxId ≠ owner.pbxId := by
      intro hsame
      have hlive := g.live
      rw [hsame, guard.live] at hlive
      have hengaged := guard.engaged
      rw [Option.some.inj hlive, g.ringing] at hengaged
      cases hengaged
    refine ⟨winner, call', ?_, (h.pbx_of_ne hother).trans g.live, hredirect ▸ g.unclaimed,
      g.ringing, g.unowned, g.shownRinging⟩
    rw [h.appearanceForCall hid ha, if_neg (hunlisted id hid)]

/-- Control of another call is not touched by a hold. -/
theorem sharedControlEligible_held (h : Held s owner call s') {a a' : CallAppearance}
    (hpbx : a'.pbxId = a.pbxId) (hdev : a'.deviceId = a.deviceId)
    (hmode : a'.ringMode = a.ringMode) (hother : a.pbxId ≠ owner.pbxId) :
    s'.sharedControlEligible a' = s.sharedControlEligible a := by
  have hclaims : s'.sharedControlClaims = s.sharedControlClaims.erase owner.pbxId := by rw [h.frame]
  unfold sharedControlEligible
  rw [hpbx, hdev, hmode, h.registered, h.pbx_of_ne hother, hclaims, Table.contains_erase,
    decide_eq_true hother, Bool.true_and]

/-- The held call has lost its claim, so its privacy alone keeps others out. -/
theorem sharedControlEligible_self (h : Held s owner call s') (guard : HoldGuard s x owner call)
    {a a' : CallAppearance} (hpbx : a'.pbxId = a.pbxId) (hdev : a'.deviceId = a.deviceId)
    (hmode : a'.ringMode = a.ringMode) (hself : a.pbxId = owner.pbxId) :
    s'.sharedControlEligible a' = true ↔ a.ringMode ≠ .disabled
      ∧ s.devices.contains a.deviceId = true ∧ call.privacy = false := by
  have hclaims : s'.sharedControlClaims = s.sharedControlClaims.erase owner.pbxId := by rw [h.frame]
  unfold sharedControlEligible
  rw [hpbx, hdev, hmode, h.registered, hself, h.pbx_self guard.live, hclaims, Table.contains_erase]
  simp [and_assoc]

/-- A resume after a hold, told from the state before. -/
theorem resumeReady_held (h : Held s owner call s') (guard : HoldGuard s x owner call)
    (hshown : s.appearanceForCall c = some target)
    (hplain : s.conferencesByPbx.contains target.pbxId = false)
    (hheld : target.state = .held ∨ target.state = .sharedHeld) :
    (∃ requester call', ResumeReady s' c requester call') ↔ target.pbxId ∉ s.redirectClaims
      ∧ if target.pbxId = owner.pbxId then
          target.id = owner.id ∨ (target.ringMode ≠ .disabled
            ∧ s.devices.contains target.deviceId = true ∧ call.privacy = false)
        else
          ∃ call', s.pbx.get? target.pbxId = some call' ∧ call'.state = .held
            ∧ (call'.activeAppearance = some target.id
              ∨ s.sharedControlEligible target = true) := by
  have hredirect : s'.redirectClaims = s.redirectClaims := by rw [h.frame]
  have hconf : s'.conferencesByPbx = s.conferencesByPbx := by rw [h.frame]
  obtain ⟨id, hid, ha⟩ := appearanceForCall_some hshown
  -- the requester keeps everything a resume reads, and is still shown held
  obtain ⟨target', hshown', hpbx, hkey, hdev, hmode, hheld'⟩ : ∃ target',
      s'.appearanceForCall c = some target' ∧ target'.pbxId = target.pbxId
        ∧ target'.id = target.id ∧ target'.deviceId = target.deviceId
        ∧ target'.ringMode = target.ringMode
        ∧ (target'.state = .held ∨ target'.state = .sharedHeld) := by
    refine ⟨_, h.appearanceForCall hid ha, ?_⟩
    split
    · obtain ⟨h₁, h₂, h₃, h₄⟩ := holdEdit_fields owner.id id target
      exact ⟨h₁, h₂, h₃, h₄, holdEdit_shownHeld⟩
    · exact ⟨rfl, rfl, rfl, rfl, hheld⟩
  constructor
  · rintro ⟨requester, call', ready⟩
    obtain rfl := Option.mem_unique hshown' ready.shown
    refine ⟨hpbx ▸ hredirect ▸ ready.unclaimed, ?_⟩
    have hlive := ready.live
    rw [hpbx] at hlive
    split
    · next hself =>
      rw [hself, h.pbx_self guard.live] at hlive
      obtain rfl := Option.some.inj hlive
      refine ready.entitled.imp (fun hown => ?_)
        (sharedControlEligible_self h guard hpbx hdev hmode hself).mp
      exact (hkey.symm.trans (Option.mem_unique guard.owned hown).symm)
    next hother =>
    rw [h.pbx_of_ne hother] at hlive
    refine ⟨call', hlive, ready.held, ready.entitled.imp (fun hown => ?_) (fun helig => ?_)⟩
    · rw [hown, hkey]
    · rwa [← sharedControlEligible_held h hpbx hdev hmode hother]
  · rintro ⟨hred, hrest⟩
    have hred' : target'.pbxId ∉ s'.redirectClaims := by rwa [hpbx, hredirect]
    have hconf' : s'.conferencesByPbx.get? target'.pbxId = none := by
      rw [hpbx, hconf]
      exact Table.not_contains_iff.mp hplain
    split at hrest
    · next hself =>
      refine ⟨target', { call with state := .held }, hshown', ?_, hred', hconf', rfl, hheld',
        hrest.imp (fun hown => ?_) ?_⟩
      · rw [hpbx, hself]
        exact h.pbx_self guard.live
      · rw [hkey, hown]
        exact guard.owned
      · exact (sharedControlEligible_self h guard hpbx hdev hmode hself).mpr
    next hother =>
    obtain ⟨call', hlive, hstate, hentitled⟩ := hrest
    refine ⟨target', call', hshown', ?_, hred', hconf', hstate, hheld',
      hentitled.imp (fun hown => ?_) (fun helig => ?_)⟩
    · rw [hpbx, h.pbx_of_ne hother]
      exact hlive
    · rw [hown, hkey]
    · rwa [sharedControlEligible_held h hpbx hdev hmode hother]

theorem canFollow_held {d : DeviceId} (h : Held s owner call s') (guard : HoldGuard s x owner call)
    (ready : SwitchReady s d c target) :
    s'.CanFollow c target ↔ s.CanFollowHeld c target owner call := by
  unfold CanFollow CanFollowHeld
  rcases ready.switchable with hst | hst | hst | hst <;> rw [hst] <;> dsimp only
  · exact answerGuard_held h guard
  · exact resumeReady_held h guard ready.shown ready.unconferenced (.inl hst)
  · exact resumeReady_held h guard ready.shown ready.unconferenced (.inr hst)

/-- A hold brings no call into a conference or a barge. -/
theorem cannotSetAside_held (h : Held s owner call s') {y : CallId}
    (hengaged : (s.callState y).any isEngaged = true) (hy : s'.cannotSetAside y = true) :
    s.cannotSetAside y = true := by
  have hsession : s'.conferenceSession y = s.conferenceSession y := by
    unfold conferenceSession
    cases hshown : s.appearanceForCall y with
    | none => rw [callState, hshown] at hengaged; cases hengaged
    | some a =>
      obtain ⟨id, hid, ha⟩ := appearanceForCall_some hshown
      rw [h.appearanceForCall hid ha]
      dsimp only
      have hpbx : (if id ∈ call.appearanceIds then (holdEdit owner.id id a).appearance
          else a).pbxId = a.pbxId := by
        split
        · exact (holdEdit_fields owner.id id a).1
        · rfl
      rw [hpbx, h.frame]
      rfl
  have hbarges : s'.bargesByHandset = s.bargesByHandset := by rw [h.frame]
  unfold cannotSetAside at hy ⊢
  rw [Bool.and_eq_true] at hy ⊢
  rw [hsession, hbarges] at hy
  refine ⟨?_, hy.2⟩
  rwa [callState, Option.any_map] at hengaged

/-- Once the call it is on is held, a device is free to answer. -/
theorem free_held {d : DeviceId} (h : Held s owner call s') (ready : SwitchReady s d c target)
    (hx : s.engagedCall d = some x) (winner : CallAppearance) (call' : PbxCall)
    (g : AnswerGuard s' c winner call') :
    (s'.previousActive winner c).any s'.cannotSetAside = false := by
  obtain ⟨hactive, hengaged⟩ := Option.filter_eq_some_iff.mp hx
  have hdev : winner.deviceId = d := by
    obtain ⟨id, hid, ha⟩ := appearanceForCall_some ready.shown
    have hshown := h.appearanceForCall hid ha
    rw [← Option.mem_unique hshown g.shown, ← ready.owned]
    split
    · exact (holdEdit_fields owner.id id target).2.2.1
    · rfl
  rw [Bool.eq_false_iff]
  intro hany
  obtain ⟨y, hy, hset⟩ := (Option.any_eq_true _ _).mp hany
  have hy' := h.active _ _ (Option.filter_eq_some_iff.mp hy).1
  rw [hdev, hactive] at hy'
  obtain rfl := Option.some.inj hy'
  have hnot := ready.free
  rw [hactive, Option.any_some, cannotSetAside_held h hengaged hset] at hnot
  cases hnot

end Held

/-- A switch is rejected late: it has held the device's call, and the target
    cannot follow. -/
def LateRejection (s : Controller) (d : DeviceId) (c : CallId) : Prop :=
  ∃ target x owner call, SwitchReady s d c target ∧ s.engagedCall d = some x
    ∧ HoldGuard s x owner call ∧ ¬ s.CanFollowHeld c target owner call

/-- Holding a call shows in the call plane. -/
theorem not_sameCallPlane_held {x : CallId} {owner : CallAppearance} {call : PbxCall}
    {s' : Controller} (h : Held s owner call s') (guard : HoldGuard s x owner call) :
    ¬ SameCallPlane s s' := by
  intro hsame
  have hcall := h.pbx_self guard.live
  rw [hsame.pbx, guard.live] at hcall
  have hengaged := guard.engaged
  rw [Option.some.inj hcall] at hengaged
  cases hengaged

/-- A rejected switch has changed nothing, unless it is rejected late; then the
    device's call stays held. -/
theorem switchActiveCall_rejected (s : Controller) (d : DeviceId) (c : CallId) :
    (s.LateRejection d c → ∃ r s', s.switchActiveCall d c = (s', .error r) ∧ ¬ SameCallPlane s s')
      ∧ (¬ s.LateRejection d c → ∀ r, (s.switchActiveCall d c).2 = .error r →
        (s.switchActiveCall d c).1 = s) := by
  constructor
  · rintro ⟨target, x, owner, call, ready, hx, guard, hstuck⟩
    have hheld := hold_held guard
    have hfails := activateTarget_fails (d := d) (free_held hheld ready hx) ready.switchable
    have hno : ¬ (s.hold x).1.CanFollow c target := fun h =>
      hstuck ((canFollow_held hheld guard ready).mp h)
    refine ⟨.conflict, (s.hold x).1, ?_, not_sameCallPlane_held hheld guard⟩
    rw [switchActiveCall_ready ready, hx, show s.setAside (some x) = s.hold x from rfl,
      if_neg fun h => hold_of_guard guard (List.isEmpty_iff.mp h.2), if_pos (hfails.1.mpr hno),
      hfails.2 hno]
  · intro hlate r herr
    by_cases hready : ∃ target, SwitchReady s d c target
    case neg => exact switchActiveCall_unready hready
    case pos =>
      obtain ⟨target, ready⟩ := hready
      rw [switchActiveCall_ready ready] at herr ⊢
      cases hx : s.engagedCall d with
      | none =>
        have hfree : ∀ winner call, AnswerGuard s c winner call →
            (s.previousActive winner c).any s.cannotSetAside = false := by
          intro winner call g
          rw [← Option.mem_unique ready.shown g.shown, previousActive, ready.owned,
            Bool.eq_false_iff]
          intro hany
          obtain ⟨y, hy, hset⟩ := (Option.any_eq_true _ _).mp hany
          have hnot := ready.free
          rw [(Option.filter_eq_some_iff.mp hy).1, Option.any_some, hset] at hnot
          cases hnot
        have hfails := activateTarget_fails (d := d) hfree ready.switchable
        rw [hx, show s.setAside none = (s, []) from rfl, if_neg (by simp)] at herr
        rw [show s.setAside none = (s, []) from rfl, if_neg (by simp)]
        split at herr
        · next hno => rw [if_pos hno, hfails.2 (hfails.1.mp hno)]
        · cases herr
      | some x =>
        rw [hx, show s.setAside (some x) = s.hold x from rfl] at herr
        rw [show s.setAside (some x) = s.hold x from rfl]
        by_cases hguard : ∃ owner call, HoldGuard s x owner call
        case neg =>
          rw [hold_refused hguard, if_pos ⟨rfl, rfl⟩]
        case pos =>
          obtain ⟨owner, call, guard⟩ := hguard
          have hheld := hold_held guard
          have hfails := activateTarget_fails (d := d) (free_held hheld ready hx) ready.switchable
          have hfollow : (s.hold x).1.CanFollow c target := by
            by_contra hno
            exact hlate ⟨target, x, owner, call, ready, hx, guard,
              fun h => hno ((canFollow_held hheld guard ready).mpr h)⟩
          rw [if_neg fun h => hold_of_guard guard (List.isEmpty_iff.mp h.2),
            if_neg fun h => hfails.1.mp h hfollow] at herr
          cases herr

/-- A rejected switch, or a rejected transaction of one, leaves the call plane as
    it was. -/
def RejectionsHarmless (s : Controller) (d : DeviceId) (c : CallId) : Prop :=
  (∀ r, (s.switchActiveCall d c).2 = .error r → SameCallPlane s (s.switchActiveCall d c).1)
    ∧ (∀ r, (s.beginActiveCallSwitchTransaction d c).2 = .error r →
      SameCallPlane s (s.beginActiveCallSwitchTransaction d c).1)

/-- In every state a rejected switch leaves the call plane alone exactly if it is
    not rejected late. -/
theorem rejectionsHarmless_iff (s : Controller) (d : DeviceId) (c : CallId) :
    s.RejectionsHarmless d c ↔ ¬ s.LateRejection d c := by
  obtain ⟨hlate, hearly⟩ := switchActiveCall_rejected s d c
  constructor
  · rintro ⟨hswitch, -⟩ h
    obtain ⟨r, s', heq, hdiffers⟩ := hlate h
    have hsame := hswitch r (congrArg Prod.snd heq)
    rw [heq] at hsame
    exact hdiffers hsame
  intro h
  refine ⟨fun r hr => .of_eq (hearly h r hr), fun r hr => ?_⟩
  unfold beginActiveCallSwitchTransaction at hr ⊢
  dsimp only at hr ⊢
  split
  · exact .of_eq rfl
  next hpending =>
  rw [if_neg hpending] at hr
  split
  · exact .of_eq rfl
  next target htarget =>
  rw [htarget] at hr
  dsimp only at hr
  split
  · next s' r' heq =>
    have hkept := hearly h r' (congrArg Prod.snd heq)
    rw [heq] at hkept
    exact .of_eq hkept
  · next s' effects heq =>
    rw [heq] at hr
    cases hr

end Controller

namespace Sample

/-- A device talks on one call while another one rings, and the ringing one is
    being diverted. -/
def diverting : List Event :=
  [.operate (register desk), .operate (.beginPhoneCall ⟨1⟩ (binding desk) codec 0),
    .operate (.enbloc ⟨1⟩ "5"), .operate (.pbxAnswer ⟨1⟩), .operate (offer [(2, desk)]),
    .operate (.beginImmediateDivert desk ⟨2⟩ ⟨"default", "*97"⟩)]

def diverted : Controller := (Controller.withDigitTimeouts 5 5).handleAll diverting

end Sample

namespace Controller

/-- A switch to a call that is being diverted is rejected after the device's call
    has been put on hold. -/
theorem not_rejectionsHarmless_diverted : ¬ ∀ firstDigit interdigit events d c,
      ((withDigitTimeouts firstDigit interdigit).handleAll events).RejectionsHarmless d c := by
  intro h
  have hrejected : ¬ (Sample.diverted.switchActiveCall Sample.desk ⟨2⟩).2.toOption.isSome
      = true := by decide
  have hsame : SameCallPlane Sample.diverted
      (Sample.diverted.switchActiveCall Sample.desk ⟨2⟩).1 := by
    cases hres : (Sample.diverted.switchActiveCall Sample.desk ⟨2⟩).2 with
    | error r => exact (h 5 5 Sample.diverting Sample.desk ⟨2⟩).1 r hres
    | ok effects => exact absurd (by rw [hres]; rfl) hrejected
  exact absurd (congrArg (fun pbx => (pbx.get? ⟨1⟩).map (·.state)) hsame.pbx) (by decide)

end Controller

end Sccp
