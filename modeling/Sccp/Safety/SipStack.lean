/-
  Sccp.Safety.SipStack

  Events of an ended SIP call and the calls that come after it.

  The queue keeps the events of each id in the order of the calls that had it, and the end of a
  call is the last of its events.  A handset call is attached to the SIP call that the queue has
  got to, so long as no id is given to an outbound call while an event about it is queued.
-/

import Sccp.Gateway.SipStack
import Sccp.Safety.GatewayCalls

namespace Sccp.Gateway

open Sccp

/-! ## The queue of the stack -/

theorem SipEvent.call?_of_isIncoming {event : SipEvent} (h : event.isIncoming = true) :
    event.call? ≠ none := by
  cases event with
  | incomingCall _ _ _ _ => exact nofun
  | _ => cases h

theorem SipEvent.call?_of_isEnd {event : SipEvent} (h : event.isEnd = true) :
    event.call? ≠ none := by
  cases event with
  | callState _ _ => exact nofun
  | _ => cases h

/-- How two events may follow each other in the queue. -/
structure Emitted.Before (p q : Emitted) : Prop where
  /-- Events about one id come in the order of the calls that had it. -/
  order : ∀ i j id, p.source = some i → q.source = some j → p.event.call? = some id →
    q.event.call? = some id → i ≤ j
  once : p.event.isIncoming = true → q.event.isIncoming = true → p.source ≠ q.source
  last : p.event.isEnd = true → p.source ≠ q.source

/-- The end of a SIP call is in the queue. -/
def Ending (queue : List Emitted) (k : Nat) : Prop :=
  ∃ event, ⟨some k, event⟩ ∈ queue ∧ event.isEnd = true

/-- Everything in the queue about an id comes from this SIP call or a later one. -/
def Ahead (queue : List Emitted) (k : Nat) (id : SipCallId) : Prop :=
  ∀ j event, ⟨some j, event⟩ ∈ queue → event.call? = some id → k ≤ j

/-- What the SIP call that has emitted an event is like. -/
structure Source (queue : List Emitted) (k : Nat) (event : SipEvent) (dialog : SipDialog) :
    Prop where
  about : event.call? = some dialog.id
  announced : event.isIncoming = true → dialog.announced = true
  finished : event.isEnd = true → dialog.finished = true
  ending : dialog.finished = true → Ending queue k

structure Orderly (dialogs : List SipDialog) (queue : List Emitted) : Prop where
  sourced : ∀ k event, ⟨some k, event⟩ ∈ queue →
    ∃ dialog, dialogs[k]? = some dialog ∧ Source queue k event dialog
  unsourced : ∀ event, ⟨none, event⟩ ∈ queue → event.call? = none
  /-- An id is used again when the call that had it is over. -/
  latest : ∀ (i j : Nat) (earlier later : SipDialog), i < j → dialogs[i]? = some earlier →
    dialogs[j]? = some later → earlier.id = later.id → earlier.finished = true
  sorted : queue.Pairwise Emitted.Before

namespace Orderly

variable {dialogs : List SipDialog} {queue rest : List Emitted} {k : Nat} {dialog : SipDialog}
  {event : SipEvent} {emitted : Emitted}
variable {j : Nat}

/-- A call that is not over is the last one with its id. -/
theorem le_of_live (h : Orderly dialogs queue) (hdialog : dialogs[k]? = some dialog)
    (hlive : dialog.finished = false) {other : SipDialog} (hother : dialogs[j]? = some other)
    (hid : other.id = dialog.id) : j ≤ k := by
  by_contra hlt
  have hover := h.latest k j dialog other (Nat.lt_of_not_le hlt) hdialog hother hid.symm
  rw [hlive] at hover
  cases hover

theorem ahead_of_live (h : Orderly dialogs queue) (hdialog : dialogs[k]? = some dialog)
    (hlive : dialog.finished = false) {id : SipCallId} {later : SipEvent}
    (hlater : ⟨some j, later⟩ ∈ queue) (hid : later.call? = some id) (hsame : id = dialog.id) :
    j ≤ k := by
  obtain ⟨other, hother, hsource⟩ := h.sourced j later hlater
  have hcall := hsource.about.symm.trans hid
  exact h.le_of_live hdialog hlive hother ((Option.some.inj hcall).trans hsame)

theorem mem_queue {old : SipEvent} (h : ⟨some j, old⟩ ∈ queue ++ [⟨some k, event⟩]) :
    ⟨some j, old⟩ ∈ queue ∨ j = k ∧ old = event := by
  rcases List.mem_append.mp h with h | h
  · exact .inl h
  · obtain ⟨hsource, hevent⟩ := Emitted.mk.inj (List.mem_singleton.mp h)
    exact .inr ⟨Option.some.inj hsource, hevent⟩

theorem getElem?_emit (dialogs : List SipDialog) (k j : Nat) (event : SipEvent) :
    (dialogs.modify k (.after event))[j]?
      = dialogs[j]?.map fun dialog => if k = j then dialog.after event else dialog :=
  List.getElem?_modify ..

theorem getElem?_emit_of (hdialog : dialogs[j]? = some dialog) :
    (dialogs.modify k (.after event))[j]?
      = some (if k = j then dialog.after event else dialog) := by
  rw [getElem?_emit, hdialog, Option.map_some]

theorem after_id (event : SipEvent) (dialog : SipDialog) (k j : Nat) :
    (if k = j then dialog.after event else dialog).id = dialog.id := by
  split <;> rfl

theorem after_announced (k j : Nat) (h : dialog.announced = true) :
    (if k = j then dialog.after event else dialog).announced = true := by
  split
  · simp [SipDialog.after, h]
  · exact h

theorem after_over (k j : Nat) (h : dialog.finished = true) :
    (if k = j then dialog.after event else dialog).finished = true := by
  split
  · simp [SipDialog.after, h]
  · exact h

theorem ending_append (h : Ending queue j) (added : List Emitted) : Ending (queue ++ added) j := by
  obtain ⟨last, hlast, hend⟩ := h
  exact ⟨last, List.mem_append_left _ hlast, hend⟩

/-- A call that is over after an event was over before, or the event is its end. -/
theorem ending_after (h : dialog.finished = true → Ending queue j)
    (hover : (if k = j then dialog.after event else dialog).finished = true) :
    Ending (queue ++ [⟨some k, event⟩]) j := by
  by_cases hj : k = j
  · rw [if_pos hj] at hover
    rcases Bool.or_eq_true_iff.mp hover with hover | hend
    · exact ending_append (h hover) _
    · exact ⟨event, List.mem_append_right _ (hj ▸ List.mem_singleton.mpr rfl), hend⟩
  · rw [if_neg hj] at hover
    exact ending_append (h hover) _

/-- A live call emits an event about itself. -/
theorem emit (h : Orderly dialogs queue) (hdialog : dialogs[k]? = some dialog)
    (hlive : dialog.finished = false) (habout : event.call? = some dialog.id)
    (honce : event.isIncoming = true → dialog.announced = false) :
    Orderly (dialogs.modify k (.after event)) (queue ++ [⟨some k, event⟩]) where
  sourced := fun j old hold => by
    rcases mem_queue hold with hold | ⟨rfl, rfl⟩
    · obtain ⟨source, hsource, hold⟩ := h.sourced j old hold
      refine ⟨_, getElem?_emit_of hsource, ?_⟩
      exact {
        about := hold.about.trans (congrArg some (after_id ..).symm)
        announced := fun hincoming => after_announced _ _ (hold.announced hincoming)
        finished := fun hend => after_over _ _ (hold.finished hend)
        ending := ending_after hold.ending }
    refine ⟨_, getElem?_emit_of hdialog, ?_⟩
    rw [if_pos rfl]
    exact {
      about := habout
      announced := fun hincoming => by simp [SipDialog.after, hincoming]
      finished := fun hend => by simp [SipDialog.after, hend]
      ending := fun hover => by
        have hend : old.isEnd = true := by simpa [SipDialog.after, hlive] using hover
        exact ⟨old, List.mem_append_right _ (List.mem_singleton.mpr rfl), hend⟩ }
  unsourced := fun old hold => by
    rcases List.mem_append.mp hold with hold | hold
    · exact h.unsourced old hold
    · cases List.mem_singleton.mp hold
  latest := fun i j earlier later hij hearlier hlater hid => by
    rw [getElem?_emit, Option.map_eq_some_iff] at hearlier hlater
    obtain ⟨earlier, hearlier, rfl⟩ := hearlier
    obtain ⟨later, hlater, rfl⟩ := hlater
    rw [after_id, after_id] at hid
    exact after_over _ _ (h.latest i j earlier later hij hearlier hlater hid)
  sorted := by
    refine List.pairwise_append.mpr ⟨h.sorted, List.pairwise_singleton .., fun p hp q hq => ?_⟩
    obtain rfl := List.mem_singleton.mp hq
    obtain ⟨source, old⟩ := p
    refine ⟨fun i j id hi hj hold hnew => ?_, fun hold hnew heq => ?_, fun hend heq => ?_⟩
    · obtain rfl := Option.some.inj hj
      subst hi
      exact h.ahead_of_live hdialog hlive hp hold (Option.mem_unique hnew habout)
    · -- the call would have been announced before
      subst heq
      obtain ⟨same, hsame, hsource⟩ := h.sourced k old hp
      rw [hdialog] at hsame
      obtain rfl := Option.some.inj hsame
      have hnot := honce hnew
      rw [hsource.announced hold] at hnot
      cases hnot
    subst heq
    obtain ⟨same, hsame, hsource⟩ := h.sourced k old hp
    rw [hdialog] at hsame
    obtain rfl := Option.some.inj hsame
    rw [hsource.finished hend] at hlive
    cases hlive

theorem lt_length (hdialog : dialogs[k]? = some dialog) : k < dialogs.length :=
  (List.getElem?_eq_some_iff.mp hdialog).1

theorem getElem?_grow (hdialog : dialogs[k]? = some dialog) (new : SipDialog) :
    (dialogs ++ [new])[k]? = some dialog :=
  (List.getElem?_append_left (lt_length hdialog)).trans hdialog

/-- A new call has a free id. -/
theorem grow (h : Orderly dialogs queue) {new : SipDialog}
    (hfree : ∀ dialog ∈ dialogs, dialog.id = new.id → dialog.finished = true) :
    Orderly (dialogs ++ [new]) queue where
  sourced := fun j event hevent => by
    obtain ⟨source, hsource, hold⟩ := h.sourced j event hevent
    exact ⟨source, getElem?_grow hsource new, hold⟩
  unsourced := h.unsourced
  latest := fun i j earlier later hij hearlier hlater hid => by
    have hj : j < dialogs.length + 1 := by simpa using lt_length hlater
    have hi : i < dialogs.length := Nat.lt_of_lt_of_le hij (Nat.lt_succ_iff.mp hj)
    rw [List.getElem?_append_left hi] at hearlier
    rcases Nat.lt_succ_iff_lt_or_eq.mp hj with hj | rfl
    · rw [List.getElem?_append_left hj] at hlater
      exact h.latest i j earlier later hij hearlier hlater hid
    · rw [List.getElem?_concat_length] at hlater
      obtain rfl := Option.some.inj hlater
      exact hfree earlier (List.mem_of_getElem? hearlier) hid
  sorted := h.sorted

theorem notice (h : Orderly dialogs queue) (hnone : event.call? = none) :
    Orderly dialogs (queue ++ [⟨none, event⟩]) where
  sourced := fun j old hold => by
    rcases List.mem_append.mp hold with hold | hold
    · obtain ⟨source, hsource, hold⟩ := h.sourced j old hold
      exact ⟨source, hsource, hold.about, hold.announced, hold.finished,
        fun hover => ending_append (hold.ending hover) _⟩
    · cases List.mem_singleton.mp hold
  unsourced := fun old hold => by
    rcases List.mem_append.mp hold with hold | hold
    · exact h.unsourced old hold
    · obtain ⟨-, rfl⟩ := Emitted.mk.inj (List.mem_singleton.mp hold)
      exact hnone
  latest := h.latest
  sorted := by
    refine List.pairwise_append.mpr ⟨h.sorted, List.pairwise_singleton .., fun p hp q hq => ?_⟩
    obtain rfl := List.mem_singleton.mp hq
    obtain ⟨source, old⟩ := p
    refine ⟨fun i j id _ hj _ _ => ?_, fun hold _ heq => ?_, fun hend heq => ?_⟩
    · cases hj
    · subst heq
      exact SipEvent.call?_of_isIncoming hold (h.unsourced old hp)
    · subst heq
      exact SipEvent.call?_of_isEnd hend (h.unsourced old hp)

/-- The end of a call that has events in the queue is not taken from it before them. -/
theorem ending_rest (h : Orderly dialogs (emitted :: rest))
    (hnot : emitted.event.isEnd = true → emitted.source ≠ some j)
    (hending : Ending (emitted :: rest) j) : Ending rest j := by
  obtain ⟨last, hlast, hend⟩ := hending
  rcases List.mem_cons.mp hlast with rfl | hlast
  · exact absurd rfl (hnot hend)
  · exact ⟨last, hlast, hend⟩

theorem deliver (h : Orderly dialogs (emitted :: rest)) : Orderly dialogs rest where
  sourced := fun j event hevent => by
    obtain ⟨source, hsource, hold⟩ := h.sourced j event (List.mem_cons_of_mem _ hevent)
    refine ⟨source, hsource, hold.about, hold.announced, hold.finished, fun hover => ?_⟩
    exact h.ending_rest ((List.rel_of_pairwise_cons h.sorted hevent).last) (hold.ending hover)
  unsourced := fun event hevent => h.unsourced event (List.mem_cons_of_mem _ hevent)
  latest := h.latest
  sorted := h.sorted.of_cons

end Orderly

/-! ## The owner of a handset call -/

/-- The SIP call of a handset call: the one that has this id now, as far as the queue has got. -/
structure Owner (dialogs : List SipDialog) (queue : List Emitted) (k : Nat) (id : SipCallId) :
    Prop where
  dialog : ∃ dialog, dialogs[k]? = some dialog ∧ dialog.id = id ∧ dialog.announced = true
    ∧ (dialog.finished = true → Ending queue k)
  ahead : Ahead queue k id
  offered : ∀ event, ⟨some k, event⟩ ∈ queue → event.isIncoming = false

namespace Owner

open Orderly

variable {dialogs : List SipDialog} {queue rest : List Emitted} {k owner : Nat} {id : SipCallId}
  {dialog : SipDialog} {event : SipEvent} {emitted : Emitted}

theorem emit (h : Owner dialogs queue owner id) (horderly : Orderly dialogs queue)
    (hdialog : dialogs[k]? = some dialog) (hlive : dialog.finished = false)
    (habout : event.call? = some dialog.id)
    (honce : event.isIncoming = true → dialog.announced = false) :
    Owner (dialogs.modify k (.after event)) (queue ++ [⟨some k, event⟩]) owner id where
  dialog := by
    obtain ⟨own, hown, hid, hannounced, hending⟩ := h.dialog
    exact ⟨_, getElem?_emit_of hown, (after_id ..).trans hid, after_announced _ _ hannounced,
      ending_after hending⟩
  ahead := fun j old hold hcall => by
    rcases mem_queue hold with hold | ⟨rfl, rfl⟩
    · exact h.ahead j old hold hcall
    -- the call that emits is the latest with its id
    obtain ⟨own, hown, hid, _, _⟩ := h.dialog
    have hsame := Option.mem_unique hcall habout
    exact horderly.le_of_live hdialog hlive hown (hid.trans hsame)
  offered := fun old hold => by
    rcases mem_queue hold with hold | ⟨rfl, rfl⟩
    · exact h.offered old hold
    obtain ⟨own, hown, _, hannounced, _⟩ := h.dialog
    rw [hdialog] at hown
    obtain rfl := Option.some.inj hown
    refine Bool.eq_false_iff.mpr fun hincoming => ?_
    rw [honce hincoming] at hannounced
    cases hannounced

theorem grow (h : Owner dialogs queue owner id) (new : SipDialog) :
    Owner (dialogs ++ [new]) queue owner id where
  dialog := by
    obtain ⟨own, hown, hrest⟩ := h.dialog
    exact ⟨own, getElem?_grow hown new, hrest⟩
  ahead := h.ahead
  offered := h.offered

theorem mem_notice {j : Nat} {old : SipEvent} (h : ⟨some j, old⟩ ∈ queue ++ [⟨none, event⟩]) :
    ⟨some j, old⟩ ∈ queue := by
  rcases List.mem_append.mp h with h | h
  · exact h
  · cases List.mem_singleton.mp h

theorem notice (h : Owner dialogs queue owner id) (event : SipEvent) :
    Owner dialogs (queue ++ [⟨none, event⟩]) owner id where
  dialog := by
    obtain ⟨own, hown, hid, hannounced, hending⟩ := h.dialog
    exact ⟨own, hown, hid, hannounced, fun hover => ending_append (hending hover) _⟩
  ahead := fun j old hold => h.ahead j old (mem_notice hold)
  offered := fun old hold => h.offered old (mem_notice hold)

/-- Unless it is the end of the call that is taken from the queue. -/
theorem deliver (h : Owner dialogs (emitted :: rest) owner id)
    (horderly : Orderly dialogs (emitted :: rest))
    (hnot : emitted.event.isEnd = true → emitted.source ≠ some owner) :
    Owner dialogs rest owner id where
  dialog := by
    obtain ⟨own, hown, hid, hannounced, hending⟩ := h.dialog
    exact ⟨own, hown, hid, hannounced, fun hover => horderly.ending_rest hnot (hending hover)⟩
  ahead := fun j old hold => h.ahead j old (List.mem_cons_of_mem _ hold)
  offered := fun old hold => h.offered old (List.mem_cons_of_mem _ hold)

end Owner

variable {rest : List Emitted} {event : SipEvent}

/-- What the queue has about the id of an event comes from the same call or later ones. -/
theorem Orderly.ahead {dialogs : List SipDialog} {k : Nat} {id : SipCallId}
    (h : Orderly dialogs (⟨some k, event⟩ :: rest)) (hid : event.call? = some id) :
    Ahead rest k id := fun j _ hlater hcall =>
  (List.rel_of_pairwise_cons h.sorted hlater).order k j id rfl rfl hid hcall

/-- The call that has emitted the next event about an id is the owner of that id. -/
theorem Owner.eq_of_next {dialogs : List SipDialog} {k owner : Nat} {id : SipCallId}
    (h : Owner dialogs (⟨some k, event⟩ :: rest) owner id)
    (horderly : Orderly dialogs (⟨some k, event⟩ :: rest)) (hid : event.call? = some id) :
    owner = k := by
  have hle := h.ahead k event List.mem_cons_self hid
  rcases Nat.eq_or_lt_of_le hle with heq | hlt
  · exact heq
  -- an earlier call is over, and its end would be behind this event
  obtain ⟨own, hown, hown', _, hending⟩ := h.dialog
  obtain ⟨source, hsource, habout⟩ := horderly.sourced k event List.mem_cons_self
  have hsame := Option.mem_unique habout.about hid
  have hover := horderly.latest owner k own source hlt hown hsource (hown'.trans hsame.symm)
  obtain ⟨last, hlast, hend⟩ := hending hover
  obtain ⟨own', hown'', hlast'⟩ := horderly.sourced owner last hlast
  rw [hown] at hown''
  obtain rfl := Option.some.inj hown''
  rcases List.mem_cons.mp hlast with heq | hlast
  · have hsame := Option.some.inj (congrArg Emitted.source heq)
    exact hsame
  · have hback := horderly.ahead hid owner last hlast (hlast'.about.trans (congrArg some hown'))
    omega

/-- The SIP call that has just come in is the owner of its id. -/
theorem Orderly.owner_of_incoming {dialogs : List SipDialog} {k : Nat}
    (h : Orderly dialogs (⟨some k, event⟩ :: rest)) (hincoming : event.isIncoming = true)
    {s : SipCallId} (hid : event.call? = some s) : Owner dialogs rest k s where
  dialog := by
    obtain ⟨dialog, hdialog, hsource⟩ := h.sourced k event List.mem_cons_self
    refine ⟨dialog, hdialog, Option.mem_unique hsource.about hid,
      hsource.announced hincoming, fun hover => ?_⟩
    refine h.ending_rest (fun hend => ?_) (hsource.ending hover)
    cases event with
    | incomingCall _ _ _ _ => cases hend
    | _ => cases hincoming
  ahead := h.ahead hid
  offered := fun later hlater => by
    have hbefore := List.rel_of_pairwise_cons h.sorted hlater
    exact Bool.eq_false_iff.mpr fun hincoming' => hbefore.once hincoming hincoming' rfl

/-! ## What a turn of the bridge does -/

namespace Coordinator

/-- Turns add to the trace, and nothing by which a call is attached. -/
theorem turn_trace {b b' : Coordinator} (h : Turn b b') : ∃ effects,
    b'.trace = b.trace ++ effects ∧ ∀ effect ∈ effects, ∀ s, effect.attaches s = false := by
  have hnone : ∃ effects, b.trace = b.trace ++ effects
      ∧ ∀ effect ∈ effects, ∀ s, Effect.attaches s effect = false :=
    ⟨[], (List.append_nil _).symm, fun _ he => absurd he List.not_mem_nil⟩
  rcases h with hmove | ⟨_, _, _, htrace⟩
  · cases hmove with
    | note effect hneutral =>
      refine ⟨[effect], rfl, fun e he s => ?_⟩
      rw [List.mem_singleton.mp he]
      exact (Effect.neutral_sip hneutral s).1
    | start callId call device text hnew hsip hbound =>
      refine ⟨[_], rfl, fun e he s => ?_⟩
      rw [List.mem_singleton.mp he]
      rfl
    | close callId call effects hcall heffects =>
      refine ⟨effects, rfl, fun e he s => Bool.eq_false_iff.mpr ?_⟩
      exact List.countP_eq_zero.mp (heffects.attaches s) e he
    | _ => exact hnone
  · rw [htrace]
    exact hnone

theorem turns_trace {b b' : Coordinator} (h : Turns b b') : ∃ effects,
    b'.trace = b.trace ++ effects ∧ ∀ effect ∈ effects, ∀ s, effect.attaches s = false := by
  induction h with
  | refl => exact ⟨[], (List.append_nil _).symm, fun _ he => absurd he List.not_mem_nil⟩
  | tail _ hturn ih =>
    obtain ⟨effects, htrace, heffects⟩ := ih
    obtain ⟨added, htrace', hadded⟩ := turn_trace hturn
    refine ⟨effects ++ added, by rw [htrace', htrace, List.append_assoc], fun e he => ?_⟩
    rcases List.mem_append.mp he with he | he
    · exact heffects e he
    · exact hadded e he

theorem handleSccp_handled (w : World) (b : Coordinator) (event : SccpEvent) :
    Turns b (b.handleSccp w event) ∨ Handled (Placed w) b (b.handleSccp w event) := by
  rcases event with _ | _ | ⟨deviceId, generation, event⟩
  · exact .inl .refl
  · exact .inl .refl
  have hdevice : Turns b (b.handleDevice w deviceId generation event)
      ∨ Handled (Placed w) b (b.handleDevice w deviceId generation event) := by
    rcases hregistration : isRegistration event with _ | _
    · exact .inr (handleDevice_handled w b deviceId generation hregistration)
    · exact .inl (handleDevice_turns w b deviceId generation hregistration)
  unfold handleSccp
  dsimp only
  split
  · exact hdevice
  · split
    · exact hdevice
    · exact .inl .refl

/-- The end of a SIP call leaves no call that has it. -/
theorem sipCallState_disconnected {b : Coordinator} (w : World) (h : b.CallIndex)
    (sipCall : SipCallId) : (b.sipCallState w sipCall .disconnected).Unused sipCall := by
  intro c call' hcall' hsip'
  rcases hindex : b.sccpBySip.get? sipCall with _ | callId
  · have hunchanged : (b.sipCallState w sipCall .disconnected).calls = b.calls := by
      unfold sipCallState
      rw [hindex]
      rfl
    rw [hunchanged] at hcall'
    rw [(h.indexed sipCall c).mpr ⟨call', hcall', hsip'⟩] at hindex
    cases hindex
  obtain ⟨call, hcall, hsip⟩ := (h.indexed sipCall callId).mp hindex
  have hended : Ended callId (b.record (.logDisconnected sipCall))
      (b.sipCallState w sipCall .disconnected) := by
    unfold sipCallState
    rw [hindex]
    dsimp only
    rw [hcall]
    exact endCall_ended w _ callId true
  by_cases hc : c = callId
  · rw [hc, hended.gone] at hcall'
    cases hcall'
  · rw [hended.others c hc] at hcall'
    exact hc (h.owner_unique hcall hsip hcall' hsip')

end Coordinator

namespace Exchange

open Coordinator

variable {x : Exchange} {w : World} {source : Option Nat} {event : Coordinator.Event}

theorem note_of_quiet (source : Option Nat) (x : Exchange) {effect : Effect}
    (h : ∀ s, effect.attaches s = false) : note source x effect = x := by
  unfold note
  split
  · next sipCall => simp [Effect.attaches] at h
  · next sipCall _ _ _ _ => simp [Effect.attaches] at h
  · rfl

theorem foldl_note_of_quiet (source : Option Nat) (x : Exchange) {effects : List Effect}
    (h : ∀ effect ∈ effects, ∀ s, effect.attaches s = false) :
    effects.foldl (note source) x = x := by
  induction effects with
  | nil => rfl
  | cons effect rest ih =>
    rw [List.foldl_cons, note_of_quiet source x (h effect List.mem_cons_self)]
    exact ih fun e he => h e (List.mem_cons_of_mem _ he)

theorem turn_quiet (event : Coordinator.Event) (source : Option Nat)
    (h : Turns x.bridge (x.bridge.handle w event)) :
    x.turn w source event = { x with bridge := x.bridge.handle w event } := by
  obtain ⟨effects, htrace, hquiet⟩ := turns_trace h
  unfold turn Exchange.effects
  rw [htrace, List.drop_left]
  exact foldl_note_of_quiet source _ hquiet

/-- The effects of an attachment and of what is quiet around it. -/
theorem effects_once (source : Option Nat) {mid mid' : Coordinator} {effect : Effect}
    (before : Turns x.bridge mid) (hattach : mid'.trace = mid.trace ++ [effect])
    (after : Turns mid' (x.bridge.handle w event)) : effect ∈ x.effects w event
      ∧ x.turn w source event = note source { x with bridge := x.bridge.handle w event }
        effect := by
  obtain ⟨first, hfirst, hquiet⟩ := turns_trace before
  obtain ⟨last, hlast, hquiet'⟩ := turns_trace after
  have heffects : x.effects w event = first ++ effect :: last := by
    unfold Exchange.effects
    rw [hlast, hattach, hfirst, List.append_assoc, List.append_assoc, List.drop_left]
    rfl
  unfold turn
  rw [heffects]
  refine ⟨List.mem_append_right _ List.mem_cons_self, ?_⟩
  rw [List.foldl_append, foldl_note_of_quiet source _ hquiet, List.foldl_cons]
  exact foldl_note_of_quiet source _ hquiet'

/-! ## The invariant -/

/-- Every handset call that has a SIP call is attached to the SIP call that has its id now. -/
structure Fit (x : Exchange) : Prop where
  stack : Orderly x.dialogs x.queue
  index : x.bridge.CallIndex
  owned : ∀ c call s, x.bridge.calls.get? c = some call → call.sipCall = some s →
    ∃ k, x.owner.get? c = some k ∧ Owner x.dialogs x.queue k s
  reserved : ∀ s k, x.reservedBy.get? s = some k →
    (∃ dialog, x.dialogs[k]? = some dialog ∧ dialog.id = s) ∧ Ahead x.queue k s

theorem Fit.quiet (h : x.Fit) {b' : Coordinator} (hturns : Turns x.bridge b') :
    { x with bridge := b' : Exchange }.Fit where
  stack := h.stack
  index := h.index.turns hturns
  owned := fun c call' s hcall' hsip' => by
    obtain ⟨call, hcall, hsip⟩ := attached_of_turns hturns hcall' hsip'
    exact h.owned c call s hcall hsip
  reserved := h.reserved

theorem Fit.dialogs (h : x.Fit) (new : SipDialog) (hfree : x.Free new.id) :
    { x with dialogs := x.dialogs ++ [new] : Exchange }.Fit where
  stack := h.stack.grow hfree
  index := h.index
  owned := fun c call s hcall hsip => by
    obtain ⟨k, hk, howner⟩ := h.owned c call s hcall hsip
    exact ⟨k, hk, howner.grow new⟩
  reserved := fun s k hk => by
    obtain ⟨⟨dialog, hdialog, hid⟩, hahead⟩ := h.reserved s k hk
    exact ⟨⟨dialog, Orderly.getElem?_grow hdialog new, hid⟩, hahead⟩

theorem Fit.emit (h : x.Fit) {k : Nat} {event : SipEvent} {dialog : SipDialog}
    (hdialog : x.dialogs[k]? = some dialog) (hlive : dialog.finished = false)
    (habout : event.call? = some dialog.id)
    (honce : event.isIncoming = true → dialog.announced = false) :
    (x.step (.emit k event)).Fit where
  stack := h.stack.emit hdialog hlive habout honce
  index := h.index
  owned := fun c call s hcall hsip => by
    obtain ⟨owner, howner, hown⟩ := h.owned c call s hcall hsip
    exact ⟨owner, howner, hown.emit h.stack hdialog hlive habout honce⟩
  reserved := fun s k' hk' => by
    obtain ⟨⟨old, hold, hid⟩, hahead⟩ := h.reserved s k' hk'
    refine ⟨⟨_, Orderly.getElem?_emit_of hold, (Orderly.after_id ..).trans hid⟩, ?_⟩
    intro j later hlater hcall
    rcases Orderly.mem_queue hlater with hlater | ⟨rfl, rfl⟩
    · exact hahead j later hlater hcall
    · have hsame := Option.mem_unique hcall habout
      exact h.stack.le_of_live hdialog hlive hold (hid.trans hsame)

theorem Fit.notice (h : x.Fit) {event : SipEvent} (hnone : event.call? = none) :
    (x.step (.notice event)).Fit where
  stack := h.stack.notice hnone
  index := h.index
  owned := fun c call s hcall hsip => by
    obtain ⟨owner, howner, hown⟩ := h.owned c call s hcall hsip
    exact ⟨owner, howner, hown.notice event⟩
  reserved := fun s k hk => by
    obtain ⟨hdialog, hahead⟩ := h.reserved s k hk
    exact ⟨hdialog, fun j later hlater => hahead j later (Owner.mem_notice hlater)⟩

/-- A free id of which nothing is queued belongs to no handset call. -/
theorem Fit.unused_of_free (h : x.Fit) {sipCall : SipCallId} (hfree : x.Free sipCall)
    (hunheard : ∀ emitted ∈ x.queue, emitted.event.call? ≠ some sipCall) :
    x.bridge.Unused sipCall := by
  intro c call hcall hsip
  obtain ⟨k, _, howner⟩ := h.owned c call sipCall hcall hsip
  obtain ⟨dialog, hdialog, hid, _, hending⟩ := howner.dialog
  obtain ⟨last, hlast, _⟩ := hending (hfree dialog (List.mem_of_getElem? hdialog) hid)
  obtain ⟨dialog', hdialog', hsource⟩ := h.stack.sourced k last hlast
  rw [hdialog] at hdialog'
  obtain rfl := Option.some.inj hdialog'
  exact hunheard _ hlast (hsource.about.trans (congrArg some hid))

/-- The bridge attaches a call to the SIP call that it has asked for. -/
theorem Fit.placed (h : x.Fit) {event : SccpEvent} {mid mid' : Coordinator}
    (before : Turns x.bridge mid) (hplaced : Placed w mid mid')
    (after : Turns mid' (x.bridge.handle w (.sccp event))) (hserves : x.Serves w (.sccp event))
    (hunheard : ∀ sipCall ∈ x.placed w (.sccp event), ∀ emitted ∈ x.queue,
      emitted.event.call? ≠ some sipCall) : (x.turn w none (.sccp event)).Fit := by
  obtain ⟨callId, call, sipCall, account, destination, advertised, hcall, hsip, hrouted,
    hanswer⟩ := hplaced
  obtain ⟨heffect, hturn⟩ := effects_once none before rfl after
  have hmem : sipCall ∈ x.placed w (.sccp event) := List.mem_filterMap.mpr ⟨_, heffect, rfl⟩
  have hfree := hserves.places sipCall hmem
  have hqueue := hunheard sipCall hmem
  have hunused := (h.unused_of_free hfree hqueue).turns before
  have hgrown := h.dialogs { id := sipCall, announced := true, finished := false } hfree
  rw [hturn]
  refine ⟨hgrown.stack, ?_, fun c call' s hcall' hsip' => ?_, hgrown.reserved⟩
  · exact ((h.index.turns before).attach account destination advertised hcall hsip hrouted
      hunused).turns after
  obtain ⟨old, hold, hsip⟩ := attached_of_turns after hcall' hsip'
  dsimp only [note]
  rw [Table.get?_insert]
  dsimp only at hold
  rw [Table.get?_modify] at hold
  split at hold
  · next hc =>
    -- the call that was placed, and the SIP call that was made for it
    rw [hcall] at hold
    obtain rfl := Option.some.inj hold
    obtain rfl : sipCall = s := Option.some.inj hsip
    rw [if_pos hc]
    refine ⟨_, rfl, ⟨_, List.getElem?_concat_length, rfl, rfl, nofun⟩, ?_, ?_⟩
    · exact fun j event hevent hcall => absurd hcall (hqueue _ hevent)
    · intro event hevent
      obtain ⟨dialog, hdialog, _⟩ := h.stack.sourced _ event hevent
      exact absurd (Orderly.lt_length hdialog) (Nat.lt_irrefl _)
  · next hc =>
    rw [if_neg hc]
    obtain ⟨before', hbefore, hsip⟩ := attached_of_turns before hold hsip
    exact hgrown.owned c before' s hbefore hsip

theorem Fit.sccp (h : x.Fit) {event : SccpEvent} (hserves : x.Serves w (.sccp event))
    (hunheard : ∀ sipCall ∈ x.placed w (.sccp event), ∀ emitted ∈ x.queue,
      emitted.event.call? ≠ some sipCall) : (x.step (.sccp w event)).Fit := by
  show (x.turn w none (.sccp event)).Fit
  rcases handleSccp_handled w x.bridge event with hturns | hhandled
  · rw [turn_quiet _ none hturns]
    exact h.quiet hturns
  cases hhandled with
  | quiet hmoves =>
    rw [turn_quiet _ none hmoves.turns]
    exact h.quiet hmoves.turns
  | once before attach after => exact h.placed before.turns attach after.turns hserves hunheard

theorem Fit.deadlines (h : x.Fit) : (x.step (.deadlines w)).Fit := by
  have hturns : Turns x.bridge (x.bridge.handle w .deadlines) :=
    (handleDigitDeadlines_moves w x.bridge).turns
  show (x.turn w none .deadlines).Fit
  rw [turn_quiet _ none hturns]
  exact h.quiet hturns

/-! ## The next event of the queue -/

section Deliver

variable {emitted : Emitted} {rest : List Emitted}

/-- The exchange when an event is taken from the queue, before the bridge handles it. -/
def taken (x : Exchange) (emitted : Emitted) (rest : List Emitted) : Exchange :=
  { x with queue := rest, reservedBy := x.reserve emitted }

theorem Fit.taken_reserved (h : x.Fit) (hqueue : x.queue = emitted :: rest) (s : SipCallId)
    (k : Nat) (hk : (x.reserve emitted).get? s = some k) :
    (∃ dialog, x.dialogs[k]? = some dialog ∧ dialog.id = s) ∧ Ahead rest k s := by
  have hstack := h.stack
  rw [hqueue] at hstack
  have hold : x.reservedBy.get? s = some k →
      (∃ dialog, x.dialogs[k]? = some dialog ∧ dialog.id = s) ∧ Ahead rest k s := by
    intro hk
    obtain ⟨hdialog, hahead⟩ := h.reserved s k hk
    exact ⟨hdialog, fun j event hevent => hahead j event (hqueue ▸ List.mem_cons_of_mem _ hevent)⟩
  unfold reserve at hk
  split at hk
  · next source account sipCall =>
    split at hk
    · exact hold hk
    rw [Table.get?_insert] at hk
    split at hk
    · next hs =>
      -- the reservation is made for the call that asks
      obtain rfl := Option.some.inj hk
      obtain ⟨dialog, hdialog, hsource⟩ := hstack.sourced _ _ List.mem_cons_self
      have hid : sipCall = dialog.id := Option.some.inj hsource.about
      exact ⟨⟨dialog, hdialog, (hs.trans hid).symm⟩, hstack.ahead (congrArg some hs.symm)⟩
    · exact hold hk
  · exact hold hk

/-- If it is not the end of a call, nobody's owner changes. -/
theorem Fit.taken (h : x.Fit) (hqueue : x.queue = emitted :: rest)
    (hnot : emitted.event.isEnd = false) : (x.taken emitted rest).Fit where
  stack := (hqueue ▸ h.stack : Orderly x.dialogs (emitted :: rest)).deliver
  index := h.index
  owned := fun c call s hcall hsip => by
    obtain ⟨k, hk, howner⟩ := h.owned c call s hcall hsip
    rw [hqueue] at howner
    refine ⟨k, hk, howner.deliver (hqueue ▸ h.stack) fun hend => ?_⟩
    rw [hnot] at hend
    cases hend
  reserved := h.taken_reserved hqueue

/-- The call that emits the next event about an id owns the handset call with that id. -/
theorem Fit.owner_of_next (h : x.Fit) {k : Nat} {event : SipEvent}
    (hqueue : x.queue = ⟨some k, event⟩ :: rest) {s : SipCallId} (hid : event.call? = some s)
    {c : CallId} {call : BridgeCall} (hcall : x.bridge.calls.get? c = some call)
    (hsip : call.sipCall = some s) : x.owner.get? c = some k ∧ Owner x.dialogs x.queue k s := by
  obtain ⟨owner, howner, hown⟩ := h.owned c call s hcall hsip
  have hown' := hown
  have hstack := h.stack
  rw [hqueue] at hown' hstack
  rw [← hown'.eq_of_next hstack hid]
  exact ⟨howner, hown⟩

/-- After the end of a call only the others are there. -/
theorem Fit.ended (h : x.Fit) {k : Nat} {sipCall : SipCallId}
    (hqueue : x.queue = ⟨some k, .callState sipCall .disconnected⟩ :: rest) :
    ((x.taken ⟨some k, .callState sipCall .disconnected⟩ rest).turn w (some k)
      (.sip (.callState sipCall .disconnected))).Fit := by
  have hturns : Turns x.bridge (x.bridge.handle w (.sip (.callState sipCall .disconnected))) :=
    (sipCallState_moves w x.bridge h.index sipCall .disconnected).turns
  have hstack := h.stack
  rw [hqueue] at hstack
  rw [turn_quiet (x := x.taken _ rest) _ (some k) hturns]
  refine ⟨hstack.deliver, h.index.turns hturns, fun c call' s hcall' hsip' => ?_,
    h.taken_reserved hqueue⟩
  obtain ⟨call, hcall, hsip⟩ := attached_of_turns hturns hcall' hsip'
  obtain ⟨owner, howner, hown⟩ := h.owned c call s hcall hsip
  rw [hqueue] at hown
  refine ⟨owner, howner, hown.deliver hstack fun _ hsame => ?_⟩
  -- no call has the id of the call that is over
  obtain rfl : k = owner := Option.some.inj hsame
  obtain ⟨dialog, hdialog, hid, _, _⟩ := hown.dialog
  obtain ⟨dialog', hdialog', hsource⟩ := hstack.sourced k _ List.mem_cons_self
  rw [hdialog] at hdialog'
  obtain rfl := Option.some.inj hdialog'
  have habout : sipCall = s := (Option.some.inj hsource.about).trans hid
  exact sipCallState_disconnected w h.index sipCall c call' hcall' (habout ▸ hsip')

/-- A call that comes in has an id that no handset call has. -/
theorem Fit.unused_of_incoming (h : x.Fit) {k : Nat} {event : SipEvent}
    (hqueue : x.queue = ⟨some k, event⟩ :: rest) (hincoming : event.isIncoming = true)
    {s : SipCallId} (hid : event.call? = some s) : x.bridge.Unused s := by
  intro c call hcall hsip
  obtain ⟨_, howner⟩ := h.owner_of_next hqueue hid hcall hsip
  have hnot := howner.offered event (hqueue ▸ List.mem_cons_self)
  rw [hincoming] at hnot
  cases hnot

/-- A handset call begins as the side of the SIP call that comes in. -/
theorem Fit.offered (h : x.Fit) {k : Nat} {account : AccountId} {sipCall : SipCallId}
    {remoteUri : String} {remoteMedia : Option RemoteMedia}
    (hqueue : x.queue = ⟨some k, .incomingCall account sipCall remoteUri remoteMedia⟩ :: rest)
    {mid mid' : Coordinator} (before : Turns x.bridge mid) (hoffered : Offered w sipCall mid mid')
    (after : Turns mid'
      (x.bridge.handle w (.sip (.incomingCall account sipCall remoteUri remoteMedia))))
    (hnew : ∀ b device lineInstance info callId,
      w.offerIncomingCall b device lineInstance info = some callId → b.calls.get? callId = none) :
    ((x.taken ⟨some k, .incomingCall account sipCall remoteUri remoteMedia⟩ rest).turn w (some k)
      (.sip (.incomingCall account sipCall remoteUri remoteMedia))).Fit := by
  obtain ⟨callId, call, device, lineInstance, info, binding, hsip, hrouted, _, _, _, _,
    hanswer⟩ := hoffered
  have hstack := h.stack
  rw [hqueue] at hstack
  have htaken := h.taken hqueue rfl
  have hunused := (h.unused_of_incoming hqueue rfl rfl).turns before
  rw [(effects_once (x := x.taken _ rest) (some k) before rfl after).2]
  refine ⟨htaken.stack, ?_, fun c call' s hcall' hsip' => ?_, htaken.reserved⟩
  · exact ((h.index.turns before).offer device lineInstance info (hnew _ _ _ _ _ hanswer) hsip
      hrouted hunused).turns after
  obtain ⟨old, hold, hsip'⟩ := attached_of_turns after hcall' hsip'
  dsimp only [note, Option.elim_some]
  rw [Table.get?_insert]
  dsimp only at hold
  rw [Table.get?_insert] at hold
  split at hold
  · next hc =>
    obtain rfl := Option.some.inj hold
    obtain rfl : sipCall = s := Option.mem_unique hsip hsip'
    rw [if_pos hc]
    exact ⟨k, rfl, hstack.owner_of_incoming rfl rfl⟩
  · next hc =>
    rw [if_neg hc]
    obtain ⟨before', hbefore, hsip'⟩ := attached_of_turns before hold hsip'
    exact htaken.owned c before' s hbefore hsip'

theorem Fit.deliver (h : x.Fit) (hserves : ∀ emitted ∈ x.queue.head?,
    x.Serves w (.sip emitted.event)) : (x.step (.deliver w)).Fit := by
  rcases hqueue : x.queue with _ | ⟨⟨source, event⟩, rest⟩
  · simp only [step, hqueue]
    exact h
  have hstep : x.step (.deliver w) = (x.taken ⟨source, event⟩ rest).turn w source (.sip event) := by
    simp only [step, hqueue, Exchange.taken]
  rw [hstep]
  rcases hend : event.isEnd with _ | _
  · have htaken := h.taken hqueue hend
    rcases handleSip_handled w h.index event with hmoves | ⟨account, sipCall, uri, media, rfl, hh⟩
    · rw [turn_quiet (x := x.taken ⟨source, event⟩ rest) (.sip event) source hmoves.turns]
      exact htaken.quiet hmoves.turns
    cases hh with
    | quiet hmoves =>
      rw [turn_quiet (x := x.taken _ rest)
        (.sip (.incomingCall account sipCall uri media)) source hmoves.turns]
      exact htaken.quiet hmoves.turns
    | once before attach after =>
      rcases source with _ | k
      · have hnone := h.stack.unsourced _ (hqueue ▸ List.mem_cons_self)
        cases hnone
      · refine h.offered hqueue before.turns attach after.turns ?_
        exact (hserves ⟨some k, _⟩ (by rw [hqueue]; rfl)).offers
  · -- the end of a SIP call
    obtain ⟨sipCall, rfl⟩ : ∃ sipCall, event = .callState sipCall .disconnected := by
      unfold SipEvent.isEnd at hend
      split at hend
      · exact ⟨_, rfl⟩
      · cases hend
    rcases source with _ | k
    · have hnone := h.stack.unsourced _ (hqueue ▸ List.mem_cons_self)
      cases hnone
    · exact h.ended hqueue

end Deliver

/-! ## Runs -/

/-- No outbound call is given an id of which something is queued. -/
def Clean (x : Exchange) : Input → Prop
  | .sccp w event => ∀ sipCall ∈ x.placed w (.sccp event), ∀ emitted ∈ x.queue,
      emitted.event.call? ≠ some sipCall
  | _ => True

instance decidableClean (x : Exchange) : ∀ input, Decidable (x.Clean input)
  | .sccp w event => inferInstanceAs
      (Decidable (∀ sipCall ∈ x.placed w (.sccp event), ∀ emitted ∈ x.queue, _))
  | .deadlines _ | .invite _ | .emit _ _ | .notice _ | .deliver _ =>
      inferInstanceAs (Decidable True)

theorem Fit.step (h : x.Fit) {input : Input} (hlegal : x.Legal input) (hclean : x.Clean input) :
    (x.step input).Fit := by
  cases input with
  | sccp w event => exact h.sccp hlegal hclean
  | deadlines w => exact h.deadlines
  | invite id => exact h.dialogs _ hlegal
  | emit k event =>
    obtain ⟨dialog, hdialog, hlive, habout, honce⟩ := hlegal
    exact h.emit hdialog hlive habout honce
  | notice event => exact h.notice hlegal
  | deliver w => exact h.deliver hlegal

theorem start_fit (config : AppConfig) (mediaPolicy : MediaPolicy) :
    (start config mediaPolicy).Fit where
  stack := {
    sourced := fun _ _ hevent => absurd hevent List.not_mem_nil
    unsourced := fun _ hevent => absurd hevent List.not_mem_nil
    latest := fun i j earlier later _ hearlier => by cases hearlier
    sorted := .nil }
  index := (new_books config mediaPolicy).1.toCallIndex
  owned := fun c call s hcall => by cases hcall
  reserved := fun s k hk => by cases hk

/-- A handset call and the SIP call that it was made for. -/
def Owns (x : Exchange) (k : Nat) (c : CallId) : Prop :=
  x.owner.get? c = some k ∧ ∃ call, x.bridge.calls.get? c = some call ∧ call.sipCall.isSome = true

/-- What is left of the bridge after an event of a SIP call: only its own handset call has
    changed; and if it has none, nothing has, but that a reservation may be given up, which is not
    one of a later call. -/
structure Keeping (x : Exchange) (k : Nat) (b' : Coordinator) : Prop where
  own : ∀ c, b'.calls.get? c ≠ x.bridge.calls.get? c → x.Owns k c
  nothing : (∀ c, ¬ x.Owns k c) → ∃ pendingIncoming,
    b' = { x.bridge with pendingIncoming }
      ∧ ∀ s, pendingIncoming.get? s ≠ x.bridge.pendingIncoming.get? s →
          ∀ k', x.reservedBy.get? s = some k' → k' ≤ k

/-- An event about the progress of a SIP call concerns the handset call of that SIP call. -/
def Confined (x : Exchange) : Input → Prop
  | .deliver w => ∀ k event, x.queue.head? = some ⟨some k, event⟩ → event.isProgress = true →
      x.Keeping k (x.step (.deliver w)).bridge
  | _ => True

theorem Keeping.refl (x : Exchange) (k : Nat) : x.Keeping k x.bridge where
  own := fun _ hne => absurd rfl hne
  nothing := fun _ => ⟨_, rfl, fun _ hne => absurd rfl hne⟩

/-- The bridge handles an event about the progress of a call. -/
theorem Fit.keeping (h : x.Fit) {k : Nat} {event : SipEvent} {rest : List Emitted}
    (hqueue : x.queue = ⟨some k, event⟩ :: rest) (hprogress : event.isProgress = true)
    (w : World) : x.Keeping k (x.bridge.handleSip w event) := by
  have hstack := h.stack
  rw [hqueue] at hstack
  obtain ⟨dialog, _, hsource⟩ := hstack.sourced k event List.mem_cons_self
  rcases hindex : x.bridge.sccpBySip.get? dialog.id with _ | callId
  · -- no handset call has the id
    cases event with
    | callState sipCall state =>
      obtain rfl : sipCall = dialog.id := Option.some.inj hsource.about
      have hsame : x.bridge.handleSip w (.callState dialog.id state)
          = if state = .disconnected then { x.bridge with
              pendingIncoming := x.bridge.pendingIncoming.erase dialog.id } else x.bridge := by
        simp only [handleSip, sipCallState, hindex]
      rw [hsame]
      split
      · refine ⟨fun c hne => absurd rfl hne, fun _ => ⟨_, rfl, fun s hne k' hk' => ?_⟩⟩
        rw [Table.get?_erase] at hne
        split at hne
        · next hs =>
          obtain ⟨_, hahead⟩ := h.reserved s k' hk'
          exact hahead k (.callState dialog.id state) (hqueue ▸ List.mem_cons_self)
            (congrArg some hs.symm)
        · exact absurd rfl hne
      · exact .refl x k
    | mediaState sipCall state remote =>
      obtain rfl : sipCall = dialog.id := Option.some.inj hsource.about
      have hsame : x.bridge.handleSip w (.mediaState dialog.id state remote) = x.bridge := by
        simp only [handleSip, sipMediaState, hindex]
      rw [hsame]
      exact .refl x k
    | mediaReofferCompleted sipCall accepted =>
      obtain rfl : sipCall = dialog.id := Option.some.inj hsource.about
      have hsame : x.bridge.handleSip w (.mediaReofferCompleted dialog.id accepted) = x.bridge := by
        simp only [handleSip, mediaReofferCompleted, hindex]
      rw [hsame]
      exact .refl x k
    | _ => cases hprogress
  · -- the handset call that has the id is the call's own
    obtain ⟨call, hcall, hsip⟩ := (h.index.indexed dialog.id callId).mp hindex
    have howns : x.Owns k callId :=
      ⟨(h.owner_of_next hqueue hsource.about hcall hsip).1, call, hcall, by rw [hsip]; rfl⟩
    have htweaks : Tweaks Any callId x.bridge (x.bridge.handleSip w event) := by
      cases event with
      | callState sipCall state =>
        obtain rfl : sipCall = dialog.id := Option.some.inj hsource.about
        exact sipCallState_tweaks w state hindex
      | mediaState sipCall state remote =>
        obtain rfl : sipCall = dialog.id := Option.some.inj hsource.about
        exact (sipMediaState_steps w state remote hindex).tweaks
      | mediaReofferCompleted sipCall accepted =>
        obtain rfl : sipCall = dialog.id := Option.some.inj hsource.about
        exact (mediaReofferCompleted_steps w accepted hindex).tweaks
      | _ => cases hprogress
    refine ⟨fun c hne => ?_, fun hnone => absurd howns (hnone callId)⟩
    by_cases hc : c = callId
    · exact hc ▸ howns
    · exact absurd (htweaks.others hc) hne

/-- What the stack makes of the effects leaves the bridge as it is. -/
theorem turn_bridge (x : Exchange) (w : World) (source : Option Nat)
    (event : Coordinator.Event) : (x.turn w source event).bridge = x.bridge.handle w event := by
  have hnote : ∀ (x : Exchange) (effect : Effect), (note source x effect).bridge = x.bridge := by
    intro x effect
    unfold note
    split <;> rfl
  have hfold : ∀ (effects : List Effect) (x : Exchange),
      (effects.foldl (note source) x).bridge = x.bridge := by
    intro effects
    induction effects with
    | nil => exact fun _ => rfl
    | cons effect rest ih => exact fun x => (ih _).trans (hnote x effect)
  exact hfold _ _

theorem Fit.confined (h : x.Fit) (input : Input) : x.Confined input := by
  cases input with
  | deliver w =>
    intro k event hhead hprogress
    obtain ⟨rest, hqueue⟩ := List.head?_eq_some_iff.mp hhead
    have hbridge : (x.step (.deliver w)).bridge = x.bridge.handleSip w event := by
      simp only [Exchange.step, hqueue]
      exact turn_bridge ..
    rw [hbridge]
    exact h.keeping hqueue hprogress w
  | _ => trivial

/-- If no outbound call is given an id of which an event is still in the queue, every event
    changes only the handset call of the SIP call that has emitted it. -/
theorem events_confined (config : AppConfig) (mediaPolicy : MediaPolicy) {inputs : List Input}
    (hlegal : Runs.Each step Legal (start config mediaPolicy) inputs)
    (hclean : Runs.Each step Clean (start config mediaPolicy) inputs) :
    Runs.Each step Confined (start config mediaPolicy) inputs :=
  Runs.each_of_invariant (I := Fit) (fun _ input h _ => h.confined input)
    (fun _ _ h hinput => h.step hinput.1 hinput.2) (start_fit config mediaPolicy)
    (hlegal.and hclean)

/-! ### A phone that dials again -/

/-- A SIP stack with a single id for its calls. -/
def oneIdWorld : World := oneSlotWorld fun _ => false

/-- The phone calls, hangs up, and the SIP side ends the call. -/
def firstCall : List Input :=
  [.sccp oneIdWorld (.device desk ⟨1⟩ (.registered deskRegistration)),
    .sccp oneIdWorld (.device desk ⟨1⟩ (.enblocCall ⟨7⟩ 1 "200")),
    .sccp oneIdWorld (.device desk ⟨1⟩ (.receiveChannelOpened ⟨7⟩ true deskEndpoint)),
    .sccp oneIdWorld (.device desk ⟨1⟩ (.onHook ⟨7⟩)), .emit 0 (.callState ⟨1⟩ .disconnected)]

/-- The phone calls once more. -/
def secondCall : List Input :=
  [.sccp oneIdWorld (.device desk ⟨1⟩ (.enblocCall ⟨8⟩ 1 "300")),
    .sccp oneIdWorld (.device desk ⟨1⟩ (.receiveChannelOpened ⟨8⟩ true deskEndpoint))]

theorem oneIdWorld_offers (b : Coordinator) (device : DeviceId) (lineInstance : Nat)
    (info : CallInfo) (callId : CallId)
    (h : oneIdWorld.offerIncomingCall b device lineInstance info = some callId) :
    b.calls.get? callId = none :=
  (oneSlotWorld_sound _).offerIncomingCall b device lineInstance info callId h

theorem firstCall_legal : Runs.Each step Legal (start deskConfig ⟨[]⟩) firstCall :=
  ⟨⟨oneIdWorld_offers, by decide⟩, ⟨oneIdWorld_offers, by decide⟩,
    ⟨oneIdWorld_offers, by decide⟩, ⟨oneIdWorld_offers, by decide⟩,
    ⟨⟨⟨1⟩, true, false⟩, by decide, rfl, rfl, nofun⟩, trivial⟩

theorem deliver_legal {x : Exchange} (h : ∀ emitted ∈ x.queue.head?,
    ∀ sipCall ∈ x.placed oneIdWorld (.sip emitted.event), x.Free sipCall) :
    x.Legal (.deliver oneIdWorld) :=
  fun emitted hhead => ⟨oneIdWorld_offers, h emitted hhead⟩

/-- When the end of the first call has been taken from the queue, its id may be used again. -/
theorem events_confined_in_turn : Runs.Each step Confined (start deskConfig ⟨[]⟩)
    (firstCall ++ .deliver oneIdWorld :: secondCall) := by
  refine events_confined _ _ (Runs.each_append.mpr ⟨firstCall_legal, ?_⟩) (by decide)
  exact ⟨deliver_legal (by decide), ⟨oneIdWorld_offers, by decide⟩,
    ⟨oneIdWorld_offers, by decide⟩, trivial⟩

/-- Otherwise the second call is given the id while the end of the first is queued, and is ended
    in its place. -/
theorem late_end_ends_next_call : Runs.Each step Legal (start deskConfig ⟨[]⟩)
      (firstCall ++ (secondCall ++ [.deliver oneIdWorld]))
      ∧ ¬ Runs.Each step Confined (start deskConfig ⟨[]⟩)
          (firstCall ++ (secondCall ++ [.deliver oneIdWorld])) := by
  constructor
  · refine Runs.each_append.mpr ⟨firstCall_legal, ?_⟩
    exact ⟨⟨oneIdWorld_offers, by decide⟩, ⟨oneIdWorld_offers, by decide⟩,
      deliver_legal (by decide), trivial⟩
  intro heach
  rw [← List.append_assoc, Runs.each_append] at heach
  generalize hx : Runs.run step (start deskConfig ⟨[]⟩) (firstCall ++ secondCall) = x at heach
  have hhead : (x.queue.head?.map (·.source), x.queue.head?.any (·.event.isProgress))
      = (some (some 0), true) := by
    rw [← hx]
    decide
  have hcalls : (x.bridge.calls.contains ⟨8⟩, (x.step (.deliver oneIdWorld)).bridge.calls.contains
      ⟨8⟩) = (true, false) := by
    rw [← hx]
    decide
  have howner : x.owner.get? ⟨8⟩ = some 1 := by
    rw [← hx]
    decide
  obtain ⟨hsource, hprogress⟩ := Prod.mk.injEq .. ▸ hhead
  obtain ⟨hbefore, hafter⟩ := Prod.mk.injEq .. ▸ hcalls
  obtain ⟨⟨source, event⟩, hhead, rfl⟩ := Option.map_eq_some_iff.mp hsource
  rw [hhead] at hprogress
  have hkeeping := heach.2.1 0 event hhead hprogress
  have hchanged : (x.step (.deliver oneIdWorld)).bridge.calls.get? ⟨8⟩
      ≠ x.bridge.calls.get? ⟨8⟩ := by
    rw [Table.not_contains_iff.mp hafter]
    exact fun heq => by
      rw [Table.not_contains_iff.mpr heq.symm] at hbefore
      cases hbefore
  have howns := (hkeeping.own ⟨8⟩ hchanged).1
  rw [howner] at howns
  cases howns

end Exchange

end Sccp.Gateway
