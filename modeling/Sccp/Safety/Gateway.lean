/-
  Sccp.Safety.Gateway

  The books of the SIP bridge.

  What the handlers do to the tables of the coordinator comes down to a few moves: a call begins,
  is changed, is closed; a reservation is made or given up.  A handler is a sequence of moves, in
  which one call at most is given a SIP call: it is placed, or offered.  All of them keep the
  books.
-/

import Sccp.Gateway.Coordinator
import Sccp.Lib.Balance
import Sccp.Lib.Runs
import Mathlib.Logic.Relation

namespace Sccp.Gateway

open Sccp

/-! ## Openings and closings in the trace -/

namespace Effect

/-- A handset call begins: the prompt for a number, which stays, or an offer that was taken. -/
def opensCall (callId : CallId) : Effect → Bool
  | .sccp _ (.displayPrompt call timeoutSeconds _) => timeoutSeconds = 0 && call = callId
  | .offerIncomingCall _ _ _ _ (some call) => call = callId
  | _ => false

/-- The handset is told that a call is over. -/
def closesCall (callId : CallId) : Effect → Bool
  | .sccp _ (.closeCall call) => call = callId
  | _ => false

/-- A SIP call becomes the SIP side of a handset call. -/
def attaches (sipCall : SipCallId) : Effect → Bool
  | .makeCall _ _ _ _ (some call) => call = sipCall
  | .offerIncomingCall call _ _ _ (some _) => call = sipCall
  | _ => false

def hangsUp (sipCall : SipCallId) : Effect → Bool
  | .sip (.hangup call) _ => call = sipCall
  | _ => false

def endedBySip (sipCall : SipCallId) : Effect → Bool
  | .logDisconnected call => call = sipCall
  | _ => false

/-- The end of a SIP call, on the one side or the other. -/
def detaches (sipCall : SipCallId) (effect : Effect) : Bool :=
  effect.hangsUp sipCall || effect.endedBySip sipCall

/-- An effect that neither begins nor ends a call. -/
def isNeutral : Effect → Bool
  | .sccp _ (.displayPrompt _ timeoutSeconds _) => timeoutSeconds ≠ 0
  | .sccp _ (.closeCall _) => false
  | .offerIncomingCall _ _ _ _ answer => answer.isNone
  | .makeCall _ _ _ _ answer => answer.isNone
  | .sip (.hangup _) _ => false
  | .logDisconnected _ => false
  | _ => true

theorem neutral_call {effect : Effect} (h : effect.isNeutral = true) (callId : CallId) :
    effect.opensCall callId = false ∧ effect.closesCall callId = false := by
  unfold isNeutral at h
  split at h
  · next timeoutSeconds _ =>
    have hne : timeoutSeconds ≠ 0 := of_decide_eq_true h
    exact ⟨by simp [opensCall, hne], rfl⟩
  · cases h
  · rw [Option.isNone_iff_eq_none] at h
    subst h
    exact ⟨rfl, rfl⟩
  · exact ⟨rfl, rfl⟩
  · cases h
  · cases h
  next hprompt hclose hoffer _ _ _ =>
  constructor
  · unfold opensCall
    split
    · exact absurd rfl (hprompt _ _ _ _)
    · exact absurd rfl (hoffer _ _ _ _ _)
    · rfl
  · unfold closesCall
    split
    · exact absurd rfl (hclose _ _)
    · rfl

theorem neutral_sip {effect : Effect} (h : effect.isNeutral = true) (sipCall : SipCallId) :
    effect.attaches sipCall = false ∧ effect.detaches sipCall = false := by
  unfold isNeutral at h
  split at h
  · exact ⟨rfl, rfl⟩
  · cases h
  · rw [Option.isNone_iff_eq_none] at h
    subst h
    exact ⟨rfl, rfl⟩
  · rw [Option.isNone_iff_eq_none] at h
    subst h
    exact ⟨rfl, rfl⟩
  · cases h
  · cases h
  next hoffer hmake hhangup hlog =>
  constructor
  · unfold attaches
    split
    · exact absurd rfl (hmake _ _ _ _ _)
    · exact absurd rfl (hoffer _ _ _ _ _)
    · rfl
  unfold detaches hangsUp endedBySip
  split
  · exact absurd rfl (hhangup _ _)
  · split
    · exact absurd rfl (hlog _)
    · rfl

end Effect

/-! ## The books -/

namespace Coordinator

/-- Calls and SIP calls know each other, and the trace accounts for both. -/
structure CallIndex (b : Coordinator) : Prop where
  /-- `sccp_by_sip` is the index of the calls by their SIP call. -/
  indexed : ∀ s c, b.sccpBySip.get? s = some c
    ↔ ∃ call, b.calls.get? c = some call ∧ call.sipCall = some s
  /-- A call that has a SIP side has a route for its media. -/
  routed : ∀ c call s, b.calls.get? c = some call → call.sipCall = some s →
    call.mediaRoute ≠ .unallocated
  /-- A call that began and is gone was closed on the handset once. -/
  closed : Journal.Balanced Effect.opensCall Effect.closesCall b.calls.contains b.trace
  /-- A SIP call that was attached and is gone was hung up once, or the SIP side ended it. -/
  detached : Journal.Balanced Effect.attaches Effect.detaches b.sccpBySip.contains b.trace

/-- Moreover no SIP call has both a call and a reservation. -/
structure CallBooks (b : Coordinator) : Prop extends CallIndex b where
  reserved : ∀ s, b.pendingIncoming.contains s = true → b.sccpBySip.get? s = none

/-- The accounts are those of the lines of registered devices, and calls are made with them. -/
structure LineBooks (b : Coordinator) : Prop where
  inverse : ∀ device lineInstance account,
    b.accountsByLine.get? (device, lineInstance) = some account
      ↔ ∃ binding, b.bindingsByAccount.get? account = some binding
          ∧ binding.device = device ∧ binding.lineInstance = lineInstance
  registered : ∀ device lineInstance account,
    b.accountsByLine.get? (device, lineInstance) = some account →
      b.registrations.contains device = true
  bound : ∀ c call, b.calls.get? c = some call →
    b.accountsByLine.get? (call.device, call.lineInstance) = some call.account

/-- The index without the SIP call of a call that ends. -/
def unindexed (b : Coordinator) (sipCall : Option SipCallId) : Table SipCallId CallId :=
  sipCall.elim b.sccpBySip b.sccpBySip.erase

/-- No live call has this SIP call. -/
def Unused (b : Coordinator) (sipCall : SipCallId) : Prop :=
  ∀ c call, b.calls.get? c = some call → call.sipCall ≠ some sipCall

theorem CallIndex.not_indexed {b : Coordinator} (h : b.CallIndex) {s : SipCallId}
    (hs : b.Unused s) : b.sccpBySip.get? s = none := by
  rcases hget : b.sccpBySip.get? s with _ | c
  · rfl
  · obtain ⟨call, hcall, hsip⟩ := (h.indexed s c).mp hget
    exact absurd hsip (hs c call hcall)

/-- Two calls have different SIP calls. -/
theorem CallIndex.owner_unique {b : Coordinator} (h : b.CallIndex) {s : SipCallId}
    {c c' : CallId} {call call' : BridgeCall} (hc : b.calls.get? c = some call)
    (hs : call.sipCall = some s) (hc' : b.calls.get? c' = some call')
    (hs' : call'.sipCall = some s) : c' = c := by
  have hget := (h.indexed s c).mpr ⟨call, hc, hs⟩
  have hget' := (h.indexed s c').mpr ⟨call', hc', hs'⟩
  exact Option.mem_unique hget' hget

end Coordinator

/-! ## Moves -/

/-- An edit that changes neither whose call it is nor takes its route away. -/
structure Keeps (call call' : BridgeCall) : Prop where
  device : call'.device = call.device
  lineInstance : call'.lineInstance = call.lineInstance
  account : call'.account = call.account
  sipCall : call'.sipCall = call.sipCall
  routed : call.mediaRoute ≠ .unallocated → call'.mediaRoute ≠ .unallocated

/-- What the end of a call does to the two sides. -/
structure Closing (callId : CallId) (sipCall : Option SipCallId) (effects : List Effect) :
    Prop where
  opens : ∀ c, effects.countP (Effect.opensCall c) = 0
  closes : ∀ c, effects.countP (Effect.closesCall c) = if c = callId then 1 else 0
  attaches : ∀ s, effects.countP (Effect.attaches s) = 0
  detaches : ∀ s, effects.countP (Effect.detaches s) = if sipCall = some s then 1 else 0

/-- A step in the life of the calls that gives none of them a SIP call. -/
inductive Move : Coordinator → Coordinator → Prop where
  | note (b : Coordinator) (effect : Effect) (h : effect.isNeutral = true) :
      Move b (b.record effect)
  | dialed (b : Coordinator) (lastDialed : Table (DeviceId × Nat) String) :
      Move b { b with lastDialed }
  | station (b : Coordinator) (device : DeviceId) (f : RegisteredStation → RegisteredStation) :
      Move b { b with registrations := b.registrations.modify device f }
  | edit (b : Coordinator) (callId : CallId) (f : BridgeCall → BridgeCall)
      (h : ∀ call, b.calls.get? callId = some call → Keeps call (f call)) :
      Move b (b.editCall callId f)
  | start (b : Coordinator) (callId : CallId) (call : BridgeCall) (device : DeviceId)
      (text : String) (hnew : b.calls.get? callId = none) (hsip : call.sipCall = none)
      (hbound : b.accountsByLine.get? (call.device, call.lineInstance) = some call.account) :
      Move b { b with
        calls := b.calls.insert callId call
        trace := b.trace ++ [.sccp device (.displayPrompt callId 0 text)] }
  | close (b : Coordinator) (callId : CallId) (call : BridgeCall) (effects : List Effect)
      (hcall : b.calls.get? callId = some call) (heffects : Closing callId call.sipCall effects) :
      Move b { b with
        calls := b.calls.erase callId
        sccpBySip := b.unindexed call.sipCall
        trace := b.trace ++ effects }
  | release (b : Coordinator) (sipCall : SipCallId) :
      Move b { b with pendingIncoming := b.pendingIncoming.erase sipCall }
  | reserve (b : Coordinator) (sipCall : SipCallId) (pending : PendingIncomingCall)
      (h : ∀ c call, b.sccpBySip.get? sipCall = some c → b.calls.get? c = some call →
        call.mediaRoute = .unallocated) :
      Move b { b with pendingIncoming := b.pendingIncoming.insert sipCall pending }

/-- A sequence of moves. -/
abbrev Moves : Coordinator → Coordinator → Prop := Relation.ReflTransGen Move

/-- A move, or a change of devices, lines and accounts. -/
inductive Turn : Coordinator → Coordinator → Prop where
  | move {b b' : Coordinator} (h : Move b b') : Turn b b'
  | lines {b b' : Coordinator} (hcalls : b'.calls = b.calls)
      (hindex : b'.sccpBySip = b.sccpBySip) (hpending : b'.pendingIncoming = b.pendingIncoming)
      (htrace : b'.trace = b.trace) : Turn b b'

abbrev Turns : Coordinator → Coordinator → Prop := Relation.ReflTransGen Turn

theorem Moves.turns {b b' : Coordinator} (h : Moves b b') : Turns b b' :=
  Relation.ReflTransGen.mono (fun _ _ => .move) _ _ h

/-- A call is given the SIP call that the SIP stack answers. -/
inductive Placed (w : World) (b : Coordinator) : Coordinator → Prop where
  | intro (callId : CallId) (call : BridgeCall) (sipCall : SipCallId) (account : AccountId)
      (destination : String) (advertised : SocketAddrV4)
      (hcall : b.calls.get? callId = some call) (hsip : call.sipCall = none)
      (hrouted : call.mediaRoute ≠ .unallocated)
      (hanswer : w.makeCall b account destination advertised = some sipCall) :
      Placed w b { b with
        calls := b.calls.modify callId fun call => { call with sipCall := some sipCall }
        sccpBySip := b.sccpBySip.insert sipCall callId
        trace := b.trace ++ [.makeCall callId account destination advertised (some sipCall)] }

/-- A call begins as the handset's side of a SIP call. -/
inductive Offered (w : World) (sipCall : SipCallId) (b : Coordinator) : Coordinator → Prop where
  | intro (callId : CallId) (call : BridgeCall) (device : DeviceId) (lineInstance : Nat)
      (info : CallInfo) (binding : AccountBinding) (hsip : call.sipCall = some sipCall)
      (hrouted : call.mediaRoute ≠ .unallocated)
      (hbinding : b.bindingsByAccount.get? call.account = some binding)
      (hdevice : binding.device = call.device) (hline : binding.lineInstance = call.lineInstance)
      (hclear : b.pendingIncoming.get? sipCall = none)
      (hanswer : w.offerIncomingCall b device lineInstance info = some callId) :
      Offered w sipCall b { b with
        calls := b.calls.insert callId call
        sccpBySip := b.sccpBySip.insert sipCall callId
        trace := b.trace ++ [.offerIncomingCall sipCall device lineInstance info (some callId)] }

/-- Moves, and among them at most one step by which a call is given a SIP call. -/
inductive Handled (A : Coordinator → Coordinator → Prop) (b b' : Coordinator) : Prop where
  | quiet (h : Moves b b')
  | once {mid mid' : Coordinator} (before : Moves b mid) (attach : A mid mid')
      (after : Moves mid' b')

/-! ## Every move keeps the books of the calls -/

namespace Coordinator

variable {b b' : Coordinator} {callId : CallId} {sipCall : SipCallId} {call call' : BridgeCall}
  {f : BridgeCall → BridgeCall}

/-- The books look at the tables of the calls and at the trace alone. -/
theorem CallIndex.same_calls (h : b.CallIndex) (hcalls : b'.calls = b.calls)
    (hindex : b'.sccpBySip = b.sccpBySip) (htrace : b'.trace = b.trace) : b'.CallIndex where
  indexed := by rw [hcalls, hindex]; exact h.indexed
  routed := by rw [hcalls]; exact h.routed
  closed := by rw [hcalls, htrace]; exact h.closed
  detached := by rw [hindex, htrace]; exact h.detached

theorem CallIndex.note (h : b.CallIndex) {effect : Effect} (hneutral : effect.isNeutral = true) :
    (b.record effect).CallIndex where
  indexed := h.indexed
  routed := h.routed
  closed := h.closed.append_neutral fun c e he => by
    rw [List.mem_singleton.mp he]
    exact Effect.neutral_call hneutral c
  detached := h.detached.append_neutral fun s e he => by
    rw [List.mem_singleton.mp he]
    exact Effect.neutral_sip hneutral s

theorem get?_editCall {c : CallId} : (b.editCall callId f).calls.get? c = some call'
      ↔ ∃ call, b.calls.get? c = some call ∧ call' = if c = callId then f call else call := by
  unfold editCall
  dsimp only
  rw [Table.get?_modify]
  by_cases hc : c = callId
  · rw [if_pos hc, hc, Option.map_eq_some_iff]
    exact exists_congr fun call => and_congr_right fun _ => by rw [if_pos rfl, eq_comm]
  · simp [hc]

theorem CallIndex.edit (h : b.CallIndex)
    (hkeeps : ∀ call, b.calls.get? callId = some call → Keeps call (f call)) :
    (b.editCall callId f).CallIndex where
  indexed := fun s c => by
    refine (h.indexed s c).trans ⟨?_, ?_⟩
    · rintro ⟨call, hcall, hsip⟩
      refine ⟨_, get?_editCall.mpr ⟨call, hcall, rfl⟩, ?_⟩
      split
      · next hc => exact (hkeeps call (hc ▸ hcall)).sipCall.trans hsip
      · exact hsip
    rintro ⟨call', hcall', hsip⟩
    obtain ⟨call, hcall, rfl⟩ := get?_editCall.mp hcall'
    refine ⟨call, hcall, ?_⟩
    split at hsip
    · next hc => exact (hkeeps call (hc ▸ hcall)).sipCall.symm.trans hsip
    · exact hsip
  routed := fun c call' s hcall' hsip => by
    obtain ⟨call, hcall, rfl⟩ := get?_editCall.mp hcall'
    split at hsip
    · next hc =>
      have hk := hkeeps call (hc ▸ hcall)
      rw [if_pos hc]
      exact hk.routed (h.routed c call s hcall (hk.sipCall.symm.trans hsip))
    · next hc =>
      rw [if_neg hc]
      exact h.routed c call s hcall hsip
  closed := by
    have hsame : (b.editCall callId f).calls.contains = b.calls.contains :=
      funext fun c => Table.contains_modify ..
    rw [hsame]
    exact h.closed
  detached := h.detached

theorem CallIndex.start (h : b.CallIndex) (device : DeviceId) (text : String)
    (hnew : b.calls.get? callId = none) (hsip : call.sipCall = none) :
    { b with
      calls := b.calls.insert callId call
      trace := b.trace ++ [.sccp device (.displayPrompt callId 0 text)] : Coordinator }.CallIndex
    where
  indexed := fun s c => by
    refine (h.indexed s c).trans (exists_congr fun other => ?_)
    rw [Table.get?_insert]
    split
    · next hc =>
      subst hc
      rw [hnew]
      refine ⟨fun hother => by simp at hother, fun hother => ?_⟩
      rw [← Option.some.inj hother.1, hsip] at hother
      cases hother.2
    · exact Iff.rfl
  routed := fun c other s hother hs => by
    rw [Table.get?_insert] at hother
    split at hother
    · rw [← Option.some.inj hother, hsip] at hs
      cases hs
    · exact h.routed c other s hother hs
  closed := by
    refine h.closed.append fun c => ?_
    have hgone : b.calls.contains callId = false := Table.not_contains_iff.mpr hnew
    rw [Table.contains_insert]
    by_cases hc : c = callId
    · subst hc
      simp [Effect.opensCall, Effect.closesCall, hgone]
    · simp [Effect.opensCall, Effect.closesCall, hc, Ne.symm hc]
  detached := h.detached.append_neutral fun s e he => by
    rw [List.mem_singleton.mp he]
    exact ⟨rfl, rfl⟩

/-- What an unused SIP call gets as its call becomes the only one that has it. -/
theorem indexed_insert (h : b.CallIndex) {calls : Table CallId BridgeCall} (call : BridgeCall)
    (hunused : b.Unused sipCall) (hcall : calls.get? callId = some call)
    (hsip : call.sipCall = some sipCall) (hothers : ∀ c, c ≠ callId → calls.get? c = b.calls.get? c)
    (hbefore : ∀ old s, b.calls.get? callId = some old → old.sipCall ≠ some s) (s : SipCallId)
    (c : CallId) : (b.sccpBySip.insert sipCall callId).get? s = some c
      ↔ ∃ call, calls.get? c = some call ∧ call.sipCall = some s := by
  rw [Table.get?_insert]
  by_cases hs : s = sipCall
  · subst hs
    rw [if_pos rfl]
    constructor
    · intro hc
      obtain rfl := Option.some.inj hc
      exact ⟨call, hcall, hsip⟩
    rintro ⟨other, hother, hs⟩
    by_cases hc : c = callId
    · rw [hc]
    · rw [hothers c hc] at hother
      exact absurd hs (hunused c other hother)
  · rw [if_neg hs, h.indexed s c]
    by_cases hc : c = callId
    · subst hc
      constructor
      · rintro ⟨old, hold, hs'⟩
        exact absurd hs' (hbefore old s hold)
      rintro ⟨other, hother, hs'⟩
      rw [hcall] at hother
      rw [← Option.some.inj hother, hsip] at hs'
      exact absurd (Option.some.inj hs').symm hs
    · rw [hothers c hc]

theorem CallIndex.attach (h : b.CallIndex) (account : AccountId) (destination : String)
    (advertised : SocketAddrV4) (hcall : b.calls.get? callId = some call)
    (hsip : call.sipCall = none) (hrouted : call.mediaRoute ≠ .unallocated)
    (hunused : b.Unused sipCall) :
    { b with
      calls := b.calls.modify callId fun call => { call with sipCall := some sipCall }
      sccpBySip := b.sccpBySip.insert sipCall callId
      trace := b.trace ++ [.makeCall callId account destination advertised (some sipCall)] :
        Coordinator }.CallIndex where
  indexed := by
    refine indexed_insert h { call with sipCall := some sipCall } hunused ?_ rfl ?_ ?_
    · rw [Table.get?_modify, if_pos rfl, hcall]
      rfl
    · intro c hc
      rw [Table.get?_modify, if_neg hc]
    · intro old s hold
      rw [hcall] at hold
      rw [← Option.some.inj hold, hsip]
      exact nofun
  routed := fun c other s hother hs => by
    rw [Table.get?_modify] at hother
    split at hother
    · rw [hcall] at hother
      rw [← Option.some.inj hother]
      exact hrouted
    · exact h.routed c other s hother hs
  closed := by
    have hsame : (b.calls.modify callId fun call =>
        { call with sipCall := some sipCall }).contains = b.calls.contains :=
      funext fun c => Table.contains_modify ..
    rw [hsame]
    exact h.closed.append_neutral fun c e he => by
      rw [List.mem_singleton.mp he]
      exact ⟨rfl, rfl⟩
  detached := by
    refine h.detached.append fun s => ?_
    have hgone : b.sccpBySip.contains sipCall = false :=
      Table.not_contains_iff.mpr (h.not_indexed hunused)
    rw [Table.contains_insert]
    by_cases hs : s = sipCall
    · subst hs
      simp [Effect.attaches, Effect.detaches, Effect.hangsUp, Effect.endedBySip, hgone]
    · simp [Effect.attaches, Effect.detaches, Effect.hangsUp, Effect.endedBySip, hs, Ne.symm hs]

theorem CallIndex.offer (h : b.CallIndex) (device : DeviceId) (lineInstance : Nat) (info : CallInfo)
    (hnew : b.calls.get? callId = none) (hsip : call.sipCall = some sipCall)
    (hrouted : call.mediaRoute ≠ .unallocated) (hunused : b.Unused sipCall) :
    { b with
      calls := b.calls.insert callId call
      sccpBySip := b.sccpBySip.insert sipCall callId
      trace := b.trace ++ [.offerIncomingCall sipCall device lineInstance info (some callId)] :
        Coordinator }.CallIndex where
  indexed := by
    refine indexed_insert h call hunused ?_ hsip ?_ ?_
    · rw [Table.get?_insert, if_pos rfl]
    · intro c hc
      rw [Table.get?_insert, if_neg hc]
    · intro old s hold
      rw [hnew] at hold
      cases hold
  routed := fun c other s hother hs => by
    rw [Table.get?_insert] at hother
    split at hother
    · rw [← Option.some.inj hother]
      exact hrouted
    · exact h.routed c other s hother hs
  closed := by
    refine h.closed.append fun c => ?_
    have hgone : b.calls.contains callId = false := Table.not_contains_iff.mpr hnew
    rw [Table.contains_insert]
    by_cases hc : c = callId
    · subst hc
      simp [Effect.opensCall, Effect.closesCall, hgone]
    · simp [Effect.opensCall, Effect.closesCall, hc, Ne.symm hc]
  detached := by
    refine h.detached.append fun s => ?_
    have hgone : b.sccpBySip.contains sipCall = false :=
      Table.not_contains_iff.mpr (h.not_indexed hunused)
    rw [Table.contains_insert]
    by_cases hs : s = sipCall
    · subst hs
      simp [Effect.attaches, Effect.detaches, Effect.hangsUp, Effect.endedBySip, hgone]
    · simp [Effect.attaches, Effect.detaches, Effect.hangsUp, Effect.endedBySip, hs, Ne.symm hs]

theorem get?_unindexed (b : Coordinator) (sipCall : Option SipCallId) (s : SipCallId) :
    (b.unindexed sipCall).get? s = if sipCall = some s then none else b.sccpBySip.get? s := by
  unfold unindexed
  rcases sipCall with _ | own
  · simp
  · rw [Option.elim_some, Table.get?_erase]
    by_cases hs : s = own <;> simp [hs, eq_comm]

theorem CallIndex.close (h : b.CallIndex) {effects : List Effect}
    (hcall : b.calls.get? callId = some call) (heffects : Closing callId call.sipCall effects) :
    { b with
      calls := b.calls.erase callId
      sccpBySip := b.unindexed call.sipCall
      trace := b.trace ++ effects : Coordinator }.CallIndex where
  indexed := fun s c => by
    rw [get?_unindexed]
    by_cases hs : call.sipCall = some s
    · rw [if_pos hs]
      refine ⟨nofun, ?_⟩
      rintro ⟨other, hother, hs'⟩
      rw [Table.get?_erase] at hother
      split at hother
      · cases hother
      · next hc => exact absurd (h.owner_unique hcall hs hother hs') hc
    rw [if_neg hs, h.indexed s c]
    refine exists_congr fun other => ?_
    rw [Table.get?_erase]
    split
    · next hc =>
      -- the call that ends has another SIP call, or none
      rw [hc, hcall]
      refine ⟨fun hother => ?_, fun hother => by cases hother.1⟩
      rw [Option.some.inj hother.1] at hs
      exact absurd hother.2 hs
    · exact Iff.rfl
  routed := fun c other s hother hs => by
    rw [Table.get?_erase] at hother
    split at hother
    · cases hother
    · exact h.routed c other s hother hs
  closed := by
    refine h.closed.append fun c => ?_
    have hlive : b.calls.contains callId = true := Table.contains_iff.mpr ⟨call, hcall⟩
    rw [heffects.opens, heffects.closes, Table.contains_erase]
    by_cases hc : c = callId
    · subst hc
      simp [hlive]
    · simp [hc]
  detached := by
    refine h.detached.append fun s => ?_
    rw [heffects.attaches, heffects.detaches]
    unfold Table.contains
    rw [get?_unindexed]
    by_cases hs : call.sipCall = some s
    · have hlive := (h.indexed s callId).mpr ⟨call, hcall, hs⟩
      simp [hs, hlive]
    · simp [hs]

theorem CallIndex.move (h : b.CallIndex) (hmove : Move b b') : b'.CallIndex := by
  cases hmove with
  | note effect hneutral => exact h.note hneutral
  | dialed lastDialed => exact h.same_calls rfl rfl rfl
  | station device f => exact h.same_calls rfl rfl rfl
  | edit callId f hkeeps => exact h.edit hkeeps
  | start callId call device text hnew hsip hbound => exact h.start device text hnew hsip
  | close callId call effects hcall heffects => exact h.close hcall heffects
  | release sipCall => exact h.same_calls rfl rfl rfl
  | reserve sipCall pending hfree => exact h.same_calls rfl rfl rfl

theorem CallBooks.move (h : b.CallBooks) (hmove : Move b b') : b'.CallBooks := by
  refine ⟨h.toCallIndex.move hmove, ?_⟩
  cases hmove with
  | note effect hneutral => exact h.reserved
  | dialed lastDialed => exact h.reserved
  | station device f => exact h.reserved
  | edit callId f hkeeps => exact h.reserved
  | start callId call device text hnew hsip hbound => exact h.reserved
  | close callId call effects hcall heffects =>
    intro s hs
    dsimp only
    rw [get?_unindexed, h.reserved s hs, ite_self]
  | release sipCall =>
    intro s hs
    refine h.reserved s ?_
    dsimp only at hs
    rw [Table.contains_erase] at hs
    exact (Bool.and_eq_true_iff.mp hs).2
  | reserve sipCall pending hfree =>
    intro s hs
    dsimp only at hs
    rw [Table.contains_insert, Bool.or_eq_true] at hs
    rcases hs with hs | hs
    · obtain rfl := of_decide_eq_true hs
      rcases hget : b.sccpBySip.get? s with _ | c
      · rfl
      · -- a call with this SIP side would have a route
        obtain ⟨call, hcall, hsip⟩ := (h.indexed s c).mp hget
        exact absurd (hfree c call hget hcall) (h.routed c call s hcall hsip)
    · exact h.reserved s hs

theorem CallIndex.turns (h : b.CallIndex) (hturns : Turns b b') : b'.CallIndex := by
  induction hturns with
  | refl => exact h
  | tail _ hturn ih =>
    cases hturn with
    | move hmove => exact ih.move hmove
    | lines hcalls hindex _ htrace => exact ih.same_calls hcalls hindex htrace

theorem CallBooks.turns (h : b.CallBooks) (hturns : Turns b b') : b'.CallBooks := by
  induction hturns with
  | refl => exact h
  | tail _ hturn ih =>
    cases hturn with
    | move hmove => exact ih.move hmove
    | lines hcalls hindex hpending htrace =>
      refine ⟨ih.same_calls hcalls hindex htrace, ?_⟩
      rw [hindex, hpending]
      exact ih.reserved

theorem CallIndex.placed {w : World} (h : b.CallIndex) (hplaced : Placed w b b')
    (hunused : ∀ account destination advertised sipCall,
      w.makeCall b account destination advertised = some sipCall → b.Unused sipCall) :
    b'.CallIndex := by
  obtain ⟨callId, call, sipCall, account, destination, advertised, hcall, hsip, hrouted,
    hanswer⟩ := hplaced
  exact h.attach account destination advertised hcall hsip hrouted (hunused _ _ _ _ hanswer)

theorem CallIndex.offered {w : World} (h : b.CallIndex) (hoffered : Offered w sipCall b b')
    (hunused : b.Unused sipCall) (hnew : ∀ device lineInstance info callId,
      w.offerIncomingCall b device lineInstance info = some callId →
        b.calls.get? callId = none) : b'.CallIndex := by
  obtain ⟨callId, call, device, lineInstance, info, binding, hsip, hrouted, hbinding, hdevice,
    hline, hclear, hanswer⟩ := hoffered
  exact h.offer device lineInstance info (hnew _ _ _ _ hanswer) hsip hrouted hunused

/-- Moves give no call a SIP call. -/
theorem attached_of_turn (h : Turn b b') {c : CallId} {s : SipCallId}
    (hcall' : b'.calls.get? c = some call') (hsip' : call'.sipCall = some s) :
    ∃ call, b.calls.get? c = some call ∧ call.sipCall = some s := by
  rcases h with hmove | ⟨hcalls, _, _, _⟩
  · cases hmove with
    | note effect hneutral => exact ⟨call', hcall', hsip'⟩
    | dialed lastDialed => exact ⟨call', hcall', hsip'⟩
    | station device f => exact ⟨call', hcall', hsip'⟩
    | edit callId f hkeeps =>
      obtain ⟨call, hcall, rfl⟩ := get?_editCall.mp hcall'
      refine ⟨call, hcall, ?_⟩
      split at hsip'
      · next hc => exact (hkeeps call (hc ▸ hcall)).sipCall.symm.trans hsip'
      · exact hsip'
    | start callId call device text hnew hsip hbound =>
      dsimp only at hcall'
      rw [Table.get?_insert] at hcall'
      split at hcall'
      · obtain rfl := Option.some.inj hcall'
        rw [hsip] at hsip'
        cases hsip'
      · exact ⟨call', hcall', hsip'⟩
    | close callId call effects hcall heffects =>
      dsimp only at hcall'
      rw [Table.get?_erase] at hcall'
      split at hcall'
      · cases hcall'
      · exact ⟨call', hcall', hsip'⟩
    | release sipCall => exact ⟨call', hcall', hsip'⟩
    | reserve sipCall pending hfree => exact ⟨call', hcall', hsip'⟩
  · exact ⟨call', hcalls ▸ hcall', hsip'⟩

theorem attached_of_turns (h : Turns b b') {c : CallId} {s : SipCallId}
    (hcall' : b'.calls.get? c = some call') (hsip' : call'.sipCall = some s) :
    ∃ call, b.calls.get? c = some call ∧ call.sipCall = some s := by
  induction h generalizing call' with
  | refl => exact ⟨call', hcall', hsip'⟩
  | tail _ hturn ih =>
    obtain ⟨call, hcall, hsip⟩ := attached_of_turn hturn hcall' hsip'
    exact ih hcall hsip

theorem Unused.turns {s : SipCallId} (hunused : b.Unused s) (h : Turns b b') : b'.Unused s := by
  intro c call' hcall' hsip'
  obtain ⟨call, hcall, hsip⟩ := attached_of_turns h hcall' hsip'
  exact hunused c call hcall hsip

/-- The new entry of the index is for a SIP call that nobody has reserved. -/
theorem CallBooks.reserved_insert (h : b.CallBooks) (hclear : b.pendingIncoming.get? sipCall = none)
    (s : SipCallId) (hs : b.pendingIncoming.contains s = true) :
    (b.sccpBySip.insert sipCall callId).get? s = none := by
  rw [Table.get?_insert]
  split
  · next heq =>
    subst heq
    rw [Table.not_contains_iff.mpr hclear] at hs
    cases hs
  · exact h.reserved s hs

/-! ## Every move keeps the books of the lines -/

/-- The same lines, and calls that are made on them. -/
theorem LineBooks.same_lines (h : b.LineBooks) (haccounts : b'.accountsByLine = b.accountsByLine)
    (hbindings : b'.bindingsByAccount = b.bindingsByAccount)
    (hregistered : ∀ device, b.registrations.contains device = true →
      b'.registrations.contains device = true) (hbound : ∀ c call, b'.calls.get? c = some call →
      b.accountsByLine.get? (call.device, call.lineInstance) = some call.account) :
    b'.LineBooks where
  inverse := by rw [haccounts, hbindings]; exact h.inverse
  registered := fun device lineInstance account hget => by
    rw [haccounts] at hget
    exact hregistered device (h.registered device lineInstance account hget)
  bound := by rw [haccounts]; exact hbound

theorem LineBooks.edit_bound (h : b.LineBooks) (hkeeps : ∀ call, b.calls.get? callId = some call →
      (f call).device = call.device ∧ (f call).lineInstance = call.lineInstance
        ∧ (f call).account = call.account) (c : CallId) (call' : BridgeCall)
    (hcall' : (b.editCall callId f).calls.get? c = some call') :
    b.accountsByLine.get? (call'.device, call'.lineInstance) = some call'.account := by
  obtain ⟨call, hcall, rfl⟩ := get?_editCall.mp hcall'
  split
  · next hc =>
    obtain ⟨hdevice, hline, haccount⟩ := hkeeps call (hc ▸ hcall)
    rw [hdevice, hline, haccount]
    exact h.bound c call hcall
  · exact h.bound c call hcall

theorem LineBooks.insert_bound (h : b.LineBooks)
    (hbound : b.accountsByLine.get? (call.device, call.lineInstance) = some call.account)
    (c : CallId) (other : BridgeCall) (hother : (b.calls.insert callId call).get? c = some other) :
    b.accountsByLine.get? (other.device, other.lineInstance) = some other.account := by
  rw [Table.get?_insert] at hother
  split at hother
  · rw [← Option.some.inj hother]
    exact hbound
  · exact h.bound c other hother

theorem LineBooks.erase_bound (h : b.LineBooks) (c : CallId) (other : BridgeCall)
    (hother : (b.calls.erase callId).get? c = some other) :
    b.accountsByLine.get? (other.device, other.lineInstance) = some other.account := by
  rw [Table.get?_erase] at hother
  split at hother
  · cases hother
  · exact h.bound c other hother

theorem LineBooks.move (h : b.LineBooks) (hmove : Move b b') : b'.LineBooks := by
  cases hmove with
  | note effect hneutral => exact h.same_lines rfl rfl (fun _ => id) h.bound
  | dialed lastDialed => exact h.same_lines rfl rfl (fun _ => id) h.bound
  | station device f =>
    refine h.same_lines rfl rfl (fun other hother => ?_) h.bound
    exact (Table.contains_modify ..).trans hother
  | edit callId f hkeeps =>
    refine h.same_lines rfl rfl (fun _ => id) (h.edit_bound fun call hcall => ?_)
    have hk := hkeeps call hcall
    exact ⟨hk.device, hk.lineInstance, hk.account⟩
  | start callId call device text hnew hsip hbound =>
    exact h.same_lines rfl rfl (fun _ => id) (h.insert_bound hbound)
  | close callId call effects hcall heffects =>
    exact h.same_lines rfl rfl (fun _ => id) h.erase_bound
  | release sipCall => exact h.same_lines rfl rfl (fun _ => id) h.bound
  | reserve sipCall pending hfree => exact h.same_lines rfl rfl (fun _ => id) h.bound

theorem LineBooks.moves (h : b.LineBooks) (hmoves : Moves b b') : b'.LineBooks := by
  induction hmoves with
  | refl => exact h
  | tail _ hmove ih => exact ih.move hmove

theorem LineBooks.placed {w : World} (h : b.LineBooks) (hplaced : Placed w b b') :
    b'.LineBooks := by
  obtain ⟨callId, call, sipCall, account, destination, advertised, _, _, _, _⟩ := hplaced
  exact h.same_lines rfl rfl (fun _ => id) (h.edit_bound fun call _ => ⟨rfl, rfl, rfl⟩)

theorem LineBooks.offered {w : World} (h : b.LineBooks) (hoffered : Offered w sipCall b b') :
    b'.LineBooks := by
  obtain ⟨callId, call, device, lineInstance, info, binding, _, _, hbinding, hdevice, hline, _,
    _⟩ := hoffered
  exact h.same_lines rfl rfl (fun _ => id)
    (h.insert_bound ((h.inverse _ _ _).mpr ⟨binding, hbinding, hdevice, hline⟩))

end Coordinator

end Sccp.Gateway
