/-
  Sccp.Safety.BridgeOwner

  Bridge sessions under the runtime owner: which commands keep apart, and what a drain
  leaves behind.

  A command reserves its bridge, its calls and the calls that are known to belong to its
  bridge when it is admitted.  What becomes known later comes from commands on the same
  bridge, and these are behind it in the lane of the bridge.
-/

import Sccp.Runtime.BridgeOwner
import Sccp.Safety.OwnerDesk
import Sccp.Safety.OwnerRequests

namespace Sccp.Bridges

open Sccp RuntimeOwner

abbrev BridgeDesk := Desk BridgeState BridgeCommand Outcome BridgeResource BridgeEffect

abbrev BridgeRuntimeOwner :=
  RuntimeOwner BridgeState BridgeCommand Outcome BridgeResource BridgeEffect

variable {d d' : BridgeDesk}
variable {s : BridgeState} {command : BridgeCommand} {calls : List PbxCallId}

/-- The operation waits or executes, with this action and these resources. -/
def Busy (d : BridgeDesk) (i : OperationId) (action : BridgeAction)
    (resources : List BridgeResource) : Prop :=
  (∃ c, d.waits i c resources ∧ c.action = action)
    ∨ ∃ e, d.runs i e resources ∧ e.command.action = action

theorem Busy.live {i : OperationId} {action : BridgeAction} {resources : List BridgeResource}
    (h : Busy d i action resources) : d.Live i resources := by
  rcases h with ⟨c, hc, -⟩ | ⟨e, he, -⟩
  · exact .inl ⟨c, hc⟩
  · exact .inr ⟨e, he⟩

/-! ## The machine -/

theorem mem_resources_call {c : PbxCallId} (h : c ∈ command.action.callIds) :
    .call c ∈ s.resources command :=
  List.mem_append_left _ (List.mem_map_of_mem h)

theorem mem_resources_bridge {b : PbxBridgeId} (h : command.action.bridgeId = some b) :
    .bridge b ∈ s.resources command := by
  refine List.mem_append_right _ ?_
  rw [h]
  exact List.mem_append_left _ (List.mem_append_left _ List.mem_cons_self)

theorem mem_resources_intent {b : PbxBridgeId} (h : command.action.bridgeId = some b)
    {k : OperationId} (hk : s.intents.get? k = some (some b, calls)) {c : PbxCallId}
    (hc : c ∈ calls) : .call c ∈ s.resources command := by
  refine List.mem_append_right _ ?_
  rw [h]
  refine List.mem_append_left _ (List.mem_append_right _ (List.mem_flatMap.mpr ?_))
  exact ⟨(some b, calls), List.mem_filter.mpr ⟨Table.mem_values.mpr ⟨k, hk⟩, by simp⟩,
    List.mem_map_of_mem hc⟩

theorem mem_resources_participant {b : PbxBridgeId} (h : command.action.bridgeId = some b)
    (hcalls : s.calls.get? b = some calls) {c : PbxCallId} (hc : c ∈ calls) :
    .call c ∈ s.resources command := by
  refine List.mem_append_right _ ?_
  rw [h]
  refine List.mem_append_right _ (List.mem_map_of_mem ?_)
  rw [hcalls]
  exact hc

/-- A drain reserves the bridge and the calls of every intent. -/
theorem mem_resources_drain (h : command.action = .drain) {k : OperationId}
    {bridge : Option PbxBridgeId} (hk : s.intents.get? k = some (bridge, calls)) :
    (∀ b, bridge = some b → .bridge b ∈ s.resources command)
      ∧ ∀ c ∈ calls, .call c ∈ s.resources command := by
  have hvalue : (bridge, calls) ∈ s.intents.values := Table.mem_values.mpr ⟨k, hk⟩
  unfold BridgeState.resources
  rw [h]
  constructor
  · rintro b rfl
    refine List.mem_append_right _ (List.mem_append_left _ (List.mem_append_left _ ?_))
    exact List.mem_flatMap.mpr ⟨_, hvalue, List.mem_append_left _ (by simp)⟩
  · intro c hc
    refine List.mem_append_right _ (List.mem_append_left _ (List.mem_append_left _ ?_))
    exact List.mem_flatMap.mpr ⟨_, hvalue, List.mem_append_right _ (List.mem_map_of_mem hc)⟩

/-- What an admission does to the state. -/
theorem admitOperation_state (s : BridgeState) (id : OperationId) (command : BridgeCommand) :
    (s.admitOperation id command).1.intents
        = s.intents.insert id (command.action.bridgeId, command.action.callIds)
      ∧ (s.admitOperation id command).1.calls = s.calls
      ∧ (s.admitOperation id command).1.bridges = s.bridges
      ∧ (s.admitOperation id command).1.barges = s.barges
      ∧ (s.admitOperation id command).1.retiringAfter
        = if command.action.isDrain then some id else s.retiringAfter := by
  unfold BridgeState.admitOperation
  dsimp only
  split <;> exact ⟨rfl, rfl, rfl, rfl, rfl⟩

theorem isDrain_iff {action : BridgeAction} : action.isDrain = true ↔ action = .drain := by
  cases action <;> simp [BridgeAction.isDrain]

/-- The outcomes of a preparation: the command is refused, works on its bridge, drains, or
    is a transfer. -/
theorem prepare_cases (s : BridgeState) (id : OperationId) (command : BridgeCommand) :
    ((∃ retiring, s.retiringAfter = some retiring ∧ retiring.val < id.val)
        ∧ s.prepare id command = (s.forget id, .finished (.error unavailable)))
    ∨ (∀ retiring, s.retiringAfter = some retiring → id.val ≤ retiring.val)
      ∧ ((∃ b effect, command.action.bridgeId = some b ∧ effect.command = command
          ∧ s.prepare id command = ({ s with
            calls := s.calls.insert b ((s.calls.get? b).getD [] ∪ command.action.callIds)
            bridges := s.bridges.erase b
            barges := s.barges.erase b }, .effect effect))
        ∨ (command.action = .drain ∧ ∃ effect, effect.command = command
          ∧ s.prepare id command = ({ s with
            calls := ∅, snapshot := {}, bridges := ∅, barges := ∅ }, .effect effect))
        ∨ (∃ completion, command.action = .transfer completion)
          ∧ s.prepare id command = (s, .effect { command })) := by
  unfold BridgeState.prepare
  cases hretiring : s.retiringAfter with
  | some retiring =>
    by_cases hlt : retiring.val < id.val
    · refine .inl ⟨⟨retiring, rfl, hlt⟩, ?_⟩
      rw [if_pos (by simp [hlt])]
    refine .inr ⟨fun r hr => by cases hr; omega, ?_⟩
    rw [if_neg (by simp [hlt])]
    obtain ⟨action⟩ := command
    rcases action with operation | operation | completion | _
    · exact .inl ⟨_, _, rfl, rfl, rfl⟩
    · cases operation <;> exact .inl ⟨_, _, rfl, rfl, rfl⟩
    · exact .inr (.inr ⟨⟨completion, rfl⟩, rfl⟩)
    · exact .inr (.inl ⟨rfl, _, rfl, rfl⟩)
  | none =>
    refine .inr ⟨nofun, ?_⟩
    rw [if_neg (by simp)]
    obtain ⟨action⟩ := command
    rcases action with operation | operation | completion | _
    · exact .inl ⟨_, _, rfl, rfl, rfl⟩
    · cases operation <;> exact .inl ⟨_, _, rfl, rfl, rfl⟩
    · exact .inr (.inr ⟨⟨completion, rfl⟩, rfl⟩)
    · exact .inr (.inl ⟨rfl, _, rfl, rfl⟩)

/-- A completion forgets the intent and can only take participants away. -/
theorem complete_state (s : BridgeState) (id : OperationId) (completion : BridgeCompletion) :
    (s.complete id completion).1.intents = s.intents.erase id
      ∧ (s.complete id completion).1.retiringAfter = s.retiringAfter
      ∧ (∀ b calls, (s.complete id completion).1.calls.get? b = some calls →
        s.calls.get? b = some calls)
      ∧ (completion.bridgeId = none → (s.complete id completion).1.bridges = s.bridges
        ∧ (s.complete id completion).1.barges = s.barges)
      ∧ (s.complete id completion).2 = .finished completion.result := by
  unfold BridgeState.complete BridgeState.forget
  obtain ⟨bridgeId, bridge, barge, result⟩ := completion
  cases bridgeId with
  | none => exact ⟨rfl, rfl, fun _ _ h => h, fun _ => ⟨rfl, rfl⟩, rfl⟩
  | some bridgeId =>
    cases bridge <;> cases barge
    · refine ⟨rfl, rfl, fun b calls h => ?_, nofun, rfl⟩
      change (s.calls.erase bridgeId).get? b = some calls at h
      rw [Table.get?_erase] at h
      split at h
      · cases h
      · exact h
    all_goals exact ⟨rfl, rfl, fun _ _ h => h, nofun, rfl⟩

/-! ## Bridges and calls stay apart -/

/-- What the reservations cover: the own bridge and calls, the calls of older commands on the
    bridge, and its participants. -/
structure Fenced (d : BridgeDesk) : Prop where
  old : ∀ i a rs, Busy d i a rs → i.val < d.next
  exclusive : ∀ i j e e' rs rs', d.runs i e rs → d.runs j e' rs' → Share rs rs' → i = j
  ahead : ∀ i k e c rs rs', d.runs i e rs → d.waits k c rs' → Share rs rs' → i.val < k.val
  intents : ∀ i a rs, Busy d i a rs → d.state.intents.get? i = some (a.bridgeId, a.callIds)
  intended : ∀ i b calls, d.state.intents.get? i = some (b, calls) →
    ∃ a rs, Busy d i a rs ∧ a.bridgeId = b ∧ a.callIds = calls
  ownBridge : ∀ i a rs, Busy d i a rs → ∀ b, a.bridgeId = some b → .bridge b ∈ rs
  ownCalls : ∀ i a rs, Busy d i a rs → ∀ c ∈ a.callIds, .call c ∈ rs
  olderCalls : ∀ i a rs, Busy d i a rs → ∀ b, a.bridgeId = some b → ∀ k a' rs',
    Busy d k a' rs' → k.val < i.val → a'.bridgeId = some b → ∀ c ∈ a'.callIds, .call c ∈ rs
  participants : ∀ i a rs, Busy d i a rs → ∀ b, a.bridgeId = some b → ∀ calls,
    d.state.calls.get? b = some calls → ∀ c ∈ calls, .call c ∈ rs

section Fenced

variable {id : OperationId}

theorem busy_closes {state : BridgeState} {reply : Except RequestError Outcome}
    (h : Desk.Closes id state reply d d') {i : OperationId} {a : BridgeAction}
    {rs : List BridgeResource} : Busy d' i a rs ↔ i ≠ id ∧ Busy d i a rs := by
  unfold Busy
  simp only [h.waits, h.runs]
  constructor
  · rintro (⟨c, ⟨hne, hc⟩, ha⟩ | ⟨e, ⟨hne, he⟩, ha⟩)
    · exact ⟨hne, .inl ⟨c, hc, ha⟩⟩
    · exact ⟨hne, .inr ⟨e, he, ha⟩⟩
  · rintro ⟨hne, ⟨c, hc, ha⟩ | ⟨e, he, ha⟩⟩
    · exact .inl ⟨c, ⟨hne, hc⟩, ha⟩
    · exact .inr ⟨e, ⟨hne, he⟩, ha⟩

/-- An operation that closes takes its intent along. -/
theorem Fenced.closes (h : Fenced d) {state : BridgeState}
    {reply : Except RequestError Outcome} (hd : Desk.Closes id state reply d d')
    (hintents : state.intents = d.state.intents.erase id)
    (hcalls : ∀ b calls, state.calls.get? b = some calls → d.state.calls.get? b = some calls) :
    Fenced d' where
  old i a rs hi := by
    rw [hd.next]
    exact h.old i a rs ((busy_closes hd).mp hi).2
  exclusive i j e e' rs rs' hi hj :=
    h.exclusive i j e e' rs rs' ((hd.runs ..).mp hi).2 ((hd.runs ..).mp hj).2
  ahead i k e c rs rs' hi hk :=
    h.ahead i k e c rs rs' ((hd.runs ..).mp hi).2 ((hd.waits ..).mp hk).2
  intents i a rs hi := by
    obtain ⟨hne, hi⟩ := (busy_closes hd).mp hi
    rw [hd.state, hintents, Table.get?_erase, if_neg hne]
    exact h.intents i a rs hi
  intended i b calls hi := by
    rw [hd.state, hintents, Table.get?_erase] at hi
    split at hi
    · cases hi
    next hne =>
    obtain ⟨a, rs, hbusy, hb, hc⟩ := h.intended i b calls hi
    exact ⟨a, rs, (busy_closes hd).mpr ⟨hne, hbusy⟩, hb, hc⟩
  ownBridge i a rs hi := h.ownBridge i a rs ((busy_closes hd).mp hi).2
  ownCalls i a rs hi := h.ownCalls i a rs ((busy_closes hd).mp hi).2
  olderCalls i a rs hi b hb k a' rs' hk :=
    h.olderCalls i a rs ((busy_closes hd).mp hi).2 b hb k a' rs' ((busy_closes hd).mp hk).2
  participants i a rs hi b hb calls hcs := by
    rw [hd.state] at hcs
    exact h.participants i a rs ((busy_closes hd).mp hi).2 b hb calls (hcalls b calls hcs)

theorem busy_admits {command : BridgeCommand} (h : Desk.Admits bridgeMachine command d d')
    {i : OperationId} {a : BridgeAction} {rs : List BridgeResource} : Busy d' i a rs ↔
      Busy d i a rs ∨ i = ⟨d.next⟩ ∧ a = command.action
        ∧ rs = retainUnique [] (d.state.admitOperation ⟨d.next⟩ command).2 := by
  unfold Busy
  simp only [h.waits, h.runs]
  constructor
  · rintro (⟨c, hc | ⟨rfl, rfl, rfl⟩, ha⟩ | he)
    · exact .inl (.inl ⟨c, hc, ha⟩)
    · exact .inr ⟨rfl, ha.symm, rfl⟩
    · exact .inl (.inr he)
  rintro ((⟨c, hc, ha⟩ | he) | ⟨rfl, rfl, rfl⟩)
  · exact .inl ⟨c, .inl hc, ha⟩
  · exact .inr he
  · exact .inl ⟨command, .inr ⟨rfl, rfl, rfl⟩, rfl⟩

/-- A command reserves what is known when it is admitted. -/
theorem Fenced.admits (h : Fenced d) {command : BridgeCommand}
    (hd : Desk.Admits bridgeMachine command d d') : Fenced d' := by
  obtain ⟨hintents, hcalls, -⟩ := admitOperation_state d.state ⟨d.next⟩ command
  have hstate : d'.state = (d.state.admitOperation ⟨d.next⟩ command).1 := hd.state
  have hfresh : ∀ i a rs, Busy d i a rs → i ≠ ⟨d.next⟩ := by
    rintro i a rs hi rfl
    exact Nat.lt_irrefl _ (h.old _ a rs hi)
  -- a resource of the new command, as it is admitted
  have hnew : ∀ r, r ∈ (d.state.admitOperation ⟨d.next⟩ command).1.resources command →
      r ∈ retainUnique [] (d.state.admitOperation ⟨d.next⟩ command).2 := fun r hr =>
    mem_retainUnique.mpr ⟨hr, List.not_mem_nil⟩
  refine ⟨?_, ?_, ?_, ?_, ?_, ?_, ?_, ?_, ?_⟩
  · intro i a rs hi
    rw [hd.next]
    rcases (busy_admits hd).mp hi with hi | ⟨rfl, -⟩
    · exact Nat.lt_succ_of_lt (h.old i a rs hi)
    · exact Nat.lt_succ_self _
  · intro i j e e' rs rs' hi hj
    exact h.exclusive i j e e' rs rs' ((hd.runs ..).mp hi) ((hd.runs ..).mp hj)
  · intro i k e c rs rs' hi hk
    have hi' := (hd.runs ..).mp hi
    rcases (hd.waits ..).mp hk with hk | ⟨rfl, -⟩
    · exact h.ahead i k e c rs rs' hi' hk
    · exact fun _ => h.old i _ rs (.inr ⟨e, hi', rfl⟩)
  · intro i a rs hi
    rw [hstate, hintents, Table.get?_insert]
    rcases (busy_admits hd).mp hi with hi | ⟨rfl, rfl, -⟩
    · rw [if_neg (hfresh i a rs hi)]
      exact h.intents i a rs hi
    · exact if_pos rfl
  · intro i b calls hi
    rw [hstate, hintents, Table.get?_insert] at hi
    split at hi
    · next heq =>
      cases hi
      exact ⟨_, _, (busy_admits hd).mpr (.inr ⟨heq, rfl, rfl⟩), rfl, rfl⟩
    · obtain ⟨a, rs, hbusy, hb, hc⟩ := h.intended i b calls hi
      exact ⟨a, rs, (busy_admits hd).mpr (.inl hbusy), hb, hc⟩
  · intro i a rs hi b hb
    rcases (busy_admits hd).mp hi with hi | ⟨rfl, rfl, rfl⟩
    · exact h.ownBridge i a rs hi b hb
    · exact hnew _ (mem_resources_bridge hb)
  · intro i a rs hi c hc
    rcases (busy_admits hd).mp hi with hi | ⟨rfl, rfl, rfl⟩
    · exact h.ownCalls i a rs hi c hc
    · exact hnew _ (mem_resources_call hc)
  · intro i a rs hi b hb k a' rs' hk hlt hb' c hc
    rcases (busy_admits hd).mp hi with hi | ⟨rfl, rfl, rfl⟩
    · rcases (busy_admits hd).mp hk with hk | ⟨rfl, -⟩
      · exact h.olderCalls i a rs hi b hb k a' rs' hk hlt hb' c hc
      · have hold := h.old i a rs hi
        exact absurd hlt (Nat.not_lt.mpr hold.le)
    rcases (busy_admits hd).mp hk with hk | ⟨rfl, -⟩
    · refine hnew _ (mem_resources_intent (k := k) hb ?_ hc)
      rw [hintents, Table.get?_insert, if_neg (hfresh k a' rs' hk), h.intents k a' rs' hk, hb']
    · exact absurd hlt (Nat.lt_irrefl _)
  · intro i a rs hi b hb calls hcs c hc
    rw [hstate, hcalls] at hcs
    rcases (busy_admits hd).mp hi with hi | ⟨rfl, rfl, rfl⟩
    · exact h.participants i a rs hi b hb calls hcs c hc
    · exact hnew _ (mem_resources_participant hb (hcalls ▸ hcs) hc)

section Starts

variable {state : BridgeState} {effect : BridgeEffect} {command : BridgeCommand}
  {resources : List BridgeResource}

theorem busy_starts (hd : Desk.Starts id state effect resources d d')
    (hwaits : d.waits id command resources) (hcommand : effect.command = command)
    {i : OperationId} {a : BridgeAction} {rs : List BridgeResource} (h : Busy d' i a rs) :
    Busy d i a rs := by
  rcases h with ⟨c, hc, ha⟩ | ⟨e, he, ha⟩
  · exact .inl ⟨c, ((hd.waits ..).mp hc).2, ha⟩
  · rcases (hd.runs ..).mp he with ⟨-, he⟩ | ⟨rfl, rfl, rfl⟩
    · exact .inr ⟨e, he, ha⟩
    · exact .inl ⟨command, hwaits, hcommand ▸ ha⟩

theorem busy_of_ne (hd : Desk.Starts id state effect resources d d') {i : OperationId}
    {a : BridgeAction} {rs : List BridgeResource} (hne : i ≠ id) (h : Busy d i a rs) :
    Busy d' i a rs := by
  rcases h with ⟨c, hc, ha⟩ | ⟨e, he, ha⟩
  · exact .inl ⟨c, (hd.waits ..).mpr ⟨hne, hc⟩, ha⟩
  · exact .inr ⟨e, (hd.runs ..).mpr (.inl ⟨hne, he⟩), ha⟩

/-- A command that starts makes its calls participants of its bridge. -/
theorem Fenced.starts (h : Fenced d) (hd : Desk.Starts id state effect resources d d')
    (hwaits : d.waits id command resources) (hfirst : d.First id resources)
    (hcommand : effect.command = command) (hintents : state.intents = d.state.intents)
    (hcalls : ∀ b calls, state.calls.get? b = some calls → ∀ c ∈ calls,
      (∃ calls', d.state.calls.get? b = some calls' ∧ c ∈ calls')
        ∨ command.action.bridgeId = some b ∧ c ∈ command.action.callIds) : Fenced d' := by
  have hbusy : ∀ {i a rs}, Busy d' i a rs → Busy d i a rs := busy_starts hd hwaits hcommand
  have hself : Busy d id command.action resources := .inl ⟨command, hwaits, rfl⟩
  refine ⟨?_, ?_, ?_, ?_, ?_, fun i a rs hi => h.ownBridge i a rs (hbusy hi),
    fun i a rs hi => h.ownCalls i a rs (hbusy hi), fun i a rs hi b hb k a' rs' hk =>
      h.olderCalls i a rs (hbusy hi) b hb k a' rs' (hbusy hk), ?_⟩
  · intro i a rs hi
    rw [hd.next]
    exact h.old i a rs (hbusy hi)
  · intro i j e e' rs rs' hi hj hshare
    rcases (hd.runs ..).mp hi with ⟨hne, hi⟩ | ⟨rfl, rfl, rfl⟩ <;>
      rcases (hd.runs ..).mp hj with ⟨hne', hj⟩ | ⟨rfl, rfl, rfl⟩
    · exact h.exclusive i j e e' rs rs' hi hj hshare
    · obtain ⟨r, hr, hr'⟩ := hshare
      exact absurd hi ((hfirst i rs hne (.inr ⟨e, hi⟩) ⟨r, hr', hr⟩).1 e)
    · exact absurd hj ((hfirst j rs' hne' (.inr ⟨e', hj⟩) hshare).1 e')
    · rfl
  · intro i k e c rs rs' hi hk hshare
    obtain ⟨hne, hk⟩ := (hd.waits ..).mp hk
    rcases (hd.runs ..).mp hi with ⟨-, hi⟩ | ⟨rfl, rfl, rfl⟩
    · exact h.ahead i k e c rs rs' hi hk hshare
    · exact (hfirst k rs' hne (.inl ⟨c, hk⟩) hshare).2
  · intro i a rs hi
    rw [hd.state, hintents]
    exact h.intents i a rs (hbusy hi)
  · intro i b calls hi
    rw [hd.state, hintents] at hi
    by_cases hne : i = id
    · subst hne
      rw [h.intents i _ _ hself] at hi
      cases hi
      exact ⟨_, _, .inr ⟨effect, (hd.runs ..).mpr (.inr ⟨rfl, rfl, rfl⟩), by rw [hcommand]⟩,
        rfl, rfl⟩
    · obtain ⟨a, rs, hold, hb, hc⟩ := h.intended i b calls hi
      exact ⟨a, rs, busy_of_ne hd hne hold, hb, hc⟩
  · intro i a rs hi b hb calls hcs c hc
    have hi' := hbusy hi
    rw [hd.state] at hcs
    rcases hcalls b calls hcs c hc with ⟨calls', hcalls', hc'⟩ | ⟨hb', hc'⟩
    · exact h.participants i a rs hi' b hb calls' hcalls' c hc'
    -- who else names the bridge is younger, and has reserved the calls of this command
    by_cases hne : i = id
    · subst hne
      have hsame := (h.intents i a rs hi').symm.trans (h.intents i _ _ hself)
      simp only [Option.some.injEq, Prod.mk.injEq] at hsame
      exact h.ownCalls i a rs hi' c (hsame.2 ▸ hc')
    have hshare : Share resources rs :=
      ⟨.bridge b, h.ownBridge id _ _ hself b hb', h.ownBridge i a rs hi' b hb⟩
    have hlt := (hfirst i rs hne hi'.live hshare).2
    exact h.olderCalls i a rs hi' b hb id _ _ hself hlt hb' c hc'

end Starts

variable {admits : BridgeDesk → BridgeCommand → Prop}
  {ends : BridgeEffect → Option BridgeCompletion → Prop}

theorem prepare_intents (s : BridgeState) (id : OperationId) (command : BridgeCommand)
    {effect : BridgeEffect} (h : (s.prepare id command).2 = .effect effect) :
    effect.command = command ∧ (s.prepare id command).1.intents = s.intents
      ∧ ∀ b calls, (s.prepare id command).1.calls.get? b = some calls → ∀ c ∈ calls,
        (∃ calls', s.calls.get? b = some calls' ∧ c ∈ calls')
          ∨ command.action.bridgeId = some b ∧ c ∈ command.action.callIds := by
  rcases prepare_cases s id command with ⟨-, heq⟩ | ⟨-, ⟨b, e, hb, hcommand, heq⟩ |
      ⟨-, e, hcommand, heq⟩ | ⟨-, heq⟩⟩
  · rw [heq] at h
    cases h
  · rw [heq] at h ⊢
    cases h
    refine ⟨hcommand, rfl, fun b' calls hcalls c hc => ?_⟩
    change (s.calls.insert b _).get? b' = some calls at hcalls
    rw [Table.get?_insert] at hcalls
    split at hcalls
    · next hbb =>
      subst hbb
      cases hcalls
      rcases List.mem_union_iff.mp hc with hc | hc
      · cases hold : s.calls.get? b' with
        | none =>
          rw [hold] at hc
          cases hc
        | some calls' =>
          rw [hold] at hc
          exact .inl ⟨calls', rfl, hc⟩
      · exact .inr ⟨hb, hc⟩
    · exact .inl ⟨calls, hcalls, hc⟩
  · rw [heq] at h ⊢
    cases h
    exact ⟨hcommand, rfl, fun b calls hcalls => by cases hcalls⟩
  · rw [heq] at h ⊢
    cases h
    exact ⟨rfl, rfl, fun b calls hcalls c hc => .inl ⟨calls, hcalls, hc⟩⟩

theorem prepare_finished (s : BridgeState) (id : OperationId) (command : BridgeCommand)
    {reply : Outcome} (h : (s.prepare id command).2 = .finished reply) :
    (∃ retiring, s.retiringAfter = some retiring ∧ retiring.val < id.val)
      ∧ (s.prepare id command).1 = s.forget id := by
  rcases prepare_cases s id command with ⟨hretiring, heq⟩ | ⟨-, ⟨b, e, hb, hcommand, heq⟩ |
      ⟨-, e, hcommand, heq⟩ | ⟨-, heq⟩⟩
  · rw [heq]
    exact ⟨hretiring, rfl⟩
  all_goals
    rw [heq] at h
    cases h

/-- What the machine does when an effect has ended, with or without a completion. -/
theorem after_state (s : BridgeState) (id : OperationId) (result : Option BridgeCompletion) :
    (Desk.after bridgeMachine s id result).1.intents = s.intents.erase id
      ∧ (Desk.after bridgeMachine s id result).1.retiringAfter = s.retiringAfter
      ∧ (∀ b calls, (Desk.after bridgeMachine s id result).1.calls.get? b = some calls →
        s.calls.get? b = some calls)
      ∧ ((∀ completion, result = some completion → completion.bridgeId = none) →
        (Desk.after bridgeMachine s id result).1.bridges = s.bridges
          ∧ (Desk.after bridgeMachine s id result).1.barges = s.barges)
      ∧ ∃ reply, (Desk.after bridgeMachine s id result).2 = .finished reply := by
  cases result with
  | none => exact ⟨rfl, rfl, fun _ _ h => h, fun _ => ⟨rfl, rfl⟩, _, rfl⟩
  | some completion =>
    obtain ⟨hintents, hretiring, hcalls, hnone, hreply⟩ := complete_state s id completion
    exact ⟨hintents, hretiring, hcalls, fun h => hnone (h completion rfl), _, hreply⟩

/-- Every move keeps the reservations. -/
theorem Fenced.move (h : Fenced d) (hmove : Desk.Move bridgeMachine admits ends d d') :
    Fenced d' := by
  cases hmove with
  | accept _ hd => exact h.admits hd
  | expire _ hd => exact h.closes hd rfl fun _ _ hcalls => hcalls
  | refuse _ _ hstep hd =>
    have hstate := (prepare_finished d.state _ _ hstep).2
    refine h.closes hd ?_ fun b calls hcalls => ?_
    · exact congrArg BridgeState.intents hstate
    · change (d.state.prepare _ _).1.calls.get? b = some calls at hcalls
      rw [hstate] at hcalls
      exact hcalls
  | start hwaits hfirst hstep hd =>
    obtain ⟨hcommand, hintents, hcalls⟩ := prepare_intents d.state _ _ hstep
    exact h.starts hd hwaits hfirst hcommand hintents hcalls
  | finish _ _ _ hd =>
    obtain ⟨hintents, -, hcalls, -⟩ := after_state d.state _ _
    exact h.closes hd hintents hcalls
  | resume _ _ hstep hd =>
    obtain ⟨-, -, -, -, reply, hreply⟩ := after_state d.state _ _
    cases hreply.symm.trans hstep

theorem idle_new : ∀ i a rs, ¬ Busy (desk (new {} : BridgeRuntimeOwner)) i a rs := by
  rintro i a rs (⟨c, ⟨w, hw, -⟩, -⟩ | ⟨e, ⟨hactive, -⟩, -⟩)
  · cases hw
  · cases hactive

theorem fenced_new : Fenced (desk (new {} : BridgeRuntimeOwner)) := by
  have hidle := idle_new
  refine ⟨fun i a rs h => absurd h (hidle i a rs), fun i j e e' rs rs' h => ?_,
    fun i k e c rs rs' h => ?_, fun i a rs h => absurd h (hidle i a rs),
    fun i b calls h => (by cases h), fun i a rs h => absurd h (hidle i a rs),
    fun i a rs h => absurd h (hidle i a rs), fun i a rs h => absurd h (hidle i a rs),
    fun i a rs h => absurd h (hidle i a rs)⟩
  · cases h.1
  · cases h.1

/-- Two commands that execute at the same time do not name the same bridge; nor does one
    name a bridge and the other a call that is known to belong to it, as a participant or
    through a command that is not younger than both. -/
def Apart (o : BridgeRuntimeOwner) : Prop :=
  ∀ i j e e' rs rs' b, i ≠ j → o.desk.runs i e rs → o.desk.runs j e' rs' →
    e.command.action.bridgeId = some b → e'.command.action.bridgeId ≠ some b
      ∧ ∀ c ∈ e'.command.action.callIds,
        (∀ calls, o.state.calls.get? b = some calls → c ∉ calls)
        ∧ ∀ k a rs'', Busy o.desk k a rs'' → k.val ≤ max i.val j.val → a.bridgeId = some b →
          c ∉ a.callIds

theorem Fenced.apart {o : BridgeRuntimeOwner} (h : Fenced o.desk) : Apart o := by
  intro i j e e' rs rs' b hne hi hj hb
  have hbusy : Busy o.desk i e.command.action rs := .inr ⟨e, hi, rfl⟩
  have hbusy' : Busy o.desk j e'.command.action rs' := .inr ⟨e', hj, rfl⟩
  have hshare : ¬ Share rs rs' := fun hshare => hne (h.exclusive i j e e' rs rs' hi hj hshare)
  have hbridge := h.ownBridge i _ rs hbusy b hb
  refine ⟨fun hb' => hshare ⟨_, hbridge, h.ownBridge j _ rs' hbusy' b hb'⟩, fun c hc => ?_⟩
  have hcall := h.ownCalls j _ rs' hbusy' c hc
  refine ⟨fun calls hcalls hmem => hshare ⟨_, h.participants i _ rs hbusy b hb calls hcalls c hmem,
    hcall⟩, fun k a rs'' hk hle hkb hmem => ?_⟩
  have hkBridge := h.ownBridge k a rs'' hk b hkb
  have hkCall := h.ownCalls k a rs'' hk c hmem
  by_cases hki : k.val < i.val
  · exact hshare ⟨_, h.olderCalls i _ rs hbusy b hb k a rs'' hk hki hkb c hmem, hcall⟩
  -- a command on the bridge that is not older waits behind the one that executes
  rcases hk with ⟨command, hwaits, -⟩ | ⟨effect, hruns, -⟩
  · have hbehind := h.ahead i k e command rs rs'' hi hwaits ⟨_, hbridge, hkBridge⟩
    have hbehind' := h.ahead j k e' command rs' rs'' hj hwaits ⟨_, hcall, hkCall⟩
    omega
  · have hik := h.exclusive i k e effect rs rs'' hi hruns ⟨_, hbridge, hkBridge⟩
    have hjk := h.exclusive j k e' effect rs' rs'' hj hruns ⟨_, hcall, hkCall⟩
    exact hne (hik.trans hjk.symm)

end Fenced

/-! ## Drains -/

/-- No drain waits or executes when a drain is admitted. -/
def DrainsApart (d : BridgeDesk) (command : BridgeCommand) : Prop :=
  command.action = .drain → ∀ i rs, ¬ Busy d i .drain rs

/-- An effect ends with the completion of its worker, or without any. -/
def Ends (effect : BridgeEffect) (result : Option BridgeCompletion) : Prop :=
  ∀ completion, result = some completion → ∃ world, completion = effect.finish world

/-- The last drain: what it has reserved, and what it leaves once it has started. -/
structure Draining (d : BridgeDesk) : Prop where
  fenced : Fenced d
  apart : ∀ i c rs e rs', d.waits i c rs → d.runs i e rs' → False
  gone : ∀ i r, d.replied i r → (∀ a rs, ¬ Busy d i a rs) ∧ i.val < d.next
  once : ∀ i r r', d.replied i r → d.replied i r' → r = r'
  retiringOld : ∀ R, d.state.retiringAfter = some R → R.val < d.next
  retiringDrain : ∀ R, d.state.retiringAfter = some R → ∀ a rs, Busy d R a rs → a = .drain
  alone : ∀ i rs, Busy d i .drain rs → d.state.retiringAfter = some i
  reserves : ∀ i rs, Busy d i .drain rs → ∀ k a rs', Busy d k a rs' → k.val < i.val →
    (∀ b, a.bridgeId = some b → .bridge b ∈ rs) ∧ ∀ c ∈ a.callIds, .call c ∈ rs
  admitted : ∀ i e rs, d.runs i e rs → ∀ R, d.state.retiringAfter = some R → i.val ≤ R.val
  drained : ∀ R, d.state.retiringAfter = some R → (∀ c rs, ¬ d.waits R c rs) →
    ¬ d.replied R (.error .expiredBeforeExecution) →
      d.state.bridges = ∅ ∧ d.state.barges = ∅ ∧ (∀ k a rs, Busy d k a rs → R.val ≤ k.val)
        ∧ ∀ i e rs, d.runs i e rs → i = R

/-- A command that is no drain shares a resource with a drain that is younger. -/
theorem Draining.share (h : Draining d) {i k : OperationId} {a : BridgeAction}
    {rs rs' : List BridgeResource} (hi : Busy d i .drain rs) (hk : Busy d k a rs')
    (hlt : k.val < i.val) : Share rs rs' := by
  obtain ⟨hbridge, hcalls⟩ := h.reserves i rs hi k a rs' hk hlt
  have hown := h.fenced.ownCalls k a rs' hk
  rcases a with operation | operation | completion | _
  · exact ⟨_, hbridge _ rfl, h.fenced.ownBridge k _ rs' hk _ rfl⟩
  · cases operation <;> exact ⟨_, hbridge _ rfl, h.fenced.ownBridge k _ rs' hk _ rfl⟩
  · exact ⟨_, hcalls _ List.mem_cons_self, hown _ List.mem_cons_self⟩
  · -- two drains are not busy at the same time
    have hsame := (h.alone i rs hi).symm.trans (h.alone k rs' hk)
    cases hsame
    exact absurd hlt (Nat.lt_irrefl _)

section Draining

variable {id : OperationId}

theorem Draining.admits (h : Draining d) (happart : DrainsApart d command)
    (hd : Desk.Admits bridgeMachine command d d') : Draining d' := by
  obtain ⟨hintents, -, hbridges, hbarges, hretiring⟩ :=
    admitOperation_state d.state ⟨d.next⟩ command
  have hstate : d'.state = (d.state.admitOperation ⟨d.next⟩ command).1 := hd.state
  have hold : ∀ i a rs, Busy d i a rs → i.val < d.next := h.fenced.old
  rw [← hstate] at hintents hbridges hbarges hretiring
  have hbusy := fun {i a rs} => @busy_admits _ _ _ hd i a rs
  have hnewDrain : ∀ i rs, i = ⟨d.next⟩ ∧ (.drain : BridgeAction) = command.action
      ∧ rs = retainUnique [] (d.state.admitOperation ⟨d.next⟩ command).2 →
        d'.state.retiringAfter = some i := by
    rintro i rs ⟨rfl, hdrain, -⟩
    rw [hretiring, if_pos (isDrain_iff.mpr hdrain.symm)]
  refine ⟨h.fenced.admits hd, ?_, ?_, ?_, ?_, ?_, ?_, ?_, ?_, ?_⟩
  · intro i c rs e rs' hw hr
    have hr' := (hd.runs ..).mp hr
    rcases (hd.waits ..).mp hw with hw | ⟨rfl, -⟩
    · exact h.apart i c rs e rs' hw hr'
    · exact Nat.lt_irrefl _ (hold _ _ _ (.inr ⟨e, hr', rfl⟩))
  · intro i r hr
    obtain ⟨hgone, hlt⟩ := h.gone i r ((hd.replied ..).mp hr)
    refine ⟨fun a rs hi => ?_, by rw [hd.next]; exact Nat.lt_succ_of_lt hlt⟩
    rcases hbusy.mp hi with hi | ⟨rfl, -⟩
    · exact hgone a rs hi
    · exact Nat.lt_irrefl _ hlt
  · intro i r r' hr hr'
    exact h.once i r r' ((hd.replied ..).mp hr) ((hd.replied ..).mp hr')
  · intro R hR
    rw [hd.next]
    rw [hretiring] at hR
    split at hR
    · cases hR
      exact Nat.lt_succ_self _
    · exact Nat.lt_succ_of_lt (h.retiringOld R hR)
  · intro R hR a rs hi
    rw [hretiring] at hR
    split at hR
    · next hdrain =>
      cases hR
      rcases hbusy.mp hi with hi | ⟨-, rfl, -⟩
      · exact absurd (hold _ _ _ hi) (Nat.lt_irrefl _)
      · exact isDrain_iff.mp hdrain
    · rcases hbusy.mp hi with hi | ⟨rfl, -⟩
      · exact h.retiringDrain R hR a rs hi
      · exact absurd (h.retiringOld _ hR) (Nat.lt_irrefl _)
  · intro i rs hi
    rcases hbusy.mp hi with hi | hi
    · rw [hretiring, if_neg]
      · exact h.alone i rs hi
      · exact fun hdrain => happart (isDrain_iff.mp hdrain) i rs hi
    · exact hnewDrain i rs hi
  · intro i rs hi k a rs' hk hlt
    rcases hbusy.mp hi with hi | ⟨rfl, hdrain, rfl⟩
    · rcases hbusy.mp hk with hk | ⟨rfl, -⟩
      · exact h.reserves i rs hi k a rs' hk hlt
      · exact absurd (hold i _ _ hi) (Nat.not_lt.mpr hlt.le)
    rcases hbusy.mp hk with hk | ⟨rfl, -⟩
    · have hintent : d'.state.intents.get? k = some (a.bridgeId, a.callIds) := by
        rw [hintents, Table.get?_insert, if_neg]
        · exact h.fenced.intents k a rs' hk
        · rintro rfl
          exact Nat.lt_irrefl _ (hold _ _ _ hk)
      rw [hstate] at hintent
      obtain ⟨hbridge, hcalls⟩ := mem_resources_drain hdrain.symm hintent
      exact ⟨fun b hb => mem_retainUnique.mpr ⟨hbridge b hb, List.not_mem_nil⟩,
        fun c hc => mem_retainUnique.mpr ⟨hcalls c hc, List.not_mem_nil⟩⟩
    · exact absurd hlt (Nat.lt_irrefl _)
  · intro i e rs hi R hR
    have hi' := (hd.runs ..).mp hi
    rw [hretiring] at hR
    split at hR
    · cases hR
      exact (hold i _ _ (.inr ⟨e, hi', rfl⟩)).le
    · exact h.admitted i e rs hi' R hR
  · intro R hR hwaits hreplied
    rw [hretiring] at hR
    split at hR
    · -- the new drain waits
      cases hR
      exact absurd ((hd.waits ..).mpr (.inr ⟨rfl, rfl, rfl⟩)) (hwaits _ _)
    obtain ⟨hb, hbg, hbehind, hruns⟩ := h.drained R hR
      (fun c rs hw => hwaits c rs ((hd.waits ..).mpr (.inl hw)))
      fun hr => hreplied ((hd.replied ..).mpr hr)
    refine ⟨hbridges.trans hb, hbarges.trans hbg, fun k a rs hk => ?_,
      fun i e rs hi => hruns i e rs ((hd.runs ..).mp hi)⟩
    rcases hbusy.mp hk with hk | ⟨rfl, -⟩
    · exact hbehind k a rs hk
    · exact (h.retiringOld R hR).le

/-- An operation closes; the last drain is as far as it was, and its sessions as they were. -/
theorem Draining.closes (h : Draining d) {state : BridgeState}
    {reply : Except RequestError Outcome} (hd : Desk.Closes id state reply d d')
    (hfenced : Fenced d') (hbusy : ∃ a rs, Busy d id a rs)
    (hretiring : state.retiringAfter = d.state.retiringAfter)
    (hkept : ∀ R, d.state.retiringAfter = some R → (∀ c rs, ¬ d'.waits R c rs) →
      ¬ d'.replied R (.error .expiredBeforeExecution) → (∀ c rs, ¬ d.waits R c rs)
        ∧ (d.state.bridges = ∅ ∧ d.state.barges = ∅ → (∀ i e rs, d.runs i e rs → i = R) →
          state.bridges = ∅ ∧ state.barges = ∅)) : Draining d' := by
  have hsub : ∀ {i a rs}, Busy d' i a rs → Busy d i a rs := fun hi => ((busy_closes hd).mp hi).2
  have hR' : d'.state.retiringAfter = d.state.retiringAfter := by rw [hd.state, hretiring]
  obtain ⟨a, rs, hid⟩ := hbusy
  have hunreplied : ∀ r, ¬ d.replied id r := fun r hr => (h.gone id r hr).1 a rs hid
  refine ⟨hfenced, ?_, ?_, ?_, ?_, ?_, ?_, ?_, ?_, ?_⟩
  · intro i c rs e rs' hw hr
    exact h.apart i c rs e rs' ((hd.waits ..).mp hw).2 ((hd.runs ..).mp hr).2
  · intro i r hr
    rw [hd.next]
    rcases (hd.replied ..).mp hr with hr | ⟨rfl, -⟩
    · exact ⟨fun a rs hi => (h.gone i r hr).1 a rs (hsub hi), (h.gone i r hr).2⟩
    · exact ⟨fun a rs hi => ((busy_closes hd).mp hi).1 rfl, h.fenced.old _ a rs hid⟩
  · intro i r r' hr hr'
    rcases (hd.replied ..).mp hr with hr | ⟨rfl, rfl⟩ <;>
      rcases (hd.replied ..).mp hr' with hr' | ⟨hi, rfl⟩
    · exact h.once i r r' hr hr'
    · subst hi
      exact absurd hr (hunreplied r)
    · exact absurd hr' (hunreplied r')
    · rfl
  · intro R hR
    rw [hd.next]
    exact h.retiringOld R (hR' ▸ hR)
  · intro R hR a rs hi
    exact h.retiringDrain R (hR' ▸ hR) a rs (hsub hi)
  · intro i rs hi
    rw [hR']
    exact h.alone i rs (hsub hi)
  · intro i rs hi k a rs' hk
    exact h.reserves i rs (hsub hi) k a rs' (hsub hk)
  · intro i e rs hi R hR
    exact h.admitted i e rs ((hd.runs ..).mp hi).2 R (hR' ▸ hR)
  intro R hR hwaits hreplied
  rw [hR'] at hR
  obtain ⟨hnot, hsessions⟩ := hkept R hR hwaits hreplied
  obtain ⟨hb, hbg, hbehind, hruns⟩ := h.drained R hR hnot fun hr =>
    hreplied ((hd.replied ..).mpr (.inl hr))
  obtain ⟨hb', hbg'⟩ := hsessions ⟨hb, hbg⟩ hruns
  rw [hd.state]
  exact ⟨hb', hbg', fun k a rs hk => hbehind k a rs (hsub hk),
    fun i e rs hi => hruns i e rs ((hd.runs ..).mp hi).2⟩

/-- A command starts; if it is the last drain, nothing else executes. -/
theorem Draining.starts (h : Draining d) {state : BridgeState} {effect : BridgeEffect}
    {resources : List BridgeResource} (hd : Desk.Starts id state effect resources d d')
    (hfenced : Fenced d') (hwaits : d.waits id command resources) (hfirst : d.First id resources)
    (hcommand : effect.command = command) (hretiring : state.retiringAfter = d.state.retiringAfter)
    (hadmitted : ∀ R, d.state.retiringAfter = some R → id.val ≤ R.val)
    (hdrain : command.action = .drain → state.bridges = ∅ ∧ state.barges = ∅) : Draining d' := by
  have hsub : ∀ {i a rs}, Busy d' i a rs → Busy d i a rs := busy_starts hd hwaits hcommand
  have hself : Busy d id command.action resources := .inl ⟨command, hwaits, rfl⟩
  have hR' : d'.state.retiringAfter = d.state.retiringAfter := by rw [hd.state, hretiring]
  refine ⟨hfenced, ?_, ?_, ?_, ?_, ?_, ?_, ?_, ?_, ?_⟩
  · intro i c rs e rs' hw hr
    obtain ⟨hne, hw⟩ := (hd.waits ..).mp hw
    rcases (hd.runs ..).mp hr with ⟨-, hr⟩ | ⟨hi, -⟩
    · exact h.apart i c rs e rs' hw hr
    · exact hne hi
  · intro i r hr
    rw [hd.next]
    obtain ⟨hgone, hlt⟩ := h.gone i r ((hd.replied ..).mp hr)
    exact ⟨fun a rs hi => hgone a rs (hsub hi), hlt⟩
  · intro i r r' hr hr'
    exact h.once i r r' ((hd.replied ..).mp hr) ((hd.replied ..).mp hr')
  · intro R hR
    rw [hd.next]
    exact h.retiringOld R (hR' ▸ hR)
  · intro R hR a rs hi
    exact h.retiringDrain R (hR' ▸ hR) a rs (hsub hi)
  · intro i rs hi
    rw [hR']
    exact h.alone i rs (hsub hi)
  · intro i rs hi k a rs' hk
    exact h.reserves i rs (hsub hi) k a rs' (hsub hk)
  · intro i e rs hi R hR
    rw [hR'] at hR
    rcases (hd.runs ..).mp hi with ⟨-, hi⟩ | ⟨rfl, -⟩
    · exact h.admitted i e rs hi R hR
    · exact hadmitted R hR
  intro R hR hnot hreplied
  rw [hR'] at hR
  by_cases hne : R = id
  · subst hne
    have hisDrain := h.retiringDrain R hR _ _ hself
    rw [hisDrain] at hself
    -- everything older has shared a resource with the drain, and so has gone
    have hbehind : ∀ k a rs, Busy d k a rs → R.val ≤ k.val := by
      intro k a rs hk
      by_contra hlt
      have hlt' : k.val < R.val := by omega
      have hkne : k ≠ R := by
        rintro rfl
        exact Nat.lt_irrefl _ hlt'
      have hyounger := (hfirst k rs hkne hk.live (h.share hself hk hlt')).2
      omega
    rw [hd.state]
    refine ⟨(hdrain hisDrain).1, (hdrain hisDrain).2, fun k a rs hk => hbehind k a rs (hsub hk),
      fun i e rs hi => ?_⟩
    rcases (hd.runs ..).mp hi with ⟨-, hi⟩ | ⟨rfl, -⟩
    · have hle := hbehind i _ rs (.inr ⟨e, hi, rfl⟩)
      have hge := h.admitted i e rs hi R hR
      cases i
      cases R
      exact congrArg OperationId.mk (Nat.le_antisymm hge hle)
    · rfl
  · -- the last drain has started already, and nothing older is left to start
    exfalso
    obtain ⟨-, -, hbehind, -⟩ := h.drained R hR
      (fun c rs hw => hnot c rs ((hd.waits ..).mpr ⟨hne, hw⟩))
      fun hr => hreplied ((hd.replied ..).mpr hr)
    have hle := hbehind id _ _ hself
    have hge := hadmitted R hR
    cases R
    cases id
    exact hne (congrArg OperationId.mk (Nat.le_antisymm hle hge))

theorem prepare_effect (s : BridgeState) (id : OperationId) (command : BridgeCommand)
    {effect : BridgeEffect} (h : (s.prepare id command).2 = .effect effect) :
    (s.prepare id command).1.retiringAfter = s.retiringAfter
      ∧ (∀ R, s.retiringAfter = some R → id.val ≤ R.val)
      ∧ (command.action = .drain → (s.prepare id command).1.bridges = ∅
        ∧ (s.prepare id command).1.barges = ∅) := by
  rcases prepare_cases s id command with ⟨-, heq⟩ | ⟨hle, ⟨b, e, hb, hcommand, heq⟩ |
      ⟨-, e, hcommand, heq⟩ | ⟨⟨completion, htransfer⟩, heq⟩⟩
  · rw [heq] at h
    cases h
  · rw [heq]
    refine ⟨rfl, hle, fun hdrain => ?_⟩
    rw [hdrain] at hb
    cases hb
  · rw [heq]
    exact ⟨rfl, hle, fun _ => ⟨rfl, rfl⟩⟩
  · rw [heq]
    refine ⟨rfl, hle, fun hdrain => ?_⟩
    rw [htransfer] at hdrain
    cases hdrain

theorem Draining.move (h : Draining d)
    (hmove : Desk.Move bridgeMachine DrainsApart Ends d d') : Draining d' := by
  have hfenced := h.fenced.move hmove
  cases hmove with
  | accept happart hd => exact h.admits happart hd
  | @expire id command resources hwaits hd =>
    refine h.closes hd hfenced ⟨_, _, .inl ⟨command, hwaits, rfl⟩⟩ rfl
      fun R hR hnot hreplied => ⟨fun c rs hw => ?_, fun hempty _ => hempty⟩
    by_cases hne : R = id
    · exact hreplied ((hd.replied ..).mpr (.inr ⟨hne, rfl⟩))
    · exact hnot c rs ((hd.waits ..).mpr ⟨hne, hw⟩)
  | @refuse id command resources reply hwaits _ hstep hd =>
    obtain ⟨⟨retiring, hretiring, hlt⟩, hstate⟩ := prepare_finished d.state id command hstep
    change Desk.Closes id (d.state.prepare id command).1 _ d d' at hd
    rw [hstate] at hd
    refine h.closes hd hfenced ⟨_, _, .inl ⟨command, hwaits, rfl⟩⟩ rfl
      fun R hR hnot _ => ⟨fun c rs hw => hnot c rs ((hd.waits ..).mpr ⟨?_, hw⟩),
        fun hempty _ => hempty⟩
    -- the last drain itself is not refused
    rintro rfl
    cases hR.symm.trans hretiring
    exact Nat.lt_irrefl _ hlt
  | start hwaits hfirst hstep hd =>
    obtain ⟨hcommand, -⟩ := prepare_intents d.state _ _ hstep
    obtain ⟨hretiring, hadmitted, hdrain⟩ := prepare_effect d.state _ _ hstep
    exact h.starts hd hfenced hwaits hfirst hcommand hretiring hadmitted hdrain
  | @finish id effect resources result reply hruns hends _ hd =>
    obtain ⟨-, hretiring, -, hsessions, -⟩ := after_state d.state id result
    refine h.closes hd hfenced ⟨_, _, .inr ⟨effect, hruns, rfl⟩⟩ hretiring
      fun R hR hnot hreplied => ⟨fun c rs hw => ?_, fun hempty hall => ?_⟩
    · by_cases hne : R = id
      · subst hne
        exact h.apart R c rs effect resources hw hruns
      · exact hnot c rs ((hd.waits ..).mpr ⟨hne, hw⟩)
    -- what ends is the drain, and it brings no session back
    have hid := hall id effect resources hruns
    subst hid
    have haction := h.retiringDrain id hR _ _ (.inr ⟨effect, hruns, rfl⟩)
    obtain ⟨hb, hbg⟩ := hsessions fun completion hcompletion => by
      obtain ⟨world, rfl⟩ := hends completion hcompletion
      change effect.command.action.bridgeId = none
      rw [haction]
      rfl
    exact ⟨hb.trans hempty.1, hbg.trans hempty.2⟩
  | resume _ _ hstep hd =>
    obtain ⟨-, -, -, -, reply, hreply⟩ := after_state d.state _ _
    cases hreply.symm.trans hstep

theorem draining_new : Draining (desk (new {} : BridgeRuntimeOwner)) := by
  have hidle := idle_new
  refine ⟨fenced_new, fun i c rs e rs' _ hr => hidle i _ rs' (.inr ⟨e, hr, rfl⟩),
    fun i r h => ?_, fun i r r' h => ?_, fun R h => ?_, fun R h => ?_,
    fun i rs h => absurd h (hidle i _ rs), fun i rs h => absurd h (hidle i _ rs),
    fun i e rs hr => absurd (.inr ⟨e, hr, rfl⟩) (hidle i _ rs), fun R h => ?_⟩
  all_goals cases h

end Draining

/-- The last drain among the requests that have got an id. -/
structure LastDrain (turns : List (ClockedTurn BridgeCommand BridgeCompletion))
    (last : OperationId) : Prop where
  admitted : ∃ request reserved, Admitted bridgeMachine {} turns last request reserved
    ∧ request.command.action = .drain
  latest : ∀ id request reserved, Admitted bridgeMachine {} turns id request reserved →
    request.command.action = .drain → id.val ≤ last.val

/-- Only an admission changes the operation after which the bridges are retired. -/
theorem retiring_moves (h : Relation.ReflTransGen
      (Desk.Move bridgeMachine (fun _ _ => False) fun _ _ => True) d d') :
    d'.state.retiringAfter = d.state.retiringAfter := by
  induction h with
  | refl => rfl
  | @tail d₁ d₂ _ hstep ih =>
    rw [← ih]
    cases hstep with
    | accept hadmits _ => exact hadmits.elim
    | expire _ hd => rw [hd.state]; rfl
    | @refuse id command _ _ _ _ hstep hd =>
      rw [hd.state]
      show (d₁.state.prepare id command).1.retiringAfter = _
      rw [(prepare_finished d₁.state id command hstep).2]
      rfl
    | @start id command _ _ _ _ hstep hd =>
      rw [hd.state]
      exact (prepare_effect d₁.state id command hstep).1
    | @finish id _ _ result _ _ _ _ hd =>
      rw [hd.state]
      exact (after_state d₁.state id result).2.1
    | @resume id _ _ _ result _ _ _ hd =>
      rw [hd.state]
      exact (after_state d₁.state id result).2.1

/-- A turn with a drain that gets an id retires the bridges after it; others keep what is. -/
theorem retiring_turn {o : BridgeRuntimeOwner} (h : Good none o)
    (t : ClockedTurn BridgeCommand BridgeCompletion) :
    (∃ request, t.1 = .request request ∧ request.command.action = .drain
        ∧ o.nextOperation + 1 < 2 ^ 64
        ∧ (o.turn bridgeMachine t).state.retiringAfter = some ⟨o.nextOperation⟩)
      ∨ (∀ request, t.1 = .request request → o.nextOperation + 1 < 2 ^ 64 →
          request.command.action ≠ .drain)
        ∧ (o.turn bridgeMachine t).state.retiringAfter = o.state.retiringAfter := by
  obtain ⟨t, clock⟩ := t
  cases t with
  | deadline now =>
    refine .inr ⟨fun _ heq => (by cases heq), ?_⟩
    exact retiring_moves (moves_turn bridgeMachine h (.deadline now, clock) trivial)
  | completion task result =>
    refine .inr ⟨fun _ heq => (by cases heq), ?_⟩
    exact retiring_moves (moves_turn bridgeMachine h (.completion task result, clock)
      fun _ _ _ => trivial)
  | request request =>
  have hloop : (o.turn bridgeMachine (.request request, clock)).state.retiringAfter
      = (o.admitRequest bridgeMachine request).state.retiringAfter :=
    retiring_moves
      (moves_startLoop bridgeMachine clock _ (good_admitRequest bridgeMachine h request))
  rw [hloop]
  unfold RuntimeOwner.admitRequest
  split
  · next hfull => exact .inr ⟨fun _ _ hlt => absurd hlt (Nat.not_lt.mpr hfull), rfl⟩
  next hroom =>
  have hstate : ∀ q : BridgeRuntimeOwner,
      (q.markReady ⟨o.nextOperation⟩).state.retiringAfter = q.state.retiringAfter :=
    fun q => congrArg (fun d : BridgeDesk => d.state.retiringAfter) (desk_markReady q _)
  rw [hstate]
  change (∃ _, _ ∧ _ ∧ _
      ∧ (o.state.admitOperation ⟨o.nextOperation⟩ request.command).1.retiringAfter = _)
    ∨ _ ∧ (o.state.admitOperation ⟨o.nextOperation⟩ request.command).1.retiringAfter = _
  rw [(admitOperation_state o.state ⟨o.nextOperation⟩ request.command).2.2.2.2]
  by_cases hdrain : request.command.action = .drain
  · rw [if_pos (isDrain_iff.mpr hdrain)]
    exact .inl ⟨request, rfl, hdrain, Nat.lt_of_not_ge hroom, rfl⟩
  · rw [if_neg fun h => hdrain (isDrain_iff.mp h)]
    refine .inr ⟨fun _ heq _ => ?_, rfl⟩
    cases heq
    exact hdrain

/-- In every run the bridges are retired after the last drain. -/
theorem retiring_lastDrain (turns : List (ClockedTurn BridgeCommand BridgeCompletion))
    (last : OperationId) :
    (ran bridgeMachine {} turns).state.retiringAfter = some last ↔ LastDrain turns last := by
  induction turns using List.reverseRecOn generalizing last with
  | nil =>
    refine ⟨fun h => (by cases h), fun h => ?_⟩
    obtain ⟨request, reserved, hadmitted, -⟩ := h.admitted
    have hle := (hadmitted.le_requests bridgeMachine).2.1
    have hpos := (hadmitted.le_requests bridgeMachine).1
    exact absurd (hpos.trans hle) (by decide)
  | append_singleton turns t ih =>
    have hgood : Good none (ran bridgeMachine {} turns) := (good_run bridgeMachine {} turns).1
    have hissued := (recorded_ran bridgeMachine {} turns).issued
    rw [ran_concat]
    rcases retiring_turn hgood t with ⟨request, ht, hdrain, hroom, heq⟩ | ⟨hnone, heq⟩
    · have hnext : (ran bridgeMachine {} turns).nextOperation = (requests turns).length + 1 := by
        omega
      have hnew : Admitted bridgeMachine {} (turns ++ [t])
          ⟨(ran bridgeMachine {} turns).nextOperation⟩ request _ :=
        ⟨turns, t.2, [], by rw [← ht], hnext, hroom, rfl⟩
      have hle : ∀ id request reserved, Admitted bridgeMachine {} (turns ++ [t]) id request
          reserved → id.val ≤ (ran bridgeMachine {} turns).nextOperation := by
        intro id request' reserved hadmitted
        rcases hadmitted.of_concat bridgeMachine with hold | ⟨-, hid, -⟩
        · have hold := (hold.le_requests bridgeMachine).2.1
          omega
        · omega
      rw [heq]
      constructor
      · intro hlast
        cases hlast
        exact ⟨⟨request, _, hnew, hdrain⟩, fun id request' reserved hid _ => hle id _ _ hid⟩
      · intro h
        obtain ⟨request', reserved, hadmitted, -⟩ := h.admitted
        have hge := h.latest _ _ _ hnew hdrain
        cases last
        exact congrArg (some ∘ OperationId.mk) (Nat.le_antisymm hge (hle _ _ _ hadmitted))
    · -- no drain is new
      have hsame : ∀ id request reserved, request.command.action = .drain →
          (Admitted bridgeMachine {} (turns ++ [t]) id request reserved
            ↔ Admitted bridgeMachine {} turns id request reserved) := by
        intro id request reserved hdrain
        refine ⟨fun hadmitted => ?_, fun hadmitted => hadmitted.later bridgeMachine [t]⟩
        rcases hadmitted.of_concat bridgeMachine with hold | ⟨ht, hid, hlt⟩
        · exact hold
        · exact absurd hdrain (hnone request ht (by omega))
      rw [heq, ih last]
      constructor
      · intro h
        obtain ⟨request, reserved, hadmitted, hdrain⟩ := h.admitted
        exact ⟨⟨request, reserved, (hsame _ _ _ hdrain).mpr hadmitted, hdrain⟩,
          fun id request' reserved' hid hd => h.latest id _ _ ((hsame _ _ _ hd).mp hid) hd⟩
      · intro h
        obtain ⟨request, reserved, hadmitted, hdrain⟩ := h.admitted
        exact ⟨⟨request, reserved, (hsame _ _ _ hdrain).mp hadmitted, hdrain⟩,
          fun id request' reserved' hid hd => h.latest id _ _ ((hsame _ _ _ hd).mpr hid) hd⟩

/-- While a drain executes nothing else does, and after the last drain that was admitted has
    completed nothing executes and no session is left. -/
structure Drained (o : BridgeRuntimeOwner) : Prop where
  exclusive : ∀ i e rs, o.desk.runs i e rs → e.command.action = .drain →
    ∀ j e' rs', o.desk.runs j e' rs' → j = i
  empty : ∀ last reply, o.state.retiringAfter = some last → o.desk.replied last (.ok reply) →
    o.state.bridges = ∅ ∧ o.state.barges = ∅ ∧ ∀ i e rs, ¬ o.desk.runs i e rs

theorem Draining.drained_of {o : BridgeRuntimeOwner} (h : Draining o.desk) : Drained o where
  exclusive i e rs hi hdrain j e' rs' hj := by
    have hbusy : Busy o.desk i .drain rs := .inr ⟨e, hi, hdrain⟩
    have hle := h.admitted j e' rs' hj i (h.alone i rs hbusy)
    by_contra hne
    have hlt : j.val < i.val := by
      refine lt_of_le_of_ne hle fun heq => hne ?_
      cases i
      cases j
      exact congrArg OperationId.mk heq
    -- the drain has reserved what the older command works on
    have hshare := h.share hbusy (.inr ⟨e', hj, rfl⟩) hlt
    exact hne (h.fenced.exclusive i j e e' rs rs' hi hj hshare).symm
  empty last reply hlast hreply := by
    have hgone := (h.gone last _ hreply).1
    obtain ⟨hbridges, hbarges, -, hruns⟩ := h.drained last hlast
      (fun c rs hw => hgone _ rs (.inl ⟨c, hw, rfl⟩))
      fun hexpired => nomatch h.once last _ _ hreply hexpired
    refine ⟨hbridges, hbarges, fun i e rs hi => ?_⟩
    cases hruns i e rs hi
    exact hgone _ rs (.inr ⟨e, hi, rfl⟩)

/-- Commands that share a bridge never execute at the same time; the operation after which
    the bridges are retired is the last drain of the turns; and as long as no drain is
    admitted while another one waits or executes, drains execute alone and leave no session
    behind. -/
theorem bridge_drain (turns : List (ClockedTurn BridgeCommand BridgeCompletion))
    (hends : Runs.Each (turn bridgeMachine) (fun o t => Allowed (fun _ _ => True) Ends o t.1)
      (new {}) turns) :
    Runs.Always (turn bridgeMachine) Apart (new {}) turns
      ∧ (∀ last, (Runs.run (turn bridgeMachine) (new {}) turns).state.retiringAfter = some last
        ↔ LastDrain turns last)
      ∧ (Runs.Each (turn bridgeMachine)
          (fun o t => Allowed DrainsApart (fun _ _ => True) o t.1) (new {}) turns →
        Runs.Always (turn bridgeMachine) Drained (new {}) turns) := by
  refine ⟨always_desk bridgeMachine fenced_new (fun _ _ h hmove => h.move hmove)
    (fun _ h => h.apart) hends, retiring_lastDrain turns, fun hdrains => ?_⟩
  have hboth : Runs.Each (turn bridgeMachine) (fun o t => Allowed DrainsApart Ends o t.1)
      (new {}) turns := by
    refine (hends.and hdrains).mono fun o t h => ?_
    obtain ⟨t, clock⟩ := t
    cases t with
    | deadline now => trivial
    | request request => exact h.2
    | completion task result => exact h.1
  exact always_desk bridgeMachine draining_new (fun _ _ h hmove => h.move hmove)
    (fun _ h => h.drained_of) hboth

/-- A native layer that does all it is asked for. -/
def willingWorld : World where
  bound _ := true
  valid _ := true
  createBridge := .ok ⟨1⟩
  modify := .ok ()
  destroy _ := .ok ()
  acquireBargeBridge := .ok ⟨2⟩
  addBarge := .ok ()
  removeBarge := .ok ()
  release _ := .ok ()
  transfer := .ok ()

/-- The turns that carry out one command after the other in the willing world; a task of
    `none` leaves the command executing. -/
def carriedOut : List (BridgeAction × Option TaskId) →
    List (ClockedTurn BridgeCommand BridgeCompletion)
  | [] => []
  | (action, none) :: rest =>
    (.request { command := ⟨action⟩, deadline := none }, fun _ => 0) :: carriedOut rest
  | (action, some task) :: rest =>
    (.request { command := ⟨action⟩, deadline := none }, fun _ => 0)
      :: (.completion task (some (BridgeEffect.finish willingWorld { command := ⟨action⟩ })),
        fun _ => 0) :: carriedOut rest

theorem bridge_drain_one : Runs.Always (turn bridgeMachine) Drained (new {})
    (carriedOut [(.bridge (.create ⟨7⟩), some ⟨0⟩), (.drain, some ⟨1⟩)]) := by
  refine (bridge_drain (carriedOut [(.bridge (.create ⟨7⟩), some ⟨0⟩), (.drain, some ⟨1⟩)])
    ⟨trivial, ?_, trivial, ?_, trivial⟩).2.2 ⟨fun h => (nomatch h), fun _ _ _ => trivial,
      fun _ i rs hi => ?_, fun _ _ _ => trivial, trivial⟩
  · intro id effect h completion hc
    cases h
    cases hc
    exact ⟨willingWorld, rfl⟩
  · intro id effect h completion hc
    cases h
    cases hc
    exact ⟨willingWorld, rfl⟩
  · rcases hi with ⟨c, ⟨w, hw, -⟩, -⟩ | ⟨e, ⟨hactive, -⟩, -⟩
    · cases hw
    · cases hactive

/-- A second drain finds nothing to reserve while the first one still ends the sessions, and
    is completed before it. -/
theorem second_drain_overtakes_the_first :
    ∃ turns, Runs.Each (turn bridgeMachine) (fun o t => Allowed (fun _ _ => True) Ends o t.1)
        (new {}) turns
      ∧ let o := Runs.run (turn bridgeMachine) (new {} : BridgeRuntimeOwner) turns
        o.state.retiringAfter = some ⟨3⟩ ∧ o.desk.replied ⟨3⟩ (.ok (.ok ()))
          ∧ ∃ effect drain, o.desk.runs ⟨2⟩ effect [.bridge ⟨7⟩]
            ∧ effect.draining = some drain ∧ drain.bridges.get? ⟨7⟩ = some ⟨1⟩ := by
  refine ⟨carriedOut [(.bridge (.create ⟨7⟩), some ⟨0⟩), (.drain, none), (.drain, some ⟨2⟩)],
    ⟨trivial, ?_, trivial, trivial, ?_, trivial⟩, rfl, List.mem_cons_of_mem _ List.mem_cons_self,
    _, _, ⟨rfl, ⟨1⟩, rfl⟩, rfl, rfl⟩
  · intro id effect h completion hc
    cases h
    cases hc
    exact ⟨willingWorld, rfl⟩
  intro id effect h completion hc
  cases h
  cases hc
  exact ⟨willingWorld, rfl⟩

end Sccp.Bridges
