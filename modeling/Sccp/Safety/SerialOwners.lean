/-
  Sccp.Safety.SerialOwners

  Owners that work on one operation at a time.

  When every operation reserves the same resource, the owner runs them one by one in the
  order of their admission.  Events are therefore published under the numbers 1, 2, 3, ... in
  that order, and a configuration transaction has the configuration to itself.
-/

import Sccp.Runtime.SerialOwners
import Sccp.Safety.OwnerDesk
import Sccp.Safety.OwnerRequests

namespace Sccp

open RuntimeOwner

/-! ## One lane -/

section Serial

variable {S Command Reply Effect Completion : Type}
variable {machine : RuntimeState S Command Reply Unit Effect Completion}
variable {log : S → List OperationId} {d d' : Desk S Command Reply Unit Effect}
variable {requested : OperationId → Command → Prop}

/-- All operations use one resource and have one effect, and are logged when prepared. -/
structure OneLane (machine : RuntimeState S Command Reply Unit Effect Completion)
    (log : S → List OperationId) : Prop where
  admitOperation : ∀ s id command, machine.admitOperation s id command = (s, [()])
  expired : ∀ s id, machine.expired s id = s
  prepare : ∀ s id command, log (machine.prepare s id command).1 = log s ++ [id]
    ∧ ∃ effect, (machine.prepare s id command).2 = .effect effect
  after : ∀ s id result, log (Desk.after machine s id result).1 = log s
    ∧ ∃ reply, (Desk.after machine s id result).2 = .finished reply

/-- Operations are prepared in the order of their admission, and only the last one runs. -/
structure Serial (log : S → List OperationId) (d : Desk S Command Reply Unit Effect) : Prop where
  ordered : (log d.state).Pairwise fun i j => i.val < j.val
  bounded : ∀ i ∈ log d.state, i.val < d.next
  waits : ∀ j c rs, d.waits j c rs → rs = [()] ∧ j.val < d.next ∧ ∀ i ∈ log d.state, i.val < j.val
  runs : ∀ i e rs, d.runs i e rs → rs = [()] ∧ (log d.state).getLast? = some i

theorem serial_new {state : S} (hlog : log state = []) :
    Serial log (desk (new state : RuntimeOwner S Command Reply Unit Effect)) := by
  have hnil : log (desk (new state : RuntimeOwner S Command Reply Unit Effect)).state = [] := hlog
  refine ⟨hnil ▸ .nil, hnil ▸ List.forall_mem_nil _, fun j c rs h => ?_, fun i e rs h => ?_⟩
  · obtain ⟨w, hw, -⟩ := h
    cases hw
  · cases h.1

theorem Serial.alone (h : Serial log d) {i j : OperationId} {e e' : Effect} {rs rs' : List Unit}
    (hi : d.runs i e rs) (hj : d.runs j e' rs') : i = j :=
  Option.some.inj ((h.runs i e rs hi).2.symm.trans (h.runs j e' rs' hj).2)

theorem Serial.not_waits (h : Serial log d) {i : OperationId} {e : Effect} {rs rs' : List Unit}
    {c : Command} (hi : d.runs i e rs) : ¬ d.waits i c rs' :=
  fun hw => lt_irrefl _ ((h.waits i c rs' hw).2.2 i (List.mem_of_getLast? (h.runs i e rs hi).2))

/-- When an operation is started, nothing runs: whatever did would be younger as well as
    older. -/
theorem Serial.idle (h : Serial log d) {id : OperationId} {command : Command}
    {resources : List Unit} (hwaits : d.waits id command resources)
    (hfirst : d.First id resources) (j : OperationId) (e : Effect) (rs : List Unit) :
    ¬ d.runs j e rs := by
  intro hj
  obtain ⟨rfl, hlast⟩ := h.runs j e rs hj
  obtain ⟨rfl, -, hbehind⟩ := h.waits id command resources hwaits
  have hlt := hbehind j (List.mem_of_getLast? hlast)
  refine (hfirst j _ (fun heq => ?_) (.inr ⟨e, hj⟩) ⟨(), List.mem_cons_self, List.mem_cons_self⟩).1
    e hj
  exact lt_irrefl _ (heq ▸ hlt)

/-- Nothing is started: an operation ends or expires, or one is admitted. -/
theorem Serial.unstarted (h : Serial log d) (hlog : log d'.state = log d.state)
    (hnext : d.next ≤ d'.next) (hruns : ∀ i e rs, d'.runs i e rs → d.runs i e rs)
    (hwaits : ∀ i c rs, d'.waits i c rs → d.waits i c rs
      ∨ rs = [()] ∧ i.val = d.next ∧ d.next < d'.next) : Serial log d' := by
  refine ⟨hlog ▸ h.ordered, fun i hi => (h.bounded i (hlog ▸ hi)).trans_le hnext,
    fun j c rs hj => ?_, fun i e rs hi => hlog ▸ h.runs i e rs (hruns i e rs hi)⟩
  rw [hlog]
  rcases hwaits j c rs hj with hold | ⟨hrs, heq, hlt⟩
  · obtain ⟨hrs, hlt, hbehind⟩ := h.waits j c rs hold
    exact ⟨hrs, hlt.trans_le hnext, hbehind⟩
  · exact ⟨hrs, heq ▸ hlt, fun i hi => heq ▸ h.bounded i hi⟩

theorem Serial.closes {id : OperationId} {state : S} {reply : Except RequestError Reply}
    (h : Serial log d) (hlog : log state = log d.state)
    (hcloses : Desk.Closes id state reply d d') : Serial log d' :=
  h.unstarted (by rw [hcloses.state, hlog]) hcloses.next.ge
    (fun i e rs hi => ((hcloses.runs i e rs).mp hi).2)
    fun i c rs hi => .inl ((hcloses.waits i c rs).mp hi).2

theorem Serial.starts {id : OperationId} {command : Command} {state : S} {effect : Effect}
    {resources : List Unit} (h : Serial log d) (hwaits : d.waits id command resources)
    (hfirst : d.First id resources) (hlog : log state = log d.state ++ [id])
    (hstarts : Desk.Starts id state effect resources d d') : Serial log d' := by
  obtain ⟨hresources, hlt, hbehind⟩ := h.waits id command resources hwaits
  rw [← hstarts.state] at hlog
  have hidle := h.idle hwaits hfirst
  refine ⟨?_, fun i hi => ?_, fun j c rs hj => ?_, fun i e rs hi => ?_⟩
  · rw [hlog, List.pairwise_append]
    refine ⟨h.ordered, List.pairwise_singleton .., fun i hi j hj => ?_⟩
    exact List.mem_singleton.mp hj ▸ hbehind i hi
  · rw [hlog] at hi
    rw [hstarts.next]
    rcases List.mem_append.mp hi with hi | hi
    · exact h.bounded i hi
    · exact List.mem_singleton.mp hi ▸ hlt
  · obtain ⟨hne, hj⟩ := (hstarts.waits j c rs).mp hj
    obtain ⟨hrs, hjlt, hjbehind⟩ := h.waits j c rs hj
    rw [hstarts.next, hlog]
    refine ⟨hrs, hjlt, fun i hi => ?_⟩
    rcases List.mem_append.mp hi with hi | hi
    · exact hjbehind i hi
    · subst hrs
      rw [List.mem_singleton.mp hi]
      exact (hfirst j _ hne (.inl ⟨c, hj⟩) ⟨(), hresources ▸ List.mem_cons_self,
        List.mem_cons_self⟩).2
  · rw [hlog, List.getLast?_concat]
    rcases (hstarts.runs i e rs).mp hi with ⟨-, hi⟩ | ⟨rfl, -, rfl⟩
    · exact absurd hi (hidle i e rs)
    · exact ⟨hresources, rfl⟩

theorem Serial.move {admits : Desk S Command Reply Unit Effect → Command → Prop}
    {ends : Effect → Option Completion → Prop} (hmachine : OneLane machine log)
    (h : Serial log d) (hmove : Desk.Move machine admits ends d d') : Serial log d' := by
  cases hmove with
  | @accept command _ hadmits =>
    have hlane := hmachine.admitOperation d.state ⟨d.next⟩ command
    have hlt : d.next < d'.next := by rw [hadmits.next]; exact Nat.lt_succ_self _
    refine h.unstarted (by rw [hadmits.state, hlane]) hlt.le
      (fun i e rs => (hadmits.runs i e rs).mp) fun i c rs hi => ?_
    refine ((hadmits.waits i c rs).mp hi).imp_right ?_
    rintro ⟨rfl, -, rfl⟩
    rw [hlane]
    exact ⟨rfl, rfl, hlt⟩
  | expire _ hcloses => exact h.closes (congrArg log (hmachine.expired ..)) hcloses
  | @refuse id command _ reply _ _ hstep =>
    obtain ⟨effect, heffect⟩ := (hmachine.prepare d.state id command).2
    cases hstep.symm.trans heffect
  | start hwaits hfirst _ hstarts => exact h.starts hwaits hfirst (hmachine.prepare ..).1 hstarts
  | @finish id _ _ result _ _ _ _ hcloses =>
    exact h.closes (hmachine.after d.state id result).1 hcloses
  | @resume id _ _ _ result _ _ hstep =>
    obtain ⟨reply, hreply⟩ := (hmachine.after d.state id result).2
    cases hstep.symm.trans hreply

/-- What waits has been requested, as long as only what is requested is admitted. -/
theorem requested_move {ends : Effect → Option Completion → Prop}
    (h : ∀ i c rs, d.waits i c rs → requested i c)
    (hmove : Desk.Move machine (fun d => requested ⟨d.next⟩) ends d d') (i : OperationId)
    (c : Command) (rs : List Unit) (hi : d'.waits i c rs) : requested i c := by
  cases hmove with
  | accept hadmits hstep =>
    rcases (hstep.waits i c rs).mp hi with hi | ⟨rfl, rfl, -⟩
    · exact h i c rs hi
    · exact hadmits
  | expire _ hcloses | refuse _ _ _ hcloses | finish _ _ _ hcloses =>
    exact h i c rs ((hcloses.waits i c rs).mp hi).2
  | start _ _ _ hstarts | resume _ _ _ hstarts =>
    exact h i c rs ((hstarts.waits i c rs).mp hi).2

/-- What is kept as long as nothing starts or ends, and by every start and end. -/
structure Kept (machine : RuntimeState S Command Reply Unit Effect Completion)
    (requested : OperationId → Command → Prop) (J : Desk S Command Reply Unit Effect → Prop) :
    Prop where
  same : ∀ d d', J d → d'.state = d.state → (∀ i e rs, d'.runs i e rs ↔ d.runs i e rs) → J d'
  start : ∀ d d' id command effect resources, J d → (∀ i e rs, ¬ d.runs i e rs) →
    requested id command → machine.prepare d.state id command = (d'.state, .effect effect) →
    (∀ i e rs, d'.runs i e rs ↔ i = id ∧ e = effect ∧ rs = resources) → J d'
  finish : ∀ d d' id effect resources result, J d → d.runs id effect resources →
    d'.state = (Desk.after machine d.state id result).1 → (∀ i e rs, ¬ d'.runs i e rs) → J d'

theorem Kept.move {J : Desk S Command Reply Unit Effect → Prop}
    {admits : Desk S Command Reply Unit Effect → Command → Prop}
    {ends : Effect → Option Completion → Prop} (hkept : Kept machine requested J)
    (hmachine : OneLane machine log) (hserial : Serial log d) (h : J d)
    (hrequested : ∀ i c rs, d.waits i c rs → requested i c)
    (hmove : Desk.Move machine admits ends d d') : J d' := by
  cases hmove with
  | accept _ hadmits =>
    exact hkept.same d d' h (by rw [hadmits.state, hmachine.admitOperation]) hadmits.runs
  | @expire id _ _ hwaits hcloses =>
    refine hkept.same d d' h (by rw [hcloses.state, hmachine.expired]) fun i e rs => ?_
    refine (hcloses.runs i e rs).trans (and_iff_right_of_imp ?_)
    rintro hr rfl
    exact hserial.not_waits hr hwaits
  | @refuse id command _ _ _ _ hstep =>
    obtain ⟨effect, heffect⟩ := (hmachine.prepare d.state id command).2
    cases hstep.symm.trans heffect
  | @start id command resources effect hwaits hfirst hstep hstarts =>
    have hidle := hserial.idle hwaits hfirst
    refine hkept.start d d' id command effect resources h hidle (hrequested _ _ _ hwaits) ?_
      fun i e rs => ?_
    · rw [hstarts.state, ← hstep]
    · rw [hstarts.runs, or_iff_right fun hold => hidle i e rs hold.2]
  | @finish id effect resources result _ hruns _ _ hcloses =>
    refine hkept.finish d d' id effect resources result h hruns hcloses.state fun i e rs hi => ?_
    obtain ⟨hne, hi⟩ := (hcloses.runs i e rs).mp hi
    exact hne (hserial.alone hi hruns)
  | @resume id _ _ _ result _ _ hstep =>
    obtain ⟨reply, hreply⟩ := (hmachine.after d.state id result).2
    cases hstep.symm.trans hreply

variable (requested) in
theorem always_serial (hmachine : OneLane machine log)
    {J : Desk S Command Reply Unit Effect → Prop} (hkept : Kept machine requested J)
    {P : RuntimeOwner S Command Reply Unit Effect → Prop} {state : S}
    {turns : List (ClockedTurn Command Completion)} (hturns : Runs.Each (turn machine)
      (fun o t => Allowed (fun d => requested ⟨d.next⟩) (fun _ _ => True) o t.1) (new state) turns)
    (hlog : log state = [])
    (hnew : J (desk (new state : RuntimeOwner S Command Reply Unit Effect)))
    (hP : ∀ o, Serial log (desk o) → J (desk o) → P o) :
    Runs.Always (turn machine) P (new state) turns :=
  always_desk machine
    (J := fun d => Serial log d ∧ J d ∧ ∀ i c rs, d.waits i c rs → requested i c)
    ⟨serial_new hlog, hnew, fun _ _ _ h => by cases h.choose_spec.1⟩
    (fun _ _ h hmove => ⟨h.1.move hmachine hmove, hkept.move hmachine h.1 h.2.1 h.2.2 hmove,
      requested_move h.2.2 hmove⟩)
    (fun o h => hP o h.1 h.2.1) hturns

end Serial

/-! ## Publication -/

section Publication

variable {Event Built : Type} {build : Event → Nat → Except AmiEventError Built}
variable {submitted submitted' : OperationId → Event → Prop}
variable {numbered : List (OperationId × Option Nat)}
variable {d d' : Desk PublicationState Event (Except AmiEventError Unit) Unit
  (PublicationEffect Built)}

/-- What preparing an event does: it takes the next number, unless the event cannot be built
    with it or it is the last one. -/
theorem publication_prepare (build : Event → Nat → Except AmiEventError Built)
    (s : PublicationState) (id : OperationId) (event : Event) :
    (∃ e, (∀ built, build event s.sequence.next = .ok built → 2 ^ 64 ≤ s.sequence.next + 1)
      ∧ (publicationMachine build).prepare s id event
        = ({ s with numbered := s.numbered ++ [(id, none)] }, .effect (.reportFailure e)))
    ∨ ∃ built, build event s.sequence.next = .ok built ∧ s.sequence.next + 1 < 2 ^ 64
      ∧ (publicationMachine build).prepare s id event
        = ({ sequence.next := s.sequence.next + 1
             numbered := s.numbered ++ [(id, some s.sequence.next)] },
          .effect (.publish built)) := by
  unfold publicationMachine EventSequence.prepare
  dsimp only
  cases hbuild : build event s.sequence.next with
  | error e => exact .inl ⟨e, fun _ h => (by cases h), rfl⟩
  | ok built =>
    dsimp only
    by_cases hroom : s.sequence.next + 1 < 2 ^ 64
    · rw [if_pos hroom]
      exact .inr ⟨built, rfl, hroom, rfl⟩
    · rw [if_neg hroom]
      exact .inl ⟨_, fun _ _ => not_lt.mp hroom, rfl⟩

theorem publication_oneLane : OneLane (publicationMachine build) fun s => s.numbered.map (·.1) where
  admitOperation _ _ _ := rfl
  expired _ _ := rfl
  prepare s id event := by
    rcases publication_prepare build s id event with ⟨e, -, heq⟩ | ⟨built, -, -, heq⟩ <;>
    · rw [heq]
      exact ⟨List.map_append, _, rfl⟩
  after _ _ result := by cases result <;> exact ⟨rfl, _, rfl⟩

/-- An operation has no number just when its event could not be built with the next one, or
    that was the last. -/
def Accounted (build : Event → Nat → Except AmiEventError Built)
    (submitted : OperationId → Event → Prop) (numbered : List (OperationId × Option Nat)) : Prop :=
  ∀ before i number after, numbered = before ++ (i, number) :: after → ∃ event, submitted i event
    ∧ (number = none ↔ ∀ built, build event ((before.filterMap (·.2)).length + 1) = .ok built →
      2 ^ 64 ≤ (before.filterMap (·.2)).length + 2)

/-- The numbers are 1, 2, 3, ..., and the delivery in flight is that of the last one. -/
structure Numbered (build : Event → Nat → Except AmiEventError Built)
    (submitted : OperationId → Event → Prop)
    (d : Desk PublicationState Event (Except AmiEventError Unit) Unit (PublicationEffect Built)) :
    Prop where
  next : d.state.sequence.next = (d.state.numbered.filterMap (·.2)).length + 1
  bounded : d.state.sequence.next < 2 ^ 64
  numbers : d.state.numbered.filterMap (·.2) = List.range' 1 (d.state.sequence.next - 1)
  accounted : Accounted build submitted d.state.numbered
  latest : ∀ i built rs, d.runs i (.publish built) rs → ∃ event number, submitted i event
    ∧ d.state.numbered.getLast? = some (i, some number) ∧ build event number = .ok built

theorem Accounted.concat (h : Accounted build submitted numbered) {id : OperationId} {event : Event}
    {number : Option Nat} (hsubmitted : submitted id event) (hnumber : number = none ↔ ∀ built,
      build event ((numbered.filterMap (·.2)).length + 1) = .ok built →
        2 ^ 64 ≤ (numbered.filterMap (·.2)).length + 2) :
    Accounted build submitted (numbered ++ [(id, number)]) := by
  intro before i n after heq
  rcases List.eq_nil_or_concat after with rfl | ⟨after, last, rfl⟩
  · obtain ⟨rfl, hlast⟩ := List.append_inj' heq rfl
    cases hlast
    exact ⟨event, hsubmitted, hnumber⟩
  · rw [List.concat_eq_append, ← List.cons_append, ← List.append_assoc] at heq
    exact h before i n after (List.append_inj' heq rfl).1

theorem Numbered.congr (h : Numbered build submitted d) (hstate : d'.state = d.state)
    (hruns : ∀ i e rs, d'.runs i e rs → d.runs i e rs) : Numbered build submitted d' := by
  obtain ⟨hnext, hbounded, hnumbers, haccounted, hlatest⟩ := h
  rw [← hstate] at hnext hbounded hnumbers haccounted hlatest
  exact ⟨hnext, hbounded, hnumbers, haccounted, fun i _ rs hi => hlatest i _ rs (hruns i _ rs hi)⟩

theorem Numbered.mono (h : Numbered build submitted d)
    (himp : ∀ i ∈ d.state.numbered.map (·.1), ∀ event, submitted i event → submitted' i event) :
    Numbered build submitted' d := by
  refine { h with accounted := fun before i number after heq => ?_, latest := fun i b rs hi => ?_ }
  · obtain ⟨event, hsubmitted, hnone⟩ := h.accounted before i number after heq
    refine ⟨event, himp i ?_ event hsubmitted, hnone⟩
    simp [heq]
  · obtain ⟨event, number, hsubmitted, hlast, hbuilt⟩ := h.latest i b rs hi
    exact ⟨event, number, himp i (List.mem_map_of_mem (f := Prod.fst) (List.mem_of_getLast? hlast))
      event hsubmitted, hlast, hbuilt⟩

theorem numbered_kept : Kept (publicationMachine build) submitted (Numbered build submitted) where
  same _ _ h hstate hruns := h.congr hstate fun i e rs => (hruns i e rs).mp
  start d d' id event effect resources h _ hsubmitted hprepare hruns := by
    obtain ⟨hnext, hbounded, hnumbers, haccounted, -⟩ := h
    rcases publication_prepare build d.state id event with
      ⟨e, hwhy, heq⟩ | ⟨built, hbuilt, hroom, heq⟩
    · obtain ⟨hstate, heffect⟩ := Prod.mk.inj (heq.symm.trans hprepare)
      rw [hnext] at hwhy
      have hnone : (d.state.numbered ++ [(id, (none : Option Nat))]).filterMap (·.2)
          = d.state.numbered.filterMap (·.2) := List.filterMap_append.trans (List.append_nil _)
      refine ⟨?_, hstate ▸ hbounded, ?_,
        hstate ▸ haccounted.concat hsubmitted (iff_of_true rfl hwhy), fun i built rs hi => ?_⟩
      · rw [← hstate, hnone, ← hnext]
      · rw [← hstate, hnone, ← hnumbers]
      · obtain ⟨-, hsame, -⟩ := (hruns i _ rs).mp hi
        rw [← hsame] at heffect
        cases heffect
    · obtain ⟨hstate, heffect⟩ := Prod.mk.inj (heq.symm.trans hprepare)
      have hsome : (d.state.numbered ++ [(id, some d.state.sequence.next)]).filterMap (·.2)
          = d.state.numbered.filterMap (·.2) ++ [d.state.sequence.next] := List.filterMap_append
      rw [hnext] at hbuilt hroom
      refine ⟨?_, ?_, ?_, ?_, fun i built' rs hi => ?_⟩
      · rw [← hstate, hsome, List.length_append, hnext]
        rfl
      · rw [← hstate, hnext]
        exact hroom
      · rw [← hstate, hsome, hnumbers, Nat.add_sub_cancel, hnext, Nat.add_sub_cancel,
          List.range'_1_concat, Nat.add_comm 1]
      · rw [← hstate]
        exact haccounted.concat hsubmitted (iff_of_false (Option.some_ne_none _) fun hfull =>
          absurd (hfull built hbuilt) (not_le.mpr hroom))
      · obtain ⟨rfl, hsame, -⟩ := (hruns i _ rs).mp hi
        rw [← hsame] at heffect
        cases heffect
        exact ⟨event, _, hsubmitted, hstate ▸ List.getLast?_concat, hnext ▸ hbuilt⟩
  finish d d' id effect resources result h _ hstate hnone := by
    refine h.congr ?_ fun i e rs hi => absurd hi (hnone i e rs)
    rw [hstate]
    cases result <;> rfl

variable (build)
variable (turns : List (ClockedTurn Event (Except AmiEventError Unit)))

/-- The event of the request with this number among the turns. -/
def Submitted (id : OperationId) (event : Event) : Prop :=
  ∃ request reserved, Admitted (publicationMachine build) {} turns id request reserved
    ∧ request.command = event

/-- Moreover, events are numbered in the order of their admission, and delivered one by one. -/
structure Published (o : RuntimeOwner PublicationState Event (Except AmiEventError Unit) Unit
    (PublicationEffect Built)) : Prop extends Numbered build (Submitted build turns) o.desk where
  ordered : (o.state.numbered.map (·.1)).Pairwise fun i j => i.val < j.val
  alone : ∀ i j e e' rs rs', o.desk.runs i e rs → o.desk.runs j e' rs' → i = j

/-- A request that is given an id is given its number. -/
theorem each_submitted : Runs.Each (turn (publicationMachine build))
    (fun o t => Allowed (fun d event => d.next + 1 < 2 ^ 64 → Submitted build turns ⟨d.next⟩ event)
      (fun _ _ => True) o t.1) (new {}) turns := by
  refine Runs.each_of_prefix fun before t after heq => ?_
  obtain ⟨t, clock⟩ := t
  cases t with
  | deadline => trivial
  | completion => exact fun _ _ _ => trivial
  | request request =>
    intro hroom
    have hissued := (recorded_ran (publicationMachine build) {} before).issued
    refine ⟨request, _, ⟨before, clock, after, heq, hissued.trans ?_, hroom, rfl⟩, rfl⟩
    change (ran (publicationMachine build) {} before).nextOperation + 1 < 2 ^ 64 at hroom
    omega

/-- Whatever events are published, and whichever deliveries fail, the numbers they get are 1,
    2, 3, ... in the order of their admission, each once, and they are delivered in this
    order. -/
theorem publication_ordered : Published build turns (ran (publicationMachine build) {} turns) := by
  have halways := always_serial
    (fun id event => id.val + 1 < 2 ^ 64 → Submitted build turns id event)
    publication_oneLane numbered_kept (each_submitted build turns) rfl
    ⟨rfl, (by decide : 1 < 2 ^ 64), rfl, fun before _ _ _ heq => ?_, fun _ _ _ h => by cases h.1⟩
    (fun o hserial h => And.intro hserial h)
  · obtain ⟨hserial, hnumbered⟩ := halways.last
    have hissued := (recorded_ran (publicationMachine build) {} turns).issued
    refine ⟨hnumbered.mono fun i hi event hsubmitted => hsubmitted ?_, hserial.ordered,
      fun _ _ _ _ _ _ => hserial.alone⟩
    have hlt : i.val < (ran (publicationMachine build) {} turns).nextOperation :=
      hserial.bounded i hi
    omega
  · cases before <;> cases heq

end Publication

/-! ## Configuration transactions -/

theorem transaction_oneLane : OneLane transactionMachine (·.granted) where
  admitOperation _ _ _ := rfl
  expired _ _ := rfl
  prepare _ _ _ := ⟨rfl, _, rfl⟩
  after _ _ result := by cases result <;> exact ⟨rfl, _, rfl⟩

/-- The assertions of the machine hold, and a transaction is pending while its lease is out. -/
structure Transacting (d : Desk TransactionState ConfigurationOperation Unit Unit Unit) : Prop where
  upheld : d.state.upheld = true
  pending : ∀ i, (∃ operation, d.state.pending = some (i, operation)) ↔ ∃ e rs, d.runs i e rs

theorem transacting_kept : Kept transactionMachine (fun _ _ => True) Transacting where
  same d d' h hstate hruns := by
    refine ⟨hstate ▸ h.upheld, fun i => ?_⟩
    simp only [hstate, h.pending, hruns]
  start d d' id operation effect resources h hidle _ hprepare hruns := by
    have hnone : d.state.pending = none := by
      by_contra hsome
      obtain ⟨⟨i, operation⟩, hi⟩ := Option.ne_none_iff_exists'.mp hsome
      obtain ⟨e, rs, hr⟩ := (h.pending i).mp ⟨operation, hi⟩
      exact hidle i e rs hr
    have hstate : d.state.prepare id operation = d'.state := (Prod.mk.inj hprepare).1
    refine ⟨?_, fun i => ?_⟩
    · rw [← hstate, TransactionState.prepare, h.upheld, hnone]
      rfl
    · simp [← hstate, TransactionState.prepare, hruns, eq_comm]
  finish d d' id effect resources result h hr hstate hnone := by
    have hstate : d'.state = d.state.complete id := by rw [hstate]; cases result <;> rfl
    obtain ⟨operation, hop⟩ := (h.pending id).mpr ⟨effect, resources, hr⟩
    refine ⟨?_, fun i => ?_⟩
    · rw [hstate, TransactionState.complete, h.upheld, hop]
      simp
    · simp [hstate, TransactionState.complete, hnone]

/-- Moreover, leases are granted one at a time, in the order of admission. -/
structure Transacted
    (o : RuntimeOwner TransactionState ConfigurationOperation Unit Unit Unit) : Prop
    extends Transacting o.desk where
  alone : ∀ i j e e' rs rs', o.desk.runs i e rs → o.desk.runs j e' rs' → i = j
  ordered : o.state.granted.Pairwise fun i j => i.val < j.val

/-- Whatever transactions are begun, and however they end, a lease is exclusive. -/
theorem transaction_exclusive (turns : List (ClockedTurn ConfigurationOperation Unit)) :
    Runs.Always (turn transactionMachine) Transacted (new {}) turns :=
  always_serial (fun _ _ => True) transaction_oneLane transacting_kept
    ((Runs.each_true _ _).mono fun o t _ => allowed_any o t.1) rfl
    ⟨rfl, fun i => iff_of_false (by simp [desk, new]) fun h => by cases h.choose_spec.choose_spec.1⟩
    fun o hserial h => ⟨h, fun _ _ _ _ _ _ => hserial.alone, hserial.ordered⟩

end Sccp
