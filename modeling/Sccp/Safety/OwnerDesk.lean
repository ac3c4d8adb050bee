/-
  Sccp.Safety.OwnerDesk

  The runtime owner without its lanes.

  A desk knows which operations wait, which run an effect and what has been answered.  Its
  moves are those of a scheduler that starts an operation only when nothing older shares a
  resource with it.  The turns of the owner are sequences of such moves, so whatever the
  moves keep, every run of the owner keeps.
-/

import Mathlib.Logic.Relation
import Sccp.Safety.OwnerRuns

namespace Sccp

/-- What matters of an owner to the machine that it drives. -/
@[ext] structure Desk (S Command Reply Resource Effect : Type) where
  state : S
  next : Nat
  waits : OperationId → Command → List Resource → Prop
  runs : OperationId → Effect → List Resource → Prop
  replied : OperationId → Except RequestError Reply → Prop

namespace Desk

variable {S Command Reply Resource Effect Completion : Type} [DecidableEq Resource]

/-- The operation waits or runs, with these resources. -/
def Live (d : Desk S Command Reply Resource Effect) (id : OperationId)
    (resources : List Resource) : Prop :=
  (∃ command, d.waits id command resources) ∨ ∃ effect, d.runs id effect resources

/-- Whoever shares a resource with the operation waits, and is younger. -/
def First (d : Desk S Command Reply Resource Effect) (id : OperationId)
    (resources : List Resource) : Prop :=
  ∀ j rs, j ≠ id → d.Live j rs → RuntimeOwner.Share resources rs →
    (∀ effect, ¬ d.runs j effect rs) ∧ id.val < j.val

variable (machine : RuntimeState S Command Reply Resource Effect Completion)

/-- What the machine does with the outcome of an effect. -/
def after (s : S) (id : OperationId) : Option Completion → S × RuntimeStep Reply Effect
  | some completion => machine.complete s id completion
  | none => machine.failed s id

structure Admits (command : Command) (d d' : Desk S Command Reply Resource Effect) : Prop where
  state : d'.state = (machine.admitOperation d.state ⟨d.next⟩ command).1
  next : d'.next = d.next + 1
  waits : ∀ i c rs, d'.waits i c rs ↔ d.waits i c rs ∨ i = ⟨d.next⟩ ∧ c = command
    ∧ rs = retainUnique [] (machine.admitOperation d.state ⟨d.next⟩ command).2
  runs : ∀ i e rs, d'.runs i e rs ↔ d.runs i e rs
  replied : ∀ i r, d'.replied i r ↔ d.replied i r

/-- The operation is answered and gone. -/
structure Closes (id : OperationId) (state : S) (reply : Except RequestError Reply)
    (d d' : Desk S Command Reply Resource Effect) : Prop where
  state : d'.state = state
  next : d'.next = d.next
  waits : ∀ i c rs, d'.waits i c rs ↔ i ≠ id ∧ d.waits i c rs
  runs : ∀ i e rs, d'.runs i e rs ↔ i ≠ id ∧ d.runs i e rs
  replied : ∀ i r, d'.replied i r ↔ d.replied i r ∨ i = id ∧ r = reply

/-- The operation runs an effect. -/
structure Starts (id : OperationId) (state : S) (effect : Effect) (resources : List Resource)
    (d d' : Desk S Command Reply Resource Effect) : Prop where
  state : d'.state = state
  next : d'.next = d.next
  waits : ∀ i c rs, d'.waits i c rs ↔ i ≠ id ∧ d.waits i c rs
  runs : ∀ i e rs, d'.runs i e rs ↔ i ≠ id ∧ d.runs i e rs ∨ i = id ∧ e = effect ∧ rs = resources
  replied : ∀ i r, d'.replied i r ↔ d.replied i r

/-- A move of the desk.  Commands are admitted and effects end only as `admits` and `ends`
    allow. -/
inductive Move (admits : Desk S Command Reply Resource Effect → Command → Prop)
    (ends : Effect → Option Completion → Prop) :
    Desk S Command Reply Resource Effect → Desk S Command Reply Resource Effect → Prop
  | accept {d d'} {command : Command} (hadmits : admits d command)
      (h : Admits machine command d d') : Move admits ends d d'
  | expire {d d'} {id : OperationId} {command : Command} {resources : List Resource}
      (hwaits : d.waits id command resources)
      (h : Closes id (machine.expired d.state id) (.error .expiredBeforeExecution) d d') :
      Move admits ends d d'
  | refuse {d d'} {id : OperationId} {command : Command} {resources : List Resource}
      {reply : Reply} (hwaits : d.waits id command resources) (hfirst : d.First id resources)
      (hstep : (machine.prepare d.state id command).2 = .finished reply)
      (h : Closes id (machine.prepare d.state id command).1 (.ok reply) d d') :
      Move admits ends d d'
  | start {d d'} {id : OperationId} {command : Command} {resources : List Resource}
      {effect : Effect} (hwaits : d.waits id command resources) (hfirst : d.First id resources)
      (hstep : (machine.prepare d.state id command).2 = .effect effect)
      (h : Starts id (machine.prepare d.state id command).1 effect resources d d') :
      Move admits ends d d'
  | finish {d d'} {id : OperationId} {effect : Effect} {resources : List Resource}
      {result : Option Completion} {reply : Reply} (hruns : d.runs id effect resources)
      (hends : ends effect result) (hstep : (after machine d.state id result).2 = .finished reply)
      (h : Closes id (after machine d.state id result).1 (.ok reply) d d') : Move admits ends d d'
  | resume {d d'} {id : OperationId} {effect effect' : Effect} {resources : List Resource}
      {result : Option Completion} (hruns : d.runs id effect resources)
      (hends : ends effect result) (hstep : (after machine d.state id result).2 = .effect effect')
      (h : Starts id (after machine d.state id result).1 effect' resources d d') :
      Move admits ends d d'

omit [DecidableEq Resource] in
theorem Closes.of_others {d d₁ d' : Desk S Command Reply Resource Effect} {id : OperationId}
    {state : S} {reply : Except RequestError Reply} (h : Closes id state reply d₁ d')
    (hnext : d₁.next = d.next) (hreplied : d₁.replied = d.replied)
    (hwaits : ∀ i c rs, i ≠ id → (d₁.waits i c rs ↔ d.waits i c rs))
    (hruns : ∀ i e rs, i ≠ id → (d₁.runs i e rs ↔ d.runs i e rs)) : Closes id state reply d d' where
  state := h.state
  next := h.next.trans hnext
  waits i c rs := (h.waits i c rs).trans (and_congr_right (hwaits i c rs))
  runs i e rs := (h.runs i e rs).trans (and_congr_right (hruns i e rs))
  replied i r := by rw [h.replied, hreplied]

omit [DecidableEq Resource] in
theorem Starts.of_others {d d₁ d' : Desk S Command Reply Resource Effect} {id : OperationId}
    {state : S} {effect : Effect} {resources : List Resource}
    (h : Starts id state effect resources d₁ d')
    (hnext : d₁.next = d.next) (hreplied : d₁.replied = d.replied)
    (hwaits : ∀ i c rs, i ≠ id → (d₁.waits i c rs ↔ d.waits i c rs))
    (hruns : ∀ i e rs, i ≠ id → (d₁.runs i e rs ↔ d.runs i e rs)) :
    Starts id state effect resources d d' where
  state := h.state
  next := h.next.trans hnext
  waits i c rs := (h.waits i c rs).trans (and_congr_right (hwaits i c rs))
  runs i e rs := (h.runs i e rs).trans (or_congr_left (and_congr_right (hruns i e rs)))
  replied i r := by rw [h.replied, hreplied]

end Desk

namespace RuntimeOwner

open Desk

variable {S Command Reply Resource Effect Completion : Type} [DecidableEq Resource]
variable {o o' p : RuntimeOwner S Command Reply Resource Effect}
variable {id : OperationId} {w : Waiting Command Resource}

omit [DecidableEq Resource] in
/-- The desk of an owner. -/
def desk (o : RuntimeOwner S Command Reply Resource Effect) :
    Desk S Command Reply Resource Effect where
  state := o.state
  next := o.nextOperation
  waits id command resources :=
    ∃ w, o.waiting.get? id = some w ∧ w.request.command = command ∧ w.resources = resources
  runs id effect resources :=
    o.active.get? id = some resources ∧ ∃ task, o.workers.get? task = some (id, effect)
  replied id reply := (id, reply) ∈ o.trace.replies

variable (o)

@[simp] theorem desk_markReady (id : OperationId) : (o.markReady id).desk = o.desk := by
  rcases o.markReady_cases id with ⟨heq, -⟩ | ⟨w, hw, -, -, heq⟩
  · rw [heq]
  rw [heq]
  refine Desk.ext rfl rfl ?_ rfl rfl
  -- only the flag of the operation is new
  funext j command resources
  apply propext
  change (∃ v, (o.waiting.insert id { w with ready := true }).get? j = some v ∧ _) ↔ _
  rw [Table.get?_insert]
  split
  · next hj =>
    subst hj
    constructor
    · rintro ⟨v, hv, hcommand, hresources⟩
      cases hv
      exact ⟨w, hw, hcommand, hresources⟩
    · rintro ⟨v, hv, hcommand, hresources⟩
      cases hw.symm.trans hv
      exact ⟨_, rfl, hcommand, hresources⟩
  · exact Iff.rfl

@[simp] theorem desk_markEach (ids : List OperationId) : (o.markEach ids).desk = o.desk := by
  induction ids generalizing o with
  | nil => rfl
  | cons id rest ih => rw [markEach, ih, desk_markReady]

@[simp] theorem desk_releaseResources (id : OperationId) (resources : List Resource) :
    (o.releaseResources id resources).desk = o.desk := by
  unfold releaseResources
  rw [desk_markEach]
  rfl

variable {o}

omit [DecidableEq Resource] in
theorem desk_sendReply (o : RuntimeOwner S Command Reply Resource Effect) (id : OperationId)
    (reply : Except RequestError Reply) : (o.sendReply id reply).desk
      = { o.desk with replied := fun i r => o.desk.replied i r ∨ i = id ∧ r = reply } := by
  refine Desk.ext rfl rfl rfl rfl ?_
  funext i r
  change ((i, r) ∈ o.trace.replies ++ [(id, reply)]) = _
  rw [List.mem_append, List.mem_singleton, Prod.mk.injEq]
  rfl

variable (machine : RuntimeState S Command Reply Resource Effect Completion)

/-- A waiting operation that expires closes. -/
theorem closes_expire (hactive : o.active.get? id = none) :
    Closes id (machine.expired o.state id) (.error .expiredBeforeExecution) o.desk
      (o.expire machine id w).desk := by
  unfold expire
  dsimp only
  rw [desk_releaseResources]
  refine ⟨rfl, rfl, fun i c rs => ?_, fun i e rs => ?_, fun i r => ?_⟩
  · change (∃ v, (o.waiting.erase id).get? i = some v ∧ _) ↔ _
    rw [Table.get?_erase]
    split
    · next hi => simp [hi]
    · next hi => exact (and_iff_right hi).symm
  · refine ⟨fun h => ⟨?_, h⟩, fun h => h.2⟩
    rintro rfl
    cases hactive.symm.trans h.1
  · change (i, r) ∈ o.trace.replies ++ [(id, .error .expiredBeforeExecution)] ↔ _
    rw [List.mem_append, List.mem_singleton, Prod.mk.injEq]
    exact Iff.rfl

/-- The desk after an operation that is active without a worker has been advanced. -/
theorem closes_advance {resources : List Resource} {reply : Reply} (hstaffed : Staffed (some id) o)
    (hwaiting : o.waiting.get? id = none) (hactive : o.active.get? id = some resources) :
    Closes id o.state (.ok reply) o.desk (o.advance id (.finished reply)).desk := by
  have heq : (o.advance id (.finished reply)).desk
      = (sendReply { o with active := o.active.erase id } id (.ok reply)).desk := by
    simp only [advance, hactive]
    rw [desk_sendReply, desk_sendReply, desk_releaseResources]
  rw [heq]
  refine ⟨rfl, rfl, fun i c rs => ?_, fun i e rs => ?_, fun i r => ?_⟩
  · refine ⟨fun h => ⟨?_, h⟩, fun h => h.2⟩
    rintro rfl
    obtain ⟨v, hv, -⟩ := h
    cases hwaiting.symm.trans hv
  · change ((o.active.erase id).get? i = some rs ∧ _) ↔ _
    rw [Table.get?_erase]
    split
    · next hi => simp [hi]
    · next hi => exact (and_iff_right hi).symm
  · change (i, r) ∈ o.trace.replies ++ [(id, .ok reply)] ↔ _
    rw [List.mem_append, List.mem_singleton, Prod.mk.injEq]
    exact Iff.rfl

theorem starts_advance {resources : List Resource} (effect : Effect)
    (hstaffed : Staffed (some id) o) (hwaiting : o.waiting.get? id = none)
    (hactive : o.active.get? id = some resources) :
    Starts id o.state effect resources o.desk (o.advance id (.effect effect)).desk := by
  have hnew : o.workers.get? ⟨o.nextTask⟩ = none := by
    by_contra hne
    obtain ⟨x, hx⟩ := Option.ne_none_iff_exists'.mp hne
    exact Nat.lt_irrefl _ (hstaffed.old _ x hx)
  refine ⟨rfl, rfl, fun i c rs => ?_, fun i e rs => ?_, fun i r => Iff.rfl⟩
  · refine ⟨fun h => ⟨?_, h⟩, fun h => h.2⟩
    rintro rfl
    obtain ⟨v, hv, -⟩ := h
    cases hwaiting.symm.trans hv
  change (o.active.get? i = some rs
    ∧ ∃ task, (o.workers.insert ⟨o.nextTask⟩ (id, effect)).get? task = some (i, e)) ↔ _
  constructor
  · rintro ⟨hrs, task, ht⟩
    rw [Table.get?_insert] at ht
    split at ht
    · cases ht
      cases hactive.symm.trans hrs
      exact .inr ⟨rfl, rfl, rfl⟩
    · refine .inl ⟨?_, hrs, task, ht⟩
      rintro rfl
      exact (hstaffed.worker task i e ht).2 rfl
  · rintro (⟨-, hrs, task, ht⟩ | ⟨rfl, rfl, rfl⟩)
    · refine ⟨hrs, task, ?_⟩
      rw [Table.get?_insert, if_neg]
      · exact ht
      · rintro rfl
        cases hnew.symm.trans ht
    · exact ⟨hactive, ⟨o.nextTask⟩, (Table.get?_insert ..).trans (if_pos rfl)⟩

/-! ## Turns -/

variable {admits : Desk S Command Reply Resource Effect → Command → Prop}
  {ends : Effect → Option Completion → Prop}

/-- A turn whose request is admitted, or whose effect ends, as the desk allows. -/
def Allowed (admits : Desk S Command Reply Resource Effect → Command → Prop)
    (ends : Effect → Option Completion → Prop)
    (o : RuntimeOwner S Command Reply Resource Effect) : OwnerTurn Command Completion → Prop
  | .request request => admits o.desk request.command
  | .completion task result =>
    ∀ id effect, o.workers.get? task = some (id, effect) → ends effect result
  | .deadline _ => True

omit [DecidableEq Resource] in
theorem allowed_any (o : RuntimeOwner S Command Reply Resource Effect)
    (t : OwnerTurn Command Completion) : Allowed (fun _ _ => True) (fun _ _ => True) o t := by
  cases t with
  | deadline | request => trivial
  | completion => exact fun _ _ _ => trivial

/-- Whoever is ready comes first among those that share a resource with it. -/
theorem first_of_ready (h : Good none o) {id : OperationId} {w : Waiting Command Resource}
    (hw : o.waiting.get? id = some w) (hready : w.ready = true) : o.desk.First id w.resources := by
  have hfront := h.lined.readyFront id w hw hready
  intro j rs hne hlive hshare
  refine ⟨fun effect hruns => ?_, ?_⟩
  · -- two operations cannot both be at the front of a lane
    obtain ⟨r, hr, hr'⟩ := hshare
    have hhead := h.lined.front j rs hruns.1 r hr'
    exact hne (Option.some.inj (hhead.symm.trans (hfront r hr)))
  rcases hlive with ⟨command, v, hv, -, rfl⟩ | ⟨effect, hactive, -⟩
  · exact h.lined.ahead hfront hv hne hshare
  · obtain ⟨r, hr, hr'⟩ := hshare
    have hhead := h.lined.front j rs hactive r hr'
    exact absurd (Option.some.inj (hhead.symm.trans (hfront r hr))) hne

theorem move_admitRequest (h : Good none o) (request : Request Command)
    (hadmits : admits o.desk request.command) :
    Relation.ReflTransGen (Desk.Move machine admits ends) o.desk
      (o.admitRequest machine request).desk := by
  unfold admitRequest
  split
  · exact .refl
  dsimp only
  rw [desk_markReady]
  refine .single (.accept hadmits ⟨rfl, rfl, fun i c rs => ?_, fun i e rs => Iff.rfl,
    fun i r => Iff.rfl⟩)
  have hfresh : o.waiting.get? ⟨o.nextOperation⟩ = none := by
    by_contra hne
    obtain ⟨w, hw⟩ := Option.ne_none_iff_exists'.mp hne
    exact Nat.lt_irrefl _ (h.lined.old _ w hw)
  change (∃ w, (o.waiting.insert ⟨o.nextOperation⟩ _).get? i = some w ∧ _) ↔ _
  rw [Table.get?_insert]
  split
  · next hi =>
    subst hi
    constructor
    · rintro ⟨w, hw, rfl, rfl⟩
      cases hw
      exact .inr ⟨rfl, rfl, rfl⟩
    · rintro (⟨w, hw, -⟩ | ⟨-, rfl, rfl⟩)
      · cases hfresh.symm.trans hw
      · exact ⟨_, rfl, rfl, rfl⟩
  · next hi => exact ⟨.inl, fun hor => hor.resolve_right fun heq => hi heq.1⟩

theorem moves_expireDue (now : Instant) (h : Good none o) (due : List (Instant × OperationId)) :
    Relation.ReflTransGen (Desk.Move machine admits ends) o.desk
      (o.expireDue machine now due).desk := by
  induction due generalizing o with
  | nil => exact .refl
  | cons d rest ih =>
    obtain ⟨deadline, id⟩ := d
    unfold expireDue
    split
    · exact .refl
    split
    · exact ih h
    next w hw =>
    have hpopped : o.Popped id o :=
      ⟨rfl, rfl, rfl, rfl, rfl, rfl, rfl, .refl _, fun _ _ => Iff.rfl⟩
    exact .head (.expire ⟨w, hw, rfl, rfl⟩ (closes_expire machine (h.lined.apart id w hw)))
      (ih (good_expire machine h hpopped hw).1)

theorem moves_completeEffect (h : Good none o) (task : TaskId) (result : Option Completion)
    (hends : ∀ id effect, o.workers.get? task = some (id, effect) → ends effect result) :
    Relation.ReflTransGen (Desk.Move machine admits ends) o.desk
      (o.completeEffect machine task result).desk := by
  unfold completeEffect
  split
  · exact .refl
  next id effect htask =>
  obtain ⟨⟨resources, hactive⟩, -⟩ := h.staffed.worker task id effect htask
  have hwaiting : o.waiting.get? id = none := by
    by_contra hne
    obtain ⟨w, hw⟩ := Option.ne_none_iff_exists'.mp hne
    cases (h.lined.apart id w hw).symm.trans hactive
  -- the other operations keep their workers
  have hruns : ∀ (state : S) i e rs, i ≠ id →
      ((desk { o with state, workers := o.workers.erase task }).runs i e rs
        ↔ o.desk.runs i e rs) := by
    intro state i e rs hne
    refine and_congr_right fun _ => exists_congr fun t => ?_
    change (o.workers.erase task).get? t = _ ↔ _
    rw [Table.get?_erase]
    split
    · next ht =>
      subst ht
      rw [htask]
      exact ⟨nofun, fun heq => absurd (Prod.mk.inj (Option.some.inj heq)).1.symm hne⟩
    · exact Iff.rfl
  have hstaffed := staffed_completed h.staffed htask (after machine o.state id result).1
  change Relation.ReflTransGen _ _ (desk (advance { o with
    state := (after machine o.state id result).1, workers := o.workers.erase task } id
    (after machine o.state id result).2))
  cases hstep : (after machine o.state id result).2 with
  | finished reply =>
    exact .single (.finish ⟨hactive, task, htask⟩ (hends id effect htask) hstep
      ((closes_advance hstaffed hwaiting hactive).of_others rfl rfl (fun _ _ _ _ => Iff.rfl)
        (hruns _)))
  | effect effect' =>
    exact .single (.resume ⟨hactive, task, htask⟩ (hends id effect htask) hstep
      ((starts_advance effect' hstaffed hwaiting hactive).of_others rfl rfl
        (fun _ _ _ _ => Iff.rfl) (hruns _)))

theorem move_start (now : Instant) (h : Good none o) {rest : List OperationId}
    (hready : o.ready = id :: rest) (hw : o.waiting.get? id = some w) :
    Desk.Move machine admits ends o.desk (start machine { o with ready := rest } now id
      w).desk := by
  have hmem : id ∈ o.ready := by
    rw [hready]
    exact List.mem_cons_self
  have hfirst := first_of_ready h hw ((h.lined.queued id w hw).mpr hmem)
  have hactive := h.lined.apart id w hw
  -- dropping the deadline does not show on the desk
  obtain ⟨deadlines, heq⟩ : ∃ deadlines, start machine { o with ready := rest } now id w =
      (let p : RuntimeOwner S Command Reply Resource Effect := { o with ready := rest, deadlines }
      if w.request.isExpired now then p.expire machine id w
      else advance { p with
        state := (machine.prepare p.state id w.request.command).1
        waiting := p.waiting.erase id
        active := p.active.insert id w.resources
        trace := { p.trace with prepared := p.trace.prepared ++ [(id, w.resources)] } } id
        (machine.prepare p.state id w.request.command).2) := by
    unfold start
    cases w.request.deadline with
    | none => exact ⟨o.deadlines, rfl⟩
    | some deadline => exact ⟨_, rfl⟩
  rw [heq]
  dsimp only
  split
  · exact .expire ⟨w, hw, rfl, rfl⟩
      (closes_expire machine (o := { o with ready := rest, deadlines }) hactive)
  have hstaffed : Staffed (some id) { o with
      ready := rest, deadlines
      state := (machine.prepare o.state id w.request.command).1
      waiting := o.waiting.erase id
      active := o.active.insert id w.resources
      trace := { o.trace with prepared := o.trace.prepared ++ [(id, w.resources)] } } :=
    staffed_start h.staffed hactive rfl rfl rfl
  have hgone : (o.waiting.erase id).get? id = none := (Table.get?_erase ..).trans (if_pos rfl)
  have hbusy : (o.active.insert id w.resources).get? id = some w.resources :=
    (Table.get?_insert ..).trans (if_pos rfl)
  have hwaits : ∀ i c rs, i ≠ id →
      ((∃ v, (o.waiting.erase id).get? i = some v ∧ v.request.command = c ∧ v.resources = rs)
        ↔ o.desk.waits i c rs) := by
    intro i c rs hne
    rw [Table.get?_erase, if_neg hne]
    exact Iff.rfl
  have hruns : ∀ i e rs, i ≠ id → (((o.active.insert id w.resources).get? i = some rs
        ∧ ∃ task, o.workers.get? task = some (i, e)) ↔ o.desk.runs i e rs) := by
    intro i e rs hne
    rw [Table.get?_insert, if_neg hne]
    exact Iff.rfl
  cases hstep : (machine.prepare o.state id w.request.command).2 with
  | finished reply =>
    exact .refuse ⟨w, hw, rfl, rfl⟩ hfirst hstep
      ((closes_advance hstaffed hgone hbusy).of_others rfl rfl hwaits hruns)
  | effect effect =>
    exact .start ⟨w, hw, rfl, rfl⟩ hfirst hstep
      ((starts_advance effect hstaffed hgone hbusy).of_others rfl rfl hwaits hruns)

theorem moves_startLoop (clock : OperationId → Instant) (fuel : Nat) (h : Good none o) :
    Relation.ReflTransGen (Desk.Move machine admits ends) o.desk
      (startLoop machine clock fuel o).desk := by
  induction fuel generalizing o with
  | zero => exact .refl
  | succ fuel ih =>
    rw [startLoop]
    split
    · exact .refl
    next id rest hready =>
    dsimp only
    split
    · next hw => exact ih (good_skip h hready hw)
    · next w hw =>
      exact .head (move_start machine (clock id) h hready hw)
        (ih (good_start machine (clock id) h hready hw).1)

/-- A turn of the owner is a sequence of moves of its desk. -/
theorem moves_turn (h : Good none o) (t : ClockedTurn Command Completion)
    (hallowed : Allowed admits ends o t.1) :
    Relation.ReflTransGen (Desk.Move machine admits ends) o.desk (o.turn machine t).desk := by
  have hprocess : Relation.ReflTransGen (Desk.Move machine admits ends) o.desk
      (o.processTurn machine t.1).desk := by
    obtain ⟨t, clock⟩ := t
    cases t with
    | deadline now => exact moves_expireDue machine now h _
    | request request => exact move_admitRequest machine h request hallowed
    | completion task result => exact moves_completeEffect machine h task result hallowed
  exact hprocess.trans (moves_startLoop machine t.2 _ (good_processTurn machine h t.1))

/-- Whatever the machine, every run of its owner is a sequence of moves of the desk. -/
theorem moves_run (state : S) (turns : List (ClockedTurn Command Completion)) :
    Relation.ReflTransGen (Desk.Move machine (fun _ _ => True) fun _ _ => True)
      (desk (new state : RuntimeOwner S Command Reply Resource Effect))
      (Runs.run (turn machine) (new state) turns).desk := by
  refine (Runs.run_induction (I := fun o => Good none o ∧ Relation.ReflTransGen
    (Desk.Move machine (fun _ _ => True) fun _ _ => True)
    (desk (new state : RuntimeOwner S Command Reply Resource Effect)) o.desk)
    (fun o t h => ⟨(good_turn machine h.1 t).1, h.2.trans (moves_turn machine h.1 t ?_)⟩)
    ⟨good_new state, .refl⟩ turns).2
  exact allowed_any o t.1

/-- What follows from what every move of the desk keeps holds all along a run whose turns
    are allowed. -/
theorem always_desk {J : Desk S Command Reply Resource Effect → Prop}
    {P : RuntimeOwner S Command Reply Resource Effect → Prop} {state : S}
    (hnew : J (desk (new state : RuntimeOwner S Command Reply Resource Effect)))
    (hmove : ∀ d d', J d → Desk.Move machine admits ends d d' → J d') (hP : ∀ o, J (desk o) → P o)
    {turns : List (ClockedTurn Command Completion)}
    (hturns : Runs.Each (turn machine) (fun o t => Allowed admits ends o t.1) (new state) turns) :
    Runs.Always (turn machine) P (new state) turns := by
  refine Runs.always_of_each (I := fun o => Good none o ∧ J o.desk) (fun o h => hP o h.2) ?_
    ⟨good_new state, hnew⟩ hturns
  intro o t ⟨hgood, hdesk⟩ hallowed
  refine ⟨(good_turn machine hgood t).1, ?_⟩
  have hkept : ∀ d, Relation.ReflTransGen (Desk.Move machine admits ends) o.desk d → J d := by
    intro d hmoves
    induction hmoves with
    | refl => exact hdesk
    | tail _ hstep ih => exact hmove _ _ ih hstep
  exact hkept _ (moves_turn machine hgood t hallowed)

end RuntimeOwner

end Sccp
