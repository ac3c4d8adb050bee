/-
  Sccp.Safety.OwnerRequests

  The runtime owner as its callers see it.  The turns say which requests have come and which
  effects have come back; the number of a request among the turns is the id of its operation.
  From the turns alone follows what waits, with which resources, what may be prepared or
  refused as late, and when an operation has its reply.
-/

import Mathlib.Data.List.Induction
import Sccp.Safety.OwnerRuns

namespace Sccp

namespace RuntimeOwner

variable {S Command Reply Resource Effect Completion : Type}
variable {o o' p : RuntimeOwner S Command Reply Resource Effect}
variable {id : OperationId} {w : Waiting Command Resource} {resources : List Resource}

/-! ## What is taken from those that wait -/

variable (o) in
/-- An entry of the deadline set belongs to an operation with this deadline. -/
def Due (d : Instant × OperationId) : Prop :=
  d.2.val < o.nextOperation
    ∧ ∀ w, o.waiting.get? d.2 = some w → w.request.deadline = some d.1

/-- What every part of a turn but the admission does.  Operations are taken from those that
    wait; `starts` says which may be prepared, and `expires` which may be refused. -/
structure Goes (starts expires : OperationId → Request Command → Prop)
    (o o' : RuntimeOwner S Command Reply Resource Effect) : Prop where
  next : o'.nextOperation = o.nextOperation
  refusals : o'.trace.refusals = o.trace.refusals
  waiting : ∀ id w, o'.waiting.get? id = some w →
    ∃ v, o.waiting.get? id = some v ∧ v.request = w.request ∧ v.resources = w.resources
  due : (∀ d ∈ o.deadlines, o.Due d) → ∀ d ∈ o'.deadlines, o'.Due d
  active : ∀ id rs, o'.active.get? id = some rs →
    o.active.get? id = some rs ∨ (id, rs) ∈ o'.trace.prepared
  kept : ∀ x ∈ o.trace.prepared, x ∈ o'.trace.prepared
  prepared : ∀ x ∈ o'.trace.prepared, x ∈ o.trace.prepared
    ∨ ∃ w, o.waiting.get? x.1 = some w ∧ w.resources = x.2 ∧ starts x.1 w.request
  replies : ∀ x ∈ o'.trace.replies, x ∈ o.trace.replies
    ∨ (∃ reply, x.2 = .ok reply)
      ∧ ((∃ rs, o.active.get? x.1 = some rs) ∨ x.1 ∈ o'.trace.prepared.map Prod.fst)
    ∨ x.2 = .error .expiredBeforeExecution
      ∧ ∃ w, o.waiting.get? x.1 = some w ∧ expires x.1 w.request
  nextTask : o.nextTask ≤ o'.nextTask
  workers : ∀ task, task.val < o.nextTask → o.workers.get? task = none →
    o'.workers.get? task = none

variable {starts expires : OperationId → Request Command → Prop}

theorem Due.of_waiting {d : Instant × OperationId} (hd : o.Due d)
    (hnext : o'.nextOperation = o.nextOperation) (hwaiting : ∀ id w, o'.waiting.get? id = some w →
      ∃ v, o.waiting.get? id = some v ∧ v.request = w.request ∧ v.resources = w.resources) :
    o'.Due d := by
  refine ⟨by rw [hnext]; exact hd.1, fun w hw => ?_⟩
  obtain ⟨v, hv, hrequest, -⟩ := hwaiting _ w hw
  rw [← hrequest]
  exact hd.2 v hv

/-- An edit of the ready queue, the lanes, the flags or the deadlines. -/
theorem Goes.of_edit (hnext : o'.nextOperation = o.nextOperation)
    (hwaiting : ∀ id w, o'.waiting.get? id = some w →
      ∃ v, o.waiting.get? id = some v ∧ v.request = w.request ∧ v.resources = w.resources)
    (hdeadlines : ∀ d ∈ o'.deadlines, d ∈ o.deadlines ∨ o.Due d) (hactive : o'.active = o.active)
    (hrefusals : o'.trace.refusals = o.trace.refusals)
    (hprepared : o'.trace.prepared = o.trace.prepared)
    (hreplies : o'.trace.replies = o.trace.replies) (htask : o'.nextTask = o.nextTask)
    (hworkers : o'.workers = o.workers) : Goes starts expires o o' where
  next := hnext
  refusals := hrefusals
  waiting := hwaiting
  due hall d hd := ((hdeadlines d hd).elim (hall d) id).of_waiting hnext hwaiting
  active _ _ hx := .inl (hactive ▸ hx)
  kept x hx := by
    rw [hprepared]
    exact hx
  prepared x hx := .inl (hprepared ▸ hx)
  replies x hx := .inl (hreplies ▸ hx)
  nextTask := htask.ge
  workers _ _ hx := by
    rw [hworkers]
    exact hx

variable (o) in
theorem Goes.refl : Goes starts expires o o :=
  .of_edit rfl (fun _ w hw => ⟨w, hw, rfl, rfl⟩) (fun _ hd => .inl hd) rfl rfl rfl rfl rfl rfl

theorem Goes.trans (h : Goes starts expires o p) (h' : Goes starts expires p o') :
    Goes starts expires o o' where
  next := h'.next.trans h.next
  refusals := h'.refusals.trans h.refusals
  waiting id w hw := by
    obtain ⟨v, hv, hrequest, hresources⟩ := h'.waiting id w hw
    obtain ⟨u, hu, hrequest', hresources'⟩ := h.waiting id v hv
    exact ⟨u, hu, hrequest'.trans hrequest, hresources'.trans hresources⟩
  due hall := h'.due (h.due hall)
  active id rs hrs := by
    rcases h'.active id rs hrs with hrs | hmem
    · exact (h.active id rs hrs).imp_right (h'.kept _)
    · exact .inr hmem
  kept x hx := h'.kept x (h.kept x hx)
  prepared x hx := by
    rcases h'.prepared x hx with hx | ⟨w, hw, hresources, hstarts⟩
    · exact h.prepared x hx
    · obtain ⟨v, hv, hrequest, hresources'⟩ := h.waiting _ w hw
      exact .inr ⟨v, hv, hresources'.trans hresources, by rw [hrequest]; exact hstarts⟩
  replies x hx := by
    rcases h'.replies x hx with hx | ⟨hok, hrun⟩ | ⟨herror, w, hw, hexpires⟩
    · rcases h.replies x hx with hx | ⟨hok, hrun⟩ | hexpired
      · exact .inl hx
      · refine .inr (.inl ⟨hok, hrun.imp_right fun hmem => ?_⟩)
        exact List.map_subset _ h'.kept hmem
      · exact .inr (.inr hexpired)
    · refine .inr (.inl ⟨hok, ?_⟩)
      rcases hrun with ⟨rs, hrs⟩ | hmem
      · rcases h.active _ rs hrs with hrs | hmem
        · exact .inl ⟨rs, hrs⟩
        · exact .inr (List.mem_map_of_mem (f := Prod.fst) (h'.kept _ hmem))
      · exact .inr hmem
    · obtain ⟨v, hv, hrequest, -⟩ := h.waiting _ w hw
      exact .inr (.inr ⟨herror, v, hv, by rw [hrequest]; exact hexpires⟩)
  nextTask := h.nextTask.trans h'.nextTask
  workers task hlt hnone :=
    h'.workers task (hlt.trans_le h.nextTask) (h.workers task hlt hnone)

variable [DecidableEq Resource]

variable (o)

theorem goes_markReady (id : OperationId) : Goes starts expires o (o.markReady id) := by
  rcases o.markReady_cases id with ⟨heq, -⟩ | ⟨w, hw, -, -, heq⟩
  · rw [heq]
    exact .refl o
  rw [heq]
  refine .of_edit rfl (fun x v hv => ?_) (fun _ hd => .inl hd) rfl rfl rfl rfl rfl rfl
  rw [Table.get?_insert] at hv
  split at hv
  · next hx =>
    -- only the flag of the operation has changed
    cases hv
    exact ⟨w, hx ▸ hw, rfl, rfl⟩
  · exact ⟨v, hv, rfl, rfl⟩

theorem goes_releaseResources (id : OperationId) (resources : List Resource) :
    Goes starts expires o (o.releaseResources id resources) := by
  have hmarks : ∀ (ids : List OperationId) (q : RuntimeOwner S Command Reply Resource Effect),
      Goes starts expires q (q.markEach ids) := by
    intro ids
    induction ids with
    | nil => exact fun q => .refl q
    | cons x rest ih => exact fun q => (goes_markReady q x).trans (ih _)
  refine Goes.trans ?_ (hmarks _ _)
  exact .of_edit rfl (fun _ w hw => ⟨w, hw, rfl, rfl⟩) (fun _ hd => .inl hd) rfl rfl rfl rfl rfl rfl

omit [DecidableEq Resource] in
/-- Whatever waits after an operation has been erased waited before. -/
theorem waiting_erase (id x : OperationId)
    (v : Waiting Command Resource) (hv : (o.waiting.erase id).get? x = some v) :
    ∃ u, o.waiting.get? x = some u ∧ u.request = v.request ∧ u.resources = v.resources := by
  rw [Table.get?_erase] at hv
  split at hv
  · cases hv
  · exact ⟨v, hv, rfl, rfl⟩

variable {o}

variable (machine : RuntimeState S Command Reply Resource Effect Completion)

theorem goes_expire (hw : o.waiting.get? id = some w) (hexpires : expires id w.request) :
    Goes starts expires o (o.expire machine id w) := by
  refine Goes.trans ?_ (goes_releaseResources _ id w.resources)
  constructor
  case next => rfl
  case refusals => rfl
  case waiting => exact o.waiting_erase id
  case due => exact fun hall d hd => (hall d hd).of_waiting rfl (o.waiting_erase id)
  case active => exact fun _ _ hx => .inl hx
  case kept => exact fun _ hx => hx
  case prepared => exact fun _ hx => .inl hx
  case replies =>
    intro x hx
    rcases List.mem_append.mp hx with hx | hx
    · exact .inl hx
    · cases List.mem_singleton.mp hx
      exact .inr (.inr ⟨rfl, w, hw, hexpires⟩)
  case nextTask => exact Nat.le_refl _
  case workers => exact fun _ _ hx => hx

variable (o) in
theorem goes_advance (id : OperationId)
    (step : RuntimeStep Reply Effect) : Goes starts expires o (o.advance id step) := by
  cases step with
  | effect effect =>
    constructor
    case next => rfl
    case refusals => rfl
    case waiting => exact fun _ w hw => ⟨w, hw, rfl, rfl⟩
    case due => exact fun hall d hd => hall d hd
    case active => exact fun _ _ hx => .inl hx
    case kept => exact fun _ hx => hx
    case prepared => exact fun _ hx => .inl hx
    case replies => exact fun _ hx => .inl hx
    case nextTask => exact Nat.le_succ _
    case workers =>
      intro task hlt hnone
      refine (Table.get?_insert ..).trans ((if_neg ?_).trans hnone)
      rintro rfl
      exact Nat.lt_irrefl _ hlt
  | finished reply =>
    unfold advance
    cases hactive : o.active.get? id with
    | none => exact .refl o
    | some resources =>
    simp only
    -- the reply is sent after the lanes are left, and holds for what ran before
    let q : RuntimeOwner S Command Reply Resource Effect :=
      { o with active := o.active.erase id }
    have hq : ∀ x rs, q.active.get? x = some rs → o.active.get? x = some rs := by
      intro x rs hx
      rw [Table.get?_erase] at hx
      split at hx
      · cases hx
      · exact hx
    have hrel : Goes starts expires q (q.releaseResources id resources) :=
      goes_releaseResources q id resources
    exact { hrel with
      active := fun x rs hx => (hrel.active x rs hx).imp_left (hq x rs)
      replies := by
        intro x hx
        rcases List.mem_append.mp hx with hx | hx
        · refine (hrel.replies x hx).imp_right fun hor => hor.imp_left fun ⟨hok, hrun⟩ => ⟨hok, ?_⟩
          exact hrun.imp_left fun ⟨rs, hrs⟩ => ⟨rs, hq _ rs hrs⟩
        · cases List.mem_singleton.mp hx
          exact .inr (.inl ⟨⟨reply, rfl⟩, .inl ⟨resources, hactive⟩⟩) }

theorem goes_start {now : Instant} (hw : o.waiting.get? id = some w)
    (hstarts : w.request.isExpired now = false → starts id w.request)
    (hexpires : w.request.isExpired now = true → expires id w.request) :
    Goes starts expires o (o.start machine now id w) := by
  -- the entry of the deadline set goes first
  obtain ⟨p, hp, hpw, heq⟩ : ∃ p : RuntimeOwner S Command Reply Resource Effect,
      Goes starts expires o p ∧ p.waiting = o.waiting ∧ start machine o now id w =
        if w.request.isExpired now then p.expire machine id w
        else advance { p with
          state := (machine.prepare p.state id w.request.command).1
          waiting := p.waiting.erase id
          active := p.active.insert id w.resources
          trace := { p.trace with prepared := p.trace.prepared ++ [(id, w.resources)] } } id
          (machine.prepare p.state id w.request.command).2 := by
    unfold start
    cases w.request.deadline with
    | none => exact ⟨o, .refl o, rfl, rfl⟩
    | some deadline =>
      refine ⟨{ o with deadlines := without o.deadlines (deadline, id) }, ?_, rfl, rfl⟩
      refine .of_edit rfl (fun _ v hv => ⟨v, hv, rfl, rfl⟩) (fun d hd => ?_) rfl rfl rfl rfl rfl rfl
      exact .inl (mem_without.mp hd).1
  rw [heq]
  refine hp.trans ?_
  rw [← hpw] at hw
  split
  · next hlate => exact goes_expire machine hw (hexpires hlate)
  next hnot =>
  refine Goes.trans ?_ (goes_advance _ id _)
  constructor
  case next => rfl
  case refusals => rfl
  case waiting => exact p.waiting_erase id
  case due => exact fun hall d hd => (hall d hd).of_waiting rfl (p.waiting_erase id)
  case active =>
    intro x rs hx
    rw [Table.get?_insert] at hx
    split at hx
    · next hxid =>
      cases hx
      exact .inr (List.mem_append_right _ (by rw [hxid]; exact List.mem_singleton_self _))
    · exact .inl hx
  case kept => exact fun _ hx => List.mem_append_left _ hx
  case prepared =>
    intro x hx
    rcases List.mem_append.mp hx with hx | hx
    · exact .inl hx
    · cases List.mem_singleton.mp hx
      exact .inr ⟨w, hw, rfl, hstarts (Bool.not_eq_true _ ▸ hnot)⟩
  case replies => exact fun _ hx => .inl hx
  case nextTask => exact Nat.le_refl _
  case workers => exact fun _ _ hx => hx

theorem goes_startLoop {clock : OperationId → Instant}
    (hstarts : ∀ id r, Request.isExpired r (clock id) = false → starts id r)
    (hexpires : ∀ id r, Request.isExpired r (clock id) = true → expires id r) (fuel : Nat)
    (o : RuntimeOwner S Command Reply Resource Effect) :
    Goes starts expires o (startLoop machine clock fuel o) := by
  induction fuel generalizing o with
  | zero => exact .refl o
  | succ fuel ih =>
    rw [startLoop]
    split
    · exact .refl o
    next id rest hready =>
    have hpop : Goes starts expires o { o with ready := rest } :=
      .of_edit rfl (fun _ v hv => ⟨v, hv, rfl, rfl⟩) (fun _ hd => .inl hd) rfl rfl rfl rfl rfl rfl
    simp only
    split
    · exact hpop.trans (ih _)
    · next w hw =>
      exact (hpop.trans (goes_start machine hw (hstarts id _) (hexpires id _))).trans (ih _)

/-- Only operations whose own deadline has come are refused. -/
theorem goes_expireDue {now : Instant}
    (hexpires : ∀ id r, Request.isExpired r now = true → expires id r)
    (due : List (Instant × OperationId)) (hdue : ∀ d ∈ due, o.Due d) :
    Goes starts expires o (o.expireDue machine now due) := by
  induction due generalizing o with
  | nil =>
    exact .of_edit rfl (fun _ v hv => ⟨v, hv, rfl, rfl⟩) (fun _ hd => (by cases hd)) rfl rfl rfl rfl
      rfl rfl
  | cons d rest ih =>
    obtain ⟨deadline, id⟩ := d
    have hrest : ∀ d ∈ rest, o.Due d := fun d hd => hdue d (List.mem_cons_of_mem _ hd)
    unfold expireDue
    split
    · refine .of_edit rfl (fun _ v hv => ⟨v, hv, rfl, rfl⟩) (fun d hd => .inr (hdue d hd)) rfl rfl
        rfl rfl rfl rfl
    next hle =>
    split
    · exact ih hrest
    next w hw =>
    have hlate : w.request.isExpired now = true := by
      rw [Request.isExpired, (hdue _ (List.mem_cons_self ..)).2 w hw]
      simpa using hle
    have hgoes : Goes starts expires o (o.expire machine id w) :=
      goes_expire machine hw (hexpires id _ hlate)
    refine hgoes.trans (ih fun d hd => ?_)
    exact (hrest d hd).of_waiting hgoes.next hgoes.waiting

/-! ## The turns seen from outside -/

omit [DecidableEq Resource] in
/-- The request of a turn. -/
def requestOf (t : ClockedTurn Command Completion) : Option (Request Command) :=
  match t.1 with
  | .request request => some request
  | _ => none

omit [DecidableEq Resource] in
/-- The requests among the turns, in the order of their arrival. -/
def requests (turns : List (ClockedTurn Command Completion)) :
    List (Request Command) := turns.filterMap requestOf

/-- The owner after these turns. -/
def ran (state : S) (turns : List (ClockedTurn Command Completion)) :
    RuntimeOwner S Command Reply Resource Effect := Runs.run (turn machine) (new state) turns

variable {state : S} {turns : List (ClockedTurn Command Completion)}
variable {t : ClockedTurn Command Completion}
variable {request : Request Command} {reserved : List Resource}

variable (state turns) in
/-- The request with this number among the turns, unless the ids had run out by then.
    `reserved` is what the machine reserves for it on its arrival. -/
def Admitted (id : OperationId) (request : Request Command) (reserved : List Resource) : Prop :=
  ∃ before clock after, turns = before ++ (.request request, clock) :: after
    ∧ id.val = (requests before).length + 1 ∧ id.val + 1 < 2 ^ 64
    ∧ reserved = (machine.admitOperation (ran machine state before).state id request.command).2

variable (state turns) in
/-- An effect was started, and after that it has completed or failed. -/
def Completed (task : TaskId) : Prop :=
  ∃ before result clock after, turns = before ++ (.completion task result, clock) :: after
    ∧ task.val < (ran machine state before).nextTask

omit [DecidableEq Resource] in
/-- The deadline of the request has come: when the turn looks at the operation, or because
    the turn is for the deadlines up to now. -/
def Late (t : ClockedTurn Command Completion) (id : OperationId)
    (request : Request Command) : Prop :=
  request.isExpired (t.2 id) = true ∨ ∃ now, t.1 = .deadline now ∧ request.isExpired now = true

theorem ran_concat (state : S) (turns : List (ClockedTurn Command Completion))
    (t : ClockedTurn Command Completion) :
    ran machine state (turns ++ [t]) = (ran machine state turns).turn machine t := by
  unfold ran
  rw [Runs.run_append]
  rfl

theorem Admitted.later (h : Admitted machine state turns id request reserved)
    (later : List (ClockedTurn Command Completion)) :
    Admitted machine state (turns ++ later) id request reserved := by
  obtain ⟨before, clock, after, rfl, hrest⟩ := h
  refine ⟨before, clock, after ++ later, ?_, hrest⟩
  rw [List.append_assoc, List.cons_append]

theorem Admitted.le_requests (h : Admitted machine state turns id request reserved) :
    1 ≤ id.val ∧ id.val ≤ (requests turns).length ∧ id.val + 1 < 2 ^ 64 := by
  obtain ⟨before, clock, after, rfl, hid, hlt, -⟩ := h
  refine ⟨by omega, ?_, hlt⟩
  have hfirst : requestOf ((OwnerTurn.request request : OwnerTurn Command Completion), clock)
      = some request := rfl
  unfold requests at hid ⊢
  rw [List.filterMap_append, List.length_append, List.filterMap_cons_some hfirst, List.length_cons]
  omega

/-- A request comes with the last turn or has come before. -/
theorem Admitted.of_concat (h : Admitted machine state (turns ++ [t]) id request reserved) :
    Admitted machine state turns id request reserved
      ∨ t.1 = .request request ∧ id.val = (requests turns).length + 1 ∧ id.val + 1 < 2 ^ 64 := by
  obtain ⟨before, clock, after, heq, hid, hlt, hreserved⟩ := h
  rcases List.eq_nil_or_concat after with rfl | ⟨after, u, rfl⟩
  · obtain ⟨rfl, hlast⟩ := List.append_inj' heq rfl
    cases hlast
    exact .inr ⟨rfl, hid, hlt⟩
  · rw [List.concat_eq_append, ← List.cons_append, ← List.append_assoc] at heq
    obtain ⟨rfl, -⟩ := List.append_inj' heq rfl
    exact .inl ⟨before, clock, after, rfl, hid, hlt, hreserved⟩

/-- An effect completes in the last turn or has completed before. -/
theorem Completed.of_concat {task : TaskId} (h : Completed machine state (turns ++ [t]) task) :
    Completed machine state turns task ∨ (∃ result, t.1 = .completion task result)
      ∧ task.val < (ran machine state turns).nextTask := by
  obtain ⟨before, result, clock, after, heq, hlt⟩ := h
  rcases List.eq_nil_or_concat after with rfl | ⟨after, u, rfl⟩
  · obtain ⟨rfl, hlast⟩ := List.append_inj' heq rfl
    cases hlast
    exact .inr ⟨⟨result, rfl⟩, hlt⟩
  · rw [List.concat_eq_append, ← List.cons_append, ← List.append_assoc] at heq
    obtain ⟨rfl, -⟩ := List.append_inj' heq rfl
    exact .inl ⟨before, result, clock, after, rfl, hlt⟩

/-! ## What the owner holds of the turns -/

variable (state turns) in
/-- The tables, the trace and the deadlines of the owner hold what has been requested, and
    no effect that has completed has a worker. -/
structure Recorded (o : RuntimeOwner S Command Reply Resource Effect) : Prop where
  issued : o.nextOperation = min ((requests turns).length + 1) (2 ^ 64 - 1)
  refused : o.trace.refusals.length + o.nextOperation = (requests turns).length + 1
  waits : ∀ id w, o.waiting.get? id = some w → ∃ reserved,
    Admitted machine state turns id w.request reserved ∧ ∀ r, r ∈ w.resources ↔ r ∈ reserved
  due : ∀ d ∈ o.deadlines, o.Due d
  actives : ∀ id rs, o.active.get? id = some rs → (id, rs) ∈ o.trace.prepared
  prepares : ∀ x ∈ o.trace.prepared, ∃ request reserved,
    Admitted machine state turns x.1 request reserved ∧ ∀ r, r ∈ x.2 ↔ r ∈ reserved
  replies : ∀ x ∈ o.trace.replies, x.2 = .error .expiredBeforeExecution
    ∨ (∃ reply, x.2 = .ok reply) ∧ x.1 ∈ o.trace.prepared.map Prod.fst
  completed : ∀ task, Completed machine state turns task →
    task.val < o.nextTask ∧ o.workers.get? task = none

/-- What goes from those that wait keeps the record. -/
theorem Recorded.goes (h : Recorded machine state turns o) (hgoes : Goes starts expires o o') :
    Recorded machine state turns o' where
  issued := hgoes.next.trans h.issued
  refused := by
    rw [hgoes.refusals, hgoes.next]
    exact h.refused
  waits id w hw := by
    obtain ⟨v, hv, hrequest, hresources⟩ := hgoes.waiting id w hw
    rw [← hrequest, ← hresources]
    exact h.waits id v hv
  due := hgoes.due h.due
  actives id rs hrs := (hgoes.active id rs hrs).elim (fun hrs => hgoes.kept _ (h.actives id rs hrs))
    fun hmem => hmem
  prepares x hx := by
    rcases hgoes.prepared x hx with hx | ⟨w, hw, hresources, -⟩
    · exact h.prepares x hx
    · obtain ⟨reserved, hadmitted, hmem⟩ := h.waits _ w hw
      exact ⟨w.request, reserved, hadmitted, hresources ▸ hmem⟩
  replies x hx := by
    rcases hgoes.replies x hx with hx | ⟨hok, hrun⟩ | ⟨herror, -⟩
    · exact (h.replies x hx).imp_right fun ⟨hok, hmem⟩ =>
        ⟨hok, List.map_subset _ hgoes.kept hmem⟩
    · refine .inr ⟨hok, hrun.elim (fun ⟨rs, hrs⟩ => ?_) fun hmem => hmem⟩
      exact List.mem_map_of_mem (f := Prod.fst) (hgoes.kept _ (h.actives _ rs hrs))
    · exact .inl herror
  completed task htask := by
    obtain ⟨hlt, hnone⟩ := h.completed task htask
    exact ⟨hlt.trans_le hgoes.nextTask, hgoes.workers task hlt hnone⟩

/-- A turn that is no request adds nothing but the completion of its effect. -/
theorem Recorded.concat (h : Recorded machine state turns o) (hnone : requestOf t = none)
    (hcompleted : ∀ task, Completed machine state (turns ++ [t]) task →
      task.val < o.nextTask ∧ o.workers.get? task = none) :
    Recorded machine state (turns ++ [t]) o := by
  have hrequests : requests (turns ++ [t]) = requests turns := by
    unfold requests
    rw [List.filterMap_append, List.filterMap_cons_none hnone, List.filterMap_nil, List.append_nil]
  refine { h with
    issued := ?_, refused := ?_, waits := ?_, prepares := ?_, completed := hcompleted }
  · rw [hrequests]
    exact h.issued
  · rw [hrequests]
    exact h.refused
  · intro id w hw
    obtain ⟨reserved, hadmitted, hmem⟩ := h.waits id w hw
    exact ⟨reserved, hadmitted.later machine [t], hmem⟩
  · intro x hx
    obtain ⟨request, reserved, hadmitted, hmem⟩ := h.prepares x hx
    exact ⟨request, reserved, hadmitted.later machine [t], hmem⟩

/-- A request gets the next id, waits with what the machine reserves for it, and its
    deadline is noted. -/
theorem Recorded.admitRequest (h : Recorded machine state turns o)
    (hran : o = ran machine state turns) (request : Request Command)
    (clock : OperationId → Instant) :
    Recorded machine state (turns ++ [(.request request, clock)])
      (o.admitRequest machine request) := by
  have hlength : (requests (turns ++ [(OwnerTurn.request request, clock)])).length
      = (requests turns).length + 1 := by
    unfold requests
    rw [List.filterMap_append, List.length_append]
    rfl
  have hcompleted : ∀ task,
      Completed machine state (turns ++ [(.request request, clock)]) task →
      task.val < o.nextTask ∧ o.workers.get? task = none := by
    intro task htask
    rcases htask.of_concat machine with htask | ⟨⟨result, hturn⟩, -⟩
    · exact h.completed task htask
    · cases hturn
  have hissued := h.issued
  have hrefused := h.refused
  have hlater := fun (x : OperationId) (request' : Request Command) (reserved : List Resource)
    (hx : Admitted machine state turns x request' reserved) =>
      hx.later machine [(.request request, clock)]
  unfold RuntimeOwner.admitRequest
  split
  · next hfull =>
    refine { h with issued := ?_, refused := ?_, waits := ?_, prepares := ?_, completed := ?_ }
    · rw [hlength]
      show o.nextOperation = _
      omega
    · rw [hlength]
      show (o.trace.refusals ++ [_]).length + o.nextOperation = _
      rw [List.length_append, List.length_singleton]
      omega
    · intro id w hw
      obtain ⟨reserved, hadmitted, hmem⟩ := h.waits id w hw
      exact ⟨reserved, hlater _ _ _ hadmitted, hmem⟩
    · intro x hx
      obtain ⟨request', reserved, hadmitted, hmem⟩ := h.prepares x hx
      exact ⟨request', reserved, hlater _ _ _ hadmitted, hmem⟩
    · exact hcompleted
  next hroom =>
  have hid : o.nextOperation = (requests turns).length + 1 := by omega
  let any : OperationId → Request Command → Prop := fun _ _ => True
  refine Recorded.goes machine ?_ (goes_markReady _ _ : Goes any any _ _)
  constructor
  case issued =>
    rw [hlength]
    show o.nextOperation + 1 = _
    omega
  case refused =>
    rw [hlength]
    show o.trace.refusals.length + (o.nextOperation + 1) = _
    omega
  case waits =>
    intro x w hw
    rw [Table.get?_insert] at hw
    split at hw
    · next hx =>
      cases hw
      refine ⟨(machine.admitOperation o.state ⟨o.nextOperation⟩ request.command).2, ?_, fun r => ?_⟩
      · rw [hx]
        exact ⟨turns, clock, [], rfl, hid, Nat.lt_of_not_ge hroom, by rw [hran]⟩
      · exact mem_retainUnique.trans (and_iff_left List.not_mem_nil)
    · obtain ⟨reserved, hadmitted, hmem⟩ := h.waits x w hw
      exact ⟨reserved, hlater _ _ _ hadmitted, hmem⟩
  case due =>
    intro d hd
    have hold : d ∈ o.deadlines ∨ request.deadline = some d.1 ∧ d.2 = ⟨o.nextOperation⟩ := by
      cases hdeadline : request.deadline with
      | none =>
        simp only [hdeadline] at hd
        exact .inl hd
      | some deadline =>
        simp only [hdeadline, List.mem_orderedInsert] at hd
        rcases hd with rfl | hd
        · exact .inr ⟨rfl, rfl⟩
        · exact .inl hd
    rcases hold with hd | ⟨hdeadline, hd⟩
    · obtain ⟨hlt, hwaits⟩ := h.due d hd
      refine ⟨Nat.lt_succ_of_lt hlt, fun w hw => hwaits w ?_⟩
      refine (((Table.get?_insert ..).trans (if_neg ?_)).symm.trans hw)
      intro heq
      rw [heq] at hlt
      exact Nat.lt_irrefl _ hlt
    · refine ⟨by rw [hd]; exact Nat.lt_succ_self _, fun w hw => ?_⟩
      cases ((Table.get?_insert ..).trans (if_pos hd)).symm.trans hw
      exact hdeadline
  case actives => exact h.actives
  case prepares =>
    intro x hx
    obtain ⟨request', reserved, hadmitted, hmem⟩ := h.prepares x hx
    exact ⟨request', reserved, hlater _ _ _ hadmitted, hmem⟩
  case replies => exact h.replies
  case completed => exact hcompleted

/-- Before it starts what is ready, a turn prepares nothing and refuses only what is late. -/
theorem goes_processTurn (hdue : ∀ d ∈ o.deadlines, o.Due d)
    (t : ClockedTurn Command Completion) (hnone : requestOf t = none) :
    Goes (fun _ _ => False) (Late t) o (o.processTurn machine t.1) := by
  obtain ⟨turn, clock⟩ := t
  cases turn with
  | deadline now => exact goes_expireDue machine (fun _ _ hlate => .inr ⟨now, rfl, hlate⟩) _ hdue
  | request request => cases hnone
  | completion task result =>
    show Goes _ _ o (o.completeEffect machine task result)
    unfold completeEffect
    split
    · exact .refl o
    next id effect htask =>
    -- the worker goes, and the machine is told
    have herase : ∀ s : S, Goes (fun _ _ => False) (Late (.completion task result, clock)) o
        { o with state := s, workers := o.workers.erase task } := by
      intro s
      have hsame : Goes (fun _ _ => False) (Late (.completion task result, clock)) o o := .refl o
      refine { hsame with workers := fun x _ hnone => ?_ }
      refine (Table.get?_erase ..).trans ?_
      split
      · rfl
      · exact hnone
    cases result with
    | none => exact (herase _).trans (goes_advance _ id _)
    | some completion => exact (herase _).trans (goes_advance _ id _)

variable (o)

/-- An effect that has completed has no worker any more. -/
theorem completeEffect_done {task : TaskId}
    (result : Option Completion) (hold : task.val < o.nextTask) :
    task.val < (o.completeEffect machine task result).nextTask
      ∧ (o.completeEffect machine task result).workers.get? task = none := by
  unfold completeEffect
  split
  · next hnone => exact ⟨hold, hnone⟩
  next id effect htask =>
  have hgone : ∀ (s : S) (step : RuntimeStep Reply Effect),
      task.val < (advance { o with state := s, workers := o.workers.erase task } id step).nextTask
        ∧ (advance { o with state := s, workers := o.workers.erase task } id step).workers.get? task
          = none := by
    intro s step
    have hgoes : Goes (fun _ _ => False) (fun _ _ => False) _
        (advance { o with state := s, workers := o.workers.erase task } id step) :=
      goes_advance { o with state := s, workers := o.workers.erase task } id step
    refine ⟨hold.trans_le hgoes.nextTask, hgoes.workers task hold ?_⟩
    exact (Table.get?_erase ..).trans (if_pos rfl)
  cases result with
  | none => exact hgone _ _
  | some completion => exact hgone _ _

/-- An admission prepares and refuses nothing. -/
theorem trace_admitRequest (request : Request Command) :
    (o.admitRequest machine request).trace.prepared = o.trace.prepared
      ∧ (o.admitRequest machine request).trace.replies = o.trace.replies := by
  unfold admitRequest markReady
  split
  · exact ⟨rfl, rfl⟩
  simp only
  split
  · exact ⟨rfl, rfl⟩
  · split <;> exact ⟨rfl, rfl⟩

variable {o}

variable (state turns t) in
/-- What a turn does: it prepares only what is not late, refuses only what is, and keeps the
    record of the turns. -/
structure Turned (o o' : RuntimeOwner S Command Reply Resource Effect) : Prop where
  recorded : Recorded machine state (turns ++ [t]) o'
  prepared : ∀ x ∈ o'.trace.prepared, x ∈ o.trace.prepared ∨ ∃ request reserved,
    Admitted machine state (turns ++ [t]) x.1 request reserved
      ∧ request.isExpired (t.2 x.1) = false
  expired : ∀ id, (id, .error .expiredBeforeExecution) ∈ o'.trace.replies →
    (id, .error .expiredBeforeExecution) ∈ o.trace.replies ∨ ∃ request reserved,
      Admitted machine state (turns ++ [t]) id request reserved ∧ Late t id request

theorem turned_processTurn (h : Recorded machine state turns o) (hran : o = ran machine state turns)
    (t : ClockedTurn Command Completion) :
    Turned machine state turns t o (o.processTurn machine t.1) := by
  cases hreq : requestOf t with
  | some request =>
    obtain ⟨turn, clock⟩ := t
    cases turn with
    | deadline now => cases hreq
    | completion task result => cases hreq
    | request request =>
    obtain ⟨hprepared, hreplies⟩ := o.trace_admitRequest machine request
    exact ⟨h.admitRequest machine hran request clock, fun x hx => .inl (hprepared ▸ hx),
      fun id hid => .inl (hreplies ▸ hid)⟩
  | none =>
    have hgoes := goes_processTurn machine h.due t hreq
    have hafter := h.goes machine hgoes
    refine ⟨hafter.concat machine hreq fun task htask => ?_, fun x hx => ?_, fun id hid => ?_⟩
    · rcases htask.of_concat machine with htask | ⟨⟨result, hturn⟩, hlt⟩
      · exact hafter.completed task htask
      · rw [hturn]
        rw [← hran] at hlt
        exact o.completeEffect_done machine result hlt
    · exact .inl ((hgoes.prepared x hx).resolve_right fun ⟨_, _, _, hfalse⟩ => hfalse)
    · rcases hgoes.replies _ hid with hid | ⟨⟨reply, hok⟩, -⟩ | ⟨-, w, hw, hlate⟩
      · exact .inl hid
      · cases hok
      · obtain ⟨reserved, hadmitted, -⟩ := h.waits id w hw
        exact .inr ⟨w.request, reserved, hadmitted.later machine [t], hlate⟩

theorem turned_turn (h : Recorded machine state turns o) (hran : o = ran machine state turns)
    (t : ClockedTurn Command Completion) : Turned machine state turns t o (o.turn machine t) := by
  obtain ⟨hrecorded, hprepared, hexpired⟩ := turned_processTurn machine h hran t
  -- what the start loop prepares or refuses waits after the turn itself
  have hgoes : Goes (fun id request => request.isExpired (t.2 id) = false)
      (fun id request => request.isExpired (t.2 id) = true) (o.processTurn machine t.1)
      (o.turn machine t) :=
    goes_startLoop machine (fun _ _ hnot => hnot) (fun _ _ hlate => hlate) _ _
  refine ⟨hrecorded.goes machine hgoes, fun x hx => ?_, fun id hid => ?_⟩
  · rcases hgoes.prepared x hx with hx | ⟨w, hw, -, hnot⟩
    · exact hprepared x hx
    · obtain ⟨reserved, hadmitted, -⟩ := hrecorded.waits x.1 w hw
      exact .inr ⟨w.request, reserved, hadmitted, hnot⟩
  · rcases hgoes.replies _ hid with hid | ⟨⟨reply, hok⟩, -⟩ | ⟨-, w, hw, hlate⟩
    · exact hexpired id hid
    · cases hok
    · obtain ⟨reserved, hadmitted, -⟩ := hrecorded.waits id w hw
      exact .inr ⟨w.request, reserved, hadmitted, .inl hlate⟩

theorem recorded_ran (state : S) (turns : List (ClockedTurn Command Completion)) :
    Recorded machine state turns (ran machine state turns) := by
  induction turns using List.reverseRecOn with
  | nil =>
    constructor
    case issued => rfl
    case refused => rfl
    case due => exact fun _ hx => (by cases hx)
    case waits => exact fun _ _ hx => (by cases hx)
    case actives => exact fun _ _ hx => (by cases hx)
    case prepares => exact fun _ hx => (by cases hx)
    case replies => exact fun _ hx => (by cases hx)
    case completed =>
      rintro task ⟨before, result, clock, after, heq, -⟩
      exact absurd heq (List.append_ne_nil_of_right_ne_nil _ (List.cons_ne_nil _ _)).symm
  | append_singleton turns t ih =>
    rw [ran_concat]
    exact (turned_turn machine ih rfl t).recorded

variable (state turns) in
/-- What the owner promises after these turns. -/
structure ResourceLanes : Prop where
  /-- Two active operations have no resource in common. -/
  exclusive : ∀ r id id' resources resources',
    (ran machine state turns).active.get? id = some resources →
    (ran machine state turns).active.get? id' = some resources' →
    r ∈ resources → r ∈ resources' → id = id'
  /-- Operations that share a resource are prepared in the order of admission. -/
  ordered : (ran machine state turns).trace.prepared.Pairwise
    fun x y => Share x.2 y.2 → x.1.val < y.1.val
  preparedOnce : ((ran machine state turns).trace.prepared.map Prod.fst).Nodup
  /-- The operations are the requests, by number, on what the machine reserves for them. -/
  waits : ∀ id w, (ran machine state turns).waiting.get? id = some w → ∃ reserved,
    Admitted machine state turns id w.request reserved ∧ ∀ r, r ∈ w.resources ↔ r ∈ reserved
  prepares : ∀ x ∈ (ran machine state turns).trace.prepared, ∃ request reserved,
    Admitted machine state turns x.1 request reserved ∧ ∀ r, r ∈ x.2 ↔ r ∈ reserved
  actives : ∀ id resources, (ran machine state turns).active.get? id = some resources →
    (id, resources) ∈ (ran machine state turns).trace.prepared
  /-- Whatever a turn prepares is not late when the turn looks at it. -/
  unexpired : ∀ before t after, turns = before ++ t :: after →
    ∀ x ∈ (ran machine state (before ++ [t])).trace.prepared,
      x ∉ (ran machine state before).trace.prepared → ∃ request reserved,
        Admitted machine state turns x.1 request reserved ∧ request.isExpired (t.2 x.1) = false
  /-- Whatever a turn refuses is late, and is never prepared. -/
  late : ∀ before t after, turns = before ++ t :: after →
    ∀ id, (id, .error .expiredBeforeExecution) ∈ (ran machine state (before ++ [t])).trace.replies →
      (id, .error .expiredBeforeExecution) ∉ (ran machine state before).trace.replies →
        ∃ request reserved, Admitted machine state turns id request reserved ∧ Late t id request
  expired : ∀ id,
    (id, .error .expiredBeforeExecution) ∈ (ran machine state turns).trace.replies →
      id ∉ (ran machine state turns).trace.prepared.map Prod.fst
  /-- A lane lists who reserved its resource, oldest first. -/
  sorted : ∀ r, ((ran machine state turns).order.lane r).Pairwise fun a b => a.val < b.val
  listed : ∀ r id,
    id ∈ (ran machine state turns).order.lane r ↔ (ran machine state turns).Reserves id r
  /-- Nobody is marked ready twice, and whoever is in front of all its lanes has
      been marked by the time a turn starts what is ready. -/
  markedOnce : (ran machine state turns).trace.marked.Nodup
  woken : ∀ t id w, ((ran machine state turns).processTurn machine t).waiting.get? id = some w →
    ((ran machine state turns).processTurn machine t).AtFront id w.resources →
      ((ran machine state turns).processTurn machine t).trace.marked.count id = 1
        ∧ id ∈ ((ran machine state turns).processTurn machine t).ready
  started : ∀ id w, (ran machine state turns).waiting.get? id = some w →
    ¬ (ran machine state turns).AtFront id w.resources
  /-- Whoever waits, waits for an active operation. -/
  progress : (∃ id w, (ran machine state turns).waiting.get? id = some w) →
    ∃ id resources, (ran machine state turns).active.get? id = some resources
  /-- A request with an id waits or runs until it has its one reply; the others are refused. -/
  fate : ∀ id request reserved, Admitted machine state turns id request reserved →
    ((ran machine state turns).waiting.get? id ≠ none
        ∨ (ran machine state turns).active.get? id ≠ none)
      ∧ ((ran machine state turns).trace.replies.map Prod.fst).count id = 0
    ∨ ((ran machine state turns).trace.replies.map Prod.fst).count id = 1
  refused : (ran machine state turns).trace.refusals.length = (requests turns).length - (2 ^ 64 - 2)
  /-- A reply is the machine's for a prepared operation, or the refusal of a late one. -/
  replied : ∀ x ∈ (ran machine state turns).trace.replies, x.2 = .error .expiredBeforeExecution
    ∨ (∃ reply, x.2 = .ok reply) ∧ x.1 ∈ (ran machine state turns).trace.prepared.map Prod.fst
  /-- When every effect that was started has completed, every request with an id has one
      reply. -/
  answered : (∀ task, task.val < (ran machine state turns).nextTask →
      Completed machine state turns task) →
    ∀ id request reserved, Admitted machine state turns id request reserved →
      ((ran machine state turns).trace.replies.map Prod.fst).count id = 1

theorem Admitted.issued (h : Admitted machine state turns id request reserved) :
    1 ≤ id.val ∧ id.val < (ran machine state turns).nextOperation := by
  obtain ⟨hpos, hle, hlt⟩ := h.le_requests
  refine ⟨hpos, ?_⟩
  rw [(recorded_ran machine state turns).issued]
  omega

/-- The resource lanes hold for every machine and after every sequence of
    requests, completions, failures and deadlines. -/
theorem resource_lanes (state : S) (turns : List (ClockedTurn Command Completion)) :
    ResourceLanes machine state turns := by
  obtain ⟨hgood, hready⟩ : Good none (ran machine state turns)
      ∧ (ran machine state turns).ready = [] := good_run machine state turns
  have hrecorded := recorded_ran machine state turns
  have hl := hgood.lined
  have hb := hgood.booked
  constructor
  case exclusive =>
    intro r id id' rs rs' hid hid' hr hr'
    -- both are the front of the lane of the resource
    have hfront := hl.front id rs hid r hr
    have hfront' := hl.front id' rs' hid' r hr'
    exact Option.mem_unique hfront hfront'
  case ordered => exact hb.ordered
  case preparedOnce => exact hb.preparedOnce
  case waits => exact hrecorded.waits
  case prepares => exact hrecorded.prepares
  case actives => exact hrecorded.actives
  case unexpired =>
    rintro before t after rfl x hx hnew
    rw [ran_concat] at hx
    have hturned := turned_turn machine (recorded_ran machine state before) rfl t
    obtain ⟨request, reserved, hadmitted, hnot⟩ := (hturned.prepared x hx).resolve_left hnew
    rw [List.append_cons]
    exact ⟨request, reserved, hadmitted.later machine after, hnot⟩
  case late =>
    rintro before t after rfl id hid hnew
    rw [ran_concat] at hid
    have hturned := turned_turn machine (recorded_ran machine state before) rfl t
    obtain ⟨request, reserved, hadmitted, hlate⟩ := (hturned.expired id hid).resolve_left hnew
    rw [List.append_cons]
    exact ⟨request, reserved, hadmitted.later machine after, hlate⟩
  case expired => exact hb.expiredUnprepared
  case sorted => exact hl.sorted
  case listed => exact hl.listed
  case markedOnce => exact hl.markedNodup
  case woken =>
    intro t id w hw hfront
    exact (good_processTurn machine hgood t).lined.front_marked hw hfront
  case started =>
    intro id w hw hfront
    have hmem := (hl.front_marked hw hfront).2
    rw [hready] at hmem
    cases hmem
  case progress =>
    rintro ⟨id, w, hw⟩
    exact waiting_active hgood hready hw
  case fate =>
    intro id request reserved hadmitted
    obtain ⟨hpos, hlt⟩ := hadmitted.issued
    by_cases hans : (ran machine state turns).Answered id
    · exact .inr (List.count_eq_one_of_mem hb.once hans)
    · refine .inl ⟨?_, List.count_eq_zero.mpr hans⟩
      exact (hb.covered id hpos hlt).imp_right fun hor => hor.resolve_right hans
  case refused =>
    have hissued := hrecorded.issued
    have hrefused := hrecorded.refused
    omega
  case replied => exact hrecorded.replies
  case answered =>
    intro hall id request reserved hadmitted
    obtain ⟨hpos, hlt⟩ := hadmitted.issued
    refine List.count_eq_one_of_mem hb.once (all_answered hgood hready (fun task => ?_) hpos hlt)
    -- no worker is left, since a worker is an effect that was started
    by_contra hne
    obtain ⟨x, hx⟩ := Option.ne_none_iff_exists'.mp hne
    exact hne (hrecorded.completed task (hall task (hgood.staffed.old task x hx))).2

end RuntimeOwner

end Sccp
