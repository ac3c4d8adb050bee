/-
  Sccp.Runtime.Owner

  The owner of a state machine whose effects run elsewhere
  (`runtime/owner.rs`).  A request reserves a lane for each of its resources
  when it is admitted, waits until it is at the front of all of them, is
  prepared, and keeps its lanes until its last effect has completed.

  The machine itself is a parameter.  A turn of the owner handles one request,
  one completed or failed effect, or the deadlines that have passed, and then
  starts everything that is ready.  The trace beside the tables records what
  the owner has done: the replies it has sent, and which operations it has
  marked ready and prepared.
-/

import Sccp.Types
import Sccp.Lib.Lanes
import Mathlib.Data.List.Sort

namespace Sccp

structure OperationId where
  val : Nat
  deriving DecidableEq

/-- What a transition of the machine asks for. -/
inductive RuntimeStep (Reply Effect : Type) where
  | finished (reply : Reply)
  | effect (effect : Effect)

/-- `RuntimeState`: the transitions of a machine with states `S`. -/
structure RuntimeState (S Command Reply Resource Effect Completion : Type) where
  admitOperation : S → OperationId → Command → S × List Resource
  expired : S → OperationId → S
  prepare : S → OperationId → Command → S × RuntimeStep Reply Effect
  complete : S → OperationId → Completion → S × RuntimeStep Reply Effect
  failed : S → OperationId → S × RuntimeStep Reply Effect

/-- The errors the owner itself answers with. -/
inductive RequestError where
  | expiredBeforeExecution
  | operationIdExhausted
  deriving DecidableEq

structure Request (Command : Type) where
  command : Command
  deadline : Option Instant

def Request.isExpired {Command : Type} (request : Request Command) (now : Instant) : Bool :=
  request.deadline.any fun deadline => deadline ≤ now

structure Waiting (Command Resource : Type) where
  resources : List Resource
  request : Request Command
  ready : Bool

/-- The identity of a spawned worker. -/
structure TaskId where
  val : Nat
  deriving DecidableEq

/-- What the owner has done so far.  A request that gets no operation id is
    refused at once. -/
structure OwnerTrace (Reply Resource : Type) where
  refusals : List RequestError := []
  replies : List (OperationId × Except RequestError Reply) := []
  marked : List OperationId := []
  prepared : List (OperationId × List Resource) := []

structure RuntimeOwner (S Command Reply Resource Effect : Type) where
  state : S
  waiting : Table OperationId (Waiting Command Resource) := ∅
  ready : List OperationId := []
  deadlines : List (Instant × OperationId) := []
  order : Lanes Resource OperationId := ∅
  active : Table OperationId (List Resource) := ∅
  workers : Table TaskId (OperationId × Effect) := ∅
  nextTask : Nat := 0
  nextOperation : Nat := 1
  trace : OwnerTrace Reply Resource := {}

/-- The resources of a list, each at its first occurrence. -/
def retainUnique {R : Type} [DecidableEq R] (seen : List R) : List R → List R
  | [] => []
  | r :: rest =>
    if r ∈ seen then retainUnique seen rest else r :: retainUnique (r :: seen) rest

/-- The order of the deadline set. -/
def deadlineLe (a b : Instant × OperationId) : Prop :=
  a.1 < b.1 ∨ (a.1 = b.1 ∧ a.2.val ≤ b.2.val)

instance (a b : Instant × OperationId) : Decidable (deadlineLe a b) :=
  inferInstanceAs (Decidable (_ ∨ _))

/-- One turn of the owner.  A failed effect has no completion. -/
inductive OwnerTurn (Command Completion : Type) where
  | deadline (now : Instant)
  | request (request : Request Command)
  | completion (task : TaskId) (result : Option Completion)

/-- A turn, and the time at which it looks at each operation. -/
abbrev ClockedTurn (Command Completion : Type) :=
  OwnerTurn Command Completion × (OperationId → Instant)

namespace RuntimeOwner

variable {S Command Reply Resource Effect Completion : Type} [DecidableEq Resource]
variable (machine : RuntimeState S Command Reply Resource Effect Completion)
variable (o : RuntimeOwner S Command Reply Resource Effect)

/-- Send the reply of an operation. -/
def sendReply (id : OperationId) (result : Except RequestError Reply) :
    RuntimeOwner S Command Reply Resource Effect :=
  { o with trace := { o.trace with replies := o.trace.replies ++ [(id, result)] } }

def markReady (id : OperationId) : RuntimeOwner S Command Reply Resource Effect :=
  match o.waiting.get? id with
  | none => o
  | some waiting =>
    if !waiting.ready && waiting.resources.all (fun r => (o.order.lane r).head? = some id) then
      { o with
        waiting := o.waiting.insert id { waiting with ready := true }
        ready := o.ready ++ [id]
        trace := { o.trace with marked := o.trace.marked ++ [id] } }
    else o

/-- Mark each operation of a list ready if it is. -/
def markEach (o : RuntimeOwner S Command Reply Resource Effect) :
    List OperationId → RuntimeOwner S Command Reply Resource Effect
  | [] => o
  | id :: rest => markEach (o.markReady id) rest

def releaseResources (id : OperationId) (resources : List Resource) :
    RuntimeOwner S Command Reply Resource Effect :=
  let (order, candidates) := o.order.releaseAll id resources
  markEach { o with order } candidates

/-- Refuse a waiting operation whose deadline has passed. -/
def expire (id : OperationId) (waiting : Waiting Command Resource) :
    RuntimeOwner S Command Reply Resource Effect :=
  let o := { o with state := machine.expired o.state id, waiting := o.waiting.erase id }
  let o := o.sendReply id (.error .expiredBeforeExecution)
  o.releaseResources id waiting.resources

/-- Handle the deadlines of a sorted list up to `now`. -/
def expireDue (now : Instant) (o : RuntimeOwner S Command Reply Resource Effect) :
    List (Instant × OperationId) → RuntimeOwner S Command Reply Resource Effect
  | [] => { o with deadlines := [] }
  | (deadline, id) :: rest =>
    if now < deadline then { o with deadlines := (deadline, id) :: rest }
    else
      match o.waiting.get? id with
      | none => expireDue now o rest
      | some waiting => expireDue now (o.expire machine id waiting) rest

def expireWaiting (now : Instant) : RuntimeOwner S Command Reply Resource Effect :=
  o.expireDue machine now o.deadlines

def advance (id : OperationId) :
    RuntimeStep Reply Effect → RuntimeOwner S Command Reply Resource Effect
  | .finished reply =>
    match o.active.get? id with
    | none => o
    | some resources =>
      let o := { o with active := o.active.erase id }
      (o.releaseResources id resources).sendReply id (.ok reply)
  | .effect effect =>
    { o with
      workers := o.workers.insert ⟨o.nextTask⟩ (id, effect)
      nextTask := o.nextTask + 1 }

/-- Start an operation that has come to the front of all its lanes. -/
def start (now : Instant) (id : OperationId) (waiting : Waiting Command Resource) :
    RuntimeOwner S Command Reply Resource Effect :=
  let o :=
    match waiting.request.deadline with
    | none => o
    | some deadline => { o with deadlines := without o.deadlines (deadline, id) }
  if waiting.request.isExpired now then o.expire machine id waiting
  else
    let (state, step) := machine.prepare o.state id waiting.request.command
    let o := { o with
      state
      waiting := o.waiting.erase id
      active := o.active.insert id waiting.resources
      trace := { o.trace with prepared := o.trace.prepared ++ [(id, waiting.resources)] } }
    o.advance id step

/-- The loop of `start_ready`, with a bound on its turns; `clock` gives the time
    at which each operation is looked at. -/
def startLoop (clock : OperationId → Instant) : Nat → RuntimeOwner S Command Reply Resource Effect →
      RuntimeOwner S Command Reply Resource Effect
  | 0, o => o
  | fuel + 1, o =>
    match o.ready with
    | [] => o
    | id :: rest =>
      let o := { o with ready := rest }
      match o.waiting.get? id with
      | none => startLoop clock fuel o
      | some waiting => startLoop clock fuel (o.start machine (clock id) id waiting)

/-- Every turn of the loop takes an operation that is ready, and an operation
    becomes ready once, so this many turns empty the queue. -/
def startReady (clock : OperationId → Instant) : RuntimeOwner S Command Reply Resource Effect :=
  startLoop machine clock (o.ready.length + o.nextOperation) o

def admitRequest (request : Request Command) : RuntimeOwner S Command Reply Resource Effect :=
  if o.nextOperation + 1 ≥ 2 ^ 64 then
    { o with trace :=
      { o.trace with refusals := o.trace.refusals ++ [.operationIdExhausted] } }
  else
    let id : OperationId := ⟨o.nextOperation⟩
    let (state, reserved) := machine.admitOperation o.state id request.command
    let resources := retainUnique [] reserved
    let o := { o with
      state
      nextOperation := o.nextOperation + 1
      order := o.order.pushAll id resources
      deadlines :=
        match request.deadline with
        | none => o.deadlines
        | some deadline => o.deadlines.orderedInsert deadlineLe (deadline, id)
      waiting := o.waiting.insert id { resources, request, ready := false } }
    o.markReady id

def completeEffect (task : TaskId) (result : Option Completion) :
    RuntimeOwner S Command Reply Resource Effect :=
  match o.workers.get? task with
  | none => o
  | some (id, _) =>
    let o := { o with workers := o.workers.erase task }
    let (state, step) :=
      match result with
      | some completion => machine.complete o.state id completion
      | none => machine.failed o.state id
    advance { o with state } id step

def processTurn : OwnerTurn Command Completion → RuntimeOwner S Command Reply Resource Effect
  | .deadline now => o.expireWaiting machine now
  | .request request => o.admitRequest machine request
  | .completion task result => o.completeEffect machine task result

/-- A turn, and the start of everything that it made ready. -/
def turn (t : ClockedTurn Command Completion) : RuntimeOwner S Command Reply Resource Effect :=
  (o.processTurn machine t.1).startReady machine t.2

end RuntimeOwner

end Sccp
