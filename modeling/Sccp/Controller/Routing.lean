/-
  Sccp.Controller.Routing

  Shared-line no-answer routing (`controller/records.rs`).  The timers and the
  per-call runtime records live beside the call registry; a due timer claims
  the redirect of its ringing call, the adapter tries the route, and
  `finish_no_answer_route` reports how that went.
-/

import Sccp.Controller.Events
import Sccp.Call.NoAnswer
import Sccp.Lib.Runs

namespace Sccp

/-- The record of a call outside the registry, as far as routing reads it. -/
structure CallRuntimeRecord where
  controllerOwned : Bool := false

/-- The controller with the tables of the no-answer routes. -/
structure Routing where
  controller : Controller
  callRuntime : Table PbxCallId CallRuntimeRecord := ∅
  noAnswerTimers : NoAnswerTimerRegistry := {}

namespace Routing

variable (s : Routing)

variable (pbxId : PbxCallId)

/-- `call_runtime_mut`: the record of a live call is made on demand. -/
def callRuntimeMut : Option Routing :=
  if s.callRuntime.contains pbxId then some s
  else if s.controller.pbx.contains pbxId then
    some { s with callRuntime := s.callRuntime.insert pbxId { controllerOwned := true } }
  else none

def registerForwardedCall : Routing :=
  if s.callRuntime.contains pbxId then s
  else { s with callRuntime := s.callRuntime.insert pbxId {} }

def scheduleNoAnswerTimer (deadline : Instant) (context : ForwardingContext)
    (destination : ForwardingDestination) : Routing × Except ForwardingRejection NoAnswerTimer :=
  match s.callRuntimeMut pbxId with
  | none => (s, .error .conflict)
  | some s =>
    match s.noAnswerTimers.schedule pbxId deadline context destination with
    | .error rejection => (s, .error rejection)
    | .ok (noAnswerTimers, timer) => ({ s with noAnswerTimers }, .ok timer)

/-- Drop the timer of a call if it is the given one. -/
def cancelTimer (timerId : NoAnswerTimerId) : Routing :=
  match s.noAnswerTimers.cancel pbxId timerId with
  | .error _ => s
  | .ok (noAnswerTimers, _) => { s with noAnswerTimers }

/-- Claim the redirect of each call whose timer is due; a timer whose call
    cannot be redirected any more is dropped. -/
def routeEach (s : Routing) : List NoAnswerTimer → Routing × List (NoAnswerTimer × Option String)
  | [] => (s, [])
  | timer :: rest =>
    let line := (s.controller.pbx.get? timer.callId).map (·.line)
    match s.controller.claimRingingForward timer.callId with
    | (_, false) => routeEach (s.cancelTimer timer.callId timer.id) rest
    | (controller, true) =>
      let (s, routes) := routeEach { s with controller } rest
      (s, (timer, line) :: routes)

def claimNoAnswerRoutes (now : Instant) : Routing × List (NoAnswerTimer × Option String) :=
  let (noAnswerTimers, expired) := s.noAnswerTimers.claimExpired now
  routeEach { s with noAnswerTimers } expired

def finishNoAnswerRoute (timerId : NoAnswerTimerId) (succeeded : Bool) :
    Routing × List DriverEffect :=
  if !succeeded then
    let s := { s with controller := (s.controller.rollbackRingingForward pbxId).1 }
    (s.cancelTimer pbxId timerId, [])
  else
    match s.noAnswerTimers.commit pbxId timerId with
    | .error _ => ({ s with controller := (s.controller.rollbackRingingForward pbxId).1 }, [])
    | .ok (noAnswerTimers, _) =>
      let (controller, effects) := s.controller.completeRingingForward pbxId
      ({ s with controller, noAnswerTimers }, effects)

def cancelNoAnswerTimer : Routing × Bool :=
  match s.noAnswerTimers.get pbxId with
  | none => (s, false)
  | some timer =>
    match s.noAnswerTimers.cancelPending pbxId timer.id with
    | .error _ => (s, false)
    | .ok (noAnswerTimers, _) => ({ s with noAnswerTimers }, true)

def clearNoAnswerRoute : Routing :=
  match s.noAnswerTimers.get pbxId with
  | none => s
  | some timer => s.cancelTimer pbxId timer.id

def retireCallRuntime : Routing :=
  clearNoAnswerRoute { s with callRuntime := s.callRuntime.erase pbxId } pbxId

/-- Retire the records of a list of calls. -/
def retireEach (s : Routing) : List PbxCallId → Routing
  | [] => s
  | pbxId :: rest => retireEach (s.retireCallRuntime pbxId) rest

def retireEndedCallRecords : Routing :=
  s.retireEach ((s.callRuntime.filter fun pbxId record =>
    record.controllerOwned && !s.controller.pbx.contains pbxId).keys)

end Routing

/-- One call of the driver, with any arguments.  `touch` stands for the calls
    that reach a runtime record and leave the timers alone. -/
inductive RoutingEvent where
  | control (event : Event)
  | touch (pbxId : PbxCallId)
  | registerForwardedCall (pbxId : PbxCallId)
  | schedule (pbxId : PbxCallId) (deadline : Instant) (context : ForwardingContext)
      (destination : ForwardingDestination)
  | claimRoutes (now : Instant)
  | finishRoute (pbxId : PbxCallId) (timerId : NoAnswerTimerId) (succeeded : Bool)
  | cancelTimer (pbxId : PbxCallId)
  | retireCall (pbxId : PbxCallId)
  | retireEnded

namespace Routing

variable (s : Routing)

/-- The state after an event. -/
def handle : RoutingEvent → Routing
  | .control event => { s with controller := s.controller.handle event }
  | .touch pbxId => (s.callRuntimeMut pbxId).getD s
  | .registerForwardedCall pbxId => s.registerForwardedCall pbxId
  | .schedule pbxId deadline context destination =>
    (s.scheduleNoAnswerTimer pbxId deadline context destination).1
  | .claimRoutes now => (s.claimNoAnswerRoutes now).1
  | .finishRoute pbxId timerId succeeded => (s.finishNoAnswerRoute pbxId timerId succeeded).1
  | .cancelTimer pbxId => (s.cancelNoAnswerTimer pbxId).1
  | .retireCall pbxId => s.retireCallRuntime pbxId
  | .retireEnded => s.retireEndedCallRecords

/-- The timers an event returns as routes to try. -/
def returned : RoutingEvent → List NoAnswerTimerId
  | .claimRoutes now => (s.claimNoAnswerRoutes now).2.map (·.1.id)
  | _ => []

/-- The timer whose forward an event completes. -/
def completed : RoutingEvent → List NoAnswerTimerId
  | .finishRoute pbxId timerId true =>
    match s.noAnswerTimers.commit pbxId timerId with
    | .error _ => []
    | .ok _ => [timerId]
  | _ => []

/-- A controller without calls, records or timers. -/
def init (firstDigit interdigit : Duration) : Routing :=
  { controller := .withDigitTimeouts firstDigit interdigit }

end Routing

end Sccp
