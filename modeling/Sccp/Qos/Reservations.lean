/-
  Sccp.Qos.Reservations

  Bounded reservation ownership for service-node messages (`qos.rs`).

  The controller owns live reservations under their id and under their wire key,
  and keeps the keys of retired ones so that they are never used again.  Instants
  are nanoseconds on the monotonic clock, whose readings are below `instantLimit`.
-/

import Sccp.Lib.Table
import Sccp.Qos.Messages

namespace Sccp

/-- Resource and policy bounds applied before a reservation enters live state. -/
structure QosReservationLimits where
  maximumLiveReservations : Nat
  maximumGenerations : Nat
  maximumRetries : UInt32
  maximumRetryTimer : UInt32
  maximumResponseTimeout : Duration

inductive QosReservationSetup where
  | listen (confirmationRequired : Bool)
  | path
  deriving DecidableEq

/-- Shared admission and traffic policy for listen and path setup messages. -/
structure QosReservationPolicy where
  reservationStyle : QosReservationStyle
  maximumRetries : UInt32
  retryTimer : UInt32
  preemptionPriority : UInt32
  defendingPriority : UInt32
  traffic : QosTrafficSpecification
  application : QosApplicationIdentifier

structure QosReservationRequest where
  flow : QosFlow
  direction : QosDirection
  setup : QosReservationSetup
  policy : QosReservationPolicy
  responseTimeout : Duration

/-- Monotonic controller identity for one non-reusable wire generation. -/
structure QosReservationId where
  val : Nat
  pos : 0 < val
  lt : val < 2 ^ 64
  deriving DecidableEq

/-- The id after this one, if there is one. -/
def QosReservationId.succ? (id : QosReservationId) : Option QosReservationId :=
  if h : id.val + 1 < 2 ^ 64 then some ⟨id.val + 1, Nat.succ_pos _, h⟩ else none

inductive QosReservationState where
  | establishing | active | modifying
  deriving DecidableEq

inductive QosReservationEvent where
  | established (id : QosReservationId)
  | activeWithoutConfirmation (id : QosReservationId)
  | establishmentTimedOut (id : QosReservationId)
  | failed (id : QosReservationId) (failure : QosReservationFailure)
  | preempted (id : QosReservationId) (failure : QosReservationFailure)
  | modificationFailed (id : QosReservationId) (failure : QosReservationFailure)
  | modificationOutcomeUnknown (id : QosReservationId)
  | tornDown (id : QosReservationId)
  deriving DecidableEq

/-- Ordered service-node writes and state events produced by one transition. -/
structure QosTransition where
  messages : List ControlMessage := []
  events : List QosReservationEvent := []
  deriving DecidableEq

structure ReservationKey where
  flow : QosFlow
  direction : QosDirection
  deriving DecidableEq

inductive ModificationCorrelation where
  | available
  | pending (deadline : Instant)
  | outcomeUnknown
  | failureReported
  deriving DecidableEq

inductive ReservationPhase where
  | establishing (deadline : Instant)
  | active (correlation : ModificationCorrelation)
  deriving DecidableEq

structure Reservation where
  key : ReservationKey
  phase : ReservationPhase
  deriving DecidableEq

inductive QosReservationError where
  | invalidLimits (reason : String)
  | invalidRequest (reason : String)
  | liveCapacityExhausted
  | generationCapacityExhausted
  | flowIdentityReused
  | unknownReservation (id : QosReservationId)
  | modificationAlreadyIssued (id : QosReservationId)
  | invalidState (id : QosReservationId) (operation : String) (state : QosReservationState)
  deriving DecidableEq

def QosReservationLimits.validate (limits : QosReservationLimits) :
    Except QosReservationError QosReservationLimits :=
  if limits.maximumLiveReservations = 0 then
    .error (.invalidLimits "maximum live reservations must be nonzero")
  else if limits.maximumGenerations < limits.maximumLiveReservations then
    .error (.invalidLimits "generation capacity must cover every live reservation")
  else if limits.maximumRetryTimer = 0 then
    .error (.invalidLimits "maximum retry timer must be nonzero")
  else if limits.maximumResponseTimeout = 0 then
    .error (.invalidLimits "maximum response timeout must be nonzero")
  else
    .ok limits

def setupMessage (request : QosReservationRequest) : ControlMessage :=
  let policy := request.policy
  match request.setup with
  | .listen confirmationRequired =>
    .qosListen request.flow policy.reservationStyle policy.maximumRetries policy.retryTimer
      confirmationRequired policy.preemptionPriority policy.defendingPriority policy.traffic
      policy.application
  | .path =>
    .qosPath request.flow policy.reservationStyle policy.maximumRetries policy.retryTimer
      policy.preemptionPriority policy.defendingPriority policy.traffic policy.application

def validateFlow (flow : QosFlow) : Except QosReservationError Unit :=
  if flow.conferenceId.val = 0 || flow.callReference.val = 0
      || flow.passthroughPartyId.val = 0 then
    .error (.invalidRequest "flow identities must be nonzero")
  else if flow.address.isUnspecified || flow.address.isMulticast || flow.port = 0 then
    .error (.invalidRequest "flow endpoint must be usable unicast")
  else
    .ok ()

def validateApplication (application : QosApplicationIdentifier) :
    Except QosReservationError Unit :=
  [(application.vendorId, 31), (application.version, 15), (application.applicationName, 31),
    (application.subApplicationId, 31)].forM fun (value, maximum) =>
      if maximum < value.utf8ByteSize || value.toList.contains '\x00' then
        .error (.invalidRequest "application identity exceeds its fixed text field")
      else
        .ok ()

/-- First reading, in nanoseconds, that the monotonic clock cannot represent. -/
def instantLimit : Nat := 2 ^ 63 * 10 ^ 9

def deadline (now : Instant) (timeout : Duration) : Except QosReservationError Instant :=
  if now + timeout < instantLimit then
    .ok (now + timeout)
  else
    .error (.invalidRequest "response deadline overflows the monotonic clock")

def teardownMessage (key : ReservationKey) : ControlMessage := .qosTeardown key.flow key.direction

/-- The externally observable phase. -/
def ReservationPhase.state : ReservationPhase → QosReservationState
  | .establishing _ => .establishing
  | .active (.pending _) => .modifying
  | .active _ => .active

def isModifyFailure (error : QosErrorCode) : Bool :=
  error = .reservationModifyFailed || error = .pathModifyFailed

def isPreemption (error : QosErrorCode) : Bool :=
  error = .reservationPreempted || error = .pathPreempted

/-- Owns bounded reservation generations independently of station calls. -/
structure QosReservationController where
  limits : QosReservationLimits
  nextId : Option QosReservationId
  byId : Table QosReservationId Reservation
  byKey : Table ReservationKey QosReservationId
  retired : List ReservationKey

namespace QosReservationController

variable (c : QosReservationController)

def firstId : QosReservationId := ⟨1, by decide, by decide⟩

def new (limits : QosReservationLimits) : Except QosReservationError QosReservationController :=
  match limits.validate with
  | .error e => .error e
  | .ok limits => .ok { limits, nextId := some firstId, byId := ∅, byKey := ∅, retired := [] }

def validateResponseTimeout (timeout : Duration) : Except QosReservationError Unit :=
  if timeout = 0 || c.limits.maximumResponseTimeout < timeout then
    .error (.invalidRequest "response timeout is outside controller policy")
  else
    .ok ()

def validateRequest (request : QosReservationRequest) :
    Except QosReservationError Unit := do
  validateFlow request.flow
  if !request.direction.isKnown then
    throw (.invalidRequest "reservation direction is unknown")
  if !request.policy.reservationStyle.isKnown then
    throw (.invalidRequest "reservation style is unknown")
  if c.limits.maximumRetries < request.policy.maximumRetries then
    throw (.invalidRequest "retry count exceeds controller policy")
  if request.policy.retryTimer = 0 || c.limits.maximumRetryTimer < request.policy.retryTimer then
    throw (.invalidRequest "retry timer is outside controller policy")
  c.validateResponseTimeout request.responseTimeout
  validateApplication request.policy.application

/-- The request's confirmation is awaited unless a listener asks for none. -/
def confirmed (setup : QosReservationSetup) : Bool := setup ≠ .listen false

/-- Reserves a fresh lifetime identity and returns the exact setup message.  An id
    that was allocated before the deadline overflows is not given again. -/
def start (request : QosReservationRequest) (now : Instant) :
    QosReservationController × Except QosReservationError (QosReservationId × QosTransition) :=
  match c.validateRequest request with
  | .error e => (c, .error e)
  | .ok () =>
    if c.limits.maximumLiveReservations ≤ c.byId.size then
      (c, .error .liveCapacityExhausted)
    else if c.limits.maximumGenerations - c.byId.size ≤ c.retired.length then
      (c, .error .generationCapacityExhausted)
    else
      let key : ReservationKey := { flow := request.flow, direction := request.direction }
      if c.byKey.contains key || c.retired.contains key then
        (c, .error .flowIdentityReused)
      else
        match c.nextId with
        | none => (c, .error .generationCapacityExhausted)
        | some id =>
          let c := { c with nextId := id.succ? }
          let message := setupMessage request
          if confirmed request.setup then
            match deadline now request.responseTimeout with
            | .error e => (c, .error e)
            | .ok due =>
              ({ c with
                  byKey := c.byKey.insert key id
                  byId := c.byId.insert id { key, phase := .establishing due } },
                .ok (id, { messages := [message] }))
          else
            ({ c with
                byKey := c.byKey.insert key id
                byId := c.byId.insert id { key, phase := .active .available } },
              .ok (id, { messages := [message], events := [.activeWithoutConfirmation id] }))

def state (id : QosReservationId) : Option QosReservationState :=
  (c.byId.get? id).map (·.phase.state)

/-- Gives one live reservation another phase. -/
def setPhase (id : QosReservationId) (phase : ReservationPhase) : QosReservationController :=
  { c with byId := c.byId.modify id fun reservation => { reservation with phase } }

/-- Sends the sole correlatable modification for an active generation. -/
def modify (c : QosReservationController) (id : QosReservationId)
    (traffic : QosTrafficSpecification) (application : QosApplicationIdentifier)
    (responseTimeout : Duration) (now : Instant) :
    QosReservationController × Except QosReservationError QosTransition :=
  match validateApplication application with
  | .error e => (c, .error e)
  | .ok () =>
    match c.validateResponseTimeout responseTimeout with
    | .error e => (c, .error e)
    | .ok () =>
      match c.byId.get? id with
      | none => (c, .error (.unknownReservation id))
      | some reservation =>
        match reservation.phase with
        | .establishing _ =>
          (c, .error (.invalidState id "modify" reservation.phase.state))
        | .active .available =>
          match deadline now responseTimeout with
          | .error e => (c, .error e)
          | .ok due =>
            (c.setPhase id (.active (.pending due)),
              .ok { messages := [.qosModify reservation.key.flow reservation.key.direction
                traffic application] })
        | .active _ => (c, .error (.modificationAlreadyIssued id))

/-- Builds a six-bit DSCP update for an active generation. -/
def updateDscp (id : QosReservationId) (dscp : UInt8) : Except QosReservationError QosTransition :=
  if 63 < dscp then
    .error (.invalidRequest "DSCP must fit six bits")
  else
    match c.byId.get? id with
    | none => .error (.unknownReservation id)
    | some reservation =>
      if reservation.phase.state ≠ .active then
        .error (.invalidState id "update DSCP" reservation.phase.state)
      else
        .ok { messages := [.updateDscp reservation.key.flow dscp] }

def retire (id : QosReservationId) :
    QosReservationController × Except QosReservationError Reservation :=
  match c.byId.get? id with
  | none => (c, .error (.unknownReservation id))
  | some reservation =>
    ({ c with
        byId := c.byId.erase id
        byKey := c.byKey.erase reservation.key
        retired := c.retired.insert reservation.key }, .ok reservation)

/-- Retires the generation before returning its teardown message. -/
def teardown (id : QosReservationId) :
    QosReservationController × Except QosReservationError QosTransition :=
  match c.retire id with
  | (c, .error e) => (c, .error e)
  | (c, .ok reservation) =>
    (c, .ok { messages := [teardownMessage reservation.key], events := [.tornDown id] })

def handleReservationNotify (key : ReservationKey) : QosReservationController × QosTransition :=
  match c.byKey.get? key with
  | none => (c, {})
  | some id =>
    match c.byId.get? id with
    | none => (c, {})
    | some reservation =>
      match reservation.phase with
      | .establishing _ =>
        (c.setPhase id (.active .available), { events := [.established id] })
      | .active _ => (c, {})

/-- Whether a modification of the reservation awaits its outcome. -/
def correlatesModification (id : QosReservationId) : Bool :=
  match c.byId.get? id with
  | some { phase := .active (.pending _), .. } => true
  | _ => false

def handleError (key : ReservationKey)
    (failure : QosReservationFailure) : QosReservationController × QosTransition :=
  match c.byKey.get? key with
  | none => (c, {})
  | some id =>
    if isModifyFailure failure.errorCode then
      if !c.correlatesModification id then
        (c, {})
      else
        (c.setPhase id (.active .failureReported),
          { events := [.modificationFailed id failure] })
    else
      match c.retire id with
      | (c, .error _) => (c, {})
      | (c, .ok reservation) =>
        if failure.errorCode = .reservationTornDown then
          (c, { events := [.tornDown id] })
        else
          let event : QosReservationEvent :=
            if isPreemption failure.errorCode then .preempted id failure
            else .failed id failure
          (c, { messages := [teardownMessage reservation.key], events := [event] })

/-- Handles only reservation notifications and errors. -/
def handleMessage :
    ControlMessage → QosReservationController × QosTransition
  | .qosReservationNotify flow direction => c.handleReservationNotify { flow, direction }
  | .qosErrorNotify flow direction failure => c.handleError { flow, direction } failure
  | _ => (c, {})

/-- Whether a setup or modification observation has elapsed. -/
def elapsed (now : Instant) : ReservationPhase → Bool
  | .establishing due => due ≤ now
  | .active (.pending due) => due ≤ now
  | .active _ => false

/-- `sort_unstable` on ids, which are distinct. -/
def sortIds (ids : List QosReservationId) : List QosReservationId :=
  ids.mergeSort fun a b => a.val ≤ b.val

/-- One turn of the loop of `poll`. -/
def expire (turn : QosReservationController × QosTransition) (id : QosReservationId) :
    QosReservationController × QosTransition :=
  let (c, transition) := turn
  match c.state id with
  | some .establishing =>
    match c.retire id with
    | (c, .error _) => (c, transition)
    | (c, .ok reservation) =>
      (c, { messages := transition.messages ++ [teardownMessage reservation.key],
            events := transition.events ++ [.establishmentTimedOut id] })
  | some .modifying =>
    (c.setPhase id (.active .outcomeUnknown),
      { transition with events := transition.events ++ [.modificationOutcomeUnknown id] })
  | _ => (c, transition)

/-- Expires every elapsed setup or modification observation in id order. -/
def poll (now : Instant) : QosReservationController × QosTransition :=
  let ids := c.byId.entries.filterMap fun (id, reservation) =>
    if elapsed now reservation.phase then some id else none
  (sortIds ids).foldl expire (c, {})

/-- One turn of the loop of `drain`. -/
def release (turn : QosReservationController × QosTransition) (id : QosReservationId) :
    QosReservationController × QosTransition :=
  let (c, transition) := turn
  match c.retire id with
  | (c, .error _) => (c, transition)
  | (c, .ok reservation) =>
    (c, { messages := transition.messages ++ [teardownMessage reservation.key],
          events := transition.events ++ [.tornDown id] })

/-- Retires all live generations and returns teardowns in id order. -/
def drain (c : QosReservationController) : QosReservationController × QosTransition :=
  (sortIds c.byId.keys).foldl release (c, {})

/-! ## Calls -/

/-- One call of the controller. -/
inductive Operation where
  | start (request : QosReservationRequest) (now : Instant)
  | modify (id : QosReservationId) (traffic : QosTrafficSpecification)
      (application : QosApplicationIdentifier) (responseTimeout : Duration) (now : Instant)
  | updateDscp (id : QosReservationId) (dscp : UInt8)
  | teardown (id : QosReservationId)
  | handleMessage (message : ControlMessage)
  | poll (now : Instant)
  | drain

/-- The controller after a call. -/
def step : Operation → QosReservationController
  | .start request now => (c.start request now).1
  | .modify id traffic application responseTimeout now =>
    (c.modify id traffic application responseTimeout now).1
  | .updateDscp _ _ => c
  | .teardown id => (c.teardown id).1
  | .handleMessage message => (c.handleMessage message).1
  | .poll now => (c.poll now).1
  | .drain => c.drain.1

/-- What a call gives to the transport and the event owner; nothing if it fails. -/
def transition (c : QosReservationController) : Operation → QosTransition
  | .start request now =>
    match (c.start request now).2 with
    | .ok (_, transition) => transition
    | .error _ => {}
  | .modify id traffic application responseTimeout now =>
    match (c.modify id traffic application responseTimeout now).2 with
    | .ok transition => transition
    | .error _ => {}
  | .updateDscp id dscp =>
    match c.updateDscp id dscp with
    | .ok transition => transition
    | .error _ => {}
  | .teardown id =>
    match (c.teardown id).2 with
    | .ok transition => transition
    | .error _ => {}
  | .handleMessage message => (c.handleMessage message).2
  | .poll now => (c.poll now).2
  | .drain => c.drain.2

/-- The id and the wire key of the reservation a call starts. -/
def started : Operation → List (QosReservationId × ReservationKey)
  | .start request now =>
    match (c.start request now).2 with
    | .ok (id, _) => [(id, { flow := request.flow, direction := request.direction })]
    | .error _ => []
  | _ => []

end QosReservationController

/-! ## Sample calls -/

namespace Sample

open QosReservationController

def qosLimits : QosReservationLimits :=
  { maximumLiveReservations := 4, maximumGenerations := 8, maximumRetries := 3,
    maximumRetryTimer := 10, maximumResponseTimeout := 30 * 10 ^ 9 }

def qosController : QosReservationController :=
  { limits := qosLimits, nextId := some firstId, byId := ∅, byKey := ∅, retired := [] }

def qosTraffic : QosTrafficSpecification :=
  { codec := ⟨4⟩, averageBitRate := 64000, burstSize := 1200, peakRate := 128000 }

def qosApplication : QosApplicationIdentifier :=
  { vendorId := "vendor", version := "1", applicationName := "audio",
    subApplicationId := "primary" }

def qosFlow (token : Nat) : QosFlow :=
  { conferenceId := ⟨40⟩, callReference := ⟨41⟩, passthroughPartyId := ⟨token⟩,
    address := ⟨192, 0, 2, 40⟩, port := 16000 }

def qosRequest (token : Nat) (setup : QosReservationSetup) : QosReservationRequest :=
  { flow := qosFlow token, direction := .receive, setup
    policy :=
      { reservationStyle := .fixedFilter, maximumRetries := 3, retryTimer := 4,
        preemptionPriority := 5, defendingPriority := 6, traffic := qosTraffic,
        application := qosApplication }
    responseTimeout := 10 * 10 ^ 9 }

def qosTwoStarts : List Operation :=
  [.start (qosRequest 42 .path) 0, .teardown firstId, .start (qosRequest 43 (.listen false)) 1]

def qosModified : List Operation :=
  [.start (qosRequest 42 .path) 0, .handleMessage (.qosReservationNotify (qosFlow 42) .receive),
    .modify firstId qosTraffic qosApplication (5 * 10 ^ 9) 1, .drain]

end Sample

end Sccp
