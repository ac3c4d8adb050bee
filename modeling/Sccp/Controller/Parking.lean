/-
  Sccp.Controller.Parking

  Parking attempts (`controller/parking.rs`, `operations.rs`).  A handset claims
  a parked slot, the claim is committed to a pending retrieval when its channel
  is made, and PBX events, failures, deadlines and the end of the call settle
  what is pending.  The owner retires the attempts of ended calls after every
  command.
-/

import Sccp.Controller.Events
import Sccp.Call.Parking
import Mathlib.Data.List.Dedup

namespace Sccp

structure PendingPark where
  pbxId : PbxCallId
  deviceId : DeviceId
  requestedLot : Option String
  parkeeUniqueId : Option String
  deadline : Instant

structure PendingRetrieval where
  pbxId : PbxCallId
  deviceId : DeviceId
  lot : String
  slot : Nat
  deadline : Instant

structure PendingParkingNotification where
  deviceId : DeviceId
  callId : CallId
  deadline : Instant

/-- A claim that has not been committed yet. -/
structure ParkingClaim where
  lot : String
  slot : Nat
  deadline : Instant

structure ParkingRuntime where
  registry : ParkingRegistry := {}
  claims : Table CallId ParkingClaim := ∅
  parks : Table CallId PendingPark := ∅
  retrievals : Table CallId PendingRetrieval := ∅
  notifications : Table CallId PendingParkingNotification := ∅
  retiredPeers : List String := []

/-- A prompt with the seconds it is shown for. -/
structure ParkingPrompt where
  deviceId : DeviceId
  callId : CallId
  seconds : Nat
  text : String

structure ParkingUpdate where
  retiredPeers : List String := []
  effects : List DriverEffect := []
  prompts : List ParkingPrompt := []
  close : List (DeviceId × CallId) := []

/-- Add what one settled attempt owes to an update. -/
def ParkingUpdate.append (u v : ParkingUpdate) : ParkingUpdate :=
  { retiredPeers := u.retiredPeers ++ v.retiredPeers, effects := u.effects ++ v.effects
    prompts := u.prompts ++ v.prompts, close := u.close ++ v.close }

def runtimeMailboxCapacity : Nat := 65536

namespace ParkingRuntime

variable (p : ParkingRuntime)

def hasCapacity : Bool :=
  p.claims.size + p.parks.size + p.retrievals.size + p.notifications.size < runtimeMailboxCapacity

def commitClaim (now : Instant) (call : CallId) (lot : String) (slot : Nat) :
    ParkingRuntime × Bool :=
  if (p.claims.get? call).any fun c => c.lot = lot ∧ c.slot = slot ∧ now < c.deadline then
    ({ p with claims := p.claims.erase call }, true)
  else (p, false)

/-- Release the slot in the registry, if the call claims it there. -/
def releaseSlot (lot : String) (slot : Nat) (call : CallId) : ParkingRuntime :=
  { p with registry := (p.registry.releaseClaim lot slot call).1 }

/-- Take a retrieval away together with the claim it was made from. -/
def dropRetrieval (call : CallId) (pending : PendingRetrieval) : ParkingRuntime :=
  { p with retrievals := p.retrievals.erase call }.releaseSlot pending.lot pending.slot call

def scheduleNotification (notification : PendingParkingNotification) : ParkingRuntime :=
  { p with notifications := p.notifications.insert notification.callId notification }

end ParkingRuntime

/-- The controller with its parking attempts. -/
structure ParkingController where
  controller : Controller
  parking : ParkingRuntime := {}

namespace ParkingController

variable (s : ParkingController)

def claimParking (now : Instant) (lot : String) (slot : Nat) (device : DeviceId) (call : CallId)
    (deadline : Instant) : ParkingController × Bool :=
  if !s.parking.hasCapacity || deadline ≤ now then (s, false)
  else
    match s.parking.registry.claim lot slot device call with
    | (_, false) => (s, false)
    | (registry, true) =>
      ({ s with parking :=
          { s.parking with
            registry
            claims := s.parking.claims.insert call { lot, slot, deadline } } }, true)

def releaseParkingClaim (lot : String) (slot : Nat) (call : CallId) : ParkingController × Bool :=
  let (registry, released) := s.parking.registry.releaseClaim lot slot call
  ({ s with parking := { s.parking with registry, claims := s.parking.claims.erase call } },
    released)

def setParkPeer (pbxId : PbxCallId) (uniqueId : String) : ParkingController :=
  match s.parking.parks.find? fun _ attempt => attempt.pbxId = pbxId with
  | none => s
  | some (call, _) =>
    { s with parking :=
        { s.parking with
          parks := s.parking.parks.modify call fun attempt =>
            { attempt with parkeeUniqueId := some uniqueId } } }

/-- Roll a park attempt back and tell the handset why. -/
def failPark (call : CallId) (pending : PendingPark) (text : String) :
    ParkingController × ParkingUpdate :=
  let (controller, effects) := s.controller.parkingFailed call
  ({ controller, parking := { s.parking with parks := s.parking.parks.erase call } },
    { retiredPeers := pending.parkeeUniqueId.toList, effects
      prompts := [⟨pending.deviceId, call, 4, text⟩] })

/-- Roll a retrieval back: its claim is released and its call hung up. -/
def failRetrieval (notificationDeadline : Instant) (call : CallId) (pending : PendingRetrieval) :
    ParkingController × ParkingUpdate :=
  let (controller, effects) := s.controller.parkingRetrievalFailed call
  ({ controller, parking := (s.parking.dropRetrieval call pending).scheduleNotification
      { deviceId := pending.deviceId, callId := call, deadline := notificationDeadline } },
    { effects, prompts := [⟨pending.deviceId, call, 3, "Parked call unavailable"⟩] })

def failParkingOperation (operation : ParkingOperation) (notificationDeadline : Instant) :
    ParkingController × ParkingUpdate :=
  match operation with
  | .park pbxId _ =>
    match s.parking.parks.find? fun _ attempt => attempt.pbxId = pbxId with
    | none => (s, {})
    | some (call, pending) => s.failPark call pending "Unable to park call"
  | .retrieve pbxId _ _ =>
    match s.parking.retrievals.find? fun _ attempt => attempt.pbxId = pbxId with
    | none => (s, {})
    | some (call, pending) => s.failRetrieval notificationDeadline call pending

/-- Whether a pending park is the one an event reports on. -/
def matchesPark (event : ParkingEvent) (attempt : PendingPark) : Bool :=
  match attempt.parkeeUniqueId with
  | some id => id = event.parkeeUniqueId
  | none => attempt.requestedLot.all (· = event.lot)

/-- The earlier of two attempts: by deadline, then by call. -/
def earlierPark (best : Option (CallId × PendingPark)) (entry : CallId × PendingPark) :
    Option (CallId × PendingPark) :=
  match best with
  | none => some entry
  | some b =>
    if entry.2.deadline < b.2.deadline
        ∨ (entry.2.deadline = b.2.deadline ∧ entry.1.val < b.1.val) then some entry
    else some b

def matchingPark (event : ParkingEvent) : Option (CallId × PendingPark) :=
  (s.parking.parks.entries.filter fun e => matchesPark event e.2).foldl earlierPark none

def applyParkingEvent (event : ParkingEvent) (retriever : Option CallId)
    (notificationDeadline : Instant) : ParkingController × ParkingUpdate :=
  let (registry, change) := s.parking.registry.apply event
  let s := { s with parking := { s.parking with registry } }
  match event.kind with
  | .parked | .swap =>
    match s.matchingPark event with
    | none => (s, {})
    | some (call, pending) =>
      let (controller, effects) := s.controller.parkingConfirmed call event.slot
      let parking := { s.parking with parks := s.parking.parks.erase call }
      ({ controller, parking := parking.scheduleNotification
          { deviceId := pending.deviceId, callId := call, deadline := notificationDeadline } },
        { effects })
  | .retrieved =>
    match retriever.or (change.claim.map (·.callId)) with
    | none => (s, {})
    | some call =>
      if s.parking.retrievals.contains call then
        let (controller, effects) := s.controller.parkingRetrieved call
        ({ controller, parking :=
            { s.parking with retrievals := s.parking.retrievals.erase call } }, { effects })
      else (s, {})
  | .failed =>
    match s.matchingPark event with
    | none => (s, {})
    | some (call, pending) => s.failPark call pending "Unable to park call"
  | .timeout | .giveUp => (s, {})

/-- Release the claims that are past their deadline. -/
def expireClaims (p : ParkingRuntime) : List (CallId × ParkingClaim) → ParkingRuntime
  | [] => p
  | (call, claim) :: rest =>
    expireClaims
      ({ p with claims := p.claims.erase call }.releaseSlot claim.lot claim.slot call) rest

def expireParks (s : ParkingController) : List (CallId × PendingPark) →
    ParkingController × ParkingUpdate
  | [] => (s, {})
  | (call, pending) :: rest =>
    let (s, update) := s.failPark call pending "Parking timed out"
    let (s, later) := expireParks s rest
    (s, update.append later)

def expireRetrievals (notificationDeadline : Instant) (s : ParkingController) :
    List (CallId × PendingRetrieval) → ParkingController × ParkingUpdate
  | [] => (s, {})
  | (call, pending) :: rest =>
    let (s, update) := s.failRetrieval notificationDeadline call pending
    let (s, later) := expireRetrievals notificationDeadline s rest
    (s, update.append later)

def expireParkingAttempts (now notificationDeadline : Instant) :
    ParkingController × ParkingUpdate :=
  let drained : ParkingUpdate := { retiredPeers := s.parking.retiredPeers }
  let due := s.parking.claims.entries.filter fun e => e.2.deadline ≤ now
  let s := { s with parking := expireClaims { s.parking with retiredPeers := [] } due }
  let (s, parked) := expireParks s (s.parking.parks.entries.filter fun e => e.2.deadline ≤ now)
  let (s, retrieved) := expireRetrievals notificationDeadline s
    (s.parking.retrievals.entries.filter fun e => e.2.deadline ≤ now)
  let closed := s.parking.notifications.filter fun _ n => n.deadline ≤ now
  ({ s with parking :=
      { s.parking with
        notifications := s.parking.notifications.filter fun _ n => !(n.deadline ≤ now) } },
    ((drained.append parked).append retrieved).append
      { close := closed.values.map fun n => (n.deviceId, n.callId) })

def prepareParking (now : Instant) (callId : CallId) (enabled : Bool) (lot : Option String)
    (deadline : Instant) :
    ParkingController × Option PbxCallId × Except ParkingRejection (List DriverEffect) :=
  if !s.parking.hasCapacity || deadline ≤ now then (s, none, .error .unavailable)
  else
    let pbxId := s.controller.callPbxId callId
    match s.controller.park callId enabled lot with
    | (controller, .error rejection) => ({ s with controller }, pbxId, .error rejection)
    | (controller, .ok effects) =>
      match controller.appearanceForCall callId with
      | none => ({ s with controller }, pbxId, .ok effects)
      | some call =>
        ({ controller, parking :=
            { s.parking with
              parks := s.parking.parks.insert callId
                { pbxId := call.pbxId, deviceId := call.deviceId, requestedLot := lot
                  parkeeUniqueId := none, deadline } } }, pbxId, .ok effects)

def prepareParkingRetrieval (now : Instant) (callId : CallId) (binding : LineBinding)
    (codec : Codec) (lot : String) (slot : Nat) (info : CallInfo) (deadline : Instant) :
    ParkingController × Option PbxCallId × Except ParkingRejection (List DriverEffect) :=
  match s.parking.commitClaim now callId lot slot with
  | (_, false) => (s, none, .error .conflict)
  | (parking, true) =>
    match s.controller.beginParkingRetrieval callId binding codec (some lot) slot info with
    | (controller, .error rejection) =>
      ({ controller, parking := parking.releaseSlot lot slot callId },
        controller.callPbxId callId, .error rejection)
    | (controller, .ok effects) =>
      match controller.callPbxId callId with
      | none => ({ controller, parking }, none, .ok effects)
      | some pbxId =>
        ({ controller, parking :=
            { parking with
              retrievals := parking.retrievals.insert callId
                { pbxId, deviceId := binding.deviceId, lot, slot, deadline } } },
          some pbxId, .ok effects)

/-- Retire the retrievals in a list. -/
def retireRetrievals (p : ParkingRuntime) : List (CallId × PendingRetrieval) → ParkingRuntime
  | [] => p
  | (call, pending) :: rest => retireRetrievals (p.dropRetrieval call pending) rest

/-- Drop the attempts whose handset call is gone. -/
def retireParkingAttempts : ParkingController :=
  let live : CallId → Bool := s.controller.bySccp.contains
  let gone := s.parking.parks.filter fun call _ => !live call
  let parking :=
    { s.parking with
      parks := s.parking.parks.filter fun call _ => live call
      retiredPeers := (s.parking.retiredPeers ++ gone.values.filterMap (·.parkeeUniqueId)).dedup }
  let ended := s.parking.retrievals.entries.filter fun e => !live e.1
  { s with parking := retireRetrievals parking ended }

end ParkingController

/-- The commands of the owner that concern parking; every other one is a plain
    event of the controller. -/
inductive ParkingCommand where
  | control (event : Event)
  | claimParking (now : Instant) (lot : String) (slot : Nat) (device : DeviceId) (call : CallId)
      (deadline : Instant)
  | releaseParkingClaim (lot : String) (slot : Nat) (call : CallId)
  | setParkPeer (pbxId : PbxCallId) (uniqueId : String)
  | failParkingOperation (operation : ParkingOperation) (notificationDeadline : Instant)
  | applyParkingEvent (event : ParkingEvent) (retriever : Option CallId)
      (notificationDeadline : Instant)
  | expireParkingAttempts (now notificationDeadline : Instant)
  | prepareParking (now : Instant) (call : CallId) (enabled : Bool) (lot : Option String)
      (deadline : Instant)
  | prepareParkingRetrieval (now : Instant) (call : CallId) (binding : LineBinding) (codec : Codec)
      (lot : String) (slot : Nat) (info : CallInfo) (deadline : Instant)

namespace ParkingController

/-- The command itself, before the owner publishes. -/
def perform (s : ParkingController) : ParkingCommand → ParkingController
  | .control event => { s with controller := s.controller.handle event }
  | .claimParking now lot slot device call deadline =>
    (s.claimParking now lot slot device call deadline).1
  | .releaseParkingClaim lot slot call => (s.releaseParkingClaim lot slot call).1
  | .setParkPeer pbxId uniqueId => s.setParkPeer pbxId uniqueId
  | .failParkingOperation operation notificationDeadline =>
    (s.failParkingOperation operation notificationDeadline).1
  | .applyParkingEvent event retriever notificationDeadline =>
    (s.applyParkingEvent event retriever notificationDeadline).1
  | .expireParkingAttempts now notificationDeadline =>
    (s.expireParkingAttempts now notificationDeadline).1
  | .prepareParking now call enabled lot deadline =>
    (s.prepareParking now call enabled lot deadline).1
  | .prepareParkingRetrieval now call binding codec lot slot info deadline =>
    (s.prepareParkingRetrieval now call binding codec lot slot info deadline).1

/-- One command of the owner. -/
def execute (s : ParkingController) (command : ParkingCommand) : ParkingController :=
  (s.perform command).retireParkingAttempts

end ParkingController

end Sccp
