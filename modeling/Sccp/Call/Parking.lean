/-
  Sccp.Call.Parking

  Parked-call state (`call/parking.rs`).  The registry follows the parking
  events of the PBX, slot by slot, and lets one handset call at a time claim a
  parked call for retrieval.
-/

import Sccp.Types
import Sccp.Lib.Table

namespace Sccp

inductive ParkingEventKind where
  | parked
  | timeout
  | giveUp
  | retrieved
  | failed
  | swap
  deriving DecidableEq

structure ParkedCall where
  lot : String
  slot : Nat
  timeoutSeconds : Nat := 0
  durationSeconds : Nat := 0
  parkerDialString : String := ""
  parkeeChannel : String := ""
  parkeeUniqueId : String := ""
  callerName : String := ""
  callerNumber : String := ""
  connectedName : String := ""
  connectedNumber : String := ""

/-- A parking event carries the data of the parked call it is about. -/
structure ParkingEvent extends ParkedCall where
  kind : ParkingEventKind
  retrieverChannel : String := ""

structure RetrievalClaim where
  deviceId : DeviceId
  callId : CallId

structure ParkingChange where
  current : Option ParkedCall := none
  removed : Option ParkedCall := none
  claim : Option RetrievalClaim := none

/-- A slot of a parking lot. -/
abbrev ParkingSlot := String × Nat

structure ParkingRegistry where
  calls : Table ParkingSlot ParkedCall := ∅
  claims : Table ParkingSlot RetrievalClaim := ∅

namespace ParkingRegistry

variable (r : ParkingRegistry)

/-- A slot that empties loses its call and its claim together; slot 0 stands
    for no slot. -/
def apply (event : ParkingEvent) : ParkingRegistry × ParkingChange :=
  let key := (event.lot, event.slot)
  let emptied : ParkingRegistry × ParkingChange :=
    ({ calls := r.calls.erase key, claims := r.claims.erase key },
      { removed := r.calls.get? key, claim := r.claims.get? key })
  let filled : ParkingRegistry × ParkingChange :=
    if event.slot ≠ 0 then
      ({ r with calls := r.calls.insert key event.toParkedCall },
        { current := some event.toParkedCall })
    else (r, {})
  match event.kind with
  | .parked | .swap => filled
  | .timeout | .giveUp | .retrieved => emptied
  | .failed => (r, {})

def claim (lot : String) (slot : Nat) (deviceId : DeviceId) (callId : CallId) :
    ParkingRegistry × Bool :=
  if !r.calls.contains (lot, slot) || r.claims.contains (lot, slot) then (r, false)
  else ({ r with claims := r.claims.insert (lot, slot) { deviceId, callId } }, true)

/-- A claim is released by the call that holds it only. -/
def releaseClaim (lot : String) (slot : Nat) (callId : CallId) : ParkingRegistry × Bool :=
  if (r.claims.get? (lot, slot)).any (·.callId = callId) then
    ({ r with claims := r.claims.erase (lot, slot) }, true)
  else (r, false)

end ParkingRegistry

end Sccp
