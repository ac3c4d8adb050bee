/-
  Sccp.Runtime.MediaOwner

  Media reservations and anchors (`runtime/media_ownership.rs`, with the counts
  of `media/direct.rs`).  A reservation holds calls and conferences exclusively,
  and waits behind earlier ones.  Under it a call is anchored by leases; when
  the last lease of a call is dropped, the owner restores the call's direct
  media on a worker, which holds the call like a reservation.

  A turn of the owner is a command, the completion of a worker, or the
  announcements whose time has come.  The capacity that commands carry in the
  mailbox is left out.
-/

import Sccp.Types
import Sccp.Lib.Table

namespace Sccp

inductive MediaAnchorReason where
  | recording
  | announcement
  deriving DecidableEq

/-! ## Anchor counts and restore plans -/

/-- `MediaAnchorRegistry`. -/
structure MediaAnchorRegistry where
  counts : Table (PbxCallId × MediaAnchorReason) Nat := ∅

namespace MediaAnchorRegistry

variable (g : MediaAnchorRegistry)

def acquire (callId : PbxCallId) (reason : MediaAnchorReason) : MediaAnchorRegistry :=
  { g with counts :=
    g.counts.insert (callId, reason) ((g.counts.get? (callId, reason)).getD 0 + 1) }

def release (callId : PbxCallId) (reason : MediaAnchorReason) : MediaAnchorRegistry × Bool :=
  match g.counts.get? (callId, reason) with
  | none => (g, false)
  | some count =>
    if count - 1 = 0 then ({ g with counts := g.counts.erase (callId, reason) }, true)
    else ({ g with counts := g.counts.insert (callId, reason) (count - 1) }, true)

def isAnchored (callId : PbxCallId) : Bool := g.counts.any fun k _ => k.1 = callId

def isAnchoredForOtherReason (callId : PbxCallId) (excluded : MediaAnchorReason) : Bool :=
  g.counts.any fun k count => k.1 = callId && (k.2 ≠ excluded || 1 < count)

def removeCall (callId : PbxCallId) : MediaAnchorRegistry :=
  { g with counts := g.counts.filter fun k _ => k.1 ≠ callId }

end MediaAnchorRegistry

/-- `MediaAnchorRestores::remember`. -/
def rememberRestore {C : Type} (calls : Table PbxCallId C) (callId : PbxCallId) (call : C) :
    Table PbxCallId C :=
  if calls.contains callId then calls else calls.insert callId call

/-! ## The owner -/

inductive MediaResource where
  | call (id : PbxCallId)
  | conference (id : ConferenceId)
  deriving DecidableEq

structure AnnouncementGeneration where
  val : Nat
  deriving DecidableEq

/-- A lease as its announcement holds it. -/
structure AnchorLease where
  callId : PbxCallId
  reason : MediaAnchorReason
  id : Nat
  deriving DecidableEq

/-- `ActiveConferenceAnnouncement`; `completion` is the deadline of its timer. -/
structure ActiveConferenceAnnouncement where
  generation : AnnouncementGeneration
  completion : Option Instant
  anchors : List AnchorLease

structure OwnedAnchor where
  callId : PbxCallId
  reason : MediaAnchorReason
  deriving DecidableEq

structure AnchorSnapshot (C : Type) where
  count : Nat
  reason : MediaAnchorReason
  restore : Option C

/-- A reservation that waits; `ticket` is its place in the order of arrival. -/
structure Waiter where
  ticket : Nat
  resources : List MediaResource
  wait : Bool

inductive MediaCommand (C : Type) where
  | reserve (resources : List MediaResource) (wait : Bool)
  | releaseReservation (id : Nat)
  | acquireAnchor (reservation : Nat) (callId : PbxCallId) (reason : MediaAnchorReason)
      (restore : Option C)
  | releaseAnchor (id : Nat) (explicit : Bool)
  | removeCall (id : PbxCallId)
  | nextGeneration
  | takeAnnouncement (id : ConferenceId)
  | putAnnouncement (id : ConferenceId) (active : ActiveConferenceAnnouncement)
  | announcementGeneration (id : ConferenceId)
  | announcementIds
  | deferAnnouncement (id : ConferenceId) (generation : AnnouncementGeneration)
      (timer : Instant)

inductive MediaReply where
  | reservation (ticket : Nat) (id : Option Nat)
  | anchor (lease : Option AnchorLease)
  | released
  | removed
  | generation (generation : Option AnnouncementGeneration)
  | announcement (active : Option ActiveConferenceAnnouncement)
  | put
  | ids (ids : List ConferenceId)

inductive MediaWork (C : Type) where
  | restore (id : Nat) (callId : PbxCallId) (plan : C)
  | announcement (id : ConferenceId) (generation : AnnouncementGeneration)

/-- What happens to the anchors of a call. -/
inductive AnchorAction (C : Type) where
  | acquired (id : Nat) (callId : PbxCallId) (restore : Option C)
  | released (id : Nat) (callId : PbxCallId)
  | removed (callId : PbxCallId)
  | restoring (id : Nat) (callId : PbxCallId) (plan : C)

structure MediaTrace (C : Type) where
  arrivals : Nat := 0
  granted : List Nat := []
  replies : List MediaReply := []
  actions : List (AnchorAction C) := []

structure MediaOwner (C : Type) where
  anchored : Table PbxCallId (AnchorSnapshot C) := ∅
  anchors : MediaAnchorRegistry := {}
  restores : Table PbxCallId C := ∅
  leases : Table Nat OwnedAnchor := ∅
  cancelledAnchors : List Nat := []
  announcements : Table ConferenceId ActiveConferenceAnnouncement := ∅
  reserved : List MediaResource := []
  reservations : Table Nat (List MediaResource) := ∅
  waiting : List Waiter := []
  nextId : Nat := 1
  nextGeneration : Nat := 1
  workers : Table Nat (MediaWork C) := ∅
  nextWorker : Nat := 0
  trace : MediaTrace C := {}

/-- A turn; a completed announcement may come with a timer to try again. -/
inductive MediaTurn (C : Type) where
  | command (command : MediaCommand C)
  | completed (worker : Nat) (timer : Option Instant)
  | due (now : Instant)

namespace MediaOwner

variable {C : Type} (o : MediaOwner C)

def reply (r : MediaReply) : MediaOwner C :=
  { o with trace := { o.trace with replies := o.trace.replies ++ [r] } }

def act (a : AnchorAction C) : MediaOwner C :=
  { o with trace := { o.trace with actions := o.trace.actions ++ [a] } }

def publishSnapshot : MediaOwner C :=
  { o with
    anchored := o.leases.values.foldl (fun snapshots anchor =>
        let snapshot := (snapshots.get? anchor.callId).getD
          { count := 0, reason := anchor.reason, restore := o.restores.get? anchor.callId }
        snapshots.insert anchor.callId { snapshot with count := snapshot.count + 1 }) ∅ }

def releaseAnchor (id : Nat) : MediaOwner C :=
  match o.leases.get? id with
  | none => o.publishSnapshot
  | some anchor =>
    let (anchors, released) := o.anchors.release anchor.callId anchor.reason
    let restores :=
      if released && !anchors.isAnchored anchor.callId then o.restores.erase anchor.callId
      else o.restores
    let o := { o with leases := o.leases.erase id, anchors, restores }
    (o.act (.released id anchor.callId)).publishSnapshot

/-- Restore the direct media of a call on a worker. -/
def startRestore (id : Nat) (callId : PbxCallId) (plan : C) : MediaOwner C :=
  let o := { o with
    reserved := o.reserved.insert (.call callId)
    workers := o.workers.insert o.nextWorker (.restore id callId plan)
    nextWorker := o.nextWorker + 1 }
  o.act (.restoring id callId plan)

/-- The loop of `dispatch_cancelled_anchors`. -/
def dispatchEach (o : MediaOwner C) : List Nat → MediaOwner C
  | [] => o
  | id :: rest =>
    match o.leases.get? id with
    | none => dispatchEach o rest
    | some anchor =>
      if MediaResource.call anchor.callId ∈ o.reserved then
        dispatchEach { o with cancelledAnchors := o.cancelledAnchors ++ [id] } rest
      else
        match (o.restores.get? anchor.callId).filter fun _ =>
          !o.anchors.isAnchoredForOtherReason anchor.callId anchor.reason with
        | none => dispatchEach (o.releaseAnchor id) rest
        | some restore => dispatchEach (o.startRestore id anchor.callId restore) rest

def dispatchCancelledAnchors : MediaOwner C :=
  dispatchEach { o with cancelledAnchors := [] } o.cancelledAnchors

def allocateId : Option (Nat × MediaOwner C) :=
  if o.nextId + 1 < 2 ^ 64 then some (o.nextId, { o with nextId := o.nextId + 1 }) else none

/-- A reservation of a conference includes the calls that the announcement there
    has anchored. -/
def withAnnouncements (resources : List MediaResource) : List MediaResource :=
  resources ++ resources.flatMap fun
    | .conference id =>
      match o.announcements.get? id with
      | none => []
      | some active => active.anchors.map fun anchor => .call anchor.callId
    | .call _ => []

/-- `process` of a `Reserve` command, when it arrives and when it has waited. -/
def reserve (waiter : Waiter) : MediaOwner C :=
  let resources := o.withAnnouncements waiter.resources
  if resources.any fun r => r ∈ o.reserved || o.waiting.any fun w => r ∈ w.resources then
    if waiter.wait then { o with waiting := o.waiting ++ [{ waiter with resources }] }
    else o.reply (.reservation waiter.ticket none)
  else
    match o.allocateId with
    | none => o.reply (.reservation waiter.ticket none)
    | some (id, o) =>
      let o := { o with
        reserved := resources ∪ o.reserved
        reservations := o.reservations.insert id resources
        trace := { o.trace with granted := o.trace.granted ++ [waiter.ticket] } }
      o.reply (.reservation waiter.ticket (some id))

/-- Everybody who waits tries again, in the order of arrival. -/
def retryWaiting : MediaOwner C :=
  o.waiting.foldl reserve { o with waiting := [] }

def releaseReservation (id : Nat) : MediaOwner C :=
  let o :=
    match o.reservations.get? id with
    | none => o
    | some resources =>
      { o with
        reservations := o.reservations.erase id
        reserved := o.reserved.filter fun r => r ∉ resources }
  o.dispatchCancelledAnchors.retryWaiting

def acquireAnchor (reservation : Nat) (callId : PbxCallId) (reason : MediaAnchorReason)
    (restore : Option C) : MediaOwner C :=
  if (o.reservations.get? reservation).any fun resources => .call callId ∈ resources then
    match o.allocateId with
    | none => o.reply (.anchor none)
    | some (id, o) =>
      let restores :=
        match restore with
        | none => o.restores
        | some restore => rememberRestore o.restores callId restore
      let o := { o with
        restores
        anchors := o.anchors.acquire callId reason
        leases := o.leases.insert id { callId, reason } }
      ((o.act (.acquired id callId restore)).publishSnapshot).reply
        (.anchor (some { callId, reason, id }))
  else o.reply (.anchor none)

def removeCall (callId : PbxCallId) : MediaOwner C :=
  let o := { o with
    anchors := o.anchors.removeCall callId
    restores := o.restores.erase callId
    leases := o.leases.filter fun _ anchor => anchor.callId ≠ callId }
  ((o.act (.removed callId)).publishSnapshot).reply .removed

/-- `allocate_generation`. -/
def allocateGeneration : MediaOwner C :=
  if o.nextGeneration = 0 || 2 ^ 64 ≤ o.nextGeneration + 1 then o.reply (.generation none)
  else
    reply { o with nextGeneration := o.nextGeneration + 1 }
      (.generation (some ⟨o.nextGeneration⟩))

/-- Set the timer of an announcement, unless it has been replaced. -/
def setTimer (id : ConferenceId) (generation : AnnouncementGeneration) (timer : Instant) :
    MediaOwner C :=
  { o with announcements := o.announcements.modify id fun active =>
    if active.generation = generation then { active with completion := some timer } else active }

def process : MediaCommand C → MediaOwner C
  | .reserve resources wait =>
    reserve { o with trace := { o.trace with arrivals := o.trace.arrivals + 1 } }
      { ticket := o.trace.arrivals, resources, wait }
  | .releaseReservation id => o.releaseReservation id
  | .acquireAnchor reservation callId reason restore =>
    o.acquireAnchor reservation callId reason restore
  | .releaseAnchor id explicit =>
    if explicit then (o.releaseAnchor id).reply .released
    else { o with cancelledAnchors := o.cancelledAnchors ++ [id] }
  | .removeCall id => o.removeCall id
  | .nextGeneration => o.allocateGeneration
  | .takeAnnouncement id =>
    reply { o with announcements := o.announcements.erase id }
      (.announcement (o.announcements.get? id))
  | .putAnnouncement id active =>
    reply { o with announcements := o.announcements.insert id active } .put
  | .announcementGeneration id =>
    o.reply (.generation ((o.announcements.get? id).map (·.generation)))
  | .announcementIds => o.reply (.ids o.announcements.keys)
  | .deferAnnouncement id generation timer => o.setTimer id generation timer

def complete (worker : Nat) (timer : Option Instant) : MediaOwner C :=
  match o.workers.get? worker with
  | none => o
  | some (.announcement id generation) =>
    let o := { o with workers := o.workers.erase worker }
    let o :=
      match timer with
      | none => o
      | some timer => o.setTimer id generation timer
    o.dispatchCancelledAnchors
  | some (.restore id callId _) =>
    let o := { o with workers := o.workers.erase worker }
    let o := o.releaseAnchor id
    let o := { o with reserved := without o.reserved (.call callId) }
    o.dispatchCancelledAnchors.retryWaiting.dispatchCancelledAnchors

/-- Give the announcements whose timer has run out to workers. -/
def dueEach (now : Instant) (o : MediaOwner C) :
    List (ConferenceId × ActiveConferenceAnnouncement) → MediaOwner C
  | [] => o
  | (id, active) :: rest =>
    if active.completion.any (· ≤ now) then
      dueEach now { o with
        announcements := o.announcements.insert id { active with completion := none }
        workers := o.workers.insert o.nextWorker (.announcement id active.generation)
        nextWorker := o.nextWorker + 1 } rest
    else dueEach now o rest

def dispatchDue (now : Instant) : MediaOwner C := dueEach now o o.announcements.entries

def turn : MediaTurn C → MediaOwner C
  | .command command => (o.process command).dispatchCancelledAnchors
  | .completed worker timer => o.complete worker timer
  | .due now => o.dispatchDue now

end MediaOwner

end Sccp
