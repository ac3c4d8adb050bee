/-
  Sccp.Call.Transfer

  Transfer transactions (`call/transfer.rs`): one attended, blind or direct
  transfer for each device, from the moment the consultation leg exists until
  the native operation commits or is cancelled.
-/

import Sccp.Types
import Sccp.Lib.Table
import Sccp.Lib.Alloc

namespace Sccp

structure TransferId where
  val : Nat
  deriving DecidableEq

structure TransferLeg where
  handsetCallId : CallId
  pbxCallId : PbxCallId
  deriving DecidableEq

inductive TransferSourceState where
  | connected
  | held
  deriving DecidableEq

inductive TransferMode where
  | consultation
  | direct
  deriving DecidableEq

inductive TransferPhase where
  | collecting
  | routing
  | ringing
  | connected
  | completing
  deriving DecidableEq

inductive TransferTrigger where
  | transferKey
  | consultationHangup
  deriving DecidableEq

inductive DeferredTransferAction where
  | endCall
  | onHook
  deriving DecidableEq

inductive TransferCompletionKind where
  | blind
  | attended
  | direct

structure TransferCompletion where
  transactionId : TransferId
  deviceId : DeviceId
  source : TransferLeg
  consultation : TransferLeg
  kind : TransferCompletionKind

inductive TransferCancellationReason where
  | endCall
  | sourceResume
  | consultationFailure
  | consultationHangup
  | sourceHangup
  | deviceDisconnect
  | backendFailure
  deriving DecidableEq

inductive TransferSourceRecovery where
  | restoreConnected
  | retainHeld
  | sourceGone
  deriving DecidableEq

inductive TransferSetupMilestone where
  | sourceBackendHeld
  | sourceHandsetHeld
  | consultationChannelCreated
  | consultationHandsetStarted
  deriving DecidableEq

inductive TransferRejection where
  | conflict
  | sameCall
  | wrongCall
  | consultationMissing
  | invalidPhase
  | invalidSelection
  | hangupCompletionDisabled
  | completionInProgress
  deriving DecidableEq

structure TransferTransaction where
  id : TransferId
  deviceId : DeviceId
  source : TransferLeg
  sourceState : TransferSourceState
  consultation : Option TransferLeg
  mode : TransferMode
  phase : TransferPhase
  completeOnHangup : Bool
  executionProgress : List TransferSetupMilestone := []
  sourceTerminated : Bool := false
  consultationTerminated : Bool := false
  deferredAction : Option DeferredTransferAction := none

structure TransferCancellation where
  transaction : TransferTransaction
  reason : TransferCancellationReason
  sourceRecovery : TransferSourceRecovery

namespace TransferTransaction

variable (t : TransferTransaction)

/-- `TransferTransaction::consultation`. -/
def forConsultation (id : TransferId) (deviceId : DeviceId) (source : TransferLeg)
    (sourceState : TransferSourceState) (completeOnHangup : Bool) : TransferTransaction :=
  { id, deviceId, source, sourceState, consultation := none, mode := .consultation,
    phase := .collecting, completeOnHangup }

def direct (id : TransferId) (deviceId : DeviceId) (source : TransferLeg)
    (sourceState : TransferSourceState) (consultation : TransferLeg) :
    Except TransferRejection TransferTransaction :=
  if source = consultation then .error .sameCall
  else .ok { id, deviceId, source, sourceState, consultation := some consultation, mode := .direct,
             phase := .connected, completeOnHangup := false }

def attachConsultation (leg : TransferLeg) : Except TransferRejection TransferTransaction :=
  if t.mode ≠ .consultation ∨ t.phase ≠ .collecting ∨ t.consultation.isSome then .error .conflict
  else if t.source = leg then .error .sameCall
  else .ok { t with consultation := some leg }

/-- The phase changes `advance_consultation` accepts. -/
def validAdvance : TransferPhase → TransferPhase → Bool
  | .collecting, .routing => true
  | .routing, .ringing => true
  | .routing, .connected => true
  | .ringing, .connected => true
  | _, _ => false

def advanceConsultation (leg : TransferLeg) (phase : TransferPhase) :
    Except TransferRejection TransferTransaction :=
  if t.consultation ≠ some leg ∨ t.mode ≠ .consultation then .error .wrongCall
  else if !validAdvance t.phase phase then .error .invalidPhase
  else .ok { t with phase }

/-- How a transaction in this mode and phase completes, if it can. -/
def completionKind? : TransferMode → TransferPhase → Option TransferCompletionKind
  | .direct, .connected => some .direct
  | .consultation, .ringing => some .blind
  | .consultation, .connected => some .attended
  | _, _ => none

def beginCompletion (trigger : TransferTrigger) (triggeringLeg : TransferLeg) :
    Except TransferRejection (TransferTransaction × TransferCompletion) :=
  if t.phase = .completing then .error .completionInProgress
  else
    match t.consultation with
    | none => .error .consultationMissing
    | some consultation =>
      if consultation ≠ triggeringLeg then .error .wrongCall
      else if trigger = .consultationHangup ∧ !t.completeOnHangup then
        .error .hangupCompletionDisabled
      else
        match completionKind? t.mode t.phase with
        | none => .error .invalidPhase
        | some kind =>
          .ok ({ t with phase := .completing },
            { transactionId := t.id, deviceId := t.deviceId, source := t.source, consultation,
              kind })

def contains (leg : TransferLeg) : Bool :=
  t.source = leg ∨ t.consultation = some leg

def cancellation (reason : TransferCancellationReason)
    (triggeringLeg : Option TransferLeg) : Except TransferRejection TransferCancellation :=
  if t.phase = .completing ∧ reason ≠ .backendFailure ∧ reason ≠ .deviceDisconnect then
    .error .completionInProgress
  else if triggeringLeg.any (fun leg => !t.contains leg) then .error .wrongCall
  else
    let sourceRecovery : TransferSourceRecovery :=
      if t.sourceTerminated ∨ reason = .sourceHangup ∨ reason = .deviceDisconnect then .sourceGone
      else
        match t.sourceState with
        | .connected => .restoreConnected
        | .held => .retainHeld
    .ok { transaction := t, reason, sourceRecovery }

def noteHangup (leg : TransferLeg) : Except TransferRejection TransferTransaction :=
  if leg = t.source then .ok { t with sourceTerminated := true }
  else if t.consultation = some leg then .ok { t with consultationTerminated := true }
  else .error .wrongCall

def deferAction (action : DeferredTransferAction) : Except TransferRejection TransferTransaction :=
  if t.phase ≠ .completing then .error .invalidPhase
  else
    let deferred : DeferredTransferAction :=
      if t.deferredAction = some .onHook ∨ action = .onHook then .onHook else .endCall
    .ok { t with deferredAction := some deferred }

def recordSetupMilestone (milestone : TransferSetupMilestone) :
    Except TransferRejection TransferTransaction :=
  if t.mode ≠ .consultation ∨ t.phase = .completing then .error .invalidPhase
  else if milestone ∈ t.executionProgress then .error .conflict
  else .ok { t with executionProgress := milestone :: t.executionProgress }

end TransferTransaction

/-- The live transactions, each stored under its device. -/
structure TransferRegistry where
  nextId : Nat := 0
  byDevice : Table DeviceId TransferTransaction := ∅
  keyed : ∀ d t, byDevice.get? d = some t → t.deviceId = d := by simp

namespace TransferRegistry

variable (r : TransferRegistry)

def allocateId : TransferRegistry × TransferId :=
  let used := r.byDevice.values.map (·.id.val)
  let (id, nextId) := allocate 64 used (used.length + 1) r.nextId
  ({ r with nextId }, ⟨id⟩)

/-- Store a transaction under its device. -/
def put (t : TransferTransaction) : TransferRegistry where
  nextId := r.nextId
  byDevice := r.byDevice.insert t.deviceId t
  keyed := by
    intro d u hu
    rw [Table.get?_insert] at hu
    split at hu
    · next hd =>
      cases hu
      exact hd.symm
    · exact r.keyed d u hu

/-- The registry without the transaction of one device. -/
def drop (deviceId : DeviceId) : TransferRegistry where
  nextId := r.nextId
  byDevice := r.byDevice.erase deviceId
  keyed := by
    intro d t h
    rw [Table.get?_erase] at h
    split at h
    · cases h
    · exact r.keyed d t h

def insert (t : TransferTransaction) : Except TransferRejection TransferRegistry :=
  match t.consultation with
  | none => .error .consultationMissing
  | some consultation =>
    if r.byDevice.contains t.deviceId
        || r.byDevice.any (fun _ existing =>
          existing.contains t.source || existing.contains consultation) then
      .error .conflict
    else .ok (r.put t)

def get (deviceId : DeviceId) : Option TransferTransaction :=
  r.byDevice.get? deviceId

def transactions : List TransferTransaction := r.byDevice.values

def forLeg (leg : TransferLeg) : Option TransferTransaction :=
  (r.byDevice.find? fun _ t => t.contains leg).map Prod.snd

/-- Replace the transaction of a device after a successful edit of it. -/
def edit {α : Type} (deviceId : DeviceId)
    (f : TransferTransaction → Except TransferRejection (TransferTransaction × α)) :
    Except TransferRejection (TransferRegistry × α) :=
  match r.byDevice.get? deviceId with
  | none => .error .conflict
  | some t =>
    match f t with
    | .error e => .error e
    | .ok (t', a) => .ok (r.put t', a)

def beginCompletion (r : TransferRegistry) (deviceId : DeviceId) (trigger : TransferTrigger)
    (triggeringLeg : TransferLeg) :
    Except TransferRejection (TransferRegistry × TransferCompletion) :=
  r.edit deviceId fun t => t.beginCompletion trigger triggeringLeg

def commit (deviceId : DeviceId) (transactionId : TransferId) :
    Option (TransferRegistry × TransferTransaction) :=
  match r.byDevice.get? deviceId with
  | none => none
  | some t =>
    if t.id ≠ transactionId ∨ t.phase ≠ .completing then none
    else some (r.drop deviceId, t)

def cancel (deviceId : DeviceId) (transactionId : TransferId)
    (reason : TransferCancellationReason) (triggeringLeg : Option TransferLeg) :
    Except TransferRejection (TransferRegistry × TransferCancellation) :=
  match (r.byDevice.get? deviceId).filter (·.id = transactionId) with
  | none => .error .conflict
  | some t =>
    match t.cancellation reason triggeringLeg with
    | .error e => .error e
    | .ok cancellation => .ok (r.drop deviceId, cancellation)

def noteHangup (r : TransferRegistry) (leg : TransferLeg) :
    Except TransferRejection TransferRegistry :=
  match r.byDevice.find? fun _ t => t.contains leg with
  | none => .error .conflict
  | some (_, t) =>
    match t.noteHangup leg with
    | .error e => .error e
    | .ok t' => .ok (r.put t')

/-- Edit the transaction of a device if it has the given id. -/
def editExact (deviceId : DeviceId) (transactionId : TransferId)
    (f : TransferTransaction → Except TransferRejection TransferTransaction) :
    Except TransferRejection TransferRegistry :=
  match (r.byDevice.get? deviceId).filter (·.id = transactionId) with
  | none => .error .conflict
  | some t =>
    match f t with
    | .error e => .error e
    | .ok t' => .ok (r.put t')

def deferAction (deviceId : DeviceId) (transactionId : TransferId)
    (action : DeferredTransferAction) : Except TransferRejection TransferRegistry :=
  r.editExact deviceId transactionId (·.deferAction action)

def recordSetupMilestone (deviceId : DeviceId) (transactionId : TransferId)
    (milestone : TransferSetupMilestone) : Except TransferRejection TransferRegistry :=
  r.editExact deviceId transactionId (·.recordSetupMilestone milestone)

theorem get?_put (t : TransferTransaction) (d : DeviceId) :
    (r.put t).byDevice.get? d = if d = t.deviceId then some t else r.byDevice.get? d :=
  Table.get?_insert ..

theorem get?_drop (d d' : DeviceId) :
    (r.drop d).byDevice.get? d' = if d' = d then none else r.byDevice.get? d' :=
  Table.get?_erase ..

end TransferRegistry

end Sccp
