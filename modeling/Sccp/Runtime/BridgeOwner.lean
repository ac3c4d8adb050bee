/-
  Sccp.Runtime.BridgeOwner

  The machine of bridge and barge sessions (`asterisk/runtime/bridge_owner.rs`), driven by
  the runtime owner.

  A session leaves the state while an effect works on it and comes back with the effect's
  completion.  The answers of the native layer are a parameter of each effect.
-/

import Sccp.Call.Transfer
import Sccp.Runtime.Owner

namespace Sccp.Bridges

open Sccp

/-! ## Commands -/

inductive BridgeOperation where
  | create (bridgeId : PbxBridgeId)
  | destroy (bridgeId : PbxBridgeId)
  | addParticipant (bridgeId : PbxBridgeId) (callId : PbxCallId)
  | removeParticipant (bridgeId : PbxBridgeId) (callId : PbxCallId)
  | mergeConsultation (bridgeId : PbxBridgeId) (originalCallId consultationCallId : PbxCallId)
  | mergeCalls (bridgeId : PbxBridgeId) (callIds : List PbxCallId)
  | mergeParticipant (bridgeId : PbxBridgeId) (callId : PbxCallId)
  | setParticipantMuted (bridgeId : PbxBridgeId) (participantId : ParticipantId)
      (callId : PbxCallId) (muted : Bool)
  | removeConferenceParticipant (bridgeId : PbxBridgeId) (participantId : ParticipantId)
      (callId : PbxCallId)
  | setParticipantMusicOnHold (bridgeId : PbxBridgeId) (participantId : ParticipantId)
      (callId : PbxCallId) (musicClass : String) (enabled : Bool)

inductive BargeOperation where
  | join (bridgeId : PbxBridgeId) (targetCallId bargerCallId : PbxCallId)
  | leave (bridgeId : PbxBridgeId) (bargerCallId : PbxCallId) (lastParticipant : Bool)

def BridgeOperation.bridgeId : BridgeOperation → PbxBridgeId
  | create bridgeId | destroy bridgeId | addParticipant bridgeId _ | removeParticipant bridgeId _
  | mergeConsultation bridgeId _ _ | mergeCalls bridgeId _ | mergeParticipant bridgeId _
  | setParticipantMuted bridgeId _ _ _ | removeConferenceParticipant bridgeId _ _
  | setParticipantMusicOnHold bridgeId _ _ _ _ => bridgeId

inductive BridgeAction where
  | bridge (operation : BridgeOperation)
  | barge (operation : BargeOperation)
  | transfer (completion : TransferCompletion)
  | drain

def BridgeAction.bridgeId : BridgeAction → Option PbxBridgeId
  | bridge operation => some operation.bridgeId
  | barge (.join bridgeId _ _) => some bridgeId
  | barge (.leave bridgeId _ _) => some bridgeId
  | transfer _ => none
  | drain => none

def BridgeAction.callIds : BridgeAction → List PbxCallId
  | transfer completion => [completion.source.pbxCallId, completion.consultation.pbxCallId]
  | bridge (.create _) | bridge (.destroy _) | drain => []
  | bridge (.addParticipant _ callId) | bridge (.removeParticipant _ callId)
  | bridge (.mergeParticipant _ callId) | bridge (.setParticipantMuted _ _ callId _)
  | bridge (.setParticipantMusicOnHold _ _ callId _ _)
  | bridge (.removeConferenceParticipant _ _ callId) => [callId]
  | bridge (.mergeConsultation _ originalCallId consultationCallId) =>
    [originalCallId, consultationCallId]
  | bridge (.mergeCalls _ callIds) => callIds
  | barge (.join _ targetCallId bargerCallId) => [targetCallId, bargerCallId]
  | barge (.leave _ bargerCallId _) => [bargerCallId]

def BridgeAction.isDrain : BridgeAction → Bool
  | drain => true
  | _ => false

/-- A command; the native access it carries along is left out. -/
structure BridgeCommand where
  action : BridgeAction

inductive BridgeResource where
  | bridge (bridgeId : PbxBridgeId)
  | call (callId : PbxCallId)
  deriving DecidableEq

inductive BridgeError where
  | failed (operation calls : String)
  | callUnavailable (operation : String) (callId : PbxCallId)
  | bridgeUnavailable (operation : String) (bridgeId : PbxBridgeId)
  | bridgeConflict (bridgeId : PbxBridgeId)
  | callFeature
  deriving DecidableEq

abbrev Outcome := Except BridgeError Unit

def unavailable : BridgeError := .failed "bridge owner operation" "runtime unavailable"

/-! ## Effects -/

/-- A native conference bridge. -/
structure BridgeSession where
  handle : Nat
  deriving DecidableEq

/-- A native bridge that barging calls have acquired. -/
structure BargeBridgeSession where
  handle : Nat
  deriving DecidableEq

structure BridgeDrain where
  bridges : Table PbxBridgeId BridgeSession
  barges : Table PbxBridgeId BargeBridgeSession

structure BridgeEffect where
  command : BridgeCommand
  bridge : Option BridgeSession := none
  barge : Option BargeBridgeSession := none
  draining : Option BridgeDrain := none

structure BridgeCompletion where
  bridgeId : Option PbxBridgeId
  bridge : Option BridgeSession
  barge : Option BargeBridgeSession
  result : Outcome

/-- The answer of a native call. -/
inductive Native (α : Type) where
  | ok (a : α)
  | failed
  | panicked

/-- What an effect finds when it runs. -/
structure World where
  /-- The call has a channel that can be entered. -/
  bound : PbxCallId → Bool
  /-- The channel of the call is a live one. -/
  valid : PbxCallId → Bool
  createBridge : Native BridgeSession
  modify : Native Unit
  destroy : BridgeSession → Native Unit
  acquireBargeBridge : Native BargeBridgeSession
  addBarge : Native Unit
  removeBarge : Native Unit
  release : BargeBridgeSession → Native Unit
  transfer : Native Unit

/-- The outcome of a native call; a panic gives none. -/
def Native.outcome : Native Unit → Option Outcome
  | ok () => some (.ok ())
  | failed => some (.error .callFeature)
  | panicked => none

def withCallFeatureChannel (world : World) (operation : String) (callId : PbxCallId)
    (execute : Option Outcome) : Option Outcome :=
  if world.bound callId && world.valid callId then execute
  else some (.error (.callUnavailable operation callId))

/-- What is done to a session that is there. -/
def modifyBridge (world : World) : BridgeOperation → Option Outcome
  | .create _ => some (.error unavailable)
  | .destroy _ => some (.error unavailable)
  | .addParticipant _ callId =>
    withCallFeatureChannel world "add bridge participant" callId world.modify.outcome
  | .removeParticipant _ callId =>
    withCallFeatureChannel world "remove bridge participant" callId world.modify.outcome
  | .mergeParticipant _ callId =>
    withCallFeatureChannel world "merge conference participant" callId world.modify.outcome
  | .setParticipantMuted _ _ callId _ =>
    withCallFeatureChannel world "set conference participant mute" callId world.modify.outcome
  | .setParticipantMusicOnHold _ _ callId _ _ =>
    withCallFeatureChannel world "set conference participant music on hold" callId
      world.modify.outcome
  | .removeConferenceParticipant _ _ callId =>
    withCallFeatureChannel world "remove conference participant" callId world.modify.outcome
  | .mergeConsultation _ originalCallId consultationCallId =>
    let operation := "merge conference consultation"
    if !(world.bound originalCallId && world.bound consultationCallId) then
      some (.error (.callUnavailable operation consultationCallId))
    else if !world.valid originalCallId then
      some (.error (.callUnavailable operation originalCallId))
    else if !world.valid consultationCallId then
      some (.error (.callUnavailable operation consultationCallId))
    else world.modify.outcome
  | .mergeCalls _ callIds =>
    if !callIds.all world.bound then some (.error unavailable)
    else
      match callIds.find? fun callId => !world.valid callId with
      | some callId =>
        some (.error (.callUnavailable "merge selected conference calls" callId))
      | none => world.modify.outcome

/-- The session after an operation, and its outcome. -/
def executeBridge (world : World) (session : Option BridgeSession) (operation : BridgeOperation) :
    Option BridgeSession × Option Outcome :=
  match operation, session with
  | .create bridgeId, some session => (some session, some (.error (.bridgeConflict bridgeId)))
  | .create _, none =>
    match world.createBridge with
    | .ok session => (some session, some (.ok ()))
    | .failed => (none, some (.error .callFeature))
    | .panicked => (none, none)
  | .destroy bridgeId, none =>
    (none, some (.error (.bridgeUnavailable "destroy bridge" bridgeId)))
  | .destroy _, some session => (none, (world.destroy session).outcome)
  | operation, none =>
    (none, some (.error (.bridgeUnavailable "modify bridge" operation.bridgeId)))
  | operation, some session => (some session, modifyBridge world operation)

/-- Adds the barging call; a session that was acquired for it is released on failure. -/
def joinBarge (world : World) (session : BargeBridgeSession) (created : Bool)
    (bargerCallId : PbxCallId) : Option BargeBridgeSession × Option Outcome :=
  match withCallFeatureChannel world "add barge participant" bargerCallId
      world.addBarge.outcome with
  | none => (some session, none)
  | some (.ok ()) => (some session, some (.ok ()))
  | some (.error e) =>
    if created then
      match world.release session with
      | .panicked => (none, none)
      | _ => (none, some (.error e))
    else (some session, some (.error e))

def executeBarge (world : World) (session : Option BargeBridgeSession) :
    BargeOperation → Option BargeBridgeSession × Option Outcome
  | .join _ targetCallId bargerCallId =>
    match session with
    | some session => joinBarge world session false bargerCallId
    | none =>
      if world.bound targetCallId && world.valid targetCallId then
        match world.acquireBargeBridge with
        | .ok session => joinBarge world session true bargerCallId
        | .failed => (none, some (.error .callFeature))
        | .panicked => (none, none)
      else (none, some (.error (.callUnavailable "acquire barge bridge" targetCallId)))
  | .leave bridgeId bargerCallId lastParticipant =>
    let removal := withCallFeatureChannel world "remove barge participant" bargerCallId
      (match session with
      | none => some (.error (.bridgeUnavailable "remove barge participant" bridgeId))
      | some _ => world.removeBarge.outcome)
    match removal with
    | none => (session, none)
    | some removal =>
      if lastParticipant then
        match session with
        | none => (none, some (.error (.bridgeUnavailable "release barge bridge" bridgeId)))
        | some session =>
          (none, (world.release session).outcome.map fun release =>
            match removal with
            | .ok () => release
            | .error e => .error e)
      else (session, some removal)

/-- Ends sessions one after the other; the first failure is the outcome. -/
def endEach : List (Native Unit) → Outcome → Option Outcome
  | [], result => some result
  | native :: rest, result =>
    match native.outcome with
    | none => none
    | some next => endEach rest (match result with
      | .ok () => next
      | .error e => .error e)

/-- The effect after it has run, and its outcome. -/
def BridgeEffect.execute (world : World) (effect : BridgeEffect) : BridgeEffect × Option Outcome :=
  match effect.command.action with
  | .bridge operation =>
    let (bridge, outcome) := executeBridge world effect.bridge operation
    ({ effect with bridge }, outcome)
  | .barge operation =>
    let (barge, outcome) := executeBarge world effect.barge operation
    ({ effect with barge }, outcome)
  | .transfer completion =>
    let first := completion.source.pbxCallId
    let second := completion.consultation.pbxCallId
    let failure := BridgeError.failed "bridge transfer"
      (toString first.val ++ " and " ++ toString second.val)
    (effect, if !(world.bound first && world.bound second) then some (.error failure)
      else
        match world.transfer with
        | .ok () => some (.ok ())
        | .failed => some (.error failure)
        | .panicked => none)
  | .drain =>
    let outcome :=
      match effect.draining with
      | none => some (.ok ())
      | some drain => endEach (drain.bridges.values.map world.destroy
          ++ drain.barges.values.map world.release) (.ok ())
    ({ effect with draining := none }, outcome)

/-- What the worker of an effect reports; a panic is caught there. -/
def BridgeEffect.finish (world : World) (effect : BridgeEffect) : BridgeCompletion :=
  let (after, outcome) := effect.execute world
  { bridgeId := effect.command.action.bridgeId
    bridge := after.bridge
    barge := after.barge
    result := outcome.getD (.error unavailable) }

/-! ## The machine -/

structure BridgeSnapshot where
  bridges : List PbxBridgeId := []
  barges : List PbxBridgeId := []

structure BridgeState where
  snapshot : BridgeSnapshot := {}
  bridges : Table PbxBridgeId BridgeSession := ∅
  barges : Table PbxBridgeId BargeBridgeSession := ∅
  calls : Table PbxBridgeId (List PbxCallId) := ∅
  intents : Table OperationId (Option PbxBridgeId × List PbxCallId) := ∅
  retiringAfter : Option OperationId := none

namespace BridgeState

def resources (s : BridgeState) (command : BridgeCommand) : List BridgeResource :=
  command.action.callIds.map .call ++ match command.action.bridgeId, command.action with
    | some bridgeId, _ =>
      [.bridge bridgeId]
        ++ ((s.intents.values.filter fun intent => intent.1 = some bridgeId).flatMap
          fun intent => intent.2.map .call) ++ ((s.calls.get? bridgeId).getD []).map .call
    | none, .drain =>
      (s.intents.values.flatMap fun intent =>
        intent.1.toList.map .bridge ++ intent.2.map .call)
        ++ s.calls.keys.map .bridge ++ s.calls.values.flatten.map .call
    | none, _ => []

def admitOperation (s : BridgeState) (id : OperationId) (command : BridgeCommand) :
    BridgeState × List BridgeResource :=
  let s := if command.action.isDrain then { s with retiringAfter := some id } else s
  let s := { s with
    intents := s.intents.insert id (command.action.bridgeId, command.action.callIds) }
  (s, s.resources command)

/-- The operation has no intent any more. -/
def forget (s : BridgeState) (id : OperationId) : BridgeState :=
  { s with intents := s.intents.erase id }

def expired (s : BridgeState) (id : OperationId) : BridgeState := s.forget id

def prepare (s : BridgeState) (id : OperationId) (command : BridgeCommand) :
    BridgeState × RuntimeStep Outcome BridgeEffect :=
  if s.retiringAfter.any fun retiring => retiring.val < id.val then
    (s.forget id, .finished (.error unavailable))
  else
    match command.action.bridgeId, command.action with
    | some bridgeId, _ =>
      ({ s with
          calls := s.calls.insert bridgeId
            ((s.calls.get? bridgeId).getD [] ∪ command.action.callIds)
          bridges := s.bridges.erase bridgeId
          barges := s.barges.erase bridgeId },
        .effect { command, bridge := s.bridges.get? bridgeId, barge := s.barges.get? bridgeId })
    | none, .drain =>
      ({ s with calls := ∅, snapshot := {}, bridges := ∅, barges := ∅ },
        .effect { command, draining := some { bridges := s.bridges, barges := s.barges } })
    | none, _ => (s, .effect { command })

/-- A published set with or without a bridge. -/
def publish (bridges : List PbxBridgeId) (bridgeId : PbxBridgeId) (present : Bool) :
    List PbxBridgeId :=
  if present then bridges.insert bridgeId else without bridges bridgeId

def complete (s : BridgeState) (id : OperationId) (completion : BridgeCompletion) :
    BridgeState × RuntimeStep Outcome BridgeEffect :=
  let s := s.forget id
  let s :=
    match completion.bridgeId with
    | none => s
    | some bridgeId =>
      let s := { s with
        snapshot :=
          { bridges := publish s.snapshot.bridges bridgeId completion.bridge.isSome
            barges := publish s.snapshot.barges bridgeId completion.barge.isSome } }
      match completion.bridge, completion.barge with
      | none, none => { s with calls := s.calls.erase bridgeId }
      | bridge, barge =>
        { s with
          bridges := bridge.elim s.bridges (s.bridges.insert bridgeId)
          barges := barge.elim s.barges (s.barges.insert bridgeId) }
  (s, .finished completion.result)

def failed (s : BridgeState) (id : OperationId) : BridgeState × RuntimeStep Outcome BridgeEffect :=
  (s.forget id, .finished (.error unavailable))

end BridgeState

/-- `BridgeState` as the machine of a runtime owner. -/
def bridgeMachine : RuntimeState BridgeState BridgeCommand Outcome BridgeResource BridgeEffect
      BridgeCompletion where
  admitOperation := BridgeState.admitOperation
  expired := BridgeState.expired
  prepare := BridgeState.prepare
  complete := BridgeState.complete
  failed := BridgeState.failed

end Sccp.Bridges
