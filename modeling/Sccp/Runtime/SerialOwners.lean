/-
  Sccp.Runtime.SerialOwners

  The machines of the two owners whose operations all use one resource: the publication of
  management events (`runtime/publication.rs`), and the transactions on the configuration
  (`runtime/configuration_transaction.rs`).

  Each state also lists the operations prepared so far: what number their event got, if it
  could be built, and whose lease has been granted.
-/

import Sccp.Runtime.Owner

namespace Sccp

inductive AmiEventError where
  | unavailable | closed | duplicateField | unknownField | missingField | wrongType
  | invalidLiteral | tooLarge | sequenceExhausted | invalidOutput | manager
  deriving DecidableEq

/-! ## Publication -/

structure EventSequence where
  next : Nat := 1

/-- `build_manager_event` is a parameter; the number is consumed only if it succeeds. -/
def EventSequence.prepare {Event Built : Type} (build : Event → Nat → Except AmiEventError Built)
    (s : EventSequence) (event : Event) : EventSequence × Except AmiEventError (Nat × Built) :=
  match build event s.next with
  | .error e => (s, .error e)
  | .ok built =>
    if s.next + 1 < 2 ^ 64 then ({ next := s.next + 1 }, .ok (s.next, built))
    else (s, .error .sequenceExhausted)

inductive PublicationEffect (Built : Type) where
  | publish (event : Built)
  | reportFailure (error : AmiEventError)

structure PublicationState where
  sequence : EventSequence := {}
  numbered : List (OperationId × Option Nat) := []

def publicationMachine {Event Built : Type} (build : Event → Nat → Except AmiEventError Built) :
    RuntimeState PublicationState Event (Except AmiEventError Unit) Unit (PublicationEffect Built)
      (Except AmiEventError Unit) where
  admitOperation s _ _ := (s, [()])
  expired s _ := s
  prepare s id event :=
    match s.sequence.prepare build event with
    | (sequence, .ok (number, built)) =>
      ({ sequence, numbered := s.numbered ++ [(id, some number)] }, .effect (.publish built))
    | (sequence, .error e) =>
      ({ sequence, numbered := s.numbered ++ [(id, none)] }, .effect (.reportFailure e))
  complete s _ result := (s, .finished result)
  -- An event is not published again after a failure that may have delivered it.
  failed s _ := (s, .finished (.error .unavailable))

/-! ## Configuration transactions -/

inductive ConfigurationOperation where
  | features | schedules | mobility | reload | registration
  deriving DecidableEq

structure TransactionState where
  pending : Option (OperationId × ConfigurationOperation) := none
  granted : List OperationId := []
  /-- No debug assertion has failed. -/
  upheld : Bool := true

namespace TransactionState

def prepare (s : TransactionState) (id : OperationId) (operation : ConfigurationOperation) :
    TransactionState where
  pending := some (id, operation)
  granted := s.granted ++ [id]
  upheld := s.upheld && s.pending.isNone

def complete (s : TransactionState) (id : OperationId) : TransactionState :=
  { s with pending := none, upheld := s.upheld && s.pending.map (·.1) = some id }

end TransactionState

/-- The effect of a transaction ends when the last clone of its lease is dropped. -/
def transactionMachine :
    RuntimeState TransactionState ConfigurationOperation Unit Unit Unit Unit where
  admitOperation s _ _ := (s, [()])
  expired s _ := s
  prepare s id operation := (s.prepare id operation, .effect ())
  complete s id _ := (s.complete id, .finished ())
  failed s id := (s.complete id, .finished ())

end Sccp
