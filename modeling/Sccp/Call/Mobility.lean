/-
  Sccp.Call.Mobility

  Transactions on Extension Mobility line appearances (`call/mobility.rs`).

  A login or a logout is prepared first: its buttons and its line are reserved while the
  handset is written, and the committed logins stay as they are.  The caller then commits
  the transaction or aborts it.
-/

import Mathlib.Data.List.Sort
import Sccp.Lib.Claims
import Sccp.Types

namespace Sccp.Mobility

open Sccp

/-- Maximum line instance of the station button template. -/
def MAX_MOBILITY_LINE_INSTANCE : Nat := 56

/-- Largest transaction identity. -/
def MAX_TRANSACTION_ID : Nat := 2 ^ 64 - 1

/-! ## Appearances -/

/-- A configured line; `settings` are the fields that the registry carries along. -/
structure LineConfig (Settings : Type) where
  number : String
  label : String
  settings : Settings
  deriving DecidableEq

structure LineDefinition where
  number : String
  displayName : String
  deriving DecidableEq

structure CallerIdOverride where
  name : Option String := none
  number : Option String := none
  deriving DecidableEq

structure LineAppearance where
  id : Nat
  instanceNumber : Nat
  line : LineDefinition
  label : Option String
  callerId : CallerIdOverride
  ringMode : AppearanceRingMode
  initialTone : Tone
  subscriptionIdentity : Option String
  privacy : Bool
  deriving DecidableEq

/-- `Tone::InsideDial`. -/
def insideDial : Tone := ⟨0x21⟩

structure LineBinding (Settings : Type) where
  deviceId : DeviceId
  lineInstance : Nat
  appearance : LineAppearance
  line : LineConfig Settings
  deriving DecidableEq

/-- One configured Mobility feature button on one station. -/
structure MobilitySlot where
  deviceId : DeviceId
  buttonInstance : Nat
  deriving DecidableEq

/-- The order of slots: by device and then by button. -/
def MobilitySlot.le (a b : MobilitySlot) : Bool :=
  a.deviceId.name < b.deviceId.name
    || (a.deviceId.name = b.deviceId.name && a.buttonInstance ≤ b.buttonInstance)

/-- One committed dynamic line appearance. -/
structure RoamingAppearance (Settings : Type) where
  slot : MobilitySlot
  binding : LineBinding Settings
  deriving DecidableEq

/-- The directory number of the line that roams. -/
def RoamingAppearance.number {Settings : Type} (a : RoamingAppearance Settings) : String :=
  a.binding.line.number

/-! ## Transactions -/

structure MobilityTransactionId where
  val : Nat
  deriving DecidableEq

/-- A prepared mutation: `previous` is removed first and `next` is then installed. -/
structure PreparedMobilityTransaction (Settings : Type) where
  id : MobilityTransactionId
  previous : Option (RoamingAppearance Settings)
  next : Option (RoamingAppearance Settings)
  deriving DecidableEq

namespace PreparedMobilityTransaction

variable {Settings : Type}

/-- The appearances that a transaction touches. -/
def touched (transaction : PreparedMobilityTransaction Settings) :
    List (RoamingAppearance Settings) :=
  transaction.previous.toList ++ transaction.next.toList

def slots (transaction : PreparedMobilityTransaction Settings) : List MobilitySlot :=
  transaction.touched.map RoamingAppearance.slot

def lines (transaction : PreparedMobilityTransaction Settings) : List String :=
  transaction.touched.map RoamingAppearance.number

end PreparedMobilityTransaction

inductive MobilityPreparation (Settings : Type) where
  | unchanged (existing : RoamingAppearance Settings)
  | transaction (prepared : PreparedMobilityTransaction Settings)
  deriving DecidableEq

inductive MobilityRegistryError where
  | slotOccupied
  | notLoggedIn
  | transactionInProgress
  | noLineInstanceAvailable
  | transactionIdExhausted
  | staleTransaction
  deriving DecidableEq

/-- Committed and pending Extension Mobility state. -/
structure MobilityRegistry (Settings : Type) where
  nextTransactionId : Nat
  bySlot : Table MobilitySlot (RoamingAppearance Settings)
  slotByLine : Table String MobilitySlot
  pending : Table MobilityTransactionId (PreparedMobilityTransaction Settings)
  reservedSlots : Table MobilitySlot MobilityTransactionId
  reservedLines : Table String MobilityTransactionId

namespace MobilityRegistry

variable {Settings : Type} (r : MobilityRegistry Settings)
  (transaction : PreparedMobilityTransaction Settings)

def new : MobilityRegistry Settings := ⟨0, ∅, ∅, ∅, ∅, ∅⟩

/-- The committed appearances in the order of their slots. -/
def committed : List (RoamingAppearance Settings) :=
  (r.bySlot.entries.insertionSort fun a b => MobilitySlot.le a.1 b.1).map Prod.snd

/-- A call that may fail; the second component is the registry after it, in either case. -/
abbrev Answer (Settings α : Type) := Except MobilityRegistryError α × MobilityRegistry Settings

def ensureAvailable (slot : MobilitySlot) (lineNumber : String)
    (previousSlot : Option MobilitySlot) : Except MobilityRegistryError Unit :=
  if r.reservedSlots.contains slot || previousSlot.any r.reservedSlots.contains
      || r.reservedLines.contains lineNumber then
    .error .transactionInProgress
  else .ok ()

/-- Records a transaction and reserves what it touches. -/
def openTransaction : MobilityRegistry Settings :=
  { r with
    nextTransactionId := transaction.id.val
    reservedSlots := Claims.claim r.reservedSlots transaction.slots transaction.id
    reservedLines := Claims.claim r.reservedLines transaction.lines transaction.id
    pending := r.pending.insert transaction.id transaction }

def reserve (previous next : Option (RoamingAppearance Settings)) :
    Answer Settings (PreparedMobilityTransaction Settings) :=
  if MAX_TRANSACTION_ID ≤ r.nextTransactionId then (.error .transactionIdExhausted, r)
  else
    let transaction : PreparedMobilityTransaction Settings :=
      ⟨⟨r.nextTransactionId + 1⟩, previous, next⟩
    (.ok transaction, r.openTransaction transaction)

/-- The line instances that are taken on a device: configured or committed ones. -/
def occupied (deviceId : DeviceId) (configuredLineInstances : List Nat) : List Nat :=
  configuredLineInstances ++
    ((r.committed.filter fun appearance => appearance.slot.deviceId = deviceId).map
      fun appearance => appearance.binding.lineInstance)

/-- The lowest line instance that is not taken. -/
def freeLineInstance (occupied : List Nat) : Option Nat :=
  (List.range' 1 MAX_MOBILITY_LINE_INSTANCE).find? fun lineInstance => lineInstance ∉ occupied

/-- The appearance that a login installs. -/
def roamingAppearance (slot : MobilitySlot) (line : LineConfig Settings) (lineInstance : Nat) :
    RoamingAppearance Settings where
  slot
  binding :=
    { deviceId := slot.deviceId
      lineInstance
      appearance :=
        { id := lineInstance, instanceNumber := lineInstance
          line := { number := line.number, displayName := line.label }
          label := none, callerId := {}, ringMode := .normal, initialTone := insideDial
          subscriptionIdentity := none, privacy := false }
      line }

/-- The appearance that shows a line at present. -/
def appearanceForLine (lineNumber : String) : Option (RoamingAppearance Settings) :=
  (r.slotByLine.get? lineNumber).bind r.bySlot.get?

/-- Prepares a login to a free button: the line moves there from where it is. -/
def prepareMove (slot : MobilitySlot)
    (line : LineConfig Settings) (configuredLineInstances : List Nat) :
    Answer Settings (MobilityPreparation Settings) :=
  let previous := r.appearanceForLine line.number
  match r.ensureAvailable slot line.number (previous.map RoamingAppearance.slot) with
  | .error e => (.error e, r)
  | .ok () =>
    match freeLineInstance (r.occupied slot.deviceId configuredLineInstances) with
    | none => (.error .noLineInstanceAvailable, r)
    | some lineInstance =>
      let answer := r.reserve previous (some (roamingAppearance slot line lineInstance))
      (answer.1.map .transaction, answer.2)

/-- Prepares an authenticated login. -/
def prepareLogin (slot : MobilitySlot)
    (line : LineConfig Settings) (configuredLineInstances : List Nat) :
    Answer Settings (MobilityPreparation Settings) :=
  match r.bySlot.get? slot with
  | some existing =>
    if existing.binding.line.number = line.number then (.ok (.unchanged existing), r)
    else (.error .slotOccupied, r)
  | none => r.prepareMove slot line configuredLineInstances

/-- Prepares a logout from one exact Mobility button. -/
def prepareLogout (slot : MobilitySlot) : Answer Settings (PreparedMobilityTransaction Settings) :=
  match r.bySlot.get? slot with
  | none => (.error .notLoggedIn, r)
  | some previous =>
    match r.ensureAvailable slot previous.binding.line.number none with
    | .error e => (.error e, r)
    | .ok () => r.reserve (some previous) none

/-- Forgets a pending transaction and what it has reserved. -/
def releaseReservations : MobilityRegistry Settings :=
  { r with
    pending := r.pending.erase transaction.id
    reservedSlots := Claims.release r.reservedSlots transaction.slots
    reservedLines := Claims.release r.reservedLines transaction.lines }

def removeAppearance (appearance : RoamingAppearance Settings) : MobilityRegistry Settings :=
  { r with
    bySlot := r.bySlot.erase appearance.slot
    slotByLine := r.slotByLine.erase appearance.binding.line.number }

def installAppearance (appearance : RoamingAppearance Settings) : MobilityRegistry Settings :=
  { r with
    slotByLine := r.slotByLine.insert appearance.binding.line.number appearance.slot
    bySlot := r.bySlot.insert appearance.slot appearance }

/-- Takes the previous appearance out and puts the next one in. -/
def exchange : MobilityRegistry Settings :=
  let r := transaction.previous.elim r r.removeAppearance
  transaction.next.elim r r.installAppearance

variable [DecidableEq Settings]

/-- Commits only the exact transaction that is still pending. -/
def commit : Answer Settings Unit :=
  match r.pending.get? transaction.id with
  | none => (.error .staleTransaction, r)
  | some pending =>
    if pending ≠ transaction then (.error .staleTransaction, r)
    else (.ok (), (r.releaseReservations pending).exchange pending)

/-- Aborts one exact pending transaction. -/
def abort : Answer Settings Unit :=
  match r.pending.get? transaction.id with
  | none => (.error .staleTransaction, r)
  | some pending =>
    if pending ≠ transaction then (.error .staleTransaction, r)
    else (.ok (), r.releaseReservations pending)

omit [DecidableEq Settings]

def bindingForDevice (deviceId : DeviceId) (lineInstance : Nat) : Option (LineBinding Settings) :=
  (r.committed.find? fun appearance =>
    appearance.slot.deviceId = deviceId && appearance.binding.lineInstance = lineInstance).map
      RoamingAppearance.binding

/-- Removes the committed appearances that a new configuration does not allow. -/
def removeInvalid (valid : RoamingAppearance Settings → Bool) :
    Answer Settings (List (RoamingAppearance Settings)) :=
  if r.pending.size ≠ 0 then (.error .transactionInProgress, r)
  else
    let invalid := r.committed.filter fun appearance => !valid appearance
    (.ok invalid, invalid.foldl removeAppearance r)

end MobilityRegistry

/-! ## Runs -/

/-- A call of the registry. -/
inductive Operation (Settings : Type) where
  | prepareLogin (slot : MobilitySlot) (line : LineConfig Settings)
      (configuredLineInstances : List Nat)
  | prepareLogout (slot : MobilitySlot)
  | commit (transaction : PreparedMobilityTransaction Settings)
  | abort (transaction : PreparedMobilityTransaction Settings)
  | removeInvalid (valid : RoamingAppearance Settings → Bool)

def MobilityRegistry.step {Settings : Type} [DecidableEq Settings]
    (r : MobilityRegistry Settings) : Operation Settings → MobilityRegistry Settings
  | .prepareLogin slot line configured => (r.prepareLogin slot line configured).2
  | .prepareLogout slot => (r.prepareLogout slot).2
  | .commit transaction => (r.commit transaction).2
  | .abort transaction => (r.abort transaction).2
  | .removeInvalid valid => (r.removeInvalid valid).2

end Sccp.Mobility
