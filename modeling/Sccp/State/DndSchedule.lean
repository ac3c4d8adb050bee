/-
  Sccp.State.DndSchedule

  Persistent overrides of do-not-disturb schedules (`state/dnd_schedule.rs`).

  A device whose key is absent goes by its configuration.  A document without rules
  overrides the configuration with no rules.
-/

import Sccp.Config.DndSchedule
import Sccp.State.Features

namespace Sccp.Dnd

open Config
open Features (PersistenceError PersistentStore)

def DND_SCHEDULE_FAMILY : String := "SCCP"

def STORED_FORMAT_VERSION : Nat := 1

def MAX_STORED_BYTES : Nat := 8 * 1024

structure StoredDndSchedule where
  version : Nat
  rules : List String
  deriving DecidableEq

inductive DndScheduleStoreError where
  | storage (source : PersistenceError)
  | documentTooLarge (device : DeviceId) (bytes maximum : Nat)
  | invalidDocument (device : DeviceId)
  | unsupportedVersion (device : DeviceId) (version : Nat)
  | tooManyRules (device : DeviceId) (count maximum : Nat)
  | invalidRule (device : DeviceId) (index : Nat) (source : DndScheduleParseError)
  | invalidRuleSet (device : DeviceId) (source : DndScheduleValidationError)
  | encode (device : DeviceId)
  | encodedDocumentTooLarge (device : DeviceId) (bytes maximum : Nat)
  deriving DecidableEq

/-- The JSON texts of stored documents. -/
structure DocumentFormat where
  toString : StoredDndSchedule → Option String
  fromStr : String → Option StoredDndSchedule

def key (device : DeviceId) : String := "device/" ++ device.name ++ "/dnd-schedule"

/-- Where the override of a device is stored. -/
def place (device : DeviceId) : String × String := (DND_SCHEDULE_FAMILY, key device)

variable (format : DocumentFormat)

/-- Reads the rules of a document. -/
def decodeDocument (device : DeviceId) (raw : String) :
    Except DndScheduleStoreError (List DndSchedule) :=
  if MAX_STORED_BYTES < (utf8 raw).length then
    .error (.documentTooLarge device (utf8 raw).length MAX_STORED_BYTES)
  else
    match format.fromStr raw with
    | none => .error (.invalidDocument device)
    | some stored =>
      if stored.version ≠ STORED_FORMAT_VERSION then
        .error (.unsupportedVersion device stored.version)
      else if MAX_DND_SCHEDULES < stored.rules.length then
        .error (.tooManyRules device stored.rules.length MAX_DND_SCHEDULES)
      else do
        let schedules ← stored.rules.zipIdx.mapM fun (value, index) =>
          (DndSchedule.parse value).mapError (.invalidRule device (index + 1))
        let _ ← (validateDndSchedules schedules).mapError (.invalidRuleSet device)
        .ok schedules

/-- Writes rules as a document. -/
def encodeDocument (device : DeviceId) (schedules : List DndSchedule) :
    Except DndScheduleStoreError String := do
  let _ ← (validateDndSchedules schedules).mapError (.invalidRuleSet device)
  match format.toString ⟨STORED_FORMAT_VERSION, schedules.map DndSchedule.display⟩ with
  | none => .error (.encode device)
  | some raw =>
    if MAX_STORED_BYTES < (utf8 raw).length then
      .error (.encodedDocumentTooLarge device (utf8 raw).length MAX_STORED_BYTES)
    else .ok raw

/-! ## Operations -/

def snapshotRaw (device : DeviceId) (s : PersistentStore) :
    Except DndScheduleStoreError (Option String) × PersistentStore :=
  match UndoLog.get (place device) s with
  | (.error e, s) => (.error (.storage e), s)
  | (.ok raw, s) => (.ok raw, s)

def loadOverride (device : DeviceId) (s : PersistentStore) :
    Except DndScheduleStoreError (Option (List DndSchedule)) × PersistentStore :=
  match snapshotRaw device s with
  | (.error e, s) => (.error e, s)
  | (.ok none, s) => (.ok none, s)
  | (.ok (some raw), s) => ((decodeDocument format device raw).map some, s)

/-- Puts or deletes the document of a device. -/
def writeRaw (device : DeviceId) (raw : Option String) (s : PersistentStore) :
    Except DndScheduleStoreError Unit × PersistentStore :=
  match UndoLog.write (place device) raw s with
  | (.error e, s) => (.error (.storage e), s)
  | (.ok (), s) => (.ok (), s)

def putOverride (device : DeviceId) (schedules : List DndSchedule) (s : PersistentStore) :
    Except DndScheduleStoreError Unit × PersistentStore :=
  match encodeDocument format device schedules with
  | .error e => (.error e, s)
  | .ok raw => writeRaw device (some raw) s

def reset (device : DeviceId) (s : PersistentStore) :
    Except DndScheduleStoreError Unit × PersistentStore := writeRaw device none s

/-- Restores an exact snapshot, a corrupt one included. -/
def restoreRaw (device : DeviceId) (snapshot : Option String) (s : PersistentStore) :
    Except DndScheduleStoreError Unit × PersistentStore := writeRaw device snapshot s

end Sccp.Dnd
