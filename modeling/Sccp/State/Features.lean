/-
  Sccp.State.Features

  Typed persistence of device feature state (`state/features.rs`, `state/persistence.rs`).

  A feature is stored under `device/<device-id>/<feature>` when it differs from the
  configured default, and is absent otherwise.  Every operation of the storage may fail, and
  a write that fails may have been applied.
-/

import Mathlib.Data.List.Sort
import Sccp.Lib.UndoLog
import Sccp.Message.Codec

namespace Sccp.Features

open Sccp

/-- AstDB family used for mutable device feature state. -/
def FEATURE_FAMILY : String := "SCCP"

def MAX_FORWARD_DESTINATION_BYTES : Nat := 23

/-! ## Feature state -/

/-- A station identifier that its constructor accepts. -/
structure DeviceId where
  name : String
  short : 1 ≤ name.toList.length ∧ name.toList.length ≤ 15
  alphanumeric : ∀ c ∈ name.toList, c.isAlphanum
  deriving DecidableEq

inductive DndMode where
  | off
  | silent
  | reject
  deriving DecidableEq

/-- `char::is_control`. -/
def isControl (character : Char) : Bool :=
  character.toNat < 0x20 || (0x7f ≤ character.toNat && character.toNat ≤ 0x9f)

inductive ForwardingRejection where
  | invalidDestination
  | destinationTooLong
  deriving DecidableEq

/-- What a forwarding destination may be. -/
structure Forwards (text : String) : Prop where
  trimmed : trim text = text
  nonempty : text ≠ ""
  bounded : (utf8 text).length ≤ MAX_FORWARD_DESTINATION_BYTES
  printable : text.toList.any isControl = false

/-- A bounded printable destination. -/
structure ForwardingDestination where
  text : String
  forwards : Forwards text
  deriving DecidableEq

def ForwardingDestination.new (value : String) : Except ForwardingRejection ForwardingDestination :=
  if hempty : trim value = "" then .error .invalidDestination
  else if hlength : MAX_FORWARD_DESTINATION_BYTES < (utf8 (trim value)).length then
    .error .destinationTooLong
  else if hcontrol : (trim value).toList.any isControl then .error .invalidDestination
  else .ok ⟨trim value, trim_trim value, hempty, by omega, by simpa using hcontrol⟩

structure ForwardingState where
  all : Option ForwardingDestination := none
  busy : Option ForwardingDestination := none
  noAnswer : Option ForwardingDestination := none
  deriving DecidableEq

structure DeviceFeatureState where
  dnd : DndMode := .off
  privacy : Bool := false
  recordingArmed : Bool := false
  forwarding : ForwardingState := {}
  buttons : Table Nat Bool := ∅

/-- Equality of states: the buttons are a hash map. -/
structure DeviceFeatureState.Same (a b : DeviceFeatureState) : Prop where
  dnd : a.dnd = b.dnd
  privacy : a.privacy = b.privacy
  recordingArmed : a.recordingArmed = b.recordingArmed
  forwarding : a.forwarding = b.forwarding
  buttons : a.buttons.Same b.buttons

/-! ## Configuration -/

/-- The kinds of buttons that matter here: recording controls and all others. -/
inductive ButtonDefinition where
  | recording (buttonInstance : Nat)
  | other
  deriving DecidableEq

structure DeviceFeatureDefaults where
  forwarding : ForwardingState
  dnd : DndMode
  privacy : Bool
  buttons : Table Nat Bool

structure DeviceDefinition where
  buttons : List ButtonDefinition
  featureDefaults : DeviceFeatureDefaults

structure ModuleConfig where
  devices : Table DeviceId DeviceDefinition

def ModuleConfig.recordingButtonsForDevice (config : ModuleConfig) (device : DeviceId) : List Nat :=
  (config.devices.get? device).toList.flatMap fun definition =>
    definition.buttons.filterMap fun button =>
      match button with
      | .recording buttonInstance => some buttonInstance
      | .other => none

/-- Every mutable default of a configured device. -/
def configuredFeatureState (config : ModuleConfig) (device : DeviceId) :
    Option DeviceFeatureState :=
  (config.devices.get? device).map fun definition =>
    { dnd := definition.featureDefaults.dnd
      privacy := definition.featureDefaults.privacy
      recordingArmed := false
      forwarding := definition.featureDefaults.forwarding
      buttons := definition.featureDefaults.buttons }

/-! ## Storage -/

inductive PersistenceError where
  | invalidText (field : String)
  | backend (operation : String)
  | invalidUtf8
  deriving DecidableEq

/-- A key-value store organized into families. -/
abbrev PersistentStore := UndoLog.Store (String × String) String PersistenceError

inductive FeatureStoreError where
  | storage (source : PersistenceError)
  | rollback (source rollback : PersistenceError)
  | corruptValue (family key expected : String)
  | unknownFeatureButton (device : DeviceId) (buttonInstance : Nat)

/-- A call of the feature store; the storage is left changed whether it fails or not. -/
def Access (α : Type) := PersistentStore → Except FeatureStoreError α × PersistentStore

instance : Monad Access where
  pure a := fun s => (.ok a, s)
  bind m f := fun s =>
    match m s with
    | (.ok a, s) => f a s
    | (.error e, s) => (.error e, s)

section Bind

variable {α β : Type} {m : Access α} {s s' : PersistentStore}

theorem bind_ok (f : α → Access β) {a : α} (h : m s = (.ok a, s')) : (m >>= f) s = f a s' := by
  change (match m s with
    | (.ok a, s) => f a s
    | (.error e, s) => (.error e, s)) = _
  rw [h]

theorem bind_error (f : α → Access β) {e : FeatureStoreError} (h : m s = (.error e, s')) :
    (m >>= f) s = (.error e, s') := by
  change (match m s with
    | (.ok a, s) => f a s
    | (.error e, s) => (.error e, s)) = _
  rw [h]

end Bind

/-- A result that the storage has no part in. -/
def Access.of {α : Type} (result : Except FeatureStoreError α) : Access α := fun s => (result, s)

variable (device : DeviceId)

def key (suffix : String) : String :=
  "device/" ++ device.name ++ "/" ++ suffix

/-- The suffix of a feature button. -/
def buttonSuffix (buttonInstance : Nat) : String := "button/" ++ toString buttonInstance

def corrupt (suffix expected : String) : FeatureStoreError :=
  .corruptValue FEATURE_FAMILY (key device suffix) expected

def encodeDnd : DndMode → String
  | .off => "off"
  | .silent => "silent"
  | .reject => "reject"

def parseDnd (suffix value : String) : Except FeatureStoreError DndMode :=
  if value = "off" then .ok .off
  else if value = "silent" then .ok .silent
  else if value = "reject" then .ok .reject
  else .error (corrupt device suffix "off, silent, or reject")

def encodeBool (value : Bool) : String := if value then "true" else "false"

def parseBool (suffix value : String) : Except FeatureStoreError Bool :=
  if value = "true" then .ok true
  else if value = "false" then .ok false
  else .error (corrupt device suffix "true or false")

def encodeForwarding : Option ForwardingDestination → String
  | some destination => "destination:" ++ destination.text
  | none => "none"

def corruptForwarding (suffix : String) : FeatureStoreError :=
  corrupt device suffix "none or destination:<bounded printable destination>"

/-- `str::strip_prefix`. -/
def stripPrefix (start value : String) : Option String :=
  if start.toList <+: value.toList then
    some (String.ofList (value.toList.drop start.toList.length))
  else none

def parseForwarding (suffix value : String) :
    Except FeatureStoreError (Option ForwardingDestination) :=
  if value = "none" then .ok none
  else
    match stripPrefix "destination:" value with
    | some destination =>
      if destination = "" then .error (corruptForwarding device suffix)
      else
        match ForwardingDestination.new destination with
        | .ok destination => .ok (some destination)
        | .error _ => .error (corruptForwarding device suffix)
    | none => .error (corruptForwarding device suffix)

/-! ## Loading -/

def get (device : DeviceId) (suffix : String) : Access (Option String) := fun s =>
  match UndoLog.get (FEATURE_FAMILY, key device suffix) s with
  | (.ok value, s) => (.ok value, s)
  | (.error e, s) => (.error (.storage e), s)

/-- Reads one override on top of its default. -/
def loadOverride {α : Type} (parse : DeviceId → String → String → Except FeatureStoreError α)
    (device : DeviceId) (suffix : String) (default : α) : Access α := do
  match ← get device suffix with
  | some value => Access.of (parse device suffix value)
  | none => pure default

def loadForwarding (suffix : String)
    (default : Option ForwardingDestination) : Access (Option ForwardingDestination) :=
  loadOverride parseForwarding device suffix default

/-- The arming of recordings is read only where a recording control is configured. -/
def loadRecordingArmed (recordingConfigured default : Bool) : Access Bool :=
  if recordingConfigured then loadOverride parseBool device "recording/armed" default
  else pure default

/-- Reads the overrides of buttons into a table that has the defaults. -/
def loadButtons (device : DeviceId) : List Nat → Table Nat Bool → Access (Table Nat Bool)
  | [], buttons => pure buttons
  | buttonInstance :: rest, buttons => do
      match ← get device (buttonSuffix buttonInstance) with
      | some value =>
        let enabled ← Access.of (parseBool device (buttonSuffix buttonInstance) value)
        loadButtons device rest (buttons.insert buttonInstance enabled)
      | none => loadButtons device rest buttons

def sorted (buttonInstances : List Nat) : List Nat := buttonInstances.insertionSort (· ≤ ·)

def loadFields (defaults : DeviceFeatureState) (recordingConfigured : Bool) :
    Access DeviceFeatureState := do
  let dnd ← loadOverride parseDnd device "dnd" defaults.dnd
  let privacy ← loadOverride parseBool device "privacy" defaults.privacy
  let recordingArmed ← loadRecordingArmed device recordingConfigured defaults.recordingArmed
  let all ← loadForwarding device "forward/all" defaults.forwarding.all
  let busy ← loadForwarding device "forward/busy" defaults.forwarding.busy
  let noAnswer ← loadForwarding device "forward/no-answer" defaults.forwarding.noAnswer
  let buttons ← loadButtons device (sorted defaults.buttons.keys) defaults.buttons
  pure { dnd, privacy, recordingArmed, forwarding := { all, busy, noAnswer }, buttons }

/-- Loads persisted overrides on top of the configured defaults. -/
def load (defaults : DeviceFeatureState) : Access DeviceFeatureState :=
  loadFields device defaults true

def loadConfigured (config : ModuleConfig) (device : DeviceId) (defaults : DeviceFeatureState) :
    Access DeviceFeatureState :=
  loadFields device defaults (config.recordingButtonsForDevice device ≠ [])

/-- The configured devices in order. -/
def ModuleConfig.sortedDevices (config : ModuleConfig) : List DeviceId :=
  config.devices.keys.insertionSort fun a b => a.name ≤ b.name

def loadDevices (config : ModuleConfig) :
    List DeviceId → Table DeviceId DeviceFeatureState → Access (Table DeviceId DeviceFeatureState)
  | [], states => pure states
  | device :: rest, states =>
    match configuredFeatureState config device with
    | some defaults => do
        let state ← loadConfigured config device defaults
        loadDevices config rest (states.insert device state)
    | none => loadDevices config rest states

/-- Builds the states of all configured devices. -/
def loadConfiguration (config : ModuleConfig) : Access (Table DeviceId DeviceFeatureState) :=
  loadDevices config config.sortedDevices ∅

/-! ## Saving -/

/-- A write of the feature store. -/
abbrev FeatureWrite := UndoLog.Write (String × String) String

def scalarWrite (suffix : String) (differsFromDefault : Bool)
    (encoded : String) : FeatureWrite where
  key := (FEATURE_FAMILY, key device suffix)
  value := if differsFromDefault then some encoded else none

def forwardingWrite (suffix : String)
    (value default : Option ForwardingDestination) : FeatureWrite :=
  scalarWrite device suffix (value ≠ default) (encodeForwarding value)

def buttonWrite (state defaults : DeviceFeatureState) (buttonInstance : Nat) : FeatureWrite :=
  let enabled := (state.buttons.get? buttonInstance).getD false
  let default := (defaults.buttons.get? buttonInstance).getD false
  scalarWrite device (buttonSuffix buttonInstance) (enabled ≠ default) (encodeBool enabled)

/-- The buttons of either state, in order. -/
def buttonInstances (state defaults : DeviceFeatureState) : List Nat :=
  sorted (state.buttons.keys ++ defaults.buttons.keys).dedup

def featureWrites (state defaults : DeviceFeatureState) : List FeatureWrite :=
  [scalarWrite device "dnd" (state.dnd ≠ defaults.dnd) (encodeDnd state.dnd),
    scalarWrite device "privacy" (state.privacy ≠ defaults.privacy) (encodeBool state.privacy),
    scalarWrite device "recording/armed" (state.recordingArmed ≠ defaults.recordingArmed)
      (encodeBool state.recordingArmed),
    forwardingWrite device "forward/all" state.forwarding.all defaults.forwarding.all,
    forwardingWrite device "forward/busy" state.forwarding.busy defaults.forwarding.busy,
    forwardingWrite device "forward/no-answer" state.forwarding.noAnswer
      defaults.forwarding.noAnswer]
  ++ (buttonInstances state defaults).map (buttonWrite device state defaults)

/-- Writes with an undo log that covers the failing write. -/
def applyTransaction (writes : List FeatureWrite) : Access Unit := fun s =>
  match UndoLog.transact writes s with
  | (.ok (), s) => (.ok (), s)
  | (.error (.failed source), s) => (.error (.storage source), s)
  | (.error (.rollback source rollback), s) => (.error (.rollback source rollback), s)

/-- Persists differences from configured defaults and deletes redundant keys. -/
def save (state defaults : DeviceFeatureState) : Access Unit :=
  match state.buttons.keys.find? fun buttonInstance =>
      !defaults.buttons.contains buttonInstance with
  | some buttonInstance => Access.of (.error (.unknownFeatureButton device buttonInstance))
  | none => applyTransaction (featureWrites device state defaults)

instance : DecidableRel DeviceFeatureState.Same := fun a b =>
  decidable_of_iff (a.dnd = b.dnd ∧ a.privacy = b.privacy ∧ a.recordingArmed = b.recordingArmed
      ∧ a.forwarding = b.forwarding
      ∧ ∀ k ∈ a.buttons.keys ++ b.buttons.keys, a.buttons.get? k = b.buttons.get? k)
    ⟨fun ⟨hdnd, hprivacy, hrecording, hforwarding, hbuttons⟩ =>
      ⟨hdnd, hprivacy, hrecording, hforwarding, fun k => by
        by_cases hk : k ∈ a.buttons.keys ++ b.buttons.keys
        · exact hbuttons k hk
        · rw [List.mem_append, not_or] at hk
          rw [Table.get?_eq_none.mpr hk.1, Table.get?_eq_none.mpr hk.2]⟩,
      fun h => ⟨h.dnd, h.privacy, h.recordingArmed, h.forwarding, fun k _ => h.buttons k⟩⟩

/-- Persists a proposed state before it is committed in memory. -/
def update (current defaults : DeviceFeatureState)
    (mutation : DeviceFeatureState → DeviceFeatureState) : Access DeviceFeatureState :=
  let next := mutation current
  if next.Same current then pure next
  else do
    save device next defaults
    pure next

/-- Saves the states of the devices; no state at all for one of them is a panic. -/
def saveDevices (config : ModuleConfig) (states : Table DeviceId DeviceFeatureState) :
    List DeviceId → PersistentStore → Option (Except FeatureStoreError Unit × PersistentStore)
  | [], s => some (.ok (), s)
  | device :: rest, s =>
    match configuredFeatureState config device, states.get? device with
    | some defaults, some state =>
      match save device state defaults s with
      | (.ok (), s) => saveDevices config states rest s
      | (.error e, s) => some (.error e, s)
    | _, _ => none

/-- Removes redundant overrides after a configuration has become live. -/
def reconcileConfiguration (config : ModuleConfig) (states : Table DeviceId DeviceFeatureState)
    (s : PersistentStore) : Option (Except FeatureStoreError Unit × PersistentStore) :=
  saveDevices config states config.sortedDevices s

end Sccp.Features
