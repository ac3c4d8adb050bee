/-
  Sccp.Runtime.DndSchedule

  The owner of the do-not-disturb schedules (`asterisk/runtime/dnd_schedule.rs`).

  Each configured device has a compiled schedule with the phase last applied and a flag
  that the present phase is still to be applied.  A tick applies what is due, a reload
  reconciles a new candidate with the schedules in force, and the command line replaces the
  schedule of one device.  Setting the mode of a device may fail.
-/

import Sccp.State.DndSchedule

namespace Sccp.Dnd

open Config
open Features (PersistentStore)

/-- The clocks of the host: the local day and minute in a zone, and the server's own
    timing specifications. -/
structure Clock (TimeZone Moment : Type) where
  localTime : TimeZone → Moment → Weekday × Nat
  timingParses : String → Bool
  timingMatches : String → Moment → Bool

inductive DndScheduleSource where
  | configuration
  | override
  deriving DecidableEq

inductive DndSchedulePhase where
  | inactive
  | silent
  | reject
  deriving DecidableEq

def DndSchedulePhase.runtimeMode : DndSchedulePhase → Features.DndMode
  | .inactive => .off
  | .silent => .silent
  | .reject => .reject

inductive DeviceDndScheduleError where
  | validation (error : DndScheduleValidationError)
  | timing (spec : String)
  | emptySegment
  deriving DecidableEq

inductive DndScheduleRegistryError where
  | store (device : DeviceId) (source : DndScheduleStoreError)
  | invalidSchedule (device : DeviceId) (source : DeviceDndScheduleError)
  deriving DecidableEq

variable {TimeZone Moment : Type}

/-! ## Compiled schedules -/

structure CompiledDndRule (TimeZone : Type) where
  mode : DndScheduleMode
  timings : List String
  schedule : DndSchedule
  timezone : Option TimeZone
  deriving DecidableEq

def asteriskTimingSpec (segment : DndScheduleSegment) : Except DeviceDndScheduleError String :=
  if segment.endMinuteExclusive = 0 then .error .emptySegment
  else
    .ok (formatMinute segment.startMinute ++ "-" ++ formatMinute (segment.endMinuteExclusive - 1)
      ++ "," ++ segment.weekdays.display ++ ",*,*")

section Compile

variable (clock : Clock TimeZone Moment)

/-- The parsed timing of a segment. -/
def timingOf (segment : DndScheduleSegment) : Except DeviceDndScheduleError String := do
  let spec ← asteriskTimingSpec segment
  if clock.timingParses spec then .ok spec else .error (.timing spec)

def CompiledDndRule.new (schedule : DndSchedule) :
    Except DeviceDndScheduleError (CompiledDndRule TimeZone) := do
  let timings ← schedule.timingSegments.mapM (timingOf clock)
  .ok { mode := schedule.mode, timings, schedule, timezone := none }

/-- A rule without a zone goes by the server's timings. -/
def CompiledDndRule.matchesNow (rule : CompiledDndRule TimeZone) (now : Moment) : Bool :=
  match rule.timezone with
  | some zone =>
    rule.schedule.matchesAt (clock.localTime zone now).1 (clock.localTime zone now).2
  | none => rule.timings.any fun timing => clock.timingMatches timing now

def phase (compiled : List (CompiledDndRule TimeZone)) (now : Moment) : DndSchedulePhase :=
  match compiled.find? fun rule => rule.matchesNow clock now with
  | none => .inactive
  | some rule =>
    match rule.mode with
    | .silent => .silent
    | .reject => .reject

structure DeviceDndSchedule (TimeZone : Type) where
  timezone : Option TimeZone
  source : DndScheduleSource
  rules : List DndSchedule
  compiled : List (CompiledDndRule TimeZone)
  lastPhase : Option DndSchedulePhase
  pendingCatchup : Bool

def DeviceDndSchedule.compile (source : DndScheduleSource) (rules : List DndSchedule)
    (timezone : Option TimeZone) : Except DeviceDndScheduleError (DeviceDndSchedule TimeZone) := do
  let _ ← (validateDndSchedules rules).mapError .validation
  let compiled ← rules.mapM (CompiledDndRule.new clock)
  .ok {
    timezone
    source
    rules
    compiled := compiled.map fun rule => { rule with timezone }
    lastPhase := none
    pendingCatchup := !rules.isEmpty }

namespace DeviceDndSchedule

def phase (schedule : DeviceDndSchedule TimeZone) (now : Moment) : DndSchedulePhase :=
  Dnd.phase clock schedule.compiled now

/-- The phase a tick has to apply. -/
def due (schedule : DeviceDndSchedule TimeZone) (now : Moment) : Option DndSchedulePhase :=
  if schedule.rules.isEmpty && !schedule.pendingCatchup then none
  else if schedule.pendingCatchup || schedule.lastPhase ≠ some (schedule.phase clock now) then
    some (schedule.phase clock now)
  else none

/-- The schedule once a phase has been applied. -/
def settled (schedule : DeviceDndSchedule TimeZone) (phase : DndSchedulePhase) :
    DeviceDndSchedule TimeZone :=
  { schedule with
    lastPhase := if schedule.rules.isEmpty then none else some phase
    pendingCatchup := false }

end DeviceDndSchedule

end Compile

/-! ## The registry -/

abbrev DndScheduleRegistry (TimeZone : Type) := Table DeviceId (DeviceDndSchedule TimeZone)

structure ModuleConfig (TimeZone : Type) where
  timezone : Option TimeZone
  dndSchedules : Table DeviceId (List DndSchedule)

def ModuleConfig.sortedDevices (config : ModuleConfig TimeZone) :
    List (DeviceId × List DndSchedule) :=
  config.dndSchedules.entries.insertionSort fun a b => a.1.name ≤ b.1.name

/-- Compiles the schedules of devices one after the other, up to the first error. -/
def compileDevices (compileDevice : DeviceId → List DndSchedule → PersistentStore →
      Except DndScheduleRegistryError (DeviceDndSchedule TimeZone) × PersistentStore) :
    List (DeviceId × List DndSchedule) → DndScheduleRegistry TimeZone → PersistentStore →
      Except DndScheduleRegistryError (DndScheduleRegistry TimeZone) × PersistentStore
  | [], devices, s => (.ok devices, s)
  | (device, configured) :: rest, devices, s =>
    match compileDevice device configured s with
    | (.error e, s) => (.error e, s)
    | (.ok schedule, s) => compileDevices compileDevice rest (devices.insert device schedule) s

section Load

variable (clock : Clock TimeZone Moment) (format : DocumentFormat)

def loadDevice (timezone : Option TimeZone) (device : DeviceId) (configured : List DndSchedule)
    (s : PersistentStore) :
    Except DndScheduleRegistryError (DeviceDndSchedule TimeZone) × PersistentStore :=
  match loadOverride format device s with
  | (.error e, s) => (.error (.store device e), s)
  | (.ok (some rules), s) =>
    ((DeviceDndSchedule.compile clock .override rules timezone).mapError
      (.invalidSchedule device), s)
  | (.ok none, s) =>
    ((DeviceDndSchedule.compile clock .configuration configured timezone).mapError
      (.invalidSchedule device), s)

def load (config : ModuleConfig TimeZone) (s : PersistentStore) :
    Except DndScheduleRegistryError (DndScheduleRegistry TimeZone) × PersistentStore :=
  compileDevices (loadDevice clock format config.timezone) config.sortedDevices ∅ s

def fromConfiguration (config : ModuleConfig TimeZone) (s : PersistentStore) :
    Except DndScheduleRegistryError (DndScheduleRegistry TimeZone) × PersistentStore :=
  compileDevices (fun device configured s =>
    ((DeviceDndSchedule.compile clock .configuration configured config.timezone).mapError
      (.invalidSchedule device), s)) config.sortedDevices ∅ s

end Load

/-- A device under an override keeps it, read in the zone of the candidate; one that goes
    by the configuration takes the new one. -/
def reconcileDevice [DecidableEq TimeZone] (configured live : DndScheduleRegistry TimeZone)
    (device : DeviceId) (candidate : DeviceDndSchedule TimeZone) : DeviceDndSchedule TimeZone :=
  match live.get? device with
  | none => candidate
  | some current =>
    match current.source with
    | .configuration => (configured.get? device).getD candidate
    | .override =>
      if current.timezone ≠ candidate.timezone then
        { current with
          timezone := candidate.timezone
          compiled := current.compiled.map fun rule =>
            { rule with timezone := candidate.timezone }
          lastPhase := none
          pendingCatchup := current.pendingCatchup || !current.rules.isEmpty }
      else current

def preserveUnchangedPhase [DecidableEq TimeZone] (previous : DndScheduleRegistry TimeZone)
    (device : DeviceId) (current : DeviceDndSchedule TimeZone) : DeviceDndSchedule TimeZone :=
  match previous.get? device with
  | none => current
  | some old =>
    if old.rules = current.rules ∧ old.timezone = current.timezone then
      { current with lastPhase := old.lastPhase, pendingCatchup := old.pendingCatchup }
    else if current.rules.isEmpty then { current with pendingCatchup := true }
    else current

def reconcileLiveOwnership [DecidableEq TimeZone]
    (candidate configured live : DndScheduleRegistry TimeZone) : DndScheduleRegistry TimeZone :=
  (candidate.mapValues (reconcileDevice configured live)).mapValues (preserveUnchangedPhase live)

/-! ## The owner -/

inductive RuntimeDndMutationError where
  | deviceNotFound
  | store
  deriving DecidableEq

/-- What the mode of a device goes by: its rules and the zone they are read in. -/
structure Terms (TimeZone : Type) where
  rules : List DndSchedule
  timezone : Option TimeZone
  deriving DecidableEq

def DeviceDndSchedule.terms (schedule : DeviceDndSchedule TimeZone) : Terms TimeZone :=
  ⟨schedule.rules, schedule.timezone⟩

/-- An attempt to set the mode of a device, under the terms then in force. -/
structure Attempt (TimeZone : Type) where
  device : DeviceId
  terms : Option (Terms TimeZone)
  phase : DndSchedulePhase
  accepted : Bool

structure DndScheduleOwner (TimeZone : Type) where
  /-- The configuration in force. -/
  config : ModuleConfig TimeZone := ⟨none, ∅⟩
  /-- The modes of the devices. -/
  modes : DeviceId → Features.DndMode := fun _ => .off
  schedules : DndScheduleRegistry TimeZone := ∅
  store : PersistentStore
  /-- The candidate and the configured schedules of a reload. -/
  prepared : Option (DndScheduleRegistry TimeZone × DndScheduleRegistry TimeZone) := none

inductive ScheduleMutation where
  | add (rule : DndSchedule)
  | remove (index : Nat)
  | clear
  | reset
  deriving DecidableEq

/-- The answers of the command line. -/
inductive ScheduleReply where
  | notConfigured (device : DeviceId)
  | unavailable
  | maximum (rules : Nat)
  | indexRange (rules : Nat)
  | invalid (error : DeviceDndScheduleError)
  | store (error : DndScheduleStoreError)
  | rolledBack (error : RuntimeDndMutationError)
  | rollbackFailed (error : RuntimeDndMutationError) (rollback : DndScheduleStoreError)
  | updated (reset : Bool) (rules : Nat)
  deriving DecidableEq

namespace DndScheduleOwner

variable (clock : Clock TimeZone Moment) (format : DocumentFormat) (o : DndScheduleOwner TimeZone)

def terms (device : DeviceId) : Option (Terms TimeZone) :=
  (o.schedules.get? device).map DeviceDndSchedule.terms

/-- Sets the mode of a device, which `accepts` decides for a configured one. -/
def executeDndMutation (device : DeviceId) (mode : Features.DndMode) (accepts : DeviceId → Bool) :
    Except RuntimeDndMutationError Unit × DndScheduleOwner TimeZone :=
  if o.config.dndSchedules.contains device = false then (.error .deviceNotFound, o)
  else if accepts device then (.ok (), { o with modes := Function.update o.modes device mode })
  else (.error .store, o)

/-- An attempt to apply a scheduled phase. -/
def applyPhase (device : DeviceId) (phase : DndSchedulePhase) (accepts : DeviceId → Bool) :
    Except RuntimeDndMutationError Unit × DndScheduleOwner TimeZone × Attempt TimeZone :=
  let (result, next) := o.executeDndMutation device phase.runtimeMode accepts
  (result, next, ⟨device, o.terms device, phase, result.toBool⟩)

def dueDevices (now : Moment) : List (DeviceId × DndSchedulePhase) :=
  o.schedules.entries.filterMap fun e => (e.2.due clock now).map fun phase => (e.1, phase)

/-- Applies the phases that are due.  A device keeps its state where this fails. -/
def applyDue (accepts : DeviceId → Bool) : List (DeviceId × DndSchedulePhase) →
    DndScheduleOwner TimeZone → DndScheduleOwner TimeZone × List (Attempt TimeZone)
  | [], o => (o, [])
  | (device, phase) :: rest, o =>
    match o.applyPhase device phase accepts with
    | (.error _, o, attempt) =>
      let (o, attempts) := applyDue accepts rest o
      (o, attempt :: attempts)
    | (.ok (), o, attempt) =>
      let (o, attempts) := applyDue accepts rest
        { o with schedules := o.schedules.modify device (·.settled phase) }
      (o, attempt :: attempts)

def runDndScheduleTick (now : Moment) (accepts : DeviceId → Bool) :
    DndScheduleOwner TimeZone × List (Attempt TimeZone) :=
  applyDue accepts (o.dueDevices clock now) o

/-! ## The command line -/

/-- The rules of a device after a change. -/
def editRules (configured current : List DndSchedule) :
    ScheduleMutation → Except ScheduleReply (List DndSchedule)
  | .add rule =>
    if MAX_DND_SCHEDULES ≤ current.length then .error (.maximum MAX_DND_SCHEDULES)
    else .ok (current ++ [rule])
  | .remove index =>
    if index = 0 ∨ current.length < index then .error (.indexRange current.length)
    else .ok (current.eraseIdx (index - 1))
  | .clear => .ok []
  | .reset => .ok configured

/-- The schedule a change would install. -/
def planMutation (device : DeviceId) (mutation : ScheduleMutation) :
    Except ScheduleReply (DeviceDndSchedule TimeZone) :=
  match o.config.dndSchedules.get? device with
  | none => .error (.notConfigured device)
  | some configured =>
    match o.schedules.get? device with
    | none => .error .unavailable
    | some current => do
        let rules ← editRules configured current.rules mutation
        let source := if mutation = .reset then .configuration else .override
        (DeviceDndSchedule.compile clock source rules o.config.timezone).mapError .invalid

/-- Stores a change: a reset deletes the override. -/
def persistMutation (device : DeviceId) (mutation : ScheduleMutation) (rules : List DndSchedule)
    (s : PersistentStore) : Except DndScheduleStoreError Unit × PersistentStore :=
  if mutation = .reset then reset device s else putOverride format device rules s

/-- Installs a stored schedule and applies its phase; where that fails, the override and
    the schedule are put back. -/
def installMutation (device : DeviceId) (mutation : ScheduleMutation)
    (next : DeviceDndSchedule TimeZone) (snapshot : Option String) (now : Moment)
    (accepts : DeviceId → Bool) :
    DndScheduleOwner TimeZone × List (Attempt TimeZone) × ScheduleReply :=
  let previous := o.schedules.get? device
  let phase := next.phase clock now
  let installed := { o with schedules := o.schedules.insert device next }
  match installed.applyPhase device phase accepts with
  | (.error e, o, attempt) =>
    let (rollback, store) := restoreRaw device snapshot o.store
    let schedules := match previous with
      | some previous => o.schedules.insert device previous
      | none => o.schedules.erase device
    ({ o with store, schedules }, [attempt],
      match rollback with
      | .ok () => .rolledBack e
      | .error rollback => .rollbackFailed e rollback)
  | (.ok (), o, attempt) =>
    ({ o with schedules := o.schedules.modify device (·.settled phase) }, [attempt],
      .updated (mutation = .reset) next.rules.length)

def mutateSchedule (device : DeviceId) (mutation : ScheduleMutation) (now : Moment)
    (accepts : DeviceId → Bool) :
    DndScheduleOwner TimeZone × List (Attempt TimeZone) × ScheduleReply :=
  match o.planMutation clock device mutation with
  | .error reply => (o, [], reply)
  | .ok next =>
    match snapshotRaw device o.store with
    | (.error e, store) => ({ o with store }, [], .store e)
    | (.ok snapshot, store) =>
      match persistMutation format device mutation next.rules store with
      | (.error e, store) => ({ o with store }, [], .store e)
      | (.ok (), store) =>
        { o with store }.installMutation clock device mutation next snapshot now accepts

/-! ## Steps -/

/-- The two registries a reload prepares. -/
def stage (config : ModuleConfig TimeZone) : DndScheduleOwner TimeZone :=
  let (candidate, store) := load clock format config o.store
  let (configured, store) := fromConfiguration clock config store
  { o with
    store
    prepared := match candidate, configured with
      | .ok candidate, .ok configured => some (candidate, configured)
      | _, _ => none }

/-- A start of the module; without its schedules it does not come up. -/
def start (config : ModuleConfig TimeZone) : DndScheduleOwner TimeZone :=
  match load clock format config o.store with
  | (.ok schedules, store) => { config, modes := o.modes, schedules, store }
  | (.error _, store) => { modes := o.modes, store }

def install [DecidableEq TimeZone] (now : Moment) (accepts : DeviceId → Bool) :
    DndScheduleOwner TimeZone × List (Attempt TimeZone) :=
  match o.prepared with
  | none => (o, [])
  | some (candidate, configured) =>
    { o with
      schedules := reconcileLiveOwnership candidate configured o.schedules
      prepared := none }.runDndScheduleTick clock now accepts

end DndScheduleOwner

inductive Event (TimeZone Moment : Type) where
  | start (config : ModuleConfig TimeZone)
  | publish (config : ModuleConfig TimeZone)
  | stage (config : ModuleConfig TimeZone)
  | install (now : Moment) (accepts : DeviceId → Bool)
  | tick (now : Moment) (accepts : DeviceId → Bool)
  | mutate (device : DeviceId) (mutation : ScheduleMutation) (now : Moment)
      (accepts : DeviceId → Bool)
  | setByHand (device : DeviceId) (mode : Features.DndMode)

/-- One step of the owner, and the attempts to set a mode in it. -/
def DndScheduleOwner.handle [DecidableEq TimeZone] (clock : Clock TimeZone Moment)
    (format : DocumentFormat) (o : DndScheduleOwner TimeZone) :
    Event TimeZone Moment → DndScheduleOwner TimeZone × List (Attempt TimeZone)
  | .start config => (o.start clock format config, [])
  | .publish config => ({ o with config }, [])
  | .stage config => (o.stage clock format config, [])
  | .install now accepts => o.install clock now accepts
  | .tick now accepts => o.runDndScheduleTick clock now accepts
  | .mutate device mutation now accepts =>
    let (o, attempts, _) := o.mutateSchedule clock format device mutation now accepts
    (o, attempts)
  | .setByHand device mode => ({ o with modes := Function.update o.modes device mode }, [])

end Sccp.Dnd
