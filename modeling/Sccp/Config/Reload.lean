/-
  Sccp.Config.Reload

  Reloading the configuration.

  A plan compares two configurations and says which devices come, go or reconnect.  A reload
  may be restricted to one device, line or soft-key profile; the candidate is then checked
  against the configuration it replaces.
-/

import Mathlib.Data.Finset.SymmDiff
import Sccp.Config.Sorcery
import Sccp.Lib.Table
import Sccp.Types

namespace Sccp.Reload

open Sccp.Config (toAsciiLowercase)

/-! ## Configurations -/

/-- Options that a reload compares and nothing else here reads. -/
abbrev Options := List (String × String)

inductive MediaEncryptionRequirement where
  | off | optional | required
  deriving DecidableEq

inductive EncryptionMethod where
  | aes128HmacSha1_32 | aes128HmacSha1_80 | f8_128HmacSha1_32 | f8_128HmacSha1_80
  | aeadAes128Gcm | aeadAes256Gcm
  deriving DecidableEq

structure MediaEncryptionPolicy where
  requirement : MediaEncryptionRequirement := .off
  preferences : List EncryptionMethod := []
  deriving DecidableEq

structure AudioProcessingPolicy where
  echoCancellation : Bool := true
  silenceSuppression : Bool := false
  deriving DecidableEq

inductive DtmfMode where
  | auto | rfc2833 | skinny
  deriving DecidableEq

inductive VideoMode where
  | off | user | auto
  deriving DecidableEq

inductive ConfigurationSource where
  | file | sorcery
  deriving DecidableEq

structure GeneralConfig where
  configurationSource : ConfigurationSource := .file
  interdigitTimeoutMs : Nat
  simulateEnbloc : Bool := false
  speedDialAwaitFurtherDigits : Bool := false
  codecs : List Codec
  audioEncryption : MediaEncryptionPolicy := {}
  conferenceDialing : Options := []
  autoAnswer : Options := []
  directMedia : Bool := false
  earlyMedia : Bool := false
  audioProcessing : AudioProcessingPolicy := {}
  jitterBuffer : Options := []
  rest : Options := []
  deriving DecidableEq

/-- One device's presentation of a line. -/
structure LineAppearance where
  «instance» : Nat
  number : String
  rest : Options := []
  deriving DecidableEq

inductive ButtonDefinition where
  | line (appearance : LineAppearance)
  | other (options : Options)
  deriving DecidableEq

structure DeviceMediaConfig where
  codecs : List Codec
  audioEncryption : MediaEncryptionPolicy := {}
  dtmfMode : DtmfMode := .auto
  directMedia : Bool := false
  earlyMedia : Bool := false
  deriving DecidableEq

structure DeviceConfig where
  id : DeviceId
  buttons : List ButtonDefinition
  softKeyProfile : String
  dndSchedules : Options := []
  background : Option String := none
  media : DeviceMediaConfig
  rest : Options := []
  deriving DecidableEq

structure LineConfig where
  number : String
  mailbox : Option String := none
  rest : Options := []
  deriving DecidableEq

structure LineMediaConfig where
  codecs : List Codec
  audioEncryption : MediaEncryptionPolicy := {}
  videoMode : VideoMode := .auto
  audioProcessing : AudioProcessingPolicy := {}
  deriving DecidableEq

structure LineFeatureConfig where
  media : LineMediaConfig
  rest : Options := []
  deriving DecidableEq

structure SoftKeyProfile where
  name : String
  sets : Options := []
  deriving DecidableEq

structure LineBinding where
  deviceId : DeviceId
  lineInstance : Nat
  appearance : LineAppearance
  line : LineConfig
  deriving DecidableEq

structure ModuleConfig where
  general : GeneralConfig
  devices : Table DeviceId DeviceConfig
  lines : Table String LineConfig
  lineFeatures : Table String LineFeatureConfig
  softKeyProfiles : Table String SoftKeyProfile
  bindings : List LineBinding
  bindingsByLine : Table String (List Nat)
  bindingsByDevice : Table DeviceId (List Nat)
  deviceCodecOverrides : Finset DeviceId
  lineCodecOverrides : Finset String
  deviceAudioEncryptionOverrides : Finset DeviceId
  lineAudioEncryptionOverrides : Finset String

structure ResolvedMediaConfig where
  codecs : List Codec
  audioEncryption : MediaEncryptionPolicy
  dtmfMode : DtmfMode
  directMedia : Bool
  earlyMedia : Bool
  videoMode : VideoMode
  audioProcessing : AudioProcessingPolicy
  deriving DecidableEq

namespace ModuleConfig

def appearancesForLine (config : ModuleConfig) (number : String) : List LineBinding :=
  ((config.bindingsByLine.get? number).getD []).filterMap fun index => config.bindings[index]?

def appearancesForDevice (config : ModuleConfig) (device : DeviceId) : List LineBinding :=
  ((config.bindingsByDevice.get? device).getD []).filterMap fun index => config.bindings[index]?

def featuresForLine (config : ModuleConfig) (number : String) : Option LineFeatureConfig :=
  config.lineFeatures.get? number

def mediaForLine (config : ModuleConfig) (number : String) : Option LineMediaConfig :=
  (config.lineFeatures.get? number).map (·.media)

/-- A setting of a line comes before that of its device and that before the general one. -/
def mediaForBinding (config : ModuleConfig) (binding : LineBinding) : Option ResolvedMediaConfig :=
  match config.devices.get? binding.deviceId, config.lineFeatures.get? binding.line.number with
  | some deviceConfig, some line =>
    some {
      codecs :=
        if binding.line.number ∈ config.lineCodecOverrides then line.media.codecs
        else if binding.deviceId ∈ config.deviceCodecOverrides then deviceConfig.media.codecs
        else config.general.codecs
      audioEncryption :=
        if binding.line.number ∈ config.lineAudioEncryptionOverrides then
          line.media.audioEncryption
        else if binding.deviceId ∈ config.deviceAudioEncryptionOverrides then
          deviceConfig.media.audioEncryption
        else config.general.audioEncryption
      dtmfMode := deviceConfig.media.dtmfMode
      directMedia := deviceConfig.media.directMedia
      earlyMedia := deviceConfig.media.earlyMedia
      videoMode := line.media.videoMode
      audioProcessing := line.media.audioProcessing }
  | _, _ => none

end ModuleConfig

/-! ## Assembly -/

inductive ConfigError where
  | duplicateSection (name : String)
  | unknownLine (device : DeviceId) (line : String)
  | invalidValue (key value : String)
  | empty
  | unassignedLine (line : String)
  deriving DecidableEq

/-- A line section as it is typed, and whether it sets codecs or audio encryption itself. -/
structure LineSection where
  line : LineConfig
  features : LineFeatureConfig
  hasCodecSettings : Bool := false
  hasAudioEncryptionSetting : Bool := false

structure DeviceSection where
  config : DeviceConfig
  hasCodecSettings : Bool := false
  hasAudioEncryptionSetting : Bool := false

/-- A binding joins the tables under its line and its device. -/
def addBinding (config : ModuleConfig) (binding : LineBinding) : ModuleConfig :=
  let index := config.bindings.length
  { config with
    bindings := config.bindings ++ [binding]
    bindingsByLine := config.bindingsByLine.insert binding.line.number
      ((config.bindingsByLine.get? binding.line.number).getD [] ++ [index])
    bindingsByDevice := config.bindingsByDevice.insert binding.deviceId
      ((config.bindingsByDevice.get? binding.deviceId).getD [] ++ [index]) }

/-- The line buttons of a device, each line and each instance once. -/
def bindButtons (device : DeviceConfig) : List ButtonDefinition → List String → List Nat →
    ModuleConfig → Except ConfigError ModuleConfig
  | [], _, _, config => .ok config
  | .other _ :: buttons, seen, instances, config => bindButtons device buttons seen instances config
  | .line appearance :: buttons, seen, instances, config =>
    if appearance.number ∈ seen then
      .error (.invalidValue (device.id.name ++ ".line") appearance.number)
    else
      match config.lines.get? appearance.number with
      | none => .error (.unknownLine device.id appearance.number)
      | some line =>
        if appearance.instance ∈ instances then
          .error (.invalidValue (device.id.name ++ ".line_instance") (toString appearance.instance))
        else
          bindButtons device buttons (appearance.number :: seen)
            (appearance.instance :: instances) (addBinding config
              { deviceId := device.id, lineInstance := appearance.instance, appearance, line })

def addLine (config : ModuleConfig) («section» : LineSection) : Except ConfigError ModuleConfig :=
  let number := «section».line.number
  if config.lines.contains number then .error (.duplicateSection number)
  else .ok { config with
    lines := config.lines.insert number «section».line
    lineFeatures := config.lineFeatures.insert number «section».features
    lineCodecOverrides :=
      if «section».hasCodecSettings then insert number config.lineCodecOverrides
      else config.lineCodecOverrides
    lineAudioEncryptionOverrides :=
      if «section».hasAudioEncryptionSetting then
        insert number config.lineAudioEncryptionOverrides
      else config.lineAudioEncryptionOverrides }

def addDevice (config : ModuleConfig) («section» : DeviceSection) :
    Except ConfigError ModuleConfig :=
  let id := «section».config.id
  if config.devices.contains id then .error (.duplicateSection id.name)
  else .ok { config with
    devices := config.devices.insert id «section».config
    deviceCodecOverrides :=
      if «section».hasCodecSettings then insert id config.deviceCodecOverrides
      else config.deviceCodecOverrides
    deviceAudioEncryptionOverrides :=
      if «section».hasAudioEncryptionSetting then insert id config.deviceAudioEncryptionOverrides
      else config.deviceAudioEncryptionOverrides }

/-- The configuration that typed sections make.  Checks of a single option are made before, and
    the profiles are the built-in one and those of the file. -/
def fromSections (general : GeneralConfig) (profiles : List SoftKeyProfile)
    (lines : List LineSection) (devices : List DeviceSection) : Except ConfigError
      ModuleConfig := do
  let config : ModuleConfig :=
    { general, devices := ∅, lines := ∅, lineFeatures := ∅
      softKeyProfiles := profiles.foldl (fun table profile =>
        table.insert (toAsciiLowercase (trim profile.name)) profile) ∅
      bindings := [], bindingsByLine := ∅, bindingsByDevice := ∅, deviceCodecOverrides := ∅
      lineCodecOverrides := ∅, deviceAudioEncryptionOverrides := ∅
      lineAudioEncryptionOverrides := ∅ }
  let config ← lines.foldlM addLine config
  let config ← devices.foldlM addDevice config
  if general.configurationSource = .file ∧ (devices = [] ∨ lines = []) then throw .empty
  let sorted := config.devices.values.insertionSort fun a b => a.id.name ≤ b.id.name
  let config ← sorted.foldlM (fun config device => bindButtons device device.buttons [] [] config)
    config
  match config.lines.keys.find? fun line => ¬ config.bindingsByLine.contains line with
  | some line =>
    if general.configurationSource = .file then throw (.unassignedLine line) else return config
  | none => return config

/-! ## Plan -/

structure MwiSubscriptionChange where
  line : String
  mailbox : String
  deriving DecidableEq

structure ReloadPlan where
  added : List DeviceId
  changed : List DeviceId
  removed : List DeviceId
  mwiAdd : List MwiSubscriptionChange
  mwiRemove : List MwiSubscriptionChange
  deriving DecidableEq

def stationGlobalPolicyChanged (previous next : ModuleConfig) : Bool :=
  previous.general.interdigitTimeoutMs ≠ next.general.interdigitTimeoutMs
    || previous.general.simulateEnbloc ≠ next.general.simulateEnbloc
    || previous.general.speedDialAwaitFurtherDigits ≠ next.general.speedDialAwaitFurtherDigits
    || previous.general.codecs ≠ next.general.codecs
    || previous.general.conferenceDialing ≠ next.general.conferenceDialing
    || previous.general.autoAnswer ≠ next.general.autoAnswer
    || previous.general.directMedia ≠ next.general.directMedia
    || previous.general.earlyMedia ≠ next.general.earlyMedia
    || previous.general.audioProcessing ≠ next.general.audioProcessing
    || previous.general.jitterBuffer ≠ next.general.jitterBuffer

/-- Schedules and backgrounds are applied without a new session. -/
def stationDefinition (device : DeviceConfig) : DeviceConfig :=
  { device with dndSchedules := [], background := none }

def stationConfigurationChanged (previous next : ModuleConfig) (device : DeviceId) : Bool :=
  match previous.devices.get? device, next.devices.get? device with
  | some previousDevice, some nextDevice =>
    let previousBindings := previous.appearancesForDevice device
    let nextBindings := next.appearancesForDevice device
    stationDefinition previousDevice ≠ stationDefinition nextDevice
      || previous.softKeyProfiles.get? previousDevice.softKeyProfile
          ≠ next.softKeyProfiles.get? nextDevice.softKeyProfile
      || previousBindings ≠ nextBindings
      || (previousBindings ++ nextBindings).any fun binding =>
        previous.featuresForLine binding.line.number ≠ next.featuresForLine binding.line.number
          || previous.mediaForLine binding.line.number ≠ next.mediaForLine binding.line.number
  | _, _ => false

def configuredMailboxes (config : ModuleConfig) : Table String String :=
  config.lines.values.foldl (fun mailboxes line =>
    match line.mailbox with
    | some mailbox => mailboxes.insert line.number mailbox
    | none => mailboxes) ∅

/-- The mailboxes that are not watched in the same way before, by line. -/
def newMailboxes (before after : Table String String) : List MwiSubscriptionChange :=
  ((after.entries.filter fun entry => before.get? entry.1 ≠ some entry.2).map fun entry =>
    { line := entry.1, mailbox := entry.2 }).insertionSort fun a b => a.line ≤ b.line

def sortedIds (ids : List DeviceId) : List DeviceId :=
  ids.insertionSort fun a b => a.name ≤ b.name

namespace ReloadPlan

def build (previous next : ModuleConfig) : ReloadPlan :=
  let globalChange := stationGlobalPolicyChanged previous next
  { added := sortedIds (next.devices.keys.filter fun id => ¬ previous.devices.contains id)
    removed := sortedIds (previous.devices.keys.filter fun id => ¬ next.devices.contains id)
    changed := sortedIds (previous.devices.keys.filter fun id =>
      next.devices.contains id && (globalChange || stationConfigurationChanged previous next id))
    mwiAdd := newMailboxes (configuredMailboxes previous) (configuredMailboxes next)
    mwiRemove := newMailboxes (configuredMailboxes next) (configuredMailboxes previous) }

def devices (plan : ReloadPlan) : List DeviceId := plan.added ++ plan.changed ++ plan.removed

end ReloadPlan

/-! ## Selection -/

inductive ReloadSelection where
  | complete
  | device (id : DeviceId)
  | line (number : String)
  | softKeyProfile (name : String)
  deriving DecidableEq

inductive ReloadSelectionError where
  | unknownTarget | inconsistentCandidate
  deriving DecidableEq

def lineConsumers (previous next : ModuleConfig) (line : String) : List DeviceId :=
  (previous.appearancesForLine line ++ next.appearancesForLine line).map (·.deviceId)

def profileConsumers (previous next : ModuleConfig) (profile : String) : List DeviceId :=
  ((previous.devices.values ++ next.devices.values).filter
    fun device => device.softKeyProfile = profile).map (·.id)

structure ConfigurationChanges where
  general : Bool
  devices : Finset DeviceId
  lines : Finset String
  profiles : Finset String

def changedKeys {K V : Type} [DecidableEq K] [DecidableEq V] (previous next : Table K V) :
    Finset K :=
  (previous.keys ++ next.keys).toFinset.filter fun key => previous.get? key ≠ next.get? key

/-- The audio encryption that a device or a line sets itself is not compared. -/
def ConfigurationChanges.between (previous next : ModuleConfig) : ConfigurationChanges where
  general := previous.general ≠ next.general
  devices := changedKeys previous.devices next.devices
    ∪ symmDiff previous.deviceCodecOverrides next.deviceCodecOverrides
  lines := changedKeys previous.lines next.lines
    ∪ changedKeys previous.lineFeatures next.lineFeatures
    ∪ symmDiff previous.lineCodecOverrides next.lineCodecOverrides
  profiles := changedKeys previous.softKeyProfiles next.softKeyProfiles

def ReloadSelection.validate (selection : ReloadSelection) (previous next : ModuleConfig)
    (plan : ReloadPlan) : Except ReloadSelectionError Unit :=
  let changes := ConfigurationChanges.between previous next
  match selection with
  | .complete => .ok ()
  | .device target =>
    if ¬ previous.devices.contains target ∧ ¬ next.devices.contains target then
      .error .unknownTarget
    else if changes.general = false ∧ changes.lines = ∅ ∧ changes.profiles = ∅
        ∧ changes.devices ⊆ {target} ∧ (∀ id ∈ plan.devices, id = target)
        ∧ plan.mwiAdd = [] ∧ plan.mwiRemove = [] then .ok ()
    else .error .inconsistentCandidate
  | .line target =>
    if ¬ previous.lines.contains target ∧ ¬ next.lines.contains target then
      .error .unknownTarget
    else if changes.general = false ∧ changes.devices = ∅ ∧ changes.profiles = ∅
        ∧ changes.lines ⊆ {target} ∧ plan.added = [] ∧ plan.removed = []
        ∧ (∀ id ∈ plan.changed, id ∈ lineConsumers previous next target)
        ∧ (∀ change ∈ plan.mwiAdd ++ plan.mwiRemove, change.line = target) then .ok ()
    else .error .inconsistentCandidate
  | .softKeyProfile target =>
    if ¬ previous.softKeyProfiles.contains target
        ∧ ¬ next.softKeyProfiles.contains target then .error .unknownTarget
    else if changes.general = false ∧ changes.devices = ∅ ∧ changes.lines = ∅
        ∧ changes.profiles ⊆ {target} ∧ plan.added = [] ∧ plan.removed = []
        ∧ (∀ id ∈ plan.changed, id ∈ profileConsumers previous next target)
        ∧ plan.mwiAdd = [] ∧ plan.mwiRemove = [] then .ok ()
    else .error .inconsistentCandidate

end Sccp.Reload
