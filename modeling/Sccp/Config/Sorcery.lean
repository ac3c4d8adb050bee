/-
  Sccp.Config.Sorcery

  The configuration that comes from Sorcery objects.

  The devices and lines a deployment desires are laid over the static base file.  A provider
  compiles the two into one candidate; the driver applies it and then tells the provider that
  it is active, and only then is the inventory it was compiled from kept as the last known
  good one.  The first load may fall back to that inventory, a refresh may not.
-/

import Sccp.Message.Codec
import Mathlib.Data.List.Sort

namespace Sccp.Config

open Sccp

/-! ## Objects -/

structure SorceryField where
  name : String
  value : String
  deriving DecidableEq

structure OrderedSorceryObject where
  id : String
  fields : List SorceryField
  deriving DecidableEq

structure SorceryInventory where
  devices : List OrderedSorceryObject := []
  lines : List OrderedSorceryObject := []
  deriving DecidableEq

inductive ConfigOverlayKind where
  | device | line
  deriving DecidableEq

structure ConfigOverlayValue where
  key : String
  value : Option String
  deriving DecidableEq

structure ConfigOverlaySection where
  name : String
  source : String
  line : Nat
  kind : Option ConfigOverlayKind
  parents : List String
  delete : Bool
  values : List ConfigOverlayValue
  deriving DecidableEq

inductive SorceryObjectError where
  | emptyId
  | duplicateObject (kind id : String)
  | emptyFieldName
  | duplicateField (field : String)
  | invalidPosition (field position : String)
  | duplicatePosition (field base : String) (position : Nat)
  | missingPosition (field : String)
  | indexedScalar (field : String)
  | emptyIndexedValue (field : String)
  | explicitType
  deriving DecidableEq

/-- `str::to_ascii_lowercase`. -/
def toAsciiLowercase (text : String) : String := String.ofList (text.toList.map Char.toLower)

def normalizeName (raw : String) : String :=
  String.ofList ((raw.toList.filter Char.isAlphanum).map Char.toLower)

def kindName : ConfigOverlayKind → String
  | .device => "device"
  | .line => "line"

def isRepeatable (kind : ConfigOverlayKind) (normalized : String) : Bool :=
  normalized ∈ ["setvar", "allow", "disallow"]
    || kind = .device && normalized ∈
      ["deny", "permit", "permithost", "featuredefault", "dndschedule", "line", "button"]

/-- `rsplit_once('.')`. -/
def rsplitOnceDot (text : String) : Option (String × String) :=
  if '.' ∈ text.toList then
    let suffix := (text.toList.reverse.takeWhile (· ≠ '.')).reverse
    some (String.ofList (text.toList.take (text.toList.length - suffix.length - 1)),
      String.ofList suffix)
  else none

/-- The number that decimal digits write. -/
def decimal (digits : String) : Nat :=
  digits.toList.foldl (fun value c => value * 10 + (c.toNat - '0'.toNat)) 0

def splitPosition (name : String) : Except SorceryObjectError (String × Option Nat) :=
  match rsplitOnceDot name with
  | none => .ok (name, none)
  | some (base, suffix) =>
    if suffix = "" || !suffix.toList.all Char.isDigit then .ok (name, none)
    else if base = "" then .error .emptyFieldName
    else if decimal suffix < 2 ^ 32 then .ok (base, some (decimal suffix))
    else .error (.invalidPosition name suffix)

/-- What the fields of an object before one have left. -/
structure Fields where
  names : List String := []
  positions : List (String × Nat) := []
  scalars : List (String × String) := []
  /-- Position, ordinal, name and value. -/
  indexed : List (Nat × Nat × String × String) := []

def Fields.add (kind : ConfigOverlayKind) (fields : Fields) (ordinal : Nat)
    (field : SorceryField) : Except SorceryObjectError Fields := do
  let name := trim field.name
  if name = "" then throw .emptyFieldName
  if toAsciiLowercase name ∈ fields.names then throw (.duplicateField name)
  let fields := { fields with names := toAsciiLowercase name :: fields.names }
  let (base, position) ← splitPosition name
  let normalized := normalizeName base
  if normalized = "type" then throw .explicitType
  let repeatable := isRepeatable kind normalized || normalized = "template"
  match position with
  | some position =>
    if !repeatable then throw (.indexedScalar name)
    if field.value = "" then throw (.emptyIndexedValue name)
    if (normalized, position) ∈ fields.positions then
      throw (.duplicatePosition name base position)
    return { fields with
      positions := (normalized, position) :: fields.positions
      indexed :=
        fields.indexed ++ [(position, ordinal, toAsciiLowercase base, field.value)] }
  | none =>
    if repeatable then throw (.missingPosition name)
    return { fields with
      scalars := fields.scalars ++ [(toAsciiLowercase base, field.value)] }

/-- Indexed fields are ordered by position, then by ordinal; no two have one ordinal. -/
def IndexedLe (left right : Nat × Nat × String × String) : Prop :=
  left.1 < right.1 ∨ left.1 = right.1 ∧ left.2.1 ≤ right.2.1

instance : DecidableRel IndexedLe := fun _ _ => inferInstanceAs (Decidable (_ ∨ _))

def objectOverlay (kind : ConfigOverlayKind) (object : OrderedSorceryObject) :
    Except SorceryObjectError ConfigOverlaySection := do
  let id := trim object.id
  if id = "" then throw .emptyId
  let fields ← object.fields.zipIdx.foldlM
    (fun (fields : Fields) field => fields.add kind field.2 field.1) {}
  let indexed := (fields.indexed.insertionSort IndexedLe).map
    fun field => (field.2.2.1, field.2.2.2)
  let (parents, values) :=
    (fields.scalars ++ indexed).partition fun field => normalizeName field.1 = "template"
  return {
    name := id
    source := "sorcery " ++ kindName kind ++ " " ++ id
    line := 1
    kind := some kind
    parents := parents.map Prod.snd
    delete := false
    values := values.map fun field => ⟨field.1, some field.2⟩ }

/-- The objects of one kind, with the identities and the overlays of those before them. -/
def objectOverlays (kind : ConfigOverlayKind) (objects : List OrderedSorceryObject)
    (before : List String × List ConfigOverlaySection) :
    Except SorceryObjectError (List String × List ConfigOverlaySection) :=
  let ordered := objects.insertionSort
    fun left right => toAsciiLowercase left.id ≤ toAsciiLowercase right.id
  ordered.foldlM (fun (objectIds, overlays) object => do
      let identity := toAsciiLowercase (trim object.id)
      if identity ∈ objectIds then throw (.duplicateObject (kindName kind) object.id)
      return (identity :: objectIds, overlays ++ [← objectOverlay kind object]))
    before

def inventoryOverlays (inventory : SorceryInventory) :
    Except SorceryObjectError (List ConfigOverlaySection) := do
  let devices ← objectOverlays .device inventory.devices ([], [])
  return (← objectOverlays .line inventory.lines devices).2

/-! ## Compiling a candidate -/

inductive ConfigurationSource where
  | file | sorcery
  deriving DecidableEq

/-- What the parser of configuration files makes of a base file: its selected source, and the
    configuration under a list of overlays. -/
structure ConfigParser (Config ConfigError : Type) where
  configurationSource : String → Except ConfigError ConfigurationSource
  parse : String → List ConfigOverlaySection → Except ConfigError Config
  baseOrigin : String

/-- `ConfigurationProviderError`; the messages are kept as the data they are made of. -/
inductive ProviderError (ConfigError : Type) where
  | read (path source : String)
  | invalid (origin : String) (source : ConfigError)
  | unavailable (provider message : String)
  | objects (provider : String) (source : SorceryObjectError)
  | fallbackUnreadable (desired : ProviderError ConfigError) (message : String)
  | fallbackRejected (desired source : ProviderError ConfigError)

variable {Config ConfigError : Type}

abbrev Answer (ConfigError Value : Type) := Except (ProviderError ConfigError) Value

def ConfigParser.compile (parser : ConfigParser Config ConfigError) (contents : String)
    (inventory : SorceryInventory) (origin : String) : Answer ConfigError Config :=
  match inventoryOverlays inventory with
  | .error error => .error (.objects origin error)
  | .ok overlays =>
    match parser.parse contents overlays with
    | .error source => .error (.invalid origin source)
    | .ok config => .ok config

/-! ## The provider -/

structure PendingCandidate (Config : Type) where
  config : Config
  inventory : Option SorceryInventory

structure ProviderState (Config ConfigError : Type) where
  pending : Option (PendingCandidate Config) := none
  rejectedDesired : Option (ProviderError ConfigError) := none

/-- What the sources of a load or a refresh give while it runs. -/
structure Sources (ConfigError : Type) where
  base : Answer ConfigError String
  desired : Except String SorceryInventory
  /-- What loading the last known good inventory fails with, if it fails. -/
  lastKnownGoodError : Option String := none

namespace ProviderState

def remember (_ : ProviderState Config ConfigError) (config : Config)
    (inventory : Option SorceryInventory) (rejected : Option (ProviderError ConfigError)) :
    ProviderState Config ConfigError × Answer ConfigError Config :=
  (⟨some ⟨config, inventory⟩, rejected⟩, .ok config)

def fallback (parser : ConfigParser Config ConfigError) (s : ProviderState Config ConfigError)
    (contents : String) (lastKnownGood : Except String (Option SorceryInventory))
    (desiredError : ProviderError ConfigError) :
    ProviderState Config ConfigError × Answer ConfigError Config :=
  match lastKnownGood with
  | .error error => (s, .error (.fallbackUnreadable desiredError error))
  | .ok none => (s, .error desiredError)
  | .ok (some inventory) =>
    match parser.compile contents inventory "sorcery last-known-good" with
    | .error error => (s, .error (.fallbackRejected desiredError error))
    | .ok config => s.remember config none (some desiredError)

def reject (s : ProviderState Config ConfigError) (error : ProviderError ConfigError) :
    ProviderState Config ConfigError × Answer ConfigError Config :=
  ({ s with rejectedDesired := some error }, .error error)

def loadCandidate (parser : ConfigParser Config ConfigError)
    (s : ProviderState Config ConfigError) (allowFallback : Bool) (sources : Sources ConfigError)
    (lastKnownGood : Option SorceryInventory) :
    ProviderState Config ConfigError × Answer ConfigError Config :=
  let stored : Except String (Option SorceryInventory) :=
    match sources.lastKnownGoodError with
    | some error => .error error
    | none => .ok lastKnownGood
  match sources.base with
  | .error error => (s, .error error)
  | .ok contents =>
    match parser.configurationSource contents with
    | .error error => (s, .error (.invalid parser.baseOrigin error))
    | .ok .file =>
      (s, .error (.unavailable "sorcery" "configuration_source must be sorcery"))
    | .ok .sorcery =>
      match sources.desired with
      | .error message =>
        let error := .unavailable "sorcery desired inventory" message
        if allowFallback then s.fallback parser contents stored error
        else s.reject error
      | .ok desired =>
        match parser.compile contents desired "sorcery desired inventory" with
        | .ok config => s.remember config (some desired) none
        | .error error =>
          if allowFallback then s.fallback parser contents stored error
          else s.reject error

/-- The state, the inventory to store as the last known good one, and the reply. -/
def activated [DecidableEq Config] (s : ProviderState Config ConfigError) (config : Config)
    (storeError : Option String) :
    ProviderState Config ConfigError × Option SorceryInventory × Answer ConfigError Unit :=
  match s.pending with
  | none =>
    (s, none, .error (.unavailable "sorcery activation"
      "configuration was not returned by the most recent load"))
  | some pending =>
    if pending.config = config then
      match pending.inventory, storeError with
      | some _, some message =>
        (s, none, .error (.unavailable "sorcery last-known-good store" message))
      | inventory, _ => ({ s with pending := none }, inventory, .ok ())
    else
      (s, none, .error (.unavailable "sorcery activation"
        "configuration does not match the most recent candidate"))

end ProviderState

/-! ## Runs -/

inductive ProviderCall (Config ConfigError : Type) where
  | load (sources : Sources ConfigError)
  | refresh (sources : Sources ConfigError)
  | activated (config : Config) (storeError : Option String)

/-- A call that has returned. -/
inductive Returned (Config ConfigError : Type) where
  | candidate (allowFallback : Bool) (sources : Sources ConfigError)
      (answer : Answer ConfigError Config)
  | activated (config : Config) (answer : Answer ConfigError Unit)

/-- A provider, the last known good inventory of its store, and the calls that have returned,
    the latest first. -/
structure Provider (Config ConfigError : Type) where
  state : ProviderState Config ConfigError := {}
  lastKnownGood : Option SorceryInventory
  returned : List (Returned Config ConfigError) := []

namespace Provider

def candidate (parser : ConfigParser Config ConfigError) (p : Provider Config ConfigError)
    (allowFallback : Bool) (sources : Sources ConfigError) : Provider Config ConfigError :=
  let (state, answer) := p.state.loadCandidate parser allowFallback sources p.lastKnownGood
  { p with state, returned := .candidate allowFallback sources answer :: p.returned }

def step [DecidableEq Config] (parser : ConfigParser Config ConfigError)
    (p : Provider Config ConfigError) :
    ProviderCall Config ConfigError → Provider Config ConfigError
  | .load sources => p.candidate parser true sources
  | .refresh sources => p.candidate parser false sources
  | .activated config storeError =>
    let (state, inventory, answer) := p.state.activated config storeError
    { state
      lastKnownGood := inventory.or p.lastKnownGood
      returned := .activated config answer :: p.returned }

end Provider

end Sccp.Config
