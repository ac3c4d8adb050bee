/-
  Sccp.Config.Inheritance

  Templates of the configuration file.

  A section may name parents, which have to be templates.  Its values are those of its parents
  from left to right and then its own, where an option that may not be repeated is taken from
  the last of them that sets it.  The search is depth first and keeps what it has resolved.
-/

import Sccp.Config.Sorcery
import Sccp.Lib.Table

namespace Sccp.Inheritance

open Sccp.Config (toAsciiLowercase normalizeName)

/-! ## Sections -/

structure RawValue where
  key : String
  value : String
  line : Nat
  «section» : String
  deriving DecidableEq

structure RawSection where
  name : String
  line : Nat
  isTemplate : Bool
  parents : List String
  values : List RawValue
  deriving DecidableEq

/-- The errors of this step. -/
inductive ConfigError where
  | missingTemplate («section» parent : String)
  | parentIsNotTemplate («section» parent : String)
  | wrongTemplateKind («section» childKind parent parentKind : String)
  | invalidTemplateKind («section» kind : String)
  | inheritanceCycle (path : String)
  deriving DecidableEq

/-- The last value with the key. -/
def value («section» : RawSection) (key : String) : Option String :=
  («section».values.reverse.find? fun value => toAsciiLowercase value.key = key).map (·.value)

inductive TemplateKind where
  | device | line
  deriving DecidableEq

namespace TemplateKind

def fromName (raw : String) : Option TemplateKind :=
  let name := toAsciiLowercase (trim raw)
  if name = "device" then some .device
  else if name = "line" then some .line
  else none

def asStr : TemplateKind → String
  | .device => "device"
  | .line => "line"

end TemplateKind

def resolvedTemplateKind («section» : RawSection) : Except ConfigError TemplateKind :=
  let raw := (value «section» "type").getD "missing"
  match TemplateKind.fromName raw with
  | some kind => .ok kind
  | none => .error (.invalidTemplateKind «section».name raw)

/-! ## Values -/

/-- The option that a key names, by whichever of its spellings. -/
def optionIdentity (kind : TemplateKind) (key : String) : String :=
  let normalized := normalizeName key
  match kind, normalized with
  | .device, "forwardallenabled" => "cfwdall"
  | .device, "forwardbusyenabled" => "cfwdbusy"
  | .device, "forwardnoanswerenabled" => "cfwdnoanswer"
  | .device, "forwardnoanswertimeout" => "cfwdnoanswertimeout"
  | .device, "privacyfeature" => "private"
  | .device, "transportrequirement" => "transport"
  | .device, "signalingtos" | .device, "sccpdscp" | .device, "signalingdscp" => "sccptos"
  | .device, "signalingcos" => "sccpcos"
  | .device, "audiodscp" => "audiotos"
  | .device, "videodscp" => "videotos"
  | .line, "voicemailnumber" => "vmnum"
  | .line, "voicemailtransfer" | .line, "transfertovoicemail" => "trnsfvm"
  | .line, "directedpickupmodeanswer" => "pickupmodeanswer"
  | _, _ => normalized

/-- Options that every contributor adds to. -/
def repeated (kind : TemplateKind) (identity : String) : Bool :=
  identity ∈ ["allow", "disallow", "deny", "permit", "permithost", "setvar"]
    || kind = .device ∧ identity ∈ ["button", "line", "featuredefault"]

/-- The first value of an option that may not be repeated replaces what is there of it. -/
def mergeValue (kind : TemplateKind) (state : List String × List RawValue) (value : RawValue) :
    List String × List RawValue :=
  let (overridden, merged) := state
  let identity := optionIdentity kind value.key
  if ¬ repeated kind identity ∧ identity ∉ overridden then
    (identity :: overridden,
      (merged.filter fun candidate => optionIdentity kind candidate.key ≠ identity) ++ [value])
  else (overridden, merged ++ [value])

def mergeValues (merged incoming : List RawValue) (kind : TemplateKind) : List RawValue :=
  (incoming.foldl (mergeValue kind) ([], merged)).2

/-! ## Search -/

/-- What a section has inherited so far. -/
structure Inherited where
  kind : Option TemplateKind
  values : List RawValue

/-- The values of a parent join those inherited from the parents before it. -/
def inherit («section» parent : RawSection) (inherited : Inherited) : Except ConfigError
    Inherited :=
  match resolvedTemplateKind parent with
  | .error e => .error e
  | .ok parentKind =>
    let values := mergeValues inherited.values parent.values parentKind
    match inherited.kind with
    | some childKind =>
      if childKind ≠ parentKind then
        .error (.wrongTemplateKind «section».name childKind.asStr parent.name parentKind.asStr)
      else .ok ⟨some childKind, values⟩
    | none =>
      match (value «section» "type").map trim with
      | some kind =>
        .error (.wrongTemplateKind «section».name kind parent.name parentKind.asStr)
      | none => .ok ⟨some parentKind, values⟩

/-- Nothing is inherited at first, and the kind is the one the section names. -/
def ownKind («section» : RawSection) : Inherited :=
  ⟨((value «section» "type").map trim).bind TemplateKind.fromName, []⟩

/-- The section with what it has inherited and its own values. -/
def finish («section» : RawSection) (inherited : Inherited) : Except ConfigError RawSection :=
  let values :=
    if «section».parents = [] then «section».values
    else
      match inherited.kind with
      | some kind => mergeValues inherited.values «section».values kind
      | none => «section».values
  let result := { «section» with values }
  if result.isTemplate then
    match resolvedTemplateKind result with
    | .ok _ => .ok result
    | .error e => .error e
  else .ok result

/-- `states` is 0 for a section not looked at, 1 for one on the stack and 2 for one resolved. -/
structure Search where
  states : List Nat
  resolved : List (Option RawSection)
  stack : List Nat

variable (sections : List RawSection) (indexes : Table String Nat)

/-- The loop over the parents of a section.  No outcome is a panic. -/
def inheritParents (resolve : Nat → Search → Option (Except ConfigError (RawSection × Search)))
    («section» : RawSection) :
    List String → Inherited → Search → Option (Except ConfigError (Inherited × Search))
  | [], inherited, search => some (.ok (inherited, search))
  | parentName :: parents, inherited, search =>
    match indexes.get? (toAsciiLowercase parentName) with
    | none => some (.error (.missingTemplate «section».name parentName))
    | some parentIndex =>
      match sections[parentIndex]? with
      | none => none
      | some parentSource =>
        if ¬ parentSource.isTemplate then
          some (.error (.parentIsNotTemplate «section».name parentSource.name))
        else
          match resolve parentIndex search with
          | none => none
          | some (.error e) => some (.error e)
          | some (.ok (parent, search)) =>
            match inherit «section» parent inherited with
            | .error e => some (.error e)
            | .ok inherited =>
              inheritParents resolve «section» parents inherited search

/-- The recursion is bounded by fuel.  No outcome is a panic, or the end of the fuel. -/
def resolveSection : Nat → Nat → Search → Option (Except ConfigError (RawSection × Search))
  | 0, _, _ => none
  | fuel + 1, index, search =>
    match sections[index]? with
    | none => none
    | some «section» =>
      if search.states[index]? = some 2 then
        match search.resolved[index]? with
        | some (some result) => some (.ok (result, search))
        | _ => none
      else if search.states[index]? = some 1 then
        let start := if index ∈ search.stack then search.stack.idxOf index else 0
        let cycle := (search.stack.drop start).filterMap fun candidate =>
          sections[candidate]?.map (·.name)
        some (.error (.inheritanceCycle (String.intercalate " -> " (cycle ++ [«section».name]))))
      else
        let search := { search with
          states := search.states.set index 1, stack := search.stack ++ [index] }
        match inheritParents sections indexes (resolveSection fuel) «section»
            «section».parents (ownKind «section») search with
        | none => none
        | some (.error e) => some (.error e)
        | some (.ok (inherited, search)) =>
          match finish «section» inherited with
          | .error e => some (.error e)
          | .ok result =>
            some (.ok (result, {
              states := search.states.set index 2
              resolved := search.resolved.set index (some result)
              stack := search.stack.dropLast }))

/-- The sections are resolved in the order of the file. -/
def resolveAll (fuel : Nat) : List Nat → Search → Option (Except ConfigError Search)
  | [], search => some (.ok search)
  | index :: rest, search =>
    match resolveSection sections indexes fuel index search with
    | none => none
    | some (.error e) => some (.error e)
    | some (.ok (_, search)) => resolveAll fuel rest search

/-- Where the sections are, by name. -/
def indexesOf : Table String Nat :=
  sections.zipIdx.foldl (fun indexes entry =>
    indexes.insert (toAsciiLowercase entry.1.name) entry.2) ∅

def resolveInheritance : Option (Except ConfigError (List RawSection)) :=
  let search : Search :=
    { states := List.replicate sections.length 0
      resolved := List.replicate sections.length none
      stack := [] }
  match resolveAll sections (indexesOf sections) (sections.length + 1)
      (List.range sections.length) search with
  | none => none
  | some (.error e) => some (.error e)
  | some (.ok search) =>
    some (.ok ((sections.zipIdx.filter fun entry => ¬ entry.1.isTemplate).filterMap fun entry =>
      (search.resolved[entry.2]?).join))

end Sccp.Inheritance
