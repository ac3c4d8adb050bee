/-
  Sccp.Pbx.Registration

  The dialplan extensions of registered lines.

  A call of `reconcile` brings the published targets to what the registered appearances want:
  first it publishes, then it replaces, then it removes, and when one of the operations fails it
  takes back what it has done.  The dialplan is shared with others, and any operation on it may
  fail.
-/

import Sccp.Types
import Sccp.Lib.Table
import Mathlib.Data.List.Sort
import Mathlib.Data.Finset.Insert

namespace Sccp.Pbx

open Sccp

inductive RegistrationContextPolicy where
  | requireExisting
  | createIfMissing
  deriving DecidableEq

structure RegistrationTarget where
  extension : String
  context : String
  deriving DecidableEq

/-- The order in which targets are visited: by extension, then by context. -/
def RegistrationTarget.Le (t t' : RegistrationTarget) : Prop :=
  t.extension < t'.extension ∨ t.extension = t'.extension ∧ t.context ≤ t'.context

instance : DecidableRel RegistrationTarget.Le :=
  fun _ _ => inferInstanceAs (Decidable (_ ∨ _))

structure RegistrationAppearanceOwner where
  deviceId : DeviceId
  lineInstance : Nat
  deriving DecidableEq

structure RegistrationExtensionSpec where
  target : RegistrationTarget
  line : String
  contextPolicy : RegistrationContextPolicy
  deriving DecidableEq

structure RegistrationAppearance where
  owner : RegistrationAppearanceOwner
  extensions : List RegistrationExtensionSpec

inductive RegistrationExtensionBackendError where
  | invalid
  | notFound
  | conflict
  | unavailable
  | failed
  deriving DecidableEq

inductive RegistrationRegistryOperation where
  | publish
  | replace
  | unpublish
  deriving DecidableEq

inductive RegistrationRegistryError where
  | conflictingTarget
  | backend (operation : RegistrationRegistryOperation)
      (source : RegistrationExtensionBackendError)
  | rollbackFailed (operation : RegistrationRegistryOperation)
      (source rollbackSource : RegistrationExtensionBackendError)
  | diverged
  deriving DecidableEq

structure DesiredRegistration where
  extension : RegistrationExtensionSpec
  owners : Finset RegistrationAppearanceOwner

/-! ## The dialplan -/

/-- An operation that was asked of the dialplan. -/
inductive BackendCall where
  | publish (extension : RegistrationExtensionSpec)
  | replace (extension : RegistrationExtensionSpec)
  | unpublish (target : RegistrationTarget)
  deriving DecidableEq

/-- What comes before an operation and what becomes of it: others set or delete targets, and the
    operation may fail. -/
structure Turn where
  edits : List (RegistrationTarget × Option String) := []
  fault : Option RegistrationExtensionBackendError := none

/-- The dialplan, with the targets that the registry has published and those of others. -/
structure Dialplan where
  ours : Table RegistrationTarget RegistrationExtensionSpec := ∅
  theirs : Table RegistrationTarget String := ∅
  /-- Whether a removal spares the targets of others, as one that names its registrar does. -/
  spares : Bool
  script : List Turn := []
  calls : List BackendCall := []
  /-- The targets of others that an operation has replaced or removed. -/
  taken : List RegistrationTarget := []

namespace Dialplan

/-- Nobody else edits a target that the registry has published. -/
def edit (d : Dialplan) : RegistrationTarget × Option String → Dialplan
  | (target, value) =>
    if d.ours.contains target then d
    else { d with theirs := value.elim (d.theirs.erase target) (d.theirs.insert target) }

/-- What the next operation runs into. -/
def fault (d : Dialplan) : Option RegistrationExtensionBackendError :=
  d.script.head?.bind (·.fault)

/-- The dialplan as the next operation finds it. -/
def begin (d : Dialplan) (call : BackendCall) : Dialplan :=
  let edited := (d.script.head?.elim [] (·.edits)).foldl edit d
  { edited with script := d.script.tail, calls := d.calls ++ [call] }

def publish (d : Dialplan) (extension : RegistrationExtensionSpec) :
    Except RegistrationExtensionBackendError Unit × Dialplan :=
  let begun := d.begin (.publish extension)
  match d.fault with
  | some error => (.error error, begun)
  | none =>
    if begun.ours.contains extension.target || begun.theirs.contains extension.target then
      (.error .conflict, begun)
    else (.ok (), { begun with ours := begun.ours.insert extension.target extension })

def replace (d : Dialplan) (extension : RegistrationExtensionSpec) :
    Except RegistrationExtensionBackendError Unit × Dialplan :=
  let begun := d.begin (.replace extension)
  match d.fault with
  | some error => (.error error, begun)
  | none =>
    if begun.ours.contains extension.target then
      (.ok (), { begun with ours := begun.ours.insert extension.target extension })
    else if begun.theirs.contains extension.target then
      (.ok (),
        { begun with
          ours := begun.ours.insert extension.target extension
          theirs := begun.theirs.erase extension.target
          taken := begun.taken ++ [extension.target] })
    else (.error .notFound, begun)

/-- That a target is absent is reported of one that is. -/
def unpublish (d : Dialplan) (target : RegistrationTarget) :
    Except RegistrationExtensionBackendError Unit × Dialplan :=
  let begun := d.begin (.unpublish target)
  match d.fault.filter (· ≠ .notFound) with
  | some error => (.error error, begun)
  | none =>
    if begun.ours.contains target then (.ok (), { begun with ours := begun.ours.erase target })
    else if begun.theirs.contains target && !begun.spares then
      (.ok (),
        { begun with
          theirs := begun.theirs.erase target, taken := begun.taken ++ [target] })
    else (.error .notFound, begun)

/-- The removal of a target that is absent succeeds. -/
def removeTarget (d : Dialplan) (target : RegistrationTarget) :
    Except RegistrationExtensionBackendError Unit × Dialplan :=
  match d.unpublish target with
  | (.error .notFound, d) => (.ok (), d)
  | answer => answer

end Dialplan

/-! ## What is wanted -/

abbrev Registrations := Table RegistrationTarget DesiredRegistration

namespace Registrations

/-- The registrations in the order of their targets. -/
def sorted (registrations : Registrations) : List (RegistrationTarget × DesiredRegistration) :=
  registrations.entries.insertionSort fun e e' => e.1.Le e'.1

end Registrations

/-- One extension of an appearance is added; `none` if the target is assigned otherwise. -/
def desire (desired : Registrations) (owner : RegistrationAppearanceOwner)
    (extension : RegistrationExtensionSpec) : Option Registrations :=
  match desired.get? extension.target with
  | none => some (desired.insert extension.target { extension, owners := {owner} })
  | some entry =>
    if entry.extension.line ≠ extension.line
        ∨ entry.extension.contextPolicy ≠ extension.contextPolicy then none
    else
      some (desired.modify extension.target fun entry =>
        { entry with owners := insert owner entry.owners })

def desireAll (desired : Registrations) :
    List (RegistrationAppearanceOwner × RegistrationExtensionSpec) → Option Registrations
  | [] => some desired
  | (owner, extension) :: rest =>
    match desire desired owner extension with
    | none => none
    | some desired => desireAll desired rest

def desiredRegistrations (appearances : List RegistrationAppearance) :
    Except RegistrationRegistryError Registrations :=
  match desireAll ∅ (appearances.flatMap fun appearance =>
      appearance.extensions.map (appearance.owner, ·)) with
  | none => .error .conflictingTarget
  | some desired => .ok desired

/-! ## The registry -/

inductive AppliedOperation where
  | published (extension : RegistrationExtensionSpec)
  | replaced (previous : RegistrationExtensionSpec)
  | unpublished (previous : RegistrationExtensionSpec)

/-- An operation that a call of `reconcile` finds necessary. -/
inductive NeededOperation where
  | publish (extension : RegistrationExtensionSpec)
  | replace (extension previous : RegistrationExtensionSpec)
  | unpublish (target : RegistrationTarget) (previous : RegistrationExtensionSpec)

namespace NeededOperation

def operation : NeededOperation → RegistrationRegistryOperation
  | .publish _ => .publish
  | .replace _ _ => .replace
  | .unpublish _ _ => .unpublish

def run : NeededOperation → Dialplan → Except RegistrationExtensionBackendError Unit × Dialplan
  | .publish extension, d => d.publish extension
  | .replace extension _, d => d.replace extension
  | .unpublish target _, d => d.removeTarget target

/-- What is noted when the operation has succeeded. -/
def applied : NeededOperation → AppliedOperation
  | .publish extension => .published extension
  | .replace _ previous => .replaced previous
  | .unpublish _ previous => .unpublished previous

/-- What is noted when it has failed: a target to be replaced that was absent is to be published
    again. -/
def repair : NeededOperation → RegistrationExtensionBackendError → List AppliedOperation
  | .replace _ previous, .notFound => [.unpublished previous]
  | _, _ => []

end NeededOperation

/-- The first loop of `reconcile`: targets that are wanted and not active. -/
def publications (active desired : Registrations) : List NeededOperation :=
  desired.sorted.filterMap fun (target, registration) =>
    if active.contains target then none else some (.publish registration.extension)

/-- The second loop: active targets that are wanted otherwise. -/
def replacements (active desired : Registrations) : List NeededOperation :=
  desired.sorted.filterMap fun (target, registration) =>
    match active.get? target with
    | none => none
    | some previous =>
      if previous.extension = registration.extension then none
      else some (.replace registration.extension previous.extension)

/-- The third loop: active targets that are wanted no more. -/
def removals (active desired : Registrations) : List NeededOperation :=
  active.sorted.filterMap fun (target, registration) =>
    if desired.contains target then none else some (.unpublish target registration.extension)

/-- Carries operations out up to the first that fails; `log` is what has been applied, the latest
    first. -/
def performAll : List NeededOperation → List AppliedOperation → Dialplan →
    Option (RegistrationRegistryOperation × RegistrationExtensionBackendError)
      × List AppliedOperation × Dialplan
  | [], log, d => (none, log, d)
  | needed :: rest, log, d =>
    match needed.run d with
    | (.ok (), d) => performAll rest (needed.applied :: log) d
    | (.error source, d) => (some (needed.operation, source), needed.repair source ++ log, d)

def AppliedOperation.undo (d : Dialplan) :
    AppliedOperation → Except RegistrationExtensionBackendError Unit × Dialplan
  | .published extension => d.removeTarget extension.target
  | .replaced previous => d.replace previous
  | .unpublished previous => d.publish previous

/-- Takes a log back, the latest first; the first failure is reported. -/
def undoAll : List AppliedOperation → Option RegistrationExtensionBackendError → Dialplan →
    Option RegistrationExtensionBackendError × Dialplan
  | [], failure, d => (failure, d)
  | applied :: rest, failure, d =>
    match applied.undo d with
    | (.ok (), d) => undoAll rest failure d
    | (.error error, d) => undoAll rest (failure.or (some error)) d

structure RegistrationContextRegistry where
  backend : Dialplan
  active : Registrations := ∅
  cleanup : List RegistrationTarget := []
  diverged : Bool := false

namespace RegistrationContextRegistry

variable (r : RegistrationContextRegistry)

def rollback (operation : RegistrationRegistryOperation)
    (source : RegistrationExtensionBackendError) (log : List AppliedOperation)
    (desired : Registrations) :
    Except RegistrationRegistryError Unit × RegistrationContextRegistry :=
  match undoAll log none r.backend with
  | (some rollbackSource, backend) =>
    (.error (.rollbackFailed operation source rollbackSource),
      { r with
        backend, diverged := true, cleanup := r.cleanup ++ r.active.keys ++ desired.keys })
  | (none, backend) => (.error (.backend operation source), { r with backend })

def reconcile (appearances : List RegistrationAppearance) :
    Except RegistrationRegistryError Unit × RegistrationContextRegistry :=
  if r.diverged then (.error .diverged, r)
  else
    match desiredRegistrations appearances with
    | .error error => (.error error, r)
    | .ok desired =>
      let needed := publications r.active desired ++ replacements r.active desired
        ++ removals r.active desired
      match performAll needed [] r.backend with
      | (some (operation, source), log, backend) =>
        { r with backend }.rollback operation source log desired
      | (none, _, backend) => (.ok (), { r with backend, active := desired })

def clear : Except RegistrationRegistryError Unit × RegistrationContextRegistry :=
  r.reconcile []

/-- Removes targets one after the other, whatever comes of it; gives those whose removal has
    failed. -/
def removeAll : List RegistrationTarget → Dialplan → List RegistrationTarget × Dialplan
  | [], d => ([], d)
  | target :: rest, d =>
    match d.removeTarget target with
    | (.ok (), d) => removeAll rest d
    | (.error _, d) => (target :: (removeAll rest d).1, (removeAll rest d).2)

/-- The targets that are removed when the registry is dropped. -/
def targets : List RegistrationTarget :=
  (r.active.keys ++ r.cleanup).dedup.insertionSort RegistrationTarget.Le

def drop : List RegistrationTarget × Dialplan :=
  removeAll r.targets r.backend

/-! ## Runs -/

/-- What happens to a registry: a call, with what the dialplan runs into meanwhile, or others edit
    the dialplan. -/
inductive Command where
  | reconcile (appearances : List RegistrationAppearance) (script : List Turn)
  | clear (script : List Turn)
  | others (edits : List (RegistrationTarget × Option String))

def withScript (script : List Turn) : RegistrationContextRegistry :=
  { r with backend := { r.backend with script } }

/-- The answer to a call, and the registry after it. -/
def answer (r : RegistrationContextRegistry) :
    Command → Option (Except RegistrationRegistryError Unit) × RegistrationContextRegistry
  | .reconcile appearances script => 
    let (answer, r) := (r.withScript script).reconcile appearances
    (some answer, r)
  | .clear script =>
    let (answer, r) := (r.withScript script).clear
    (some answer, r)
  | .others edits => (none, { r with backend := edits.foldl Dialplan.edit r.backend })

def step (command : Command) : RegistrationContextRegistry :=
  (r.answer command).2

end RegistrationContextRegistry

end Sccp.Pbx
