/-
  Sccp.Pbx.Party

  What a handset is shown of the parties of a call.

  The driver copies the parties of a native channel into one snapshot, and every snapshot is
  applied to the call information an appearance had before: a component that is present and may
  be presented replaces the text shown, one whose presentation is denied clears it, and an
  absent one leaves it.
-/

import Sccp.Types

namespace Sccp.Party

open Sccp

def callInfoNameMaxBytes : Nat := 39

def callInfoNumberMaxBytes : Nat := 23

/-- Q.931 presentation and screening metadata, as the raw code. -/
structure Presentation where
  raw : Int32
  deriving DecidableEq

namespace Presentation

def allowedNotScreened : Presentation := ⟨0x00⟩

def isAllowed (p : Presentation) : Bool := p.raw &&& 0x60 == 0

end Presentation

/-- One public or private party identity.  `none` marks a component as absent. -/
structure PartyIdentity where
  name : Option String := none
  number : Option String := none
  nameCharset : Int32 := 9
  namePresentation : Presentation := .allowedNotScreened
  numberPlan : Int32 := 0
  numberPresentation : Presentation := .allowedNotScreened
  deriving DecidableEq

namespace PartyIdentity

def hasIdentity (party : PartyIdentity) : Bool := party.name.isSome || party.number.isSome

def visibleName (party : PartyIdentity) : Option String :=
  if party.namePresentation.isAllowed then party.name else none

def visibleNumber (party : PartyIdentity) : Option String :=
  if party.numberPresentation.isAllowed then party.number else none

def isRestricted (party : PartyIdentity) : Bool :=
  !party.namePresentation.isAllowed || !party.numberPresentation.isAllowed

end PartyIdentity

/-- Public party metadata copied at once from one native channel. -/
structure PartySnapshot where
  caller : PartyIdentity := {}
  connected : PartyIdentity := {}
  redirectingOriginal : PartyIdentity := {}
  redirectingFrom : PartyIdentity := {}
  redirectReason : Int32 := 0
  originalRedirectReason : Int32 := 0
  deriving DecidableEq

/-! ## Fitting a text -/

/-- `str::is_char_boundary`. -/
def isCharBoundary : List Char → Nat → Bool
  | _, 0 => true
  | [], _ + 1 => false
  | c :: rest, index => c.utf8Size ≤ index && isCharBoundary rest (index - c.utf8Size)

/-- The last character boundary that is not after an index. -/
def charBoundary (value : List Char) : Nat → Nat
  | 0 => 0
  | index + 1 => if isCharBoundary value (index + 1) then index + 1 else charBoundary value index

/-- The characters of `&value[..index]`, for a character boundary. -/
def sliceTo : List Char → Nat → List Char
  | [], _ => []
  | c :: rest, index =>
    if c.utf8Size ≤ index then c :: sliceTo rest (index - c.utf8Size) else []

/-- The text that fits a field of a handset. -/
def fitted (value : String) (maximumBytes : Nat) : String :=
  let boundary := charBoundary value.toList (min value.utf8ByteSize maximumBytes)
  String.ofList (sliceTo value.toList boundary)

def assignVisible (destination : String) (value : Option String) (maximumBytes : Nat) : String :=
  match value with
  | some value => fitted value maximumBytes
  | none => destination

/-! ## Applying a snapshot -/

def clearRestricted (info : CallInfo) (primary original redirecting : PartyIdentity) : CallInfo :=
  let info :=
    if primary.namePresentation.isAllowed then info
    else
      match info.direction with
      | .inbound => { info with callingName := "" }
      | .outbound => { info with calledName := "" }
  let info :=
    if primary.numberPresentation.isAllowed then info
    else
      match info.direction with
      | .inbound => { info with callingNumber := "" }
      | .outbound => { info with calledNumber := "" }
  let info :=
    if original.namePresentation.isAllowed then info else { info with originalCalledName := "" }
  let info :=
    if original.numberPresentation.isAllowed then info
    else { info with originalCalledNumber := "" }
  let info :=
    if redirecting.namePresentation.isAllowed then info
    else { info with lastRedirectingName := "" }
  if redirecting.numberPresentation.isAllowed then info
  else { info with lastRedirectingNumber := "" }

namespace PartySnapshot

def applyWithPrimary (s : PartySnapshot) (current : CallInfo) (primary : PartyIdentity) :
    CallInfo :=
  let restricted :=
    primary.isRestricted || s.redirectingOriginal.isRestricted || s.redirectingFrom.isRestricted
  let updated :=
    match current.direction with
    | .inbound =>
      { current with
        callingName := assignVisible current.callingName primary.visibleName callInfoNameMaxBytes
        callingNumber := assignVisible current.callingNumber primary.visibleNumber
          callInfoNumberMaxBytes }
    | .outbound =>
      { current with
        calledName := assignVisible current.calledName primary.visibleName callInfoNameMaxBytes
        calledNumber := assignVisible current.calledNumber primary.visibleNumber
          callInfoNumberMaxBytes }
  let updated :=
    { updated with
      originalCalledName := assignVisible updated.originalCalledName
        s.redirectingOriginal.visibleName callInfoNameMaxBytes
      originalCalledNumber := assignVisible updated.originalCalledNumber
        s.redirectingOriginal.visibleNumber callInfoNumberMaxBytes
      lastRedirectingName := assignVisible updated.lastRedirectingName
        s.redirectingFrom.visibleName callInfoNameMaxBytes
      lastRedirectingNumber := assignVisible updated.lastRedirectingNumber
        s.redirectingFrom.visibleNumber callInfoNumberMaxBytes
      originalRedirectReason := s.originalRedirectReason.toUInt32.toNat
      lastRedirectReason := s.redirectReason.toUInt32.toNat
      partyRestrictions := if restricted then 0xf else 0 }
  clearRestricted updated primary s.redirectingOriginal s.redirectingFrom

/-- Seeds an inbound appearance from the caller of the requesting channel. -/
def applyInitialInboundToCallInfo (s : PartySnapshot) (current : CallInfo) : CallInfo :=
  s.applyWithPrimary current s.caller

/-- The party a snapshot shows as the remote one. -/
def primary (s : PartySnapshot) (direction : CallDirection) : PartyIdentity :=
  match direction with
  | .inbound => if s.connected.hasIdentity then s.connected else s.caller
  | .outbound => s.connected

/-- Applies public native metadata without replacing appearance-local labels. -/
def applyToCallInfo (s : PartySnapshot) (current : CallInfo) : CallInfo :=
  s.applyWithPrimary current (s.primary current.direction)

end PartySnapshot

/-! ## Histories -/

/-- One application of a snapshot to the call information of an appearance. -/
inductive PartyUpdate where
  | initialInbound (snapshot : PartySnapshot)
  | snapshot (snapshot : PartySnapshot)
  deriving DecidableEq

namespace PartyUpdate

def metadata : PartyUpdate → PartySnapshot
  | initialInbound s | snapshot s => s

/-- The party an update shows as the remote one. -/
def primary (direction : CallDirection) : PartyUpdate → PartyIdentity
  | initialInbound s => s.caller
  | snapshot s => s.primary direction

def apply (info : CallInfo) : PartyUpdate → CallInfo
  | initialInbound s => s.applyInitialInboundToCallInfo info
  | snapshot s => s.applyToCallInfo info

end PartyUpdate

end Sccp.Party
