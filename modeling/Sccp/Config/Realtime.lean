/-
  Sccp.Config.Realtime

  Configuration rows from a realtime database.

  A versioned table has one row for each field of each section, with a place in the order and
  the revision of the snapshot it belongs to.  Decoding sorts the rows, checks that they are of
  one revision and groups them into sections again.  The overlays of a candidate are read by
  several queries, which have to agree on the revision.
-/

import Sccp.Config.Sorcery
import Sccp.Lib.Digits

namespace Sccp.Realtime

open Sccp.Config (toAsciiLowercase ConfigOverlayKind ConfigOverlayValue ConfigOverlaySection)

/-! ## Rows -/

structure RealtimePredicate where
  name : String
  value : String
  deriving DecidableEq

/-- A value of `none` is a database null. -/
structure RealtimeField where
  name : String
  value : Option String
  deriving DecidableEq

structure RealtimeRow where
  fields : List RealtimeField
  deriving DecidableEq

structure RealtimeLoad where
  revision : Option String
  rows : List RealtimeRow
  deriving DecidableEq

inductive RealtimeError where
  | invalidText (field : String)
  | emptyFamily
  | missingPredicates
  | emptyPredicateName (index : Nat)
  | backendUnavailable
  | backendFailure
  | invalidNativeText (location : String)
  | missingFieldName (row field : Nat)
  | invalidSnapshotRow (row : Nat) (message : String)
  | mixedSnapshotRevisions (expected actual : String)
  deriving DecidableEq

def fieldValue (row : RealtimeRow) (name : String) : Option (Option String) :=
  (row.fields.find? (·.name = name)).map (·.value)

def requiredText (row : RealtimeRow) (rowIndex : Nat) (name : String) :
    Except RealtimeError String :=
  match fieldValue row name with
  | some (some text) => .ok text
  | _ => .error (.invalidSnapshotRow rowIndex (name ++ " is missing or NULL"))

/-! ## Hexadecimal text -/

def hexDigit (byte : UInt8) : Option UInt8 :=
  if 48 ≤ byte ∧ byte ≤ 57 then some (byte - 48)
  else if 97 ≤ byte ∧ byte ≤ 102 then some (byte - 97 + 10)
  else if 65 ≤ byte ∧ byte ≤ 70 then some (byte - 65 + 10)
  else none

/-- The bytes that pairs of digits stand for. -/
def hexPairs : List UInt8 → Option (List UInt8)
  | first :: second :: rest =>
    match hexDigit first, hexDigit second with
    | some high, some low => (hexPairs rest).map fun bytes => (high <<< 4 ||| low) :: bytes
    | _, _ => none
  | _ => some []

def decodeHexText (value : String) (row : Nat) : Except RealtimeError String :=
  if (utf8 value).length % 2 ≠ 0 then
    .error (.invalidSnapshotRow row "_field_value contains odd-length hexadecimal text")
  else
    match hexPairs (utf8 value) with
    | none => .error (.invalidSnapshotRow row "_field_value contains non-hexadecimal text")
    | some bytes =>
      match ofUtf8? bytes with
      | none => .error (.invalidSnapshotRow row "_field_value does not encode UTF-8")
      | some text => .ok text

/-! ## Snapshots -/

/-- A row with its place in the order and its index in the result. -/
structure OrderedRow where
  order : Nat
  rowIndex : Nat
  row : RealtimeRow
  deriving DecidableEq

def orderedRow (entry : RealtimeRow × Nat) : Except RealtimeError OrderedRow := do
  let text ← requiredText entry.1 entry.2 "_row_order"
  match parseUnsigned 64 text with
  | none => .error (.invalidSnapshotRow entry.2 "_row_order is not an unsigned integer")
  | some order => .ok ⟨order, entry.2, entry.1⟩

/-- The second of the first two neighbours with the same place. -/
def repeatedOrder : List OrderedRow → Option OrderedRow
  | first :: second :: rest =>
    if first.order = second.order then some second else repeatedOrder (second :: rest)
  | _ => none

/-- What has been decoded so far. -/
structure Decoding where
  revision : Option String := none
  decoded : List RealtimeRow := []
  currentSection : Option String := none
  deriving DecidableEq

/-- A field is added to the last row. -/
def pushField : List RealtimeRow → RealtimeField → List RealtimeRow
  | [], _ => []
  | [last], field => [⟨last.fields ++ [field]⟩]
  | row :: rest, field => row :: pushField rest field

/-- A field of a section, which is opened when it is not the current one. -/
def Decoding.addField (state : Decoding) («section» : String) (field : RealtimeField) : Decoding :=
  let state :=
    if state.currentSection = some «section» then state
    else
      { state with
        decoded := state.decoded ++ [⟨[⟨"name", some «section»⟩]⟩]
        currentSection := some «section» }
  { state with decoded := pushField state.decoded field }

/-- The revision of a row against that of the rows before it. -/
def checkRevision (revision : Option String) (actual : String) :
    Except RealtimeError (Option String) :=
  match revision with
  | none => .ok (some actual)
  | some expected =>
    if expected = actual then .ok revision
    else .error (.mixedSnapshotRevisions expected actual)

def isMetadata (row : RealtimeRow) : Bool := fieldValue row "_metadata" = some (some "1")

/-- The section and the field that a row is for. -/
def decodeField (rowIndex : Nat) (row : RealtimeRow) :
    Except RealtimeError (String × RealtimeField) := do
  let «section» ← requiredText row rowIndex "name"
  let name ← requiredText row rowIndex "_field_name"
  let kind ← requiredText row rowIndex "_field_kind"
  let encodedValue ← requiredText row rowIndex "_field_value"
  if kind = "null" then .ok («section», ⟨name, none⟩)
  else if kind = "empty" then .ok («section», ⟨name, some ""⟩)
  else if kind = "value" then do
    let value ← decodeHexText encodedValue rowIndex
    .ok («section», ⟨name, some value⟩)
  else .error (.invalidSnapshotRow rowIndex "_field_kind has an unknown value")

def decodeRow (state : Decoding) (entry : OrderedRow) : Except RealtimeError Decoding := do
  let actual ← requiredText entry.row entry.rowIndex "_revision"
  let revision ← checkRevision state.revision actual
  if isMetadata entry.row then .ok { state with revision }
  else do
    let cell ← decodeField entry.rowIndex entry.row
    .ok (Decoding.addField { state with revision } cell.1 cell.2)

/-- The rows in their order.  The sort of the source is not stable, but it runs only on the way
    to an error when two rows have the same place. -/
def sortRows (rows : List OrderedRow) : List OrderedRow :=
  rows.insertionSort fun a b => a.order ≤ b.order

def decodeSnapshotRows (rows : List RealtimeRow) : Except RealtimeError RealtimeLoad :=
  if !rows.any fun row => (fieldValue row "_revision").isSome then .ok ⟨none, rows⟩
  else do
    let ordered ← rows.zipIdx.mapM orderedRow
    let sorted := sortRows ordered
    match repeatedOrder sorted with
    | some again =>
      .error (.invalidSnapshotRow again.rowIndex
        ("_row_order " ++ toString again.order ++ " occurs more than once"))
    | none =>
      let state ← sorted.foldlM decodeRow {}
      .ok ⟨state.revision, state.decoded⟩

/-! ## Overlays -/

structure RealtimeConfigurationQuery where
  family : String
  predicates : List RealtimePredicate
  sectionNameField : String
  sectionKind : Option ConfigOverlayKind
  deriving DecidableEq

inductive RealtimeRowError where
  | emptyFieldName
  | duplicateSectionName (field : String)
  | nullSectionName (field : String)
  | emptySectionName (field : String)
  | missingSectionName (field : String)
  | duplicateDelete
  | nullDelete
  | invalidDelete (value : String)
  | conflictingSectionType (expected actual : String)
  | deleteWithField (field : String)
  deriving DecidableEq

inductive ConfigurationProviderError where
  | unavailable (provider message : String)
  | realtime (family : String) (source : RealtimeError)
  | realtimeRow (family : String) (row : Nat) (source : RealtimeRowError)
  | realtimeRevision (family : String) (expected actual : Option String)
  deriving DecidableEq

inductive CandidateRevision where
  | unknown
  | unversioned
  | versioned (revision : String)
  deriving DecidableEq

def CandidateRevision.include (self : CandidateRevision) (family : String) :
    Option String → Except ConfigurationProviderError CandidateRevision
  | none =>
    match self with
    | .unknown | .unversioned => .ok .unversioned
    | .versioned expected => .error (.realtimeRevision family (some expected) none)
  | some actual =>
    match self with
    | .unknown => .ok (.versioned actual)
    | .unversioned => .error (.realtimeRevision family none (some actual))
    | .versioned expected =>
      if expected = actual then .ok self
      else .error (.realtimeRevision family (some expected) (some actual))

def eqIgnoreAsciiCase (a b : String) : Bool := toAsciiLowercase a = toAsciiLowercase b

def parseDelete (raw : String) : Option Bool :=
  let value := toAsciiLowercase (trim raw)
  if value ∈ ["true", "yes", "on", "1"] then some true
  else if value ∈ ["false", "no", "off", "0"] then some false
  else none

def kindName : ConfigOverlayKind → String
  | .device => "device"
  | .line => "line"

/-- What has been read of a row so far. -/
structure RowState where
  sectionName : Option String := none
  delete : Option Bool := none
  ordinary : List ConfigOverlayValue := []
  deleteConflict : Option String := none

def readField (query : RealtimeConfigurationQuery) (state : RowState) (entry : RealtimeField) :
    Except RealtimeRowError RowState :=
  let field := trim entry.name
  if field = "" then .error .emptyFieldName
  else if eqIgnoreAsciiCase field query.sectionNameField then
    if state.sectionName.isSome then .error (.duplicateSectionName query.sectionNameField)
    else
      match entry.value with
      | none => .error (.nullSectionName query.sectionNameField)
      | some value =>
        if trim value = "" then .error (.emptySectionName query.sectionNameField)
        else .ok { state with sectionName := some (trim value) }
  else if eqIgnoreAsciiCase field "_delete" then
    if state.delete.isSome then .error .duplicateDelete
    else
      match entry.value with
      | none => .error .nullDelete
      | some value =>
        match parseDelete value with
        | none => .error (.invalidDelete value)
        | some delete => .ok { state with delete := some delete }
  else
    let conflict := some (state.deleteConflict.getD field)
    match eqIgnoreAsciiCase field "type", query.sectionKind, entry.value with
    | true, some expected, some actual =>
      if eqIgnoreAsciiCase (trim actual) (kindName expected) then
        .ok { state with deleteConflict := conflict }
      else .error (.conflictingSectionType (kindName expected) actual)
    | _, _, _ =>
      .ok { state with
        deleteConflict := conflict
        ordinary := state.ordinary ++ [⟨field, entry.value⟩] }

def decodeRealtimeRow (query : RealtimeConfigurationQuery) (rowNumber : Nat) (row : RealtimeRow) :
    Except ConfigurationProviderError ConfigOverlaySection :=
  let fail := ConfigurationProviderError.realtimeRow query.family rowNumber
  match row.fields.foldlM (readField query) {} with
  | .error source => .error (fail source)
  | .ok state =>
    match state.sectionName with
    | none => .error (fail (.missingSectionName query.sectionNameField))
    | some name =>
      match state.delete.getD false, state.deleteConflict with
      | true, some field => .error (fail (.deleteWithField field))
      | delete, _ =>
        .ok { name, delete
              source := "realtime " ++ query.family ++ " row " ++ toString rowNumber
              line := rowNumber, kind := query.sectionKind, parents := []
              values := state.ordinary }

/-- A source of rows, which may answer the same question differently each time it is asked. -/
abbrev RealtimeConfigurationSource :=
  Nat → String → List RealtimePredicate → Except RealtimeError RealtimeLoad

/-- The queries from a position on, with the revision and the overlays of those before. -/
def loadQueries (source : RealtimeConfigurationSource) :
    Nat → CandidateRevision → List ConfigOverlaySection → List RealtimeConfigurationQuery →
      Except ConfigurationProviderError (List ConfigOverlaySection)
  | _, _, overlays, [] => .ok overlays
  | position, revision, overlays, query :: rest =>
    if trim query.sectionNameField = ""
        ∨ eqIgnoreAsciiCase query.sectionNameField "_delete" = true then
      .error (.unavailable "realtime" "section-name field must be non-empty and cannot be _delete")
    else
      match source position query.family query.predicates with
      | .error error => .error (.realtime query.family error)
      | .ok load => do
        let revision ← revision.include query.family load.revision
        let sections ← load.rows.zipIdx.mapM fun entry =>
          decodeRealtimeRow query (entry.2 + 1) entry.1
        loadQueries source (position + 1) revision (overlays ++ sections) rest

def loadRealtimeOverlays (source : RealtimeConfigurationSource)
    (queries : List RealtimeConfigurationQuery) :
    Except ConfigurationProviderError (List ConfigOverlaySection) :=
  if queries = [] then .error (.unavailable "realtime" "at least one ordered query is required")
  else loadQueries source 0 .unknown [] queries

end Sccp.Realtime
