/-
  Sccp.Call.ForwardingEntry

  Collecting a forwarding destination on a handset (`call/forwarding.rs`): one entry for
  each device, which takes digits until it is committed and waits for its write then.

  An operation that works on an entry in place gives the entry back with its answer, also
  when the answer is an error.
-/

import Sccp.Call.NoAnswer
import Sccp.Message.Values
import Sccp.State.Features

namespace Sccp

inductive ForwardingKind where
  | all
  | busy
  | noAnswer
  deriving DecidableEq

structure ForwardingEntryId where
  val : Nat
  deriving DecidableEq

inductive ForwardingEntryPhase where
  | collecting
  | committing
  deriving DecidableEq

inductive ForwardingWriteOutcome where
  | written
  | failed
  deriving DecidableEq

structure ForwardingEntryTiming where
  now : Instant
  firstDigitTimeout : Duration
  interdigitTimeout : Duration

structure ForwardingEntry where
  id : ForwardingEntryId
  deviceId : DeviceId
  lineInstance : Nat
  callId : CallId
  kind : ForwardingKind
  phase : ForwardingEntryPhase
  deadline : Instant
  dialTerminator : Message.Digit
  firstDigitTimeout : Duration
  interdigitTimeout : Duration
  digits : String
  deriving DecidableEq

structure ForwardingCommit where
  entryId : ForwardingEntryId
  deviceId : DeviceId
  lineInstance : Nat
  callId : CallId
  kind : ForwardingKind
  destination : Features.ForwardingDestination
  deriving DecidableEq

inductive ForwardingDigitOutcome where
  | collected
  | commit (commit : ForwardingCommit)

inductive ForwardingExpiryOutcome where
  | cancel (entry : ForwardingEntry)
  | commit (commit : ForwardingCommit)

/-! ## Digits -/

/-- The character that a digit adds to a destination. -/
def Message.Digit.dialed : Message.Digit → Option Char
  | .number n => if n ≤ 9 then some (Char.ofNat (0x30 + n.toNat)) else none
  | .star => some '*'
  | .pound => some '#'
  | .a => some 'A'
  | .b => some 'B'
  | .c => some 'C'
  | .d => some 'D'
  | .unknown _ => none

/-- `Digit::as_char`. -/
def Message.Digit.asChar : Message.Digit → Char
  | .number n => if n ≤ 9 then Char.ofNat (0x30 + n.toNat) else '?'
  | .star => '*'
  | .pound => '#'
  | .a => 'A'
  | .b => 'B'
  | .c => 'C'
  | .d => 'D'
  | .unknown _ => '?'

/-- The characters that a destination is dialed with. -/
def isDialed (character : Char) : Bool :=
  ('0' ≤ character && character ≤ '9') || character = '*' || character = '#'
    || character = 'A' || character = 'B' || character = 'C' || character = 'D'

/-- `str::strip_suffix` of a character, or the text as it is. -/
def stripSuffix (text : String) (character : Char) : String :=
  if text.toList.getLast? = some character then String.ofList text.toList.dropLast else text

/-- The rejections of a destination, among those of all operations. -/
def destinationRejection : Features.ForwardingRejection → ForwardingRejection
  | .invalidDestination => .invalidDestination
  | .destinationTooLong => .destinationTooLong

namespace ForwardingEntry

open Features (MAX_FORWARD_DESTINATION_BYTES)

variable (entry : ForwardingEntry)

def beginCommit : ForwardingEntry × Except ForwardingRejection ForwardingCommit :=
  if entry.phase ≠ .collecting then (entry, .error .invalidPhase)
  else
    match Features.ForwardingDestination.new entry.digits with
    | .error rejection => (entry, .error (destinationRejection rejection))
    | .ok destination =>
      ({ entry with phase := .committing }, .ok {
        entryId := entry.id
        deviceId := entry.deviceId
        lineInstance := entry.lineInstance
        callId := entry.callId
        kind := entry.kind
        destination })

def pushDigit (digit : Message.Digit) (now : Instant) :
    ForwardingEntry × Except ForwardingRejection Unit :=
  if entry.phase ≠ .collecting then (entry, .error .invalidPhase)
  else if MAX_FORWARD_DESTINATION_BYTES ≤ (utf8 entry.digits).length then
    (entry, .error .destinationTooLong)
  else
    match digit.dialed with
    | none => (entry, .error .invalidDestination)
    | some character =>
      ({ entry with
          digits := entry.digits.push character
          deadline := now + entry.interdigitTimeout }, .ok ())

def inputDigit (digit : Message.Digit) (now : Instant) :
    ForwardingEntry × Except ForwardingRejection ForwardingDigitOutcome :=
  if digit = entry.dialTerminator then
    match entry.beginCommit with
    | (entry, .ok commit) => (entry, .ok (.commit commit))
    | (entry, .error rejection) => (entry, .error rejection)
  else
    match entry.pushDigit digit now with
    | (entry, .ok ()) => (entry, .ok .collected)
    | (entry, .error rejection) => (entry, .error rejection)

def backspace (now : Instant) : ForwardingEntry × Except ForwardingRejection Unit :=
  if entry.phase ≠ .collecting then (entry, .error .invalidPhase)
  else if entry.digits = "" then
    ({ entry with deadline := now + entry.firstDigitTimeout }, .ok ())
  else
    ({ entry with
        digits := String.ofList entry.digits.toList.dropLast
        deadline := now + entry.interdigitTimeout }, .ok ())

/-- The digits may end with the terminator, which is left out. -/
def replaceDigits (digits : String) (now : Instant) :
    ForwardingEntry × Except ForwardingRejection Unit :=
  let digits := stripSuffix digits entry.dialTerminator.asChar
  if MAX_FORWARD_DESTINATION_BYTES < (utf8 digits).length then
    (entry, .error .destinationTooLong)
  else if digits.toList.any fun character => !isDialed character then
    (entry, .error .invalidDestination)
  else if entry.phase ≠ .collecting then (entry, .error .invalidPhase)
  else
    ({ entry with
        digits
        deadline := now +
          if digits = "" then entry.firstDigitTimeout else entry.interdigitTimeout }, .ok ())

end ForwardingEntry

/-! ## The registry -/

/-- The live entries, each stored under its device. -/
structure ForwardingEntryRegistry where
  nextId : Nat := 0
  byDevice : Table DeviceId ForwardingEntry := ∅

namespace ForwardingEntryRegistry

variable (r : ForwardingEntryRegistry)

def get (deviceId : DeviceId) : Option ForwardingEntry := r.byDevice.get? deviceId

def begin (deviceId : DeviceId) (lineInstance : Nat) (callId : CallId) (kind : ForwardingKind)
    (dialTerminator : Message.Digit) (timing : ForwardingEntryTiming) :
    ForwardingEntryRegistry × Except ForwardingRejection ForwardingEntry :=
  if lineInstance = 0 ∨ timing.firstDigitTimeout = 0 ∨ timing.interdigitTimeout = 0 ∨
      r.byDevice.contains deviceId then (r, .error .conflict)
  else if r.byDevice.any fun _ entry => entry.callId = callId then (r, .error .conflict)
  else if 2 ^ 64 ≤ r.nextId + 1 then (r, .error .identifierExhausted)
  else
    let entry : ForwardingEntry := {
      id := ⟨r.nextId + 1⟩
      deviceId, lineInstance, callId, kind
      phase := .collecting
      deadline := timing.now + timing.firstDigitTimeout
      dialTerminator
      firstDigitTimeout := timing.firstDigitTimeout
      interdigitTimeout := timing.interdigitTimeout
      digits := "" }
    ({ nextId := r.nextId + 1, byDevice := r.byDevice.insert deviceId entry }, .ok entry)

/-- Work in place on the entry of a device, if it is the one that is meant (`exact_mut`). -/
def exactMut {α : Type} (deviceId : DeviceId) (entryId : ForwardingEntryId)
    (f : ForwardingEntry → ForwardingEntry × Except ForwardingRejection α) :
    ForwardingEntryRegistry × Except ForwardingRejection α :=
  match (r.get deviceId).filter fun entry => entry.id = entryId with
  | none => (r, .error .conflict)
  | some entry =>
    ({ r with byDevice := r.byDevice.modify deviceId fun _ => (f entry).1 }, (f entry).2)

def inputDigit (deviceId : DeviceId) (entryId : ForwardingEntryId) (digit : Message.Digit)
    (now : Instant) :=
  r.exactMut deviceId entryId fun entry => entry.inputDigit digit now

def backspace (deviceId : DeviceId) (entryId : ForwardingEntryId) (now : Instant) :=
  r.exactMut deviceId entryId fun entry => entry.backspace now

def replaceDigits (deviceId : DeviceId) (entryId : ForwardingEntryId) (digits : String)
    (now : Instant) :=
  r.exactMut deviceId entryId fun entry => entry.replaceDigits digits now

def beginCommit (deviceId : DeviceId) (entryId : ForwardingEntryId) :=
  r.exactMut deviceId entryId ForwardingEntry.beginCommit

/-- Whether an entry is collecting and due. -/
def expired (now : Instant) (entry : ForwardingEntry) : Bool :=
  entry.phase = .collecting ∧ entry.deadline ≤ now

/-- The order in which due entries are claimed: by deadline and id. -/
def expiresBefore (a b : Instant × ForwardingEntryId × DeviceId) : Prop :=
  a.1 < b.1 ∨ (a.1 = b.1 ∧ a.2.1.val ≤ b.2.1.val)

instance : DecidableRel expiresBefore := fun a b =>
  inferInstanceAs (Decidable (a.1 < b.1 ∨ (a.1 = b.1 ∧ a.2.1.val ≤ b.2.1.val)))

/-- Claim the entry of a device if it is still the one that was due. -/
def claimOne (now : Instant) : Instant × ForwardingEntryId × DeviceId →
      ForwardingEntryRegistry × Option ForwardingExpiryOutcome
  | (_, id, deviceId) =>
    match (r.get deviceId).filter fun entry => entry.id = id && expired now entry with
    | none => (r, none)
    | some entry =>
      let removed := { r with byDevice := r.byDevice.erase deviceId }
      if entry.digits = "" then (removed, some (.cancel entry))
      else
        match entry.beginCommit with
        | (entry, .ok commit) =>
          ({ r with byDevice := r.byDevice.modify deviceId fun _ => entry },
            some (.commit commit))
        | (entry, .error _) => (removed, some (.cancel entry))

def claimEach (now : Instant) : ForwardingEntryRegistry →
    List (Instant × ForwardingEntryId × DeviceId) →
      ForwardingEntryRegistry × List ForwardingExpiryOutcome
  | r, [] => (r, [])
  | r, due :: rest =>
    let (r, outcome) := r.claimOne now due
    let (r, outcomes) := claimEach now r rest
    (r, outcome.toList ++ outcomes)

def claimExpired (now : Instant) : ForwardingEntryRegistry × List ForwardingExpiryOutcome :=
  let expired := r.byDevice.values.filter (expired now)
  claimEach now r ((expired.map fun entry =>
    (entry.deadline, entry.id, entry.deviceId)).insertionSort expiresBefore)

/-- A write of the entry of a device has ended, in the phase it was made in. -/
def settleWrite (phase : ForwardingEntryPhase) (deviceId : DeviceId)
    (entryId : ForwardingEntryId) (outcome : ForwardingWriteOutcome) :
    ForwardingEntryRegistry × Except ForwardingRejection ForwardingWriteOutcome :=
  match (r.get deviceId).filter fun entry => entry.id = entryId && entry.phase = phase with
  | none => (r, .error .conflict)
  | some _ =>
    if outcome = .failed then
      ({ r with byDevice := r.byDevice.erase deviceId }, .ok outcome)
    else (r, .ok outcome)

def settleCollectionWrite := r.settleWrite .collecting

def settleTerminalWrite := r.settleWrite .committing

/-- Remove the entry of a device if it satisfies `p`. -/
def removeIf (deviceId : DeviceId) (p : ForwardingEntry → Bool) :
    ForwardingEntryRegistry × Except ForwardingRejection ForwardingEntry :=
  match (r.get deviceId).filter p with
  | none => (r, .error .conflict)
  | some entry => ({ r with byDevice := r.byDevice.erase deviceId }, .ok entry)

def commit (deviceId : DeviceId) (entryId : ForwardingEntryId) :=
  r.removeIf deviceId fun entry => entry.id = entryId && entry.phase = .committing

def cancel (deviceId : DeviceId) (entryId : ForwardingEntryId) :=
  r.removeIf deviceId fun entry => entry.id = entryId

def cancelCollection (deviceId : DeviceId) (entryId : ForwardingEntryId) :=
  r.removeIf deviceId fun entry => entry.id = entryId && entry.phase = .collecting

/-! ## Runs -/

/-- The calls that change a registry. -/
inductive Operation where
  | begin (deviceId : DeviceId) (lineInstance : Nat) (callId : CallId) (kind : ForwardingKind)
      (dialTerminator : Message.Digit) (timing : ForwardingEntryTiming)
  | inputDigit (deviceId : DeviceId) (entryId : ForwardingEntryId) (digit : Message.Digit)
      (now : Instant)
  | backspace (deviceId : DeviceId) (entryId : ForwardingEntryId) (now : Instant)
  | replaceDigits (deviceId : DeviceId) (entryId : ForwardingEntryId) (digits : String)
      (now : Instant)
  | claimExpired (now : Instant)
  | beginCommit (deviceId : DeviceId) (entryId : ForwardingEntryId)
  | settleCollectionWrite (deviceId : DeviceId) (entryId : ForwardingEntryId)
      (outcome : ForwardingWriteOutcome)
  | settleTerminalWrite (deviceId : DeviceId) (entryId : ForwardingEntryId)
      (outcome : ForwardingWriteOutcome)
  | commit (deviceId : DeviceId) (entryId : ForwardingEntryId)
  | cancel (deviceId : DeviceId) (entryId : ForwardingEntryId)
  | cancelCollection (deviceId : DeviceId) (entryId : ForwardingEntryId)

/-- What a call answers. -/
inductive Answer where
  | entry (entry : ForwardingEntry)
  | digit (outcome : ForwardingDigitOutcome)
  | unit
  | expiries (outcomes : List ForwardingExpiryOutcome)
  | commit (commit : ForwardingCommit)
  | write (outcome : ForwardingWriteOutcome)

/-- The call and its answer; `claim_expired` cannot fail. -/
def call : Operation → ForwardingEntryRegistry × Except ForwardingRejection Answer
  | .begin deviceId lineInstance callId kind dialTerminator timing =>
    let (r, answer) := r.begin deviceId lineInstance callId kind dialTerminator timing
    (r, answer.map .entry)
  | .inputDigit deviceId entryId digit now =>
    let (r, answer) := r.inputDigit deviceId entryId digit now
    (r, answer.map .digit)
  | .backspace deviceId entryId now =>
    let (r, answer) := r.backspace deviceId entryId now
    (r, answer.map fun _ => .unit)
  | .replaceDigits deviceId entryId digits now =>
    let (r, answer) := r.replaceDigits deviceId entryId digits now
    (r, answer.map fun _ => .unit)
  | .claimExpired now =>
    let (r, outcomes) := r.claimExpired now
    (r, .ok (.expiries outcomes))
  | .beginCommit deviceId entryId =>
    let (r, answer) := r.beginCommit deviceId entryId
    (r, answer.map .commit)
  | .settleCollectionWrite deviceId entryId outcome =>
    let (r, answer) := r.settleCollectionWrite deviceId entryId outcome
    (r, answer.map .write)
  | .settleTerminalWrite deviceId entryId outcome =>
    let (r, answer) := r.settleTerminalWrite deviceId entryId outcome
    (r, answer.map .write)
  | .commit deviceId entryId =>
    let (r, answer) := r.commit deviceId entryId
    (r, answer.map .entry)
  | .cancel deviceId entryId =>
    let (r, answer) := r.cancel deviceId entryId
    (r, answer.map .entry)
  | .cancelCollection deviceId entryId =>
    let (r, answer) := r.cancelCollection deviceId entryId
    (r, answer.map .entry)

end ForwardingEntryRegistry

end Sccp
