/-
  Sccp.Signaling.Sessions

  Who is registered with the signaling server.

  Every connection has a task of its own, and the server has one that carries out its commands.
  A task runs from one await to the next; what several tasks share are the definitions of the
  stations, the anonymous hotline, the counter of the generations and the map of the sessions.
  A section that holds the lock of the map is one step, except where the server's task keeps the
  lock over two writes that others may read between.
-/

import Sccp.Lib.Runs
import Sccp.Lib.Table
import Sccp.Message.Codec
import Sccp.Types

namespace Sccp.Signaling

open Sccp

/-! ## Policies -/

inductive StationTransport where
  | clear
  | secure
  deriving DecidableEq

inductive StationTransportRequirement where
  | either
  | clear
  | secure
  deriving DecidableEq

def transportAllowed : StationTransportRequirement → StationTransport → Bool
  | .either, _ => true
  | .clear, .clear => true
  | .secure, .secure => true
  | _, _ => false

/-- The definition of a station.  What it shows and how its socket is marked is only compared
    here, and is one `profile`. -/
structure DeviceDefinition (P : Type) where
  id : DeviceId
  description : String
  transport : StationTransportRequirement
  profile : P
  deriving DecidableEq

/-- The guest hotline; the one line of a guest shows its label. -/
structure AnonymousHotlineDefinition where
  label : String
  deriving DecidableEq

inductive RegistrationFallback where
  | reject
  | returnToPrimary
  | deviceIdOdd
  | deviceIdEven
  deriving DecidableEq

structure RegistrationTokenPolicy where
  fallback : RegistrationFallback
  backoffSeconds : Nat
  serverPriority : Nat

def hexDigit? (character : Char) : Option Nat :=
  let n := character.toNat
  if 0x30 ≤ n ∧ n ≤ 0x39 then some (n - 0x30)
  else if 0x41 ≤ n ∧ n ≤ 0x46 then some (n - 0x41 + 10)
  else if 0x61 ≤ n ∧ n ≤ 0x66 then some (n - 0x61 + 10)
  else none

/-- The last digit of a hardware address in the name of a device. -/
def lastNibble (device : DeviceId) : Option Nat :=
  match device.name.toList with
  | 'S' :: 'E' :: 'P' :: mac =>
    if mac.length = 12 ∧ mac.all (fun character => (hexDigit? character).isSome) then
      mac.getLast?.bind hexDigit?
    else none
  | _ => none

def RegistrationTokenPolicy.accepts (policy : RegistrationTokenPolicy) (device : DeviceId) : Bool :=
  match policy.fallback with
  | .reject => false
  | .returnToPrimary => policy.serverPriority = 1
  | .deviceIdOdd => (lastNibble device).any fun value => value % 2 = 1
  | .deviceIdEven => (lastNibble device).any fun value => value % 2 = 0

structure ServerConfig (P : Type) where
  registrationTokens : RegistrationTokenPolicy
  keepaliveSeconds : Nat
  secondaryKeepaliveSeconds : Nat
  dateTemplate : String
  /-- Completion events have a queue of their own, with slots reserved ahead. -/
  priorityEvents : Bool
  /-- What a hotline phone shows for a label. -/
  hotlineProfile : String → P

/-- The definition that a guest is registered under. -/
def AnonymousHotlineDefinition.deviceDefinition {P : Type} (config : ServerConfig P)
    (hotline : AnonymousHotlineDefinition) (id : DeviceId) : DeviceDefinition P where
  id := id
  description := hotline.label
  transport := .either
  profile := config.hotlineProfile hotline.label

/-- The definitions that a command brings, under their ids. -/
def byId {P : Type} (definitions : List (DeviceDefinition P)) :
    Table DeviceId (DeviceDefinition P) :=
  definitions.foldl (fun table definition => table.insert definition.id definition) ∅

/-- The highest version that both peers support. -/
def negotiate (advertised : Nat) : Option ProtocolVersion :=
  if h : 3 ≤ advertised then some ⟨min advertised 22, by omega, by omega⟩ else none

/-! ## Connections -/

/-- What a REGISTER says, as far as its admission looks at it. -/
structure RegistrationMessage where
  deviceId : DeviceId
  advertisedProtocol : Option Nat

inductive Reply where
  | registerReject (reason : String)
  | registerAck (keepaliveSeconds secondaryKeepaliveSeconds : Nat) (protocol : ProtocolVersion)
      (dateTemplate : String)
  | capabilitiesRequest
  | registerTokenAck
  | registerTokenReject (backoffSeconds : Nat)
  deriving DecidableEq

/-- A session, from when it has its generation. -/
structure SessionState (P : Type) where
  device : DeviceDefinition P
  anonymousHotline : Bool
  generation : SessionGeneration

/-- Where the task of a connection is. -/
inductive Phase (P : Type) where
  | unregistered
  /-- A token of a device that is not configured; the hotline is read next. -/
  | tokenUnknown (device : DeviceId)
  | tokenChecked (device : DeviceId) (permitted : Bool)
  /-- The token has been rejected in favour of an incumbent, which is retired next. -/
  | tokenRefused (device : DeviceId) (incumbent : SessionGeneration)
  /-- A REGISTER of a device that is not configured; the hotline is read next. -/
  | unknown (registration : RegistrationMessage)
  | defined (registration : RegistrationMessage) (definition : DeviceDefinition P)
      (anonymousHotline : Bool)
  /-- The generation is drawn; the replies are still to be written. -/
  | registering (session : SessionState P) (protocol : ProtocolVersion) (unsent : List Reply)
  | registered (session : SessionState P)
  | draining (session : SessionState P)
  /-- The permit for the last event is awaited. -/
  | finalizing (session : SessionState P) (stopping : Bool)
  | leaving (session : SessionState P) (permit : Bool)
  | closed (session : Option (SessionState P))

structure Connection (P : Type) where
  transport : StationTransport
  ipv6 : Bool
  /-- The admission of the connection is retired. -/
  retired : Bool
  phase : Phase P

/-- How the map of the sessions reaches a session. -/
structure SessionSender where
  generation : SessionGeneration
  anonymousHotline : Bool
  /-- The connection whose admission this is. -/
  connection : Nat
  deriving DecidableEq

/-! ## The server -/

inductive AnonymousHotlineUpdate where
  | preserve
  | replace (next : Option AnonymousHotlineDefinition)

def AnonymousHotlineUpdate.apply (current : Option AnonymousHotlineDefinition) :
    AnonymousHotlineUpdate → Option AnonymousHotlineDefinition
  | .preserve => current
  | .replace next => next

structure ReconfigureResult where
  added : List DeviceId
  changed : List DeviceId
  removed : List DeviceId
  deriving DecidableEq

def ReconfigureResult.disconnectedDevices (result : ReconfigureResult) : List DeviceId :=
  result.changed ++ result.removed

/-- What a command answers once it is applied. -/
inductive Answer where
  | policy (result : ReconfigureResult)
  | hotline (count : Nat)
  | shutdown
  deriving DecidableEq

/-- Where the task of the server is. -/
inductive Task where
  | ready
  /-- The definitions are replaced and the map of the sessions is locked; the hotline is next. -/
  | replacing (result : ReconfigureResult) (affected : List DeviceId)
      (anonymousHotline : AnonymousHotlineUpdate)
  /-- The sessions are to be retired, and then the command is answered. -/
  | retiring (sessions : List (DeviceId × SessionSender)) (answer : Answer)
  | stopped

/-- What is seen of the server, in order. -/
inductive Effect where
  | sent (connection : Nat) (reply : Reply)
  | registered (device : DeviceId) (generation : SessionGeneration)
  | disconnected (device : DeviceId) (generation : SessionGeneration)
  /-- A session is retired, for a newly registered one if there is a `successor`. -/
  | retired (device : DeviceId) (generation : SessionGeneration)
      (successor : Option SessionGeneration)
  | applied (answer : Answer)
  deriving DecidableEq

structure Server (P : Type) where
  config : ServerConfig P
  definitions : Table DeviceId (DeviceDefinition P)
  anonymousHotline : Option AnonymousHotlineDefinition
  nextGeneration : Nat
  sessions : Table DeviceId SessionSender
  connections : List (Connection P)
  task : Task
  /-- All sessions have been told to end. -/
  stopping : Bool
  trace : List Effect

/-- The ordinary event queue at a step. -/
structure Queue where
  room : Bool
  closed : Bool

inductive Command (P : Type) where
  | reconfigure (definitions : List (DeviceDefinition P)) (affected : List DeviceId)
  | reconfigureStationPolicy (definitions : List (DeviceDefinition P)) (affected : List DeviceId)
      (anonymousHotline : Option AnonymousHotlineDefinition)
  | reconfigureAnonymousHotline (definition : Option AnonymousHotlineDefinition)
  | disconnectSession (device : DeviceId) (generation : SessionGeneration)
  | shutdown

inductive Input (P : Type) where
  | accept (transport : StationTransport) (ipv6 : Bool)
  | token (connection : Nat) (device : DeviceId)
  | register (connection : Nat) (registration : RegistrationMessage)
  /-- A connection goes on to its next await. -/
  | proceed (connection : Nat) (queue : Queue)
  /-- A connection ends: its phone leaves, a read, a write or a permit fails, its time is over or
      it is retired. -/
  | leave (connection : Nat)
  | command (command : Command P)
  /-- The server's task goes on with its command. -/
  | continue
  /-- The listener fails. -/
  | fail

section Policy

variable {P : Type} [DecidableEq P]

/-- The ids in order. -/
def sortedIds (devices : List DeviceId) : List DeviceId :=
  devices.mergeSort fun a b => a.name ≤ b.name

def reconfigureResult (current next : Table DeviceId (DeviceDefinition P))
    (affected : List DeviceId) : ReconfigureResult :=
  let added := next.keys.filter fun device => !current.contains device
  let changed := next.keys.filter fun device =>
    (current.get? device).any fun previous => some previous ≠ next.get? device
  let explicitlyChanged := affected.dedup.filter fun device =>
    current.contains device && next.contains device && !changed.contains device
  let removed := current.keys.filter fun device => !next.contains device
  { added := sortedIds added
    changed := sortedIds (changed ++ explicitlyChanged)
    removed := sortedIds removed }

end Policy

namespace Server

variable {P : Type} (s : Server P) (connection : Nat)

def start (config : ServerConfig P) (definitions : List (DeviceDefinition P))
    (anonymousHotline : Option AnonymousHotlineDefinition) : Server P where
  config := config
  definitions := byId definitions
  anonymousHotline := anonymousHotline
  nextGeneration := 1
  sessions := ∅
  connections := []
  task := .ready
  stopping := false
  trace := []

/-- Whether the server's task holds the lock of the map of the sessions. -/
def sessionsLocked : Bool :=
  match s.task with
  | .replacing .. => true
  | _ => false

def phase? : Option (Phase P) :=
  s.connections[connection]?.map Connection.phase

def enter (phase : Phase P) : Server P :=
  { s with connections := s.connections.modify connection fun c => { c with phase } }

def record (effect : Effect) : Server P := { s with trace := s.trace ++ [effect] }

/-- `SessionAdmission::retire`. -/
def retireAdmission : Server P :=
  { s with connections := s.connections.modify connection fun c => { c with retired := true } }

/-- `SessionSender::retire`. -/
def retire (device : DeviceId) (sender : SessionSender)
    (successor : Option SessionGeneration) : Server P :=
  (s.retireAdmission sender.connection).record (.retired device sender.generation successor)

/-- The admission of a connection is over before it has registered. -/
def close : Server P :=
  (s.retireAdmission connection).enter connection (.closed none)

def reject (reason : String) : Server P :=
  (s.record (.sent connection (.registerReject reason))).close connection

/-! ## Tokens -/

/-- `RegisterToken`, up to the read of the definitions. -/
def beginToken (transport : StationTransport) (device : DeviceId) : Server P :=
  match s.definitions.get? device with
  | none => s.enter connection (.tokenUnknown device)
  | some definition => s.enter connection (.tokenChecked device
      (transportAllowed definition.transport transport
        && s.config.registrationTokens.accepts device))

def checkUnknownToken (device : DeviceId) : Server P :=
  s.enter connection (.tokenChecked device
    (s.anonymousHotline.isSome && s.config.registrationTokens.accepts device))

def replacementRegistrationBackoffSeconds : Nat := 10

/-- The answer to a token, and whom it is in favour of. -/
def answerToken (device : DeviceId) (permitted : Bool) : Server P :=
  if permitted then
    match s.sessions.get? device with
    | some incumbent =>
      (s.record (.sent connection (.registerTokenReject
        replacementRegistrationBackoffSeconds))).enter connection
          (.tokenRefused device incumbent.generation)
    | none => (s.record (.sent connection .registerTokenAck)).enter connection .unregistered
  else
    (s.record (.sent connection (.registerTokenReject
      (min s.config.registrationTokens.backoffSeconds (2 ^ 32 - 1))))).enter connection
        .unregistered

/-- The incumbent is retired if it still is the one that the token was refused for. -/
def retireIncumbent (device : DeviceId) (incumbent : SessionGeneration) : Server P :=
  let retired :=
    match s.sessions.get? device with
    | some current =>
      if current.generation = incumbent then s.retire device current none else s
    | none => s
  retired.close connection

/-! ## Registration -/

/-- `handle_registration`, up to the read of the definitions. -/
def beginRegistration (registration : RegistrationMessage) : Server P :=
  match s.definitions.get? registration.deviceId with
  | none => s.enter connection (.unknown registration)
  | some definition => s.enter connection (.defined registration definition false)

def readHotline (registration : RegistrationMessage) : Server P :=
  match s.anonymousHotline with
  | none => s.reject connection "Device not configured"
  | some hotline => s.enter connection (.defined registration
      (hotline.deviceDefinition s.config registration.deviceId) true)

def allocateSessionGeneration : Option (SessionGeneration × Server P) :=
  if s.nextGeneration ≠ 0 ∧ s.nextGeneration + 1 < 2 ^ 64 then
    some (⟨s.nextGeneration⟩, { s with nextGeneration := s.nextGeneration + 1 })
  else none

/-- The checks of a registration, and the generation that it draws. -/
def admitRegistration (transport : StationTransport) (ipv6 : Bool)
    (registration : RegistrationMessage) (definition : DeviceDefinition P)
    (anonymousHotline : Bool) : Server P :=
  if transportAllowed definition.transport transport = false then
    s.reject connection "Device transport not permitted"
  else
    match registration.advertisedProtocol.elim (some ⟨3, by decide⟩) negotiate with
    | none => s.close connection
    | some protocol =>
      if ipv6 = true ∧ protocol.wire < 17 then
        s.reject connection "IPv6 requires protocol v17"
      else
        match s.allocateSessionGeneration with
        | none => s.close connection
        | some (generation, s') =>
          s'.enter connection (.registering
            { device := definition, anonymousHotline, generation } protocol
            [.registerAck s.config.keepaliveSeconds s.config.secondaryKeepaliveSeconds
              protocol s.config.dateTemplate, .capabilitiesRequest])

/-- Whether a registration has the permit for its event: a reserved slot, or room in the
    ordinary queue. -/
def registrationPermit (queue : Queue) : Bool :=
  s.config.priorityEvents || queue.room && !queue.closed

/-- The session takes its place in the map and is announced, in one lifecycle section. -/
def publish (session : SessionState P) : Server P :=
  let device := session.device.id
  let sender : SessionSender := ⟨session.generation, session.anonymousHotline, connection⟩
  let retired :=
    match s.sessions.get? device with
    | some previous => s.retire device previous (some session.generation)
    | none => s
  ({ retired with sessions := s.sessions.insert device sender }.record
    (.registered device session.generation)).enter connection (.registered session)

/-! ## Finalization -/

/-- The permit for the last event of a session, once it is decided: a reserved slot, or room in
    the ordinary queue.  A server that stops does not wait for room. -/
def disconnectPermit (queue : Queue) (stopping : Bool) : Option Bool :=
  if s.config.priorityEvents then some true
  else if queue.closed then some false
  else if queue.room then some true
  else if stopping then some false
  else none

def isCurrent (session : SessionState P) : Bool :=
  (s.sessions.get? session.device.id).any fun entry => entry.generation = session.generation

/-- The session leaves the map if it still is there, and only then it is said to be gone. -/
def finalize (session : SessionState P) (permit : Bool) : Server P :=
  let device := session.device.id
  let left :=
    if s.isCurrent session then
      let removed := { s with sessions := s.sessions.erase device }
      if permit then removed.record (.disconnected device session.generation) else removed
    else s
  left.enter connection (.closed (some session))

/-! ## Steps -/

/-- The session that a step of a connection publishes. -/
def publishes? (queue : Queue) : Option (SessionState P) :=
  match s.phase? connection with
  | some (.registering session _ []) =>
    if s.sessionsLocked = false ∧ s.registrationPermit queue then some session else none
  | _ => none

/-- The session that a step of a connection finalizes, and whether there is a permit for it. -/
def finalizes? : Option (SessionState P × Bool) :=
  match s.phase? connection with
  | some (.leaving session permit) => if s.sessionsLocked then none else some (session, permit)
  | _ => none

/-- A connection goes on to its next await; it stays where it is while a lock is held or while
    there is no permit. -/
def proceed (queue : Queue) (c : Connection P) : Server P :=
  match c.phase with
  | .unregistered | .registered _ | .closed _ => s
  | .tokenUnknown device => s.checkUnknownToken connection device
  | .tokenChecked device permitted =>
    if permitted && s.sessionsLocked then s else s.answerToken connection device permitted
  | .tokenRefused device incumbent =>
    if s.sessionsLocked then s else s.retireIncumbent connection device incumbent
  | .unknown registration => s.readHotline connection registration
  | .defined registration definition anonymousHotline =>
    s.admitRegistration connection c.transport c.ipv6 registration definition anonymousHotline
  | .registering session protocol (reply :: unsent) =>
    (s.record (.sent connection reply)).enter connection (.registering session protocol unsent)
  | .registering session _ [] =>
    if s.sessionsLocked = false ∧ s.registrationPermit queue then s.publish connection session
    else s
  | .draining session => s.enter connection (.finalizing session s.stopping)
  | .finalizing session stopping =>
    match s.disconnectPermit queue stopping with
    | some permit => s.enter connection (.leaving session permit)
    | none => s
  | .leaving session permit =>
    if s.sessionsLocked then s else s.finalize connection session permit

/-- A connection ends.  Its admission is retired, and a session is then finalized, which nothing
    interrupts. -/
def leave (c : Connection P) : Server P :=
  match c.phase with
  | .draining _ | .finalizing _ _ | .leaving _ _ | .closed _ => s
  | .registered session =>
    (s.retireAdmission connection).enter connection (.draining session)
  | _ => s.close connection

variable [DecidableEq P]

/-- `apply_station_policy`, up to the write of the definitions. -/
def replaceDefinitions (definitions : List (DeviceDefinition P))
    (affected : List DeviceId) (anonymousHotline : AnonymousHotlineUpdate) : Server P :=
  let next := byId definitions
  { s with
    definitions := next
    task := .replacing (reconfigureResult s.definitions next affected) affected anonymousHotline }

/-- `apply_station_policy`, from the write of the hotline on: whom it reaches is decided, and the
    map of the sessions is unlocked. -/
def replaceHotline (result : ReconfigureResult) (affected : List DeviceId)
    (anonymousHotline : AnonymousHotlineUpdate) : Server P :=
  let next := anonymousHotline.apply s.anonymousHotline
  let anonymousChanged := s.anonymousHotline ≠ next
  let affectedDevices := result.disconnectedDevices ++ affected
  let affectedSessions := s.sessions.entries.filter fun entry =>
    affectedDevices.contains entry.1 || (anonymousChanged && entry.2.anonymousHotline)
  { s with
    anonymousHotline := next
    task := .retiring affectedSessions (.policy result) }

/-- The first step of a command. -/
def begin : Command P → Server P
  | .reconfigure definitions affected => s.replaceDefinitions definitions affected .preserve
  | .reconfigureStationPolicy definitions affected anonymousHotline =>
    s.replaceDefinitions definitions affected (.replace anonymousHotline)
  | .reconfigureAnonymousHotline definition =>
    let affected := if s.anonymousHotline = definition then []
      else s.sessions.entries.filter fun entry => entry.2.anonymousHotline
    { s with
      anonymousHotline := definition
      task := .retiring affected (.hotline affected.length) }
  | .disconnectSession device generation =>
    match s.sessions.get? device with
    | some session => if session.generation = generation then s.retire device session none else s
    | none => s
  | .shutdown => { s with task := .retiring s.sessions.entries .shutdown }

/-- The next step of a command that is being applied. -/
def «continue» : Server P :=
  match s.task with
  | .ready | .stopped => s
  | .replacing result affected anonymousHotline =>
    s.replaceHotline result affected anonymousHotline
  | .retiring ((device, session) :: rest) answer =>
    { s with task := .retiring rest answer }.retire device session none
  | .retiring [] .shutdown =>
    { s with task := .stopped, stopping := true }.record (.applied .shutdown)
  | .retiring [] answer => { s with task := .ready }.record (.applied answer)

def step (s : Server P) : Input P → Server P
  | .accept transport ipv6 =>
    match s.task with
    | .ready =>
      { s with connections := s.connections ++ [⟨transport, ipv6, false, .unregistered⟩] }
    | _ => s
  | .token connection device =>
    match s.connections[connection]? with
    | some ⟨transport, _, _, .unregistered⟩ => s.beginToken connection transport device
    | _ => s
  | .register connection registration =>
    match s.connections[connection]? with
    | some ⟨_, _, _, .unregistered⟩ => s.beginRegistration connection registration
    | _ => s
  | .proceed connection queue =>
    match s.connections[connection]? with
    | some c => s.proceed connection queue c
    | none => s
  | .leave connection =>
    match s.connections[connection]? with
    | some c => s.leave connection c
    | none => s
  | .command command =>
    match s.task with
    | .ready => s.begin command
    | _ => s
  | .continue => s.continue
  | .fail =>
    match s.task with
    | .ready => { s with task := .stopped, stopping := true }
    | _ => s

end Server

end Sccp.Signaling
