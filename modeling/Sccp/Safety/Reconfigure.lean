/-
  Sccp.Safety.Reconfigure

  Which sessions a change of policy reaches.

  A registration reads the definition of its device long before its session can be seen, and a
  command decides whom to retire from the sessions that can be seen.  So a command reaches every
  session whose definition it replaces, unless a registration is under way that has read the old
  one.
-/

import Sccp.Safety.Sessions

namespace Sccp.Signaling

open Sccp Runs

variable {P : Type}

/-! ## Definitions in force -/

/-- The definition of a device under given policies. -/
def inForce (config : ServerConfig P) (definitions : Table DeviceId (DeviceDefinition P))
    (hotline : Option AnonymousHotlineDefinition) (device : DeviceId) :
    Option (DeviceDefinition P) :=
  match definitions.get? device with
  | some definition => some definition
  | none => hotline.map fun guest => guest.deviceDefinition config device

/-- The definition that a device has been admitted under is in force; that of a configured device
    is a configured one. -/
def Stands (config : ServerConfig P) (definitions : Table DeviceId (DeviceDefinition P))
    (hotline : Option AnonymousHotlineDefinition) (definition : DeviceDefinition P)
    (anonymousHotline : Bool) : Prop :=
  if anonymousHotline then inForce config definitions hotline definition.id = some definition
  else definitions.get? definition.id = some definition

/-- What a registration has read, or is about to read, stands under given policies. -/
def Phase.GoesBy (config : ServerConfig P) (definitions : Table DeviceId (DeviceDefinition P))
    (hotline : Option AnonymousHotlineDefinition) : Phase P → Prop
  | .unknown registration => ∀ guest ∈ hotline,
      inForce config definitions hotline registration.deviceId
        = some (guest.deviceDefinition config registration.deviceId)
  | .defined _ definition anonymousHotline =>
    Stands config definitions hotline definition anonymousHotline
  | .registering session _ _ =>
    Stands config definitions hotline session.device session.anonymousHotline
  | _ => True

/-- The session of a connection, from when it is published. -/
def Phase.session? : Phase P → Option (SessionState P)
  | .registered session | .draining session | .finalizing session _ | .leaving session _ =>
    some session
  | .closed session => session
  | _ => none

variable {config : ServerConfig P} {definitions : Table DeviceId (DeviceDefinition P)}
  {hotline : Option AnonymousHotlineDefinition} {definition : DeviceDefinition P}

theorem Stands.inForce {anonymousHotline : Bool}
    (h : Stands config definitions hotline definition anonymousHotline) :
    inForce config definitions hotline definition.id = some definition := by
  unfold Stands at h
  split at h
  · exact h
  · unfold Signaling.inForce
    rw [h]

namespace Server

variable {s : Server P} {c : Nat} {device : DeviceId} {entry : SessionSender}
variable {session : SessionState P}

/-- The admission of a connection is not retired. -/
def isActive (s : Server P) (connection : Nat) : Bool :=
  s.connections[connection]?.any fun c => !c.retired

/-- The session that a connection has published. -/
def session? (s : Server P) (connection : Nat) : Option (SessionState P) :=
  (s.phase? connection).bind Phase.session?

variable (s)

/-- No command is being applied. -/
def isSettled : Bool :=
  match s.task with
  | .ready | .stopped => true
  | _ => false

/-- After every command, each session in the map that is not retired goes by the definition that
    is in force for its device. -/
def Current : Prop :=
  s.isSettled = true → ∀ device entry, s.sessions.get? device = some entry →
    s.isActive entry.connection = true → ∃ session, s.session? entry.connection = some session ∧
      inForce s.config s.definitions s.anonymousHotline device = some session.device

/-- No registration under way has read what is not in force under new policies. -/
def Unread (definitions : Table DeviceId (DeviceDefinition P))
    (hotline : Option AnonymousHotlineDefinition) : Prop :=
  ∀ c ∈ s.connections, c.phase.GoesBy s.config definitions hotline

/-- A session of a guest that is not retired. -/
def isGuest (entry : SessionSender) : Bool :=
  entry.anonymousHotline && s.isActive entry.connection

/-- A guest whose device becomes configured is named to be disconnected, or is disconnected with
    all guests, or has just that definition. -/
def GuestsNamed (definitions : Table DeviceId (DeviceDefinition P))
    (affected : List DeviceId) (hotline : Option AnonymousHotlineDefinition) : Prop :=
  ∀ e ∈ s.sessions.entries, s.isGuest e.2 = true → s.definitions.get? e.1 = none →
    ∀ definition ∈ definitions.get? e.1, e.1 ∈ affected ∨ hotline ≠ s.anonymousHotline ∨
      (s.session? e.2.connection).map SessionState.device = some definition

/-- A command does not replace a definition that a registration under way has read, and leaves
    no guest behind. -/
def Spares : Command P → Prop
  | .reconfigure definitions affected =>
    s.Unread (byId definitions) s.anonymousHotline
      ∧ s.GuestsNamed (byId definitions) affected s.anonymousHotline
  | .reconfigureStationPolicy definitions affected next =>
    s.Unread (byId definitions) s.anonymousHotline ∧ s.GuestsNamed (byId definitions) affected next
  | .reconfigureAnonymousHotline next => s.Unread s.definitions next
  | _ => True

/-- The hotline that is about to be written. -/
def nextHotline : Option (Option AnonymousHotlineDefinition) :=
  match s.task with
  | .replacing _ _ update => some (update.apply s.anonymousHotline)
  | _ => none

/-- The server's task takes the next command. -/
def isReady : Bool :=
  match s.task with
  | .ready => true
  | _ => false

/-- A step of a command spares the registrations under way, at each of its writes. -/
def Undisturbed : Input P → Prop
  | .command command => s.isReady = true → s.Spares command
  | .continue => ∀ next ∈ s.nextHotline, s.Unread s.definitions next
  | _ => True

variable {s}

instance [DecidableEq P] (definition : DeviceDefinition P) (anonymousHotline : Bool) :
    Decidable (Stands config definitions hotline definition anonymousHotline) :=
  inferInstanceAs (Decidable (if anonymousHotline then
    inForce config definitions hotline definition.id = some definition
    else definitions.get? definition.id = some definition))

instance [DecidableEq P] : (phase : Phase P) → Decidable (phase.GoesBy config definitions hotline)
  | .unknown _ => inferInstanceAs (Decidable (∀ guest ∈ hotline, _))
  | .defined _ definition anonymousHotline =>
    inferInstanceAs (Decidable (Stands config definitions hotline definition anonymousHotline))
  | .registering session _ _ => inferInstanceAs
      (Decidable (Stands config definitions hotline session.device session.anonymousHotline))
  | .unregistered | .tokenUnknown _ | .tokenChecked _ _ | .tokenRefused _ _ | .registered _
  | .draining _ | .finalizing _ _ | .leaving _ _ | .closed _ => isTrue trivial

instance [DecidableEq P] : Decidable (s.Unread definitions hotline) :=
  inferInstanceAs (Decidable (∀ c ∈ s.connections, _))

instance [DecidableEq P] (affected : List DeviceId) :
    Decidable (s.GuestsNamed definitions affected hotline) :=
  inferInstanceAs (Decidable (∀ e ∈ s.sessions.entries, s.isGuest e.2 = true →
    s.definitions.get? e.1 = none → ∀ definition ∈ definitions.get? e.1,
      e.1 ∈ affected ∨ hotline ≠ s.anonymousHotline ∨
        (s.session? e.2.connection).map SessionState.device = some definition))

instance [DecidableEq P] : (command : Command P) → Decidable (s.Spares command)
  | .reconfigure _ _ | .reconfigureStationPolicy _ _ _ => inferInstanceAs (Decidable (_ ∧ _))
  | .reconfigureAnonymousHotline next => inferInstanceAs (Decidable (s.Unread s.definitions next))
  | .disconnectSession _ _ | .shutdown => isTrue trivial

instance [DecidableEq P] : (input : Input P) → Decidable (s.Undisturbed input)
  | .command command => inferInstanceAs (Decidable (s.isReady = true → s.Spares command))
  | .continue => inferInstanceAs (Decidable (∀ next ∈ s.nextHotline, s.Unread s.definitions next))
  | .accept _ _ | .token _ _ | .register _ _ | .proceed _ _ | .leave _ | .fail => isTrue trivial

/-! ## What is kept -/

/-- The command that is being applied retires an entry. -/
def Reached (s : Server P) (device : DeviceId) (entry : SessionSender) : Prop :=
  match s.task with
  | .replacing result affected update =>
    device ∈ result.disconnectedDevices ++ affected ∨
      update.apply s.anonymousHotline ≠ s.anonymousHotline ∧ entry.anonymousHotline = true
  | .retiring sessions _ => (device, entry) ∈ sessions
  | _ => False

/-- What a run keeps, as long as its commands disturb no registration. -/
structure Admitted (s : Server P) : Prop where
  keyed : ∀ device definition, s.definitions.get? device = some definition → definition.id = device
  reading : ∀ c phase, s.phase? c = some phase →
    phase.GoesBy s.config s.definitions s.anonymousHotline
  entries : ∀ device entry, s.sessions.get? device = some entry →
    ∃ session, s.session? entry.connection = some session ∧ session.device.id = device ∧
      session.anonymousHotline = entry.anonymousHotline ∧ (s.isActive entry.connection = true →
        Stands s.config s.definitions s.anonymousHotline session.device session.anonymousHotline
          ∨ s.Reached device entry)

theorem Admitted.current (h : s.Admitted) : s.Current := by
  intro hsettled device entry hentry hactive
  obtain ⟨session, hsession, hdevice, -, hstands⟩ := h.entries device entry hentry
  rcases hstands hactive with hstands | hreached
  · exact ⟨session, hsession, hdevice ▸ hstands.inForce⟩
  unfold isSettled at hsettled
  unfold Reached at hreached
  split at hsettled
  · next htask =>
    rw [htask] at hreached
    exact hreached.elim
  · next htask =>
    rw [htask] at hreached
    exact hreached.elim
  · cases hsettled

theorem keyed_foldl (definitions : List (DeviceDefinition P))
    {table : Table DeviceId (DeviceDefinition P)}
    (htable : ∀ device definition, table.get? device = some definition → definition.id = device)
    (h : (definitions.foldl (fun table definition => table.insert definition.id definition)
      table).get? device = some definition) : definition.id = device := by
  induction definitions generalizing table with
  | nil => exact htable device definition h
  | cons first rest ih =>
    refine ih (fun device' definition' h' => ?_) h
    rw [Table.get?_insert] at h'
    split at h'
    · next hd =>
      cases h'
      exact hd.symm
    · exact htable device' definition' h'

theorem keyed_byId (definitions : List (DeviceDefinition P))
    (h : (byId definitions).get? device = some definition) : definition.id = device :=
  keyed_foldl definitions (fun _ _ h' => by cases h') h

/-! ### Connections -/

/-- Connections go on with what they have read, and keep the sessions that they have. -/
theorem Admitted.connections (h : s.Admitted) {connections : List (Connection P)}
    (hreading : ∀ c phase, (connections[c]?.map Connection.phase) = some phase →
      s.phase? c = some phase ∨ phase.GoesBy s.config s.definitions s.anonymousHotline)
    (hactive : ∀ c session, s.session? c = some session →
      (connections[c]?.any fun x => !x.retired) = true → s.isActive c = true)
    (hsession : ∀ c session, s.session? c = some session →
      (connections[c]?.map Connection.phase).bind Phase.session? = some session) :
    { s with connections : Server P }.Admitted where
  keyed := h.keyed
  reading := fun c phase hc => (hreading c phase hc).elim (h.reading c phase) id
  entries := fun device entry hentry => by
    obtain ⟨session, hsession', hdevice, hanonymous, hstands⟩ := h.entries device entry hentry
    exact ⟨session, hsession entry.connection session hsession', hdevice, hanonymous,
      fun h' => hstands (hactive entry.connection session hsession' h')⟩

theorem Admitted.record (h : s.Admitted) (effect : Effect) : (s.record effect).Admitted :=
  ⟨h.keyed, h.reading, h.entries⟩

theorem phase?_enter (phase : Phase P) (c' : Nat) : (s.enter c phase).phase? c'
    = if c = c' then (s.phase? c').map fun _ => phase else s.phase? c' := by
  unfold phase? enter
  rw [phase?_modify]
  split
  · rw [Option.map_map]
    rfl
  · rfl

theorem any_modify_of_le {f : Connection P → Connection P}
    (hf : ∀ x, (f x).retired = false → x.retired = false) (c' : Nat)
    (h : ((s.connections.modify c f)[c']?.any fun x => !x.retired) = true) :
    s.isActive c' = true := by
  unfold isActive
  rw [List.getElem?_modify] at h
  rcases hx : s.connections[c']? with _ | x
  · rw [hx] at h
    cases h
  rw [hx] at h
  by_cases hc : c = c'
  · simp only [hc, if_true, Option.map_eq_map, Option.map_some, Option.any_some,
      Bool.not_eq_true'] at h
    simp [hf x h]
  · simpa [hc] using h

theorem Admitted.enter {phase old : Phase P} (h : s.Admitted) (hc : s.phase? c = some old)
    (hgoes : phase.GoesBy s.config s.definitions s.anonymousHotline)
    (hsession : ∀ session, old.session? = some session → phase.session? = some session) :
    (s.enter c phase).Admitted := by
  refine h.connections (fun c' phase' hc' => ?_) (fun c' _ _ => ?_) fun c' session hs => ?_
  · have hphase := (phase?_enter phase c').symm.trans hc'
    split at hphase
    · obtain ⟨_, -, rfl⟩ := Option.map_eq_some_iff.mp hphase
      exact .inr hgoes
    · exact .inl hphase
  · exact any_modify_of_le (f := fun x => { x with phase }) (fun _ hx => hx) c'
  refine (congrArg (·.bind Phase.session?) (phase?_enter phase c')).trans ?_
  unfold session? at hs
  by_cases hcc : c = c'
  · rw [if_pos hcc]
    subst hcc
    rw [hc] at hs ⊢
    exact hsession session hs
  · rw [if_neg hcc]
    exact hs

theorem Admitted.retireAdmission (h : s.Admitted) (connection : Nat) :
    (s.retireAdmission connection).Admitted := by
  refine h.connections (fun c phase hc => .inl ?_) (fun c _ _ =>
    any_modify_of_le (fun _ hx => by cases hx) c) fun c session hs => ?_
  · exact (phase?_retireAdmission connection).symm.trans hc
  · have hphase := phase?_retireAdmission (s := s) (c := c) connection
    exact (congrArg (Option.bind · Phase.session?) hphase).trans hs

theorem Admitted.retire (h : s.Admitted) (device : DeviceId) (sender : SessionSender)
    (successor : Option SessionGeneration) : (s.retire device sender successor).Admitted :=
  (h.retireAdmission sender.connection).record _

theorem Admitted.close {old : Phase P} (h : s.Admitted) (hc : s.phase? c = some old)
    (hsession : old.session? = none) : (s.close c).Admitted :=
  (h.retireAdmission c).enter ((phase?_retireAdmission c).trans hc) trivial
    (by rw [hsession]; exact nofun)

theorem Admitted.reject {old : Phase P} (h : s.Admitted) (hc : s.phase? c = some old)
    (hsession : old.session? = none) (reason : String) : (s.reject c reason).Admitted :=
  (h.record _).close hc hsession

theorem Admitted.insert (h : s.Admitted) (sender : SessionSender)
    (hsession : s.session? sender.connection = some session)
    (hanonymous : session.anonymousHotline = sender.anonymousHotline)
    (hstands : Stands s.config s.definitions s.anonymousHotline session.device
      session.anonymousHotline) :
    { s with sessions := s.sessions.insert session.device.id sender : Server P }.Admitted where
  keyed := h.keyed
  reading := h.reading
  entries := fun device entry hentry => by
    rw [Table.get?_insert] at hentry
    split at hentry
    · next hdevice =>
      cases hentry
      exact ⟨session, hsession, hdevice.symm, hanonymous, fun _ => .inl hstands⟩
    · exact h.entries device entry hentry

theorem Admitted.erase (h : s.Admitted) (device : DeviceId) :
    { s with sessions := s.sessions.erase device : Server P }.Admitted where
  keyed := h.keyed
  reading := h.reading
  entries := fun device' entry hentry => by
    rw [Table.get?_erase] at hentry
    split at hentry
    · cases hentry
    · exact h.entries device' entry hentry

theorem Admitted.publish {protocol : ProtocolVersion} (h : s.Admitted)
    (hc : s.phase? c = some (.registering session protocol [])) :
    (s.publish c session).Admitted := by
  have hstands := h.reading c _ hc
  have hinsert : ∀ (r : Server P) (sender : SessionSender),
      sender = ⟨session.generation, session.anonymousHotline, c⟩ → r.Admitted → r.phase? c
        = s.phase? c →
      r.config = s.config → r.definitions = s.definitions →
      r.anonymousHotline = s.anonymousHotline → r.sessions = s.sessions →
      (({ r with sessions := s.sessions.insert session.device.id sender : Server P }.record
        (.registered session.device.id session.generation)).enter c
          (.registered session)).Admitted := by
    rintro r _ rfl hr hphase hconfig hdefinitions hhotline hsessions
    have hentered : (r.enter c (.registered session)).Admitted :=
      hr.enter (hphase.trans hc) trivial nofun
    have hsession : (r.enter c (.registered session)).session? c = some session := by
      unfold session?
      rw [phase?_enter, if_pos rfl, hphase, hc]
      rfl
    have hinserted := hentered.insert
      ⟨session.generation, session.anonymousHotline, c⟩ hsession rfl (by
      change Stands r.config r.definitions r.anonymousHotline _ _
      rw [hconfig, hdefinitions, hhotline]
      exact hstands)
    rw [← hsessions]
    exact hinserted.record _
  unfold Server.publish
  dsimp only
  split
  · next previous hprevious =>
    exact hinsert _ _ rfl (h.retire _ previous _) (phase?_retireAdmission _) rfl rfl rfl rfl
  · exact hinsert s _ rfl h rfl rfl rfl rfl rfl

theorem Admitted.finalize {permit : Bool} (h : s.Admitted)
    (hc : s.phase? c = some (.leaving session permit)) :
    (s.finalize c session permit).Admitted := by
  unfold Server.finalize
  dsimp only
  split
  · split
    · exact ((h.erase _).record _).enter hc trivial fun _ heq => heq
    · exact (h.erase _).enter hc trivial fun _ heq => heq
  · exact h.enter hc trivial fun _ heq => heq

theorem Admitted.admitted {registration : RegistrationMessage} {anonymousHotline : Bool}
    (h : s.Admitted) (hc : s.phase? c = some (.defined registration definition anonymousHotline))
    (transport : StationTransport) (ipv6 : Bool) :
    (s.admitRegistration c transport ipv6 registration definition anonymousHotline).Admitted := by
  have hgoes := h.reading c _ hc
  unfold Server.admitRegistration
  split
  · exact h.reject hc rfl _
  split
  · exact h.close hc rfl
  split
  · exact h.reject hc rfl _
  split
  · exact h.close hc rfl
  · next generation s' hallocate =>
    unfold allocateSessionGeneration at hallocate
    split at hallocate
    · cases hallocate
      have hdrawn : { s with nextGeneration := s.nextGeneration + 1 : Server P }.Admitted :=
        ⟨h.keyed, h.reading, h.entries⟩
      exact hdrawn.enter hc hgoes fun _ h => by cases h
    · cases hallocate

/-- No step of a connection does any harm. -/
theorem Admitted.proceed {x : Connection P} (h : s.Admitted) (hx : s.connections[c]? = some x)
    (queue : Queue) : (s.proceed c queue x).Admitted := by
  obtain ⟨transport, ipv6, retired, phase⟩ := x
  have hc : s.phase? c = some phase := congrArg (·.map Connection.phase) hx
  unfold Server.proceed
  cases phase with
  | unregistered | registered | closed => exact h
  | tokenUnknown device => exact h.enter hc trivial nofun
  | tokenChecked device permitted =>
    dsimp only
    split
    · exact h
    unfold answerToken
    split
    · split
      · exact (h.record _).enter hc trivial nofun
      · exact (h.record _).enter hc trivial nofun
    · exact (h.record _).enter hc trivial nofun
  | tokenRefused device incumbent =>
    dsimp only
    split
    · exact h
    unfold retireIncumbent
    dsimp only
    split
    · next current _ =>
      split
      · exact (h.retire device current none).close ((phase?_retireAdmission _).trans hc) rfl
      · exact h.close hc rfl
    · exact h.close hc rfl
  | unknown registration =>
    dsimp only
    unfold readHotline
    split
    · exact h.reject hc rfl _
    · next guest hguest => exact h.enter hc (h.reading c _ hc guest hguest) nofun
  | defined registration definition anonymousHotline => exact h.admitted hc transport ipv6
  | registering session protocol unsent =>
    cases unsent with
    | nil =>
      dsimp only
      split
      · exact h.publish hc
      · exact h
    | cons reply rest =>
      have hgoes := h.reading c _ hc
      exact (h.record _).enter hc hgoes nofun
  | draining session => exact h.enter hc trivial fun _ heq => heq
  | finalizing session stopping =>
    dsimp only
    split
    · exact h.enter hc trivial fun _ heq => heq
    · exact h
  | leaving session permit =>
    dsimp only
    split
    · exact h
    · exact h.finalize hc

theorem Admitted.leave {x : Connection P} (h : s.Admitted) (hx : s.connections[c]? = some x) :
    (s.leave c x).Admitted := by
  obtain ⟨transport, ipv6, retired, phase⟩ := x
  have hc : s.phase? c = some phase := congrArg (·.map Connection.phase) hx
  unfold Server.leave
  cases phase with
  | draining | finalizing | leaving | closed => exact h
  | registered session =>
    exact (h.retireAdmission c).enter ((phase?_retireAdmission c).trans hc) trivial fun _ heq => heq
  | _ => exact h.close hc rfl

/-! ### Commands -/

/-- What has been read under way stands under new policies. -/
theorem Unread.reading (h : s.Unread definitions hotline) {phase : Phase P}
    (hc : s.phase? c = some phase) : phase.GoesBy s.config definitions hotline := by
  obtain ⟨x, hx, rfl⟩ := Option.map_eq_some_iff.mp hc
  exact h x (List.mem_of_getElem? hx)

section Commands

variable [DecidableEq P]

theorem mem_sortedIds {devices : List DeviceId} : device ∈ sortedIds devices ↔ device ∈ devices :=
  List.mem_mergeSort

/-- A device whose definition is replaced or removed is disconnected. -/
theorem mem_disconnectedDevices {current next : Table DeviceId (DeviceDefinition P)}
    (affected : List DeviceId) {old : DeviceDefinition P} (hold : current.get? device = some old)
    (hnew : next.get? device ≠ some old) :
    device ∈ (reconfigureResult current next affected).disconnectedDevices := by
  unfold ReconfigureResult.disconnectedDevices reconfigureResult
  simp only [List.mem_append, mem_sortedIds, List.mem_filter]
  rcases hnext : next.get? device with _ | new
  · refine .inr ⟨Table.mem_keys.mpr ⟨old, hold⟩, ?_⟩
    rw [Table.not_contains_iff.mpr hnext]
    rfl
  refine .inl (.inl ⟨Table.mem_keys.mpr ⟨new, hnext⟩, ?_⟩)
  rw [hold]
  rw [hnext] at hnew
  exact decide_eq_true (Ne.symm hnew)

/-- The definitions are written: whose definition is replaced is reached. -/
theorem Admitted.replaceDefinitions (h : s.Admitted) (htask : s.task = .ready)
    {definitions : List (DeviceDefinition P)} {affected : List DeviceId}
    {update : AnonymousHotlineUpdate} (hunread : s.Unread (byId definitions) s.anonymousHotline)
    (hguests : s.GuestsNamed (byId definitions) affected (update.apply s.anonymousHotline)) :
    (s.replaceDefinitions definitions affected update).Admitted where
  keyed := fun device definition => keyed_byId definitions
  reading := fun c phase hc => hunread.reading hc
  entries := fun device entry hentry => by
    obtain ⟨session, hsession, rfl, hanonymous, hstands⟩ := h.entries device entry hentry
    refine ⟨session, hsession, rfl, hanonymous, fun hactive => ?_⟩
    rcases hstands hactive with hstands | hreached
    · change Stands s.config (byId definitions) s.anonymousHotline _ _ ∨
        (session.device.id ∈ (reconfigureResult s.definitions (byId definitions)
            affected).disconnectedDevices ++ affected ∨
          update.apply s.anonymousHotline ≠ s.anonymousHotline ∧ entry.anonymousHotline = true)
      rcases hold : s.definitions.get? session.device.id with _ | old
      · -- a guest, who has been reached unless its device stays unconfigured
        cases hflag : session.anonymousHotline with
        | false =>
          unfold Stands at hstands
          rw [hflag, if_neg Bool.false_ne_true, hold] at hstands
          cases hstands
        | true =>
          rcases hnew : (byId definitions).get? session.device.id with _ | new
          · refine .inl ?_
            have hsame := hstands.inForce
            unfold Signaling.inForce at hsame
            rw [hold] at hsame
            unfold Stands Signaling.inForce
            rw [if_pos rfl, hnew]
            exact hsame
          have hentry' : (session.device.id, entry) ∈ s.sessions.entries :=
            Table.get?_eq_some.mp hentry
          have hflag' := hanonymous ▸ hflag
          have hguest : s.isGuest entry = true := Bool.and_eq_true_iff.mpr ⟨hflag', hactive⟩
          rcases hguests _ hentry' hguest hold new hnew with
            hnamed | hchanged | hsame
          · exact .inr (.inl (List.mem_append_right _ hnamed))
          · exact .inr (.inr ⟨hchanged, hflag'⟩)
          refine .inl ?_
          dsimp only at hsame
          rw [hsession] at hsame
          obtain rfl := Option.some.inj hsame
          unfold Stands Signaling.inForce
          rw [if_pos rfl, hnew]
      · have hin : old = session.device := by
          have hforce := hstands.inForce
          unfold Signaling.inForce at hforce
          rw [hold] at hforce
          exact Option.some.inj hforce
        rw [hin] at hold
        by_cases hnew : (byId definitions).get? session.device.id = some session.device
        · refine .inl ?_
          unfold Stands Signaling.inForce
          rw [hnew]
          split <;> rfl
        · exact .inr (.inl (List.mem_append_left _ (mem_disconnectedDevices affected hold hnew)))
    · unfold Reached at hreached
      rw [htask] at hreached
      exact hreached.elim

omit [DecidableEq P] in
/-- The hotline is written: whom the command reaches is about to be retired. -/
theorem Admitted.replaceHotline (h : s.Admitted) {result : ReconfigureResult}
    {affected : List DeviceId} {update : AnonymousHotlineUpdate}
    (htask : s.task = .replacing result affected update)
    (hunread : s.Unread s.definitions (update.apply s.anonymousHotline)) :
    (s.replaceHotline result affected update).Admitted where
  keyed := h.keyed
  reading := fun c phase hc => hunread.reading hc
  entries := fun device entry hentry => by
    obtain ⟨session, hsession, hdevice, hanonymous, hreached⟩ := h.entries device entry hentry
    refine ⟨session, hsession, hdevice, hanonymous, fun hactive => ?_⟩
    have hentry' : (device, entry) ∈ s.sessions.entries := Table.get?_eq_some.mp hentry
    -- who is reached is in the list
    have hlist : device ∈ result.disconnectedDevices ++ affected ∨
        update.apply s.anonymousHotline ≠ s.anonymousHotline ∧ entry.anonymousHotline = true →
        (s.replaceHotline result affected update).Reached device entry := by
      intro hreached
      refine List.mem_filter.mpr ⟨hentry', ?_⟩
      rcases hreached with hnamed | ⟨hchanged, hflag⟩
      · rw [List.contains_iff_mem.mpr hnamed]
        rfl
      · rw [hflag, decide_eq_true (Ne.symm hchanged)]
        exact Bool.or_true _
    rcases hreached hactive with hstands | hreached
    · by_cases hsame : update.apply s.anonymousHotline = s.anonymousHotline
      · refine .inl ?_
        change Stands s.config s.definitions (update.apply s.anonymousHotline) _ _
        rw [hsame]
        exact hstands
      · cases hflag : session.anonymousHotline with
        | false =>
          rw [hflag] at hstands
          exact .inl hstands
        | true => exact .inr (hlist (.inr ⟨hsame, hanonymous ▸ hflag⟩))
    · refine .inr (hlist ?_)
      unfold Reached at hreached
      rw [htask] at hreached
      exact hreached

omit [DecidableEq P] in
/-- Only the hotline is replaced: all guests are about to be retired. -/
theorem Admitted.replaceGuests (h : s.Admitted) (htask : s.task = .ready)
    {next : Option AnonymousHotlineDefinition} {answer : Answer}
    (hunread : s.Unread s.definitions next) :
    { s with
      anonymousHotline := next
      task := .retiring (if s.anonymousHotline = next then []
        else s.sessions.entries.filter fun entry => entry.2.anonymousHotline) answer :
        Server P }.Admitted where
  keyed := h.keyed
  reading := fun c phase hc => hunread.reading hc
  entries := fun device entry hentry => by
    obtain ⟨session, hsession, hdevice, hanonymous, hstands⟩ := h.entries device entry hentry
    refine ⟨session, hsession, hdevice, hanonymous, fun hactive => ?_⟩
    rcases hstands hactive with hstands | hreached
    · by_cases hsame : s.anonymousHotline = next
      · refine .inl ?_
        rw [hsame] at hstands
        exact hstands
      · cases hflag : session.anonymousHotline with
        | false =>
          rw [hflag] at hstands
          exact .inl hstands
        | true =>
          refine .inr ?_
          unfold Reached
          dsimp only
          rw [if_neg hsame]
          exact List.mem_filter.mpr ⟨Table.get?_eq_some.mp hentry, hanonymous ▸ hflag⟩
    · unfold Reached at hreached
      rw [htask] at hreached
      exact hreached.elim

omit [DecidableEq P] in
/-- The task goes to another stage that still reaches whom it has to. -/
theorem Admitted.goesOn (h : s.Admitted) (task : Task) (stopping : Bool)
    (hreached : ∀ device entry, s.isActive entry.connection = true → s.Reached device entry →
      { s with task, stopping : Server P }.Reached device entry) :
    { s with task, stopping : Server P }.Admitted where
  keyed := h.keyed
  reading := h.reading
  entries := fun device entry hentry => by
    obtain ⟨session, hsession, hdevice, hanonymous, hstands⟩ := h.entries device entry hentry
    exact ⟨session, hsession, hdevice, hanonymous, fun hactive =>
      (hstands hactive).imp_right (hreached device entry hactive)⟩

omit [DecidableEq P] in
theorem not_active_retireAdmission (connection : Nat) :
    (s.retireAdmission connection).isActive connection = false := by
  unfold isActive retireAdmission
  rw [List.getElem?_modify_eq]
  cases s.connections[connection]? <;> rfl

omit [DecidableEq P] in
/-- The next of those to be retired is retired. -/
theorem Admitted.retireNext (h : s.Admitted) {device : DeviceId} {sender : SessionSender}
    {rest : List (DeviceId × SessionSender)} {answer : Answer}
    (htask : s.task = .retiring ((device, sender) :: rest) answer) :
    ({ s with task := .retiring rest answer : Server P }.retire device sender none).Admitted := by
  have hretired := h.retire device sender none
  refine hretired.goesOn (.retiring rest answer) s.stopping fun device' entry hactive hreached => ?_
  unfold Reached at hreached
  have htask' : (s.retire device sender none).task = .retiring ((device, sender) :: rest) answer :=
    htask
  rw [htask'] at hreached
  rcases List.mem_cons.mp hreached with heq | hin
  · cases heq
    exact absurd hactive (by
      change (s.retireAdmission sender.connection).isActive sender.connection ≠ true
      rw [not_active_retireAdmission]
      exact Bool.false_ne_true)
  · exact hin

theorem Admitted.begin {command : Command P} (h : s.Admitted) (htask : s.task = .ready)
    (hundisturbed : s.Undisturbed (.command command)) : (s.begin command).Admitted := by
  have hspares : s.Spares command := hundisturbed (by
    unfold isReady
    rw [htask])
  cases command with
  | reconfigure definitions affected =>
    exact h.replaceDefinitions htask hspares.1 hspares.2
  | reconfigureStationPolicy definitions affected next =>
    exact h.replaceDefinitions htask hspares.1 hspares.2
  | reconfigureAnonymousHotline next => exact h.replaceGuests htask hspares
  | disconnectSession device generation =>
    dsimp only [Server.begin]
    split
    · split
      · exact h.retire device _ none
      · exact h
    · exact h
  | shutdown =>
    refine h.goesOn (.retiring s.sessions.entries .shutdown) s.stopping
      fun device entry _ hreached => ?_
    unfold Reached at hreached
    rw [htask] at hreached
    exact hreached.elim

omit [DecidableEq P] in
theorem Admitted.continue (h : s.Admitted) (hundisturbed : s.Undisturbed .continue) :
    s.continue.Admitted := by
  unfold Server.continue
  split
  · exact h
  · exact h
  · next htask =>
    refine h.replaceHotline htask (hundisturbed _ ?_)
    unfold nextHotline
    rw [htask]
    rfl
  · next htask => exact h.retireNext htask
  · next htask =>
    refine (h.goesOn .stopped true fun device entry _ hreached => ?_).record _
    unfold Reached at hreached
    rw [htask] at hreached
    exact absurd hreached List.not_mem_nil
  next htask =>
  refine (h.goesOn .ready s.stopping fun device entry _ hreached => ?_).record _
  unfold Reached at hreached
  rw [htask] at hreached
  exact absurd hreached List.not_mem_nil

omit [DecidableEq P] in
theorem Admitted.accept (h : s.Admitted) (transport : StationTransport) (ipv6 : Bool) :
    { s with connections := s.connections ++ [⟨transport, ipv6, false, .unregistered⟩] :
      Server P }.Admitted := by
  have hold : ∀ c session, s.session? c = some session → c < s.connections.length :=
    fun c session hs => by
      unfold session? phase? at hs
      by_contra hge
      rw [List.getElem?_eq_none (Nat.le_of_not_lt hge)] at hs
      cases hs
  refine h.connections (fun c phase hc => ?_) (fun c session hs hactive => ?_)
    fun c session hs => ?_
  · rcases Nat.lt_or_ge c s.connections.length with hlt | hge
    · rw [List.getElem?_append_left hlt] at hc
      exact .inl hc
    · obtain ⟨x, hx, rfl⟩ := Option.map_eq_some_iff.mp hc
      rw [List.getElem?_append_right hge] at hx
      obtain rfl := List.mem_singleton.mp (List.mem_of_getElem? hx)
      exact .inr trivial
  · rw [List.getElem?_append_left (hold c session hs)] at hactive
    exact hactive
  · rw [List.getElem?_append_left (hold c session hs)]
    exact hs

theorem Admitted.step (h : s.Admitted) {input : Input P} (hundisturbed : s.Undisturbed input) :
    (s.step input).Admitted := by
  cases input with
  | accept transport ipv6 =>
    dsimp only [Server.step]
    split
    · exact h.accept transport ipv6
    · exact h
  | token c device =>
    dsimp only [Server.step]
    split
    · next hx =>
      have hc : s.phase? c = some .unregistered := congrArg (·.map Connection.phase) hx
      unfold beginToken
      split
      · exact h.enter hc trivial nofun
      · exact h.enter hc trivial nofun
    · exact h
  | register c registration =>
    dsimp only [Server.step]
    split
    · next hx =>
      have hc : s.phase? c = some .unregistered := congrArg (·.map Connection.phase) hx
      unfold beginRegistration
      split
      · next hnone =>
        refine h.enter hc (fun guest hguest => ?_) nofun
        unfold Signaling.inForce
        rw [hnone, Option.mem_def.mp hguest]
        rfl
      next definition hdefinition =>
      refine h.enter hc ?_ nofun
      change s.definitions.get? definition.id = some definition
      rw [h.keyed _ _ hdefinition]
      exact hdefinition
    · exact h
  | proceed c queue =>
    dsimp only [Server.step]
    split
    · next x hx => exact h.proceed hx queue
    · exact h
  | leave c =>
    dsimp only [Server.step]
    split
    · next x hx => exact h.leave hx
    · exact h
  | command command =>
    dsimp only [Server.step]
    split
    · next htask => exact h.begin htask hundisturbed
    · exact h
  | «continue» => exact h.continue hundisturbed
  | fail =>
    dsimp only [Server.step]
    split
    · next htask =>
      refine h.goesOn .stopped true fun device entry _ hreached => ?_
      unfold Reached at hreached
      rw [htask] at hreached
      exact hreached.elim
    · exact h

/-- After every command, each session that is not retired goes by the definition in force, in a
    run whose commands disturb no registration and leave no guest behind. -/
theorem reconfiguration_reaches_every_session (config : ServerConfig P)
    (definitions : List (DeviceDefinition P))
    (anonymousHotline : Option AnonymousHotlineDefinition) (inputs : List (Input P))
    (hundisturbed : Each step Undisturbed (start config definitions anonymousHotline) inputs) :
    Always step Current (start config definitions anonymousHotline) inputs := by
  have hstart : (start config definitions anonymousHotline).Admitted :=
    { keyed := fun device definition h => keyed_byId definitions h
      reading := fun c phase hc => by cases hc
      entries := fun device entry hentry => by cases hentry }
  exact always_of_each (I := Admitted) (C := Undisturbed) (fun _ => Admitted.current)
    (fun _ _ h hC => h.step hC) hstart hundisturbed

end Commands

/-- A new definition for the phone that `deskPhone` is. -/
def renamedPhone : DeviceDefinition Unit := { deskPhone with description := "Lobby" }

/-- The phone registers; then its definition is replaced, and it is retired. -/
def replacedWhileRegistered : List (Input Unit) :=
  [.accept .clear false, .register 0 ⟨deskPhone.id, some 17⟩, .proceed 0 ⟨true, false⟩,
    .proceed 0 ⟨true, false⟩, .proceed 0 ⟨true, false⟩, .proceed 0 ⟨true, false⟩,
    .command (.reconfigureStationPolicy [renamedPhone] [] (some ⟨"Guest"⟩)), .continue, .continue,
    .continue]

theorem reconfiguration_reaches_registered :
    Always step Current (start plainConfig [deskPhone] none) replacedWhileRegistered :=
  reconfiguration_reaches_every_session plainConfig [deskPhone] none replacedWhileRegistered
    (by decide +kernel)

/-! ## Sessions that are missed -/

/-- The phone registers; its definition is replaced before it is published. -/
def replacedWhileRegistering : List (Input Unit) :=
  [.accept .clear false, .register 0 ⟨deskPhone.id, some 17⟩, .proceed 0 ⟨true, false⟩,
    .command (.reconfigure [renamedPhone] []), .continue, .continue, .proceed 0 ⟨true, false⟩,
    .proceed 0 ⟨true, false⟩, .proceed 0 ⟨true, false⟩]

/-- The phone registers as a guest; then it is configured. -/
def configuredGuest : List (Input Unit) :=
  [.accept .clear false, .register 0 ⟨deskPhone.id, some 17⟩, .proceed 0 ⟨true, false⟩,
    .proceed 0 ⟨true, false⟩, .proceed 0 ⟨true, false⟩, .proceed 0 ⟨true, false⟩,
    .proceed 0 ⟨true, false⟩, .command (.reconfigure [deskPhone] []), .continue, .continue]

theorem not_current (device : DeviceId) (entry : SessionSender)
    (definition : DeviceDefinition P) (hsettled : s.isSettled = true)
    (hentry : s.sessions.get? device = some entry) (hactive : s.isActive entry.connection = true)
    (hsession : (s.session? entry.connection).map SessionState.device = some definition)
    (hforce : inForce s.config s.definitions s.anonymousHotline device ≠ some definition) :
    ¬ s.Current := fun hcurrent => by
  obtain ⟨session, hsession', hforce'⟩ := hcurrent hsettled device entry hentry hactive
  rw [hsession'] at hsession
  cases hsession
  exact hforce hforce'

/-- A session goes by a definition that was replaced while it was registering, and a guest stays
    although its device has been configured. -/
theorem replaced_definition_survives :
    ¬ Always step Current (start plainConfig [deskPhone] none) replacedWhileRegistering ∧
    ¬ Always step Current (start plainConfig [] (some ⟨"Guest"⟩)) configuredGuest := by
  constructor
  · intro halways
    have hlast : (run step (start plainConfig [deskPhone] none) replacedWhileRegistering).Current :=
      (List.append_nil replacedWhileRegistering ▸ halways).split.2
    exact not_current deskPhone.id ⟨⟨1⟩, false, 0⟩ deskPhone (by decide)
      (by decide) (by decide) (by decide) (by decide) hlast
  intro halways
  have hlast : (run step (start plainConfig [] (some ⟨"Guest"⟩)) configuredGuest).Current :=
    (List.append_nil configuredGuest ▸ halways).split.2
  exact not_current deskPhone.id ⟨⟨1⟩, true, 0⟩ ⟨deskPhone.id, "Guest", .either, ()⟩
    (by decide +kernel) (by decide +kernel) (by decide +kernel) (by decide +kernel)
    (by decide +kernel) hlast

end Server

end Sccp.Signaling
