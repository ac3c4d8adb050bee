/-
  Sccp.Safety.Sessions

  The order in which the sessions of a device are announced.

  A generation is the ticket of a session, and the entry of its device is its seat: it is drawn
  when a registration begins, comes to the map of the sessions when it is published, and leaves
  it when the session is finalized, if it still is there.  All is well as long as the
  registrations of a device are published in the order in which they drew their generations.
-/

import Sccp.Lib.Runs
import Sccp.Lib.Tenure
import Sccp.Signaling.Sessions

namespace Sccp.Signaling

open Sccp Runs

/-! ## Tenure -/

/-- Where a connection is with its generation. -/
def Phase.stage {P : Type} : Phase P → Tenure.Stage DeviceId
  | .registering session _ _ => .holding session.device.id session.generation.val
  | .registered session | .draining session | .finalizing session _ | .leaving session _ =>
    .seated session.device.id session.generation.val
  | .closed (some session) => .gone session.device.id session.generation.val
  | _ => .outside

def Effect.entry? : Effect → Option (Tenure.Entry DeviceId)
  | .registered device generation => some (.opened device generation.val)
  | .disconnected device generation => some (.closed device generation.val)
  | .retired device generation (some successor) =>
    some (.replaced device generation.val successor.val)
  | _ => none

theorem entry?_opened {effect : Effect} {d : DeviceId} {n : Nat} :
    effect.entry? = some (.opened d n) ↔ effect = .registered d ⟨n⟩ := by
  rcases effect with _ | ⟨d', ⟨m⟩⟩ | ⟨d', ⟨m⟩⟩ | ⟨d', ⟨m⟩, _ | _⟩ | _ <;> simp [Effect.entry?]

theorem entry?_closed {effect : Effect} {d : DeviceId} {n : Nat} :
    effect.entry? = some (.closed d n) ↔ effect = .disconnected d ⟨n⟩ := by
  rcases effect with _ | ⟨d', ⟨m⟩⟩ | ⟨d', ⟨m⟩⟩ | ⟨d', ⟨m⟩, _ | _⟩ | _ <;> simp [Effect.entry?]

theorem entry?_replaced {effect : Effect} {d : DeviceId} {n m : Nat} :
    effect.entry? = some (.replaced d n m) ↔ effect = .retired d ⟨n⟩ (some ⟨m⟩) := by
  rcases effect with _ | ⟨d', ⟨m⟩⟩ | ⟨d', ⟨m⟩⟩ | ⟨d', ⟨m⟩, _ | ⟨⟨⟩⟩⟩ | _ <;> simp [Effect.entry?]

namespace Server

variable {P : Type} {s : Server P} {c : Nat} {session : SessionState P}

/-- The server as seats that change hands. -/
def tenure (s : Server P) : Tenure Nat DeviceId where
  next := s.nextGeneration
  stage := fun c => (s.phase? c).elim .outside Phase.stage
  seat := fun d => (s.sessions.get? d).map fun entry => (entry.generation.val, entry.connection)
  log := s.trace.filterMap Effect.entry?

/-! ### What the parts of a step do to it -/

theorem phase?_modify (connection c : Nat) (f : Connection P → Connection P) :
    (s.connections.modify connection f)[c]?.map Connection.phase
      = if connection = c then s.connections[c]?.map fun x => (f x).phase
        else s.connections[c]?.map Connection.phase := by
  rw [List.getElem?_modify, Option.map_eq_map, Option.map_map]
  split <;> rfl

theorem tenure_record_quiet {effect : Effect} (h : effect.entry? = none) :
    (s.record effect).tenure = s.tenure := by
  unfold tenure record
  simp [h, phase?]

theorem tenure_retireAdmission (connection : Nat) :
    (s.retireAdmission connection).tenure = s.tenure := by
  have hphase : (s.retireAdmission connection).phase? = s.phase? := funext fun c => by
    unfold phase? retireAdmission
    rw [phase?_modify]
    split <;> rfl
  unfold tenure
  rw [hphase]
  rfl

/-- A connection in a new phase. -/
theorem tenure_enter {phase : Phase P} (hc : s.phase? c ≠ none) : (s.enter c phase).tenure
    = { s.tenure with stage := Function.update s.tenure.stage c phase.stage } := by
  have hphase : ∀ c', (s.enter c phase).phase? c' = if c = c' then some phase else s.phase? c' :=
    fun c' => by
      unfold phase? enter
      rw [phase?_modify]
      split
      · next h =>
        subst h
        obtain ⟨x, hx⟩ := Option.ne_none_iff_exists'.mp hc
        obtain ⟨y, hy, -⟩ := Option.map_eq_some_iff.mp hx
        rw [hy]
        rfl
      · rfl
  unfold tenure
  congr 1
  funext c'
  rw [hphase]
  by_cases h : c = c'
  · rw [if_pos h, ← h, Function.update_self]
    rfl
  · rw [if_neg h, Function.update_of_ne (Ne.symm h)]

/-- A connection that does not take its generation anywhere. -/
theorem tenure_enter_same {phase old : Phase P} (hc : s.phase? c = some old)
    (hstage : phase.stage = old.stage) : (s.enter c phase).tenure = s.tenure := by
  rw [tenure_enter (by rw [hc]; nofun), hstage]
  have hsame : s.tenure.stage c = old.stage := congrArg (·.elim .outside Phase.stage) hc
  rw [← hsame, Function.update_eq_self]

theorem stage_of_phase {phase : Phase P} (hc : s.phase? c = some phase) :
    s.tenure.stage c = phase.stage := congrArg (·.elim .outside Phase.stage) hc

theorem phase?_retireAdmission (connection : Nat) :
    (s.retireAdmission connection).phase? c = s.phase? c := by
  unfold phase? retireAdmission
  rw [phase?_modify]
  split <;> rfl

theorem tenure_retire (device : DeviceId) (sender : SessionSender) :
    (s.retire device sender none).tenure = s.tenure :=
  (tenure_record_quiet rfl).trans (tenure_retireAdmission _)

/-- A connection that is closed before it has registered puts its generation away. -/
theorem tenure_close {phase : Phase P} (hc : s.phase? c = some phase)
    (hphase : ∀ k n, phase.stage ≠ .seated k n ∧ phase.stage ≠ .gone k n) :
    Tenure.Aside s.tenure (s.close c).tenure := by
  have hstage := stage_of_phase hc
  have hclosed : (s.close c).tenure
      = { s.tenure with stage := Function.update s.tenure.stage c .outside } := by
    unfold close
    rw [tenure_enter (by rw [phase?_retireAdmission, hc]; nofun), tenure_retireAdmission]
    rfl
  rcases hholds : phase.stage with _ | ⟨k, n⟩ | ⟨k, n⟩ | ⟨k, n⟩
  · rw [hclosed, ← hholds, ← hstage, Function.update_eq_self]
    exact .idle
  · have hact : s.tenure.act (.discard c)
        = { s.tenure with stage := Function.update s.tenure.stage c .outside } := by
      simp only [Tenure.act, hstage, hholds]
    rw [hclosed, ← hact]
    exact .discard c
  · exact absurd hholds (hphase k n).1
  · exact absurd hholds (hphase k n).2

theorem tenure_reject {phase : Phase P} (hc : s.phase? c = some phase)
    (hphase : ∀ k n, phase.stage ≠ .seated k n ∧ phase.stage ≠ .gone k n) (reason : String) :
    Tenure.Aside s.tenure (s.reject c reason).tenure := by
  have h := tenure_close (s := s.record (.sent c (.registerReject reason))) hc hphase
  rw [tenure_record_quiet rfl] at h
  exact h

/-- A connection that goes from one await to the next with what it has. -/
theorem aside_enter {phase old : Phase P} (hc : s.phase? c = some old)
    (hstage : phase.stage = old.stage) : Tenure.Aside s.tenure (s.enter c phase).tenure := by
  rw [tenure_enter_same hc hstage]
  exact .idle

theorem aside_sent {phase old : Phase P} (reply : Reply) (hc : s.phase? c = some old)
    (hstage : phase.stage = old.stage) :
    Tenure.Aside s.tenure ((s.record (.sent c reply)).enter c phase).tenure := by
  rw [tenure_enter_same (s := s.record (.sent c reply)) hc hstage, tenure_record_quiet rfl]
  exact .idle

theorem admit_aside {registration : RegistrationMessage} {definition : DeviceDefinition P}
    {anonymousHotline : Bool}
    (hc : s.phase? c = some (.defined registration definition anonymousHotline))
    (transport : StationTransport) (ipv6 : Bool) : Tenure.Aside s.tenure
      (s.admitRegistration c transport ipv6 registration definition anonymousHotline).tenure := by
  have houtside : ∀ k n, (Phase.defined registration definition anonymousHotline).stage
      ≠ .seated k n ∧ (Phase.defined registration definition anonymousHotline).stage
        ≠ .gone k n := fun _ _ => ⟨nofun, nofun⟩
  unfold admitRegistration
  split
  · exact tenure_reject hc houtside _
  split
  · exact tenure_close hc houtside
  next protocol _ =>
  split
  · exact tenure_reject hc houtside _
  split
  · exact tenure_close hc houtside
  next generation s' hallocate =>
  unfold allocateSessionGeneration at hallocate
  split at hallocate
  · cases hallocate
    rw [tenure_enter (s := { s with nextGeneration := s.nextGeneration + 1 })
      (by change s.phase? c ≠ none; rw [hc]; nofun)]
    have hdraw : s.tenure.act (.draw c definition.id) = { s.tenure with
        next := s.tenure.next + 1
        stage := Function.update s.tenure.stage c (.holding definition.id s.tenure.next) } := by
      simp only [Tenure.act, stage_of_phase hc, Phase.stage]
    exact hdraw ▸ .draw c definition.id
  · cases hallocate

/-! ### Steps -/

/-- A step of a connection that neither publishes nor finalizes a session. -/
theorem proceed_aside {x : Connection P} (hx : s.connections[c]? = some x) (queue : Queue)
    (hpublishes : s.publishes? c queue = none) (hfinalizes : s.finalizes? c = none) :
    Tenure.Aside s.tenure (s.proceed c queue x).tenure := by
  obtain ⟨transport, ipv6, retired, phase⟩ := x
  have hc : s.phase? c = some phase := congrArg (·.map Connection.phase) hx
  unfold proceed
  cases phase with
  | unregistered | registered | closed => exact .idle
  | tokenUnknown device => exact aside_enter hc rfl
  | tokenChecked device permitted =>
    dsimp only
    split
    · exact .idle
    unfold answerToken
    split
    · split
      · exact aside_sent _ hc rfl
      · exact aside_sent _ hc rfl
    · exact aside_sent _ hc rfl
  | tokenRefused device incumbent =>
    dsimp only
    split
    · exact .idle
    unfold retireIncumbent
    dsimp only
    split
    · next current _ =>
      split
      · have h := tenure_close (s := s.retire device current none)
          ((phase?_retireAdmission _).trans hc) fun _ _ => ⟨nofun, nofun⟩
        rwa [tenure_retire] at h
      · exact tenure_close hc fun _ _ => ⟨nofun, nofun⟩
    · exact tenure_close hc fun _ _ => ⟨nofun, nofun⟩
  | unknown registration =>
    dsimp only
    unfold readHotline
    split
    · exact tenure_reject hc (fun _ _ => ⟨nofun, nofun⟩) _
    · exact aside_enter hc rfl
  | defined registration definition anonymousHotline => exact admit_aside hc transport ipv6
  | registering session protocol unsent =>
    cases unsent with
    | nil =>
      dsimp only
      unfold publishes? at hpublishes
      rw [hc] at hpublishes
      dsimp only at hpublishes
      split
      · next hready =>
        rw [if_pos hready] at hpublishes
        cases hpublishes
      · exact .idle
    | cons reply rest => exact aside_sent reply hc rfl
  | draining session => exact aside_enter hc rfl
  | finalizing session stopping =>
    dsimp only
    split
    · exact aside_enter hc rfl
    · exact .idle
  | leaving session permit =>
    dsimp only
    unfold finalizes? at hfinalizes
    rw [hc] at hfinalizes
    dsimp only at hfinalizes
    split
    · exact .idle
    · next hfree =>
      rw [if_neg hfree] at hfinalizes
      cases hfinalizes

theorem leave_aside {x : Connection P} (hx : s.connections[c]? = some x) :
    Tenure.Aside s.tenure (s.leave c x).tenure := by
  obtain ⟨transport, ipv6, retired, phase⟩ := x
  have hc : s.phase? c = some phase := congrArg (·.map Connection.phase) hx
  unfold leave
  cases phase with
  | draining | finalizing | leaving | closed => exact .idle
  | registered session =>
    have h : Tenure.Aside (s.retireAdmission c).tenure
        ((s.retireAdmission c).enter c (.draining session)).tenure :=
      aside_enter ((phase?_retireAdmission c).trans hc) rfl
    rwa [tenure_retireAdmission] at h
  | registering => exact tenure_close hc fun _ _ => ⟨nofun, nofun⟩
  | _ => exact tenure_close hc fun _ _ => ⟨nofun, nofun⟩

theorem tenure_accept (x : Connection P) (hx : x.phase.stage = .outside) :
    { s with connections := s.connections ++ [x] : Server P }.tenure = s.tenure := by
  unfold tenure
  congr 1
  funext c
  unfold phase?
  dsimp only
  rcases Nat.lt_trichotomy c s.connections.length with hlt | rfl | hgt
  · rw [List.getElem?_append_left hlt]
  · rw [List.getElem?_concat_length, List.getElem?_eq_none (Nat.le_refl _)]
    exact hx
  · rw [List.getElem?_eq_none (Nat.le_of_lt hgt), List.getElem?_eq_none (by simp; omega)]

section Step

variable [DecidableEq P]

theorem begin_tenure (command : Command P) : (s.begin command).tenure = s.tenure := by
  cases command with
  | reconfigure | reconfigureStationPolicy | reconfigureAnonymousHotline | shutdown => rfl
  | disconnectSession device generation =>
    dsimp only [begin]
    split
    · split
      · exact tenure_retire _ _
      · rfl
    · rfl

omit [DecidableEq P] in
theorem continue_tenure : s.continue.tenure = s.tenure := by
  unfold «continue»
  split
  · rfl
  · rfl
  · rfl
  · next device session rest answer _ =>
    exact tenure_retire (s := { s with task := .retiring rest answer }) device session
  · exact tenure_record_quiet (s := { s with task := .stopped, stopping := true }) rfl
  · exact tenure_record_quiet (s := { s with task := .ready }) rfl

/-- A step that neither publishes nor finalizes a session. -/
theorem step_aside {input : Input P} (hidle : ∀ c queue, input = .proceed c queue →
    s.publishes? c queue = none ∧ s.finalizes? c = none) :
    Tenure.Aside s.tenure (s.step input).tenure := by
  cases input with
  | accept transport ipv6 =>
    unfold step
    dsimp only
    split
    · rw [tenure_accept _ rfl]
      exact .idle
    · exact .idle
  | token c device =>
    unfold step
    dsimp only
    split
    · next transport ipv6 retired hx =>
      have hc : s.phase? c = some .unregistered := congrArg (·.map Connection.phase) hx
      unfold beginToken
      split
      · exact aside_enter hc rfl
      · exact aside_enter hc rfl
    · exact .idle
  | register c registration =>
    unfold step
    dsimp only
    split
    · next hx =>
      have hc : s.phase? c = some .unregistered := congrArg (·.map Connection.phase) hx
      unfold beginRegistration
      split
      · exact aside_enter hc rfl
      · exact aside_enter hc rfl
    · exact .idle
  | proceed c queue =>
    unfold step
    dsimp only
    split
    · next x hx =>
      obtain ⟨hpublishes, hfinalizes⟩ := hidle c queue rfl
      exact proceed_aside hx queue hpublishes hfinalizes
    · exact .idle
  | leave c =>
    unfold step
    dsimp only
    split
    · next x hx => exact leave_aside hx
    · exact .idle
  | command command =>
    unfold step
    dsimp only
    split
    · rw [begin_tenure]
      exact .idle
    · exact .idle
  | «continue» =>
    change Tenure.Aside s.tenure s.continue.tenure
    rw [continue_tenure]
    exact .idle
  | fail =>
    unfold step
    dsimp only
    split <;> exact .idle

end Step

variable {device : DeviceId}

theorem publishes?_eq_some {queue : Queue} (h : s.publishes? c queue = some session) :
    ∃ x protocol, s.connections[c]? = some x ∧ x.phase = .registering session protocol [] ∧
      s.sessionsLocked = false ∧ s.registrationPermit queue = true := by
  unfold publishes? at h
  split at h
  · next session' protocol hc =>
    split at h
    · next hready =>
      cases h
      obtain ⟨x, hx, hphase⟩ := Option.map_eq_some_iff.mp hc
      exact ⟨x, protocol, hx, hphase, hready⟩
    · cases h
  · cases h

theorem finalizes?_eq_some {permit : Bool} (h : s.finalizes? c = some (session, permit)) :
    ∃ x, s.connections[c]? = some x ∧ x.phase = .leaving session permit
      ∧ s.sessionsLocked = false := by
  unfold finalizes? at h
  split at h
  · next hc =>
    split at h
    · cases h
    next hfree =>
    cases h
    obtain ⟨x, hx, hphase⟩ := Option.map_eq_some_iff.mp hc
    exact ⟨x, hx, hphase, Bool.eq_false_iff.mpr hfree⟩
  · cases h

theorem seat_insert (device : DeviceId) (sender : SessionSender) :
    (fun d => ((s.sessions.insert device sender).get? d).map fun entry =>
        (entry.generation.val, entry.connection))
      = Function.update s.tenure.seat device (some (sender.generation.val, sender.connection)) := by
  funext d
  rw [Table.get?_insert]
  by_cases hd : d = device
  · rw [hd, if_pos rfl, Function.update_self]
    rfl
  · rw [if_neg hd, Function.update_of_ne hd]
    rfl

/-- A session that is published sits down in the place of its device. -/
theorem tenure_publish {protocol : ProtocolVersion}
    (hc : s.phase? c = some (.registering session protocol [])) : (s.publish c session).tenure
      = s.tenure.sit c session.device.id session.generation.val := by
  have hretired : ∀ (r : Server P) (sender : SessionSender),
      sender = ⟨session.generation, session.anonymousHotline, c⟩ →
      r.phase? c = s.phase? c → r.nextGeneration = s.nextGeneration →
      r.tenure.stage = s.tenure.stage →
      r.trace.filterMap Effect.entry? = s.trace.filterMap Effect.entry?
        ++ s.tenure.replacement session.device.id session.generation.val →
      (({ r with sessions := s.sessions.insert session.device.id sender }.record
        (.registered session.device.id session.generation)).enter c (.registered session)).tenure
      = s.tenure.sit c session.device.id session.generation.val := by
    rintro r _ rfl hphase hnext hstage htrace
    rw [tenure_enter (by
      change r.phase? c ≠ none
      rw [hphase, hc]
      nofun)]
    refine Tenure.ext hnext (congrArg (Function.update · c _) hstage) (seat_insert _ _) ?_
    refine List.filterMap_append.trans ?_
    rw [htrace]
    rfl
  unfold publish
  dsimp only
  split
  · next previous hprevious =>
    refine hretired _ _ rfl (phase?_retireAdmission _) rfl ?_ ?_
    · have hstage := congrArg Tenure.stage (tenure_retireAdmission (s := s) previous.connection)
      exact hstage
    have hseat : s.tenure.seat session.device.id
        = some (previous.generation.val, previous.connection) :=
      congrArg (Option.map _) hprevious
    unfold Tenure.replacement
    rw [hseat]
    exact List.filterMap_append
  · next hnone =>
    refine hretired s _ rfl rfl rfl rfl ?_
    have hseat : s.tenure.seat session.device.id = none := congrArg (Option.map _) hnone
    unfold Tenure.replacement
    rw [hseat, List.append_nil]

theorem isCurrent_iff : s.isCurrent session = true ↔
    (s.tenure.seat session.device.id).map Prod.fst = some session.generation.val := by
  unfold isCurrent tenure
  dsimp only
  rcases s.sessions.get? session.device.id with _ | entry
  · simp
  · simp only [Option.any_some, decide_eq_true_eq, Option.map_some, Option.some.injEq]
    exact ⟨congrArg _, fun h => SessionGeneration.mk.injEq .. ▸ h⟩

/-- A session that is finalized rises. -/
theorem tenure_finalize {permit : Bool} (hc : s.phase? c = some (.leaving session permit)) :
    (s.finalize c session permit).tenure
      = s.tenure.rise c session.device.id session.generation.val permit := by
  have hseat : (fun d => ((s.sessions.erase session.device.id).get? d).map fun entry =>
        (entry.generation.val, entry.connection))
      = Function.update s.tenure.seat session.device.id none := by
    funext d
    rw [Table.get?_erase]
    by_cases hd : d = session.device.id
    · rw [hd, if_pos rfl, Function.update_self]
      rfl
    · rw [if_neg hd, Function.update_of_ne hd]
      rfl
  unfold finalize Tenure.rise
  dsimp only
  by_cases hcurrent : s.isCurrent session = true
  · rw [if_pos hcurrent, if_pos (isCurrent_iff.mp hcurrent)]
    split
    · rw [tenure_enter (by
        change s.phase? c ≠ none
        rw [hc]
        nofun)]
      exact Tenure.ext rfl rfl hseat List.filterMap_append
    rw [tenure_enter (by
      change s.phase? c ≠ none
      rw [hc]
      nofun)]
    exact Tenure.ext rfl rfl hseat rfl
  · rw [if_neg hcurrent, if_neg (mt isCurrent_iff.mpr hcurrent), tenure_enter (by
      rw [hc]
      nofun)]
    rfl

/-! ## The order of registrations -/

/-- The generations that have been announced for a device, in order. -/
def announced (s : Server P) (device : DeviceId) : List SessionGeneration :=
  s.trace.filterMap fun effect =>
    match effect with
    | .registered device' generation => if device' = device then some generation else none
    | _ => none

/-- The session of a generation is over. -/
def Finalized (s : Server P) (device : DeviceId) (generation : SessionGeneration) : Prop :=
  ∃ c session, s.phase? c = some (.closed (some session)) ∧ session.device.id = device
    ∧ session.generation = generation

/-- The sessions of every device come and go in order. -/
structure Ordered (s : Server P) : Prop where
  increasing : ∀ device, (s.announced device).Pairwise fun g g' => g.val < g'.val
  /-- The entry of a device is the session announced last, until that is over. -/
  newest : ∀ device generation,
    (∃ entry, s.sessions.get? device = some entry ∧ entry.generation = generation) ↔
      (s.announced device).getLast? = some generation ∧ ¬ s.Finalized device generation
  /-- No session has given way to an older one. -/
  senior : ∀ device generation successor,
    .retired device generation (some successor) ∈ s.trace → generation.val < successor.val
  ended : ∀ device generation, s.Finalized device generation →
    (∀ successor, generation.val < successor.val →
      .retired device generation (some successor) ∉ s.trace) →
    s.trace.count (.disconnected device generation) = 1
  once : ∀ device generation, s.trace.count (.disconnected device generation) ≤ 1
  after : ∀ device generation before, before ++ [.disconnected device generation] <+: s.trace →
      .registered device generation ∈ before

/-- A session is published after all that its device has been announced with before, and one
    that is finalized while it is current has a permit for its last event. -/
def InOrder (s : Server P) : Input P → Prop
  | .proceed c queue =>
    (∀ session, s.publishes? c queue = some session → ∀ generation ∈ s.announced session.device.id,
        generation.val < session.generation.val) ∧
    ∀ session permit, s.finalizes? c = some (session, permit) → s.isCurrent session = true →
      permit = true
  | _ => True

theorem mem_announced {generation : SessionGeneration} :
    generation ∈ s.announced device ↔ .registered device generation ∈ s.trace := by
  unfold announced
  rw [List.mem_filterMap]
  constructor
  · rintro ⟨effect, heffect, hsome⟩
    split at hsome
    · split at hsome
      · next hd =>
        cases hsome
        exact hd ▸ heffect
      · cases hsome
    · cases hsome
  · exact fun h => ⟨_, h, if_pos rfl⟩

theorem openings_tenure (device : DeviceId) :
    s.tenure.openings device = (s.announced device).map SessionGeneration.val := by
  unfold Tenure.openings tenure announced
  dsimp only
  rw [List.filterMap_filterMap, List.map_filterMap]
  refine List.filterMap_congr fun effect _ => ?_
  rcases effect with _ | ⟨d, g⟩ | _ | ⟨d, g, _ | _⟩ | _
  case registered =>
    by_cases hd : d = device <;> simp [Effect.entry?, Tenure.Entry.opens?, hd]
  all_goals rfl

theorem mem_log {entry : Tenure.Entry DeviceId} :
    entry ∈ s.tenure.log ↔ ∃ effect ∈ s.trace, effect.entry? = some entry :=
  List.mem_filterMap

theorem opened_mem_log {n : Nat} :
    .opened device n ∈ s.tenure.log ↔ .registered device ⟨n⟩ ∈ s.trace := by
  simp only [mem_log, entry?_opened, exists_eq_right]

theorem closed_mem_log {n : Nat} :
    .closed device n ∈ s.tenure.log ↔ .disconnected device ⟨n⟩ ∈ s.trace := by
  simp only [mem_log, entry?_closed, exists_eq_right]

theorem replaced_mem_log {n m : Nat} :
    .replaced device n m ∈ s.tenure.log ↔ .retired device ⟨n⟩ (some ⟨m⟩) ∈ s.trace := by
  simp only [mem_log, entry?_replaced, exists_eq_right]

theorem count_log (device : DeviceId) (generation : SessionGeneration) :
    s.tenure.log.count (.closed device generation.val)
      = s.trace.count (.disconnected device generation) := by
  unfold tenure
  dsimp only
  induction s.trace with
  | nil => rfl
  | cons effect rest ih =>
    rw [List.count_cons, ← ih]
    by_cases hentry : effect = .disconnected device generation
    · have hself : Effect.entry? (.disconnected device generation)
          = some (.closed device generation.val) := rfl
      rw [hentry, List.filterMap_cons_some hself, List.count_cons_self, if_pos (by simp)]
    have hne : effect.entry? ≠ some (.closed device generation.val) :=
      fun h => hentry (entry?_closed.mp h)
    rw [if_neg (by simpa using hentry)]
    rcases hsome : effect.entry? with _ | entry
    · rw [List.filterMap_cons_none hsome, Nat.add_zero]
    · rw [List.filterMap_cons_some hsome, List.count_cons, if_neg]
      simp only [beq_iff_eq]
      exact fun h => hne (h ▸ hsome)

theorem gone_iff {n : Nat} : (∃ c, s.tenure.stage c = .gone device n) ↔ s.Finalized device ⟨n⟩ := by
  have hstage : ∀ phase : Phase P, phase.stage = .gone device n ↔
      ∃ session, phase = .closed (some session) ∧ session.device.id = device
        ∧ session.generation = ⟨n⟩ := fun phase => by
    rcases phase with _ | _ | _ | _ | _ | _ | _ | _ | _ | _ | _ | (_ | ⟨d, anonymous, ⟨m⟩⟩) <;>
      simp [Phase.stage]
  constructor
  · rintro ⟨c, hc⟩
    rcases hphase : s.phase? c with _ | phase
    · unfold tenure at hc
      dsimp only at hc
      rw [hphase] at hc
      cases hc
    · rw [stage_of_phase hphase, hstage] at hc
      obtain ⟨session, rfl, hdevice, hgeneration⟩ := hc
      exact ⟨c, session, hphase, hdevice, hgeneration⟩
  · rintro ⟨c, session, hphase, hdevice, hgeneration⟩
    exact ⟨c, (stage_of_phase hphase).trans ((hstage _).mpr ⟨session, rfl, hdevice, hgeneration⟩)⟩

theorem ordered_of_sound (h : s.tenure.Sound) : s.Ordered where
  increasing := fun device => by
    have hincreasing := h.increasing device
    rw [openings_tenure, List.pairwise_map] at hincreasing
    exact hincreasing
  newest := fun device generation => by
    have hnewest := h.tidy.newest device generation.val
    have hseat : (∃ c, s.tenure.seat device = some (generation.val, c)) ↔
        ∃ entry, s.sessions.get? device = some entry ∧ entry.generation = generation := by
      unfold tenure
      dsimp only
      rcases s.sessions.get? device with _ | ⟨⟨m⟩, anonymous, c⟩
      · simp
      · obtain ⟨n⟩ := generation
        simp
    have hlast : (s.tenure.openings device).getLast? = some generation.val ↔
        (s.announced device).getLast? = some generation := by
      obtain ⟨n⟩ := generation
      rw [openings_tenure, List.getLast?_map, Option.map_eq_some_iff]
      constructor
      · rintro ⟨⟨m⟩, hm, rfl⟩
        exact hm
      · exact fun hlast => ⟨_, hlast, rfl⟩
    rw [hseat, hlast, ← not_exists, gone_iff] at hnewest
    exact hnewest
  senior := fun device generation successor hretired =>
    h.tidy.senior device generation.val successor.val (replaced_mem_log.mpr hretired)
  ended := fun device generation hfinalized hstays => by
    obtain ⟨c, hc⟩ := gone_iff.mpr hfinalized
    rw [← count_log]
    exact h.tidy.ended c device generation.val hc fun m hm hreplaced =>
      hstays ⟨m⟩ hm (replaced_mem_log.mp hreplaced)
  once := fun device generation => by
    rw [← count_log]
    exact h.once device generation.val
  after := fun device generation before hbefore => by
    have hlog := hbefore.filterMap Effect.entry?
    rw [List.filterMap_append] at hlog
    have hopened := h.after device generation.val _ hlog
    obtain ⟨effect, heffect, hentry⟩ := List.mem_filterMap.mp hopened
    exact entry?_opened.mp hentry ▸ heffect

section Runs

variable [DecidableEq P]

omit [DecidableEq P] in
theorem inOrder_sit (hstage : s.tenure.stage c
    = .holding session.device.id session.generation.val) : s.tenure.InOrder (.sit c) ↔
      ∀ g ∈ s.announced session.device.id, g.val < session.generation.val := by
  simp only [Tenure.InOrder, hstage, Tenure.Stage.holding.injEq]
  constructor
  · exact fun h g hg => h _ _ ⟨rfl, rfl⟩ g.val (opened_mem_log.mpr (mem_announced.mp hg))
  · rintro h _ _ ⟨rfl, rfl⟩ m hm
    exact h ⟨m⟩ (mem_announced.mpr (opened_mem_log.mp hm))

omit [DecidableEq P] in
theorem inOrder_rise {permit : Bool} (hstage : s.tenure.stage c
    = .seated session.device.id session.generation.val) : s.tenure.InOrder (.rise c permit) ↔
      (s.isCurrent session = true → permit = true) := by
  have hcurrent : s.isCurrent session = true ↔ ∃ c',
      s.tenure.seat session.device.id = some (session.generation.val, c') := by
    rw [isCurrent_iff, Option.map_eq_some_iff]
    simp
  simp only [Tenure.InOrder, hstage, Tenure.Stage.seated.injEq]
  constructor
  · exact fun h hc => h _ _ ⟨rfl, rfl⟩ (hcurrent.mp hc)
  · rintro h _ _ ⟨rfl, rfl⟩ hseat
    exact h (hcurrent.mpr hseat)

/-- What a step does to the seats. -/
theorem step_tenure (s : Server P) (input : Input P) :
    (Tenure.Aside s.tenure (s.step input).tenure ∧ s.InOrder input) ∨
    (∃ c queue session, input = .proceed c queue ∧ s.publishes? c queue = some session ∧
      s.finalizes? c = none ∧ s.tenure.stage c = .holding session.device.id session.generation.val ∧
      (s.step input).tenure = s.tenure.act (.sit c)) ∨
    ∃ c queue session permit, input = .proceed c queue ∧ s.publishes? c queue = none ∧
      s.finalizes? c = some (session, permit) ∧ s.tenure.stage c
        = .seated session.device.id session.generation.val ∧
      (s.step input).tenure = s.tenure.act (.rise c permit) := by
  by_cases hproceed : ∃ c queue, input = .proceed c queue
  · obtain ⟨c, queue, rfl⟩ := hproceed
    rcases hpublishes : s.publishes? c queue with _ | session
    · rcases hfinalizes : s.finalizes? c with _ | ⟨session, permit⟩
      · refine .inl ⟨step_aside fun c' queue' heq => ?_, fun session h => ?_,
          fun session permit h => ?_⟩
        · cases heq
          exact ⟨hpublishes, hfinalizes⟩
        · rw [hpublishes] at h
          cases h
        · rw [hfinalizes] at h
          cases h
      · obtain ⟨x, hx, hphase, hfree⟩ := finalizes?_eq_some hfinalizes
        have hc : s.phase? c = some (.leaving session permit) := by
          unfold phase?
          rw [hx, ← hphase]
          rfl
        have hstage := stage_of_phase hc
        refine .inr (.inr ⟨c, queue, session, permit, rfl, hpublishes, hfinalizes, hstage, ?_⟩)
        have hstep : s.step (.proceed c queue) = s.finalize c session permit := by
          simp [step, proceed, hx, hphase, hfree]
        simp only [Phase.stage] at hstage
        rw [hstep, tenure_finalize hc]
        simp only [Tenure.act, hstage]
    · obtain ⟨x, protocol, hx, hphase, hfree, hpermit⟩ := publishes?_eq_some hpublishes
      have hc : s.phase? c = some (.registering session protocol []) := by
        unfold phase?
        rw [hx, ← hphase]
        rfl
      have hstage := stage_of_phase hc
      have hfinalizes : s.finalizes? c = none := by
        unfold finalizes?
        rw [hc]
      refine .inr (.inl ⟨c, queue, session, rfl, hpublishes, hfinalizes, hstage, ?_⟩)
      have hstep : s.step (.proceed c queue) = s.publish c session := by
        simp [step, proceed, hx, hphase, hfree, hpermit]
      simp only [Phase.stage] at hstage
      rw [hstep, tenure_publish hc]
      simp only [Tenure.act, hstage]
  · refine .inl ⟨step_aside fun c queue heq => absurd ⟨c, queue, heq⟩ hproceed, ?_⟩
    cases input with
    | proceed c queue => exact absurd ⟨c, queue, rfl⟩ hproceed
    | _ => trivial

theorem sound_step {input : Input P} (h : s.tenure.Sound) (horder : s.InOrder input) :
    (s.step input).tenure.Sound := by
  rcases step_tenure s input with ⟨haside, -⟩ | ⟨c, queue, session, rfl, hpublishes, -, hstage,
    hact⟩ | ⟨c, queue, session, permit, rfl, -, hfinalizes, hstage, hact⟩
  · exact h.aside haside
  · rw [hact]
    exact h.act ((inOrder_sit hstage).mpr (horder.1 session hpublishes))
  · rw [hact]
    exact h.act ((inOrder_rise hstage).mpr (horder.2 session permit hfinalizes))

theorem inOrder_of_ordered {input : Input P} (h : s.tenure.Sound)
    (hordered : (s.step input).Ordered) : s.InOrder input := by
  have hincreasing : ∀ k, ((s.step input).tenure.openings k).Pairwise (· < ·) := fun k => by
    rw [openings_tenure, List.pairwise_map]
    exact hordered.increasing k
  have hended : ∀ c k n, (s.step input).tenure.stage c = .gone k n →
      (∀ m, n < m → .replaced k n m ∉ (s.step input).tenure.log) →
      .closed k n ∈ (s.step input).tenure.log := fun c k n hgone hstays => by
    have hone := hordered.ended k ⟨n⟩ (gone_iff.mp ⟨c, hgone⟩) fun successor hlt hretired =>
      hstays successor.val hlt (replaced_mem_log.mpr hretired)
    exact closed_mem_log.mpr (List.one_le_count_iff.mp (Nat.le_of_eq hone.symm))
  rcases step_tenure s input with ⟨-, horder⟩ | ⟨c, queue, session, rfl, hpublishes, hfinalizes,
    hstage, hact⟩ | ⟨c, queue, session, permit, rfl, hpublishes, hfinalizes, hstage, hact⟩
  · exact horder
  · rw [hact] at hincreasing hended
    have hsit := (inOrder_sit hstage).mp (h.inOrder hincreasing hended)
    refine ⟨fun session' h' => ?_, fun session' permit h' => ?_⟩
    · cases hpublishes.symm.trans h'
      exact hsit
    · cases hfinalizes.symm.trans h'
  rw [hact] at hincreasing hended
  have hrise := (inOrder_rise hstage).mp (h.inOrder hincreasing hended)
  refine ⟨fun session' h' => ?_, fun session' permit' h' => ?_⟩
  · cases hpublishes.symm.trans h'
  · cases hfinalizes.symm.trans h'
    exact hrise

/-- The sessions of every device come and go in order, just as long as registrations are
    published in the order of their generations and the last event of a current session has its
    permit. -/
theorem registration_order (config : ServerConfig P) (definitions : List (DeviceDefinition P))
    (anonymousHotline : Option AnonymousHotlineDefinition) (inputs : List (Input P)) :
    Always step Ordered (start config definitions anonymousHotline) inputs
      ↔ Each step InOrder (start config definitions anonymousHotline) inputs :=
  always_iff_each (I := fun s : Server P => s.tenure.Sound) (fun _ => ordered_of_sound)
    (fun _ _ => sound_step) (fun _ _ => inOrder_of_ordered) (Tenure.sound_start 1) inputs

end Runs

/-! ## A registration that is overtaken -/

def deskPhone : DeviceDefinition Unit := ⟨⟨"SEP001122334455"⟩, "Desk", .either, ()⟩

def plainConfig : ServerConfig Unit where
  registrationTokens := ⟨.reject, 60, 1⟩
  keepaliveSeconds := 30
  secondaryKeepaliveSeconds := 30
  dateTemplate := "D/M/Y"
  priorityEvents := false
  hotlineProfile := fun _ => ()

/-- The phone connects twice.  The first connection draws its generation first, but its replies
    are slow, and it is published after the second; then the second one ends. -/
def overtaken : List (Input Unit) :=
  let register := fun connection : Nat =>
    Input.register connection ⟨deskPhone.id, some 17⟩
  let proceed := fun connection : Nat => Input.proceed connection ⟨true, false⟩
  [.accept .clear false, .accept .clear false, register 0, proceed 0, register 1, proceed 1,
    proceed 1, proceed 1, proceed 1, proceed 0, proceed 0, proceed 0, .leave 1, proceed 1,
    proceed 1, proceed 1]

/-- Where `overtaken` ends. -/
def afterOvertaking : Server Unit := run step (start plainConfig [deskPhone] none) overtaken

/-- A generation is announced below the one before, its session replaces the newer one, and the
    end of the newer one is never said. -/
theorem late_registration_replaces_newer : afterOvertaking.announced deskPhone.id = [⟨2⟩, ⟨1⟩]
      ∧ (afterOvertaking.sessions.get? deskPhone.id).map SessionSender.generation = some ⟨1⟩
      ∧ .retired deskPhone.id ⟨2⟩ (some ⟨1⟩) ∈ afterOvertaking.trace
      ∧ .disconnected deskPhone.id ⟨2⟩ ∉ afterOvertaking.trace
      ∧ ¬ Always step Ordered (start plainConfig [deskPhone] none) overtaken := by
  have hretired : .retired deskPhone.id ⟨2⟩ (some ⟨1⟩) ∈ afterOvertaking.trace := by
    decide
  refine ⟨by decide, by decide, hretired, by decide, fun halways => ?_⟩
  have hlast : afterOvertaking.Ordered := (List.append_nil overtaken ▸ halways).split.2
  exact absurd (hlast.senior deskPhone.id ⟨2⟩ ⟨1⟩ hretired) (by decide)

end Server

end Sccp.Signaling
