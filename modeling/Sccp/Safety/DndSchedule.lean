/-
  Sccp.Safety.DndSchedule

  Scheduled do-not-disturb acts at its edges: the mode of a device is set when its schedule
  is in another phase than the one last applied, or when its rules or their zone have changed
  since.  What the owner keeps for this, a phase and a flag, is compared with a memory of
  the device's history.

  Two steps go further.  A change from the command line applies the present phase even if
  it leaves the rules as they were, and a reload in another zone switches off the mode of a
  device that has no rules.
-/

import Sccp.Lib.Runs
import Sccp.Runtime.DndSchedule

namespace Sccp.Dnd

open Config
open Features (PersistentStore)

variable {TimeZone Moment : Type}

/-! ## Phases -/

section Phases

variable (clock : Clock TimeZone Moment)

/-- Whether a rule read in a zone is in force. -/
def ruleMatches (timezone : Option TimeZone) (now : Moment) (rule : DndSchedule) : Bool :=
  match timezone with
  | some zone => rule.matchesAt (clock.localTime zone now).1 (clock.localTime zone now).2
  | none =>
    match rule.timingSegments.mapM (timingOf clock) with
    | .ok timings => timings.any fun timing => clock.timingMatches timing now
    | .error _ => false

/-- The phase that rules put a device in: the mode of the first one in force. -/
def Terms.phase (terms : Terms TimeZone) (now : Moment) : DndSchedulePhase :=
  match terms.rules.find? (ruleMatches clock terms.timezone now) with
  | none => .inactive
  | some rule =>
    match rule.mode with
    | .silent => .silent
    | .reject => .reject

/-- The rules of a schedule are compiled, and are read in its zone. -/
def Coherent (schedule : DeviceDndSchedule TimeZone) : Prop :=
  List.Forall₂ (fun rule compiled =>
      ∃ timings, rule.timingSegments.mapM (timingOf clock) = .ok timings
        ∧ compiled = ⟨rule.mode, timings, rule, schedule.timezone⟩)
    schedule.rules schedule.compiled

variable {clock}
variable {schedule : DeviceDndSchedule TimeZone}

theorem Coherent.phase (h : Coherent clock schedule) (now : Moment) :
    schedule.phase clock now = schedule.terms.phase clock now := by
  obtain ⟨timezone, source, rules, compiled, lastPhase, pendingCatchup⟩ := schedule
  change List.Forall₂ _ rules compiled at h
  change Dnd.phase clock compiled now = Terms.phase clock ⟨rules, timezone⟩ now
  unfold Dnd.phase Terms.phase
  dsimp only
  induction h with
  | nil => rfl
  | @cons rule first rules compiled hfirst _ ih =>
    obtain ⟨timings, htimings, rfl⟩ := hfirst
    have hmatches : CompiledDndRule.matchesNow clock ⟨rule.mode, timings, rule, timezone⟩ now
        = ruleMatches clock timezone now rule := by
      unfold CompiledDndRule.matchesNow ruleMatches
      cases timezone with
      | none => simp only [htimings]
      | some zone => rfl
    rw [List.find?_cons, List.find?_cons, hmatches]
    cases ruleMatches clock timezone now rule with
    | true => rfl
    | false => exact ih

/-- Another zone for the schedule is another zone for its rules. -/
theorem Coherent.rezone (h : Coherent clock schedule) (timezone : Option TimeZone)
    (lastPhase : Option DndSchedulePhase) (pendingCatchup : Bool) :
    Coherent clock { schedule with
      timezone
      compiled := schedule.compiled.map fun rule => { rule with timezone }
      lastPhase
      pendingCatchup } := by
  unfold Coherent at h ⊢
  rw [List.forall₂_map_right_iff]
  refine h.imp fun rule compiled hrule => ?_
  obtain ⟨timings, htimings, rfl⟩ := hrule
  exact ⟨timings, htimings, rfl⟩

/-! ## Compiled schedules -/

variable (clock) in
/-- A schedule that has just been compiled. -/
structure Fresh (schedule : DeviceDndSchedule TimeZone) : Prop where
  coherent : Coherent clock schedule
  lastPhase : schedule.lastPhase = none
  pendingCatchup : schedule.pendingCatchup = !schedule.rules.isEmpty

theorem fresh_compile {source : DndScheduleSource} {rules : List DndSchedule}
    {timezone : Option TimeZone}
    (h : DeviceDndSchedule.compile clock source rules timezone = .ok schedule) :
    Fresh clock schedule ∧ schedule.terms = ⟨rules, timezone⟩ ∧ schedule.source = source := by
  unfold DeviceDndSchedule.compile at h
  obtain ⟨_, -, h⟩ := Checked.bind_ok.mp h
  obtain ⟨compiled, hcompiled, h⟩ := Checked.bind_ok.mp h
  obtain rfl := Except.ok.inj h
  refine ⟨⟨?_, rfl, rfl⟩, rfl, rfl⟩
  unfold Coherent
  rw [List.forall₂_map_right_iff]
  refine (Checked.mapM_ok.mp hcompiled).imp fun rule compiled hnew => ?_
  obtain ⟨timings, htimings, hnew⟩ := Checked.bind_ok.mp hnew
  obtain rfl := Except.ok.inj hnew
  exact ⟨timings, htimings, rfl⟩

end Phases

/-! ## What is remembered of a device -/

/-- The history of a device since its schedule last set its mode. -/
structure Memory where
  /-- The phase last applied successfully. -/
  applied : Option DndSchedulePhase := none
  /-- The rules or their zone have changed since. -/
  changed : Bool := false
  /-- The device has rules, or has had some since. -/
  ruled : Bool := false

namespace Memory

/-- A phase is to be applied to a device that has or had rules if it is not the one last
    applied, or if the rules or their zone have changed since. -/
def Due (m : Memory) (phase : DndSchedulePhase) : Prop :=
  m.ruled = true ∧ (m.changed = true ∨ m.applied ≠ some phase)

/-- The memory when the terms of a device have become others.  A device that is not
    scheduled any more is forgotten. -/
def observe [DecidableEq TimeZone] (m : Memory) (before after : Option (Terms TimeZone)) : Memory :=
  match after with
  | none => {}
  | some terms =>
    { m with
      changed := m.changed || decide (before ≠ after)
      ruled := m.ruled || !terms.rules.isEmpty }

/-- The memory of a phase that has been applied. -/
def settle (phase : DndSchedulePhase) (terms : Option (Terms TimeZone)) : Memory :=
  ⟨some phase, false, terms.any fun terms => !terms.rules.isEmpty⟩

end Memory

section Remembers

variable {clock : Clock TimeZone Moment} {m : Memory} {e : DeviceDndSchedule TimeZone}

variable (clock) in
/-- The schedule of a device goes with what is remembered of it. -/
structure Remembers (m : Memory) (e : DeviceDndSchedule TimeZone) : Prop where
  coherent : Coherent clock e
  ruled : e.rules ≠ [] → m.ruled = true
  catchup : e.pendingCatchup = true ↔ m.ruled = true ∧ (m.changed = true ∨ m.applied = none)
  settled : e.pendingCatchup = false → m.ruled = true → e.rules ≠ [] ∧ e.lastPhase = m.applied

/-- A tick applies the phases that are due, and no others. -/
theorem Remembers.due_iff (h : Remembers clock m e) (now : Moment) (phase : DndSchedulePhase) :
    e.due clock now = some phase ↔ phase = e.terms.phase clock now ∧ m.Due phase := by
  rw [← h.coherent.phase now]
  unfold DeviceDndSchedule.due Memory.Due
  cases hpending : e.pendingCatchup with
  | true =>
    obtain ⟨hruled, hopen⟩ := h.catchup.mp hpending
    rw [if_neg (by simp), if_pos (by simp), Option.some_inj, eq_comm]
    refine ⟨fun heq => ⟨heq, hruled, ?_⟩, And.left⟩
    exact hopen.imp_right fun hnone => by simp [hnone]
  | false =>
    by_cases hruled : m.ruled = true
    · obtain ⟨hrules, hlast⟩ := h.settled hpending hruled
      have hunchanged : ¬ (m.changed = true ∨ m.applied = none) := fun hopen => by
        rw [h.catchup.mpr ⟨hruled, hopen⟩] at hpending
        cases hpending
      rw [not_or] at hunchanged
      rw [if_neg (by simpa using hrules)]
      by_cases happlied : m.applied = some (e.phase clock now)
      · rw [if_neg (by simp [hlast, happlied])]
        refine ⟨nofun, ?_⟩
        rintro ⟨rfl, -, hchanged | hne⟩
        · exact absurd hchanged hunchanged.1
        · exact absurd happlied hne
      · rw [if_pos (by simp [hlast, happlied]), Option.some_inj, eq_comm]
        refine ⟨?_, And.left⟩
        rintro rfl
        exact ⟨rfl, hruled, .inr happlied⟩
    · have hrules : e.rules = [] := by
        by_contra hne
        exact hruled (h.ruled hne)
      rw [if_pos (by simp [hrules])]
      exact ⟨nofun, fun h => absurd h.2.1 hruled⟩

/-- Applying a phase settles the schedule and the memory of it. -/
theorem Remembers.settle (h : Coherent clock e) (phase : DndSchedulePhase) :
    Remembers clock (Memory.settle phase (some e.terms)) (e.settled phase) := by
  have hruled : (Memory.settle phase (some e.terms)).ruled = true ↔ e.rules ≠ [] := by
    simp [Memory.settle, DeviceDndSchedule.terms]
  refine ⟨h, hruled.mpr, ?_, fun _ hm => ?_⟩
  · simp [DeviceDndSchedule.settled, Memory.settle]
  have hrules := hruled.mp hm
  refine ⟨hrules, ?_⟩
  unfold DeviceDndSchedule.settled
  rw [if_neg (by simpa using hrules)]
  rfl

/-- A device without rules that has nothing to catch up never had any. -/
theorem Remembers.unruled_iff (h : Remembers clock m e) :
    m.ruled = false ↔ e.rules = [] ∧ e.pendingCatchup = false := by
  constructor
  · intro hm
    constructor
    · by_contra hne
      rw [h.ruled hne] at hm
      cases hm
    · by_contra hpending
      rw [(h.catchup.mp (by simpa using hpending)).1] at hm
      cases hm
  · rintro ⟨hrules, hpending⟩
    by_contra hm
    exact (h.settled hpending (by simpa using hm)).1 hrules

variable [DecidableEq TimeZone]

/-- Nothing is added to the memory while the terms stay. -/
theorem Remembers.observe_same (h : Remembers clock m e) :
    m.observe (some e.terms) (some e.terms) = m := by
  obtain ⟨applied, changed, ruled⟩ := m
  have hruled : (ruled || !e.rules.isEmpty) = ruled := by
    cases hrules : e.rules with
    | nil => simp
    | cons rule rest =>
      have : ruled = true := h.ruled (by rw [hrules]; exact List.cons_ne_nil _ _)
      simp [this]
  simp [Memory.observe, DeviceDndSchedule.terms, hruled]

/-- A device that comes under a schedule. -/
theorem Remembers.start (h : Fresh clock e) :
    Remembers clock (({} : Memory).observe none (some e.terms)) e := by
  have hruled : (({} : Memory).observe none (some e.terms)).ruled = true ↔ e.rules ≠ [] := by
    simp [Memory.observe, DeviceDndSchedule.terms]
  refine ⟨h.coherent, hruled.mpr, ?_, fun hpending hm => ?_⟩
  · rw [h.pendingCatchup, hruled]
    simp [Memory.observe]
  · rw [h.pendingCatchup] at hpending
    exact absurd (by simpa using hpending) (hruled.mp hm)

/-- Other terms: the phase is still to be applied, unless the device neither has nor had
    rules. -/
theorem Remembers.changed {r : DeviceDndSchedule TimeZone} (hr : Coherent clock r)
    (hterms : e.terms ≠ r.terms)
    (hpending : r.pendingCatchup = true ↔ r.rules ≠ [] ∨ m.ruled = true) :
    Remembers clock (m.observe (some e.terms) (some r.terms)) r := by
  have hruled : (m.observe (some e.terms) (some r.terms)).ruled = true
      ↔ r.rules ≠ [] ∨ m.ruled = true := by
    simp [Memory.observe, DeviceDndSchedule.terms, or_comm]
  have hchanged : (m.observe (some e.terms) (some r.terms)).changed = true := by
    simp [Memory.observe, hterms]
  refine ⟨hr, fun hne => hruled.mpr (.inl hne), ?_, fun hfalse hm => ?_⟩
  · rw [hpending, hruled, hchanged]
    simp
  · rw [hpending.mpr (hruled.mp hm)] at hfalse
    cases hfalse

end Remembers

/-! ## Ticks -/

namespace DndScheduleOwner

variable {o : DndScheduleOwner TimeZone}

/-- An attempt sets the mode of a device or changes nothing. -/
theorem applyPhase_cases (o : DndScheduleOwner TimeZone) (device : DeviceId)
    (phase : DndSchedulePhase) (accepts : DeviceId → Bool) :
    (o.applyPhase device phase accepts
        = (.ok (), { o with modes := Function.update o.modes device phase.runtimeMode },
          ⟨device, o.terms device, phase, true⟩)
      ∧ accepts device = true)
    ∨ ∃ e, o.applyPhase device phase accepts = (.error e, o, ⟨device, o.terms device, phase, false⟩)
      ∧ (o.config.dndSchedules.contains device = true → accepts device = false) := by
  unfold applyPhase executeDndMutation
  split
  · next hcontains =>
    split at hcontains
    · cases hcontains
      exact .inr ⟨_, rfl, fun h => by simp_all⟩
    split at hcontains
    · next haccepts =>
      cases hcontains
      exact .inl ⟨rfl, haccepts⟩
    · next haccepts =>
      cases hcontains
      exact .inr ⟨_, rfl, fun _ => by simpa using haccepts⟩

/-- The attempts on one device. -/
def attemptsOn (device : DeviceId) (attempts : List (Attempt TimeZone)) :
    List (Attempt TimeZone) := attempts.filter (·.device = device)

theorem attemptsOn_of_ne {device : DeviceId} {a : Attempt TimeZone}
    {attempts : List (Attempt TimeZone)} (h : a.device ≠ device) :
    attemptsOn device (a :: attempts) = attemptsOn device attempts :=
  List.filter_cons_of_neg (by simpa using h)

theorem attemptsOn_self (a : Attempt TimeZone) (attempts : List (Attempt TimeZone)) :
    attemptsOn a.device (a :: attempts) = a :: attemptsOn a.device attempts :=
  List.filter_cons_of_pos (by simp)

/-- A tick leaves a device alone. -/
structure Untouched (device : DeviceId) (o : DndScheduleOwner TimeZone)
    (r : DndScheduleOwner TimeZone × List (Attempt TimeZone)) : Prop where
  schedule : r.1.schedules.get? device = o.schedules.get? device
  mode : r.1.modes device = o.modes device
  attempts : attemptsOn device r.2 = []

/-- A tick makes one attempt to apply a phase to a device. -/
structure Tried (device : DeviceId) (phase : DndSchedulePhase) (accepted : Bool)
    (o : DndScheduleOwner TimeZone) (r : DndScheduleOwner TimeZone × List (Attempt TimeZone)) :
    Prop where
  schedule : r.1.schedules.get? device = (o.schedules.get? device).map fun schedule =>
    if accepted then schedule.settled phase else schedule
  mode : r.1.modes device = if accepted then phase.runtimeMode else o.modes device
  attempts : attemptsOn device r.2 = [⟨device, o.terms device, phase, accepted⟩]

/-- Nothing but modes and schedules changes. -/
theorem applyDue_rest (accepts : DeviceId → Bool) (l : List (DeviceId × DndSchedulePhase))
    (o : DndScheduleOwner TimeZone) :
    (applyDue accepts l o).1.config = o.config ∧ (applyDue accepts l o).1.store = o.store
      ∧ (applyDue accepts l o).1.prepared = o.prepared := by
  induction l generalizing o with
  | nil => exact ⟨rfl, rfl, rfl⟩
  | cons first rest ih =>
    obtain ⟨device, phase⟩ := first
    unfold applyDue
    rcases applyPhase_cases o device phase accepts with ⟨heq, -⟩ | ⟨e, heq, -⟩
    · rw [heq]
      exact ih _
    · rw [heq]
      exact ih _

theorem applyDue_untouched (accepts : DeviceId → Bool) {device : DeviceId}
    {l : List (DeviceId × DndSchedulePhase)} (h : device ∉ l.map Prod.fst)
    (o : DndScheduleOwner TimeZone) : Untouched device o (applyDue accepts l o) := by
  induction l generalizing o with
  | nil => exact ⟨rfl, rfl, rfl⟩
  | cons first rest ih =>
    obtain ⟨other, phase⟩ := first
    rw [List.map_cons, List.mem_cons, not_or] at h
    obtain ⟨hne, hrest⟩ := h
    unfold applyDue
    rcases applyPhase_cases o other phase accepts with ⟨heq, -⟩ | ⟨e, heq, -⟩
    · rw [heq]
      obtain ⟨hschedule, hmode, hattempts⟩ := ih hrest { o with
        modes := Function.update o.modes other phase.runtimeMode
        schedules := o.schedules.modify other (·.settled phase) }
      refine ⟨hschedule.trans ?_, hmode.trans ?_, ?_⟩
      · exact (Table.get?_modify ..).trans (if_neg hne)
      · exact Function.update_of_ne hne ..
      · exact (attemptsOn_of_ne (Ne.symm hne)).trans hattempts
    · rw [heq]
      obtain ⟨hschedule, hmode, hattempts⟩ := ih hrest o
      exact ⟨hschedule, hmode, (attemptsOn_of_ne (Ne.symm hne)).trans hattempts⟩

/-- A device that is due once is tried once. -/
theorem applyDue_tried (accepts : DeviceId → Bool) {device : DeviceId} {phase : DndSchedulePhase}
    {l : List (DeviceId × DndSchedulePhase)} (hn : (l.map Prod.fst).Nodup)
    (h : (device, phase) ∈ l) (o : DndScheduleOwner TimeZone) :
    ∃ accepted, Tried device phase accepted o (applyDue accepts l o) := by
  induction l generalizing o with
  | nil => cases h
  | cons first rest ih =>
    obtain ⟨other, phase'⟩ := first
    rw [List.map_cons, List.nodup_cons] at hn
    obtain ⟨hnot, hn⟩ := hn
    rcases List.mem_cons.mp h with heq | hrest
    · -- the device itself: nothing later touches it
      obtain ⟨rfl, rfl⟩ := Prod.mk.inj heq
      unfold applyDue
      rcases applyPhase_cases o device phase accepts with ⟨heq, -⟩ | ⟨e, heq, -⟩
      · rw [heq]
        obtain ⟨hschedule, hmode, hattempts⟩ := applyDue_untouched accepts hnot { o with
          modes := Function.update o.modes device phase.runtimeMode
          schedules := o.schedules.modify device (·.settled phase) }
        refine ⟨true, hschedule.trans ?_, hmode.trans ?_, ?_⟩
        · exact (Table.get?_modify ..).trans (if_pos rfl)
        · exact Function.update_self ..
        · exact (attemptsOn_self ..).trans (congrArg _ hattempts)
      · rw [heq]
        obtain ⟨hschedule, hmode, hattempts⟩ := applyDue_untouched accepts hnot o
        refine ⟨false, hschedule.trans ?_, hmode, (attemptsOn_self ..).trans (congrArg _ hattempts)⟩
        simp
    · have hne : device ≠ other := by
        rintro rfl
        exact hnot (List.mem_map.mpr ⟨_, hrest, rfl⟩)
      unfold applyDue
      rcases applyPhase_cases o other phase' accepts with ⟨heq, -⟩ | ⟨e, heq, -⟩
      · rw [heq]
        have hkeep : (o.schedules.modify other (·.settled phase')).get? device
            = o.schedules.get? device := (Table.get?_modify ..).trans (if_neg hne)
        obtain ⟨accepted, hschedule, hmode, hattempts⟩ := ih hn hrest { o with
          modes := Function.update o.modes other phase'.runtimeMode
          schedules := o.schedules.modify other (·.settled phase') }
        refine ⟨accepted, hschedule.trans (by rw [hkeep]), hmode.trans ?_,
          (attemptsOn_of_ne (Ne.symm hne)).trans (hattempts.trans ?_)⟩
        · dsimp only
          rw [Function.update_of_ne hne]
        · unfold terms
          rw [hkeep]
      · rw [heq]
        obtain ⟨accepted, hschedule, hmode, hattempts⟩ := ih hn hrest o
        exact ⟨accepted, hschedule, hmode, (attemptsOn_of_ne (Ne.symm hne)).trans hattempts⟩

/-- What is due, by device. -/
theorem mem_dueDevices {clock : Clock TimeZone Moment} {now : Moment} {device : DeviceId}
    {phase : DndSchedulePhase} : (device, phase) ∈ o.dueDevices clock now
      ↔ ∃ schedule, o.schedules.get? device = some schedule
        ∧ schedule.due clock now = some phase := by
  unfold dueDevices
  rw [List.mem_filterMap]
  constructor
  · rintro ⟨⟨d, schedule⟩, hmem, hdue⟩
    obtain ⟨p, hp, heq⟩ := Option.map_eq_some_iff.mp hdue
    obtain ⟨rfl, rfl⟩ := Prod.mk.inj heq
    exact ⟨schedule, Table.get?_eq_some.mpr hmem, hp⟩
  rintro ⟨schedule, hget, hdue⟩
  refine ⟨(device, schedule), Table.get?_eq_some.mp hget, ?_⟩
  dsimp only
  rw [hdue]
  rfl

theorem nodup_dueDevices (o : DndScheduleOwner TimeZone) (clock : Clock TimeZone Moment)
    (now : Moment) : ((o.dueDevices clock now).map Prod.fst).Nodup := by
  refine o.schedules.nodup.sublist ?_
  unfold dueDevices
  induction o.schedules.entries with
  | nil => exact .slnil
  | cons e rest ih =>
    rw [List.filterMap_cons, List.map_cons]
    cases e.2.due clock now with
    | none => exact ih.cons e.1
    | some phase => exact ih.cons_cons e.1

/-- A tick tries the devices that are due. -/
theorem runDndScheduleTick_cases (o : DndScheduleOwner TimeZone) (clock : Clock TimeZone Moment)
    (now : Moment) (accepts : DeviceId → Bool) (device : DeviceId) :
    (∃ schedule phase accepted, o.schedules.get? device = some schedule
        ∧ schedule.due clock now = some phase
        ∧ Tried device phase accepted o (o.runDndScheduleTick clock now accepts))
    ∨ ((∀ schedule, o.schedules.get? device = some schedule → schedule.due clock now = none)
        ∧ Untouched device o (o.runDndScheduleTick clock now accepts)) := by
  by_cases hdue : device ∈ (o.dueDevices clock now).map Prod.fst
  · obtain ⟨⟨d, phase⟩, hmem, rfl⟩ := List.mem_map.mp hdue
    obtain ⟨schedule, hget, hphase⟩ := mem_dueDevices.mp hmem
    obtain ⟨accepted, htried⟩ := applyDue_tried accepts (o.nodup_dueDevices clock now) hmem o
    exact .inl ⟨schedule, phase, accepted, hget, hphase, htried⟩
  refine .inr ⟨fun schedule hget => ?_, applyDue_untouched accepts hdue o⟩
  cases hphase : schedule.due clock now with
  | none => rfl
  | some phase =>
    refine absurd (List.mem_map.mpr ⟨(device, phase), ?_, rfl⟩) hdue
    exact mem_dueDevices.mpr ⟨schedule, hget, hphase⟩

end DndScheduleOwner

/-! ## Reloads -/

section Reloads

variable [DecidableEq TimeZone] {clock : Clock TimeZone Moment} {m : Memory}
  {candidate configured registry : DndScheduleRegistry TimeZone} {device : DeviceId}
  {live schedule : DeviceDndSchedule TimeZone}

/-- The terms a reload gives a device that is scheduled: its override stays. -/
def installedTerms (candidate configured : DndScheduleRegistry TimeZone) (device : DeviceId)
    (live : DeviceDndSchedule TimeZone) : Option (Terms TimeZone) :=
  (candidate.get? device).map fun schedule =>
    match live.source with
    | .configuration => ((configured.get? device).getD schedule).terms
    | .override => ⟨live.rules, schedule.timezone⟩

theorem terms_preserveUnchangedPhase (registry : DndScheduleRegistry TimeZone)
    (device : DeviceId) (schedule : DeviceDndSchedule TimeZone) :
    (preserveUnchangedPhase registry device schedule).terms = schedule.terms := by
  unfold preserveUnchangedPhase
  split
  · rfl
  · split
    · rfl
    · split <;> rfl

theorem terms_reconcileDevice (hlive : registry.get? device = some live)
    (hschedule : candidate.get? device = some schedule) :
    installedTerms candidate configured device live
      = some (reconcileDevice configured registry device schedule).terms := by
  unfold installedTerms reconcileDevice
  rw [hlive, hschedule]
  dsimp only [Option.map]
  cases live.source with
  | configuration => rfl
  | override =>
    dsimp only
    split
    · rfl
    · next hzone => rw [← not_not.mp hzone]; rfl

theorem get?_reconcileLiveOwnership (candidate configured registry : DndScheduleRegistry TimeZone)
    (device : DeviceId) : (reconcileLiveOwnership candidate configured registry).get? device
      = (candidate.get? device).map fun schedule => preserveUnchangedPhase registry device
        (reconcileDevice configured registry device schedule) := by
  unfold reconcileLiveOwnership
  rw [Table.get?_mapValues, Table.get?_mapValues, Option.map_map]
  rfl

theorem coherent_preserveUnchangedPhase (h : Coherent clock schedule) :
    Coherent clock (preserveUnchangedPhase registry device schedule) := by
  unfold preserveUnchangedPhase
  split
  · exact h
  · split
    · exact h
    · split <;> exact h

theorem reconcileDevice_spec (hlive : registry.get? device = some live)
    (hcoherent : Coherent clock live) (hschedule : Fresh clock schedule)
    (hconfigured : ∀ s, configured.get? device = some s → Fresh clock s) :
    Coherent clock (reconcileDevice configured registry device schedule)
      ∧ ((reconcileDevice configured registry device schedule).terms ≠ live.terms →
        (reconcileDevice configured registry device schedule).rules ≠ [] →
        (reconcileDevice configured registry device schedule).pendingCatchup = true) := by
  unfold reconcileDevice
  rw [hlive]
  dsimp only
  cases live.source with
  | configuration =>
    have hfresh : Fresh clock ((configured.get? device).getD schedule) := by
      cases hget : configured.get? device with
      | none => exact hschedule
      | some s => exact hconfigured s hget
    refine ⟨hfresh.coherent, fun _ hrules => ?_⟩
    rw [hfresh.pendingCatchup]
    simpa using hrules
  | override =>
    dsimp only
    split
    · refine ⟨hcoherent.rezone schedule.timezone none true, fun _ hrules => ?_⟩
      have : live.rules ≠ [] := hrules
      simp [this]
    · exact ⟨hcoherent, fun hne => absurd rfl hne⟩

/-- The schedule a reload installs has the phase and the flag of the live one, or its
    phase is still to be applied. -/
theorem preserved_cases (hlive : registry.get? device = some live)
    (hschedule : schedule.terms ≠ live.terms → schedule.rules ≠ [] →
      schedule.pendingCatchup = true) : (schedule.terms = live.terms
        ∧ (preserveUnchangedPhase registry device schedule).lastPhase = live.lastPhase
        ∧ (preserveUnchangedPhase registry device schedule).pendingCatchup = live.pendingCatchup)
    ∨ (schedule.terms ≠ live.terms
        ∧ (preserveUnchangedPhase registry device schedule).pendingCatchup = true) := by
  have hterms : live.rules = schedule.rules ∧ live.timezone = schedule.timezone
      ↔ schedule.terms = live.terms := by
    unfold DeviceDndSchedule.terms
    rw [Terms.mk.injEq, eq_comm, @eq_comm _ live.timezone]
  unfold preserveUnchangedPhase
  rw [hlive]
  dsimp only
  split
  · next hsame => exact .inl ⟨hterms.mp hsame, rfl, rfl⟩
  next hother =>
  have hne := fun heq => hother (hterms.mpr heq)
  refine .inr ⟨hne, ?_⟩
  split
  · rfl
  · next hrules => exact hschedule hne (by simpa using hrules)

/-- A reload keeps what is remembered, unless it is in another zone and the device has
    no rules and had none. -/
theorem Remembers.reload (h : Remembers clock m live) (hlive : registry.get? device = some live)
    (hschedule : Fresh clock schedule)
    (hconfigured : ∀ s, configured.get? device = some s → Fresh clock s)
    {r : DeviceDndSchedule TimeZone} (hr : r = preserveUnchangedPhase registry device
      (reconcileDevice configured registry device schedule))
    (hzone : live.rules = [] → live.pendingCatchup = false → r.rules = [] →
      r.timezone = live.timezone) :
    Remembers clock (m.observe (some live.terms) (some r.terms)) r := by
  obtain ⟨hcoherent, hpending⟩ := reconcileDevice_spec hlive h.coherent hschedule hconfigured
  have hterms : r.terms = (reconcileDevice configured registry device schedule).terms := by
    rw [hr, terms_preserveUnchangedPhase]
  have hkept : Coherent clock r := hr ▸ coherent_preserveUnchangedPhase hcoherent
  rcases preserved_cases hlive hpending with ⟨hsame, hlast, hflag⟩ | ⟨hother, hflag⟩
  · rw [← hr] at hlast hflag
    have hrules : r.rules = live.rules := congrArg Terms.rules (hterms.trans hsame)
    rw [hterms.trans hsame, h.observe_same]
    refine ⟨hkept, fun hne => h.ruled (hrules ▸ hne), ?_, ?_⟩
    · rw [hflag]
      exact h.catchup
    · rw [hflag, hlast, hrules]
      exact h.settled
  rw [← hr] at hflag
  refine Remembers.changed hkept (fun heq => hother (hterms.symm.trans heq.symm)) ?_
  refine iff_of_true hflag ?_
  by_contra hnever
  rw [not_or, not_not, Bool.not_eq_true] at hnever
  obtain ⟨hnone, hcaught⟩ := h.unruled_iff.mp hnever.2
  refine hother (hterms.symm.trans ?_)
  change Terms.mk r.rules r.timezone = Terms.mk live.rules live.timezone
  rw [hnever.1, hnone, hzone hnone hcaught hnever.1]

end Reloads

/-! ## Changes from the command line -/

section Changes

variable {clock : Clock TimeZone Moment} {format : DocumentFormat}
  {o : DndScheduleOwner TimeZone} {device : DeviceId} {mutation : ScheduleMutation}

/-- What a change stores: a reset stores nothing. -/
def document (format : DocumentFormat) (device : DeviceId) (mutation : ScheduleMutation)
    (rules : List DndSchedule) : Except DndScheduleStoreError (Option String) :=
  if mutation = .reset then .ok none else (encodeDocument format device rules).map some

theorem persistMutation_eq (rules : List DndSchedule) (s : PersistentStore) :
    DndScheduleOwner.persistMutation format device mutation rules s
      = match document format device mutation rules with
        | .error e => (.error e, s)
        | .ok doc => writeRaw device doc s := by
  unfold DndScheduleOwner.persistMutation document
  split
  · rfl
  · unfold putOverride
    cases encodeDocument format device rules <;> rfl

/-- A write, and what the key holds after it. -/
theorem writeRaw_cases (device : DeviceId) (doc : Option String) (s : PersistentStore) :
    (s.fault = none ∧ ∃ s', writeRaw device doc s = (.ok (), s') ∧ s'.held (place device) = doc
        ∧ s'.faults = s.advance.faults)
    ∨ ∃ fault e s', s.fault = some fault ∧ writeRaw device doc s = (.error e, s')
        ∧ s'.held (place device) = if fault.applied then doc else s.held (place device) := by
  have hset : (s.advance.set (place device) doc).held (place device) = doc := by
    rw [UndoLog.Store.held_set, if_pos rfl]
  unfold writeRaw UndoLog.write
  cases s.fault with
  | none => exact .inl ⟨rfl, _, rfl, hset, rfl⟩
  | some fault =>
    refine .inr ⟨fault, _, _, rfl, rfl, ?_⟩
    split
    · exact hset
    · rfl

theorem planMutation_ok {next : DeviceDndSchedule TimeZone}
    (h : o.planMutation clock device mutation = .ok next) :
    o.config.dndSchedules.contains device = true
      ∧ (∃ current, o.schedules.get? device = some current) ∧ Fresh clock next := by
  unfold DndScheduleOwner.planMutation at h
  split at h
  · cases h
  next configured hconfigured =>
  split at h
  · cases h
  next current hcurrent =>
  obtain ⟨rules, -, h⟩ := Checked.bind_ok.mp h
  dsimp only at h
  refine ⟨Table.contains_iff.mpr ⟨_, hconfigured⟩, ⟨current, hcurrent⟩, ?_⟩
  cases hcompile : DeviceDndSchedule.compile clock
      (if mutation = .reset then .configuration else .override) rules o.config.timezone with
  | error e =>
    rw [hcompile] at h
    cases h
  | ok s =>
    rw [hcompile] at h
    obtain rfl := Except.ok.inj h
    exact (fresh_compile hcompile).1

/-- The change of a device has been refused. -/
def Refused (reply : ScheduleReply) : Prop := ∀ reset rules, reply ≠ .updated reset rules

theorem refused_planMutation {reply : ScheduleReply}
    (h : o.planMutation clock device mutation = .error reply) : Refused reply := by
  rintro reset rules rfl
  unfold DndScheduleOwner.planMutation at h
  split at h
  · cases h
  split at h
  · cases h
  next configured _ _ current _ =>
  cases hedit : DndScheduleOwner.editRules configured current.rules mutation with
  | error reply =>
    rw [hedit] at h
    obtain rfl := Except.error.inj h
    cases mutation with
    | add rule | remove index =>
      dsimp only [DndScheduleOwner.editRules] at hedit
      split at hedit <;> cases hedit
    | clear | reset => cases hedit
  | ok rules =>
    rw [hedit] at h
    change Except.mapError ScheduleReply.invalid _ = _ at h
    unfold Except.mapError at h
    split at h <;> cases h

/-- A change that comes to writing its document. -/
structure Stores (clock : Clock TimeZone Moment) (format : DocumentFormat)
    (o : DndScheduleOwner TimeZone) (device : DeviceId) (mutation : ScheduleMutation)
    (next : DeviceDndSchedule TimeZone) (doc : Option String) : Prop where
  planned : o.planMutation clock device mutation = .ok next
  document : document format device mutation next.rules = .ok doc
  snapshot : o.store.fault = none

/-- How a change ends: without a write, with a failed write, with the phase applied, or
    with the phase refused and the change undone. -/
inductive Changed (clock : Clock TimeZone Moment) (format : DocumentFormat)
    (o : DndScheduleOwner TimeZone) (device : DeviceId) (mutation : ScheduleMutation)
    (now : Moment) (accepts : DeviceId → Bool) :
    DndScheduleOwner TimeZone × List (Attempt TimeZone) × ScheduleReply → Prop
  | unwritten {s : PersistentStore} {reply : ScheduleReply}
      (hnone : ∀ next doc, ¬ Stores clock format o device mutation next doc)
      (hheld : s.held (place device) = o.store.held (place device)) (hreply : Refused reply) :
      Changed clock format o device mutation now accepts ({ o with store := s }, [], reply)
  | failed {next : DeviceDndSchedule TimeZone} {doc : Option String}
      {fault : UndoLog.Fault Features.PersistenceError} {store : PersistentStore}
      {reply : ScheduleReply} (hstores : Stores clock format o device mutation next doc)
      (hfault : o.store.advance.fault = some fault)
      (hheld : store.held (place device)
        = if fault.applied then doc else o.store.held (place device)) (hreply : Refused reply) :
      Changed clock format o device mutation now accepts ({ o with store }, [], reply)
  | applied {next : DeviceDndSchedule TimeZone} {doc : Option String} {store : PersistentStore}
      (hstores : Stores clock format o device mutation next doc)
      (hfault : o.store.advance.fault = none) (haccepts : accepts device = true) :
      Changed clock format o device mutation now accepts
        ({ o with
            modes := Function.update o.modes device (next.phase clock now).runtimeMode
            schedules := (o.schedules.insert device next).modify device
              (·.settled (next.phase clock now))
            store },
          [⟨device, some next.terms, next.phase clock now, true⟩],
          .updated (mutation = .reset) next.rules.length)
  | undone {next current : DeviceDndSchedule TimeZone} {doc : Option String}
      {store : PersistentStore} {reply : ScheduleReply}
      (hstores : Stores clock format o device mutation next doc)
      (hfault : o.store.advance.fault = none) (haccepts : accepts device = false)
      (hcurrent : o.schedules.get? device = some current)
      (hheld : store.held (place device) = match o.store.advance.advance.fault with
        | none => o.store.held (place device)
        | some fault => if fault.applied then o.store.held (place device) else doc)
      (hreply : Refused reply) :
      Changed clock format o device mutation now accepts
        ({ o with schedules := (o.schedules.insert device next).insert device current, store },
          [⟨device, some next.terms, next.phase clock now, false⟩], reply)

theorem mutateSchedule_changed (clock : Clock TimeZone Moment) (format : DocumentFormat)
    (o : DndScheduleOwner TimeZone) (device : DeviceId) (mutation : ScheduleMutation)
    (now : Moment) (accepts : DeviceId → Bool) : Changed clock format o device mutation now accepts
      (o.mutateSchedule clock format device mutation now accepts) := by
  unfold DndScheduleOwner.mutateSchedule
  cases hplan : o.planMutation clock device mutation with
  | error reply =>
    refine .unwritten (s := o.store) (fun next doc h => ?_) rfl (refused_planMutation hplan)
    rw [h.planned] at hplan
    cases hplan
  | ok next =>
    obtain ⟨hconfigured, ⟨current, hcurrent⟩, -⟩ := planMutation_ok hplan
    dsimp only
    cases hfault : o.store.fault with
    | some fault =>
      have hsnapshot : snapshotRaw device o.store
          = (.error (.storage fault.error), o.store.advance) := by
        unfold snapshotRaw UndoLog.get
        rw [hfault]
      rw [hsnapshot]
      refine .unwritten (fun next' doc h => ?_) rfl nofun
      rw [h.snapshot] at hfault
      cases hfault
    | none =>
      have hsnapshot : snapshotRaw device o.store
          = (.ok (o.store.held (place device)), o.store.advance) := by
        unfold snapshotRaw UndoLog.get
        rw [hfault]
      rw [hsnapshot]
      dsimp only
      rw [persistMutation_eq]
      cases hdoc : document format device mutation next.rules with
      | error e =>
        refine .unwritten (fun next' doc h => ?_) rfl nofun
        obtain rfl := Except.ok.inj (hplan.symm.trans h.planned)
        rw [h.document] at hdoc
        cases hdoc
      | ok doc =>
        have hstores : Stores clock format o device mutation next doc :=
          ⟨hplan, hdoc, hfault⟩
        dsimp only
        rcases writeRaw_cases device doc o.store.advance with
          ⟨hnone, s, hwrite, hheld, hfaults⟩ | ⟨fault, e, s, hsome, hwrite, hheld⟩
        · rw [hwrite]
          dsimp only
          unfold DndScheduleOwner.installMutation
          dsimp only
          have hterms : DndScheduleOwner.terms
              { o with schedules := o.schedules.insert device next, store := s } device
              = some next.terms := by
            unfold DndScheduleOwner.terms
            rw [Table.get?_insert, if_pos rfl]
            rfl
          rcases DndScheduleOwner.applyPhase_cases
              { o with schedules := o.schedules.insert device next, store := s } device
              (next.phase clock now) accepts with ⟨heq, haccepts⟩ | ⟨e, heq, haccepts⟩
          · rw [heq]
            rw [hterms]
            exact .applied hstores hnone haccepts
          rw [heq]
          dsimp only
          rw [hcurrent, hterms]
          have hnext : s.fault = o.store.advance.advance.fault :=
            congrArg (fun faults => faults.head?.join) hfaults
          refine .undone hstores hnone (haccepts hconfigured) hcurrent ?_ ?_
          · rw [← hnext]
            rcases writeRaw_cases device (o.store.held (place device)) s with
              ⟨hcalm, s', hrestore, hback, -⟩ | ⟨fault, e', s', hlost, hrestore, hback⟩
            · rw [hcalm, restoreRaw, hrestore]
              exact hback
            · rw [hlost, restoreRaw, hrestore, ← hheld]
              exact hback
          · cases (restoreRaw device (o.store.held (place device)) s).1 <;> exact nofun
        · rw [hwrite]
          exact .failed hstores hsome hheld nofun

end Changes

/-! ## Loads -/

theorem fresh_compileDevices {clock : Clock TimeZone Moment}
    {compileDevice : DeviceId → List DndSchedule → PersistentStore →
      Except DndScheduleRegistryError (DeviceDndSchedule TimeZone) × PersistentStore}
    (hcompile : ∀ d configured s schedule s', compileDevice d configured s = (.ok schedule, s') →
      Fresh clock schedule) {device : DeviceId} {l : List (DeviceId × List DndSchedule)}
    {devices loaded : DndScheduleRegistry TimeZone} {s s' : PersistentStore}
    (hdevices : ∀ e, devices.get? device = some e → Fresh clock e)
    (h : compileDevices compileDevice l devices s = (.ok loaded, s')) :
    ∀ e, loaded.get? device = some e → Fresh clock e := by
  induction l generalizing devices s with
  | nil =>
    obtain ⟨hloaded, -⟩ := Prod.mk.inj h
    obtain rfl := Except.ok.inj hloaded
    exact hdevices
  | cons first rest ih =>
    obtain ⟨d, configured⟩ := first
    unfold compileDevices at h
    split at h
    · cases h
    next schedule s₁ heq =>
    refine ih (fun e he => ?_) h
    rw [Table.get?_insert] at he
    split at he
    · obtain rfl := Option.some.inj he
      exact hcompile d configured s schedule s₁ heq
    · exact hdevices e he

section Loads

variable {clock : Clock TimeZone Moment} {format : DocumentFormat}
  {config : ModuleConfig TimeZone} {loaded : DndScheduleRegistry TimeZone} {s s' : PersistentStore}

theorem fresh_mapError {source : DndScheduleSource} {rules : List DndSchedule}
    {timezone : Option TimeZone} {f : DeviceDndScheduleError → DndScheduleRegistryError}
    {schedule : DeviceDndSchedule TimeZone}
    (h : (DeviceDndSchedule.compile clock source rules timezone).mapError f = .ok schedule) :
    Fresh clock schedule := by
  cases hcompile : DeviceDndSchedule.compile clock source rules timezone with
  | error e =>
    rw [hcompile] at h
    cases h
  | ok compiled =>
    rw [hcompile] at h
    obtain rfl := Except.ok.inj h
    exact (fresh_compile hcompile).1

theorem fresh_load (h : load clock format config s = (.ok loaded, s')) (device : DeviceId) :
    ∀ e, loaded.get? device = some e → Fresh clock e := by
  refine fresh_compileDevices (fun d configured s schedule s' heq => ?_)
    (fun _ he => nomatch (Table.get?_empty device).symm.trans he) h
  unfold loadDevice at heq
  split at heq
  · cases heq
  · exact fresh_mapError (Prod.mk.inj heq).1
  · exact fresh_mapError (Prod.mk.inj heq).1

theorem fresh_fromConfiguration (h : fromConfiguration clock config s = (.ok loaded, s'))
    (device : DeviceId) : ∀ e, loaded.get? device = some e → Fresh clock e :=
  fresh_compileDevices (fun _ _ _ _ _ heq => fresh_mapError (Prod.mk.inj heq).1)
    (fun _ he => nomatch (Table.get?_empty device).symm.trans he) h

end Loads

/-! ## Runs -/

/-- The owner, and what is remembered of one device. -/
structure Watch (TimeZone : Type) where
  owner : DndScheduleOwner TimeZone
  memory : Memory := {}

/-- When a step is a tick, or ends with one. -/
def Event.ticks (o : DndScheduleOwner TimeZone) : Event TimeZone Moment → Option Moment
  | .tick now _ => some now
  | .install now _ => o.prepared.map fun _ => now
  | _ => none

def Event.moment : Event TimeZone Moment → Option Moment
  | .tick now _ | .install now _ | .mutate _ _ now _ => some now
  | _ => none

namespace Watch

open DndScheduleOwner (attemptsOn)

section Steps

variable [DecidableEq TimeZone] (clock : Clock TimeZone Moment) (format : DocumentFormat)
  (device : DeviceId) (w : Watch TimeZone) (event : Event TimeZone Moment)

/-- The terms of the device before a step.  A start begins anew. -/
def before : Option (Terms TimeZone) :=
  match event with
  | .start _ => none
  | _ => w.owner.terms device

def recalled : Memory :=
  match event with
  | .start _ => {}
  | _ => w.memory

def attempts : List (Attempt TimeZone) :=
  attemptsOn device (w.owner.handle clock format event).2

def after : DndScheduleOwner TimeZone := (w.owner.handle clock format event).1

def step : Watch TimeZone where
  owner := w.after clock format event
  memory :=
    match (w.attempts clock format device event).find? (·.accepted) with
    | some a => .settle a.phase a.terms
    | none => (w.recalled event).observe (w.before device event)
        ((w.after clock format event).terms device)

/-- The mode as it is set by hand, or by an attempt that is accepted. -/
def modeAfter : Features.DndMode :=
  match event with
  | .setByHand d mode => if d = device then mode else w.owner.modes device
  | _ =>
    match (w.attempts clock format device event).find? (·.accepted) with
    | some a => a.phase.runtimeMode
    | none => w.owner.modes device

/-- A step acts on the mode of the device at an edge of its schedule only. -/
structure Edged : Prop where
  /-- An attempt applies the phase of the present rules, and that phase is due. -/
  calledFor : ∀ a ∈ w.attempts clock format device event, ∃ terms now,
    a.terms = some terms ∧ event.moment = some now ∧ a.phase = terms.phase clock now
      ∧ ((w.recalled event).observe (w.before device event) (some terms)).Due a.phase
  /-- A tick attempts what is due. -/
  attempted : ∀ now terms, event.ticks w.owner = some now →
    (w.after clock format event).terms device = some terms →
    ((w.recalled event).observe (w.before device event) (some terms)).Due
      (terms.phase clock now) → w.attempts clock format device event ≠ []
  /-- What a tick attempts without success stays due. -/
  again : ∀ a ∈ w.attempts clock format device event, a.accepted = false →
    (event.ticks w.owner).isSome → (w.step clock format device event).memory.Due a.phase
  /-- A refused change leaves the stored override and the schedule as they were. -/
  refused : ∀ mutation now accepts, event = .mutate device mutation now accepts →
    Refused (w.owner.mutateSchedule clock format device mutation now accepts).2.2 →
    (w.after clock format event).schedules.get? device = w.owner.schedules.get? device
      ∧ (w.after clock format event).store.held (place device) = w.owner.store.held (place device)
  mode : (w.after clock format event).modes device = w.modeAfter clock format device event

end Steps

section Invariant

variable [DecidableEq TimeZone] {clock : Clock TimeZone Moment} {format : DocumentFormat}
  {device : DeviceId}

variable (clock) in
/-- What is remembered of a device goes with its schedule, if it has one. -/
def Tracks (m : Memory) : Option (DeviceDndSchedule TimeZone) → Prop
  | none => m = {}
  | some schedule => Remembers clock m schedule

theorem Tracks.observe_same {m : Memory} {e : Option (DeviceDndSchedule TimeZone)}
    (h : Tracks clock m e) : m.observe (e.map (·.terms)) (e.map (·.terms)) = m := by
  cases e with
  | none => exact (h : m = {}).symm
  | some schedule => exact Remembers.observe_same h

/-- What a tick does with the schedule and with the memory of a device. -/
structure TickEdged (clock : Clock TimeZone Moment) (device : DeviceId)
    (o : DndScheduleOwner TimeZone) (m : Memory) (now : Moment)
    (r : DndScheduleOwner TimeZone × List (Attempt TimeZone)) : Prop where
  calledFor : ∀ a ∈ attemptsOn device r.2, a.terms = o.terms device
    ∧ ∃ terms, o.terms device = some terms ∧ a.phase = terms.phase clock now ∧ m.Due a.phase
  attempted : ∀ terms, o.terms device = some terms → m.Due (terms.phase clock now) →
    attemptsOn device r.2 ≠ []
  terms : r.1.terms device = o.terms device
  tracks : Tracks clock (match (attemptsOn device r.2).find? (·.accepted) with
      | some a => .settle a.phase a.terms
      | none => m) (r.1.schedules.get? device)
  unaccepted : ∀ a ∈ attemptsOn device r.2, a.accepted = false →
    (attemptsOn device r.2).find? (·.accepted) = none
  mode : r.1.modes device = match (attemptsOn device r.2).find? (·.accepted) with
    | some a => a.phase.runtimeMode
    | none => o.modes device

omit [DecidableEq TimeZone] in
theorem tickEdged {o : DndScheduleOwner TimeZone} {m : Memory}
    (h : Tracks clock m (o.schedules.get? device)) (now : Moment) (accepts : DeviceId → Bool) :
    TickEdged clock device o m now (o.runDndScheduleTick clock now accepts) := by
  rcases o.runDndScheduleTick_cases clock now accepts device with
    ⟨schedule, phase, accepted, hget, hdue, hschedule, hmode, hattempts⟩
      | ⟨hdue, hschedule, hmode, hattempts⟩
  · rw [hget] at h
    obtain ⟨rfl, hphase⟩ := (Remembers.due_iff h now phase).mp hdue
    have hterms : o.terms device = some schedule.terms := by
      unfold DndScheduleOwner.terms
      rw [hget]
      rfl
    rw [hget] at hschedule
    rw [hterms] at hattempts
    refine ⟨?_, fun _ _ _ => by rw [hattempts]; exact List.cons_ne_nil _ _, ?_, ?_, ?_, ?_⟩
    · rw [hattempts, hterms]
      intro a ha
      obtain rfl := List.mem_singleton.mp ha
      exact ⟨rfl, _, rfl, rfl, hphase⟩
    · unfold DndScheduleOwner.terms
      rw [hschedule, hget]
      cases accepted <;> rfl
    · rw [hattempts, hschedule]
      cases accepted with
      | true => exact Remembers.settle h.coherent _
      | false => exact h
    · rw [hattempts]
      intro a ha hfalse
      obtain rfl := List.mem_singleton.mp ha
      obtain rfl : accepted = false := hfalse
      rfl
    · rw [hattempts, hmode]
      cases accepted <;> rfl
  · refine ⟨?_, fun terms hterms hm => ?_, ?_, ?_, ?_, ?_⟩
    · rw [hattempts]
      nofun
    · unfold DndScheduleOwner.terms at hterms
      obtain ⟨schedule, hget, rfl⟩ := Option.map_eq_some_iff.mp hterms
      rw [hget] at h
      have hphase := (Remembers.due_iff h now _).mpr ⟨rfl, hm⟩
      rw [hdue schedule hget] at hphase
      cases hphase
    · unfold DndScheduleOwner.terms
      rw [hschedule]
    · rw [hattempts, hschedule]
      exact h
    · rw [hattempts]
      nofun
    · rw [hattempts]
      exact hmode

variable (clock device) in
/-- What holds between two steps. -/
structure Coherence (w : Watch TimeZone) : Prop where
  tracks : Tracks clock w.memory (w.owner.schedules.get? device)
  prepared : ∀ candidate configured, w.owner.prepared = some (candidate, configured) →
    (∀ e, candidate.get? device = some e → Fresh clock e)
      ∧ ∀ e, configured.get? device = some e → Fresh clock e

end Invariant

end Watch

/-! ## Careful steps -/

/-- A change that touches the mode is due: it changes the terms of a device that has or had
    rules, or the phase is due anyway. -/
def Touching (clock : Clock TimeZone Moment) (o : DndScheduleOwner TimeZone) (device : DeviceId)
    (next : DeviceDndSchedule TimeZone) (now : Moment) : Prop :=
  ∀ current, o.schedules.get? device = some current →
    (next.terms = current.terms → (current.due clock now).isSome)
      ∧ (next.rules = [] → current.rules = [] → current.pendingCatchup = true)

/-- A change is careful if its phase is due, a write that is reported to have failed has
    not been applied, and the write that puts the override back does not fail. -/
def CarefulChange (clock : Clock TimeZone Moment) (format : DocumentFormat)
    (o : DndScheduleOwner TimeZone) (device : DeviceId) (mutation : ScheduleMutation)
    (now : Moment) (accepts : DeviceId → Bool) : Prop :=
  ∀ next doc, Stores clock format o device mutation next doc → match o.store.advance.fault with
    | some fault => fault.applied = true → doc = o.store.held (place device)
    | none => Touching clock o device next now
        ∧ (accepts device = false → ∀ fault, o.store.advance.advance.fault = some fault →
          fault.applied = false → doc = o.store.held (place device))

theorem carefulChange_iff {clock : Clock TimeZone Moment} {format : DocumentFormat}
    {o : DndScheduleOwner TimeZone} {device : DeviceId} {mutation : ScheduleMutation}
    {now : Moment} {accepts : DeviceId → Bool} {next : DeviceDndSchedule TimeZone}
    {doc : Option String} (h : Stores clock format o device mutation next doc) :
    CarefulChange clock format o device mutation now accepts ↔ match o.store.advance.fault with
        | some fault => fault.applied = true → doc = o.store.held (place device)
        | none => Touching clock o device next now
            ∧ (accepts device = false → ∀ fault, o.store.advance.advance.fault = some fault →
              fault.applied = false → doc = o.store.held (place device)) := by
  refine ⟨fun hc => hc next doc h, fun hc next' doc' h' => ?_⟩
  obtain rfl := Except.ok.inj (h.planned.symm.trans h'.planned)
  obtain rfl := Except.ok.inj (h.document.symm.trans h'.document)
  exact hc

/-- A reload is careful if it does not bring another zone to a device without rules. -/
def CarefulReload (o : DndScheduleOwner TimeZone) (device : DeviceId) : Prop :=
  ∀ candidate configured live terms, o.prepared = some (candidate, configured) →
    o.schedules.get? device = some live → live.rules = [] → live.pendingCatchup = false →
    installedTerms candidate configured device live = some terms → terms.rules = [] →
    terms.timezone = live.timezone

def Careful (clock : Clock TimeZone Moment) (format : DocumentFormat) (device : DeviceId)
    (o : DndScheduleOwner TimeZone) : Event TimeZone Moment → Prop
  | .install _ _ => CarefulReload o device
  | .mutate d mutation now accepts =>
    d = device → CarefulChange clock format o device mutation now accepts
  | _ => True

namespace Watch

open DndScheduleOwner (attemptsOn)

section Careful

variable [DecidableEq TimeZone] {clock : Clock TimeZone Moment} {format : DocumentFormat}
  {device : DeviceId} {w : Watch TimeZone}
variable {o : DndScheduleOwner TimeZone} {accepts : DeviceId → Bool}

variable (clock format device w) in
/-- A step that meets its condition acts at an edge only and keeps what is known, and a
    step that acts at an edge only meets its condition. -/
structure Judged (event : Event TimeZone Moment) : Prop where
  careful : w.Edged clock format device event → Careful clock format device w.owner event
  edged : Careful clock format device w.owner event → w.Edged clock format device event
  keeps : Careful clock format device w.owner event →
    Coherence clock device (w.step clock format device event)

/-- A step that ends with a tick, from what is remembered when the tick comes. -/
theorem judged_ticked {event : Event TimeZone Moment} (now : Moment) (accepts : DeviceId → Bool)
    (hhandle : w.owner.handle clock format event = o.runDndScheduleTick clock now accepts)
    (hmoment : event.moment = some now) (hticks : event.ticks w.owner = some now)
    (hstart : w.recalled event = w.memory ∧ w.before device event = w.owner.terms device)
    (hmutate : ∀ mutation now accepts, event ≠ .mutate device mutation now accepts)
    (hset : ∀ d mode, event ≠ .setByHand d mode) (hmodes : o.modes = w.owner.modes)
    (hprepared : ∀ candidate configured, o.prepared = some (candidate, configured) →
      w.owner.prepared = some (candidate, configured)) (hw : Coherence clock device w)
    (htracks : Tracks clock (w.memory.observe (w.owner.terms device) (o.terms device))
      (o.schedules.get? device)) : w.Edged clock format device event
      ∧ Coherence clock device (w.step clock format device event) := by
  have htick := tickEdged htracks now accepts
  have hattempts : w.attempts clock format device event
      = attemptsOn device (o.runDndScheduleTick clock now accepts).2 := by
    unfold attempts
    rw [hhandle]
  have hafter : w.after clock format event = (o.runDndScheduleTick clock now accepts).1 := by
    unfold after
    rw [hhandle]
  have hmemory : (w.step clock format device event).memory
      = match (w.attempts clock format device event).find? (·.accepted) with
        | some a => .settle a.phase a.terms
        | none => w.memory.observe (w.owner.terms device) (o.terms device) := by
    unfold step
    dsimp only
    rw [hstart.1, hstart.2, hafter, htick.terms]
  refine ⟨⟨fun a ha => ?_, fun now' terms hnow hterms hdue => ?_, fun a ha hfalse _ => ?_,
    fun mutation now accepts heq => absurd heq (hmutate mutation now accepts), ?_⟩, ?_, ?_⟩
  · rw [hattempts] at ha
    obtain ⟨hterms, terms, ho, hphase, hdue⟩ := htick.calledFor a ha
    refine ⟨terms, now, hterms.trans ho, hmoment, hphase, ?_⟩
    rw [hstart.1, hstart.2, ← ho]
    exact hdue
  · obtain rfl := Option.mem_unique hticks hnow
    rw [hafter, htick.terms] at hterms
    rw [hstart.1, hstart.2, ← hterms] at hdue
    rw [hattempts]
    exact htick.attempted terms hterms hdue
  · rw [hattempts] at ha
    rw [hmemory, hattempts, htick.unaccepted a ha hfalse]
    obtain ⟨-, -, -, -, hdue⟩ := htick.calledFor a ha
    exact hdue
  · have hmode := htick.mode
    rw [← hattempts, ← hafter, hmodes] at hmode
    rw [hmode]
    unfold modeAfter
    cases event with
    | setByHand d mode => exact absurd rfl (hset d mode)
    | _ => rfl
  · have hkept := htick.tracks
    rw [← hattempts, ← hafter] at hkept
    rw [hmemory]
    exact hkept
  · intro candidate configured heq
    have hsame : (w.after clock format event).prepared = o.prepared := by
      rw [hafter]
      exact (DndScheduleOwner.applyDue_rest accepts _ o).2.2
    exact hw.prepared candidate configured (hprepared _ _ (hsame.symm.trans heq))

/-- A step that leaves the schedules and the device's mode as they are. -/
theorem judged_idle {event : Event TimeZone Moment} (hafter : w.after clock format event = o)
    (hattempts : w.attempts clock format device event = [])
    (hstart : w.recalled event = w.memory ∧ w.before device event = w.owner.terms device)
    (hticks : event.ticks w.owner = none)
    (hrefused : ∀ mutation now accepts, event = .mutate device mutation now accepts →
      o.store.held (place device) = w.owner.store.held (place device))
    (hschedules : o.schedules.get? device = w.owner.schedules.get? device)
    (hmode : o.modes device = w.modeAfter clock format device event)
    (hprepared : ∀ candidate configured, o.prepared = some (candidate, configured) →
      (∀ e, candidate.get? device = some e → Fresh clock e)
        ∧ ∀ e, configured.get? device = some e → Fresh clock e) (hw : Coherence clock device w) :
    w.Edged clock format device event
      ∧ Coherence clock device (w.step clock format device event) := by
  have hterms : o.terms device = w.owner.terms device := by
    unfold DndScheduleOwner.terms
    rw [hschedules]
  have hmemory : (w.step clock format device event).memory = w.memory := by
    unfold step
    dsimp only
    rw [hattempts, hstart.1, hstart.2, hafter, hterms]
    exact hw.tracks.observe_same
  refine ⟨⟨?_, fun now terms hnow => ?_, ?_, fun mutation now accepts heq _ => ?_, ?_⟩, ?_, ?_⟩
  · rw [hattempts]
    nofun
  · rw [hticks] at hnow
    cases hnow
  · rw [hattempts]
    nofun
  · rw [hafter]
    exact ⟨hschedules, hrefused mutation now accepts heq⟩
  · rw [hafter]
    exact hmode
  · rw [hmemory]
    change Tracks clock w.memory ((w.after clock format event).schedules.get? device)
    rw [hafter, hschedules]
    exact hw.tracks
  · change ∀ candidate configured, (w.after clock format event).prepared = _ → _
    rw [hafter]
    exact hprepared

theorem judged_start (config : ModuleConfig TimeZone) : w.Edged clock format device (.start config)
      ∧ Coherence clock device (w.step clock format device (.start config)) := by
  have hloaded : ∀ e, (w.owner.start clock format config).schedules.get? device = some e →
      Fresh clock e := by
    unfold DndScheduleOwner.start
    split
    · next schedules store hload => exact fresh_load hload device
    · exact fun e he => nomatch (Table.get?_empty device).symm.trans he
  have hprepared : (w.owner.start clock format config).prepared = none := by
    unfold DndScheduleOwner.start
    split <;> rfl
  have hmodes : (w.owner.start clock format config).modes = w.owner.modes := by
    unfold DndScheduleOwner.start
    split <;> rfl
  refine ⟨⟨nofun, nofun, nofun, nofun, congrFun hmodes device⟩, ?_, fun _ _ heq => ?_⟩
  · change Tracks clock
      (({} : Memory).observe none ((w.owner.start clock format config).terms device))
      ((w.owner.start clock format config).schedules.get? device)
    unfold DndScheduleOwner.terms
    cases hget : (w.owner.start clock format config).schedules.get? device with
    | none => rfl
    | some e => exact Remembers.start (hloaded e hget)
  · cases hprepared.symm.trans heq

theorem judged_stage (hw : Coherence clock device w) (config : ModuleConfig TimeZone) :
    w.Edged clock format device (.stage config)
      ∧ Coherence clock device (w.step clock format device (.stage config)) := by
  refine judged_idle (o := w.owner.stage clock format config) rfl rfl ⟨rfl, rfl⟩ rfl nofun rfl rfl
    (fun candidate configured heq => ?_) hw
  unfold DndScheduleOwner.stage at heq
  dsimp only at heq
  split at heq
  · next c f hc hf =>
    obtain ⟨rfl, rfl⟩ := Prod.mk.inj (Option.some.inj heq)
    exact ⟨fresh_load (Prod.ext hc rfl) device, fresh_fromConfiguration (Prod.ext hf rfl) device⟩
  · cases heq

theorem judged_tick (hw : Coherence clock device w) (now : Moment) (accepts : DeviceId → Bool) :
    w.Edged clock format device (.tick now accepts)
      ∧ Coherence clock device (w.step clock format device (.tick now accepts)) := by
  refine judged_ticked now accepts rfl rfl rfl ⟨rfl, rfl⟩ nofun nofun rfl (fun _ _ heq => heq) hw ?_
  have hsame := hw.tracks.observe_same
  rw [← DndScheduleOwner.terms] at hsame
  rw [hsame]
  exact hw.tracks

/-- A reload that is not careful switches off the mode of a device without rules. -/
theorem careful_of_edged {candidate configured : DndScheduleRegistry TimeZone} {now : Moment}
    (hw : Coherence clock device w) (hprep : w.owner.prepared = some (candidate, configured))
    (h : w.Edged clock format device (.install now accepts)) : CarefulReload w.owner device := by
  intro candidate' configured' live terms hprep' hlive hrules hpending hterms hempty
  obtain ⟨rfl, rfl⟩ := Prod.mk.inj (Option.mem_unique hprep hprep')
  have htracks : Remembers clock w.memory live := by
    have := hw.tracks
    rwa [hlive] at this
  obtain ⟨hc, hf⟩ := hw.prepared _ _ hprep
  obtain ⟨schedule, hschedule, -⟩ := Option.map_eq_some_iff.mp hterms
  have hsame := Option.some.inj (hterms.symm.trans (terms_reconcileDevice hlive hschedule))
  by_contra hzone
  -- the device comes out of the reload with its flag set
  obtain ⟨-, hcatchup⟩ := reconcileDevice_spec hlive htracks.coherent (hc _ hschedule) hf
  rcases preserved_cases hlive hcatchup with ⟨heq, -, -⟩ | ⟨-, hflag⟩
  · exact hzone (congrArg Terms.timezone (hsame.trans heq))
  -- and is tried by the tick, although it has no rules and had none
  obtain ⟨a, ha, haterms⟩ : ∃ a ∈ w.attempts clock format device (.install now accepts),
      a.terms = some terms := by
    have hget : ({ w.owner with
          schedules := reconcileLiveOwnership candidate configured w.owner.schedules
          prepared := none } : DndScheduleOwner TimeZone).schedules.get? device
        = some (preserveUnchangedPhase w.owner.schedules device
          (reconcileDevice configured w.owner.schedules device schedule)) := by
      rw [get?_reconcileLiveOwnership, hschedule]
      rfl
    have hhandle : w.owner.handle clock format (.install now accepts)
        = ({ w.owner with
          schedules := reconcileLiveOwnership candidate configured w.owner.schedules
          prepared := none } : DndScheduleOwner TimeZone).runDndScheduleTick clock now accepts := by
      unfold DndScheduleOwner.handle DndScheduleOwner.install
      dsimp only
      rw [hprep]
    unfold attempts
    rw [hhandle]
    rcases DndScheduleOwner.runDndScheduleTick_cases _ clock now accepts device with
      ⟨e, phase, accepted, he, -, -, -, hattempts⟩ | ⟨hdue, -⟩
    · refine ⟨_, by rw [hattempts]; exact List.mem_singleton_self _, ?_⟩
      dsimp only [DndScheduleOwner.terms]
      rw [hget, hsame]
      exact congrArg some (terms_preserveUnchangedPhase ..)
    have hnone := hdue _ hget
    unfold DeviceDndSchedule.due at hnone
    rw [hflag] at hnone
    simp at hnone
  obtain ⟨terms', now', hterms', -, -, hruled, -⟩ := h.calledFor a ha
  obtain rfl := Option.mem_unique haterms hterms'
  have hnever : w.memory.ruled = false := htracks.unruled_iff.mpr ⟨hrules, hpending⟩
  simp [recalled, Memory.observe, hnever, hempty] at hruled

theorem judged_install (hw : Coherence clock device w) (now : Moment)
    (accepts : DeviceId → Bool) : Judged clock format device w (.install now accepts) := by
  cases hprep : w.owner.prepared with
  | none =>
    have hhandle : w.owner.handle clock format (.install now accepts) = (w.owner, []) := by
      unfold DndScheduleOwner.handle DndScheduleOwner.install
      dsimp only
      rw [hprep]
    have hattempts : w.attempts clock format device (.install now accepts) = [] := by
      unfold attempts
      rw [hhandle]
      rfl
    have hidle : w.Edged clock format device (.install now accepts)
        ∧ Coherence clock device (w.step clock format device (.install now accepts)) :=
      judged_idle (o := w.owner) (by unfold after; rw [hhandle]) hattempts ⟨rfl, rfl⟩
        (by unfold Event.ticks; rw [hprep]; rfl)
      nofun rfl (by unfold modeAfter; rw [hattempts]; rfl) hw.prepared hw
    refine ⟨fun _ candidate configured _ _ heq => ?_, fun _ => hidle.1, fun _ => hidle.2⟩
    cases hprep.symm.trans heq
  | some prepared =>
    obtain ⟨candidate, configured⟩ := prepared
    obtain ⟨hc, hf⟩ := hw.prepared _ _ hprep
    have hticked : CarefulReload w.owner device → w.Edged clock format device (.install now accepts)
          ∧ Coherence clock device (w.step clock format device (.install now accepts)) := by
      intro hcareful
      refine judged_ticked (o := { w.owner with
          schedules := reconcileLiveOwnership candidate configured w.owner.schedules
          prepared := none }) now accepts ?_ rfl ?_ ⟨rfl, rfl⟩ nofun nofun rfl nofun hw ?_
      · unfold DndScheduleOwner.handle DndScheduleOwner.install
        dsimp only
        rw [hprep]
      · unfold Event.ticks
        rw [hprep]
        rfl
      unfold DndScheduleOwner.terms
      dsimp only
      rw [get?_reconcileLiveOwnership]
      have htracks := hw.tracks
      cases hschedule : candidate.get? device with
      | none => rfl
      | some schedule =>
        cases hlive : w.owner.schedules.get? device with
        | none =>
          rw [hlive] at htracks
          have hfresh : preserveUnchangedPhase w.owner.schedules device
              (reconcileDevice configured w.owner.schedules device schedule) = schedule := by
            unfold reconcileDevice preserveUnchangedPhase
            rw [hlive]
          dsimp only [Option.map]
          rw [hfresh, show w.memory = {} from htracks]
          exact Remembers.start (hc schedule hschedule)
        | some live =>
          rw [hlive] at htracks
          refine Remembers.reload (htracks : Remembers clock w.memory live) hlive
            (hc schedule hschedule) hf rfl fun hrules hpending hempty => ?_
          rw [show (preserveUnchangedPhase w.owner.schedules device (reconcileDevice
              configured w.owner.schedules device schedule)).timezone = _ from
            congrArg Terms.timezone (terms_preserveUnchangedPhase ..)]
          refine hcareful _ _ _ _ hprep hlive hrules hpending
            (terms_reconcileDevice hlive hschedule) ?_
          exact (congrArg Terms.rules (terms_preserveUnchangedPhase ..)).symm.trans hempty
    exact ⟨careful_of_edged hw hprep, fun h => (hticked h).1, fun h => (hticked h).2⟩

/-- A change is due if it changes something for a device that has or had rules, or if the
    phase is due without it. -/
theorem due_touching {m : Memory} {current next : DeviceDndSchedule TimeZone}
    (h : Remembers clock m current) (now : Moment) :
    (m.observe (some current.terms) (some next.terms)).Due (next.terms.phase clock now)
      ↔ (next.terms = current.terms → (current.due clock now).isSome)
        ∧ (next.rules = [] → current.rules = [] → current.pendingCatchup = true) := by
  have hruled : m.ruled = true ↔ (current.rules = [] → current.pendingCatchup = true) := by
    rw [← not_iff_not, Bool.not_eq_true, h.unruled_iff]
    simp
  by_cases hterms : next.terms = current.terms
  · have hrules : next.rules = current.rules := congrArg Terms.rules hterms
    rw [hterms, h.observe_same, hrules]
    have hdue : (current.due clock now).isSome ↔ m.Due (current.terms.phase clock now) := by
      rw [Option.isSome_iff_exists]
      refine ⟨fun ⟨phase, hphase⟩ => ?_, fun hm => ⟨_, (h.due_iff now _).mpr ⟨rfl, hm⟩⟩⟩
      obtain ⟨rfl, hm⟩ := (h.due_iff now phase).mp hphase
      exact hm
    rw [hdue]
    refine ⟨fun hm => ⟨fun _ => hm, fun _ => hruled.mp hm.1⟩, fun hm => hm.1 rfl⟩
  · have hchanged : (m.observe (some current.terms) (some next.terms)).changed = true := by
      simp [Memory.observe, Ne.symm hterms]
    have hobserved : (m.observe (some current.terms) (some next.terms)).ruled = true
        ↔ m.ruled = true ∨ next.rules ≠ [] := by
      simp [Memory.observe, DeviceDndSchedule.terms]
    unfold Memory.Due
    rw [hobserved, hruled, and_iff_left (.inl hchanged)]
    constructor
    · rintro (hcurrent | hnext)
      · exact ⟨fun heq => absurd heq hterms, fun _ => hcurrent⟩
      · exact ⟨fun heq => absurd heq hterms, fun hempty => absurd hempty hnext⟩
    rintro ⟨-, hempty⟩
    by_cases hnext : next.rules = []
    · exact .inl (hempty hnext)
    · exact .inr hnext

/-- The steps of a change that is refused before it comes to the mode. -/
theorem judged_untried {mutation : ScheduleMutation} {now : Moment} {store : PersistentStore}
    {reply : ScheduleReply} (hw : Coherence clock device w)
    (h : w.owner.mutateSchedule clock format device mutation now accepts
      = ({ w.owner with store }, [], reply))
    (hheld : store.held (place device) = w.owner.store.held (place device)) :
    w.Edged clock format device (.mutate device mutation now accepts) ∧ Coherence clock device
        (w.step clock format device (.mutate device mutation now accepts)) := by
  have hhandle : w.owner.handle clock format (.mutate device mutation now accepts)
      = ({ w.owner with store }, []) := by
    unfold DndScheduleOwner.handle
    dsimp only
    rw [h]
  have hattempts : w.attempts clock format device (.mutate device mutation now accepts) = [] := by
    unfold attempts
    rw [hhandle]
    rfl
  exact judged_idle (o := { w.owner with store }) (by unfold after; rw [hhandle]) hattempts
    ⟨rfl, rfl⟩ rfl (fun _ _ _ _ => hheld) rfl (by unfold modeAfter; rw [hattempts]; rfl)
    hw.prepared hw

/-- A change of the device that comes to its mode. -/
theorem judged_tried {mutation : ScheduleMutation} {now : Moment}
    {next current : DeviceDndSchedule TimeZone} {accepted : Bool} {reply : ScheduleReply}
    (hw : Coherence clock device w) (hcurrent : w.owner.schedules.get? device = some current)
    (hnext : Fresh clock next) (h : w.owner.mutateSchedule clock format device mutation now accepts
      = (o, [⟨device, some next.terms, next.phase clock now, accepted⟩], reply))
    (hschedule : o.schedules.get? device
      = some (if accepted then next.settled (next.phase clock now) else current))
    (hmode : o.modes device
      = if accepted then (next.phase clock now).runtimeMode else w.owner.modes device)
    (hprepared : o.prepared = w.owner.prepared) (hrefused : Refused reply ↔ accepted = false) :
    (w.Edged clock format device (.mutate device mutation now accepts)
      ↔ Touching clock w.owner device next now ∧ (accepted = false →
        o.store.held (place device) = w.owner.store.held (place device))) ∧ Coherence clock device
        (w.step clock format device (.mutate device mutation now accepts)) := by
  have htracks : Remembers clock w.memory current := by
    have := hw.tracks
    rwa [hcurrent] at this
  have hhandle : w.owner.handle clock format (.mutate device mutation now accepts)
      = (o, [⟨device, some next.terms, next.phase clock now, accepted⟩]) := by
    unfold DndScheduleOwner.handle
    dsimp only
    rw [h]
  have hattempts : w.attempts clock format device (.mutate device mutation now accepts)
      = [⟨device, some next.terms, next.phase clock now, accepted⟩] := by
    unfold attempts
    rw [hhandle]
    exact DndScheduleOwner.attemptsOn_self ..
  have hafter : w.after clock format (.mutate device mutation now accepts) = o := by
    unfold after
    rw [hhandle]
  have hbefore : w.before device (.mutate device mutation now accepts) = some current.terms := by
    change w.owner.terms device = _
    unfold DndScheduleOwner.terms
    rw [hcurrent]
    rfl
  have htouching : Touching clock w.owner device next now
      ↔ (w.memory.observe (some current.terms) (some next.terms)).Due
        (next.terms.phase clock now) := by
    rw [due_touching htracks]
    refine ⟨fun ht => ht current hcurrent, fun ht current' hcurrent' => ?_⟩
    rwa [← Option.mem_unique hcurrent hcurrent']
  refine ⟨⟨fun hedged => ⟨htouching.mpr ?_, fun hfalse => ?_⟩, fun ⟨ht, hheld⟩ => ⟨?_, nofun, ?_,
    fun mutation' now' accepts' heq hr => ?_, ?_⟩⟩, ?_, ?_⟩
  · obtain ⟨terms, now', hterms, -, hphase, hdue⟩ := hedged.calledFor _
      (by rw [hattempts]; exact List.mem_singleton_self _)
    obtain rfl := Option.some.inj hterms
    rw [hbefore] at hdue
    rw [← hnext.coherent.phase]
    exact hdue
  · have := (hedged.refused mutation now accepts rfl (by rw [h]; exact hrefused.mpr hfalse)).2
    rwa [hafter] at this
  · rw [hattempts]
    intro a ha
    obtain rfl := List.mem_singleton.mp ha
    refine ⟨_, now, rfl, rfl, hnext.coherent.phase now, ?_⟩
    rw [hbefore, hnext.coherent.phase]
    exact htouching.mp ht
  · nofun
  · obtain ⟨-, rfl, rfl, rfl⟩ := Event.mutate.inj heq
    rw [h] at hr
    have hfalse := hrefused.mp hr
    rw [hafter, hschedule, hfalse, hcurrent]
    exact ⟨rfl, hheld hfalse⟩
  · rw [hafter, hmode]
    unfold modeAfter
    rw [hattempts]
    cases accepted <;> rfl
  · change Tracks clock (w.step clock format device _).memory
      ((w.after clock format _).schedules.get? device)
    rw [hafter, hschedule]
    have hmemory : (w.step clock format device (.mutate device mutation now accepts)).memory
        = if accepted then .settle (next.phase clock now) (some next.terms) else w.memory := by
      unfold step
      dsimp only
      rw [hattempts, hbefore, hafter]
      cases accepted with
      | true => rfl
      | false =>
        have hterms : o.terms device = some current.terms := by
          unfold DndScheduleOwner.terms
          rw [hschedule]
          rfl
        rw [hterms]
        exact htracks.observe_same
    rw [hmemory]
    cases accepted with
    | true => exact Remembers.settle hnext.coherent _
    | false => exact htracks
  · intro candidate configured heq
    change (w.after clock format _).prepared = _ at heq
    rw [hafter, hprepared] at heq
    exact hw.prepared candidate configured heq

theorem judged_mutate (hw : Coherence clock device w) (mutation : ScheduleMutation)
    (now : Moment) (accepts : DeviceId → Bool) :
    Judged clock format device w (.mutate device mutation now accepts) := by
  have hchanged := mutateSchedule_changed clock format w.owner device mutation now accepts
  generalize hr : w.owner.mutateSchedule clock format device mutation now accepts = r at hchanged
  cases hchanged with
  | unwritten hnone hheld hreply =>
    obtain ⟨hedged, hnext⟩ := judged_untried hw hr hheld
    exact ⟨fun _ _ next doc h => absurd h (hnone next doc), fun _ => hedged, fun _ => hnext⟩
  | @failed next doc fault store reply hstores hfault hheld hreply =>
    have hcareful : CarefulChange clock format w.owner device mutation now accepts
        ↔ store.held (place device) = w.owner.store.held (place device) := by
      rw [carefulChange_iff hstores, hfault, hheld]
      cases h : fault.applied <;> simp [h]
    refine ⟨fun hedged _ => hcareful.mpr ?_, fun h => ?_, fun h => ?_⟩
    · have hafter : (w.after clock format (.mutate device mutation now accepts)).store = store := by
        unfold after DndScheduleOwner.handle
        dsimp only
        rw [hr]
      have := (hedged.refused mutation now accepts rfl (by rw [hr]; exact hreply)).2
      rwa [hafter] at this
    · exact (judged_untried hw hr (hcareful.mp (h rfl))).1
    · exact (judged_untried hw hr (hcareful.mp (h rfl))).2
  | @applied next doc store hstores hfault haccepts =>
    obtain ⟨-, ⟨current, hcurrent⟩, hnext⟩ := planMutation_ok hstores.planned
    obtain ⟨hedged, hkeeps⟩ := judged_tried hw hcurrent hnext hr
      (by rw [Table.get?_modify, if_pos rfl, Table.get?_insert, if_pos rfl]; rfl)
      (Function.update_self ..) rfl (iff_of_false (fun h => h _ _ rfl) (by simp))
    have hcareful : CarefulChange clock format w.owner device mutation now accepts
        ↔ Touching clock w.owner device next now := by
      rw [carefulChange_iff hstores, hfault, haccepts]
      exact and_iff_left (by simp)
    have hiff : Careful clock format device w.owner (.mutate device mutation now accepts)
        ↔ w.Edged clock format device (.mutate device mutation now accepts) := by
      rw [hedged, and_iff_left (by simp), ← hcareful]
      exact ⟨fun h => h rfl, fun h _ => h⟩
    exact ⟨hiff.mpr, hiff.mp, fun _ => hkeeps⟩
  | @undone next current doc store reply hstores hfault haccepts hcurrent hheld hreply =>
    obtain ⟨-, -, hnext⟩ := planMutation_ok hstores.planned
    obtain ⟨hedged, hkeeps⟩ := judged_tried hw hcurrent hnext hr
      (by rw [Table.get?_insert, if_pos rfl]; rfl) rfl rfl (iff_of_true hreply rfl)
    have hcareful : CarefulChange clock format w.owner device mutation now accepts
        ↔ Touching clock w.owner device next now
          ∧ store.held (place device) = w.owner.store.held (place device) := by
      rw [carefulChange_iff hstores, hfault, haccepts, hheld]
      refine and_congr_right fun _ => ?_
      cases w.owner.store.advance.advance.fault with
      | none => simp
      | some fault => cases h : fault.applied <;> simp [h]
    have hiff : Careful clock format device w.owner (.mutate device mutation now accepts)
        ↔ w.Edged clock format device (.mutate device mutation now accepts) := by
      rw [hedged]
      exact ⟨fun h => (hcareful.mp (h rfl)).imp_right fun hsame _ => hsame,
        fun h _ => hcareful.mpr (h.imp_right fun hsame => hsame rfl)⟩
    exact ⟨hiff.mpr, hiff.mp, fun _ => hkeeps⟩

/-- A change of another device. -/
theorem judged_other {d : DeviceId} (hd : d ≠ device) (hw : Coherence clock device w)
    (mutation : ScheduleMutation) (now : Moment) (accepts : DeviceId → Bool) :
    w.Edged clock format device (.mutate d mutation now accepts)
      ∧ Coherence clock device (w.step clock format device (.mutate d mutation now accepts)) := by
  have hkept : attemptsOn device
        (w.owner.mutateSchedule clock format d mutation now accepts).2.1 = []
      ∧ (w.owner.mutateSchedule clock format d mutation now accepts).1.schedules.get? device
        = w.owner.schedules.get? device
      ∧ (w.owner.mutateSchedule clock format d mutation now accepts).1.modes device
        = w.owner.modes device
      ∧ (w.owner.mutateSchedule clock format d mutation now accepts).1.prepared
        = w.owner.prepared := by
    have hchanged := mutateSchedule_changed clock format w.owner d mutation now accepts
    generalize w.owner.mutateSchedule clock format d mutation now accepts = r at hchanged
    cases hchanged with
    | unwritten | failed => exact ⟨rfl, rfl, rfl, rfl⟩
    | applied =>
      refine ⟨DndScheduleOwner.attemptsOn_of_ne hd, ?_, Function.update_of_ne hd.symm .., rfl⟩
      rw [Table.get?_modify, if_neg hd.symm, Table.get?_insert, if_neg hd.symm]
    | undone =>
      refine ⟨DndScheduleOwner.attemptsOn_of_ne hd, ?_, rfl, rfl⟩
      rw [Table.get?_insert, if_neg hd.symm, Table.get?_insert, if_neg hd.symm]
  obtain ⟨hattempts, hschedule, hmode, hprepared⟩ := hkept
  refine judged_idle (o := (w.owner.mutateSchedule clock format d mutation now accepts).1) rfl
    hattempts ⟨rfl, rfl⟩ rfl (fun mutation' now' accepts' heq => ?_) hschedule ?_
    (fun _ _ heq => hw.prepared _ _ (hprepared ▸ heq)) hw
  · exact absurd (Event.mutate.inj heq).1 hd
  rw [hmode]
  unfold modeAfter
  rw [show w.attempts clock format device (.mutate d mutation now accepts) = [] from hattempts]
  rfl

theorem judged (hw : Coherence clock device w) (event : Event TimeZone Moment) :
    Judged clock format device w event := by
  have hfree : Careful clock format device w.owner event → (w.Edged clock format device event
        ∧ Coherence clock device (w.step clock format device event)) →
      Judged clock format device w event := fun hc h => ⟨fun _ => hc, fun _ => h.1, fun _ => h.2⟩
  cases event with
  | start config => exact hfree trivial (judged_start config)
  | publish config =>
    exact hfree trivial (judged_idle (o := { w.owner with config }) rfl rfl ⟨rfl, rfl⟩ rfl nofun
      rfl rfl hw.prepared hw)
  | stage config => exact hfree trivial (judged_stage hw config)
  | install now accepts => exact judged_install hw now accepts
  | tick now accepts => exact hfree trivial (judged_tick hw now accepts)
  | mutate d mutation now accepts =>
    by_cases hd : d = device
    · subst hd
      exact judged_mutate hw mutation now accepts
    · exact hfree (fun heq => absurd heq hd) (judged_other hd hw mutation now accepts)
  | setByHand d mode =>
    refine hfree trivial (judged_idle
      (o := { w.owner with modes := Function.update w.owner.modes d mode }) rfl rfl ⟨rfl, rfl⟩ rfl
      nofun rfl ?_ hw.prepared hw)
    change Function.update w.owner.modes d mode device
      = if d = device then mode else w.owner.modes device
    rw [Function.update_apply]
    exact if_congr eq_comm rfl rfl

variable (clock format device) in
/-- In a run, every step acts at an edge of the device's schedule only exactly if every
    change from the command line is due, no failed write of an override has been applied and
    none is needed to put one back, and no reload brings another zone to a device without
    rules. -/
theorem edged_iff_careful (store : PersistentStore) (events : List (Event TimeZone Moment)) :
    Runs.Each (step clock format device) (Edged clock format device) ⟨{ store }, {}⟩ events
      ↔ Runs.Each (step clock format device) (fun w => Careful clock format device w.owner)
        ⟨{ store }, {}⟩ events := by
  have hstart : Coherence clock device (⟨{ store }, {}⟩ : Watch TimeZone) := ⟨rfl, nofun⟩
  refine ⟨fun h => ?_, fun h => ?_⟩
  · refine Runs.each_of_invariant (I := Coherence clock device)
      (fun w event hw he => (judged hw event).careful he)
      (fun w event hw he => (judged hw event).keeps ((judged hw event).careful he)) hstart h
  · refine Runs.each_of_invariant (I := Coherence clock device)
      (fun w event hw hc => (judged hw event).edged hc)
      (fun w event hw hc => (judged hw event).keeps hc) hstart h

end Careful

end Watch

namespace Sample

def phone : DeviceId := ⟨"SEP000000000001"⟩

/-- A clock that never tells a time. -/
def clock : Clock Unit Unit := ⟨fun _ _ => (.monday, 0), fun _ => true, fun _ _ => false⟩

/-- The document without rules. -/
def noRules : String := "\x7b\"version\":1,\"rules\":[]\x7d"

/-- A format as far as it concerns documents without rules. -/
def format : DocumentFormat where
  toString stored := if stored = ⟨STORED_FORMAT_VERSION, []⟩ then some noRules else none
  fromStr raw := if raw = noRules then some ⟨STORED_FORMAT_VERSION, []⟩ else none

/-- The change that clears the rules of the phone. -/
def clearing : Event Unit Unit := .mutate phone .clear () fun _ => true

/-- A phone without rules is set to silent by hand. -/
def silencing : List (Event Unit Unit) :=
  [.start ⟨none, (∅ : Table _ _).insert phone []⟩, .tick () fun _ => true, .setByHand phone .silent]

/-- And its rules are cleared. -/
def cleared : List (Event Unit Unit) := silencing ++ [clearing]

def silenced : Watch Unit :=
  Runs.run (Watch.step clock format phone) ⟨{ store := ⟨∅, []⟩ }, {}⟩ silencing

end Sample

namespace Watch

/-- Clearing no rules switches off the mode that was set by hand. -/
theorem not_edged_cleared : ¬ ∀ device store events,
    Runs.Each (step Sample.clock Sample.format device) (Edged Sample.clock Sample.format device)
      ⟨{ store }, {}⟩ events := by
  intro h
  obtain ⟨-, -, -, hlast, -⟩ := h Sample.phone ⟨∅, []⟩ Sample.cleared
  have hruled : (attempts Sample.clock Sample.format Sample.phone Sample.silenced
      Sample.clearing).all (fun a => ((recalled Sample.silenced Sample.clearing).observe
        (before Sample.phone Sample.silenced Sample.clearing) a.terms).ruled) = true := by
    rw [List.all_eq_true]
    intro a ha
    obtain ⟨terms, now, hterms, -, -, hruled, -⟩ := hlast.calledFor a ha
    rw [hterms]
    exact hruled
  exact absurd hruled (by decide)

end Watch

end Sccp.Dnd
