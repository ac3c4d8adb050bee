/-
  Sccp.Safety.ParkingSettlement

  How pending parks are settled.

  A park is settled by an event, a failure, its deadline or the end of its call, and it is
  settled once.  An event takes the earliest of the attempts it may be about: one that has
  recorded the channel of the event is not preferred to one that has not learned its own yet,
  so a foreign attempt that is due earlier is settled in its place.
-/

import Sccp.Safety.Parking

namespace Sccp

namespace ParkingController

variable {call : CallId} {attempt : PendingPark}

/-! ## The attempt an event takes -/

/-- The order of two keys of a deadline and a call. -/
def KeyLe (deadline call deadline' call' : Nat) : Prop :=
  deadline < deadline' ∨ deadline = deadline' ∧ call ≤ call'

theorem KeyLe.trans {d c d' c' d'' c'' : Nat} (h : KeyLe d c d' c') (h' : KeyLe d' c' d'' c'') :
    KeyLe d c d'' c'' := by
  unfold KeyLe at h h' ⊢
  omega

/-- One attempt is due no later than another; of two that are due at once, its call is no
    later. -/
def Sooner (e e' : CallId × PendingPark) : Prop :=
  KeyLe e.2.deadline e.1.val e'.2.deadline e'.1.val

theorem Sooner.antisymm {e e' : CallId × PendingPark} (h : Sooner e e') (h' : Sooner e' e) :
    e.1 = e'.1 := by
  rcases e with ⟨⟨v⟩, attempt⟩
  rcases e' with ⟨⟨v'⟩, attempt'⟩
  have hval : v = v' := by
    unfold Sooner KeyLe at h h'
    dsimp only at h h'
    omega
  rw [hval]

theorem sooner_earlierPark (best entry : CallId × PendingPark) :
    ∃ next, earlierPark (some best) entry = some next ∧ Sooner next best ∧ Sooner next entry
      ∧ (next = best ∨ next = entry) := by
  unfold earlierPark Sooner
  dsimp only
  split
  · next h =>
    exact ⟨entry, rfl, h.imp id fun h => ⟨h.1, Nat.le_of_lt h.2⟩, .inr ⟨rfl, Nat.le_refl _⟩,
      .inr rfl⟩
  next h =>
  refine ⟨best, rfl, .inr ⟨rfl, Nat.le_refl _⟩, ?_, .inl rfl⟩
  rcases Nat.lt_trichotomy best.2.deadline entry.2.deadline with hlt | heq | hgt
  · exact .inl hlt
  · exact .inr ⟨heq, Nat.not_lt.mp fun hlt => h (.inr ⟨heq.symm, hlt⟩)⟩
  · exact absurd (.inl hgt) h

/-- What a choice of the earliest attempt leaves behind is not sooner. -/
theorem foldl_earlierPark (entries : List (CallId × PendingPark)) (best : CallId × PendingPark) :
    ∃ e ∈ best :: entries, entries.foldl earlierPark (some best) = some e
      ∧ ∀ e' ∈ best :: entries, Sooner e e' := by
  induction entries generalizing best with
  | nil =>
    refine ⟨best, List.mem_cons_self, rfl, fun e' he' => ?_⟩
    rw [List.mem_singleton.mp he']
    exact .inr ⟨rfl, Nat.le_refl _⟩
  | cons entry rest ih =>
    obtain ⟨next, hstep, hbest, hentry, hmem⟩ := sooner_earlierPark best entry
    obtain ⟨e, he, hfold, hleast⟩ := ih next
    refine ⟨e, ?_, ?_, ?_⟩
    · rcases List.mem_cons.mp he with rfl | he
      · rcases hmem with rfl | rfl
        · exact List.mem_cons_self
        · exact List.mem_cons_of_mem _ List.mem_cons_self
      · exact List.mem_cons_of_mem _ (List.mem_cons_of_mem _ he)
    · rw [List.foldl_cons, hstep, hfold]
    have hnext := hleast next List.mem_cons_self
    intro e' he'
    rcases List.mem_cons.mp he' with rfl | he'
    · exact hnext.trans hbest
    · rcases List.mem_cons.mp he' with rfl | he'
      · exact hnext.trans hentry
      · exact hleast e' (List.mem_cons_of_mem _ he')

variable {s : ParkingController} {event : ParkingEvent}

/-- The attempt an event takes is one it may be about, and none of these is sooner. -/
theorem matchingPark_some (h : s.matchingPark event = some (call, attempt)) :
    s.parking.parks.get? call = some attempt ∧ matchesPark event attempt = true
      ∧ ∀ call' attempt', s.parking.parks.get? call' = some attempt' →
          matchesPark event attempt' = true → Sooner (call, attempt) (call', attempt') := by
  unfold matchingPark at h
  have hmem : ∀ e, e ∈ s.parking.parks.entries.filter (fun e => matchesPark event e.2) ↔
      s.parking.parks.get? e.1 = some e.2 ∧ matchesPark event e.2 = true := by
    intro e
    rw [List.mem_filter, Table.get?_eq_some]
  generalize s.parking.parks.entries.filter (fun e => matchesPark event e.2) = entries at h hmem
  cases entries with
  | nil => cases h
  | cons best rest =>
    obtain ⟨e, he, hfold, hleast⟩ := foldl_earlierPark rest best
    obtain rfl : e = (call, attempt) := Option.mem_unique hfold h
    exact ⟨((hmem _).mp he).1, ((hmem _).mp he).2, fun call' attempt' hget hmatches =>
      hleast (call', attempt') ((hmem _).mpr ⟨hget, hmatches⟩)⟩

theorem matchingPark_none (h : s.matchingPark event = none)
    (hget : s.parking.parks.get? call = some attempt) : matchesPark event attempt = false := by
  unfold matchingPark at h
  rcases hentries : s.parking.parks.entries.filter (fun e => matchesPark event e.2)
    with _ | ⟨best, rest⟩
  · have hnot := List.filter_eq_nil_iff.mp hentries (call, attempt) (Table.get?_eq_some.mp hget)
    exact Bool.eq_false_iff.mpr hnot
  · obtain ⟨e, -, hfold, -⟩ := foldl_earlierPark rest best
    rw [hentries] at h
    exact absurd (hfold.symm.trans h) nofun

/-- An attempt that has recorded the channel of an event is one the event may be about. -/
theorem matchesPark_recorded (h : attempt.parkeeUniqueId = some event.parkeeUniqueId) :
    matchesPark event attempt = true := by
  rw [matchesPark, h]
  exact decide_eq_true rfl

/-! ## What a command does to the pending parks -/

/-- Whether an event is about pending parks. -/
def settlesParks (event : ParkingEvent) : Bool :=
  event.kind = .parked || event.kind = .swap || event.kind = .failed

theorem parks_applyParkingEvent_other (retriever : Option CallId)
    (notificationDeadline : Instant) (h : settlesParks event = false) :
    (s.applyParkingEvent event retriever notificationDeadline).1.parking.parks
      = s.parking.parks := by
  unfold settlesParks at h
  unfold applyParkingEvent
  dsimp only
  cases hkind : event.kind with
  | parked => rw [hkind] at h; cases h
  | swap => rw [hkind] at h; cases h
  | failed => rw [hkind] at h; cases h
  | retrieved =>
    dsimp only
    split
    · rfl
    · split <;> rfl
  | timeout => rfl
  | giveUp => rfl

/-- An event settles the attempt it takes and no other. -/
theorem parks_applyParkingEvent (retriever : Option CallId) (notificationDeadline : Instant)
    (h : settlesParks event = true) :
    (s.applyParkingEvent event retriever notificationDeadline).1.parking.parks
      = match s.matchingPark event with
        | none => s.parking.parks
        | some (call, _) => s.parking.parks.erase call := by
  have hmatching : ∀ registry, matchingPark
      { s with parking := { s.parking with registry } } event = s.matchingPark event :=
    fun _ => rfl
  unfold settlesParks at h
  unfold applyParkingEvent
  dsimp only
  cases hkind : event.kind with
  | parked =>
    dsimp only
    rw [hmatching]
    rcases s.matchingPark event with _ | ⟨call, pending⟩ <;> rfl
  | swap =>
    dsimp only
    rw [hmatching]
    rcases s.matchingPark event with _ | ⟨call, pending⟩ <;> rfl
  | failed =>
    dsimp only
    rw [hmatching]
    rcases s.matchingPark event with _ | ⟨call, pending⟩ <;> rfl
  | retrieved => rw [hkind] at h; cases h
  | timeout => rw [hkind] at h; cases h
  | giveUp => rw [hkind] at h; cases h

theorem parks_setParkPeer (pbxId : PbxCallId) (uniqueId : String) (call : CallId) :
    (s.setParkPeer pbxId uniqueId).parking.parks.contains call = s.parking.parks.contains call := by
  unfold setParkPeer
  split
  · rfl
  · exact Table.contains_modify ..

theorem parks_failParkingOperation (operation : ParkingOperation) (notificationDeadline : Instant) :
    (s.failParkingOperation operation notificationDeadline).1.parking.parks = s.parking.parks
      ∨ ∃ pbxId lot call pending, operation = .park pbxId lot
        ∧ s.parking.parks.get? call = some pending ∧ pending.pbxId = pbxId
        ∧ (s.failParkingOperation operation notificationDeadline).1.parking.parks
          = s.parking.parks.erase call := by
  unfold failParkingOperation
  split
  · next pbxId lot =>
    split
    · exact .inl rfl
    · next call pending hfind =>
      obtain ⟨hget, hpbx⟩ := Table.find?_some hfind
      exact .inr ⟨pbxId, lot, call, pending, rfl, hget, of_decide_eq_true hpbx, rfl⟩
  · split
    · exact .inl rfl
    · exact .inl rfl

theorem parks_expireClaims (p : ParkingRuntime) (due : List (CallId × ParkingClaim)) :
    (expireClaims p due).parks = p.parks := by
  induction due generalizing p with
  | nil => rfl
  | cons e rest ih => exact ih _

theorem parks_expireRetrievals (notificationDeadline : Instant)
    (due : List (CallId × PendingRetrieval)) :
    (expireRetrievals notificationDeadline s due).1.parking.parks = s.parking.parks := by
  induction due generalizing s with
  | nil => rfl
  | cons e rest ih => exact ih

theorem get?_expireParks (due : List (CallId × PendingPark)) (call : CallId) :
    (expireParks s due).1.parking.parks.get? call
      = if call ∈ due.map Prod.fst then none else s.parking.parks.get? call := by
  induction due generalizing s with
  | nil => rfl
  | cons e rest ih =>
    have hrest : (expireParks s (e :: rest)).1.parking.parks.get? call
        = if call ∈ rest.map Prod.fst then none
          else (s.parking.parks.erase e.1).get? call := ih
    rw [hrest, Table.get?_erase, List.map_cons]
    by_cases hhead : call = e.1
    · simp [hhead]
    · simp only [hhead, if_false, List.mem_cons, false_or]

/-- Expiry settles just the attempts whose deadline has come. -/
theorem get?_expireParkingAttempts (now notificationDeadline : Instant) (call : CallId) :
    (s.expireParkingAttempts now notificationDeadline).1.parking.parks.get? call
      = if (s.parking.parks.get? call).any (·.deadline ≤ now) then none
        else s.parking.parks.get? call := by
  obtain ⟨p, hp, hparks⟩ : ∃ p : ParkingRuntime, p.parks = s.parking.parks
      ∧ (s.expireParkingAttempts now notificationDeadline).1.parking.parks
        = (expireParks { s with parking := p }
            (p.parks.entries.filter fun e => e.2.deadline ≤ now)).1.parking.parks := by
    refine ⟨expireClaims { s.parking with retiredPeers := [] }
        (s.parking.claims.entries.filter fun e => e.2.deadline ≤ now),
      parks_expireClaims _ _, ?_⟩
    unfold expireParkingAttempts
    exact parks_expireRetrievals notificationDeadline _
  rw [hparks, get?_expireParks]
  dsimp only
  rw [hp]
  have hdue : call ∈ (s.parking.parks.entries.filter fun e => e.2.deadline ≤ now).map Prod.fst
      ↔ (s.parking.parks.get? call).any (·.deadline ≤ now) = true := by
    rw [Option.any_eq_true, List.mem_map]
    constructor
    · rintro ⟨⟨c, attempt⟩, he, rfl⟩
      obtain ⟨hmem, hdeadline⟩ := List.mem_filter.mp he
      have hget := Table.get?_eq_some.mpr hmem
      exact ⟨attempt, hget, hdeadline⟩
    · rintro ⟨attempt, hget, hdeadline⟩
      exact ⟨(call, attempt), List.mem_filter.mpr ⟨Table.get?_eq_some.mp hget, hdeadline⟩, rfl⟩
  simp only [hdue]

theorem parks_retireRetrievals (p : ParkingRuntime) (ended : List (CallId × PendingRetrieval)) :
    (retireRetrievals p ended).parks = p.parks := by
  induction ended generalizing p with
  | nil => rfl
  | cons e rest ih => exact ih _

/-- Publishing settles just the attempts whose call has ended. -/
theorem get?_retire (call : CallId) : s.retireParkingAttempts.parking.parks.get? call
    = if s.controller.bySccp.contains call then s.parking.parks.get? call else none := by
  have hparks : s.retireParkingAttempts.parking.parks
      = s.parking.parks.filter fun call _ => s.controller.bySccp.contains call :=
    parks_retireRetrievals _ _
  rw [hparks, Table.get?_filter]
  cases s.controller.bySccp.contains call with
  | true => cases s.parking.parks.get? call <;> rfl
  | false => cases s.parking.parks.get? call <;> rfl

/-- A call that has been parked still has its appearance. -/
theorem appearanceForCall_park {controller controller' : Controller} {enabled : Bool}
    {lot : Option String} {effects : List DriverEffect}
    (h : controller.park call enabled lot = (controller', .ok effects)) :
    ∃ appearance, controller'.appearanceForCall call = some appearance := by
  unfold Controller.park at h
  split at h
  · cases h
  split at h
  · cases h
  next appearance happearance =>
  split at h
  · cases h
  split at h
  · cases h
  cases h
  unfold Controller.appearanceForCall at happearance ⊢
  split at happearance
  · cases happearance
  next appearanceId hsccp =>
  split
  next hnone => cases hsccp.symm.trans hnone
  next id hsome =>
  cases hsccp.symm.trans hsome
  show ∃ a, (controller.appearances.modify appearance.id _).get? appearanceId = some a
  rw [Table.get?_modify]
  split
  · next hid =>
    rw [← hid, happearance]
    exact ⟨_, rfl⟩
  · exact ⟨_, happearance⟩

/-- The attempt that a command begins. -/
def begun (s : ParkingController) : ParkingCommand → List CallId
  | .prepareParking now call enabled lot deadline =>
    match (s.prepareParking now call enabled lot deadline).2.2 with
    | .ok _ => [call]
    | .error _ => []
  | _ => []

theorem parks_prepareParking (now : Instant) (call : CallId) (enabled : Bool)
    (lot : Option String) (deadline : Instant) :
    (s.begun (.prepareParking now call enabled lot deadline) = []
        ∧ (s.prepareParking now call enabled lot deadline).1.parking.parks = s.parking.parks)
      ∨ s.begun (.prepareParking now call enabled lot deadline) = [call]
        ∧ ∃ pending, (s.prepareParking now call enabled lot deadline).1.parking.parks
          = s.parking.parks.insert call pending := by
  unfold begun
  dsimp only
  unfold prepareParking
  by_cases hroom : (!s.parking.hasCapacity || deadline ≤ now) = true
  · rw [if_pos hroom]
    exact .inl ⟨rfl, rfl⟩
  rw [if_neg hroom]
  dsimp only
  rcases hpark : s.controller.park call enabled lot with ⟨controller, _ | effects⟩
  · exact .inl ⟨rfl, rfl⟩
  obtain ⟨appearance, happearance⟩ := appearanceForCall_park hpark
  dsimp only
  rw [happearance]
  exact .inr ⟨rfl, _, rfl⟩

theorem parks_prepareParkingRetrieval (now : Instant) (call : CallId) (binding : LineBinding)
    (codec : Codec) (lot : String) (slot : Nat) (info : CallInfo) (deadline : Instant) :
    (s.prepareParkingRetrieval now call binding codec lot slot info deadline).1.parking.parks
      = s.parking.parks := by
  unfold prepareParkingRetrieval ParkingRuntime.commitClaim
  split
  · next hcommit =>
    split at hcommit
    · rfl
    · rfl
  next parking hcommit =>
  have hparks : parking.parks = s.parking.parks := by
    split at hcommit
    · cases hcommit; rfl
    · cases hcommit
  split
  · exact hparks
  · split
    · exact hparks
    · exact hparks

/-! ## Settlement -/

/-- The commands that settle pending parks. -/
def Settling : ParkingCommand → Prop
  | .applyParkingEvent event _ _ => settlesParks event = true
  | .failParkingOperation (.park ..) _ => True
  | .expireParkingAttempts .. => True
  | _ => False

/-- Pending parks are settled only by a command that settles them, and the others are kept. -/
theorem contains_perform (command : ParkingCommand) (call : CallId) :
    ((s.perform command).parking.parks.contains call = true →
        s.parking.parks.contains call = true ∨ call ∈ s.begun command)
      ∧ (call ∈ s.begun command → (s.perform command).parking.parks.contains call = true)
      ∧ (¬ Settling command → s.parking.parks.contains call = true →
        (s.perform command).parking.parks.contains call = true) := by
  have hsame : ∀ {s' : ParkingController}, s'.parking.parks = s.parking.parks →
      s'.parking.parks.contains call = s.parking.parks.contains call :=
    fun h => congrArg (Table.contains · call) h
  cases command with
  | control event => exact ⟨.inl, nofun, fun _ h => h⟩
  | claimParking now lot slot device call' deadline =>
    have hparks : (s.claimParking now lot slot device call' deadline).1.parking.parks
        = s.parking.parks := by
      unfold claimParking
      split
      · rfl
      · split <;> rfl
    unfold perform
    rw [hsame hparks]
    exact ⟨.inl, nofun, fun _ h => h⟩
  | releaseParkingClaim lot slot call' => exact ⟨.inl, nofun, fun _ h => h⟩
  | setParkPeer pbxId uniqueId =>
    unfold perform
    rw [parks_setParkPeer]
    exact ⟨.inl, nofun, fun _ h => h⟩
  | failParkingOperation operation deadline =>
    unfold perform
    rcases parks_failParkingOperation (s := s) operation deadline with
      hparks | ⟨pbxId, lot, call', pending, rfl, -, -, hparks⟩
    · dsimp only
      rw [hsame hparks]
      exact ⟨.inl, nofun, fun _ h => h⟩
    dsimp only
    rw [hparks, Table.contains_erase]
    exact ⟨fun h => .inl (Bool.and_eq_true_iff.mp h).2, nofun, fun hnot => absurd trivial hnot⟩
  | applyParkingEvent event retriever deadline =>
    unfold perform
    dsimp only
    by_cases hsettles : settlesParks event = true
    · rw [parks_applyParkingEvent retriever deadline hsettles]
      refine ⟨fun h => ?_, nofun, fun hnot => absurd hsettles hnot⟩
      split at h
      · exact .inl h
      · rw [Table.contains_erase] at h
        exact .inl (Bool.and_eq_true_iff.mp h).2
    · rw [hsame (parks_applyParkingEvent_other retriever deadline (Bool.eq_false_iff.mpr hsettles))]
      exact ⟨.inl, nofun, fun _ h => h⟩
  | expireParkingAttempts now deadline =>
    unfold perform
    refine ⟨fun h => ?_, nofun, fun hnot => absurd trivial hnot⟩
    unfold Table.contains at h ⊢
    rw [get?_expireParkingAttempts] at h
    split at h
    · cases h
    · exact .inl h
  | prepareParking now call' enabled lot deadline =>
    unfold perform
    dsimp only
    rcases parks_prepareParking (s := s) now call' enabled lot deadline with
      ⟨hbegun, hparks⟩ | ⟨hbegun, pending, hparks⟩
    · rw [hbegun, hsame hparks]
      exact ⟨.inl, nofun, fun _ h => h⟩
    · rw [hbegun, hparks, Table.contains_insert, List.mem_singleton]
      rw [Bool.or_eq_true_iff, decide_eq_true_iff]
      exact ⟨Or.symm, .inl, fun _ h => .inr h⟩
  | prepareParkingRetrieval now call' binding codec lot slot info deadline =>
    unfold perform
    dsimp only
    rw [hsame (parks_prepareParkingRetrieval now call' binding codec lot slot info deadline)]
    exact ⟨.inl, nofun, fun _ h => h⟩

/-- What a command owes the pending parks. -/
structure Correlates (s : ParkingController) (command : ParkingCommand) : Prop where
  /-- An event settles an attempt that has recorded its channel, and no other. -/
  exact : ∀ event retriever deadline, command = .applyParkingEvent event retriever deadline →
    settlesParks event = true → ∀ call attempt, s.parking.parks.get? call = some attempt →
      attempt.parkeeUniqueId = some event.parkeeUniqueId → ∀ call',
        (s.perform command).parking.parks.contains call'
          = (decide (call' ≠ call) && s.parking.parks.contains call')
  /-- It settles an attempt without a channel only when none has recorded its channel, and only
      for a lot that the attempt allows. -/
  wildcard : ∀ event retriever deadline, command = .applyParkingEvent event retriever deadline →
    ∀ call attempt, s.parking.parks.get? call = some attempt → attempt.parkeeUniqueId = none →
      (s.perform command).parking.parks.contains call = false →
        (∀ call' attempt', s.parking.parks.get? call' = some attempt' →
            attempt'.parkeeUniqueId ≠ some event.parkeeUniqueId)
          ∧ attempt.requestedLot.all (· = event.lot) = true
  /-- Nothing else settles a park than an event, a failure of its own call or its deadline,
      which always does; -/
  cause : ∀ call, s.parking.parks.contains call = true →
    (s.perform command).parking.parks.contains call = false → Settling command
  failed : ∀ pbxId lot deadline, command = .failParkingOperation (.park pbxId lot) deadline →
    ∀ call attempt, s.parking.parks.get? call = some attempt →
      (s.perform command).parking.parks.contains call = false → attempt.pbxId = pbxId
  expired : ∀ now deadline, command = .expireParkingAttempts now deadline →
    ∀ call attempt, s.parking.parks.get? call = some attempt →
      ((s.perform command).parking.parks.contains call = false ↔ attempt.deadline ≤ now)
  /-- and publishing just those whose call has ended. -/
  ended : ∀ call, (s.perform command).parking.parks.contains call = true →
    ((s.execute command).parking.parks.contains call = false
      ↔ (s.perform command).controller.bySccp.contains call = false)

/-- What a command must find: an attempt that has recorded the channel of an event is the only
    one, and due before every attempt that has not learned its channel and allows the lot; and a
    call that is parked has no attempt pending. -/
def Unambiguous (s : ParkingController) : ParkingCommand → Prop
  | .applyParkingEvent event _ _ => settlesParks event = true →
      ∀ call attempt, s.parking.parks.get? call = some attempt →
        attempt.parkeeUniqueId = some event.parkeeUniqueId →
          ∀ call' attempt', s.parking.parks.get? call' = some attempt' → call' ≠ call →
            matchesPark event attempt' = true →
              attempt'.parkeeUniqueId = none ∧ Sooner (call, attempt) (call', attempt')
  | .prepareParking now call enabled lot deadline =>
    call ∈ s.begun (.prepareParking now call enabled lot deadline) →
      s.parking.parks.contains call = false
  | _ => True

/-- Where an event finds the attempt of its own channel the earliest, it settles that one. -/
theorem matchingPark_recorded (hget : s.parking.parks.get? call = some attempt)
    (hrecorded : attempt.parkeeUniqueId = some event.parkeeUniqueId)
    (hfirst : ∀ call' attempt', s.parking.parks.get? call' = some attempt' → call' ≠ call →
      matchesPark event attempt' = true → Sooner (call, attempt) (call', attempt')) :
    s.matchingPark event = some (call, attempt) := by
  have hmatches := matchesPark_recorded hrecorded
  rcases hfound : s.matchingPark event with _ | ⟨call', attempt'⟩
  · have hnot := matchingPark_none hfound hget
    rw [hmatches] at hnot
    cases hnot
  obtain ⟨hget', hmatches', hleast⟩ := matchingPark_some hfound
  by_cases hcall : call' = call
  · rw [hcall, hget] at hget'
    rw [hcall, Option.some.inj hget']
  · exact absurd ((hleast call attempt hget hmatches).antisymm
      (hfirst call' attempt' hget' hcall hmatches')) hcall

theorem Unambiguous.matchingPark {retriever : Option CallId} {deadline : Instant}
    (h : s.Unambiguous (.applyParkingEvent event retriever deadline))
    (hsettles : settlesParks event = true) (hget : s.parking.parks.get? call = some attempt)
    (hrecorded : attempt.parkeeUniqueId = some event.parkeeUniqueId) :
    s.matchingPark event = some (call, attempt) :=
  matchingPark_recorded hget hrecorded fun call' attempt' hget' hcall hmatches =>
    (h hsettles call attempt hget hrecorded call' attempt' hget' hcall hmatches).2

theorem correlates_of_unambiguous {command : ParkingCommand} (h : s.Unambiguous command) :
    s.Correlates command where
  exact := by
    rintro event retriever deadline rfl hsettles call attempt hget hrecorded call'
    have hfound := h.matchingPark hsettles hget hrecorded
    have hparks := parks_applyParkingEvent (s := s) retriever deadline hsettles
    rw [hfound] at hparks
    unfold perform
    dsimp only
    rw [hparks, Table.contains_erase]
  wildcard := by
    rintro event retriever deadline rfl call attempt hget hnone hgone
    have hpresent : s.parking.parks.contains call = true := Table.contains_iff.mpr ⟨attempt, hget⟩
    have hsettles : settlesParks event = true := by
      by_contra hnot
      have hkept := (contains_perform (.applyParkingEvent event retriever deadline) call).2.2
        hnot hpresent
      rw [hgone] at hkept
      cases hkept
    have hparks := parks_applyParkingEvent (s := s) retriever deadline hsettles
    unfold perform at hgone
    dsimp only at hgone
    rw [hparks] at hgone
    split at hgone
    · rw [hpresent] at hgone
      cases hgone
    next taken takenAttempt hfound =>
    rw [Table.contains_erase, hpresent, Bool.and_true, decide_eq_false_iff_not, not_not] at hgone
    obtain ⟨hget', hmatches, -⟩ := matchingPark_some hfound
    rw [← hgone, hget] at hget'
    cases hget'
    refine ⟨fun call' attempt' hget' hrecorded => ?_, ?_⟩
    · have hexact := h.matchingPark hsettles hget' hrecorded
      rw [hfound] at hexact
      cases hexact
      rw [hnone] at hrecorded
      cases hrecorded
    · unfold matchesPark at hmatches
      rw [hnone] at hmatches
      exact hmatches
  cause := by
    intro call hpresent hgone
    by_contra hnot
    have hkept := (contains_perform command call).2.2 hnot hpresent
    rw [hgone] at hkept
    cases hkept
  failed := by
    rintro pbxId lot deadline rfl call attempt hget hgone
    have hpresent : s.parking.parks.contains call = true := Table.contains_iff.mpr ⟨attempt, hget⟩
    unfold perform at hgone
    dsimp only at hgone
    rcases parks_failParkingOperation (s := s) (.park pbxId lot) deadline with
      hparks | ⟨pbxId', lot', call', pending, hop, hpending, hpbx, hparks⟩
    · rw [hparks, hpresent] at hgone
      cases hgone
    rw [hparks, Table.contains_erase, hpresent, Bool.and_true, decide_eq_false_iff_not,
      not_not] at hgone
    cases hop
    rw [← hgone, hget] at hpending
    cases hpending
    exact hpbx
  expired := by
    rintro now deadline rfl call attempt hget
    unfold perform Table.contains
    dsimp only
    rw [get?_expireParkingAttempts, hget]
    by_cases hdue : attempt.deadline ≤ now
    · simp [hdue]
    · simp [hdue]
  ended := by
    intro call hpresent
    unfold execute Table.contains
    rw [get?_retire]
    obtain ⟨attempt, hget⟩ := Table.contains_iff.mp hpresent
    rw [hget]
    change _ ↔ (s.perform command).controller.bySccp.contains call = false
    cases (s.perform command).controller.bySccp.contains call with
    | true => simp
    | false => simp

/-- An event correlates only where the attempt of its own channel is the earliest. -/
theorem Correlates.unambiguous {retriever : Option CallId} {deadline : Instant}
    (h : s.Correlates (.applyParkingEvent event retriever deadline)) :
    s.Unambiguous (.applyParkingEvent event retriever deadline) := by
  intro hsettles call attempt hget hrecorded call' attempt' hget' hcall hmatches'
  have hexact := h.exact event retriever deadline rfl hsettles
  have hpresent : s.parking.parks.contains call = true := Table.contains_iff.mpr ⟨attempt, hget⟩
  have hpresent' : s.parking.parks.contains call' = true :=
    Table.contains_iff.mpr ⟨attempt', hget'⟩
  have hgone := hexact call attempt hget hrecorded call
  rw [hpresent, Bool.and_true, decide_eq_false (not_not.mpr rfl)] at hgone
  unfold perform at hgone
  dsimp only at hgone
  rw [parks_applyParkingEvent retriever deadline hsettles] at hgone
  split at hgone
  · rw [hpresent] at hgone
    cases hgone
  next taken takenAttempt hfound =>
  rw [Table.contains_erase, hpresent, Bool.and_true, decide_eq_false_iff_not, not_not] at hgone
  obtain ⟨hget'', -, hleast⟩ := matchingPark_some hfound
  rw [← hgone, hget] at hget''
  cases hget''
  refine ⟨?_, hgone ▸ hleast call' attempt' hget' hmatches'⟩
  -- a second attempt with the channel would have to be settled as well
  rcases hid : attempt'.parkeeUniqueId with _ | id
  · rfl
  unfold matchesPark at hmatches'
  rw [hid] at hmatches'
  have hid' : attempt'.parkeeUniqueId = some event.parkeeUniqueId := by
    rw [hid, of_decide_eq_true hmatches']
  have hother := hexact call attempt hget hrecorded call'
  have hself := hexact call' attempt' hget' hid' call'
  rw [hself, hpresent', Bool.and_true, Bool.and_true, decide_eq_true hcall,
    decide_eq_false (not_not.mpr rfl)] at hother
  cases hother

end ParkingController

/-! ## Histories -/

/-- The owner with the attempts that have begun and those that have been settled. -/
structure ParkingHistory where
  owner : ParkingController
  begun : List CallId := []
  settled : List CallId := []

namespace ParkingHistory

open ParkingController

/-- The pending parks of one state that are gone in another. -/
def gone (s s' : ParkingController) : List CallId :=
  s.parking.parks.keys.filter fun call => !s'.parking.parks.contains call

/-- One command of the owner: what it settles itself, and what publishing settles after it. -/
def step (h : ParkingHistory) (command : ParkingCommand) : ParkingHistory where
  owner := h.owner.execute command
  begun := h.begun ++ h.owner.begun command
  settled := h.settled ++ gone h.owner (h.owner.perform command)
    ++ gone (h.owner.perform command) (h.owner.execute command)

/-- Every attempt that has begun is pending or has been settled, and settled once. -/
def Balanced (h : ParkingHistory) : Prop :=
  ∀ call, h.begun.count call
    = h.settled.count call + if h.owner.parking.parks.contains call then 1 else 0

theorem count_gone (s s' : ParkingController) (call : CallId) : (gone s s').count call
    = if s.parking.parks.contains call && !s'.parking.parks.contains call then 1 else 0 := by
  have hnodup : (gone s s').Nodup := s.parking.parks.nodup.filter _
  rw [hnodup.count]
  have hmem : call ∈ gone s s'
      ↔ (s.parking.parks.contains call && !s'.parking.parks.contains call) = true := by
    rw [gone, List.mem_filter, Bool.and_eq_true_iff, Table.mem_keys, Table.contains_iff]
  simp only [hmem]

theorem count_begun_le (s : ParkingController) (command : ParkingCommand) (call : CallId) :
    (s.begun command).count call = if call ∈ s.begun command then 1 else 0 := by
  have hnodup : (s.begun command).Nodup := by
    unfold ParkingController.begun
    split
    · split
      · exact List.nodup_singleton _
      · exact List.nodup_nil
    · exact List.nodup_nil
  exact hnodup.count

/-- What a command adds to the attempts of a call that have begun and have been settled. -/
theorem count_step (h : ParkingHistory) (command : ParkingCommand) (call : CallId) :
    (h.step command).begun.count call
        = h.begun.count call + (if call ∈ h.owner.begun command then 1 else 0)
      ∧ (h.step command).settled.count call + (if (h.step command).owner.parking.parks.contains
            call then 1 else 0) = h.settled.count call
          + (if h.owner.parking.parks.contains call || call ∈ h.owner.begun command then 1
            else 0) := by
  obtain ⟨hback, hbegun, -⟩ := contains_perform (s := h.owner) command call
  have hretired : (h.owner.execute command).parking.parks.contains call = true →
      (h.owner.perform command).parking.parks.contains call = true := by
    unfold execute Table.contains
    rw [get?_retire]
    split
    · exact id
    · nofun
  refine ⟨?_, ?_⟩
  · rw [step, List.count_append, count_begun_le]
  change (h.settled ++ gone h.owner (h.owner.perform command)
    ++ gone (h.owner.perform command) (h.owner.execute command)).count call
      + (if (h.owner.execute command).parking.parks.contains call then 1 else 0) = _
  rw [List.count_append, List.count_append, count_gone, count_gone]
  generalize (h.owner.execute command).parking.parks.contains call = executed at hretired ⊢
  generalize (h.owner.perform command).parking.parks.contains call = performed
    at hback hbegun hretired ⊢
  cases performed with
  | true =>
    have hbefore : (h.owner.parking.parks.contains call
        || decide (call ∈ h.owner.begun command)) = true := by
      rw [Bool.or_eq_true_iff, decide_eq_true_iff]
      exact hback rfl
    rw [if_pos hbefore]
    cases executed <;> simp
  | false =>
    have hexecuted : executed = false := Bool.eq_false_iff.mpr fun h => nomatch hretired h
    have hnew : call ∉ h.owner.begun command := fun h => nomatch hbegun h
    rw [hexecuted, decide_eq_false hnew]
    simp

/-- What a run owes the pending parks: every command correlates, and every attempt is settled
    once. -/
def Settles (h : ParkingHistory) (commands : List ParkingCommand) : Prop :=
  Runs.Each step (fun h command => h.owner.Correlates command) h commands
    ∧ Runs.Always step Balanced h commands

theorem Balanced.step {h : ParkingHistory} (hb : h.Balanced) {command : ParkingCommand}
    (hu : h.owner.Unambiguous command) : (h.step command).Balanced := by
  intro call
  obtain ⟨hbegun, hsettled⟩ := count_step h command call
  rw [hsettled, hbegun, hb call]
  by_cases hnew : call ∈ h.owner.begun command
  · have hfree : h.owner.parking.parks.contains call = false := by
      unfold ParkingController.begun at hnew
      split at hnew
      · next now call' enabled lot deadline =>
        have hcall : call = call' := by
          split at hnew
          · exact List.mem_singleton.mp hnew
          · cases hnew
        subst hcall
        exact hu hnew
      · cases hnew
    simp [hnew, hfree]
  · simp [hnew]

/-- A command that parks a call again before its attempt is settled loses an attempt. -/
theorem Balanced.unambiguous {h : ParkingHistory} (hb : h.Balanced) {command : ParkingCommand}
    (hstep : (h.step command).Balanced) {call : CallId} (hnew : call ∈ h.owner.begun command) :
    h.owner.parking.parks.contains call = false := by
  obtain ⟨hbegun, hsettled⟩ := count_step h command call
  have hbefore := hb call
  have hafter := hstep call
  rw [hsettled, hbegun] at hafter
  by_contra hpending
  simp only [hnew, Bool.not_eq_false] at hpending hafter
  simp only [hpending, if_true, Bool.true_or] at hbefore hafter
  omega

/-- Along a run of the owner the events correlate and every pending park is settled once just
    when every event finds the attempt of its own channel first, and no call is parked that has
    an attempt pending. -/
theorem settles_iff_unambiguous (controller : Controller) (commands : List ParkingCommand) :
    Settles { owner := { controller } } commands
      ↔ Runs.Each step (fun h command => h.owner.Unambiguous command)
          { owner := { controller } } commands := by
  have hstart : Balanced { owner := { controller } } := fun _ => rfl
  generalize ({ owner := { controller } } : ParkingHistory) = h at hstart
  constructor
  · rintro ⟨hcorrelates, hbalanced⟩
    induction commands generalizing h with
    | nil => trivial
    | cons command rest ih =>
      have hnext := hbalanced.2.head
      refine ⟨?_, ih _ hnext hcorrelates.2 hbalanced.2⟩
      cases command with
      | applyParkingEvent event retriever deadline => exact hcorrelates.1.unambiguous
      | prepareParking now call enabled lot deadline => exact hstart.unambiguous hnext
      | _ => trivial
  · intro heach
    exact ⟨heach.mono fun h command hu => correlates_of_unambiguous hu,
      Runs.always_of_each (I := Balanced) (fun _ hb => hb) (fun _ _ hb hu => hb.step hu) hstart
        heach⟩

/-- Two parks pending at once, of which the later one has learned its channel. -/
def twoParks : List ParkingCommand :=
  [.control (.operate (Sample.register Sample.desk)),
    .control (.operate (Sample.register Sample.lobby)),
    .control (.operate (.offerInboundCallWithPolicy ⟨7⟩
      [{ callId := ⟨1⟩, binding := Sample.binding Sample.desk, codec := Sample.codec }])),
    .control (.operate (.phoneAnswer ⟨1⟩)),
    .control (.operate (.offerInboundCallWithPolicy ⟨8⟩
      [{ callId := ⟨2⟩, binding := Sample.binding Sample.lobby, codec := Sample.codec }])),
    .control (.operate (.phoneAnswer ⟨2⟩)),
    .prepareParking 0 ⟨1⟩ true none 5,
    .prepareParking 0 ⟨2⟩ true none 6,
    .setParkPeer ⟨8⟩ "peer"]

/-- The event of the second park settles the first. -/
theorem not_settles_two_parks : ¬ Settles { owner := { controller := .withDigitTimeouts 5 5 } }
    (twoParks ++ [.applyParkingEvent
      { kind := .parked, lot := "default", slot := 701, parkeeUniqueId := "peer" } none 9]) := by
  intro h
  have hlast := (Runs.each_append.mp h.1).2.1
  have hpending : ((Runs.run step { owner := { controller := .withDigitTimeouts 5 5 } }
      twoParks).owner.parking.parks.get? ⟨2⟩).any (·.parkeeUniqueId = some "peer") = true := by
    decide
  obtain ⟨attempt, hget, hrecorded⟩ := (Option.any_eq_true _ _).mp hpending
  have hother := hlast.exact _ _ _ rfl rfl ⟨2⟩ attempt hget (of_decide_eq_true hrecorded) ⟨1⟩
  exact absurd hother (by decide)

end ParkingHistory

end Sccp
