/-
  Sccp.Safety.NoAnswer

  No-answer routes over every interleaving.  A timer is returned once and
  completes once, since its id is issued once, it never becomes pending again
  and its commit removes it.  A late `finish_no_answer_route` still releases the
  redirect claim of its call, whoever holds it.
-/

import Sccp.Controller.Routing

namespace Sccp

namespace Routing

open NoAnswerTimerRegistry (Settles)

variable (s : Routing)
variable {c : PbxCallId} {i : NoAnswerTimerId}

/-! ## Timers along a run -/

theorem settles_cancelTimer (c : PbxCallId) (i : NoAnswerTimerId) :
    s.noAnswerTimers.Settles (s.cancelTimer c i).noAnswerTimers := by
  unfold cancelTimer
  split
  · exact .refl _
  · next r _ h => exact NoAnswerTimerRegistry.settles_removeIf h

theorem settles_routeEach (timers : List NoAnswerTimer) :
    s.noAnswerTimers.Settles (s.routeEach timers).1.noAnswerTimers := by
  induction timers generalizing s with
  | nil => exact .refl _
  | cons timer rest ih =>
    simp only [routeEach]
    split
    · exact (s.settles_cancelTimer ..).trans (ih _)
    · next controller _ => exact ih { s with controller }

theorem settles_claimNoAnswerRoutes (now : Instant) :
    s.noAnswerTimers.Settles (s.claimNoAnswerRoutes now).1.noAnswerTimers :=
  (s.noAnswerTimers.settles_claimExpired now).trans (settles_routeEach
    { s with noAnswerTimers := (s.noAnswerTimers.claimExpired now).1 } _)

theorem settles_finishNoAnswerRoute (c : PbxCallId) (i : NoAnswerTimerId) (succeeded : Bool) :
    s.noAnswerTimers.Settles (s.finishNoAnswerRoute c i succeeded).1.noAnswerTimers := by
  unfold finishNoAnswerRoute
  split
  · exact settles_cancelTimer
      { s with controller := (s.controller.rollbackRingingForward c).1 } c i
  · split
    · exact .refl _
    · next r _ h => exact NoAnswerTimerRegistry.settles_removeIf h

theorem settles_cancelNoAnswerTimer (c : PbxCallId) :
    s.noAnswerTimers.Settles (s.cancelNoAnswerTimer c).1.noAnswerTimers := by
  unfold cancelNoAnswerTimer
  split
  · exact .refl _
  · split
    · exact .refl _
    · next r _ h => exact NoAnswerTimerRegistry.settles_removeIf h

theorem settles_retireCallRuntime (c : PbxCallId) :
    s.noAnswerTimers.Settles (s.retireCallRuntime c).noAnswerTimers := by
  unfold retireCallRuntime clearNoAnswerRoute
  split
  · exact .refl _
  · exact settles_cancelTimer { s with callRuntime := s.callRuntime.erase c } c _

theorem settles_retireEach (calls : List PbxCallId) :
    s.noAnswerTimers.Settles (s.retireEach calls).noAnswerTimers := by
  induction calls generalizing s with
  | nil => exact .refl _
  | cons c rest ih => exact (s.settles_retireCallRuntime c).trans (ih _)

theorem callRuntimeMut_timers {s' : Routing} (h : s.callRuntimeMut c = some s') :
    s'.noAnswerTimers = s.noAnswerTimers := by
  unfold callRuntimeMut at h
  split at h
  · cases h
    rfl
  split at h
  · cases h
    rfl
  · cases h

/-- An event schedules one new timer, or only settles timers. -/
theorem handle_timers (e : RoutingEvent) : s.noAnswerTimers.Settles (s.handle e).noAnswerTimers
      ∨ ∃ c deadline context destination t, s.noAnswerTimers.schedule c deadline context destination
          = .ok ((s.handle e).noAnswerTimers, t) := by
  cases e with
  | control event => exact .inl (.refl _)
  | touch c =>
    refine .inl ?_
    simp only [handle]
    cases h : s.callRuntimeMut c with
    | none => exact .refl _
    | some s' =>
      show s.noAnswerTimers.Settles s'.noAnswerTimers
      rw [s.callRuntimeMut_timers h]
      exact .refl _
  | registerForwardedCall c =>
    refine .inl ?_
    simp only [handle, registerForwardedCall]
    split <;> exact .refl _
  | schedule c deadline context destination =>
    simp only [handle, scheduleNoAnswerTimer]
    cases h : s.callRuntimeMut c with
    | none => exact .inl (.refl _)
    | some s' =>
      have htimers := s.callRuntimeMut_timers h
      simp only
      cases hs : s'.noAnswerTimers.schedule c deadline context destination with
      | error rejection =>
        refine .inl ?_
        show s.noAnswerTimers.Settles s'.noAnswerTimers
        rw [htimers]
        exact .refl _
      | ok result =>
        rw [htimers] at hs
        exact .inr ⟨c, deadline, context, destination, result.2, hs⟩
  | claimRoutes now => exact .inl (s.settles_claimNoAnswerRoutes now)
  | finishRoute c i succeeded => exact .inl (s.settles_finishNoAnswerRoute c i succeeded)
  | cancelTimer c => exact .inl (s.settles_cancelNoAnswerTimer c)
  | retireCall c => exact .inl (s.settles_retireCallRuntime c)
  | retireEnded => exact .inl (s.settles_retireEach _)

theorem sound_handle (e : RoutingEvent) (h : s.noAnswerTimers.Sound) :
    (s.handle e).noAnswerTimers.Sound := by
  rcases s.handle_timers e with hs | ⟨c, deadline, context, destination, t, hs⟩
  · exact hs.sound h
  · exact NoAnswerTimerRegistry.sound_schedule h hs

/-! ## Once for each timer -/

/-- A timer that a later event may return: it is pending or not yet issued. -/
def Returnable (i : NoAnswerTimerId) : Prop :=
  (∃ c t, s.noAnswerTimers.get c = some t ∧ t.id = i ∧ t.phase = .pending)
    ∨ s.noAnswerTimers.nextId < i.val

/-- A timer that a later event may complete: it is stored or not yet issued. -/
def Completable (i : NoAnswerTimerId) : Prop :=
  (∃ c t, s.noAnswerTimers.get c = some t ∧ t.id = i) ∨ s.noAnswerTimers.nextId < i.val

/-- A timer of a registry with a new timer is the new one, with a new id, or an
    old one. -/
theorem schedule_get {r r' : NoAnswerTimerRegistry} {deadline : Instant}
    {context : ForwardingContext} {destination : ForwardingDestination} {t : NoAnswerTimer}
    (h : r.schedule c deadline context destination = .ok (r', t)) : r'.nextId = r.nextId + 1
      ∧ ∀ x u, r'.get x = some u → u.id.val = r.nextId + 1 ∨ r.get x = some u := by
  unfold NoAnswerTimerRegistry.schedule at h
  split at h
  · cases h
  split at h
  · cases h
  cases h
  refine ⟨rfl, fun x u hu => ?_⟩
  simp only [NoAnswerTimerRegistry.get, Table.get?_insert] at hu
  split at hu
  · cases hu
    exact .inl rfl
  · exact .inr hu

theorem returnable_back (e : RoutingEvent) (h : (s.handle e).Returnable i) : s.Returnable i := by
  rcases s.handle_timers e with hs | ⟨c, deadline, context, destination, t, hs⟩
  · rcases h with ⟨x, u, hu, rfl, hp⟩ | hnew
    · obtain ⟨v, hv, hid, _, hphase⟩ := hs.kept x u hu
      exact .inl ⟨x, v, hv, hid.symm, hphase hp⟩
    · exact .inr (hs.nextId ▸ hnew)
  obtain ⟨hnext, hget⟩ := schedule_get hs
  rcases h with ⟨x, u, hu, rfl, hp⟩ | hnew
  · rcases hget x u hu with hid | hold
    · refine .inr ?_
      rw [hid]
      exact Nat.lt_succ_self _
    · exact .inl ⟨x, u, hold, rfl, hp⟩
  · refine .inr ?_
    rw [hnext] at hnew
    omega

theorem completable_back (e : RoutingEvent) (h : (s.handle e).Completable i) : s.Completable i := by
  rcases s.handle_timers e with hs | ⟨c, deadline, context, destination, t, hs⟩
  · rcases h with ⟨x, u, hu, rfl⟩ | hnew
    · obtain ⟨v, hv, hid, _⟩ := hs.kept x u hu
      exact .inl ⟨x, v, hv, hid.symm⟩
    · exact .inr (hs.nextId ▸ hnew)
  obtain ⟨hnext, hget⟩ := schedule_get hs
  rcases h with ⟨x, u, hu, rfl⟩ | hnew
  · rcases hget x u hu with hid | hold
    · refine .inr ?_
      rw [hid]
      exact Nat.lt_succ_self _
    · exact .inl ⟨x, u, hold, rfl⟩
  · refine .inr ?_
    rw [hnext] at hnew
    omega

/-- The routes are some of the claimed timers, in their order. -/
theorem routeEach_sublist (timers : List NoAnswerTimer) :
    ((s.routeEach timers).2.map (·.1)).Sublist timers := by
  induction timers generalizing s with
  | nil => exact List.Sublist.slnil
  | cons timer rest ih =>
    simp only [routeEach]
    split
    · exact (ih _).cons _
    · exact (ih _).cons_cons _

theorem returned_sublist (now : Instant) :
    (s.returned (.claimRoutes now)).Sublist ((s.noAnswerTimers.claimExpired now).2.map (·.id)) := by
  have h := (routeEach_sublist { s with noAnswerTimers := (s.noAnswerTimers.claimExpired now).1 }
    (s.noAnswerTimers.claimExpired now).2).map (·.id)
  rw [List.map_map] at h
  exact h

theorem returned_oneShot :
    Runs.OneShot handle returned (fun s => s.noAnswerTimers.Sound) Returnable where
  keeps := fun s e => s.sound_handle e
  nodup := by
    intro s e hs
    cases e with
    | claimRoutes now =>
      exact (NoAnswerTimerRegistry.claimExpired_nodup hs now).sublist (s.returned_sublist now)
    | _ => exact List.nodup_nil
  stored := by
    intro s e i hs hi
    cases e with
    | claimRoutes now =>
      obtain ⟨t, ht, rfl⟩ := List.mem_map.mp ((s.returned_sublist now).subset hi)
      obtain ⟨⟨u, hu, hphase, hid⟩, _⟩ := NoAnswerTimerRegistry.claimExpired_mem hs ht
      exact .inl ⟨t.callId, u, hu, hid, hphase⟩
    | _ => cases hi
  spent := by
    intro s e i hs hi
    cases e with
    | claimRoutes now =>
      obtain ⟨t, ht, rfl⟩ := List.mem_map.mp ((s.returned_sublist now).subset hi)
      obtain ⟨_, hstored, hclaimed⟩ := NoAnswerTimerRegistry.claimExpired_mem hs ht
      have hsound := (s.noAnswerTimers.settles_claimExpired now).sound hs
      have hroute := settles_routeEach
        { s with noAnswerTimers := (s.noAnswerTimers.claimExpired now).1 }
        (s.noAnswerTimers.claimExpired now).2
      -- a pending timer with this id would have been pending among the claimed ones
      rintro (⟨x, u, hu, hid, hp⟩ | hnew)
      · obtain ⟨v, hv, hvid, _, hvp⟩ := hroute.kept x u hu
        have hx := hsound.single _ _ _ _ hv hstored (hvid.symm.trans hid)
        subst hx
        cases hv.symm.trans hstored
        rw [hvp hp] at hclaimed
        cases hclaimed
      have hle := hsound.issued _ _ hstored
      have hnext : (s.handle (.claimRoutes now)).noAnswerTimers.nextId
          = (s.noAnswerTimers.claimExpired now).1.nextId := hroute.nextId
      rw [hnext] at hnew
      exact absurd hnew (Nat.not_lt.mpr hle)
    | _ => cases hi
  back := fun s e _ _ => s.returnable_back e

/-- A completed timer was stored as claimed, and its commit removes it. -/
theorem completed_mem {e : RoutingEvent} (h : i ∈ s.completed e) :
    ∃ c t, e = .finishRoute c i true ∧ s.noAnswerTimers.get c = some t ∧ t.id = i
      ∧ (s.handle e).noAnswerTimers
        = { s.noAnswerTimers with byCall := s.noAnswerTimers.byCall.erase c } := by
  unfold completed at h
  split at h
  · next c j =>
    split at h
    · cases h
    next result hc =>
    cases List.mem_singleton.mp h
    obtain ⟨hget, hp, hr⟩ := NoAnswerTimerRegistry.removeIf_ok hc
    refine ⟨c, result.2, rfl, hget, (of_decide_eq_true hp).1, ?_⟩
    simp only [handle, finishNoAnswerRoute, Bool.not_true, Bool.false_eq_true, if_false]
    rw [show s.noAnswerTimers.commit c i = .ok result from hc]
    exact hr
  · cases h

theorem completed_oneShot :
    Runs.OneShot handle completed (fun s => s.noAnswerTimers.Sound) Completable where
  keeps := fun s e => s.sound_handle e
  nodup := by
    intro s e _
    unfold completed
    split
    · split
      · exact List.nodup_nil
      · exact List.nodup_singleton _
    · exact List.nodup_nil
  stored := by
    intro s e i _ hi
    obtain ⟨c, t, _, hget, hid, _⟩ := s.completed_mem hi
    exact .inl ⟨c, t, hget, hid⟩
  spent := by
    intro s e i hs hi
    obtain ⟨c, t, _, hget, hid, hafter⟩ := s.completed_mem hi
    unfold Completable
    rw [hafter]
    rintro (⟨x, u, hu, hid'⟩ | hnew)
    · rw [NoAnswerTimerRegistry.get_erase] at hu
      split at hu
      · cases hu
      · next hx => exact hx (hs.single x c u t hu hget (hid'.trans hid.symm))
    · have hle := hs.issued c t hget
      rw [hid] at hle
      exact absurd hnew (Nat.not_lt.mpr hle)
  back := fun s e _ _ => s.completable_back e

/-! ## Late reports -/

/-- The timer of a call whose route is being tried. -/
def Current (c : PbxCallId) (i : NoAnswerTimerId) : Prop :=
  ∃ t, s.noAnswerTimers.get c = some t ∧ t.id = i ∧ t.phase = .claimed

theorem without_eq_self {α : Type*} [DecidableEq α] {l : List α} {a : α} :
    without l a = l ↔ a ∉ l := by
  constructor
  · intro h ha
    rw [← h] at ha
    exact (mem_without.mp ha).2 rfl
  intro ha
  refine List.filter_eq_self.mpr fun b hb => ?_
  simp only [ne_eq, decide_not, Bool.not_eq_true', decide_eq_false_iff_not]
  rintro rfl
  exact ha hb

/-- The controller after a rollback is the same if there was no claim. -/
theorem rollback_eq_self {s : Controller} :
    (s.rollbackRingingForward c).1 = s ↔ c ∉ s.redirectClaims := by
  constructor
  · intro h
    exact without_eq_self.mp (congrArg Controller.redirectClaims h)
  · intro h
    simp only [Controller.rollbackRingingForward, without_eq_self.mpr h]

theorem cancelTimer_eq_self :
    s.cancelTimer c i = s ↔ ∀ t, s.noAnswerTimers.get c = some t → t.id ≠ i := by
  unfold cancelTimer
  cases h : s.noAnswerTimers.cancel c i with
  | error e =>
    simp only [true_iff]
    intro t ht hid
    simp [NoAnswerTimerRegistry.cancel, NoAnswerTimerRegistry.removeIf, ht, hid, Option.filter] at h
  | ok result =>
    obtain ⟨hget, hp, hr⟩ := NoAnswerTimerRegistry.removeIf_ok
      (show s.noAnswerTimers.removeIf c _ = .ok (result.1, result.2) from h)
    refine ⟨fun heq => ?_, fun hne => absurd (of_decide_eq_true hp) (hne _ hget)⟩
    have hsame : result.1 = s.noAnswerTimers := congrArg Routing.noAnswerTimers heq
    rw [hr] at hsame
    have hgone := s.noAnswerTimers.get_erase c c
    rw [hsame, if_pos rfl, hget] at hgone
    cases hgone

/-- A report for a timer that is not being tried emits nothing and removes no
    call; it changes nothing at all exactly if its call is not claimed and it
    does not report the failure of the call's own timer. -/
theorem finish_stale (h : ¬ s.Current c i) (succeeded : Bool) :
    (s.finishNoAnswerRoute c i succeeded).2 = []
      ∧ (s.finishNoAnswerRoute c i succeeded).1.controller.pbx = s.controller.pbx
      ∧ (s.finishNoAnswerRoute c i succeeded = (s, []) ↔ c ∉ s.controller.redirectClaims
          ∧ (succeeded = true ∨ ∀ t, s.noAnswerTimers.get c = some t → t.id ≠ i)) := by
  cases succeeded with
  | false =>
    have hpbx : ∀ s' : Routing, (s'.cancelTimer c i).controller = s'.controller := by
      intro s'
      unfold cancelTimer
      split <;> rfl
    simp only [finishNoAnswerRoute, Bool.not_false, if_true, Bool.false_eq_true, false_or]
    refine ⟨trivial, ?_, ?_⟩
    · rw [hpbx]
      rfl
    rw [Prod.mk.injEq, and_iff_left rfl]
    constructor
    · intro heq
      have hroll := congrArg Routing.controller heq
      rw [hpbx] at hroll
      have hclaim := rollback_eq_self.mp hroll
      refine ⟨hclaim, s.cancelTimer_eq_self.mp ?_⟩
      rw [show (s.controller.rollbackRingingForward c).1 = s.controller from hroll] at heq
      exact heq
    · rintro ⟨hclaim, htimer⟩
      rw [rollback_eq_self.mpr hclaim]
      exact s.cancelTimer_eq_self.mpr htimer
  | true =>
    have hcommit : ∃ e, s.noAnswerTimers.commit c i = .error e := by
      cases hc : s.noAnswerTimers.commit c i with
      | error e => exact ⟨e, rfl⟩
      | ok result =>
        obtain ⟨hget, hp, _⟩ := NoAnswerTimerRegistry.removeIf_ok
          (show s.noAnswerTimers.removeIf c _ = .ok (result.1, result.2) from hc)
        obtain ⟨hid, hphase⟩ := of_decide_eq_true hp
        exact absurd ⟨result.2, hget, hid, hphase⟩ h
    obtain ⟨e, he⟩ := hcommit
    simp only [finishNoAnswerRoute, Bool.not_true, Bool.false_eq_true, if_false, he, true_or,
      and_true]
    refine ⟨trivial, rfl, ?_⟩
    rw [Prod.mk.injEq, and_iff_left rfl]
    constructor
    · intro heq
      exact rollback_eq_self.mp (congrArg Routing.controller heq)
    · intro hclaim
      rw [rollback_eq_self.mpr hclaim]

/-! ## Runs -/

theorem sound_init (firstDigit interdigit : Duration) :
    (init firstDigit interdigit).noAnswerTimers.Sound :=
  ⟨fun _ _ h => (by cases h), fun _ _ h => (by cases h), fun _ _ _ _ h => (by cases h)⟩

/-- Over every run: a timer is returned at most once and completes at most once,
    and a late report emits nothing, removes no call, and changes nothing
    exactly if nobody has claimed its call and it does not fail the call's own
    timer. -/
theorem no_answer_routing (firstDigit interdigit : Duration) (events : List RoutingEvent) :
    let s := Runs.run handle (init firstDigit interdigit) events
    (Runs.outputs handle returned (init firstDigit interdigit) events).Nodup
      ∧ (Runs.outputs handle completed (init firstDigit interdigit) events).Nodup
      ∧ ∀ c i succeeded, ¬ s.Current c i → (s.finishNoAnswerRoute c i succeeded).2 = []
        ∧ (s.finishNoAnswerRoute c i succeeded).1.controller.pbx = s.controller.pbx
        ∧ (s.finishNoAnswerRoute c i succeeded = (s, []) ↔ c ∉ s.controller.redirectClaims
            ∧ (succeeded = true ∨ ∀ t, s.noAnswerTimers.get c = some t → t.id ≠ i)) :=
  ⟨returned_oneShot.outputs_nodup (sound_init ..) events,
    completed_oneShot.outputs_nodup (sound_init ..) events,
    fun _ _ succeeded h => finish_stale _ h succeeded⟩

/-- A route that fails, a divert of the same call, and the failure reported once
    more. -/
def repeatedReport : List RoutingEvent :=
  [.control (.operate (Sample.register Sample.desk)),
    .control (.operate (Sample.offer [(1, Sample.desk)])),
    .schedule ⟨7⟩ 3 ⟨"default"⟩ ⟨"200"⟩, .claimRoutes 3, .finishRoute ⟨7⟩ ⟨1⟩ false,
    .control (.operate (.beginImmediateDivert Sample.desk ⟨1⟩ ⟨"default", "*97"⟩))]

/-- The second report of a failed route releases the claim of the divert. -/
theorem repeated_report_releases_divert : ¬ ∀ events c i succeeded,
      ¬ (Runs.run handle (init 5 5) events).Current c i →
      (Runs.run handle (init 5 5) events).finishNoAnswerRoute c i succeeded
        = (Runs.run handle (init 5 5) events, []) := by
  intro h
  have hstale : ¬ (Runs.run handle (init 5 5) repeatedReport).Current ⟨7⟩ ⟨1⟩ := by
    rintro ⟨t, ht, _⟩
    cases ht
  have hsame := congrArg (fun result => result.1.controller.redirectClaims)
    (h repeatedReport ⟨7⟩ ⟨1⟩ false hstale)
  exact absurd hsame (by decide)

end Routing

end Sccp
