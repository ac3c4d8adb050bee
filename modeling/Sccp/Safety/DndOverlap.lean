/-
  Sccp.Safety.DndOverlap

  The overlap check of do-not-disturb schedules agrees with their matching.  A window is
  computed twice: by walking its minutes around the week, and as segments of single days.
  Both cover the same minutes, each once, so that a list is accepted just when no minute
  matches two of its rules.
-/

import Mathlib.Data.List.Nodup
import Sccp.Config.DndSchedule
import Sccp.Lib.Occupancy

namespace Sccp

namespace Config

/-! ## Days -/

theorem Weekday.index_lt (day : Weekday) : day.index < 7 := by
  cases day <;> decide

theorem Weekday.index_inj {a b : Weekday} (h : a.index = b.index) : a = b := by
  cases a <;> cases b <;> first | rfl | exact absurd h (by decide)

theorem Weekday.mem_all (day : Weekday) : day ∈ Weekday.all := by
  cases day <;> decide

theorem weekdayOfMinute_eq {day : Weekday} {minute : Nat} (h : minute < MINUTES_PER_DAY) :
    weekdayOfMinute (day.index * MINUTES_PER_DAY + minute) = day := by
  have hdiv : (day.index * MINUTES_PER_DAY + minute) / MINUTES_PER_DAY = day.index := by
    rw [Nat.add_comm, Nat.add_mul_div_right _ _ (by decide), Nat.div_eq_of_lt h, Nat.zero_add]
  unfold weekdayOfMinute
  rw [hdiv]
  cases day <;> rfl

/-- Every minute of the week is a minute of one of its days. -/
theorem exists_weekday {minute : Nat} (h : minute < MINUTES_PER_WEEK) :
    minute = (weekdayOfMinute minute).index * MINUTES_PER_DAY + minute % MINUTES_PER_DAY := by
  have hlt : minute / MINUTES_PER_DAY < 7 :=
    Nat.div_lt_of_lt_mul (by simpa [MINUTES_PER_WEEK, Nat.mul_comm] using h)
  have hindex : ∀ i < 7, ((Weekday.all[i]?).getD .monday).index = i := by decide
  unfold weekdayOfMinute
  rw [hindex _ hlt, Nat.mul_comm, Nat.div_add_mod]

namespace WeekdaySet

theorem mem_iter {days : WeekdaySet} {day : Weekday} :
    day ∈ days.iter ↔ days.contains day = true := by
  unfold iter
  rw [List.mem_filter, and_iff_right (Weekday.mem_all day)]

theorem nodup_iter (days : WeekdaySet) : days.iter.Nodup :=
  List.Nodup.filter _ (by decide)

theorem contains_shiftedToNextDay (days : WeekdaySet) (day : Weekday) :
    days.shiftedToNextDay.contains day.next = days.contains day := by
  unfold shiftedToNextDay contains
  cases day <;> simp [Weekday.next, Weekday.index]

end WeekdaySet

namespace DndSchedule

variable {schedule : DndSchedule}

/-! ## The minutes of a window -/

/-- A window that runs over midnight ends before it starts. -/
theorem toMinute_lt (h : ¬ schedule.startMinute < schedule.endTime.effectiveMinute) :
    schedule.endTime.effectiveMinute = schedule.endTime.toMinute
      ∧ schedule.endTime.toMinute < schedule.startMinute := by
  have hstart := schedule.start_lt
  have hend := schedule.end_lt
  cases hlast : schedule.endTime with
  | endOfDay =>
    rw [hlast] at h
    exact absurd hstart h
  | minute m =>
    rw [hlast] at h hend
    obtain ⟨-, hne⟩ := hend.resolve_left nofun
    simp only [DndScheduleEnd.effectiveMinute, DndScheduleEnd.toMinute] at h hne ⊢
    exact ⟨trivial, by omega⟩

theorem effectiveMinute_le (schedule : DndSchedule) :
    schedule.endTime.effectiveMinute ≤ END_OF_DAY_MINUTE := by
  have hend := schedule.end_lt
  cases hlast : schedule.endTime with
  | endOfDay => exact Nat.le_refl _
  | minute m =>
    rw [hlast] at hend
    exact Nat.le_of_lt (hend.resolve_left nofun).1

/-- No window lasts for more than a day. -/
theorem durationMinutes_le (schedule : DndSchedule) :
    schedule.durationMinutes ≤ MINUTES_PER_DAY := by
  have hle := schedule.effectiveMinute_le
  unfold durationMinutes MINUTES_PER_DAY
  unfold END_OF_DAY_MINUTE at hle
  split
  · omega
  · next hover =>
    obtain ⟨heq, hlt⟩ := toMinute_lt hover
    omega

/-- What the segments of a schedule cover. -/
theorem matchesAt_iff {day : Weekday} {minute : Nat} (hminute : minute < MINUTES_PER_DAY) :
    schedule.matchesAt day minute = true ↔
      (if schedule.startMinute < schedule.endTime.effectiveMinute then
        schedule.weekdays.contains day = true ∧ schedule.startMinute ≤ minute
          ∧ minute < schedule.endTime.effectiveMinute
      else schedule.weekdays.contains day = true ∧ schedule.startMinute ≤ minute
        ∨ schedule.weekdays.shiftedToNextDay.contains day = true
          ∧ minute < schedule.endTime.effectiveMinute) := by
  have hday : minute < END_OF_DAY_MINUTE := hminute
  unfold matchesAt timingSegments
  split
  · simp [and_assoc]
  next hover =>
  rw [(toMinute_lt hover).1]
  by_cases hzero : schedule.endTime.toMinute = 0
  · simp [hzero, hday]
  · simp [hzero, hday]

/-- A minute of the week, from the day and the minute of it. -/
theorem minuteOfWeek (day : Weekday) {minute : Nat} (h : minute < MINUTES_PER_DAY) :
    day.index * MINUTES_PER_DAY + minute < MINUTES_PER_WEEK
      ∧ weekdayOfMinute (day.index * MINUTES_PER_DAY + minute) = day
      ∧ (day.index * MINUTES_PER_DAY + minute) % MINUTES_PER_DAY = minute := by
  have hindex := day.index_lt
  refine ⟨?_, weekdayOfMinute_eq h, ?_⟩
  · unfold MINUTES_PER_WEEK MINUTES_PER_DAY at *
    omega
  · rw [Nat.mul_add_mod_self_right, Nat.mod_eq_of_lt h]

/-- Past the end of a day the walk is in the next one, after Sunday in Monday. -/
theorem minuteOfWeek_next (day : Weekday) {minute : Nat} (h : minute < MINUTES_PER_DAY) :
    (day.index * MINUTES_PER_DAY + (MINUTES_PER_DAY + minute)) % MINUTES_PER_WEEK
      = day.next.index * MINUTES_PER_DAY + minute := by
  unfold MINUTES_PER_WEEK MINUTES_PER_DAY at *
  cases day <;> simp only [Weekday.index, Weekday.next] <;> omega

theorem exists_previous (day : Weekday) : ∃ previous : Weekday, previous.next = day := by
  cases day with
  | monday => exact ⟨.sunday, rfl⟩
  | tuesday => exact ⟨.monday, rfl⟩
  | wednesday => exact ⟨.tuesday, rfl⟩
  | thursday => exact ⟨.wednesday, rfl⟩
  | friday => exact ⟨.thursday, rfl⟩
  | saturday => exact ⟨.friday, rfl⟩
  | sunday => exact ⟨.saturday, rfl⟩

/-- A minute of the week that a walk from the start of a window reaches after some time. -/
theorem mem_minutes_iff (schedule : DndSchedule) (minute : Nat) :
    minute ∈ schedule.minutes ↔ ∃ day, schedule.weekdays.contains day = true
      ∧ ∃ offset < schedule.durationMinutes,
        (day.index * MINUTES_PER_DAY + (schedule.startMinute + offset)) % MINUTES_PER_WEEK
          = minute := by
  simp [minutes, List.mem_flatMap, WeekdaySet.mem_iter, Nat.add_assoc]

/-- The walk around the week visits the minutes that match, and no others. -/
theorem mem_minutes (schedule : DndSchedule) (minute : Nat) :
    minute ∈ schedule.minutes ↔ minute < MINUTES_PER_WEEK
      ∧ schedule.matchesAt (weekdayOfMinute minute) (minute % MINUTES_PER_DAY) = true := by
  have hstart : schedule.startMinute < MINUTES_PER_DAY := schedule.start_lt
  have hle : schedule.endTime.effectiveMinute ≤ MINUTES_PER_DAY := schedule.effectiveMinute_le
  rw [mem_minutes_iff]
  constructor
  · rintro ⟨day, hday, offset, hoffset, rfl⟩
    by_cases hsame : schedule.startMinute + offset < MINUTES_PER_DAY
    · -- on the day the window starts
      obtain ⟨hweek, hdayOf, hmod⟩ := minuteOfWeek day hsame
      rw [Nat.mod_eq_of_lt hweek, hdayOf, hmod, matchesAt_iff hsame]
      refine ⟨hweek, ?_⟩
      split
      · next hshort =>
        rw [durationMinutes, if_pos hshort] at hoffset
        exact ⟨hday, by omega, by omega⟩
      · exact .inl ⟨hday, by omega⟩
    · -- over midnight
      have hover : ¬ schedule.startMinute < schedule.endTime.effectiveMinute := fun hshort => by
        rw [durationMinutes, if_pos hshort] at hoffset
        omega
      obtain ⟨heq, hlt⟩ := toMinute_lt hover
      rw [durationMinutes, if_neg hover] at hoffset
      obtain ⟨minute, hminute⟩ := Nat.exists_eq_add_of_le (Nat.le_of_not_lt hsame)
      have hday' : minute < MINUTES_PER_DAY := by omega
      rw [hminute, minuteOfWeek_next day hday']
      obtain ⟨hweek, hdayOf, hmod⟩ := minuteOfWeek day.next hday'
      rw [hdayOf, hmod, matchesAt_iff hday', if_neg hover]
      exact ⟨hweek, .inr ⟨(WeekdaySet.contains_shiftedToNextDay ..).trans hday, by omega⟩⟩
  · rintro ⟨hweek, hmatch⟩
    have hmod : minute % MINUTES_PER_DAY < MINUTES_PER_DAY := Nat.mod_lt _ (by decide)
    have hsplit := exists_weekday hweek
    rw [matchesAt_iff hmod] at hmatch
    -- a minute of a day that the window starts on
    have hown : schedule.weekdays.contains (weekdayOfMinute minute) = true →
        schedule.startMinute ≤ minute % MINUTES_PER_DAY →
        minute % MINUTES_PER_DAY - schedule.startMinute < schedule.durationMinutes →
        ∃ day, schedule.weekdays.contains day = true ∧ ∃ offset < schedule.durationMinutes,
          (day.index * MINUTES_PER_DAY + (schedule.startMinute + offset)) % MINUTES_PER_WEEK
            = minute := fun hday hfrom hduration => by
      refine ⟨_, hday, _, hduration, ?_⟩
      rw [Nat.add_sub_cancel' hfrom, ← hsplit, Nat.mod_eq_of_lt hweek]
    split at hmatch
    · next hshort =>
      obtain ⟨hday, hfrom, hto⟩ := hmatch
      refine hown hday hfrom ?_
      rw [durationMinutes, if_pos hshort]
      omega
    next hover =>
    obtain ⟨heq, hlt⟩ := toMinute_lt hover
    rcases hmatch with ⟨hday, hfrom⟩ | ⟨hday, hto⟩
    · refine hown hday hfrom ?_
      rw [durationMinutes, if_neg hover]
      omega
    obtain ⟨previous, hprevious⟩ := exists_previous (weekdayOfMinute minute)
    rw [← hprevious, WeekdaySet.contains_shiftedToNextDay] at hday
    refine ⟨previous, hday,
      MINUTES_PER_DAY - schedule.startMinute + minute % MINUTES_PER_DAY, ?_, ?_⟩
    · rw [durationMinutes, if_neg hover]
      omega
    have hsum : schedule.startMinute
        + (MINUTES_PER_DAY - schedule.startMinute + minute % MINUTES_PER_DAY)
        = MINUTES_PER_DAY + minute % MINUTES_PER_DAY := by omega
    rw [hsum, minuteOfWeek_next previous hmod, hprevious, ← hsplit]

/-- No minute is visited twice. -/
theorem nodup_minutes (schedule : DndSchedule) : schedule.minutes.Nodup := by
  have hduration := schedule.durationMinutes_le
  -- a minute reached from two days, or after two times, is the same walk
  have hinj : ∀ {i j a b : Nat}, i < 7 → j < 7 → a < MINUTES_PER_DAY → b < MINUTES_PER_DAY →
      (i * MINUTES_PER_DAY + schedule.startMinute + a) % MINUTES_PER_WEEK
        = (j * MINUTES_PER_DAY + schedule.startMinute + b) % MINUTES_PER_WEEK → i = j ∧ a = b := by
    intro i j a b hi hj ha hb h
    have hstart := schedule.start_lt
    unfold MINUTES_PER_WEEK MINUTES_PER_DAY END_OF_DAY_MINUTE at *
    omega
  unfold minutes
  rw [List.nodup_flatMap]
  refine ⟨fun day _ => ?_, (WeekdaySet.nodup_iter _).imp_of_mem fun {a b} _ _ hne => ?_⟩
  · refine List.Nodup.map_on (fun a ha b hb h => ?_) List.nodup_range
    rw [List.mem_range] at ha hb
    exact (hinj day.index_lt day.index_lt (by omega) (by omega) h).2
  rw [Function.onFun_apply, List.disjoint_left]
  intro minute ha hb
  obtain ⟨i, hi, rfl⟩ := List.mem_map.mp ha
  obtain ⟨j, hj, h⟩ := List.mem_map.mp hb
  rw [List.mem_range] at hi hj
  exact hne (Weekday.index_inj (hinj b.index_lt a.index_lt (by omega) (by omega) h).1).symm

/-- A schedule matches minutes of the day only. -/
theorem lt_of_matchesAt {day : Weekday} {minute : Nat}
    (h : schedule.matchesAt day minute = true) : minute < MINUTES_PER_DAY := by
  have hle : schedule.endTime.effectiveMinute ≤ MINUTES_PER_DAY := schedule.effectiveMinute_le
  unfold matchesAt at h
  obtain ⟨segment, hsegment, h⟩ := List.any_eq_true.mp h
  have hlt : minute < segment.endMinuteExclusive := by simpa using (Bool.and_eq_true_iff.mp h).2
  have hseg : segment.endMinuteExclusive ≤ MINUTES_PER_DAY := by
    unfold timingSegments at hsegment
    split at hsegment
    · obtain rfl := List.mem_singleton.mp hsegment
      exact hle
    next hover =>
    rcases List.mem_cons.mp hsegment with rfl | hsegment
    · exact Nat.le_refl _
    split at hsegment
    · obtain rfl := List.mem_singleton.mp hsegment
      exact (toMinute_lt hover).1 ▸ hle
    · cases hsegment
  omega

theorem mem_minutes_of_day (schedule : DndSchedule) (day : Weekday) {minute : Nat}
    (h : minute < MINUTES_PER_DAY) : day.index * MINUTES_PER_DAY + minute ∈ schedule.minutes
      ↔ schedule.matchesAt day minute = true := by
  obtain ⟨hweek, hday, hmod⟩ := minuteOfWeek day h
  rw [mem_minutes, hday, hmod, and_iff_right hweek]

/-- Two schedules that match at one time. -/
def Overlaps (a b : DndSchedule) : Prop :=
  ∃ day minute, a.matchesAt day minute = true ∧ b.matchesAt day minute = true

theorem overlaps_iff {a b : DndSchedule} :
    a.Overlaps b ↔ ∃ minute, minute ∈ a.minutes ∧ minute ∈ b.minutes := by
  constructor
  · rintro ⟨day, minute, ha, hb⟩
    have hlt := lt_of_matchesAt ha
    exact ⟨_, (a.mem_minutes_of_day day hlt).mpr ha, (b.mem_minutes_of_day day hlt).mpr hb⟩
  · rintro ⟨minute, ha, hb⟩
    exact ⟨_, _, ((a.mem_minutes minute).mp ha).2, ((b.mem_minutes minute).mp hb).2⟩

end DndSchedule

/-! ## The check -/

/-- The refusal of a minute that a schedule finds taken. -/
def overlapAt (previous index minute : Nat) : DndScheduleValidationError :=
  .overlap (previous + 1) (index + 1) (weekdayOfMinute minute)
    (formatMinute (minute % MINUTES_PER_DAY))

/-- The schedules take their minutes in turn. -/
def owners (schedules : List DndSchedule) : List (List Nat × Nat) :=
  schedules.zipIdx.map fun numbered => (numbered.1.minutes, numbered.2)

theorem occupy_eq_mark (index : Nat) : occupy index = Occupancy.mark overlapAt index := by
  funext occupied minute
  unfold occupy Occupancy.mark
  cases occupied minute <;> rfl

theorem occupied_eq (schedules : List DndSchedule) :
    schedules.zipIdx.foldlM occupySchedule (fun _ => none)
      = (owners schedules).foldlM (Occupancy.markAll overlapAt) fun _ => none := by
  have hstep : occupySchedule = fun occupied (numbered : DndSchedule × Nat) =>
      Occupancy.markAll overlapAt occupied (numbered.1.minutes, numbered.2) := by
    funext occupied numbered
    unfold occupySchedule Occupancy.markAll
    rw [occupy_eq_mark]
  unfold owners
  rw [List.foldlM_map, hstep]

theorem pairwise_owners (schedules : List DndSchedule) :
    (owners schedules).Pairwise (fun a b => ∀ k ∈ a.1, k ∉ b.1)
      ↔ schedules.Pairwise fun a b => ¬ a.Overlaps b := by
  have hfst : schedules.Pairwise (fun a b => ¬ a.Overlaps b)
      ↔ schedules.zipIdx.Pairwise fun a b => ¬ a.1.Overlaps b.1 := by
    rw [← List.pairwise_map (f := Prod.fst) (R := fun a b : DndSchedule => ¬ a.Overlaps b),
      List.zipIdx_map_fst]
  rw [hfst, owners, List.pairwise_map]
  refine List.Pairwise.iff fun a b => ?_
  rw [DndSchedule.overlaps_iff]
  simp

/-- Two owners in turn are two schedules in turn. -/
theorem schedules_of_owners {schedules : List DndSchedule} {a b : List Nat × Nat}
    (h : List.Sublist [a, b] (owners schedules)) :
    a.2 < b.2 ∧ (∃ x, schedules[a.2]? = some x ∧ a.1 = x.minutes)
      ∧ ∃ y, schedules[b.2]? = some y ∧ b.1 = y.minutes := by
  have hmem : ∀ c ∈ owners schedules, ∃ x, schedules[c.2]? = some x ∧ c.1 = x.minutes := by
    intro c hc
    obtain ⟨⟨x, i⟩, hx, rfl⟩ := List.mem_map.mp hc
    exact ⟨x, List.mem_zipIdx_iff_getElem?.mp hx, rfl⟩
  have hsorted : (owners schedules).Pairwise fun a b => a.2 < b.2 := by
    unfold owners
    rw [List.pairwise_map]
    have hindex : (schedules.zipIdx.map Prod.snd).Pairwise (· < ·) := by
      rw [List.zipIdx_map_snd]
      exact List.pairwise_lt_range'
    exact List.pairwise_map.mp hindex
  have hpair := hsorted.sublist h
  refine ⟨?_, hmem a (h.subset (by simp)), hmem b (h.subset (by simp))⟩
  exact (List.pairwise_cons.mp hpair).1 b (by simp)

theorem nodup_owners {schedules : List DndSchedule} : ∀ a ∈ owners schedules, a.1.Nodup := by
  intro a ha
  obtain ⟨numbered, -, rfl⟩ := List.mem_map.mp ha
  exact numbered.1.nodup_minutes

/-- A list is accepted, or it is too long, or two of its schedules meet at the time named. -/
theorem validateDndSchedules_cases (schedules : List DndSchedule) :
    (validateDndSchedules schedules = .ok () ∧ schedules.length ≤ MAX_DND_SCHEDULES
      ∧ schedules.Pairwise fun a b => ¬ a.Overlaps b)
    ∨ (validateDndSchedules schedules = .error (.tooMany schedules.length MAX_DND_SCHEDULES)
      ∧ MAX_DND_SCHEDULES < schedules.length)
    ∨ ∃ i j a b minute, validateDndSchedules schedules = .error (overlapAt i j minute)
      ∧ i < j ∧ schedules[i]? = some a ∧ schedules[j]? = some b
      ∧ minute ∈ a.minutes ∧ minute ∈ b.minutes := by
  unfold validateDndSchedules
  split
  · next hlong => exact .inr (.inl ⟨rfl, hlong⟩)
  next hlong =>
  rw [occupied_eq]
  have hn : ∀ a ∈ owners schedules, a.1.Nodup := nodup_owners
  rcases Occupancy.foldlM_markAll_empty hn with
    ⟨occupied, hok, hpairs⟩ | ⟨a, b, minute, herror, ha, hb, hsub⟩
  · rw [hok]
    exact .inl ⟨rfl, Nat.le_of_not_lt hlong, (pairwise_owners schedules).mp hpairs⟩
  · obtain ⟨hlt, ⟨x, hx, hax⟩, y, hy, hby⟩ := schedules_of_owners hsub
    rw [herror]
    exact .inr (.inr ⟨a.2, b.2, x, y, minute, rfl, hlt, hx, hy, hax ▸ ha, hby ▸ hb⟩)

/-- Which schedule matches, if no two of them overlap, does not depend on their order. -/
theorem find?_perm {schedules schedules' : List DndSchedule}
    (h : schedules.Pairwise fun a b => ¬ a.Overlaps b) (hperm : schedules'.Perm schedules)
    (day : Weekday) (minute : Nat) :
    schedules'.find? (·.matchesAt day minute) = schedules.find? (·.matchesAt day minute) := by
  have honly : ∀ a ∈ schedules, ∀ b ∈ schedules, a.matchesAt day minute = true →
      b.matchesAt day minute = true → a = b := by
    intro a ha b hb hma hmb
    by_contra hne
    have hsymm : Std.Symm fun a b : DndSchedule => ¬ a.Overlaps b := ⟨fun a b hab hba =>
      hab (by
        obtain ⟨day, minute, hb, ha⟩ := hba
        exact ⟨day, minute, ha, hb⟩)⟩
    exact h.forall ha hb hne ⟨day, minute, hma, hmb⟩
  cases hfound : schedules.find? (·.matchesAt day minute) with
  | none =>
    rw [List.find?_eq_none] at hfound ⊢
    exact fun x hx => hfound x (hperm.mem_iff.mp hx)
  | some a =>
    have hma := List.find?_some hfound
    have ha := List.mem_of_find?_eq_some hfound
    cases hfound' : schedules'.find? (·.matchesAt day minute) with
    | none => exact absurd hma (List.find?_eq_none.mp hfound' a (hperm.mem_iff.mpr ha))
    | some b =>
      have hb := hperm.mem_iff.mp (List.mem_of_find?_eq_some hfound')
      have hmb : b.matchesAt day minute = true := by simpa using List.find?_some hfound'
      rw [honly b hb a ha hmb hma]

/-- The check agrees with matching: a list is accepted just when it is not too long and no
    time matches two of its schedules; the minutes it marks are those that match; which
    schedule of an accepted list matches does not depend on their order; and a reported
    overlap names a time at which both schedules match. -/
theorem validateDndSchedules_agrees (schedules : List DndSchedule) :
    (validateDndSchedules schedules = .ok () ↔ schedules.length ≤ MAX_DND_SCHEDULES
      ∧ schedules.Pairwise fun a b => ∀ day minute,
        ¬ (a.matchesAt day minute = true ∧ b.matchesAt day minute = true))
    ∧ (∀ schedule ∈ schedules, ∀ minute, minute ∈ schedule.minutes ↔
        ∃ day time, time < MINUTES_PER_DAY ∧ minute = day.index * MINUTES_PER_DAY + time
          ∧ schedule.matchesAt day time = true)
    ∧ (validateDndSchedules schedules = .ok () → ∀ schedules' : List DndSchedule,
        schedules'.Perm schedules → ∀ day minute, schedules'.find? (·.matchesAt day minute)
          = schedules.find? (·.matchesAt day minute)) ∧ ∀ first second day time,
        validateDndSchedules schedules = .error (.overlap first second day time) →
        ∃ a b minute, 1 ≤ first ∧ first < second ∧ schedules[first - 1]? = some a
          ∧ schedules[second - 1]? = some b ∧ minute < MINUTES_PER_DAY ∧ time = formatMinute minute
          ∧ a.matchesAt day minute = true ∧ b.matchesAt day minute = true := by
  have hpairs : schedules.Pairwise (fun a b => ∀ day minute,
      ¬ (a.matchesAt day minute = true ∧ b.matchesAt day minute = true))
      ↔ schedules.Pairwise fun a b => ¬ a.Overlaps b :=
    List.Pairwise.iff fun a b => by simp [DndSchedule.Overlaps]
  rw [hpairs]
  refine ⟨?_, fun schedule _ minute => ⟨fun h => ?_, ?_⟩, fun hok schedules' hperm => ?_,
    fun first second day time herror => ?_⟩
  · rcases validateDndSchedules_cases schedules with
      ⟨hok, hlength, hpair⟩ | ⟨herror, hlong⟩ | ⟨i, j, a, b, minute, herror, hlt, ha, hb, hma, hmb⟩
    · exact iff_of_true hok ⟨hlength, hpair⟩
    · rw [herror]
      exact iff_of_false nofun fun h => absurd h.1 (Nat.not_le.mpr hlong)
    · rw [herror]
      refine iff_of_false nofun fun h => ?_
      obtain ⟨hi, rfl⟩ := List.getElem?_eq_some_iff.mp ha
      obtain ⟨hj, rfl⟩ := List.getElem?_eq_some_iff.mp hb
      exact List.pairwise_iff_getElem.mp h.2 i j hi hj hlt
        (DndSchedule.overlaps_iff.mpr ⟨minute, hma, hmb⟩)
  · obtain ⟨hweek, hmatch⟩ := (schedule.mem_minutes minute).mp h
    exact ⟨_, _, Nat.mod_lt _ (by decide), exists_weekday hweek, hmatch⟩
  · rintro ⟨day, time, htime, rfl, hmatch⟩
    exact (schedule.mem_minutes_of_day day htime).mpr hmatch
  · rcases validateDndSchedules_cases schedules with ⟨-, -, hpair⟩ | ⟨herror, -⟩ |
      ⟨i, j, a, b, minute, herror, -⟩
    · exact find?_perm hpair hperm
    · rw [hok] at herror
      cases herror
    · rw [hok] at herror
      cases herror
  · rcases validateDndSchedules_cases schedules with ⟨hok, -⟩ | ⟨htoo, -⟩ |
      ⟨i, j, a, b, minute, hover, hlt, ha, hb, hma, hmb⟩
    · rw [herror] at hok
      cases hok
    · rw [herror] at htoo
      cases htoo
    · rw [herror] at hover
      obtain ⟨rfl, rfl, rfl, rfl⟩ := DndScheduleValidationError.overlap.inj (Except.error.inj hover)
      exact ⟨a, b, minute % MINUTES_PER_DAY, by omega, by omega, ha, hb,
        Nat.mod_lt _ (by decide), rfl, ((a.mem_minutes minute).mp hma).2,
        ((b.mem_minutes minute).mp hmb).2⟩

end Config

end Sccp
