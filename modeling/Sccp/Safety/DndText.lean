/-
  Sccp.Safety.DndText

  Do-not-disturb schedules survive their text.  A schedule prints as three fields of plain
  characters, which the parser reads back: the clocks digit by digit, and the days from the
  runs that the set of days was broken into.  So printing is canonical, and the overrides
  that the store writes are the ones it reads.
-/

import Sccp.Safety.DndOverlap
import Sccp.State.DndSchedule

namespace Sccp

namespace Config

/-! ## Fields of plain characters -/

/-- The characters of a printed field. -/
def isPlain (c : Char) : Bool := c.isDigit || c.isLower || c ∈ [':', '-', '&', '*']

def PlainText (text : String) : Prop := ∀ c ∈ text.toList, isPlain c = true

theorem isPlain_bounds {c : Char} (h : isPlain c = true) : 0x26 ≤ c.toNat ∧ c.toNat < 0x7f := by
  unfold isPlain at h
  rw [Bool.or_eq_true, Bool.or_eq_true, decide_eq_true_eq] at h
  rcases h with (h | h) | h
  · have h' : 48 ≤ c.toNat ∧ c.toNat ≤ 57 := by
      simpa [Char.isDigit, UInt32.le_iff_toNat_le] using h
    exact ⟨by omega, by omega⟩
  · have h' : 97 ≤ c.toNat ∧ c.toNat ≤ 122 := by
      change (decide (c.val ≥ 97) && decide (c.val ≤ 122)) = true at h
      simpa [UInt32.le_iff_toNat_le] using h
    exact ⟨by omega, by omega⟩
  · simp only [List.mem_cons, List.not_mem_nil, or_false] at h
    rcases h with rfl | rfl | rfl | rfl <;> decide

theorem isWhiteSpace_of_isPlain {c : Char} (h : isPlain c = true) : isWhiteSpace c = false := by
  obtain ⟨hlow, hhigh⟩ := isPlain_bounds h
  unfold isWhiteSpace
  simp only [Bool.or_eq_false_iff, Bool.and_eq_false_iff, decide_eq_false_iff_not]
  omega

theorem PlainText.append {a b : String} (ha : PlainText a) (hb : PlainText b) :
    PlainText (a ++ b) := by
  intro c hc
  rw [String.toList_append, List.mem_append] at hc
  exact hc.elim (ha c) (hb c)

/-- A plain field has nothing to trim, except what stands before it. -/
theorem trim_plain {text : String} (h : PlainText text) :
    trim text = text ∧ trim (" " ++ text) = text := by
  have hfirst : text.toList.dropWhile isWhiteSpace = text.toList := by
    rw [List.dropWhile_eq_self_iff]
    intro hpos
    rw [isWhiteSpace_of_isPlain (h _ (List.getElem_mem hpos))]
    exact Bool.false_ne_true
  have hlast : text.toList.reverse.dropWhile isWhiteSpace = text.toList.reverse := by
    rw [List.dropWhile_eq_self_iff]
    intro hpos
    rw [isWhiteSpace_of_isPlain (h _ (List.mem_reverse.mp (List.getElem_mem hpos)))]
    exact Bool.false_ne_true
  have hblank : (" " ++ text).toList = ' ' :: text.toList := String.toList_append
  unfold trim
  rw [hblank, List.dropWhile_cons_of_pos (by decide), hfirst, hlast, List.reverse_reverse,
    String.ofList_toList]
  exact ⟨rfl, rfl⟩

/-! ## Clocks -/

theorem pad2_digits : ∀ n < 100,
    (pad2 n).toList = [Nat.digitChar (n / 10), Nat.digitChar (n % 10)] := by
  decide

theorem digit_digitChar : ∀ n < 10, digit (Nat.digitChar n) = some n := by
  decide

theorem isDigit_digitChar : ∀ n < 10, (Nat.digitChar n).isDigit = true := by
  decide

theorem plain_pad2 {n : Nat} (h : n < 100) : PlainText (pad2 n) ∧ '-' ∉ (pad2 n).toList := by
  have hdigits : ∀ c ∈ (pad2 n).toList, c.isDigit = true := by
    rw [pad2_digits n h]
    intro c hc
    simp only [List.mem_cons, List.not_mem_nil, or_false] at hc
    rcases hc with rfl | rfl
    · exact isDigit_digitChar _ (by omega)
    · exact isDigit_digitChar _ (by omega)
  refine ⟨fun c hc => ?_, fun hc => absurd (hdigits _ hc) (by decide)⟩
  unfold isPlain
  rw [hdigits c hc, Bool.true_or, Bool.true_or]

section Clock

variable {minute : Nat}

theorem plain_formatMinute (h : minute ≤ END_OF_DAY_MINUTE) :
    PlainText (formatMinute minute) ∧ '-' ∉ (formatMinute minute).toList := by
  unfold END_OF_DAY_MINUTE at h
  obtain ⟨hhour, hhour'⟩ := plain_pad2 (n := minute / 60) (by omega)
  obtain ⟨hmin, hmin'⟩ := plain_pad2 (n := minute % 60) (by omega)
  have hcolon : PlainText ":" := fun c hc => by
    obtain rfl := List.mem_singleton.mp hc
    rfl
  refine ⟨(hhour.append hcolon).append hmin, ?_⟩
  unfold formatMinute
  rw [String.toList_append, String.toList_append, List.mem_append, List.mem_append]
  rintro ((h | h) | h)
  · exact hhour' h
  · exact absurd h (by decide)
  · exact hmin' h

theorem clockDigits_formatMinute (h : minute ≤ END_OF_DAY_MINUTE) :
    clockDigits (formatMinute minute) = some (minute / 60, minute % 60) := by
  unfold END_OF_DAY_MINUTE at h
  have hlist : (formatMinute minute).toList = [Nat.digitChar (minute / 60 / 10),
      Nat.digitChar (minute / 60 % 10), ':', Nat.digitChar (minute % 60 / 10),
      Nat.digitChar (minute % 60 % 10)] := by
    unfold formatMinute
    rw [String.toList_append, String.toList_append, pad2_digits _ (by omega),
      pad2_digits _ (by omega)]
    rfl
  unfold clockDigits
  simp only [digit_digitChar _ (by omega : minute / 60 / 10 < 10),
    digit_digitChar _ (by omega : minute / 60 % 10 < 10),
    digit_digitChar _ (by omega : minute % 60 / 10 < 10),
    digit_digitChar _ (by omega : minute % 60 % 10 < 10), hlist]
  have hhour : minute / 60 / 10 * 10 + minute / 60 % 10 = minute / 60 := by omega
  have hmin : minute % 60 / 10 * 10 + minute % 60 % 10 = minute % 60 := by omega
  simp only [Option.bind_eq_bind, Option.bind_some, hhour, hmin]

/-- A printed clock reads as its minute. -/
theorem parseClock_formatMinute {isEnd : Bool} (h : minute ≤ END_OF_DAY_MINUTE)
    (hlt : isEnd = false → minute < END_OF_DAY_MINUTE) :
    parseClock (formatMinute minute) isEnd = .ok minute := by
  unfold parseClock
  rw [clockDigits_formatMinute h]
  unfold END_OF_DAY_MINUTE at h hlt
  dsimp only
  rw [if_neg]
  · rw [Nat.mul_comm, Nat.div_add_mod]
  rintro (hmin | hhour | ⟨hhour, hfalse | hmin⟩)
  · omega
  · omega
  · have := hlt hfalse
    omega
  · omega

theorem formatMinute_length (h : minute ≤ END_OF_DAY_MINUTE) :
    (formatMinute minute).toList.length = 5 := by
  unfold END_OF_DAY_MINUTE at h
  unfold formatMinute
  rw [String.toList_append, String.toList_append, pad2_digits _ (by omega),
    pad2_digits _ (by omega)]
  rfl

end Clock

theorem DndScheduleEnd.ofClock_effectiveMinute {last : DndScheduleEnd}
    (h : last = .endOfDay ∨ last.toMinute < END_OF_DAY_MINUTE) :
    DndScheduleEnd.ofClock last.effectiveMinute = last := by
  cases last with
  | endOfDay => rfl
  | minute m =>
    have hne : m ≠ END_OF_DAY_MINUTE := Nat.ne_of_lt (h.resolve_left nofun)
    exact if_neg hne

/-! ## Days -/

theorem Weekday.parse_canonical (day : Weekday) : Weekday.parse day.canonical = some day := by
  cases day <;> decide

theorem Weekday.isLower_canonical (day : Weekday) : ∀ c ∈ day.canonical.toList, c.isLower = true :=
  List.all_eq_true.mp (by cases day <;> rfl)

theorem Weekday.length_canonical (day : Weekday) : day.canonical.toList.length = 3 := by
  cases day <;> rfl

namespace WeekdaySet

/-- The text of a run of days. -/
def runText (run : Weekday × Weekday) : String :=
  if run.1 = run.2 then run.1.canonical else run.1.canonical ++ "-" ++ run.2.canonical

/-- The days of a run. -/
def insertRun (days : WeekdaySet) (run : Weekday × Weekday) : WeekdaySet :=
  insertRange run.2 7 run.1 days

theorem chars_runText (run : Weekday × Weekday) :
    ∀ c ∈ (runText run).toList, c.isLower = true ∨ c = '-' := by
  intro c hc
  unfold runText at hc
  split at hc
  · exact .inl (run.1.isLower_canonical c hc)
  rw [String.toList_append, String.toList_append, List.mem_append, List.mem_append] at hc
  rcases hc with (hc | hc) | hc
  · exact .inl (run.1.isLower_canonical c hc)
  · exact .inr (List.mem_singleton.mp hc)
  · exact .inl (run.2.isLower_canonical c hc)

theorem plain_runText (run : Weekday × Weekday) : PlainText (runText run) := by
  intro c hc
  unfold isPlain
  rcases chars_runText run c hc with h | rfl
  · rw [h, Bool.or_true, Bool.true_or]
  · rfl

theorem length_runText (run : Weekday × Weekday) :
    3 ≤ (runText run).toList.length ∧ (runText run).toList.length ≤ 7 := by
  unfold runText
  split
  · rw [Weekday.length_canonical]
    omega
  · rw [String.toList_append, String.toList_append, List.length_append, List.length_append,
      Weekday.length_canonical, Weekday.length_canonical]
    exact ⟨by omega, Nat.le_refl 7⟩

/-- The text of a run adds the days of the run. -/
theorem insertPart_runText (days : WeekdaySet) (run : Weekday × Weekday) :
    insertPart days (runText run) = some (days.insertRun run) := by
  obtain ⟨first, last⟩ := run
  have hplain := plain_runText (first, last)
  have hne : runText (first, last) ≠ "" := by
    intro h
    have := (length_runText (first, last)).1
    rw [h] at this
    exact absurd this (by decide)
  have hdash : ∀ day : Weekday, '-' ∉ day.canonical.toList := fun day h =>
    absurd (day.isLower_canonical _ h) (by decide)
  unfold insertPart
  rw [(trim_plain hplain).1, if_neg hne]
  unfold runText insertRun
  by_cases hsame : first = last
  · subst hsame
    have hsplit : split first.canonical '-' = [first.canonical] := by
      have h := split_intercalate [first.canonical] '-'
        (fun part hpart => List.mem_singleton.mp hpart ▸ hdash first) (List.cons_ne_nil _ _)
      rwa [String.intercalate_singleton] at h
    rw [if_pos rfl, hsplit]
    dsimp only
    rw [Weekday.parse_canonical, insertRange, if_pos rfl]
    rfl
  · have hsplit : split (first.canonical ++ "-" ++ last.canonical) '-'
        = [first.canonical, last.canonical] := by
      have h := split_intercalate [first.canonical, last.canonical] '-' (fun part hpart => by
          rcases List.mem_cons.mp hpart with rfl | hpart
          · exact hdash first
          · exact List.mem_singleton.mp hpart ▸ hdash last) (List.cons_ne_nil _ _)
      rwa [String.intercalate_cons_cons, String.intercalate_singleton] at h
    rw [if_neg hsame, hsplit]
    dsimp only
    rw [Weekday.parse_canonical, Weekday.parse_canonical]

theorem foldlM_runText (runs : List (Weekday × Weekday)) (days : WeekdaySet) :
    (runs.map runText).foldlM insertPart days = some (runs.foldl insertRun days) := by
  induction runs generalizing days with
  | nil => rfl
  | cons run rest ih =>
    rw [List.map_cons, List.foldlM_cons, insertPart_runText, List.foldl_cons, ← ih]
    rfl

/-- The runs of a set have the days of the set, and there are at most four. -/
theorem runs_iter : ∀ bits : BitVec 7, (runs (mk bits).iter).foldl insertRun ⟨0⟩ = ⟨bits⟩
    ∧ (runs (mk bits).iter).length ≤ 4 := by
  decide +kernel

theorem runs_ne_nil {days : WeekdaySet} (h : days.bits ≠ 0) : runs days.iter ≠ [] := by
  intro hnil
  have hfold := (runs_iter days.bits).1
  rw [hnil] at hfold
  exact h (WeekdaySet.mk.inj hfold).symm

theorem display_eq {days : WeekdaySet} (h : days ≠ ofAll) :
    days.display = String.intercalate "&" ((runs days.iter).map runText) := if_neg h

/-- The texts of some runs, joined. -/
theorem joined_runText (runs : List (Weekday × Weekday)) :
    (∀ c ∈ (String.intercalate "&" (runs.map runText)).toList, c.isLower = true ∨ c = '-' ∨ c = '&')
      ∧ runs.length ≤ (String.intercalate "&" (runs.map runText)).toList.length
      ∧ (String.intercalate "&" (runs.map runText)).toList.length ≤ 8 * runs.length := by
  induction runs with
  | nil => exact ⟨nofun, Nat.le_refl 0, Nat.le_refl 0⟩
  | cons run rest ih =>
    obtain ⟨hshort, hlong⟩ := length_runText run
    have hchars : ∀ c ∈ (runText run).toList, c.isLower = true ∨ c = '-' ∨ c = '&' :=
      fun c hc => (chars_runText run c hc).imp_right .inl
    cases rest with
    | nil =>
      rw [List.map_singleton, String.intercalate_singleton, List.length_singleton]
      exact ⟨hchars, by omega, by omega⟩
    | cons next rest =>
      obtain ⟨hrest, hrestShort, hrestLong⟩ := ih
      rw [List.map_cons, List.map_cons, String.intercalate_cons_cons, ← List.map_cons,
        String.toList_append, String.toList_append, List.length_append, List.length_append,
        List.length_cons]
      have hone : "&".toList.length = 1 := rfl
      refine ⟨fun c hc => ?_, by omega, by omega⟩
      rw [List.mem_append, List.mem_append] at hc
      rcases hc with (hc | hc) | hc
      · exact hchars c hc
      · exact .inr (.inr (List.mem_singleton.mp hc))
      · exact hrest c hc

/-- The text of a set of days is one short field. -/
theorem plain_display (days : WeekdaySet) :
    PlainText days.display ∧ days.display.toList.length ≤ 32 := by
  by_cases hall : days = ofAll
  · subst hall
    exact ⟨fun c hc => by rw [List.mem_singleton.mp hc]; rfl, by decide⟩
  obtain ⟨hchars, -, hlong⟩ := joined_runText (runs days.iter)
  have hfew : (runs days.iter).length ≤ 4 := (runs_iter days.bits).2
  rw [display_eq hall]
  refine ⟨fun c hc => ?_, by omega⟩
  unfold isPlain
  rcases hchars c hc with h | rfl | rfl
  · rw [h, Bool.or_true, Bool.true_or]
  · rfl
  · rfl

/-- The days that are printed are read back. -/
theorem parse_display {days : WeekdaySet} (h : days.bits ≠ 0) :
    WeekdaySet.parse days.display = .ok days := by
  have hplain := (plain_display days).1
  unfold WeekdaySet.parse
  rw [(trim_plain hplain).1]
  by_cases hall : days = ofAll
  · subst hall
    rfl
  have hruns := runs_ne_nil h
  obtain ⟨hchars, hshort, -⟩ := joined_runText (runs days.iter)
  have hstar : '*' ∉ days.display.toList := by
    rw [display_eq hall]
    intro hc
    rcases hchars _ hc with h | h | h <;> exact absurd h (by decide)
  have hne : days.display ≠ "" := by
    rw [display_eq hall]
    intro hempty
    rw [hempty] at hshort
    exact hruns (List.length_eq_zero_iff.mp (Nat.le_zero.mp hshort))
  have hsplit : split days.display '&' = (runs days.iter).map runText := by
    rw [display_eq hall]
    refine split_intercalate _ _ (fun part hpart hc => ?_) (by simpa using hruns)
    obtain ⟨run, -, rfl⟩ := List.mem_map.mp hpart
    rcases chars_runText run _ hc with h | h <;> exact absurd h (by decide)
  rw [if_neg, if_neg, hsplit, foldlM_runText, (runs_iter days.bits).1]
  · dsimp only
    rw [if_neg h]
  · exact fun hor => hor.elim hne hstar
  · intro hone
    rw [hone] at hstar
    exact hstar (List.mem_singleton.mpr rfl)

end WeekdaySet

/-! ## Schedules -/

theorem DndScheduleMode.parse_canonical (mode : DndScheduleMode) :
    DndScheduleMode.parse mode.canonical = .ok mode := by
  cases mode <;> decide

theorem DndScheduleMode.plain_canonical (mode : DndScheduleMode) :
    PlainText mode.canonical ∧ mode.canonical.toList.length = 6 := by
  have hplain : ∀ c ∈ mode.canonical.toList, isPlain c = true :=
    List.all_eq_true.mp (by cases mode <;> rfl)
  exact ⟨hplain, by cases mode <;> rfl⟩

namespace DndSchedule

variable (schedule : DndSchedule)

/-- The printed times of a window. -/
def timesText : String :=
  formatMinute schedule.startMinute ++ "-" ++ formatMinute schedule.endTime.effectiveMinute

/-- The end of the day prints as the clock that stands for it. -/
theorem display_times : schedule.display = schedule.timesText ++ ", " ++ schedule.weekdays.display
    ++ ", " ++ schedule.mode.canonical := by
  obtain ⟨start, last, days, mode, hstart, hlast⟩ := schedule
  cases last with
  | minute m => rfl
  | endOfDay =>
    have hend : formatMinute END_OF_DAY_MINUTE = "24:00" := by decide
    unfold timesText DndScheduleEnd.effectiveMinute
    rw [hend]
    rfl

theorem display_eq : schedule.display = String.intercalate ","
    [schedule.timesText, " " ++ schedule.weekdays.display, " " ++ schedule.mode.canonical] := by
  rw [display_times, String.intercalate_cons_cons, String.intercalate_cons_cons,
    String.intercalate_singleton]
  apply String.toList_inj.mp
  simp only [String.toList_append, List.append_assoc]
  rfl

theorem plain_timesText : PlainText schedule.timesText ∧ schedule.timesText.toList.length = 11 := by
  have hstart := Nat.le_of_lt schedule.start_lt
  have hlast := schedule.effectiveMinute_le
  refine ⟨((plain_formatMinute hstart).1.append fun c hc => ?_).append
    (plain_formatMinute hlast).1, ?_⟩
  · rw [List.mem_singleton.mp hc]
    rfl
  unfold timesText
  rw [String.toList_append, String.toList_append, List.length_append, List.length_append,
    formatMinute_length hstart, formatMinute_length hlast]
  rfl

theorem timeRange_timesText : timeRange schedule.timesText
    = .ok (formatMinute schedule.startMinute, formatMinute schedule.endTime.effectiveMinute) := by
  obtain ⟨hstart, hstartDash⟩ := plain_formatMinute (Nat.le_of_lt schedule.start_lt)
  obtain ⟨hlast, hlastDash⟩ := plain_formatMinute schedule.effectiveMinute_le
  have hsplit : split schedule.timesText '-' = [formatMinute schedule.startMinute,
      formatMinute schedule.endTime.effectiveMinute] := by
    have h := split_intercalate [formatMinute schedule.startMinute,
      formatMinute schedule.endTime.effectiveMinute] '-' (fun part hpart => by
        rcases List.mem_cons.mp hpart with rfl | hpart
        · exact hstartDash
        · exact List.mem_singleton.mp hpart ▸ hlastDash) (List.cons_ne_nil _ _)
    rwa [String.intercalate_cons_cons, String.intercalate_singleton] at h
  have hne : ∀ {minute}, minute ≤ END_OF_DAY_MINUTE → formatMinute minute ≠ "" :=
    fun hle hempty => by
      have := formatMinute_length hle
      rw [hempty] at this
      cases this
  unfold timeRange
  rw [hsplit, List.map_cons, List.map_singleton, (trim_plain hstart).1, (trim_plain hlast).1]
  dsimp only
  rw [if_neg]
  exact fun h => h.elim (hne (Nat.le_of_lt schedule.start_lt)) (hne schedule.effectiveMinute_le)

theorem length_utf8_of_ascii {text : String} (h : ∀ c ∈ text.toList, c.toNat < 0x80) :
    (utf8 text).length = text.toList.length := by
  have hone : ∀ chars : List Char, (∀ c ∈ chars, c.toNat < 0x80) →
      (chars.flatMap String.utf8EncodeChar).length = chars.length := by
    intro chars
    induction chars with
    | nil => exact fun _ => rfl
    | cons c rest ih =>
      intro h
      have hc : c.val ≤ 0x7f := by
        have := h c List.mem_cons_self
        rw [UInt32.le_iff_toNat_le]
        exact Nat.le_of_lt_succ this
      have hsize : c.utf8Size = 1 := by
        unfold Char.utf8Size
        exact if_pos hc
      rw [List.flatMap_cons, List.length_append, String.length_utf8EncodeChar, hsize,
        ih fun c hc => h c (List.mem_cons_of_mem _ hc), List.length_cons, Nat.add_comm]
  exact hone text.toList h

/-- The characters of a printed schedule. -/
theorem chars_display : ∀ c ∈ schedule.display.toList, isPlain c = true ∨ c = ',' ∨ c = ' ' := by
  intro c hc
  have hcomma : ∀ c ∈ ", ".toList, c = ',' ∨ c = ' ' := by simp
  rw [display_times] at hc
  simp only [String.toList_append, List.mem_append] at hc
  rcases hc with (((hc | hc) | hc) | hc) | hc
  · exact .inl (schedule.plain_timesText.1 c hc)
  · exact .inr (hcomma c hc)
  · exact .inl (schedule.weekdays.plain_display.1 c hc)
  · exact .inr (hcomma c hc)
  · exact .inl (schedule.mode.plain_canonical.1 c hc)

theorem length_display : (utf8 schedule.display).length ≤ 53 := by
  rw [length_utf8_of_ascii fun c hc => ?_]
  · have htimes := schedule.plain_timesText.2
    have hdays := schedule.weekdays.plain_display.2
    have hmode := schedule.mode.plain_canonical.2
    have hcomma : ", ".toList.length = 2 := rfl
    rw [display_times]
    simp only [String.toList_append, List.length_append]
    omega
  · rcases schedule.chars_display c hc with h | rfl | rfl
    · exact (isPlain_bounds h).2.trans (by decide)
    · decide
    · decide

theorem split_display : (split schedule.display ',').map trim
    = [schedule.timesText, schedule.weekdays.display, schedule.mode.canonical] := by
  have htimes := schedule.plain_timesText.1
  have hdays := schedule.weekdays.plain_display.1
  have hmode := schedule.mode.plain_canonical.1
  have hcomma : ∀ {text : String}, PlainText text → ',' ∉ text.toList := fun hplain hc =>
    absurd (hplain _ hc) (by decide)
  have hcomma' : ∀ {text : String}, PlainText text → ',' ∉ (" " ++ text).toList :=
    fun hplain hc => by
      rw [String.toList_append, List.mem_append] at hc
      exact hc.elim (by decide) (hcomma hplain)
  rw [display_eq, show "," = String.ofList [','] from rfl, split_intercalate]
  · simp only [List.map_cons, List.map_nil]
    rw [(trim_plain htimes).1, (trim_plain hdays).2, (trim_plain hmode).2]
  · intro part hpart
    simp only [List.mem_cons, List.not_mem_nil, or_false] at hpart
    rcases hpart with rfl | rfl | rfl
    · exact hcomma htimes
    · exact hcomma' hdays
    · exact hcomma' hmode
  · exact List.cons_ne_nil _ _

/-- A printed schedule is read back. -/
theorem parse_display (h : schedule.weekdays.bits ≠ 0) : parse schedule.display = .ok schedule := by
  have hlength := schedule.length_display
  have htimes : schedule.timesText ≠ "" := by
    intro hempty
    have := schedule.plain_timesText.2
    rw [hempty] at this
    cases this
  have hclock := DndScheduleEnd.ofClock_effectiveMinute (schedule.end_lt.imp_right And.left)
  have hstart : parseClock (formatMinute schedule.startMinute) false = .ok schedule.startMinute :=
    parseClock_formatMinute (Nat.le_of_lt schedule.start_lt) fun _ => schedule.start_lt
  have hlast : parseClock (formatMinute schedule.endTime.effectiveMinute) true
      = .ok schedule.endTime.effectiveMinute :=
    parseClock_formatMinute schedule.effectiveMinute_le fun h => nomatch h
  unfold parse fromStr
  rw [if_neg (by unfold MAX_DND_SCHEDULE_BYTES; omega), split_display]
  dsimp only
  rw [if_neg htimes, timeRange_timesText]
  simp only [bind, Except.bind, hstart, hlast, hclock]
  rw [dif_pos ⟨schedule.start_lt, schedule.end_lt⟩, WeekdaySet.parse_display h]
  simp only
  rw [DndScheduleMode.parse_canonical]

/-- A schedule that has been parsed has a day. -/
theorem bits_ne_zero {raw : String} {schedule : DndSchedule}
    (h : parse raw = .ok schedule) : schedule.weekdays.bits ≠ 0 := by
  have hdays : ∀ {raw days}, WeekdaySet.parse raw = .ok days → days.bits ≠ 0 := by
    intro raw days h
    unfold WeekdaySet.parse at h
    split at h
    · obtain rfl := Except.ok.inj h
      decide
    split at h
    · cases h
    split at h
    · cases h
    · split at h
      · cases h
      · next hne =>
        obtain rfl := Except.ok.inj h
        exact hne
  unfold parse fromStr at h
  split at h
  · cases h
  split at h
  · split at h
    · cases h
    · obtain ⟨_, -, h⟩ := Checked.bind_ok.mp h
      obtain ⟨_, -, h⟩ := Checked.bind_ok.mp h
      obtain ⟨_, -, h⟩ := Checked.bind_ok.mp h
      dsimp only at h
      split at h
      · obtain ⟨days, hparse, h⟩ := Checked.bind_ok.mp h
        obtain ⟨_, -, h⟩ := Checked.bind_ok.mp h
        obtain rfl := Except.ok.inj h
        exact hdays hparse
      · cases h
  · cases h

end DndSchedule

end Config

namespace Dnd

open Config
open Features (PersistentStore)

/-! ## Overrides -/

/-- What is documented of the JSON texts: a document is read back, and a text that needs no
    escaping is written between quotation marks. -/
structure DocumentFormat.Compact (format : DocumentFormat) : Prop where
  lossless : ∀ d raw, format.toString d = some raw → format.fromStr raw = some d
  /-- `{"version":1,"rules":["…","…"]}` -/
  compact : ∀ rules : List String,
    (∀ rule ∈ rules, ∀ c ∈ rule.toList, 0x20 ≤ c.toNat ∧ c.toNat < 0x7f ∧ c ≠ '"' ∧ c ≠ '\\') →
    ∃ raw, format.toString ⟨STORED_FORMAT_VERSION, rules⟩ = some raw
      ∧ (utf8 raw).length ≤ 24 + (rules.map fun rule => (utf8 rule).length + 3).sum

section Overrides

variable {format : DocumentFormat} {device : DeviceId} {schedules : List DndSchedule}

/-- The characters of a printed schedule need no escaping. -/
theorem unescaped_display (schedule : DndSchedule) : ∀ c ∈ schedule.display.toList,
    0x20 ≤ c.toNat ∧ c.toNat < 0x7f ∧ c ≠ '"' ∧ c ≠ '\\' := by
  intro c hc
  rcases schedule.chars_display c hc with h | rfl | rfl
  · obtain ⟨hlow, hhigh⟩ := isPlain_bounds h
    refine ⟨by omega, hhigh, ?_, ?_⟩ <;> rintro rfl <;> exact absurd h (by decide)
  · decide
  · decide

theorem sum_length_display (schedules : List DndSchedule) :
    ((schedules.map DndSchedule.display).map fun rule => (utf8 rule).length + 3).sum
      ≤ 56 * schedules.length := by
  induction schedules with
  | nil => exact Nat.le_refl 0
  | cons schedule rest ih =>
    have hlength := schedule.length_display
    rw [List.map_cons, List.map_cons, List.sum_cons, List.length_cons]
    omega

/-- A list that validates makes a document that is not too large. -/
theorem encodeDocument_ok (hformat : format.Compact) (h : validateDndSchedules schedules = .ok ()) :
    ∃ raw, encodeDocument format device schedules = .ok raw ∧ (utf8 raw).length ≤ MAX_STORED_BYTES
      ∧ format.fromStr raw = some ⟨STORED_FORMAT_VERSION, schedules.map DndSchedule.display⟩ := by
  obtain ⟨raw, hraw, hlength⟩ := hformat.compact (schedules.map DndSchedule.display)
    (fun rule hrule => by
      obtain ⟨schedule, -, rfl⟩ := List.mem_map.mp hrule
      exact unescaped_display schedule)
  have hfew := ((validateDndSchedules_agrees schedules).1.mp h).1
  have hsum := sum_length_display schedules
  have hsize : (utf8 raw).length ≤ MAX_STORED_BYTES := by
    unfold MAX_DND_SCHEDULES at hfew
    unfold MAX_STORED_BYTES
    omega
  refine ⟨raw, ?_, hsize, hformat.lossless _ _ hraw⟩
  unfold encodeDocument
  rw [h]
  simp only [Except.mapError, bind, Except.bind, hraw]
  rw [if_neg (Nat.not_lt.mpr hsize)]

/-- Printed rules are read back one by one. -/
theorem forall₂_parse_display (device : DeviceId)
    (hparsed : ∀ schedule ∈ schedules, ∃ text, DndSchedule.parse text = .ok schedule)
    (first : Nat) :
    List.Forall₂ (fun (numbered : String × Nat) schedule =>
        (DndSchedule.parse numbered.1).mapError
          (DndScheduleStoreError.invalidRule device (numbered.2 + 1)) = .ok schedule)
      ((schedules.map DndSchedule.display).zipIdx first) schedules := by
  induction schedules generalizing first with
  | nil => exact .nil
  | cons schedule rest ih =>
    obtain ⟨text, htext⟩ := hparsed schedule List.mem_cons_self
    rw [List.map_cons, List.zipIdx_cons]
    refine .cons ?_ (ih (fun s hs => hparsed s (List.mem_cons_of_mem _ hs)) (first + 1))
    rw [schedule.parse_display (DndSchedule.bits_ne_zero htext)]
    rfl

/-- The document of a list of parsed schedules that validates is read as that list. -/
theorem decodeDocument_ok {raw : String} (hsize : (utf8 raw).length ≤ MAX_STORED_BYTES)
    (hraw : format.fromStr raw = some ⟨STORED_FORMAT_VERSION, schedules.map DndSchedule.display⟩)
    (hparsed : ∀ schedule ∈ schedules, ∃ text, DndSchedule.parse text = .ok schedule)
    (h : validateDndSchedules schedules = .ok ()) :
    decodeDocument format device raw = .ok schedules := by
  have hfew := ((validateDndSchedules_agrees schedules).1.mp h).1
  have hrules := Checked.mapM_ok.mpr (forall₂_parse_display device hparsed 0)
  unfold decodeDocument
  rw [if_neg (Nat.not_lt.mpr hsize), hraw]
  dsimp only
  rw [if_neg (by simp), if_neg (by simpa using hfew), hrules]
  simp only [bind, Except.bind, h, Except.mapError]

/-- The text of a schedule is read back as the schedule; it is the same text just when it is
    the same schedule; and an override that has been saved is loaded unchanged, where a list
    that validates is not refused but by the storage. -/
theorem schedule_text_roundTrip (hformat : format.Compact) :
    (∀ raw schedule, DndSchedule.parse raw = .ok schedule →
      DndSchedule.parse schedule.display = .ok schedule)
    ∧ (∀ raw raw' schedule schedule', DndSchedule.parse raw = .ok schedule →
        DndSchedule.parse raw' = .ok schedule' →
        (schedule.display = schedule'.display ↔ schedule = schedule'))
    ∧ ∀ (device : DeviceId) (schedules : List DndSchedule) (s : PersistentStore),
        (∀ schedule ∈ schedules, ∃ text, DndSchedule.parse text = .ok schedule) →
        validateDndSchedules schedules = .ok () →
        (∀ e, (putOverride format device schedules s).1 = .error e → ∃ source, e = .storage source)
        ∧ ((putOverride format device schedules s).1 = .ok () →
          (loadOverride format device (putOverride format device schedules s).2).1
              = .ok (some schedules)
          ∨ ∃ source, (loadOverride format device (putOverride format device schedules s).2).1
              = .error (.storage source)) := by
  refine ⟨fun raw schedule h => schedule.parse_display (DndSchedule.bits_ne_zero h),
    fun raw raw' schedule schedule' h h' => ⟨fun heq => ?_, congrArg _⟩,
    fun device schedules s hparsed hvalid => ?_⟩
  · have hread := schedule.parse_display (DndSchedule.bits_ne_zero h)
    rw [heq, schedule'.parse_display (DndSchedule.bits_ne_zero h')] at hread
    exact (Except.ok.inj hread).symm
  obtain ⟨raw, hencode, hsize, hraw⟩ : ∃ raw, encodeDocument format device schedules = .ok raw
      ∧ (utf8 raw).length ≤ MAX_STORED_BYTES ∧ format.fromStr raw = some _ :=
    encodeDocument_ok hformat hvalid
  unfold putOverride
  rw [hencode]
  dsimp only
  unfold writeRaw
  rcases UndoLog.write_cases (place device) (some raw) s with hok | ⟨e, s', herror, -⟩
  · rw [hok]
    refine ⟨nofun, fun _ => ?_⟩
    unfold loadOverride snapshotRaw
    rcases UndoLog.get_cases (place device) (s.advance.set (place device) (some raw)) with
      ⟨e, hget⟩ | hget
    · rw [hget]
      exact .inr ⟨e, rfl⟩
    rw [hget, UndoLog.Store.held_set, if_pos rfl]
    dsimp only
    rw [decodeDocument_ok hsize hraw hparsed hvalid]
    exact .inl rfl
  · rw [herror]
    exact ⟨fun e' he => ⟨e, (Except.error.inj he).symm⟩, nofun⟩

end Overrides

/-! ## A format that is compact -/

namespace Sample

/-- What stands between the quotation marks, from the first rule on. -/
def rulePieces (rule : String) : List String → List String
  | [] => [rule, "]\x7d"]
  | next :: rest => rule :: "," :: rulePieces next rest

def pieces : List String → List String
  | [] => ["\x7b", "version", ":1,", "rules", ":[]\x7d"]
  | rule :: rest => ["\x7b", "version", ":1,", "rules", ":["] ++ rulePieces rule rest

def rulesOf : List String → Option (List String)
  | [rule, "]\x7d"] => some [rule]
  | rule :: "," :: rest => (rulesOf rest).map (rule :: ·)
  | _ => none

/-- JSON texts of documents whose rules need no escaping. -/
def json : DocumentFormat where
  toString d :=
    if d.version = STORED_FORMAT_VERSION ∧ ∀ rule ∈ d.rules, '"' ∉ rule.toList then
      some (String.intercalate "\"" (pieces d.rules))
    else none
  fromStr raw :=
    match split raw '"' with
    | ["\x7b", "version", ":1,", "rules", ":[]\x7d"] => some ⟨STORED_FORMAT_VERSION, []⟩
    | "\x7b" :: "version" :: ":1," :: "rules" :: ":[" :: rest =>
      (rulesOf rest).map (⟨STORED_FORMAT_VERSION, ·⟩)
    | _ => none

example : json.toString ⟨1, ["22:00-07:00, mon&fri-sun, reject"]⟩
    = some "\x7b\"version\":1,\"rules\":[\"22:00-07:00, mon&fri-sun, reject\"]\x7d" := by
  decide

theorem rulesOf_rulePieces (rule : String) (rest : List String) :
    rulesOf (rulePieces rule rest) = some (rule :: rest) := by
  induction rest generalizing rule with
  | nil => rfl
  | cons next rest ih =>
    have hstep : rulesOf (rule :: "," :: rulePieces next rest)
        = (rulesOf (rulePieces next rest)).map (rule :: ·) := by
      conv_lhs => unfold rulesOf
      rfl
    rw [rulePieces, hstep, ih]
    rfl

theorem rulePieces_ne_nil (rule : String) (rest : List String) : rulePieces rule rest ≠ [] := by
  unfold rulePieces
  split <;> exact List.cons_ne_nil _ _

theorem chars_rulePieces {rule : String} {rest : List String}
    (h : ∀ r ∈ rule :: rest, '"' ∉ r.toList) :
    ∀ piece ∈ rulePieces rule rest, '"' ∉ piece.toList := by
  have hfixed : '"' ∉ "]\x7d".toList ∧ '"' ∉ ",".toList := by decide
  induction rest generalizing rule with
  | nil =>
    intro piece hpiece
    simp only [rulePieces, List.mem_cons, List.not_mem_nil, or_false] at hpiece
    rcases hpiece with rfl | rfl
    · exact h _ List.mem_cons_self
    · exact hfixed.1
  | cons next rest ih =>
    intro piece hpiece
    simp only [rulePieces, List.mem_cons] at hpiece
    rcases hpiece with rfl | rfl | hpiece
    · exact h _ List.mem_cons_self
    · exact hfixed.2
    · exact ih (fun r hr => h r (List.mem_cons_of_mem _ hr)) piece hpiece

theorem chars_pieces {rules : List String} (h : ∀ r ∈ rules, '"' ∉ r.toList) :
    ∀ piece ∈ pieces rules, '"' ∉ piece.toList := by
  cases rules with
  | nil =>
    intro piece hpiece
    simp only [pieces, List.mem_cons, List.not_mem_nil, or_false] at hpiece
    rcases hpiece with rfl | rfl | rfl | rfl | rfl <;> decide
  | cons rule rest =>
    intro piece hpiece
    rcases List.mem_append.mp hpiece with hpiece | hpiece
    · simp only [List.mem_cons, List.not_mem_nil, or_false] at hpiece
      rcases hpiece with rfl | rfl | rfl | rfl | rfl <;> decide
    · exact chars_rulePieces h piece hpiece

theorem utf8_append (a b : String) : utf8 (a ++ b) = utf8 a ++ utf8 b := by
  unfold utf8
  rw [String.toList_append, List.flatMap_append]

theorem length_rulePieces (rule : String) (rest : List String) :
    (utf8 (String.intercalate "\"" (rulePieces rule rest))).length
      = ((rule :: rest).map fun r => (utf8 r).length + 3).sum := by
  induction rest generalizing rule with
  | nil =>
    unfold rulePieces
    rw [String.intercalate_cons_cons, String.intercalate_singleton, utf8_append, utf8_append,
      List.length_append, List.length_append]
    have hfixed : (utf8 "\"").length + (utf8 "]\x7d").length = 3 := by decide
    simp only [List.map_cons, List.map_nil, List.sum_cons, List.sum_nil]
    omega
  | cons next rest ih =>
    unfold rulePieces
    rw [String.intercalate_cons_cons, String.intercalate_cons_of_ne_nil, utf8_append,
      utf8_append, utf8_append, utf8_append, List.map_cons, List.sum_cons, ← ih]
    · have hfixed : (utf8 "\"").length = 1 ∧ (utf8 ",").length = 1 := by decide
      simp only [List.length_append]
      omega
    · exact rulePieces_ne_nil next rest

theorem compact_json : json.Compact where
  lossless d raw h := by
    unfold json at h ⊢
    dsimp only at h ⊢
    split at h
    · next hplain =>
      obtain rfl := Option.some.inj h
      obtain ⟨version, rules⟩ := d
      obtain ⟨rfl, hrules⟩ := hplain
      have hne : pieces rules ≠ [] := by cases rules <;> exact List.cons_ne_nil _ _
      rw [show "\"" = String.ofList ['"'] from rfl,
        Config.split_intercalate _ _ (chars_pieces hrules) hne]
      cases rules with
      | nil => rfl
      | cons rule rest =>
        unfold pieces
        simp only [List.cons_append, List.nil_append]
        rw [rulesOf_rulePieces]
        rfl
    · cases h
  compact rules h := by
    have hquote : ∀ rule ∈ rules, '"' ∉ rule.toList := fun rule hrule hc =>
      (h rule hrule _ hc).2.2.1 rfl
    refine ⟨_, if_pos ⟨rfl, hquote⟩, ?_⟩
    cases rules with
    | nil => decide
    | cons rule rest =>
      have hlength := length_rulePieces rule rest
      have hstart : (utf8 (String.intercalate "\""
          ["\x7b", "version", ":1,", "rules", ":["])).length + (utf8 "\"").length ≤ 24 := by
        decide
      have hne := rulePieces_ne_nil rule rest
      dsimp only [pieces]
      rw [String.intercalate_append_of_ne_nil (List.cons_ne_nil _ _) hne, utf8_append,
        utf8_append, List.length_append, List.length_append, hlength]
      omega

/-- Two rules of one week. -/
def weekRules : List String := ["23:58-00:02, fri, Reject", "12:00-12:05, tue&thu, silent"]

def weekSchedules : List DndSchedule :=
  weekRules.filterMap fun rule => (DndSchedule.parse rule).toOption

def desk : DeviceId := ⟨"SEP001122334455"⟩

theorem weekSchedules_parsed (schedule : DndSchedule) (h : schedule ∈ weekSchedules) :
    ∃ text, DndSchedule.parse text = .ok schedule := by
  obtain ⟨rule, -, hrule⟩ := List.mem_filterMap.mp h
  refine ⟨rule, ?_⟩
  cases hparse : DndSchedule.parse rule with
  | error e =>
    rw [hparse] at hrule
    cases hrule
  | ok found =>
    rw [hparse] at hrule
    exact congrArg Except.ok (Option.some.inj hrule)

end Sample

/-- Two rules that are read, put as an override into an empty store, and loaded. -/
theorem schedule_text_roundTrip_json : Sample.weekSchedules.length = 2
    ∧ (∀ schedule ∈ Sample.weekSchedules, DndSchedule.parse schedule.display = .ok schedule)
    ∧ (putOverride Sample.json Sample.desk Sample.weekSchedules ⟨∅, []⟩).1 = .ok ()
    ∧ (loadOverride Sample.json Sample.desk
        (putOverride Sample.json Sample.desk Sample.weekSchedules ⟨∅, []⟩).2).1
      = .ok (some Sample.weekSchedules) := by
  obtain ⟨hdisplay, -, hstored⟩ := schedule_text_roundTrip Sample.compact_json
  have hput : (putOverride Sample.json Sample.desk Sample.weekSchedules ⟨∅, []⟩).1 = .ok () := by
    decide +kernel
  have hvalid : validateDndSchedules Sample.weekSchedules = .ok () := by decide +kernel
  have hloaded : (loadOverride Sample.json Sample.desk
      (putOverride Sample.json Sample.desk Sample.weekSchedules ⟨∅, []⟩).2).1.isOk = true := by
    decide +kernel
  obtain ⟨-, hload⟩ := hstored Sample.desk Sample.weekSchedules ⟨∅, []⟩
    Sample.weekSchedules_parsed hvalid
  refine ⟨by decide +kernel, fun schedule hmem => ?_, hput, ?_⟩
  · obtain ⟨rule, hrule⟩ := Sample.weekSchedules_parsed schedule hmem
    exact hdisplay rule schedule hrule
  · refine (hload hput).resolve_right ?_
    rintro ⟨e, h⟩
    rw [h] at hloaded
    cases hloaded

end Dnd

end Sccp
