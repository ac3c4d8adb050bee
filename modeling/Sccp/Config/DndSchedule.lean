/-
  Sccp.Config.DndSchedule

  Recurring weekly do-not-disturb schedules (`config/dnd_schedule.rs`).

  A schedule is a window of the day, the days it starts on and what becomes of calls in it.
  A window that ends before it starts runs over midnight; it is matched as two segments, the
  second one on the days after.
-/

import Sccp.Message.Codec

namespace Sccp

namespace Config

def MAX_DND_SCHEDULES : Nat := 32

def MAX_DND_SCHEDULE_BYTES : Nat := 128

def END_OF_DAY_MINUTE : Nat := 24 * 60

def MINUTES_PER_DAY : Nat := 24 * 60

def MINUTES_PER_WEEK : Nat := 7 * MINUTES_PER_DAY

/-- `str::eq_ignore_ascii_case`. -/
def eqIgnoreAsciiCase (a b : String) : Bool :=
  a.toList.map Char.toLower == b.toList.map Char.toLower

/-- `str::split` at a character. -/
def split (text : String) (separator : Char) : List String :=
  (text.toList.splitOn separator).map String.ofList

/-- Joined parts are split again, if the separator is in none of them. -/
theorem split_intercalate (parts : List String) (separator : Char)
    (h : ∀ part ∈ parts, separator ∉ part.toList) (hne : parts ≠ []) :
    split (String.intercalate (String.ofList [separator]) parts) separator = parts := by
  unfold split
  rw [String.toList_intercalate, String.toList_ofList, List.splitOn_intercalate]
  · rw [List.map_map]
    exact (List.map_congr_left fun part _ => String.ofList_toList).trans (List.map_id _)
  · intro l hl
    obtain ⟨part, hpart, rfl⟩ := List.mem_map.mp hl
    exact h part hpart
  · simpa using hne

/-! ## Days of the week -/

inductive Weekday where
  | monday | tuesday | wednesday | thursday | friday | saturday | sunday
  deriving DecidableEq

namespace Weekday

def all : List Weekday :=
  [.monday, .tuesday, .wednesday, .thursday, .friday, .saturday, .sunday]

def index : Weekday → Nat
  | .monday => 0
  | .tuesday => 1
  | .wednesday => 2
  | .thursday => 3
  | .friday => 4
  | .saturday => 5
  | .sunday => 6

def canonical : Weekday → String
  | .monday => "mon"
  | .tuesday => "tue"
  | .wednesday => "wed"
  | .thursday => "thu"
  | .friday => "fri"
  | .saturday => "sat"
  | .sunday => "sun"

def next : Weekday → Weekday
  | .monday => .tuesday
  | .tuesday => .wednesday
  | .wednesday => .thursday
  | .thursday => .friday
  | .friday => .saturday
  | .saturday => .sunday
  | .sunday => .monday

def parse (raw : String) : Option Weekday :=
  all.find? fun weekday => eqIgnoreAsciiCase (trim raw) weekday.canonical

end Weekday

/-- A set of weekdays, one bit a day from Monday on.  The eighth bit of its byte is never
    set. -/
structure WeekdaySet where
  bits : BitVec 7
  deriving DecidableEq

inductive DndScheduleMode where
  | silent
  | reject
  deriving DecidableEq

inductive DndScheduleParseError where
  | tooLong (bytes maximum : Nat)
  | invalidFormat
  | invalidTimeRange (raw : String)
  | invalidStartTime (raw : String)
  | invalidEndTime (raw : String)
  | equalTimes
  | invalidDays (raw : String)
  | invalidMode (raw : String)
  deriving DecidableEq

namespace WeekdaySet

def ofAll : WeekdaySet := ⟨BitVec.allOnes 7⟩

def contains (days : WeekdaySet) (day : Weekday) : Bool := days.bits.getLsbD day.index

def iter (days : WeekdaySet) : List Weekday := Weekday.all.filter days.contains

def shiftedToNextDay (days : WeekdaySet) : WeekdaySet := ⟨(days.bits <<< 1) ||| (days.bits >>> 6)⟩

def insert (days : WeekdaySet) (day : Weekday) : WeekdaySet := ⟨days.bits ||| (1#7 <<< day.index)⟩

/-- Inserts the days from one to another; no range has more than seven. -/
def insertRange (last : Weekday) : Nat → Weekday → WeekdaySet → WeekdaySet
  | 0, _, days => days
  | more + 1, day, days =>
    if day = last then days.insert day
    else insertRange last more day.next (days.insert day)

/-- One member of a union of days: a day or a range of days. -/
def insertPart (days : WeekdaySet) (part : String) : Option WeekdaySet :=
  if trim part = "" then none
  else
    match split (trim part) '-' with
    | [first] => (Weekday.parse first).map days.insert
    | [first, last] =>
      match Weekday.parse first, Weekday.parse last with
      | some first, some last => some (insertRange last 7 first days)
      | _, _ => none
    | _ => none

def parse (raw : String) : Except DndScheduleParseError WeekdaySet :=
  if trim raw = "*" then .ok ofAll
  else if trim raw = "" ∨ '*' ∈ (trim raw).toList then .error (.invalidDays (trim raw))
  else
    match (split (trim raw) '&').foldlM insertPart ⟨0⟩ with
    | none => .error (.invalidDays (trim raw))
    | some days => if days.bits = 0 then .error (.invalidDays (trim raw)) else .ok days

/-- The runs of consecutive days, the first and the last day of each. -/
def runsFrom (start last : Weekday) : List Weekday → List (Weekday × Weekday)
  | [] => [(start, last)]
  | day :: rest =>
    if day.index = last.index + 1 then runsFrom start day rest
    else (start, last) :: runsFrom day day rest

def runs : List Weekday → List (Weekday × Weekday)
  | [] => []
  | day :: rest => runsFrom day day rest

def display (days : WeekdaySet) : String :=
  if days = ofAll then "*"
  else
    "&".intercalate ((runs days.iter).map fun (start, last) =>
      if start = last then start.canonical else start.canonical ++ "-" ++ last.canonical)

end WeekdaySet

/-! ## Schedules -/

/-- One same-day half-open range within a weekly schedule. -/
structure DndScheduleSegment where
  startMinute : Nat
  endMinuteExclusive : Nat
  weekdays : WeekdaySet
  deriving DecidableEq

inductive DndScheduleEnd where
  | minute (minute : Nat)
  | endOfDay
  deriving DecidableEq

namespace DndScheduleEnd

def toMinute : DndScheduleEnd → Nat
  | minute m => m
  | endOfDay => 0

def effectiveMinute : DndScheduleEnd → Nat
  | minute m => m
  | endOfDay => END_OF_DAY_MINUTE

/-- The end a clock stands for. -/
def ofClock (minute : Nat) : DndScheduleEnd :=
  if minute = END_OF_DAY_MINUTE then .endOfDay else .minute minute

end DndScheduleEnd

/-- A weekly window, its start inclusive and its end exclusive. -/
structure DndSchedule where
  startMinute : Nat
  endTime : DndScheduleEnd
  weekdays : WeekdaySet
  mode : DndScheduleMode
  start_lt : startMinute < END_OF_DAY_MINUTE
  end_lt : endTime = .endOfDay
    ∨ endTime.toMinute < END_OF_DAY_MINUTE ∧ startMinute ≠ endTime.toMinute
  deriving DecidableEq

def pad2 (n : Nat) : String := if n < 10 then "0" ++ toString n else toString n

def formatMinute (minute : Nat) : String := pad2 (minute / 60) ++ ":" ++ pad2 (minute % 60)

namespace DndSchedule

def timingSegments (schedule : DndSchedule) : List DndScheduleSegment :=
  if schedule.startMinute < schedule.endTime.effectiveMinute then
    [⟨schedule.startMinute, schedule.endTime.effectiveMinute, schedule.weekdays⟩]
  else
    ⟨schedule.startMinute, END_OF_DAY_MINUTE, schedule.weekdays⟩
      :: if schedule.endTime.toMinute ≠ 0 then
          [⟨0, schedule.endTime.toMinute, schedule.weekdays.shiftedToNextDay⟩]
        else []

def durationMinutes (schedule : DndSchedule) : Nat :=
  if schedule.startMinute < schedule.endTime.effectiveMinute then
    schedule.endTime.effectiveMinute - schedule.startMinute
  else MINUTES_PER_DAY - schedule.startMinute + schedule.endTime.effectiveMinute

/-- Whether the window contains a minute of a local day. -/
def matchesAt (schedule : DndSchedule) (weekday : Weekday) (minute : Nat) : Bool :=
  schedule.timingSegments.any fun segment =>
    segment.weekdays.contains weekday
      && segment.startMinute ≤ minute && minute < segment.endMinuteExclusive

end DndSchedule

/-! ## Text -/

def digit (c : Char) : Option Nat := if c.isDigit then some (c.toNat - '0'.toNat) else none

/-- Hour and minute of a five character clock. -/
def clockDigits (raw : String) : Option (Nat × Nat) :=
  match raw.toList with
  | [h₁, h₂, ':', m₁, m₂] => do
      some ((← digit h₁) * 10 + (← digit h₂), (← digit m₁) * 10 + (← digit m₂))
  | _ => none

def invalidClock (raw : String) (isEnd : Bool) : DndScheduleParseError :=
  if isEnd then .invalidEndTime raw else .invalidStartTime raw

/-- The minute of a clock; only an end may be `24:00`. -/
def parseClock (raw : String) (isEnd : Bool) : Except DndScheduleParseError Nat :=
  match clockDigits raw with
  | none => .error (invalidClock raw isEnd)
  | some (hour, minute) =>
    if 59 < minute ∨ 24 < hour ∨ hour = 24 ∧ (isEnd = false ∨ minute ≠ 0) then
      .error (invalidClock raw isEnd)
    else .ok (hour * 60 + minute)

def DndScheduleMode.canonical : DndScheduleMode → String
  | .silent => "silent"
  | .reject => "reject"

def DndScheduleMode.parse (raw : String) : Except DndScheduleParseError DndScheduleMode :=
  if eqIgnoreAsciiCase raw "silent" then .ok .silent
  else if eqIgnoreAsciiCase raw "reject" then .ok .reject
  else .error (.invalidMode raw)

namespace DndSchedule

/-- The texts of the start and of the end of a window. -/
def timeRange (raw : String) : Except DndScheduleParseError (String × String) :=
  match (split raw '-').map trim with
  | [start, last] =>
    if start = "" ∨ last = "" then .error (.invalidTimeRange raw) else .ok (start, last)
  | _ => .error (.invalidTimeRange raw)

def fromStr (raw : String) : Except DndScheduleParseError DndSchedule :=
  if MAX_DND_SCHEDULE_BYTES < (utf8 raw).length then
    .error (.tooLong (utf8 raw).length MAX_DND_SCHEDULE_BYTES)
  else
    match (split raw ',').map trim with
    | [times, days, modeText] =>
      if times = "" then .error .invalidFormat
      else do
        let (startRaw, endRaw) ← timeRange times
        let startMinute ← parseClock startRaw false
        let endTime := DndScheduleEnd.ofClock (← parseClock endRaw true)
        -- the clocks are in range: what is refused here is a window that ends as it starts
        if h : startMinute < END_OF_DAY_MINUTE ∧ (endTime = .endOfDay
            ∨ endTime.toMinute < END_OF_DAY_MINUTE ∧ startMinute ≠ endTime.toMinute) then
          let weekdays ← WeekdaySet.parse days
          let mode ← DndScheduleMode.parse modeText
          .ok { startMinute, endTime, weekdays, mode, start_lt := h.1, end_lt := h.2 }
        else .error .equalTimes
    | _ => .error .invalidFormat

def parse (raw : String) : Except DndScheduleParseError DndSchedule := fromStr raw

def display (schedule : DndSchedule) : String :=
  let last := match schedule.endTime with
    | .minute minute => formatMinute minute
    | .endOfDay => "24:00"
  formatMinute schedule.startMinute ++ "-" ++ last ++ ", " ++ schedule.weekdays.display ++ ", "
    ++ schedule.mode.canonical

end DndSchedule

/-! ## Validation -/

inductive DndScheduleValidationError where
  | tooMany (count maximum : Nat)
  | overlap (first second : Nat) (weekday : Weekday) (time : String)
  deriving DecidableEq

/-- The minutes of the week a schedule covers, as they are visited. -/
def DndSchedule.minutes (schedule : DndSchedule) : List Nat :=
  schedule.weekdays.iter.flatMap fun weekday =>
    (List.range schedule.durationMinutes).map fun offset =>
      (weekday.index * MINUTES_PER_DAY + schedule.startMinute + offset) % MINUTES_PER_WEEK

/-- The day that a minute of the week belongs to. -/
def weekdayOfMinute (minute : Nat) : Weekday :=
  (Weekday.all[minute / MINUTES_PER_DAY]?).getD .monday

/-- The schedule that has taken each minute of the week. -/
abbrev Occupied := Nat → Option Nat

def occupy (index : Nat) (occupied : Occupied) (minute : Nat) :
    Except DndScheduleValidationError Occupied :=
  match occupied minute with
  | some previous =>
    .error (.overlap (previous + 1) (index + 1) (weekdayOfMinute minute)
      (formatMinute (minute % MINUTES_PER_DAY)))
  | none => .ok (Function.update occupied minute (some index))

def occupySchedule (occupied : Occupied) (numbered : DndSchedule × Nat) :
    Except DndScheduleValidationError Occupied :=
  numbered.1.minutes.foldlM (occupy numbered.2) occupied

def validateDndSchedules (schedules : List DndSchedule) : Except DndScheduleValidationError Unit :=
  if MAX_DND_SCHEDULES < schedules.length then
    .error (.tooMany schedules.length MAX_DND_SCHEDULES)
  else (schedules.zipIdx.foldlM occupySchedule fun _ => none).map fun _ => ()

example : (DndSchedule.parse "22:00-07:00, fri-mon, Reject").map DndSchedule.display
    = .ok "22:00-07:00, mon&fri-sun, reject" := by decide

end Config

end Sccp
