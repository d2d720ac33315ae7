import BoarPack.Library.FirstAppearance
import BoarPack.Timeline.Conservation

/-! The charts of the timelines: the labels under the bars of event logs, and a click on a bar, which asks for the
timeline of its interval. Between the two a time is the text of a `Date`, in milliseconds. -/
namespace BoarPack.Timeline
open Buckets EventLogs

variable {R G : Type}

namespace EventLogsTimeline

def domain : List String := ["Info","Warning","Error"]

/-- The bars stand at the times of the rows, in the order of their first appearance. -/
def ticks (data : List (TimelineRow LogLevel)) : List Int := (data.map TimelineRow.startTime).eraseDups

/-- `toChar`: the text that the query makes of the time of a row. -/
def labelFormatter (toChar : Int → String) (data : List (TimelineRow LogLevel)) (i : Nat) : Option String :=
  (data[i * domain.length]?).map (fun row => toChar row.startTime)

end EventLogsTimeline

/-- `onDateRangeChange(data.startTime, data.endTime)`, and the request that it leads to. -/
def Range.clicked (range : Range) (bar : TimelineRow G) : Range :=
  ⟨range.zone,bar.startTime / 1000,bar.endTime / 1000⟩

def TInterval.finer : TInterval → TInterval
  | .week => .day
  | .day => .hour
  | .hour => .minute
  | .minute => .second
  | .second => .second

/-- What a table shows of a group beside the chart, with `baseFilters` of the range. -/
def Query.listed (query : Query R G) (bar : TimelineRow G) (table : List R) : List R :=
  table.filter (fun row => query.belongs row bar.group ∧ bar.startTime ≤ query.createdAt row ∧
    query.createdAt row ≤ bar.endTime)

section Labels

theorem getElem?_rows (make : Int → LogLevel → TimelineRow LogLevel) (times : List Int) (i : Nat) :
    (times.flatMap (fun time => [make time .info,make time .warning,make time .error]))[i * 3]? =
      (times[i]?).map (fun time => make time .info) := by
  induction times generalizing i with
  | nil => simp
  | cons time rest ih =>
    cases i with
    | zero => rfl
    | succ i =>
      have three : (i + 1) * 3 = i * 3 + 3 := by omega
      rw [List.flatMap_cons,three]
      simpa using ih i

/-- The label under each bar of the event logs is the time of the bar, whatever is asked for; and there are no more
labels than bars. -/
theorem labels_name_bars (toChar : Int → String) (table : List EventLogRow) (now : Int) (startTime endTime : Option Int)
    (timezone : Option Zone) (data : List (TimelineRow LogLevel))
    (answered : EventLogsService.getTimeline table now startTime endTime timezone = some data) (i : Nat) :
    EventLogsTimeline.labelFormatter toChar data i = ((EventLogsTimeline.ticks data)[i]?).map toChar := by
  generalize ranged : EventLogsService.range table now startTime endTime timezone = range at *
  have rows : data = EventLogsService.query.rows range table := by
    rw [EventLogsService.getTimeline,ranged,Query.timeline] at answered
    split at answered
    next all => exact (Option.some.inj answered).symm
    next => cases answered
  have triples : EventLogsService.query.rows range table = range.timeSeries.flatMap (fun time =>
      [EventLogsService.query.row range table time .info,EventLogsService.query.row range table time .warning,
        EventLogsService.query.row range table time .error]) := rfl
  have times : EventLogsTimeline.ticks data = range.timeSeries := by
    have own : range.timeSeries.Nodup := series_nodup _ _ _ (length_pos range.interval)
    rw [EventLogsTimeline.ticks,rows,triples,List.map_flatMap]
    exact FirstAppearance.eraseDups_flatMap (fun time => [time,time,time])
      (fun time => by simp [List.eraseDups_cons]) _ own
  rw [times,EventLogsTimeline.labelFormatter,rows,triples]
  have third := getElem?_rows (EventLogsService.query.row range table) range.timeSeries i
  rw [show EventLogsTimeline.domain.length = 3 from rfl,third,Option.map_map]
  rfl

end Labels

section Clicks

private theorem floorTo_eq_iff (anchor length time start : Int) (positive : 0 < length)
    (grid : length ∣ start - anchor) :
    floorTo anchor length time = start ↔ start ≤ time ∧ time < start + length := by
  obtain ⟨k,begun⟩ := grid
  have division := Int.mul_ediv_add_emod (time - anchor) length
  have low := Int.emod_nonneg (time - anchor) (Int.ne_of_gt positive)
  have high := Int.emod_lt_of_pos (time - anchor) positive
  unfold floorTo
  constructor
  · intro same
    omega
  · intro inside
    have quotient : (time - anchor) / length = k := by
      rw [Int.ediv_eq_iff_of_pos positive]
      rw [Int.mul_comm]
      omega
    rw [quotient] at division
    omega

private theorem second_dvd (interval : TInterval) : second ∣ interval.length ∧ second ∣ momentAnchor interval := by
  cases interval <;> decide

/-- The bars start at whole seconds. -/
theorem second_dvd_series (range : Range) (time : Int) (member : time ∈ range.timeSeries) : second ∣ time := by
  obtain ⟨apart,_⟩ := (mem_series _ _ _ _ (length_pos range.interval)).mp member
  obtain ⟨of_length,of_anchor⟩ := second_dvd range.interval
  have floored : second ∣ startOfLocal range.zone range.interval (timestamp range.startTime) := by
    have grid := of_length.trans (floorTo_dvd (momentAnchor range.interval) range.interval.length
      (timestamp range.startTime + range.zone.offset (timestamp range.startTime) * second))
    exact (Int.dvd_iff_dvd_of_dvd_sub grid).mpr of_anchor
  have begun : second ∣ range.startTimeIntervalBegin := Int.dvd_sub floored (Int.dvd_mul_left _ _)
  exact (Int.dvd_iff_dvd_of_dvd_sub (of_length.trans apart)).mpr begun

private theorem timestamp_div {time : Int} (whole : second ∣ time) : timestamp (time / 1000) = time := by
  obtain ⟨seconds,rfl⟩ := whole
  unfold timestamp second
  omega

private theorem zoomed_interval (range : Range) (bar : TimelineRow G) (start : second ∣ bar.startTime)
    (lasts : bar.endTime = bar.startTime + range.interval.length) :
      (range.clicked bar).interval = range.interval.finer := by
  obtain ⟨seconds,begun⟩ := start
  have duration : bar.endTime / 1000 - bar.startTime / 1000 = range.interval.length / 1000 := by
    rw [lasts,begun]
    obtain ⟨length,whole⟩ := (second_dvd range.interval).1
    rw [whole]
    unfold second
    omega
  rw [Range.interval,Range.clicked,determineInterval,duration]
  cases range.interval <;> rfl

variable [DecidableEq G]

theorem mem_rows (query : Query R G) (range : Range) (table : List R) (bar : TimelineRow G) :
    bar ∈ query.rows range table ↔
      ∃ time ∈ range.timeSeries, ∃ group ∈ query.groups, bar = query.row range table time group := by
  simp only [Query.rows,List.mem_flatMap,List.mem_map,List.mem_dedup,eq_comm]

section Fixed

variable {range : Range} {offset : Int} (fixed : range.zone = .fixed offset) (fine : range.interval ≠ .week)

include fixed fine in
private theorem bucket_fixed (createdAt : Int) :
    range.bucket createdAt = floorTo 0 range.interval.length (createdAt + offset * second) - offset * second := by
  have anchor : truncAnchor range.interval = 0 := by
    cases interval : range.interval <;> simp_all [truncAnchor]
  have read : truncOffset (.fixed offset) range.interval createdAt = offset := by
    cases range.interval <;> rfl
  rw [Range.bucket,dateTrunc,truncLocal,fixed,anchor,read]
  rfl

include fixed fine in
private theorem series_fixed {time : Int} (member : time ∈ range.timeSeries) :
    range.interval.length ∣ time + offset * second := by
  have anchor : momentAnchor range.interval = 0 := by
    cases interval : range.interval <;> simp_all [momentAnchor]
  obtain ⟨apart,_⟩ := (mem_series _ _ _ _ (length_pos range.interval)).mp member
  have grid := floorTo_dvd 0 range.interval.length (timestamp range.startTime + offset * second)
  have begun : range.startTimeIntervalBegin =
      floorTo 0 range.interval.length (timestamp range.startTime + offset * second) - offset * second := by
    rw [Range.startTimeIntervalBegin,startOf,startOfOffset,startOfLocal,fixed,anchor]
    rfl
  rw [begun] at apart
  have sum := Int.dvd_add apart grid
  have same : time - (floorTo 0 range.interval.length (timestamp range.startTime + offset * second) - offset * second) +
      (floorTo 0 range.interval.length (timestamp range.startTime + offset * second) - 0) = time +
        offset * second := by omega
  rwa [same] at sum

include fixed fine in
private theorem bucket_eq_iff {time : Int} (member : time ∈ range.timeSeries) (createdAt : Int) :
    range.bucket createdAt = time ↔ time ≤ createdAt ∧ createdAt < time + range.interval.length := by
  have grid : range.interval.length ∣ time + offset * second - 0 := by
    rw [Int.sub_zero]
    exact series_fixed fixed fine member
  have floored := floorTo_eq_iff 0 range.interval.length (createdAt + offset * second) (time + offset * second)
    (length_pos range.interval) grid
  rw [bucket_fixed fixed fine]
  constructor
  · intro same
    have inside := floored.mp (by omega)
    omega
  · intro inside
    have same := floored.mpr (by omega)
    omega

end Fixed

theorem sum_disjoint (table : List R) (whole first second_ : R → Prop) [DecidablePred whole] [DecidablePred first]
    [DecidablePred second_] (parts : ∀ row, whole row ↔ first row ∨ second_ row)
    (apart : ∀ row, first row → ¬ second_ row) (number : R → Int) :
    ((table.filter (fun row => whole row)).map number).sum =
      ((table.filter (fun row => first row)).map number).sum +
        ((table.filter (fun row => second_ row)).map number).sum := by
  induction table with
  | nil => rfl
  | cons row rest ih =>
    by_cases early : first row
    · have late := apart row early
      simp [parts,early,late] at ih ⊢
      omega
    · by_cases late : second_ row
      · simp [parts,early,late] at ih ⊢
        omega
      · simp [parts,early,late] at ih ⊢
        omega

/-- The number on a bar inside the range is that of the rows between its ends. -/
private theorem row_records (query : Query R G) (table : List R) (group : G) (distinct : query.groups.Nodup)
    (listed : group ∈ query.groups) {range : Range} {offset : Int} (fixed : range.zone = .fixed offset)
    (fine : range.interval ≠ .week) {time : Int} (member : time ∈ range.timeSeries)
    (begun : timestamp range.startTime ≤ time) (ended : time + range.interval.length ≤ timestamp range.endTime) :
    (query.row range table time group).records = ((table.filter (fun row => query.belongs row group = true ∧
      time ≤ query.createdAt row ∧ query.createdAt row < time + range.interval.length)).map query.number).sum := by
  have once := Containers.countP_eq_one query.groups distinct group listed
  unfold Query.row
  dsimp only
  rw [joined_once query range table group (fun _ _ => once) time,Query.inRange,List.filter_filter]
  apply congrArg (fun rows : List R => (rows.map query.number).sum)
  apply List.filter_congr
  intro row _
  have bucketed := bucket_eq_iff fixed fine member (query.createdAt row)
  rw [← Bool.decide_and,decide_eq_decide,bucketed]
  constructor
  · intro both
    exact ⟨both.2.1,both.1⟩
  · intro both
    exact ⟨both.2,both.1,by omega,by omega⟩

/-- A click on a bar, in a zone that does not change its clocks: the timeline that it leads to is in the next finer
interval, and counts the group of the bar as a table of its range lists it; which is what the bar counted, where its
interval is inside the range, and the rows at the very end of it. -/
theorem click_conserves (query : Query R G) (distinct : query.groups.Nodup) (range : Range) (offset : Int)
    (fixed : range.zone = .fixed offset) (table : List R) (bar : TimelineRow G) (shown : bar ∈ query.rows range table)
    (fits : query.Fits (range.clicked bar) table) :
    (range.clicked bar).interval = range.interval.finer ∧
      (∃ rows, query.timeline (range.clicked bar) table = some rows ∧
        ((rows.filter (fun row => row.group = bar.group)).map TimelineRow.records).sum =
          ((query.listed bar table).map query.number).sum) ∧
      (range.interval ≠ .week → timestamp range.startTime ≤ bar.startTime → bar.endTime ≤ timestamp range.endTime →
        ((query.listed bar table).map query.number).sum = bar.records +
          ((table.filter (fun row => query.belongs row bar.group ∧ query.createdAt row = bar.endTime)).map
            query.number).sum) := by
  obtain ⟨time,member,group,listed,rfl⟩ := (mem_rows query range table bar).mp shown
  have start := second_dvd_series range time member
  have stop : second ∣ time + range.interval.length := Int.dvd_add start (second_dvd range.interval).1
  have finer := zoomed_interval range (query.row range table time group) start rfl
  refine ⟨finer,?_,?_⟩
  · have fine : (range.clicked (query.row range table time group)).interval ≠ .week := by
      rw [finer]
      cases range.interval <;> decide
    have aligned : query.Aligned (range.clicked (query.row range table time group)) table := fun other _ row inside =>
      (onGrid_inRange query (range.clicked (query.row range table time group)) table offset fixed other row
        inside).mpr fine
    obtain ⟨rows,answered,counted⟩ := (conserves_iff_aligned query _ table distinct).mpr ⟨aligned,fits⟩
    refine ⟨rows,answered,?_⟩
    have same : query.inRange (range.clicked (query.row range table time group)) table group =
        query.listed (query.row range table time group) table := by
      unfold Query.inRange Query.listed Range.clicked Query.row
      dsimp only
      rw [timestamp_div start,timestamp_div stop]
    rw [← same]
    exact (counted group listed).1
  · intro fine begun ended
    rw [row_records query table group distinct listed fixed fine member begun ended]
    apply sum_disjoint
    · intro row
      have positive := length_pos range.interval
      change query.belongs row group = true ∧ time ≤ query.createdAt row ∧
          query.createdAt row ≤ time + range.interval.length ↔ _ ∨
        query.belongs row group = true ∧ query.createdAt row = time + range.interval.length
      constructor
      · intro inside
        rcases Int.lt_or_eq_of_le inside.2.2 with before | last
        · exact Or.inl ⟨inside.1,inside.2.1,before⟩
        · exact Or.inr ⟨inside.1,last⟩
      · intro parts
        rcases parts with early | last
        · exact ⟨early.1,early.2.1,Int.le_of_lt early.2.2⟩
        · exact ⟨last.1,by omega,by omega⟩
    · intro row early last
      exact absurd last.2 (Int.ne_of_lt early.2.2)

end Clicks

/-- Two minutes of 2026, and logs in the first one and where the second one begins. -/
def twoMinutes : Range := ⟨.utc,1767225600000,1767225720000⟩

def minuteLogs : List EventLogRow := [⟨.info,timestamp 1767225630000⟩,⟨.info,timestamp 1767225660000⟩]

def firstMinute : TimelineRow LogLevel :=
  EventLogsService.query.row twoMinutes minuteLogs (timestamp 1767225600000) .info

theorem minute_labels : ∃ data,
    EventLogsService.getTimeline minuteLogs 0 (some twoMinutes.startTime) (some twoMinutes.endTime) none = some data ∧
      EventLogsTimeline.labelFormatter Int.repr data 1 = ((EventLogsTimeline.ticks data)[1]?).map Int.repr :=
  ⟨_,rfl,labels_name_bars Int.repr minuteLogs 0 (some twoMinutes.startTime) (some twoMinutes.endTime) none _ rfl 1⟩

theorem first_minute_clicked : (twoMinutes.clicked firstMinute).interval = twoMinutes.interval.finer ∧
    (∃ rows, EventLogsService.query.timeline (twoMinutes.clicked firstMinute) minuteLogs = some rows ∧
      ((rows.filter (fun row => row.group = firstMinute.group)).map TimelineRow.records).sum =
        ((EventLogsService.query.listed firstMinute minuteLogs).map EventLogsService.query.number).sum) ∧
    (twoMinutes.interval ≠ .week → timestamp twoMinutes.startTime ≤ firstMinute.startTime →
      firstMinute.endTime ≤ timestamp twoMinutes.endTime →
        ((EventLogsService.query.listed firstMinute minuteLogs).map EventLogsService.query.number).sum =
          firstMinute.records +
          ((minuteLogs.filter (fun row => EventLogsService.query.belongs row firstMinute.group ∧
            EventLogsService.query.createdAt row = firstMinute.endTime)).map EventLogsService.query.number).sum) :=
  click_conserves EventLogsService.query (by decide) twoMinutes 0 rfl minuteLogs firstMinute
    ((mem_rows _ _ _ _).mpr ⟨timestamp 1767225600000,by decide,.info,by decide,rfl⟩) (by unfold Query.Fits; decide)

end BoarPack.Timeline
