import BoarPack.Library.Containers
import BoarPack.Timeline.Service
import Mathlib.Algebra.Ring.Divisibility.Basic

/-! A timeline is meant to count every row of its range in one bucket. The buckets are
stepped in UTC from where moment starts the first interval, and the rows are put where
Postgres starts theirs; the two meet iff the offsets in force at both are whole
intervals apart, which for weeks, a day apart already, never happens in a fixed zone. -/
namespace BoarPack.Timeline
open Buckets EventLogs

variable {R G : Type} [DecidableEq G]

def Query.listings (query : Query R G) (group : G) : Nat := query.groups.countP (fun listed => listed = group)

/-- The result is there, its records sum up for each group to the rows in range, and
each of these is joined to one of the buckets, once. -/
def Query.Conserves (query : Query R G) (range : Range) (table : List R)
    (result : Option (List (TimelineRow G))) : Prop :=
  ∃ rows, result = some rows ∧ ∀ group ∈ query.groups,
    ((rows.filter (fun row => row.group = group)).map TimelineRow.records).sum =
      ((query.inRange range table group).map query.number).sum ∧
    (range.timeSeries.flatMap (fun time => query.joined range table time group)).Perm
      (query.inRange range table group)

def Query.Fits (query : Query R G) (range : Range) (table : List R) : Prop :=
  ∀ group ∈ query.groups, ∀ time ∈ range.timeSeries,
    castsToInt (((query.inRange range table group).filter
      (fun row => range.bucket (query.createdAt row) = time)).map query.number).sum

/-- The start of the interval of a row is on the series: Postgres reads it with an offset
that is whole intervals away from the one moment reads the first bucket with, weeks of the
two being a day apart, and it does not fall before the first bucket or behind the last. -/
structure OnGrid (range : Range) (createdAt : Int) : Prop where
  offsets : range.interval.length ∣
    (truncOffset range.zone range.interval createdAt -
      startOfOffset range.zone range.interval (timestamp range.startTime)) * second -
    (truncAnchor range.interval - momentAnchor range.interval)
  begun : range.startTimeIntervalBegin ≤ range.bucket createdAt
  ended : range.bucket createdAt ≤ range.endTimeIntervalBegin

def Query.Aligned (query : Query R G) (range : Range) (table : List R) : Prop :=
  ∀ group ∈ query.groups, ∀ row ∈ query.inRange range table group, OnGrid range (query.createdAt row)

theorem length_pos (interval : TInterval) : 0 < interval.length := by
  cases interval <;> decide

theorem floorTo_dvd (anchor length time : Int) : length ∣ floorTo anchor length time - anchor :=
  ⟨(time - anchor) / length,by
    have division := Int.mul_ediv_add_emod (time - anchor) length
    unfold floorTo
    omega⟩

private theorem floorTo_mono (anchor length : Int) (positive : 0 < length) {time later : Int} (ordered : time ≤ later) :
    floorTo anchor length time ≤ floorTo anchor length later := by
  have before := Int.mul_ediv_add_emod (time - anchor) length
  have after := Int.mul_ediv_add_emod (later - anchor) length
  have quotients : (time - anchor) / length ≤ (later - anchor) / length :=
    Int.ediv_le_ediv positive (Int.sub_le_sub_right ordered anchor)
  have products := Int.mul_le_mul_of_nonneg_left quotients (Int.le_of_lt positive)
  unfold floorTo
  omega

private theorem bucket_mem_timeSeries (range : Range) (createdAt : Int) :
    range.bucket createdAt ∈ range.timeSeries ↔ OnGrid range createdAt := by
  have row : range.interval.length ∣
      truncLocal range.zone range.interval createdAt - truncAnchor range.interval := floorTo_dvd _ _ _
  have first : range.interval.length ∣
      startOfLocal range.zone range.interval (timestamp range.startTime) - momentAnchor range.interval :=
    floorTo_dvd _ _ _
  have apart : range.bucket createdAt - range.startTimeIntervalBegin =
      (truncLocal range.zone range.interval createdAt - truncAnchor range.interval -
        (startOfLocal range.zone range.interval (timestamp range.startTime) - momentAnchor range.interval)) -
      ((truncOffset range.zone range.interval createdAt -
          startOfOffset range.zone range.interval (timestamp range.startTime)) * second -
        (truncAnchor range.interval - momentAnchor range.interval)) := by
    rw [Int.sub_mul]
    unfold Range.bucket dateTrunc Range.startTimeIntervalBegin startOf
    omega
  unfold Range.timeSeries
  rw [mem_series _ _ _ _ (length_pos range.interval),apart,dvd_sub_right (Int.dvd_sub row first)]
  exact ⟨fun all => ⟨all.1,all.2.1,all.2.2⟩,fun grid => ⟨grid.offsets,grid.begun,grid.ended⟩⟩

structure Steady (range : Range) (offset : Int) (createdAt : Int) : Prop where
  start : range.zone.offset (timestamp range.startTime) = offset
  startBegin : startOfOffset range.zone range.interval (timestamp range.startTime) = offset
  stop : range.zone.offset (timestamp range.endTime) = offset
  stopBegin : startOfOffset range.zone range.interval (timestamp range.endTime) = offset
  row : range.zone.offset createdAt = offset
  rowBegin : truncOffset range.zone range.interval createdAt = offset

private theorem steady_fixed (range : Range) (offset : Int) (fixed : range.zone = .fixed offset) (createdAt : Int) :
    Steady range offset createdAt := by
  have read : truncOffset (.fixed offset) range.interval createdAt = offset := by
    cases range.interval <;> rfl
  constructor <;> rw [fixed]
  all_goals first | rfl | exact read

private theorem onGrid_steady {range : Range} {offset createdAt : Int} (steady : Steady range offset createdAt)
    (begun : timestamp range.startTime ≤ createdAt) (ended : createdAt ≤ timestamp range.endTime) :
    OnGrid range createdAt ↔ range.interval ≠ .week := by
  constructor
  · intro grid week
    have offsets := grid.offsets
    rw [steady.rowBegin,steady.startBegin,week,Int.sub_self,Int.zero_mul] at offsets
    revert offsets
    decide
  · intro fine
    have anchors : momentAnchor range.interval = 0 ∧ truncAnchor range.interval = 0 := by
      cases interval : range.interval <;> simp_all [momentAnchor,truncAnchor]
    have row : range.bucket createdAt =
        floorTo 0 range.interval.length (createdAt + offset * second) - offset * second := by
      rw [Range.bucket,dateTrunc,steady.rowBegin,truncLocal,steady.row,anchors.2]
    have first : range.startTimeIntervalBegin =
        floorTo 0 range.interval.length (timestamp range.startTime + offset * second) - offset * second := by
      rw [Range.startTimeIntervalBegin,startOf,steady.startBegin,startOfLocal,steady.start,anchors.1]
    have last : range.endTimeIntervalBegin =
        floorTo 0 range.interval.length (timestamp range.endTime + offset * second) - offset * second := by
      rw [Range.endTimeIntervalBegin,startOf,steady.stopBegin,startOfLocal,steady.stop,anchors.1]
    have positive := length_pos range.interval
    refine ⟨?_,?_,?_⟩
    · rw [steady.rowBegin,steady.startBegin,anchors.1,anchors.2]
      simp
    · rw [row,first]
      exact Int.sub_le_sub_right (floorTo_mono 0 _ positive (Int.add_le_add_right begun _)) _
    · rw [row,last]
      exact Int.sub_le_sub_right (floorTo_mono 0 _ positive (Int.add_le_add_right ended _)) _

omit [DecidableEq G] in
theorem onGrid_inRange (query : Query R G) (range : Range) (table : List R) (offset : Int)
    (fixed : range.zone = .fixed offset) (group : G) (row : R) (member : row ∈ query.inRange range table group) :
    OnGrid range (query.createdAt row) ↔ range.interval ≠ .week := by
  obtain ⟨_,inside⟩ := List.mem_filter.mp member
  obtain ⟨_,begun,ended⟩ := of_decide_eq_true inside
  exact onGrid_steady (steady_fixed range offset fixed (query.createdAt row)) begun ended

private theorem joined_eq (query : Query R G) (range : Range) (table : List R) (time : Int) (group : G) :
    query.joined range table time group =
      (List.replicate (query.listings group)
        ((query.inRange range table group).filter (fun row => range.bucket (query.createdAt row) = time))).flatten := by
  unfold Query.joined Query.listings
  generalize (query.inRange range table group).filter _ = rows
  induction query.groups with
  | nil => rfl
  | cons listed rest ih =>
    by_cases same : listed = group
    · simp [same,ih,List.replicate_succ]
    · simp [same,ih]

theorem joined_perm_iff (query : Query R G) (range : Range) (table : List R) (group : G) :
    (range.timeSeries.flatMap (fun time => query.joined range table time group)).Perm
      (query.inRange range table group) ↔
    ∀ row ∈ query.inRange range table group, OnGrid range (query.createdAt row) ∧ query.listings group = 1 := by
  classical
  simp only [joined_eq]
  have distinct : range.timeSeries.Nodup := series_nodup _ _ _ (length_pos range.interval)
  have divided := divided_perm_iff (query.listings group) range.timeSeries distinct
    (query.inRange range table group) (fun row => range.bucket (query.createdAt row))
  simp only [bucket_mem_timeSeries] at divided
  exact divided

private theorem rows_of_group (query : Query R G) (range : Range) (table : List R) (group : G)
    (listed : group ∈ query.groups) :
    (query.rows range table).filter (fun row => row.group = group) =
      range.timeSeries.map (fun time => query.row range table time group) := by
  have one (time : Int) : (query.groups.dedup.map (query.row range table time)).filter (fun row => row.group = group) =
      [query.row range table time group] := by
    have single : query.groups.dedup.filter (fun other => other = group) = [group] := by
      rw [List.filter_eq,List.count_dedup,if_pos listed]
      rfl
    rw [List.filter_map]
    exact congrArg (List.map (query.row range table time)) single
  unfold Query.rows
  induction range.timeSeries with
  | nil => rfl
  | cons time rest ih => rw [List.flatMap_cons,List.filter_append,one,ih]; rfl

theorem records_sum (query : Query R G) (range : Range) (table : List R) (group : G) (listed : group ∈ query.groups) :
    (((query.rows range table).filter (fun row => row.group = group)).map TimelineRow.records).sum =
      ((range.timeSeries.flatMap (fun time => query.joined range table time group)).map query.number).sum := by
  rw [rows_of_group query range table group listed,List.map_map]
  induction range.timeSeries with
  | nil => rfl
  | cons time rest ih =>
    rw [List.map_cons,List.sum_cons,ih,List.flatMap_cons,List.map_append,List.sum_append]
    rfl

private theorem timeline_casts (query : Query R G) (range : Range) (table : List R) :
    (query.rows range table).all (fun row => castsToInt row.records) ↔
      ∀ group ∈ query.groups, ∀ time ∈ range.timeSeries,
        castsToInt ((query.joined range table time group).map query.number).sum := by
  simp only [Query.rows,List.all_flatMap,List.all_map,List.all_eq_true,List.mem_dedup,Function.comp_apply,Query.row]
  exact ⟨fun all group listed time inside => all time inside group listed,
    fun all time inside group listed => all group listed time inside⟩

theorem joined_once (query : Query R G) (range : Range) (table : List R) (group : G)
    (once : ∀ row ∈ query.inRange range table group, query.listings group = 1) (time : Int) :
    query.joined range table time group =
      (query.inRange range table group).filter (fun row => range.bucket (query.createdAt row) = time) := by
  rw [joined_eq]
  cases inside : query.inRange range table group with
  | nil => simp
  | cons row rest =>
    rw [once row (inside ▸ List.mem_cons_self)]
    simp

private theorem conserves_iff (query : Query R G) (range : Range) (table : List R) :
    query.Conserves range table (query.timeline range table) ↔
      (∀ group ∈ query.groups, ∀ row ∈ query.inRange range table group,
        OnGrid range (query.createdAt row) ∧ query.listings group = 1) ∧ query.Fits range table := by
  have casts := timeline_casts query range table
  constructor
  · intro conserves
    obtain ⟨rows,returned,counted⟩ := conserves
    have aligned : ∀ group ∈ query.groups, ∀ row ∈ query.inRange range table group,
        OnGrid range (query.createdAt row) ∧ query.listings group = 1 :=
      fun group listed => (joined_perm_iff query range table group).mp (counted group listed).2
    refine ⟨aligned,?_⟩
    intro group listed time inside
    unfold Query.timeline at returned
    split at returned
    next all =>
      rw [← joined_once query range table group (fun row member => (aligned group listed row member).2) time]
      exact casts.mp all group listed time inside
    next => cases returned
  · intro met
    obtain ⟨aligned,fits⟩ := met
    have all : (query.rows range table).all (fun row => castsToInt row.records) := by
      rw [casts]
      intro group listed time inside
      rw [joined_once query range table group (fun row member => (aligned group listed row member).2) time]
      exact fits group listed time inside
    refine ⟨query.rows range table,if_pos all,?_⟩
    intro group listed
    have same := (joined_perm_iff query range table group).mpr (aligned group listed)
    refine ⟨?_,same⟩
    rw [records_sum query range table group listed]
    exact (same.map query.number).sum_eq

theorem conserves_iff_aligned (query : Query R G) (range : Range) (table : List R) (distinct : query.groups.Nodup) :
    query.Conserves range table (query.timeline range table) ↔
      query.Aligned range table ∧ query.Fits range table := by
  rw [conserves_iff]
  apply and_congr_left
  intro _
  constructor
  · exact fun aligned group listed row member => (aligned group listed row member).1
  · exact fun aligned group listed row member =>
      ⟨aligned group listed row member,Containers.countP_eq_one query.groups distinct group listed⟩

namespace UsersConnectionsStatisticService

theorem crossTargets_listings (table : List UsersConnectionsStatistic) (ids : List String) (id : String)
    (target : UserConnectionTarget) (known : target ∈ targets table) :
    (crossTargets table ids).countP (fun listed => listed = (id,target)) = ids.count id := by
  have one := Containers.countP_eq_one (targets table) (List.nodup_dedup _) target known
  unfold crossTargets
  induction ids with
  | nil => rfl
  | cons first rest ih =>
    rw [List.flatMap_cons,List.countP_append,ih,List.countP_map,List.count_cons,Nat.add_comm]
    apply congrArg (rest.count id + ·)
    by_cases same : first = id
    · subst same
      simpa [Function.comp_def] using one
    · simp [List.countP_eq_zero,same]

private theorem mem_crossTargets {table : List UsersConnectionsStatistic} {ids : List String}
    {group : String × UserConnectionTarget} (listed : group ∈ crossTargets table ids) : group.2 ∈ targets table := by
  obtain ⟨_,_,inside⟩ := List.mem_flatMap.mp listed
  obtain ⟨_,member,rfl⟩ := List.mem_map.mp inside
  exact member

theorem crossTargets_nodup (table : List UsersConnectionsStatistic) (ids : List String) (distinct : ids.Nodup) :
    (crossTargets table ids).Nodup :=
  distinct.product (List.nodup_dedup _)

theorem users_nodup (table : List UsersConnectionsStatistic) :
    ((table.map UsersConnectionsStatistic.userId).dedup.filterMap id).Nodup :=
  (List.nodup_dedup _).filterMap (fun _ _ _ this that =>
    (Option.mem_def.mp this).trans (Option.mem_def.mp that).symm)

end UsersConnectionsStatisticService

/-- A timeline conserves the counts of every group iff each row in range of a group starts
its interval on the grid of the series and no sum exceeds `int4`; the timeline of targets,
which is in UTC, iff with rows in range it is not in weeks and lists their target once. -/
theorem timelines_conserve (now : Int) (startTime endTime : Option Int) (timezone : Option Zone) :
    (∀ table,
      let query := QuotesStatisticService.query table
      let range := QuotesStatisticService.range table now startTime endTime timezone
      query.Conserves range table (QuotesStatisticService.getTimeline table now startTime endTime timezone) ↔
        query.Aligned range table ∧ query.Fits range table) ∧
    (∀ table,
      let query := UsersConnectionsStatisticService.query table
      let range := UsersConnectionsStatisticService.range table now startTime endTime timezone
      query.Conserves range table
          (UsersConnectionsStatisticService.getTimeline table now startTime endTime timezone) ↔
        query.Aligned range table ∧ query.Fits range table) ∧
    (∀ table,
      let query := EventLogsService.query
      let range := EventLogsService.range table now startTime endTime timezone
      query.Conserves range table (EventLogsService.getTimeline table now startTime endTime timezone) ↔
        query.Aligned range table ∧ query.Fits range table) ∧
    (∀ table targetIds,
      let query := UsersConnectionsStatisticService.targetsQuery table targetIds
      let range := UsersConnectionsStatisticService.targetsRange table now startTime endTime
      query.Conserves range table
          (UsersConnectionsStatisticService.getTargetsTimeline table now startTime endTime targetIds) ↔
        (∀ group ∈ query.groups, query.inRange range table group ≠ [] →
          range.interval ≠ .week ∧ targetIds.count group.1 = 1) ∧ query.Fits range table) := by
  refine ⟨?_,?_,?_,?_⟩
  · exact fun table => conserves_iff_aligned _ _ table (List.nodup_dedup _)
  · intro table
    apply conserves_iff_aligned
    exact UsersConnectionsStatisticService.crossTargets_nodup table _
      (UsersConnectionsStatisticService.users_nodup table)
  · exact fun table => conserves_iff_aligned _ _ table (by decide)
  · intro table targetIds query range
    refine (conserves_iff query range table).trans (and_congr_left fun _ => ?_)
    constructor
    · intro aligned group listed busy
      obtain ⟨row,member⟩ := List.exists_mem_of_ne_nil _ busy
      obtain ⟨grid,once⟩ := aligned group listed row member
      have known := UsersConnectionsStatisticService.mem_crossTargets listed
      refine ⟨(onGrid_inRange query range table 0 rfl group row member).mp grid,?_⟩
      rw [← UsersConnectionsStatisticService.crossTargets_listings table targetIds group.1 group.2 known]
      exact once
    · intro fine group listed row member
      obtain ⟨interval,once⟩ := fine group listed (List.ne_nil_of_mem member)
      have known := UsersConnectionsStatisticService.mem_crossTargets listed
      refine ⟨(onGrid_inRange query range table 0 rfl group row member).mpr interval,?_⟩
      rw [← UsersConnectionsStatisticService.crossTargets_listings table targetIds group.1 group.2 known] at once
      exact once

-- From the first day of 2026, 90 days: more than `targetBars`, so the interval is a week.
def quarter : Int × Int := (1767225600000,1767225600000 + 90 * 86400000)

theorem week_loses_log :
    let table : List EventLogRow := [⟨.info,timestamp (quarter.1 + 40 * 86400000)⟩]
    let range := EventLogsService.range table 0 (some quarter.1) (some quarter.2) none
    ∃ rows, EventLogsService.getTimeline table 0 (some quarter.1) (some quarter.2) none = some rows ∧
      ((rows.filter (fun row => row.group = .info)).map TimelineRow.records).sum = 0 ∧
      ((EventLogsService.query.inRange range table .info).map EventLogsService.query.number).sum = 1 :=
  ⟨_,rfl,rfl,rfl⟩

-- The clocks go forward on 8 March 2026; in days, a log of 13 March misses the series.
def newYork : Zone where
  offset time := if time < timestamp 1772953200000 then -18000 else -14400
  localOffset time := if time < timestamp (1772953200000 - 14400000) then -18000 else -14400

example :
    let table : List EventLogRow := [⟨.info,timestamp 1773400000000⟩]
    ∃ rows, EventLogsService.getTimeline table 0 (some 1772600000000) (some 1773600000000) (some newYork) = some rows ∧
      (rows.map TimelineRow.records).sum = 0 :=
  ⟨_,rfl,rfl⟩

end BoarPack.Timeline
