import BoarPack.EventLogs.Service
import BoarPack.Library.Buckets
import Mathlib.Algebra.BigOperators.Group.List.Basic
import Mathlib.Algebra.Ring.Int.Defs

/-! The timelines of `QuotesStatisticService`, `UsersConnectionsStatisticService` and
`EventLogsService`: one query over three tables. Instants are microseconds of Unix time,
as the database keeps them; a `Date` is in milliseconds. A local time is the instant at
which UTC clocks show it. -/
namespace BoarPack.Timeline
open Buckets EventLogs

def second : Int := 1000000

def day : Int := 24 * 60 * 60 * second

/-- The rules of an IANA zone, in seconds east of UTC: the offset at an instant, and the
one with which Postgres reads a local time, of two where a transition skips or repeats it. -/
structure Zone where
  offset : Int → Int
  localOffset : Int → Int

def Zone.fixed (offset : Int) : Zone := ⟨fun _ => offset,fun _ => offset⟩

def Zone.utc : Zone := .fixed 0

inductive TInterval
  | second
  | minute
  | hour
  | day
  | week
  deriving DecidableEq, Repr

def TInterval.length : TInterval → Int
  | .second => Timeline.second
  | .minute => 60 * Timeline.second
  | .hour => 60 * 60 * Timeline.second
  | .day => Timeline.day
  | .week => 7 * Timeline.day

def targetBars : Int := 75

/-- From a range in milliseconds; beyond 75 days it is weeks, however many. -/
def determineInterval (startTime endTime : Int) : TInterval :=
  let duration := endTime - startTime
  if duration ≤ targetBars * 1000 then .second
  else if duration ≤ targetBars * 60000 then .minute
  else if duration ≤ targetBars * 3600000 then .hour
  else if duration ≤ targetBars * 86400000 then .day
  else .week

def floorTo (anchor length time : Int) : Int := time - (time - anchor) % length

/-- Weeks of the default locale of moment begin on Sunday, 28 December 1969 being one. -/
def momentAnchor : TInterval → Int
  | .week => -4 * day
  | _ => 0

/-- Weeks of `date_trunc` begin on Monday, the day after. -/
def truncAnchor : TInterval → Int
  | .week => -3 * day
  | _ => 0

def startOfLocal (zone : Zone) (interval : TInterval) (time : Int) : Int :=
  floorTo (momentAnchor interval) interval.length (time + zone.offset time * second)

/-- The clock is set back with the offset of `time` still, then the offset of the
instant reached is put in its place and the clock kept. -/
def startOfOffset (zone : Zone) (interval : TInterval) (time : Int) : Int :=
  zone.offset (startOfLocal zone interval time - zone.offset time * second)

def startOf (zone : Zone) (interval : TInterval) (time : Int) : Int :=
  startOfLocal zone interval time - startOfOffset zone interval time * second

def truncLocal (zone : Zone) (interval : TInterval) (time : Int) : Int :=
  floorTo (truncAnchor interval) interval.length (time + zone.offset time * second)

/-- From days on the zone is looked up again, by the local time. -/
def truncOffset (zone : Zone) (interval : TInterval) (time : Int) : Int :=
  match interval with
  | .day | .week => zone.localOffset (truncLocal zone interval time)
  | _ => zone.offset time

def dateTrunc (zone : Zone) (interval : TInterval) (time : Int) : Int :=
  truncLocal zone interval time - truncOffset zone interval time * second

structure Range where
  zone : Zone
  startTime : Int
  endTime : Int

def timestamp (date : Int) : Int := date * 1000

namespace Range

def interval (range : Range) : TInterval := determineInterval range.startTime range.endTime

def startTimeIntervalBegin (range : Range) : Int :=
  startOf range.zone range.interval (timestamp range.startTime)

def endTimeIntervalBegin (range : Range) : Int :=
  startOf range.zone range.interval (timestamp range.endTime)

def timeSeries (range : Range) : List Int :=
  series range.startTimeIntervalBegin range.endTimeIntervalBegin range.interval.length

def bucket (range : Range) (createdAt : Int) : Int := dateTrunc range.zone range.interval createdAt

end Range

/-- What distinguishes the queries: the groups that are crossed with the series, the
rows that belong to a group, and what is summed. -/
structure Query (R G : Type) where
  groups : List G
  belongs : R → G → Bool
  createdAt : R → Int
  number : R → Int

structure TimelineRow (G : Type) where
  group : G
  records : Int
  startTime : Int
  endTime : Int

def castsToInt (number : Int) : Bool := -2147483648 ≤ number ∧ number ≤ 2147483647

namespace Query

variable {R G : Type} [DecidableEq G]

def inRange (query : Query R G) (range : Range) (table : List R) (group : G) : List R :=
  table.filter (fun row => query.belongs row group ∧
    timestamp range.startTime ≤ query.createdAt row ∧ query.createdAt row ≤ timestamp range.endTime)

/-- The rows joined to a bucket and all listings of a group, which `group by` merges. -/
def joined (query : Query R G) (range : Range) (table : List R) (time : Int) (group : G) : List R :=
  query.groups.flatMap (fun listed =>
    if listed = group then
      (query.inRange range table group).filter (fun row => range.bucket (query.createdAt row) = time)
    else [])

def row (query : Query R G) (range : Range) (table : List R) (time : Int) (group : G) : TimelineRow G where
  group := group
  records := ((query.joined range table time group).map query.number).sum
  startTime := time
  endTime := time + range.interval.length

def rows (query : Query R G) (range : Range) (table : List R) : List (TimelineRow G) :=
  range.timeSeries.flatMap (fun time => query.groups.dedup.map (query.row range table time))

/-- The result set, or `none` when a cast fails. -/
def timeline (query : Query R G) (range : Range) (table : List R) : Option (List (TimelineRow G)) :=
  if (query.rows range table).all (fun row => castsToInt row.records) then some (query.rows range table)
  else none

end Query

def oneWeekMs : Int := 7 * 24 * 60 * 60 * 1000

def oldest (createdAt : List Int) : Option Int := createdAt.min?.map (fun time => time / 1000)

structure QuotesStatistic where
  quotesProviderName : String
  quotesNumber : Int
  createdAt : Int
  deriving DecidableEq, Repr

inductive UserConnectionTarget
  | fixServer
  | websocketServer
  | token
  | account
  deriving DecidableEq, Repr

/-- The uuids are values, not texts. -/
structure UsersConnectionsStatistic where
  userId : Option String
  targetId : Option String
  target : UserConnectionTarget
  quotesNumber : Int
  createdAt : Int
  deriving DecidableEq, Repr

structure EventLogRow where
  logLevel : LogLevel
  createdAt : Int
  deriving DecidableEq, Repr

namespace QuotesStatisticService

def query (table : List QuotesStatistic) : Query QuotesStatistic String where
  groups := (table.map QuotesStatistic.quotesProviderName).dedup
  belongs row providerName := row.quotesProviderName = providerName
  createdAt := QuotesStatistic.createdAt
  number := QuotesStatistic.quotesNumber

def getOldestStatsDate (table : List QuotesStatistic) (now : Int) : Int :=
  (oldest (table.map QuotesStatistic.createdAt)).getD (now - oneWeekMs)

def range (table : List QuotesStatistic) (now : Int) (startTime endTime : Option Int)
    (timezone : Option Zone) : Range where
  zone := timezone.getD .utc
  startTime := startTime.getD (getOldestStatsDate table now)
  endTime := endTime.getD now

def getTimeline (table : List QuotesStatistic) (now : Int) (startTime endTime : Option Int)
    (timezone : Option Zone) : Option (List (TimelineRow String)) :=
  (query table).timeline (range table now startTime endTime timezone) table

end QuotesStatisticService

namespace UsersConnectionsStatisticService

def targets (table : List UsersConnectionsStatistic) : List UserConnectionTarget :=
  (table.map UsersConnectionsStatistic.target).dedup

def crossTargets (table : List UsersConnectionsStatistic) (ids : List String) :
    List (String × UserConnectionTarget) :=
  ids.flatMap (fun id => (targets table).map (fun target => (id,target)))

def query (table : List UsersConnectionsStatistic) :
    Query UsersConnectionsStatistic (String × UserConnectionTarget) where
  groups := crossTargets table ((table.map UsersConnectionsStatistic.userId).dedup.filterMap id)
  belongs row group := row.userId = some group.1 ∧ row.target = group.2
  createdAt := UsersConnectionsStatistic.createdAt
  number := UsersConnectionsStatistic.quotesNumber

def getOldestUsersStatsDate (table : List UsersConnectionsStatistic) (now : Int) : Int :=
  (oldest ((table.filter (fun row => row.userId ≠ none)).map UsersConnectionsStatistic.createdAt)).getD
    (now - oneWeekMs)

def range (table : List UsersConnectionsStatistic) (now : Int) (startTime endTime : Option Int)
    (timezone : Option Zone) : Range where
  zone := timezone.getD .utc
  startTime := startTime.getD (getOldestUsersStatsDate table now)
  endTime := endTime.getD now

def getTimeline (table : List UsersConnectionsStatistic) (now : Int) (startTime endTime : Option Int)
    (timezone : Option Zone) : Option (List (TimelineRow (String × UserConnectionTarget))) :=
  (query table).timeline (range table now startTime endTime timezone) table

/-- `unnest` lists an id as often as the request does. -/
def targetsQuery (table : List UsersConnectionsStatistic) (targetIds : List String) :
    Query UsersConnectionsStatistic (String × UserConnectionTarget) where
  groups := crossTargets table targetIds
  belongs row group := row.targetId = some group.1 ∧ row.target = group.2
  createdAt := UsersConnectionsStatistic.createdAt
  number := UsersConnectionsStatistic.quotesNumber

def getOldestTargetStatsDate (table : List UsersConnectionsStatistic) (now : Int) : Int :=
  (oldest ((table.filter (fun row => row.targetId ≠ none)).map UsersConnectionsStatistic.createdAt)).getD
    (now - oneWeekMs)

def targetsRange (table : List UsersConnectionsStatistic) (now : Int) (startTime endTime : Option Int) : Range where
  zone := .utc
  startTime := startTime.getD (getOldestTargetStatsDate table now)
  endTime := endTime.getD now

def getTargetsTimeline (table : List UsersConnectionsStatistic) (now : Int) (startTime endTime : Option Int)
    (targetIds : List String) : Option (List (TimelineRow (String × UserConnectionTarget))) :=
  (targetsQuery table targetIds).timeline (targetsRange table now startTime endTime) table

end UsersConnectionsStatisticService

namespace EventLogsService

def query : Query EventLogRow LogLevel where
  groups := [.info,.warning,.error]
  belongs row logLevel := row.logLevel = logLevel
  createdAt := EventLogRow.createdAt
  number _ := 1

/-- `new Date(null)` is the epoch. -/
def getOldestLogDate (table : List EventLogRow) : Int := (oldest (table.map EventLogRow.createdAt)).getD 0

def range (table : List EventLogRow) (now : Int) (startTime endTime : Option Int)
    (timezone : Option Zone) : Range where
  zone := timezone.getD .utc
  startTime := startTime.getD (getOldestLogDate table)
  endTime := endTime.getD now

def getTimeline (table : List EventLogRow) (now : Int) (startTime endTime : Option Int)
    (timezone : Option Zone) : Option (List (TimelineRow LogLevel)) :=
  query.timeline (range table now startTime endTime timezone) table

end EventLogsService

end BoarPack.Timeline
