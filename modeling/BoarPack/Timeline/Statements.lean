import BoarPack.Timeline.Service
import BoarPack.Library.Sql

/-! The statements that the three timelines send: their text, into which the name of the
timezone is written, and their bound parameters. -/
namespace BoarPack.Timeline
open Sql

inductive Parameter
  | date (time : Int)
  | text (value : String)
  deriving DecidableEq, Repr

structure Statement where
  text : String
  parameters : List Parameter
  deriving DecidableEq, Repr

/-- An empty string is no `Joi.string()`. -/
structure EventLogTimelineQueryDto where
  startTime : Option Int
  endTime : Option Int
  timezone : Option String
  accepted : timezone ≠ some ""

namespace EventLogTimelineQueryDto

/-- The name that reaches `getTimeline`, `'UTC'` being its default. -/
def zoneName (query : EventLogTimelineQueryDto) : String := query.timezone.getD "UTC"

def atUtc (query : EventLogTimelineQueryDto) : EventLogTimelineQueryDto :=
  { query with timezone := some "UTC", accepted := by decide }

end EventLogTimelineQueryDto

abbrev QuotesStatisticQueryDto := EventLogTimelineQueryDto

abbrev UsersConnectionsStatisticQueryDto := EventLogTimelineQueryDto

/-- The schema that the data source is configured with. -/
structure Schema where
  name : String
  plain : '"' ∉ name.toList

def TInterval.name : TInterval → String
  | .second => "second"
  | .minute => "minute"
  | .hour => "hour"
  | .day => "day"
  | .week => "week"

def getFormatTimeFunction (interval : TInterval) (timezone : String) : String :=
  match interval with
  | .second => "to_char(ts.time at time zone '" ++ timezone ++ "', 'HH24:MI:SS')"
  | .minute => "to_char(ts.time at time zone '" ++ timezone ++ "', 'HH24:MI')"
  | .hour => "to_char(ts.time at time zone '" ++ timezone ++ "', 'HH24:MI')"
  | .day => "to_char(ts.time at time zone '" ++ timezone ++ "', 'YYYY-MM-DD')"
  | .week => "to_char(date_trunc('week', ts.time at time zone '" ++ timezone ++ "'), 'YYYY-MM-DD')"

def Range.parameters (range : Range) (timezone : String) : List Parameter :=
  [.date (range.startTimeIntervalBegin / 1000),.date (range.endTimeIntervalBegin / 1000),
    .date range.startTime,.date range.endTime,.text timezone]

namespace EventLogsService

def textBefore (schema : Schema) (interval : TInterval) : String :=
  "
      with 
        time_series as (select generate_series($1, $2, '1 " ++ interval.name ++ "'::interval) as time),
        log_levels as (select unnest(enum_range(null::\"" ++
          (schema.name ++ "\".event_logs_log_level_enum)) as loglevel)
      select
        ")

def textAfter (schema : Schema) (interval : TInterval) : String :=
  " as time,
        ll.loglevel as \"logLevel\",
        coalesce(count(el.*)::int, 0) as records,
        ts.time as \"startTime\",
        ts.time + interval '1 " ++ interval.name ++ "' as \"endTime\"
      from time_series ts
        cross join log_levels ll
        left join \"" ++ (schema.name ++
          ("\".event_logs el on date_trunc('" ++ interval.name ++ "', el.created_at, $5) = ts.time
        and el.log_level = ll.loglevel
        and el.created_at between $3 and $4
      group by ts.time,
        ll.loglevel
      order by ts.time,
        ll.loglevel;
    "))

def text (schema : Schema) (interval : TInterval) (timezone : String) : String :=
  textBefore schema interval ++ getFormatTimeFunction interval timezone ++ textAfter schema interval

/-- `zones` is the lookup of moment, which keeps the zone of the server for a name it does not know. -/
def statement (schema : Schema) (zones : String → Zone) (table : List EventLogRow) (now : Int)
    (query : EventLogTimelineQueryDto) : Statement :=
  let range := range table now query.startTime query.endTime (some (zones query.zoneName))
  ⟨text schema range.interval query.zoneName,range.parameters query.zoneName⟩

end EventLogsService

namespace QuotesStatisticService

def textBefore (interval : TInterval) : String :=
  "
      with 
        time_series as (select generate_series($1, $2, '1 " ++ interval.name ++ "'::interval) as time),
        providers as (select distinct quotes_statistic.quotes_provider_name as name from quotes_statistic)
      select
        "

def textAfter (interval : TInterval) : String :=
  " as time,
        p.name as \"providerName\",
        coalesce(sum(qs.quotes_number)::int, 0) as records,
        ts.time as \"startTime\",
        ts.time + interval '1 " ++ interval.name ++ "' as \"endTime\"
      from time_series ts
        cross join providers p
        left join quotes_statistic qs on date_trunc('" ++ interval.name ++ "', qs.created_at, $5) = ts.time
        and qs.quotes_provider_name = p.name
        and qs.created_at between $3 and $4
      group by ts.time,
        p.name
      order by ts.time,
        p.name;
    "

def text (interval : TInterval) (timezone : String) : String :=
  textBefore interval ++ getFormatTimeFunction interval timezone ++ textAfter interval

def statement (zones : String → Zone) (table : List QuotesStatistic) (now : Int)
    (query : QuotesStatisticQueryDto) : Statement :=
  let range := range table now query.startTime query.endTime (some (zones query.zoneName))
  ⟨text range.interval query.zoneName,range.parameters query.zoneName⟩

end QuotesStatisticService

namespace UsersConnectionsStatisticService

def textBefore (interval : TInterval) : String :=
  "
      with 
        time_series as (select generate_series($1, $2, '1 " ++ interval.name ++ "'::interval) as time),
        users as (select distinct users_connections_statistic.user_id as \"userId\" from users_connections_statistic),
        targets as (select distinct users_connections_statistic.target from users_connections_statistic)
      select
        "

def textAfter (interval : TInterval) : String :=
  " as time,
        u.\"userId\",
        t.target,
        coalesce(sum(ucs.quotes_number)::int, 0) as records,
        ts.time as \"startTime\",
        ts.time + interval '1 " ++ interval.name ++ "' as \"endTime\"
      from time_series ts
        cross join users u
        cross join targets t 
        left join users_connections_statistic ucs on date_trunc('" ++ interval.name ++ "', ucs.created_at, $5) = ts.time
        and ucs.user_id = u.\"userId\"
        and ucs.target = t.target                                                         
        and ucs.created_at between $3 and $4
      where u.\"userId\" is not null
      group by ts.time,
        u.\"userId\", t.target
      order by ts.time,
        u.\"userId\", t.target;
    "

def text (interval : TInterval) (timezone : String) : String :=
  textBefore interval ++ getFormatTimeFunction interval timezone ++ textAfter interval

def statement (zones : String → Zone) (table : List UsersConnectionsStatistic) (now : Int)
    (query : UsersConnectionsStatisticQueryDto) : Statement :=
  let range := range table now query.startTime query.endTime (some (zones query.zoneName))
  ⟨text range.interval query.zoneName,range.parameters query.zoneName⟩

end UsersConnectionsStatisticService

/-- For the name of the query as for `'UTC'`: in the text it is the content of one literal,
and it is bound. -/
def TimezoneIsContent (statement : EventLogTimelineQueryDto → Statement) (query : EventLogTimelineQueryDto) : Prop :=
  OnlyContent (lex (statement query.atUtc).text) (lex (statement query).text)
      "UTC".toList query.zoneName.toList ∧
    (statement query).parameters[4]? = some (.text query.zoneName)

/-- Character by character, as the bytes of a literal are slow to decode. -/
def Spelled (text : String) (chars : List Char) : Prop := text.toList = chars

theorem Spelled.text {text : String} {chars : List Char} (same : text = String.ofList chars) : Spelled text chars := by
  rw [Spelled,same,String.toList_ofList]

theorem Spelled.append {left right : String} {first second : List Char} (begins : Spelled left first)
    (ends : Spelled right second) : Spelled (left ++ right) (first ++ second) := by
  rw [Spelled,String.toList_append,begins,ends]

theorem Spelled.clean {text : String} {chars : List Char} (spelled : Spelled text chars)
    (clean : after .between chars = .between) : after .between text.toList = .between := by
  rw [spelled,clean]

theorem Spelled.single {text : String} {chars : List Char} (spelled : Spelled text chars)
    (single : .literal ['U','T','C'] ∉ lexFrom .between chars) : .literal ['U','T','C'] ∉ lex text := by
  rw [lex,spelled]
  exact single

private theorem toList_splice (before behind : String) (head tail : List Char) (opens : before = String.ofList head)
    (closes : behind = String.ofList tail) (timezone : String) :
    (before ++ timezone ++ behind).toList = head ++ (timezone.toList ++ tail) := by
  rw [String.toList_append,String.toList_append,Spelled.text opens,Spelled.text closes,List.append_assoc]

/-- The timezone stands between quotes that open and close one literal. -/
def Splices (render : String → String) : Prop :=
  ∃ head stop more, (∀ timezone : String,
      (render timezone).toList = head ++ (timezone.toList ++ '\'' :: stop :: more)) ∧
    stop ≠ '\'' ∧ after .between head = .literal [] ∧ after .between (stop :: more) = .between ∧
    .literal ['U','T','C'] ∉ emitted .between (stop :: more)

private theorem format_splices (interval : TInterval) : Splices (getFormatTimeFunction interval) := by
  cases interval with
  | second => exact ⟨_,_,_,toList_splice _ _ _ _ rfl rfl,by decide,by decide,by decide,by decide⟩
  | minute => exact ⟨_,_,_,toList_splice _ _ _ _ rfl rfl,by decide,by decide,by decide,by decide⟩
  | hour => exact ⟨_,_,_,toList_splice _ _ _ _ rfl rfl,by decide,by decide,by decide,by decide⟩
  | day => exact ⟨_,_,_,toList_splice _ _ _ _ rfl rfl,by decide,by decide,by decide,by decide⟩
  | week => exact ⟨_,_,_,toList_splice _ _ _ _ rfl rfl,by decide,by decide,by decide,by decide⟩

private theorem splices_iff (before behind : String) (render : String → String) (splices : Splices render)
    (clean : after .between before.toList = .between) (single : .literal ['U','T','C'] ∉ lex behind)
    (timezone : String) :
    OnlyContent (lex (before ++ render "UTC" ++ behind)) (lex (before ++ render timezone ++ behind))
      "UTC".toList timezone.toList ↔ '\'' ∉ timezone.toList := by
  obtain ⟨head,stop,more,parts,plain,opened,closed,absent⟩ := splices
  have utc : "UTC".toList = ['U','T','C'] := Spelled.text rfl
  have whole (name : String) : lex (before ++ render name ++ behind) = lexFrom .between
      ((before.toList ++ head) ++ (name.toList ++ '\'' :: stop :: (more ++ behind.toList))) := by
    simp only [lex,String.toList_append,parts,List.append_assoc,List.cons_append]
  rw [whole,whole]
  apply onlyContent_iff
  · exact plain
  · rw [after_append,clean,opened]
  · rw [utc]
    decide
  · rw [utc,← List.cons_append,lexFrom_append,closed,List.mem_append]
    rintro (early | late)
    · exact absent early
    · exact single late

namespace EventLogsService

set_option maxRecDepth 4096 in
private theorem textBefore_spelled (schema : Schema) (interval : TInterval) :
    ∃ head stop more, Spelled (textBefore schema interval)
        (head ++ (schema.name.toList ++ '"' :: stop :: more)) ∧
      stop ≠ '"' ∧ after .between head = .quoted [] ∧ after .between (stop :: more) = .between := by
  cases interval <;>
    exact ⟨_,_,_,.append (.append (.append (.text rfl) (.text rfl)) (.text rfl)) (.append rfl (.text rfl)),
      by decide,by decide +kernel,by decide +kernel⟩

set_option maxRecDepth 4096 in
private theorem textAfter_spelled (schema : Schema) (interval : TInterval) :
    ∃ head stop more, Spelled (textAfter schema interval)
        (head ++ (schema.name.toList ++ '"' :: stop :: more)) ∧
      stop ≠ '"' ∧ after .between head = .quoted [] ∧ .literal ['U','T','C'] ∉ emitted .between head ∧
      .literal ['U','T','C'] ∉ lexFrom .between (stop :: more) := by
  cases interval <;>
    exact ⟨_,_,_,.append (.append (.append (.text rfl) (.text rfl)) (.text rfl))
        (.append rfl (.append (.append (.text rfl) (.text rfl)) (.text rfl))),
      by decide,by decide +kernel,by decide +kernel,by decide +kernel⟩

private theorem textBefore_clean (schema : Schema) (interval : TInterval) :
    after .between (textBefore schema interval).toList = .between := by
  obtain ⟨head,stop,more,spelled,plain,opened,closed⟩ := textBefore_spelled schema interval
  apply spelled.clean
  rw [after_append,opened,(quoted_read _ more stop plain schema.plain).1,closed]

private theorem textAfter_single (schema : Schema) (interval : TInterval) :
    .literal ['U','T','C'] ∉ lex (textAfter schema interval) := by
  obtain ⟨head,stop,more,spelled,plain,opened,early,late⟩ := textAfter_spelled schema interval
  apply spelled.single
  obtain ⟨reached,read⟩ := quoted_read _ more stop plain schema.plain
  rw [lexFrom_append,opened,lexFrom,reached,read,List.cons_append,List.mem_append,List.mem_cons]
  rintro (member | equal | member)
  · exact early member
  · cases equal
  · exact late member

end EventLogsService

namespace QuotesStatisticService

set_option maxRecDepth 4096 in
private theorem textBefore_clean (interval : TInterval) : after .between (textBefore interval).toList = .between := by
  cases interval <;>
    exact Spelled.clean (.append (.append (.text rfl) (.text rfl)) (.text rfl)) (by decide +kernel)

set_option maxRecDepth 4096 in
private theorem textAfter_single (interval : TInterval) : .literal ['U','T','C'] ∉ lex (textAfter interval) := by
  cases interval <;>
    exact Spelled.single (.append (.append (.append (.append (.text rfl) (.text rfl)) (.text rfl)) (.text rfl))
      (.text rfl)) (by decide +kernel)

end QuotesStatisticService

namespace UsersConnectionsStatisticService

set_option maxRecDepth 4096 in
private theorem textBefore_clean (interval : TInterval) : after .between (textBefore interval).toList = .between := by
  cases interval <;>
    exact Spelled.clean (.append (.append (.text rfl) (.text rfl)) (.text rfl)) (by decide +kernel)

set_option maxRecDepth 4096 in
private theorem textAfter_single (interval : TInterval) : .literal ['U','T','C'] ∉ lex (textAfter interval) := by
  cases interval <;>
    exact Spelled.single (.append (.append (.append (.append (.text rfl) (.text rfl)) (.text rfl)) (.text rfl))
      (.text rfl)) (by decide +kernel)

end UsersConnectionsStatisticService

private theorem isContent_iff (before behind : TInterval → String)
    (clean : ∀ interval, after .between (before interval).toList = .between)
    (single : ∀ interval, .literal ['U','T','C'] ∉ lex (behind interval))
    (statement : EventLogTimelineQueryDto → Statement) (query : EventLogTimelineQueryDto) (interval : TInterval)
    (utc : (statement query.atUtc).text = before interval ++ getFormatTimeFunction interval "UTC" ++ behind interval)
    (text : (statement query).text =
      before interval ++ getFormatTimeFunction interval query.zoneName ++ behind interval)
    (bound : (statement query).parameters[4]? = some (.text query.zoneName)) :
    TimezoneIsContent statement query ↔ '\'' ∉ query.zoneName.toList := by
  rw [TimezoneIsContent,utc,text]
  rw [splices_iff _ _ _ (format_splices interval) (clean interval) (single interval)]
  exact and_iff_left bound

private theorem eventLogs_isContent_iff (schema : Schema) (zones : String → Zone) (table : List EventLogRow) (now : Int)
    (query : EventLogTimelineQueryDto) :
    TimezoneIsContent (EventLogsService.statement schema zones table now) query ↔
      '\'' ∉ query.zoneName.toList :=
  isContent_iff (EventLogsService.textBefore schema) (EventLogsService.textAfter schema)
    (EventLogsService.textBefore_clean schema) (EventLogsService.textAfter_single schema) _ query
    _ rfl rfl rfl

private theorem quotes_isContent_iff (zones : String → Zone) (table : List QuotesStatistic) (now : Int)
    (query : QuotesStatisticQueryDto) :
    TimezoneIsContent (QuotesStatisticService.statement zones table now) query ↔
      '\'' ∉ query.zoneName.toList :=
  isContent_iff QuotesStatisticService.textBefore QuotesStatisticService.textAfter
    QuotesStatisticService.textBefore_clean QuotesStatisticService.textAfter_single _ query _ rfl rfl rfl

private theorem connections_isContent_iff (zones : String → Zone) (table : List UsersConnectionsStatistic) (now : Int)
    (query : UsersConnectionsStatisticQueryDto) :
    TimezoneIsContent (UsersConnectionsStatisticService.statement zones table now) query ↔
      '\'' ∉ query.zoneName.toList :=
  isContent_iff UsersConnectionsStatisticService.textBefore UsersConnectionsStatisticService.textAfter
    UsersConnectionsStatisticService.textBefore_clean UsersConnectionsStatisticService.textAfter_single _ query
    _ rfl rfl rfl

/-- The name of the timezone is the content of one literal iff it contains no quote. -/
theorem timezone_is_content_iff (schema : Schema) (zones : String → Zone) (logs : List EventLogRow)
    (quotes : List QuotesStatistic) (connections : List UsersConnectionsStatistic) (now : Int)
    (query : EventLogTimelineQueryDto) :
    (TimezoneIsContent (EventLogsService.statement schema zones logs now) query ↔
      '\'' ∉ query.zoneName.toList) ∧
    (TimezoneIsContent (QuotesStatisticService.statement zones quotes now) query ↔
      '\'' ∉ query.zoneName.toList) ∧
    (TimezoneIsContent (UsersConnectionsStatisticService.statement zones connections now) query ↔
      '\'' ∉ query.zoneName.toList) :=
  ⟨eventLogs_isContent_iff schema zones logs now query,quotes_isContent_iff zones quotes now query,
    connections_isContent_iff zones connections now query⟩

def droppingQuery : EventLogTimelineQueryDto :=
  ⟨some 0,some 1000,some "UTC', ''); drop table event_logs; --",by decide⟩

theorem timezone_ends_literal :
    ¬ TimezoneIsContent (EventLogsService.statement ⟨"public",by decide⟩ (fun _ => .utc) [] 0) droppingQuery := by
  rw [eventLogs_isContent_iff]
  decide

end BoarPack.Timeline
