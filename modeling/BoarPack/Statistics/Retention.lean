import BoarPack.Library.Retention
import BoarPack.Statistics.Conservation
import BoarPack.Timeline.Chart

/-! The statistics from the counters to the charts: the rows that a flush saves are dated by the table, the nightly job
deletes what is a week old, and the timelines read what is left. The clock is in microseconds. -/
namespace BoarPack.Statistics
open Containers Transition Outbox
open Timeline (TimelineRow Query Range Zone timestamp)

/-- `Date.now()`. -/
def dateNow (now : Int) : Int := now / 1000

/-- `new Date(Date.now() - ONE_WEEK_MS)`. -/
def oneWeekAgo (now : Int) : Int := timestamp (dateNow now - Timeline.oneWeekMs)

theorem oneWeekAgo_mono (earlier later : Int) (ordered : earlier ≤ later) : oneWeekAgo earlier ≤ oneWeekAgo later := by
  simp only [oneWeekAgo,dateNow,timestamp]
  omega

namespace QuotesStatisticService

/-- What a save that succeeds inserts. -/
def inserts (s : QuotesStatisticService) : Event → List QuotesStatistic
  | .incrementQuotesNumber _ _ => []
  | .saveAccumulatedQuotesNumber => []
  | .settled i .succeeds => (s.saving[i]?).getD []
  | .settled _ .rejects => []

def dated (createdAt : Int) (row : QuotesStatistic) : Timeline.QuotesStatistic :=
  ⟨row.quotesProviderName,row.quotesNumber,createdAt⟩

def undated (row : Timeline.QuotesStatistic) : QuotesStatistic := ⟨row.quotesProviderName,row.quotesNumber⟩

abbrev Dated : Type := Retention.State QuotesStatisticService Timeline.QuotesStatistic

def opened (now : Int) : Dated := ⟨fresh,[],[],now⟩

/-- `deletes` is `deleteOldQuotesStatistic`. -/
def keeping : Dated → Retention.Event Event → Option Dated :=
  Retention.step step inserts dated Timeline.QuotesStatistic.createdAt oneWeekAgo

def accounted : Dated × Amounts × Amounts → Retention.Event Event → Option (Dated × Amounts × Amounts) :=
  recorded keeping (Retention.doing (fun s event => (s.counts event,s.loses event)))

private theorem table_inserts (s : QuotesStatisticService) (event : Event) (t : QuotesStatisticService)
    (taken : s.step event = some t) :
    t.table = s.table ++ s.inserts event := by
  cases event with
  | incrementQuotesNumber provider n =>
    cases taken
    exact (List.append_nil _).symm
  | saveAccumulatedQuotesNumber =>
    cases taken
    simp only [saveAccumulatedQuotesNumber,inserts,List.append_nil]
    split <;> rfl
  | settled i outcome =>
    obtain ⟨stats,found,rfl⟩ := Option.map_eq_some_iff.mp taken
    cases outcome with
    | succeeds => simp [settled,inserts,found]
    | rejects => simp [settled,inserts]

private theorem amounts_provider (stats : List QuotesStatistic) (provider : String) :
    amounts stats provider = ((stats.filter (fun row => row.quotesProviderName = provider)).map
      QuotesStatistic.quotesNumber).sum := by
  induction stats with
  | nil => rfl
  | cons row rest ih =>
    have split : amounts (row :: rest) provider =
        entryAmounts (row.quotesProviderName,row.quotesNumber) provider + amounts rest provider := rfl
    rw [split,ih]
    by_cases same : row.quotesProviderName = provider
    · subst same
      simp [entryAmounts]
    · simp [entryAmounts,same,Ne.symm same]

end QuotesStatisticService

/-- The enumeration as the timelines read it from the table. -/
def UserConnectionTarget.column : UserConnectionTarget → Timeline.UserConnectionTarget
  | fixServer => .fixServer
  | websocketServer => .websocketServer
  | token => .token
  | account => .account

def UserConnectionTarget.ofColumn : Timeline.UserConnectionTarget → UserConnectionTarget
  | .fixServer => fixServer
  | .websocketServer => websocketServer
  | .token => token
  | .account => account

namespace UsersConnectionsStatisticService

def inserts (s : UsersConnectionsStatisticService) : Event → List UsersConnectionsStatistic
  | .incrementQuotesNumber _ _ _ => []
  | .incrementQuotesNumberByTarget _ _ _ => []
  | .saveAccumulatedQuotesNumber => []
  | .settled i .succeeds => (s.saving[i]?).elim [] Saving.stats
  | .settled _ .rejects => []

def dated (createdAt : Int) (row : UsersConnectionsStatistic) : Timeline.UsersConnectionsStatistic :=
  ⟨row.userId,row.targetId,row.target.column,row.quotesNumber,createdAt⟩

def undated (row : Timeline.UsersConnectionsStatistic) : UsersConnectionsStatistic :=
  ⟨⟨row.userId,row.targetId,.ofColumn row.target⟩,row.quotesNumber⟩

abbrev Dated : Type := Retention.State UsersConnectionsStatisticService Timeline.UsersConnectionsStatistic

def opened (now : Int) : Dated := ⟨fresh,[],[],now⟩

/-- `deletes` is `deleteOldUsersConnectionsStatistic`. -/
def keeping : Dated → Retention.Event Event → Option Dated :=
  Retention.step step inserts dated Timeline.UsersConnectionsStatistic.createdAt oneWeekAgo

def accounted : Dated × Amounts × Amounts → Retention.Event Event → Option (Dated × Amounts × Amounts) :=
  recorded keeping (Retention.doing (fun s event => (s.counts event,s.loses event)))

private theorem undated_dated (createdAt : Int) (row : UsersConnectionsStatistic) :
    undated (dated createdAt row) = row := by
  obtain ⟨⟨userId,targetId,target⟩,quotesNumber⟩ := row
  cases target <;> rfl

private theorem saveByTarget_table (s : UsersConnectionsStatisticService) : s.saveByTarget.table = s.table := by
  unfold saveByTarget
  split <;> rfl

private theorem table_inserts (s : UsersConnectionsStatisticService) (event : Event)
    (t : UsersConnectionsStatisticService) (taken : s.step event = some t) : t.table = s.table ++ s.inserts event := by
  cases event with
  | incrementQuotesNumber userId target n =>
    cases taken
    exact (List.append_nil _).symm
  | incrementQuotesNumberByTarget target targetId n =>
    cases taken
    exact (List.append_nil _).symm
  | saveAccumulatedQuotesNumber =>
    cases taken
    simp only [saveAccumulatedQuotesNumber,inserts,List.append_nil]
    split
    next => rfl
    next => exact saveByTarget_table s
  | settled i outcome =>
    obtain ⟨saving,found,rfl⟩ := Option.map_eq_some_iff.mp taken
    cases outcome with
    | succeeds =>
      simp only [settled,inserts,found,Option.elim_some]
      split
      next => rw [saveByTarget_table]
      next => rfl
    | rejects => simp [settled,inserts]

private theorem amounts_counter (stats : List UsersConnectionsStatistic) (counter : Counter) :
    amounts stats counter =
      ((stats.filter (fun row => row.toCounter = counter)).map UsersConnectionsStatistic.quotesNumber).sum := by
  induction stats with
  | nil => rfl
  | cons row rest ih =>
    have split : amounts (row :: rest) counter =
        (Pi.single row.toCounter row.quotesNumber : Amounts) counter + amounts rest counter := rfl
    rw [split,ih]
    by_cases same : row.toCounter = counter
    · subst same
      simp
    · simp [same,Ne.symm same]

/-- A row is about a user or about a target of another kind. -/
def OneId (row : UsersConnectionsStatistic) : Prop := row.userId = none ∨ row.targetId = none

private theorem userStats_oneId (entry : String × IUserQuotesNumber) : ∀ row ∈ userStats entry, OneId row := by
  intro row member
  rw [userStats,List.mem_append] at member
  rcases member with fix | websocket
  · split at fix
    next =>
      cases List.mem_singleton.mp fix
      exact Or.inr rfl
    next => cases fix
  · split at websocket
    next =>
      cases List.mem_singleton.mp websocket
      exact Or.inr rfl
    next => cases websocket

private theorem targetStats_oneId (entry : UserConnectionTarget × List (String × Int)) :
    ∀ row ∈ targetStats entry, OneId row := by
  intro row member
  obtain ⟨_,_,rfl⟩ := List.mem_map.mp member
  exact Or.inl rfl

structure OneIds (s : UsersConnectionsStatisticService) : Prop where
  saving : ∀ saving ∈ s.saving, ∀ row ∈ saving.stats, OneId row
  table : ∀ row ∈ s.table, OneId row

theorem OneIds.saves {s : UsersConnectionsStatisticService} (ids : OneIds s) (stats : List UsersConnectionsStatistic)
    (goesOn : Bool)
    (own : ∀ row ∈ stats, OneId row) : ∀ saving ∈ s.saving ++ [⟨stats,goesOn⟩], ∀ row ∈ saving.stats, OneId row := by
  intro saving member
  rcases List.mem_append.mp member with before | last
  · exact ids.saving saving before
  · cases List.mem_singleton.mp last
    exact own

theorem OneIds.saveByTarget {s : UsersConnectionsStatisticService} (ids : OneIds s) : OneIds s.saveByTarget := by
  unfold UsersConnectionsStatisticService.saveByTarget
  split
  next =>
    refine ⟨ids.saves _ false (fun row member => ?_),ids.table⟩
    obtain ⟨entry,_,inside⟩ := List.mem_flatMap.mp member
    exact targetStats_oneId entry row inside
  next => exact ids

private theorem step_oneIds (s : UsersConnectionsStatisticService) (event : Event)
    (t : UsersConnectionsStatisticService) (ids : OneIds s)
    (taken : s.step event = some t) : OneIds t := by
  cases event with
  | incrementQuotesNumber userId target n =>
    cases taken
    exact ⟨ids.saving,ids.table⟩
  | incrementQuotesNumberByTarget target targetId n =>
    cases taken
    exact ⟨ids.saving,ids.table⟩
  | saveAccumulatedQuotesNumber =>
    cases taken
    simp only [saveAccumulatedQuotesNumber]
    split
    next =>
      refine ⟨ids.saves _ true (fun row member => ?_),ids.table⟩
      obtain ⟨entry,_,inside⟩ := List.mem_flatMap.mp member
      exact userStats_oneId entry row inside
    next => exact ids.saveByTarget
  | settled i outcome =>
    obtain ⟨saving,found,rfl⟩ := Option.map_eq_some_iff.mp taken
    have erased : ∀ other ∈ s.saving.eraseIdx i, ∀ row ∈ other.stats, OneId row :=
      fun other member => ids.saving other (List.mem_of_mem_eraseIdx member)
    cases outcome with
    | succeeds =>
      have saved : OneIds { s with saving := s.saving.eraseIdx i, table := s.table ++ saving.stats } := by
        refine ⟨erased,fun row member => ?_⟩
        rcases List.mem_append.mp member with before | new
        · exact ids.table row before
        · exact ids.saving saving (List.mem_of_getElem? found) row new
      simp only [settled]
      split
      next => exact saved.saveByTarget
      next => exact saved
    | rejects => exact ⟨erased,ids.table⟩

end UsersConnectionsStatisticService

section Shown

variable {R G : Type} [DecidableEq G] (query : Query R G) (range : Range)

/-- The rows of a group that a timeline of the range leaves out. -/
def outOfRange (stored : List R) (group : G) : List R :=
  stored.filter (fun row => query.belongs row group ∧
    ¬ (timestamp range.startTime ≤ query.createdAt row ∧ query.createdAt row ≤ timestamp range.endTime))

def shown (rows : List (TimelineRow G)) (group : G) : Int :=
  ((rows.filter (fun row => row.group = group)).map TimelineRow.records).sum

variable {query range}

private theorem shown_inRange {table : List R} (aligned : query.Aligned range table) (group : G)
    (once : ∀ row ∈ query.inRange range table group, query.listings group = 1) {rows : List (TimelineRow G)}
    (answered : query.timeline range table = some rows) :
    shown rows group = ((query.inRange range table group).map query.number).sum := by
  have given : query.rows range table = rows := by
    unfold Query.timeline at answered
    split at answered
    next => exact Option.some.inj answered
    next => cases answered
  rw [shown,← given]
  by_cases listed : group ∈ query.groups
  · rw [Timeline.records_sum query range table group listed]
    have every := (Timeline.joined_perm_iff query range table group).mpr
      (fun row member => ⟨aligned group listed row member,once row member⟩)
    exact (every.map query.number).sum_eq
  · have absent : query.listings group = 0 :=
      List.countP_eq_zero.mpr (fun other member same => listed (of_decide_eq_true same ▸ member))
    have nobody : query.inRange range table group = [] := by
      cases inside : query.inRange range table group with
      | nil => rfl
      | cons row rest => exact absurd (once row (inside ▸ List.mem_cons_self)) (by simp [absent])
    have unlisted : (query.rows range table).filter (fun row => row.group = group) = [] := by
      rw [List.filter_eq_nil_iff]
      intro row member same
      obtain ⟨time,_,other,known,rfl⟩ := (Timeline.mem_rows query range table row).mp member
      exact listed (of_decide_eq_true same ▸ known)
    rw [nobody,unlisted]
    rfl

/-- What is shown of a group and what lies out of the range is what was ever stored of it. -/
theorem shown_stored {cutoff : Int} {stored table : List R}
    (covers : Retention.Covers query.createdAt cutoff stored table)
    (recent : cutoff < timestamp range.startTime) (aligned : query.Aligned range table) (group : G)
    (once : ∀ row ∈ query.inRange range table group, query.listings group = 1) {rows : List (TimelineRow G)}
    (answered : query.timeline range table = some rows) :
    shown rows group + ((outOfRange query range stored group).map query.number).sum =
      ((stored.filter (fun row => query.belongs row group)).map query.number).sum := by
  have kept : query.inRange range table group = query.inRange range stored group :=
    covers.filter _ (fun _ asked => Int.lt_of_lt_of_le recent (of_decide_eq_true asked).2.1)
  rw [shown_inRange aligned group once answered,kept]
  have parts := Timeline.sum_disjoint stored (fun row => query.belongs row group = true)
    (fun row => query.belongs row group = true ∧ timestamp range.startTime ≤ query.createdAt row ∧
      query.createdAt row ≤ timestamp range.endTime)
    (fun row => query.belongs row group = true ∧
      ¬ (timestamp range.startTime ≤ query.createdAt row ∧ query.createdAt row ≤ timestamp range.endTime))
    (fun row => ⟨fun own => (Decidable.em _).imp (fun inside => ⟨own,inside⟩) (fun outside => ⟨own,outside⟩),
      fun either => either.elim And.left And.left⟩)
    (fun _ inside outside => outside.2 inside.2) query.number
  simpa [Query.inRange,outOfRange] using parts.symm

end Shown

/-- What was counted and is in no row: it is being saved, it waits, or it was lost. -/
def unstored {K : Type} (view : View (K → Int)) (lost : K → Int) (key : K) : Int :=
  view.saving.sum key + view.waiting key + lost key

private theorem stored_unstored {K : Type} {view : View (K → Int)} {lost : K → Int}
    (balanced : Balanced lost view) (key : K) :
    view.stored key + unstored view lost key = view.given key := by
  have total := congrFun balanced key
  simp only [Pi.add_apply] at total
  simp only [unstored]
  omega

namespace QuotesStatisticService

variable {now : Int} {events : List (Retention.Event Event)} {s : Dated} {incremented lost : Amounts}

private theorem run_accounted (ran : run accounted (opened now,0) events = some (s,incremented,lost)) :
    Retention.Accounts Timeline.QuotesStatistic.createdAt oneWeekAgo undated QuotesStatisticService.table view s
      incremented lost :=
  Retention.run_accounts oneWeekAgo_mono (fun _ => Int.le_refl _) undated (fun _ _ => rfl) QuotesStatisticService.table
    table_inserts step_balanced (opened now) ⟨Retention.covers_all,rfl,balanced_empty⟩ events s incremented lost ran

private theorem stored_amount (stored : List Timeline.QuotesStatistic) (table : List Timeline.QuotesStatistic)
    (provider : String) :
    let query := Timeline.QuotesStatisticService.query table
    ((stored.filter (fun row => query.belongs row provider)).map query.number).sum =
      amounts (stored.map undated) provider := by
  rw [amounts_provider,List.filter_map,List.map_map]
  rfl

private theorem quotes_shown (ran : run accounted (opened now,0) events = some (s,incremented,lost))
    (startTime endTime : Option Int) (timezone : Option Zone) (rows : List (TimelineRow String)) :
    let query := Timeline.QuotesStatisticService.query s.table
    let range := Timeline.QuotesStatisticService.range s.table (dateNow s.now) startTime endTime timezone
    oneWeekAgo s.now < timestamp range.startTime → query.Aligned range s.table →
      Timeline.QuotesStatisticService.getTimeline s.table (dateNow s.now) startTime endTime timezone = some rows →
      ∀ provider, shown rows provider + ((outOfRange query range s.stored provider).map query.number).sum +
        unstored (s.writer.view incremented) lost provider = incremented provider := by
  intro query range recent aligned answered provider
  have accounts := run_accounted ran
  have once : ∀ row ∈ query.inRange range s.table provider, query.listings provider = 1 := by
    intro row member
    obtain ⟨inside,asked⟩ := List.mem_filter.mp member
    have named : row.quotesProviderName = provider := of_decide_eq_true (of_decide_eq_true asked).1
    exact countP_eq_one _ (List.nodup_dedup _) provider (List.mem_dedup.mpr (named ▸ List.mem_map_of_mem inside))
  rw [shown_stored accounts.covers recent aligned provider once answered,stored_amount s.stored s.table,accounts.stored]
  exact stored_unstored accounts.balanced provider

end QuotesStatisticService

namespace UsersConnectionsStatisticService

variable {now : Int} {events : List (Retention.Event Event)} {s : Dated} {incremented lost : Amounts}

private theorem run_accounted (ran : run accounted (opened now,0) events = some (s,incremented,lost)) :
    Retention.Accounts Timeline.UsersConnectionsStatistic.createdAt oneWeekAgo undated
      UsersConnectionsStatisticService.table view s incremented lost :=
  Retention.run_accounts oneWeekAgo_mono (fun _ => Int.le_refl _) undated undated_dated
    UsersConnectionsStatisticService.table
    table_inserts step_balanced (opened now) ⟨Retention.covers_all,rfl,view_fresh ▸ balanced_empty⟩ events s
      incremented lost ran

private theorem run_oneIds (ran : run accounted (opened now,0) events = some (s,incremented,lost)) :
    OneIds s.writer := by
  refine run_invariant (fun t : Dated × Amounts × Amounts => OneIds t.1.writer) ?_ (opened now,0)
    (s,incremented,lost) events
    ⟨fun _ member => (List.not_mem_nil member).elim,fun _ member => (List.not_mem_nil member).elim⟩ ran
  rintro before event after ids taken
  obtain ⟨next,moved,rfl⟩ := Option.map_eq_some_iff.mp taken
  cases event with
  | acts act written =>
    simp only [keeping,Retention.step] at moved
    split at moved
    next =>
      obtain ⟨writer,acted,rfl⟩ := Option.map_eq_some_iff.mp moved
      exact step_oneIds before.1.writer act writer ids acted
    next => cases moved
  | deletes =>
    cases moved
    exact ids
  | passes time =>
    cases moved
    exact ids

private theorem stored_oneId (ran : run accounted (opened now,0) events = some (s,incremented,lost))
    (row : Timeline.UsersConnectionsStatistic) (member : row ∈ s.stored) : row.userId = none ∨ row.targetId = none :=
  (run_oneIds ran).table (undated row) ((run_accounted ran).stored ▸ List.mem_map_of_mem member)

/-- The rows of one kind of id and of a target weigh what their counter does, as no row has both ids. -/
theorem stored_amount (stored : List Timeline.UsersConnectionsStatistic) (counter : Counter)
    (belongs : Timeline.UsersConnectionsStatistic → Bool)
    (own : ∀ row ∈ stored, belongs row = true ↔ (undated row).toCounter = counter) :
    ((stored.filter belongs).map Timeline.UsersConnectionsStatistic.quotesNumber).sum =
      amounts (stored.map undated) counter := by
  rw [amounts_counter,List.filter_map,List.map_map]
  have same : stored.filter belongs =
      stored.filter ((fun row => decide (row.toCounter = counter)) ∘ undated) := by
    apply List.filter_congr
    intro row member
    rw [Bool.eq_iff_iff,own row member]
    exact decide_eq_true_iff.symm
  rw [same]
  rfl

private theorem ofColumn_eq_iff (column : Timeline.UserConnectionTarget) (target : UserConnectionTarget) :
    UserConnectionTarget.ofColumn column = target ↔ column = target.column := by
  cases column <;> cases target <;> decide

private theorem connections_shown (ran : run accounted (opened now,0) events = some (s,incremented,lost))
    (startTime endTime : Option Int) (timezone : Option Zone)
    (rows : List (TimelineRow (String × Timeline.UserConnectionTarget))) :
    let query := Timeline.UsersConnectionsStatisticService.query s.table
    let range := Timeline.UsersConnectionsStatisticService.range s.table (dateNow s.now) startTime endTime timezone
    oneWeekAgo s.now < timestamp range.startTime → query.Aligned range s.table →
      Timeline.UsersConnectionsStatisticService.getTimeline s.table (dateNow s.now) startTime endTime
        timezone = some rows →
      ∀ userId target, shown rows (userId,target.column) +
        ((outOfRange query range s.stored (userId,target.column)).map query.number).sum +
        unstored (s.writer.view incremented) lost ⟨some userId,none,target⟩ =
          incremented ⟨some userId,none,target⟩ := by
  intro query range recent aligned answered userId target
  have accounts := run_accounted ran
  have once : ∀ row ∈ query.inRange range s.table (userId,target.column),
      query.listings (userId,target.column) = 1 := by
    intro row member
    obtain ⟨inside,asked⟩ := List.mem_filter.mp member
    obtain ⟨named,kind⟩ : row.userId = some userId ∧ row.target = target.column :=
      of_decide_eq_true (of_decide_eq_true asked).1
    refine countP_eq_one _ (Timeline.UsersConnectionsStatisticService.crossTargets_nodup s.table _
      (Timeline.UsersConnectionsStatisticService.users_nodup s.table)) _ ?_
    refine List.mem_flatMap.mpr ⟨userId,?_,List.mem_map.mpr ⟨target.column,?_,rfl⟩⟩
    · exact List.mem_filterMap.mpr ⟨some userId,List.mem_dedup.mpr (named ▸ List.mem_map_of_mem inside),rfl⟩
    · exact List.mem_dedup.mpr (kind ▸ List.mem_map_of_mem inside)
  rw [shown_stored accounts.covers recent aligned _ once answered]
  have whole : ((s.stored.filter (fun row => query.belongs row (userId,target.column))).map query.number).sum =
      amounts (s.stored.map undated) ⟨some userId,none,target⟩ := by
    apply stored_amount s.stored ⟨some userId,none,target⟩
    intro row member
    have one := stored_oneId ran row member
    change decide (row.userId = some userId ∧ row.target = target.column) = true ↔
      (⟨row.userId,row.targetId,.ofColumn row.target⟩ : Counter) = ⟨some userId,none,target⟩
    rw [decide_eq_true_iff,Counter.mk.injEq,ofColumn_eq_iff]
    constructor
    · rintro ⟨named,kind⟩
      exact ⟨named,one.resolve_left (by simp [named]),kind⟩
    · rintro ⟨named,_,kind⟩
      exact ⟨named,kind⟩
  rw [whole,accounts.stored]
  exact stored_unstored accounts.balanced _

private theorem targets_shown (ran : run accounted (opened now,0) events = some (s,incremented,lost))
    (startTime endTime : Option Int)
    (targetIds : List String) (rows : List (TimelineRow (String × Timeline.UserConnectionTarget))) :
    let query := Timeline.UsersConnectionsStatisticService.targetsQuery s.table targetIds
    let range := Timeline.UsersConnectionsStatisticService.targetsRange s.table (dateNow s.now) startTime endTime
    oneWeekAgo s.now < timestamp range.startTime → range.interval ≠ .week →
      Timeline.UsersConnectionsStatisticService.getTargetsTimeline s.table (dateNow s.now) startTime endTime
        targetIds = some rows →
      ∀ targetId target, targetIds.count targetId = 1 → shown rows (targetId,target.column) +
        ((outOfRange query range s.stored (targetId,target.column)).map query.number).sum +
        unstored (s.writer.view incremented) lost ⟨none,some targetId,target⟩ =
          incremented ⟨none,some targetId,target⟩ := by
  intro query range recent fine answered targetId target asked_once
  have accounts := run_accounted ran
  have aligned : query.Aligned range s.table := fun group _ row member =>
    (Timeline.onGrid_inRange query range s.table 0 rfl group row member).mpr fine
  have once : ∀ row ∈ query.inRange range s.table (targetId,target.column),
      query.listings (targetId,target.column) = 1 := by
    intro row member
    obtain ⟨inside,asked⟩ := List.mem_filter.mp member
    obtain ⟨_,kind⟩ : row.targetId = some targetId ∧ row.target = target.column :=
      of_decide_eq_true (of_decide_eq_true asked).1
    have known : target.column ∈ Timeline.UsersConnectionsStatisticService.targets s.table :=
      List.mem_dedup.mpr (kind ▸ List.mem_map_of_mem inside)
    rw [← asked_once]
    exact Timeline.UsersConnectionsStatisticService.crossTargets_listings s.table targetIds targetId target.column known
  rw [shown_stored accounts.covers recent aligned _ once answered]
  have whole : ((s.stored.filter (fun row => query.belongs row (targetId,target.column))).map query.number).sum =
      amounts (s.stored.map undated) ⟨none,some targetId,target⟩ := by
    apply stored_amount s.stored ⟨none,some targetId,target⟩
    intro row member
    have one := stored_oneId ran row member
    change decide (row.targetId = some targetId ∧ row.target = target.column) = true ↔
      (⟨row.userId,row.targetId,.ofColumn row.target⟩ : Counter) = ⟨none,some targetId,target⟩
    rw [decide_eq_true_iff,Counter.mk.injEq,ofColumn_eq_iff]
    constructor
    · rintro ⟨named,kind⟩
      exact ⟨one.resolve_right (by simp [named]),named,kind⟩
    · rintro ⟨_,named,kind⟩
      exact ⟨named,kind⟩
  rw [whole,accounts.stored]
  exact stored_unstored accounts.balanced _

end UsersConnectionsStatisticService

/-- In every run of increments, flushes, saves however they end, nightly deletions and time, whatever was counted is
either in the bars of a timeline that begins less than a week ago, or stored and out of its range, or not stored: the
deletions take nothing from it. -/
theorem charts_account :
    (∀ (now : Int) events (s : QuotesStatisticService.Dated) incremented lost,
      run QuotesStatisticService.accounted (QuotesStatisticService.opened now,0) events = some (s,incremented,lost) →
      ∀ startTime endTime timezone rows,
        let query := Timeline.QuotesStatisticService.query s.table
        let range := Timeline.QuotesStatisticService.range s.table (dateNow s.now) startTime endTime timezone
        oneWeekAgo s.now < timestamp range.startTime → query.Aligned range s.table →
        Timeline.QuotesStatisticService.getTimeline s.table (dateNow s.now) startTime endTime timezone = some rows →
        ∀ provider, shown rows provider + ((outOfRange query range s.stored provider).map query.number).sum +
          unstored (s.writer.view incremented) lost provider = incremented provider) ∧
    ∀ (now : Int) events (s : UsersConnectionsStatisticService.Dated) incremented lost,
      run UsersConnectionsStatisticService.accounted (UsersConnectionsStatisticService.opened now,0) events =
        some (s,incremented,lost) →
      ∀ startTime endTime,
        (∀ timezone rows,
          let query := Timeline.UsersConnectionsStatisticService.query s.table
          let range := Timeline.UsersConnectionsStatisticService.range s.table (dateNow s.now) startTime
            endTime timezone
          oneWeekAgo s.now < timestamp range.startTime → query.Aligned range s.table →
          Timeline.UsersConnectionsStatisticService.getTimeline s.table (dateNow s.now) startTime endTime
            timezone = some rows →
          ∀ userId target, shown rows (userId,target.column) +
            ((outOfRange query range s.stored (userId,target.column)).map query.number).sum +
            unstored (s.writer.view incremented) lost ⟨some userId,none,target⟩ =
              incremented ⟨some userId,none,target⟩) ∧
        ∀ targetIds rows,
          let query := Timeline.UsersConnectionsStatisticService.targetsQuery s.table targetIds
          let range := Timeline.UsersConnectionsStatisticService.targetsRange s.table (dateNow s.now) startTime endTime
          oneWeekAgo s.now < timestamp range.startTime → range.interval ≠ .week →
          Timeline.UsersConnectionsStatisticService.getTargetsTimeline s.table (dateNow s.now) startTime endTime
            targetIds = some rows →
          ∀ targetId target, targetIds.count targetId = 1 → shown rows (targetId,target.column) +
            ((outOfRange query range s.stored (targetId,target.column)).map query.number).sum +
            unstored (s.writer.view incremented) lost ⟨none,some targetId,target⟩ =
              incremented ⟨none,some targetId,target⟩ :=
  ⟨fun _ _ _ _ _ ran startTime endTime timezone rows =>
    QuotesStatisticService.quotes_shown ran startTime endTime timezone rows,
    fun _ _ _ _ _ ran startTime endTime =>
      ⟨fun timezone rows => UsersConnectionsStatisticService.connections_shown ran startTime endTime timezone rows,
        fun targetIds rows => UsersConnectionsStatisticService.targets_shown ran startTime endTime targetIds rows⟩⟩

/-- On the first day of 2026: three quotes are saved, the nightly job runs, two more are counted. -/
def savedAndCounted : List (Retention.Event QuotesStatisticService.Event) :=
  [.acts (.incrementQuotesNumber "lp" 3) 0,.acts .saveAccumulatedQuotesNumber 0,
    .acts (.settled 0 .succeeds) 1767225600000000,.passes 60000000,.deletes,.acts (.incrementQuotesNumber "lp" 2) 0]

theorem saved_and_counted : ∃ s incremented lost,
    run QuotesStatisticService.accounted (QuotesStatisticService.opened 1767225600000000,0) savedAndCounted =
      some (s,incremented,lost) ∧
    ∃ rows, Timeline.QuotesStatisticService.getTimeline s.table (dateNow s.now) none none none = some rows ∧
      shown rows "lp" + ((outOfRange (Timeline.QuotesStatisticService.query s.table)
        (Timeline.QuotesStatisticService.range s.table (dateNow s.now) none none none) s.stored "lp").map
          Timeline.QuotesStatistic.quotesNumber).sum + unstored (s.writer.view incremented) lost "lp" =
            incremented "lp" := by
  refine ⟨_,_,_,rfl,_,rfl,?_⟩
  apply charts_account.1 1767225600000000 savedAndCounted _ _ _ rfl none none none _ ?_ ?_ rfl "lp"
  · decide
  · exact fun _ _ row member => (Timeline.onGrid_inRange _ _ _ 0 rfl _ row member).mpr (by decide)

end BoarPack.Statistics
