import BoarPack.EventLogs.Buffer
import BoarPack.EventLogs.Masking
import Mathlib.Data.Multiset.Filter

/-! The event log of a running application: the recorders of its requests and `EventLogsLogger` call the service, which
buffers and saves. The audit entries are followed from the requests to the table. -/
namespace BoarPack.EventLogs.Recording
open Containers Outbox Transition

namespace EventLogsLogger

def logged (serviceConfig : TEventLogServiceConfig) (logLevel : LogLevel) (payload : Payload) : PartialEventLog :=
  [("action",.str "log"),("entity",.str "EventLogsLogger"),("service",.str serviceConfig.name),
    ("serviceId",textOrNull serviceConfig.id),("logLevel",.str logLevel.text),("payload",.obj payload)]

def params (optionalParams : List Json) : Payload :=
  if optionalParams.isEmpty then [] else [("optionalParams",.arr optionalParams)]

def warn (serviceConfig : TEventLogServiceConfig) (message : String) (optionalParams : List Json) : PartialEventLog :=
  logged serviceConfig .warning ([("message",.str message)] ++ params optionalParams)

/-- What cannot be spread is falsy. -/
def error (serviceConfig : TEventLogServiceConfig) (message : String) (stack : Json) (optionalParams : List Json) :
    PartialEventLog :=
  logged serviceConfig .error ([("message",.str message)] ++ (if stack.spread.isSome then [("stack",stack)] else []) ++
    params optionalParams)

end EventLogsLogger

inductive Happening
  | request (i : Nat) (event : Event)
  | warn (message : String) (optionalParams : List Json)
  | error (message : String) (stack : Json) (optionalParams : List Json)
  | operationalLog (eventLog : PartialEventLog)
  | applicationLog (eventLog : PartialEventLog)
  | saveAccumulatedLogs
  | settled (i : Nat) (outcome : Outcome)

section

variable (platform : Platform) (exchanges : Nat → Exchange) (serviceConfig : TEventLogServiceConfig)

/-- What `tap`, `catchError` or the listener of `finish` calls, if anything. -/
def records (s : EventLogsService) (i : Nat) (event : Event) : Option EventLogsService.Event :=
  let exchange := exchanges i
  let skipOptions := exchange.skipOptions
  match event with
  | .emitted statusCode now =>
    if skipOptions = some .all then none
    else some (.audit (EventLogInterceptor.entry exchange statusCode (logLevel statusCode) now).fields
      (some (i,exchange.request)) skipOptions)
  | .threw status now =>
    if skipOptions = some .all then none
    else
      let statusCode := EventLogInterceptor.errorStatus status
      let level : LogLevel := if 500 ≤ statusCode then .error else .warning
      some (.audit (EventLogInterceptor.entry exchange statusCode level now).fields (some (i,exchange.request))
        skipOptions)
  | .finished statusCode now =>
    if s.requestAlreadyHandled (some (i,exchange.request)) then none
    else if isSuccess statusCode then none
    else some (.audit (EventLogMiddleware.entry platform exchange statusCode now).fields
      (some (i,exchange.request)) none)

def call (s : EventLogsService) : Happening → Option EventLogsService.Event
  | .request i event => records platform exchanges s i event
  | .warn message optionalParams => some (.applicationLog (EventLogsLogger.warn serviceConfig message optionalParams))
  | .error message stack optionalParams =>
    some (.applicationLog (EventLogsLogger.error serviceConfig message stack optionalParams))
  | .operationalLog eventLog => some (.operationalLog eventLog)
  | .applicationLog eventLog => some (.applicationLog eventLog)
  | .saveAccumulatedLogs => some .saveAccumulatedLogs
  | .settled i outcome => some (.settled i outcome)

def step (s : EventLogsService) (happening : Happening) : Option EventLogsService :=
  match call platform exchanges serviceConfig s happening with
  | none => some s
  | some event => s.step event

/-- What is pushed to the buffer, and what is dropped with a batch that is not saved. -/
def does (s : EventLogsService) (happening : Happening) : EventLogsService.Entries × EventLogsService.Entries :=
  match call platform exchanges serviceConfig s happening with
  | none => 0
  | some event => (s.pushes event,s.drops event)

end

def isAudit (eventLog : PartialEventLog) : Bool :=
  match get eventLog "logType" with
  | some (.str text) => text = LogType.audit.text
  | _ => false

/-- All entries that are left, and those that were dropped. -/
def entries (s : EventLogsService) (dropped : EventLogsService.Entries) : EventLogsService.Entries :=
  ↑s.table + (s.saving.map Multiset.ofList).sum + ↑s.logsStore + dropped

def requestEvents (happenings : List Happening) : List (Nat × Event) :=
  happenings.filterMap (fun happening => match happening with
    | .request i event => some (i,event)
    | _ => none)

private theorem isAudit_audited (eventLog : PartialEventLog) (request : Option Incoming)
    (skipOptions : Option TSkipEventsLogOptions) :
    isAudit (audited eventLog request skipOptions) = true := by
  simp [isAudit,audited]

private theorem isAudit_systemLog (logType : LogType) (eventLog : PartialEventLog) (system : logType ≠ .audit) :
    isAudit (systemLog logType eventLog) = false := by
  cases logType with
  | audit => exact absurd rfl system
  | operational => simp [isAudit,systemLog,LogType.text]
  | application => simp [isAudit,systemLog,LogType.text]

/-- The store of the recorders alone is what the service has been given to audit. -/
structure Refines (s : EventLogsService) (pushed : EventLogsService.Entries) (store : Store) : Prop where
  handled : s.handled = store.handled
  audits : pushed.filter (fun eventLog => isAudit eventLog = true) =
    ↑(store.logsStore.map (fun stored => stored.2.fields))

section

variable {platform : Platform} {exchanges : Nat → Exchange} {serviceConfig : TEventLogServiceConfig}

private theorem records_cases {s : EventLogsService} {store : Store} (handled : s.handled = store.handled) (i : Nat)
    (event : Event) :
    (records platform exchanges s i event = none ∧ EventLogs.step platform exchanges store (i,event) = store) ∨
      ∃ entry skipOptions,
        records platform exchanges s i event = some (.audit entry.fields (some (i,(exchanges i).request)) skipOptions) ∧
        EventLogs.step platform exchanges store (i,event) = audit store i entry (exchanges i).request skipOptions := by
  cases event with
  | emitted statusCode now =>
    simp only [records,EventLogs.step,EventLogInterceptor.tap]
    split
    next => exact Or.inl ⟨rfl,rfl⟩
    next => exact Or.inr ⟨_,_,rfl,rfl⟩
  | threw status now =>
    simp only [records,EventLogs.step,EventLogInterceptor.catchError]
    split
    next => exact Or.inl ⟨rfl,rfl⟩
    next => exact Or.inr ⟨_,_,rfl,rfl⟩
  | finished statusCode now =>
    simp only [records,EventLogs.step,EventLogMiddleware.finished,EventLogsService.requestAlreadyHandled,
      Option.any_some,decide_eq_true_eq,handled]
    split
    next => exact Or.inl ⟨rfl,rfl⟩
    next =>
      split
      next => exact Or.inl ⟨rfl,rfl⟩
      next => exact Or.inr ⟨_,_,rfl,rfl⟩

theorem Refines.audit {s : EventLogsService} {pushed : EventLogsService.Entries} {store : Store}
    (refines : Refines s pushed store)
    (i : Nat) (entry : LogEntry) (request : HttpRequest) (skipOptions : Option TSkipEventsLogOptions) :
    Refines (s.audit entry.fields (some (i,request)) skipOptions)
      (pushed + s.pushes (.audit entry.fields (some (i,request)) skipOptions))
      (audit store i entry request skipOptions) := by
  have flag : s.requestAlreadyHandled (some (i,request)) = true ↔ i ∈ store.handled := by
    simp [EventLogsService.requestAlreadyHandled,refines.handled]
  by_cases open_request : i ∈ store.handled
  · rw [audit_handled store i entry request skipOptions open_request,EventLogsService.audit,EventLogsService.pushes,
      if_pos (flag.mpr open_request),if_pos (flag.mpr open_request),add_zero]
    exact refines
  · rw [EventLogsService.audit,EventLogsService.pushes,if_neg (mt flag.mp open_request),
      if_neg (mt flag.mp open_request),EventLogs.audit,if_neg open_request]
    refine ⟨?_,?_⟩
    · change [i] ++ s.handled = i :: store.handled
      rw [refines.handled]
      rfl
    · rw [Multiset.filter_add,refines.audits,Multiset.filter_singleton,if_pos (isAudit_audited _ _ _),audited_fields,
        List.map_append,← Multiset.coe_add]
      rfl

theorem Refines.push {s : EventLogsService} {pushed : EventLogsService.Entries} {store : Store}
    (refines : Refines s pushed store) (logType : LogType) (system : logType ≠ .audit) (eventLog : PartialEventLog) :
    Refines (s.push (systemLog logType eventLog)) (pushed + {systemLog logType eventLog}) store := by
  refine ⟨refines.handled,?_⟩
  rw [Multiset.filter_add,refines.audits,Multiset.filter_singleton,
    if_neg (by simp [isAudit_systemLog logType eventLog system])]
  exact add_zero _

theorem Refines.saving {s t : EventLogsService} {pushed : EventLogsService.Entries} {store : Store}
    (refines : Refines s pushed store) (same : t.handled = s.handled) : Refines t (pushed + 0) store :=
  ⟨same.trans refines.handled,(add_zero pushed).symm ▸ refines.audits⟩

private theorem refines_step {s t : EventLogsService} {pushed : EventLogsService.Entries} {store : Store}
    (refines : Refines s pushed store)
    (happening : Happening) (taken : step platform exchanges serviceConfig s happening = some t) :
    Refines t (pushed + (does platform exchanges serviceConfig s happening).1)
      ((requestEvents [happening]).foldl (EventLogs.step platform exchanges) store) := by
  cases happening with
  | request i event =>
    change Refines t _ (EventLogs.step platform exchanges store (i,event))
    rcases @records_cases platform exchanges s store refines.handled i event with
      ⟨nothing,kept⟩ | ⟨entry,skipOptions,called,recorded⟩
    · simp only [step,call,nothing] at taken
      obtain rfl := Option.some.inj taken
      simpa only [does,call,nothing,kept,Prod.fst_zero,add_zero] using refines
    · simp only [step,call,called] at taken
      obtain rfl := Option.some.inj taken
      simpa only [does,call,called,recorded] using refines.audit i entry (exchanges i).request skipOptions
  | warn message optionalParams =>
    obtain rfl := Option.some.inj taken
    exact refines.push .application (by decide) _
  | error message stack optionalParams =>
    obtain rfl := Option.some.inj taken
    exact refines.push .application (by decide) _
  | operationalLog eventLog =>
    obtain rfl := Option.some.inj taken
    exact refines.push .operational (by decide) _
  | applicationLog eventLog =>
    obtain rfl := Option.some.inj taken
    exact refines.push .application (by decide) _
  | saveAccumulatedLogs =>
    obtain rfl := Option.some.inj taken
    apply refines.saving
    unfold EventLogsService.saveAccumulatedLogs
    split <;> rfl
  | settled i outcome =>
    obtain ⟨logs,found,rfl⟩ := Option.map_eq_some_iff.mp taken
    apply refines.saving
    cases outcome <;> rfl

private theorem requestEvents_cons (happening : Happening) (rest : List Happening) :
    requestEvents (happening :: rest) = requestEvents [happening] ++ requestEvents rest := by
  cases happening <;> rfl

private theorem refines_run {s t : EventLogsService × EventLogsService.Entries × EventLogsService.Entries}
    {store : Store}
    (happenings : List Happening) (refines : Refines s.1 s.2.1 store) (balanced : entries s.1 s.2.2 = s.2.1)
    (ran : Transition.run (recorded (step platform exchanges serviceConfig) (does platform exchanges serviceConfig)) s
      happenings = some t) :
    Refines t.1 t.2.1 ((requestEvents happenings).foldl (EventLogs.step platform exchanges) store) ∧
      entries t.1 t.2.2 = t.2.1 := by
  induction happenings generalizing s store with
  | nil =>
    obtain rfl := Option.some.inj ran
    exact ⟨refines,balanced⟩
  | cons happening rest ih =>
    obtain ⟨next,moved,ran⟩ := (run_cons s t happening rest).mp ran
    obtain ⟨u,taken,rfl⟩ := Option.map_eq_some_iff.mp moved
    rw [requestEvents_cons,List.foldl_append]
    refine ih (refines_step refines happening taken) ?_ ran
    simp only [step] at taken
    simp only [does]
    split at taken
    next nothing =>
      obtain rfl := Option.some.inj taken
      simpa [nothing] using balanced
    next event _ =>
      exact EventLogsService.step_balanced s.1 s.2.1 s.2.2 event u taken balanced

end

structure Distinguished (store : Store) : Prop where
  ids : store.logsStore.map Prod.fst = store.handled.reverse
  nodup : store.handled.Nodup

private theorem distinguished_step (platform : Platform) (exchanges : Nat → Exchange) {store : Store}
    (distinguished : Distinguished store)
    (i : Nat) (event : Event) : Distinguished (EventLogs.step platform exchanges store (i,event)) := by
  obtain same | ⟨entry,skipOptions,same⟩ := step_eq platform exchanges store i event
  · rw [same]
    exact distinguished
  · rw [same]
    unfold EventLogs.audit
    split
    next => exact distinguished
    next unhandled => exact ⟨by simp [distinguished.ids],List.nodup_cons.mpr ⟨unhandled,distinguished.nodup⟩⟩

private theorem distinguished_run (platform : Platform) (exchanges : Nat → Exchange) (events : List (Nat × Event)) :
    Distinguished (EventLogs.run platform exchanges events) := by
  unfold EventLogs.run
  induction events using List.reverseRecOn with
  | nil => exact ⟨rfl,List.nodup_nil⟩
  | append_singleton events last ih =>
    rw [List.foldl_append]
    exact distinguished_step platform exchanges ih last.1 last.2

/-- Each entry of the store is that of the first event of its request that is recorded. -/
theorem store_first (platform : Platform) (exchanges : Nat → Exchange) (events : List (Nat × Event)) (i : Nat)
    (log : EventLog) (stored : (i,log) ∈ (EventLogs.run platform exchanges events).logsStore) :
    (firstRecord (exchanges i) (eventsOf events i)).map (Event.entry platform (exchanges i)) = some log := by
  have inside : log ∈ (EventLogs.run platform exchanges events).entriesOf i := by
    simpa [Store.entriesOf] using stored
  rw [run_entries] at inside
  exact Option.mem_toList.mp inside

private theorem stored_iff (platform : Platform) (exchanges : Nat → Exchange) (events : List (Nat × Event)) (i : Nat) :
    i ∈ (EventLogs.run platform exchanges events).logsStore.map Prod.fst ↔
      ∃ event ∈ eventsOf events i, event.records (exchanges i).skipOptions = true := by
  have found : (firstRecord (exchanges i) (eventsOf events i)).isSome ↔
      ∃ event ∈ eventsOf events i, event.records (exchanges i).skipOptions = true := List.find?_isSome
  rw [← found]
  constructor
  · intro inside
    obtain ⟨⟨_,log⟩,stored,rfl⟩ := List.mem_map.mp inside
    have first := store_first platform exchanges events _ log stored
    exact Option.isSome_map.symm.trans (congrArg Option.isSome first)
  · intro recorded
    obtain ⟨event,first⟩ := Option.isSome_iff_exists.mp recorded
    have entries := run_entries platform exchanges events i
    rw [first,Option.map_some,Option.toList_some] at entries
    have inside : event.entry platform (exchanges i) ∈ (EventLogs.run platform exchanges events).entriesOf i := by
      rw [entries]
      exact List.mem_cons_self
    obtain ⟨stored,member,_⟩ := List.mem_map.mp inside
    obtain ⟨member,named⟩ := List.mem_filter.mp member
    exact List.mem_map.mpr ⟨stored,member,beq_iff_eq.mp named⟩

/-- The audit entries of a run, wherever they have come to, are one for each request that has something to record, and
it is that of what was recorded first. -/
theorem audit_log_complete (platform : Platform) (exchanges : Nat → Exchange) (serviceConfig : TEventLogServiceConfig)
    (happenings : List Happening) (s : EventLogsService × EventLogsService.Entries × EventLogsService.Entries)
    (ran : Transition.run (recorded (step platform exchanges serviceConfig) (does platform exchanges serviceConfig))
      (EventLogsService.fresh,0) happenings = some s) :
    ∃ requests : List Nat, requests.Nodup ∧
      (∀ i, i ∈ requests ↔
        ∃ event ∈ eventsOf (requestEvents happenings) i, event.records (exchanges i).skipOptions = true) ∧
      (entries s.1 s.2.2).filter (fun eventLog => isAudit eventLog = true) =
        ↑(requests.filterMap (fun i => (firstRecord (exchanges i) (eventsOf (requestEvents happenings) i)).map
          (fun event => (event.entry platform (exchanges i)).fields))) := by
  have fresh : Refines EventLogsService.fresh 0 .empty := ⟨rfl,rfl⟩
  obtain ⟨refines,balanced⟩ := refines_run happenings fresh (by simp [entries,EventLogsService.fresh]) ran
  change Refines s.1 s.2.1 (EventLogs.run platform exchanges (requestEvents happenings)) at refines
  have distinguished := distinguished_run platform exchanges (requestEvents happenings)
  refine ⟨_,?_,stored_iff platform exchanges (requestEvents happenings),?_⟩
  · rw [distinguished.ids,List.nodup_reverse]
    exact distinguished.nodup
  · rw [balanced,refines.audits,List.filterMap_map,← List.filterMap_eq_map]
    congr 1
    apply List.filterMap_congr
    intro stored inside
    have first := congrArg (Option.map EventLog.fields)
      (store_first platform exchanges (requestEvents happenings) stored.1 stored.2 inside)
    rw [Option.map_map] at first
    exact first.symm

theorem failed_login_kept : ∃ requests : List Nat, 0 ∈ requests ∧ ∃ s,
    Transition.run (recorded (step Tokens.plainPlatform (fun _ => loginExchange) ⟨none,"main"⟩)
      (does Tokens.plainPlatform (fun _ => loginExchange) ⟨none,"main"⟩)) (EventLogsService.fresh,0)
      [.request 0 (.finished 401 3),.warn "slow" [],.saveAccumulatedLogs,.settled 0 .succeeds] = some s ∧
    (entries s.1 s.2.2).filter (fun eventLog => isAudit eventLog = true) =
      ↑(requests.filterMap (fun i => (firstRecord loginExchange (eventsOf [(0,.finished 401 3)] i)).map
        (fun event => (event.entry Tokens.plainPlatform loginExchange).fields))) := by
  obtain ⟨requests,_,listed,kept⟩ := audit_log_complete Tokens.plainPlatform (fun _ => loginExchange) ⟨none,"main"⟩
    [.request 0 (.finished 401 3),.warn "slow" [],.saveAccumulatedLogs,.settled 0 .succeeds] _ rfl
  exact ⟨requests,(listed 0).mpr ⟨.finished 401 3,List.mem_cons_self,rfl⟩,_,rfl,kept⟩

end BoarPack.EventLogs.Recording
