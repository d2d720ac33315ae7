import BoarPack.EventLogs.Service
import BoarPack.Library.Outbox
import Mathlib.Algebra.Order.Group.Multiset

/-! The buffer of `EventLogsService`: the three methods that push to it, the flush and what becomes of its
save. -/
namespace BoarPack.EventLogs
open Users Containers Outbox Transition

abbrev PartialEventLog : Type := List (String × Json)

def LogType.text : LogType → String
  | audit => "Audit"
  | operational => "Operational"
  | application => "Application"

def UserRole.text : UserRole → String
  | admin => "Admin"
  | user => "User"
  | guest => "Guest"
  | system => "System"

def LogLevel.text : LogLevel → String
  | info => "Info"
  | warning => "Warning"
  | error => "Error"

def textOrNull (value : Option String) : Json := value.elim .null .str

def logPartial (request : HttpRequest) (skipOptions : Option TSkipEventsLogOptions) : PartialEventLog :=
  [("userId",textOrNull (orNull (request.user.map TUser.id))),
    ("userName",textOrNull (orNull (request.user.bind TUser.name))),
    ("userRole",.str ((request.user.map (fun user => rolesMap user.role)).getD .guest).text),
    ("payload",(maskPayload skipOptions request.body.spread).elim .null .obj),
    ("method",textOrNull (orNull request.method)),
    ("url",textOrNull (orNull request.url)),
    ("entityId",textOrNull (orNull request.id)),
    ("ipAddress",textOrNull (orNull request.ip)),
    ("userAgent",textOrNull (orNull request.userAgent))]

/-- The request with its index, which stands for the object. -/
abbrev Incoming : Type := Nat × HttpRequest

def audited (eventLog : PartialEventLog) (request : Option Incoming) (skipOptions : Option TSkipEventsLogOptions) :
    PartialEventLog :=
  let taken := request.elim [] (fun request => logPartial request.2 skipOptions)
  set (assign taken eventLog) "logType" (.str LogType.audit.text)

/-- A property that is missing is null in the table. -/
def LogEntry.fields (entry : LogEntry) : PartialEventLog :=
  [("action",.str entry.action),("entity",.str entry.entity),("service",textOrNull entry.service),
    ("serviceId",textOrNull entry.serviceId),("duration",.num entry.duration),("statusCode",.num entry.statusCode),
    ("logLevel",.str entry.logLevel.text)]

def EventLog.fields (log : EventLog) : PartialEventLog :=
  [("userId",textOrNull log.userId),("userName",textOrNull log.userName),("userRole",.str log.userRole.text),
    ("payload",log.payload.elim .null .obj),("method",textOrNull log.method),("url",textOrNull log.url),
    ("entityId",textOrNull log.entityId),("ipAddress",textOrNull log.ipAddress),
      ("userAgent",textOrNull log.userAgent)] ++
    log.toLogEntry.fields ++ [("logType",.str log.logType.text)]

/-- What `audit` pushes for an entry of the interceptor or the middleware is the record of `eventLog`. -/
theorem audited_fields (entry : LogEntry) (request : Incoming) (skipOptions : Option TSkipEventsLogOptions) :
    audited entry.fields (some request) skipOptions = (eventLog entry request.2 skipOptions).fields := by
  simp [audited,logPartial,LogEntry.fields,EventLog.fields,eventLog,assign,Containers.set]

/-- `{ logLevel: LogLevel.INFO, userRole: UserRole.SYSTEM, ...eventLog, logType }`. -/
def systemLog (logType : LogType) (eventLog : PartialEventLog) : PartialEventLog :=
  set (assign [("logLevel",.str LogLevel.info.text),("userRole",.str UserRole.system.text)] eventLog) "logType"
    (.str logType.text)

/-- The requests that carry the `requestHandled` symbol, the buffer, the saves in flight in the order of
their calls, and the rows of the table. -/
structure EventLogsService where
  handled : List Nat
  logsStore : List PartialEventLog
  saving : List (List PartialEventLog)
  table : List PartialEventLog

namespace EventLogsService

def fresh : EventLogsService := ⟨[],[],[],[]⟩

inductive Event
  | audit (eventLog : PartialEventLog) (request : Option Incoming) (skipOptions : Option TSkipEventsLogOptions)
  | operationalLog (eventLog : PartialEventLog)
  | applicationLog (eventLog : PartialEventLog)
  | saveAccumulatedLogs
  | settled (i : Nat) (outcome : Outcome)

def push (s : EventLogsService) (eventLog : PartialEventLog) : EventLogsService :=
  { s with logsStore := s.logsStore ++ [eventLog] }

def requestAlreadyHandled (s : EventLogsService) (request : Option Incoming) : Bool :=
  request.any (fun request => request.1 ∈ s.handled)

def audit (s : EventLogsService) (eventLog : PartialEventLog) (request : Option Incoming)
    (skipOptions : Option TSkipEventsLogOptions) : EventLogsService :=
  if s.requestAlreadyHandled request then s
  else push { s with handled := (request.map Prod.fst).toList ++ s.handled } (audited eventLog request skipOptions)

def operationalLog (s : EventLogsService) (eventLog : PartialEventLog) : EventLogsService :=
  s.push (systemLog .operational eventLog)

def applicationLog (s : EventLogsService) (eventLog : PartialEventLog) : EventLogsService :=
  s.push (systemLog .application eventLog)

/-- Up to the save, which is awaited. -/
def saveAccumulatedLogs (s : EventLogsService) : EventLogsService :=
  if s.logsStore.length > 0 then { s with logsStore := [], saving := s.saving ++ [s.logsStore] } else s

/-- The error of a rejected save is printed. -/
def settled (s : EventLogsService) (i : Nat) (logs : List PartialEventLog) : Outcome → EventLogsService
  | .succeeds => { s with saving := s.saving.eraseIdx i, table := s.table ++ logs }
  | .rejects => { s with saving := s.saving.eraseIdx i }

def step (s : EventLogsService) : Event → Option EventLogsService
  | .audit eventLog request skipOptions => some (s.audit eventLog request skipOptions)
  | .operationalLog eventLog => some (s.operationalLog eventLog)
  | .applicationLog eventLog => some (s.applicationLog eventLog)
  | .saveAccumulatedLogs => some s.saveAccumulatedLogs
  | .settled i outcome => (s.saving[i]?).map (fun logs => s.settled i logs outcome)

abbrev Entries : Type := Multiset PartialEventLog

def pushes (s : EventLogsService) : Event → Entries
  | .audit eventLog request skipOptions => if s.requestAlreadyHandled request then 0
    else {audited eventLog request skipOptions}
  | .operationalLog eventLog => {systemLog .operational eventLog}
  | .applicationLog eventLog => {systemLog .application eventLog}
  | .saveAccumulatedLogs => 0
  | .settled _ _ => 0

def drops (s : EventLogsService) : Event → Entries
  | .audit _ _ _ => 0
  | .operationalLog _ => 0
  | .applicationLog _ => 0
  | .saveAccumulatedLogs => 0
  | .settled _ .succeeds => 0
  | .settled i .rejects => ↑((s.saving[i]?).getD [])

def view (s : EventLogsService) (pushed : Entries) : View Entries :=
  ⟨pushed,↑s.logsStore,s.saving.map Multiset.ofList,↑s.table⟩

private theorem view_push (s : EventLogsService) (pushed : Entries) (eventLog : PartialEventLog) :
    (s.push eventLog).view (pushed + {eventLog}) = (s.view pushed).give {eventLog} := by
  simp only [view,View.give,push]
  rw [← Multiset.coe_add]
  rfl

private theorem view_audit (s : EventLogsService) (pushed : Entries) (eventLog : PartialEventLog)
    (request : Option Incoming) (skipOptions : Option TSkipEventsLogOptions) :
    (s.audit eventLog request skipOptions).view (pushed + s.pushes (.audit eventLog request skipOptions)) =
      (s.view pushed).give (s.pushes (.audit eventLog request skipOptions)) := by
  simp only [audit,pushes]
  split
  next => simp [View.give,view]
  next => exact view_push _ pushed (audited eventLog request skipOptions)

theorem view_flush (s : EventLogsService) (pushed : Entries) :
    s.saveAccumulatedLogs.view pushed = s.view pushed ∨
      s.saveAccumulatedLogs.view pushed = (s.view pushed).detach ↑s.logsStore 0 := by
  unfold saveAccumulatedLogs
  split
  next => exact Or.inr (by simp [view,View.detach])
  next => exact Or.inl rfl

theorem view_succeeds (s : EventLogsService) (pushed : Entries) (i : Nat) (logs : List PartialEventLog) :
    (s.settled i logs .succeeds).view pushed = (s.view pushed).store i ↑logs := by
  simp [view,settled,View.store,List.eraseIdx_map]

theorem view_rejects (s : EventLogsService) (pushed : Entries) (i : Nat) (logs : List PartialEventLog) :
    (s.settled i logs .rejects).view pushed = (s.view pushed).lose i := by
  simp [view,settled,View.lose,List.eraseIdx_map]

theorem step_balanced (s : EventLogsService) (pushed dropped : Entries) (event : Event) (t : EventLogsService)
    (taken : s.step event = some t) (balanced : Balanced dropped (s.view pushed)) :
    Balanced (dropped + s.drops event) (t.view (pushed + s.pushes event)) := by
  cases event with
  | audit eventLog request skipOptions =>
    cases taken
    rw [view_audit,drops,add_zero]
    exact balanced.give _
  | operationalLog eventLog =>
    cases taken
    rw [drops,add_zero]
    exact view_push s pushed (systemLog .operational eventLog) ▸ balanced.give _
  | applicationLog eventLog =>
    cases taken
    rw [drops,add_zero]
    exact view_push s pushed (systemLog .application eventLog) ▸ balanced.give _
  | saveAccumulatedLogs =>
    cases taken
    rw [drops,pushes,add_zero,add_zero]
    rcases view_flush s pushed with same | detached
    · rw [same]
      exact balanced
    · rw [detached]
      exact balanced.detach ↑s.logsStore 0 (add_zero _).symm
  | settled i outcome =>
    obtain ⟨logs,found,rfl⟩ := Option.map_eq_some_iff.mp taken
    have here : (s.view pushed).saving[i]? = some (Multiset.ofList logs) := by simp [view,found]
    cases outcome with
    | succeeds =>
      rw [drops,pushes,add_zero,add_zero,view_succeeds]
      exact balanced.store here
    | rejects =>
      rw [drops,pushes,add_zero,found,Option.getD_some,view_rejects]
      exact balanced.lose here

/-- After every step of every run, what was pushed is in the table, in a save in flight, in the buffer or in a
batch whose save was rejected, each entry as often as it was pushed. -/
theorem logs_accounted (events : List Event) :
    Always (recorded step (fun s event => (s.pushes event,s.drops event)))
      (fun s => ↑s.1.table + (s.1.saving.map Multiset.ofList).sum + ↑s.1.logsStore + s.2.2 = s.2.1) (fresh,0) events :=
  always_balanced step_balanced fresh balanced_empty events

theorem rejected_batch_dropped : ¬ Always (recorded step (fun s event => (s.pushes event,s.drops event)))
    (fun s => ↑s.1.table + (s.1.saving.map Multiset.ofList).sum + ↑s.1.logsStore = s.2.1) (fresh,0)
    [.operationalLog [],.saveAccumulatedLogs,.settled 0 .rejects] := by
  intro always
  have after := (((always.2 _ rfl).2 _ rfl).2 _ rfl).head
  have counted := congrArg Multiset.card after
  revert counted
  simp [settled,saveAccumulatedLogs,operationalLog,push,fresh,pushes]

end EventLogsService

end BoarPack.EventLogs
