import BoarPack.EventLogs.Service
import BoarPack.Tokens.Strategy

/-! The two recorders of a request. `EventLogInterceptor` knows the skip options of the
handler and audits what it sees pass or throw; `EventLogMiddleware` does not know them
and audits at the end of a response that failed. Whichever comes first records, so a
request that ends before the interceptor sees it is recorded unmasked. -/
namespace BoarPack.EventLogs

/-- What happens to a request, with the clock: a value or an exception arrives at the
interceptor, with the status then, or the response finishes. -/
inductive Event
  | emitted (statusCode : Nat) (now : Int)
  | threw (status : Option Nat) (now : Int)
  | finished (statusCode : Nat) (now : Int)
  deriving DecidableEq, Repr

structure TEventLogServiceConfig where
  id : Option String
  name : String
  deriving DecidableEq, Repr

/-- A request on its way: `url` is its path with the query, the metadata are those of
the handler and of the controller class, the two times those at which the recorders start. -/
structure Exchange where
  request : HttpRequest
  url : String
  method : String
  handlerName : String
  controllerName : String
  handlerOptions : Option TSkipEventsLogOptions
  controllerOptions : Option TSkipEventsLogOptions
  serviceConfig : Option TEventLogServiceConfig
  started : Int
  intercepted : Int

def Exchange.skipOptions (exchange : Exchange) : Option TSkipEventsLogOptions :=
  exchange.handlerOptions.or exchange.controllerOptions

def isSuccess (statusCode : Nat) : Bool := 200 ≤ statusCode && statusCode < 300

def logLevel (statusCode : Nat) : LogLevel :=
  if 500 ≤ statusCode then .error else if 400 ≤ statusCode then .warning else .info

/-- `/auth/login?next=x` becomes `Auth Login`. -/
def entityOf (platform : Platform) (url : String) : String :=
  let parts := (split '/' ((split '?' url).headD "")).filter (· != "")
  let capitalised := parts.map (fun part => match part.toList with
    | [] => ""
    | c :: rest => platform.toUpperCase (String.singleton c) ++ String.ofList rest)
  String.intercalate " " capitalised

namespace EventLogMiddleware

def entry (platform : Platform) (exchange : Exchange) (statusCode : Nat) (now : Int) : LogEntry :=
  { action := exchange.method
    entity := entityOf platform exchange.url
    service := exchange.serviceConfig.map TEventLogServiceConfig.name
    serviceId := exchange.serviceConfig.bind (fun config => orNull config.id)
    duration := now - exchange.started
    statusCode := statusCode
    logLevel := logLevel statusCode }

def finished (platform : Platform) (store : Store) (i : Nat) (exchange : Exchange) (statusCode : Nat)
    (now : Int) : Store :=
  if i ∈ store.handled then store
  else if isSuccess statusCode then store
  else audit store i (entry platform exchange statusCode now) exchange.request none

end EventLogMiddleware

namespace EventLogInterceptor

def entry (exchange : Exchange) (statusCode : Nat) (level : LogLevel) (now : Int) : LogEntry :=
  { action := exchange.handlerName
    entity := exchange.controllerName
    service := exchange.serviceConfig.map TEventLogServiceConfig.name
    serviceId := exchange.serviceConfig.bind (fun config => orNull config.id)
    duration := now - exchange.intercepted
    statusCode := statusCode
    logLevel := level }

def errorStatus (status : Option Nat) : Nat :=
  match status with
  | some code => if code = 0 then 500 else code
  | none => 500

def tap (store : Store) (i : Nat) (exchange : Exchange) (statusCode : Nat) (now : Int) : Store :=
  if exchange.skipOptions = some .all then store
  else audit store i (entry exchange statusCode (logLevel statusCode) now) exchange.request
    exchange.skipOptions

def catchError (store : Store) (i : Nat) (exchange : Exchange) (status : Option Nat) (now : Int) : Store :=
  if exchange.skipOptions = some .all then store
  else
    let statusCode := errorStatus status
    let level : LogLevel := if 500 ≤ statusCode then .error else .warning
    audit store i (entry exchange statusCode level now) exchange.request exchange.skipOptions

end EventLogInterceptor

def step (platform : Platform) (exchanges : Nat → Exchange) (store : Store) (event : Nat × Event) : Store :=
  match event.2 with
  | .emitted statusCode now => EventLogInterceptor.tap store event.1 (exchanges event.1) statusCode now
  | .threw status now => EventLogInterceptor.catchError store event.1 (exchanges event.1) status now
  | .finished statusCode now =>
    EventLogMiddleware.finished platform store event.1 (exchanges event.1) statusCode now

def run (platform : Platform) (exchanges : Nat → Exchange) (events : List (Nat × Event)) : Store :=
  events.foldl (step platform exchanges) .empty

def Event.records (skipOptions : Option TSkipEventsLogOptions) : Event → Bool
  | emitted _ _ => skipOptions != some .all
  | threw _ _ => skipOptions != some .all
  | finished statusCode _ => !isSuccess statusCode

def Event.entry (platform : Platform) (exchange : Exchange) : Event → EventLog
  | emitted statusCode now => eventLog
      (EventLogInterceptor.entry exchange statusCode (logLevel statusCode) now) exchange.request
      exchange.skipOptions
  | threw status now => eventLog
      (EventLogInterceptor.entry exchange (EventLogInterceptor.errorStatus status)
        (if 500 ≤ EventLogInterceptor.errorStatus status then .error else .warning) now) exchange.request
      exchange.skipOptions
  | finished statusCode now => eventLog (EventLogMiddleware.entry platform exchange statusCode now)
      exchange.request none

def eventsOf (events : List (Nat × Event)) (i : Nat) : List Event :=
  (events.filter (fun event => event.1 == i)).map Prod.snd

def firstRecord (exchange : Exchange) (events : List Event) : Option Event :=
  events.find? (Event.records exchange.skipOptions)

def Protects (exchange : Exchange) (entries : List EventLog) : Prop :=
  entries.length ≤ 1 ∧
  (exchange.skipOptions = some .all → entries = []) ∧
  ∀ fields, exchange.skipOptions = some (.object (some fields)) →
    ∀ entry ∈ entries, ∀ payload ∈ entry.payload, ∀ field ∈ fields, Masked payload field

/-- The middleware does not come first, or has nothing to hide. -/
def Harmless (exchange : Exchange) (events : List Event) : Prop :=
  ∀ statusCode now, firstRecord exchange events = some (.finished statusCode now) →
    exchange.skipOptions ≠ some .all ∧
    ∀ fields, exchange.skipOptions = some (.object (some fields)) →
      ∀ payload ∈ exchange.request.body.spread, ∀ field ∈ fields, Masked payload field

theorem step_eq (platform : Platform) (exchanges : Nat → Exchange) (store : Store) (i : Nat) (event : Event) :
    step platform exchanges store (i,event) = store ∨ ∃ entry skipOptions,
      step platform exchanges store (i,event) = audit store i entry (exchanges i).request skipOptions := by
  cases event with
  | emitted statusCode now =>
    simp only [step,EventLogInterceptor.tap]
    split
    next skipped => exact Or.inl rfl
    next audited => exact Or.inr ⟨_,_,rfl⟩
  | threw status now =>
    simp only [step,EventLogInterceptor.catchError]
    split
    next skipped => exact Or.inl rfl
    next audited => exact Or.inr ⟨_,_,rfl⟩
  | finished statusCode now =>
    simp only [step,EventLogMiddleware.finished]
    split
    next handled => exact Or.inl rfl
    next unhandled =>
      split
      next success => exact Or.inl rfl
      next failure => exact Or.inr ⟨_,_,rfl⟩

private theorem step_other (platform : Platform) (exchanges : Nat → Exchange) (store : Store) (i j : Nat)
    (event : Event) (other : j ≠ i) :
    (step platform exchanges store (j,event)).entriesOf i = store.entriesOf i ∧
      (i ∈ (step platform exchanges store (j,event)).handled ↔ i ∈ store.handled) := by
  obtain same | ⟨entry,skipOptions,same⟩ := step_eq platform exchanges store j event
  · rw [same]
    exact ⟨rfl,Iff.rfl⟩
  · rw [same]
    exact audit_other store j i entry _ skipOptions other

private theorem step_handled (platform : Platform) (exchanges : Nat → Exchange) (store : Store) (i : Nat)
    (event : Event) (handled : i ∈ store.handled) : step platform exchanges store (i,event) = store := by
  obtain same | ⟨entry,skipOptions,same⟩ := step_eq platform exchanges store i event
  · exact same
  · rw [same,audit_handled store i entry _ skipOptions handled]

private theorem step_open (platform : Platform) (exchanges : Nat → Exchange) (store : Store) (i : Nat)
    (event : Event) (unhandled : i ∉ store.handled) :
    if event.records (exchanges i).skipOptions then
      (step platform exchanges store (i,event)).entriesOf i =
          store.entriesOf i ++ [event.entry platform (exchanges i)] ∧
        i ∈ (step platform exchanges store (i,event)).handled
    else step platform exchanges store (i,event) = store := by
  cases event with
  | emitted statusCode now =>
    by_cases skipped : (exchanges i).skipOptions = some .all
    · simp [Event.records,skipped,step,EventLogInterceptor.tap]
    · simp only [Event.records,bne_iff_ne,ne_eq,skipped,not_false_eq_true,if_true,step,
        EventLogInterceptor.tap,if_false]
      exact audit_open store i _ _ _ unhandled
  | threw status now =>
    by_cases skipped : (exchanges i).skipOptions = some .all
    · simp [Event.records,skipped,step,EventLogInterceptor.catchError]
    · simp only [Event.records,bne_iff_ne,ne_eq,skipped,not_false_eq_true,if_true,step,
        EventLogInterceptor.catchError,if_false]
      exact audit_open store i _ _ _ unhandled
  | finished statusCode now =>
    cases success : isSuccess statusCode with
    | true => simp [Event.records,success,step,EventLogMiddleware.finished]
    | false =>
      simp only [Event.records,success,Bool.not_false,if_true,step,EventLogMiddleware.finished,unhandled,
        Bool.false_eq_true,if_false]
      exact audit_open store i _ _ _ unhandled

private theorem eventsOf_cons (events : List (Nat × Event)) (i j : Nat) (event : Event) :
    eventsOf ((j,event) :: events) i = if j = i then event :: eventsOf events i else eventsOf events i := by
  unfold eventsOf
  rw [List.filter_cons]
  by_cases same : j = i
  · simp [same]
  · simp [same]

private theorem foldl_entries (platform : Platform) (exchanges : Nat → Exchange) (i : Nat)
    (events : List (Nat × Event)) (store : Store) :
    (events.foldl (step platform exchanges) store).entriesOf i = store.entriesOf i ++
      if i ∈ store.handled then []
      else ((firstRecord (exchanges i) (eventsOf events i)).map (Event.entry platform (exchanges i))).toList := by
  induction events generalizing store with
  | nil => simp [eventsOf,firstRecord]
  | cons head rest ih =>
    obtain ⟨j,event⟩ := head
    rw [List.foldl_cons,ih,eventsOf_cons]
    by_cases same : j = i
    · subst same
      rw [if_pos rfl]
      by_cases handled : j ∈ store.handled
      · rw [step_handled platform exchanges store j event handled,if_pos handled,if_pos handled]
      · have opened := step_open platform exchanges store j event handled
        rw [if_neg handled]
        by_cases records : event.records (exchanges j).skipOptions = true
        · rw [if_pos records] at opened
          rw [opened.1,if_pos opened.2]
          simp [firstRecord,records]
        · rw [if_neg records] at opened
          rw [opened,if_neg handled]
          simp [firstRecord,records]
    · obtain ⟨entries,flag⟩ := step_other platform exchanges store i j event same
      rw [entries,if_neg same]
      by_cases handled : i ∈ store.handled
      · rw [if_pos handled,if_pos (flag.mpr handled)]
      · rw [if_neg handled,if_neg (fun set => handled (flag.mp set))]

theorem run_entries (platform : Platform) (exchanges : Nat → Exchange) (events : List (Nat × Event)) (i : Nat) :
    (run platform exchanges events).entriesOf i =
      ((firstRecord (exchanges i) (eventsOf events i)).map (Event.entry platform (exchanges i))).toList := by
  have entries := foldl_entries platform exchanges i events .empty
  simpa [run,Store.empty,Store.entriesOf] using entries

private theorem masked_by_options (entry : LogEntry) (request : HttpRequest) (fields : List String) (payload : Payload)
    (stored : payload ∈ (eventLog entry request (some (.object (some fields)))).payload) (field : String)
    (listed : field ∈ fields) : Masked payload field := by
  obtain ⟨spread,_,rfl⟩ := Option.map_eq_some_iff.mp stored
  exact foldl_maskField_masked fields spread field (Or.inl listed)

private theorem protects_interceptor (exchange : Exchange) (entry : LogEntry)
    (audited : exchange.skipOptions ≠ some .all) :
    Protects exchange [eventLog entry exchange.request exchange.skipOptions] := by
  refine ⟨Nat.le_refl _,fun skipped => absurd skipped audited,?_⟩
  intro fields options stored member payload spread field listed
  rw [List.mem_singleton.mp member,options] at spread
  exact masked_by_options entry exchange.request fields payload spread field listed

private theorem protects_middleware (exchange : Exchange) (entry : LogEntry) :
    Protects exchange [eventLog entry exchange.request none] ↔
      exchange.skipOptions ≠ some .all ∧
      ∀ fields, exchange.skipOptions = some (.object (some fields)) →
        ∀ payload ∈ exchange.request.body.spread, ∀ field ∈ fields, Masked payload field := by
  constructor
  · intro protects
    refine ⟨fun skipped => ?_,fun fields options payload spread field listed => ?_⟩
    · cases protects.2.1 skipped
    · exact protects.2.2 fields options _ List.mem_cons_self payload spread field listed
  · intro harmless
    refine ⟨Nat.le_refl _,fun skipped => absurd skipped harmless.1,?_⟩
    intro fields options stored member payload spread field listed
    rw [List.mem_singleton.mp member] at spread
    exact harmless.2 fields options payload spread field listed

/-- What is stored for a request is masked and at most one entry, in any interleaving
with other requests, exactly when the middleware does not record it first or finds
nothing to hide. -/
theorem eventLog_masks (platform : Platform) (exchanges : Nat → Exchange) (events : List (Nat × Event))
    (i : Nat) : Protects (exchanges i) ((run platform exchanges events).entriesOf i) ↔
      Harmless (exchanges i) (eventsOf events i) := by
  rw [run_entries]
  unfold Harmless
  cases first : firstRecord (exchanges i) (eventsOf events i) with
  | none => simp [Protects]
  | some event =>
    have records := List.find?_some first
    simp only [Option.map_some,Option.toList_some]
    cases event with
    | emitted statusCode now =>
      refine ⟨fun _ _ _ same => (by cases same),fun _ => ?_⟩
      exact protects_interceptor (exchanges i) _ (bne_iff_ne.mp records)
    | threw status now =>
      refine ⟨fun _ _ _ same => (by cases same),fun _ => ?_⟩
      exact protects_interceptor (exchanges i) _ (bne_iff_ne.mp records)
    | finished statusCode now =>
      refine (protects_middleware (exchanges i) _).trans ⟨fun harmless status later _ => harmless,?_⟩
      exact fun harmless => harmless statusCode now rfl

def loginExchange : Exchange :=
  { request := ⟨none,.obj [("email",.str "admin@admin.com"),("password",.str "secret")],some "POST",
      some "/auth/login",none,none,none⟩
    url := "/auth/login"
    method := "POST"
    handlerName := "login"
    controllerName := "LocalAuthController"
    handlerOptions := some (.object (some ["password"]))
    controllerOptions := none
    serviceConfig := none
    started := 0
    intercepted := 0 }

theorem rejected_login_stores_password :
    ¬ Protects loginExchange
      ((run Tokens.plainPlatform (fun _ => loginExchange) [(0,.finished 401 3)]).entriesOf 0) := by
  intro protects
  have masked := protects.2.2 ["password"] rfl _ List.mem_cons_self _ rfl "password" (by simp)
    (.str "secret") (by simp)
  simp [stars] at masked

end BoarPack.EventLogs
