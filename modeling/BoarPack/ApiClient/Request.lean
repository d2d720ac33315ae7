import BoarPack.ApiClient.CancelablePromise
import BoarPack.Library.Containers

/-! `request` of the generated clients: the headers are awaited, the request is sent, and the body of the response is
read, while the owner of the promise may cancel it at any time. -/
namespace BoarPack.ApiClient
open Transition

structure Response where
  ok : Bool
  status : Nat
  statusText : String
  header : String → Option String

inductive Body (J : Type)
  | undefined
  | text (text : String)
  | json (value : J)
  deriving DecidableEq, Repr

structure ApiResult (J : Type) where
  url : String
  ok : Bool
  status : Nat
  statusText : String
  body : Body J
  deriving DecidableEq, Repr

/-- What `reject` is given: what was thrown, or `new ApiError(options, result, message)`. -/
inductive Failure (J E : Type)
  | thrown (error : E)
  | apiError (result : ApiResult J) (message : String)
  deriving DecidableEq, Repr

/-- `stringify`: `JSON.stringify(body, null, 2)`, where it throws nothing and makes a text. -/
structure Options (J : Type) where
  errors : List (Nat × String) := []
  responseHeader : String := ""
  stringify : Body J → Option String

variable {J E K : Type}

def getResponseHeader (response : Response) (responseHeader : String) : Option String :=
  if responseHeader = "" then none else response.header responseHeader

/-- `read`: what `response.json()` or `response.text()` comes to, where it is called. -/
def getResponseBody (response : Response) (json : Except E J) (text : Except E String) : Body J :=
  if response.status = 204 then .undefined
  else match response.header "Content-Type" with
    | none | some "" => .undefined
    | some contentType =>
      let jsonTypes := ["application/json","application/problem+json"]
      if jsonTypes.any (fun type => contentType.toLower.startsWith type) then
        match json with
        | .ok value => .json value
        | .error _ => .undefined
      else match text with
        | .ok text => .text text
        | .error _ => .undefined

def defaultErrors : List (Nat × String) :=
  [(400,"Bad Request"),(401,"Unauthorized"),(403,"Forbidden"),(404,"Not Found"),(500,"Internal Server Error"),
    (502,"Bad Gateway"),(503,"Service Unavailable")]

def errorMessage (options : Options J) (status : Nat) : String :=
  (Containers.get (Containers.assign defaultErrors options.errors) status).getD ""

def genericError (options : Options J) (result : ApiResult J) : String :=
  let errorBody := (options.stringify result.body).getD "undefined"
  s!"Generic Error: status: {result.status}; status text: {result.statusText}; body: {errorBody}"

def catchErrorCodes (options : Options J) (result : ApiResult J) : Except (Failure J E) Unit :=
  if errorMessage options result.status ≠ "" then .error (.apiError result (errorMessage options result.status))
  else if result.ok = false then .error (.apiError result (genericError options result))
  else .ok ()

def resultOf (options : Options J) (url : String) (response : Response) (json : Except E J) (text : Except E String) :
    ApiResult J where
  url := url
  ok := response.ok
  status := response.status
  statusText := response.statusText
  body := ((getResponseHeader response options.responseHeader).map Body.text).getD (getResponseBody response json text)

/-- Whether a result is an error with this message: a listed one for its status, or a generic one. -/
def Blames (options : Options J) (result : ApiResult J) (message : String) : Prop :=
  (errorMessage options result.status ≠ "" ∧ message = errorMessage options result.status) ∨
    (errorMessage options result.status = "" ∧ result.ok = false ∧ message = genericError options result)

private theorem catchErrorCodes_ok {options : Options J} {result : ApiResult J} :
    catchErrorCodes (E := E) options result = .ok () ↔ errorMessage options result.status = "" ∧ result.ok = true := by
  unfold catchErrorCodes
  split
  next listed => simp [listed]
  next unlisted =>
    rw [ne_eq,not_not] at unlisted
    cases ok : result.ok <;> simp [unlisted]

private theorem catchErrorCodes_error {options : Options J} {result : ApiResult J} {error : Failure J E} :
    catchErrorCodes options result = .error error ↔ ∃ message, error = .apiError result message ∧
      Blames options result message := by
  unfold catchErrorCodes Blames
  split
  next listed =>
    constructor
    · intro same
      cases same
      exact ⟨_,rfl,Or.inl ⟨listed,rfl⟩⟩
    · rintro ⟨message,rfl,⟨_,rfl⟩ | ⟨silent,_⟩⟩
      · rfl
      · exact absurd silent listed
  next unlisted =>
    have silent := not_not.mp unlisted
    split
    next failed =>
      constructor
      · intro same
        cases same
        exact ⟨_,rfl,Or.inr ⟨silent,failed,rfl⟩⟩
      · rintro ⟨message,rfl,⟨listed,_⟩ | ⟨_,_,rfl⟩⟩
        · exact absurd silent listed
        · rfl
    next passed =>
      refine iff_of_false (fun same => by cases same) ?_
      rintro ⟨message,_,⟨listed,_⟩ | ⟨_,failed,_⟩⟩
      · exact listed silent
      · exact passed failed

/-- Where the executor waits. -/
inductive Phase
  | headers
  | response
  | body (response : Response)
  | finished

inductive CancelHandler
  | abort
  deriving DecidableEq, Repr

/-- `aborted`: whether the signal of the request is. History: `sent`, the headers of the requests that were sent, and
`result`, what a response came to. -/
structure Request (J E K : Type) where
  url : String
  promise : CancelablePromise (Body J) (Failure J E) CancelHandler := {}
  phase : Phase := .headers
  aborted : Bool := false
  sent : List K := []
  result : Option (ApiResult J) := none

inductive Event (J E K : Type)
  | cancel
  | headers (settled : Except E K)
  | fetched (settled : Except E Response)
  | body (json : Except E J) (text : Except E String)

namespace Request

variable (options : Options J) (s : Request J E K)

/-- What runs before the first `await`: it makes the url, or throws. -/
def construct (prepared : Except E String) : Request J E K :=
  match prepared with
  | .ok url => { url }
  | .error error =>
    { url := "", promise := ({} : CancelablePromise _ _ _).onReject (.thrown error), phase := .finished }

/-- `controller.abort()` is the only handler, and it returns. -/
def cancel : Request J E K :=
  let promise := s.promise.cancel
  match promise.calling with
  | some i => { s with promise := promise.handlersFrom (i + 1), aborted := true }
  | none => { s with promise }

def fails (error : Failure J E) : Request J E K := { s with promise := s.promise.onReject error, phase := .finished }

def sendRequest (headers : K) : Request J E K :=
  { s with promise := s.promise.onCancel .abort, sent := s.sent ++ [headers], phase := .response }

def answered (result : ApiResult J) : Request J E K :=
  let s := { s with result := some result }
  match catchErrorCodes options result with
  | .ok () => { s with promise := s.promise.onResolve result.body, phase := .finished }
  | .error error => s.fails error

def step : Event J E K → Option (Request J E K)
  | .cancel => some s.cancel
  | .headers settled =>
    match s.phase,settled with
    | .headers,.ok headers => some
      (if s.promise.isCancelled then { s with phase := .finished } else s.sendRequest headers)
    | .headers,.error error => some (s.fails (.thrown error))
    | _,_ => none
  | .fetched settled =>
    match s.phase,settled with
    | .response,.ok response => some { s with phase := .body response }
    | .response,.error error => some (s.fails (.thrown error))
    | _,_ => none
  | .body json text =>
    match s.phase with
    | .body response => some (s.answered options (resultOf options s.url response json text))
    | _ => none

/-- The requests that a run may come to. -/
inductive Reached : Request J E K → Prop
  | preparing (url : String) : Reached { url }
  | waiting (url : String) (headers : K) (phase : Phase) (begun : phase ≠ .headers) (open_phase : phase ≠ .finished) :
    Reached { url, promise := .opened [.abort], phase, sent := [headers] }
  | withdrawn (url : String) (phase : Phase) (unsent : phase = .headers ∨ phase = .finished) :
    Reached { url, promise := { isCancelled := true, promise := CancelablePromise.aborted }, phase }
  | abandoned (url : String) (headers : K) (phase : Phase) (begun : phase ≠ .headers) (result : Option (ApiResult J)) :
    Reached
      { url, promise := { isCancelled := true, promise := CancelablePromise.aborted, called := [.abort] }, phase,
        aborted := true, sent := [headers], result }
  | resolved (url : String) (headers : K) (result : ApiResult J)
    (accepted : catchErrorCodes (E := E) options result = .ok ()) :
    Reached
      { url, promise := { isResolved := true, cancelHandlers := [.abort], promise := .fulfilled result.body },
        phase := .finished, sent := [headers], result := some result }
  | rejected (url : String) (handlers : List CancelHandler) (sent : List K) (once : sent.length ≤ 1)
    (result : Option (ApiResult J)) (error : Failure J E)
    (why : match result with
      | some result => catchErrorCodes options result = .error error
      | none => ∃ thrown, error = .thrown thrown) :
    Reached
      { url, promise := { isRejected := true, cancelHandlers := handlers, promise := .rejected (.given error) },
        phase := .finished, sent, result }

section

variable {options}

private theorem construct_reached (prepared : Except E String) :
    Reached options (construct prepared : Request J E K) := by
  cases prepared with
  | ok url => exact .preparing url
  | error error => exact .rejected "" [] [] (by simp) none _ ⟨error,rfl⟩

theorem Reached.cancelled {s : Request J E K} (reached : Reached options s) : Reached options s.cancel := by
  cases reached with
  | preparing url => exact .withdrawn url .headers (Or.inl rfl)
  | waiting url headers phase begun => exact .abandoned url headers phase begun none
  | withdrawn url phase unsent => exact .withdrawn url phase unsent
  | abandoned url headers phase begun result => exact .abandoned url headers phase begun result
  | resolved url headers result accepted => exact .resolved url headers result accepted
  | rejected url handlers sent once result error why => exact .rejected url handlers sent once result error why

theorem Reached.headers {s t : Request J E K} (reached : Reached options s) {settled : Except E K}
    (taken : s.step options (.headers settled) = some t) : Reached options t := by
  cases reached with
  | preparing url =>
    cases settled with
    | ok headers => cases taken; exact .waiting url headers .response Phase.noConfusion Phase.noConfusion
    | error error => cases taken; exact .rejected url [] [] (by simp) none _ ⟨error,rfl⟩
  | waiting url headers phase begun =>
    cases phase with
    | headers => exact absurd rfl begun
    | response | body | finished => cases taken
  | withdrawn url phase unsent =>
    rcases unsent with rfl | rfl
    · cases settled with
      | ok | error => cases taken; exact .withdrawn url .finished (Or.inr rfl)
    · cases taken
  | abandoned url headers phase begun =>
    cases phase with
    | headers => exact absurd rfl begun
    | response | body | finished => cases taken
  | resolved | rejected => cases taken

theorem Reached.fetched {s t : Request J E K} (reached : Reached options s) {settled : Except E Response}
    (taken : s.step options (.fetched settled) = some t) : Reached options t := by
  cases reached with
  | preparing => cases taken
  | waiting url headers phase =>
    cases phase with
    | response =>
      cases settled with
      | ok response => cases taken; exact .waiting url headers (.body response) Phase.noConfusion Phase.noConfusion
      | error error => cases taken; exact .rejected url [.abort] [headers] (by simp) none _ ⟨error,rfl⟩
    | headers | body | finished => cases taken
  | withdrawn url phase unsent => rcases unsent with rfl | rfl <;> cases taken
  | abandoned url headers phase =>
    cases phase with
    | response =>
      cases settled with
      | ok response => cases taken; exact .abandoned url headers (.body response) Phase.noConfusion _
      | error error => cases taken; exact .abandoned url headers .finished Phase.noConfusion _
    | headers | body | finished => cases taken
  | resolved | rejected => cases taken

theorem Reached.body {s t : Request J E K} (reached : Reached options s) {json : Except E J} {text : Except E String}
    (taken : s.step options (.body json text) = some t) : Reached options t := by
  cases reached with
  | preparing => cases taken
  | waiting url headers phase =>
    cases phase with
    | body response =>
      cases taken
      unfold Request.answered
      cases judged : catchErrorCodes (E := E) options (resultOf options url response json text) with
      | ok => exact .resolved url headers _ judged
      | error error => exact .rejected url [.abort] [headers] (by simp) (some _) error judged
    | headers | response | finished => cases taken
  | withdrawn url phase unsent => rcases unsent with rfl | rfl <;> cases taken
  | abandoned url headers phase =>
    cases phase with
    | body response =>
      cases taken
      unfold Request.answered
      cases catchErrorCodes (E := E) options (resultOf options url response json text) with
      | ok | error => exact .abandoned url headers .finished Phase.noConfusion _
    | headers | response | finished => cases taken
  | resolved | rejected => cases taken

theorem Reached.step {s t : Request J E K} (reached : Reached options s) {event : Event J E K}
    (taken : s.step options event = some t) : Reached options t := by
  cases event with
  | cancel => cases taken; exact reached.cancelled
  | headers => exact reached.headers taken
  | fetched => exact reached.fetched taken
  | body => exact reached.body taken

private theorem run_reached {prepared : Except E String} {events : List (Event J E K)} {t : Request J E K}
    (ran : run (Request.step options) (construct prepared) events = some t) : Reached options t :=
  run_invariant (Reached options) (fun _ _ _ reached taken => reached.step taken) _ t events
    (construct_reached prepared) ran

theorem Reached.idle {s : Request J E K} (reached : Reached options s) : s.promise.calling = none := by
  cases reached <;> rfl

theorem ended_iff {s : Request J E K} (reached : Reached options s) :
    s.promise.ended = true ↔ s.promise.promise ≠ .pending := by
  cases reached <;> simp [CancelablePromise.ended,CancelablePromise.opened,CancelablePromise.aborted]

/-- What the executor may do in one go. -/
inductive Moved (s : Request J E K) : Request J E K → Prop
  | kept (phase : Phase) : Moved s { s with phase }
  | sent (running : s.promise.isCancelled = false) (headers : K) : Moved s (s.sendRequest headers)
  | rejected (result : Option (ApiResult J)) (error : Failure J E) : Moved s (Request.fails { s with result } error)
  | resolved (result : ApiResult J) :
    Moved s { s with result := some result, promise := s.promise.onResolve result.body, phase := .finished }

private theorem step_cases {s t : Request J E K} {event : Event J E K} (taken : s.step options event = some t) :
    (event = .cancel ∧ t = s.cancel) ∨ (event ≠ .cancel ∧ Moved s t) := by
  cases event with
  | cancel =>
    cases taken
    exact Or.inl ⟨rfl,rfl⟩
  | headers settled =>
    refine Or.inr ⟨fun same => (by cases same),?_⟩
    cases phase : s.phase <;> cases settled <;> simp only [Request.step,phase,reduceCtorEq,Option.some.injEq] at taken
    next error => exact taken ▸ .rejected s.result _
    next headers =>
      subst taken
      split
      next => exact .kept .finished
      next running => exact .sent (by simpa using running) headers
  | fetched settled =>
    refine Or.inr ⟨fun same => (by cases same),?_⟩
    cases phase : s.phase <;> cases settled <;> simp only [Request.step,phase,reduceCtorEq,Option.some.injEq] at taken
    next error => exact taken ▸ .rejected s.result _
    next response => exact taken ▸ .kept (.body response)
  | body json text =>
    refine Or.inr ⟨fun same => (by cases same),?_⟩
    cases phase : s.phase <;> simp only [Request.step,phase,reduceCtorEq,Option.some.injEq] at taken
    subst taken
    unfold Request.answered
    dsimp only
    split
    next => exact .resolved _
    next error _ => exact .rejected _ error

theorem Reached.cancel_settles {s : Request J E K} (reached : Reached options s) :
    s.cancel.promise.promise ≠ .pending := by
  intro pending
  cases reached with
  | preparing | waiting | withdrawn | abandoned | resolved | rejected => cases pending

private theorem cancel_ended {s : Request J E K} (ended : s.promise.ended = true) (idle : s.promise.calling = none) :
    s.cancel = s := by
  simp [Request.cancel,CancelablePromise.cancel,ended,idle]

/-- Once it is settled, a promise stays as it is, and so does the signal. -/
theorem ended_step {s t : Request J E K} (ended : s.promise.ended = true) (idle : s.promise.calling = none)
    {event : Event J E K} (taken : s.step options event = some t) : t.promise = s.promise ∧ t.aborted = s.aborted := by
  rcases step_cases taken with ⟨_,rfl⟩ | ⟨_,moved⟩
  · rw [cancel_ended ended idle]
    exact ⟨rfl,rfl⟩
  · cases moved with
    | kept => exact ⟨rfl,rfl⟩
    | sent => exact ⟨by simp [sendRequest,CancelablePromise.onCancel,ended],rfl⟩
    | rejected => exact ⟨by simp [fails,CancelablePromise.onReject,ended],rfl⟩
    | resolved => exact ⟨by simp [CancelablePromise.onResolve,ended],rfl⟩

private theorem sent_step {s t : Request J E K} (cancelled : s.promise.isCancelled = true)
    (idle : s.promise.calling = none)
    {event : Event J E K} (taken : s.step options event = some t) : t.sent = s.sent := by
  have ended : s.promise.ended = true := by simp [CancelablePromise.ended,cancelled]
  rcases step_cases taken with ⟨_,rfl⟩ | ⟨_,moved⟩
  · rw [cancel_ended ended idle]
  · cases moved with
    | sent running => exact absurd (cancelled.symm.trans running) Bool.noConfusion
    | kept | rejected | resolved => rfl

private theorem isCancelled_step {s t : Request J E K} {event : Event J E K} (other : event ≠ .cancel)
    (taken : s.step options event = some t) : t.promise.isCancelled = s.promise.isCancelled := by
  rcases step_cases taken with ⟨same,_⟩ | ⟨_,moved⟩
  · exact absurd same other
  · have settled (p : CancelablePromise (Body J) (Failure J E) CancelHandler)
      (outcome : Settled (Body J) (Failure J E)) :
        (p.settle outcome).isCancelled = p.isCancelled := by
      unfold CancelablePromise.settle
      split <;> rfl
    cases moved with
    | kept => rfl
    | sent => simp only [sendRequest,CancelablePromise.onCancel]; split <;> rfl
    | rejected => simp only [fails,CancelablePromise.onReject]; split <;> simp [settled]
    | resolved => simp only [CancelablePromise.onResolve]; split <;> simp [settled]

private theorem isCancelled_run {s t : Request J E K} {events : List (Event J E K)}
    (ran : run (Request.step options) s events = some t)
    (cancelled : t.promise.isCancelled = true) : s.promise.isCancelled = true ∨ .cancel ∈ events := by
  induction events generalizing s with
  | nil =>
    cases ran
    exact Or.inl cancelled
  | cons event rest ih =>
    obtain ⟨next,taken,ran⟩ := (run_cons _ _ _ _).mp ran
    rcases step_cases taken with ⟨rfl,_⟩ | ⟨other,_⟩
    · exact Or.inr List.mem_cons_self
    · rcases ih ran with before | later
      · exact Or.inl (isCancelled_step other taken ▸ before)
      · exact Or.inr (List.mem_cons_of_mem event later)

theorem ended_run {s t : Request J E K} {events : List (Event J E K)} (reached : Reached options s)
    (ended : s.promise.ended = true)
    (ran : run (Request.step options) s events = some t) : t.promise = s.promise ∧ t.aborted = s.aborted := by
  have kept := run_invariant (fun t => Reached options t ∧ t.promise = s.promise ∧ t.aborted = s.aborted) ?_ s t events
    ⟨reached,rfl,rfl⟩ ran
  · exact kept.2
  · rintro u event next ⟨here,promise,aborted⟩ taken
    have same := ended_step (promise ▸ ended) here.idle taken
    exact ⟨here.step taken,same.1.trans promise,same.2.trans aborted⟩

private theorem sent_run {s t : Request J E K} {events : List (Event J E K)} (reached : Reached options s)
    (cancelled : s.promise.isCancelled = true) (ran : run (Request.step options) s events = some t) :
      t.sent = s.sent := by
  have kept := run_invariant (fun t => Reached options t ∧ t.promise.isCancelled = true ∧ t.sent = s.sent) ?_ s t events
    ⟨reached,cancelled,rfl⟩ ran
  · exact kept.2.2
  · rintro u event next ⟨here,still,sent⟩ taken
    have ended : u.promise.ended = true := by simp [CancelablePromise.ended,still]
    refine ⟨here.step taken,?_,(sent_step still here.idle taken).trans sent⟩
    rw [(ended_step ended here.idle taken).1]
    exact still

end

section Outcome

variable {options} {prepared : Except E String} {events : List (Event J E K)} {t : Request J E K}

/-- A promise is pending as long as the executor is at work and nobody cancelled it. -/
theorem pending_iff (ran : run (Request.step options) (construct prepared) events = some t) :
    t.sent.length ≤ 1 ∧ (t.promise.promise = .pending ↔ t.phase ≠ .finished ∧ .cancel ∉ events) := by
  have reached := run_reached ran
  constructor
  · cases reached with
    | rejected _ _ _ once => exact once
    | preparing | waiting | withdrawn | abandoned | resolved => simp
  constructor
  · intro pending
    constructor
    · intro finished
      cases reached with
      | preparing => cases finished
      | waiting _ _ _ _ open_phase => exact open_phase finished
      | withdrawn | abandoned | resolved | rejected => cases pending
    · intro inside
      obtain ⟨before,after,rfl⟩ := List.append_of_mem inside
      rw [run_append] at ran
      obtain ⟨s,begun,ran⟩ := Option.bind_eq_some_iff.mp ran
      obtain ⟨next,taken,ran⟩ := (run_cons _ _ _ _).mp ran
      cases taken
      have here := (run_reached begun).cancelled
      have ended : s.cancel.promise.ended = true := by
        rw [ended_iff here]
        exact (run_reached begun).cancel_settles
      rw [(ended_run here ended ran).1] at pending
      exact (ended_iff here).mp ended pending
  · rintro ⟨working,never⟩
    have running : t.promise.isCancelled = false := by
      rw [← Bool.not_eq_true]
      intro cancelled
      rcases isCancelled_run ran cancelled with before | inside
      · cases prepared <;> cases before
      · exact never inside
    cases reached with
    | preparing | waiting => rfl
    | withdrawn | abandoned => cases running
    | resolved | rejected => exact absurd rfl working

def plainOptions : Options Nat where
  stringify := fun _ => none

theorem pending_while_sent : ∃ t : Request Nat String Nat,
    run (Request.step plainOptions) (construct (.ok "/users")) [.headers (.ok 1)] = some t ∧
      t.promise.promise = .pending :=
  ⟨_,rfl,(@pending_iff _ _ _ plainOptions (.ok "/users") [.headers (.ok 1)] _ rfl).2.mpr ⟨Phase.noConfusion,by simp⟩⟩

/-- Cancelling a pending promise is final: it is rejected as aborted, nothing is sent any more, and what was sent is
aborted. -/
theorem cancel_final {before after : List (Event J E K)} {s : Request J E K}
    (begun : run (Request.step options) (construct prepared) before = some s) (pending : s.promise.promise = .pending)
    (ran : run (Request.step options) s (.cancel :: after) = some t) :
    t.promise.promise = CancelablePromise.aborted ∧ t.sent = s.sent ∧ (t.aborted = true ↔ s.sent ≠ []) := by
  have reached := run_reached begun
  obtain ⟨next,taken,ran⟩ := (run_cons _ _ _ _).mp ran
  cases taken
  have here := reached.cancelled
  have ended : s.cancel.promise.ended = true := (ended_iff here).mpr reached.cancel_settles
  have promise := (ended_run here ended ran).1
  have aborted := (ended_run here ended ran).2
  have sent : s.cancel.promise.isCancelled = true → t.sent = s.cancel.sent :=
    fun cancelled => sent_run here cancelled ran
  cases reached with
  | preparing =>
    have unsent : t.aborted = false := aborted
    exact ⟨congrArg CancelablePromise.promise promise,sent rfl,by simp [unsent]⟩
  | waiting =>
    have signalled : t.aborted = true := aborted
    exact ⟨congrArg CancelablePromise.promise promise,sent rfl,by simp [signalled]⟩
  | withdrawn | abandoned | resolved | rejected => cases pending

theorem cancelled_while_sent : ∃ s t : Request Nat String Nat,
    run (Request.step plainOptions) (construct (.ok "/users")) [.headers (.ok 1)] = some s ∧
      run (Request.step plainOptions) s [.cancel,.fetched (.error "aborted")] = some t ∧
      t.promise.promise = CancelablePromise.aborted ∧ t.sent = s.sent ∧ (t.aborted = true ↔ s.sent ≠ []) := by
  have begun : run (Request.step plainOptions) (construct (.ok "/users" : Except String String)) [.headers (.ok 1)] =
    some _ := rfl
  exact ⟨_,_,begun,rfl,@cancel_final _ _ _ plainOptions _ _ _ [.fetched (.error "aborted")] _ begun rfl rfl⟩

/-- What the executor came to, leaving out when it was cancelled. -/
def executed (events : List (Event J E K)) : List (Event J E K) := events.filter (fun event => !event matches .cancel)

/-- The run has this result: the url was made, the headers came, then this response, and then this of its body. -/
def Answered (options : Options J) (prepared : Except E String) (events : List (Event J E K)) (result : ApiResult J) :
    Prop :=
  ∃ url headers response json text, prepared = .ok url ∧
    executed events = [.headers (.ok headers),.fetched (.ok response),.body json text] ∧
    result = resultOf options url response json text

/-- The requests that nobody cancelled, after what the executor came to. -/
inductive Kept (options : Options J) (prepared : Except E String) : List (Event J E K) → Request J E K → Prop
  | preparing (url : String) (made : prepared = .ok url) : Kept options prepared [] { url }
  | waiting (url : String) (made : prepared = .ok url) (headers : K) : Kept options prepared [.headers (.ok headers)]
      { url, promise := .opened [.abort], phase := .response, sent := [headers] }
  | reading (url : String) (made : prepared = .ok url) (headers : K) (response : Response) :
    Kept options prepared [.headers (.ok headers),.fetched (.ok response)]
      { url, promise := .opened [.abort], phase := .body response, sent := [headers] }
  | answered (url : String) (made : prepared = .ok url) (headers : K) (response : Response) (json : Except E J)
    (text : Except E String) (s : Request J E K) (finished : s.phase = .finished) (ended : s.promise.ended = true)
    (result : s.result = some (resultOf options url response json text)) :
    Kept options prepared [.headers (.ok headers),.fetched (.ok response),.body json text] s
  | failed (events : List (Event J E K)) (short : events.length < 3) (s : Request J E K)
    (finished : s.phase = .finished)
    (ended : s.promise.ended = true) (none : s.result = none) : Kept options prepared events s

private theorem finished_step {s t : Request J E K} (finished : s.phase = .finished) {event : Event J E K}
    (taken : s.step options event = some t) : event = .cancel := by
  cases event with
  | cancel => rfl
  | headers | fetched | body => simp [Request.step,finished] at taken

private theorem construct_kept (prepared : Except E String) :
    Kept options prepared ([] : List (Event J E K)) (construct prepared : Request J E K) := by
  cases prepared with
  | ok url => exact .preparing url rfl
  | error error => exact .failed [] (by decide : 0 < 3) _ rfl rfl rfl

theorem Kept.cancelled {s : Request J E K} (kept : Kept options prepared events s) (idle : s.promise.calling = none)
    (running : s.cancel.promise.isCancelled = false) : s.cancel = s := by
  cases kept with
  | preparing | waiting | reading => cases running
  | answered _ _ _ _ _ _ _ _ ended | failed _ _ _ _ ended => exact cancel_ended ended idle

theorem Kept.step {s : Request J E K} (kept : Kept options prepared events s) {event : Event J E K}
    (other : event ≠ .cancel)
    (taken : s.step options event = some t) : Kept options prepared (events ++ [event]) t := by
  cases kept with
  | preparing url made =>
    cases event with
    | cancel => exact absurd rfl other
    | headers settled =>
      cases settled with
      | ok headers => cases taken; exact .waiting url made headers
      | error error => cases taken; exact .failed [.headers (.error error)] (by decide : 1 < 3) _ rfl rfl rfl
    | fetched | body => cases taken
  | waiting url made headers =>
    cases event with
    | cancel => exact absurd rfl other
    | fetched settled =>
      cases settled with
      | ok response => cases taken; exact .reading url made headers response
      | error error =>
        cases taken; exact .failed [.headers (.ok headers),.fetched (.error error)] (by decide : 2 < 3) _ rfl rfl rfl
    | headers | body => cases taken
  | reading url made headers response =>
    cases event with
    | cancel => exact absurd rfl other
    | body json text =>
      cases taken
      unfold Request.answered
      cases catchErrorCodes (E := E) options (resultOf options url response json text) with
      | ok | error => exact .answered url made headers response json text _ rfl rfl rfl
    | headers | fetched => cases taken
  | answered _ _ _ _ _ _ _ finished | failed _ _ _ finished => exact absurd (finished_step finished taken) other

private theorem run_kept (ran : run (Request.step options) (construct prepared) events = some t)
    (kept : t.promise.isCancelled = false) :
    Kept options prepared (executed events) t := by
  induction events using List.reverseRecOn generalizing t with
  | nil =>
    cases ran
    exact construct_kept prepared
  | append_singleton before event ih =>
    rw [run_append] at ran
    obtain ⟨s,begun,ran⟩ := Option.bind_eq_some_iff.mp ran
    obtain ⟨next,taken,ran⟩ := (run_cons _ _ _ _).mp ran
    cases ran
    have reached := run_reached begun
    have running : s.promise.isCancelled = false := by
      rw [← Bool.not_eq_true] at kept ⊢
      intro cancelled
      have ended : s.promise.ended = true := by simp [CancelablePromise.ended,cancelled]
      rw [(ended_step ended reached.idle taken).1] at kept
      exact kept cancelled
    have earlier := ih begun running
    rw [executed,List.filter_append]
    by_cases same : event = .cancel
    · subst same
      cases taken
      rw [earlier.cancelled reached.idle kept]
      simpa [executed] using earlier
    · have own : [event].filter (fun event => !event matches .cancel) = [event] := by
        cases event with
        | cancel => exact absurd rfl same
        | headers | fetched | body => rfl
      rw [own]
      exact earlier.step same taken

private theorem result_iff (ran : run (Request.step options) (construct prepared) events = some t)
    (kept : t.promise.isCancelled = false) (result : ApiResult J) :
    t.result = some result ↔ Answered options prepared events result := by
  have trace := run_kept ran kept
  unfold Answered
  generalize executed events = own at trace
  cases trace with
  | preparing | waiting | reading => simp
  | answered url made headers response json text s _ _ found =>
    rw [found]
    constructor
    · intro same
      exact ⟨url,headers,response,json,text,made,rfl,(Option.some.inj same).symm⟩
    · rintro ⟨other,_,_,_,_,also,same,rfl⟩
      cases made.symm.trans also
      cases same
      rfl
  | failed _ short _ _ _ none =>
    rw [none]
    refine iff_of_false (fun same => by cases same) ?_
    rintro ⟨_,_,_,_,_,_,rfl,_⟩
    exact Nat.lt_irrefl 3 short

private theorem settled_by_result (reached : Reached options t) (kept : t.promise.isCancelled = false) :
    (∀ body, t.promise.promise = .fulfilled body ↔
      ∃ result, t.result = some result ∧ errorMessage options result.status = "" ∧ result.ok = true ∧
        result.body = body) ∧
    (∀ result message, t.promise.promise = .rejected (.given (.apiError result message)) ↔
      t.result = some result ∧ Blames options result message) := by
  cases reached with
  | preparing => exact ⟨by simp,by simp⟩
  | waiting => exact ⟨by simp [CancelablePromise.opened],by simp [CancelablePromise.opened]⟩
  | withdrawn | abandoned => cases kept
  | resolved url headers found accepted =>
    obtain ⟨silent,ok⟩ := catchErrorCodes_ok.mp accepted
    refine ⟨by simp [silent,ok],fun result message => iff_of_false (fun same => by cases same) ?_⟩
    rintro ⟨same,blamed⟩
    cases same
    have errs := catchErrorCodes_error (E := E).mpr ⟨message,rfl,blamed⟩
    exact absurd (accepted.symm.trans errs) (fun same => by cases same)
  | rejected url handlers sent once found error why =>
    cases found with
    | none =>
      obtain ⟨thrown,rfl⟩ := why
      exact ⟨by simp,by simp⟩
    | some found =>
      refine ⟨fun body => iff_of_false (fun same => by cases same) ?_,fun result message => ?_⟩
      · rintro ⟨result,same,silent,ok,_⟩
        cases same
        exact absurd (why.symm.trans (catchErrorCodes_ok.mpr ⟨silent,ok⟩)) (fun same => by cases same)
      · obtain ⟨given,rfl,blamed⟩ := catchErrorCodes_error.mp why
        constructor
        · intro same
          cases same
          exact ⟨rfl,blamed⟩
        · rintro ⟨same,other⟩
          cases same
          have errs := catchErrorCodes_error (E := E).mpr ⟨message,rfl,other⟩
          have equal := why.symm.trans errs
          cases equal
          rfl

/-- How the response to a request that nobody cancelled is judged. -/
theorem judged (ran : run (Request.step options) (construct prepared) events = some t)
    (kept : t.promise.isCancelled = false) :
    (∀ body, t.promise.promise = .fulfilled body ↔
      ∃ result, Answered options prepared events result ∧ errorMessage options result.status = "" ∧ result.ok = true ∧
        result.body = body) ∧
    (∀ result message, t.promise.promise = .rejected (.given (.apiError result message)) ↔
      Answered options prepared events result ∧ Blames options result message) := by
  have settled := settled_by_result (run_reached ran) kept
  simpa only [result_iff ran kept] using settled

def userFound : Response where
  ok := true
  status := 200
  statusText := "OK"
  header name := if name = "Content-Type" then some "Application/JSON; charset=utf-8" else none

theorem user_fulfils : ∃ t : Request Nat String Nat,
    run (Request.step plainOptions) (construct (.ok "/users/7"))
        [.headers (.ok 1),.fetched (.ok userFound),.body (.ok 7) (.error "read")] = some t ∧
      t.promise.promise = .fulfilled (.json 7) := by
  have answered : resultOf plainOptions "/users/7" userFound (.ok 7) (.error "read" : Except String String) =
      { url := "/users/7", ok := true, status := 200, statusText := "OK", body := .json 7 } := by decide +kernel
  refine ⟨_,rfl,((@judged _ _ _ plainOptions (.ok "/users/7")
    [.headers (.ok 1),.fetched (.ok userFound),.body (.ok 7) (.error "read")] _ rfl rfl).1 (.json 7)).mpr ?_⟩
  refine ⟨_,⟨_,1,userFound,.ok 7,.error "read",rfl,rfl,rfl⟩,?_⟩
  rw [answered]
  decide

end Outcome

end Request

end BoarPack.ApiClient
