import BoarPack.Library.Transition
import BoarPack.WebsocketClient.Service

/-! Payloads of `send` over successive sockets: each is handed to an open one once, in the
order of the calls, or still waits. -/
namespace BoarPack.WebsocketClient
open Transition

variable {P : Type}

def InOrder (client : Client P) : Prop := client.handed ++ client.pendingPayloads = client.sent.zipIdx

def Call.isSend : Call P → Bool
  | .send _ => true
  | .close | .reconnect => false

def Call.isReconnect : Call P → Bool
  | .reconnect => true
  | .send _ | .close => false

def sendsAfterClose : List (Call P) → Bool
  | [] => false
  | .close :: rest => rest.any Call.isSend
  | _ :: rest => sendsAfterClose rest

/-- At an open event that the client handles: if payloads wait, it is that of the current socket
and `openHandler` neither sends nor closes; if none wait, `openHandler` sends nothing after a
close, and nothing at all unless the current socket is open. -/
def Delivers (client : Client P) : Event P → Prop
  | .opened k openHandler => client.sockets[k]? = some ⟨.connecting,true⟩ →
    if client.pendingPayloads = [] then
      if client.socket = some k ∨ client.isOpen then sendsAfterClose openHandler = false
      else ∀ call ∈ openHandler, call.isSend = false
    else client.socket = some k ∧ ∀ call ∈ openHandler, call.isReconnect = true
  | _ => True

namespace Client

/-- The current socket is one whose events the client handles. -/
def Owned (client : Client P) : Prop :=
  ∀ k, client.socket = some k → ∃ readyState, client.sockets[k]? = some ⟨readyState,true⟩

structure Queued (client : Client P) : Prop where
  owned : client.Owned
  drained : client.isOpen = true → client.pendingPayloads = []
  order : InOrder client

private theorem isOpen_iff (client : Client P) : client.isOpen = true ↔
    ∃ k listening, client.socket = some k ∧ client.sockets[k]? = some ⟨.opened,listening⟩ := by
  rw [isOpen,decide_eq_true_iff,Option.map_eq_some_iff]
  simp only [current,Option.bind_eq_some_iff]
  constructor
  · rintro ⟨socket,⟨k,here,found⟩,state⟩
    obtain ⟨_,listening⟩ := socket
    subst state
    exact ⟨k,listening,here,found⟩
  · rintro ⟨k,listening,here,found⟩
    exact ⟨_,⟨k,here,found⟩,rfl⟩

theorem Owned.change {client : Client P} (owned : client.Owned) (k : Nat) (f : Socket → Socket)
    (keeps : ∀ socket, (f socket).listening = socket.listening) : (client.change k f).Owned := by
  intro j here
  obtain ⟨readyState,found⟩ := owned j here
  rw [sockets_change,found]
  split
  next =>
    exact ⟨_,congrArg some (Socket.ext rfl (keeps ⟨readyState,true⟩))⟩
  next => exact ⟨readyState,rfl⟩

private theorem isOpen_of_change (client : Client P) (k : Nat) (f : Socket → Socket)
    (shuts : ∀ socket, (f socket).readyState = .opened → socket.readyState = .opened)
    (still : (client.change k f).isOpen = true) : client.isOpen = true := by
  obtain ⟨j,listening,here,found⟩ := (isOpen_iff _).mp still
  rw [sockets_change] at found
  rw [isOpen_iff]
  split at found
  next =>
    obtain ⟨socket,old,equal⟩ := Option.map_eq_some_iff.mp found
    have state := shuts socket (by rw [equal])
    obtain ⟨readyState,was⟩ := socket
    subst state
    exact ⟨j,was,here,old⟩
  next => exact ⟨j,listening,here,found⟩

private theorem close_not_opened (socket : Socket) : socket.close.readyState ≠ .opened := by
  unfold Socket.close
  split
  · simp
  · simp
  · rename_i state
    simp [state]
  · rename_i state
    simp [state]

private theorem isOpen_closeSocket (client : Client P) : client.closeSocket.isOpen = false := by
  unfold closeSocket
  split
  next k here =>
    rw [Bool.eq_false_iff]
    intro still
    obtain ⟨j,listening,there,found⟩ := (isOpen_iff _).mp still
    obtain rfl := Option.some.inj (here.symm.trans there)
    rw [sockets_change,if_pos rfl] at found
    obtain ⟨socket,_,equal⟩ := Option.map_eq_some_iff.mp found
    exact close_not_opened socket (by rw [equal])
  next absent => simp [isOpen,current,absent]

theorem Queued.closeSocket {client : Client P} (queued : client.Queued) : client.closeSocket.Queued where
  owned := by
    unfold Client.closeSocket
    split
    · exact queued.owned.change _ _ close_listening
    · exact queued.owned
  drained still := by
    rw [isOpen_closeSocket] at still
    cases still
  order := by
    unfold Client.closeSocket
    split
    · exact queued.order
    · exact queued.order

theorem Queued.same {client other : Client P} (queued : client.Queued) (socket : other.socket = client.socket)
    (sockets : other.sockets = client.sockets) (pending : other.pendingPayloads = client.pendingPayloads)
    (sent : other.sent = client.sent) (handed : other.handed = client.handed) : other.Queued where
  owned := by
    intro k here
    rw [sockets]
    exact queued.owned k (socket ▸ here)
  drained still := by
    rw [pending]
    apply queued.drained
    rw [isOpen,current,socket,sockets] at still
    exact still
  order := by
    rw [InOrder,pending,sent,handed]
    exact queued.order

theorem Queued.clearTimeout {client : Client P} (queued : client.Queued) : client.clearTimeout.Queued := by
  unfold Client.clearTimeout
  split
  · exact queued.same rfl rfl rfl rfl rfl
  · exact queued

theorem Queued.send {client : Client P} (queued : client.Queued) (payload : P) : (client.send payload).Queued := by
  have numbered : (client.sent ++ [payload]).zipIdx = client.sent.zipIdx ++ [(payload,client.sent.length)] := by
    simp [List.zipIdx_append]
  have order := queued.order
  unfold InOrder at order
  unfold Client.send
  by_cases opened : client.isOpen = true
  · have empty := queued.drained opened
    have still : ({ client with sent := client.sent ++ [payload] } : Client P).isOpen = true := opened
    rw [if_pos still,sendPayload,if_pos still]
    refine ⟨queued.owned,fun _ => empty,?_⟩
    simp only [empty,List.append_nil] at order
    simp only [InOrder,numbered,empty,order,List.append_nil]
  · have still : ({ client with sent := client.sent ++ [payload] } : Client P).isOpen ≠ true := opened
    rw [if_neg still]
    refine ⟨queued.owned,fun again => absurd again opened,?_⟩
    simp only [InOrder,numbered,← order,List.append_assoc]

theorem Queued.perform {client : Client P} (queued : client.Queued) (call : Call P) : (client.perform call).Queued := by
  cases call with
  | send payload => exact queued.send payload
  | close => exact queued.clearTimeout.closeSocket
  | reconnect => exact queued.same rfl rfl rfl rfl rfl

theorem Queued.performAll {client : Client P} (queued : client.Queued) (calls : List (Call P)) :
    (calls.foldl Client.perform client).Queued := by
  induction calls generalizing client with
  | nil => exact queued
  | cons call rest ih => exact ih (queued.perform call)

theorem Queued.connect {client : Client P} (queued : client.Queued) : client.connect.Queued where
  owned := by
    intro k here
    obtain rfl := Option.some.inj here
    exact ⟨.connecting,by simp [Client.connect]⟩
  drained still := by
    obtain ⟨k,listening,here,found⟩ := (isOpen_iff _).mp still
    obtain rfl := Option.some.inj here
    simp [Client.connect] at found
  order := queued.order

theorem Queued.onMessage {client : Client P} (queued : client.Queued) (frame : Frame) :
    (client.onMessage frame).Queued := by
  cases frame with
  | invalidJson => exact queued.closeSocket
  | error hasData =>
    cases hasData with
    | false => exact queued
    | true => exact queued.closeSocket
  | status status => exact queued.same rfl rfl rfl rfl rfl
  | other => exact queued

theorem Queued.shut {client : Client P} (queued : client.Queued) (k : Nat) (readyState : ReadyState)
    (shuts : readyState ≠ .opened) :
    (client.change k (fun socket => { socket with readyState := readyState })).Queued where
  owned := queued.owned.change k _ (fun _ => rfl)
  drained still := queued.drained (isOpen_of_change client k _ (fun _ opened => absurd opened shuts) still)
  order := queued.order

theorem Queued.onClose {client : Client P} (queued : client.Queued) : client.onClose.Queued := by
  unfold Client.onClose
  split
  · refine ⟨?_,?_,queued.order⟩
    · rintro _ ⟨⟩
    · intro still
      obtain ⟨_,_,here,_⟩ := (isOpen_iff _).mp still
      cases here
  · exact queued

private theorem isOpen_close (client : Client P) : client.close.isOpen = false := isOpen_closeSocket client.clearTimeout

private theorem pending_close (client : Client P) : client.close.pendingPayloads = client.pendingPayloads := by
  unfold close closeSocket clearTimeout
  split <;> split <;> rfl

private theorem pending_perform (client : Client P) (call : Call P) (kept : call.isSend = true → client.isOpen = true) :
    (client.perform call).pendingPayloads = client.pendingPayloads := by
  cases call with
  | send payload =>
    have still : ({ client with sent := client.sent ++ [payload] } : Client P).isOpen = true := kept rfl
    rw [perform,send,if_pos still,sendPayload,if_pos still]
  | close => exact pending_close client
  | reconnect => rfl

private theorem isOpen_perform (client : Client P) (call : Call P) (kept : call ≠ .close) :
    (client.perform call).isOpen = client.isOpen := by
  cases call with
  | send payload =>
    rw [perform,send]
    split
    next still =>
      rw [sendPayload,if_pos still]
      rfl
    next => rfl
  | close => exact absurd rfl kept
  | reconnect => rfl

/-- No payload starts to wait in a script that sends only while the current socket is open. -/
theorem pending_performAll (calls : List (Call P)) (client : Client P)
    (opened : client.isOpen = true → sendsAfterClose calls = false)
    (shut : client.isOpen = false → ∀ call ∈ calls, call.isSend = false) :
    (calls.foldl perform client).pendingPayloads = client.pendingPayloads := by
  induction calls generalizing client with
  | nil => rfl
  | cons call rest ih =>
    have kept : call.isSend = true → client.isOpen = true := by
      intro sends
      by_contra other
      rw [shut (by simpa using other) call List.mem_cons_self] at sends
      cases sends
    rw [List.foldl_cons,← pending_perform client call kept]
    by_cases closes : call = .close
    · subst closes
      apply ih
      · intro still
        rw [perform,isOpen_close] at still
        cases still
      · intro _ later member
        by_cases before : client.isOpen = true
        · have none := opened before
          simp only [sendsAfterClose,List.any_eq_false] at none
          simpa using none later member
        · exact shut (by simpa using before) later (List.mem_cons_of_mem _ member)
    · apply ih
      · intro still
        rw [isOpen_perform client call closes] at still
        have none := opened still
        cases call with
        | close => exact absurd rfl closes
        | send payload => simpa [sendsAfterClose] using none
        | reconnect => simpa [sendsAfterClose] using none
      · intro still later member
        rw [isOpen_perform client call closes] at still
        exact shut still later (List.mem_cons_of_mem _ member)

private theorem flush_empty (client : Client P) (empty : client.pendingPayloads = []) :
    client.flushPendingPayloads = client := by
  rw [flushPendingPayloads,empty,List.foldl_nil,← empty]

private theorem fold_sendPayload (payloads : List (P × Nat)) (client : Client P) (opened : client.isOpen = true) :
    payloads.foldl sendPayload client = { client with handed := client.handed ++ payloads } := by
  induction payloads generalizing client with
  | nil => simp
  | cons payload rest ih =>
    rw [List.foldl_cons,sendPayload,if_pos opened,ih { client with handed := client.handed ++ [payload] } opened]
    simp

private theorem flush_open (client : Client P) (opened : client.isOpen = true) : client.flushPendingPayloads =
    { client with handed := client.handed ++ client.pendingPayloads, pendingPayloads := [] } :=
  fold_sendPayload client.pendingPayloads { client with pendingPayloads := [] } opened

private theorem reconnects_frame (calls : List (Call P)) (client : Client P)
    (only : ∀ call ∈ calls, call.isReconnect = true) :
    ∃ timeout timers timer, calls.foldl perform client =
      { client with reconnectTimeout := timeout, timers := timers, nextTimer := timer } := by
  induction calls generalizing client with
  | nil => exact ⟨client.reconnectTimeout,client.timers,client.nextTimer,rfl⟩
  | cons call rest ih =>
    have head := only call List.mem_cons_self
    cases call with
    | send payload => cases head
    | close => cases head
    | reconnect =>
      obtain ⟨timeout,timers,timer,equal⟩ :=
        ih client.reconnect (fun later member => only later (List.mem_cons_of_mem _ member))
      exact ⟨timeout,timers,timer,equal⟩

private theorem isOpen_opened (client : Client P) (k : Nat) (found : client.sockets[k]? = some ⟨.connecting,true⟩) :
    (client.change k (fun socket => { socket with readyState := .opened })).isOpen = true ↔
      client.socket = some k ∨ client.isOpen = true := by
  rw [isOpen_iff,isOpen_iff]
  simp only [sockets_change]
  constructor
  · rintro ⟨j,listening,here,state⟩
    split at state
    next same => exact Or.inl (same ▸ here)
    next => exact Or.inr ⟨j,listening,here,state⟩
  · rintro (here | ⟨j,listening,here,state⟩)
    · exact ⟨k,true,here,by simp [found]⟩
    · refine ⟨j,listening,here,?_⟩
      by_cases same : k = j
      · subst same
        rw [found] at state
        cases state
      · rw [if_neg same]
        exact state

/-- An open event that no payload waits for. -/
theorem Queued.openedEmpty {client : Client P} (queued : client.Queued) (k : Nat) (openHandler : List (Call P))
    (found : client.sockets[k]? = some ⟨.connecting,true⟩) (empty : client.pendingPayloads = [])
    (delivers : if client.socket = some k ∨ client.isOpen then sendsAfterClose openHandler = false
      else ∀ call ∈ openHandler, call.isSend = false) :
    ((client.change k (fun socket => { socket with readyState := .opened })).onOpen openHandler).Queued := by
  have opened := isOpen_opened client k found
  have start : (client.change k (fun socket => { socket with readyState := .opened })).Queued :=
    ⟨queued.owned.change k _ (fun _ => rfl),fun _ => empty,queued.order⟩
  have waits : (openHandler.foldl Client.perform
      (client.change k (fun socket => { socket with readyState := .opened }))).pendingPayloads = [] := by
    rw [pending_performAll]
    · exact empty
    · intro still
      rw [if_pos (opened.mp still)] at delivers
      exact delivers
    · intro shut
      have neither : ¬ (client.socket = some k ∨ client.isOpen = true) := by
        rw [← opened,shut]
        simp
      rw [if_neg neither] at delivers
      exact delivers
  rw [onOpen,flush_empty _ waits]
  exact start.performAll openHandler

/-- An open event of the current socket, with payloads waiting for it. -/
theorem Queued.openedWaiting {client : Client P} (queued : client.Queued) (k : Nat) (openHandler : List (Call P))
    (found : client.sockets[k]? = some ⟨.connecting,true⟩) (here : client.socket = some k)
    (only : ∀ call ∈ openHandler, call.isReconnect = true) :
    ((client.change k (fun socket => { socket with readyState := .opened })).onOpen openHandler).Queued := by
  have opened := (isOpen_opened client k found).mpr (Or.inl here)
  obtain ⟨timeout,timers,timer,equal⟩ :=
    reconnects_frame openHandler (client.change k (fun socket => { socket with readyState := .opened })) only
  rw [onOpen,equal,flush_open]
  case opened => exact opened
  refine ⟨queued.owned.change k _ (fun _ => rfl),fun _ => rfl,?_⟩
  have order := queued.order
  unfold InOrder at order ⊢
  simp only [List.append_nil]
  exact order

/-- A socket that does not listen is not the current one. -/
theorem Queued.unheard {client : Client P} (queued : client.Queued) (k : Nat) (readyState moved : ReadyState)
    (found : client.sockets[k]? = some ⟨readyState,false⟩) :
    (client.change k (fun socket => { socket with readyState := moved })).Queued := by
  have other : client.socket ≠ some k := by
    intro here
    obtain ⟨_,owned⟩ := queued.owned k here
    rw [found] at owned
    cases owned
  refine ⟨queued.owned.change k _ (fun _ => rfl),fun still => ?_,queued.order⟩
  obtain ⟨j,listening,here,state⟩ :=
    (isOpen_iff (client.change k (fun socket => { socket with readyState := moved }))).mp still
  have apart : k ≠ j := by
    rintro rfl
    exact other here
  rw [sockets_change,if_neg apart] at state
  exact queued.drained ((isOpen_iff client).mpr ⟨j,listening,here,state⟩)

end Client

open Client

private theorem queued_initial : (initial : Client P).Queued := by
  apply Queued.connect
  refine ⟨?_,fun _ => rfl,rfl⟩
  rintro _ ⟨⟩

private theorem queued_dispatch (client after : Client P) (event : Event P) (queued : client.Queued)
    (delivers : Delivers client event) (taken : dispatch client event = some after) : after.Queued := by
  cases dispatched client after event taken with
  | called call => exact queued.perform call
  | fired id =>
    have fired : Queued { client with timers := client.timers.erase id } := queued.same rfl rfl rfl rfl rfl
    exact fired.connect
  | opened k openHandler found =>
    have delivers := delivers found
    by_cases empty : client.pendingPayloads = []
    · rw [if_pos empty] at delivers
      exact queued.openedEmpty k openHandler found empty delivers
    · rw [if_neg empty] at delivers
      exact queued.openedWaiting k openHandler found delivers.1 delivers.2
  | received k frame => exact queued.onMessage frame
  | failed k => exact queued.closeSocket
  | closing k => exact queued.shut k .closing (by decide)
  | closed k => exact (queued.shut k .closed (by decide)).onClose
  | unheard _ k readyState moved _ found => exact queued.unheard k readyState moved found

private theorem queued_step (client : Client P) (event : Event P) (after : Client P) (queued : client.Queued)
    (delivers : Delivers client event) (taken : step client event = some after) : after.Queued := by
  obtain ⟨reached,dispatched,rfl⟩ := Option.map_eq_some_iff.mp taken
  exact (queued_dispatch client reached event queued delivers dispatched).same rfl rfl rfl rfl rfl

/-- In every run whose open events meet the condition, each payload is handed over once and in
order, or waits. -/
theorem payloads_delivered_in_order (events : List (Event P)) (delivers : Meets step Delivers initial events) :
    Always step InOrder initial events := by
  have always := always_of_meets Client.Queued Delivers queued_step initial events queued_initial delivers
  exact always.imp (fun _ queued => queued.order)

instance (client : Client P) (event : Event P) [DecidableEq P] : Decidable (Delivers client event) := by
  cases event <;> dsimp only [Delivers] <;> infer_instance

def sendBeforeOpen : List (Event String) :=
  [.call (.send "first"),.opened 0 [.reconnect],.call (.send "second"),.closed 0,.call (.send "third"),.timer 0,
    .opened 1 []]

theorem queued_then_delivered : (run step initial sendBeforeOpen).isSome ∧ Always step InOrder initial sendBeforeOpen :=
  ⟨by decide,payloads_delivered_in_order sendBeforeOpen (by decide)⟩

/-- `openHandler` runs before the flush: what it sends overtakes the queue, and if it closes
the queue is lost. -/
theorem handler_overtakes_queue :
    (∃ client, run step initial [.call (.send "first"),.opened 0 [.send "second"]] = some client ∧ ¬ InOrder client) ∧
    ∃ client, run step initial [.call (.send "first"),.opened 0 [.close]] = some client ∧ ¬ InOrder client := by
  constructor
  · refine ⟨_,rfl,?_⟩
    unfold InOrder
    decide
  · refine ⟨_,rfl,?_⟩
    unfold InOrder
    decide

end BoarPack.WebsocketClient
