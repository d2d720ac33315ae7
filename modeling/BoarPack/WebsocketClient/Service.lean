import BoarPack.Library.Containers

/-! `WebsocketClient` of the browser: its sockets, timers and queue. A label is an event of the
browser with the handlers that run in it, or a call of the application outside of them. -/
namespace BoarPack.WebsocketClient

variable {P : Type}

inductive ReadyState
  | connecting
  | opened
  | closing
  | closed
  deriving DecidableEq, Repr

/-- `listening`: the four handlers of the client are attached. -/
@[ext] structure Socket where
  readyState : ReadyState
  listening : Bool
  deriving DecidableEq, Repr

/-- `close()` starts the closing handshake of a socket that is not closing yet. -/
def Socket.close (socket : Socket) : Socket :=
  match socket.readyState with
  | .connecting | .opened => { socket with readyState := .closing }
  | .closing | .closed => socket

theorem close_listening (socket : Socket) : socket.close.listening = socket.listening := by
  unfold Socket.close
  split <;> rfl

/-- All sockets and live timers, with `this.socket` and `this.reconnectTimeout` among them. A
payload is numbered by its `send` call; `sent`, `handed` (to an open socket) and `disturbed`
(the current socket, by an event of another) are history. -/
structure Client (P : Type) where
  socket : Option Nat := none
  sockets : List Socket := []
  reconnectTimeout : Option Nat := none
  timers : List Nat := []
  nextTimer : Nat := 0
  serverSocketStatus : ReadyState := .closed
  pendingPayloads : List (P × Nat) := []
  sent : List P := []
  handed : List (P × Nat) := []
  disturbed : Bool := false
  deriving DecidableEq, Repr

inductive Frame
  | invalidJson
  | error (hasData : Bool)
  | status (status : Option ReadyState)
  | other
  deriving DecidableEq, Repr

inductive Call (P : Type)
  | send (payload : P)
  | close
  | reconnect
  deriving DecidableEq, Repr

namespace Client

def change (client : Client P) (k : Nat) (f : Socket → Socket) : Client P :=
  { client with sockets := client.sockets.modify k f }

theorem sockets_change (client : Client P) (k j : Nat) (f : Socket → Socket) :
    (client.change k f).sockets[j]? = if k = j then (client.sockets[j]?).map f else client.sockets[j]? :=
  Containers.getElem?_modify_if client.sockets k j f

private theorem change_same (client : Client P) (k : Nat) (socket : Socket) (found : client.sockets[k]? = some socket) :
    client.change k (fun old => { old with readyState := socket.readyState }) = client := by
  have kept : client.sockets.modify k (fun old => { old with readyState := socket.readyState }) = client.sockets := by
    apply List.ext_getElem?
    intro j
    rw [Containers.getElem?_modify_if]
    split
    next here =>
      subst here
      rw [found]
      rfl
    next => rfl
  rw [change,kept]

def current (client : Client P) : Option Socket := client.socket.bind (fun k => client.sockets[k]?)

def isOpen (client : Client P) : Bool := client.current.map Socket.readyState = some .opened

def connect (client : Client P) : Client P :=
  { client with
    serverSocketStatus := .connecting
    socket := some client.sockets.length
    sockets := client.sockets ++ [⟨.connecting,true⟩] }

/-- `this.socket?.close()`. -/
def closeSocket (client : Client P) : Client P :=
  match client.socket with
  | some k => client.change k Socket.close
  | none => client

def onError (client : Client P) : Client P := client.closeSocket

def onClose (client : Client P) : Client P :=
  match client.socket with
  | some k => { client.change k (fun socket => { socket with listening := false }) with socket := none }
  | none => client

/-- An error frame without data throws before the socket is closed. -/
def onMessage (client : Client P) (frame : Frame) : Client P :=
  match frame with
  | .invalidJson => client.closeSocket
  | .error hasData => if hasData then client.closeSocket else client
  | .status status => { client with serverSocketStatus := status.getD client.serverSocketStatus }
  | .other => client

def clearTimeout (client : Client P) : Client P :=
  match client.reconnectTimeout with
  | some timer => { client with timers := client.timers.erase timer }
  | none => client

/-- `close()` of a socket that is closing or closed does nothing. -/
def close (client : Client P) : Client P := client.clearTimeout.closeSocket

def reconnect (client : Client P) : Client P :=
  { client with
    reconnectTimeout := some client.nextTimer
    timers := client.timers ++ [client.nextTimer]
    nextTimer := client.nextTimer + 1 }

/-- What a socket that is not open is given is lost: `send` throws while it is connecting,
which is caught, and does nothing later; without a socket nothing is called. -/
def sendPayload (client : Client P) (payload : P × Nat) : Client P :=
  if client.isOpen then { client with handed := client.handed ++ [payload] } else client

def send (client : Client P) (payload : P) : Client P :=
  let numbered := (payload,client.sent.length)
  let client := { client with sent := client.sent ++ [payload] }
  if client.isOpen then client.sendPayload numbered
  else { client with pendingPayloads := client.pendingPayloads ++ [numbered] }

def flushPendingPayloads (client : Client P) : Client P :=
  client.pendingPayloads.foldl sendPayload { client with pendingPayloads := [] }

def perform (client : Client P) : Call P → Client P
  | .send payload => client.send payload
  | .close => client.close
  | .reconnect => client.reconnect

/-- `openHandler` makes the calls in order. -/
def onOpen (client : Client P) (openHandler : List (Call P)) : Client P :=
  (openHandler.foldl perform client).flushPendingPayloads

def initial : Client P := connect {}

end Client

/-- `closing` is the server's half of the closing handshake. -/
inductive Event (P : Type)
  | call (call : Call P)
  | timer (id : Nat)
  | opened (k : Nat) (openHandler : List (Call P))
  | message (k : Nat) (frame : Frame)
  | error (k : Nat)
  | closing (k : Nat)
  | closed (k : Nat)
  deriving DecidableEq, Repr

def Event.socket : Event P → Option Nat
  | .call _ | .timer _ => none
  | .opened k _ | .message k _ | .error k | .closing k | .closed k => some k

open Client in
def dispatch (client : Client P) : Event P → Option (Client P)
  | .call call => some (client.perform call)
  | .timer id =>
    if id ∈ client.timers then some { client with timers := client.timers.erase id }.connect else none
  | .opened k openHandler =>
    match client.sockets[k]? with
    | some ⟨.connecting,listening⟩ =>
      let client := client.change k (fun socket => { socket with readyState := .opened })
      some (if listening then client.onOpen openHandler else client)
    | _ => none
  | .message k frame =>
    match client.sockets[k]? with
    | some ⟨.opened,listening⟩ => some (if listening then client.onMessage frame else client)
    | _ => none
  | .error k =>
    match client.sockets[k]? with
    | some ⟨.closed,_⟩ | none => none
    | some ⟨_,listening⟩ => some (if listening then client.onError else client)
  | .closing k =>
    match client.sockets[k]? with
    | some ⟨.opened,_⟩ => some (client.change k (fun socket => { socket with readyState := .closing }))
    | _ => none
  | .closed k =>
    match client.sockets[k]? with
    | some ⟨.closed,_⟩ | none => none
    | some ⟨_,listening⟩ =>
      let client := client.change k (fun socket => { socket with readyState := .closed })
      some (if listening then client.onClose else client)

/-- The dispatch of an event, read backwards. What is not heard moves at most the socket. -/
inductive Dispatched (client : Client P) : Event P → Client P → Prop
  | called (call : Call P) : Dispatched client (.call call) (client.perform call)
  | fired (id : Nat) : Dispatched client (.timer id) { client with timers := client.timers.erase id }.connect
  | opened (k : Nat) (openHandler : List (Call P)) (found : client.sockets[k]? = some ⟨.connecting,true⟩) :
    Dispatched client (.opened k openHandler)
      ((client.change k (fun socket => { socket with readyState := .opened })).onOpen openHandler)
  | received (k : Nat) (frame : Frame) (found : client.sockets[k]? = some ⟨.opened,true⟩) :
    Dispatched client (.message k frame) (client.onMessage frame)
  | failed (k : Nat) (readyState : ReadyState) (found : client.sockets[k]? = some ⟨readyState,true⟩) :
    Dispatched client (.error k) client.closeSocket
  | closing (k : Nat) :
    Dispatched client (.closing k) (client.change k (fun socket => { socket with readyState := .closing }))
  | closed (k : Nat) (readyState : ReadyState) (found : client.sockets[k]? = some ⟨readyState,true⟩) :
    Dispatched client (.closed k) (client.change k (fun socket => { socket with readyState := .closed })).onClose
  | unheard (event : Event P) (k : Nat) (readyState moved : ReadyState) (of : event.socket = some k)
    (found : client.sockets[k]? = some ⟨readyState,false⟩) :
    Dispatched client event (client.change k (fun socket => { socket with readyState := moved }))

theorem Dispatched.ignored (client : Client P) (event : Event P) (k : Nat) (readyState : ReadyState)
    (of : event.socket = some k) (found : client.sockets[k]? = some ⟨readyState,false⟩) :
      Dispatched client event client := by
  have moved := Dispatched.unheard event k readyState readyState of found
  rw [Client.change_same client k ⟨readyState,false⟩ found] at moved
  exact moved

theorem dispatched (client after : Client P) (event : Event P) (taken : dispatch client event = some after) :
    Dispatched client event after := by
  cases event with
  | call call =>
    obtain rfl := Option.some.inj taken
    exact .called call
  | timer id =>
    simp only [dispatch,Option.ite_none_right_eq_some,Option.some.injEq] at taken
    obtain ⟨_,rfl⟩ := taken
    exact .fired id
  | opened k openHandler =>
    simp only [dispatch] at taken
    split at taken
    next listening found =>
      obtain rfl := Option.some.inj taken
      cases listening with
      | true => exact .opened k openHandler found
      | false => exact .unheard _ k .connecting .opened rfl found
    next => cases taken
  | message k frame =>
    simp only [dispatch] at taken
    split at taken
    next listening found =>
      obtain rfl := Option.some.inj taken
      cases listening with
      | true => exact .received k frame found
      | false => exact .ignored client _ k .opened rfl found
    next => cases taken
  | error k =>
    simp only [dispatch] at taken
    split at taken
    next => cases taken
    next => cases taken
    next readyState listening _ found =>
      obtain rfl := Option.some.inj taken
      cases listening with
      | true => exact .failed k readyState found
      | false => exact .ignored client _ k readyState rfl found
  | closing k =>
    simp only [dispatch] at taken
    split at taken
    next =>
      obtain rfl := Option.some.inj taken
      exact .closing k
    next => cases taken
  | closed k =>
    simp only [dispatch] at taken
    split at taken
    next => cases taken
    next => cases taken
    next readyState listening _ found =>
      obtain rfl := Option.some.inj taken
      cases listening with
      | true => exact .closed k readyState found
      | false => exact .unheard _ k readyState .closed rfl found

/-- The event of a socket that is not current closes, detaches or nulls the current one, or
changes `serverSocketStatus`. -/
def disturbs (client : Client P) (event : Event P) (after : Client P) : Bool :=
  event.socket.isSome && event.socket ≠ client.socket &&
    (after.socket ≠ client.socket || after.serverSocketStatus ≠ client.serverSocketStatus ||
      after.socket.bind (after.sockets[·]?) ≠ client.current)

def step (client : Client P) (event : Event P) : Option (Client P) :=
  (dispatch client event).map (fun after =>
    { after with disturbed := client.disturbed || disturbs client event after })

end BoarPack.WebsocketClient
