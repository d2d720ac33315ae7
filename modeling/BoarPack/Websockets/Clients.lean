import BoarPack.Library.Containers

/-! `WebsocketsClients` of the server: a reconnect timer is kept on the shared config, found through
the registry entry of a socket. A label is an event of Node, or a call of the application; while
an `onClose` callback runs there are only calls, its own. -/
namespace BoarPack.Websockets

inductive ReadyState
  | connecting
  | opened
  | closing
  | closed
  deriving DecidableEq, Repr

/-- What `reconnectTimeout` may hold: its declared type is a number, `setTimeout` returns an object. -/
inductive Timeout
  | number (value : Nat)
  | object (timer : Nat)
  deriving DecidableEq, Repr

def Timeout.isNumber : Timeout → Bool
  | .number _ => true
  | .object _ => false

structure TBaseConfig where
  reconnectTimeout : Option Timeout
  ignoreInvalidJson : Bool
  deriving DecidableEq, Repr

/-- A call of `close` that has not resolved, by the timers armed for the config when it was made. -/
abbrev Closing : Type := List Nat

structure Socket where
  config : Nat
  readyState : ReadyState
  closings : List Closing
  deriving DecidableEq, Repr

/-- `ws.close()`. -/
def Socket.close (socket : Socket) : Socket :=
  match socket.readyState with
  | .connecting | .opened => { socket with readyState := .closing }
  | .closing | .closed => socket

/-- An `onClose` whose callback is running, with the calls of `close` that resolve after it. -/
structure OnClose where
  ws : Nat
  closings : List Closing
  deriving DecidableEq, Repr

/-- Configs and sockets are objects, by their index; a timer is with the config that it reconnects.
`final` (the timers that a resolved `close` came after) and `revived` (those of them that
called `connect`) are history. -/
structure WebsocketsClients where
  configs : List TBaseConfig
  sockets : List Socket := []
  clients : List (Nat × Nat) := []
  timers : List (Nat × Nat) := []
  nextTimer : Nat := 0
  running : List OnClose := []
  final : List Nat := []
  revived : List Nat := []
  deriving DecidableEq, Repr

inductive Income
  | invalidJson
  | error
  | event
  deriving DecidableEq, Repr

inductive Call
  | connect (config : Nat)
  | reconnect (client : Nat)
  | close (client : Nat)
  deriving DecidableEq, Repr

inductive Label
  | call (call : Call)
  | returned
  | threw
  | opened (k : Nat)
  | openFailed (k : Nat)
  | error (k : Nat)
  | message (k : Nat) (income : Income)
  | closed (k : Nat)
  | timer (id : Nat)
  deriving DecidableEq, Repr

namespace WebsocketsClients

def change (s : WebsocketsClients) (k : Nat) (f : Socket → Socket) : WebsocketsClients :=
  { s with sockets := s.sockets.modify k f }

def connect (s : WebsocketsClients) (config : Nat) : WebsocketsClients :=
  { s with
    clients := s.clients ++ [(s.sockets.length,config)]
    sockets := s.sockets ++ [⟨config,.connecting,[]⟩] }

def armed (s : WebsocketsClients) (config : Nat) : Closing :=
  (s.timers.filter (fun timer => timer.2 = config)).map Prod.fst

def resolve (s : WebsocketsClients) (closings : List Closing) : WebsocketsClients :=
  { s with final := s.final ++ closings.flatten }

/-- `clients.delete(ws)`, and what waits for the close event. -/
def finish (s : WebsocketsClients) (onClose : OnClose) : WebsocketsClients :=
  { s with clients := s.clients.filter (fun entry => entry.1 ≠ onClose.ws) }.resolve onClose.closings

/-- Without a config there is no callback to run. -/
def onClose (s : WebsocketsClients) (ws : Nat) (config : Option Nat) (closings : List Closing) : WebsocketsClients :=
  match config with
  | some _ => { s with running := ⟨ws,closings⟩ :: s.running }
  | none => s.finish ⟨ws,closings⟩

/-- No timer here was ever turned into a number. -/
def clearTimeout (s : WebsocketsClients) : Timeout → WebsocketsClients
  | .number _ => s
  | .object id => { s with timers := s.timers.filter (fun timer => timer.1 ≠ id) }

def reconnectTimeout (s : WebsocketsClients) (config : Option Nat) : Option Timeout :=
  (config.bind (s.configs[·]?)).bind TBaseConfig.reconnectTimeout

/-- `typeof config?.reconnectTimeout === 'number'` guards the cancelling. -/
def cancel (s : WebsocketsClients) (config : Option Nat) : WebsocketsClients :=
  match s.reconnectTimeout config with
  | some timeout => if timeout.isNumber then s.clearTimeout timeout else s
  | none => s

def close (s : WebsocketsClients) (client : Nat) (socket : Socket) : WebsocketsClients :=
  let config := Containers.get s.clients client
  let closing := s.armed socket.config
  let s := s.cancel config
  if socket.readyState = .closed then s.onClose client config [closing]
  else s.change client (fun socket => { socket with closings := socket.closings ++ [closing] }.close)

/-- It throws for a client without a config. -/
def reconnect (s : WebsocketsClients) (client : Nat) : WebsocketsClients :=
  match Containers.get s.clients client with
  | none => s
  | some config =>
    { s with
      configs := s.configs.modify config (fun object => { object with reconnectTimeout := some (.object s.nextTimer) })
      timers := s.timers ++ [(s.nextTimer,config)]
      nextTimer := s.nextTimer + 1 }

def perform (s : WebsocketsClients) : Call → Option WebsocketsClients
  | .connect config => if config < s.configs.length then some (s.connect config) else none
  | .reconnect client => if client < s.sockets.length then some (s.reconnect client) else none
  | .close client => s.sockets[client]?.map (s.close client)

def onMessage (s : WebsocketsClients) (k : Nat) (socket : Socket) : Income → WebsocketsClients
  | .invalidJson =>
    if (s.configs[socket.config]?).any TBaseConfig.ignoreInvalidJson then s else s.change k Socket.close
  | .error => s.change k Socket.close
  | .event => s

def fire (s : WebsocketsClients) (timer : Nat × Nat) : WebsocketsClients :=
  { s with
    timers := s.timers.erase timer
    revived := if timer.1 ∈ s.final then s.revived ++ [timer.1] else s.revived }.connect timer.2

end WebsocketsClients

open WebsocketsClients

/-- The calls of `onOpen` and `onMessage` follow their events. -/
def dispatch (s : WebsocketsClients) : Label → Option WebsocketsClients
  | .opened k =>
    match s.sockets[k]? with
    | some ⟨_,.connecting,_⟩ => some (s.change k (fun socket => { socket with readyState := .opened }))
    | _ => none
  | .openFailed k =>
    match s.sockets[k]? with
    | some ⟨_,.connecting,_⟩ | none => none
    | some _ => some (s.change k Socket.close)
  | .error k =>
    match s.sockets[k]? with
    | some ⟨_,.closed,_⟩ | none => none
    | some _ => some (s.change k Socket.close)
  | .message k income =>
    match s.sockets[k]? with
    | some ⟨config,.opened,closings⟩ => some (s.onMessage k ⟨config,.opened,closings⟩ income)
    | _ => none
  | .closed k =>
    match s.sockets[k]? with
    | some ⟨_,.closed,_⟩ | none => none
    | some ⟨config,_,closings⟩ =>
      some ((s.change k (fun socket => { socket with readyState := .closed, closings := [] })).onClose k
        (some config) closings)
  | .timer id => (s.timers.find? (fun timer => timer.1 = id)).map s.fire
  | _ => none

/-- A callback that throws leaves the registry as it is, and the calls of `close` unresolved. -/
def step (s : WebsocketsClients) (label : Label) : Option WebsocketsClients :=
  match label with
  | .call call => s.perform call
  | .returned =>
    match s.running with
    | onClose :: rest => some ({ s with running := rest }.finish onClose)
    | [] => none
  | .threw =>
    match s.running with
    | _ :: rest => some { s with running := rest }
    | [] => none
  | label => if s.running = [] then dispatch s label else none

def initial (configs : List TBaseConfig) : WebsocketsClients := { configs := configs }

end BoarPack.Websockets
