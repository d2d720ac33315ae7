import BoarPack.Library.Containers

/-! `WsAuthService`: the sockets it broadcasts to, and those that owe it a pong. A socket is named by
the order of its connection; what happened to it is history that the service does not keep. -/
namespace BoarPack.WsAuth
open Containers

variable {U : Type}

/-- `waiting`: the authentication callback has not fired. -/
structure Socket (U : Type) where
  user : Option U := none
  pongListener : Bool := false
  waiting : Bool := true
  disconnected : Bool := false
  terminated : Bool := false

structure WsAuthService (U : Type) where
  sockets : List (Socket U) := []
  clients : Distinct Nat := Distinct.empty
  clientsToTerminate : Distinct Nat := Distinct.empty

inductive Label (U : Type)
  | handleConnection
  | authenticated (k : Nat) (err : Bool) (user : Option U)
  | handleDisconnect (k : Nat)
  | pong (k : Nat)
  | checkClients
  | broadcast

namespace WsAuthService

def change (s : WsAuthService U) (k : Nat) (f : Socket U → Socket U) : WsAuthService U :=
  { s with sockets := s.sockets.modify k f }

def addClient (s : WsAuthService U) (client : Nat) : WsAuthService U :=
  if client ∈ s.clients then s
  else { s with clients := s.clients.add client }.change client (fun socket => { socket with pongListener := true })

/-- The callback given to passport. Without a user the socket is sent an error and closed, which
touches neither set. -/
def authenticate (s : WsAuthService U) (k : Nat) (err : Bool) (user : Option U) : WsAuthService U :=
  let s := s.change k (fun socket => { socket with waiting := false })
  if err then s
  else match user with
    | none => s
    | some user => (s.change k (fun socket => { socket with user := some user })).addClient k

def handleDisconnect (s : WsAuthService U) (client : Nat) : WsAuthService U :=
  { s with clients := s.clients.delete client }.change client (fun socket => { socket with disconnected := true })

/-- One client of the loop of `checkClients`. -/
def check (s : WsAuthService U) (client : Nat) : WsAuthService U :=
  if client ∈ s.clientsToTerminate then
    { s with clients := s.clients.delete client }.change client (fun socket => { socket with terminated := true })
  else { s with clientsToTerminate := s.clientsToTerminate.add client }

def checkClients (s : WsAuthService U) : WsAuthService U := s.clients.items.foldl check s

/-- The sockets that the event is sent to. -/
def broadcast (s : WsAuthService U) : List Nat := s.clients.items

end WsAuthService

open WsAuthService

/-- The callback fires at most once, however late; a socket closes once. -/
def step (s : WsAuthService U) : Label U → Option (WsAuthService U)
  | .handleConnection => some { s with sockets := s.sockets ++ [{}] }
  | .authenticated k err user =>
    if (s.sockets[k]?).any Socket.waiting then some (s.authenticate k err user) else none
  | .handleDisconnect k =>
    if (s.sockets[k]?).any (fun socket => !socket.disconnected) then some (s.handleDisconnect k) else none
  | .pong k =>
    match s.sockets[k]? with
    | none => none
    | some socket =>
      if socket.disconnected then none
      else if socket.pongListener then some { s with clientsToTerminate := s.clientsToTerminate.delete k }
      else some s
  | .checkClients => some s.checkClients
  | .broadcast => some s

/-- A step, read backwards. -/
inductive Taken (s : WsAuthService U) : Label U → WsAuthService U → Prop
  | connected : Taken s .handleConnection { s with sockets := s.sockets ++ [{}] }
  | called (k : Nat) (err : Bool) (user : Option U) (socket : Socket U) (found : s.sockets[k]? = some socket)
    (waits : socket.waiting = true) : Taken s (.authenticated k err user) (s.authenticate k err user)
  | disconnected (k : Nat) : Taken s (.handleDisconnect k) (s.handleDisconnect k)
  | answered (k : Nat) : Taken s (.pong k) { s with clientsToTerminate := s.clientsToTerminate.delete k }
  | unheard (k : Nat) : Taken s (.pong k) s
  | checked : Taken s .checkClients s.checkClients
  | sent : Taken s .broadcast s

theorem step_taken {s t : WsAuthService U} {label : Label U} (taken : step s label = some t) : Taken s label t := by
  cases label with
  | handleConnection =>
    obtain rfl := Option.some.inj taken
    exact .connected
  | authenticated k err user =>
    simp only [step,Option.ite_none_right_eq_some,Option.some.injEq] at taken
    obtain ⟨waiting,rfl⟩ := taken
    obtain ⟨socket,found,waits⟩ := (Option.any_eq_true _ _).mp waiting
    exact .called k err user socket found waits
  | handleDisconnect k =>
    simp only [step,Option.ite_none_right_eq_some,Option.some.injEq] at taken
    obtain ⟨_,rfl⟩ := taken
    exact .disconnected k
  | pong k =>
    simp only [step] at taken
    split at taken
    next => cases taken
    next =>
      split at taken
      next => cases taken
      next =>
        split at taken
        next => obtain rfl := Option.some.inj taken; exact .answered k
        next => obtain rfl := Option.some.inj taken; exact .unheard k
  | checkClients =>
    obtain rfl := Option.some.inj taken
    exact .checked
  | broadcast =>
    obtain rfl := Option.some.inj taken
    exact .sent

end BoarPack.WsAuth
