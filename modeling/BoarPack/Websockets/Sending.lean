import BoarPack.Library.Transition
import BoarPack.Websockets.Clients

/-! `WebsocketsClients.send`: a promise, a timer of one second and a listener for the open event of the
client. What `JSON.stringify` makes of a value is given, and nothing where it throws. -/
namespace BoarPack.Websockets
open Transition

variable {D P : Type}

inductive Settled
  | resolved
  | rejected
  deriving DecidableEq, Repr

/-- A run of the inner `send`: what it passed to `client.send`, and whether the promise was rejected by
its end. -/
structure Attempt (P : Type) where
  payload : Option P
  rejected : Bool
  deriving DecidableEq, Repr

/-- A call of `send`. `callback`: `client.send` has not called back. `fired`, `opened` and `attempt` are
history. -/
structure Sending (D P : Type) where
  client : Nat
  data : D
  promise : Option Settled := none
  timer : Bool := false
  listening : Bool := false
  callback : Bool := false
  fired : Bool := false
  opened : Bool := false
  attempt : Option (Attempt P) := none
  deriving DecidableEq, Repr

structure Sender (D P : Type) where
  clients : WebsocketsClients
  sends : List (Sending D P) := []
  deriving DecidableEq, Repr

/-- `timer` and `sent` name a call of `send` by its order. -/
inductive SendEvent (D : Type)
  | send (client : Nat) (data : D)
  | clients (label : Label)
  | timer (k : Nat)
  | sent (k : Nat) (err : Bool)
  deriving DecidableEq, Repr

namespace Sending

/-- A promise is settled by the first call. -/
def settle (sending : Sending D P) (settled : Settled) : Sending D P :=
  { sending with promise := sending.promise.or (some settled) }

/-- The inner `send`, where it does not throw. -/
def send (sending : Sending D P) (payload : P) : Sending D P :=
  { sending with callback := true, attempt := some ⟨some payload,sending.promise = some .rejected⟩ }

/-- The inner `send`, where it throws. -/
def throws (sending : Sending D P) : Sending D P :=
  { sending with attempt := some ⟨none,sending.promise = some .rejected⟩ }

def fire (sending : Sending D P) : Sending D P := { sending with timer := false, fired := true }.settle .rejected

def called (sending : Sending D P) (err : Bool) : Sending D P :=
  { sending with callback := false }.settle (if err then .rejected else .resolved)

/-- `ws.removeAllListeners()`. -/
def removeListener (client : Nat) (sending : Sending D P) : Sending D P :=
  if sending.client = client then { sending with listening := false } else sending

def hears (client : Nat) (sending : Sending D P) : Bool := sending.client = client && sending.listening

end Sending

section Stringify

variable (stringify : D → Option P)

namespace Sending

/-- The error of the inner `send` is caught where the client is open at the call. -/
def sendNow (sending : Sending D P) : Sending D P :=
  match stringify sending.data with
  | some payload => sending.send payload
  | none => (sending.settle .rejected).throws

def start (client : Nat) (data : D) (readyState : ReadyState) : Sending D P :=
  if readyState ≠ .opened then { client := client, data := data, timer := true, listening := true }
  else sendNow stringify { client := client, data := data }

/-- `clearTimeout` and the inner `send`, in the listener. -/
def onOpen (sending : Sending D P) : Sending D P :=
  let sending := { sending with listening := false, timer := false, opened := true }
  match stringify sending.data with
  | some payload => sending.send payload
  | none => sending.throws

/-- The listeners of a client are called one after the other, up to one that throws. -/
def emitOpen (client : Nat) : List (Sending D P) → List (Sending D P)
  | [] => []
  | sending :: rest =>
    if sending.hears client then
      if (stringify sending.data).isSome then sending.onOpen stringify :: emitOpen client rest
      else sending.onOpen stringify :: rest
    else sending :: emitOpen client rest

end Sending

/-- What the calls of `send` make of an event or a call. -/
def heard (s : Sender D P) : Label → List (Sending D P)
  | .opened k => Sending.emitOpen stringify k s.sends
  | .closed k => s.sends.map (Sending.removeListener k)
  | .call (.close k) =>
    if (s.clients.sockets[k]?).any (fun socket => socket.readyState = .closed) then s.sends.map
      (Sending.removeListener k)
    else s.sends
  | _ => s.sends

def sendStep (s : Sender D P) : SendEvent D → Option (Sender D P)
  | .send client data =>
    (s.clients.sockets[client]?).map (fun socket =>
      { s with sends := s.sends ++ [Sending.start stringify client data socket.readyState] })
  | .clients label => (step s.clients label).map (fun clients => ⟨clients,heard stringify s label⟩)
  | .timer k =>
    if s.clients.running = [] ∧ (s.sends[k]?).any Sending.timer then some { s with
      sends := s.sends.modify k Sending.fire }
    else none
  | .sent k err =>
    if s.clients.running = [] ∧ (s.sends[k]?).any Sending.callback then
      some { s with sends := s.sends.modify k (fun sending => sending.called err) }
    else none

end Stringify

def freshSender (configs : List TBaseConfig) : Sender D P := { clients := initial configs }

end BoarPack.Websockets
