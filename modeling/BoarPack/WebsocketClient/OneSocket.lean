import BoarPack.Library.Transition
import BoarPack.WebsocketClient.Service

/-! The client owns one live socket, and the events of its earlier sockets leave that one alone. -/
namespace BoarPack.WebsocketClient
open Transition Client

variable {P : Type}

def Socket.live (socket : Socket) : Bool := socket.listening && socket.readyState ≠ .closed

def OwnsOne (client : Client P) : Prop :=
  client.disturbed = false ∧ ∀ (j k : Nat) (left right : Socket), client.sockets[j]? = some left →
    client.sockets[k]? = some right → left.live = true → right.live = true → j = k

/-- A reconnect timer fires only while the client has no socket. -/
def Connects (client : Client P) : Event P → Prop
  | .timer _ => client.socket = none
  | _ => True

namespace Client

/-- Listening sockets are current. -/
def Single (client : Client P) : Prop :=
  ∀ (k : Nat) (socket : Socket), client.sockets[k]? = some socket → socket.listening = true → client.socket = some k

theorem Single.change {client : Client P} (single : client.Single) (k : Nat) (f : Socket → Socket)
    (keeps : ∀ socket, (f socket).listening = true → socket.listening = true) : (client.change k f).Single := by
  intro j socket found listens
  rw [sockets_change] at found
  split at found
  next =>
    obtain ⟨old,was,rfl⟩ := Option.map_eq_some_iff.mp found
    exact single j old was (keeps old listens)
  next => exact single j socket found listens

theorem Single.closeSocket {client : Client P} (single : client.Single) : client.closeSocket.Single := by
  unfold Client.closeSocket
  split
  · exact single.change _ _ (fun socket listens => close_listening socket ▸ listens)
  · exact single

theorem Single.close {client : Client P} (single : client.Single) : client.close.Single := by
  have cleared : client.clearTimeout.Single := by
    unfold Client.clearTimeout
    split
    · exact single
    · exact single
  exact cleared.closeSocket

theorem Single.sendPayload {client : Client P} (single : client.Single) (payload : P × Nat) :
    (client.sendPayload payload).Single := by
  unfold Client.sendPayload
  split
  · exact single
  · exact single

theorem Single.perform {client : Client P} (single : client.Single) (call : Call P) : (client.perform call).Single := by
  cases call with
  | send payload =>
    rw [Client.perform,send]
    split
    · have counted : Single { client with sent := client.sent ++ [payload] } := single
      exact counted.sendPayload (payload,client.sent.length)
    · exact single
  | close => exact single.close
  | reconnect => exact single

theorem Single.onOpen {client : Client P} (single : client.Single) (openHandler : List (Call P)) :
    (client.onOpen openHandler).Single := by
  have flushed (payloads : List (P × Nat)) : ∀ client : Client P, client.Single →
      (payloads.foldl Client.sendPayload client).Single := by
    induction payloads with
    | nil => exact fun _ single => single
    | cons payload rest ih => exact fun client single => ih _ (single.sendPayload payload)
  have performed (calls : List (Call P)) : ∀ client : Client P, client.Single →
      (calls.foldl Client.perform client).Single := by
    induction calls with
    | nil => exact fun _ single => single
    | cons call rest ih => exact fun client single => ih _ (single.perform call)
  exact flushed _ _ (performed openHandler client single)

theorem Single.onMessage {client : Client P} (single : client.Single) (frame : Frame) :
    (client.onMessage frame).Single := by
  cases frame with
  | invalidJson => exact single.closeSocket
  | error hasData =>
    cases hasData with
    | false => exact single
    | true => exact single.closeSocket
  | status status => exact single
  | other => exact single

theorem Single.connect {client : Client P} (single : client.Single) (free : client.socket = none) :
    client.connect.Single := by
  intro k socket found listens
  by_cases old : k < client.sockets.length
  · have was : client.sockets[k]? = some socket := by
      simpa [Client.connect,List.getElem?_append_left old] using found
    have current := single k socket was listens
    rw [free] at current
    cases current
  · have last : k = client.sockets.length := by
      have bound := (List.getElem?_eq_some_iff.mp found).1
      simp [Client.connect] at bound
      omega
    rw [last]
    rfl

theorem Single.onClose {client : Client P} (single : client.Single) : client.onClose.Single := by
  unfold Client.onClose
  split
  next k here =>
    intro j socket found listens
    change (client.change k (fun socket => { socket with listening := false })).sockets[j]? = some socket at found
    rw [sockets_change] at found
    split at found
    next =>
      obtain ⟨old,_,rfl⟩ := Option.map_eq_some_iff.mp found
      cases listens
    next apart => exact absurd (Option.some.inj (here.symm.trans (single j socket found listens))) apart
  next => exact single

end Client

private theorem single_dispatch (client after : Client P) (event : Event P) (single : client.Single)
    (connects : Connects client event) (taken : dispatch client event = some after) : after.Single := by
  cases dispatched client after event taken with
  | called call => exact single.perform call
  | fired id =>
    have fired : Single { client with timers := client.timers.erase id } := single
    exact fired.connect connects
  | opened k openHandler =>
    have opened := single.change k (fun socket => { socket with readyState := .opened }) (fun _ listens => listens)
    exact opened.onOpen openHandler
  | received k frame => exact single.onMessage frame
  | failed k => exact single.closeSocket
  | closing k => exact single.change k _ (fun _ listens => listens)
  | closed k =>
    have shut := single.change k (fun socket => { socket with readyState := .closed }) (fun _ listens => listens)
    exact shut.onClose
  | unheard _ k => exact single.change k _ (fun _ listens => listens)

/-- An event of a socket that is not listening changes at most that socket. -/
theorem dispatch_unheard (client after : Client P) (event : Event P) (k : Nat) (of : event.socket = some k)
    (unheard : ∀ socket, client.sockets[k]? = some socket → socket.listening = false)
    (taken : dispatch client event = some after) : ∃ f, after = client.change k f := by
  cases dispatched client after event taken with
  | called call => cases of
  | fired id => cases of
  | opened j openHandler found =>
    obtain rfl := Option.some.inj of
    cases unheard _ found
  | received j frame found =>
    obtain rfl := Option.some.inj of
    cases unheard _ found
  | failed j readyState found =>
    obtain rfl := Option.some.inj of
    cases unheard _ found
  | closing j =>
    obtain rfl := Option.some.inj of
    exact ⟨_,rfl⟩
  | closed j readyState found =>
    obtain rfl := Option.some.inj of
    cases unheard _ found
  | unheard _ j readyState moved its found =>
    obtain rfl := Option.some.inj (its.symm.trans of)
    exact ⟨_,rfl⟩

private theorem undisturbed_dispatch (client after : Client P) (event : Event P) (single : client.Single)
    (taken : dispatch client event = some after) : disturbs client event after = false := by
  cases of : event.socket with
  | none => simp [disturbs,of]
  | some k =>
    by_cases here : client.socket = some k
    · simp [disturbs,of,here]
    · have unheard (socket : Socket) (found : client.sockets[k]? = some socket) : socket.listening = false := by
        by_contra listens
        exact here (single k socket found (by simpa using listens))
      obtain ⟨f,rfl⟩ := dispatch_unheard client after event k of unheard taken
      have current : client.socket.bind ((client.change k f).sockets[·]?) = client.current := by
        unfold Client.current
        cases now : client.socket with
        | none => rfl
        | some j =>
          have apart : k ≠ j := by
            rintro rfl
            exact here now
          rw [Option.bind_some,Option.bind_some,sockets_change,if_neg apart]
      simp only [disturbs,Client.change] at current ⊢
      simp [current]

def Owning (client : Client P) : Prop := client.disturbed = false ∧ client.Single

private theorem owning_initial : Owning (initial : Client P) := by
  have unborn : Single ({} : Client P) := by
    intro k socket found
    simp at found
  exact ⟨rfl,unborn.connect rfl⟩

private theorem owning_step (client : Client P) (event : Event P) (after : Client P) (owning : Owning client)
    (connects : Connects client event) (taken : step client event = some after) : Owning after := by
  obtain ⟨reached,dispatched,rfl⟩ := Option.map_eq_some_iff.mp taken
  refine ⟨?_,single_dispatch client reached event owning.2 connects dispatched⟩
  simp [owning.1,undisturbed_dispatch client reached event owning.2 dispatched]

theorem Owning.ownsOne {client : Client P} (owning : Owning client) : OwnsOne client := by
  refine ⟨owning.1,fun j k left right at_j at_k leftLive rightLive => ?_⟩
  simp only [Socket.live,Bool.and_eq_true] at leftLive rightLive
  have first := owning.2 j left at_j leftLive.1
  have second := owning.2 k right at_k rightLive.1
  exact Option.some.inj (first.symm.trans second)

/-- In every run whose timers find no socket, the client owns one live socket and only that
one's events touch it. -/
theorem one_live_socket (events : List (Event P)) (connects : Meets step Connects initial events) :
    Always step OwnsOne initial events := by
  have always := always_of_meets Owning Connects owning_step initial events owning_initial connects
  exact always.imp (fun _ owning => owning.ownsOne)

instance (client : Client P) : (event : Event P) → Decidable (Connects client event)
  | .timer _ => decidable_of_iff (client.socket.isNone = true) Option.isNone_iff_eq_none
  | .call _ => isTrue trivial
  | .opened _ _ => isTrue trivial
  | .message _ _ => isTrue trivial
  | .error _ => isTrue trivial
  | .closing _ => isTrue trivial
  | .closed _ => isTrue trivial

def reconnectAfterClose : List (Event String) :=
  [.opened 0 [],.closed 0,.call .reconnect,.timer 0,.opened 1 [],.message 1 (.status (some .opened))]

theorem reconnected_socket_is_one : (run step initial reconnectAfterClose).isSome ∧
    Always step OwnsOne initial reconnectAfterClose :=
  ⟨by decide,one_live_socket reconnectAfterClose (by decide)⟩

/-- The second `reconnect` overwrites the handle of the first timer; both fire, and the close of
the first new socket nulls the second. -/
theorem two_timers_two_sockets :
    (∃ client, run step initial ([.closed 0,.call .reconnect,.call .reconnect,.timer 0,.timer 1] : List
      (Event String)) =
      some client ∧ ¬ OwnsOne client) ∧
    ∃ client, run step initial ([.closed 0,.call .reconnect,.call .reconnect,.timer 0,.timer 1,.closed 1] :
      List (Event String)) = some client ∧ client.disturbed = true ∧ client.socket = none := by
  constructor
  · refine ⟨_,rfl,fun owns => ?_⟩
    have same := owns.2 1 2 _ _ rfl rfl rfl rfl
    cases same
  · exact ⟨_,rfl,rfl,rfl⟩

end BoarPack.WebsocketClient
