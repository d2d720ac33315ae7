import BoarPack.Library.Transition
import BoarPack.Websockets.Clients

/-! A call of `close` never cancels a reconnect timer: what holds the timer is not a number, and the
registry entry may be gone. A closed client therefore stays closed just when its timers have fired
before the call resolves. -/
namespace BoarPack.Websockets
open Transition WebsocketsClients

/-- No timer armed for a config before a resolved call of `close` has called `connect` since. -/
def Final (s : WebsocketsClients) : Prop := s.revived = []

/-- The calls of `close` that resolve in this step. -/
def resolved (s : WebsocketsClients) : Label → List Closing
  | .returned => (s.running.head?.map OnClose.closings).getD []
  | .call (.close client) =>
    match s.sockets[client]? with
    | some ⟨config,.closed,_⟩ => if Containers.get s.clients client = none then [s.armed config] else []
    | _ => []
  | _ => []

/-- Each timer that was armed for its config has fired when a call of `close` resolves. -/
def Fired (s : WebsocketsClients) (label : Label) : Prop :=
  ∀ closing ∈ resolved s label, ∀ id ∈ closing, id ∉ s.timers.map Prod.fst

def Below (bound : Nat) (closings : List Closing) : Prop := ∀ closing ∈ closings, ∀ id ∈ closing, id < bound

theorem Below.mono {bound larger : Nat} {closings : List Closing} (below : Below bound closings) (le : bound ≤ larger) :
    Below larger closings :=
  fun closing member id inside => Nat.lt_of_lt_of_le (below closing member id inside) le

structure Calm (s : WebsocketsClients) : Prop where
  final : Final s
  spent : ∀ id ∈ s.final, id ∉ s.timers.map Prod.fst
  timers : ∀ id ∈ s.timers.map Prod.fst, id < s.nextTimer
  past : ∀ id ∈ s.final, id < s.nextTimer
  sockets : ∀ socket ∈ s.sockets, Below s.nextTimer socket.closings
  running : ∀ onClose ∈ s.running, Below s.nextTimer onClose.closings

variable {s t : WebsocketsClients}

private theorem close_closings (socket : Socket) : socket.close.closings = socket.closings := by
  unfold Socket.close
  split <;> rfl

theorem Calm.armed (calm : Calm s) (config : Nat) : Below s.nextTimer [s.armed config] := by
  intro closing member id inside
  rw [List.mem_singleton.mp member] at inside
  obtain ⟨timer,listed,rfl⟩ := List.mem_map.mp inside
  exact calm.timers timer.1 (List.mem_map_of_mem (List.mem_filter.mp listed).1)

theorem Calm.change (calm : Calm s) (k : Nat) (f : Socket → Socket)
    (below : ∀ socket, s.sockets[k]? = some socket → Below s.nextTimer (f socket).closings) : Calm (s.change k f) := by
  refine { calm with sockets := ?_ }
  intro socket member
  obtain ⟨j,found⟩ := List.mem_iff_getElem?.mp member
  change (s.sockets.modify k f)[j]? = some socket at found
  rw [Containers.getElem?_modify_if] at found
  split at found
  next here =>
    obtain ⟨old,was,rfl⟩ := Option.map_eq_some_iff.mp found
    exact below old (here ▸ was)
  next => exact calm.sockets socket (List.mem_of_getElem? found)

theorem Calm.changed (calm : Calm s) (k : Nat) (f : Socket → Socket)
    (same : ∀ socket, (f socket).closings = socket.closings) : Calm (s.change k f) := by
  refine calm.change k f (fun socket found => ?_)
  rw [same]
  exact calm.sockets socket (List.mem_of_getElem? found)

theorem Calm.onMessage (calm : Calm s) (k : Nat) (socket : Socket) (income : Income) :
    Calm (s.onMessage k socket income) := by
  cases income with
  | invalidJson =>
    simp only [WebsocketsClients.onMessage]
    split
    · exact calm
    · exact calm.changed k _ close_closings
  | error => exact calm.changed k _ close_closings
  | event => exact calm

theorem Calm.connect (calm : Calm s) (config : Nat) : Calm (s.connect config) := by
  refine { calm with sockets := ?_ }
  intro socket member
  rcases List.mem_append.mp member with old | new
  · exact calm.sockets socket old
  · rw [List.mem_singleton.mp new]
    intro closing none_yet
    cases none_yet

theorem Calm.finish (calm : Calm s) (onClose : OnClose) (below : Below s.nextTimer onClose.closings)
    (fired : ∀ closing ∈ onClose.closings, ∀ id ∈ closing, id ∉ s.timers.map Prod.fst) : Calm (s.finish onClose) := by
  refine { calm with spent := ?_, past := ?_ }
  · intro id member
    rcases List.mem_append.mp member with old | new
    · exact calm.spent id old
    · obtain ⟨closing,listed,inside⟩ := List.mem_flatten.mp new
      exact fired closing listed id inside
  · intro id member
    rcases List.mem_append.mp member with old | new
    · exact calm.past id old
    · obtain ⟨closing,listed,inside⟩ := List.mem_flatten.mp new
      exact below closing listed id inside

theorem Calm.begin (calm : Calm s) (onClose : OnClose) (below : Below s.nextTimer onClose.closings) :
    Calm { s with running := onClose :: s.running } := by
  refine { calm with running := ?_ }
  intro other member
  rcases List.mem_cons.mp member with rfl | old
  · exact below
  · exact calm.running other old

/-- The type test fails for every timeout that `reconnect` stores, and a number names no timer. -/
theorem cancel_nothing (s : WebsocketsClients) (config : Option Nat) : s.cancel config = s := by
  unfold WebsocketsClients.cancel
  split
  next timeout _ =>
    cases timeout with
    | number value => rfl
    | object timer => rfl
  next => rfl

theorem close_uncancelled (s : WebsocketsClients) (client : Nat) (socket : Socket) :
    s.close client socket =
      if socket.readyState = .closed then s.onClose client (Containers.get s.clients client) [s.armed socket.config]
      else s.change client (fun old => { old with closings := old.closings ++ [s.armed socket.config] }.close) := by
  simp only [WebsocketsClients.close,cancel_nothing]

theorem Calm.close (calm : Calm s) (client : Nat) (socket : Socket) (found : s.sockets[client]? = some socket)
    (fired : Fired s (.call (.close client))) : Calm (s.close client socket) := by
  rw [close_uncancelled]
  have below := calm.armed socket.config
  split
  next closed =>
    unfold WebsocketsClients.onClose
    split
    next => exact calm.begin ⟨client,_⟩ below
    next forgotten =>
      refine calm.finish ⟨client,_⟩ below (fun closing member => fired closing ?_)
      obtain ⟨config,readyState,closings⟩ := socket
      cases closed
      simpa [resolved,found,forgotten] using member
  next =>
    refine calm.change client _ (fun old was => ?_)
    rw [close_closings]
    intro closing member
    rcases List.mem_append.mp member with earlier | new
    · exact calm.sockets old (List.mem_of_getElem? was) closing earlier
    · exact below closing new

theorem Calm.reconnect (calm : Calm s) (client : Nat) : Calm (s.reconnect client) := by
  unfold WebsocketsClients.reconnect
  split
  next => exact calm
  next config _ =>
    have later : s.nextTimer ≤ s.nextTimer + 1 := Nat.le_succ s.nextTimer
    refine ⟨calm.final,?_,?_,?_,?_,?_⟩
    · intro id member listed
      rw [List.map_append,List.mem_append] at listed
      rcases listed with old | new
      · exact calm.spent id member old
      · rw [List.mem_singleton.mp new] at member
        exact Nat.lt_irrefl _ (calm.past _ member)
    · intro id listed
      rw [List.map_append,List.mem_append] at listed
      rcases listed with old | new
      · exact Nat.lt_of_lt_of_le (calm.timers id old) later
      · rw [List.mem_singleton.mp new]
        exact Nat.lt_succ_self _
    · exact fun id member => Nat.lt_of_lt_of_le (calm.past id member) later
    · exact fun socket member => (calm.sockets socket member).mono later
    · exact fun onClose member => (calm.running onClose member).mono later

theorem Calm.fire (calm : Calm s) (timer : Nat × Nat) (listed : timer ∈ s.timers) : Calm (s.fire timer) := by
  have unlisted : timer.1 ∉ s.final := fun member => calm.spent timer.1 member (List.mem_map_of_mem listed)
  have fewer (id : Nat) (rest : id ∈ (s.timers.erase timer).map Prod.fst) : id ∈ s.timers.map Prod.fst := by
    obtain ⟨other,left,rfl⟩ := List.mem_map.mp rest
    exact List.mem_map_of_mem (List.mem_of_mem_erase left)
  unfold WebsocketsClients.fire
  rw [if_neg unlisted]
  apply Calm.connect
  exact { calm with
    spent := fun id member rest => calm.spent id member (fewer id rest)
    timers := fun id rest => calm.timers id (fewer id rest) }

theorem Calm.perform (calm : Calm s) (call : Call) (fired : Fired s (.call call))
    (taken : s.perform call = some t) : Calm t := by
  cases call with
  | connect config =>
    simp only [WebsocketsClients.perform,Option.ite_none_right_eq_some,Option.some.injEq] at taken
    obtain ⟨_,rfl⟩ := taken
    exact calm.connect config
  | reconnect client =>
    simp only [WebsocketsClients.perform,Option.ite_none_right_eq_some,Option.some.injEq] at taken
    obtain ⟨_,rfl⟩ := taken
    exact calm.reconnect client
  | close client =>
    obtain ⟨socket,found,rfl⟩ := Option.map_eq_some_iff.mp taken
    exact calm.close client socket found fired

private theorem calm_dispatch (calm : Calm s) (label : Label) (taken : dispatch s label = some t) : Calm t := by
  cases label with
  | call call => cases taken
  | returned => cases taken
  | threw => cases taken
  | opened k =>
    simp only [dispatch] at taken
    split at taken
    next =>
      obtain rfl := Option.some.inj taken
      exact calm.changed k _ (fun _ => rfl)
    next => cases taken
  | openFailed k =>
    simp only [dispatch] at taken
    split at taken
    next => cases taken
    next => cases taken
    next =>
      obtain rfl := Option.some.inj taken
      exact calm.changed k _ close_closings
  | error k =>
    simp only [dispatch] at taken
    split at taken
    next => cases taken
    next => cases taken
    next =>
      obtain rfl := Option.some.inj taken
      exact calm.changed k _ close_closings
  | message k income =>
    simp only [dispatch] at taken
    split at taken
    next =>
      obtain rfl := Option.some.inj taken
      exact calm.onMessage k _ income
    next => cases taken
  | closed k =>
    simp only [dispatch] at taken
    split at taken
    next => cases taken
    next => cases taken
    next config _ closings _ found =>
      obtain rfl := Option.some.inj taken
      have below : Below s.nextTimer closings := calm.sockets _ (List.mem_of_getElem? found)
      have emptied := calm.change k (fun socket => { socket with readyState := .closed, closings := [] })
        (fun _ _ closing none_left => by cases none_left)
      exact emptied.begin ⟨k,closings⟩ below
  | timer id =>
    obtain ⟨timer,found,rfl⟩ := Option.map_eq_some_iff.mp taken
    exact calm.fire timer (List.mem_of_find?_eq_some found)

theorem calm_step (s : WebsocketsClients) (label : Label) (t : WebsocketsClients) (calm : Calm s)
    (fired : Fired s label) (taken : step s label = some t) : Calm t := by
  unfold step at taken
  split at taken
  next call => exact calm.perform call fired taken
  next =>
    split at taken
    next onClose rest running =>
      obtain rfl := Option.some.inj taken
      have member : onClose ∈ s.running := running ▸ List.mem_cons_self
      have others : Calm { s with running := rest } :=
        { calm with running := fun other left => calm.running other (running ▸ List.mem_cons_of_mem onClose left) }
      refine others.finish onClose (calm.running onClose member) (fun closing listed => fired closing ?_)
      simpa [resolved,running] using listed
    next => cases taken
  next =>
    split at taken
    next onClose rest running =>
      obtain rfl := Option.some.inj taken
      exact { calm with running := fun other left => calm.running other (running ▸ List.mem_cons_of_mem onClose left) }
    next => cases taken
  next =>
    split at taken
    next => exact calm_dispatch calm _ taken
    next => cases taken

private theorem calm_initial (configs : List TBaseConfig) : Calm (initial configs) := by
  constructor
  · rfl
  all_goals
    intro x none_yet
    cases none_yet

/-- In every run in which the timers of a config have fired when a call of `close` for it resolves,
none of them calls `connect` afterwards. -/
theorem closed_stays_closed (configs : List TBaseConfig) (labels : List Label)
    (fired : Meets step Fired (initial configs) labels) : Always step Final (initial configs) labels := by
  have always := always_of_meets Calm Fired calm_step (initial configs) labels (calm_initial configs) fired
  exact always.imp (fun _ calm => calm.final)

private theorem finish_revives (s : WebsocketsClients) (onClose : OnClose) (id : Nat) (idle : s.running = [])
    (closed : id ∈ onClose.closings.flatten) (armed : id ∈ s.timers.map Prod.fst) :
    ∃ last, step (s.finish onClose) (.timer id) = some last ∧ ¬ Final last := by
  obtain ⟨timer,listed,rfl⟩ := List.mem_map.mp armed
  cases found : s.timers.find? (fun other => other.1 = timer.1) with
  | none => simpa using List.find?_eq_none.mp found timer listed
  | some first =>
    have same : first.1 = timer.1 := by simpa using List.find?_some found
    refine ⟨(s.finish onClose).fire first,?_,?_⟩
    · change (if s.running = [] then (s.timers.find? (fun other => other.1 = timer.1)).map
        (s.finish onClose).fire else none) = _
      rw [if_pos idle,found]
      rfl
    · have past : first.1 ∈ (s.finish onClose).final := same ▸ List.mem_append_right s.final closed
      change (if first.1 ∈ (s.finish onClose).final then (s.finish onClose).revived ++ [first.1] else _) ≠ []
      rw [if_pos past]
      simp

/-- The condition is exact: a timer that is left when a call of `close` resolves may be the next to fire. -/
theorem unfired_revives (label : Label) (unfired : ¬ Fired s label) (taken : step s label = some t)
    (idle : t.running = []) :
    ∃ id last, step t (.timer id) = some last ∧ ¬ Final last := by
  simp only [Fired,not_forall,Classical.not_not] at unfired
  obtain ⟨closing,member,id,inside,armed⟩ := unfired
  unfold resolved at member
  split at member
  next =>
    cases running : s.running with
    | nil => simp [running] at member
    | cons onClose rest =>
      simp only [running,List.head?_cons,Option.map_some,Option.getD_some] at member
      simp only [step,running,Option.some.injEq] at taken
      obtain rfl := taken
      exact ⟨id,finish_revives { s with running := rest } onClose id idle (List.mem_flatten_of_mem member inside) armed⟩
  next client =>
    split at member
    next config closings found =>
      split at member
      next forgotten =>
        obtain ⟨socket,was,rfl⟩ := Option.map_eq_some_iff.mp taken
        obtain rfl := Option.some.inj (was.symm.trans found)
        rw [close_uncancelled,if_pos rfl,forgotten] at idle ⊢
        exact ⟨id,finish_revives s ⟨client,[s.armed config]⟩ id idle (List.mem_flatten_of_mem member inside) armed⟩
      next => cases member
    next => cases member
  next => cases member

instance (s : WebsocketsClients) (label : Label) : Decidable (Fired s label) :=
  inferInstanceAs (Decidable (∀ closing ∈ resolved s label, ∀ id ∈ closing, id ∉ s.timers.map Prod.fst))

instance (s : WebsocketsClients) : Decidable (Final s) := inferInstanceAs (Decidable (s.revived = []))

def reconnectThenClose : List Label :=
  [.call (.connect 0),.opened 0,.closed 0,.call (.reconnect 0),.returned,.timer 0,.opened 1,.call (.close 1),.closed 1,
    .returned,.call (.close 1)]

theorem reconnected_client_closed : (run step (initial [⟨none,false⟩]) reconnectThenClose).isSome ∧
    Always step Final (initial [⟨none,false⟩]) reconnectThenClose :=
  ⟨by decide,closed_stays_closed [⟨none,false⟩] reconnectThenClose (by decide)⟩

/-- The timer of a client that is still registered is not a number; that of a client whose close
event came before is not found. -/
theorem timer_outlives_close :
    (∃ s, run step (initial [⟨none,false⟩])
      [.call (.connect 0),.opened 0,.call (.reconnect 0),.call (.close 0),.closed 0,
      .returned,.timer 0] = some s ∧ ¬ Final s) ∧
    ∃ s, run step (initial [⟨none,false⟩]) [.call (.connect 0),.opened 0,.closed 0,.call (.reconnect 0),.returned,
      .call (.close 0),.timer 0] = some s ∧ ¬ Final s := by
  constructor
  · exact ⟨_,rfl,by decide⟩
  · exact ⟨_,rfl,by decide⟩

end BoarPack.Websockets
