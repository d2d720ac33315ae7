import BoarPack.Library.Transition
import BoarPack.WsAuth.Service

/-! Five operations keep the two sets. The sets stay right just as long as authentication is in time
and every client answers its ping before it disconnects or is checked again. -/
namespace BoarPack.WsAuth
open Containers Transition WsAuthService

variable {U : Type}

def Socket.served (socket : Socket U) : Prop :=
  socket.user.isSome ∧ socket.disconnected = false ∧ socket.terminated = false

structure Tracked (s : WsAuthService U) : Prop where
  clients : ∀ k ∈ s.clients, ∃ socket, s.sockets[k]? = some socket ∧ socket.served
  clientsToTerminate : ∀ k ∈ s.clientsToTerminate, k ∈ s.clients

/-- No user is authenticated for a socket that is gone, and no client that has a ping to answer
disconnects or is checked again. -/
def Answered (s : WsAuthService U) : Label U → Prop
  | .authenticated k false (some _) => (s.sockets[k]?).all (fun socket => !socket.disconnected)
  | .handleDisconnect k => k ∉ s.clientsToTerminate
  | .checkClients => ∀ k ∈ s.clients.items, k ∉ s.clientsToTerminate
  | _ => True

/-- A socket whose callback has not fired is in no set and was never terminated. -/
structure Known (s : WsAuthService U) : Prop where
  clients : ∀ k ∈ s.clients, k < s.sockets.length
  waiting : ∀ (k : Nat) (socket : Socket U), s.sockets[k]? = some socket → socket.waiting = true →
    k ∉ s.clients ∧ socket.terminated = false

variable {s t : WsAuthService U}

theorem sockets_change (s : WsAuthService U) (k j : Nat) (f : Socket U → Socket U) :
    (s.change k f).sockets[j]? = if k = j then (s.sockets[j]?).map f else s.sockets[j]? :=
  Containers.getElem?_modify_if s.sockets k j f

private theorem length_change (s : WsAuthService U) (k : Nat) (f : Socket U → Socket U) :
    (s.change k f).sockets.length = s.sockets.length := List.length_modify f s.sockets k

/-- What the loop of `checkClients` has done after the clients of a list. -/
structure Checked (s : WsAuthService U) (list : List Nat) (t : WsAuthService U) : Prop where
  clients : ∀ k, k ∈ t.clients ↔ k ∈ s.clients ∧ ¬ (k ∈ list ∧ k ∈ s.clientsToTerminate)
  clientsToTerminate : ∀ k, k ∈ t.clientsToTerminate ↔ k ∈ s.clientsToTerminate ∨ k ∈ list
  sockets : ∀ k : Nat, t.sockets[k]? =
    if k ∈ list ∧ k ∈ s.clientsToTerminate then (s.sockets[k]?).map (fun socket => { socket with terminated := true })
    else s.sockets[k]?

theorem checked_one (s : WsAuthService U) (j : Nat) : Checked s [j] (s.check j) := by
  unfold check
  by_cases owes : j ∈ s.clientsToTerminate
  · rw [if_pos owes]
    refine ⟨fun k => ?_,fun k => ?_,fun k => ?_⟩
    · rw [change,Distinct.mem_delete,List.mem_singleton]
      by_cases here : k = j
      · simp [here,owes]
      · simp [here]
    · rw [change,List.mem_singleton]
      by_cases here : k = j
      · simp [here,owes]
      · simp [here]
    · rw [sockets_change]
      by_cases here : k = j
      · simp [here,owes]
      · simp [here,Ne.symm here]
  · rw [if_neg owes]
    refine ⟨fun k => ?_,fun k => ?_,fun k => ?_⟩
    · by_cases here : k = j
      · simp [here,owes]
      · simp [here]
    · rw [Distinct.mem_add,List.mem_singleton]
    · by_cases here : k = j
      · simp [here,owes]
      · simp [here]

theorem Checked.cons {now : WsAuthService U} {j : Nat} {rest : List Nat} (absent : j ∉ rest) (one : Checked s [j] now)
    (later : Checked now rest t) : Checked s (j :: rest) t := by
  refine ⟨fun k => ?_,fun k => ?_,fun k => ?_⟩
  · rw [later.clients,one.clients,one.clientsToTerminate,List.mem_singleton,List.mem_cons]
    by_cases here : k = j
    · simp [here,absent]
    · simp [here]
  · rw [later.clientsToTerminate,one.clientsToTerminate,List.mem_singleton,List.mem_cons,or_assoc]
  · rw [later.sockets,one.sockets]
    simp only [one.clientsToTerminate,List.mem_cons]
    by_cases here : k = j
    · simp [here,absent]
    · simp [here]

private theorem checked_loop (list : List Nat) (own : list.Nodup) (s : WsAuthService U) :
    Checked s list (list.foldl check s) := by
  induction list generalizing s with
  | nil => exact ⟨by simp,by simp,by simp⟩
  | cons j rest ih =>
    obtain ⟨absent,own⟩ := List.nodup_cons.mp own
    exact (checked_one s j).cons absent (ih own (s.check j))

theorem checked (s : WsAuthService U) : Checked s s.clients.items s.checkClients :=
  checked_loop s.clients.items s.clients.own s

theorem Known.change (known : Known s) (k : Nat) (f : Socket U → Socket U)
    (keeps : ∀ socket, (f socket).waiting = true → socket.waiting = true ∧ (f socket).terminated = socket.terminated) :
    Known (s.change k f) := by
  refine ⟨fun j member => (length_change s k f).symm ▸ known.clients j member,?_⟩
  intro j socket found waits
  rw [sockets_change] at found
  split at found
  next =>
    obtain ⟨old,was,rfl⟩ := Option.map_eq_some_iff.mp found
    obtain ⟨waited,same⟩ := keeps old waits
    rw [same]
    exact known.waiting j old was waited
  next => exact known.waiting j socket found waits

theorem Known.addClient (known : Known s) (k : Nat) (here : k < s.sockets.length)
    (fired : ∀ socket, s.sockets[k]? = some socket → socket.waiting = false) : Known (s.addClient k) := by
  unfold WsAuthService.addClient
  split
  next => exact known
  next =>
    have more : Known { s with clients := s.clients.add k } := by
      refine ⟨fun j member => ?_,fun j socket found waits => ⟨fun member => ?_,(known.waiting j socket found waits).2⟩⟩
      · rcases (Distinct.mem_add s.clients k j).mp member with old | rfl
        · exact known.clients j old
        · exact here
      · rcases (Distinct.mem_add s.clients k j).mp member with old | rfl
        · exact (known.waiting j socket found waits).1 old
        · rw [fired socket found] at waits
          cases waits
    exact more.change k _ (fun _ waits => ⟨waits,rfl⟩)

theorem Known.authenticate (known : Known s) (k : Nat) (err : Bool) (user : Option U) (here : k < s.sockets.length) :
    Known (s.authenticate k err user) := by
  have called : Known (s.change k (fun socket => { socket with waiting := false })) :=
    known.change k _ (fun _ waits => by cases waits)
  cases err with
  | true => exact called
  | false =>
    cases user with
    | none => exact called
    | some user =>
      have given := called.change k (fun socket => { socket with user := some user }) (fun _ waits => ⟨waits,rfl⟩)
      refine given.addClient k (by rw [length_change,length_change]; exact here) (fun socket found => ?_)
      rw [sockets_change,if_pos rfl,sockets_change,if_pos rfl,Option.map_map] at found
      obtain ⟨old,_,rfl⟩ := Option.map_eq_some_iff.mp found
      rfl

theorem Known.connected (known : Known s) : Known { s with sockets := s.sockets ++ [{}] } := by
  refine ⟨fun k member => ?_,fun k socket found waits => ?_⟩
  · exact Nat.lt_of_lt_of_le (known.clients k member) (by simp)
  · by_cases old : k < s.sockets.length
    · exact known.waiting k socket (by simpa [List.getElem?_append_left old] using found) waits
    · refine ⟨fun member => old (known.clients k member),?_⟩
      change (s.sockets ++ [({} : Socket U)])[k]? = some socket at found
      rw [List.getElem?_append_right (Nat.le_of_not_lt old)] at found
      have only := List.mem_of_getElem? found
      rw [List.mem_singleton.mp only]

theorem Known.disconnected (known : Known s) (k : Nat) : Known (s.handleDisconnect k) := by
  have fewer : Known { s with clients := s.clients.delete k } := by
    refine ⟨fun j member => known.clients j ((Distinct.mem_delete _ _ _).mp member).1,fun j socket found waits => ?_⟩
    obtain ⟨absent,running⟩ := known.waiting j socket found waits
    exact ⟨fun member => absent ((Distinct.mem_delete _ _ _).mp member).1,running⟩
  exact fewer.change k _ (fun _ waits => ⟨waits,rfl⟩)

theorem Known.checkClients (known : Known s) : Known s.checkClients := by
  have done := checked s
  refine ⟨fun k member => ?_,fun k socket found waits => ?_⟩
  · have bound := known.clients k ((done.clients k).mp member).1
    have inside : (s.checkClients.sockets[k]?).isSome := by
      rw [done.sockets]
      split <;> simp [bound]
    obtain ⟨socket,found⟩ := Option.isSome_iff_exists.mp inside
    exact (List.getElem?_eq_some_iff.mp found).1
  · rw [done.sockets] at found
    split at found
    next terminated =>
      obtain ⟨old,was,rfl⟩ := Option.map_eq_some_iff.mp found
      exact absurd terminated.1 (known.waiting k old was waits).1
    next =>
      obtain ⟨absent,running⟩ := known.waiting k socket found waits
      exact ⟨fun member => absent ((done.clients k).mp member).1,running⟩

theorem known_step (s : WsAuthService U) (label : Label U) (t : WsAuthService U) (known : Known s)
    (taken : step s label = some t) : Known t := by
  cases step_taken taken with
  | connected => exact known.connected
  | called k err user socket found => exact known.authenticate k err user (List.getElem?_eq_some_iff.mp found).1
  | disconnected k => exact known.disconnected k
  | answered k => exact ⟨known.clients,known.waiting⟩
  | unheard k => exact known
  | checked => exact known.checkClients
  | sent => exact known

theorem Tracked.change (tracked : Tracked s) (k : Nat) (f : Socket U → Socket U)
    (keeps : k ∈ s.clients → ∀ socket, socket.served → (f socket).served) : Tracked (s.change k f) := by
  refine ⟨fun j member => ?_,tracked.clientsToTerminate⟩
  obtain ⟨socket,found,served⟩ := tracked.clients j member
  rw [sockets_change]
  split
  next here =>
    subst here
    exact ⟨f socket,by rw [found]; rfl,keeps member socket served⟩
  next => exact ⟨socket,found,served⟩

private theorem addClient_answered (tracked : Tracked s) (k : Nat) (socket : Socket U)
    (found : s.sockets[k]? = some socket)
    (fresh : k ∉ s.clients) (given : socket.user.isSome) (running : socket.terminated = false) :
    socket.disconnected = false ↔ Tracked (s.addClient k) := by
  have now : s.addClient k = { s with clients := s.clients.add k }.change k (fun socket =>
      { socket with pongListener := true }) := by
    rw [addClient,if_neg fresh]
  rw [now]
  constructor
  · intro connected
    have more : Tracked { s with clients := s.clients.add k } := by
      refine ⟨fun j member => ?_,fun j owes =>
        (Distinct.mem_add _ _ _).mpr (Or.inl (tracked.clientsToTerminate j owes))⟩
      rcases (Distinct.mem_add s.clients k j).mp member with old | rfl
      · exact tracked.clients j old
      · exact ⟨socket,found,given,connected,running⟩
    exact more.change k _ (fun _ _ served => served)
  · intro kept
    obtain ⟨after,at_k,served⟩ := kept.clients k ((Distinct.mem_add _ _ _).mpr (Or.inr rfl))
    rw [sockets_change,if_pos rfl] at at_k
    obtain ⟨old,was,rfl⟩ := Option.map_eq_some_iff.mp at_k
    obtain rfl := Option.some.inj (was.symm.trans found)
    exact served.2.1

private theorem authenticate_answered (known : Known s) (tracked : Tracked s) (k : Nat) (err : Bool) (user : Option U)
    (socket : Socket U) (found : s.sockets[k]? = some socket) (waits : socket.waiting = true) :
    Answered s (.authenticated k err user) ↔ Tracked (s.authenticate k err user) := by
  obtain ⟨fresh,running⟩ := known.waiting k socket found waits
  have called : Tracked (s.change k (fun socket => { socket with waiting := false })) :=
    tracked.change k _ (fun member => absurd member fresh)
  cases err with
  | true => exact ⟨fun _ => called,fun _ => trivial⟩
  | false =>
    cases user with
    | none => exact ⟨fun _ => called,fun _ => trivial⟩
    | some user =>
      have given := called.change k (fun socket => { socket with user := some user }) (fun member =>
        absurd member fresh)
      have added := addClient_answered given k { socket with waiting := false, user := some user }
        (by rw [sockets_change,if_pos rfl,sockets_change,if_pos rfl,found]; rfl) fresh rfl running
      have asks : Answered s (.authenticated k false (some user)) ↔ socket.disconnected = false := by
        simp [Answered,found]
      exact asks.trans added

private theorem handleDisconnect_answered (tracked : Tracked s) (k : Nat) :
    k ∉ s.clientsToTerminate ↔ Tracked (s.handleDisconnect k) := by
  constructor
  · intro answered
    have fewer : Tracked { s with clients := s.clients.delete k } := by
      refine ⟨fun j member => tracked.clients j ((Distinct.mem_delete _ _ _).mp member).1,fun j owes => ?_⟩
      refine (Distinct.mem_delete _ _ _).mpr ⟨tracked.clientsToTerminate j owes,?_⟩
      rintro rfl
      exact answered owes
    refine fewer.change k _ (fun member => ?_)
    exact absurd rfl ((Distinct.mem_delete _ _ _).mp member).2
  · intro kept owes
    have member := kept.clientsToTerminate k owes
    exact ((Distinct.mem_delete _ _ _).mp member).2 rfl

private theorem checkClients_answered (tracked : Tracked s) :
    (∀ k ∈ s.clients.items, k ∉ s.clientsToTerminate) ↔ Tracked s.checkClients := by
  have done := checked s
  constructor
  · intro answered
    have nobody (k : Nat) : ¬ (k ∈ s.clients.items ∧ k ∈ s.clientsToTerminate) := fun both => answered k both.1 both.2
    refine ⟨fun k member => ?_,fun k owes => (done.clients k).mpr ⟨?_,nobody k⟩⟩
    · rw [done.sockets,if_neg (nobody k)]
      exact tracked.clients k ((done.clients k).mp member).1
    · rcases (done.clientsToTerminate k).mp owes with before | pinged
      · exact tracked.clientsToTerminate k before
      · exact pinged
  · intro kept k member owes
    have terminated := kept.clientsToTerminate k ((done.clientsToTerminate k).mpr (Or.inl owes))
    exact ((done.clients k).mp terminated).2 ⟨member,owes⟩

private theorem step_answered (s : WsAuthService U) (label : Label U) (t : WsAuthService U) (known : Known s)
    (tracked : Tracked s) (taken : step s label = some t) : Answered s label ↔ Tracked t := by
  cases step_taken taken with
  | connected =>
    refine ⟨fun _ => ⟨fun k member => ?_,tracked.clientsToTerminate⟩,fun _ => trivial⟩
    obtain ⟨socket,found,served⟩ := tracked.clients k member
    exact ⟨socket,by simpa [List.getElem?_append_left (known.clients k member)] using found,served⟩
  | called k err user socket found waits => exact authenticate_answered known tracked k err user socket found waits
  | disconnected k => exact handleDisconnect_answered tracked k
  | answered k =>
    refine ⟨fun _ => ⟨tracked.clients,fun j owes => ?_⟩,fun _ => trivial⟩
    exact tracked.clientsToTerminate j ((Distinct.mem_delete _ _ _).mp owes).1
  | unheard k => exact ⟨fun _ => tracked,fun _ => trivial⟩
  | checked => exact checkClients_answered tracked
  | sent => exact ⟨fun _ => tracked,fun _ => trivial⟩

/-- Broadcasting goes to connected, authenticated sockets. -/
theorem Tracked.broadcast (tracked : Tracked s) (k : Nat) (sent : k ∈ s.broadcast) :
    ∃ socket, s.sockets[k]? = some socket ∧ socket.served := tracked.clients k sent

/-- The sets are right in every state of a run just when, in each of its steps, nobody who is gone is
authenticated and no client with a ping to answer disconnects or is checked again. -/
theorem clients_tracked_iff (labels : List (Label U)) :
    Always step Tracked {} labels ↔ Meets step Answered {} labels := by
  refine always_iff_meets Known Tracked Answered known_step step_answered {} labels ?_ ?_
  · exact ⟨fun k member => absurd member (Distinct.mem_empty k),fun k socket found => by cases found⟩
  · exact ⟨fun k member => absurd member (Distinct.mem_empty k),fun k member => absurd member (Distinct.mem_empty k)⟩

/-- A user authenticated after the disconnect is a client for good; a client that disconnects, or is
terminated, before its pong stays among those to terminate. -/
theorem late_user_retained :
    (∃ s, run step ({} : WsAuthService String)
      [.handleConnection,.handleDisconnect 0,.authenticated 0 false (some "user-1")] =
      some s ∧ 0 ∈ s.broadcast ∧ ¬ Tracked s) ∧
    (∃ s, run step ({} : WsAuthService String) [.handleConnection,.authenticated 0 false (some "user-1"),.checkClients,
      .handleDisconnect 0] = some s ∧ ¬ Tracked s) ∧
    ∃ s, run step ({} : WsAuthService String) [.handleConnection,.authenticated 0 false (some "user-1"),.checkClients,
      .checkClients] = some s ∧ ¬ Tracked s := by
  refine ⟨⟨_,rfl,by decide,fun tracked => ?_⟩,⟨_,rfl,fun tracked => ?_⟩,⟨_,rfl,fun tracked => ?_⟩⟩
  · obtain ⟨socket,found,served⟩ := tracked.clients 0 (by decide)
    obtain rfl := Option.some.inj found
    cases served.2.1
  · exact absurd (tracked.clientsToTerminate 0 (by decide)) (by decide)
  · exact absurd (tracked.clientsToTerminate 0 (by decide)) (by decide)

end BoarPack.WsAuth
