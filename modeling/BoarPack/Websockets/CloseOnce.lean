import BoarPack.Library.Outbox
import BoarPack.Websockets.CloseFinal
import Mathlib.Algebra.Order.Group.Multiset

/-! `config.onClose` is called before the registry entry of the socket is deleted: what its own calls of
`close` find. -/
namespace BoarPack.Websockets
open Transition Outbox WebsocketsClients

/-- A socket that has closed, an entry of the registry, a callback that runs: by their sockets. -/
structure Lifecycle where
  sockets : Nat
  closed : Nat → Bool
  registered : List Nat
  running : List Nat

def WebsocketsClients.isClosed (s : WebsocketsClients) (k : Nat) : Bool :=
  (s.sockets[k]?).any (fun socket => socket.readyState = .closed)

def lifecycle (s : WebsocketsClients) : Lifecycle :=
  ⟨s.sockets.length,s.isClosed,s.clients.map Prod.fst,s.running.map OnClose.ws⟩

/-- The sockets for which `config.onClose` is called in a step. -/
def invokes (s : WebsocketsClients) : Label → Multiset Nat
  | .closed k => {k}
  | .call (.close k) => if s.isClosed k = true ∧ k ∈ s.clients.map Prod.fst then {k} else 0
  | _ => 0

/-- `removed`: an entry of a closed socket is left only as long as its callback runs. -/
structure ClosedOnce (v : Lifecycle) (invoked : Multiset Nat) : Prop where
  once : ∀ k, invoked.count k = if v.closed k then 1 else 0
  removed : ∀ k ∈ v.registered, v.closed k = true → k ∈ v.running
  single : v.running.length ≤ 1

/-- No callback closes its own socket, and none throws. -/
def NoReentry (v : Lifecycle) : Label → Prop
  | .call (.close k) => k ∉ v.running
  | .threw => False
  | _ => True

/-- Neither a call of `close` nor the error of a callback. -/
def Quiet : Label → Prop
  | .call (.close _) | .threw => False
  | _ => True

/-- What a step does to the lifecycle, and which callbacks it calls. -/
inductive Turn (v : Lifecycle) : Label → Multiset Nat → Lifecycle → Prop
  | same (label : Label) (quiet : Quiet label) : Turn v label 0 v
  | connected (label : Label) (quiet : Quiet label) (fresh : v.closed v.sockets = false) :
    Turn v label 0 { v with sockets := v.sockets + 1, registered := v.registered ++ [v.sockets] }
  | closed (k : Nat) (inside : k < v.sockets) (alive : v.closed k = false) (idle : v.running = []) :
    Turn v (.closed k) {k} { v with closed := Function.update v.closed k true, running := [k] }
  | again (k : Nat) (ended : v.closed k = true) (held : k ∈ v.registered) :
    Turn v (.call (.close k)) {k} { v with running := k :: v.running }
  | ignored (k : Nat) (forgotten : v.closed k = true → k ∉ v.registered) : Turn v (.call (.close k)) 0 v
  | returned (k : Nat) (rest : List Nat) (runs : v.running = k :: rest) :
    Turn v .returned 0 { v with registered := v.registered.filter (fun j => j ≠ k), running := rest }
  | threw (k : Nat) (rest : List Nat) (runs : v.running = k :: rest) : Turn v .threw 0 { v with running := rest }

/-- What holds however the callbacks behave. -/
structure Lived (v : Lifecycle) (invoked : Multiset Nat) : Prop where
  registered : ∀ k < v.sockets, v.closed k = false → k ∈ v.registered
  closed : ∀ k ∈ v.running, v.closed k = true
  framed : ∀ k, v.running.count k ≤ invoked.count k
  held : ∀ k ∈ v.running, invoked.count k = 1 → k ∈ v.registered

variable {v w : Lifecycle} {label : Label} {called invoked : Multiset Nat}

theorem Lived.framed_rest (lived : Lived v invoked) {k : Nat} {rest : List Nat}
    (runs : v.running = k :: rest) (j : Nat) :
    rest.count j ≤ invoked.count j := by
  have framed := lived.framed j
  rw [runs] at framed
  exact le_trans List.count_le_count_cons framed

private theorem lived_turn (lived : Lived v invoked) (turn : Turn v label called w) : Lived w (invoked + called) := by
  cases turn with
  | same => simpa using lived
  | connected _ quiet fresh =>
    rw [add_zero]
    refine ⟨fun k below alive => ?_,lived.closed,lived.framed,fun k runs once => ?_⟩
    · rcases Nat.lt_succ_iff_lt_or_eq.mp below with earlier | rfl
      · exact List.mem_append_left _ (lived.registered k earlier alive)
      · exact List.mem_append_right _ List.mem_cons_self
    · exact List.mem_append_left _ (lived.held k runs once)
  | closed k inside alive idle =>
    have entry := lived.registered k inside alive
    refine ⟨fun j below open_j => ?_,fun j runs => ?_,fun j => ?_,fun j runs _ => ?_⟩
    · apply lived.registered j below
      by_cases same : j = k
      · simp [same] at open_j
      · simpa [same] using open_j
    · obtain rfl := List.mem_singleton.mp runs
      simp
    · rw [Multiset.count_add,List.count_singleton,Multiset.count_singleton]
      by_cases same : j = k
      · simp [same]
      · simp [Ne.symm same]
    · obtain rfl := List.mem_singleton.mp runs
      exact entry
  | again k ended held =>
    refine ⟨lived.registered,List.forall_mem_cons.mpr ⟨ended,lived.closed⟩,fun j => ?_,fun j runs once => ?_⟩
    · have framed := lived.framed j
      rw [Multiset.count_add,List.count_cons,Multiset.count_singleton]
      by_cases same : j = k
      · simp only [same,beq_self_eq_true,if_true] at framed ⊢
        omega
      · simp only [beq_eq_false_iff_ne.mpr (Ne.symm same),same,Bool.false_eq_true,if_false]
        omega
    · rw [Multiset.count_add,Multiset.count_singleton] at once
      by_cases same : j = k
      · exact same ▸ held
      · have before := (List.mem_cons.mp runs).resolve_left same
        exact lived.held j before (by simpa [same] using once)
  | ignored => simpa using lived
  | returned k rest runs =>
    rw [add_zero]
    refine ⟨fun j below alive => ?_,fun j member => ?_,fun j => ?_,fun j member once => ?_⟩
    · have open_j : j ≠ k := by
        rintro rfl
        rw [lived.closed j (runs ▸ List.mem_cons_self)] at alive
        cases alive
      exact List.mem_filter.mpr ⟨lived.registered j below alive,by simpa using open_j⟩
    · exact lived.closed j (runs ▸ List.mem_cons_of_mem k member)
    · exact lived.framed_rest runs j
    · -- a callback that was called once has no second frame
      have other : j ≠ k := by
        rintro rfl
        have framed := lived.framed j
        have inside : 0 < rest.count j := List.count_pos_iff.mpr member
        rw [runs,List.count_cons_self,once] at framed
        omega
      have entry := lived.held j (runs ▸ List.mem_cons_of_mem k member) once
      exact List.mem_filter.mpr ⟨entry,by simpa using other⟩
  | threw k rest runs =>
    rw [add_zero]
    refine ⟨lived.registered,fun j member => ?_,fun j => ?_,fun j member once => ?_⟩
    · exact lived.closed j (runs ▸ List.mem_cons_of_mem k member)
    · exact lived.framed_rest runs j
    · exact lived.held j (runs ▸ List.mem_cons_of_mem k member) once

private theorem noReentry_of_quiet (quiet : Quiet label) : NoReentry v label := by
  cases label with
  | call call =>
    cases call with
    | close => cases quiet
    | connect => trivial
    | reconnect => trivial
  | threw => cases quiet
  | _ => trivial

theorem ClosedOnce.alone (closedOnce : ClosedOnce v invoked) {k : Nat} {rest : List Nat}
    (runs : v.running = k :: rest) :
    rest = [] := by
  have single := closedOnce.single
  rw [runs,List.length_cons] at single
  exact List.eq_nil_of_length_eq_zero (by omega)

/-- A callback that runs was called once. -/
theorem ClosedOnce.called_once (closedOnce : ClosedOnce v invoked) (lived : Lived v invoked) {k : Nat}
    (runs : k ∈ v.running) :
    invoked.count k = 1 := by
  have once := closedOnce.once k
  rw [lived.closed k runs] at once
  exact once

private theorem once_turn (lived : Lived v invoked) (closedOnce : ClosedOnce v invoked) (turn : Turn v label called w) :
    NoReentry v label ↔ ClosedOnce w (invoked + called) := by
  cases turn with
  | same _ quiet =>
    rw [add_zero]
    exact iff_of_true (noReentry_of_quiet quiet) closedOnce
  | connected _ quiet fresh =>
    rw [add_zero]
    refine iff_of_true (noReentry_of_quiet quiet) ⟨closedOnce.once,fun k entry ended => ?_,closedOnce.single⟩
    rcases List.mem_append.mp entry with old | new
    · exact closedOnce.removed k old ended
    · rw [List.mem_singleton.mp new,fresh] at ended
      cases ended
  | closed k inside alive idle =>
    refine iff_of_true trivial ⟨fun j => ?_,fun j entry ended => ?_,Nat.le_refl 1⟩
    · have once := closedOnce.once j
      rw [Multiset.count_add,Multiset.count_singleton,once]
      by_cases same : j = k
      · simp [same,alive]
      · simp [same]
    · by_cases same : j = k
      · exact same ▸ List.mem_cons_self
      · have before := closedOnce.removed j entry (by simpa [same] using ended)
        rw [idle] at before
        cases before
  | again k ended held =>
    -- the entry of a closed socket is left, so its callback runs
    have runs := closedOnce.removed k held ended
    refine iff_of_false (fun apart => apart runs) (fun twice => ?_)
    have once := twice.once k
    rw [Multiset.count_add,Multiset.count_singleton_self,closedOnce.once k,ended] at once
    cases once
  | ignored k forgotten =>
    rw [add_zero]
    refine iff_of_true (fun runs => ?_) closedOnce
    exact forgotten (lived.closed k runs) (lived.held k runs (closedOnce.called_once lived runs))
  | returned k rest runs =>
    have alone := closedOnce.alone runs
    rw [add_zero]
    refine iff_of_true trivial ⟨closedOnce.once,fun j entry ended => ?_,by simp [alone]⟩
    obtain ⟨before,other⟩ := List.mem_filter.mp entry
    have running := closedOnce.removed j before ended
    rw [runs,alone,List.mem_singleton] at running
    simp [running] at other
  | threw k rest runs =>
    have alone := closedOnce.alone runs
    rw [add_zero]
    refine iff_of_false id (fun after => ?_)
    have member : k ∈ v.running := runs ▸ List.mem_cons_self
    have entry := lived.held k member (closedOnce.called_once lived member)
    have left := after.removed k entry (lived.closed k member)
    rw [alone] at left
    cases left

section Steps

variable {s t : WebsocketsClients}

private theorem isClosed_change (s : WebsocketsClients) (k : Nat) (f : Socket → Socket)
    (same : ∀ socket, s.sockets[k]? = some socket → ((f socket).readyState = .closed ↔ socket.readyState = .closed)) :
    (s.change k f).isClosed = s.isClosed := by
  funext j
  unfold WebsocketsClients.isClosed change
  rw [Containers.getElem?_modify_if]
  split
  next here =>
    subst here
    cases found : s.sockets[k]? with
    | none => rfl
    | some socket => simp [same socket found]
  next => rfl

private theorem lifecycle_change (s : WebsocketsClients) (k : Nat) (f : Socket → Socket)
    (same : ∀ socket, s.sockets[k]? = some socket → ((f socket).readyState = .closed ↔ socket.readyState = .closed)) :
    lifecycle (s.change k f) = lifecycle s := by
  unfold lifecycle
  rw [isClosed_change s k f same]
  simp [change]

private theorem close_readyState (socket : Socket) :
    socket.close.readyState = .closed ↔ socket.readyState = .closed := by
  obtain ⟨config,readyState,closings⟩ := socket
  cases readyState <;> simp [Socket.close]

private theorem lifecycle_close (s : WebsocketsClients) (k : Nat) : lifecycle (s.change k Socket.close) = lifecycle s :=
  lifecycle_change s k Socket.close (fun socket _ => close_readyState socket)

private theorem isClosed_found {k : Nat} {socket : Socket} (found : s.sockets[k]? = some socket) :
    s.isClosed k = decide (socket.readyState = .closed) := by
  simp [WebsocketsClients.isClosed,found]

private theorem turn_connect (s : WebsocketsClients) (config : Nat) (label : Label) (quiet : Quiet label) :
    Turn (lifecycle s) label 0 (lifecycle (s.connect config)) := by
  have fresh : (lifecycle s).closed (lifecycle s).sockets = false := by simp [lifecycle,WebsocketsClients.isClosed]
  have added : lifecycle (s.connect config) =
      { lifecycle s with
        sockets := s.sockets.length + 1
        registered := s.clients.map Prod.fst ++ [s.sockets.length] } := by
    have same : (s.connect config).isClosed = s.isClosed := by
      funext k
      unfold WebsocketsClients.isClosed connect
      rw [List.getElem?_append]
      split
      · rfl
      next outside =>
        rw [List.getElem?_eq_none_iff.mpr (Nat.le_of_not_lt outside)]
        cases k - s.sockets.length <;> simp
    unfold lifecycle
    rw [same]
    simp [connect]
  rw [added]
  exact .connected label quiet fresh

private theorem lifecycle_finish (s : WebsocketsClients) (onClose : OnClose) :
    lifecycle (s.finish onClose) =
      { lifecycle s with registered := (s.clients.map Prod.fst).filter (fun k => k ≠ onClose.ws) } := by
  have same : (s.finish onClose).isClosed = s.isClosed := rfl
  unfold lifecycle
  rw [same,List.filter_map]
  rfl

private theorem turn_close {client : Nat} {socket : Socket} (found : s.sockets[client]? = some socket) :
    Turn (lifecycle s) (.call (.close client)) (invokes s (.call (.close client)))
      (lifecycle (s.close client socket)) := by
  have state := isClosed_found found
  rw [close_uncancelled]
  split
  next ended =>
    have closed : s.isClosed client = true := by simp [state,ended]
    cases entry : Containers.get s.clients client with
    | none =>
      have absent := (Containers.get_none_iff s.clients client).mp entry
      have untouched : lifecycle (s.finish ⟨client,[s.armed socket.config]⟩) = lifecycle s := by
        rw [lifecycle_finish]
        have kept : (s.clients.map Prod.fst).filter (fun k => k ≠ client) = s.clients.map Prod.fst := by
          apply List.filter_eq_self.mpr
          intro k member
          simpa using fun same : k = client => absent (same ▸ member)
        rw [kept]
        rfl
      have quiet : invokes s (.call (.close client)) = 0 := if_neg (fun both => absent both.2)
      rw [quiet]
      simp only [WebsocketsClients.onClose]
      rw [untouched]
      exact .ignored client (fun _ => absent)
    | some config =>
      have held : client ∈ s.clients.map Prod.fst := by
        by_contra absent
        rw [(Containers.get_none_iff s.clients client).mpr absent] at entry
        cases entry
      have called : invokes s (.call (.close client)) = {client} := if_pos ⟨closed,held⟩
      rw [called]
      exact .again client closed held
  next alive =>
    have opened : ¬ s.isClosed client = true := by simp [state,alive]
    have quiet : invokes s (.call (.close client)) = 0 := if_neg (fun both => opened both.1)
    rw [quiet,lifecycle_change]
    · exact .ignored client (fun ended => absurd ended opened)
    · intro socket _
      exact close_readyState { socket with closings := _ }

/-- What a close event leaves: the socket is closed and its callback runs. -/
private theorem lifecycle_closed (idle : s.running = []) {k : Nat} (inside : s.sockets[k]?.isSome)
    (config : Nat) (closings : List Closing) :
    lifecycle ((s.change k (fun socket => { socket with readyState := .closed, closings := [] })).onClose k
      (some config) closings) = { lifecycle s with closed := Function.update s.isClosed k true, running := [k] } := by
  obtain ⟨socket,found⟩ := Option.isSome_iff_exists.mp inside
  have closed : ((s.change k (fun socket => { socket with readyState := .closed, closings := [] })).onClose k
      (some config) closings).isClosed = Function.update s.isClosed k true := by
    funext j
    change ((s.sockets.modify k _)[j]?).any _ = _
    rw [Containers.getElem?_modify_if]
    by_cases here : j = k
    · simp [here,found]
    · simp [here,Ne.symm here,WebsocketsClients.isClosed]
  unfold lifecycle
  rw [closed]
  simp [WebsocketsClients.onClose,change,idle]

private theorem turn_message (k : Nat) (income : Income) (socket : Socket) :
    Turn (lifecycle s) (.message k income) 0 (lifecycle (s.onMessage k socket income)) := by
  cases income with
  | invalidJson =>
    simp only [WebsocketsClients.onMessage]
    split
    · exact .same _ trivial
    · rw [lifecycle_close]
      exact .same _ trivial
  | error =>
    simp only [WebsocketsClients.onMessage]
    rw [lifecycle_close]
    exact .same _ trivial
  | event => exact .same _ trivial

private theorem turn_dispatch (label : Label) (idle : s.running = []) (taken : dispatch s label = some t) :
    Turn (lifecycle s) label (invokes s label) (lifecycle t) := by
  cases label with
  | call call => cases taken
  | returned => cases taken
  | threw => cases taken
  | opened k =>
    simp only [dispatch] at taken
    split at taken
    next config closings found =>
      obtain rfl := Option.some.inj taken
      rw [lifecycle_change]
      · exact .same _ trivial
      · intro socket was
        obtain rfl := Option.some.inj (found.symm.trans was)
        simp
    next => cases taken
  | openFailed k =>
    simp only [dispatch] at taken
    split at taken
    next => cases taken
    next => cases taken
    next =>
      obtain rfl := Option.some.inj taken
      rw [lifecycle_close]
      exact .same _ trivial
  | error k =>
    simp only [dispatch] at taken
    split at taken
    next => cases taken
    next => cases taken
    next =>
      obtain rfl := Option.some.inj taken
      rw [lifecycle_close]
      exact .same _ trivial
  | message k income =>
    simp only [dispatch] at taken
    split at taken
    next =>
      obtain rfl := Option.some.inj taken
      exact turn_message _ _ _
    next => cases taken
  | closed k =>
    simp only [dispatch] at taken
    split at taken
    next => cases taken
    next => cases taken
    next config readyState closings alive found =>
      obtain rfl := Option.some.inj taken
      have inside := (List.getElem?_eq_some_iff.mp found).1
      have open_k : s.isClosed k = false := by
        rw [isClosed_found found]
        exact decide_eq_false alive
      rw [lifecycle_closed idle (by rw [found]; rfl) config closings]
      exact .closed k inside open_k (by simp [lifecycle,idle])
  | timer id =>
    obtain ⟨timer,_,rfl⟩ := Option.map_eq_some_iff.mp taken
    exact turn_connect _ timer.2 _ trivial

private theorem step_turn (label : Label) (taken : step s label = some t) :
    Turn (lifecycle s) label (invokes s label) (lifecycle t) := by
  unfold step at taken
  split at taken
  next call =>
    cases call with
    | connect config =>
      simp only [WebsocketsClients.perform,Option.ite_none_right_eq_some,Option.some.injEq] at taken
      obtain ⟨_,rfl⟩ := taken
      exact turn_connect s config _ trivial
    | reconnect client =>
      simp only [WebsocketsClients.perform,Option.ite_none_right_eq_some,Option.some.injEq] at taken
      obtain ⟨_,rfl⟩ := taken
      unfold WebsocketsClients.reconnect
      split
      · exact .same _ trivial
      · exact .same _ trivial
    | close client =>
      obtain ⟨socket,found,rfl⟩ := Option.map_eq_some_iff.mp taken
      exact turn_close found
  next =>
    split at taken
    next onClose rest running =>
      obtain rfl := Option.some.inj taken
      rw [lifecycle_finish]
      exact .returned onClose.ws (rest.map OnClose.ws) (by simp [lifecycle,running])
    next => cases taken
  next =>
    split at taken
    next onClose rest running =>
      obtain rfl := Option.some.inj taken
      exact .threw onClose.ws (rest.map OnClose.ws) (by simp [lifecycle,running])
    next => cases taken
  next =>
    split at taken
    next idle => exact turn_dispatch _ idle taken
    next => cases taken

end Steps

/-- In every run, `config.onClose` is called once for each socket that has closed, and never within itself, and
the entry of the socket is gone after it: if and only if no callback closes its own socket or throws. -/
theorem onClose_once_iff (configs : List TBaseConfig) (labels : List Label) :
    Always (recorded step invokes) (fun s => ClosedOnce (lifecycle s.1) s.2) (initial configs,0) labels ↔
      Meets (recorded step invokes) (fun s label => NoReentry (lifecycle s.1) label) (initial configs,0) labels := by
  apply always_iff_meets (fun s => Lived (lifecycle s.1) s.2)
  · intro s label t lived taken
    obtain ⟨next,moved,rfl⟩ := Option.map_eq_some_iff.mp taken
    exact lived_turn lived (step_turn label moved)
  · intro s label t lived closedOnce taken
    obtain ⟨next,moved,rfl⟩ := Option.map_eq_some_iff.mp taken
    exact once_turn lived closedOnce (step_turn label moved)
  · exact ⟨by simp [lifecycle,initial],by simp [lifecycle,initial],by simp [lifecycle,initial],
      by simp [lifecycle,initial]⟩
  · exact ⟨by simp [lifecycle,initial,WebsocketsClients.isClosed],by simp [lifecycle,initial],
      by simp [lifecycle,initial]⟩

def closedByItself : List Label := [.call (.connect 0),.opened 0,.closed 0,.call (.close 0)]

/-- A callback that closes its own socket is called again. -/
theorem reentrant_close_twice : ¬ Always (recorded step invokes) (fun s => ClosedOnce (lifecycle s.1) s.2)
    (initial [⟨none,false⟩],0) closedByItself := by
  intro always
  have after := ((((always.2 _ rfl).2 _ rfl).2 _ rfl).2 _ rfl).head
  have once := after.once 0
  revert once
  decide

end BoarPack.Websockets
