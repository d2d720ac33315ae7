import BoarPack.Library.Precedence
import BoarPack.WsAuth.Tracking

/-! Whom `checkClients` terminates. One socket at a time: whether it is a client, whether it owes a pong,
and what the events and the ticks make of it. -/
namespace BoarPack.WsAuth
open Containers Transition WsAuthService

variable {U : Type}

/-- The sockets that the loop of `checkClients` terminates. -/
def terminatedBy (s : WsAuthService U) : List Nat → List Nat
  | [] => []
  | client :: rest => (if client ∈ s.clientsToTerminate then [client] else []) ++ terminatedBy (s.check client) rest

def terminations (s : WsAuthService U) : List Nat := terminatedBy s s.clients.items

/-- All calls of `terminate` in a run. -/
def terminated (s : WsAuthService U) : List (Label U) → List Nat
  | [] => []
  | label :: rest =>
    match step s label with
    | none => []
    | some t =>
      match label with
      | .checkClients => terminations s ++ terminated t rest
      | _ => terminated t rest

structure Standing where
  called : Bool
  client : Bool
  owes : Bool
  listening : Bool
  deriving DecidableEq, Repr

def standing (s : WsAuthService U) (k : Nat) : Standing :=
  ⟨(s.sockets[k]?).any (fun socket => !socket.waiting),decide (k ∈ s.clients),decide (k ∈ s.clientsToTerminate),
    (s.sockets[k]?).any Socket.pongListener⟩

/-- What a step makes of a socket. -/
inductive Moves (k : Nat) (v : Standing) : Label U → Standing → Prop
  | stays (label : Label U) (tick : label ≠ .checkClients) (pong : label ≠ .pong k) : Moves k v label v
  | refused (err : Bool) (user : Option U) : Moves k v (.authenticated k err user) { v with called := true }
  | accepted (user : U) (waits : v.called = false) :
    Moves k v (.authenticated k false (some user)) { v with called := true, client := true, listening := true }
  | left : Moves k v (.handleDisconnect k) { v with client := false }
  | answered : Moves k v (.pong k) { v with owes := false }
  | unheard (deaf : v.listening = false) : Moves k v (.pong k) v
  | checked : Moves k v .checkClients { v with client := v.client && !v.owes, owes := v.owes || v.client }

/-- A socket whose callback has not fired is in neither set, and a client is listened to. -/
structure Regular (v : Standing) : Prop where
  waiting : v.called = false → v.client = false ∧ v.owes = false
  listening : v.client = true → v.listening = true

/-- What is so after a tick that found the socket at `before`, and a pong of it or none. -/
structure SinceTick (before : Standing) (pong : Prop) (v : Standing) : Prop where
  owes : v.client = true → (v.owes = true ↔ before.client = true ∧ ¬ pong)
  heard : before.client = true → v.called = true ∧ v.listening = true

private theorem terminatedBy_eq (s : WsAuthService U) (list : List Nat) (own : list.Nodup) :
    terminatedBy s list = list.filter (fun k => k ∈ s.clientsToTerminate) := by
  induction list generalizing s with
  | nil => rfl
  | cons client rest ih =>
    obtain ⟨absent,own⟩ := List.nodup_cons.mp own
    have same : rest.filter (fun k => k ∈ (s.check client).clientsToTerminate) =
        rest.filter (fun k => k ∈ s.clientsToTerminate) := by
      apply List.filter_congr
      intro k member
      have other : k ≠ client := fun here => absent (here ▸ member)
      simp [(checked_one s client).clientsToTerminate,other]
    rw [terminatedBy,ih (s.check client) own,same,List.filter_cons]
    split <;> simp_all

private theorem mem_terminations (s : WsAuthService U) (k : Nat) :
    k ∈ terminations s ↔ (standing s k).client = true ∧ (standing s k).owes = true := by
  rw [terminations,terminatedBy_eq s s.clients.items s.clients.own,List.mem_filter]
  simp [standing]

private theorem terminations_nodup (s : WsAuthService U) : (terminations s).Nodup := by
  rw [terminations,terminatedBy_eq s s.clients.items s.clients.own]
  exact s.clients.own.filter _

section Moves

variable {s t : WsAuthService U} {label : Label U}

private theorem standing_eq {k : Nat} {v : Standing}
    (called : (t.sockets[k]?).any (fun socket => !socket.waiting) = v.called)
    (client : k ∈ t.clients ↔ v.client = true) (owes : k ∈ t.clientsToTerminate ↔ v.owes = true)
    (listening : (t.sockets[k]?).any Socket.pongListener = v.listening) : standing t k = v := by
  obtain ⟨c,d,o,l⟩ := v
  unfold standing
  rw [called,listening]
  simp only [client,owes,Bool.decide_eq_true]

/-- What only touches other sockets leaves this one as it is. -/
theorem standing_same {k : Nat} (socket : t.sockets[k]? = s.sockets[k]?) (client : k ∈ t.clients ↔ k ∈ s.clients)
    (owes : k ∈ t.clientsToTerminate ↔ k ∈ s.clientsToTerminate) : standing t k = standing s k := by
  apply standing_eq
  · rw [socket]
    rfl
  · simpa [standing] using client
  · simpa [standing] using owes
  · rw [socket]
    rfl

private theorem change_standing (k : Nat) (f : Socket U → Socket U) (socket : Socket U)
    (found : s.sockets[k]? = some socket) :
    standing (s.change k f) k =
      { standing s k with called := !(f socket).waiting, listening := (f socket).pongListener } := by
  have changed : (s.change k f).sockets[k]? = some (f socket) := by
    rw [sockets_change,if_pos rfl,found,Option.map_some]
  apply standing_eq
  · rw [changed]
    exact Option.any_some
  · exact decide_eq_true_iff.symm
  · exact decide_eq_true_iff.symm
  · rw [changed]
    exact Option.any_some

private theorem addClient_standing (k : Nat) (fresh : k ∉ s.clients) (socket : Socket U)
    (found : s.sockets[k]? = some socket) :
    standing (s.addClient k) k = { standing s k with client := true, listening := true } := by
  have added : s.addClient k = { s with clients := s.clients.add k }.change k (fun socket =>
      { socket with pongListener := true }) := by
    rw [addClient,if_neg fresh]
  rw [added,change_standing (s := { s with clients := s.clients.add k }) k _ socket found]
  simp [standing,found]

private theorem authenticate_moves (known : Known s) (k : Nat) (err : Bool) (user : Option U) (socket : Socket U)
    (found : s.sockets[k]? = some socket) (waits : socket.waiting = true) :
    Moves k (standing s k) (.authenticated k err user) (standing (s.authenticate k err user) k) := by
  obtain ⟨fresh,_⟩ := known.waiting k socket found waits
  have called : standing (s.change k (fun socket => { socket with waiting := false })) k = { standing s k with
      called := true } := by
    rw [change_standing k _ socket found]
    simp [standing,found]
  cases err with
  | true =>
    have refused := Moves.refused (k := k) (v := standing s k) true user
    rw [← called] at refused
    exact refused
  | false =>
    cases user with
    | none =>
      have refused := Moves.refused (k := k) (v := standing s k) false (none : Option U)
      rw [← called] at refused
      exact refused
    | some user =>
      have given : standing ((s.change k (fun socket => { socket with waiting := false })).change k
          (fun socket => { socket with user := some user })) k = { standing s k with called := true } := by
        rw [change_standing k _ { socket with
          waiting := false } (by rw [sockets_change,if_pos rfl,found,Option.map_some]),called]
        simp [standing,found]
      have added := addClient_standing (s := (s.change k (fun socket => { socket with waiting := false })).change k
        (fun socket => { socket with user := some user })) k fresh _ (by
          rw [sockets_change,if_pos rfl,sockets_change,if_pos rfl,found]
          rfl)
      rw [given] at added
      have waiting : (standing s k).called = false := by simp [standing,found,waits]
      have accepted := Moves.accepted (k := k) user waiting
      rw [← added] at accepted
      exact accepted

/-- A socket that is not there yet and one that just came look the same. -/
theorem any_append_new (p : Socket U → Bool) (new : p {} = false) (sockets : List (Socket U)) (k : Nat) :
    ((sockets ++ [({} : Socket U)])[k]?).any p = (sockets[k]?).any p := by
  by_cases old : k < sockets.length
  · rw [List.getElem?_append_left old]
  · rw [List.getElem?_append_right (Nat.le_of_not_lt old),List.getElem?_eq_none_iff.mpr (Nat.le_of_not_lt old)]
    cases k - sockets.length <;> simp [new]

private theorem connected_standing (k : Nat) :
    standing { s with sockets := s.sockets ++ [({} : Socket U)] } k = standing s k := by
  apply standing_eq
  · exact any_append_new _ rfl s.sockets k
  · exact decide_eq_true_iff.symm
  · exact decide_eq_true_iff.symm
  · exact any_append_new _ rfl s.sockets k

private theorem disconnected_standing (k : Nat) :
    standing (s.handleDisconnect k) k = { standing s k with client := false } := by
  apply standing_eq
  · rw [handleDisconnect,sockets_change,if_pos rfl]
    simp [standing,Option.any_map]
  · simp [handleDisconnect,change]
  · exact decide_eq_true_iff.symm
  · rw [handleDisconnect,sockets_change,if_pos rfl]
    simp [standing,Option.any_map]

private theorem checked_standing (k : Nat) : standing s.checkClients k =
    { standing s k with
      client := (standing s k).client && !(standing s k).owes, owes :=
        (standing s k).owes || (standing s k).client } := by
  have done := checked s
  apply standing_eq
  · rw [done.sockets]
    split
    · simp [standing,Option.any_map]
    · rfl
  · rw [done.clients]
    simp only [standing,Distinct.mem_items,Bool.and_eq_true,Bool.not_eq_true',decide_eq_true_eq,decide_eq_false_iff_not]
    exact ⟨fun both => ⟨both.1,fun owes => both.2 ⟨both.1,owes⟩⟩,fun both => ⟨both.1,fun owes => both.2 owes.2⟩⟩
  · rw [done.clientsToTerminate]
    simp [standing]
  · rw [done.sockets]
    split
    · simp [standing,Option.any_map]
    · rfl

/-- The operations on another socket leave this one as it is. -/
theorem authenticate_other {j k : Nat} (other : k ≠ j) (err : Bool) (user : Option U) :
    standing (s.authenticate j err user) k = standing s k := by
  have apart : ¬ j = k := fun same => other same.symm
  unfold authenticate
  cases err with
  | true =>
    apply standing_same
    · rw [if_pos rfl,sockets_change,if_neg apart]
    · exact Iff.rfl
    · exact Iff.rfl
  | false =>
    cases user with
    | none =>
      apply standing_same
      · simp [sockets_change,apart]
      · exact Iff.rfl
      · exact Iff.rfl
    | some user =>
      simp only [Bool.false_eq_true,if_false]
      unfold addClient
      split
      · apply standing_same
        · simp [sockets_change,apart]
        · exact Iff.rfl
        · exact Iff.rfl
      · apply standing_same
        · simp [sockets_change,apart]
        · simp [change,other]
        · exact Iff.rfl

private theorem step_moves (known : Known s) (k : Nat) (taken : step s label = some t) :
    Moves k (standing s k) label (standing t k) := by
  cases label with
  | handleConnection =>
    obtain rfl := Option.some.inj taken
    rw [connected_standing]
    exact .stays _ (by simp) (by simp)
  | authenticated j err user =>
    simp only [step,Option.ite_none_right_eq_some,Option.some.injEq] at taken
    obtain ⟨waiting,rfl⟩ := taken
    obtain ⟨socket,found,waits⟩ := (Option.any_eq_true _ _).mp waiting
    by_cases here : k = j
    · subst here
      exact authenticate_moves known k err user socket found waits
    · rw [authenticate_other here]
      exact .stays _ (by simp) (by simp)
  | handleDisconnect j =>
    simp only [step,Option.ite_none_right_eq_some,Option.some.injEq] at taken
    obtain ⟨_,rfl⟩ := taken
    by_cases here : k = j
    · subst here
      rw [disconnected_standing]
      exact .left
    · rw [standing_same]
      · exact .stays _ (by simp) (by simp)
      · rw [handleDisconnect,sockets_change,if_neg (Ne.symm here)]
      · simp [handleDisconnect,change,here]
      · exact Iff.rfl
  | pong j =>
    simp only [step] at taken
    split at taken
    next => cases taken
    next socket found =>
      split at taken
      next => cases taken
      next =>
        by_cases here : k = j
        · subst here
          split at taken
          next =>
            obtain rfl := Option.some.inj taken
            have quiet : standing { s with clientsToTerminate := s.clientsToTerminate.delete k } k =
                { standing s k with owes := false } := by
              apply standing_eq
              · rfl
              · exact decide_eq_true_iff.symm
              · simp
              · rfl
            rw [quiet]
            exact .answered
          next deaf =>
            obtain rfl := Option.some.inj taken
            apply Moves.unheard
            simp [standing,found,deaf]
        · have same : standing t k = standing s k := by
            split at taken
            next =>
              obtain rfl := Option.some.inj taken
              apply standing_same
              · rfl
              · exact Iff.rfl
              · simp [here]
            next =>
              obtain rfl := Option.some.inj taken
              rfl
          rw [same]
          exact .stays _ (by simp) (by simpa using Ne.symm here)
  | checkClients =>
    obtain rfl := Option.some.inj taken
    rw [checked_standing]
    exact .checked
  | broadcast =>
    obtain rfl := Option.some.inj taken
    exact .stays _ (by simp) (by simp)

end Moves

section Standing

variable {k : Nat} {v w before : Standing} {label : Label U} {pong : Prop}

private theorem regular_moves (regular : Regular v) (moves : Moves k v label w) : Regular w := by
  cases moves with
  | stays => exact regular
  | refused =>
    refine ⟨fun waits => ?_,regular.listening⟩
    cases waits
  | accepted user =>
    refine ⟨fun waits => ?_,fun _ => rfl⟩
    cases waits
  | left =>
    refine ⟨fun waits => ⟨rfl,(regular.waiting waits).2⟩,fun client => ?_⟩
    cases client
  | answered => exact ⟨fun waits => ⟨(regular.waiting waits).1,rfl⟩,regular.listening⟩
  | unheard => exact regular
  | checked =>
    constructor
    · intro waits
      obtain ⟨outside,quiet⟩ := regular.waiting waits
      simp [outside,quiet]
    · intro client
      exact regular.listening (Bool.and_eq_true_iff.mp client).1

private theorem sinceTick_checked (regular : Regular v) (moves : Moves k v (.checkClients : Label U) w) :
    SinceTick v False w := by
  cases moves with
  | stays _ tick => exact absurd rfl tick
  | checked =>
    constructor
    · intro client
      have was := (Bool.and_eq_true_iff.mp client).1
      simp [was]
    · intro client
      refine ⟨?_,regular.listening client⟩
      by_contra waits
      rw [(regular.waiting (by simpa using waits)).1] at client
      cases client

private theorem sinceTick_moves (since : SinceTick before pong v) (regular : Regular v) (moves : Moves k v label w)
    (tick : label ≠ .checkClients) : SinceTick before (pong ∨ label = .pong k) w := by
  cases moves with
  | stays _ _ other => simpa [other] using since
  | refused err user => exact ⟨by simpa using since.owes,fun client => ⟨rfl,(since.heard client).2⟩⟩
  | accepted user waits =>
    -- the callback had not fired, so the tick did not find the socket
    have outside : before.client = false := by
      by_contra client
      rw [(since.heard (by simpa using client)).1] at waits
      cases waits
    refine ⟨fun _ => ?_,fun client => ⟨rfl,rfl⟩⟩
    simp [outside,(regular.waiting waits).2]
  | left => exact ⟨fun client => by simp at client,since.heard⟩
  | answered => exact ⟨fun _ => by simp,since.heard⟩
  | unheard deaf =>
    have outside : before.client = false := by
      by_contra client
      rw [(since.heard (by simpa using client)).2] at deaf
      cases deaf
    refine ⟨fun client => ?_,since.heard⟩
    rw [since.owes client]
    simp [outside]
  | checked => exact absurd rfl tick

/-- Who is no client any more does not become one again. -/
theorem out_moves (called : v.called = true) (outside : v.client = false) (moves : Moves k v label w) :
    w.called = true ∧ w.client = false := by
  cases moves with
  | stays => exact ⟨called,outside⟩
  | refused => exact ⟨rfl,outside⟩
  | accepted user waits =>
    rw [called] at waits
    cases waits
  | left => exact ⟨called,rfl⟩
  | answered => exact ⟨called,outside⟩
  | unheard => exact ⟨called,outside⟩
  | checked => exact ⟨called,by simp [outside]⟩

end Standing

section Runs

variable {s t : WsAuthService U}

structure Live (s : WsAuthService U) : Prop where
  known : Known s
  regular : ∀ k, Regular (standing s k)

private theorem live_initial : Live ({} : WsAuthService U) where
  known := ⟨fun k member => absurd member (Distinct.mem_empty k),fun k socket found => by cases found⟩
  regular k := ⟨by simp [standing],by simp [standing]⟩

private theorem live_step (s : WsAuthService U) (label : Label U) (t : WsAuthService U) (live : Live s)
    (taken : step s label = some t) :
    Live t where
  known := known_step s label t live.known taken
  regular k := regular_moves (live.regular k) (step_moves live.known k taken)

private theorem live_run (labels : List (Label U)) (ran : run step {} labels = some t) : Live t :=
  run_invariant Live live_step {} t labels live_initial ran

private theorem sinceTick_run (k : Nat) (before : Standing) (pong : Prop) (labels : List (Label U))
    (no_tick : .checkClients ∉ labels)
    (live : Live s) (since : SinceTick before pong (standing s k)) (ran : run step s labels = some t) :
    SinceTick before (pong ∨ .pong k ∈ labels) (standing t k) := by
  induction labels generalizing s pong with
  | nil =>
    obtain rfl := Option.some.inj ran
    simpa using since
  | cons label rest ih =>
    obtain ⟨next,taken,ran⟩ := (run_cons s t label rest).mp ran
    rw [List.mem_cons,not_or] at no_tick
    have moved := sinceTick_moves since (live.regular k) (step_moves live.known k taken) (Ne.symm no_tick.1)
    have later := ih (pong ∨ label = .pong k) no_tick.2 (live_step s label next live taken) moved ran
    simpa [or_assoc,eq_comm] using later

private theorem terminated_iff_silent (before between : List (Label U)) (no_tick : .checkClients ∉ between)
    (reached : run step {} before = some s) (ran : run step s (.checkClients :: between) = some t) (k : Nat) :
    k ∈ terminations t ↔ k ∈ t.clients ∧ k ∈ s.clients ∧ .pong k ∉ between := by
  have live := live_run before reached
  obtain ⟨next,taken,ran⟩ := (run_cons s t _ between).mp ran
  have ticked := sinceTick_checked (live.regular k) (step_moves live.known k taken)
  have since := sinceTick_run k _ False between no_tick (live_step s _ next live taken) ticked ran
  rw [mem_terminations]
  have client : (standing t k).client = true ↔ k ∈ t.clients := decide_eq_true_iff
  have was : (standing s k).client = true ↔ k ∈ s.clients := decide_eq_true_iff
  rw [← client,← was]
  exact and_congr_right (fun client => by simpa using since.owes client)

private theorem first_tick_spares (before : List (Label U)) (no_tick : .checkClients ∉ before)
    (reached : run step {} before = some t) (k : Nat) : k ∉ terminations t := by
  have fresh : SinceTick ⟨false,false,false,false⟩ False (standing ({} : WsAuthService U) k) :=
    ⟨by simp [standing],by simp⟩
  have since := sinceTick_run k _ False before no_tick live_initial fresh reached
  rw [mem_terminations]
  rintro ⟨client,owes⟩
  cases ((since.owes client).mp owes).1

private theorem mem_terminated (labels : List (Label U)) (k : Nat) (member : k ∈ terminated s labels) :
    ∃ first after t, labels = first ++ .checkClients :: after ∧ run step s first = some t ∧ k ∈ terminations t := by
  induction labels generalizing s with
  | nil => cases member
  | cons label rest ih =>
    rw [terminated] at member
    split at member
    next => cases member
    next next taken =>
      have deeper : k ∈ terminated next rest → ∃ first after t, label :: rest = first ++ .checkClients :: after ∧
          run step s first = some t ∧ k ∈ terminations t := by
        intro later
        obtain ⟨first,after,t,split,ran,inside⟩ := ih later
        exact ⟨label :: first,after,t,by rw [split]; rfl,(run_cons s t label first).mpr ⟨next,taken,ran⟩,inside⟩
      split at member
      next =>
        rcases List.mem_append.mp member with now | later
        · exact ⟨[],rest,s,rfl,rfl,now⟩
        · exact deeper later
      next => exact deeper member

/-- Who is terminated was a client, and is none any more. -/
theorem terminated_nodup_after (labels : List (Label U)) (live : Live s) (log : List Nat) (own : log.Nodup)
    (out : ∀ k ∈ log, (standing s k).called = true ∧ (standing s k).client = false) :
      (log ++ terminated s labels).Nodup := by
  induction labels generalizing s log with
  | nil => simpa [terminated] using own
  | cons label rest ih =>
    rw [terminated]
    split
    next => simpa using own
    next next taken =>
      have live_next := live_step s label next live taken
      have stays : ∀ k ∈ log, (standing next k).called = true ∧ (standing next k).client = false :=
        fun k member => out_moves (out k member).1 (out k member).2 (step_moves live.known k taken)
      split
      next =>
        rw [← List.append_assoc]
        apply ih live_next
        · refine List.nodup_append.mpr ⟨own,terminations_nodup s,fun k member j now same => ?_⟩
          have client := ((mem_terminations s j).mp now).1
          rw [← same,(out k member).2] at client
          cases client
        · intro k member
          rcases List.mem_append.mp member with old | now
          · exact stays k old
          · obtain ⟨client,owes⟩ := (mem_terminations s k).mp now
            have called : (standing s k).called = true := by
              by_contra waits
              rw [((live.regular k).waiting (by simpa using waits)).1] at client
              cases client
            obtain rfl := Option.some.inj taken
            rw [checked_standing]
            exact ⟨called,by simp [owes]⟩
      next => exact ih live_next log own stays

def isTick : Label U → Bool
  | .checkClients => true
  | _ => false

/-- The last tick of a run, if there is one. -/
theorem last_tick (labels : List (Label U)) : .checkClients ∉ labels ∨
    ∃ before between, labels = before ++ .checkClients :: between ∧ .checkClients ∉ between := by
  cases found : Precedence.last isTick labels with
  | none =>
    left
    intro member
    have other := (Precedence.last_eq_none isTick labels).mp found _ member
    cases other
  | some tick =>
    right
    obtain ⟨before,between,split,ticks,nothing⟩ := (Precedence.last_eq_some isTick labels tick).mp found
    have here : tick = .checkClients := by
      cases tick with
      | checkClients => rfl
      | _ => cases ticks
    subst here
    refine ⟨before,between,split,fun member => ?_⟩
    have other := (Precedence.last_eq_none isTick between).mp nothing _ member
    cases other

/-- A socket that sends a pong between each two ticks of which the first found it. -/
def AnswersEveryPing (labels : List (Label U)) (k : Nat) : Prop :=
  ∀ before between after s, labels = before ++ .checkClients :: between ++ .checkClients :: after →
    .checkClients ∉ between →
    run step {} before = some s → k ∈ s.clients → .pong k ∈ between

private theorem answering_client_spared (labels : List (Label U)) (k : Nat) (answers : AnswersEveryPing labels k) :
    k ∉ terminated {} labels := by
  intro member
  obtain ⟨first,after,t,rfl,ran,now⟩ := mem_terminated labels k member
  rcases last_tick first with no_tick | ⟨before,between,rfl,no_tick⟩
  · exact first_tick_spares first no_tick ran k now
  · rw [run_append] at ran
    obtain ⟨s,reached,ran⟩ := Option.bind_eq_some_iff.mp ran
    obtain ⟨_,client,silent⟩ := (terminated_iff_silent before between no_tick reached ran k).mp now
    exact silent (answers before between after s rfl no_tick reached client)

end Runs

/-- At a tick, exactly those clients are terminated that were clients at the tick before it and sent no pong
since; at the first tick nobody is; nobody is terminated twice, and who answers every ping never. -/
theorem silent_clients_terminated :
    (∀ (before between : List (Label U)) (s t : WsAuthService U), .checkClients ∉ between →
      run step {} before = some s →
      run step s (.checkClients :: between) = some t →
        ∀ k, k ∈ terminations t ↔ k ∈ t.clients ∧ k ∈ s.clients ∧ .pong k ∉ between) ∧
    (∀ (before : List (Label U)) (t : WsAuthService U), .checkClients ∉ before → run step {} before = some t →
      terminations t = []) ∧
    (∀ labels : List (Label U), (terminated {} labels).Nodup) ∧
    ∀ (labels : List (Label U)) (k : Nat), AnswersEveryPing labels k → k ∉ terminated {} labels := by
  refine ⟨?_,?_,?_,answering_client_spared⟩
  · intro before between s t no_tick reached ran
    exact terminated_iff_silent before between no_tick reached ran
  · intro before t no_tick reached
    exact List.eq_nil_iff_forall_not_mem.mpr (first_tick_spares before no_tick reached)
  · intro labels
    have alone := terminated_nodup_after labels live_initial [] List.nodup_nil (fun k member => by cases member)
    simpa using alone

end BoarPack.WsAuth
