import BoarPack.Websockets.Frames
import BoarPack.WsAuth.Tracking

/-! `WsAuthGuard` before the handlers of messages. It awaits the promise that the connection was given by
`WsAuthService`, however late that is settled and whatever else happens to the socket. -/
namespace BoarPack.WsAuth.Gateway
open Containers Transition WsAuthService Websockets

variable {U : Type}

inductive Verdict (U : Type)
  | awaited
  | handled (user : U)
  | refused
  deriving DecidableEq

/-- A message and what `canActivate` says of it; a socket of a gateway that does not authenticate has no number. -/
structure Message (U : Type) where
  socket : Option Nat
  verdict : Verdict U := .awaited

/-- `socketsAuthenticators` with a promise for each socket, empty as long as it is pending. History: the sockets that
were sent `Authentication error`, and the calls of `close`, with or without a code. -/
structure State (U : Type) where
  service : WsAuthService U := {}
  socketsAuthenticators : List (Option (Option U)) := []
  messages : List (Message U) := []
  errors : List Nat := []
  closes : List (Option Nat × Option WsErrorCodes) := []

inductive Event (U : Type)
  | label (label : Label U)
  | failed (k : Nat)
  | message (socket : Option Nat)
  | decide (m : Nat)

/-- A promise is settled once. -/
def resolve (result : Option U) : Option (Option U) → Option (Option U)
  | none => some result
  | some settled => some settled

/-- What passport's callback resolves to, and whether it closes the socket, is decided together. -/
def authenticated (s : State U) (k : Nat) (err : Bool) (user : Option U) : State U :=
  let result := if err then none else user
  let s := { s with
    service := s.service.authenticate k err user
    socketsAuthenticators := s.socketsAuthenticators.modify k (resolve result) }
  match result with
  | none => { s with errors := s.errors ++ [k], closes := s.closes ++ [(some k,none)] }
  | some _ => s

/-- Passport calls `next`, in place of the callback, when it cannot use the strategy. The socket stays open. -/
def failed (s : State U) (k : Nat) : State U :=
  { s with
    service := s.service.change k (fun socket => { socket with waiting := false })
    socketsAuthenticators := s.socketsAuthenticators.modify k (resolve none) }

/-- Nothing as long as the promise is pending. -/
def finishInitialization (s : State U) (socket : Option Nat) : Option (Option U) :=
  match socket.bind (fun k => s.socketsAuthenticators[k]?) with
  | none => some none
  | some promise => promise

def canActivate (s : State U) (m : Nat) (message : Message U) : Option U → State U
  | none => { s with
      messages := s.messages.set m { message with verdict := .refused }
      closes := s.closes ++ [(message.socket,some .unauthorized)] }
  | some user => { s with messages := s.messages.set m { message with verdict := .handled user } }

def step (s : State U) : Event U → Option (State U)
  | .label .handleConnection => (WsAuth.step s.service .handleConnection).map (fun service =>
      { s with service := service, socketsAuthenticators := s.socketsAuthenticators ++ [none] })
  | .label (.authenticated k err user) =>
    if (s.service.sockets[k]?).any Socket.waiting then some (authenticated s k err user) else none
  | .label label => (WsAuth.step s.service label).map (fun service => { s with service := service })
  | .failed k => if (s.service.sockets[k]?).any Socket.waiting then some (failed s k) else none
  | .message socket =>
    if socket.all (fun k => (s.service.sockets[k]?).any (fun socket => !socket.disconnected)) then
      some { s with messages := s.messages ++ [{ socket := socket }] }
    else none
  | .decide m => (s.messages[m]?).bind (fun message =>
      match message.verdict with
      | .awaited => (finishInitialization s message.socket).map (canActivate s m message)
      | _ => none)

/-- Of each socket, whether its callback has still to fire, and its user. -/
def credentials (s : WsAuthService U) : List (Bool × Option U) :=
  s.sockets.map (fun socket => (socket.waiting,socket.user))

def promised (credential : Bool × Option U) : Option (Option U) := if credential.1 then none else some credential.2

def Verdict.isRefused : Verdict U → Bool
  | refused => true
  | _ => false

/-- What a verdict says of the socket. -/
def Judged (known : List (Bool × Option U)) (message : Message U) : Prop :=
  match message.verdict with
  | .awaited => ∀ k, message.socket = some k → k < known.length
  | .handled user => ∃ k, message.socket = some k ∧ known[k]? = some (false,some user)
  | .refused => ∀ k, message.socket = some k → known[k]? = some (false,none)

/-- How often `close` is called with `Unauthorized`, and on how many messages. -/
def unauthorized (closes : List (Option Nat × Option WsErrorCodes)) (socket : Option Nat) : Nat :=
  closes.countP (fun close => close = (socket,some .unauthorized))

def refusals (messages : List (Message U)) (socket : Option Nat) : Nat :=
  messages.countP (fun message => message.socket = socket && message.verdict.isRefused)

structure Inv (s : State U) : Prop where
  promises : s.socketsAuthenticators = (credentials s.service).map promised
  fresh : ∀ credential ∈ credentials s.service, credential.1 = true → credential.2 = none
  messages : ∀ message ∈ s.messages, Judged (credentials s.service) message
  clients : ∀ k ∈ s.service.clients, ∃ user, (credentials s.service)[k]? = some (false,some user)
  closes : ∀ socket, unauthorized s.closes socket = refusals s.messages socket

/-- What a socket has been settled to stays. -/
structure Settles (before after : List (Bool × Option U)) : Prop where
  length : before.length ≤ after.length
  settled : ∀ (k : Nat) (user : Option U), before[k]? = some (false,user) → after[k]? = some (false,user)

theorem Settles.refl (known : List (Bool × Option U)) : Settles known known := ⟨Nat.le_refl _,fun _ _ found => found⟩

theorem Settles.still_judged {before after : List (Bool × Option U)} (settles : Settles before after)
    {message : Message U} (judged : Judged before message) : Judged after message := by
  unfold Judged at judged ⊢
  split at judged
  next => exact fun k same => Nat.lt_of_lt_of_le (judged k same) settles.length
  next user _ =>
    obtain ⟨k,same,found⟩ := judged
    exact ⟨k,same,settles.settled k (some user) found⟩
  next => exact fun k same => settles.settled k none (judged k same)

private theorem settles_append (known : List (Bool × Option U)) (more : List (Bool × Option U)) :
    Settles known (known ++ more) := by
  refine ⟨by simp,fun k user found => ?_⟩
  rw [List.getElem?_append_left (List.getElem?_eq_some_iff.mp found).1]
  exact found

/-- Only what is pending is settled. -/
theorem settles_modify (known : List (Bool × Option U)) (k : Nat) (f : Bool × Option U → Bool × Option U)
    (old : Option U) (waits : known[k]? = some (true,old)) : Settles known (known.modify k f) := by
  refine ⟨by simp,fun j user found => ?_⟩
  rw [getElem?_modify_if]
  split
  next same =>
    subst same
    rw [waits] at found
    cases found
  next => exact found

private theorem credentials_change (s : WsAuthService U) (k : Nat) (f : Socket U → Socket U)
    (g : Bool × Option U → Bool × Option U)
    (agrees : ∀ socket, ((f socket).waiting,(f socket).user) = g (socket.waiting,socket.user)) :
    credentials (s.change k f) = (credentials s).modify k g := by
  apply List.ext_getElem?
  intro j
  rw [credentials,List.getElem?_map,sockets_change,getElem?_modify_if,credentials,List.getElem?_map]
  split
  next => simp [Function.comp_def,agrees]
  next => rfl

private theorem credentials_same (s : WsAuthService U) (k : Nat) (f : Socket U → Socket U)
    (same : ∀ socket, ((f socket).waiting,(f socket).user) = (socket.waiting,socket.user)) :
    credentials (s.change k f) = credentials s :=
  (credentials_change s k f id same).trans (List.modify_id k _)

private theorem credentials_addClient (s : WsAuthService U) (k : Nat) :
    credentials (s.addClient k) = credentials s := by
  unfold addClient
  split
  next => rfl
  next => exact credentials_same _ k _ (fun _ => rfl)

private theorem credentials_check (s : WsAuthService U) (list : List Nat) :
    credentials (list.foldl check s) = credentials s := by
  induction list generalizing s with
  | nil => rfl
  | cons j rest ih =>
    rw [List.foldl_cons,ih]
    unfold check
    split
    next => exact credentials_same _ j _ (fun _ => rfl)
    next => rfl

/-- A callback that brings no user leaves the user as it was. -/
theorem credentials_authenticate (s : WsAuthService U) (k : Nat) (err : Bool) (user : Option U) :
    credentials (s.authenticate k err user) =
      (credentials s).modify k (fun credential => (false,(if err then none else user).or credential.2)) := by
  cases err with
  | true => exact credentials_change s k _ _ (fun _ => rfl)
  | false =>
    cases user with
    | none => exact credentials_change s k _ _ (fun _ => rfl)
    | some user =>
      change credentials (((s.change k _).change k _).addClient k) = _
      rw [credentials_addClient,credentials_change _ k _ (fun credential => (credential.1,some user)) (fun _ => rfl),
        credentials_change s k _ (fun credential => (false,credential.2)) (fun _ => rfl),List.modify_modify_eq]
      rfl

private theorem promised_modify (known : List (Bool × Option U)) (k : Nat) (result : Option U)
    (waits : known[k]? = some (true,none)) :
    (known.map promised).modify k (resolve result) =
      (known.modify k (fun credential => (false,result.or credential.2))).map promised := by
  apply List.ext_getElem?
  intro j
  rw [getElem?_modify_if,List.getElem?_map,List.getElem?_map,getElem?_modify_if]
  split
  next same =>
    subst same
    rw [waits]
    simp [promised,resolve]
  next => rfl

/-- All other labels. -/
theorem credentials_step {s t : WsAuthService U} {label : Label U} (taken : WsAuth.step s label = some t)
    (opens : label ≠ .handleConnection) (calls : ∀ k err user, label ≠ .authenticated k err user) :
    credentials t = credentials s ∧ ∀ k ∈ t.clients, k ∈ s.clients := by
  cases step_taken taken with
  | connected => exact absurd rfl opens
  | called k err user => exact absurd rfl (calls k err user)
  | disconnected k =>
    refine ⟨credentials_same _ k _ (fun _ => rfl),fun j inside => ?_⟩
    exact ((Distinct.mem_delete _ _ _).mp inside).1
  | answered k => exact ⟨rfl,fun _ inside => inside⟩
  | unheard k => exact ⟨rfl,fun _ inside => inside⟩
  | checked => exact ⟨credentials_check s s.clients.items,fun k inside => (((checked s).clients k).mp inside).1⟩
  | sent => exact ⟨rfl,fun _ inside => inside⟩

private theorem waiting_credential {s : State U} (inv : Inv s) {k : Nat}
    (waits : (s.service.sockets[k]?).any Socket.waiting = true) :
    (credentials s.service)[k]? = some (true,none) := by
  obtain ⟨socket,found,pending⟩ := (Option.any_eq_true _ _).mp waits
  have credential : (credentials s.service)[k]? = some (true,socket.user) := by
    rw [credentials,List.getElem?_map,found,Option.map_some,pending]
  have nobody : socket.user = none := inv.fresh _ (List.mem_of_getElem? credential) rfl
  rw [credential,nobody]

private theorem fresh_modify {known : List (Bool × Option U)}
    (fresh : ∀ credential ∈ known, credential.1 = true → credential.2 = none)
    (k : Nat) (result : Option U) : ∀ credential ∈ known.modify k (fun credential => (false,result.or credential.2)),
      credential.1 = true → credential.2 = none := by
  intro credential inside pending
  obtain ⟨j,found⟩ := List.getElem?_of_mem inside
  rw [getElem?_modify_if] at found
  split at found
  next =>
    obtain ⟨old,_,rfl⟩ := Option.map_eq_some_iff.mp found
    cases pending
  next => exact fresh credential (List.mem_of_getElem? found) pending

/-- The promise of a socket that waits is settled along with its callback. -/
theorem inv_settled {s : State U} (inv : Inv s) {k : Nat} (result : Option U) (service : WsAuthService U)
    (waits : (credentials s.service)[k]? = some (true,none))
    (now : credentials service = (credentials s.service).modify k (fun credential => (false,result.or credential.2)))
    (clients : ∀ j ∈ service.clients, j ∈ s.service.clients ∨ j = k ∧ result ≠ none) (errors : List Nat)
    (closes : List (Option Nat × Option WsErrorCodes))
    (uncoded : ∀ socket, unauthorized closes socket = unauthorized s.closes socket) :
    Inv { s with
      service := service
      socketsAuthenticators := s.socketsAuthenticators.modify k (resolve result)
      errors := errors
      closes := closes } := by
  have settles : Settles (credentials s.service) (credentials service) := by
    rw [now]
    exact settles_modify _ k _ none waits
  refine ⟨?_,?_,fun message inside => settles.still_judged (inv.messages message inside),fun j inside => ?_,
    fun socket => ?_⟩
  · change s.socketsAuthenticators.modify k (resolve result) = (credentials service).map promised
    rw [inv.promises,now,promised_modify _ k result waits]
  · change ∀ credential ∈ credentials service, _
    rw [now]
    exact fresh_modify inv.fresh k result
  · rcases clients j inside with old | ⟨rfl,given⟩
    · obtain ⟨user,found⟩ := inv.clients j old
      exact ⟨user,settles.settled j (some user) found⟩
    · obtain ⟨user,same⟩ := Option.ne_none_iff_exists'.mp given
      refine ⟨user,?_⟩
      change (credentials service)[j]? = _
      rw [now,getElem?_modify_if,if_pos rfl,waits,same]
      rfl
  · exact (uncoded socket).trans (inv.closes socket)

private theorem clients_authenticate (s : WsAuthService U) (k : Nat) (err : Bool) (user : Option U) :
    ∀ j ∈ (s.authenticate k err user).clients, j ∈ s.clients ∨ j = k ∧ (if err then none else user) ≠ none := by
  intro j inside
  cases err with
  | true => exact Or.inl inside
  | false =>
    cases user with
    | none => exact Or.inl inside
    | some user =>
      change j ∈ (((s.change k _).change k _).addClient k).clients at inside
      unfold addClient at inside
      split at inside
      next => exact Or.inl inside
      next =>
        rcases (Distinct.mem_add _ _ _).mp inside with old | rfl
        · exact Or.inl old
        · exact Or.inr ⟨rfl,by simp⟩

private theorem inv_authenticated {s : State U} (inv : Inv s) {k : Nat} (err : Bool) (user : Option U)
    (waits : (credentials s.service)[k]? = some (true,none)) : Inv (authenticated s k err user) := by
  have settled := inv_settled inv (if err then none else user) (s.service.authenticate k err user) waits
    (credentials_authenticate s.service k err user) (clients_authenticate s.service k err user)
  have closed (socket : Option Nat) :
      unauthorized (s.closes ++ [(some k,none)]) socket = unauthorized s.closes socket := by
    simp [unauthorized,List.countP_append]
  cases err with
  | true => exact settled (s.errors ++ [k]) _ closed
  | false =>
    cases user with
    | none => exact settled (s.errors ++ [k]) _ closed
    | some user => exact settled s.errors s.closes (fun _ => rfl)

private theorem inv_failed {s : State U} (inv : Inv s) {k : Nat}
    (waits : (credentials s.service)[k]? = some (true,none)) :
    Inv (failed s k) :=
  inv_settled inv none _ waits (credentials_change s.service k _ _ (fun _ => rfl)) (fun _ inside => Or.inl inside)
    s.errors s.closes
    (fun _ => rfl)

/-- What the guard says when the promise of the socket is settled. -/
theorem finished_cases {s : State U} (inv : Inv s) {message : Message U} (awaits : message.verdict = .awaited)
    (judged : Judged (credentials s.service) message) {result : Option U}
    (finished : finishInitialization s message.socket = some result) :
    (message.socket = none ∧ result = none) ∨ ∃ k, message.socket = some k ∧
      (credentials s.service)[k]? = some (false,result) := by
  unfold finishInitialization at finished
  cases named : message.socket with
  | none =>
    rw [named] at finished
    exact Or.inl ⟨rfl,(Option.some.inj finished).symm⟩
  | some k =>
    refine Or.inr ⟨k,rfl,?_⟩
    simp only [Judged,awaits] at judged
    obtain ⟨credential,found⟩ : ∃ credential, (credentials s.service)[k]? = some credential :=
      ⟨_,List.getElem?_eq_getElem (judged k named)⟩
    rw [named,Option.bind_some,inv.promises,List.getElem?_map,found,Option.map_some] at finished
    obtain ⟨waiting,user⟩ := credential
    cases waiting with
    | true => cases finished
    | false =>
      obtain rfl := Option.some.inj finished
      exact found

private theorem refusals_set {messages : List (Message U)} {m : Nat} {message : Message U}
    (found : messages[m]? = some message)
    (awaits : message.verdict = .awaited) (verdict : Verdict U) (socket : Option Nat) :
    refusals (messages.set m { message with verdict := verdict }) socket =
      refusals messages socket + if message.socket = socket ∧ verdict.isRefused = true then 1 else 0 := by
  obtain ⟨bound,rfl⟩ := List.getElem?_eq_some_iff.mp found
  have before : (decide (messages[m].socket = socket) && messages[m].verdict.isRefused) = false := by
    rw [awaits]
    exact Bool.and_false _
  rw [refusals,List.countP_set bound,before]
  simp [refusals]

private theorem inv_canActivate {s : State U} (inv : Inv s) {m : Nat} {message : Message U}
    (found : s.messages[m]? = some message)
    (awaits : message.verdict = .awaited) {result : Option U}
    (finished : finishInitialization s message.socket = some result) :
    Inv (canActivate s m message result) := by
  have known := finished_cases inv awaits (inv.messages message (List.mem_of_getElem? found)) finished
  cases result with
  | none =>
    refine ⟨inv.promises,inv.fresh,fun other inside => ?_,inv.clients,fun socket => ?_⟩
    · rcases List.mem_or_eq_of_mem_set inside with old | rfl
      · exact inv.messages other old
      · intro k named
        rcases known with ⟨stranger,_⟩ | ⟨j,own,settled⟩
        · cases named.symm.trans stranger
        · obtain rfl := Option.some.inj (named.symm.trans own)
          exact settled
    · have more := refusals_set found awaits .refused socket
      simp only [Verdict.isRefused,and_true] at more
      change unauthorized (s.closes ++ [(message.socket,some .unauthorized)]) socket =
        refusals (s.messages.set m _) socket
      rw [more,← inv.closes socket,unauthorized,List.countP_append,List.countP_singleton]
      simp [unauthorized]
  | some user =>
    refine ⟨inv.promises,inv.fresh,fun other inside => ?_,inv.clients,fun socket => ?_⟩
    · rcases List.mem_or_eq_of_mem_set inside with old | rfl
      · exact inv.messages other old
      · rcases known with ⟨_,nobody⟩ | ⟨k,own,settled⟩
        · cases nobody
        · exact ⟨k,own,settled⟩
    · have same := refusals_set found awaits (.handled user) socket
      simp only [Verdict.isRefused,Bool.false_eq_true,and_false,if_false,Nat.add_zero] at same
      exact (inv.closes socket).trans same.symm

theorem inv_step (s : State U) (event : Event U) (t : State U) (inv : Inv s) (taken : step s event = some t) :
    Inv t := by
  -- a label that neither opens a socket nor settles one
  have other (label : Label U) (moves : (WsAuth.step s.service label).map (fun service =>
    { s with service := service }) = some t)
      (opens : label ≠ .handleConnection) (calls : ∀ k err user, label ≠ .authenticated k err user) : Inv t := by
    obtain ⟨service,moved,rfl⟩ := Option.map_eq_some_iff.mp moves
    obtain ⟨same,fewer⟩ := credentials_step moved opens calls
    refine ⟨?_,?_,fun message inside => ?_,fun k inside => ?_,inv.closes⟩
    · exact inv.promises.trans (congrArg _ same.symm)
    · exact same ▸ inv.fresh
    · exact same ▸ inv.messages message inside
    · exact same ▸ inv.clients k (fewer k inside)
  cases event with
  | label label =>
    cases label with
    | handleConnection =>
      obtain rfl := Option.some.inj taken
      have more : credentials { s.service with sockets := s.service.sockets ++ [({} : Socket U)] } =
          credentials s.service ++ [(true,none)] := List.map_append
      have settles : Settles (credentials s.service)
          (credentials { s.service with sockets := s.service.sockets ++ [({} : Socket U)] }) := by
        rw [more]
        exact settles_append _ _
      refine ⟨?_,?_,fun message inside =>
        settles.still_judged (inv.messages message inside),fun k inside => ?_,inv.closes⟩
      · change s.socketsAuthenticators ++ [none] = List.map promised (credentials _)
        rw [more,List.map_append,inv.promises]
        rfl
      · rw [more]
        intro credential inside pending
        rcases List.mem_append.mp inside with old | new
        · exact inv.fresh credential old pending
        · rw [List.mem_singleton.mp new]
      · obtain ⟨user,found⟩ := inv.clients k inside
        exact ⟨user,settles.settled k (some user) found⟩
    | authenticated k err user =>
      simp only [step,Option.ite_none_right_eq_some,Option.some.injEq] at taken
      obtain ⟨waits,rfl⟩ := taken
      exact inv_authenticated inv err user (waiting_credential inv waits)
    | handleDisconnect k =>
      exact other (.handleDisconnect k) taken (fun same => by cases same) (fun _ _ _ same => by cases same)
    | pong k => exact other (.pong k) taken (fun same => by cases same) (fun _ _ _ same => by cases same)
    | checkClients => exact other .checkClients taken (fun same => by cases same) (fun _ _ _ same => by cases same)
    | broadcast => exact other .broadcast taken (fun same => by cases same) (fun _ _ _ same => by cases same)
  | failed k =>
    simp only [step,Option.ite_none_right_eq_some,Option.some.injEq] at taken
    obtain ⟨waits,rfl⟩ := taken
    exact inv_failed inv (waiting_credential inv waits)
  | message socket =>
    simp only [step,Option.ite_none_right_eq_some,Option.some.injEq] at taken
    obtain ⟨here,rfl⟩ := taken
    refine ⟨inv.promises,inv.fresh,fun message inside => ?_,inv.clients,fun other => ?_⟩
    · rcases List.mem_append.mp inside with old | new
      · exact inv.messages message old
      · obtain rfl := List.mem_singleton.mp new
        intro k named
        cases (named : socket = some k)
        obtain ⟨found,at_k,_⟩ := (Option.any_eq_true _ _).mp here
        simpa [credentials] using (List.getElem?_eq_some_iff.mp at_k).1
    · rw [inv.closes other]
      simp [refusals,List.countP_append,Verdict.isRefused]
  | decide m =>
    obtain ⟨message,found,taken⟩ := Option.bind_eq_some_iff.mp taken
    cases awaits : message.verdict with
    | awaited =>
      simp only [awaits] at taken
      obtain ⟨result,finished,rfl⟩ := Option.map_eq_some_iff.mp taken
      exact inv_canActivate inv found awaits finished
    | handled user => simp [awaits] at taken
    | refused => simp [awaits] at taken

private theorem inv_empty : Inv ({} : State U) where
  promises := rfl
  fresh := fun _ never => by cases never
  messages := fun _ never => by cases never
  clients := fun k never => absurd never (Distinct.mem_empty k)
  closes := fun _ => rfl

private theorem credential_socket {s : WsAuthService U} {k : Nat} {waiting : Bool} {user : Option U}
    (found : (credentials s)[k]? = some (waiting,user)) :
    ∃ socket, s.sockets[k]? = some socket ∧ socket.waiting = waiting ∧ socket.user = user := by
  rw [credentials,List.getElem?_map] at found
  obtain ⟨socket,at_k,same⟩ := Option.map_eq_some_iff.mp found
  obtain ⟨rfl,rfl⟩ := Prod.mk.inj same
  exact ⟨socket,at_k,rfl,rfl⟩

private theorem decide_iff {s : State U} (inv : Inv s) {m : Nat} {message : Message U}
    (found : s.messages[m]? = some message) (awaits : message.verdict = .awaited) : (step s (.decide m)).isSome = true ↔
      ∀ k socket, message.socket = some k → s.service.sockets[k]? = some socket → socket.waiting = false := by
  have judged := inv.messages message (List.mem_of_getElem? found)
  simp only [Judged,awaits] at judged
  have decided : (step s (.decide m)).isSome = (finishInitialization s message.socket).isSome := by
    simp [step,found,awaits]
  rw [decided]
  unfold finishInitialization
  cases named : message.socket with
  | none => simp
  | some k =>
    obtain ⟨credential,known⟩ : ∃ credential, (credentials s.service)[k]? = some credential :=
      ⟨_,List.getElem?_eq_getElem (judged k named)⟩
    obtain ⟨socket,at_k,waits,_⟩ := credential_socket known
    rw [Option.bind_some,inv.promises,List.getElem?_map,known,Option.map_some]
    cases pending : credential.1 with
    | true =>
      refine iff_of_false (by simp [promised,pending]) (fun settled => ?_)
      have settled := settled k socket rfl at_k
      rw [waits,pending] at settled
      cases settled
    | false =>
      refine iff_of_true (by simp [promised,pending]) ?_
      intro j other same at_other
      obtain rfl := Option.some.inj same
      obtain rfl := Option.some.inj (at_k.symm.trans at_other)
      exact waits.trans pending

/-- A message reaches its handler only with the user that its socket has been authenticated for, and it is refused
only where there is none, each time with a `close`; what awaits the guard waits for the authentication and for nothing
else. -/
theorem guarded (events : List (Event U)) (t : State U) (ran : run step {} events = some t) :
    (∀ message ∈ t.messages, ∀ user, message.verdict = .handled user → ∃ k socket, message.socket = some k ∧
      t.service.sockets[k]? = some socket ∧ socket.waiting = false ∧ socket.user = some user) ∧
    (∀ message ∈ t.messages, message.verdict = .refused → ∀ k, message.socket = some k → k ∉ t.service.broadcast ∧
      ∃ socket, t.service.sockets[k]? = some socket ∧ socket.waiting = false ∧ socket.user = none) ∧
    (∀ socket, unauthorized t.closes socket = refusals t.messages socket) ∧
    ∀ m message, t.messages[m]? = some message → message.verdict = .awaited → ((step t (.decide m)).isSome = true ↔
      ∀ k socket, message.socket = some k → t.service.sockets[k]? = some socket → socket.waiting = false) := by
  have inv := run_invariant Inv inv_step {} t events inv_empty ran
  refine ⟨fun message inside user handled => ?_,fun message inside refused k named => ?_,inv.closes,
    fun m message found awaits => decide_iff inv found awaits⟩
  · have judged := inv.messages message inside
    simp only [Judged,handled] at judged
    obtain ⟨k,named,known⟩ := judged
    obtain ⟨socket,found,settled,given⟩ := credential_socket known
    exact ⟨k,socket,named,found,settled,given⟩
  · have judged := inv.messages message inside
    simp only [Judged,refused] at judged
    have known := judged k named
    refine ⟨fun client => ?_,credential_socket known⟩
    obtain ⟨user,other⟩ := inv.clients k client
    cases known.symm.trans other

/-- The first message comes before its user is known. -/
theorem early_message_handled : ∃ t : State String, run step {} [.label .handleConnection,.message (some 0),
      .label (.authenticated 0 false (some "user-1")),.decide 0,.label .handleConnection,.failed 1,.message (some 1),
        .decide 1] = some t ∧
    (∀ message ∈ t.messages, ∀ user, message.verdict = .handled user → ∃ k socket, message.socket = some k ∧
      t.service.sockets[k]? = some socket ∧ socket.waiting = false ∧ socket.user = some user) ∧
    ∀ socket, unauthorized t.closes socket = refusals t.messages socket := by
  have holds := @guarded String
    [.label .handleConnection,.message (some 0),.label (.authenticated 0 false (some "user-1")),
    .decide 0,.label .handleConnection,.failed 1,.message (some 1),.decide 1] _ rfl
  exact ⟨_,rfl,holds.1,holds.2.2.1⟩

end BoarPack.WsAuth.Gateway
