import BoarPack.Auth.Cookies
import BoarPack.Auth.Family

/-! A browser in front of the authentication backend. It sends the cookies that it has and keeps those that come back;
its requests may overlap, and their answers may arrive in any order. `own` records history: the tokens that were made
for it. A request that passport refuses at once changes nothing and is no move. -/
namespace BoarPack.Auth
open RevokedTokens Users JwtAuth Tokens Containers Transition

structure Browser where
  server : State
  jar : Jar
  /-- The threads of its requests. -/
  waiting : List Nat
  answers : List Answer
  own : List Minted

def Browser.initial (now : Nat) (users : Users.Table) : Browser := ⟨State.initial now users,[],[],[],[]⟩

inductive Move
  /-- Somebody else's request, the clock, or the next operation of any request. -/
  | server (action : Action)
  | login (userId : String)
  | refresh
  | logout
  | receive (answer : Nat)
  deriving DecidableEq

/-- Under which paths the browser reaches the backend. -/
structure Urls where
  refresh : String
  logout : String

def presents (s : State) : Action → Option Minted
  | .refresh presented | .logout presented => s.minted[presented]?
  | _ => none

/-- What a request is answered with when its next operation is its last one; a refused one leaves the cookies alone. -/
def answerTo (config : Config) (s : State) (r : Request) : Option Answer :=
  match r.phase with
  | .refreshLogin user => some (.tokens s.now (login config s.now s.fresh user))
  | .logout => if (logoutToken r.token.payload).isNone then some .cleared else none
  | .logoutRevoke _ => some .cleared
  | _ => none

/-- The tokens that the next operation of a request makes. -/
def makes (config : Config) (s : State) (r : Request) : List Minted :=
  match r.phase with
  | .refreshLogin user =>
    [mintedAccess config s.now s.fresh user (some r.token.sid) r.token.family,
      mintedRefresh config s.now s.fresh user (some r.token.sid) r.token.family]
  | _ => []

namespace Browser

variable (platform : Platform) (config : Config) (auth : AuthConfig) (urls : Urls)

/-- What the browser gets of a step of the backend. -/
def collect (b : Browser) (action : Action) (next : State) : Browser :=
  match action with
  | .proceed i =>
    match if i ∈ b.waiting then b.server.requests[i]? else none with
    | some r => { b with
        server := next
        answers := b.answers ++ (answerTo config b.server r).toList
        own := b.own ++ makes config b.server r }
    | none => { b with server := next }
  | _ => { b with server := next }

def send (b : Browser) (name url : String) (action : Nat → Action) : Option Browser := do
  let value ← get (b.jar.sent b.server.now url) name
  let presented ← b.server.minted.findIdx? (fun m => m.payload == value)
  let next ← Auth.step platform config b.server (action presented)
  return { b with server := next, waiting := b.waiting ++ [b.server.requests.length] }

def step (b : Browser) : Move → Option Browser
  | .server action =>
    -- Nobody else has the tokens of the browser.
    if (presents b.server action).all (fun m => decide (m ∉ b.own)) then
      (Auth.step platform config b.server action).map (b.collect config action)
    else none
  | .login userId => do
    let user ← b.server.users.find? (·.id == userId)
    let next ← Auth.step platform config b.server (.login userId)
    return { b with
      server := next
      answers := b.answers ++ [.tokens b.server.now (Auth.login config b.server.now b.server.fresh user.selected)]
      own := b.own ++ [mintedAccess config b.server.now b.server.fresh user.selected none b.server.fresh,
        mintedRefresh config b.server.now b.server.fresh user.selected none b.server.fresh] }
  | .refresh => b.send platform config refreshTokenName urls.refresh .refresh
  | .logout => b.send platform config tokenName urls.logout .logout
  | .receive answer =>
    b.answers[answer]?.map (fun received => { b with
      jar := b.jar.receiveAll b.server.now (received.cookies auth)
      answers := b.answers.eraseIdx answer })

end Browser

/-- No refresh has used the token, and its session has not been logged out. -/
def Unspent (s : State) (m : Minted) : Prop := m ∉ s.refreshUses ∧ ∀ a ∈ s.logouts, a.sid ≠ m.sid

namespace Browser

/-- A request of the browser has used the token and goes on. -/
def Spending (b : Browser) (m : Minted) : Prop :=
  ∃ i ∈ b.waiting, ∃ r, b.server.requests[i]? = some r ∧ r.token = m ∧
    (r.phase = .refreshFind ∨ ∃ user, r.phase = .refreshLogin user)

/-- The token can be used, or what replaces it is on its way, or its user is gone. -/
def Safe (b : Browser) (m : Minted) : Prop :=
  b.answers ≠ [] ∨ b.Spending m ∨ Unspent b.server m ∨ ¬ UserExists b.server m

/-- Two payloads are those of the tokens of one session, made for the browser. -/
structure Pair (b : Browser) (access refresh : Payload) (a m : Minted) : Prop where
  known : a ∈ b.own ∧ m ∈ b.own
  access : a.payload = access ∧ a.kind = .access
  refresh : m.payload = refresh ∧ m.kind = .refresh
  session : a.sid = m.sid
  subject : a.payload.sub = m.payload.sub

/-- The tokens of an answer: nobody has had them yet. -/
structure Arriving (b : Browser) (pair : LocalAuthToken) (a m : Minted) : Prop where
  pair : b.Pair pair.accessToken.token pair.refreshToken.token a m
  unspent : Unspent b.server m
  unsent : ∀ r ∈ b.server.requests, r.token.sid ≠ m.sid
  unseen : ∀ entry ∈ b.jar, entry.2.value.sid ≠ some m.sid

structure Held (b : Browser) (stored : StoredCookie × StoredCookie) (a m : Minted) : Prop where
  pair : b.Pair stored.1.value stored.2.value a m
  safe : b.Safe m

/-- Two answers do not bring the tokens of one session. -/
def Apart : Answer → Answer → Prop
  | .tokens _ first, .tokens _ second => first.refreshToken.token.sid ≠ second.refreshToken.token.sid
  | _, _ => True

structure Kept (config : Config) (auth : AuthConfig) (b : Browser) : Prop where
  inv : Inv config b.server
  own : ∀ m ∈ b.own, m ∈ b.server.minted
  closed : ∀ m ∈ b.own, ∀ other ∈ b.server.minted, other.sid = m.sid → other ∈ b.own
  requests : ∀ i r, b.server.requests[i]? = some r → (r.token ∈ b.own ↔ i ∈ b.waiting)
  waiting : ∀ i ∈ b.waiting, i < b.server.requests.length
  jar : ∃ last, b.jar.Holds auth last ∧ ∀ stored, last = some stored → ∃ a m, b.Held stored a m
  arriving : ∀ made pair, .tokens made pair ∈ b.answers → ∃ a m, b.Arriving pair a m
  apart : b.answers.Pairwise Apart

theorem kept_initial (config : Config) (auth : AuthConfig) (now : Nat) (users : Users.Table) :
    Kept config auth (Browser.initial now users) where
  inv := inv_initial config now users
  own := by simp [Browser.initial]
  closed := by simp [Browser.initial]
  requests := by simp [Browser.initial,State.initial]
  waiting := by simp [Browser.initial]
  jar := ⟨none,holds_nil auth,by simp⟩
  arriving := by simp [Browser.initial]
  apart := List.Pairwise.nil

end Browser

section Steps

variable {config : Config} {s : State}

theorem advance_cases {r : Request} {after : State} {phase : Phase}
    (advanced : s.advance config r = some (after,phase)) :
    (after = s ∧ (∀ user, r.phase ≠ .refreshLogin user) ∧ (∀ tokens, r.phase ≠ .logoutRevoke tokens) ∧
      (r.phase = .refreshFind → (∃ user, phase = .refreshLogin user) ∨ ¬ UserExists s r.token)) ∨
    (∃ jti revoked, r.phase = .refreshRevoke jti ∧ phase = .refreshFind ∧
      after = { s with revokedTokens := revoked, refreshUses := r.token :: s.refreshUses }) ∨
    (∃ user, r.phase = .refreshLogin user ∧ after = s.login config user (some r.token)) ∨
    ∃ tokens revoked, r.phase = .logoutRevoke tokens ∧
      after = { s with revokedTokens := revoked, logouts := r.token :: s.logouts } := by
  unfold State.advance at advanced
  cases at_phase : r.phase with
  | refreshRevoke jti =>
    simp only [at_phase] at advanced
    cases advanced
    exact Or.inr (Or.inl ⟨jti,_,rfl,rfl,rfl⟩)
  | refreshLogin user =>
    simp only [at_phase] at advanced
    cases advanced
    exact Or.inr (Or.inr (Or.inl ⟨user,rfl,rfl⟩))
  | logoutRevoke tokens =>
    simp only [at_phase] at advanced
    cases advanced
    exact Or.inr (Or.inr (Or.inr ⟨tokens,_,rfl,rfl⟩))
  | refreshFind =>
    simp only [at_phase] at advanced
    have found := findUser_accepts s.users r.token.payload
    split at advanced
    next user located =>
      cases advanced
      exact Or.inl ⟨rfl,by simp,by simp,fun _ => Or.inl ⟨user,rfl⟩⟩
    next exception missing =>
      cases advanced
      rw [missing] at found
      exact Or.inl ⟨rfl,by simp,by simp,fun _ => Or.inr (fun living => Bool.false_ne_true (found.mpr living))⟩
  | refreshCount =>
    simp only [at_phase] at advanced
    split at advanced <;> cases advanced <;> simp
  | logoutCount =>
    simp only [at_phase] at advanced
    split at advanced <;> cases advanced <;> simp
  | logoutFind =>
    simp only [at_phase] at advanced
    split at advanced <;> cases advanced <;> simp
  | logout =>
    simp only [at_phase] at advanced
    split at advanced <;> cases advanced <;> simp
  | refreshed => simp [at_phase] at advanced
  | loggedOut => simp [at_phase] at advanced
  | rejected exception => simp [at_phase] at advanced

theorem gone_later {t : State} (inv : Inv config s) (later : Later s t) {m : Minted} (member : m ∈ s.minted)
    (gone : ¬ UserExists s m) : ¬ UserExists t m := by
  rintro ⟨user,inside,named,living⟩
  obtain ⟨row,known,same⟩ := inv.owned m member
  obtain ⟨before,present,alsoNamed,stood⟩ := later.users user inside living ⟨row,known,same.trans named.symm⟩
  exact gone ⟨before,present,alsoNamed.trans named,stood⟩

end Steps

namespace Browser

variable {config : Config} {auth : AuthConfig} {b : Browser}

/-- The browser after a step that leaves its jar alone. -/
def moved (b : Browser) (server : State) (waiting : List Nat) (extra : List Answer) (more : List Minted) : Browser :=
  { b with server := server, waiting := waiting, answers := b.answers ++ extra, own := b.own ++ more }

theorem Kept.moved (kept : Kept config auth b) (t : State) (waiting : List Nat) (extra : List Answer)
    (more : List Minted) (inv : Inv config t) (own : ∀ m ∈ b.own ++ more, m ∈ t.minted)
    (closed : ∀ m ∈ b.own ++ more, ∀ other ∈ t.minted, other.sid = m.sid → other ∈ b.own ++ more)
    (requests : ∀ i r, t.requests[i]? = some r → (r.token ∈ b.own ++ more ↔ i ∈ waiting))
    (bounded : ∀ i ∈ waiting, i < t.requests.length)
    (safe : ∀ m ∈ b.own, b.Safe m → (b.moved t waiting extra more).Safe m)
    (unspent : ∀ m ∈ b.own, (∀ r ∈ b.server.requests, r.token.sid ≠ m.sid) → Unspent b.server m → Unspent t m)
    (unsent : ∀ m ∈ b.own, ∀ r ∈ t.requests, r.token.sid = m.sid →
      (∃ old ∈ b.server.requests, old.token.sid = m.sid) ∨ ∃ entry ∈ b.jar, entry.2.value.sid = some m.sid)
    (arriving : ∀ made pair, .tokens made pair ∈ extra → ∃ a m, (b.moved t waiting extra more).Arriving pair a m)
    (apart : (b.answers ++ extra).Pairwise Apart) : Kept config auth (b.moved t waiting extra more) where
  inv := inv
  own := own
  closed := closed
  requests := requests
  waiting := bounded
  jar := by
    obtain ⟨last,holds,held⟩ := kept.jar
    refine ⟨last,holds,fun stored same => ?_⟩
    obtain ⟨a,m,pair,stands⟩ := held stored same
    exact ⟨a,m,{ pair with known := ⟨List.mem_append_left _ pair.known.1,List.mem_append_left _ pair.known.2⟩ },
      safe m pair.known.2 stands⟩
  arriving := by
    intro made pair member
    rcases List.mem_append.mp member with old | new
    · obtain ⟨a,m,was⟩ := kept.arriving made pair old
      refine ⟨a,m,{ was.pair with known := ⟨List.mem_append_left _ was.pair.known.1,
        List.mem_append_left _ was.pair.known.2⟩ },unspent m was.pair.known.2 was.unsent was.unspent,?_,was.unseen⟩
      intro r inside same
      rcases unsent m was.pair.known.2 r inside same with ⟨old,known,also⟩ | ⟨entry,known,also⟩
      · exact was.unsent old known also
      · exact was.unseen entry known also
    · exact arriving made pair new
  apart := apart

theorem Safe.kept {t : State} {waiting : List Nat} {extra : List Answer} {more : List Minted}
    (inv : Inv config b.server)
    (later : Later b.server t) {m : Minted} (member : m ∈ b.server.minted)
    (uses : m ∈ t.refreshUses → m ∈ b.server.refreshUses)
    (ends : ∀ a ∈ t.logouts, a.sid = m.sid → a ∈ b.server.logouts)
    (spending : b.Spending m → (b.moved t waiting extra more).Safe m) (safe : b.Safe m) :
      (b.moved t waiting extra more).Safe m := by
  rcases safe with arriving | spends | unspent | gone
  · exact Or.inl (by simp [Browser.moved,arriving])
  · exact spending spends
  · exact Or.inr (Or.inr (Or.inl ⟨fun used => unspent.1 (uses used),
      fun a ended same => unspent.2 a (ends a ended same) same⟩))
  · exact Or.inr (Or.inr (Or.inr (gone_later inv later member gone)))

theorem Safe.answered {t : State} {waiting : List Nat} {answer : Answer} {more : List Minted} (m : Minted) :
    (b.moved t waiting [answer] more).Safe m := Or.inl (by simp [Browser.moved])

private theorem own_below (kept : Kept config auth b) {m : Minted} (member : m ∈ b.own) : m.sid < b.server.fresh := by
  have bound := kept.inv.bounded m (kept.own m member)
  omega

theorem holds_entry {jar : Jar} {last : Option (StoredCookie × StoredCookie)} (holds : jar.Holds auth last)
    {entry : (String × String) × StoredCookie}
    (member : entry ∈ jar) : ∃ stored, last = some stored ∧ (entry.2 = stored.1 ∨ entry.2 = stored.2) := by
  have found := (get_some_iff holds.distinct entry.1 entry.2).mpr member
  rcases holds.keys entry.1 (List.mem_map_of_mem member) with named | named
  · rw [named,holds.access] at found
    obtain ⟨stored,rfl,same⟩ := Option.map_eq_some_iff.mp found
    exact ⟨stored,rfl,Or.inl same.symm⟩
  · rw [named,holds.refresh] at found
    obtain ⟨stored,rfl,same⟩ := Option.map_eq_some_iff.mp found
    exact ⟨stored,rfl,Or.inr same.symm⟩

theorem Pair.sid {access refresh : Payload} {a m : Minted} (pair : b.Pair access refresh a m) {payload : Payload}
    (one : payload = access ∨ payload = refresh) : payload.sid = some m.sid := by
  rcases one with rfl | rfl
  · rw [← pair.access.1,← pair.session]
    exact a.signed.2.1
  · rw [← pair.refresh.1]
    exact m.signed.2.1

theorem jar_own (kept : Kept config auth b) {entry : (String × String) × StoredCookie} (member : entry ∈ b.jar) :
    ∃ m ∈ b.own, entry.2.value.sid = some m.sid := by
  obtain ⟨last,holds,held⟩ := kept.jar
  obtain ⟨stored,rfl,one⟩ := holds_entry holds member
  obtain ⟨a,m,pair,_⟩ := held stored rfl
  exact ⟨m,pair.known.2,pair.sid (one.imp (congrArg StoredCookie.value) (congrArg StoredCookie.value))⟩

/-- A step of the backend that does not concern the tokens of the browser. -/
structure Elsewhere (b : Browser) (t : State) : Prop where
  grown : ∀ m ∈ b.server.minted, m ∈ t.minted
  minted : ∀ m ∈ t.minted, m ∈ b.server.minted ∨ m.sid = b.server.fresh
  uses : ∀ m ∈ t.refreshUses, m ∈ b.server.refreshUses ∨ m ∉ b.own
  ends : ∀ a ∈ t.logouts, a ∈ b.server.logouts ∨ a ∉ b.own
  threads : ∀ i r, t.requests[i]? = some r → (∃ old, b.server.requests[i]? = some old ∧ old.token = r.token) ∨
    (b.server.requests.length ≤ i ∧ r.token ∉ b.own)
  going : ∀ i ∈ b.waiting, ∀ r, b.server.requests[i]? = some r → t.requests[i]? = some r

theorem Elsewhere.same {t : State} (minted : t.minted = b.server.minted) (uses : t.refreshUses = b.server.refreshUses)
    (ends : t.logouts = b.server.logouts) (requests : t.requests = b.server.requests) : Elsewhere b t where
  grown := by simp [minted]
  minted := by simp +contextual [minted]
  uses := by simp +contextual [uses]
  ends := by simp +contextual [ends]
  threads i r found := Or.inl ⟨r,requests ▸ found,rfl⟩
  going i _ r found := requests ▸ found

theorem present_indexed {s next : State} {presented : Nat} {phase : Phase}
    (opened : s.present presented phase = some next) :
    ∃ token, s.minted[presented]? = some token ∧ next = { s with requests := s.requests ++ [⟨token,phase⟩] } := by
  unfold State.present at opened
  split at opened
  next token found =>
    split at opened
    next valid => exact ⟨token,found,(Option.some.inj opened).symm⟩
    next invalid => cases opened
  next missing => cases opened

private theorem elsewhere_opened {presented : Nat} {phase : Phase} {token : Minted}
    (found : b.server.minted[presented]? = some token)
    (foreign : ∀ m ∈ b.server.minted[presented]?, m ∉ b.own) :
    Elsewhere b { b.server with requests := b.server.requests ++ [⟨token,phase⟩] } where
  grown _ member := member
  minted _ member := Or.inl member
  uses _ member := Or.inl member
  ends _ member := Or.inl member
  threads i r at_i := by
    rw [List.getElem?_append] at at_i
    split at at_i
    next => exact Or.inl ⟨r,at_i,rfl⟩
    next past =>
      have here := List.mem_singleton.mp (List.mem_of_getElem? at_i)
      exact Or.inr ⟨by omega,here ▸ foreign token found⟩
  going i _ r at_i := by rw [List.getElem?_append_left (List.getElem?_eq_some_iff.mp at_i).1]; exact at_i

theorem set_threads {requests : List Request} {i : Nat} {r : Request} (phase : Phase)
    (found : requests[i]? = some r) (j : Nat)
    (other : Request) (at_j : (requests.set i { r with phase := phase })[j]? = some other) :
    ∃ old, requests[j]? = some old ∧ old.token = other.token := by
  by_cases same : i = j
  · subst same
    rw [List.getElem?_set_self (List.getElem?_eq_some_iff.mp found).1] at at_j
    cases at_j
    exact ⟨r,found,rfl⟩
  · rw [List.getElem?_set_ne same] at at_j
    exact ⟨other,at_j,rfl⟩

theorem elsewhere_step (kept : Kept config auth b) {platform : Platform} {action : Action} {next : State}
    (taken : Auth.step platform config b.server action = some next)
    (foreign : ∀ m ∈ presents b.server action, m ∉ b.own)
    (others : ∀ i, action = .proceed i → i ∉ b.waiting) : Elsewhere b next := by
  cases action with
  | tick milliseconds => cases taken; exact .same rfl rfl rfl rfl
  | deleteUser id => cases taken; exact .same rfl rfl rfl rfl
  | deleteToken id => cases taken; exact .same rfl rfl rfl rfl
  | cleanupExpiredTokens => cases taken; exact .same rfl rfl rfl rfl
  | createUser data =>
    obtain ⟨users,_,rfl⟩ := Option.map_eq_some_iff.mp taken
    exact .same rfl rfl rfl rfl
  | createToken userId id name rawValue salt =>
    simp only [Auth.step] at taken
    split at taken
    next => cases taken; exact .same rfl rfl rfl rfl
    next => cases taken
  | login userId =>
    obtain ⟨user,_,rfl⟩ := Option.map_eq_some_iff.mp taken
    refine { Elsewhere.same rfl rfl rfl rfl (t := b.server) with grown := ?_, minted := ?_ }
    · exact fun m member => (mem_minted_login config b.server user.selected none m).mpr (Or.inl member)
    · exact fun m member => (login_cases config b.server user.selected none m member).imp id And.left
  | refresh presented =>
    obtain ⟨token,found,rfl⟩ := present_indexed taken
    exact elsewhere_opened found foreign
  | logout presented =>
    obtain ⟨token,found,rfl⟩ := present_indexed taken
    exact elsewhere_opened found foreign
  | proceed i =>
    obtain ⟨r,after,phase,found,advanced,rfl⟩ := step_proceed taken
    have away : i ∉ b.waiting := others i rfl
    have strange : r.token ∉ b.own := fun ours => away ((kept.requests i r found).mp ours)
    have threads := set_threads phase found
    have going : ∀ j ∈ b.waiting, ∀ other : Request, b.server.requests[j]? = some other →
        (b.server.requests.set i { r with phase := phase })[j]? = some other := by
      intro j waits other at_j
      have apart : i ≠ j := by
        rintro rfl
        exact away waits
      rw [List.getElem?_set_ne apart]
      exact at_j
    rcases advance_cases advanced with ⟨rfl,_⟩ | ⟨_,_,_,_,rfl⟩ | ⟨user,_,rfl⟩ | ⟨_,_,_,rfl⟩
    · exact ⟨fun _ => id,fun _ => Or.inl,fun _ => Or.inl,fun _ => Or.inl,fun j other at_j =>
        Or.inl (threads j other at_j),going⟩
    · refine ⟨fun _ => id,fun _ => Or.inl,?_,fun _ => Or.inl,fun j other at_j => Or.inl (threads j other at_j),going⟩
      exact fun m member => (List.mem_cons.mp member).elim (fun same => Or.inr (same ▸ strange)) Or.inl
    · refine ⟨?_,?_,fun _ => Or.inl,fun _ => Or.inl,fun j other at_j => Or.inl (threads j other at_j),going⟩
      · exact fun m member => (mem_minted_login config b.server user (some r.token) m).mpr (Or.inl member)
      · exact fun m member => (login_cases config b.server user (some r.token) m member).imp id And.left
    · refine ⟨fun _ => id,fun _ => Or.inl,fun _ => Or.inl,?_,fun j other at_j => Or.inl (threads j other at_j),going⟩
      exact fun a member => (List.mem_cons.mp member).elim (fun same => Or.inr (same ▸ strange)) Or.inl

theorem kept_elsewhere (kept : Kept config auth b) {t : State} (inv : Inv config t) (later : Later b.server t)
    (elsewhere : Elsewhere b t) : Kept config auth (b.moved t b.waiting [] []) := by
  have grown : ∀ m ∈ b.own, m ∈ t.minted := fun m member => elsewhere.grown m (kept.own m member)
  have closed : ∀ m ∈ b.own, ∀ other ∈ t.minted, other.sid = m.sid → other ∈ b.own := by
    intro m member other inside same
    have below := own_below kept member
    rcases elsewhere.minted other inside with old | fresh
    · exact kept.closed m member other old same
    · omega
  have uses : ∀ m ∈ b.own, m ∈ t.refreshUses → m ∈ b.server.refreshUses := fun m member used =>
    (elsewhere.uses m used).resolve_right (not_not_intro member)
  have ends : ∀ m ∈ b.own, ∀ a ∈ t.logouts, a.sid = m.sid → a ∈ b.server.logouts := fun m member a ended same =>
    (elsewhere.ends a ended).resolve_right (not_not_intro (closed m member a (inv.ends a ended).1 same))
  refine kept.moved t b.waiting [] [] inv (by simpa using grown) (by simpa using closed) ?_ ?_ ?_ ?_ ?_ (by simp)
    (by simpa using kept.apart)
  · intro i r found
    rw [List.append_nil]
    rcases elsewhere.threads i r found with ⟨old,at_i,same⟩ | ⟨past,strange⟩
    · rw [← same]
      exact kept.requests i old at_i
    · exact iff_of_false strange (fun waits => by have inside := kept.waiting i waits; omega)
  · intro i waits
    have found := List.getElem?_eq_getElem (kept.waiting i waits)
    exact (List.getElem?_eq_some_iff.mp (elsewhere.going i waits _ found)).1
  · intro m member
    refine Safe.kept kept.inv later (kept.own m member) (uses m member) (ends m member) ?_
    rintro ⟨i,waits,r,found,named,stage⟩
    exact Or.inr (Or.inl ⟨i,waits,r,elsewhere.going i waits r found,named,stage⟩)
  · intro m member _ unspent
    exact ⟨fun used => unspent.1 (uses m member used),fun a ended same => unspent.2 a (ends m member a ended same) same⟩
  · intro m member r inside same
    have ours : r.token ∈ b.own := closed m member r.token (inv.presented r inside).1 same
    obtain ⟨i,found⟩ := List.getElem?_of_mem inside
    rcases elsewhere.threads i r found with ⟨old,at_i,named⟩ | ⟨_,strange⟩
    · exact Or.inl ⟨old,List.mem_of_getElem? at_i,named ▸ same⟩
    · exact absurd ours strange

section Mints

variable {t : State} {user : TUser} {parent : Option Nat} {family : Nat}

/-- The tokens of a login or a refresh. -/
def pairOf (config : Config) (s : State) (user : TUser) (parent : Option Nat) (family : Nat) : List Minted :=
  [mintedAccess config s.now s.fresh user parent family,mintedRefresh config s.now s.fresh user parent family]

/-- The server makes a pair, and nothing else but that a request goes on. -/
structure Mints (config : Config) (b : Browser) (t : State) (user : TUser) (parent : Option Nat) (family : Nat) :
    Prop where
  minted : t.minted = b.server.minted ++ pairOf config b.server user parent family
  uses : t.refreshUses = b.server.refreshUses
  ends : t.logouts = b.server.logouts
  threads : ∀ (i : Nat) (r : Request), t.requests[i]? = some r →
    ∃ old : Request, b.server.requests[i]? = some old ∧ old.token = r.token
  length : t.requests.length = b.server.requests.length

private theorem pairOf_sid {s : State} {m : Minted} (member : m ∈ pairOf config s user parent family) :
    m.sid = s.fresh := by
  rcases List.mem_cons.mp member with rfl | second
  · rfl
  · rw [List.mem_singleton.mp second]
    rfl

theorem Mints.requests_below (mints : Mints config b t user parent family) (kept : Kept config auth b) :
    ∀ r ∈ t.requests, r.token.sid < b.server.fresh := by
  intro r inside
  obtain ⟨i,found⟩ := List.getElem?_of_mem inside
  obtain ⟨old,at_i,named⟩ := mints.threads i r found
  have bound := kept.inv.bounded old.token (kept.inv.presented old (List.mem_of_getElem? at_i)).1
  rw [named] at bound
  omega

theorem Mints.own (mints : Mints config b t user parent family) (kept : Kept config auth b) :
    ∀ m ∈ b.own ++ pairOf config b.server user parent family, m ∈ t.minted := by
  intro m member
  rw [mints.minted]
  exact List.mem_append.mpr ((List.mem_append.mp member).imp_left (kept.own m))

theorem Mints.closed (mints : Mints config b t user parent family) (kept : Kept config auth b) :
    ∀ m ∈ b.own ++ pairOf config b.server user parent family, ∀ other ∈ t.minted, other.sid = m.sid →
      other ∈ b.own ++ pairOf config b.server user parent family := by
  intro m member other inside same
  rw [mints.minted] at inside
  rcases List.mem_append.mp inside with old | new
  · rcases List.mem_append.mp member with before | now
    · exact List.mem_append_left _ (kept.closed m before other old same)
    · have bound := kept.inv.bounded other old
      have named := pairOf_sid now
      omega
  · exact List.mem_append_right _ new

theorem Mints.requests (mints : Mints config b t user parent family) (kept : Kept config auth b) :
    ∀ i r, t.requests[i]? = some r →
      (r.token ∈ b.own ++ pairOf config b.server user parent family ↔ i ∈ b.waiting) := by
  intro i r found
  obtain ⟨old,at_i,named⟩ := mints.threads i r found
  have below := mints.requests_below kept r (List.mem_of_getElem? found)
  rw [← kept.requests i old at_i,named,List.mem_append,or_iff_left]
  intro new
  have same := pairOf_sid new
  omega

theorem Mints.unspent (mints : Mints config b t user parent family) (kept : Kept config auth b) :
    Unspent t (mintedRefresh config b.server.now b.server.fresh user parent family) := by
  unfold Unspent
  rw [mints.uses,mints.ends]
  constructor
  · intro used
    have bound := kept.inv.bounded _ (kept.inv.uses _ used)
    simp only [mintedRefresh] at bound
    omega
  · intro a ended same
    have bound := kept.inv.bounded a (kept.inv.ends a ended).1
    simp only [mintedRefresh] at same
    omega

theorem Mints.arriving (mints : Mints config b t user parent family) (kept : Kept config auth b) :
    (b.moved t b.waiting [.tokens b.server.now (login config b.server.now b.server.fresh user)]
      (pairOf config b.server user parent family)).Arriving (login config b.server.now b.server.fresh user)
        (mintedAccess config b.server.now b.server.fresh user parent family)
        (mintedRefresh config b.server.now b.server.fresh user parent family) where
  pair := ⟨⟨by simp [Browser.moved,pairOf],by simp [Browser.moved,pairOf]⟩,⟨rfl,rfl⟩,⟨rfl,rfl⟩,rfl,rfl⟩
  unspent := mints.unspent kept
  unsent := by
    intro r inside same
    have below := mints.requests_below kept r inside
    simp only [mintedRefresh] at same
    omega
  unseen := by
    intro entry inside same
    obtain ⟨m,member,named⟩ := jar_own kept inside
    have below := own_below kept member
    have equal : b.server.fresh = m.sid := Option.some.inj (same.symm.trans named)
    omega

/-- No answer brings the tokens of a session that is only made now. -/
theorem login_apart_answers (kept : Kept config auth b) (user : TUser) :
    (b.answers ++ [Answer.tokens b.server.now (login config b.server.now b.server.fresh user)]).Pairwise Apart := by
  rw [List.pairwise_append]
  refine ⟨kept.apart,List.pairwise_singleton _ _,?_⟩
  intro answer old new named
  obtain rfl := List.mem_singleton.mp named
  cases answer with
  | cleared => trivial
  | tokens made pair =>
    obtain ⟨a,m,arriving⟩ := kept.arriving made pair old
    intro same
    have below := own_below kept arriving.pair.known.2
    rw [← arriving.pair.refresh.1,m.signed.2.1] at same
    have equal : m.sid = b.server.fresh := Option.some.inj same
    omega

/-- The tokens of a login or a refresh, which the browser is to get. -/
theorem kept_minted (kept : Kept config auth b) (inv : Inv config t) (mints : Mints config b t user parent family) :
    Kept config auth (b.moved t b.waiting [.tokens b.server.now (login config b.server.now b.server.fresh user)]
      (pairOf config b.server user parent family)) := by
  refine kept.moved t b.waiting _ _ inv (mints.own kept) (mints.closed kept) (mints.requests kept) ?bounded
    (fun m _ _ => Safe.answered m) ?unspent ?unsent ?arriving (login_apart_answers kept user)
  case bounded =>
    intro i waits
    rw [mints.length]
    exact kept.waiting i waits
  case unspent =>
    intro m _ _ unspent
    unfold Unspent at unspent ⊢
    rw [mints.uses,mints.ends]
    exact unspent
  case unsent =>
    intro m _ r inside same
    obtain ⟨i,found⟩ := List.getElem?_of_mem inside
    obtain ⟨old,at_i,named⟩ := mints.threads i r found
    exact Or.inl ⟨old,List.mem_of_getElem? at_i,named ▸ same⟩
  case arriving =>
    intro made pair member
    obtain ⟨rfl,rfl⟩ := Answer.tokens.inj (List.mem_singleton.mp member)
    exact ⟨_,_,mints.arriving kept⟩

end Mints

end Browser

end BoarPack.Auth
