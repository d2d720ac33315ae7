import BoarPack.Auth.Service
import BoarPack.Library.Transition

/-! The authentication backend as a transition system. A `/auth/refresh` or
`/auth/logout` request is a thread that stops at each awaited database operation;
everything between two of them is one step of the event loop. The database, the
clock and the threads are the state; `minted`, `refreshUses`, `logouts` and `issued`
only record history (a refresh use and a logout count from the moment their insert
has executed), and no step reads them except to know which strings carry a valid
signature. -/
namespace BoarPack.Auth
open RevokedTokens Users JwtAuth Tokens

/-- A signed token with the claims that `sign` always sets, the session whose refresh
token was exchanged for it, and the first session of that chain. -/
structure Minted where
  payload : Payload
  jti : Nat
  sid : Nat
  exp : Int
  kind : TokenType
  parent : Option Nat
  family : Nat
  signed : payload.jti = some jti ∧ payload.sid = some sid ∧ payload.exp = some exp ∧
    payload.type = some kind
  deriving DecidableEq

/-- Where a request stands: the operation it performs next, or how it ended. -/
inductive Phase
  | refreshCount
  | refreshRevoke (jti : Nat)
  | refreshFind
  | refreshLogin (user : TUser)
  | refreshed
  | logoutCount
  | logoutFind
  | logout
  | logoutRevoke (tokens : List RevokedToken)
  | loggedOut
  | rejected (exception : Exception)
  deriving DecidableEq

structure Request where
  token : Minted
  phase : Phase
  deriving DecidableEq

structure Issued where
  userId : String
  id : String
  rawValue : String
  deriving DecidableEq

def Issued.value (issued : Issued) : String := issued.id ++ "." ++ issued.rawValue

structure State where
  now : Nat
  users : Users.Table
  apiTokens : Tokens.Table
  revokedTokens : RevokedTokens.Table
  requests : List Request
  fresh : Nat
  minted : List Minted
  refreshUses : List Minted
  logouts : List Minted
  issued : List Issued
  deriving DecidableEq

def State.initial (now : Nat) (users : Users.Table) : State :=
  ⟨now,users,[],[],[],0,[],[],[],[]⟩

def firstUser : User :=
  ⟨"0d2a4c1e-93b7-4f60-8a51-6c7be2f3d901","Admin","admin@admin.com",.admin,some "$2b$admin",[],none⟩

def firstUsers : Users.Table := [firstUser]

inductive Action
  | tick (milliseconds : Nat)
  | createUser (data : User)
  | deleteUser (id : String)
  | createToken (userId id name rawValue salt : String)
  | deleteToken (id : String)
  | login (userId : String)
  | refresh (presented : Nat)
  | logout (presented : Nat)
  | proceed (request : Nat)
  | cleanupExpiredTokens
  deriving DecidableEq

def mintedAccess (config : Config) (now fresh : Nat) (user : TUser) (parent : Option Nat) (family : Nat) :
    Minted :=
  { payload := (login config now fresh user).accessToken.token
    jti := fresh + 1
    sid := fresh
    exp := ((now / 1000 : Int) * 1000 + expiresIn config .access) / 1000
    kind := .access
    parent := parent
    family := family
    signed := ⟨rfl,rfl,rfl,rfl⟩ }

def mintedRefresh (config : Config) (now fresh : Nat) (user : TUser) (parent : Option Nat) (family : Nat) :
    Minted :=
  { payload := (login config now fresh user).refreshToken.token
    jti := fresh + 2
    sid := fresh
    exp := ((now / 1000 : Int) * 1000 + expiresIn config .refresh) / 1000
    kind := .refresh
    parent := parent
    family := family
    signed := ⟨rfl,rfl,rfl,rfl⟩ }

/-- `AuthService.login`: called by the login controllers without a predecessor, and by
`AuthController.refresh` after the refresh token `source` was accepted. -/
def State.login (config : Config) (s : State) (user : TUser) (source : Option Minted) : State :=
  let parent := source.map Minted.sid
  let family := (source.map Minted.family).getD s.fresh
  { s with
    fresh := s.fresh + 3
    minted := s.minted ++ [mintedAccess config s.now s.fresh user parent family,
      mintedRefresh config s.now s.fresh user parent family] }

def State.advance (config : Config) (s : State) (request : Request) : Option (State × Phase) :=
  let payload := request.token.payload
  match request.phase with
  | .refreshCount =>
    match JwtAuthRefreshStrategy.checkRevoked s.revokedTokens payload with
    | .ok jti => some (s,.refreshRevoke jti)
    | .error exception => some (s,.rejected exception)
  | .refreshRevoke jti =>
    some ({ s with
      revokedTokens := revokeRefreshToken s.revokedTokens
        (JwtAuthRefreshStrategy.usedToken config s.now payload jti)
      refreshUses := request.token :: s.refreshUses },.refreshFind)
  | .refreshFind =>
    match findUser s.users payload with
    | .ok user => some (s,.refreshLogin user)
    | .error exception => some (s,.rejected exception)
  | .refreshLogin user => some (s.login config user (some request.token),.refreshed)
  | .logoutCount =>
    match JwtAuthStrategy.checkRevoked s.revokedTokens payload with
    | .ok () => some (s,.logoutFind)
    | .error exception => some (s,.rejected exception)
  | .logoutFind =>
    match findUser s.users payload with
    | .ok _ => some (s,.logout)
    | .error exception => some (s,.rejected exception)
  | .logout =>
    match logoutToken payload with
    | some token => some (s,.logoutRevoke (tokensToRevoke token config.refreshTokenExpiration s.now))
    | none => some (s,.loggedOut)
  | .logoutRevoke tokens =>
    some ({ s with
      revokedTokens := revokeTokens s.revokedTokens tokens
      logouts := request.token :: s.logouts },.loggedOut)
  | .refreshed => none
  | .loggedOut => none
  | .rejected _ => none

/-- Passport verifies signature and expiration before the strategy's `validate` starts. -/
def State.present (s : State) (presented : Nat) (phase : Phase) : Option State :=
  match s.minted[presented]? with
  | some token =>
    if unexpired s.now token.payload then some { s with requests := s.requests ++ [⟨token,phase⟩] }
    else none
  | none => none

def step (platform : Platform) (config : Config) (s : State) : Action → Option State
  | .tick milliseconds => some { s with now := s.now + milliseconds }
  | .createUser data => (Users.create platform s.users data).map (fun users => { s with users := users })
  | .deleteUser id => some { s with users := softRemove s.users id s.now }
  | .createToken userId id name rawValue salt =>
    -- The id is a random uuid, drawn once; the raw value is hexadecimal.
    if isUuidText id && rawValue != "" && rawValue.toList.all (· != '.') &&
        s.users.any (·.id == userId) &&
        s.issued.all (fun old => !platform.uuidEq old.id id && !platform.uuidEq id old.id) then
      some { s with
        apiTokens := s.apiTokens ++ [⟨id,name,platform.hash salt rawValue,userId⟩]
        issued := ⟨userId,id,rawValue⟩ :: s.issued }
    else none
  | .deleteToken id => some { s with apiTokens := s.apiTokens.filter (fun row => !platform.uuidEq row.id id) }
  | .login userId =>
    -- A login that looked the user up before a deletion still reaches `AuthService.login`.
    (s.users.find? (·.id == userId)).map (fun user => s.login config user.selected none)
  | .refresh presented => s.present presented .refreshCount
  | .logout presented => s.present presented .logoutCount
  | .proceed request =>
    match s.requests[request]? with
    | some thread =>
      (s.advance config thread).map (fun result =>
        { result.1 with requests := result.1.requests.set request { thread with phase := result.2 } })
    | none => none
  | .cleanupExpiredTokens => some { s with revokedTokens := cleanupExpiredTokens s.revokedTokens s.now }

/-- Only a string that `sign` produced carries a signature that verifies. -/
def State.authentic (s : State) (payload : Payload) : Bool :=
  s.minted.any (fun token => token.payload == payload)

def State.acceptsAccess (s : State) (payload : Payload) : Bool :=
  s.authentic payload && unexpired s.now payload &&
    accepts (JwtAuthStrategy.validate s.revokedTokens s.users payload)

def State.acceptsRefresh (config : Config) (s : State) (payload : Payload) : Bool :=
  s.authentic payload && unexpired s.now payload &&
    accepts (JwtAuthRefreshStrategy.validate config s.now s.revokedTokens s.users payload).1

theorem advance_frame {config : Config} {s after : State} {r : Request} {phase : Phase}
    (advanced : s.advance config r = some (after,phase)) :
    after.now = s.now ∧ after.users = s.users ∧ after.apiTokens = s.apiTokens ∧
      after.requests = s.requests ∧ after.issued = s.issued := by
  unfold State.advance at advanced
  cases at_phase : r.phase <;> simp only [at_phase] at advanced
  all_goals first | cases advanced | skip
  all_goals first | exact ⟨rfl,rfl,rfl,rfl,rfl⟩ | (split at advanced <;> cases advanced <;> exact ⟨rfl,rfl,rfl,rfl,rfl⟩)

theorem advance_requests {config : Config} {s after : State} {r : Request} {phase : Phase}
    (advanced : s.advance config r = some (after,phase)) : after.requests = s.requests :=
  (advance_frame advanced).2.2.2.1

theorem present_some {s next : State} {presented : Nat} {phase : Phase}
    (opened : s.present presented phase = some next) : ∃ token ∈ s.minted,
      unexpired s.now token.payload = true ∧ next = { s with requests := s.requests ++ [⟨token,phase⟩] } := by
  unfold State.present at opened
  split at opened
  next token found =>
    split at opened
    next valid => exact ⟨token,List.mem_of_getElem? found,valid,(Option.some.inj opened).symm⟩
    next invalid => cases opened
  next missing => cases opened

theorem step_proceed {platform : Platform} {config : Config} {s next : State} {i : Nat}
    (taken : step platform config s (.proceed i) = some next) : ∃ r after phase,
      s.requests[i]? = some r ∧ s.advance config r = some (after,phase) ∧
      next = { after with requests := s.requests.set i { r with phase := phase } } := by
  simp only [step] at taken
  split at taken
  next r found =>
    obtain ⟨⟨after,phase⟩,advanced,rfl⟩ := Option.map_eq_some_iff.mp taken
    refine ⟨r,after,phase,found,advanced,?_⟩
    rw [advance_requests advanced]
  next missing => cases taken

theorem step_threads {platform : Platform} {config : Config} {s next : State} {action : Action}
    (taken : step platform config s action = some next) :
    (next.requests = s.requests ∧ next.refreshUses = s.refreshUses) ∨
    (∃ token phase, (phase = .refreshCount ∨ phase = .logoutCount) ∧
      next = { s with requests := s.requests ++ [⟨token,phase⟩] }) ∨
    ∃ i r after phase, action = .proceed i ∧ s.requests[i]? = some r ∧
      s.advance config r = some (after,phase) ∧
      next = { after with requests := s.requests.set i { r with phase := phase } } := by
  cases action with
  | refresh presented =>
    obtain ⟨token,_,_,opened⟩ := present_some taken
    exact Or.inr (Or.inl ⟨token,_,Or.inl rfl,opened⟩)
  | logout presented =>
    obtain ⟨token,_,_,opened⟩ := present_some taken
    exact Or.inr (Or.inl ⟨token,_,Or.inr rfl,opened⟩)
  | proceed i =>
    obtain ⟨r,after,phase,found,advanced,moved⟩ := step_proceed taken
    exact Or.inr (Or.inr ⟨i,r,after,phase,rfl,found,advanced,moved⟩)
  | tick milliseconds => cases taken; exact Or.inl ⟨rfl,rfl⟩
  | deleteUser id => cases taken; exact Or.inl ⟨rfl,rfl⟩
  | deleteToken id => cases taken; exact Or.inl ⟨rfl,rfl⟩
  | cleanupExpiredTokens => cases taken; exact Or.inl ⟨rfl,rfl⟩
  | createUser data =>
    obtain ⟨users,created,rfl⟩ := Option.map_eq_some_iff.mp taken
    exact Or.inl ⟨rfl,rfl⟩
  | login userId =>
    obtain ⟨user,found,rfl⟩ := Option.map_eq_some_iff.mp taken
    exact Or.inl ⟨rfl,rfl⟩
  | createToken userId id name rawValue salt =>
    simp only [step] at taken
    split at taken
    next allowed => cases taken; exact Or.inl ⟨rfl,rfl⟩
    next refused => cases taken

end BoarPack.Auth
