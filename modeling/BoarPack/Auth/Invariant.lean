import BoarPack.Auth.System

/-! The invariant of the authentication backend. The revocation table is a lossy
cache of the history: each row is explained by a refresh use or a logout and lives
at least as long as what it blocks, and each revocation in the history still has its
row unless what it blocks has expired. A session holds one access and one refresh
token, so that the access token of a closed session is always blocked by its own jti. -/
namespace BoarPack.Auth
open RevokedTokens Users JwtAuth Tokens

def logoutRow (token : Minted) : RevokedToken :=
  ⟨token.jti,some token.sid,.access,token.exp * 1000⟩

def Ready (config : Config) (s : State) (request : Request) : Prop :=
  match request.phase with
  | .refreshRevoke jti => request.token.kind = .refresh ∧ jti = request.token.jti
  | .refreshFind => request.token.kind = .refresh
  | .refreshLogin user => request.token.kind = .refresh ∧ ∃ row ∈ s.users, row.id = user.id
  | .logoutFind => request.token.kind = .access
  | .logout => request.token.kind = .access
  | .logoutRevoke tokens => request.token.kind = .access ∧ ∃ asked : Nat,
      tokens = tokensToRevoke (logoutRow request.token) config.refreshTokenExpiration asked ∧
      ∀ m ∈ s.minted, m.sid = request.token.sid → m.exp * 1000 ≤ asked + expiresIn config m.kind
  | _ => True

def RowOfToken (s : State) (row : RevokedToken) : Prop :=
  row.tokenType ≠ .session ∧ ∃ m, (m ∈ s.refreshUses ∨ m ∈ s.logouts) ∧ m.jti = row.jti ∧
    m.exp * 1000 ≤ row.expiresAt

/-- A row blocks a session for the lifetime of a refresh token after the logout; the
tokens of the session were minted before it, each with its own lifetime. -/
def RowOfSession (config : Config) (s : State) (row : RevokedToken) : Prop :=
  row.tokenType = .session ∧ ∃ m ∈ s.logouts, m.sid = row.jti ∧ row.sid = some m.sid ∧
    ∀ other ∈ s.minted, other.sid = m.sid →
      other.exp * 1000 + config.refreshTokenExpiration ≤ row.expiresAt + expiresIn config other.kind

def SignedBefore (config : Config) (s : State) (m : Minted) : Prop :=
  ∃ (issuedAt : Nat) (base : Payload), issuedAt ≤ s.now ∧
    m.payload = (sign config issuedAt m.jti base m.kind).token

def Blocked (s : State) (m : Minted) : Prop :=
  (∃ row ∈ s.revokedTokens, row.jti = m.jti ∧ row.tokenType ≠ .session) ∨ m.exp * 1000 < s.now

def Closed (s : State) (m : Minted) : Prop :=
  (∃ row ∈ s.revokedTokens, row.sid = some m.sid ∧ row.tokenType = .session) ∨
    ∀ other ∈ s.minted, other.sid = m.sid → other.kind = .refresh → other.exp * 1000 < s.now

structure Inv (config : Config) (s : State) : Prop where
  bounded : ∀ m ∈ s.minted, m.sid < m.jti ∧ m.jti < s.fresh
  apart : ∀ m ∈ s.minted, ∀ other ∈ s.minted, m.jti ≠ other.sid
  distinct : ∀ m ∈ s.minted, ∀ other ∈ s.minted, m.jti = other.jti → m = other
  paired : ∀ m ∈ s.minted, ∀ other ∈ s.minted, m.sid = other.sid → m.kind = other.kind → m = other
  kinds : ∀ m ∈ s.minted, m.kind = .access ∨ m.kind = .refresh
  signed : ∀ m ∈ s.minted, SignedBefore config s m
  owned : ∀ m ∈ s.minted, ∃ row ∈ s.users, row.id = m.payload.sub
  dated : ∀ m ∈ s.minted, m.exp * 1000 ≤ s.now + expiresIn config m.kind
  presented : ∀ r ∈ s.requests, r.token ∈ s.minted ∧ 0 < r.token.exp
  ready : ∀ r ∈ s.requests, Ready config s r
  uses : ∀ m ∈ s.refreshUses, m ∈ s.minted
  ends : ∀ m ∈ s.logouts, m ∈ s.minted ∧ m.kind = .access
  rows : ∀ row ∈ s.revokedTokens, RowOfToken s row ∨ RowOfSession config s row
  blocked : ∀ m, m ∈ s.refreshUses ∨ m ∈ s.logouts → Blocked s m
  closed : ∀ m ∈ s.logouts, Closed s m

theorem inv_initial (config : Config) (now : Nat) (users : Users.Table) :
    Inv config (State.initial now users) := by
  constructor <;> simp [State.initial]

variable {config : Config} {s : State}

private theorem inv_tick (inv : Inv config s) (milliseconds : Nat) :
    Inv config { s with now := s.now + milliseconds } := by
  refine { inv with signed := ?_, dated := ?_, blocked := ?_, closed := ?_ }
  · intro m member
    obtain ⟨issuedAt,base,past,same⟩ := inv.signed m member
    exact ⟨issuedAt,base,Nat.le_add_right_of_le past,same⟩
  · intro m member
    have bound := inv.dated m member
    push_cast
    omega
  · intro m recorded
    rcases inv.blocked m recorded with row | expired
    · exact Or.inl row
    · refine Or.inr ?_
      push_cast
      omega
  · intro m recorded
    rcases inv.closed m recorded with row | expired
    · exact Or.inl row
    · refine Or.inr (fun other member session kind => ?_)
      have passed := expired other member session kind
      push_cast
      omega

/-- What a request has found out stays true while the users stay and its session gets no token. -/
theorem Ready.grows {t : State} {r : Request} (ready : Ready config s r)
    (kept : ∀ row ∈ s.users, ∃ after ∈ t.users, after.id = row.id)
    (session : ∀ m ∈ t.minted, m.sid = r.token.sid → m ∈ s.minted) : Ready config t r := by
  unfold Ready at ready ⊢
  cases at_phase : r.phase <;> simp only [at_phase] at ready ⊢ <;> try exact ready
  case refreshLogin user =>
    obtain ⟨kind,row,known,same⟩ := ready
    obtain ⟨after,stays,named⟩ := kept row known
    exact ⟨kind,after,stays,named.trans same⟩
  case logoutRevoke tokens =>
    obtain ⟨kind,asked,rows,bound⟩ := ready
    exact ⟨kind,asked,rows,fun m member same => bound m (session m member same) same⟩

private theorem inv_frame (inv : Inv config s) (users : Users.Table) (apiTokens : Tokens.Table)
    (issued : List Issued)
    (kept : ∀ row ∈ s.users, ∃ after ∈ users, after.id = row.id) :
    Inv config { s with users := users, apiTokens := apiTokens, issued := issued } := by
  refine { inv with owned := ?_, ready := ?_ }
  · intro m member
    obtain ⟨row,inside,same⟩ := inv.owned m member
    obtain ⟨after,stays,named⟩ := kept row inside
    exact ⟨after,stays,named.trans same⟩
  · exact fun r inside => (inv.ready r inside).grows kept (fun _ member _ => member)

private theorem inv_present (inv : Inv config s) (presented : Nat) (phase : Phase) (next : State)
    (opening : phase = .refreshCount ∨ phase = .logoutCount)
    (taken : s.present presented phase = some next) : Inv config next := by
  obtain ⟨token,member,valid,rfl⟩ := present_some taken
  have alive := (unexpired_iff s.now token.payload token.exp token.signed.2.2.1).mp valid
  have positive : 0 < token.exp := by omega
  refine { inv with presented := ?_, ready := ?_ }
  · intro r inside
    rcases List.mem_append.mp inside with old | new
    · exact inv.presented r old
    · rw [List.mem_singleton.mp new]
      exact ⟨member,positive⟩
  · intro r inside
    rcases List.mem_append.mp inside with old | new
    · exact inv.ready r old
    · rw [List.mem_singleton.mp new]
      rcases opening with same | same <;> simp [Ready,same]

theorem mem_minted_login (config : Config) (s : State) (user : TUser) (source : Option Minted) (m : Minted) :
    m ∈ (s.login config user source).minted ↔ m ∈ s.minted ∨
      m = mintedAccess config s.now s.fresh user (source.map Minted.sid)
        ((source.map Minted.family).getD s.fresh) ∨
      m = mintedRefresh config s.now s.fresh user (source.map Minted.sid)
        ((source.map Minted.family).getD s.fresh) := by
  simp [State.login]

theorem login_cases (config : Config) (s : State) (user : TUser) (source : Option Minted) (m : Minted)
    (member : m ∈ (s.login config user source).minted) :
    m ∈ s.minted ∨ (m.sid = s.fresh ∧ (SignedBefore config s m ∧ m.payload.sub = user.id) ∧
      m.exp * 1000 ≤ s.now + expiresIn config m.kind ∧
      ((m.kind = .access ∧ m.jti = s.fresh + 1) ∨ (m.kind = .refresh ∧ m.jti = s.fresh + 2))) := by
  rcases (mem_minted_login config s user source m).mp member with old | rfl | rfl
  · exact Or.inl old
  · refine Or.inr ⟨rfl,⟨⟨s.now,_,Nat.le_refl _,rfl⟩,rfl⟩,?_,Or.inl ⟨rfl,rfl⟩⟩
    simp only [mintedAccess]
    omega
  · refine Or.inr ⟨rfl,⟨⟨s.now,_,Nat.le_refl _,rfl⟩,rfl⟩,?_,Or.inr ⟨rfl,rfl⟩⟩
    simp only [mintedRefresh]
    omega

private theorem login_minted_unique (config : Config) (s : State) (user : TUser) (source : Option Minted)
    (m other : Minted) (fresh : m ∉ s.minted) (alsoFresh : other ∉ s.minted)
    (member : m ∈ (s.login config user source).minted)
    (inside : other ∈ (s.login config user source).minted) (kind : m.kind = other.kind) : m = other := by
  rcases (mem_minted_login config s user source m).mp member with old | rfl | rfl
  · exact absurd old fresh
  · rcases (mem_minted_login config s user source other).mp inside with old | rfl | rfl
    · exact absurd old alsoFresh
    · rfl
    · cases kind
  · rcases (mem_minted_login config s user source other).mp inside with old | rfl | rfl
    · exact absurd old alsoFresh
    · cases kind
    · rfl

private theorem older_than_login (inv : Inv config s) {m : Minted} (member : m ∈ s.minted) : m.sid ≠ s.fresh := by
  intro same
  have bound := inv.bounded m member
  omega

private theorem session_before_login (inv : Inv config s) {user : TUser} {source : Option Minted} {m other : Minted}
    (member : m ∈ s.minted) (inside : other ∈ (s.login config user source).minted) (same : other.sid = m.sid) :
    other ∈ s.minted := by
  rcases login_cases config s user source other inside with old | ⟨new,_⟩
  · exact old
  · exact absurd (same.symm.trans new) (older_than_login inv member)

private theorem login_bounded (inv : Inv config s) (user : TUser) (source : Option Minted) :
    ∀ m ∈ (s.login config user source).minted, m.sid < m.jti ∧ m.jti < s.fresh + 3 := by
  intro m member
  rcases login_cases config s user source m member with old | ⟨session,_,_,⟨_,named⟩ | ⟨_,named⟩⟩
  · have bound := inv.bounded m old
    omega
  · omega
  · omega

private theorem login_apart (inv : Inv config s) (user : TUser) (source : Option Minted) :
    ∀ m ∈ (s.login config user source).minted, ∀ other ∈ (s.login config user source).minted, m.jti ≠ other.sid := by
  intro m member other inside same
  rcases login_cases config s user source m member with old | ⟨session,_,_,named⟩
  · have bound := inv.bounded m old
    rcases login_cases config s user source other inside with past | ⟨recent,_⟩
    · exact inv.apart m old other past same
    · omega
  · rcases login_cases config s user source other inside with past | ⟨recent,_⟩
    · have bound := inv.bounded other past
      omega
    · omega

private theorem login_distinct (inv : Inv config s) (user : TUser) (source : Option Minted) :
    ∀ m ∈ (s.login config user source).minted, ∀ other ∈ (s.login config user source).minted, m.jti = other.jti →
      m = other := by
  intro m member other inside same
  rcases login_cases config s user source m member with old | ⟨session,_,_,named⟩
  · have bound := inv.bounded m old
    rcases login_cases config s user source other inside with past | ⟨recent,_,_,alsoNamed⟩
    · exact inv.distinct m old other past same
    · omega
  · rcases login_cases config s user source other inside with past | ⟨recent,_,_,alsoNamed⟩
    · have bound := inv.bounded other past
      omega
    · refine login_minted_unique config s user source m other (fun old => older_than_login inv old session)
        (fun past => older_than_login inv past recent) member inside ?_
      -- the two tokens of a login have ids one apart
      rcases named with ⟨kind,_⟩ | ⟨kind,_⟩ <;> rcases alsoNamed with ⟨alsoKind,_⟩ | ⟨alsoKind,_⟩
      · exact kind.trans alsoKind.symm
      · omega
      · omega
      · exact kind.trans alsoKind.symm

private theorem login_paired (inv : Inv config s) (user : TUser) (source : Option Minted) :
    ∀ m ∈ (s.login config user source).minted, ∀ other ∈ (s.login config user source).minted,
      m.sid = other.sid → m.kind = other.kind → m = other := by
  intro m member other inside same kind
  rcases login_cases config s user source m member with old | ⟨session,_⟩
  · have past := session_before_login inv old inside same.symm
    exact inv.paired m old other past same kind
  · rcases login_cases config s user source other inside with past | ⟨recent,_⟩
    · exact absurd (same.symm.trans session) (older_than_login inv past)
    · exact login_minted_unique config s user source m other (fun old => older_than_login inv old session)
        (fun past => older_than_login inv past recent) member inside kind

/-- A row that blocks a session still does: the session gets no token by a login. -/
theorem RowOfSession.login (inv : Inv config s) {row : RevokedToken} (blocks : RowOfSession config s row) (user : TUser)
    (source : Option Minted) : RowOfSession config (s.login config user source) row := by
  obtain ⟨typed,m,recorded,named,session,bound⟩ := blocks
  exact ⟨typed,m,recorded,named,session,fun other member same =>
    bound other (session_before_login inv (inv.ends m recorded).1 member same) same⟩

private theorem login_closed (inv : Inv config s) (user : TUser) (source : Option Minted) :
    ∀ m ∈ s.logouts, Closed (s.login config user source) m := by
  intro m recorded
  rcases inv.closed m recorded with row | expired
  · exact Or.inl row
  · exact Or.inr (fun other member same refresh =>
      expired other (session_before_login inv (inv.ends m recorded).1 member same) same refresh)

private theorem inv_login (inv : Inv config s) (user : TUser) (source : Option Minted)
    (owner : ∃ row ∈ s.users, row.id = user.id) :
    Inv config (s.login config user source) := by
  have cases := login_cases config s user source
  have grown : ∀ m ∈ s.minted, m ∈ (s.login config user source).minted := fun m member =>
    (mem_minted_login config s user source m).mpr (Or.inl member)
  constructor
  case bounded => exact login_bounded inv user source
  case apart => exact login_apart inv user source
  case distinct => exact login_distinct inv user source
  case paired => exact login_paired inv user source
  case kinds =>
    intro m member
    rcases cases m member with old | ⟨_,_,_,⟨kind,_⟩ | ⟨kind,_⟩⟩
    · exact inv.kinds m old
    · exact Or.inl kind
    · exact Or.inr kind
  case signed =>
    intro m member
    rcases cases m member with old | ⟨_,⟨signed,_⟩,_⟩
    · exact inv.signed m old
    · exact signed
  case owned =>
    intro m member
    rcases cases m member with old | ⟨_,⟨_,subject⟩,_⟩
    · exact inv.owned m old
    · rw [subject]
      exact owner
  case dated =>
    intro m member
    rcases cases m member with old | ⟨_,_,bound,_⟩
    · exact inv.dated m old
    · exact bound
  case presented =>
    intro r inside
    have known := inv.presented r inside
    exact ⟨grown r.token known.1,known.2⟩
  case ready =>
    intro r inside
    have known := (inv.presented r inside).1
    exact (inv.ready r inside).grows (fun row stays => ⟨row,stays,rfl⟩)
      (fun m member same => session_before_login inv known member same)
  case uses => exact fun m recorded => grown m (inv.uses m recorded)
  case ends => exact fun m recorded => ⟨grown m (inv.ends m recorded).1,(inv.ends m recorded).2⟩
  case rows =>
    intro row inside
    rcases inv.rows row inside with token | session
    · exact Or.inl token
    · exact Or.inr (session.login inv user source)
  case blocked => exact inv.blocked
  case closed => exact login_closed inv user source

private theorem inv_phase (inv : Inv config s) (i : Nat) (r : Request) (phase : Phase)
    (thread : s.requests[i]? = some r) (ready : Ready config s { r with phase := phase }) :
    Inv config { s with requests := s.requests.set i { r with phase := phase } } := by
  have member : r ∈ s.requests := List.mem_of_getElem? thread
  refine { inv with presented := ?_, ready := ?_ }
  · intro other inside
    rcases List.mem_or_eq_of_mem_set inside with old | rfl
    · exact inv.presented other old
    · exact inv.presented r member
  · intro other inside
    rcases List.mem_or_eq_of_mem_set inside with old | rfl
    · exact inv.ready other old
    · exact ready

theorem recorded_minted (inv : Inv config s) (m : Minted) (recorded : m ∈ s.refreshUses ∨ m ∈ s.logouts) :
    m ∈ s.minted := by
  rcases recorded with used | ended
  · exact inv.uses m used
  · exact (inv.ends m ended).1

private theorem conflict_of_token (inv : Inv config s) (m : Minted) (member : m ∈ s.minted) (row : RevokedToken)
    (inside : row ∈ s.revokedTokens) (same : row.jti = m.jti) : row.tokenType ≠ .session := by
  rcases inv.rows row inside with ⟨typed,_⟩ | ⟨_,other,recorded,named,_⟩
  · exact typed
  · exact absurd (same.symm.trans named.symm) (inv.apart m member other (inv.ends other recorded).1)

private theorem conflict_of_session (inv : Inv config s) (m : Minted) (member : m ∈ s.minted) (row : RevokedToken)
    (inside : row ∈ s.revokedTokens) (same : row.jti = m.sid) :
    row.sid = some m.sid ∧ row.tokenType = .session := by
  rcases inv.rows row inside with ⟨_,other,recorded,named,_⟩ | ⟨typed,other,recorded,named,session,_⟩
  · exact absurd (named.trans same) (inv.apart other (recorded_minted inv other recorded) m member)
  · refine ⟨?_,typed⟩
    rw [session,named,same]

theorem Blocked.grows {t : State} {m : Minted} (blocked : Blocked s m) (clock : t.now = s.now)
    (rows : ∀ row ∈ s.revokedTokens, row ∈ t.revokedTokens) : Blocked t m := by
  rcases blocked with ⟨row,inside,named⟩ | expired
  · exact Or.inl ⟨row,rows row inside,named⟩
  · exact Or.inr (by rw [clock]; exact expired)

theorem Closed.grows {t : State} {m : Minted} (closed : Closed s m) (clock : t.now = s.now)
    (tokens : t.minted = s.minted) (rows : ∀ row ∈ s.revokedTokens, row ∈ t.revokedTokens) :
    Closed t m := by
  rcases closed with ⟨row,inside,named⟩ | expired
  · exact Or.inl ⟨row,rows row inside,named⟩
  · exact Or.inr (by rw [clock,tokens]; exact expired)

private theorem inv_spend (inv : Inv config s) (token : Minted) (member : token ∈ s.minted)
    (positive : 0 < token.exp) :
    Inv config { s with
      revokedTokens := revokeRefreshToken s.revokedTokens
        (JwtAuthRefreshStrategy.usedToken config s.now token.payload token.jti)
      refreshUses := token :: s.refreshUses } := by
  have dated : (JwtAuthRefreshStrategy.usedToken config s.now token.payload token.jti).expiresAt =
      token.exp * 1000 := by
    have nonzero : token.exp ≠ 0 := by omega
    simp [JwtAuthRefreshStrategy.usedToken,token.signed.2.2.1,nonzero]
  have kept : ∀ row ∈ s.revokedTokens, row ∈ revokeRefreshToken s.revokedTokens
      (JwtAuthRefreshStrategy.usedToken config s.now token.payload token.jti) :=
    fun row inside => mem_revokeTokens_old _ inside
  refine { inv with uses := ?_, rows := ?_, blocked := ?_, closed := ?_ }
  · intro m recorded
    rcases List.mem_cons.mp recorded with rfl | old
    · exact member
    · exact inv.uses m old
  · intro row inside
    rcases mem_revokeTokens _ _ row inside with old | new
    · rcases inv.rows row old with ⟨typed,m,recorded,named,bound⟩ | session
      · exact Or.inl ⟨typed,m,recorded.imp (List.mem_cons_of_mem _) id,named,bound⟩
      · exact Or.inr session
    · rw [List.mem_singleton.mp new]
      refine Or.inl ⟨?_,token,Or.inl List.mem_cons_self,rfl,?_⟩
      · simp [JwtAuthRefreshStrategy.usedToken]
      · exact Int.le_of_eq dated.symm
  · intro m recorded
    have split : m = token ∨ (m ∈ s.refreshUses ∨ m ∈ s.logouts) := by
      rcases recorded with used | ended
      · rcases List.mem_cons.mp used with same | old
        · exact Or.inl same
        · exact Or.inr (Or.inl old)
      · exact Or.inr (Or.inr ended)
    rcases split with rfl | old
    · refine Or.inl ?_
      rcases revokeTokens_present s.revokedTokens
          [JwtAuthRefreshStrategy.usedToken config s.now m.payload m.jti] _ List.mem_cons_self with
        placed | ⟨row,source,inside,same⟩
      · exact ⟨_,placed,rfl,by simp [JwtAuthRefreshStrategy.usedToken]⟩
      · rcases source with before | itself
        · exact ⟨row,inside,same,conflict_of_token inv m member row before same⟩
        · refine ⟨row,inside,same,?_⟩
          rw [List.mem_singleton.mp itself]
          simp [JwtAuthRefreshStrategy.usedToken]
    · exact (inv.blocked m old).grows rfl kept
  · exact fun m recorded => (inv.closed m recorded).grows rfl rfl kept

private theorem inv_close (inv : Inv config s) (token : Minted) (asked : Nat) (member : token ∈ s.minted)
    (kind : token.kind = .access)
    (bound : ∀ m ∈ s.minted, m.sid = token.sid → m.exp * 1000 ≤ asked + expiresIn config m.kind) :
    Inv config { s with
      revokedTokens := revokeTokens s.revokedTokens
        (tokensToRevoke (logoutRow token) config.refreshTokenExpiration asked)
      logouts := token :: s.logouts } := by
  have names := (inv.bounded token member).1
  let sessionRow : RevokedToken :=
    ⟨token.sid,some token.sid,.session,asked + config.refreshTokenExpiration⟩
  have rowsInserted : tokensToRevoke (logoutRow token) config.refreshTokenExpiration asked =
      [logoutRow token,sessionRow] := rfl
  rw [rowsInserted]
  have kept : ∀ row ∈ s.revokedTokens, row ∈ revokeTokens s.revokedTokens [logoutRow token,sessionRow] :=
    fun row inside => mem_revokeTokens_old _ inside
  refine { inv with ends := ?_, rows := ?_, blocked := ?_, closed := ?_ }
  · intro m recorded
    rcases List.mem_cons.mp recorded with rfl | old
    · exact ⟨member,kind⟩
    · exact inv.ends m old
  · intro row inside
    rcases mem_revokeTokens _ _ row inside with old | new
    · rcases inv.rows row old with ⟨typed,m,recorded,named,later⟩ | ⟨typed,m,recorded,rest⟩
      · exact Or.inl ⟨typed,m,recorded.imp id (List.mem_cons_of_mem _),named,later⟩
      · exact Or.inr ⟨typed,m,List.mem_cons_of_mem _ recorded,rest⟩
    · rcases List.mem_cons.mp new with same | last
      · rw [same]
        exact Or.inl ⟨by simp [logoutRow],token,Or.inr List.mem_cons_self,rfl,Int.le_refl _⟩
      · rw [List.mem_singleton.mp last]
        refine Or.inr ⟨rfl,token,List.mem_cons_self,rfl,rfl,fun other known same => ?_⟩
        have early := bound other known same
        simp only [sessionRow]
        omega
  · intro m recorded
    have split : m = token ∨ (m ∈ s.refreshUses ∨ m ∈ s.logouts) := by
      rcases recorded with used | ended
      · exact Or.inr (Or.inl used)
      · rcases List.mem_cons.mp ended with same | old
        · exact Or.inl same
        · exact Or.inr (Or.inr old)
    rcases split with rfl | old
    · refine Or.inl ?_
      rcases revokeTokens_present s.revokedTokens [logoutRow m,sessionRow] (logoutRow m)
          List.mem_cons_self with placed | ⟨row,source,inside,same⟩
      · exact ⟨logoutRow m,placed,rfl,by simp [logoutRow]⟩
      · refine ⟨row,inside,same,?_⟩
        rcases source with before | itself
        · exact conflict_of_token inv m member row before same
        · rcases List.mem_cons.mp itself with own | last
          · simp [own,logoutRow]
          · rw [List.mem_singleton.mp last] at same
            change m.sid = m.jti at same
            omega
    · exact (inv.blocked m old).grows rfl kept
  · intro m recorded
    rcases List.mem_cons.mp recorded with rfl | old
    · refine Or.inl ?_
      rcases revokeTokens_present s.revokedTokens [logoutRow m,sessionRow] sessionRow
          (List.mem_cons_of_mem _ List.mem_cons_self) with placed | ⟨row,source,inside,same⟩
      · exact ⟨sessionRow,placed,rfl,rfl⟩
      · refine ⟨row,inside,?_⟩
        rcases source with before | itself
        · exact conflict_of_session inv m member row before same
        · rcases List.mem_cons.mp itself with own | last
          · rw [own] at same
            change m.jti = m.sid at same
            omega
          · rw [List.mem_singleton.mp last]
            exact ⟨rfl,rfl⟩
    · exact (inv.closed m old).grows rfl rfl kept

theorem inv_cleanup (inv : Inv config s) :
    Inv config { s with revokedTokens := cleanupExpiredTokens s.revokedTokens s.now } := by
  have kept : ∀ row ∈ s.revokedTokens, row ∈ cleanupExpiredTokens s.revokedTokens s.now ∨
      row.expiresAt < s.now := by
    intro row inside
    rw [mem_cleanupExpiredTokens]
    rcases Int.lt_or_le row.expiresAt s.now with past | later
    · exact Or.inr past
    · exact Or.inl ⟨inside,later⟩
  refine { inv with rows := ?_, blocked := ?_, closed := ?_ }
  · exact fun row inside => inv.rows row ((mem_cleanupExpiredTokens _ _ row).mp inside).1
  · intro m recorded
    rcases inv.blocked m recorded with ⟨row,inside,named,typed⟩ | expired
    · rcases kept row inside with stays | past
      · exact Or.inl ⟨row,stays,named,typed⟩
      · refine Or.inr ?_
        rcases inv.rows row inside with ⟨_,other,known,same,bound⟩ | ⟨session,_⟩
        · have equal := inv.distinct other (recorded_minted inv other known) m
            (recorded_minted inv m recorded) (same.trans named)
          rw [equal] at bound
          exact Int.lt_of_le_of_lt bound past
        · exact absurd session typed
    · exact Or.inr expired
  · intro m recorded
    rcases inv.closed m recorded with ⟨row,inside,named,typed⟩ | expired
    · rcases kept row inside with stays | past
      · exact Or.inl ⟨row,stays,named,typed⟩
      · refine Or.inr ?_
        rcases inv.rows row inside with ⟨other,_⟩ | ⟨_,ended,_,_,session,bound⟩
        · exact absurd typed other
        · have same : ended.sid = m.sid := Option.some.inj (session.symm.trans named)
          intro other member sameSession refresh
          have early := bound other member (sameSession.trans same.symm)
          simp only [refresh,expiresIn,reduceCtorEq,if_false] at early
          change other.exp * 1000 < (s.now : Int)
          omega
    · exact Or.inr expired

theorem kind_of_type (token : Minted) (kind : TokenType) (typed : token.payload.type = some kind) :
    token.kind = kind :=
  Option.some.inj (token.signed.2.2.2.symm.trans typed)

private theorem logoutToken_minted (token : Minted) (positive : 0 < token.exp) :
    logoutToken token.payload = some (logoutRow token) := by
  have nonzero : token.exp ≠ 0 := by omega
  simp [logoutToken,logoutRow,token.signed.1,token.signed.2.1,token.signed.2.2.1,nonzero]

theorem inv_advance (inv : Inv config s) (i : Nat) (r : Request) (thread : s.requests[i]? = some r)
    (next : State) (phase : Phase) (taken : s.advance config r = some (next,phase)) :
    Inv config { next with requests := next.requests.set i { r with phase := phase } } := by
  have inside : r ∈ s.requests := List.mem_of_getElem? thread
  obtain ⟨member,positive⟩ := inv.presented r inside
  have ready := inv.ready r inside
  unfold State.advance at taken
  unfold Ready at ready
  cases at_phase : r.phase with
  | refreshCount =>
    simp only [at_phase] at taken
    split at taken
    next jti checked =>
      cases Option.some.inj taken
      obtain ⟨typed,named,_⟩ := (refresh_checkRevoked_ok _ _ jti).mp checked
      refine inv_phase inv i r _ thread ⟨kind_of_type r.token .refresh typed,?_⟩
      exact Option.some.inj (named.symm.trans r.token.signed.1)
    next exception checked =>
      cases Option.some.inj taken
      exact inv_phase inv i r _ thread trivial
  | refreshRevoke jti =>
    simp only [at_phase] at taken ready
    cases Option.some.inj taken
    obtain ⟨kind,rfl⟩ := ready
    exact inv_phase (inv_spend inv r.token member positive) i r _ thread kind
  | refreshFind =>
    simp only [at_phase] at taken ready
    split at taken
    next user found =>
      cases Option.some.inj taken
      obtain ⟨row,known,same⟩ := findUser_ok s.users r.token.payload user found
      exact inv_phase inv i r _ thread ⟨ready,row,known,same ▸ rfl⟩
    next exception missing =>
      cases Option.some.inj taken
      exact inv_phase inv i r _ thread trivial
  | refreshLogin user =>
    simp only [at_phase] at taken ready
    cases Option.some.inj taken
    exact inv_phase (inv_login inv user (some r.token) ready.2) i r _ thread trivial
  | logoutCount =>
    simp only [at_phase] at taken
    split at taken
    next checked =>
      cases Option.some.inj taken
      obtain ⟨typed,_⟩ := (access_checkRevoked_ok _ _ r.token.jti r.token.signed.1).mp checked
      exact inv_phase inv i r _ thread (kind_of_type r.token .access typed)
    next exception checked =>
      cases Option.some.inj taken
      exact inv_phase inv i r _ thread trivial
  | logoutFind =>
    simp only [at_phase] at taken ready
    split at taken
    next user found =>
      cases Option.some.inj taken
      exact inv_phase inv i r _ thread ready
    next exception missing =>
      cases Option.some.inj taken
      exact inv_phase inv i r _ thread trivial
  | logout =>
    simp only [at_phase,logoutToken_minted r.token positive] at taken ready
    cases Option.some.inj taken
    refine inv_phase inv i r _ thread ⟨ready,s.now,rfl,?_⟩
    exact fun m known _ => inv.dated m known
  | logoutRevoke tokens =>
    simp only [at_phase] at taken ready
    cases Option.some.inj taken
    obtain ⟨kind,asked,rfl,bound⟩ := ready
    exact inv_phase (inv_close inv r.token asked member kind bound) i r _ thread trivial
  | refreshed => simp [at_phase] at taken
  | loggedOut => simp [at_phase] at taken
  | rejected exception => simp [at_phase] at taken

theorem inv_step (platform : Platform) (config : Config) (s : State) (action : Action) (next : State)
    (inv : Inv config s) (taken : step platform config s action = some next) : Inv config next := by
  cases action with
  | tick milliseconds =>
    cases Option.some.inj taken
    exact inv_tick inv milliseconds
  | createUser data =>
    simp only [step,Option.map_eq_some_iff] at taken
    obtain ⟨users,created,rfl⟩ := taken
    obtain ⟨rfl,_⟩ := insert_some s.users users _ created
    exact inv_frame inv _ s.apiTokens s.issued (fun row inside =>
      ⟨row,List.mem_append_left _ inside,rfl⟩)
  | deleteUser id =>
    cases Option.some.inj taken
    refine inv_frame inv _ s.apiTokens s.issued (fun row inside => ?_)
    have named : row.id ∈ (softRemove s.users id s.now).map User.id := by
      rw [softRemove_ids]
      exact List.mem_map_of_mem inside
    exact List.mem_map.mp named
  | createToken userId id name rawValue salt =>
    simp only [step] at taken
    split at taken
    next allowed =>
      cases Option.some.inj taken
      exact inv_frame inv s.users _ _ (fun row inside => ⟨row,inside,rfl⟩)
    next refused => cases taken
  | deleteToken id =>
    cases Option.some.inj taken
    exact inv_frame inv s.users _ s.issued (fun row inside => ⟨row,inside,rfl⟩)
  | login userId =>
    simp only [step,Option.map_eq_some_iff] at taken
    obtain ⟨user,found,rfl⟩ := taken
    exact inv_login inv user.selected none ⟨user,List.mem_of_find?_eq_some found,rfl⟩
  | refresh presented => exact inv_present inv presented .refreshCount next (Or.inl rfl) taken
  | logout presented => exact inv_present inv presented .logoutCount next (Or.inr rfl) taken
  | proceed request =>
    obtain ⟨thread,after,phase,found,advanced,rfl⟩ := step_proceed taken
    rw [← advance_requests advanced]
    exact inv_advance inv request thread found after phase advanced
  | cleanupExpiredTokens =>
    cases Option.some.inj taken
    exact inv_cleanup inv

theorem inv_run (platform : Platform) (config : Config) (now : Nat) (users : Users.Table)
    (actions : List Action) (s : State)
    (ran : Transition.run (step platform config) (State.initial now users) actions = some s) :
    Inv config s :=
  Transition.run_invariant (Inv config) (fun t a next => inv_step platform config t a next) _ s actions
    (inv_initial config now users) ran

end BoarPack.Auth
