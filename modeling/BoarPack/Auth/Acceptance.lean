import BoarPack.Auth.Invariant

/-! Which tokens the two strategies accept, in terms of the history alone, and what
the hourly cleanup may remove. The revocation table drops out of the description:
this is the abstract view that the rest of the development reasons with. -/
namespace BoarPack.Auth
open RevokedTokens Users JwtAuth Tokens

def RevokedBefore (s : State) (m : Minted) : Prop :=
  ∃ u, (u ∈ s.refreshUses ∨ u ∈ s.logouts) ∧ u.jti = m.jti

def LoggedOutBefore (s : State) (m : Minted) : Prop :=
  ∃ a ∈ s.logouts, a.sid = m.sid

def UserExists (s : State) (m : Minted) : Prop :=
  ∃ user ∈ s.users, user.id = m.payload.sub ∧ user.deletedAt = none

def Expired (s : State) (m : Minted) : Prop := m.exp ≤ (s.now / 1000 : Int)

instance (s : State) (m : Minted) : Decidable (Expired s m) := inferInstanceAs (Decidable (_ ≤ _))

def Alive (s : State) (m : Minted) : Prop :=
  ¬ Expired s m ∧ ¬ RevokedBefore s m ∧ ¬ LoggedOutBefore s m ∧ UserExists s m

theorem expired_iff (s : State) (m : Minted) : Expired s m ↔ m.exp * 1000 ≤ (s.now : Int) := by
  unfold Expired
  omega

private theorem unexpired_minted (s : State) (m : Minted) :
    unexpired s.now m.payload = true ↔ ¬ Expired s m := by
  rw [unexpired_iff s.now m.payload m.exp m.signed.2.2.1,expired_iff]
  omega

variable {config : Config} {s : State}

theorem isTokenRevoked_exact (inv : Inv config s) (m : Minted) (member : m ∈ s.minted)
    (alive : ¬ Expired s m) :
    isTokenRevoked s.revokedTokens m.jti (some m.sid) = true ↔
      RevokedBefore s m ∨ LoggedOutBefore s m := by
  rw [expired_iff] at alive
  rw [isTokenRevoked_iff]
  constructor
  · intro found
    rcases found with ⟨row,inside,named | ⟨session,typed⟩⟩
    · rcases inv.rows row inside with ⟨_,u,recorded,same,_⟩ | ⟨_,a,recorded,same,_⟩
      · exact Or.inl ⟨u,recorded,same.trans named⟩
      · exact absurd (named.symm.trans same.symm) (inv.apart m member a (inv.ends a recorded).1)
    · rcases inv.rows row inside with ⟨other,_⟩ | ⟨_,a,recorded,_,same,_⟩
      · exact absurd typed other
      · exact Or.inr ⟨a,recorded,Option.some.inj (same.symm.trans session)⟩
  · have byJti (u : Minted) (recorded : u ∈ s.refreshUses ∨ u ∈ s.logouts) (same : u.jti = m.jti) :
        ∃ row ∈ s.revokedTokens, row.jti = m.jti ∨ (row.sid = some m.sid ∧ row.tokenType = .session) := by
      have equal := inv.distinct u (recorded_minted inv u recorded) m member same
      rcases inv.blocked u recorded with ⟨row,inside,named,_⟩ | expired
      · exact ⟨row,inside,Or.inl (named.trans same)⟩
      · rw [equal] at expired
        omega
    intro history
    rcases history with ⟨u,recorded,same⟩ | ⟨a,recorded,same⟩
    · exact byJti u recorded same
    · rcases inv.kinds m member with access | refresh
      · have kinds : a.kind = m.kind := (inv.ends a recorded).2.trans access.symm
        have equal := inv.paired a (inv.ends a recorded).1 m member same kinds
        exact byJti a (Or.inr recorded) (congrArg Minted.jti equal)
      · rcases inv.closed a recorded with ⟨row,inside,session,typed⟩ | expired
        · exact ⟨row,inside,Or.inr ⟨session.trans (congrArg some same),typed⟩⟩
        · have passed := expired m member same.symm refresh
          omega

private theorem authentic_iff (s : State) (payload : Payload) :
    s.authentic payload = true ↔ ∃ m ∈ s.minted, m.payload = payload := by
  simp [State.authentic]

private theorem alive_of_checks (inv : Inv config s) (m : Minted) (member : m ∈ s.minted) :
    (¬ Expired s m ∧ isTokenRevoked s.revokedTokens m.jti m.payload.sid = false ∧
      ∃ user ∈ s.users, user.id = m.payload.sub ∧ user.deletedAt = none) ↔ Alive s m := by
  rw [m.signed.2.1]
  constructor
  · intro checks
    obtain ⟨alive,clean,user⟩ := checks
    have exact := isTokenRevoked_exact inv m member alive
    rw [clean,Bool.false_eq_true,false_iff,not_or] at exact
    exact ⟨alive,exact.1,exact.2,user⟩
  · intro living
    obtain ⟨alive,unrevoked,open_session,user⟩ := living
    have exact := isTokenRevoked_exact inv m member alive
    refine ⟨alive,?_,user⟩
    cases result : isTokenRevoked s.revokedTokens m.jti (some m.sid) with
    | false => rfl
    | true => exact absurd (exact.mp result) (not_or.mpr ⟨unrevoked,open_session⟩)

/-- The two strategies differ in the kind of token only. -/
private theorem accepts_minted_iff (inv : Inv config s) (kind : TokenType) (accepted : Payload → Bool)
    (decides : ∀ m : Minted, accepted m.payload = true ↔ m.payload.type = some kind ∧
      isTokenRevoked s.revokedTokens m.jti m.payload.sid = false ∧
        ∃ user ∈ s.users, user.id = m.payload.sub ∧ user.deletedAt = none) (payload : Payload) :
    (s.authentic payload && unexpired s.now payload && accepted payload) = true ↔
      ∃ m ∈ s.minted, m.payload = payload ∧ m.kind = kind ∧ Alive s m := by
  rw [Bool.and_eq_true,Bool.and_eq_true,authentic_iff]
  constructor
  · intro checks
    obtain ⟨⟨⟨m,member,rfl⟩,dated⟩,accepted⟩ := checks
    obtain ⟨typed,clean,user⟩ := (decides m).mp accepted
    have alive := (unexpired_minted s m).mp dated
    exact ⟨m,member,rfl,kind_of_type m kind typed,
      (alive_of_checks inv m member).mp ⟨alive,clean,user⟩⟩
  · intro history
    obtain ⟨m,member,rfl,rfl,living⟩ := history
    obtain ⟨alive,clean,user⟩ := (alive_of_checks inv m member).mpr living
    refine ⟨⟨⟨m,member,rfl⟩,(unexpired_minted s m).mpr alive⟩,?_⟩
    exact (decides m).mpr ⟨m.signed.2.2.2,clean,user⟩

theorem acceptsAccess_iff (inv : Inv config s) (payload : Payload) :
    s.acceptsAccess payload = true ↔
      ∃ m ∈ s.minted, m.payload = payload ∧ m.kind = .access ∧ Alive s m := by
  unfold State.acceptsAccess
  apply accepts_minted_iff inv .access (fun payload =>
    accepts (JwtAuthStrategy.validate s.revokedTokens s.users payload))
  intro m
  exact access_accepts s.revokedTokens s.users m.payload m.jti m.signed.1

theorem acceptsRefresh_iff (inv : Inv config s) (payload : Payload) :
    s.acceptsRefresh config payload = true ↔
      ∃ m ∈ s.minted, m.payload = payload ∧ m.kind = .refresh ∧ Alive s m := by
  unfold State.acceptsRefresh
  apply accepts_minted_iff inv .refresh
    (fun payload => accepts (JwtAuthRefreshStrategy.validate config s.now s.revokedTokens s.users payload).1)
  intro m
  exact refresh_accepts config s.now s.revokedTokens s.users m.payload m.jti m.signed.1

def Removed (s : State) (row : RevokedToken) : Prop :=
  row ∈ s.revokedTokens ∧ row ∉ cleanupExpiredTokens s.revokedTokens s.now

instance (s : State) (row : RevokedToken) : Decidable (Removed s row) :=
  inferInstanceAs (Decidable (_ ∧ _))

private theorem removed_iff (s : State) (row : RevokedToken) :
    Removed s row ↔ row ∈ s.revokedTokens ∧ row.expiresAt < s.now := by
  unfold Removed
  rw [mem_cleanupExpiredTokens]
  constructor
  · intro removed
    exact ⟨removed.1,Int.not_le.mp (fun later => removed.2 ⟨removed.1,later⟩)⟩
  · intro past
    exact ⟨past.1,fun kept => Int.not_le.mpr past.2 kept.2⟩

def Needless (s : State) (row : RevokedToken) : Prop :=
  if row.tokenType = .session then ∀ m ∈ s.minted, row.sid = some m.sid → Expired s m
  else ∀ m ∈ s.minted, m.jti = row.jti → Expired s m

instance (s : State) (row : RevokedToken) : Decidable (Needless s row) := by
  unfold Needless
  infer_instance

/-- As `Needless`, but the access token of a session may outlive the session's row
when a row of its own jti stays behind. -/
def Covered (s : State) (row : RevokedToken) : Prop :=
  if row.tokenType = .session then ∀ m ∈ s.minted, row.sid = some m.sid → Expired s m ∨
    (m.kind = .access ∧ ∃ own ∈ cleanupExpiredTokens s.revokedTokens s.now, own.jti = m.jti)
  else ∀ m ∈ s.minted, m.jti = row.jti → Expired s m

private theorem removed_session (inv : Inv config s) (row : RevokedToken) (removed : Removed s row)
    (typed : row.tokenType = .session) (m : Minted) (member : m ∈ s.minted) (sid : row.sid = some m.sid) :
    (∃ a ∈ s.logouts, a.sid = m.sid) ∧
      m.exp * 1000 + config.refreshTokenExpiration ≤ row.expiresAt + expiresIn config m.kind := by
  rcases inv.rows row removed.1 with ⟨other,_⟩ | ⟨_,a,recorded,_,session,bound⟩
  · exact absurd typed other
  · have same : a.sid = m.sid := Option.some.inj (session.symm.trans sid)
    exact ⟨⟨a,recorded,same⟩,bound m member same.symm⟩

private theorem removed_token (inv : Inv config s) (row : RevokedToken) (removed : Removed s row)
    (typed : row.tokenType ≠ .session) (m : Minted) (member : m ∈ s.minted) (named : m.jti = row.jti) :
    Expired s m := by
  have past := ((removed_iff s row).mp removed).2
  rcases inv.rows row removed.1 with ⟨_,u,recorded,same,bound⟩ | ⟨session,_⟩
  · have equal := inv.distinct u (recorded_minted inv u recorded) m member (same.trans named.symm)
    rw [equal] at bound
    rw [expired_iff]
    omega
  · exact absurd session typed

private theorem removed_covered (inv : Inv config s) (row : RevokedToken) (removed : Removed s row) :
    Covered s row := by
  unfold Covered
  split
  next typed =>
    intro m member sid
    obtain ⟨⟨a,recorded,same⟩,bound⟩ := removed_session inv row removed typed m member sid
    have past := ((removed_iff s row).mp removed).2
    rcases inv.kinds m member with access | refresh
    · have kinds : a.kind = m.kind := (inv.ends a recorded).2.trans access.symm
      have equal := inv.paired a (inv.ends a recorded).1 m member same kinds
      -- What blocks the access token once its session's row is gone is its own row.
      rcases (inv_cleanup inv).blocked a (Or.inr recorded) with ⟨own,stays,named,_⟩ | expired
      · exact Or.inr ⟨access,own,stays,equal ▸ named⟩
      · refine Or.inl ((expired_iff s m).mpr ?_)
        rw [← equal]
        exact Int.le_of_lt expired
    · refine Or.inl ((expired_iff s m).mpr ?_)
      simp only [refresh,expiresIn,reduceCtorEq,if_false] at bound
      omega
  next typed => exact fun m member named => removed_token inv row removed typed m member named

private theorem removed_needless (inv : Inv config s)
    (shorter : config.accessTokenExpiration ≤ config.refreshTokenExpiration) (row : RevokedToken)
    (removed : Removed s row) : Needless s row := by
  unfold Needless
  split
  next typed =>
    intro m member sid
    have bound := (removed_session inv row removed typed m member sid).2
    have past := ((removed_iff s row).mp removed).2
    rw [expired_iff]
    unfold expiresIn at bound
    split at bound <;> omega
  next typed => exact fun m member named => removed_token inv row removed typed m member named

/-- Over whole runs the strategies decide by the history, and the cleanup takes no row
that the decision still needs. -/
theorem acceptance_exact (platform : Platform) (config : Config) (now : Nat) (users : Users.Table)
    (actions : List Action) (s : State)
    (ran : Transition.run (step platform config) (State.initial now users) actions = some s) :
    (∀ payload, s.acceptsAccess payload = true ↔ ∃ m ∈ s.minted, m.payload = payload ∧
      m.kind = .access ∧ SignedBefore config s m ∧ Alive s m) ∧
    (∀ payload, s.acceptsRefresh config payload = true ↔ ∃ m ∈ s.minted, m.payload = payload ∧
      m.kind = .refresh ∧ SignedBefore config s m ∧ Alive s m) ∧
    ∀ row, Removed s row → Covered s row ∧
      (config.accessTokenExpiration ≤ config.refreshTokenExpiration → Needless s row) := by
  have inv := inv_run platform config now users actions s ran
  have signed (m : Minted) (member : m ∈ s.minted) (P : Prop) : P ↔ SignedBefore config s m ∧ P :=
    (and_iff_right (inv.signed m member)).symm
  refine ⟨fun payload => ?_,fun payload => ?_,fun row removed => ?_⟩
  · rw [acceptsAccess_iff inv]
    refine exists_congr (fun m => and_congr_right (fun member => ?_))
    exact and_congr_right (fun _ => and_congr_right (fun _ => signed m member _))
  · rw [acceptsRefresh_iff inv]
    refine exists_congr (fun m => and_congr_right (fun member => ?_))
    exact and_congr_right (fun _ => and_congr_right (fun _ => signed m member _))
  · exact ⟨removed_covered inv row removed,fun shorter => removed_needless inv shorter row removed⟩

def logoutThen (milliseconds : Nat) : List Action :=
  [.login firstUser.id,.logout 0,.proceed 0,.proceed 0,.proceed 0,.proceed 0,
    .tick milliseconds]

theorem acceptance_after_logout : ∃ s,
    Transition.run (step Tokens.plainPlatform ⟨3600000,604800000⟩) (State.initial 0 firstUsers)
      (logoutThen 30000) = some s ∧ s.logouts ≠ [] ∧
    ∀ payload, s.acceptsAccess payload = true ↔ ∃ m ∈ s.minted, m.payload = payload ∧
      m.kind = .access ∧ SignedBefore ⟨3600000,604800000⟩ s m ∧ Alive s m :=
  ⟨_,rfl,by decide,
    (acceptance_exact Tokens.plainPlatform ⟨3600000,604800000⟩ 0 firstUsers (logoutThen 30000) _ rfl).1⟩

theorem cleanup_before_access_expiry :
    ∃ s row, Transition.run (step Tokens.plainPlatform ⟨7200000,3600000⟩) (State.initial 0 firstUsers)
      (logoutThen 3600001) = some s ∧ Removed s row ∧ ¬ Needless s row :=
  ⟨_,⟨0,some 0,.session,3600000⟩,rfl,by decide,by decide⟩

end BoarPack.Auth
