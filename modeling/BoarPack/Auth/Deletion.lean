import BoarPack.Auth.Invariant

/-! A soft deletion cuts off the credentials of the user. The JWT strategies and the
password check look the user up themselves and reject when there is none; the bearer
strategy for API tokens takes the user from the token's relation, and fails on the
`null` there before it can reject. -/
namespace BoarPack.Auth
open RevokedTokens Users JwtAuth Tokens

inductive Credential
  | accessToken (token : Minted)
  | refreshToken (token : Minted)
  | apiToken (issued : Issued)
  | password (email pass : String)
  | socialEmail (email : String)

/-- The credential was minted for the user, at any time; any password counts. -/
def MintedFor (platform : Platform) (s : State) (user : User) : Credential → Prop
  | .accessToken token => token ∈ s.minted ∧ token.kind = .access ∧ token.payload.sub = user.id
  | .refreshToken token => token ∈ s.minted ∧ token.kind = .refresh ∧ token.payload.sub = user.id
  | .apiToken issued => issued ∈ s.issued ∧ issued.userId = user.id
  | .password email _ => platform.toLowerCase email = user.email
  | .socialEmail email => platform.toLowerCase email = user.email

def Refused (platform : Platform) (config : Config) (s : State) : Credential → Prop
  | .accessToken token => ∃ message,
      JwtAuthStrategy.validate s.revokedTokens s.users token.payload = .error (.unauthorized message)
  | .refreshToken token => ∃ message,
      (JwtAuthRefreshStrategy.validate config s.now s.revokedTokens s.users token.payload).1 =
        .error (.unauthorized message)
  | .apiToken issued => ∃ message,
      TokensAuthStrategy.validate platform s.apiTokens s.users issued.value = .error (.unauthorized message)
  | .password email pass => validateUser platform s.users email pass = none
  | .socialEmail email => validateUserByEmail platform s.users (some email) = none

def StillStored (platform : Platform) (s : State) : Credential → Prop
  | .apiToken issued => ∃ row ∈ s.apiTokens, platform.uuidEq row.id issued.id = true
  | _ => False

/-- What is documented of the packages and of Postgres. -/
structure Documented (platform : Platform) : Prop where
  valid : ∀ id, isUuidText id = true → platform.isUuidV4 id = true
  equal : ∀ id, platform.uuidEq id id = true
  hashed : ∀ salt password, platform.compare password (platform.hash salt password) = true

/-- The tables of users and API tokens: keys identify users, and each token row is the
hash of what was handed out under its id, which no other token was. -/
structure Stored (platform : Platform) (s : State) : Prop where
  keyed : Keyed s.users
  shaped : ∀ issued ∈ s.issued, isUuidText issued.id = true ∧ issued.rawValue ≠ "" ∧
    '.' ∉ issued.rawValue.toList
  distinct : ∀ issued ∈ s.issued, ∀ other ∈ s.issued,
    platform.uuidEq issued.id other.id = true → issued = other
  rows : ∀ row ∈ s.apiTokens, ∃ issued ∈ s.issued, ∃ salt, row.id = issued.id ∧
    row.userId = issued.userId ∧ row.hash = platform.hash salt issued.rawValue

variable {platform : Platform} {config : Config} {s : State}

private theorem stored_initial (platform : Platform) (now : Nat) : Stored platform (State.initial now []) := by
  refine ⟨Keyed.empty,?_,?_,?_⟩ <;> simp [State.initial]

theorem Stored.congr {t : State} (stored : Stored platform s) (users : t.users = s.users)
    (apiTokens : t.apiTokens = s.apiTokens) (issued : t.issued = s.issued) : Stored platform t := by
  refine ⟨?_,?_,?_,?_⟩
  · rw [users]
    exact stored.keyed
  · rw [issued]
    exact stored.shaped
  · rw [issued]
    exact stored.distinct
  · rw [apiTokens,issued]
    exact stored.rows

private theorem stored_createToken (stored : Stored platform s) (userId id name rawValue salt : String) (next : State)
    (taken : step platform config s (.createToken userId id name rawValue salt) = some next) :
    Stored platform next := by
  simp only [step] at taken
  split at taken
  next allowed =>
    cases taken
    simp only [Bool.and_eq_true,List.all_eq_true,bne_iff_ne,Bool.not_eq_true'] at allowed
    obtain ⟨⟨⟨⟨text,filled⟩,dotless⟩,_⟩,fresh⟩ := allowed
    refine ⟨stored.keyed,?_,?_,?_⟩
    · intro issued member
      obtain rfl | old := List.mem_cons.mp member
      · exact ⟨text,filled,fun inside => dotless '.' inside rfl⟩
      · exact stored.shaped issued old
    · intro issued member other inside same
      obtain rfl | old := List.mem_cons.mp member
      · obtain rfl | past := List.mem_cons.mp inside
        · rfl
        · rw [(fresh other past).2] at same
          cases same
      · obtain rfl | past := List.mem_cons.mp inside
        · rw [(fresh issued old).1] at same
          cases same
        · exact stored.distinct issued old other past same
    · intro row member
      obtain old | new := List.mem_append.mp member
      · obtain ⟨issued,inside,same⟩ := stored.rows row old
        exact ⟨issued,List.mem_cons_of_mem _ inside,same⟩
      · rw [List.mem_singleton.mp new]
        exact ⟨_,List.mem_cons_self,salt,rfl,rfl,rfl⟩
  next refused => cases taken

theorem stored_step (action : Action) (next : State) (stored : Stored platform s)
    (taken : step platform config s action = some next) : Stored platform next := by
  cases action with
  | createUser data =>
    obtain ⟨users,created,rfl⟩ := Option.map_eq_some_iff.mp taken
    exact ⟨stored.keyed.insert created,stored.shaped,stored.distinct,stored.rows⟩
  | deleteUser id =>
    cases taken
    exact ⟨stored.keyed.softRemove id s.now,stored.shaped,stored.distinct,stored.rows⟩
  | createToken userId id name rawValue salt =>
    exact stored_createToken stored userId id name rawValue salt next taken
  | deleteToken id =>
    cases taken
    exact ⟨stored.keyed,stored.shaped,stored.distinct,fun row member =>
      stored.rows row (List.mem_of_mem_filter member)⟩
  | tick milliseconds => cases taken; exact stored.congr rfl rfl rfl
  | cleanupExpiredTokens => cases taken; exact stored.congr rfl rfl rfl
  | login userId =>
    obtain ⟨user,found,rfl⟩ := Option.map_eq_some_iff.mp taken
    exact stored.congr rfl rfl rfl
  | refresh presented =>
    obtain ⟨token,_,_,rfl⟩ := present_some taken
    exact stored.congr rfl rfl rfl
  | logout presented =>
    obtain ⟨token,_,_,rfl⟩ := present_some taken
    exact stored.congr rfl rfl rfl
  | proceed i =>
    obtain ⟨r,after,phase,found,advanced,rfl⟩ := step_proceed taken
    obtain ⟨_,users,apiTokens,_,issued⟩ := advance_frame advanced
    exact stored.congr users apiTokens issued

theorem Stored.row (stored : Stored platform s) (issued : Issued) (member : issued ∈ s.issued)
    (row : Token) (inside : row ∈ s.apiTokens) (same : platform.uuidEq row.id issued.id = true) :
    ∃ salt, row.userId = issued.userId ∧ row.hash = platform.hash salt issued.rawValue := by
  obtain ⟨other,known,salt,named,owner,hash⟩ := stored.rows row inside
  have equal := stored.distinct other known issued member (named ▸ same)
  rw [equal] at owner hash
  exact ⟨salt,owner,hash⟩

private theorem apiToken_refused (documented : Documented platform) (stored : Stored platform s) (user : User)
    (member : user ∈ s.users) (deleted : user.deletedAt ≠ none) (issued : Issued)
    (known : issued ∈ s.issued) (owner : issued.userId = user.id) :
    Refused platform config s (.apiToken issued) ↔ ¬ StillStored platform s (.apiToken issued) := by
  obtain ⟨text,filled,dotless⟩ := stored.shaped issued known
  have spec := validate_issued platform s.apiTokens s.users issued.id issued.rawValue text filled dotless
    (documented.valid issued.id text)
  change (∃ message, TokensAuthStrategy.validate platform s.apiTokens s.users
    (issued.id ++ "." ++ issued.rawValue) = .error (.unauthorized message)) ↔
      ¬ ∃ row ∈ s.apiTokens, platform.uuidEq row.id issued.id = true
  rw [spec]
  cases found : Tokens.findOne platform s.apiTokens issued.id with
  | none =>
    have absent := List.find?_eq_none.mp found
    refine ⟨fun _ present => ?_,fun _ => ⟨_,rfl⟩⟩
    obtain ⟨row,inside,same⟩ := present
    exact absent row inside same
  | some row =>
    have same := List.find?_some found
    have inside := List.mem_of_find?_eq_some found
    obtain ⟨salt,named,hash⟩ := stored.row issued known row inside same
    have gone : Users.findOne s.users row.userId = none := by
      rw [named,owner]
      exact findOne_deleted stored.keyed member deleted
    simp only [hash,documented.hashed,gone,Bool.not_true,Bool.false_eq_true,if_false]
    refine ⟨fun refused => ?_,fun absent => absurd ⟨row,inside,same⟩ absent⟩
    obtain ⟨message,thrown⟩ := refused
    cases thrown

private theorem stored_run (platform : Platform) (config : Config) (now : Nat) (actions : List Action) (s : State)
    (ran : Transition.run (step platform config) (State.initial now []) actions = some s) :
    Stored platform s :=
  Transition.run_invariant (Stored platform) (fun _ action next stored => stored_step action next stored) _ s
    actions (stored_initial platform now) ran

/-- After any run, every credential of a deleted user is refused, except an API token
that is still stored. -/
theorem deletion_refuses (platform : Platform) (documented : Documented platform) (config : Config)
    (now : Nat) (actions : List Action) (s : State)
    (ran : Transition.run (step platform config) (State.initial now []) actions = some s)
    (user : User) (member : user ∈ s.users) (deleted : user.deletedAt ≠ none)
    (credential : Credential) (minted : MintedFor platform s user credential) :
    Refused platform config s credential ↔ ¬ StillStored platform s credential := by
  have stored := stored_run platform config now actions s ran
  have gone := findOne_deleted stored.keyed member deleted
  cases credential with
  | accessToken token =>
    refine ⟨fun _ present => present,fun _ => access_missing s.revokedTokens s.users token.payload ?_⟩
    rw [minted.2.2]
    exact gone
  | refreshToken token =>
    refine ⟨fun _ present => present,fun _ => refresh_missing config s.now s.revokedTokens s.users _ ?_⟩
    rw [minted.2.2]
    exact gone
  | apiToken issued =>
    exact apiToken_refused documented stored user member deleted issued minted.1 minted.2
  | password email pass =>
    refine ⟨fun _ present => present,fun _ => ?_⟩
    exact validateUser_deleted stored.keyed platform member deleted email pass minted
  | socialEmail email =>
    refine ⟨fun _ present => present,fun _ => ?_⟩
    exact validateUserByEmail_deleted stored.keyed platform member deleted email minted

private theorem documented_plain : Documented plainPlatform where
  valid id text := text
  equal id := by simp [plainPlatform]
  hashed salt password := by simp [plainPlatform]

def deletedWithToken : List Action :=
  [.createUser firstUser,.login firstUser.id,
    .createToken firstUser.id "5b0c3f5e-2f0e-4c39-9a37-0d8a52c1e7f4" "ci" "9f86d081" "",
    .tick 1000,.deleteUser firstUser.id]

theorem deletion_refuses_session : ∃ s,
    Transition.run (step plainPlatform ⟨3600000,604800000⟩) (State.initial 0 []) deletedWithToken = some s ∧
    ∃ token, s.minted[0]? = some token ∧ (Refused plainPlatform ⟨3600000,604800000⟩ s (.accessToken token) ↔
      ¬ StillStored plainPlatform s (.accessToken token)) :=
  ⟨_,rfl,_,rfl,deletion_refuses plainPlatform documented_plain ⟨3600000,604800000⟩ 0 deletedWithToken _ rfl
    { firstUser with deletedAt := some 1000 } (by decide) (by decide) (.accessToken _)
    ⟨by decide,rfl,rfl⟩⟩

theorem deleted_user_type_error : ∃ s,
    Transition.run (step plainPlatform ⟨3600000,604800000⟩) (State.initial 0 []) deletedWithToken = some s ∧
    ∃ user ∈ s.users, user.deletedAt ≠ none ∧
    ∃ issued, MintedFor plainPlatform s user (.apiToken issued) ∧
      ¬ Refused plainPlatform ⟨3600000,604800000⟩ s (.apiToken issued) := by
  refine ⟨_,rfl,{ firstUser with deletedAt := some 1000 },by decide,by decide,
    ⟨firstUser.id,"5b0c3f5e-2f0e-4c39-9a37-0d8a52c1e7f4","9f86d081"⟩,⟨by decide,rfl⟩,?_⟩
  intro refused
  obtain ⟨message,thrown⟩ := refused
  cases thrown

end BoarPack.Auth
