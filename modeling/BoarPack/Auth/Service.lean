import BoarPack.JwtAuth.Strategy
import BoarPack.Tokens.Strategy

/-! `AuthService`: password checks, the token pair of a login, and what a logout
revokes. `login` draws three uuids; they are the numbers from `fresh` on. -/
namespace BoarPack.Auth
open RevokedTokens Users JwtAuth

def validateUser (platform : Platform) (users : Users.Table) (email pass : String) : Option TUser :=
  match findByEmail platform users email with
  | none => none
  | some user =>
    match user.pass with
    | none => none
    | some hash =>
      if hash == "" then none
      else if platform.compare pass hash then some user.withoutPass else none

def validateUserByEmail (platform : Platform) (users : Users.Table) (email : Option String) : Option TUser :=
  match email with
  | none => none
  | some email =>
    if email == "" then none
    else (findByEmail platform users email).map User.withoutPass

structure LocalAuthToken where
  accessToken : Signed
  refreshToken : Signed
  deriving DecidableEq, Repr

def login (config : Config) (now fresh : Nat) (user : TUser) : LocalAuthToken :=
  let sid := fresh
  let payload : Payload := ⟨some user.email,user.id,none,none,none,some sid,none⟩
  let refreshPayload : Payload := ⟨none,user.id,none,none,none,some sid,none⟩
  { accessToken := sign config now (fresh + 1) payload .access
    refreshToken := sign config now (fresh + 2) refreshPayload .refresh }

/-- The row `logout` revokes; without `jti` or a truthy `exp` it only logs a warning. -/
def logoutToken (jwt : Payload) : Option RevokedToken :=
  match jwt.jti, jwt.exp with
  | some jti, some exp =>
    if exp = 0 then none
    else some { jti := jti, expiresAt := exp * 1000, tokenType := .access, sid := jwt.sid }
  | _, _ => none

def logout (config : Config) (now : Nat) (revoked : RevokedTokens.Table) (jwt : Payload) :
    RevokedTokens.Table :=
  match logoutToken jwt with
  | some token => revokeToken revoked token config.refreshTokenExpiration now
  | none => revoked

theorem validateUser_deleted {users : Users.Table} (keyed : Keyed users) (platform : Platform)
    {user : User} (member : user ∈ users) (deleted : user.deletedAt ≠ none) (email pass : String)
    (spelled : platform.toLowerCase email = user.email) :
    validateUser platform users email pass = none := by
  simp [validateUser,findByEmail_deleted keyed platform member deleted email spelled]

theorem validateUserByEmail_deleted {users : Users.Table} (keyed : Keyed users) (platform : Platform)
    {user : User} (member : user ∈ users) (deleted : user.deletedAt ≠ none) (email : String)
    (spelled : platform.toLowerCase email = user.email) :
    validateUserByEmail platform users (some email) = none := by
  simp [validateUserByEmail,findByEmail_deleted keyed platform member deleted email spelled]

end BoarPack.Auth
