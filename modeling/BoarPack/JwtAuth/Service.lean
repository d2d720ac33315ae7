import BoarPack.RevokedTokens.Service

/-! `JWTAuthService`: the payloads it signs. A signed token is represented by its
payload, which is what verification of the signature recovers. -/
namespace BoarPack.JwtAuth
open RevokedTokens

/-- `TJWTAuthConfig` without the secret, the lifetimes converted by `ms`. -/
structure Config where
  accessTokenExpiration : Int
  refreshTokenExpiration : Int
  deriving DecidableEq, Repr

/-- `TJWTPayload` and `TJWTRefreshPayload`; the latter has no e-mail. -/
structure Payload where
  email : Option String
  sub : String
  iat : Option Int
  exp : Option Int
  jti : Option Nat
  sid : Option Nat
  type : Option TokenType
  deriving DecidableEq, Repr

structure Signed where
  token : Payload
  payload : Payload
  deriving DecidableEq, Repr

def expiresIn (config : Config) (tokenType : TokenType) : Int :=
  if tokenType = .access then config.accessTokenExpiration else config.refreshTokenExpiration

/-- `jwtid` stands for the uuid that `generateJwtId` draws. `jsonwebtoken` dates the
token from the whole second `iat`, the returned payload is dated from the clock. -/
def sign (config : Config) (now : Nat) (jwtid : Nat) (payload : Payload) (tokenType : TokenType) :
    Signed :=
  let signedPayload := { payload with type := some tokenType }
  let iat : Int := now / 1000
  { token := { signedPayload with
      iat := some iat
      exp := some ((iat * 1000 + expiresIn config tokenType) / 1000)
      jti := some jwtid }
    payload := { signedPayload with
      exp := some ((expiresIn config tokenType + now) / 1000)
      jti := some jwtid
      sid := payload.sid } }

/-- The expiration check of `jsonwebtoken`, which compares whole seconds. -/
def unexpired (now : Nat) (payload : Payload) : Bool :=
  match payload.exp with
  | some exp => decide ((now / 1000 : Int) < exp)
  | none => true

theorem unexpired_iff (now : Nat) (payload : Payload) (exp : Int) (dated : payload.exp = some exp) :
    unexpired now payload = true ↔ (now : Int) < exp * 1000 := by
  simp only [unexpired,dated,decide_eq_true_eq]
  omega

end BoarPack.JwtAuth
