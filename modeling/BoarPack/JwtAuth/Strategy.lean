import BoarPack.JwtAuth.Service
import BoarPack.Users.Service

/-! The two passport strategies over JWTs. Each `validate` is cut where it awaits
the database, so that a request can be stopped between its queries; `validate`
itself performs the pieces one after the other. -/
namespace BoarPack.JwtAuth
open RevokedTokens Users

def findUser (users : Users.Table) (payload : Payload) : Except Exception TUser :=
  match findOne users payload.sub with
  | some user => .ok user.selected
  | none => .error .unauthorizedDefault

namespace JwtAuthStrategy

def checkRevoked (revoked : RevokedTokens.Table) (payload : Payload) : Except Exception Unit :=
  if payload.type ≠ some .access then .error (.unauthorized "Invalid token type")
  else match payload.jti with
    | some jti =>
      if isTokenRevoked revoked jti payload.sid then .error (.unauthorized "Token has been revoked")
      else .ok ()
    | none => .ok ()

def validate (revoked : RevokedTokens.Table) (users : Users.Table) (payload : Payload) :
    Except Exception TUser :=
  match checkRevoked revoked payload with
  | .ok () => findUser users payload
  | .error exception => .error exception

end JwtAuthStrategy

namespace JwtAuthRefreshStrategy

def checkRevoked (revoked : RevokedTokens.Table) (payload : Payload) : Except Exception Nat :=
  if payload.type ≠ some .refresh then .error (.unauthorized "Invalid token type")
  else match payload.jti with
    | some jti =>
      if isTokenRevoked revoked jti payload.sid then .error (.unauthorized "Token has been revoked")
      else .ok jti
    | none => .error (.unauthorized "Invalid token payload")

/-- The row that makes the refresh token single use; an absent or zero `exp` is
replaced by a lifetime from now. -/
def usedToken (config : Config) (now : Nat) (payload : Payload) (jti : Nat) : RevokedToken :=
  { jti := jti
    expiresAt := match payload.exp with
      | some exp => if exp ≠ 0 then exp * 1000 else now + config.refreshTokenExpiration
      | none => now + config.refreshTokenExpiration
    sid := payload.sid
    tokenType := .refresh }

/-- The result and the table afterwards: the token is spent also when no user is found. -/
def validate (config : Config) (now : Nat) (revoked : RevokedTokens.Table) (users : Users.Table)
    (payload : Payload) : Except Exception TUser × RevokedTokens.Table :=
  match checkRevoked revoked payload with
  | .ok jti => (findUser users payload,revokeRefreshToken revoked (usedToken config now payload jti))
  | .error exception => (.error exception,revoked)

end JwtAuthRefreshStrategy

def accepts {E A : Type} : Except E A → Bool
  | .ok _ => true
  | .error _ => false

theorem findUser_accepts (users : Users.Table) (payload : Payload) :
    accepts (findUser users payload) = true ↔
      ∃ user ∈ users, user.id = payload.sub ∧ user.deletedAt = none := by
  rw [← findOne_isSome]
  unfold findUser
  cases findOne users payload.sub <;> simp [accepts]

theorem access_checkRevoked_ok (revoked : RevokedTokens.Table) (payload : Payload) (jti : Nat)
    (named : payload.jti = some jti) :
    JwtAuthStrategy.checkRevoked revoked payload = .ok () ↔
      payload.type = some .access ∧ isTokenRevoked revoked jti payload.sid = false := by
  unfold JwtAuthStrategy.checkRevoked
  rw [named]
  by_cases typed : payload.type = some .access
  · cases checked : isTokenRevoked revoked jti payload.sid <;> simp [typed,checked]
  · simp [typed]

theorem refresh_checkRevoked_ok (revoked : RevokedTokens.Table) (payload : Payload) (jti : Nat) :
    JwtAuthRefreshStrategy.checkRevoked revoked payload = .ok jti ↔
      payload.type = some .refresh ∧ payload.jti = some jti ∧
        isTokenRevoked revoked jti payload.sid = false := by
  unfold JwtAuthRefreshStrategy.checkRevoked
  by_cases typed : payload.type = some .refresh
  · cases named : payload.jti with
    | none => simp [typed]
    | some other =>
      by_cases same : other = jti
      · subst same
        cases checked : isTokenRevoked revoked other payload.sid <;> simp [typed,checked]
      · cases checked : isTokenRevoked revoked other payload.sid <;> simp [typed,same,checked]
  · simp [typed]

theorem access_accepts (revoked : RevokedTokens.Table) (users : Users.Table) (payload : Payload)
    (jti : Nat) (named : payload.jti = some jti) :
    accepts (JwtAuthStrategy.validate revoked users payload) = true ↔
      payload.type = some .access ∧ isTokenRevoked revoked jti payload.sid = false ∧
        ∃ user ∈ users, user.id = payload.sub ∧ user.deletedAt = none := by
  have checked := access_checkRevoked_ok revoked payload jti named
  unfold JwtAuthStrategy.validate
  cases result : JwtAuthStrategy.checkRevoked revoked payload with
  | ok _ =>
    have passed := checked.mp result
    simp [findUser_accepts,passed]
  | error exception =>
    simp only [accepts,Bool.false_eq_true,false_iff,not_and]
    intro typed clean
    rw [checked.mpr ⟨typed,clean⟩] at result
    cases result

theorem refresh_accepts (config : Config) (now : Nat) (revoked : RevokedTokens.Table)
    (users : Users.Table) (payload : Payload) (jti : Nat) (named : payload.jti = some jti) :
    accepts (JwtAuthRefreshStrategy.validate config now revoked users payload).1 = true ↔
      payload.type = some .refresh ∧ isTokenRevoked revoked jti payload.sid = false ∧
        ∃ user ∈ users, user.id = payload.sub ∧ user.deletedAt = none := by
  have checked := refresh_checkRevoked_ok revoked payload
  unfold JwtAuthRefreshStrategy.validate
  cases result : JwtAuthRefreshStrategy.checkRevoked revoked payload with
  | ok other =>
    obtain ⟨typed,also,clean⟩ := (checked other).mp result
    cases Option.some.inj (named.symm.trans also)
    simp [findUser_accepts,typed,clean]
  | error exception =>
    simp only [accepts,Bool.false_eq_true,false_iff,not_and]
    intro typed clean
    rw [(checked jti).mpr ⟨typed,named,clean⟩] at result
    cases result

theorem findUser_ok (users : Users.Table) (payload : Payload) (user : TUser)
    (found : findUser users payload = .ok user) : ∃ row ∈ users, row.selected = user := by
  unfold findUser at found
  split at found
  next row located =>
    cases found
    exact ⟨row,(findOne_some users payload.sub row located).1,rfl⟩
  next missing => cases found

private theorem findUser_missing (users : Users.Table) (payload : Payload)
    (missing : findOne users payload.sub = none) :
    findUser users payload = .error .unauthorizedDefault := by
  simp [findUser,missing]

theorem access_missing (revoked : RevokedTokens.Table) (users : Users.Table) (payload : Payload)
    (missing : findOne users payload.sub = none) : ∃ message,
    JwtAuthStrategy.validate revoked users payload = .error (.unauthorized message) := by
  unfold JwtAuthStrategy.validate
  split
  next checked => exact ⟨_,findUser_missing users payload missing⟩
  next exception checked =>
    unfold JwtAuthStrategy.checkRevoked at checked
    split at checked
    next typed => cases checked; exact ⟨_,rfl⟩
    next typed =>
      split at checked
      next jti named =>
        split at checked
        next revoked => cases checked; exact ⟨_,rfl⟩
        next clean => cases checked
      next unnamed => cases checked

theorem refresh_missing (config : Config) (now : Nat) (revoked : RevokedTokens.Table) (users : Users.Table)
    (payload : Payload) (missing : findOne users payload.sub = none) : ∃ message,
    (JwtAuthRefreshStrategy.validate config now revoked users payload).1 = .error (.unauthorized message) := by
  unfold JwtAuthRefreshStrategy.validate
  split
  next jti checked => exact ⟨_,findUser_missing users payload missing⟩
  next exception checked =>
    unfold JwtAuthRefreshStrategy.checkRevoked at checked
    split at checked
    next typed => cases checked; exact ⟨_,rfl⟩
    next typed =>
      split at checked
      next jti named =>
        split at checked
        next revoked => cases checked; exact ⟨_,rfl⟩
        next clean => cases checked
      next unnamed => cases checked; exact ⟨_,rfl⟩

end BoarPack.JwtAuth
