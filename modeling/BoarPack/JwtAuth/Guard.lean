import BoarPack.JwtAuth.Strategy
import BoarPack.Tokens.Strategy

/-! The global authentication guard of an application that has JWTs and API tokens.
`JwtAuthGuard` hands a request over by the shape of its bearer credential to
`TokenAuthGuard`, whose own skip metadata then decides alone: a route that skips the
token guard is open to whoever sends something of that shape. -/
namespace BoarPack.JwtAuth
open RevokedTokens Users Tokens

/-- What the guards read of a request; `accessToken` is the `access_token` of its body
or query, which the bearer package reads too. -/
structure HttpRequest where
  authorization : Option String
  cookie : Option String
  accessToken : Option String
  deriving DecidableEq, Repr

/-- The passport packages around the two `validate` functions. -/
structure Passport where
  fromAuthHeaderAsBearerToken : HttpRequest → Option String
  verify : Nat → String → Option Payload
  bearerToken : HttpRequest → Option String

structure Backend where
  now : Nat
  users : Users.Table
  apiTokens : Tokens.Table
  revokedTokens : RevokedTokens.Table

structure Metadata where
  handler : Option Bool
  controller : Option Bool
  deriving DecidableEq, Repr

def getAllAndOverride (metadata : Metadata) : Option Bool := metadata.handler.or metadata.controller

structure Route where
  skipJWTGuard : Metadata
  skipTokenAuthGuard : Metadata
  deriving DecidableEq, Repr

structure Activation where
  user : Option TUser
  jwt : Option Payload
  deriving DecidableEq, Repr

def tokenName : String := "auth_token"

def fromCookie (request : HttpRequest) : Option String :=
  match request.cookie with
  | none => none
  | some cookie =>
    match (splitOn "; " cookie).find? (fun c => (tokenName ++ "=").toList.isPrefixOf c.toList) with
    | none => none
    | some cookie => (split '=' cookie)[1]?

/-- `ExtractJwt.fromExtractors` goes on while what it has is falsy. -/
def jwtFromRequest (passport : Passport) (request : HttpRequest) : Option String :=
  match passport.fromAuthHeaderAsBearerToken request with
  | some token => if token == "" then fromCookie request else some token
  | none => fromCookie request

namespace JwtAuthStrategy

/-- `AuthGuard(JWT_AUTH).canActivate`: whatever fails ends in an exception, an empty
token included. -/
def authenticate (passport : Passport) (backend : Backend) (request : HttpRequest) :
    Except Exception Activation :=
  match (jwtFromRequest passport request).filter (· != "") with
  | none => .error .unauthorizedDefault
  | some token =>
    match passport.verify backend.now token with
    | none => .error .unauthorizedDefault
    | some payload =>
      match validate backend.revokedTokens backend.users payload with
      | .ok user => .ok ⟨some user,some payload⟩
      | .error exception => .error exception

end JwtAuthStrategy

namespace TokenAuthGuard

def canActivate (platform : Platform) (passport : Passport) (backend : Backend) (route : Route)
    (request : HttpRequest) : Except Exception Activation :=
  if getAllAndOverride route.skipTokenAuthGuard == some true then .ok ⟨none,none⟩
  else match passport.bearerToken request with
    | none => .error .unauthorizedDefault
    | some token =>
      match TokensAuthStrategy.validate platform backend.apiTokens backend.users token with
      | .ok user => .ok ⟨some user,none⟩
      | .error exception => .error exception

end TokenAuthGuard

structure TAlternativeAuthenticator where
  owns : String → Bool
  canActivate : Route → HttpRequest → Except Exception Activation

inductive TokensModule
  | forRoot
  | forAuth (withJwtAuth : Bool)
  deriving DecidableEq, Repr

/-- What the module's constructor registers: Nest provides it with the token guard
only in the combined mode. -/
def TokensModule.register (platform : Platform) (passport : Passport) (backend : Backend) :
    TokensModule → Option TAlternativeAuthenticator
  | forAuth true => some ⟨isApiTokenCredential,TokenAuthGuard.canActivate platform passport backend⟩
  | _ => none

namespace JwtAuthGuard

def bearer (platform : Platform) (request : HttpRequest) : Option String :=
  match request.authorization.map (split ' ') with
  | some (scheme :: credential :: _) =>
    if platform.toLowerCase scheme == "bearer" && credential != "" then some credential else none
  | _ => none

def alternative (platform : Platform) (authenticators : List TAlternativeAuthenticator)
    (request : HttpRequest) : Option TAlternativeAuthenticator :=
  (bearer platform request).bind (fun credential => authenticators.find? (·.owns credential))

def canActivate (platform : Platform) (passport : Passport) (backend : Backend)
    (authenticators : List TAlternativeAuthenticator) (route : Route) (request : HttpRequest) :
    Except Exception Activation :=
  if getAllAndOverride route.skipJWTGuard == some true then .ok ⟨none,none⟩
  else match alternative platform authenticators request with
    | some alternative => alternative.canActivate route request
    | none => JwtAuthStrategy.authenticate passport backend request

end JwtAuthGuard

def Authenticated (platform : Platform) (passport : Passport) (backend : Backend) (request : HttpRequest)
    (activation : Activation) : Prop :=
  ∃ user, activation.user = some user ∧
    ((∃ token payload, jwtFromRequest passport request = some token ∧
      passport.verify backend.now token = some payload ∧
      JwtAuthStrategy.validate backend.revokedTokens backend.users payload = .ok user) ∨
    ∃ token, passport.bearerToken request = some token ∧
      TokensAuthStrategy.validate platform backend.apiTokens backend.users token = .ok user)

def Delegated (platform : Platform) (request : HttpRequest) : Prop :=
  ∃ credential, JwtAuthGuard.bearer platform request = some credential ∧
    isApiTokenCredential credential = true

variable {platform : Platform} {passport : Passport} {backend : Backend}

private theorem authenticate_authenticated (request : HttpRequest) (activation : Activation)
    (passed : JwtAuthStrategy.authenticate passport backend request = .ok activation) :
    Authenticated platform passport backend request activation := by
  unfold JwtAuthStrategy.authenticate at passed
  split at passed
  next missing => cases passed
  next token found =>
    split at passed
    next forged => cases passed
    next payload verified =>
      split at passed
      next user accepted =>
        cases passed
        have sent := (Option.filter_eq_some_iff.mp found).1
        exact ⟨user,rfl,Or.inl ⟨token,payload,sent,verified,accepted⟩⟩
      next exception refused => cases passed

private theorem tokenGuard_authenticated (route : Route) (request : HttpRequest) (activation : Activation)
    (guarded : getAllAndOverride route.skipTokenAuthGuard ≠ some true)
    (passed : TokenAuthGuard.canActivate platform passport backend route request = .ok activation) :
    Authenticated platform passport backend request activation := by
  unfold TokenAuthGuard.canActivate at passed
  rw [beq_eq_false_iff_ne.mpr guarded] at passed
  simp only [Bool.false_eq_true,if_false] at passed
  split at passed
  next missing => cases passed
  next token found =>
    split at passed
    next user accepted =>
      cases passed
      exact ⟨user,rfl,Or.inr ⟨token,found,accepted⟩⟩
    next exception refused => cases passed

private theorem mem_register (modules : List TokensModule) (authenticator : TAlternativeAuthenticator)
    (member : authenticator ∈ modules.filterMap (TokensModule.register platform passport backend)) :
    authenticator = ⟨isApiTokenCredential,TokenAuthGuard.canActivate platform passport backend⟩ := by
  obtain ⟨tokensModule,_,registered⟩ := List.mem_filterMap.mp member
  unfold TokensModule.register at registered
  split at registered
  · exact (Option.some.inj registered).symm
  · cases registered

theorem alternative_some (modules : List TokensModule) (request : HttpRequest)
    (chosen : TAlternativeAuthenticator)
    (found : JwtAuthGuard.alternative platform
      (modules.filterMap (TokensModule.register platform passport backend)) request = some chosen) :
    Delegated platform request ∧
      chosen = ⟨isApiTokenCredential,TokenAuthGuard.canActivate platform passport backend⟩ := by
  obtain ⟨credential,sent,matched⟩ := Option.bind_eq_some_iff.mp found
  have same := mem_register modules chosen (List.mem_of_find?_eq_some matched)
  have owned := List.find?_some matched
  rw [same] at owned
  exact ⟨⟨credential,sent,owned⟩,same⟩

theorem alternative_delegated (modules : List TokensModule) (combined : .forAuth true ∈ modules)
    (request : HttpRequest) (delegated : Delegated platform request) :
    JwtAuthGuard.alternative platform (modules.filterMap (TokensModule.register platform passport backend))
      request = some ⟨isApiTokenCredential,TokenAuthGuard.canActivate platform passport backend⟩ := by
  obtain ⟨credential,sent,owned⟩ := delegated
  have present : (⟨isApiTokenCredential,TokenAuthGuard.canActivate platform passport backend⟩ :
      TAlternativeAuthenticator) ∈ modules.filterMap (TokensModule.register platform passport backend) :=
    List.mem_filterMap.mpr ⟨.forAuth true,combined,rfl⟩
  cases found : JwtAuthGuard.alternative platform
      (modules.filterMap (TokensModule.register platform passport backend)) request with
  | some chosen => rw [(alternative_some modules request chosen found).2]
  | none =>
    rw [JwtAuthGuard.alternative,sent] at found
    exact absurd owned (List.find?_eq_none.mp found _ present)

/-- On a route that keeps the JWT guard, a request gets through only with an accepted
credential, exactly unless its bearer looks like an API token and the route skips the
token guard. -/
theorem jwtGuard_authenticates (platform : Platform) (passport : Passport) (backend : Backend)
    (modules : List TokensModule) (combined : .forAuth true ∈ modules) (route : Route)
    (guarded : getAllAndOverride route.skipJWTGuard ≠ some true) (request : HttpRequest) :
    (∀ activation, JwtAuthGuard.canActivate platform passport backend
        (modules.filterMap (TokensModule.register platform passport backend)) route request = .ok activation →
      Authenticated platform passport backend request activation) ↔
    ¬ (Delegated platform request ∧ getAllAndOverride route.skipTokenAuthGuard = some true) := by
  unfold JwtAuthGuard.canActivate
  rw [beq_eq_false_iff_ne.mpr guarded]
  simp only [Bool.false_eq_true,if_false]
  constructor
  · intro sound skipped
    obtain ⟨delegated,skip⟩ := skipped
    rw [alternative_delegated modules combined request delegated] at sound
    have passed : TokenAuthGuard.canActivate platform passport backend route request = .ok ⟨none,none⟩ := by
      simp [TokenAuthGuard.canActivate,skip]
    obtain ⟨user,set,_⟩ := sound ⟨none,none⟩ passed
    cases set
  · intro kept activation passed
    split at passed
    next chosen found =>
      obtain ⟨delegated,rfl⟩ := alternative_some modules request chosen found
      exact tokenGuard_authenticated route request activation (fun skip => kept ⟨delegated,skip⟩) passed
    next none_found => exact authenticate_authenticated request activation passed

def plainPassport (signed : String → Option Payload) : Passport where
  fromAuthHeaderAsBearerToken := JwtAuthGuard.bearer plainPlatform
  verify now token := (signed token).filter (unexpired now)
  bearerToken := JwtAuthGuard.bearer plainPlatform

theorem jwtGuard_authenticates_session :
    let signed (token : String) : Option Payload := if token == "header.payload.signature" then
      some ⟨none,"1",none,none,none,none,some .access⟩ else none
    let backend : Backend := ⟨0,[⟨"1","Admin","admin@admin.com",.admin,none,[],none⟩],[],[]⟩
    let request : HttpRequest := ⟨some "Bearer header.payload.signature",none,none⟩
    let authenticators := [TokensModule.forAuth true].filterMap
      (TokensModule.register plainPlatform (plainPassport signed) backend)
    (∀ activation, JwtAuthGuard.canActivate plainPlatform (plainPassport signed) backend authenticators
        ⟨⟨none,none⟩,⟨none,none⟩⟩ request = .ok activation →
      Authenticated plainPlatform (plainPassport signed) backend request activation) ↔
    ¬ (Delegated plainPlatform request ∧ getAllAndOverride ⟨none,none⟩ = some true) :=
  jwtGuard_authenticates plainPlatform (plainPassport _) _ [.forAuth true] (by decide)
    ⟨⟨none,none⟩,⟨none,none⟩⟩ (by decide) _

theorem jwtGuard_bypassed :
    ¬ ∀ activation, JwtAuthGuard.canActivate plainPlatform (plainPassport (fun _ => none)) ⟨0,[],[],[]⟩
        ([TokensModule.forAuth true].filterMap
          (TokensModule.register plainPlatform (plainPassport (fun _ => none)) ⟨0,[],[],[]⟩))
        ⟨⟨none,none⟩,⟨some true,none⟩⟩
        ⟨some "Bearer 00000000-0000-4000-8000-000000000000.x",none,none⟩ = .ok activation →
      Authenticated plainPlatform (plainPassport (fun _ => none)) ⟨0,[],[],[]⟩
        ⟨some "Bearer 00000000-0000-4000-8000-000000000000.x",none,none⟩ activation := by
  intro sound
  have passed := sound ⟨none,none⟩ (by decide)
  obtain ⟨user,set,_⟩ := passed
  cases set

end BoarPack.JwtAuth
