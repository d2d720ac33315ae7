import BoarPack.JwtAuth.Guard

/-! API tokens under `TokensModule.forAuth()` standing alone and with JWTs: which credentials the bearer
strategy accepts, and which of them the JWT guard hands over. -/
namespace BoarPack.JwtAuth
open RevokedTokens Users Tokens

def nameOf (credential : String) : String := (split '.' credential).headD ""

def secretOf (credential : String) : String := (split '.' credential)[1]?.getD ""

/-- A row that the first two pieces of the credential name. -/
def Opens (platform : Platform) (backend : Backend) (credential : String) (row : Token) : Prop :=
  findOne platform backend.apiTokens (nameOf credential) = some row ∧
    platform.compare (secretOf credential) row.hash = true

private theorem validate_iff (platform : Platform) (backend : Backend) (credential : String) :
    (∃ user, TokensAuthStrategy.validate platform backend.apiTokens backend.users credential = .ok user) ↔
      platform.isUuidV4 (nameOf credential) = true ∧ secretOf credential ≠ "" ∧
        ∃ row, Opens platform backend credential row ∧ ∃ user, Users.findOne backend.users row.userId = some user := by
  have named : (split '.' credential).headD "" = nameOf credential := rfl
  have secret : (split '.' credential)[1]?.getD "" = secretOf credential := rfl
  simp only [TokensAuthStrategy.validate,named,secret]
  unfold Opens
  cases valid : platform.isUuidV4 (nameOf credential) with
  | false => simp
  | true =>
    by_cases empty : secretOf credential = ""
    · simp [empty]
    · cases found : findOne platform backend.apiTokens (nameOf credential) with
      | none => simp [empty]
      | some row =>
        cases matched : platform.compare (secretOf credential) row.hash with
        | false => simp [empty,matched]
        | true =>
          cases living : Users.findOne backend.users row.userId with
          | none => simp [empty,matched,living]
          | some user => simp [empty,matched,living]

private theorem isApiTokenCredential_iff (credential : String) : isApiTokenCredential credential = true ↔
    isUuidText (nameOf credential) = true ∧ secretOf credential ≠ "" ∧ (split '.' credential).length ≤ 2 := by
  constructor
  · intro matched
    obtain ⟨id,secret,rfl,text,filled,dotless⟩ := issued_of_isApiTokenCredential credential matched
    have pieces := split_issued id secret text dotless
    unfold nameOf secretOf
    rw [pieces]
    exact ⟨text,filled,Nat.le_refl 2⟩
  · rintro ⟨text,filled,few⟩
    unfold nameOf at text
    unfold secretOf at filled
    match pieces : split '.' credential with
    | [] =>
      rw [pieces] at filled
      exact absurd rfl filled
    | [_] =>
      rw [pieces] at filled
      exact absurd rfl filled
    | [id,secret] =>
      rw [pieces] at text filled
      have dotless := split_clean '.' credential secret (by rw [pieces]; simp)
      rw [split_two '.' credential id secret pieces]
      exact issued_isApiTokenCredential id secret text filled dotless
    | _ :: _ :: _ :: _ =>
      rw [pieces] at few
      simp at few

/-- What the strategy reads beyond the pattern. -/
theorem unmatched_iff (credential : String) (filled : secretOf credential ≠ "") :
    ¬ isApiTokenCredential credential = true ↔
    2 < (split '.' credential).length ∨ isUuidText (nameOf credential) = false := by
  rw [isApiTokenCredential_iff]
  constructor
  · intro unmatched
    by_cases text : isUuidText (nameOf credential) = true
    · exact Or.inl (Nat.not_le.mp (fun few => unmatched ⟨text,filled,few⟩))
    · exact Or.inr (Bool.eq_false_iff.mpr text)
  · rintro (many | other) ⟨text,_,few⟩
    · exact Nat.not_lt.mpr few many
    · rw [text] at other
      cases other

/-- The request that presents a credential; nothing is in its body or query. -/
def presenting (credential : String) (cookie : Option String) : HttpRequest :=
  ⟨some ("Bearer " ++ credential),cookie,none⟩

private theorem bearer_presenting (platform : Platform) (bearer : platform.toLowerCase "Bearer" = "bearer")
    (credential : String) (cookie : Option String) (plain : ' ' ∉ credential.toList) :
    JwtAuthGuard.bearer platform (presenting credential cookie) = if credential = "" then none
      else some credential := by
  have space : "Bearer " ++ credential = "Bearer" ++ String.singleton ' ' ++ credential := by
    rw [String.append_assoc]
    rfl
  unfold JwtAuthGuard.bearer presenting
  simp only [Option.map_some]
  rw [space,split_piece ' ' "Bearer" credential (by decide),split_whole ' ' credential plain]
  by_cases empty : credential = "" <;> simp [bearer,empty]

/-- Under `forAuth()` alone the token guard is the global one. -/
def Accepted (platform : Platform) (passport : Passport) (backend : Backend) (route : Route) (request : HttpRequest) :
    Prop :=
  ∃ user, TokenAuthGuard.canActivate platform passport backend route request = .ok ⟨some user,none⟩

/-- Under `forAuth({ withJwtAuth: true })`, by an authenticator that the JWT guard handed the request to. -/
def AcceptedAsToken (platform : Platform) (passport : Passport) (backend : Backend) (modules : List TokensModule)
    (route : Route) (request : HttpRequest) : Prop :=
  let authenticators := modules.filterMap (TokensModule.register platform passport backend)
  (JwtAuthGuard.alternative platform authenticators request).isSome = true ∧
    ∃ user, JwtAuthGuard.canActivate platform passport backend authenticators route request = .ok ⟨some user,none⟩

/-- `<uuid>.<secret>`, of a row that exists and whose hash matches the secret. -/
def Issued (platform : Platform) (backend : Backend) (credential : String) : Prop :=
  ∃ id secret, credential = id ++ "." ++ secret ∧ isUuidText id = true ∧ secret ≠ "" ∧ '.' ∉ secret.toList ∧
    ∃ row, findOne platform backend.apiTokens id = some row ∧ platform.compare secret row.hash = true

private theorem issued_iff (platform : Platform) (backend : Backend) (credential : String) :
    Issued platform backend credential ↔
    isApiTokenCredential credential = true ∧ ∃ row, Opens platform backend credential row := by
  constructor
  · rintro ⟨id,secret,rfl,text,filled,dotless,row,found,matched⟩
    refine ⟨issued_isApiTokenCredential id secret text filled dotless,row,?_⟩
    unfold Opens nameOf secretOf
    rw [split_issued id secret text dotless]
    exact ⟨found,matched⟩
  · rintro ⟨matched,row,opens⟩
    obtain ⟨id,secret,rfl,text,filled,dotless⟩ := issued_of_isApiTokenCredential credential matched
    unfold Opens nameOf secretOf at opens
    rw [split_issued id secret text dotless] at opens
    exact ⟨id,secret,rfl,text,filled,dotless,row,opens⟩

/-- Both modes accept the credential where it is an issued one, and nowhere else. -/
structure JudgedAlike (platform : Platform) (passport : Passport) (backend : Backend) (modules : List TokensModule)
    (route : Route) (credential : String) (cookie : Option String) : Prop where
  modes : Accepted platform passport backend route (presenting credential cookie) ↔
    AcceptedAsToken platform passport backend modules route (presenting credential cookie)
  issued : AcceptedAsToken platform passport backend modules route (presenting credential cookie) ↔
    Issued platform backend credential

/-- Where the bearer strategy reads more than the pattern does, no token is named; and the tokens that are named
belong to users that exist. -/
structure Unambiguous (platform : Platform) (backend : Backend) (credential : String) : Prop where
  /-- More pieces after the second one, or a uuid in another form than the dashed one. -/
  lax : platform.isUuidV4 (nameOf credential) = true → secretOf credential ≠ "" →
    2 < (split '.' credential).length ∨ isUuidText (nameOf credential) = false →
    ∀ row, Opens platform backend credential row → Users.findOne backend.users row.userId = none
  living : isApiTokenCredential credential = true →
    ∀ row, Opens platform backend credential row → ∃ user, Users.findOne backend.users row.userId = some user

section Modes

variable {platform : Platform} {passport : Passport} {backend : Backend} {route : Route} {credential : String}
  {cookie : Option String}

theorem accepted_iff (guarded : getAllAndOverride route.skipTokenAuthGuard ≠ some true)
    (presented : passport.bearerToken (presenting credential cookie) =
      if credential = "" then none else some credential) :
    Accepted platform passport backend route (presenting credential cookie) ↔
      ∃ user, TokensAuthStrategy.validate platform backend.apiTokens backend.users credential = .ok user := by
  unfold Accepted TokenAuthGuard.canActivate
  rw [beq_eq_false_iff_ne.mpr guarded,presented]
  simp only [Bool.false_eq_true,if_false]
  by_cases empty : credential = ""
  · subst empty
    have refused : ¬ ∃ user, TokensAuthStrategy.validate platform backend.apiTokens backend.users "" = .ok user := by
      rw [validate_iff]
      exact fun accepted => accepted.2.1 rfl
    simp only [if_true]
    refine iff_of_false (fun accepted => ?_) refused
    obtain ⟨user,passed⟩ := accepted
    cases passed
  · simp only [empty,if_false]
    cases TokensAuthStrategy.validate platform backend.apiTokens backend.users credential with
    | ok user => simp
    | error exception => simp

private theorem acceptedAsToken_iff (modules : List TokensModule) (combined : .forAuth true ∈ modules)
    (bearer : platform.toLowerCase "Bearer" = "bearer") (plain : ' ' ∉ credential.toList)
    (unskipped : getAllAndOverride route.skipJWTGuard ≠ some true) :
    AcceptedAsToken platform passport backend modules route (presenting credential cookie) ↔
      isApiTokenCredential credential = true ∧
        Accepted platform passport backend route (presenting credential cookie) := by
  have sent := bearer_presenting platform bearer credential cookie plain
  have delegated : Delegated platform (presenting credential cookie) ↔ isApiTokenCredential credential = true := by
    unfold Delegated
    rw [sent]
    by_cases empty : credential = ""
    · subst empty
      exact iff_of_false (by simp) (by decide)
    · simp [empty]
  unfold AcceptedAsToken JwtAuthGuard.canActivate
  rw [beq_eq_false_iff_ne.mpr unskipped]
  simp only [Bool.false_eq_true,if_false]
  by_cases matched : isApiTokenCredential credential = true
  · rw [alternative_delegated modules combined _ (delegated.mpr matched)]
    simp [matched,Accepted]
  · refine iff_of_false ?_ (fun both => matched both.1)
    rintro ⟨handed,_⟩
    obtain ⟨chosen,found⟩ := Option.isSome_iff_exists.mp handed
    exact matched (delegated.mp (alternative_some modules _ chosen found).1)

end Modes

/-- For a credential without whitespace, on a route without skip metadata. -/
theorem modes_alike_iff (platform : Platform) (passport : Passport) (backend : Backend) (modules : List TokensModule)
    (route : Route) (credential : String) (cookie : Option String) (combined : .forAuth true ∈ modules)
    (guarded : getAllAndOverride route.skipTokenAuthGuard ≠ some true)
    (unskipped : getAllAndOverride route.skipJWTGuard ≠ some true)
    (plain : credential.toList.any Char.isWhitespace = false) (bearer : platform.toLowerCase "Bearer" = "bearer")
    (presented : passport.bearerToken (presenting credential cookie) =
      if credential = "" then none else some credential)
    (dashed : ∀ id, isUuidText id = true → platform.isUuidV4 id = true) :
    JudgedAlike platform passport backend modules route credential cookie ↔
      Unambiguous platform backend credential := by
  have spaceless : ' ' ∉ credential.toList := by
    intro member
    have space := List.any_eq_false.mp plain ' ' member
    exact space (by decide)
  have alone : Accepted platform passport backend route (presenting credential cookie) ↔ _ :=
    (accepted_iff guarded presented).trans (validate_iff platform backend credential)
  have asToken : AcceptedAsToken platform passport backend modules route (presenting credential cookie) ↔ _ :=
    acceptedAsToken_iff modules combined bearer spaceless unskipped
  have issued := issued_iff platform backend credential
  constructor
  · intro alike
    constructor
    · intro valid filled kind row opens
      cases living : Users.findOne backend.users row.userId with
      | none => rfl
      | some user =>
        -- the guard alone accepts such a credential, the JWT guard does not hand it over
        have accepted := alone.mpr ⟨valid,filled,row,opens,user,living⟩
        have matched := (asToken.mp (alike.modes.mp accepted)).1
        exact absurd matched ((unmatched_iff credential filled).mpr kind)
    · intro matched row opens
      have accepted := (asToken.mp (alike.issued.mpr (issued.mpr ⟨matched,row,opens⟩))).2
      obtain ⟨_,_,other,also,living⟩ := alone.mp accepted
      obtain rfl := Option.some.inj (opens.1.symm.trans also.1)
      exact living
  · intro unambiguous
    constructor
    · rw [asToken]
      refine ⟨fun accepted => ⟨?_,accepted⟩,And.right⟩
      obtain ⟨valid,filled,row,opens,user,living⟩ := alone.mp accepted
      by_contra unmatched
      have missing := unambiguous.lax valid filled ((unmatched_iff credential filled).mp unmatched) row opens
      rw [living] at missing
      cases missing
    · rw [asToken,issued]
      constructor
      · rintro ⟨matched,accepted⟩
        obtain ⟨_,_,row,opens,_⟩ := alone.mp accepted
        exact ⟨matched,row,opens⟩
      · rintro ⟨matched,row,opens⟩
        obtain ⟨text,filled,_⟩ := (isApiTokenCredential_iff credential).mp matched
        exact ⟨matched,alone.mpr ⟨dashed _ text,filled,row,opens,unambiguous.living matched row opens⟩⟩

def admin : User := ⟨"1","Admin","admin@admin.com",.admin,none,[],none⟩

def oneToken : Backend := ⟨0,[admin],[⟨"00000000-0000-4000-8000-000000000000","ci","$2b$secret","1"⟩],[]⟩

theorem issued_judged_alike :
    JudgedAlike plainPlatform (plainPassport (fun _ => none)) oneToken [.forAuth true] ⟨⟨none,none⟩,⟨none,none⟩⟩
      "00000000-0000-4000-8000-000000000000.secret" none := by
  refine (modes_alike_iff plainPlatform (plainPassport (fun _ => none)) oneToken [.forAuth true]
    ⟨⟨none,none⟩,⟨none,none⟩⟩
    "00000000-0000-4000-8000-000000000000.secret" none (by decide) (by decide) (by decide) (by decide)
      (by decide) (by decide)
    (fun _ text => text)).mpr ⟨?_,?_⟩
  · intro _ _ kind
    exact absurd kind (by decide)
  · intro _ row opens
    obtain rfl := List.mem_singleton.mp (List.mem_of_find?_eq_some opens.1)
    exact ⟨admin,by decide⟩

/-- What follows a second dot is dropped by the strategy and refused by the pattern. -/
theorem third_piece_judged_apart :
    ¬ JudgedAlike plainPlatform (plainPassport (fun _ => none)) oneToken [.forAuth true] ⟨⟨none,none⟩,⟨none,none⟩⟩
      "00000000-0000-4000-8000-000000000000.secret.extra" none := by
  intro alike
  have handed := (alike.modes.mp
    ⟨{ admin.withoutPass with tokenId := some "00000000-0000-4000-8000-000000000000" },by decide⟩).1
  revert handed
  decide

end BoarPack.JwtAuth
