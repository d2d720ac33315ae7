import BoarPack.ApiClient.QueryString
import BoarPack.Auth.Cookies

/-! Signing in through Google, Microsoft or Yandex: the callback route with its strategy, guard, handler and exception
filter. What the passport package makes of the exchange with the provider is given. -/
namespace BoarPack.Auth
open JwtAuth Users

/-- `profile.emails`, the addresses in their order; whether one is verified is not looked at. -/
structure Profile where
  emails : Option (List (Option String))

/-- What `decode` finds in an access token, whose signature it does not check. -/
structure MsToken where
  email : Option String
  upn : Option String

inductive Provider
  | google
  | yandex
  | ms
  deriving DecidableEq, Repr

def Provider.text : Provider → String
  | google => "google"
  | yandex => "yandex"
  | ms => "ms"

/-- What the strategy is called with, if it is. -/
inductive Exchange
  | profile (profile : Profile)
  | token (token : Option MsToken)
  | denied
  | broken (message : String)

/-- The address that the strategy reads; `none` where reading it throws. -/
def Exchange.email : Exchange → Option (Option String)
  | .profile shown => shown.emails.bind List.head?
  | .token decoded => decoded.map (fun claims => if claims.email.all (· == "") then claims.upn else claims.email)
  | .denied | .broken _ => none

/-- An exception, or another error that is no `HttpException`. -/
inductive Thrown
  | http (exception : Exception)
  | other (message : String)
  deriving DecidableEq, Repr

/-- `users`: the table, or none where the query is rejected. The strategy calls back once. -/
def strategyValidate (platform : Platform) (provider : Provider) (users : Option Users.Table)
    (email : Option (Option String)) :
    Except Exception TUser :=
  let impossible := Exception.internalServerError ("Impossible to log in user via " ++ provider.text)
  match email with
  | none => .error impossible
  | some email =>
    match users with
    | some users =>
      match validateUserByEmail platform users email with
      | some user => .ok user
      | none => .error (.unauthorized "User is not found")
    | none =>
      -- without an address nothing is looked up
      if email.all (· == "") then .error (.unauthorized "User is not found") else .error impossible

/-- `AuthGuard`: a strategy that fails without an error leaves no user. -/
def guardUser (platform : Platform) (provider : Provider) (users : Option Users.Table) (exchange : Exchange) :
    Except Thrown TUser :=
  match exchange with
  | .denied => .error (.http .unauthorizedDefault)
  | .broken message => .error (.other message)
  | .profile _ | .token _ => (strategyValidate platform provider users exchange.email).mapError Thrown.http

def Exception.message : Exception → String
  | .unauthorized message | .forbidden message | .notFound message | .internalServerError message | .typeError
    message => message

/-- An answer of the callback route. -/
inductive CallbackAnswer
  | redirect (location : String) (cookies : List SetCookie)
  | internalServerError
  deriving DecidableEq, Repr

/-- `redirect` puts its own status over the one set before it. -/
def AuthExceptionFilter (exception : Exception) : CallbackAnswer :=
  .redirect ("/user/login?error=" ++ ApiClient.encodeURIComponent (Exception.message exception)) []

def loginCallback (platform : Platform) (auth : AuthConfig) (config : Config) (now fresh : Nat) (provider : Provider)
    (users : Option Users.Table) (exchange : Exchange) : CallbackAnswer :=
  match guardUser platform provider users exchange with
  | .ok user => .redirect "/" (setCookie auth now (login config now fresh user))
  | .error (.http exception) => AuthExceptionFilter exception
  | .error (.other _) => .internalServerError

/-- The account of an exchange: the one that has the address, in any spelling of it, and is not deleted. -/
def Identifies (platform : Platform) (users : Users.Table) (exchange : Exchange) (user : User) : Prop :=
  ∃ email, exchange.email = some (some email) ∧ email ≠ "" ∧ user ∈ users ∧ user.deletedAt = none ∧
    user.email = platform.toLowerCase email

/-- Why nobody is logged in. -/
def reason (provider : Provider) (users : Option Users.Table) (exchange : Exchange) : String :=
  match exchange with
  | .denied => "Unauthorized"
  | .broken message => message
  | .profile _ | .token _ =>
    match exchange.email with
    | none => "Impossible to log in user via " ++ provider.text
    | some email =>
      if users.isNone && !email.all (· == "") then "Impossible to log in user via " ++ provider.text
        else "User is not found"

section

variable {platform : Platform} {table : Users.Table} {users : Option Users.Table} {exchange : Exchange}

private theorem validateUserByEmail_some (email : Option String) (user : TUser) :
    validateUserByEmail platform table email = some user ↔
      ∃ address row, email = some address ∧ address ≠ "" ∧ findByEmail platform table address = some row ∧
        user = row.withoutPass := by
  cases email with
  | none => simp [validateUserByEmail]
  | some address =>
    by_cases filled : address = ""
    · simp [validateUserByEmail,filled]
    · rw [validateUserByEmail,if_neg (by simpa using filled),Option.map_eq_some_iff]
      constructor
      · intro found
        obtain ⟨row,read,rfl⟩ := found
        exact ⟨address,row,rfl,filled,read,rfl⟩
      · intro found
        obtain ⟨other,row,same,_,read,rfl⟩ := found
        cases same
        exact ⟨row,read,rfl⟩

private theorem findByEmail_iff (keyed : Keyed table) (address : String) (row : User) :
    findByEmail platform table address = some row ↔
      row ∈ table ∧ row.deletedAt = none ∧ row.email = platform.toLowerCase address := by
  constructor
  · intro found
    obtain ⟨member,spelled,alive⟩ := findByEmail_some platform table address row found
    exact ⟨member,alive,spelled⟩
  · intro own
    obtain ⟨member,alive,spelled⟩ := own
    cases found : findByEmail platform table address with
    | none =>
      have missed := List.find?_eq_none.mp found row member
      simp [spelled,alive] at missed
    | some other =>
      obtain ⟨inside,same,_⟩ := findByEmail_some platform table address other found
      rw [List.inj_on_of_nodup_map keyed.emails inside member (same.trans spelled.symm)]

private theorem strategyValidate_ok (keyed : Keyed table) (provider : Provider) (user : TUser) :
    strategyValidate platform provider (some table) exchange.email = .ok user ↔
      ∃ row, Identifies platform table exchange row ∧ user = row.withoutPass := by
  have admitted (email : Option String) (read : exchange.email = some email) :
      validateUserByEmail platform table email = some user ↔ ∃ row, Identifies platform table exchange row ∧
        user = row.withoutPass := by
    rw [validateUserByEmail_some]
    constructor
    · intro found
      obtain ⟨address,row,rfl,filled,looked_up,rfl⟩ := found
      obtain ⟨member,alive,spelled⟩ := (findByEmail_iff keyed address row).mp looked_up
      exact ⟨row,⟨address,read,filled,member,alive,spelled⟩,rfl⟩
    · intro identified
      obtain ⟨row,⟨address,same,filled,member,alive,spelled⟩,rfl⟩ := identified
      rw [read] at same
      exact ⟨address,row,Option.some.inj same,filled,(findByEmail_iff keyed address row).mpr ⟨member,alive,spelled⟩,rfl⟩
  unfold strategyValidate
  cases read : exchange.email with
  | none => simp [Identifies,read]
  | some email =>
    rw [← admitted email read]
    dsimp only
    cases validateUserByEmail platform table email with
    | none => simp
    | some found => simp

private theorem strategyValidate_error (provider : Provider) {exception : Exception}
    (refused : strategyValidate platform provider users exchange.email = .error exception) :
    Exception.message exception =
      match exchange.email with
      | none => "Impossible to log in user via " ++ provider.text
      | some email =>
        if users.isNone && !email.all (· == "") then "Impossible to log in user via " ++ provider.text
          else "User is not found" := by
  unfold strategyValidate at refused
  cases read : exchange.email with
  | none =>
    rw [read] at refused
    cases refused
    rfl
  | some email =>
    rw [read] at refused
    cases users with
    | some table =>
      dsimp only at refused
      split at refused
      next admitted => cases refused
      next missing =>
        cases refused
        rfl
    | none =>
      dsimp only at refused
      split at refused
      next empty =>
        cases refused
        simp [empty,Exception.message]
      next filled =>
        cases refused
        simp [filled,Exception.message]

private theorem error_read (browser : ApiClient.Platform) (message : String) :
    ApiClient.queryParams browser ("/user/login?error=" ++ ApiClient.encodeURIComponent message) =
      [("error",message)] := by
  have key : ApiClient.encodeURIComponent "error" = "error" := by decide
  have shape : "/user/login?error=" ++ ApiClient.encodeURIComponent message = "/user/login" ++ "?" ++
      ApiClient.append "error" message := by
    rw [ApiClient.append,key]
    apply String.toList_injective
    simp
  have whole : ApiClient.search ("/user/login" ++ "?" ++ ApiClient.append "error" message) =
      ApiClient.append "error" message :=
    ApiClient.search_path (by decide) (by decide) (ApiClient.append_clean (by decide) "error" message)
  have one : split '&' (ApiClient.append "error" message) = [ApiClient.append "error" message] :=
    split_whole '&' _ (ApiClient.append_clean (by decide) "error" message)
  rw [shape,ApiClient.queryParams,whole,one]
  simp [ApiClient.append_ne_empty,ApiClient.formEntry_append]

private theorem mapError_ok_iff {E F T : Type} (f : E → F) (result : Except E T) (value : T) :
    result.mapError f = .ok value ↔ result = .ok value := by
  cases result with
  | ok other => simp [Except.mapError]
  | error thrown => simp [Except.mapError]

private theorem guardUser_ok (keyed : ∀ table, users = some table → Keyed table) (provider : Provider) (user : TUser) :
    guardUser platform provider users exchange = .ok user ↔
      ∃ table row, users = some table ∧ Identifies platform table exchange row ∧ user = row.withoutPass := by
  have strategy : (strategyValidate platform provider users exchange.email).mapError Thrown.http = .ok user ↔
      ∃ table row, users = some table ∧ Identifies platform table exchange row ∧ user = row.withoutPass := by
    rw [mapError_ok_iff]
    cases users with
    | some table => simpa using strategyValidate_ok (keyed table rfl) provider user
    | none =>
      constructor
      · intro admitted
        unfold strategyValidate at admitted
        dsimp only at admitted
        split at admitted
        · cases admitted
        · split at admitted
          · cases admitted
          · cases admitted
      · intro looked_up
        obtain ⟨_,_,same,_⟩ := looked_up
        cases same
  cases exchange with
  | profile shown => exact strategy
  | token decoded => exact strategy
  | denied => simp [guardUser,Identifies,Exchange.email]
  | broken message => simp [guardUser,Identifies,Exchange.email]

private theorem guardUser_error (provider : Provider) {thrown : Thrown}
    (refused : guardUser platform provider users exchange = .error thrown) :
    (∃ exception, thrown = .http exception ∧ Exception.message exception = reason provider users exchange) ∨
      ∃ message, thrown = .other message ∧ exchange = .broken message := by
  have strategy (rejected : (strategyValidate platform provider users exchange.email).mapError Thrown.http =
    .error thrown) :
      ∃ exception, thrown = .http exception ∧
        strategyValidate platform provider users exchange.email = .error exception := by
    cases outcome : strategyValidate platform provider users exchange.email with
    | ok user =>
      rw [outcome] at rejected
      cases rejected
    | error exception =>
      rw [outcome] at rejected
      cases rejected
      exact ⟨exception,rfl,rfl⟩
  cases exchange with
  | profile shown =>
    obtain ⟨exception,rfl,rejected⟩ := strategy refused
    exact Or.inl ⟨exception,rfl,strategyValidate_error provider rejected⟩
  | token decoded =>
    obtain ⟨exception,rfl,rejected⟩ := strategy refused
    exact Or.inl ⟨exception,rfl,strategyValidate_error provider rejected⟩
  | denied =>
    cases refused
    exact Or.inl ⟨_,rfl,rfl⟩
  | broken message =>
    cases refused
    exact Or.inr ⟨message,rfl,rfl⟩

/-- For every provider, exchange and table. The callback logs in the account that the exchange identifies, if there is
one, and goes to the start page with its cookies; otherwise nobody is logged in, and the login page is shown with the
reason, which it can read as it was written; an error of the package that is no `HttpException` is the only one that
ends elsewhere. -/
theorem callback_ends (platform : Platform) (browser : ApiClient.Platform) (auth : AuthConfig) (config : Config)
    (now fresh : Nat)
    (provider : Provider) (users : Option Users.Table) (keyed : ∀ table, users = some table → Keyed table)
    (exchange : Exchange) :
    (∀ cookies, loginCallback platform auth config now fresh provider users exchange = .redirect "/" cookies ↔
      ∃ table user, users = some table ∧ Identifies platform table exchange user ∧
        cookies = setCookie auth now (login config now fresh user.withoutPass)) ∧
    ((∃ cookies, loginCallback platform auth config now fresh provider users exchange = .redirect "/" cookies) ∨
      (∃ location, loginCallback platform auth config now fresh provider users exchange = .redirect location [] ∧
        ApiClient.queryParams browser location = [("error",reason provider users exchange)]) ∨
      loginCallback platform auth config now fresh provider users exchange = .internalServerError ∧
        ∃ message, exchange = .broken message) := by
  have elsewhere (message : String) : "/user/login?error=" ++ ApiClient.encodeURIComponent message ≠ "/" := by
    intro same
    have lengths := congrArg String.length same
    have long : ("/user/login?error=" : String).length = 18 := by decide
    have short : ("/" : String).length = 1 := by decide
    rw [String.length_append,long,short] at lengths
    omega
  have admitted := @guardUser_ok platform users exchange keyed provider
  unfold loginCallback
  cases outcome : guardUser platform provider users exchange with
  | ok user =>
    obtain ⟨table,row,rfl,identified,rfl⟩ := (admitted user).mp outcome
    refine ⟨fun cookies => ?_,Or.inl ⟨_,rfl⟩⟩
    constructor
    · intro sent
      cases sent
      exact ⟨table,row,rfl,identified,rfl⟩
    · intro logged_in
      obtain ⟨other,account,same,also,rfl⟩ := logged_in
      have equal := ((admitted account.withoutPass).mpr ⟨other,account,same,also,rfl⟩).symm.trans outcome
      rw [Except.ok.inj equal]
  | error thrown =>
    have nobody : ∀ cookies, ¬ ∃ table user, users = some table ∧ Identifies platform table exchange user ∧
        cookies = setCookie auth now (login config now fresh user.withoutPass) := by
      intro cookies logged_in
      obtain ⟨table,user,same,identified,_⟩ := logged_in
      have accepted := (admitted user.withoutPass).mpr ⟨table,user,same,identified,rfl⟩
      rw [outcome] at accepted
      cases accepted
    rcases guardUser_error provider outcome with ⟨exception,rfl,told⟩ | ⟨message,rfl,rfl⟩
    · refine ⟨fun cookies => ?_,Or.inr (Or.inl ⟨_,rfl,?_⟩)⟩
      · refine iff_of_false ?_ (nobody cookies)
        intro sent
        exact elsewhere _ (CallbackAnswer.redirect.inj sent).1
      · rw [told]
        exact error_read browser _
    · refine ⟨fun cookies => iff_of_false ?_ (nobody cookies),Or.inr (Or.inr ⟨rfl,message,rfl⟩)⟩
      intro sent
      cases sent

end

def withoutPassword : User := ⟨"0d2a4c1e-93b7-4f60-8a51-6c7be2f3d901","Ann","ann@test.test",.user,none,[],none⟩

/-- An account without a password, whose address the provider spells otherwise. -/
theorem google_logged_in :
    loginCallback Tokens.plainPlatform {} ⟨900000,604800000⟩ 0 0 .google (some [withoutPassword])
        (.profile ⟨some [some "Ann@Test.test",some "other@test.test"]⟩) =
      .redirect "/" (setCookie {} 0 (login ⟨900000,604800000⟩ 0 0 withoutPassword.withoutPass)) := by
  have keyed : ∀ table, some [withoutPassword] = some table → Keyed table := by
    intro table same
    cases same
    exact ⟨List.nodup_singleton _,List.nodup_singleton _⟩
  have ends := callback_ends Tokens.plainPlatform ⟨String.ofList⟩ {} ⟨900000,604800000⟩ 0 0 .google
    (some [withoutPassword]) keyed
    (.profile ⟨some [some "Ann@Test.test",some "other@test.test"]⟩)
  refine (ends.1 _).mpr ⟨[withoutPassword],withoutPassword,rfl,?_,rfl⟩
  exact ⟨"Ann@Test.test",rfl,by decide,List.mem_cons_self,rfl,by decide⟩

end BoarPack.Auth
