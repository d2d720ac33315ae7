import BoarPack.Auth.Service
import BoarPack.Library.Base64
import BoarPack.Library.Unicode
import BoarPack.Users.EditingGuard

/-! A password from `HashPasswordInterceptor` through the DTO to the users table, and back at
`AuthService.validateUser`. Passwords are code units, as JSON can hold any. -/
namespace BoarPack.Auth.Passwords
open Unicode Users

-- `Joi.string()` rejects the empty text
structure Password where
  text : Text
  accepted : text ≠ []
  deriving DecidableEq

def significant (text : Text) : List UInt8 := (utf8 (scalars text)).take 72

/-- What is used of bcrypt: it reads 72 bytes of a password, and tells passwords that differ in them apart. -/
structure Bcrypt where
  hash : Text → Nat → String
  compare : Text → String → Bool
  hash_ne : ∀ text salt, hash text salt ≠ ""
  compare_hash : ∀ text other salt, compare other (hash text salt) = true ↔ significant other = significant text

section

variable (bcrypt : Bcrypt) (platform : Platform)

/-- `request.body.pass` afterwards; the empty text is left. -/
def intercept (salt : Nat) (pass : Option Text) : Option String :=
  match pass with
  | none => none
  | some [] => some ""
  | some text => some (bcrypt.hash text salt)

/-- `Joi.string().optional().allow(null)`, the same of both DTOs, after the interceptor. -/
def dtoPass (pass : Option String) : Except String (Option String) :=
  if pass = some "" then .error "string.empty" else .ok pass

def createOne (salt : Nat) (table : Table) (data : User) (pass : Option Text) : Option Table :=
  match dtoPass (intercept bcrypt salt pass) with
  | .error _ => none
  | .ok stored => create platform table { data with pass := stored }

def updateOne (salt : Nat) (table : Table) (id : String) (body : Body) (pass : Option Text) : Option Table :=
  match findOne table id, dtoPass (intercept bcrypt salt pass) with
  | some found, .ok stored => saveFound table { body with pass := some stored, deletedAt := none } found
  | _, _ => none

def validateUser (users : Users.Table) (email : String) (pass : Text) : Option TUser :=
  match findByEmail platform users email with
  | none => none
  | some user =>
    match user.pass with
    | none => none
    | some hash =>
      if hash == "" then none
      else if bcrypt.compare pass hash then some user.withoutPass else none

/-- After the user was created or updated with a password, another one logs in if and only if it is the same. -/
def AcceptsOnly (password other : Password) : Prop :=
  (∀ salt table data next email, createOne bcrypt platform salt table data (some password.text) = some next →
    platform.toLowerCase email = platform.toLowerCase data.email →
      (validateUser bcrypt platform next email other.text =
        some { data with email := platform.toLowerCase data.email }.withoutPass ↔ other = password)) ∧
  (∀ salt table id body found next email, Keyed table → findOne table id = some found →
    updateOne bcrypt salt table id body (some password.text) = some next →
    platform.toLowerCase email = (body.onto found).email →
      (validateUser bcrypt platform next email other.text = some (body.onto found).withoutPass ↔ other = password))

end

private theorem intercept_password (bcrypt : Bcrypt) (salt : Nat) (password : Password) :
    intercept bcrypt salt (some password.text) = some (bcrypt.hash password.text salt) := by
  obtain ⟨text,accepted⟩ := password
  cases text with
  | nil => exact absurd rfl accepted
  | cons u rest => rfl

private theorem dtoPass_password (bcrypt : Bcrypt) (salt : Nat) (password : Password) :
    dtoPass (intercept bcrypt salt (some password.text)) = .ok (some (bcrypt.hash password.text salt)) := by
  rw [intercept_password,dtoPass,if_neg (fun empty => bcrypt.hash_ne _ _ (Option.some.inj empty))]

private theorem findByEmail_only {platform : Platform} {users : Users.Table} {user : User} {email : String}
    (member : user ∈ users) (alive : user.deletedAt = none) (spelled : platform.toLowerCase email = user.email)
    (only : ∀ row ∈ users, row.email = user.email → row = user) : findByEmail platform users email = some user := by
  cases found : findByEmail platform users email with
  | none =>
    have passed := List.find?_eq_none.mp found user member
    simp [spelled,alive] at passed
  | some row =>
    obtain ⟨inside,same,_⟩ := findByEmail_some platform users email row found
    rw [only row inside (same.trans spelled)]

private theorem validateUser_stored (bcrypt : Bcrypt) {platform : Platform} {users : Users.Table} {user : User}
    {email : String} (found : findByEmail platform users email = some user) {password : Password} {salt : Nat}
    (stored : user.pass = some (bcrypt.hash password.text salt)) (other : Text) :
    validateUser bcrypt platform users email other = some user.withoutPass ↔
      significant other = significant password.text := by
  have filled : (bcrypt.hash password.text salt == "") = false := by
    simpa using bcrypt.hash_ne password.text salt
  rw [← bcrypt.compare_hash password.text other salt,validateUser,found]
  simp only [stored,filled]
  cases bcrypt.compare other (bcrypt.hash password.text salt) with
  | true => simp
  | false => simp

private theorem createOne_found {bcrypt : Bcrypt} {platform : Platform} {salt : Nat} {table next : Table} {data : User}
    {password : Password} (saved : createOne bcrypt platform salt table data (some password.text) = some next)
    {email : String} (spelled : platform.toLowerCase email = platform.toLowerCase data.email) :
    findByEmail platform next email = some { data with
      email := platform.toLowerCase data.email, pass := some (bcrypt.hash password.text salt), deletedAt := none } := by
  rw [createOne,dtoPass_password] at saved
  obtain ⟨rfl,free⟩ := insert_some _ _ _ saved
  apply findByEmail_only
  · exact List.mem_append_right _ List.mem_cons_self
  · rfl
  · exact spelled
  · intro row member same
    rcases List.mem_append.mp member with old | new
    · exact absurd same (free row old).2
    · exact List.mem_singleton.mp new

private theorem updateOne_found {bcrypt : Bcrypt} {platform : Platform} {salt : Nat} {table next : Table} {id : String}
    {body : Body} {password : Password} {found : User} (keyed : Keyed table) (live : findOne table id = some found)
    (saved : updateOne bcrypt salt table id body (some password.text) = some next) {email : String}
    (spelled : platform.toLowerCase email = (body.onto found).email) :
    findByEmail platform next email =
      some { body.onto found with pass := some (bcrypt.hash password.text salt), deletedAt := none } := by
  obtain ⟨inside,_,alive⟩ := findOne_some table id found live
  rw [updateOne,live,dtoPass_password] at saved
  have written : { body with pass := some (some (bcrypt.hash password.text salt)), deletedAt := none }.onto found =
      { body.onto found with pass := some (bcrypt.hash password.text salt), deletedAt := none } := by
    simp [Body.onto,alive]
  simp only [saveFound] at saved
  split at saved
  next clash => cases saved
  next free =>
    obtain rfl := Option.some.inj saved
    rw [← written]
    apply findByEmail_only
    · exact List.mem_map.mpr ⟨found,inside,if_pos (beq_self_eq_true found.id)⟩
    · exact alive
    · exact spelled
    · intro row member same
      obtain ⟨old,there,rfl⟩ := List.mem_map.mp member
      split at same
      next matched =>
        have equal : old = found := List.inj_on_of_nodup_map keyed.ids there inside (eq_of_beq matched)
        rw [equal,if_pos (beq_self_eq_true found.id)]
      next other => exact absurd (List.any_eq_true.mpr ⟨old,there,by simp_all⟩) free

private theorem acceptsOnly_iff (bcrypt : Bcrypt) (platform : Platform) (password other : Password) :
    AcceptsOnly bcrypt platform password other ↔
      (significant other.text = significant password.text ↔ other = password) := by
  constructor
  · intro accepts
    let data : User := ⟨"","","",.user,none,[],none⟩
    have saved : createOne bcrypt platform 0 [] data (some password.text) = some [{ data with
        email := platform.toLowerCase data.email, pass := some (bcrypt.hash password.text 0), deletedAt := none }] := by
      rw [createOne,dtoPass_password]
      rfl
    rw [← accepts.1 0 [] data _ data.email saved rfl]
    exact (validateUser_stored bcrypt (createOne_found saved rfl) rfl other.text).symm
  · intro same
    constructor
    · intro salt table data next email saved spelled
      exact (validateUser_stored bcrypt (createOne_found saved spelled) rfl other.text).trans same
    · intro salt table id body found next email keyed live saved spelled
      exact (validateUser_stored bcrypt (updateOne_found keyed live saved spelled) rfl other.text).trans same

private theorem significant_append {password : Password} (long : 72 ≤ (utf8 (scalars password.text)).length) :
    significant (password.text ++ [97]) = significant password.text := by
  rw [significant,scalars_append (by decide),utf8,List.flatMap_append]
  exact List.take_append_of_le_length long

private theorem scalars_significant {text other : Text} (short : (utf8 (scalars text)).length ≤ 71)
    (same : significant other = significant text) : scalars other = scalars text := by
  have whole : significant text = utf8 (scalars text) := List.take_of_length_le (by omega)
  have bounded : (significant other).length ≤ 71 := by rwa [same,whole]
  have all : significant other = utf8 (scalars other) := by
    apply List.take_of_length_le
    rw [significant,List.length_take] at bounded
    omega
  exact utf8_injective (all ▸ whole ▸ same)

/-- A password accepts only itself among all passwords, if and only if it is at most 71 bytes long in UTF-8, and
neither the replacement character nor a surrogate without its other half is in it; and two passwords are told apart
exactly where they differ in their first 72 bytes. -/
theorem password_accepts_itself_iff (bcrypt : Bcrypt) (platform : Platform) (password : Password) :
    ((∀ other, AcceptsOnly bcrypt platform password other) ↔
      (utf8 (scalars password.text)).length ≤ 71 ∧ replacement ∉ scalars password.text) ∧
    (∀ other, AcceptsOnly bcrypt platform password other ↔
      (significant other.text = significant password.text → other = password)) := by
  constructor
  · constructor
    · intro accepts
      constructor
      · by_contra long
        have longer := (acceptsOnly_iff bcrypt platform password ⟨password.text ++ [97],by simp⟩).mp (accepts _)
        have same := longer.mp (significant_append (by omega))
        exact absurd (congrArg Password.text same) (by simp)
      · intro replacing
        obtain ⟨text,differs,read⟩ := ambiguous password.text replacing
        have filled : text ≠ [] := by
          rintro rfl
          exact List.not_mem_nil (read ▸ replacing)
        have other := (acceptsOnly_iff bcrypt platform password ⟨text,filled⟩).mp (accepts _)
        exact differs (congrArg Password.text (other.mp (by rw [significant,read,significant])))
    · rintro ⟨short,whole⟩ other
      rw [acceptsOnly_iff]
      constructor
      · intro same
        have read := scalars_significant short same
        have text : other.text = password.text := by
          rw [← units_scalars other.text (read ▸ whole),read,units_scalars password.text whole]
        cases other
        cases password
        simpa using text
      · rintro rfl
        rfl
  · intro other
    rw [acceptsOnly_iff]
    constructor
    · exact Iff.mp
    · intro apart
      refine ⟨apart,?_⟩
      rintro rfl
      rfl

/-- A bcrypt that computes: the bytes it reads, in base64. -/
def plainBcrypt : Bcrypt where
  hash text _ := String.ofList ('$' :: Base64.encode (significant text))
  compare text hash := hash == String.ofList ('$' :: Base64.encode (significant text))
  hash_ne text _ := by simp
  compare_hash text other _ := by
    rw [beq_iff_eq,String.ofList_inj,List.cons.injEq,and_iff_right rfl]
    constructor
    · intro same
      have read := congrArg Base64.decode same
      rw [Base64.decode_encode,Base64.decode_encode] at read
      exact read.symm
    · intro same
      rw [same]

theorem longer_password_accepted : ¬ AcceptsOnly plainBcrypt Tokens.plainPlatform
    ⟨List.replicate 72 97,by decide⟩ ⟨List.replicate 73 97,by decide⟩ := by
  rw [acceptsOnly_iff]
  intro same
  exact absurd (same.mp (by decide)) (by decide)

end BoarPack.Auth.Passwords
