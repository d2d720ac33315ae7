import BoarPack.Users.Service
import BoarPack.Library.Transition

/-! `UsersController` behind `UsersEditingGuard`. The guard compares the path id with the actor's id as strings, the
CRUD layer looks the row up as a uuid; and the guard looks at the body before the pipes have normalised it. The CRUD
layer is a parameter, of which no more is used than `Documented` states. A run is a sequence of requests of one actor,
each performed as a whole. -/
namespace BoarPack.Users

/-- A body that the validation accepts; `id` and `deletedAt` are columns that no DTO declares. -/
structure Body where
  id : Option String
  name : Option String
  email : Option String
  role : Option Roles
  pass : Option (Option String)
  permissions : Option (List String)
  deletedAt : Option (Option Nat)
  deriving DecidableEq, Repr

/-- What the pipes and the CRUD layer do: the uuid comparison of Postgres, the normal form of an e-mail, whether the
validation lets fields through that the DTO does not declare, and the three methods, which return what they leave of the
table. `Q` is what else of a request they read, as its search parameters. -/
structure Crud (Q : Type) where
  uuidEq : String → String → Bool
  normalize : String → String
  hashPassword : String → String
  allowUnknown : Bool
  createOne : Table → Body → Q → Option Table
  updateOne : Table → String → Body → Q → Option Table
  deleteOne : Table → String → Q → Option Table

/-- The routes that the guard stands in front of. -/
inductive Request (Q : Type)
  | createOne (body : Body) (rest : Q)
  | updateOne (id : String) (body : Body) (rest : Q)
  | deleteOne (id : String) (rest : Q)
  deriving DecidableEq, Repr

/-- `ability.can(Action.Manage, 'all')` of the ability that `createForUser` builds. -/
structure CaslAbilityFactory where
  canManageAll : String → Roles → List String → Bool

def CaslAbilityFactory.manages (factory : CaslAbilityFactory) (user : TUser) : Bool :=
  factory.canManageAll user.id user.role user.permissions

def changes {A : Type} [DecidableEq A] (newValue : Option A) (value : A) : Bool :=
  newValue != some value && newValue != none

namespace UsersEditingGuard

def canActivate {Q : Type} (factory : CaslAbilityFactory) (user : Option TUser) (request : Request Q) :
    Except Exception Bool :=
  match user with
  | none => .error (.internalServerError "User not found in users editing guard")
  | some user =>
    match request with
    | .createOne body _ =>
      if body.role == some .admin && !factory.manages user then .error (.forbidden "User can't create admin")
      else .ok true
    | .updateOne editingUserId body _ =>
      if editingUserId == user.id && changes body.role user.role then
        .error (.forbidden "User can't change his role")
      else if editingUserId == user.id && changes body.email user.email then
        .error (.forbidden "User can't change his email")
      else if editingUserId == user.id && changes body.permissions user.permissions then
        .error (.forbidden "User can't change his permissions")
      else if body.role == some .admin && !factory.manages user then
        .error (.forbidden "User can't change role to admin")
      else .ok true
    | .deleteOne editingUserId _ =>
      if editingUserId == user.id then .error (.forbidden "User can't delete himself")
      else .ok true

end UsersEditingGuard

section Pipes

variable {Q : Type} (crud : Crud Q)

/-- After `HashPasswordInterceptor` and the validation of the DTO. -/
def Body.piped (body : Body) : Body :=
  { body with
    id := if crud.allowUnknown then body.id else none
    deletedAt := if crud.allowUnknown then body.deletedAt else none
    email := body.email.map crud.normalize
    pass := body.pass.map (Option.map (fun pass => if pass == "" then pass else crud.hashPassword pass)) }

def Body.created (body : Body) : Body :=
  { body.piped crud with permissions := some (body.permissions.getD []) }

/-- `name` and `email` are required of a new user. -/
def createOneBase (table : Table) (body : Body) (rest : Q) : Option Table :=
  if body.name.isSome && body.email.isSome then crud.createOne table (body.created crud) rest else none

def updateOneBase (table : Table) (id : String) (body : Body) (rest : Q) : Option Table :=
  crud.updateOne table id (body.piped crud) rest

def deleteOneBase (table : Table) (id : String) (rest : Q) : Option Table := crud.deleteOne table id rest

def perform (table : Table) : Request Q → Option Table
  | .createOne body rest => createOneBase crud table body rest
  | .updateOne id body rest => updateOneBase crud table id body rest
  | .deleteOne id rest => deleteOneBase crud table id rest

end Pipes

def Body.onto (body : Body) (found : User) : User :=
  { found with
    name := body.name.getD found.name
    email := body.email.getD found.email
    role := body.role.getD found.role
    pass := body.pass.getD found.pass
    permissions := body.permissions.getD found.permissions
    deletedAt := body.deletedAt.getD found.deletedAt }

def saveFound (table : Table) (body : Body) (found : User) : Option Table :=
  if table.any (fun row => row.id != found.id && row.email == (body.onto found).email) then none
  else some (table.map (fun row => if row.id == found.id then body.onto row else row))

/-- The columns that a DTO has are written to one row, of whatever else there is in the table. -/
def written (table : Table) (found : User) (dto : Body) : Table :=
  table.map (fun row => if row.id == found.id then dto.onto row else row)

/-- A create inserts one row, of the role that the DTO has or the default one; where the DTO carries the id of a
stored row, `save` writes that one. An update writes and a delete removes one row that the path id denotes
as a uuid. -/
structure Documented {Q : Type} (crud : Crud Q) : Prop where
  created : ∀ table dto rest next, crud.createOne table dto rest = some next →
    (∃ row, next = table ++ [row] ∧ (∀ other ∈ table, other.id ≠ row.id) ∧ row.role = dto.role.getD .user) ∨
    ∃ id ∈ dto.id, ∃ found ∈ table, crud.uuidEq found.id id = true ∧ next = written table found dto
  updated : ∀ table id dto rest next, crud.updateOne table id dto rest = some next →
    ∃ found ∈ table, crud.uuidEq found.id id = true ∧ next = written table found dto
  deleted : ∀ table id rest next, crud.deleteOne table id rest = some next →
    ∃ found ∈ table, crud.uuidEq found.id id = true ∧ ∃ now, next = softRemove table found.id now

section Step

variable {Q : Type} (crud : Crud Q) (factory : CaslAbilityFactory) (actorId : String) (table : Table)

def step (request : Request Q) : Option Table :=
  match findOne table actorId with
  | none => some table
  | some user =>
    match UsersEditingGuard.canActivate factory (some user.selected) request with
    | .ok _ => some ((perform crud table request).getD table)
    | .error _ => some table

end Step

structure Kept (actor : User) (table : Table) : Prop where
  present : ∃ row ∈ table, row.id = actor.id
  same : ∀ row ∈ table, row.id = actor.id → row.deletedAt = none ∧ row.role = actor.role ∧
    row.email = actor.email ∧ row.permissions = actor.permissions

/-- Every admin was one, and one that is there was there. -/
def NoNewAdmins (start table : Table) : Prop :=
  ∀ row ∈ table, row.role = .admin →
    ∃ old ∈ start, old.id = row.id ∧ old.role = .admin ∧ (row.deletedAt = none → old.deletedAt = none)

def Request.respelled {Q : Type} (actorId : String) : Request Q → Request Q
  | .createOne body rest => .createOne body rest
  | .updateOne _ body rest => .updateOne actorId body rest
  | .deleteOne _ rest => .deleteOne actorId rest

/-- A deleted admin would be there again. -/
def Revives (body : Body) (row : User) : Prop :=
  body.deletedAt = some none ∧ row.deletedAt ≠ none ∧ body.role.getD row.role = .admin

instance (body : Body) (row : User) : Decidable (Revives body row) := by unfold Revives; infer_instance

/-- A request that denotes the actor would also pass the guard in the database's spelling and carries an e-mail in
normal form, and no field that the DTO leaves out makes it another request. -/
def Agrees {Q : Type} (crud : Crud Q) (factory : CaslAbilityFactory) (actorId : String) (table : Table)
    (request : Request Q) : Prop :=
  let allowed := UsersEditingGuard.canActivate factory ((findOne table actorId).map User.selected)
    (request.respelled actorId) = .ok true
  match request with
  | .createOne body _ => crud.allowUnknown = true → ∀ id ∈ body.id, ∀ row ∈ table, crud.uuidEq row.id id = true →
      row.id ≠ actorId ∧ ¬ Revives body row
  | .updateOne id body _ => ∀ row ∈ table, crud.uuidEq row.id id = true →
      (row.id = actorId → allowed ∧ (∀ email ∈ body.email, crud.normalize email = email) ∧
        (crud.allowUnknown = true → body.deletedAt = none)) ∧
      (crud.allowUnknown = true → ¬ Revives body row)
  | .deleteOne id _ => ∀ row ∈ table, crud.uuidEq row.id id = true → row.id = actorId → allowed

instance {Q : Type} (crud : Crud Q) (factory : CaslAbilityFactory) (actorId : String) (table : Table) :
    (request : Request Q) → Decidable (Agrees crud factory actorId table request)
  | .createOne .. => by unfold Agrees; infer_instance
  | .updateOne .. => by unfold Agrees; infer_instance
  | .deleteOne .. => by unfold Agrees; infer_instance

variable {Q : Type} {crud : Crud Q} {factory : CaslAbilityFactory} {actor : User} {table : Table}

private theorem changes_eq_false {A : Type} [DecidableEq A] (newValue : Option A) (value : A) :
    changes newValue value = false ↔ newValue.getD value = value := by
  cases newValue with
  | none => simp [changes]
  | some other => simp [changes]

private theorem canActivate_ok (user : TUser) (request : Request Q) (result : Bool)
    (passed : UsersEditingGuard.canActivate factory (some user) request = .ok result) :
    match request with
    | .createOne body _ => body.role = some .admin → factory.manages user = true
    | .updateOne id body _ => (body.role = some .admin → factory.manages user = true) ∧ (id = user.id →
        body.role.getD user.role = user.role ∧ body.email.getD user.email = user.email ∧
          body.permissions.getD user.permissions = user.permissions)
    | .deleteOne id _ => id ≠ user.id := by
  cases request with
  | createOne body rest =>
    simp only [UsersEditingGuard.canActivate] at passed
    split at passed
    next refused => cases passed
    next allowed => simpa using allowed
  | updateOne id body rest =>
    simp only [UsersEditingGuard.canActivate] at passed
    split at passed
    next refused => cases passed
    next role =>
      split at passed
      next refused => cases passed
      next email =>
        split at passed
        next refused => cases passed
        next permissions =>
          split at passed
          next refused => cases passed
          next allowed =>
            refine ⟨by simpa using allowed,fun own => ?_⟩
            simp only [own,beq_self_eq_true,Bool.true_and,Bool.not_eq_true,changes_eq_false] at role email permissions
            exact ⟨role,email,permissions⟩
  | deleteOne id rest =>
    simp only [UsersEditingGuard.canActivate] at passed
    split at passed
    next refused => cases passed
    next allowed => simpa using allowed

private theorem mem_written {dto : Body} {found row : User} (member : row ∈ written table found dto) :
    ∃ old ∈ table, old.id = row.id ∧ ((old.id ≠ found.id ∧ row = old) ∨ (old.id = found.id ∧ row = dto.onto old)) := by
  obtain ⟨old,inside,same⟩ := List.mem_map.mp member
  split at same
  next matched =>
    refine ⟨old,inside,?_,Or.inr ⟨eq_of_beq matched,same.symm⟩⟩
    rw [← same]
    rfl
  next other => exact ⟨old,inside,same ▸ rfl,Or.inl ⟨fun equal => other (beq_iff_eq.mpr equal),same.symm⟩⟩

theorem written_ids (dto : Body) (found : User) : (written table found dto).map User.id = table.map User.id := by
  rw [written,List.map_map]
  apply List.map_congr_left
  intro row _
  simp only [Function.comp_apply]
  split <;> rfl

theorem Kept.present_of_ids {next : Table} (kept : Kept actor table)
    (ids : next.map User.id = table.map User.id) : ∃ row ∈ next, row.id = actor.id := by
  obtain ⟨row,member,named⟩ := kept.present
  have listed : actor.id ∈ next.map User.id := by
    rw [ids,← named]
    exact List.mem_map_of_mem member
  exact List.mem_map.mp listed

theorem Kept.written {dto : Body} {found : User} (kept : Kept actor table)
    (harmless : found.id = actor.id → dto.role.getD actor.role = actor.role ∧ dto.email.getD actor.email = actor.email ∧
      dto.permissions.getD actor.permissions = actor.permissions ∧ dto.deletedAt.getD none = none) :
    Kept actor (written table found dto) := by
  refine ⟨kept.present_of_ids (written_ids dto found),?_⟩
  intro row member named
  obtain ⟨old,inside,same,⟨_,rfl⟩ | ⟨own,rfl⟩⟩ := mem_written member
  · exact kept.same row inside named
  · have before := kept.same old inside (same.trans named)
    have unchanged := harmless (own.symm.trans (same.trans named))
    simp only [Body.onto]
    rw [before.1,before.2.1,before.2.2.1,before.2.2.2]
    exact ⟨unchanged.2.2.2,unchanged.1,unchanged.2.1,unchanged.2.2.1⟩

theorem NoNewAdmins.written {start : Table} {dto : Body} {found : User} (bounded : NoNewAdmins start table)
    (demoted : dto.role ≠ some .admin) (apart : ∀ row ∈ table, row.id = found.id → ¬ Revives dto row) :
    NoNewAdmins start (written table found dto) := by
  intro row member admin
  obtain ⟨old,inside,same,⟨_,rfl⟩ | ⟨own,rfl⟩⟩ := mem_written member
  · exact bounded row inside admin
  · have role : dto.role.getD old.role = .admin := admin
    have kept : old.role = .admin := by
      cases given : dto.role with
      | none => simpa [given] using role
      | some other =>
        rw [given,Option.getD_some] at role
        exact absurd (role ▸ given) demoted
    obtain ⟨first,started,named,administers,lived⟩ := bounded old inside kept
    refine ⟨first,started,named.trans same,administers,fun alive => lived ?_⟩
    -- A row that was deleted and is not any more was revived.
    by_contra deleted
    have cleared : dto.deletedAt = some none := by
      have now : dto.deletedAt.getD old.deletedAt = none := alive
      cases given : dto.deletedAt with
      | none => exact absurd (by simpa [given] using now) deleted
      | some time => simpa [given] using now
    exact apart old inside own ⟨cleared,deleted,role⟩

theorem Kept.append {row : User} (kept : Kept actor table) (fresh : ∀ other ∈ table, other.id ≠ row.id) :
    Kept actor (table ++ [row]) := by
  obtain ⟨own,member,named⟩ := kept.present
  refine ⟨⟨own,List.mem_append_left _ member,named⟩,?_⟩
  intro other inside same
  obtain old | new := List.mem_append.mp inside
  · exact kept.same other old same
  · rw [List.mem_singleton.mp new] at same
    exact absurd (named.trans same.symm) (fresh own member)

theorem NoNewAdmins.append {start : Table} {row : User} (bounded : NoNewAdmins start table)
    (plain : row.role ≠ .admin) :
    NoNewAdmins start (table ++ [row]) := by
  intro other inside admin
  obtain old | new := List.mem_append.mp inside
  · exact bounded other old admin
  · rw [List.mem_singleton.mp new] at admin
    exact absurd admin plain

theorem Kept.softRemove (kept : Kept actor table) (id : String) (now : Nat) (other : id ≠ actor.id) :
    Kept actor (softRemove table id now) := by
  have untouched : ∀ row ∈ Users.softRemove table id now, row.id = actor.id → row ∈ table := by
    intro row member named
    obtain ⟨old,inside,same⟩ := (mem_softRemove table id now row).mp member
    split at same
    next removed =>
      rw [same] at named
      exact absurd (removed.1.symm.trans named) other
    next stays => exact same ▸ inside
  exact ⟨kept.present_of_ids (softRemove_ids table id now),
    fun row member named => kept.same row (untouched row member named) named⟩

theorem NoNewAdmins.softRemove {start : Table} (bounded : NoNewAdmins start table) (id : String) (now : Nat) :
    NoNewAdmins start (softRemove table id now) := by
  intro row member admin
  obtain ⟨old,inside,same⟩ := (mem_softRemove table id now row).mp member
  split at same
  next removed =>
    rw [same] at admin ⊢
    obtain ⟨first,started,named,administers,_⟩ := bounded old inside admin
    exact ⟨first,started,named,administers,fun alive => by cases alive⟩
  next stays => exact bounded row (same ▸ inside) admin

private theorem demoted_created {body : Body} (plain : body.role ≠ some .admin) :
    (body.created crud).role.getD .user ≠ .admin := by
  cases role : body.role with
  | none => simp [Body.created,Body.piped,role]
  | some other =>
    rw [role] at plain
    simpa [Body.created,Body.piped,role] using plain

/-- What a body that was let through carries in the columns that no DTO declares. -/
theorem piped_undeclared {body : Body} (unknown : crud.allowUnknown = false) :
    (body.piped crud).id = none ∧ (body.piped crud).deletedAt = none := by
  simp [Body.piped,unknown]

private theorem revives_piped {body : Body} {row : User} (safe : crud.allowUnknown = true → ¬ Revives body row) :
    ¬ Revives (body.piped crud) row := by
  intro revived
  cases unknown : crud.allowUnknown with
  | false =>
    have nothing := revived.1
    rw [(piped_undeclared unknown).2] at nothing
    cases nothing
  | true => exact safe unknown (by simpa [Revives,Body.piped,unknown] using revived)

section Requests

variable (documented : Documented crud) {start : Table} {body : Body} {next : Table} {rest : Q}

include documented

private theorem createOne_keeps (kept : Kept actor table) (bounded : NoNewAdmins start table)
    (plain : body.role ≠ some .admin)
    (agrees : crud.allowUnknown = true → ∀ id ∈ body.id, ∀ row ∈ table, crud.uuidEq row.id id = true →
      row.id ≠ actor.id ∧ ¬ Revives body row)
    (distinct : (table.map User.id).Nodup) (created : createOneBase crud table body rest = some next) :
    Kept actor next ∧ NoNewAdmins start next := by
  unfold createOneBase at created
  split at created
  next =>
    obtain ⟨row,rfl,fresh,role⟩ | ⟨id,given,found,inside,denoted,rfl⟩ := documented.created _ _ _ _ created
    · exact ⟨kept.append fresh,bounded.append (role ▸ demoted_created plain)⟩
    · cases unknown : crud.allowUnknown with
      | false =>
        have nothing : (body.created crud).id = none := by simp [Body.created,Body.piped,unknown]
        rw [nothing] at given
        cases given
      | true =>
        have sent : id ∈ body.id := by simpa [Body.created,Body.piped,unknown] using given
        obtain ⟨other,safe⟩ := agrees unknown id sent found inside denoted
        refine ⟨kept.written (fun own => absurd own other),bounded.written plain (fun row member same => ?_)⟩
        have equal : row = found := List.inj_on_of_nodup_map distinct member inside same
        rw [equal]
        intro revived
        exact safe (by simpa [Revives,Body.created,Body.piped,unknown] using revived)
  next incomplete => cases created

private theorem updateOne_keeps {id : String} (kept : Kept actor table) (bounded : NoNewAdmins start table)
    (plain : body.role ≠ some .admin)
    (agrees : ∀ row ∈ table, crud.uuidEq row.id id = true →
      (row.id = actor.id → (body.role.getD actor.role = actor.role ∧ body.email.getD actor.email = actor.email ∧
          body.permissions.getD actor.permissions = actor.permissions) ∧
        (∀ email ∈ body.email, crud.normalize email = email) ∧ (crud.allowUnknown = true → body.deletedAt = none)) ∧
      (crud.allowUnknown = true → ¬ Revives body row))
    (distinct : (table.map User.id).Nodup) (updated : updateOneBase crud table id body rest = some next) :
    Kept actor next ∧ NoNewAdmins start next := by
  obtain ⟨found,inside,denoted,rfl⟩ := documented.updated _ _ _ _ _ updated
  obtain ⟨own_row,safe⟩ := agrees found inside denoted
  refine ⟨kept.written (fun own => ?_),bounded.written plain (fun row member same => ?_)⟩
  · obtain ⟨⟨role,email,permissions⟩,normal,undeclared⟩ := own_row own
    refine ⟨role,?_,permissions,?_⟩
    · cases sent : body.email with
      | none => simp [Body.piped,sent]
      | some address =>
        rw [sent] at email
        simpa [Body.piped,sent,normal address sent] using email
    · cases unknown : crud.allowUnknown with
      | false => rw [(piped_undeclared unknown).2,Option.getD_none]
      | true => simp [Body.piped,undeclared unknown]
  · have equal : row = found := List.inj_on_of_nodup_map distinct member inside same
    rw [equal]
    exact revives_piped safe

end Requests

/-- No request makes two rows of one id. -/
theorem step_ids (documented : Documented crud) {actorId : String} {next : Table} {request : Request Q}
    (distinct : (table.map User.id).Nodup) (taken : step crud factory actorId table request = some next) :
    (next.map User.id).Nodup := by
  unfold step at taken
  split at taken
  next =>
    cases taken
    exact distinct
  next =>
    split at taken
    next =>
      cases performed : perform crud table request with
      | none =>
        rw [performed] at taken
        cases taken
        exact distinct
      | some after =>
        rw [performed] at taken
        cases taken
        cases request with
        | createOne body rest =>
          simp only [perform,createOneBase] at performed
          split at performed
          next =>
            obtain ⟨row,rfl,fresh,_⟩ | ⟨_,_,found,_,_,rfl⟩ := documented.created _ _ _ _ performed
            · rw [Option.getD_some,List.map_append,List.nodup_append]
              refine ⟨distinct,by simp,?_⟩
              simp only [List.mem_map,List.map_cons,List.map_nil,List.mem_singleton]
              rintro _ ⟨other,member,rfl⟩ _ rfl
              exact fresh other member
            · rw [Option.getD_some,written_ids]
              exact distinct
          next => cases performed
        | updateOne id body rest =>
          obtain ⟨found,_,_,rfl⟩ := documented.updated _ _ _ _ _ performed
          rw [Option.getD_some,written_ids]
          exact distinct
        | deleteOne id rest =>
          obtain ⟨found,_,_,now,rfl⟩ := documented.deleted _ _ _ _ performed
          rw [Option.getD_some,softRemove_ids]
          exact distinct
    next =>
      cases taken
      exact distinct

theorem step_keeps (documented : Documented crud) {start next : Table} {request : Request Q}
    (plain : factory.canManageAll actor.id actor.role actor.permissions = false)
    (kept : Kept actor table) (bounded : NoNewAdmins start table) (distinct : (table.map User.id).Nodup)
    (agrees : Agrees crud factory actor.id table request)
    (taken : step crud factory actor.id table request = some next) :
    Kept actor next ∧ NoNewAdmins start next := by
  unfold step at taken
  cases signedIn : findOne table actor.id with
  | none =>
    simp only [signedIn] at taken
    cases taken
    exact ⟨kept,bounded⟩
  | some user =>
    obtain ⟨member,named,_⟩ := findOne_some table actor.id user signedIn
    obtain ⟨_,role,email,permissions⟩ := kept.same user member named
    have powerless : factory.manages user.selected = false := by
      simp [CaslAbilityFactory.manages,User.selected,named,role,permissions,plain]
    simp only [signedIn] at taken
    split at taken
    next result passed =>
      cases performed : perform crud table request with
      | none =>
        rw [performed] at taken
        cases taken
        exact ⟨kept,bounded⟩
      | some after =>
        rw [performed] at taken
        cases taken
        have allowed := canActivate_ok user.selected request result passed
        unfold Agrees at agrees
        rw [signedIn] at agrees
        cases request with
        | createOne body rest =>
          have demoted : body.role ≠ some .admin := fun admin => by simp [allowed admin] at powerless
          exact createOne_keeps documented kept bounded demoted agrees distinct performed
        | updateOne id body rest =>
          have demoted : body.role ≠ some .admin := fun admin => by simp [allowed.1 admin] at powerless
          refine updateOne_keeps documented kept bounded demoted (fun row inside denoted => ?_) distinct performed
          obtain ⟨own_row,safe⟩ := agrees row inside denoted
          refine ⟨fun own => ?_,safe⟩
          obtain ⟨respelled,normal,undeclared⟩ := own_row own
          have unchanged := (canActivate_ok user.selected _ true respelled).2 named.symm
          rw [← role,← email,← permissions]
          exact ⟨unchanged,normal,undeclared⟩
        | deleteOne id rest =>
          obtain ⟨found,inside,denoted,now,rfl⟩ := documented.deleted _ _ _ _ performed
          refine ⟨kept.softRemove found.id now (fun own => ?_),bounded.softRemove found.id now⟩
          exact canActivate_ok user.selected _ true (agrees found inside denoted own) named.symm
    next exception refused =>
      cases taken
      exact ⟨kept,bounded⟩

/-- An actor that does not manage all keeps its role, e-mail and permissions, is not
deleted and makes no admin, over any run whose requests the guard and the database
read alike. -/
theorem actor_keeps_privileges {Q : Type} (crud : Crud Q) (documented : Documented crud) (factory : CaslAbilityFactory)
    (start : Table) (keyed : Keyed start) (actor : User) (present : findOne start actor.id = some actor)
    (plain : factory.canManageAll actor.id actor.role actor.permissions = false) (requests : List (Request Q))
    (agree : Transition.Meets (step crud factory actor.id) (Agrees crud factory actor.id) start requests) :
    Transition.Always (step crud factory actor.id) (fun table => Kept actor table ∧ NoNewAdmins start table)
      start requests := by
  obtain ⟨member,_,alive⟩ := findOne_some start actor.id actor present
  refine Transition.Always.imp (fun _ both => both.1) (Transition.always_of_meets
    (fun table => (Kept actor table ∧ NoNewAdmins start table) ∧ (table.map User.id).Nodup)
    (Agrees crud factory actor.id) ?_ start requests ⟨⟨⟨⟨actor,member,rfl⟩,fun row inside named => ?_⟩,
      fun row inside admin => ⟨row,inside,rfl,admin,id⟩⟩,keyed.ids⟩ agree)
  · intro table request next both agrees taken
    exact ⟨step_keeps documented plain both.1.1 both.1.2 both.2 agrees taken,step_ids documented both.2 taken⟩
  · have equal : row = actor := List.inj_on_of_nodup_map keyed.ids inside member named
    rw [equal]
    exact ⟨alive,rfl,rfl,rfl⟩

def plainUuidEq (left right : String) : Bool := left.toList.map Char.toLower == right.toList.map Char.toLower

/-- A CRUD layer that keeps the promises, with the id that the database draws for a new row and the time. -/
def plainCrud : Crud (String × Nat) where
  uuidEq := plainUuidEq
  normalize email := String.ofList (email.toList.map Char.toLower)
  hashPassword pass := "$2b$" ++ pass
  allowUnknown := true
  createOne table dto rest :=
    insert table ⟨rest.1,dto.name.getD "",dto.email.getD "",dto.role.getD .user,dto.pass.getD none,
      dto.permissions.getD [],none⟩
  updateOne table id dto _ :=
    (table.find? (fun row => plainUuidEq row.id id && row.deletedAt.isNone)).map (fun found => written table found dto)
  deleteOne table id rest :=
    (table.find? (fun row => plainUuidEq row.id id && row.deletedAt.isNone)).map (fun found =>
      softRemove table found.id rest.2)

theorem plainCrud_documented : Documented plainCrud where
  created table dto rest next saved := by
    obtain ⟨rfl,fresh⟩ := insert_some _ _ _ saved
    exact Or.inl ⟨_,rfl,fun other member => (fresh other member).1,rfl⟩
  updated table id dto rest next saved := by
    obtain ⟨found,located,rfl⟩ := Option.map_eq_some_iff.mp saved
    exact ⟨found,List.mem_of_find?_eq_some located,(Bool.and_eq_true _ _ ▸ List.find?_some located).1,rfl⟩
  deleted table id rest next saved := by
    obtain ⟨found,located,rfl⟩ := Option.map_eq_some_iff.mp saved
    exact ⟨found,List.mem_of_find?_eq_some located,(Bool.and_eq_true _ _ ▸ List.find?_some located).1,rest.2,rfl⟩

def adminsManageAll : CaslAbilityFactory where
  canManageAll _ role _ := role == .admin

def manager : User :=
  ⟨"7c1fe0a2-4d35-4b8e-9f06-2b9d1a6e5c43","Manager","manager@test.test",.user,none,["manage_users"],none⟩

theorem manager_keeps_privileges :
    Transition.Always (step plainCrud adminsManageAll manager.id)
      (fun table => Kept manager table ∧ NoNewAdmins [manager] table) [manager]
      [.createOne ⟨none,some "Eve",some "Eve@test.test",none,some (some "secret"),none,none⟩
          ("e2b7c9d4-1a60-4f3c-8d2e-5b0f9a7c6e18",0),
        .updateOne manager.id ⟨none,some "Boss",none,some .user,none,none,none⟩ ("",0),
        .deleteOne "E2B7C9D4-1A60-4F3C-8D2E-5B0F9A7C6E18" ("",5)] :=
  actor_keeps_privileges plainCrud plainCrud_documented adminsManageAll [manager] ⟨by decide,by decide⟩
    manager (by decide)
    (by decide) _ (by decide)

theorem manager_deletes_himself : ∃ table,
    Transition.run (step plainCrud adminsManageAll manager.id) [manager]
      [.deleteOne "7C1FE0A2-4D35-4B8E-9F06-2B9D1A6E5C43" ("",5)] = some table ∧ ¬ Kept manager table := by
  refine ⟨_,rfl,fun kept => ?_⟩
  have alive := (kept.same { manager with deletedAt := some 5 } (by decide) rfl).1
  cases alive

end BoarPack.Users
