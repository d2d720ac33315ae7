import BoarPack.Casl.PoliciesGuard
import BoarPack.AuditLogs.BaseService

/-! `AuditLogsController`: what a user sees of the audit trail. The crud package, which runs a search,
is a parameter. -/
namespace BoarPack.AuditLogs
open Casl

variable {K C O P V Q R : Type}

/-- `target` is the class, or none where it is a name. -/
structure EntityMetadata (K : Type) where
  target : Option K
  tableName : String

/-- `req.parsed.search`, with what the controller puts around it. -/
inductive Search (Q : Type)
  | parsed (search : Q)
  | and (left right : Search Q)
  | tableNameIn (names : List String)
  deriving DecidableEq, Repr

/-- `condition`: the rows that a search lets through, or none if it is refused. `page` sorts and cuts. -/
structure Crud (V Q R : Type) where
  condition : Search Q → Option (AuditLog V → Bool)
  page : R → List (AuditLog V) → List (AuditLog V)

/-- A conjunction is refused with either of its sides, and an empty list of names is. -/
structure Crud.Documented (crud : Crud V Q R) : Prop where
  both : ∀ left right first second, crud.condition left = some first → crud.condition right = some second →
    ∃ condition, crud.condition (.and left right) = some condition ∧ ∀ row, condition row = (first row && second row)
  refused : ∀ left right, crud.condition left = none ∨ crud.condition right = none →
    crud.condition (.and left right) = none
  tables : ∀ names, names ≠ [] → ∃ condition, crud.condition (.tableNameIn names) = some condition ∧
    ∀ row, condition row = names.contains row.tableName
  no_tables : crud.condition (.tableNameIn []) = none

/-- The request of `getManyBase`: its search, its page. -/
structure ParsedRequest (Q R : Type) where
  search : Search Q
  page : R

inductive HttpError
  | unauthorized
  | forbidden
  | badRequest
  | internal (message : String)
  deriving DecidableEq, Repr

def getManyBase (crud : Crud V Q R) (req : ParsedRequest Q R) (trail : List (AuditLog V)) :
    Except HttpError (List (AuditLog V)) :=
  match crud.condition req.search with
  | some condition => .ok (crud.page req.page (trail.filter condition))
  | none => .error .badRequest

section

variable [DecidableEq K] (casl : Package C O P) (auditLog : K)

def ViewAuditLogsPolicy : Policy K := ⟨.read,.type auditLog⟩

namespace AuditLogsController

/-- The classes of the tables that the user manages. -/
def tablesNames (entityMetadatas : List (EntityMetadata K)) (ability : AppAbility K C) : List String :=
  (entityMetadatas.filter (fun meta_ =>
    match meta_.target with
    | some class_ => casl.can .all ability Action.manage.value ⟨.type class_,none⟩ none
    | none => false)).map EntityMetadata.tableName

def getMany (crud : Crud V Q R) (entityMetadatas : List (EntityMetadata K)) (createForUser : User → AppAbility K C)
    (user : Option User) (req : ParsedRequest Q R) (trail : List (AuditLog V)) : Except HttpError (List (AuditLog V)) :=
  match user with
  | none => .error .unauthorized
  | some user =>
    let ability := createForUser user
    if casl.can .all ability Action.manage.value ⟨.all,none⟩ none then getManyBase crud req trail
    else getManyBase crud { req with
      search := .and req.search (.tableNameIn (tablesNames casl entityMetadatas ability)) } trail

/-- The policies are set on the class. -/
def endpoint : Endpoint K C := { checkPolicies := ⟨none,some [(ViewAuditLogsPolicy auditLog).handle casl]⟩ }

/-- The guard and the handler build an ability each. -/
def handled (crud : Crud V Q R) (entityMetadatas : List (EntityMetadata K)) (ofGuard ofHandler : User → AppAbility K C)
    (user : Option User) (req : ParsedRequest Q R) (trail : List (AuditLog V)) : Except HttpError (List (AuditLog V)) :=
  match PoliciesGuard.canActivate ofGuard (endpoint casl auditLog) (.http user) with
  | .answer true _ => getMany casl crud entityMetadatas ofHandler user req trail
  | .answer false _ => .error .forbidden
  | .error message => .error (.internal message)

end AuditLogsController

open AuditLogsController

/-- The user manages everything, or a class that is kept in the table. -/
def ManagesTable (factory : CaslAbilityFactory K C) (user : User) (entityMetadatas : List (EntityMetadata K))
    (tableName : String) :
    Prop :=
  Entitled factory user ManageAllPolicy ∨ ∃ meta_ ∈ entityMetadatas, ∃ class_, meta_.target = some class_ ∧
    meta_.tableName = tableName ∧ Entitled factory user ⟨.manage,.type class_⟩

private theorem getManyBase_ok (crud : Crud V Q R) (req : ParsedRequest Q R) (trail rows : List (AuditLog V)) :
    getManyBase crud req trail = .ok rows ↔
      ∃ condition, crud.condition req.search = some condition ∧ rows = crud.page req.page (trail.filter condition) := by
  unfold getManyBase
  cases crud.condition req.search with
  | none => simp
  | some condition => simp [eq_comm]

section Documented

variable (documented : Casl.Documented casl) (factory : CaslAbilityFactory K C) (user : User)
  (allows : OnlyAllows factory user)

include documented allows in
private theorem mem_tablesNames (entityMetadatas : List (EntityMetadata K)) (turns : List Nat)
    {ability : AppAbility K C} (built : factory.createForUser user turns = some ability) (name : String) :
    name ∈ tablesNames casl entityMetadatas ability ↔ ∃ meta_ ∈ entityMetadatas, ∃ class_, meta_.target = some class_ ∧
      meta_.tableName = name ∧ Entitled factory user ⟨.manage,.type class_⟩ := by
  have manages (class_ : K) := handle_entitled casl documented factory user allows turns built ⟨.manage,.type class_⟩
  simp only [tablesNames,List.mem_map,List.mem_filter,and_assoc]
  apply exists_congr
  intro meta_
  apply and_congr_right
  intro listed
  cases target : meta_.target with
  | none => simp
  | some class_ => simpa [← manages class_,Policy.handle] using and_comm

omit [DecidableEq K] in
/-- What a search of the rows of some tables comes to. -/
theorem condition_and_tables {crud : Crud V Q R} (crud_documented : crud.Documented) (search : Search Q)
    (names : List String)
    (condition : AuditLog V → Bool) : crud.condition (.and search (.tableNameIn names)) = some condition ↔
      names ≠ [] ∧ ∃ matching, crud.condition search = some matching ∧
        ∀ row, condition row = (matching row && names.contains row.tableName) := by
  cases accepted : crud.condition search with
  | none => simp [crud_documented.refused search (.tableNameIn names) (Or.inl accepted)]
  | some matching =>
    by_cases given : names = []
    · subst given
      simp [crud_documented.refused search (.tableNameIn []) (Or.inr crud_documented.no_tables)]
    · obtain ⟨of_tables,listed,tables⟩ := crud_documented.tables names given
      obtain ⟨whole,found,splits⟩ := crud_documented.both search _ matching of_tables accepted listed
      have both : whole = condition ↔ ∀ row, condition row = (matching row && names.contains row.tableName) := by
        simp only [funext_iff,splits,tables]
        exact forall_congr' (fun row => eq_comm)
      simp [found,given,both]

include documented allows in
/-- Whatever is searched for: an answer goes to a user who may read audit logs and manages a table, where the search
is one that the crud package accepts, and it shows, of what matches, the rows of the tables that he manages, page by
page and no others; nobody else gets an answer. The guard and the handler may find the definers
in different orders. -/
theorem trail_shown (crud : Crud V Q R) (crud_documented : crud.Documented) (entityMetadatas : List (EntityMetadata K))
    (ofGuard ofHandler : User → AppAbility K C) (first second : List Nat)
    (guard_built : factory.createForUser user first = some (ofGuard user))
    (handler_built : factory.createForUser user second = some (ofHandler user))
    (req : ParsedRequest Q R) (trail rows : List (AuditLog V)) :
    handled casl auditLog crud entityMetadatas ofGuard ofHandler (some user) req trail = .ok rows ↔
      Entitled factory user (ViewAuditLogsPolicy auditLog) ∧
      (∃ tableName, ManagesTable factory user entityMetadatas tableName) ∧
      ∃ matching shown, crud.condition req.search = some matching ∧ rows = crud.page req.page (trail.filter shown) ∧
        ∀ row, shown row = true ↔ matching row = true ∧ ManagesTable factory user entityMetadatas row.tableName := by
  have reads := handle_entitled casl documented factory user allows first guard_built (ViewAuditLogsPolicy auditLog)
  have managesAll := handle_entitled casl documented factory user allows second handler_built ManageAllPolicy
  have tables := mem_tablesNames casl documented factory user allows entityMetadatas second handler_built
  cases opened : (ViewAuditLogsPolicy auditLog).handle casl (ofGuard user) with
  | false =>
    have closed : ¬ Entitled factory user (ViewAuditLogsPolicy auditLog) := fun entitled =>
      Bool.noConfusion (opened.symm.trans (reads.mpr entitled))
    simp [handled,PoliciesGuard.canActivate,endpoint,Metadata.getAllAndOverride,opened,closed]
  | true =>
    rw [and_iff_right (reads.mp opened)]
    simp only [handled,PoliciesGuard.canActivate,endpoint,Metadata.getAllAndOverride,Option.or_none,Option.none_or,
      reduceCtorEq,if_false,List.all_cons,List.all_nil,opened,Bool.and_true,getMany]
    split
    next all =>
      have everything : ∀ name, ManagesTable factory user entityMetadatas name := fun _ => Or.inl (managesAll.mp all)
      rw [getManyBase_ok,and_iff_right ⟨"",everything ""⟩]
      constructor
      · rintro ⟨matching,accepted,rfl⟩
        exact ⟨matching,matching,accepted,rfl,fun row => by simp [everything]⟩
      · rintro ⟨matching,shown,accepted,rfl,exactly⟩
        have same : shown = matching := funext fun row => Bool.eq_iff_iff.mpr (by simpa [everything] using exactly row)
        exact ⟨matching,accepted,by rw [same]⟩
    next some_only =>
      have not_all : ¬ Entitled factory user ManageAllPolicy := fun entitled => some_only (managesAll.mpr entitled)
      have managed (name : String) : ManagesTable factory user entityMetadatas name ↔
          name ∈ tablesNames casl entityMetadatas (ofHandler user) := by
        rw [tables,ManagesTable,or_iff_right not_all]
      have named : (∃ tableName, ManagesTable factory user entityMetadatas tableName) ↔
          tablesNames casl entityMetadatas (ofHandler user) ≠ [] := by
        rw [exists_congr managed]
        exact ⟨fun some_name => List.ne_nil_of_mem some_name.choose_spec,List.exists_mem_of_ne_nil _⟩
      have exactly (shown matching : AuditLog V → Bool) :
          (∀ row, shown row = true ↔ matching row = true ∧ ManagesTable factory user entityMetadatas row.tableName) ↔
            ∀ row, shown row = (matching row &&
              (tablesNames casl entityMetadatas (ofHandler user)).contains row.tableName) := by
        apply forall_congr'
        intro row
        rw [managed,← List.contains_iff_mem,← Bool.and_eq_true,← Bool.eq_iff_iff]
      rw [getManyBase_ok,named]
      simp only [condition_and_tables crud_documented,exactly]
      constructor
      · rintro ⟨shown,⟨given,matching,accepted,splits⟩,rfl⟩
        exact ⟨given,matching,shown,accepted,rfl,splits⟩
      · rintro ⟨given,matching,shown,accepted,rfl,splits⟩
        exact ⟨shown,⟨given,matching,accepted,splits⟩,rfl⟩

end Documented

end

def Search.condition : Search (AuditLog Unit → Bool) → Option (AuditLog Unit → Bool)
  | parsed search => some search
  | and left right => left.condition.bind (fun first => right.condition.map (fun second row => first row && second row))
  | tableNameIn [] => none
  | tableNameIn (name :: names) => some (fun row => (name :: names).contains row.tableName)

/-- Pages of so many rows. -/
def listCrud : Crud Unit (AuditLog Unit → Bool) Nat := ⟨Search.condition,List.take⟩

private theorem listCrud_documented : listCrud.Documented where
  both left right first second of_left of_right := by
    refine ⟨fun row => first row && second row,?_,fun _ => rfl⟩
    change (left.condition.bind _) = _
    rw [show left.condition = some first from of_left,show right.condition = some second from of_right]
    rfl
  refused left right missing := by
    change (left.condition.bind fun first => right.condition.map _) = none
    rcases missing with of_left | of_right
    · rw [show left.condition = none from of_left]
      rfl
    · rw [show right.condition = none from of_right]
      cases left.condition <;> rfl
  tables names given := by
    cases names with
    | nil => exact absurd rfl given
    | cons name names => exact ⟨_,rfl,fun _ => rfl⟩
  no_tables := rfl

def manager : CaslAbilityFactory Unit (List (String × String)) :=
  CaslAbilityFactory.addPermissionToAction {} "MANAGE" ⟨.manage,[.type ()],users_only⟩

def managing : User := { plainUser with permissions := ["MANAGE"] }

def twoTables : List (AuditLog Unit) :=
  [{ userId := none, tableName := "users" },{ userId := none, tableName := "tokens" }]

def usersMetadata : List (EntityMetadata Unit) := [⟨some (),"users"⟩,⟨none,"tokens"⟩]

theorem users_shown : Entitled manager managing (ViewAuditLogsPolicy ()) ∧
    (∃ tableName, ManagesTable manager managing usersMetadata tableName) ∧
    ∃ matching shown, listCrud.condition (.parsed (fun _ => true)) = some matching ∧
      [{ userId := none, tableName := "users" }] = listCrud.page 5 (twoTables.filter shown) ∧
      ∀ row, shown row = true ↔ matching row = true ∧ ManagesTable manager managing usersMetadata row.tableName :=
  (trail_shown (package plainMatchers) () (package_documented plainMatchers) manager managing
    (fun _ listed => absurd listed List.not_mem_nil) listCrud listCrud_documented usersMetadata manager.roleRules
      manager.roleRules
    [] [] rfl rfl ⟨.parsed (fun _ => true),5⟩ twoTables _).mp rfl

end BoarPack.AuditLogs
