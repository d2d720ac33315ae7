import BoarPack.Library.Containers

/-! `AuditLogBaseService`: four of the six writing methods save an audit log, two are inherited. TypeORM
and the service that is extended are parameters. -/
namespace BoarPack.AuditLogs
open Containers

variable {S V Q : Type}

/-- An entity object or a row, by property. -/
abbrev Entity (V : Type) : Type := List (String × V)

/-- What a statement did to a row of the entity's table. -/
structure Write (V : Type) where
  before : Option (Entity V)
  after : Option (Entity V)

inductive AuditAction
  | CREATE
  | UPDATE
  | DELETE
  deriving DecidableEq, Repr

structure AuditLog (V : Type) where
  action : Option AuditAction := none
  userId : Option String
  tableName : String
  oldValues : Option (Entity V) := none
  newValues : Option (Entity V) := none

/-- `returnShallow` of `updateOneBase`, `returnDeleted` of `deleteOneBase`; the rest is TypeORM's. -/
structure CrudRequest (V Q : Type) where
  auth : Option String
  allowParamsOverride : Bool
  returnShallow : Bool
  returnDeleted : Bool
  softDelete : Bool
  cache : Bool
  paramsFilter : List (String × Option V)
  authPersist : Entity V
  rest : Q

/-- An object as it was read, and the row it was read from. -/
structure Reading (V : Type) where
  row : Entity V
  object : Entity V

/-- A statement done: `object` is what it was given, as it leaves it, or what it returns. -/
structure Done (S V : Type) where
  state : S
  write : Write V
  object : Entity V

structure TypeOrmCrudService (S V Q : Type) where
  tableName : String
  columns : List String
  primary : List String
  rows : S → List (Entity V)
  getOneOrFail : CrudRequest V Q → Bool → S → Option (Reading V)
  getParamFilters : CrudRequest V Q → Entity V
  plainToClass : CrudRequest V Q → Entity V → Entity V
  save : Entity V → S → Option (Done S V)
  remove : Entity V → S → Option (Done S V)
  softRemove : Entity V → S → Option (Done S V)
  createOne : CrudRequest V Q → Entity V → S → Option (Done S V)
  createMany : CrudRequest V Q → List (Entity V) → S → Option (S × List (Write V × Entity V))
  replaceOne : CrudRequest V Q → Entity V → S → Option (Done S V)
  recoverOne : CrudRequest V Q → S → Option (Done S V)

/-- A call that succeeded. -/
structure Outcome (S V : Type) where
  state : S
  writes : List (Write V)
  logs : List (AuditLog V)
  result : List (Entity V)

/-- The column `action` is not nullable. -/
def createAuditLog (logs : List (AuditLog V)) : Option (List (AuditLog V)) :=
  if logs.all (fun log => log.action.isSome) then some logs else none

variable (service : TypeOrmCrudService S V Q)

def createOne (req : CrudRequest V Q) (dto : Entity V) (s : S) : Option (Outcome S V) := do
  let created ← service.createOne req dto s
  let logs ← createAuditLog [{
    action := some .CREATE, userId := req.auth, tableName := service.tableName, newValues := some created.object }]
  return ⟨created.state,[created.write],logs,[created.object]⟩

def createMany (req : CrudRequest V Q) (dto : List (Entity V)) (s : S) : Option (Outcome S V) := do
  let (state,created) ← service.createMany req dto s
  let logs ← createAuditLog (created.map (fun entry => {
    userId := req.auth, tableName := service.tableName, newValues := some entry.2 }))
  return ⟨state,created.map Prod.fst,logs,created.map Prod.snd⟩

def toSave (req : CrudRequest V Q) (found dto : Entity V) : Entity V :=
  let merged := assign found dto
  service.plainToClass req (assign
    (if !req.allowParamsOverride then assign merged (service.getParamFilters req) else merged)
    req.authPersist)

/-- `filter.value = updated[filter.field]`. -/
def CrudRequest.refilter (req : CrudRequest V Q) (updated : Entity V) : CrudRequest V Q :=
  { req with paramsFilter := req.paramsFilter.map (fun filter => (filter.1,Containers.get updated filter.1)) }

/-- The result of `updateOne`. -/
def answer (req : CrudRequest V Q) (updated : Done S V) : Option (Entity V) :=
  if req.returnShallow then some updated.object
  else (service.getOneOrFail (req.refilter updated.object) false updated.state).map Reading.object

def updateOne (req : CrudRequest V Q) (dto : Entity V) (s : S) : Option (Outcome S V) := do
  let found ← service.getOneOrFail req req.returnShallow s
  let updated ← service.save (toSave service req found.object dto) s
  let result ← answer service req updated
  let logs ← createAuditLog [{
    action := some .UPDATE, userId := req.auth, tableName := service.tableName, oldValues := some found.object,
    newValues := some result }]
  return ⟨updated.state,[updated.write],logs,[result]⟩

def removeOne (req : CrudRequest V Q) (found : Entity V) (s : S) : Option (Done S V) :=
  if req.softDelete then service.softRemove found s else service.remove found s

/-- The entity found is logged after it was removed. -/
def deleteOne (req : CrudRequest V Q) (s : S) : Option (Outcome S V) := do
  let req := { req with cache := false }
  let found ← service.getOneOrFail req req.returnDeleted s
  let toReturn := if req.returnDeleted then [service.plainToClass req found.object] else []
  let removed ← removeOne service req found.object s
  let logs ← createAuditLog [{
    action := some .DELETE, userId := req.auth, tableName := service.tableName, oldValues := some removed.object }]
  return ⟨removed.state,[removed.write],logs,toReturn⟩

inductive Call (V Q : Type)
  | createOne (req : CrudRequest V Q) (dto : Entity V)
  | createMany (req : CrudRequest V Q) (dto : List (Entity V))
  | updateOne (req : CrudRequest V Q) (dto : Entity V)
  | deleteOne (req : CrudRequest V Q)
  | replaceOne (req : CrudRequest V Q) (dto : Entity V)
  | recoverOne (req : CrudRequest V Q)

/-- The inherited methods log nothing. -/
def perform (s : S) : Call V Q → Option (Outcome S V)
  | .createOne req dto => createOne service req dto s
  | .createMany req dto => createMany service req dto s
  | .updateOne req dto => updateOne service req dto s
  | .deleteOne req => deleteOne service req s
  | .replaceOne req dto => (service.replaceOne req dto s).map (fun done => ⟨done.state,[done.write],[],[done.object]⟩)
  | .recoverOne req => (service.recoverOne req s).map (fun done => ⟨done.state,[done.write],[],[done.object]⟩)

end BoarPack.AuditLogs
