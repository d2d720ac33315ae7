import BoarPack.AuditLogs.Trail
import BoarPack.Library.Attempt

/-! The four audited methods statement by statement, each of which may reject: what a call that rejects
leaves in the two tables. -/
namespace BoarPack.AuditLogs
open Attempts

variable {S V Q : Type}

structure Database (S V : Type) where
  entities : S
  auditLogs : List (AuditLog V)

/-- The statements that are awaited: reading the entity, writing it, reading it again, inserting the log. -/
inductive Statement
  | read
  | write
  | reread
  | insert
  deriving DecidableEq, Repr

/-- `createOne` of the service that is extended is a save, and where the request asks for it another read. -/
structure Repository (S V Q : Type) extends TypeOrmCrudService S V Q where
  insert : CrudRequest V Q → Entity V → S → Option (Done S V)
  rereads : CrudRequest V Q → Bool
  reread : CrudRequest V Q → Done S V → S → Option (Entity V)
  inherited : ∀ req dto s, createOne req dto s = (insert req dto s).bind (fun saved =>
    (if rereads req then reread req saved saved.state else some saved.object).map
      (fun object => { saved with object := object }))

def guarded {A : Type} (rejects : Statement → Bool) (statement : Statement) (result : Option A) : Option A :=
  if rejects statement then none else result

section Methods

variable (rejects : Statement → Bool)

def reading {A : Type} (step : Statement) (f : S → Option A) : Attempt (Database S V) A :=
  statement (fun db => (guarded rejects step (f db.entities)).map (fun a => (a,db)))

def writing {A : Type} (state : A → S) (f : S → Option A) : Attempt (Database S V) A :=
  statement (fun db => (guarded rejects .write (f db.entities)).map (fun done =>
    (done,{ db with entities := state done })))

def inserting (logs : List (AuditLog V)) : Attempt (Database S V) Unit :=
  statement (fun db => (guarded rejects .insert (createAuditLog logs)).map (fun logs =>
    ((),{ db with auditLogs := db.auditLogs ++ logs })))

variable (repo : Repository S V Q)

namespace Stepwise

def superCreateOne (req : CrudRequest V Q) (dto : Entity V) : Attempt (Database S V) (Entity V) := do
  let saved ← writing rejects Done.state (repo.insert req dto)
  if repo.rereads req then reading rejects .reread (repo.reread req saved) else pure saved.object

def createOne (req : CrudRequest V Q) (dto : Entity V) : Attempt (Database S V) (List (Entity V)) := do
  let result ← superCreateOne rejects repo req dto
  inserting rejects [{
    action := some .CREATE, userId := req.auth, tableName := repo.tableName, newValues := some result }]
  return [result]

def createMany (req : CrudRequest V Q) (dto : List (Entity V)) : Attempt (Database S V) (List (Entity V)) := do
  let (_,result) ← writing rejects Prod.fst (repo.createMany req dto)
  inserting rejects (result.map (fun r => {
    userId := req.auth, tableName := repo.tableName, newValues := some r.2 }))
  return result.map Prod.snd

def updateOne (req : CrudRequest V Q) (dto : Entity V) : Attempt (Database S V) (List (Entity V)) := do
  let found ← reading rejects .read (repo.getOneOrFail req req.returnShallow)
  let updated ← writing rejects Done.state (repo.save (toSave repo.toTypeOrmCrudService req found.object dto))
  let result ←
    if req.returnShallow then pure updated.object
    else reading rejects .reread (fun s => (repo.getOneOrFail (req.refilter updated.object) false s).map Reading.object)
  inserting rejects [{
    action := some .UPDATE, userId := req.auth, tableName := repo.tableName, oldValues := some found.object,
    newValues := some result }]
  return [result]

def deleteOne (req : CrudRequest V Q) : Attempt (Database S V) (List (Entity V)) := do
  let req := { req with cache := false }
  let found ← reading rejects .read (repo.getOneOrFail req req.returnDeleted)
  let toReturn := if req.returnDeleted then [repo.plainToClass req found.object] else []
  let removed ← writing rejects Done.state (removeOne repo.toTypeOrmCrudService req found.object)
  inserting rejects [{
    action := some .DELETE, userId := req.auth, tableName := repo.tableName, oldValues := some removed.object }]
  return toReturn

end Stepwise

inductive AuditedCall (V Q : Type)
  | createOne (req : CrudRequest V Q) (dto : Entity V)
  | createMany (req : CrudRequest V Q) (dto : List (Entity V))
  | updateOne (req : CrudRequest V Q) (dto : Entity V)
  | deleteOne (req : CrudRequest V Q)

def AuditedCall.call : AuditedCall V Q → Call V Q
  | createOne req dto => .createOne req dto
  | createMany req dto => .createMany req dto
  | updateOne req dto => .updateOne req dto
  | deleteOne req => .deleteOne req

def AuditedCall.stepwise : AuditedCall V Q → Attempt (Database S V) (List (Entity V))
  | createOne req dto => Stepwise.createOne rejects repo req dto
  | createMany req dto => Stepwise.createMany rejects repo req dto
  | updateOne req dto => Stepwise.updateOne rejects repo req dto
  | deleteOne req => Stepwise.deleteOne rejects repo req

/-- The table of the entity after its write, if the call comes that far. -/
def AuditedCall.written (s : S) : AuditedCall V Q → Option S
  | createOne req dto => (guarded rejects .write (repo.insert req dto s)).map Done.state
  | createMany req dto => (guarded rejects .write (repo.createMany req dto s)).map Prod.fst
  | updateOne req dto => do
    let found ← guarded rejects .read (repo.getOneOrFail req req.returnShallow s)
    (guarded rejects .write (repo.save (toSave repo.toTypeOrmCrudService req found.object dto) s)).map Done.state
  | deleteOne req => do
    let req := { req with cache := false }
    let found ← guarded rejects .read (repo.getOneOrFail req req.returnDeleted s)
    (guarded rejects .write (removeOne repo.toTypeOrmCrudService req found.object s)).map Done.state

end Methods

/-- What a call that rejects leaves: a write that was done stays, and nothing is logged. -/
def Left (db : Database S V) (written : Option S) (after : Database S V) : Prop :=
  after = written.elim db (fun state => { db with entities := state })

section Rejected

variable {rejects : Statement → Bool} {db : Database S V}

private theorem ends_reading {A : Type} (step : Statement) (f : S → Option A) (returns : A → Database S V → Prop)
    (rejected : Database S V → Prop) :
    Ends (reading rejects step f) db returns rejected ↔
      match guarded rejects step (f db.entities) with
      | some a => returns a db
      | none => rejected db := by
  unfold reading
  rw [ends_statement]
  cases guarded rejects step (f db.entities) <;> rfl

private theorem ends_writing {A : Type} (state : A → S) (f : S → Option A) (returns : A → Database S V → Prop)
    (rejected : Database S V → Prop) :
    Ends (writing rejects state f) db returns rejected ↔
      match guarded rejects .write (f db.entities) with
      | some done => returns done { db with entities := state done }
      | none => rejected db := by
  unfold writing
  rw [ends_statement]
  cases guarded rejects .write (f db.entities) <;> rfl

private theorem ends_inserting (logs : List (AuditLog V)) (returns : Unit → Database S V → Prop)
    (rejected : Database S V → Prop) :
    Ends (inserting rejects logs) db returns rejected ↔
      match guarded rejects .insert (createAuditLog logs) with
      | some logs => returns () { db with auditLogs := db.auditLogs ++ logs }
      | none => rejected db := by
  unfold inserting
  rw [ends_statement]
  cases guarded rejects .insert (createAuditLog logs) <;> rfl

private theorem left_inserting (s : S) (logs : List (AuditLog V)) (result : List (Entity V)) :
    Ends (do inserting rejects logs; return result) { db with entities := s } (fun _ _ => True) (Left db (some s)) := by
  rw [ends_bind,ends_inserting]
  split
  next => exact trivial
  next => exact rfl

variable {repo : Repository S V Q}

private theorem createOne_left (req : CrudRequest V Q) (dto : Entity V) :
    Ends (Stepwise.createOne rejects repo req dto) db (fun _ _ => True)
      (Left db ((AuditedCall.createOne req dto).written rejects repo db.entities)) := by
  unfold Stepwise.createOne Stepwise.superCreateOne
  simp only [AuditedCall.written]
  rw [ends_bind,ends_bind,ends_writing]
  cases guarded rejects .write (repo.insert req dto db.entities) with
  | none => rfl
  | some saved =>
    by_cases again : repo.rereads req = true
    · simp only [again,if_true]
      rw [ends_reading]
      cases guarded rejects .reread (repo.reread req saved saved.state) with
      | none => rfl
      | some result => exact left_inserting saved.state _ [result]
    · simp only [again,Bool.false_eq_true,if_false]
      exact left_inserting saved.state _ [saved.object]

private theorem createMany_left (req : CrudRequest V Q) (dto : List (Entity V)) :
    Ends (Stepwise.createMany rejects repo req dto) db (fun _ _ => True)
      (Left db ((AuditedCall.createMany req dto).written rejects repo db.entities)) := by
  unfold Stepwise.createMany
  simp only [AuditedCall.written]
  rw [ends_bind,ends_writing]
  cases guarded rejects .write (repo.createMany req dto db.entities) with
  | none => rfl
  | some created => exact left_inserting created.1 _ (created.2.map Prod.snd)

private theorem updateOne_left (req : CrudRequest V Q) (dto : Entity V) :
    Ends (Stepwise.updateOne rejects repo req dto) db (fun _ _ => True)
      (Left db ((AuditedCall.updateOne req dto).written rejects repo db.entities)) := by
  unfold Stepwise.updateOne
  simp only [AuditedCall.written]
  rw [ends_bind,ends_reading]
  cases guarded rejects .read (repo.getOneOrFail req req.returnShallow db.entities) with
  | none => rfl
  | some found =>
    simp only [Option.bind_eq_bind,Option.bind_some]
    rw [ends_bind,ends_writing]
    cases guarded rejects .write (repo.save (toSave repo.toTypeOrmCrudService req found.object dto) db.entities) with
    | none => rfl
    | some updated =>
      by_cases shallow : req.returnShallow = true
      · simp only [shallow,if_true]
        exact left_inserting updated.state _ [updated.object]
      · simp only [shallow,Bool.false_eq_true,if_false]
        rw [ends_bind,ends_reading]
        split
        next result _ => exact left_inserting updated.state _ [result]
        next => rfl

private theorem deleteOne_left (req : CrudRequest V Q) :
    Ends (Stepwise.deleteOne rejects repo req) db (fun _ _ => True)
      (Left db ((AuditedCall.deleteOne req).written rejects repo db.entities)) := by
  unfold Stepwise.deleteOne
  simp only [AuditedCall.written]
  rw [ends_bind,ends_reading]
  cases guarded rejects .read (repo.getOneOrFail { req with cache := false } req.returnDeleted db.entities) with
  | none => rfl
  | some found =>
    simp only [Option.bind_eq_bind,Option.bind_some]
    rw [ends_bind,ends_writing]
    cases guarded rejects .write (removeOne repo.toTypeOrmCrudService { req with cache := false } found.object
      db.entities) with
    | none => rfl
    | some removed => exact left_inserting removed.state _ _

end Rejected

/-- What is left where no statement fails by itself is what `perform` says. -/
def Performs (repo : Repository S V Q) (db : Database S V) (call : AuditedCall V Q) : Prop :=
  Ends (call.stepwise (fun _ => false) repo) db
    (fun result after => ∃ outcome, perform repo.toTypeOrmCrudService db.entities call.call = some outcome ∧
      result = outcome.result ∧ after = ⟨outcome.state,db.auditLogs ++ outcome.logs⟩)
    (fun _ => perform repo.toTypeOrmCrudService db.entities call.call = none)

private theorem guarded_false {A : Type} (step : Statement) (result : Option A) :
    guarded (fun _ => false) step result = result := rfl

private theorem performs_inserting (db : Database S V) (s : S) (writes : List (Write V)) (logs : List (AuditLog V))
    (result : List (Entity V)) :
    Ends (do inserting (fun _ => false) logs; return result) { db with entities := s }
      (fun returned after => ∃ outcome : Outcome S V,
        (createAuditLog logs).bind (fun logs => some ⟨s,writes,logs,result⟩) = some outcome ∧
          returned = outcome.result ∧ after = ⟨outcome.state,db.auditLogs ++ outcome.logs⟩)
      (fun _ => (createAuditLog logs).bind (fun logs => some (⟨s,writes,logs,result⟩ : Outcome S V)) = none) := by
  rw [ends_bind,ends_inserting,guarded_false]
  cases createAuditLog logs with
  | none => rfl
  | some logs => exact ⟨_,rfl,rfl,rfl⟩

private theorem createOne_performs (repo : Repository S V Q) (db : Database S V) (req : CrudRequest V Q)
    (dto : Entity V) :
    Performs repo db (.createOne req dto) := by
  unfold Performs
  simp only [AuditedCall.stepwise,AuditedCall.call,perform,createOne,Stepwise.createOne,Stepwise.superCreateOne]
  rw [repo.inherited,ends_bind,ends_bind,ends_writing,guarded_false]
  cases repo.insert req dto db.entities with
  | none => rfl
  | some saved =>
    by_cases again : repo.rereads req = true
    · simp only [again,if_true]
      rw [ends_reading,guarded_false]
      cases read : repo.reread req saved saved.state with
      | none => simp [read]
      | some result =>
        simp only [Option.bind_some,read,Option.map_some]
        exact performs_inserting db saved.state [saved.write] _ [result]
    · simp only [again,Bool.false_eq_true,if_false,Option.bind_some,Option.map_some]
      rw [ends_pure]
      exact performs_inserting db saved.state [saved.write] _ [saved.object]

private theorem createMany_performs (repo : Repository S V Q) (db : Database S V) (req : CrudRequest V Q)
    (dto : List (Entity V)) :
    Performs repo db (.createMany req dto) := by
  unfold Performs
  simp only [AuditedCall.stepwise,AuditedCall.call,perform,createMany,Stepwise.createMany]
  rw [ends_bind,ends_writing,guarded_false]
  cases repo.createMany req dto db.entities with
  | none => rfl
  | some created => exact performs_inserting db created.1 (created.2.map Prod.fst) _ (created.2.map Prod.snd)

private theorem updateOne_performs (repo : Repository S V Q) (db : Database S V) (req : CrudRequest V Q)
    (dto : Entity V) :
    Performs repo db (.updateOne req dto) := by
  unfold Performs
  simp only [AuditedCall.stepwise,AuditedCall.call,perform,updateOne,Stepwise.updateOne]
  rw [ends_bind,ends_reading,guarded_false]
  cases repo.getOneOrFail req req.returnShallow db.entities with
  | none => rfl
  | some found =>
    simp only [Option.bind_eq_bind,Option.bind_some]
    rw [ends_bind,ends_writing,guarded_false]
    cases repo.save (toSave repo.toTypeOrmCrudService req found.object dto) db.entities with
    | none => rfl
    | some updated =>
      unfold answer
      by_cases shallow : req.returnShallow = true
      · simp only [shallow,if_true]
        rw [ends_bind,ends_pure]
        exact performs_inserting db updated.state [updated.write] _ [updated.object]
      · simp only [shallow,Bool.false_eq_true,if_false]
        rw [ends_bind,ends_reading,guarded_false]
        simp only [Option.bind_some]
        cases (repo.getOneOrFail (req.refilter updated.object) false updated.state).map Reading.object with
        | none => rfl
        | some result => exact performs_inserting db updated.state [updated.write] _ [result]

private theorem deleteOne_performs (repo : Repository S V Q) (db : Database S V) (req : CrudRequest V Q) :
    Performs repo db (.deleteOne req) := by
  unfold Performs
  simp only [AuditedCall.stepwise,AuditedCall.call,perform,deleteOne,Stepwise.deleteOne]
  rw [ends_bind,ends_reading,guarded_false]
  cases repo.getOneOrFail { req with cache := false } req.returnDeleted db.entities with
  | none => rfl
  | some found =>
    simp only [Option.bind_eq_bind,Option.bind_some]
    rw [ends_bind,ends_writing,guarded_false]
    cases removeOne repo.toTypeOrmCrudService { req with cache := false } found.object db.entities with
    | none => rfl
    | some removed => exact performs_inserting db removed.state [removed.write] _ _

theorem stepwise_performs (repo : Repository S V Q) (db : Database S V) (call : AuditedCall V Q) :
    Performs repo db call := by
  cases call with
  | createOne req dto => exact createOne_performs repo db req dto
  | createMany req dto => exact createMany_performs repo db req dto
  | updateOne req dto => exact updateOne_performs repo db req dto
  | deleteOne req => exact deleteOne_performs repo db req

/-- For each of the four methods and every choice of statements that reject: if the call rejects, the audit logs
are as they were, and so is the entity's table, or as its write left it if that was done. -/
theorem rejected_write_left (repo : Repository S V Q) (rejects : Statement → Bool) (db : Database S V)
    (call : AuditedCall V Q) :
    Ends (call.stepwise rejects repo) db (fun _ _ => True) (Left db (call.written rejects repo db.entities)) := by
  cases call with
  | createOne req dto => exact createOne_left req dto
  | createMany req dto => exact createMany_left req dto
  | updateOne req dto => exact updateOne_left req dto
  | deleteOne req => exact deleteOne_left req

def memoryRepository : Repository (Option (String × String)) String Unit where
  toTypeOrmCrudService := memory
  insert _ _ _ := none
  rereads _ := false
  reread _ _ _ := none
  inherited _ _ _ := rfl

/-- The log of a deletion is not inserted: the row is gone. -/
theorem unaudited_deletion_stays :
    ¬ Ends ((AuditedCall.deleteOne request).stepwise (fun step => step = .insert) memoryRepository)
    ⟨some ("1","ann"),[]⟩ (fun _ _ => True) (fun after => after = ⟨some ("1","ann"),[]⟩) := by
  intro kept
  have row := congrArg Database.entities kept
  cases row

end BoarPack.AuditLogs
