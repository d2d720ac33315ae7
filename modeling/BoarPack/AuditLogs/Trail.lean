import BoarPack.AuditLogs.BaseService
import Mathlib.Data.List.Forall2

/-! What an audit trail should say, and the calls that leave one that does. Of TypeORM no more is
used than `Documented` states. -/
namespace BoarPack.AuditLogs
open Containers

variable {S V Q : Type}

def Same (left right : Entity V) : Prop := ∀ key, Containers.get left key = Containers.get right key

variable (service : TypeOrmCrudService S V Q)

/-- The action that a log of the call should carry. -/
def Call.action (write : Write V) : Call V Q → AuditAction
  | .createOne .. | .createMany .. => .CREATE
  | .updateOne .. | .recoverOne .. => .UPDATE
  | .deleteOne .. => .DELETE
  | .replaceOne .. => if write.before.isNone then .CREATE else .UPDATE

structure Records (call : Call V Q) (write : Write V) (log : AuditLog V) : Prop where
  action : log.action = some (call.action write)
  tableName : log.tableName = service.tableName
  oldValues : Option.Rel Same log.oldValues write.before
  newValues : Option.Rel Same log.newValues write.after

/-- One log for each row written, with its values before and after. -/
def Trail (call : Call V Q) (outcome : Outcome S V) : Prop :=
  List.Forall₂ (Records service call) outcome.writes outcome.logs

def SameKey (left right : Entity V) : Prop :=
  ∀ key ∈ service.primary, Containers.get left key = Containers.get right key

/-- The properties of the object are the columns. -/
def Whole (object : Entity V) : Prop := ∀ key, (Containers.get object key).isSome ↔ key ∈ service.columns

/-- A column that the object has is as in the row. -/
def Agrees (object row : Entity V) : Prop :=
  ∀ key ∈ service.columns, (Containers.get object key).isSome → Containers.get object key = Containers.get row key

/-- A value is what its column holds of it. -/
structure Documented : Prop where
  keyed : service.primary ≠ []
  primary : ∀ key ∈ service.primary, key ∈ service.columns
  rows : ∀ s, ∀ row ∈ service.rows s, Whole service row
  distinct : ∀ s, ∀ left ∈ service.rows s, ∀ right ∈ service.rows s, SameKey service left right → left = right
  read : ∀ req shallow s found, service.getOneOrFail req shallow s = some found →
    found.row ∈ service.rows s ∧ Agrees service found.object found.row
  overwritten : ∀ object s done, service.save object s = some done → ∀ row,
    done.write.before = some row ↔ row ∈ service.rows s ∧ SameKey service row object
  saved : ∀ object s done, service.save object s = some done → ∃ row ∈ service.rows done.state,
    done.write.after = some row ∧ Agrees service done.object row ∧
    ∀ key ∈ service.primary, (Containers.get object key).isSome → Containers.get row key = Containers.get object key
  removed : ∀ object s done, service.remove object s = some done →
    done.object = object.filter (fun entry => entry.1 ∉ service.primary) ∧
      ∃ row ∈ service.rows s, done.write.before = some row
  softRemoved : ∀ object s done, service.softRemove object s = some done → done.write.after.isSome
  created : ∀ req dto s done, service.createOne req dto s = some done → ∃ row ∈ service.rows done.state,
    done.write.after = some row ∧ Agrees service done.object row

/-- What an update reads, saves and reads again has just the columns, and is the same row. -/
def UpdatesWhole (req : CrudRequest V Q) (dto : Entity V) (s : S) : Prop :=
  ∀ found, service.getOneOrFail req req.returnShallow s = some found →
    Whole service found.object ∧ SameKey service found.row (toSave service req found.object dto) ∧
    ∀ updated, service.save (toSave service req found.object dto) s = some updated →
      if req.returnShallow then Whole service updated.object
      else ∀ again, service.getOneOrFail (req.refilter updated.object) false updated.state = some again →
        Whole service again.object ∧ SameKey service again.row found.row

/-- The calls that leave an exact trail: creating overwrites nothing, as `save` does if the key is taken.
A `createMany` of anything does not succeed. -/
def Audited (s : S) : Call V Q → Prop
  | .createOne req dto => ∀ done, service.createOne req dto s = some done →
      done.write.before = none ∧ Whole service done.object
  | .createMany .. => True
  | .updateOne req dto => UpdatesWhole service req dto s
  | .deleteOne _ | .replaceOne .. | .recoverOne _ => False

variable {service}

theorem Whole.of_same {object row : Entity V} (whole : Whole service row) (same : Same object row) :
    Whole service object :=
  fun key => by rw [same key]; exact whole key

theorem Whole.same {object row : Entity V} (whole : Whole service object) (stored : Whole service row)
    (agrees : Agrees service object row) : Same object row := by
  intro key
  by_cases column : key ∈ service.columns
  · exact agrees key column ((whole key).mpr column)
  · have left := (whole key).not.mpr column
    have right := (stored key).not.mpr column
    rw [Option.not_isSome_iff_eq_none] at left right
    rw [left,right]

/-- An object with a row's values is whole, and has the key of the row it was read from. -/
theorem Agrees.sameKey (documented : Documented service) {object row other : Entity V} (whole : Whole service object)
    (agrees : Agrees service object row) (same : Same object other) : SameKey service row other := by
  intro key primary
  have column := documented.primary key primary
  exact (agrees key column ((whole key).mpr column)).symm.trans (same key)

private theorem createAuditLog_one (log : AuditLog V) (action : AuditAction) (given : log.action = some action) :
    createAuditLog [log] = some [log] := by
  simp [createAuditLog,given]

private theorem trail_one (call : Call V Q) (write : Write V) (log : AuditLog V) (state : S)
    (result : List (Entity V)) :
    Trail service call ⟨state,[write],[log],result⟩ ↔ Records service call write log := by
  simp [Trail]

private theorem created_trail (documented : Documented service) (req : CrudRequest V Q) (dto : Entity V) (s : S)
    (outcome : Outcome S V) (succeeds : createOne service req dto s = some outcome) :
    Trail service (.createOne req dto) outcome ↔ Audited service s (.createOne req dto) := by
  simp only [createOne,Option.bind_eq_bind,Option.bind_eq_some_iff] at succeeds
  obtain ⟨done,created,logs,logged,returned⟩ := succeeds
  rw [createAuditLog_one _ .CREATE rfl] at logged
  obtain rfl := Option.some.inj logged
  obtain rfl := Option.some.inj returned
  obtain ⟨row,member,after,agrees⟩ := documented.created req dto s done created
  have stored := documented.rows done.state row member
  rw [trail_one]
  constructor
  · intro records other again
    obtain rfl := Option.some.inj (created.symm.trans again)
    have nothing := records.oldValues
    have same := records.newValues
    rw [after] at same
    cases before : done.write.before with
    | some old => rw [before] at nothing; cases nothing
    | none =>
      cases same with
      | some same => exact ⟨rfl,stored.of_same same⟩
  · intro audited
    obtain ⟨before,whole⟩ := audited done created
    refine ⟨rfl,rfl,?_,?_⟩
    · rw [before]
      exact .none
    · rw [after]
      exact .some (whole.same stored agrees)

section Update

variable (documented : Documented service) {req : CrudRequest V Q} {s : S} {found : Reading V} {object : Entity V}
  {updated : Done S V}

include documented

private theorem old_recorded {shallow : Bool} (reads : service.getOneOrFail req shallow s = some found)
    (saves : service.save object s = some updated) :
    Option.Rel Same (some found.object) updated.write.before ↔
      Whole service found.object ∧ SameKey service found.row object := by
  obtain ⟨member,agrees⟩ := documented.read req shallow s found reads
  constructor
  · intro recorded
    cases before : updated.write.before with
    | none => rw [before] at recorded; cases recorded
    | some row =>
      rw [before] at recorded
      cases recorded with
      | some same =>
        obtain ⟨listed,keyed⟩ := (documented.overwritten object s updated saves row).mp before
        have whole := (documented.rows s row listed).of_same same
        exact ⟨whole,fun key primary => (agrees.sameKey documented whole same key primary).trans (keyed key primary)⟩
  · rintro ⟨whole,keyed⟩
    rw [(documented.overwritten object s updated saves found.row).mpr ⟨member,keyed⟩]
    exact .some (whole.same (documented.rows s found.row member) agrees)

private theorem saved_recorded (saves : service.save object s = some updated) :
    Option.Rel Same (some updated.object) updated.write.after ↔ Whole service updated.object := by
  obtain ⟨row,member,after,agrees,_⟩ := documented.saved object s updated saves
  have stored := documented.rows updated.state row member
  rw [after]
  constructor
  · intro recorded
    cases recorded with
    | some same => exact stored.of_same same
  · exact fun whole => .some (whole.same stored agrees)

/-- The row read after the update is the one written if it has the key of the one found. -/
theorem again_recorded {again : Reading V} {later : CrudRequest V Q} (stored : Whole service found.row)
    (keyed : SameKey service found.row object) (saves : service.save object s = some updated)
    (reads : service.getOneOrFail later false updated.state = some again) :
    Option.Rel Same (some again.object) updated.write.after ↔
      Whole service again.object ∧ SameKey service again.row found.row := by
  obtain ⟨row,member,after,_,kept⟩ := documented.saved object s updated saves
  obtain ⟨listed,agrees⟩ := documented.read later false updated.state again reads
  have sameKey : SameKey service row found.row := by
    intro key primary
    have column := documented.primary key primary
    have present : (Containers.get object key).isSome := by
      rw [← keyed key primary]
      exact (stored key).mpr column
    exact (kept key primary present).trans (keyed key primary).symm
  rw [after]
  constructor
  · intro recorded
    cases recorded with
    | some same =>
      have whole := (documented.rows updated.state row member).of_same same
      exact ⟨whole,fun key primary => (agrees.sameKey documented whole same key primary).trans (sameKey key primary)⟩
  · rintro ⟨whole,found_again⟩
    have one := documented.distinct updated.state again.row listed row member
      (fun key primary => (found_again key primary).trans (sameKey key primary).symm)
    subst one
    exact .some (whole.same (documented.rows updated.state again.row listed) agrees)

end Update

private theorem updated_trail (documented : Documented service) (req : CrudRequest V Q) (dto : Entity V) (s : S)
    (outcome : Outcome S V) (succeeds : updateOne service req dto s = some outcome) :
    Trail service (.updateOne req dto) outcome ↔ Audited service s (.updateOne req dto) := by
  simp only [updateOne,Option.bind_eq_bind,Option.bind_eq_some_iff] at succeeds
  obtain ⟨found,reads,updated,saves,result,gives,logs,logged,returned⟩ := succeeds
  rw [createAuditLog_one _ .UPDATE rfl] at logged
  obtain rfl := Option.some.inj logged
  obtain rfl := Option.some.inj returned
  have stored := documented.rows s found.row (documented.read req req.returnShallow s found reads).1
  have old := old_recorded documented reads saves
  have new : SameKey service found.row (toSave service req found.object dto) →
      (Option.Rel Same (some result) updated.write.after ↔
        if req.returnShallow then Whole service updated.object
        else ∀ again, service.getOneOrFail (req.refilter updated.object) false updated.state = some again →
          Whole service again.object ∧ SameKey service again.row found.row) := by
    intro keyed
    unfold answer at gives
    split at gives
    next shallow =>
      obtain rfl := Option.some.inj gives
      rw [if_pos shallow]
      exact saved_recorded documented saves
    next deep =>
      obtain ⟨again,rereads,rfl⟩ := Option.map_eq_some_iff.mp gives
      rw [if_neg deep,again_recorded documented stored keyed saves rereads]
      exact ⟨fun whole other same => Option.some.inj (rereads.symm.trans same) ▸ whole,fun all => all again rereads⟩
  rw [trail_one]
  constructor
  · intro records other same
    obtain rfl := Option.some.inj (reads.symm.trans same)
    obtain ⟨whole,keyed⟩ := old.mp records.oldValues
    refine ⟨whole,keyed,fun after same => ?_⟩
    obtain rfl := Option.some.inj (saves.symm.trans same)
    exact (new keyed).mp records.newValues
  · intro audited
    obtain ⟨whole,keyed,after⟩ := audited found reads
    exact ⟨rfl,rfl,old.mpr ⟨whole,keyed⟩,(new keyed).mpr (after updated saves)⟩

/-- Removing takes the key from the object that is logged; a soft removal leaves a row that is not. -/
theorem deleted_untraced (documented : Documented service) (req : CrudRequest V Q) (s : S)
    (outcome : Outcome S V) (succeeds : deleteOne service req s = some outcome) :
    ¬ Trail service (.deleteOne req) outcome := by
  simp only [deleteOne,Option.bind_eq_bind,Option.bind_eq_some_iff] at succeeds
  obtain ⟨found,reads,removed,removes,logs,logged,returned⟩ := succeeds
  rw [createAuditLog_one _ .DELETE rfl] at logged
  obtain rfl := Option.some.inj logged
  obtain rfl := Option.some.inj returned
  rw [trail_one]
  intro records
  unfold removeOne at removes
  split at removes
  next =>
    have stays := documented.softRemoved found.object s removed removes
    have none_after := records.newValues
    cases after : removed.write.after with
    | none => rw [after] at stays; cases stays
    | some row => rw [after] at none_after; cases none_after
  next =>
    obtain ⟨stripped,row,member,before⟩ := documented.removed found.object s removed removes
    obtain ⟨key,primary⟩ := List.exists_mem_of_ne_nil service.primary documented.keyed
    have same := records.oldValues
    rw [before] at same
    cases same with
    | some same =>
      have present := (documented.rows s row member key).mpr (documented.primary key primary)
      rw [← same key,stripped,get_filter _ (fun key => key ∉ service.primary)] at present
      simp [primary] at present

/-- Rows created in bulk are never logged: the logs have no action. -/
theorem createMany_rejected (req : CrudRequest V Q) (dto : List (Entity V)) (s state : S)
    (created : List (Write V × Entity V)) (some_created : created ≠ [])
    (creates : service.createMany req dto s = some (state,created)) : createMany service req dto s = none := by
  obtain ⟨entry,rest,rfl⟩ := List.exists_cons_of_ne_nil some_created
  simp [createMany,creates,createAuditLog]

private theorem createdMany_trail (req : CrudRequest V Q) (dto : List (Entity V)) (s : S) (outcome : Outcome S V)
    (succeeds : createMany service req dto s = some outcome) : Trail service (.createMany req dto) outcome := by
  cases creates : service.createMany req dto s with
  | none => simp [createMany,creates] at succeeds
  | some made =>
    obtain ⟨state,created⟩ := made
    cases created with
    | nil =>
      simp only [createMany,creates,createAuditLog,Option.bind_eq_bind,Option.bind_some] at succeeds
      obtain rfl := Option.some.inj succeeds
      exact .nil
    | cons entry rest =>
      rw [createMany_rejected req dto s state _ (List.cons_ne_nil entry rest) creates] at succeeds
      cases succeeds

/-- A successful call leaves an exact trail just when it is a `createOne` or an `updateOne` that reads
whole rows (a `createMany` that succeeds created nothing). -/
theorem trail_iff_audited (documented : Documented service) (call : Call V Q) (s : S) (outcome : Outcome S V)
    (succeeds : perform service s call = some outcome) : Trail service call outcome ↔ Audited service s call := by
  cases call with
  | createOne req dto => exact created_trail documented req dto s outcome succeeds
  | createMany req dto => exact ⟨fun _ => trivial,fun _ => createdMany_trail req dto s outcome succeeds⟩
  | updateOne req dto => exact updated_trail documented req dto s outcome succeeds
  | deleteOne req => exact iff_of_false (deleted_untraced documented req s outcome succeeds) id
  | replaceOne req dto =>
    obtain ⟨done,_,rfl⟩ := Option.map_eq_some_iff.mp succeeds
    exact iff_of_false (fun trail => by cases trail) id
  | recoverOne req =>
    obtain ⟨done,_,rfl⟩ := Option.map_eq_some_iff.mp succeeds
    exact iff_of_false (fun trail => by cases trail) id

/-- A table of at most one row, found by every request and read whole. -/
def row (held : String × String) : Entity String := [("id",held.1),("name",held.2)]

def memory : TypeOrmCrudService (Option (String × String)) String Unit where
  tableName := "users"
  columns := ["id","name"]
  primary := ["id"]
  rows s := s.toList.map row
  getOneOrFail _ _ s := s.map (fun held => ⟨row held,row held⟩)
  getParamFilters req := req.paramsFilter.filterMap (fun filter => filter.2.map (fun value => (filter.1,value)))
  plainToClass _ object := object
  save object s :=
    match s,Containers.get object "id",Containers.get object "name" with
    | some held,some id,some name =>
      if id = held.1 then some ⟨some (id,name),⟨some (row held),some (row (id,name))⟩,object⟩ else none
    | _,_,_ => none
  remove object s := s.map (fun held => ⟨none,⟨some (row held),none⟩,object.filter (fun entry => entry.1 ∉ ["id"])⟩)
  softRemove _ _ := none
  createOne _ _ _ := none
  createMany _ _ _ := none
  replaceOne _ _ _ := none
  recoverOne _ _ := none

private theorem whole_row (held : String × String) : Whole memory (row held) := by
  intro key
  by_cases id : key = "id"
  · subst id
    simp [row,memory,Containers.get]
  · by_cases name : key = "name"
    · subst name
      simp [row,memory,Containers.get]
    · simp [row,memory,Containers.get,id,name,Ne.symm id,Ne.symm name]

private theorem save_memory (object : Entity String) (s : Option (String × String))
    (done : Done (Option (String × String)) String)
    (saves : memory.save object s = some done) : ∃ held name, s = some held ∧ Containers.get object "id" = some held.1 ∧
      Containers.get object "name" = some name ∧
      done = ⟨some (held.1,name),⟨some (row held),some (row (held.1,name))⟩,object⟩ := by
  simp only [memory] at saves
  split at saves
  next held id name at_id at_name =>
    split at saves
    next same =>
      subst same
      exact ⟨held,name,rfl,at_id,at_name,(Option.some.inj saves).symm⟩
    next => cases saves
  next => cases saves

private theorem memory_documented : Documented memory where
  keyed := by simp [memory]
  primary := by simp [memory]
  rows s row member := by
    obtain ⟨held,_,rfl⟩ := List.mem_map.mp member
    exact whole_row held
  distinct s left at_left right at_right _ := by
    obtain ⟨held,present,rfl⟩ := List.mem_map.mp at_left
    obtain ⟨other,also,rfl⟩ := List.mem_map.mp at_right
    rw [Option.mem_toList] at present also
    rw [Option.mem_unique present also]
  read req shallow s found reads := by
    obtain ⟨held,rfl,rfl⟩ := Option.map_eq_some_iff.mp reads
    exact ⟨List.mem_singleton.mpr rfl,fun _ _ _ => rfl⟩
  overwritten object s done saves other := by
    obtain ⟨held,name,rfl,at_id,_,rfl⟩ := save_memory object s done saves
    constructor
    · intro before
      obtain rfl := Option.some.inj before
      refine ⟨List.mem_singleton.mpr rfl,fun key primary => ?_⟩
      obtain rfl := List.mem_singleton.mp primary
      exact at_id.symm
    · rintro ⟨member,_⟩
      rw [List.mem_singleton.mp member]
  saved object s done saves := by
    obtain ⟨held,name,rfl,at_id,at_name,rfl⟩ := save_memory object s done saves
    refine ⟨row (held.1,name),List.mem_singleton.mpr rfl,rfl,fun key column _ => ?_,fun key primary _ => ?_⟩
    · rcases List.mem_pair.mp column with rfl | rfl
      · exact at_id
      · exact at_name
    · obtain rfl := List.mem_singleton.mp primary
      exact at_id.symm
  removed object s done removes := by
    obtain ⟨held,rfl,rfl⟩ := Option.map_eq_some_iff.mp removes
    exact ⟨rfl,row held,List.mem_singleton.mpr rfl,rfl⟩
  softRemoved object s done removes := by cases removes
  created req dto s done creates := by cases creates

def request : CrudRequest String Unit :=
  { auth := some "admin", allowParamsOverride := false, returnShallow := false, returnDeleted := false,
    softDelete := false, cache := true, paramsFilter := [("id",some "1")], authPersist := [], rest := () }

theorem renamed_traced : ∃ outcome, perform memory (some ("1","ann"))
    (.updateOne request [("name","bob")]) = some outcome ∧
    Trail memory (.updateOne request [("name","bob")]) outcome := by
  refine ⟨_,rfl,(trail_iff_audited memory_documented (.updateOne request [("name","bob")]) (some ("1","ann")) _
    rfl).mpr ?_⟩
  intro found reads
  obtain rfl := Option.some.inj reads
  refine ⟨whole_row _,fun key primary => ?_,fun updated saves again rereads => ?_⟩
  · obtain rfl := List.mem_singleton.mp primary
    rfl
  · obtain rfl := Option.some.inj saves
    obtain rfl := Option.some.inj rereads
    refine ⟨whole_row _,fun key primary => ?_⟩
    obtain rfl := List.mem_singleton.mp primary
    rfl

theorem removed_without_key : ∃ outcome, perform memory (some ("1","ann")) (.deleteOne request) = some outcome ∧
    outcome.logs.map AuditLog.oldValues = [some [("name","ann")]] ∧ ¬ Trail memory (.deleteOne request) outcome :=
  ⟨_,rfl,rfl,deleted_untraced memory_documented request (some ("1","ann")) _ rfl⟩

end BoarPack.AuditLogs
