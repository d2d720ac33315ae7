import BoarPack.Tokens.Strategy
import BoarPack.Library.Transition
import BoarPack.Library.Unicode

/-! `MyTokensController` and `TokensController`: API tokens are created, listed, renamed and deleted, each user's by
himself and anybody's by who may manage them. A request stands for one that passed the guards, and is performed as a
whole. The crud package is a parameter, of which no more is used than `Documented` states. -/
namespace BoarPack.Tokens.Controllers
open Unicode Transition

def hexDigit (n : Nat) : Char := if n < 10 then Char.ofNat (n + 48) else Char.ofNat (n + 87)

/-- `toString('hex')` of a buffer. -/
def hex (bytes : List UInt8) : String :=
  String.ofList (bytes.flatMap (fun byte => [hexDigit (byte.toNat / 16),hexDigit (byte.toNat % 16)]))

/-- A body of an update. No DTO declares the relation `user`, by its id, and the rest, which a validation may let
through all the same. -/
structure TokenUpdateDto (B : Type) where
  name : Option String := none
  user : Option String := none
  rest : Option B := none

/-- `exclude: ['hash']`. -/
structure Shown where
  id : String
  name : String
  userId : String
  deriving DecidableEq, Repr

structure TokenWithValueDto where
  id : String
  name : String
  userId : String
  value : String
  deriving DecidableEq, Repr

def shown (token : Token) : Shown := ⟨token.id,token.name,token.userId⟩

inductive HttpError
  | badRequest
  | notFound
  | internal
  deriving DecidableEq, Repr

/-- What `createOne` gives to `createOneBase`. -/
structure TokenData where
  userId : String
  name : String
  hash : String

/-- The routes of the crud package, each with the id that `CrudAuth` filters by and persists, if it does. A create
gives the row that it inserted with the id that the database drew, an update what it answers and the row that it
saved, a delete the row that it removed. `Q` is what else of a request they read. -/
structure TypeOrmCrudService (Q B : Type) where
  allowUnknown : Bool
  getMany : Option String → Table → Q → List Shown
  createOne : Option String → Table → TokenData → String → Q → Except HttpError Token
  updateOne : Option String → Table → String → TokenUpdateDto B → Q → Except HttpError Shown × Option Token
  deleteOne : Option String → Table → String → Q → Except HttpError Token

inductive Route (Q B : Type)
  | getManyBase (query : Q)
  | createOne (name : Option String) (rawBytes : Vector UInt8 32) (salt newId : String) (query : Q)
  | updateOneBase (id : String) (dto : TokenUpdateDto B) (query : Q)
  | deleteOneBase (id : String) (query : Q)

/-- `user`: who asks, on `my/tokens`; on `tokens` there is no filter. -/
structure Request (Q B : Type) where
  user : Option String
  route : Route Q B

inductive Answer
  | page (tokens : List Shown)
  | created (token : TokenWithValueDto)
  | updated (token : Shown)
  | deleted
  | error (error : HttpError)
  deriving DecidableEq, Repr

variable {Q B : Type}

section

variable (platform : Platform) (crud : TypeOrmCrudService Q B)

/-- The rows that the filter `userId` of `CrudAuth` selects. -/
def visible (user : Option String) (table : Table) : Table :=
  table.filter (fun row => user.all (row.userId == ·))

/-- `Joi.string()` takes no empty text. -/
def nameSchema (required : Bool) (name : Option String) : Bool :=
  match name with
  | some name => name != ""
  | none => !required

/-- What the validation leaves of a body. -/
def TokenUpdateDto.piped (dto : TokenUpdateDto B) : TokenUpdateDto B :=
  if crud.allowUnknown then dto else { name := dto.name }

/-- The new id is drawn by the database, which draws none twice. -/
def createOne (user : String) (table : Table) (name : Option String) (rawBytes : Vector UInt8 32) (salt newId : String)
    (query : Q) : Option (Answer × Table) :=
  if isUuidText newId && table.all (fun row => row.id != newId && !platform.uuidEq row.id newId) then
    if nameSchema true name then
      let rawValue := hex rawBytes.toList
      let hashedValue := platform.hash salt rawValue
      match crud.createOne (some user) table ⟨user,name.getD "",hashedValue⟩ newId query with
      | .ok token => some (.created ⟨token.id,token.name,token.userId,token.id ++ "." ++ rawValue⟩,table ++ [token])
      | .error error => some (.error error,table)
    else some (.error .badRequest,table)
  else none

/-- The table with a row saved. -/
def written (table : Table) (saved : Token) : Table := table.map (fun row => if row.id == saved.id then saved else row)

def updateOneBase (user : Option String) (table : Table) (id : String) (dto : TokenUpdateDto B) (query : Q) :
    Answer × Table :=
  if nameSchema false dto.name then
    let done := crud.updateOne user table id (dto.piped crud) query
    (match done.1 with
      | .ok token => .updated token
      | .error error => .error error,
      match done.2 with
      | some saved => written table saved
      | none => table)
  else (.error .badRequest,table)

def deleteOneBase (user : Option String) (table : Table) (id : String) (query : Q) : Answer × Table :=
  match crud.deleteOne user table id query with
  | .ok removed => (.deleted,table.filter (fun row => row.id != removed.id))
  | .error error => (.error error,table)

/-- `TokensController` has no route to create tokens. -/
def perform (table : Table) (request : Request Q B) : Option (Answer × Table) :=
  match request.route with
  | .getManyBase query => some (.page (crud.getMany request.user table query),table)
  | .createOne name rawBytes salt newId query =>
    match request.user with
    | some user => createOne platform crud user table name rawBytes salt newId query
    | none => none
  | .updateOneBase id dto query => some (updateOneBase crud request.user table id dto query)
  | .deleteOneBase id query => some (deleteOneBase crud request.user table id query)

/-- The requests so far with their answers, the last one last. -/
structure State (Q B : Type) where
  tokens : Table := []
  trace : List (Request Q B × Answer) := []

def step (s : State Q B) (request : Request Q B) : Option (State Q B) :=
  (perform platform crud s.tokens request).map (fun done => ⟨done.2,s.trace ++ [(request,done.1)]⟩)

/-- With a filter the routes come to the same as on the rows that it selects. A create inserts what it is given, an
update writes one of these rows, to which it gives the id that is persisted unless the body names another owner by the
relation, and a delete removes one. A body of declared fields writes these. -/
structure Documented : Prop where
  listed : ∀ user table query, crud.getMany (some user) (visible (some user) table) query =
    crud.getMany (some user) table query
  inserts : ∀ user table data newId query,
    crud.createOne (some user) (visible (some user) table) data newId query =
      crud.createOne (some user) table data newId query
  saves : ∀ user table id dto query,
    crud.updateOne (some user) (visible (some user) table) id dto query = crud.updateOne (some user) table id dto query
  removes : ∀ user table id query,
    crud.deleteOne (some user) (visible (some user) table) id query = crud.deleteOne (some user) table id query
  created : ∀ user table data newId query token, crud.createOne (some user) table data newId query = .ok token →
    token = ⟨newId,data.name,data.hash,user⟩
  updated : ∀ user table id dto query saved, (crud.updateOne user table id dto query).2 = some saved →
    ∃ found ∈ visible user table, platform.uuidEq found.id id = true ∧ saved.id = found.id ∧
      (dto.user = none → ∀ own ∈ user, saved.userId = own) ∧
      (dto.user = none → dto.rest = none → saved = { found with name := dto.name.getD found.name })
  deleted : ∀ user table id query removed, crud.deleteOne user table id query = .ok removed →
    removed ∈ visible user table ∧ platform.uuidEq removed.id id = true

/-- No body of the request names another owner that gets through. -/
def Request.KeepsOwner (request : Request Q B) : Prop :=
  match request.route with
  | .updateOneBase _ dto _ => (dto.piped crud).user = none
  | _ => True

end

section Isolation

variable {platform : Platform} {crud : TypeOrmCrudService Q B} (documented : Documented platform crud)
  {user other id : String} {table saved : Table} {answer : Answer}

/-- `my/tokens`. -/
def ownStep (platform : Platform) (crud : TypeOrmCrudService Q B) (s : State Q B) (request : Request Q B) :
    Option (State Q B) :=
  if request.user.isSome then step platform crud s request else none

def isOf (user : String) (request : Request Q B) : Bool := request.user == some user

/-- What there is of one user: the tokens that are his, and his requests with their answers. -/
def State.of (user : String) (s : State Q B) : State Q B :=
  ⟨visible (some user) s.tokens,s.trace.filter (fun entry => isOf user entry.1)⟩

def Keyed (table : Table) : Prop := (table.map Token.id).Nodup

private theorem mem_visible (user : String) (table : Table) (row : Token) :
    row ∈ visible (some user) table ↔ row ∈ table ∧ row.userId = user := by
  simp [visible]

private theorem visible_append (user : Option String) (first second : Table) :
    visible user (first ++ second) = visible user first ++ visible user second := List.filter_append ..

/-- Nobody but the owner of a row has a row of its id. -/
theorem Keyed.owner (keyed : Keyed table) {found : Token} (member : found ∈ visible (some other) table) {row : Token}
    (inside : row ∈ table) (same : row.id = found.id) : row.userId = other := by
  obtain ⟨there,owned⟩ := (mem_visible other table found).mp member
  have equal : row = found := List.inj_on_of_nodup_map keyed inside there same
  rw [equal,owned]

theorem Keyed.append {row : Token} (keyed : Keyed table) (fresh : ∀ old ∈ table, old.id ≠ row.id) :
    Keyed (table ++ [row]) := by
  unfold Keyed
  rw [List.map_append,List.nodup_append]
  refine ⟨keyed,by simp,?_⟩
  intro old listed new single
  obtain ⟨earlier,inside,rfl⟩ := List.mem_map.mp listed
  obtain rfl := List.mem_singleton.mp single
  exact fresh earlier inside

theorem Keyed.filter (keyed : Keyed table) (kept : Token → Bool) : Keyed (table.filter kept) :=
  keyed.sublist (List.filter_sublist.map Token.id)

theorem written_ids (table : Table) (saved : Token) : (written table saved).map Token.id = table.map Token.id := by
  rw [written,List.map_map]
  apply List.map_congr_left
  intro row _
  simp only [Function.comp_apply]
  split
  next same => exact (eq_of_beq same).symm
  next => rfl

/-- Where a row keeps its owner, what is written is seen as it was. -/
theorem visible_written {found token : Token} (keyed : Keyed table) (inside : found ∈ visible (some other) table)
    (named : token.id = found.id) (owned : token.userId = other) (user : String) :
    visible (some user) (written table token) = written (visible (some user) table) token := by
  rw [visible,written,List.filter_map]
  apply congrArg (List.map _)
  apply List.filter_congr
  intro row member
  simp only [Function.comp_apply]
  split
  next same =>
    have owner := keyed.owner inside member ((eq_of_beq same).trans named)
    rw [Option.all_some,Option.all_some,owned,owner]
  next => rfl

/-- The rows of other users are not written. -/
theorem written_elsewhere {found token : Token} (keyed : Keyed table) (inside : found ∈ visible (some other) table)
    (named : token.id = found.id) (apart : other ≠ user) :
    written (visible (some user) table) token = visible (some user) table := by
  refine (List.map_congr_left (fun row member => ?_)).trans (List.map_id _)
  obtain ⟨there,owned⟩ := (mem_visible user table row).mp member
  rw [if_neg,id_eq]
  rw [beq_iff_eq]
  exact fun same => apart ((keyed.owner inside there (same.trans named)).symm.trans owned)

private theorem removed_elsewhere {removed : Token} (keyed : Keyed table)
    (inside : removed ∈ visible (some other) table)
    (apart : other ≠ user) :
    visible (some user) (table.filter (fun row => row.id != removed.id)) = visible (some user) table := by
  rw [visible,List.filter_filter,visible]
  apply List.filter_congr
  intro row member
  by_cases same : row.id = removed.id
  · have owner := keyed.owner inside member same
    simp [owner,apart]
  · simp [same]

section Routes

include documented

/-- One inversion for each route that writes: what it makes of the table. -/
theorem createOne_some {name : Option String} {rawBytes : Vector UInt8 32} {salt newId : String} {query : Q}
    (done : createOne platform crud user table name rawBytes salt newId query = some (answer,saved)) :
    isUuidText newId = true ∧ (∀ row ∈ table, row.id ≠ newId ∧ platform.uuidEq row.id newId = false) ∧
      ((∃ error, answer = .error error) ∧ saved = table ∨
        saved = table ++ [⟨newId,name.getD "",platform.hash salt (hex rawBytes.toList),user⟩] ∧
          answer = .created ⟨newId,name.getD "",user,newId ++ "." ++ hex rawBytes.toList⟩) := by
  unfold createOne at done
  split at done
  next drawn =>
    simp only [Bool.and_eq_true,List.all_eq_true,bne_iff_ne,Bool.not_eq_true'] at drawn
    refine ⟨drawn.1,drawn.2,?_⟩
    split at done
    next named =>
      dsimp only at done
      split at done
      next token inserted =>
        cases done
        obtain rfl := documented.created _ _ _ _ _ _ inserted
        exact Or.inr ⟨rfl,rfl⟩
      next error refused =>
        cases done
        exact Or.inl ⟨⟨error,rfl⟩,rfl⟩
    next unnamed =>
      cases done
      exact Or.inl ⟨⟨.badRequest,rfl⟩,rfl⟩
  next taken => cases done

theorem updateOneBase_cases (user : Option String) (table : Table) (id : String) (dto : TokenUpdateDto B) (query : Q) :
    (updateOneBase crud user table id dto query).2 = table ∨ ∃ found ∈ visible user table, ∃ token,
      (updateOneBase crud user table id dto query).2 = written table token ∧ platform.uuidEq found.id id = true ∧
        token.id = found.id ∧ ((dto.piped crud).user = none → ∀ own ∈ user, token.userId = own) ∧
        ((dto.piped crud).user = none → (dto.piped crud).rest = none →
          token = { found with name := (dto.piped crud).name.getD found.name }) := by
  unfold updateOneBase
  split
  next =>
    dsimp only
    cases done : (crud.updateOne user table id (dto.piped crud) query).2 with
    | none => exact Or.inl rfl
    | some token =>
      obtain ⟨found,inside,named,same,owned,declared⟩ := documented.updated _ _ _ _ _ _ done
      exact Or.inr ⟨found,inside,token,rfl,named,same,owned,declared⟩
  next => exact Or.inl rfl

theorem deleteOneBase_cases (user : Option String) (table : Table) (id : String) (query : Q) :
    (∃ error, deleteOneBase crud user table id query = (.error error,table)) ∨
      ∃ removed ∈ visible user table, platform.uuidEq removed.id id = true ∧
        deleteOneBase crud user table id query = (.deleted,table.filter (fun row => row.id != removed.id)) := by
  unfold deleteOneBase
  cases done : crud.deleteOne user table id query with
  | ok removed =>
    obtain ⟨inside,named⟩ := documented.deleted _ _ _ _ _ done
    exact Or.inr ⟨removed,inside,named,rfl⟩
  | error error => exact Or.inl ⟨error,rfl⟩

private theorem createOne_own {name : Option String} {rawBytes : Vector UInt8 32} {salt newId : String} {query : Q}
    (done : createOne platform crud user table name rawBytes salt newId query = some (answer,saved)) :
    createOne platform crud user (visible (some user) table) name rawBytes salt newId query =
      some (answer,visible (some user) saved) := by
  unfold createOne at done ⊢
  split at done
  next drawn =>
    have still : (isUuidText newId && (visible (some user) table).all
        (fun row => row.id != newId && !platform.uuidEq row.id newId)) = true := by
      rw [Bool.and_eq_true,List.all_eq_true] at drawn ⊢
      exact ⟨drawn.1,fun row member => drawn.2 row (List.mem_of_mem_filter member)⟩
    rw [if_pos still]
    split at done
    next named =>
      rw [if_pos named]
      dsimp only at done ⊢
      rw [documented.inserts]
      split at done
      next token inserted =>
        cases done
        obtain rfl := documented.created _ _ _ _ _ _ inserted
        rw [visible_append]
        simp [visible]
      next => cases done; rfl
    next unnamed =>
      cases done
      rw [if_neg unnamed]
  next taken => cases done

private theorem updateOneBase_own (keyed : Keyed table) (id : String) (dto : TokenUpdateDto B)
    (keeps : (dto.piped crud).user = none) (query : Q) :
    updateOneBase crud (some user) (visible (some user) table) id dto query =
      ((updateOneBase crud (some user) table id dto query).1,
        visible (some user) (updateOneBase crud (some user) table id dto query).2) := by
  unfold updateOneBase
  split
  next =>
    dsimp only
    rw [documented.saves]
    cases done : (crud.updateOne (some user) table id (dto.piped crud) query).2 with
    | none => rfl
    | some token =>
      obtain ⟨found,inside,_,named,owned,_⟩ := documented.updated _ _ _ _ _ _ done
      rw [visible_written keyed inside named (owned keeps user rfl)]
  next => rfl

private theorem deleteOneBase_own (id : String) (query : Q) :
    deleteOneBase crud (some user) (visible (some user) table) id query =
      ((deleteOneBase crud (some user) table id query).1,
        visible (some user) (deleteOneBase crud (some user) table id query).2) := by
  unfold deleteOneBase
  rw [documented.removes]
  split
  next removed _ =>
    simp only [visible,List.filter_filter]
    congr 1
    exact List.filter_congr (fun row _ => Bool.and_comm _ _)
  next => rfl

private theorem updateOneBase_other (keyed : Keyed table) (apart : other ≠ user) (id : String) (dto : TokenUpdateDto B)
    (keeps : (dto.piped crud).user = none) (query : Q) :
    visible (some user) (updateOneBase crud (some other) table id dto query).2 = visible (some user) table := by
  rcases updateOneBase_cases documented (some other) table id dto query with
    same | ⟨found,inside,token,saves,_,named,owned,_⟩
  · rw [same]
  · rw [saves,visible_written keyed inside named (owned keeps other rfl),written_elsewhere keyed inside named apart]

private theorem deleteOneBase_other (keyed : Keyed table) (apart : other ≠ user) (id : String) (query : Q) :
    visible (some user) (deleteOneBase crud (some other) table id query).2 = visible (some user) table := by
  rcases deleteOneBase_cases documented (some other) table id query with ⟨error,same⟩ | ⟨removed,inside,_,removes⟩
  · rw [same]
  · rw [removes,removed_elsewhere keyed inside apart]

private theorem createOne_other {name : Option String} {rawBytes : Vector UInt8 32} {salt newId : String} {query : Q}
    (apart : other ≠ user)
    (done : createOne platform crud other table name rawBytes salt newId query = some (answer,saved)) :
    visible (some user) saved = visible (some user) table := by
  obtain ⟨_,_,⟨_,rfl⟩ | ⟨rfl,_⟩⟩ := createOne_some documented done
  · rfl
  · rw [visible_append]
    simp [visible,apart]

private theorem perform_keyed (request : Request Q B) (keyed : Keyed table)
    (done : perform platform crud table request = some (answer,saved)) : Keyed saved := by
  obtain ⟨actor,route⟩ := request
  cases route with
  | getManyBase query =>
    cases done
    exact keyed
  | createOne name rawBytes salt newId query =>
    cases actor with
    | none => cases done
    | some user =>
      obtain ⟨_,fresh,⟨_,rfl⟩ | ⟨rfl,_⟩⟩ := createOne_some documented done
      · exact keyed
      · exact keyed.append (fun row member => (fresh row member).1)
  | updateOneBase id dto query =>
    obtain ⟨rfl,rfl⟩ := Prod.ext_iff.mp (Option.some.inj done)
    rcases updateOneBase_cases documented actor table id dto query with same | ⟨_,_,token,saves,_⟩
    · rwa [same]
    · rw [saves,Keyed,written_ids]
      exact keyed
  | deleteOneBase id query =>
    obtain ⟨rfl,rfl⟩ := Prod.ext_iff.mp (Option.some.inj done)
    rcases deleteOneBase_cases documented actor table id query with ⟨error,same⟩ | ⟨removed,_,_,removes⟩
    · rwa [same]
    · rw [removes]
      exact keyed.filter _

private theorem perform_own (keyed : Keyed table) (route : Route Q B)
    (keeps : Request.KeepsOwner crud ⟨some user,route⟩)
    (done : perform platform crud table ⟨some user,route⟩ = some (answer,saved)) :
    perform platform crud (visible (some user) table) ⟨some user,route⟩ = some (answer,visible (some user) saved) := by
  cases route with
  | getManyBase query =>
    cases done
    simp only [perform,documented.listed]
  | createOne name rawBytes salt newId query => exact createOne_own documented done
  | updateOneBase id dto query =>
    obtain ⟨rfl,rfl⟩ := Prod.ext_iff.mp (Option.some.inj done)
    exact congrArg some (updateOneBase_own documented keyed id dto keeps query)
  | deleteOneBase id query =>
    obtain ⟨rfl,rfl⟩ := Prod.ext_iff.mp (Option.some.inj done)
    exact congrArg some (deleteOneBase_own documented id query)

private theorem perform_other (keyed : Keyed table) (apart : other ≠ user) (route : Route Q B)
    (keeps : Request.KeepsOwner crud ⟨some other,route⟩)
    (done : perform platform crud table ⟨some other,route⟩ = some (answer,saved)) :
    visible (some user) saved = visible (some user) table := by
  cases route with
  | getManyBase query =>
    cases done
    rfl
  | createOne name rawBytes salt newId query => exact createOne_other documented apart done
  | updateOneBase id dto query =>
    obtain ⟨rfl,rfl⟩ := Prod.ext_iff.mp (Option.some.inj done)
    exact updateOneBase_other documented keyed apart id dto keeps query
  | deleteOneBase id query =>
    obtain ⟨rfl,rfl⟩ := Prod.ext_iff.mp (Option.some.inj done)
    exact deleteOneBase_other documented keyed apart id query

end Routes

private theorem ownStep_some {s t : State Q B} {request : Request Q B}
    (taken : ownStep platform crud s request = some t) :
    ∃ user answer saved, request.user = some user ∧ perform platform crud s.tokens request = some (answer,saved) ∧
      t = ⟨saved,s.trace ++ [(request,answer)]⟩ := by
  unfold ownStep at taken
  split at taken
  next own =>
    obtain ⟨user,named⟩ := Option.isSome_iff_exists.mp own
    obtain ⟨⟨answer,saved⟩,done,rfl⟩ := Option.map_eq_some_iff.mp taken
    exact ⟨user,answer,saved,named,done,rfl⟩
  next anybody => cases taken

/-- Whatever the users send to `my/tokens`, in any order and with any bodies that name no other owner by the relation:
each has the tokens and the answers that he would have if he were alone. -/
theorem own_requests_only (platform : Platform) (crud : TypeOrmCrudService Q B) (documented : Documented platform crud)
    (user : String) (s t : State Q B) (keyed : Keyed s.tokens) (requests : List (Request Q B))
    (keeps : ∀ request ∈ requests, request.KeepsOwner crud) (ran : run (ownStep platform crud) s requests = some t) :
    run (ownStep platform crud) (s.of user) (requests.filter (isOf user)) = some (t.of user) := by
  apply run_projected (State.of user) (isOf user) (fun s => Keyed s.tokens) (Request.KeepsOwner crud) ?_ ?_ ?_ s t
    requests keeps keyed ran
  · intro s request t keyed _ taken
    obtain ⟨_,answer,saved,_,done,rfl⟩ := ownStep_some taken
    exact perform_keyed documented request keyed done
  · intro s request t keyed keeps own taken
    obtain ⟨_,answer,saved,_,done,rfl⟩ := ownStep_some taken
    obtain ⟨actor,route⟩ := request
    obtain rfl : actor = some user := eq_of_beq own
    have alone := perform_own documented keyed route keeps done
    simp [ownStep,step,State.of,alone,own]
  · intro s request t keyed keeps foreign taken
    obtain ⟨other,answer,saved,named,done,rfl⟩ := ownStep_some taken
    obtain ⟨actor,route⟩ := request
    obtain rfl : actor = some other := named
    have apart : other ≠ user := by simpa [isOf] using foreign
    simp [State.of,perform_other documented keyed apart route keeps done,foreign]

end Isolation

/-- A body may name the hash and the owner by its column, of which the owner that is persisted is written over. -/
def plainUpdate (user : Option String) (dto : TokenUpdateDto (Option String × Option String)) (found : Token) : Token :=
  let rest := dto.rest.getD (none,none)
  { found with
    name := dto.name.getD found.name
    hash := rest.1.getD found.hash
    userId := dto.user.getD (user.getD (rest.2.getD found.userId)) }

/-- Undeclared fields get through, and a query is not read. -/
def plainCrud : TypeOrmCrudService Unit (Option String × Option String) where
  allowUnknown := true
  getMany user table _ := (visible user table).map shown
  createOne user _ data newId _ := .ok ⟨newId,data.name,data.hash,user.getD data.userId⟩
  updateOne user table id dto _ :=
    match findOne plainPlatform (visible user table) id with
    | some found => (.ok (shown (plainUpdate user dto found)),some (plainUpdate user dto found))
    | none => (.error .notFound,none)
  deleteOne user table id _ :=
    match findOne plainPlatform (visible user table) id with
    | some found => .ok found
    | none => .error .notFound

private theorem visible_visible (user : Option String) (table : Table) :
    visible user (visible user table) = visible user table := by
  simp [visible]

private theorem findOne_visible {user : Option String} {table : Table} {id : String} {found : Token}
    (read : findOne plainPlatform (visible user table) id = some found) :
    found ∈ visible user table ∧ plainPlatform.uuidEq found.id id = true :=
  ⟨List.mem_of_find?_eq_some read,by simpa using List.find?_some read⟩

theorem plainCrud_documented : Documented plainPlatform plainCrud where
  listed user table query := by simp only [plainCrud,visible_visible]
  inserts user table data newId query := rfl
  saves user table id dto query := by simp only [plainCrud,visible_visible]
  removes user table id query := by simp only [plainCrud,visible_visible]
  created user table data newId query token inserted := by
    cases inserted
    rfl
  updated user table id dto query saved done := by
    simp only [plainCrud] at done
    split at done
    next found read =>
      cases done
      obtain ⟨inside,named⟩ := findOne_visible read
      refine ⟨found,inside,named,rfl,fun no_user own same => ?_,fun no_user no_rest => ?_⟩
      · obtain rfl : user = some own := same
        rw [plainUpdate,no_user]
        rfl
      · have kept : user.getD found.userId = found.userId := by
          cases user with
          | none => rfl
          | some own => exact ((mem_visible own table found).mp inside).2.symm
        simp [plainUpdate,no_user,no_rest,kept]
    next => cases done
  deleted user table id query removed done := by
    simp only [plainCrud] at done
    split at done
    next found read =>
      cases done
      exact findOne_visible read
    next => cases done

def twoUsers : List (Request Unit (Option String × Option String)) :=
  [⟨some "first",.createOne (some "ci") (Vector.replicate 32 7) "" "5b0c3f5e-2f0e-4c39-9a37-0d8a52c1e7f4" ()⟩,
    ⟨some "second",.updateOneBase "5b0c3f5e-2f0e-4c39-9a37-0d8a52c1e7f4"
      { name := some "mine", rest := some (none,some "second") } ()⟩,
    ⟨some "second",.deleteOneBase "5b0c3f5e-2f0e-4c39-9a37-0d8a52c1e7f4" ()⟩,⟨some "first",.getManyBase ()⟩]

theorem second_user_unnoticed : ∃ t, run (ownStep plainPlatform plainCrud) {} twoUsers = some t ∧
    run (ownStep plainPlatform plainCrud) (State.of "first" {})
      (twoUsers.filter (isOf "first")) = some (t.of "first") :=
  ⟨_,rfl,own_requests_only plainPlatform plainCrud plainCrud_documented "first" {} _ List.nodup_nil twoUsers
    (by simp [twoUsers,Request.KeepsOwner,TokenUpdateDto.piped,plainCrud]) rfl⟩

end BoarPack.Tokens.Controllers
