import BoarPack.Users.Service
import BoarPack.Library.Unicode

/-! `EventLogsService.audit`: what it copies from the request, which body fields it
masks, and the flag on the request that keeps the second recorder out. The store is
the history of what was pushed; the flush to the database only empties it. -/
namespace BoarPack.EventLogs
open Users

inductive Json
  | null
  | bool (value : Bool)
  | num (value : Rat)
  | str (value : String)
  | arr (items : List Json)
  | obj (fields : List (String × Json))

abbrev Payload := List (String × Json)

/-- `body ? { ...body } : null`: code units and items are spread under their indices, half a pair of units as the
replacement character. -/
def Json.spread : Json → Option Payload
  | .null => none
  | .bool value => if value then some [] else none
  | .num value => if value = 0 then none else some []
  | .str value =>
    if value = "" then none
    else some ((Unicode.units value.toList).zipIdx.map
      (fun (unit,i) => (toString i,.str (String.singleton (Unicode.single unit)))))
  | .arr items => some (items.zipIdx.map (fun (item,i) => (toString i,item)))
  | .obj fields => some fields

inductive LogType
  | audit
  | operational
  | application
  deriving DecidableEq, Repr

inductive UserRole
  | admin
  | user
  | guest
  | system
  deriving DecidableEq, Repr

inductive LogLevel
  | info
  | warning
  | error
  deriving DecidableEq, Repr

/-- The options of `SkipEventsLog`: `true`, or an object with an optional `body`. -/
inductive TSkipEventsLogOptions
  | all
  | object (body : Option (List String))
  deriving DecidableEq, Repr

structure LogEntry where
  action : String
  entity : String
  service : Option String
  serviceId : Option String
  duration : Int
  statusCode : Nat
  logLevel : LogLevel
  deriving DecidableEq, Repr

structure EventLog extends LogEntry where
  logType : LogType
  userId : Option String
  userName : Option String
  userRole : UserRole
  payload : Option Payload
  method : Option String
  url : Option String
  entityId : Option String
  ipAddress : Option String
  userAgent : Option String

structure HttpRequest where
  user : Option TUser
  body : Json
  method : Option String
  url : Option String
  id : Option String
  ip : Option String
  userAgent : Option String

/-- The audit entries with the request they belong to, and the requests that carry the
`requestHandled` symbol. -/
structure Store where
  handled : List Nat
  logsStore : List (Nat × EventLog)

def Store.empty : Store := ⟨[],[]⟩

def Store.entriesOf (store : Store) (request : Nat) : List EventLog :=
  (store.logsStore.filter (fun stored => stored.1 == request)).map Prod.snd

def stars : Json := .str "*****"

/-- `field in payload` also finds what is inherited, of which `__proto__` takes no text. -/
def maskField (payload : Payload) (field : String) : Payload :=
  if payload.any (fun entry => entry.1 == field) then
    payload.map (fun entry => if entry.1 = field then (entry.1,stars) else entry)
  else if field ∈ objectPrototype ∧ field ≠ "__proto__" then payload ++ [(field,stars)]
  else payload

def maskPayload (skipOptions : Option TSkipEventsLogOptions) (payload : Option Payload) : Option Payload :=
  match skipOptions with
  | some (.object (some fields)) => payload.map (fun payload => fields.foldl maskField payload)
  | _ => payload

def rolesMap : Roles → UserRole
  | .user => .user
  | .admin => .admin

def orNull (value : Option String) : Option String := value.filter (· != "")

def eventLog (entry : LogEntry) (request : HttpRequest) (skipOptions : Option TSkipEventsLogOptions) :
    EventLog :=
  { toLogEntry := entry
    logType := .audit
    userId := orNull (request.user.map TUser.id)
    userName := orNull (request.user.bind TUser.name)
    userRole := (request.user.map (fun user => rolesMap user.role)).getD .guest
    payload := maskPayload skipOptions request.body.spread
    method := orNull request.method
    url := orNull request.url
    entityId := orNull request.id
    ipAddress := orNull request.ip
    userAgent := orNull request.userAgent }

def audit (store : Store) (i : Nat) (entry : LogEntry) (request : HttpRequest)
    (skipOptions : Option TSkipEventsLogOptions) : Store :=
  if i ∈ store.handled then store
  else ⟨i :: store.handled,store.logsStore ++ [(i,eventLog entry request skipOptions)]⟩

def Masked (payload : Payload) (field : String) : Prop := ∀ value, (field,value) ∈ payload → value = stars

private theorem masked_absent {payload : Payload} {field : String}
    (absent : ¬ payload.any (fun entry => entry.1 == field)) :
    Masked payload field := by
  intro value member
  exact absurd (List.any_eq_true.mpr ⟨(field,value),member,beq_self_eq_true field⟩) absent

theorem Masked.append {payload : Payload} {field : String} (masked : Masked payload field) (other : String) :
    Masked (payload ++ [(other,stars)]) field := by
  intro value member
  rcases List.mem_append.mp member with old | new
  · exact masked value old
  · exact (Prod.mk.inj (List.mem_singleton.mp new)).2

private theorem maskField_masked (payload : Payload) (field : String) : Masked (maskField payload field) field := by
  unfold maskField
  split
  next =>
    intro value member
    obtain ⟨entry,_,same⟩ := List.mem_map.mp member
    split at same
    next named => exact (Prod.mk.inj same).2.symm
    next other => exact absurd (congrArg Prod.fst same) other
  next absent =>
    split
    next => exact (masked_absent absent).append field
    next => exact masked_absent absent

theorem Masked.maskField {payload : Payload} {field : String} (masked : Masked payload field) (other : String) :
    Masked (maskField payload other) field := by
  unfold EventLogs.maskField
  split
  next =>
    intro value member
    obtain ⟨entry,inside,same⟩ := List.mem_map.mp member
    split at same
    next named => exact (Prod.mk.inj same).2.symm
    next untouched => exact masked value (same ▸ inside)
  next =>
    split
    next => exact masked.append other
    next => exact masked

theorem foldl_maskField_masked (fields : List String) (payload : Payload) (field : String)
    (listed : field ∈ fields ∨ Masked payload field) : Masked (fields.foldl maskField payload) field := by
  induction fields generalizing payload with
  | nil => exact listed.resolve_left (by simp)
  | cons first rest ih =>
    apply ih
    obtain listed | masked := listed
    · obtain rfl | later := List.mem_cons.mp listed
      · exact Or.inr (maskField_masked payload field)
      · exact Or.inl later
    · exact Or.inr (masked.maskField first)

theorem audit_other (store : Store) (i j : Nat) (entry : LogEntry) (request : HttpRequest)
    (skipOptions : Option TSkipEventsLogOptions) (other : i ≠ j) :
    (audit store i entry request skipOptions).entriesOf j = store.entriesOf j ∧
      (j ∈ (audit store i entry request skipOptions).handled ↔ j ∈ store.handled) := by
  unfold audit
  split
  next handled => exact ⟨rfl,Iff.rfl⟩
  next open_request =>
    refine ⟨by simp [Store.entriesOf,other],?_⟩
    simp [other.symm]

theorem audit_handled (store : Store) (i : Nat) (entry : LogEntry) (request : HttpRequest)
    (skipOptions : Option TSkipEventsLogOptions) (handled : i ∈ store.handled) :
    audit store i entry request skipOptions = store := by
  simp [audit,handled]

theorem audit_open (store : Store) (i : Nat) (entry : LogEntry) (request : HttpRequest)
    (skipOptions : Option TSkipEventsLogOptions) (unhandled : i ∉ store.handled) :
    (audit store i entry request skipOptions).entriesOf i =
      store.entriesOf i ++ [eventLog entry request skipOptions] ∧
    i ∈ (audit store i entry request skipOptions).handled := by
  simp [audit,unhandled,Store.entriesOf]

end BoarPack.EventLogs
