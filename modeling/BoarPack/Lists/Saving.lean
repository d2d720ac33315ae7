import BoarPack.Library.Overlay
import BoarPack.Library.Transition

/-! `List`: rows that are loaded, edited, cancelled and saved, where the edited data is a copy of the rows. -/
namespace BoarPack.Lists
open Overlay Transition

/-- What is sent, with the `data` that it is built from and `afterSave` is told of. -/
inductive Saved (V C U : Type)
  | onCreate (pathParams : Fields String V) (requestBody : C) (data : Fields String V)
  | onUpdate (params : Fields String V) (requestBody : U) (data : Fields String V)

def Saved.data {V C U : Type} : Saved V C U → Fields String V
  | onCreate _ _ data | onUpdate _ _ data => data

/-- `text`: `String(id)`. -/
structure Props (V C U : Type) where
  idColumnName : String
  pathParams : Fields String V
  text : V → V
  entityToCreateDto : Fields String V → C
  entityToUpdateDto : Fields String V → U

/-- History: `pending`, the edits of a row that were made since the last load and not cancelled; `copied`, those at the
last edit, if there was one since the load; `cancelled`, the rows that were cancelled since that edit; and `saved`, what
was sent for which row and what it was to be built from. -/
structure State (V C U : Type) where
  rows : List (Fields String V) := []
  editableData : List (Fields String V) := []
  pending : V → Fields String V := fun _ => empty
  copied : Option (V → Fields String V) := none
  cancelled : V → Bool := fun _ => false
  saved : List (V × Saved V C U × Fields String V) := []

inductive Event (V : Type)
  | load (rows : List (Fields String V))
  | edit (id : V) (changes : Fields String V)
  | cancel (id : V)
  | save (id : V)

variable {V C U : Type} [DecidableEq V] (props : Props V C U)

def find (entities : List (Fields String V)) (id : V) : Option (Fields String V) :=
  entities.find? (fun entity => entity props.idColumnName = some id)

def updating (id : V) (data : Fields String V) : Saved V C U :=
  .onUpdate (Function.update props.pathParams props.idColumnName (some (props.text id)))
    (props.entityToUpdateDto (overlay props.pathParams data)) data

def onSave (editableData : List (Fields String V)) (id : V) (record : Fields String V) (newLine : Bool) : Saved V C U :=
  let data := (find props editableData id).getD record
  if newLine then .onCreate props.pathParams (props.entityToCreateDto data) data else updating props id data

def onCancel (editableData : List (Fields String V)) (id : V) (origin : Fields String V) : List (Fields String V) :=
  editableData.map (fun entity => if entity props.idColumnName = some id then overlay entity origin else entity)

/-- The complete edited data, which `onValuesChange` is given. -/
def edited (rows : List (Fields String V)) (pending : V → Fields String V) : List (Fields String V) :=
  rows.map (fun row => match row props.idColumnName with
    | none => row
    | some id => overlay row (pending id))

def step (s : State V C U) : Event V → Option (State V C U)
  | .load rows => some { s with rows, pending := fun _ => empty, copied := none, cancelled := fun _ => false }
  | .edit id changes => (find props s.rows id).map fun _ =>
    let pending := Function.update s.pending id (overlay (s.pending id) changes)
    { s with
      pending, copied := some pending, cancelled := fun _ => false, editableData := edited props s.rows pending }
  | .cancel id => (find props s.rows id).map fun origin =>
    { s with
      pending := Function.update s.pending id empty
      cancelled := Function.update s.cancelled id true
      editableData := onCancel props s.editableData id origin }
  | .save id => (find props s.rows id).map fun record =>
    let entry := (id,onSave props s.editableData id record false,overlay record (s.pending id))
    { s with saved := s.saved ++ [entry] }

/-- What was sent is the row as it was loaded, with the edits made since and not cancelled. -/
def Right (s : State V C U) : Prop := ∀ entry ∈ s.saved, entry.2.1 = updating props entry.1 entry.2.2

/-- No edit since the load has given the row to be saved another id, or another row the id of this one. -/
def OwnId (s : State V C U) : Event V → Prop
  | .save id => ∀ copied, s.copied = some copied →
      ∀ other value, copied other props.idColumnName = some value → (other = id ↔ value = id)
  | _ => True

/-- Without an edit since the load, the edited data has no other copy of the row to be saved than the loaded one. After
one, where the row was cancelled, no field of it was cancelled that it had not been loaded with. -/
def UpToDate (s : State V C U) : Event V → Prop
  | .save id => ∀ row, find props s.rows id = some row →
      match s.copied with
      | none => ∀ copy, find props s.editableData id = some copy → copy = row
      | some copied => s.cancelled id = true → ∀ field, row field = none → copied id field = none
  | _ => True

private theorem find_id {entities : List (Fields String V)} {id : V} {entity : Fields String V}
    (found : find props entities id = some entity) : entity props.idColumnName = some id := by
  unfold find at found
  have named := List.find?_some found
  exact of_decide_eq_true named

private theorem find_map {f : Fields String V → Fields String V} {entities : List (Fields String V)}
    (keeps : ∀ entity ∈ entities, f entity props.idColumnName = entity props.idColumnName) (id : V) :
    find props (entities.map f) id = (find props entities id).map f := by
  induction entities with
  | nil => rfl
  | cons entity rest ih =>
    have later := ih (fun other member => keeps other (List.mem_cons_of_mem entity member))
    unfold find at later ⊢
    rw [List.map_cons,List.find?_cons,List.find?_cons,keeps entity List.mem_cons_self,later]
    split
    next => rfl
    next => rfl

private theorem next_iff (editableData : List (Fields String V)) (id : V) (row data : Fields String V) :
    onSave props editableData id row false = updating props id data ↔ (find props editableData id).getD row = data := by
  simp only [onSave,updating,Bool.false_eq_true,if_false,Saved.onUpdate.injEq]
  constructor
  · exact fun same => same.2.2
  · intro same
    rw [same]
    exact ⟨trivial,rfl,rfl⟩

section Cancelled

variable (rows : List (Fields String V)) (cancelled : V → Bool)

/-- The copy of a row, with the loaded row over it where it was cancelled. -/
def restored (entity : Fields String V) : Fields String V :=
  match entity props.idColumnName with
  | none => entity
  | some id => if cancelled id then overlay entity ((find props rows id).getD empty) else entity

private theorem restored_of {entity : Fields String V} {id : V} (named : entity props.idColumnName = some id) :
    restored props rows cancelled entity =
      if cancelled id then overlay entity ((find props rows id).getD empty) else entity := by
  simp only [restored,named]

private theorem restored_id (entity : Fields String V) :
    restored props rows cancelled entity props.idColumnName = entity props.idColumnName := by
  cases named : entity props.idColumnName with
  | none => simp only [restored,named]
  | some id =>
    rw [restored_of props rows cancelled named]
    split
    next =>
      cases loaded : find props rows id with
      | none => exact named
      | some origin => exact overlay_some entity (find_id props loaded)
    next => exact named

private theorem restored_none (entity : Fields String V) : restored props rows (fun _ => false) entity = entity := by
  unfold restored
  split
  next => rfl
  next => rfl

/-- One more row is cancelled. -/
theorem restored_update {id : V} {origin : Fields String V} (shown : find props rows id = some origin)
    (entity : Fields String V) :
    (if restored props rows cancelled entity props.idColumnName = some id then
        overlay (restored props rows cancelled entity) origin
      else restored props rows cancelled entity) =
      restored props rows (Function.update cancelled id true) entity := by
  rw [restored_id]
  cases named : entity props.idColumnName with
  | none => simp only [restored,named,reduceCtorEq,if_false]
  | some own =>
    rw [restored_of props rows cancelled named,restored_of props rows _ named]
    by_cases same : own = id
    · subst same
      rw [if_pos rfl,Function.update_self,if_pos rfl,shown,Option.getD_some]
      split
      next => rw [overlay_assoc,overlay_self]
      next => rfl
    · rw [if_neg (fun equal => same (Option.some.inj equal)),Function.update_of_ne same]

end Cancelled

/-- Before an edit nothing is pending; after one, the edited data is the rows as they were edited, the cancelled ones
with the loaded row over them. -/
def Tracked (s : State V C U) : Prop :=
  match s.copied with
  | none => s.pending = fun _ => empty
  | some copied =>
    (∀ id, s.pending id = if s.cancelled id then empty else copied id) ∧
      s.editableData = (edited props s.rows copied).map (restored props s.rows s.cancelled)

private theorem onCancel_restored {rows : List (Fields String V)} {id : V} {origin : Fields String V}
    (shown : find props rows id = some origin) (cancelled : V → Bool) (copies : List (Fields String V)) :
    onCancel props (copies.map (restored props rows cancelled)) id origin =
      copies.map (restored props rows (Function.update cancelled id true)) := by
  rw [onCancel,List.map_map]
  exact List.map_congr_left (fun entity _ => restored_update props rows cancelled shown entity)

private theorem pending_cancelled {pending copied : V → Fields String V} {cancelled : V → Bool}
    (same : ∀ id, pending id = if cancelled id then empty else copied id) (id other : V) :
    Function.update pending id empty other =
      if Function.update cancelled id true other then empty else copied other := by
  by_cases here : other = id
  · subst here
    rw [Function.update_self,Function.update_self,if_pos rfl]
  · rw [Function.update_of_ne here,Function.update_of_ne here]
    exact same other

private theorem step_tracked (s t : State V C U) (event : Event V) (tracked : Tracked props s)
    (taken : step props s event = some t) : Tracked props t := by
  cases event with
  | load rows =>
    obtain rfl := Option.some.inj taken
    rfl
  | edit id changes =>
    obtain ⟨row,shown,rfl⟩ := Option.map_eq_some_iff.mp taken
    refine ⟨fun other => rfl,?_⟩
    exact (List.map_id'' (restored_none props s.rows) _).symm
  | save id =>
    obtain ⟨record,shown,rfl⟩ := Option.map_eq_some_iff.mp taken
    exact tracked
  | cancel id =>
    obtain ⟨origin,shown,rfl⟩ := Option.map_eq_some_iff.mp taken
    unfold Tracked at tracked ⊢
    cases copied : s.copied with
    | none =>
      simp only [copied] at tracked ⊢
      rw [tracked]
      exact Function.update_eq_self id _
    | some edits =>
      simp only [copied] at tracked ⊢
      refine ⟨pending_cancelled tracked.1 id,?_⟩
      rw [tracked.2]
      exact onCancel_restored props shown s.cancelled _

/-- The row of an id that no edit has touched is found where it was. -/
theorem find_edited (rows : List (Fields String V)) {copied : V → Fields String V} {id : V}
    (own : ∀ other value, copied other props.idColumnName = some value → (other = id ↔ value = id)) :
    find props (edited props rows copied) id =
      (find props rows id).map (fun row => overlay row (copied id)) := by
  induction rows with
  | nil => rfl
  | cons row rest ih =>
    unfold find edited at ih ⊢
    rw [List.map_cons,List.find?_cons,List.find?_cons,ih]
    cases named : row props.idColumnName with
    | none => simp [named]
    | some other =>
      by_cases same : other = id
      · subst same
        have kept : overlay row (copied other) props.idColumnName = some other := by
          cases given : copied other props.idColumnName with
          | none => rw [overlay_none _ given,named]
          | some value => rw [overlay_some _ given,(own other value given).mp rfl]
        simp [kept]
      · have apart : overlay row (copied other) props.idColumnName ≠ some id := by
          cases given : copied other props.idColumnName with
          | none =>
            rw [overlay_none _ given,named]
            exact fun equal => same (Option.some.inj equal)
          | some value =>
            rw [overlay_some _ given]
            exact fun equal => same ((own other value given).mpr (Option.some.inj equal))
        simp [apart,same]

/-- What is sent for a row that kept its id. -/
theorem save_right_iff {s : State V C U} (tracked : Tracked props s) {id : V} {record : Fields String V}
    (shown : find props s.rows id = some record) (own : OwnId props s (.save id)) :
    UpToDate props s (.save id) ↔
      onSave props s.editableData id record false = updating props id (overlay record (s.pending id)) := by
  rw [next_iff]
  unfold Tracked at tracked
  unfold UpToDate
  simp only [shown,Option.some.injEq,forall_eq']
  cases copied : s.copied with
  | none =>
    simp only [copied] at tracked ⊢
    rw [tracked,overlay_empty]
    cases find props s.editableData id with
    | none => simp
    | some copy => simp
  | some edits =>
    simp only [copied] at tracked ⊢
    have named := find_id props shown
    have found := find_edited props s.rows (own edits copied)
    rw [shown,Option.map_some] at found
    rw [tracked.2,find_map props (fun entity _ => restored_id props s.rows s.cancelled entity),found,Option.map_some,
      Option.getD_some,restored_of props s.rows s.cancelled (find_id props found),tracked.1,shown,Option.getD_some]
    cases s.cancelled id with
    | false => simp
    | true => simp [overlay_back_iff]

private theorem step_right_iff (s t : State V C U) (event : Event V) (tracked : Tracked props s) (right : Right props s)
    (own : OwnId props s event) (taken : step props s event = some t) : UpToDate props s event ↔ Right props t := by
  cases event with
  | load rows =>
    obtain rfl := Option.some.inj taken
    exact iff_of_true trivial right
  | edit id changes =>
    obtain ⟨row,_,rfl⟩ := Option.map_eq_some_iff.mp taken
    exact iff_of_true trivial right
  | cancel id =>
    obtain ⟨origin,_,rfl⟩ := Option.map_eq_some_iff.mp taken
    exact iff_of_true trivial right
  | save id =>
    obtain ⟨record,shown,rfl⟩ := Option.map_eq_some_iff.mp taken
    rw [save_right_iff props tracked shown own]
    constructor
    · intro sent entry member
      rcases List.mem_append.mp member with before | last
      · exact right entry before
      · obtain rfl := List.mem_singleton.mp last
        exact sent
    · exact fun kept => kept _ (List.mem_append_right s.saved List.mem_cons_self)

def plainProps : Props String (Fields String String) (Fields String String) where
  idColumnName := "id"
  pathParams := empty
  text value := value
  entityToCreateDto entity := entity
  entityToUpdateDto entity := entity

def row (fields : List (String × String)) : Fields String String := fun field => fields.lookup field

def reloaded : List (Event String) :=
  [.load [row [("id","1"),("name","Ann")]],.edit "1" (row [("name","Beth")]),.save "1",
    .load [row [("id","1"),("name","Cleo")]],.save "1"]

def cancelled : List (Event String) :=
  [.load [row [("id","1")]],.edit "1" (row [("name","Beth")]),.cancel "1",.save "1"]

def names (events : List (Event String)) : Option (List (Option String × Option String)) :=
  (run (step plainProps) {} events).map fun s =>
    s.saved.map (fun entry => (entry.2.1.data "name",entry.2.2 "name"))

end BoarPack.Lists
