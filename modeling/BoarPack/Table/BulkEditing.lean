import BoarPack.Library.Containers
import BoarPack.Library.Transition

/-! `Table` with `useBulkEditing`: the state of the hook, of the two buttons and of their
dialogs, and the calls of `onDeleteMany` and `onUpdateMany`. A label is an event handled to
its end; an empty `records` means every record that the query matches. -/
namespace BoarPack.Table
open Transition Containers

variable {E Q V : Type}

structure Result (E : Type) where
  data : List E
  total : Nat
  deriving DecidableEq, Repr

/-- The state of the hook, and what a rendered handler closes over. -/
structure Bulk (E Q : Type) where
  allSelected : Bool := false
  selectedRecords : List E := []
  lastRequest : Option (Q × Result E) := none
  deriving DecidableEq, Repr

namespace Bulk

/-- `allSelected` without a request would throw; it is set with one only. -/
def recordsCount (bulk : Bulk E Q) : Nat :=
  if bulk.allSelected then (bulk.lastRequest.map (fun request => request.2.total)).getD 0
  else bulk.selectedRecords.length

def query (bulk : Bulk E Q) : Option Q := bulk.lastRequest.map Prod.fst

def records (bulk : Bulk E Q) : List E := if bulk.allSelected then [] else bulk.selectedRecords

/-- `request` of the table, once `getAll` has resolved. -/
def requested (bulk : Bulk E Q) (query : Q) (result : Result E) : Bulk E Q :=
  { bulk with selectedRecords := [], lastRequest := some (query,result) }

/-- Before the first request `lastRequest[1]` is undefined and the handler throws. -/
def onSelectAll (bulk : Bulk E Q) : Option (Bulk E Q) :=
  bulk.lastRequest.map (fun request => { bulk with selectedRecords := request.2.data, allSelected := true })

def onChange (bulk : Bulk E Q) (records : List E) : Bulk E Q :=
  { bulk with selectedRecords := records, allSelected := false }

end Bulk

inductive BulkEditConfig (E Q : Type)
  | records (value : List E) (count : Nat)
  | query (value : Option Q) (count : Nat)
  deriving DecidableEq, Repr

def bulkEditConfig (bulk : Bulk E Q) : BulkEditConfig E Q :=
  if bulk.allSelected then .query bulk.query bulk.recordsCount
  else .records bulk.selectedRecords bulk.selectedRecords.length

/-- `_.pickBy(dto, (value, key) => _.has(values, key))`. -/
def updateValues (dto values : List (String × V)) : List (String × V) :=
  dto.filter (fun entry => (Containers.get values entry.1).isSome)

inductive Request (E Q V : Type)
  | deleteMany (query : Option Q) (records : List E)
  | updateMany (query : Option Q) (updateValues : List (String × V)) (records : List E)
  deriving DecidableEq, Repr

def Request.records : Request E Q V → List E
  | .deleteMany _ records => records
  | .updateMany _ _ records => records

/-- `asked`: 'Select ALL' was clicked after the last completed request, and the selection
has not been changed since. -/
structure Sent (E Q V : Type) where
  request : Request E Q V
  asked : Bool
  deriving DecidableEq, Repr

/-- `validating` holds what each confirmed update closed over, its form being validated;
`asked` and `sent` are history. -/
structure State (E Q V : Type) where
  bulk : Bulk E Q := {}
  confirming : Bool := false
  editing : Option (BulkEditConfig E Q) := none
  validating : List (Bulk E Q) := []
  asked : Bool := false
  sent : List (Sent E Q V) := []
  deriving DecidableEq, Repr

inductive Event (E Q V : Type)
  | requested (query : Q) (result : Result E)
  | selectAll
  | change (records : List E)
  | openDelete
  | cancelDelete
  | confirmDelete
  | openEdit
  | closeEdit
  | confirmUpdate
  | validated (i : Nat) (values : List (String × V))
  | invalid (i : Nat)

def State.send (s : State E Q V) (request : Request E Q V) : State E Q V :=
  { s with sent := s.sent ++ [⟨request,s.asked⟩] }

section
variable (entityToUpdateDto : List (String × V) → List (String × V))

def submit (bulk : Bulk E Q) (values : List (String × V)) : Request E Q V :=
  .updateMany bulk.query (updateValues (entityToUpdateDto values) values) bulk.records

def step (s : State E Q V) : Event E Q V → Option (State E Q V)
  | .requested query result => some { s with bulk := s.bulk.requested query result, asked := false }
  | .selectAll =>
    match s.bulk.onSelectAll with
    | some bulk => some { s with bulk := bulk, asked := true }
    | none => some s
  | .change records => some { s with bulk := s.bulk.onChange records, asked := false }
  | .openDelete => if s.bulk.recordsCount = 0 then none else some { s with confirming := true }
  | .cancelDelete => if s.confirming then some { s with confirming := false } else none
  | .confirmDelete =>
    if s.confirming then
      some ({ s with confirming := false }.send (.deleteMany s.bulk.query s.bulk.records))
    else none
  | .openEdit =>
    if s.bulk.recordsCount = 0 then none else some { s with editing := some (bulkEditConfig s.bulk) }
  | .closeEdit => if s.editing.isSome then some { s with editing := none } else none
  | .confirmUpdate =>
    if s.editing.isSome then some { s with validating := s.validating ++ [s.bulk] } else none
  | .validated i values =>
    (s.validating[i]?).map (fun bulk =>
      { s with validating := s.validating.eraseIdx i }.send (submit entityToUpdateDto bulk values))
  | .invalid i => if i < s.validating.length then some { s with validating := s.validating.eraseIdx i } else none

end

/-- A call without records follows a click on Select ALL, and what is then selected is what is shown. -/
def TouchesShown (s : State E Q V) : Prop :=
  (∀ sent ∈ s.sent, sent.request.records = [] → sent.asked = true) ∧
  (s.bulk.allSelected = true →
    ∃ query result, s.bulk.lastRequest = some (query,result) ∧ s.bulk.selectedRecords = result.data)

def Bulk.Chosen (bulk : Bulk E Q) : Prop := bulk.allSelected = true ∨ bulk.selectedRecords ≠ []

instance [DecidableEq E] (bulk : Bulk E Q) : Decidable bulk.Chosen :=
  inferInstanceAs (Decidable (bulk.allSelected = true ∨ bulk.selectedRecords ≠ []))

def NoneValidatesAll (s : State E Q V) : Prop := ∀ bulk ∈ s.validating, bulk.allSelected = false

instance (s : State E Q V) : Decidable (NoneValidatesAll s) :=
  inferInstanceAs (Decidable (∀ bulk ∈ s.validating, bulk.allSelected = false))

/-- No request completes while everything is selected, nothing is submitted without a
selection, and neither a request nor a change of the selection overtakes an update of
everything whose form is being validated. -/
def Careful (s : State E Q V) : Event E Q V → Prop
  | .requested _ _ => s.bulk.allSelected = false ∧ NoneValidatesAll s
  | .change _ => NoneValidatesAll s
  | .confirmDelete => s.bulk.Chosen
  | .validated i _ => ∀ bulk ∈ s.validating[i]?, bulk.Chosen
  | _ => True

structure Inv (s : State E Q V) : Prop where
  sent : ∀ sent ∈ s.sent, sent.request.records = [] → sent.asked = true
  shown : s.bulk.allSelected = true →
    ∃ query result, s.bulk.lastRequest = some (query,result) ∧ s.bulk.selectedRecords = result.data
  asked : s.bulk.allSelected = true → s.asked = true
  validating : ∀ bulk ∈ s.validating, bulk.allSelected = true → s.asked = true

theorem Inv.touchesShown {s : State E Q V} (inv : Inv s) : TouchesShown s := ⟨inv.sent,inv.shown⟩

theorem Bulk.Chosen.allSelected {bulk : Bulk E Q} (chosen : bulk.Chosen) (empty : bulk.records = []) :
    bulk.allSelected = true := by
  rcases chosen with all | some
  · exact all
  · by_contra other
    rw [Bulk.records,if_neg other] at empty
    exact some empty

theorem inv_initial : Inv ({} : State E Q V) where
  sent := by simp
  shown := by simp
  asked := by simp
  validating := by simp

theorem Inv.send {s : State E Q V} (inv : Inv s) (request : Request E Q V)
    (asked : request.records = [] → s.asked = true) : Inv (s.send request) where
  sent := by
    intro sent member empty
    rcases List.mem_append.mp member with old | new
    · exact inv.sent sent old empty
    · obtain rfl := List.mem_singleton.mp new
      exact asked empty
  shown := inv.shown
  asked := inv.asked
  validating := inv.validating

theorem Inv.requested {s : State E Q V} (inv : Inv s) (query : Q) (result : Result E)
    (unselected : s.bulk.allSelected = false) (none : NoneValidatesAll s) :
    Inv { s with bulk := s.bulk.requested query result, asked := false } where
  sent := inv.sent
  shown all := absurd all (by simp [Bulk.requested,unselected])
  asked all := absurd all (by simp [Bulk.requested,unselected])
  validating bulk member all := absurd all (by simp [none bulk member])

theorem Inv.change {s : State E Q V} (inv : Inv s) (records : List E) (none : NoneValidatesAll s) :
    Inv { s with bulk := s.bulk.onChange records, asked := false } where
  sent := inv.sent
  shown all := absurd all (by simp [Bulk.onChange])
  asked all := absurd all (by simp [Bulk.onChange])
  validating bulk member all := absurd all (by simp [none bulk member])

theorem Inv.selectAll {s : State E Q V} (inv : Inv s) (bulk : Bulk E Q)
    (selected : s.bulk.onSelectAll = some bulk) : Inv { s with bulk := bulk, asked := true } := by
  obtain ⟨⟨query,result⟩,last,rfl⟩ := Option.map_eq_some_iff.mp selected
  exact {
    sent := inv.sent
    shown := fun _ => ⟨query,result,last,rfl⟩
    asked := fun _ => rfl
    validating := fun _ _ _ => rfl }

theorem Inv.validated {s : State E Q V} (inv : Inv s) (i : Nat) :
    Inv { s with validating := s.validating.eraseIdx i } where
  sent := inv.sent
  shown := inv.shown
  asked := inv.asked
  validating bulk member := inv.validating bulk (List.mem_of_mem_eraseIdx member)

theorem Inv.confirmUpdate {s : State E Q V} (inv : Inv s) :
    Inv { s with validating := s.validating ++ [s.bulk] } where
  sent := inv.sent
  shown := inv.shown
  asked := inv.asked
  validating := by
    intro bulk member all
    rcases List.mem_append.mp member with old | new
    · exact inv.validating bulk old all
    · obtain rfl := List.mem_singleton.mp new
      exact inv.asked all

theorem Inv.dialogs {s : State E Q V} (inv : Inv s) (confirming : Bool) (editing : Option (BulkEditConfig E Q)) :
    Inv { s with confirming := confirming, editing := editing } where
  sent := inv.sent
  shown := inv.shown
  asked := inv.asked
  validating := inv.validating

theorem inv_step (entityToUpdateDto : List (String × V) → List (String × V)) (s : State E Q V)
    (event : Event E Q V) (t : State E Q V) (inv : Inv s) (careful : Careful s event)
    (taken : step entityToUpdateDto s event = some t) : Inv t := by
  cases event with
  | requested query result =>
    obtain rfl := Option.some.inj taken
    exact inv.requested query result careful.1 careful.2
  | selectAll =>
    simp only [step] at taken
    split at taken
    next bulk selected =>
      obtain rfl := Option.some.inj taken
      exact inv.selectAll bulk selected
    next =>
      obtain rfl := Option.some.inj taken
      exact inv
  | change records =>
    obtain rfl := Option.some.inj taken
    exact inv.change records careful
  | openDelete =>
    simp only [step,Option.ite_none_left_eq_some] at taken
    obtain ⟨_,taken⟩ := taken
    obtain rfl := Option.some.inj taken
    exact inv.dialogs true s.editing
  | cancelDelete =>
    simp only [step,Option.ite_none_right_eq_some] at taken
    obtain ⟨_,taken⟩ := taken
    obtain rfl := Option.some.inj taken
    exact inv.dialogs false s.editing
  | confirmDelete =>
    simp only [step,Option.ite_none_right_eq_some] at taken
    obtain ⟨_,taken⟩ := taken
    obtain rfl := Option.some.inj taken
    apply (inv.dialogs false s.editing).send
    exact fun empty => inv.asked (careful.allSelected empty)
  | openEdit =>
    simp only [step,Option.ite_none_left_eq_some] at taken
    obtain ⟨_,taken⟩ := taken
    obtain rfl := Option.some.inj taken
    exact inv.dialogs s.confirming _
  | closeEdit =>
    simp only [step,Option.ite_none_right_eq_some] at taken
    obtain ⟨_,taken⟩ := taken
    obtain rfl := Option.some.inj taken
    exact inv.dialogs s.confirming none
  | confirmUpdate =>
    simp only [step,Option.ite_none_right_eq_some] at taken
    obtain ⟨_,taken⟩ := taken
    obtain rfl := Option.some.inj taken
    exact inv.confirmUpdate
  | validated i values =>
    obtain ⟨bulk,found,rfl⟩ := Option.map_eq_some_iff.mp taken
    apply (inv.validated i).send
    intro empty
    have all := (careful bulk found).allSelected empty
    exact inv.validating bulk (List.mem_of_getElem? found) all
  | invalid i =>
    simp only [step,Option.ite_none_right_eq_some] at taken
    obtain ⟨_,taken⟩ := taken
    obtain rfl := Option.some.inj taken
    exact inv.validated i

/-- In every run whose steps are careful, a call with no records follows a 'Select ALL' of what
is shown, and everything selected is what is shown. -/
theorem bulk_touches_shown (entityToUpdateDto : List (String × V) → List (String × V))
    (events : List (Event E Q V)) (careful : Meets (step entityToUpdateDto) Careful {} events) :
    Always (step entityToUpdateDto) TouchesShown {} events := by
  have always := always_of_meets Inv Careful (inv_step entityToUpdateDto) {} events inv_initial careful
  exact always.imp (fun s inv => inv.touchesShown)

instance [DecidableEq E] (s : State E Q V) (event : Event E Q V) : Decidable (Careful s event) := by
  cases event <;> dsimp only [Careful] <;> infer_instance

def selectAndDelete : List (Event Nat String Nat) :=
  [.requested "page 1" ⟨[1,2],30⟩,.selectAll,.openDelete,.confirmDelete,.change [],.requested "page 2" ⟨[3],30⟩]

theorem selected_all_deleted : (run (step id) {} selectAndDelete).isSome ∧
    Always (step id) TouchesShown {} selectAndDelete :=
  ⟨by decide,bulk_touches_shown id selectAndDelete (by decide)⟩

/-- `allSelected` outlives the request: the records of the next query are deleted unasked. -/
def selectThenFilter : List (Event Nat String Nat) :=
  [.requested "all" ⟨[1,2],30⟩,.selectAll,.requested "filtered" ⟨[7],1⟩,.openDelete,.confirmDelete]

/-- Two records are being edited when the table reloads: every record is updated. -/
def editThenReload : List (Event Nat String Nat) :=
  [.requested "all" ⟨[1,2],30⟩,.change [1,2],.openEdit,.requested "all" ⟨[1,2],30⟩,.confirmUpdate,
    .validated 0 [("price",5)]]

theorem filtered_records_deleted :
    (∃ s, run (step id) {} selectThenFilter = some s ∧ ¬ TouchesShown s) ∧
      ∃ s, run (step id) {} editThenReload = some s ∧ ¬ TouchesShown s := by
  constructor
  · refine ⟨_,rfl,fun shown => ?_⟩
    have unasked := shown.1 _ List.mem_cons_self rfl
    cases unasked
  · refine ⟨_,rfl,fun shown => ?_⟩
    have unasked := shown.1 _ List.mem_cons_self rfl
    cases unasked

end BoarPack.Table
