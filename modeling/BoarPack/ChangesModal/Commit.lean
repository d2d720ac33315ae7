import BoarPack.ChangesModal.ConflictsTab

/-! `ChangesModal`: commits of a diff until the server reports success, the rows of a retry
being those that `ConflictsTab` handed over. -/
namespace BoarPack.ChangesModal
open Transition Containers

variable {V : Type} [DecidableEq V]

/-- The rows of `updated` are one for each id: an object with the ids as its keys holds them.
An id is what the server reads of it, so that `'7'` and `7` are one. -/
structure DiffResult (V : Type) where
  created : List (Row V)
  updated : List (Row V)
  distinct : (updated.map (fun row => Containers.get row "id")).Nodup
  identified : ∀ row ∈ updated, (Containers.get row "id").isSome

structure ServerErrorItem where
  field : String
  message : String
  deriving DecidableEq, Repr

structure Payload (V : Type) where
  new : List (Row V)
  modified : List (Row V)
  deriving DecidableEq, Repr

/-- What the two documented kinds of server do with a request that they answer with conflicts. -/
inductive Contract
  | atomic
  | partly
  deriving DecidableEq, Repr

/-- A current value that the user took over, as shown. -/
structure Choice (V : Type) where
  id : V
  key : String
  value : V
  deriving DecidableEq, Repr

/-- `pending` is the request that the loading button waits for. From `applied` on it is
history: what the server has applied, the choices made and those made when the last
request was sent, whether a success has been reported and whether a payload was sent after it. -/
structure Modal (V : Type) where
  importResponse : Option (Option (List (Conflict V))) := none
  serverErrors : List ServerErrorItem := []
  tab : Option (Tab V) := none
  pending : Option (Payload V) := none
  applied : Payload V := ⟨[],[]⟩
  choices : List (Choice V) := []
  sentChoices : List (Choice V) := []
  succeeded : Bool := false
  resent : Bool := false
  deriving DecidableEq, Repr

namespace Modal

def resolvedData (modal : Modal V) : List (Row V) :=
  match modal.tab.bind Tab.handed with
  | some handed => handed.rows
  | none => []

def payload (changes : DiffResult V) (modal : Modal V) : Payload V where
  new := changes.created
  modified := if modal.resolvedData = [] then changes.updated else modal.resolvedData

def noConflicts : Option (List (Conflict V)) → Bool
  | none | some [] => true
  | _ => false

/-- An answer without `conflicts` leaves the button enabled: only a length of zero disables it. -/
def disabled (changes : DiffResult V) (modal : Modal V) : Prop :=
  modal.importResponse = some (some []) ∨ modal.serverErrors ≠ [] ∨
    (changes.updated = [] ∧ changes.created = [])

instance (changes : DiffResult V) (modal : Modal V) : Decidable (disabled changes modal) :=
  inferInstanceAs (Decidable (_ ∨ _ ∨ (_ ∧ _)))

def commit (changes : DiffResult V) (modal : Modal V) : Modal V :=
  { modal with
    serverErrors := []
    pending := some (modal.payload changes)
    sentChoices := modal.choices
    resent := modal.resent || modal.succeeded }

end Modal

/-- Of a request answered with conflicts nothing is applied, or every row without one. -/
def apply (contract : Contract) (applied payload : Payload V) (conflicts : Option (List (Conflict V))) : Payload V :=
  match conflicts with
  | none | some [] => ⟨applied.new ++ payload.new,applied.modified ++ payload.modified⟩
  | some conflicts =>
    match contract with
    | .atomic => applied
    | .partly => ⟨applied.new ++ payload.new,applied.modified ++ payload.modified.filter (fun row =>
        conflicts.all (fun conflict => Containers.get row "id" ≠ some conflict.id))⟩

/-- The tab keeps its state once it is mounted; conflicts bring it to the front. -/
def showConflicts (props : Props V) (tab : Option (Tab V)) (conflicts : Option (List (Conflict V))) : Option (Tab V) :=
  match tab with
  | some tab => some { tab with conflicts := conflicts }.effect
  | none => if Modal.noConflicts conflicts then none else some (Tab.mount props conflicts)

inductive ModalEvent (V : Type)
  | commit
  | respond (conflicts : Option (List (Conflict V)))
  | rejected (errors : List ServerErrorItem)
  | openConflicts
  | click (i j : Nat)

def respond (props : Props V) (contract : Contract) (modal : Modal V) (payload : Payload V)
    (conflicts : Option (List (Conflict V))) : Modal V :=
  { modal with
    importResponse := some conflicts
    tab := showConflicts props modal.tab conflicts
    pending := none
    applied := apply contract modal.applied payload conflicts
    succeeded := modal.succeeded || Modal.noConflicts conflicts }

def choice (props : Props V) (tab : Tab V) (i j : Nat) : Option (Choice V) := do
  let conflicts ← tab.conflicts
  let conflict ← conflicts[i]?
  let field ← conflict.fields[j]?
  some ⟨conflict.id,field.key,props.getRelationalData field.key field.currentValue⟩

def modalStep (props : Props V) (contract : Contract) (changes : DiffResult V) (modal : Modal V)
    (event : ModalEvent V) : Option (Modal V) :=
  if modal.tab.any Tab.thrown then none
  else
    match event with
    | .commit =>
      if modal.pending.isSome ∨ Modal.disabled changes modal then none else some (modal.commit changes)
    | .respond conflicts => modal.pending.map (fun payload => respond props contract modal payload conflicts)
    | .rejected errors => modal.pending.map (fun _ => { modal with pending := none, serverErrors := errors })
    | .openConflicts =>
      match modal.tab, modal.importResponse with
      | none, some conflicts =>
        if conflicts = some [] then none else some { modal with tab := some (Tab.mount props conflicts) }
      | _, _ => none
    | .click i j => do
      let tab ← modal.tab
      let chosen ← choice props tab i j
      let next ← tabStep props tab (.click i j)
      some { modal with tab := some next, choices := modal.choices ++ [chosen] }

def lastChoice (choices : List (Choice V)) (id : V) (key : String) : Option V :=
  ((choices.filter (fun choice => choice.id = id ∧ choice.key = key)).getLast?).map Choice.value

/-- What a changed field of an updated row is to become. -/
def expected (choices : List (Choice V)) (row : Row V) (key : String) (value : V) : V :=
  ((Containers.get row "id").bind (fun id => lastChoice choices id key)).getD value

def writesTo (rows : List (Row V)) (row : Row V) (key : String) : List V :=
  rows.filterMap (fun written =>
    if Containers.get written "id" = Containers.get row "id" then Containers.get written key else none)

/-- Every created row once, and every changed field of every updated row written once. -/
def Complete (changes : DiffResult V) (choices : List (Choice V)) (applied : Payload V) : Prop :=
  applied.new.Perm changes.created ∧
  ∀ row ∈ changes.updated, ∀ key value, key ≠ "id" → key ≠ "version" → Containers.get row key = some value →
    writesTo applied.modified row key = [expected choices row key value]

def AppliedOnce (changes : DiffResult V) (modal : Modal V) : Prop :=
  modal.resent = false ∧ (modal.succeeded = true → Complete changes modal.sentChoices modal.applied)

/-- Each conflict is another row's, and has all of its changed fields with the values that were to be written. -/
structure Listed (props : Props V) (changes : DiffResult V) (conflicts : List (Conflict V)) : Prop where
  distinct : (conflicts.map Conflict.id).Nodup
  fields : ∀ conflict ∈ conflicts, ∀ row ∈ changes.updated, Containers.get row "id" = some conflict.id →
    ∀ key value, key ≠ "id" → key ≠ "version" → Containers.get row key = some value →
      ∃ field ∈ conflict.fields, field.key = key ∧ props.getRelationalData key field.importedValue = value

/-- The conflicts of a request are of rows that were sent. A server that applies nothing of such a request names every
updated row; one that applies the rows without a conflict has nothing to create. -/
structure Covers (props : Props V) (contract : Contract) (changes : DiffResult V) (payload : Payload V)
    (conflicts : List (Conflict V)) : Prop extends Listed props changes conflicts where
  sent : ∀ conflict ∈ conflicts, ∃ row ∈ payload.modified, Containers.get row "id" = some conflict.id
  all : contract = .atomic → ∀ row ∈ changes.updated, ∃ conflict ∈ conflicts, Containers.get row "id" = some conflict.id
  created : contract = .partly → changes.created = []

/-- A response with conflicts covers the diff and repeats what `ConflictsTab` was mounted with; and Commit is not
clicked once a success has been reported. -/
def CommitsAll (props : Props V) (contract : Contract) (changes : DiffResult V) (modal : Modal V) :
    ModalEvent V → Prop
  | .commit => ∀ conflicts ∈ modal.importResponse, Modal.noConflicts conflicts = false
  | .respond (some (conflict :: conflicts)) =>
    (∀ payload ∈ modal.pending, Covers props contract changes payload (conflict :: conflicts)) ∧
    match modal.tab with
    | none => ∀ listed ∈ conflict :: conflicts, WellNamed listed
    | some tab => Repeating tab (.respond (some (conflict :: conflicts)))
  | .click i j => ∀ tab ∈ modal.tab, Repeating tab (.click i j)
  | _ => True

private theorem writesTo_unique (rows : List (Row V)) (row written : Row V) (key : String) (value : V)
    (distinct : (rows.map (fun row => Containers.get row "id")).Nodup) (member : written ∈ rows)
    (same : Containers.get written "id" = Containers.get row "id") (holds : Containers.get written key = some value) :
    writesTo rows row key = [value] := by
  induction rows with
  | nil => cases member
  | cons head rest ih =>
    obtain ⟨fresh,distinct⟩ := List.nodup_cons.mp distinct
    rcases List.mem_cons.mp member with rfl | member
    · have nothing : writesTo rest row key = [] := by
        apply List.filterMap_eq_nil_iff.mpr
        intro other inside
        rw [if_neg]
        exact fun again => fresh (List.mem_map.mpr ⟨other,inside,again.trans same.symm⟩)
      rw [writesTo,List.filterMap_cons,if_pos same,holds]
      exact congrArg (value :: ·) nothing
    · have apart : Containers.get head "id" ≠ Containers.get row "id" :=
        fun again => fresh (List.mem_map.mpr ⟨written,member,same.trans again.symm⟩)
      rw [writesTo,List.filterMap_cons,if_neg apart]
      exact ih distinct member

private theorem writesTo_append (applied rows : List (Row V)) (row : Row V) (key : String) :
    writesTo (applied ++ rows) row key = writesTo applied row key ++ writesTo rows row key :=
  List.filterMap_append

private theorem writesTo_nil (rows : List (Row V)) (row : Row V) (key : String)
    (apart : ∀ written ∈ rows, Containers.get written "id" ≠ Containers.get row "id") : writesTo rows row key = [] :=
  List.filterMap_eq_nil_iff.mpr (fun written member => if_neg (apart written member))

/-- What was applied and what is sent write each changed field of the updated rows once. -/
def Writes (changes : DiffResult V) (choices : List (Choice V)) (applied rows : List (Row V)) : Prop :=
  ∀ row ∈ changes.updated, ∀ key value, key ≠ "id" → key ≠ "version" → Containers.get row key = some value →
    writesTo (applied ++ rows) row key = [expected choices row key value]

/-- What was applied are the updated rows without a conflict. -/
structure Rest (changes : DiffResult V) (conflicts : List (Conflict V)) (applied : List (Row V)) : Prop where
  once : ∀ row ∈ changes.updated, (∀ conflict ∈ conflicts, Containers.get row "id" ≠ some conflict.id) →
    ∀ key value, Containers.get row key = some value → writesTo applied row key = [value]
  apart : ∀ written ∈ applied, ∀ conflict ∈ conflicts, Containers.get written "id" ≠ some conflict.id

private theorem expected_none (row : Row V) (key : String) (value : V) : expected [] row key value = value := by
  cases found : Containers.get row "id" with
  | none => simp [expected,found]
  | some id => simp [expected,found,lastChoice]

private theorem expected_other (choices : List (Choice V)) (row : Row V) (key : String) (value : V)
    (apart : ∀ choice ∈ choices, Containers.get row "id" ≠ some choice.id) :
      expected choices row key value = value := by
  cases found : Containers.get row "id" with
  | none => simp [expected,found]
  | some id =>
    have nothing : choices.filter (fun choice => choice.id = id ∧ choice.key = key) = [] := by
      apply List.filter_eq_nil_iff.mpr
      intro choice member both
      exact apart choice member (found.trans (congrArg some (of_decide_eq_true both).1.symm))
    rw [expected,found,Option.bind_some,lastChoice,nothing]
    rfl

private theorem updated_writes (changes : DiffResult V) : Writes changes [] [] changes.updated := by
  intro row member key value _ _ holds
  rw [expected_none]
  exact writesTo_unique _ row row key value changes.distinct member rfl holds

/-- What a server does of the first request, if it answers with conflicts. -/
theorem apply_first {props : Props V} {contract : Contract} {changes : DiffResult V} {payload : Payload V}
    (created : payload.new = changes.created) (modified : payload.modified = changes.updated)
    (conflict : Conflict V) (conflicts : List (Conflict V))
    (covers : Covers props contract changes payload (conflict :: conflicts)) :
    (apply contract ⟨[],[]⟩ payload (some (conflict :: conflicts))).new = [] ∧
      Rest changes (conflict :: conflicts)
        (apply contract ⟨[],[]⟩ payload (some (conflict :: conflicts))).modified := by
  cases contract with
  | atomic =>
    refine ⟨rfl,fun row member apart => ?_,fun written member => by cases member⟩
    obtain ⟨other,inside,id⟩ := covers.all rfl row member
    exact absurd id (apart other inside)
  | partly =>
    refine ⟨by simp [apply,created,covers.created rfl],fun row member apart key value holds => ?_,?_⟩
    · simp only [apply,modified,List.nil_append]
      refine writesTo_unique _ row row key value (changes.distinct.sublist (List.filter_sublist.map _)) ?_ rfl holds
      exact List.mem_filter.mpr ⟨member,List.all_eq_true.mpr (fun other inside => decide_eq_true (apart other inside))⟩
    · intro written member other inside
      simp only [apply,List.nil_append] at member
      exact of_decide_eq_true (List.all_eq_true.mp (List.mem_filter.mp member).2 other inside)

/-- What the state of the tab is while conflicts are shown: its rows are those handed over for
the latest response, and its clicks are the choices made. -/
structure Showing (props : Props V) (changes : DiffResult V) (choices : List (Choice V))
    (conflicts : List (Conflict V)) (tab : Tab V) : Prop where
  inv : TabInv props tab
  shown : tab.conflicts = some conflicts
  nonempty : conflicts ≠ []
  listed : Listed props changes conflicts
  ids : conflicts.map Conflict.id = tab.mounted.map Conflict.id
  handed : ∃ rows, tab.handed = some ⟨rows,conflicts,tab.clicked⟩ ∧ rows.length = conflicts.length
  made : ∀ choice ∈ choices, choice.id ∈ tab.mounted.map Conflict.id
  choices : ∀ i mounted, tab.mounted[i]? = some mounted → ∀ field ∈ mounted.fields,
    lastChoice choices mounted.id field.key =
      if (i,field.key) ∈ tab.clicked then some (props.getRelationalData field.key field.currentValue) else none

section
variable (props : Props V) (changes : DiffResult V)

variable {props changes}

theorem Showing.rows_ids {choices : List (Choice V)} {conflicts : List (Conflict V)} {tab : Tab V}
    (showing : Showing props changes choices conflicts tab) (rows : List (Row V))
    (handed : tab.handed = some ⟨rows,conflicts,tab.clicked⟩) (length : rows.length = conflicts.length) :
    rows.map (fun row => Containers.get row "id") = conflicts.map (fun conflict => some conflict.id) := by
  apply map_eq_map_of_each _ _ _ _ length
  intro i row at_i
  obtain ⟨conflict,standing,rowOf⟩ := showing.inv.handed _ handed i row at_i
  exact ⟨conflict,standing,rowOf.id⟩

theorem Showing.mounted_at {choices : List (Choice V)} {conflicts : List (Conflict V)} {tab : Tab V}
    (showing : Showing props changes choices conflicts tab) (i : Nat) (conflict : Conflict V)
    (standing : conflicts[i]? = some conflict) :
    ∃ mounted, tab.mounted[i]? = some mounted ∧ mounted.id = conflict.id ∧ Repeats tab.clicked i mounted conflict := by
  have same : (tab.mounted.map Conflict.id)[i]? = some conflict.id := by
    rw [← showing.ids,List.getElem?_map,standing]
    rfl
  rw [List.getElem?_map] at same
  obtain ⟨mounted,there,id⟩ := Option.map_eq_some_iff.mp same
  obtain ⟨later,found,repeats⟩ := showing.inv.latest conflicts showing.shown showing.nonempty i mounted there
  obtain rfl := Option.some.inj (standing.symm.trans found)
  exact ⟨mounted,there,id,repeats⟩

theorem Showing.expected_eq {choices : List (Choice V)} {conflicts : List (Conflict V)} {tab : Tab V}
    (showing : Showing props changes choices conflicts tab) (i : Nat) (conflict : Conflict V)
    (standing : conflicts[i]? = some conflict) (row : Row V) (id : Containers.get row "id" = some conflict.id)
    (field : ConflictField V) (member : field ∈ conflict.fields) (value : V)
    (imported : props.getRelationalData field.key field.importedValue = value) :
    expected choices row field.key value = props.getRelationalData field.key (chosen tab.clicked i field) := by
  obtain ⟨mounted,there,same,repeats⟩ := showing.mounted_at i conflict standing
  obtain ⟨old,inside,key,_,current⟩ := repeats.fields field member
  have last := showing.choices i mounted there old inside
  rw [same,key] at last
  rw [expected,id,Option.bind_some,last,chosen]
  split
  next clicked => rw [Option.getD_some,current clicked]
  next => rw [Option.getD_none,imported]

omit [DecidableEq V] in
private theorem some_ids (conflicts : List (Conflict V)) :
    conflicts.map (fun conflict => some conflict.id) = (conflicts.map Conflict.id).map some := by
  rw [List.map_map]
  rfl

theorem Rest.writesTo_nil {conflicts : List (Conflict V)} {applied : List (Row V)}
    (rest : Rest changes conflicts applied)
    (row : Row V) (key : String) (conflict : Conflict V) (inside : conflict ∈ conflicts)
    (id : Containers.get row "id" = some conflict.id) : writesTo applied row key = [] :=
  ChangesModal.writesTo_nil _ row key (fun written member same =>
    rest.apart written member conflict inside (same.trans id))

/-- A row that conflicts is written as handed over, one that does not has been written. -/
theorem Showing.writes {choices : List (Choice V)} {conflicts : List (Conflict V)} {tab : Tab V}
    {applied : List (Row V)}
    (showing : Showing props changes choices conflicts tab) (rest : Rest changes tab.mounted applied) :
    ∃ handed, tab.handed = some handed ∧ handed.rows ≠ [] ∧ Writes changes choices applied handed.rows ∧
      handed.rows.map (fun row => Containers.get row "id") = tab.mounted.map (fun conflict => some conflict.id) := by
  obtain ⟨rows,handed,length⟩ := showing.handed
  have ids := showing.rows_ids rows handed length
  have same : conflicts.map (fun conflict => some conflict.id) = tab.mounted.map (fun conflict =>
      some conflict.id) := by
    rw [some_ids,some_ids,showing.ids]
  refine ⟨_,handed,?_,?_,ids.trans same⟩
  · rintro rfl
    exact showing.nonempty (List.length_eq_zero_iff.mp length.symm)
  intro row member key value notId notVersion holds
  rw [writesTo_append]
  by_cases conflicting : ∃ conflict ∈ conflicts, Containers.get row "id" = some conflict.id
  · obtain ⟨conflict,inside,id⟩ := conflicting
    obtain ⟨i,standing⟩ := List.mem_iff_getElem?.mp inside
    obtain ⟨field,belongs,rfl,imported⟩ :=
      showing.listed.fields conflict inside row member id key value notId notVersion holds
    have bound : i < rows.length := by
      rw [length]
      exact (List.getElem?_eq_some_iff.mp standing).1
    obtain ⟨conflict',again,rowOf⟩ := showing.inv.handed _ handed i rows[i] (List.getElem?_eq_getElem bound)
    obtain rfl := Option.some.inj (standing.symm.trans again)
    obtain ⟨mounted,there,mountedId,_⟩ := showing.mounted_at i conflict standing
    rw [rest.writesTo_nil row field.key mounted (List.mem_of_getElem? there) (mountedId ▸ id),List.nil_append]
    rw [showing.expected_eq i conflict standing row id field belongs value imported]
    refine writesTo_unique rows row rows[i] field.key _ ?_ (List.getElem_mem bound) (rowOf.id.trans id.symm)
      (rowOf.values field belongs)
    rw [ids,some_ids]
    exact showing.listed.distinct.map (fun _ _ => Option.some.inj)
  · have apart (conflict : Conflict V) (inside : conflict ∈ tab.mounted) :
        Containers.get row "id" ≠ some conflict.id := by
      intro id
      have listed : conflict.id ∈ conflicts.map Conflict.id := by
        rw [showing.ids]
        exact List.mem_map_of_mem inside
      obtain ⟨other,belongs,equal⟩ := List.mem_map.mp listed
      exact conflicting ⟨other,belongs,equal ▸ id⟩
    have unsent : writesTo rows row key = [] := by
      refine writesTo_nil rows row key (fun written inside equal => ?_)
      have listed : Containers.get written "id" ∈ conflicts.map (fun conflict => some conflict.id) := by
        rw [← ids]
        exact List.mem_map_of_mem (f := fun row => Containers.get row "id") inside
      obtain ⟨other,belongs,id⟩ := List.mem_map.mp listed
      exact conflicting ⟨other,belongs,equal.symm.trans id.symm⟩
    have unchosen : expected choices row key value = value := by
      refine expected_other choices row key value (fun choice made id => ?_)
      obtain ⟨conflict,belongs,equal⟩ := List.mem_map.mp (showing.made choice made)
      exact apart conflict belongs (equal ▸ id)
    rw [unsent,unchosen,List.append_nil]
    exact rest.once row member apart key value holds

omit [DecidableEq V] in
/-- A response that repeats the mounted conflicts, and has no others, is as long. -/
theorem repeated_ids {later : List (Conflict V)} {tab : Tab V} (nonempty : later ≠ [])
    (distinct : (later.map Conflict.id).Nodup) (sent : ∀ conflict ∈ later, conflict.id ∈ tab.mounted.map Conflict.id)
    (repeating : Repeating tab (.respond (some later))) : later.map Conflict.id = tab.mounted.map Conflict.id := by
  have each (i : Nat) (old : Conflict V) (there : tab.mounted[i]? = some old) :
      ∃ conflict, later[i]? = some conflict ∧ conflict.id = old.id := by
    cases later with
    | nil => exact absurd rfl nonempty
    | cons conflict rest =>
      obtain ⟨conflict,standing,repeats⟩ := repeating i old there
      exact ⟨conflict,standing,repeats.id⟩
  have short : later.length ≤ tab.mounted.length := by
    simpa using distinct.length_le_of_subset (List.forall_mem_map.mpr sent)
  have long : tab.mounted.length ≤ later.length := by
    by_contra fewer
    have inside : later.length < tab.mounted.length := Nat.lt_of_not_le fewer
    obtain ⟨conflict,standing,_⟩ := each _ _ (List.getElem?_eq_getElem inside)
    simp at standing
  refine (map_eq_map_of_each _ _ _ _ (Nat.le_antisymm long short) (fun i old there => ?_)).symm
  obtain ⟨conflict,standing,same⟩ := each i old there
  exact ⟨conflict,standing,same.symm⟩

theorem Showing.respond {choices : List (Choice V)} {conflicts later : List (Conflict V)} {tab : Tab V}
    (showing : Showing props changes choices conflicts tab) (nonempty : later ≠ [])
    (listed : Listed props changes later)
    (ids : later.map Conflict.id = tab.mounted.map Conflict.id) (repeating : Repeating tab (.respond (some later))) :
    Showing props changes choices later { tab with conflicts := some later }.effect := by
  obtain ⟨shown,mounted,clicked,_⟩ := effect_frame { tab with conflicts := some later }
  have sizes : later.length = tab.mounted.length := by simpa using congrArg List.length ids
  refine ⟨inv_respond props tab showing.inv (some later) repeating,shown,nonempty,listed,?_,?_,?_,?_⟩
  · rw [mounted]
    exact ids
  · rw [clicked]
    exact effect_handed _ later rfl nonempty (by simpa [showing.inv.length] using sizes.symm)
  · rw [mounted]
    exact showing.made
  · rw [mounted,clicked]
    exact showing.choices

private theorem showing_mount (conflicts : List (Conflict V)) (nonempty : conflicts ≠ [])
    (listed : Listed props changes conflicts) (named : ∀ conflict ∈ conflicts, WellNamed conflict) :
    Showing props changes [] conflicts (Tab.mount props (some conflicts)) := by
  have frame := effect_frame (V := V) {
    conflicts := some conflicts, resolvedData := conflicts.map props.localRow, mounted := conflicts }
  obtain ⟨shown,mounted,clicked,_⟩ := frame
  refine ⟨inv_mount props (some conflicts) named,shown,nonempty,listed,?_,?_,fun _ made => (by cases made),?_⟩
  · exact congrArg (List.map Conflict.id) mounted.symm
  · have handed := effect_handed (V := V) {
      conflicts := some conflicts, resolvedData := conflicts.map props.localRow, mounted := conflicts }
      conflicts rfl nonempty (by simp)
    simpa [Tab.mount,clicked] using handed
  · intro i old _ field _
    have none : (Tab.mount props (some conflicts)).clicked = [] := clicked
    simp [none,lastChoice]

private theorem lastChoice_same (choices : List (Choice V)) (chosen : Choice V) :
    lastChoice (choices ++ [chosen]) chosen.id chosen.key = some chosen.value := by
  simp [lastChoice]

private theorem lastChoice_other (choices : List (Choice V)) (chosen : Choice V) (id : V) (key : String)
    (apart : ¬ (chosen.id = id ∧ chosen.key = key)) :
    lastChoice (choices ++ [chosen]) id key = lastChoice choices id key := by
  simp [lastChoice,apart]

omit [DecidableEq V] in
private theorem choice_some (tab : Tab V) (i j : Nat) (made : Choice V) (chosen : choice props tab i j = some made) :
    ∃ conflicts conflict field, tab.conflicts = some conflicts ∧ conflicts[i]? = some conflict ∧
      conflict.fields[j]? = some field ∧
      made = ⟨conflict.id,field.key,props.getRelationalData field.key field.currentValue⟩ := by
  simp only [choice,Option.bind_eq_bind,Option.bind_eq_some_iff] at chosen
  obtain ⟨conflicts,shown,conflict,standing,field,found,made⟩ := chosen
  exact ⟨conflicts,conflict,field,shown,standing,found,(Option.some.inj made).symm⟩

omit [DecidableEq V] in
private theorem clicked_tab (tab next : Tab V) (inv : TabInv props tab) (i j : Nat) (field : ConflictField V)
    (found : tab.rendered i j = some field) (repeating : Repeating tab (.click i j))
    (taken : tabStep props tab (.click i j) = some next) :
    ∃ rows, next = Tab.effect { tab with resolvedData := rows, clicked := tab.clicked ++ [(i,field.key)] } ∧
      rows.length = tab.resolvedData.length := by
  rw [tabStep.eq_def,if_neg (by simp [inv.alive])] at taken
  simp only [found,Option.map_some,Option.some.injEq] at taken
  obtain ⟨mounted,there,_⟩ := repeating field found
  have bound : i < tab.resolvedData.length := by
    rw [inv.length]
    exact (List.getElem?_eq_some_iff.mp there).1
  rw [Tab.applyCurrentValue,List.getElem?_eq_getElem bound] at taken
  exact ⟨_,taken.symm,by simp⟩

omit [DecidableEq V] in
private theorem tabStep_mounted (tab : Tab V) (event : TabEvent V) (next : Tab V)
    (taken : tabStep props tab event = some next) :
    next.mounted = tab.mounted := by
  rw [tabStep.eq_def,Option.ite_none_left_eq_some] at taken
  obtain ⟨_,taken⟩ := taken
  cases event with
  | respond conflicts =>
    obtain rfl := Option.some.inj taken
    exact (effect_frame { tab with conflicts := conflicts }).2.1
  | click i j =>
    obtain ⟨field,_,rfl⟩ := Option.map_eq_some_iff.mp taken
    rw [Tab.applyCurrentValue]
    split
    next => rfl
    next row _ =>
      exact (effect_frame { tab with
        resolvedData := tab.resolvedData.set i
          (set row field.key ((Containers.get row (getCurrentKey field.key)).getD props.undefined))
        clicked := tab.clicked ++ [(i,field.key)] }).2.1

theorem Showing.click {choices : List (Choice V)} {conflicts : List (Conflict V)} {tab next : Tab V}
    (showing : Showing props changes choices conflicts tab) (i j : Nat) (made : Choice V)
    (chosen : choice props tab i j = some made) (repeating : Repeating tab (.click i j))
    (taken : tabStep props tab (.click i j) = some next) :
    Showing props changes (choices ++ [made]) conflicts next := by
  obtain ⟨shown,conflict,field,same,standing,listed,rfl⟩ := choice_some tab i j made chosen
  obtain rfl := Option.some.inj (showing.shown.symm.trans same)
  have found : tab.rendered i j = some field := by
    simp [Tab.rendered,same,standing,listed]
  have inv := inv_tabStep props tab (.click i j) next showing.inv repeating taken
  obtain ⟨rows,rfl,length⟩ := clicked_tab tab next showing.inv i j field found repeating taken
  obtain ⟨there,mounted,clicked,_⟩ :=
    effect_frame { tab with resolvedData := rows, clicked := tab.clicked ++ [(i,field.key)] }
  have sizes := congrArg List.length showing.ids
  simp only [List.length_map] at sizes
  refine ⟨inv,there.trans showing.shown,showing.nonempty,showing.listed,?_,?_,?_,?_⟩
  · rw [mounted]
    exact showing.ids
  · rw [clicked]
    exact effect_handed _ conflicts showing.shown showing.nonempty
      (by simpa [showing.inv.length,← sizes] using length)
  · rw [mounted]
    intro choice member
    obtain old | new := List.mem_append.mp member
    · exact showing.made choice old
    · rw [List.mem_singleton.mp new]
      dsimp only
      rw [← showing.ids]
      exact List.mem_map_of_mem (List.mem_of_getElem? standing)
  · rw [mounted,clicked]
    intro k other at_k kept inside
    obtain ⟨old,at_i,id,repeats⟩ := showing.mounted_at i conflict standing
    obtain ⟨mounted',at_i',source,belongs,key,value⟩ := repeating field found
    obtain rfl := Option.some.inj (at_i.symm.trans at_i')
    by_cases same : k = i
    · subst same
      obtain rfl := Option.some.inj (at_i.symm.trans at_k)
      by_cases sameKey : kept.key = field.key
      · have equal := List.inj_on_of_nodup_map (showing.inv.named _ (List.mem_of_getElem? at_i)).distinct
          inside belongs (sameKey.trans key.symm)
        rw [equal,id,key,lastChoice_same choices ⟨_,_,_⟩,if_pos (by simp),value]
      · rw [lastChoice_other _ _ _ _ (fun equal => sameKey equal.2.symm),showing.choices k old at_k kept inside]
        congr 1
        simp [sameKey]
    · have apart : conflict.id ≠ other.id := by
        intro equal
        have distinct : (tab.mounted.map Conflict.id).Nodup := by
          rw [← showing.ids]
          exact showing.listed.distinct
        have left : (tab.mounted.map Conflict.id)[k]? = some other.id := by simp [at_k]
        have right : (tab.mounted.map Conflict.id)[i]? = some other.id := by simp [at_i,id,equal]
        exact same ((List.getElem?_inj (List.getElem?_eq_some_iff.mp left).1 distinct).mp (left.trans right.symm))
      rw [lastChoice_other _ _ _ _ (fun equal => apart equal.1),showing.choices k other at_k kept inside]
      congr 1
      simp [same]

/-- Before a success: no row is created, and what is sent or would be sent writes what has not been written. -/
structure Open (props : Props V) (changes : DiffResult V) (modal : Modal V) : Prop where
  unsent : modal.resent = false
  unreported : modal.succeeded = false
  uncreated : modal.applied.new = []
  pending : ∀ payload ∈ modal.pending, payload.new = changes.created ∧
    Writes changes modal.sentChoices modal.applied.modified payload.modified
  tab : (modal.tab = none ∧ modal.importResponse = none ∧ modal.choices = [] ∧ modal.applied.modified = [] ∧
      ∀ payload ∈ modal.pending, payload.modified = changes.updated) ∨
    ∃ tab conflicts, modal.tab = some tab ∧ modal.importResponse = some (some conflicts) ∧
      Showing props changes modal.choices conflicts tab ∧ Rest changes tab.mounted modal.applied.modified ∧
      ∀ payload ∈ modal.pending, payload.modified.map (fun row => Containers.get row "id") =
        tab.mounted.map (fun conflict => some conflict.id)

/-- After a success, Commit is not clicked again. -/
structure Closed (changes : DiffResult V) (modal : Modal V) : Prop where
  unsent : modal.resent = false
  reported : ∃ conflicts, modal.importResponse = some conflicts ∧ Modal.noConflicts conflicts = true
  idle : modal.pending = none
  complete : Complete changes modal.sentChoices modal.applied

variable {contract : Contract}

private theorem open_initial : Open props changes {} where
  unsent := rfl
  unreported := rfl
  uncreated := rfl
  pending _ sent := by cases sent
  tab := Or.inl ⟨rfl,rfl,rfl,rfl,fun _ sent => by cases sent⟩

theorem Open.commit {modal : Modal V} (state : Open props changes modal) :
    Open props changes (modal.commit changes) := by
  have unsent : (modal.commit changes).resent = false := by simp [Modal.commit,state.unsent,state.unreported]
  rcases state.tab with ⟨tab,response,choices,applied,_⟩ | ⟨tab,conflicts,mounted,response,showing,rest,_⟩
  · have unchanged : (modal.payload changes).modified = changes.updated := by
      simp [Modal.payload,Modal.resolvedData,tab]
    refine ⟨unsent,state.unreported,state.uncreated,?_,Or.inl ⟨tab,response,choices,applied,?_⟩⟩
    · rintro _ ⟨⟩
      refine ⟨rfl,?_⟩
      simp only [Modal.commit,unchanged,choices,applied]
      exact updated_writes changes
    · rintro _ ⟨⟩
      exact unchanged
  · obtain ⟨handed,given,nonempty,writes,ids⟩ := showing.writes rest
    have resolved : (modal.payload changes).modified = handed.rows := by
      simp [Modal.payload,Modal.resolvedData,mounted,given,nonempty]
    refine ⟨unsent,state.unreported,state.uncreated,?_,Or.inr ⟨tab,conflicts,mounted,response,showing,rest,?_⟩⟩
    · rintro _ ⟨⟩
      refine ⟨rfl,?_⟩
      rw [resolved]
      exact writes
    · rintro _ ⟨⟩
      rw [resolved]
      exact ids

theorem Open.rejected {modal : Modal V} (state : Open props changes modal) (errors : List ServerErrorItem) :
    Open props changes { modal with pending := none, serverErrors := errors } where
  unsent := state.unsent
  unreported := state.unreported
  uncreated := state.uncreated
  pending _ sent := by cases sent
  tab := by
    rcases state.tab with ⟨tab,response,choices,applied,_⟩ | ⟨tab,conflicts,mounted,response,showing,rest,_⟩
    · exact Or.inl ⟨tab,response,choices,applied,fun _ sent => by cases sent⟩
    · exact Or.inr ⟨tab,conflicts,mounted,response,showing,rest,fun _ sent => by cases sent⟩

/-- A request all of whose rows conflict, and which creates nothing if it may be applied in
part, leaves nothing behind. -/
theorem apply_conflicts (applied : Payload V) {payload : Payload V} (created : payload.new = changes.created)
    (conflict : Conflict V) (conflicts : List (Conflict V))
    (covers : Covers props contract changes payload (conflict :: conflicts))
    (every : ∀ row ∈ payload.modified, ∃ other ∈ conflict :: conflicts, Containers.get row "id" = some other.id) :
    apply contract applied payload (some (conflict :: conflicts)) = applied := by
  cases contract with
  | atomic => rfl
  | partly =>
    have nothing : payload.modified.filter (fun row =>
        (conflict :: conflicts).all (fun conflict => Containers.get row "id" ≠ some conflict.id)) = [] := by
      apply List.filter_eq_nil_iff.mpr
      intro row member
      obtain ⟨other,belongs,id⟩ := every row member
      simp only [List.all_eq_true,not_forall]
      exact ⟨other,belongs,by simp [id]⟩
    simp only [apply,created,covers.created rfl,List.append_nil,nothing]

/-- The first response with conflicts mounts the tab; a later one repeats those it was mounted with. -/
theorem Open.conflicts {modal : Modal V} (state : Open props changes modal) (payload : Payload V)
    (sent : modal.pending = some payload) (conflict : Conflict V) (rest : List (Conflict V))
    (commits : CommitsAll props contract changes modal (.respond (some (conflict :: rest)))) :
    Open props changes (respond props contract modal payload (some (conflict :: rest))) := by
  obtain ⟨reported,named⟩ := commits
  have covers := reported payload sent
  have created := (state.pending payload sent).1
  have unreported : (respond props contract modal payload (some (conflict :: rest))).succeeded = false := by
    simp [respond,state.unreported,Modal.noConflicts]
  rcases state.tab with ⟨tab,_,choices,applied,first⟩ | ⟨tab,shown,mounted,_,showing,left,ids⟩
  · have untouched : modal.applied = ⟨[],[]⟩ :=
      calc modal.applied
        _ = ⟨modal.applied.new,modal.applied.modified⟩ := rfl
        _ = ⟨[],[]⟩ := by rw [state.uncreated,applied]
    obtain ⟨nothing,left⟩ := apply_first created (first payload sent) conflict rest covers
    rw [← untouched] at nothing left
    rw [tab] at named
    refine ⟨state.unsent,unreported,nothing,by rintro _ ⟨⟩,
      Or.inr ⟨Tab.mount props (some (conflict :: rest)),conflict :: rest,?_,rfl,?_,?_,by rintro _ ⟨⟩⟩⟩
    · simp [respond,showConflicts,tab,Modal.noConflicts]
    · simp only [respond,choices]
      exact showing_mount (conflict :: rest) (List.cons_ne_nil _ _) covers.toListed named
    · rw [Tab.mount,(effect_frame _).2.1]
      exact left
  · rw [mounted] at named
    have inside : ∀ other ∈ conflict :: rest, other.id ∈ tab.mounted.map Conflict.id := by
      intro other belongs
      obtain ⟨row,member,id⟩ := covers.sent other belongs
      have listed : some other.id ∈ tab.mounted.map (fun conflict => some conflict.id) := by
        rw [← ids payload sent,← id]
        exact List.mem_map_of_mem (f := fun row => Containers.get row "id") member
      simpa using listed
    have same := repeated_ids (List.cons_ne_nil _ _) covers.distinct inside named
    have every : ∀ row ∈ payload.modified, ∃ other ∈ conflict :: rest, Containers.get row "id" = some other.id := by
      intro row member
      have listed : Containers.get row "id" ∈ (conflict :: rest).map (fun conflict => some conflict.id) := by
        rw [some_ids,same,← some_ids,← ids payload sent]
        exact List.mem_map_of_mem (f := fun row => Containers.get row "id") member
      obtain ⟨other,belongs,id⟩ := List.mem_map.mp listed
      exact ⟨other,belongs,id.symm⟩
    have unapplied := apply_conflicts modal.applied created conflict rest covers every
    refine ⟨state.unsent,unreported,?_,by rintro _ ⟨⟩,
      Or.inr ⟨{ tab with conflicts := some (conflict :: rest) }.effect,conflict :: rest,?_,rfl,?_,?_,by rintro _ ⟨⟩⟩⟩
    · simp only [respond,unapplied]
      exact state.uncreated
    · simp [respond,showConflicts,mounted]
    · exact showing.respond (List.cons_ne_nil _ _) covers.toListed same named
    · simp only [respond,unapplied]
      rw [(effect_frame { tab with conflicts := some (conflict :: rest) }).2.1]
      exact left

theorem Open.success {modal : Modal V} (state : Open props changes modal) (payload : Payload V)
    (sent : modal.pending = some payload) (conflicts : Option (List (Conflict V)))
    (none : Modal.noConflicts conflicts = true) : Closed changes (respond props contract modal payload conflicts) := by
  obtain ⟨created,writes⟩ := state.pending payload sent
  have applied : apply contract modal.applied payload conflicts =
      ⟨modal.applied.new ++ payload.new,modal.applied.modified ++ payload.modified⟩ := by
    match conflicts,none with
    | Option.none,_ => rfl
    | some [],_ => rfl
  refine ⟨state.unsent,⟨conflicts,rfl,none⟩,rfl,?_⟩
  simp only [respond,applied,state.uncreated,List.nil_append]
  exact ⟨List.Perm.of_eq created,writes⟩

theorem Open.click {modal : Modal V} (state : Open props changes modal) (i j : Nat) (tab next : Tab V)
    (mounted : modal.tab = some tab) (made : Choice V) (chosen : choice props tab i j = some made)
    (repeating : Repeating tab (.click i j)) (taken : tabStep props tab (.click i j) = some next) :
    Open props changes { modal with tab := some next, choices := modal.choices ++ [made] } := by
  rcases state.tab with ⟨absent,_⟩ | ⟨tab',conflicts,there,response,showing,rest,ids⟩
  · rw [absent] at mounted
    cases mounted
  · obtain rfl := Option.some.inj (mounted.symm.trans there)
    have same : next.mounted = tab.mounted := tabStep_mounted tab (.click i j) next taken
    refine { state with tab := Or.inr ⟨next,conflicts,rfl,response,?_,same ▸ rest,same ▸ ids⟩ }
    exact showing.click i j made chosen repeating taken

private theorem open_step (modal next : Modal V) (event : ModalEvent V) (state : Open props changes modal)
    (commits : CommitsAll props contract changes modal event)
    (taken : modalStep props contract changes modal event = some next) :
    Open props changes next ∨ Closed changes next := by
  rw [modalStep.eq_def,Option.ite_none_left_eq_some] at taken
  obtain ⟨_,taken⟩ := taken
  cases event with
  | commit =>
    simp only [Option.ite_none_left_eq_some,Option.some.injEq] at taken
    obtain ⟨_,rfl⟩ := taken
    exact Or.inl state.commit
  | respond conflicts =>
    obtain ⟨payload,sent,rfl⟩ := Option.map_eq_some_iff.mp taken
    match conflicts with
    | none => exact Or.inr (state.success payload sent none rfl)
    | some [] => exact Or.inr (state.success payload sent (some []) rfl)
    | some (conflict :: rest) => exact Or.inl (state.conflicts payload sent conflict rest commits)
  | rejected errors =>
    obtain ⟨_,_,rfl⟩ := Option.map_eq_some_iff.mp taken
    exact Or.inl (state.rejected errors)
  | openConflicts =>
    rcases state.tab with ⟨tab,response,_⟩ | ⟨tab,conflicts,mounted,response,_⟩
    · simp [tab,response] at taken
    · simp [mounted] at taken
  | click i j =>
    simp only [Option.bind_eq_bind,Option.bind_eq_some_iff,Option.some.injEq] at taken
    obtain ⟨tab,mounted,made,chosen,moved,clicked,rfl⟩ := taken
    exact Or.inl (state.click i j tab moved mounted made chosen (commits tab mounted) clicked)

private theorem closed_step (modal next : Modal V) (event : ModalEvent V) (state : Closed changes modal)
    (commits : CommitsAll props contract changes modal event)
    (taken : modalStep props contract changes modal event = some next) : Closed changes next := by
  rw [modalStep.eq_def,Option.ite_none_left_eq_some] at taken
  obtain ⟨_,taken⟩ := taken
  cases event with
  | commit =>
    obtain ⟨conflicts,response,none⟩ := state.reported
    rw [commits conflicts response] at none
    cases none
  | respond conflicts =>
    obtain ⟨payload,sent,_⟩ := Option.map_eq_some_iff.mp taken
    rw [state.idle] at sent
    cases sent
  | rejected errors =>
    obtain ⟨payload,sent,_⟩ := Option.map_eq_some_iff.mp taken
    rw [state.idle] at sent
    cases sent
  | openConflicts =>
    dsimp only at taken
    split at taken
    next conflicts tab response =>
      obtain ⟨_,equal⟩ := Option.ite_none_left_eq_some.mp taken
      obtain rfl := Option.some.inj equal
      exact { state with }
    next => cases taken
  | click i j =>
    simp only [Option.bind_eq_bind,Option.bind_eq_some_iff,Option.some.injEq] at taken
    obtain ⟨_,_,_,_,_,_,rfl⟩ := taken
    exact { state with }

end

/-- In every run whose steps meet the condition, an import that is reported applied has been
applied completely and once, and is not sent again. -/
theorem import_applied_once (props : Props V) (contract : Contract) (changes : DiffResult V)
    (events : List (ModalEvent V))
    (commits : Meets (modalStep props contract changes) (CommitsAll props contract changes) {} events) :
    Always (modalStep props contract changes) (AppliedOnce changes) {} events := by
  have always := always_of_meets (fun modal => Open props changes modal ∨ Closed changes modal)
    (CommitsAll props contract changes) ?_ {} events (Or.inl open_initial) commits
  · apply always.imp
    rintro modal (state | state)
    · exact ⟨state.unsent,fun reported => absurd reported (by simp [state.unreported])⟩
    · exact ⟨state.unsent,fun _ => state.complete⟩
  · rintro modal event next (state | state) commits taken
    · exact open_step modal next event state commits taken
    · exact Or.inr (closed_step modal next event state commits taken)

def twoRenames : DiffResult Nat :=
  ⟨[],[[("id",1),("version",4),("name",20)],[("id",2),("version",7),("name",21)]],by decide,by decide⟩

private theorem nameConflict_covers :
    Covers plainProps .partly twoRenames ⟨[],twoRenames.updated⟩ [nameConflict 1 5 10 20] where
  distinct := List.nodup_singleton _
  fields := by
    intro conflict member row updated id key value notId notVersion holds
    obtain rfl := List.mem_singleton.mp member
    have first : row = [("id",1),("version",4),("name",20)] := by
      rcases List.mem_cons.mp updated with rfl | second
      · rfl
      · rw [List.mem_singleton.mp second] at id
        cases id
    subst first
    have named : key = "name" := by
      by_contra other
      simp [Containers.get,Ne.symm notId,Ne.symm notVersion,Ne.symm other] at holds
    subst named
    exact ⟨_,List.mem_singleton_self _,rfl,Option.some.inj holds⟩
  sent := by
    intro conflict member
    obtain rfl := List.mem_singleton.mp member
    exact ⟨_,List.mem_cons_self,rfl⟩
  all := by rintro ⟨⟩
  created _ := rfl

def resolveThenCommit : List (ModalEvent Nat) :=
  [.commit,.respond (some [nameConflict 1 5 10 20]),.click 0 0,.commit,.respond (some [])]

/-- The server renames the second row at once and the first one after the choice. -/
theorem resolved_import_applied :
    (run (modalStep plainProps .partly twoRenames) {} resolveThenCommit).map Modal.applied =
        some ⟨[],[[("id",2),("version",7),("name",21)],[("id",1),("name",10),("version",5)]]⟩ ∧
      Always (modalStep plainProps .partly twoRenames) (AppliedOnce twoRenames) {} resolveThenCommit := by
  refine ⟨by decide,?_⟩
  apply import_applied_once
  intro first taken
  obtain rfl := Option.some.inj taken
  refine ⟨by rintro conflicts ⟨⟩,?_⟩
  intro second taken
  obtain rfl := Option.some.inj taken
  refine ⟨⟨?_,?_⟩,?_⟩
  · rintro payload ⟨⟩
    exact nameConflict_covers
  · intro listed member
    obtain rfl := List.mem_singleton.mp member
    exact ⟨List.nodup_singleton _,by decide⟩
  intro third taken
  obtain rfl := Option.some.inj taken
  refine ⟨?_,?_⟩
  · rintro tab ⟨⟩ field ⟨⟩
    exact ⟨_,rfl,_,List.mem_singleton_self _,rfl,rfl⟩
  intro fourth taken
  obtain rfl := Option.some.inj taken
  refine ⟨by rintro conflicts ⟨⟩; rfl,?_⟩
  intro fifth taken
  obtain rfl := Option.some.inj taken
  exact ⟨trivial,trivial⟩

def twoRows : DiffResult Nat :=
  ⟨[[("name",30)]],[[("id",1),("version",4),("name",20)],[("id",2),("version",7),("name",21)]],by decide,by decide⟩

def commitAgain : List (ModalEvent Nat) :=
  [.commit,.respond (some [nameConflict 1 5 10 20]),.commit,.respond (some [])]

/-- The second row is not sent again, the created row is, and an answer without `conflicts`
leaves the button enabled. -/
theorem retry_drops_and_repeats :
    (∃ modal, run (modalStep plainProps .atomic twoRows) {} commitAgain = some modal ∧ ¬ AppliedOnce twoRows modal) ∧
    (∃ modal, run (modalStep plainProps .partly twoRows) {} commitAgain = some modal ∧ ¬ AppliedOnce twoRows modal) ∧
    ∃ modal, run (modalStep plainProps .atomic twoRows) {} [.commit,.respond none,.commit] = some modal ∧
      ¬ AppliedOnce twoRows modal := by
  refine ⟨⟨_,rfl,fun applied => ?_⟩,⟨_,rfl,fun applied => ?_⟩,⟨_,rfl,fun applied => ?_⟩⟩
  · have second := (applied.2 rfl).2 _ (List.mem_cons_of_mem _ List.mem_cons_self) "name" 21 (by decide) (by decide) rfl
    revert second
    decide
  · have created := (applied.2 rfl).1.length_eq
    revert created
    decide
  · have unsent := applied.1
    revert unsent
    decide

end BoarPack.ChangesModal
