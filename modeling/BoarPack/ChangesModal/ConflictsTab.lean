import BoarPack.Common
import BoarPack.Library.Containers
import BoarPack.Library.Transition
import Mathlib.Data.List.Nodup

/-! `ConflictsTab`: the rows it keeps from the response it was mounted with, and what it
hands to `setResolvedData`, by index, for the latest response. -/
namespace BoarPack.ChangesModal
open Transition Containers

variable {V : Type}

/-- Keys of an object other than `__proto__`. -/
abbrev Row (V : Type) := List (String × V)

structure ConflictField (V : Type) where
  field : String
  currentValue : V
  importedValue : V
  deriving DecidableEq, Repr

structure Conflict (V : Type) where
  id : V
  version : V
  fields : List (ConflictField V)
  deriving DecidableEq, Repr

def getCurrentKey (field : String) : String := field ++ "-current"

def isCurrentKey (key : String) : Bool := "-current".toList.isSuffixOf key.toList

def getNormalizedKey (field : String) : String := String.ofList (withoutId field.toList)

def ConflictField.key (field : ConflictField V) : String := getNormalizedKey field.field

/-- A relational field with its `data[value] ?? null`. -/
structure Props (V : Type) where
  relationalFields : String → Option (V → V)
  undefined : V

namespace Props
variable (props : Props V)

def getRelationalData (key : String) (value : V) : V :=
  match props.relationalFields key with
  | some data => data value
  | none => value

def addField (acc : Row V) (field : ConflictField V) : Row V :=
  set (set acc field.key (props.getRelationalData field.key field.importedValue))
    (getCurrentKey field.key) (props.getRelationalData field.key field.currentValue)

def localRow (conflict : Conflict V) : Row V := conflict.fields.foldl props.addField []

end Props

def resolvedRow (conflict : Conflict V) (row : Row V) : Row V :=
  set (assign [("id",conflict.id)] (row.filter (fun entry => ! isCurrentKey entry.1))) "version" conflict.version

/-- `conflicts[i].id` throws where there is no such conflict. -/
def payload : List (Row V) → List (Conflict V) → Option (List (Row V))
  | [], _ => some []
  | _ :: _, [] => none
  | row :: rows, conflict :: conflicts => (payload rows conflicts).map (fun rest => resolvedRow conflict row :: rest)

/-- A call of `setResolvedData`, with the response and the clicks up to then as history. -/
structure Handed (V : Type) where
  rows : List (Row V)
  response : List (Conflict V)
  clicked : List (Nat × String)
  deriving DecidableEq, Repr

/-- `mounted`, the conflicts from which the state was initialised, and `clicked` are history. -/
structure Tab (V : Type) where
  conflicts : Option (List (Conflict V))
  resolvedData : List (Row V)
  handed : Option (Handed V) := none
  thrown : Bool := false
  mounted : List (Conflict V)
  clicked : List (Nat × String) := []
  deriving DecidableEq, Repr

namespace Tab

def effect (tab : Tab V) : Tab V :=
  match tab.conflicts with
  | none | some [] => tab
  | some conflicts =>
    match payload tab.resolvedData conflicts with
    | some rows => { tab with handed := some ⟨rows,conflicts,tab.clicked⟩ }
    | none => { tab with thrown := true }

def mount (props : Props V) (conflicts : Option (List (Conflict V))) : Tab V :=
  effect { conflicts, resolvedData := (conflicts.getD []).map props.localRow, mounted := conflicts.getD [] }

def rendered (tab : Tab V) (i j : Nat) : Option (ConflictField V) := do
  let conflicts ← tab.conflicts
  let conflict ← conflicts[i]?
  conflict.fields[j]?

/-- `newData[index]` is undefined where the rows are fewer than the conflicts. -/
def applyCurrentValue (props : Props V) (tab : Tab V) (i : Nat) (field : ConflictField V) : Tab V :=
  match tab.resolvedData[i]? with
  | none => { tab with thrown := true }
  | some row =>
    let current := (Containers.get row (getCurrentKey field.key)).getD props.undefined
    effect { tab with
      resolvedData := tab.resolvedData.set i (set row field.key current)
      clicked := tab.clicked ++ [(i,field.key)] }

end Tab

inductive TabEvent (V : Type)
  | respond (conflicts : Option (List (Conflict V)))
  | click (i j : Nat)

/-- What throws in a render or an effect unmounts the tree. -/
def tabStep (props : Props V) (tab : Tab V) (event : TabEvent V) : Option (Tab V) :=
  if tab.thrown then none
  else
    match event with
    | .respond conflicts => some { tab with conflicts := conflicts }.effect
    | .click i j => (tab.rendered i j).map (tab.applyCurrentValue props i)

/-- What the user has chosen for a field of the conflict at index `i`. -/
def chosen (clicked : List (Nat × String)) (i : Nat) (field : ConflictField V) : V :=
  if (i,field.key) ∈ clicked then field.currentValue else field.importedValue

structure RowOf (props : Props V) (clicked : List (Nat × String)) (i : Nat) (conflict : Conflict V)
    (row : Row V) : Prop where
  id : Containers.get row "id" = some conflict.id
  version : Containers.get row "version" = some conflict.version
  names : ∀ key, (Containers.get row key).isSome ↔
    key = "id" ∨ key = "version" ∨ ∃ field ∈ conflict.fields, key = field.key
  values : ∀ field ∈ conflict.fields,
    Containers.get row field.key = some (props.getRelationalData field.key (chosen clicked i field))

/-- Each row handed over is that of the conflict at its index, and nothing has thrown. -/
def Aligned (props : Props V) (tab : Tab V) : Prop :=
  tab.thrown = false ∧ ∀ handed ∈ tab.handed, ∀ i row, handed.rows[i]? = some row →
    ∃ conflict, handed.response[i]? = some conflict ∧ RowOf props handed.clicked i conflict row

/-- The normalized names of a conflict are apart from each other and from the other keys of a row. -/
structure WellNamed (conflict : Conflict V) : Prop where
  distinct : (conflict.fields.map ConflictField.key).Nodup
  plain : ∀ field ∈ conflict.fields,
    isCurrentKey field.key = false ∧ field.key ≠ "id" ∧ field.key ≠ "version"

/-- The conflict repeats the one that was mounted: the same row, the same fields and imported
values, and the same current value where it was clicked. -/
structure Repeats (clicked : List (Nat × String)) (i : Nat) (mounted conflict : Conflict V) : Prop where
  id : conflict.id = mounted.id
  distinct : (conflict.fields.map ConflictField.key).Nodup
  fields : ∀ field ∈ conflict.fields, ∃ old ∈ mounted.fields, old.key = field.key ∧
    old.importedValue = field.importedValue ∧ ((i,field.key) ∈ clicked → old.currentValue = field.currentValue)
  all : ∀ old ∈ mounted.fields, ∃ field ∈ conflict.fields, field.key = old.key

/-- A later response repeats the mounted conflicts, each at its index; a click is on one of
them, with the current value it had. -/
def Repeating (tab : Tab V) : TabEvent V → Prop
  | .respond (some (conflict :: conflicts)) => ∀ i mounted, tab.mounted[i]? = some mounted →
      ∃ later, (conflict :: conflicts)[i]? = some later ∧ Repeats tab.clicked i mounted later
  | .respond _ => True
  | .click i j => ∀ field ∈ tab.rendered i j, ∃ mounted, tab.mounted[i]? = some mounted ∧
      ∃ old ∈ mounted.fields, old.key = field.key ∧ old.currentValue = field.currentValue

private theorem isCurrentKey_current (key : String) : isCurrentKey (getCurrentKey key) = true := by
  simp [isCurrentKey,getCurrentKey]

private theorem current_injective {key other : String} (same : getCurrentKey key = getCurrentKey other) :
    key = other := by
  have chars := congrArg String.toList same
  simp only [getCurrentKey,String.toList_append] at chars
  exact String.toList_inj.mp (List.append_cancel_right chars)

private theorem apart_of_plain {key other : String} (plain : isCurrentKey key = false) : key ≠ getCurrentKey other := by
  rintro rfl
  rw [isCurrentKey_current] at plain
  cases plain

/-- The row kept for a mounted conflict, after the clicks so far. -/
structure LocalOf (props : Props V) (clicked : List (Nat × String)) (i : Nat) (mounted : Conflict V)
    (row : Row V) : Prop where
  distinct : (row.map Prod.fst).Nodup
  names : ∀ key, isCurrentKey key = false →
    ((Containers.get row key).isSome ↔ ∃ field ∈ mounted.fields, key = field.key)
  values : ∀ field ∈ mounted.fields,
    Containers.get row field.key = some (props.getRelationalData field.key (chosen clicked i field))
  currents : ∀ field ∈ mounted.fields, Containers.get row (getCurrentKey field.key) =
    some (props.getRelationalData field.key field.currentValue)

section
variable (props : Props V)

private theorem addField_other (acc : Row V) (field : ConflictField V) (key : String) (plain : key ≠ field.key)
    (current : key ≠ getCurrentKey field.key) :
      Containers.get (props.addField acc field) key = Containers.get acc key := by
  rw [Props.addField,get_set_other _ _ _ _ current,get_set_other _ _ _ _ plain]

theorem fold_other (fields : List (ConflictField V)) (acc : Row V) (key : String)
    (apart : ∀ field ∈ fields, key ≠ field.key ∧ key ≠ getCurrentKey field.key) :
    Containers.get (fields.foldl props.addField acc) key = Containers.get acc key := by
  induction fields generalizing acc with
  | nil => rfl
  | cons field rest ih =>
    rw [List.foldl_cons,ih _ (fun other member => apart other (List.mem_cons_of_mem _ member))]
    obtain ⟨plain,current⟩ := apart field List.mem_cons_self
    exact addField_other props acc field key plain current

private theorem fold_distinct (fields : List (ConflictField V)) (acc : Row V) (distinct : (acc.map Prod.fst).Nodup) :
    ((fields.foldl props.addField acc).map Prod.fst).Nodup := by
  induction fields generalizing acc with
  | nil => exact distinct
  | cons field rest ih => exact ih _ (nodup_set (nodup_set distinct _ _) _ _)

private theorem fold_values (fields : List (ConflictField V)) (acc : Row V)
    (distinct : (fields.map ConflictField.key).Nodup) (plain : ∀ field ∈ fields, isCurrentKey field.key = false)
    (field : ConflictField V) (member : field ∈ fields) :
    Containers.get (fields.foldl props.addField acc) field.key =
        some (props.getRelationalData field.key field.importedValue) ∧
      Containers.get (fields.foldl props.addField acc) (getCurrentKey field.key) =
        some (props.getRelationalData field.key field.currentValue) := by
  induction fields generalizing acc with
  | nil => cases member
  | cons head rest ih =>
    obtain ⟨fresh,distinct⟩ := List.nodup_cons.mp distinct
    rw [List.foldl_cons]
    rcases List.mem_cons.mp member with rfl | member
    · have headPlain := plain field List.mem_cons_self
      have apart (other : ConflictField V) (inside : other ∈ rest) : field.key ≠ other.key := by
        intro same
        exact fresh (List.mem_map.mpr ⟨other,inside,same.symm⟩)
      rw [fold_other props rest _ field.key
        (fun other inside => ⟨apart other inside,apart_of_plain headPlain⟩)]
      rw [fold_other props rest _ (getCurrentKey field.key) (fun other inside =>
        ⟨(apart_of_plain (plain other (List.mem_cons_of_mem _ inside))).symm,
          fun same => apart other inside (current_injective same)⟩)]
      constructor
      · rw [Props.addField,get_set_other _ _ _ _ (apart_of_plain headPlain),get_set_self]
      · rw [Props.addField,get_set_self]
    · exact ih _ distinct (fun other inside => plain other (List.mem_cons_of_mem _ inside)) member

private theorem fold_names (fields : List (ConflictField V)) (acc : Row V) (key : String)
    (plain : isCurrentKey key = false) :
    (Containers.get (fields.foldl props.addField acc) key).isSome ↔
      (Containers.get acc key).isSome ∨ ∃ field ∈ fields, key = field.key := by
  induction fields generalizing acc with
  | nil => simp
  | cons field rest ih =>
    rw [List.foldl_cons,ih]
    by_cases same : key = field.key
    · subst same
      have added : Containers.get (props.addField acc field) field.key =
          some (props.getRelationalData field.key field.importedValue) := by
        rw [Props.addField,get_set_other _ _ _ _ (apart_of_plain plain),get_set_self]
      simp [added]
    · rw [addField_other props acc field key same (apart_of_plain plain)]
      simp [same]

private theorem localRow_localOf (conflict : Conflict V) (named : WellNamed conflict) (i : Nat) :
    LocalOf props [] i conflict (props.localRow conflict) where
  distinct := fold_distinct props conflict.fields [] List.nodup_nil
  names key plain := (fold_names props conflict.fields [] key plain).trans (by simp [Containers.get])
  values field member :=
    (fold_values props conflict.fields [] named.distinct (fun f inside => (named.plain f inside).1) field member).1
  currents field member :=
    (fold_values props conflict.fields [] named.distinct (fun f inside => (named.plain f inside).1) field member).2

private theorem get_resolvedRow (conflict : Conflict V) (row : Row V) (distinct : (row.map Prod.fst).Nodup)
    (key : String) (differs : key ≠ "version") : Containers.get (resolvedRow conflict row) key =
      (if isCurrentKey key then none else Containers.get row key).or
        (if key = "id" then some conflict.id else none) := by
  have kept : ((row.filter (fun entry => ! isCurrentKey entry.1)).map Prod.fst).Nodup :=
    distinct.sublist (List.filter_sublist.map Prod.fst)
  rw [resolvedRow,get_set_other _ _ _ _ differs,get_assign_nodup _ _ kept]
  rw [get_filter row (fun key => ! isCurrentKey key) key]
  congr 1
  · cases isCurrentKey key <;> simp
  · by_cases same : key = "id"
    · simp [Containers.get,same]
    · simp [Containers.get,same,Ne.symm same]

theorem Repeats.keys_iff {clicked : List (Nat × String)} {i : Nat} {mounted conflict : Conflict V}
    (repeats : Repeats clicked i mounted conflict) (key : String) :
    (∃ field ∈ mounted.fields, key = field.key) ↔ ∃ field ∈ conflict.fields, key = field.key := by
  constructor
  · rintro ⟨old,inside,rfl⟩
    obtain ⟨field,member,same⟩ := repeats.all old inside
    exact ⟨field,member,same.symm⟩
  · rintro ⟨field,member,rfl⟩
    obtain ⟨old,inside,same,_⟩ := repeats.fields field member
    exact ⟨old,inside,same.symm⟩

theorem Repeats.plain {clicked : List (Nat × String)} {i : Nat} {mounted conflict : Conflict V}
    (repeats : Repeats clicked i mounted conflict) (named : WellNamed mounted) (field : ConflictField V)
    (member : field ∈ conflict.fields) :
    isCurrentKey field.key = false ∧ field.key ≠ "id" ∧ field.key ≠ "version" := by
  obtain ⟨old,inside,same,_⟩ := repeats.fields field member
  exact same ▸ named.plain old inside

/-- One lemma for what a row handed over is: the kept row under the id and version of the
conflict that now stands at its index. -/
theorem resolvedRow_rowOf (clicked : List (Nat × String)) (i : Nat) (mounted conflict : Conflict V) (row : Row V)
    (named : WellNamed mounted) (kept : LocalOf props clicked i mounted row)
    (repeats : Repeats clicked i mounted conflict) : RowOf props clicked i conflict (resolvedRow conflict row) where
  id := by
    rw [get_resolvedRow conflict row kept.distinct "id" (by decide)]
    have absent : Containers.get row "id" = none := by
      rw [← Option.not_isSome_iff_eq_none,kept.names "id" (by decide)]
      rintro ⟨field,member,same⟩
      exact (named.plain field member).2.1 same.symm
    simp [absent]
  version := get_set_self _ _ _
  names := by
    intro key
    by_cases version : key = "version"
    · subst version
      simp [resolvedRow]
    · rw [get_resolvedRow conflict row kept.distinct key version]
      by_cases current : isCurrentKey key = true
      · have apart : ¬ ∃ field ∈ conflict.fields, key = field.key := by
          rintro ⟨field,member,rfl⟩
          rw [(repeats.plain named field member).1] at current
          cases current
        by_cases id : key = "id"
        · simp [id]
        · simp [current,id,version,apart]
      · have names := kept.names key (by simpa using current)
        rw [repeats.keys_iff key] at names
        rw [if_neg current,Option.isSome_or,Bool.or_eq_true,names]
        by_cases id : key = "id"
        · simp [id]
        · simp [id,version]
  values := by
    intro field member
    obtain ⟨old,inside,same,imported,current⟩ := repeats.fields field member
    have apart := repeats.plain named field member
    rw [get_resolvedRow conflict row kept.distinct field.key apart.2.2,apart.1]
    have value := kept.values old inside
    have choice : chosen clicked i old = chosen clicked i field := by
      unfold chosen
      rw [same]
      split
      next inside => exact current inside
      next => exact imported
    rw [same,choice] at value
    simp [value]

private theorem payload_some (rows : List (Row V)) (conflicts : List (Conflict V))
    (enough : rows.length ≤ conflicts.length) :
    payload rows conflicts = some (List.zipWith resolvedRow conflicts rows) := by
  induction rows generalizing conflicts with
  | nil => cases conflicts <;> rfl
  | cons row rows ih =>
    cases conflicts with
    | nil => simp at enough
    | cons conflict conflicts =>
      have shorter : rows.length ≤ conflicts.length := by simpa using enough
      rw [payload,ih conflicts shorter]
      rfl

theorem effect_handed (tab : Tab V) (conflicts : List (Conflict V)) (shown : tab.conflicts = some conflicts)
    (nonempty : conflicts ≠ []) (length : tab.resolvedData.length = conflicts.length) :
    ∃ rows, tab.effect.handed = some ⟨rows,conflicts,tab.clicked⟩ ∧ rows.length = conflicts.length := by
  have computed : tab.effect = { tab with
      handed := some ⟨List.zipWith resolvedRow conflicts tab.resolvedData,conflicts,tab.clicked⟩ } := by
    unfold Tab.effect
    rw [shown]
    cases conflicts with
    | nil => exact absurd rfl nonempty
    | cons conflict rest => simp only [payload_some _ _ (Nat.le_of_eq length)]
  rw [computed]
  exact ⟨_,rfl,by simp [length]⟩

theorem effect_frame (tab : Tab V) : tab.effect.conflicts = tab.conflicts ∧ tab.effect.mounted = tab.mounted ∧
    tab.effect.clicked = tab.clicked ∧ tab.effect.resolvedData = tab.resolvedData := by
  unfold Tab.effect
  split
  · simp
  · simp
  · split <;> simp

/-- The invariant of the tab: each row is kept for a mounted conflict, which the conflict now
at its index repeats. -/
structure TabInv (tab : Tab V) : Prop where
  alive : tab.thrown = false
  length : tab.resolvedData.length = tab.mounted.length
  kept : ∀ i mounted row, tab.mounted[i]? = some mounted → tab.resolvedData[i]? = some row →
    LocalOf props tab.clicked i mounted row
  latest : ∀ conflicts, tab.conflicts = some conflicts → conflicts ≠ [] → ∀ i mounted,
    tab.mounted[i]? = some mounted → ∃ later, conflicts[i]? = some later ∧ Repeats tab.clicked i mounted later
  named : ∀ mounted ∈ tab.mounted, WellNamed mounted
  handed : ∀ handed ∈ tab.handed, ∀ i row, handed.rows[i]? = some row →
    ∃ conflict, handed.response[i]? = some conflict ∧ RowOf props handed.clicked i conflict row

private theorem enough_conflicts (tab : Tab V) (inv : TabInv props tab) (conflicts : List (Conflict V))
    (shown : tab.conflicts = some conflicts) (some : conflicts ≠ []) :
    tab.resolvedData.length ≤ conflicts.length := by
  rw [inv.length]
  by_contra more
  have inside : conflicts.length < tab.mounted.length := by omega
  obtain ⟨later,found,_⟩ := inv.latest conflicts shown some conflicts.length _ (List.getElem?_eq_getElem inside)
  simp at found

private theorem inv_effect (tab : Tab V) (inv : TabInv props tab) : TabInv props tab.effect := by
  unfold Tab.effect
  split
  next => exact inv
  next => exact inv
  next conflicts some shown =>
    have nonempty : conflicts ≠ [] := by rintro rfl; exact some rfl
    rw [payload_some _ _ (enough_conflicts props tab inv conflicts shown nonempty)]
    refine { inv with handed := ?_ }
    rintro handed ⟨⟩ i row found
    obtain ⟨conflict,old,here,there,rfl⟩ := List.getElem?_zipWith_eq_some.mp found
    have inside : i < tab.mounted.length := by
      rw [← inv.length]
      exact (List.getElem?_eq_some_iff.mp there).1
    have mounted := List.getElem?_eq_getElem inside
    obtain ⟨later,same,repeats⟩ := inv.latest conflicts shown nonempty i _ mounted
    obtain rfl := Option.some.inj (here.symm.trans same)
    exact ⟨conflict,here,resolvedRow_rowOf props tab.clicked i _ conflict old
      (inv.named _ (List.getElem_mem inside)) (inv.kept i _ old mounted there) repeats⟩

theorem inv_mount (conflicts : Option (List (Conflict V)))
    (named : ∀ conflict ∈ conflicts.getD [], WellNamed conflict) :
    TabInv props (Tab.mount props conflicts) := by
  apply inv_effect
  refine ⟨rfl,by simp,?_,?_,named,?_⟩
  · intro i mounted row shown kept
    rw [List.getElem?_map] at kept
    obtain ⟨conflict,found,rfl⟩ := Option.map_eq_some_iff.mp kept
    obtain rfl := Option.some.inj (found.symm.trans shown)
    exact localRow_localOf props conflict (named conflict (List.mem_of_getElem? found)) i
  · rintro _ rfl _ i mounted found
    refine ⟨mounted,found,rfl,(named mounted (List.mem_of_getElem? found)).distinct,?_,?_⟩
    · exact fun field member => ⟨field,member,rfl,rfl,fun _ => rfl⟩
    · exact fun field member => ⟨field,member,rfl⟩
  · rintro handed ⟨⟩

private theorem rendered_some (tab : Tab V) (i j : Nat) (field : ConflictField V)
    (found : tab.rendered i j = some field) :
    ∃ conflicts conflict, tab.conflicts = some conflicts ∧ conflicts[i]? = some conflict ∧ field ∈ conflict.fields := by
  simp only [Tab.rendered,Option.bind_eq_bind,Option.bind_eq_some_iff] at found
  obtain ⟨conflicts,shown,conflict,at_i,found⟩ := found
  exact ⟨conflicts,conflict,shown,at_i,List.mem_of_getElem? found⟩

theorem inv_respond (tab : Tab V) (inv : TabInv props tab) (conflicts : Option (List (Conflict V)))
    (repeating : Repeating tab (.respond conflicts)) : TabInv props { tab with conflicts := conflicts }.effect := by
  apply inv_effect
  refine { inv with latest := ?_ }
  rintro shown rfl nonempty
  cases shown with
  | nil => exact absurd rfl nonempty
  | cons conflict rest => exact repeating

private theorem chosen_other (clicked : List (Nat × String)) (i j : Nat) (key : String) (field : ConflictField V)
    (apart : (j,field.key) ≠ (i,key)) : chosen (clicked ++ [(i,key)]) j field = chosen clicked j field := by
  simp only [chosen,List.mem_append,List.mem_singleton,or_iff_left apart]

private theorem chosen_self (clicked : List (Nat × String)) (i : Nat) (field : ConflictField V) :
    chosen (clicked ++ [(i,field.key)]) i field = field.currentValue := by
  simp [chosen]

private theorem localOf_other (clicked : List (Nat × String)) (i j : Nat) (key : String) (mounted : Conflict V)
    (row : Row V) (apart : j ≠ i) (kept : LocalOf props clicked j mounted row) :
    LocalOf props (clicked ++ [(i,key)]) j mounted row := by
  refine { kept with values := ?_ }
  intro field member
  rw [chosen_other clicked i j key field (fun same => apart (Prod.mk.inj same).1)]
  exact kept.values field member

private theorem localOf_click (clicked : List (Nat × String)) (i : Nat) (mounted : Conflict V)
    (named : WellNamed mounted)
    (row : Row V) (kept : LocalOf props clicked i mounted row) (old : ConflictField V) (member : old ∈ mounted.fields) :
    LocalOf props (clicked ++ [(i,old.key)]) i mounted
      (set row old.key (props.getRelationalData old.key old.currentValue)) where
  distinct := nodup_set kept.distinct _ _
  names key plain := by
    by_cases same : key = old.key
    · subst same
      simp only [get_set_self,Option.isSome_some,true_iff]
      exact ⟨old,member,rfl⟩
    · rw [get_set_other _ _ _ _ same]
      exact kept.names key plain
  values field inside := by
    by_cases same : field.key = old.key
    · have equal := List.inj_on_of_nodup_map named.distinct inside member same
      subst equal
      rw [get_set_self,chosen_self]
    · rw [get_set_other _ _ _ _ same,chosen_other _ _ _ _ _ (fun equal => same (Prod.mk.inj equal).2)]
      exact kept.values field inside
  currents field inside := by
    rw [get_set_other _ _ _ _ (apart_of_plain (named.plain old member).1).symm]
    exact kept.currents field inside

private theorem repeats_click (clicked : List (Nat × String)) (i j : Nat) (mounted later : Conflict V)
    (repeats : Repeats clicked j mounted later) (field : ConflictField V) (old : ConflictField V)
    (named : WellNamed mounted) (same : j = i → field ∈ later.fields ∧ old ∈ mounted.fields ∧
      old.key = field.key ∧ old.currentValue = field.currentValue) :
    Repeats (clicked ++ [(i,field.key)]) j mounted later := by
  refine { repeats with fields := ?_ }
  intro other member
  obtain ⟨kept,inside,key,imported,current⟩ := repeats.fields other member
  refine ⟨kept,inside,key,imported,fun click => ?_⟩
  rcases List.mem_append.mp click with before | now
  · exact current before
  · obtain ⟨index,equal⟩ := Prod.mk.inj (List.mem_singleton.mp now)
    obtain ⟨here,there,keys,values⟩ := same index
    have sameField := List.inj_on_of_nodup_map repeats.distinct member here equal
    have sameOld := List.inj_on_of_nodup_map named.distinct inside there (key.trans (equal.trans keys.symm))
    rw [sameField,sameOld]
    exact values

private theorem inv_click (tab : Tab V) (inv : TabInv props tab) (i j : Nat) (field : ConflictField V)
    (found : tab.rendered i j = some field) (repeating : Repeating tab (.click i j)) :
    TabInv props (tab.applyCurrentValue props i field) := by
  obtain ⟨conflicts,conflict,shown,standing,member⟩ := rendered_some tab i j field found
  obtain ⟨mounted,there,old,inside,key,value⟩ := repeating field found
  have named := inv.named mounted (List.mem_of_getElem? there)
  have bound : i < tab.resolvedData.length := by
    rw [inv.length]
    exact (List.getElem?_eq_some_iff.mp there).1
  have row := List.getElem?_eq_getElem bound
  have kept := inv.kept i mounted _ there row
  have current : Containers.get tab.resolvedData[i] (getCurrentKey field.key) =
      some (props.getRelationalData old.key old.currentValue) := by
    rw [← key]
    exact kept.currents old inside
  rw [Tab.applyCurrentValue,row]
  apply inv_effect
  refine ⟨inv.alive,by simp [inv.length],?_,?_,inv.named,inv.handed⟩
  · intro k other row' at_k kept'
    by_cases same : k = i
    · subst same
      obtain rfl := Option.some.inj (there.symm.trans at_k)
      rw [List.getElem?_set_self bound] at kept'
      obtain rfl := Option.some.inj kept'
      rw [current,Option.getD_some,← key]
      exact localOf_click props tab.clicked k mounted named _ kept old inside
    · rw [List.getElem?_set_ne (Ne.symm same)] at kept'
      exact localOf_other props tab.clicked i k field.key other row' same (inv.kept k other row' at_k kept')
  · intro response again nonempty k other at_k
    obtain ⟨later,found,repeats⟩ := inv.latest response again nonempty k other at_k
    refine ⟨later,found,repeats_click tab.clicked i k other later repeats field old
      (inv.named other (List.mem_of_getElem? at_k)) ?_⟩
    rintro rfl
    obtain rfl := Option.some.inj (there.symm.trans at_k)
    obtain rfl := Option.some.inj (shown.symm.trans again)
    obtain rfl := Option.some.inj (standing.symm.trans found)
    exact ⟨member,inside,key,value⟩

theorem inv_tabStep (tab : Tab V) (event : TabEvent V) (next : Tab V) (inv : TabInv props tab)
    (repeating : Repeating tab event) (taken : tabStep props tab event = some next) : TabInv props next := by
  rw [tabStep.eq_def,if_neg (by simp [inv.alive])] at taken
  cases event with
  | respond conflicts =>
    obtain rfl := Option.some.inj taken
    exact inv_respond props tab inv conflicts repeating
  | click i j =>
    obtain ⟨field,found,rfl⟩ := Option.map_eq_some_iff.mp taken
    exact inv_click props tab inv i j field found repeating

end

/-- Under every sequence of responses that repeat the mounted conflicts and of clicks on them. -/
theorem resolved_rows_aligned (props : Props V) (conflicts : Option (List (Conflict V)))
    (named : ∀ conflict ∈ conflicts.getD [], WellNamed conflict) (events : List (TabEvent V))
    (repeating : Meets (tabStep props) Repeating (Tab.mount props conflicts) events) :
    Always (tabStep props) (Aligned props) (Tab.mount props conflicts) events := by
  have always := always_of_meets (TabInv props) Repeating (inv_tabStep props) _ events
    (inv_mount props conflicts named) repeating
  exact always.imp (fun tab inv => ⟨inv.alive,inv.handed⟩)

def plainProps : Props Nat := ⟨fun _ => none,0⟩

def nameConflict (id version currentValue importedValue : Nat) : Conflict Nat :=
  ⟨id,version,[⟨"name",currentValue,importedValue⟩]⟩

private theorem nameConflict_repeats (clicked : List (Nat × String))
    (i id old version currentValue importedValue : Nat) :
    Repeats clicked i (nameConflict id old currentValue importedValue)
      (nameConflict id version currentValue importedValue) where
  id := rfl
  distinct := List.nodup_singleton _
  fields field member := ⟨field,member,rfl,rfl,fun _ => rfl⟩
  all field member := ⟨field,member,rfl⟩

theorem second_round_aligned : Always (tabStep plainProps) (Aligned plainProps)
    (Tab.mount plainProps (some [nameConflict 1 4 10 20]))
    [.click 0 0,.respond (some [nameConflict 1 5 10 20])] := by
  apply resolved_rows_aligned
  · intro conflict member
    obtain rfl := List.mem_singleton.mp member
    exact ⟨List.nodup_singleton _,by decide⟩
  · intro tab clicked
    obtain rfl := Option.some.inj clicked
    refine ⟨?_,fun next responded => ⟨?_,?_⟩⟩
    · rintro field ⟨⟩
      exact ⟨_,rfl,_,List.mem_singleton_self _,rfl,rfl⟩
    · intro i mounted found
      cases i with
      | zero =>
        obtain rfl := Option.some.inj found
        exact ⟨_,rfl,nameConflict_repeats _ 0 1 4 5 10 20⟩
      | succ i => cases found
    · trivial

/-- A shorter response makes the effect throw; a reordered one gives a row the fields of
another conflict. -/
theorem later_response_misaligned :
    (∃ tab, run (tabStep plainProps) (Tab.mount plainProps (some [nameConflict 1 4 10 20,nameConflict 2 7 11 21]))
      [.respond (some [nameConflict 2 8 11 21])] = some tab ∧ ¬ Aligned plainProps tab) ∧
    ∃ tab, run (tabStep plainProps) (Tab.mount plainProps (some [nameConflict 1 4 10 20,nameConflict 2 7 11 21]))
      [.respond (some [nameConflict 2 8 11 21,nameConflict 1 5 10 20])] = some tab ∧ ¬ Aligned plainProps tab := by
  constructor
  · refine ⟨_,rfl,fun aligned => ?_⟩
    have alive := aligned.1
    revert alive
    decide
  · refine ⟨_,rfl,fun aligned => ?_⟩
    obtain ⟨conflict,standing,row⟩ := aligned.2 _ rfl 0 _ rfl
    obtain rfl := Option.some.inj standing
    have value := row.values _ (List.mem_singleton_self _)
    revert value
    decide

end BoarPack.ChangesModal
