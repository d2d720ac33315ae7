import BoarPack.Table.Columns

/-! `useColumnsSets`: which columns a set of columns hides, and what switching a column on does to the groups
it is in. -/
namespace BoarPack.Table.ColumnsSets
open Containers Columns

variable {N : Type}

abbrev Columns (N : Type) : Type := Forest (TIndexableRecord N)

def hidden : ColumnsState := { shown := some false }

def visible : ColumnsState := { shown := some true }

def isShown (value : TColumnsStates) (key : String) : Bool :=
  (get value key).any (fun state => state.shown = some true)

section Functions

variable (numbers : Numbers N)

/-- The state, and `someColumnsShown`. -/
def getColumnsStates [DecidableEq N] (shownCols : List (Key N)) : Columns N → TColumnsStates → TColumnsStates × Bool
  | .nil, state => (state,false)
  | .cons col children rest, state =>
    let (state,childrenColumnsShown) := getColumnsStates shownCols children state
    match index numbers col with
    -- a group without a `dataIndex` does not tell what is shown in it
    | none => getColumnsStates shownCols rest state
    | some idx =>
      if idx ∈ shownCols ∨ childrenColumnsShown = true then ((getColumnsStates shownCols rest state).1,true)
      else getColumnsStates shownCols rest (set state (idx.toText numbers) hidden)

/-- The value, and `someColumnsShown`. -/
def checkParentVisibility : Columns N → TColumnsStates → TColumnsStates × Bool
  | .nil, value => (value,false)
  | .cons col children rest, value =>
    let marked := (index numbers col).any (fun idx => isShown value (idx.toText numbers))
    let (value,someChildColumnsShown) := checkParentVisibility children value
    let value := if someChildColumnsShown then set value (property numbers col) visible else value
    let (value,someColumnsShown) := checkParentVisibility rest value
    (value,marked || someColumnsShown)

def onChange (columns : Columns N) (value : TColumnsStates) : TColumnsStates :=
  (checkParentVisibility numbers columns value).1

end Functions

section Sets

variable (numbers : Numbers N) (shownCols : List (Key N))

def Chosen (col : TIndexableRecord N) : Prop := ∃ idx, index numbers col = some idx ∧ idx ∈ shownCols

def Indexed (col : TIndexableRecord N) : Prop := ∃ idx, index numbers col = some idx

def Shown (node : TIndexableRecord N × Columns N) : Prop :=
  Chosen numbers shownCols node.1 ∨ ∃ col ∈ node.2.labels, Chosen numbers shownCols col

/-- A chosen column is reached through columns with a `dataIndex` alone. -/
def Reached (node : TIndexableRecord N × Columns N) : Prop :=
  Chosen numbers shownCols node.1 ∨ node.2.Reaches (Chosen numbers shownCols) (Indexed numbers)

structure Consistent (columns : Columns N) (states : TColumnsStates × Bool) : Prop where
  hides : ∀ node ∈ columns.nodes, ∀ idx, index numbers node.1 = some idx →
    (get states.1 (idx.toText numbers) = some hidden ↔ ¬ Shown numbers shownCols node)
  reports : states.2 = true ↔ ∃ col ∈ columns.labels, Chosen numbers shownCols col

/-- What is chosen is reached, from the root and from each column that shares its key with a shown one. -/
structure Linked (columns : Columns N) : Prop where
  keys : ∀ node ∈ columns.nodes, ∀ other ∈ columns.nodes, ∀ idx ∈ index numbers node.1, ∀ same ∈ index numbers other.1,
    idx.toText numbers = same.toText numbers → Shown numbers shownCols node → Reached numbers shownCols other
  root : (∃ col ∈ columns.labels, Chosen numbers shownCols col) →
    columns.Reaches (Chosen numbers shownCols) (Indexed numbers)

private theorem someColumnsShown_iff [DecidableEq N] (columns : Columns N) (state : TColumnsStates) :
    (getColumnsStates numbers shownCols columns state).2 = true ↔
      columns.Reaches (Chosen numbers shownCols) (Indexed numbers) := by
  induction columns generalizing state with
  | nil => simp [getColumnsStates,Forest.Reaches]
  | cons col children rest below after =>
    simp only [getColumnsStates,Forest.Reaches]
    cases given : index numbers col with
    | none =>
      simp only [after]
      simp [Indexed,given]
    | some idx =>
      have chosen : Chosen numbers shownCols col ↔ idx ∈ shownCols := by simp [Chosen,given]
      have indexed : Indexed numbers col := ⟨idx,given⟩
      simp only [chosen,indexed,true_and,← below state]
      split
      next shown => simp [shown]
      next unshown => rw [after,or_iff_right unshown]

private theorem hidden_iff [DecidableEq N] (columns : Columns N) (state : TColumnsStates) (key : String) :
    get (getColumnsStates numbers shownCols columns state).1 key = some hidden ↔
      get state key = some hidden ∨ ∃ node ∈ columns.nodes, ∃ idx, index numbers node.1 = some idx ∧
        idx.toText numbers = key ∧
        ¬ Reached numbers shownCols node := by
  induction columns generalizing state with
  | nil => simp [getColumnsStates,Forest.nodes]
  | cons col children rest below after =>
    simp only [getColumnsStates,Forest.nodes,List.mem_cons,List.mem_append,or_and_right,exists_or,exists_eq_left]
    cases given : index numbers col with
    | none => simp [after,below,or_assoc]
    | some idx =>
      have reached : Reached numbers shownCols (col,children) ↔
          idx ∈ shownCols ∨ (getColumnsStates numbers shownCols children state).2 = true := by
        rw [someColumnsShown_iff]
        simp [Reached,Chosen,given]
      simp only [Option.some.injEq,exists_eq_left',reached]
      split
      next shown => simp [after,below,shown,or_assoc]
      next unshown =>
        rw [after]
        by_cases same : key = idx.toText numbers
        · subst same
          simp [unshown]
        · rw [get_set_other _ _ _ _ same,below]
          simp [Ne.symm same,or_assoc]

private theorem shown_of_reached {node : TIndexableRecord N × Columns N} (reached : Reached numbers shownCols node) :
    Shown numbers shownCols node :=
  reached.imp_right Forest.Reaches.exists

private theorem consistent_iff [DecidableEq N] (columns : Columns N) :
    Consistent numbers shownCols columns (getColumnsStates numbers shownCols columns []) ↔
      Linked numbers shownCols columns := by
  have hides := hidden_iff numbers shownCols columns []
  have reports := someColumnsShown_iff numbers shownCols columns []
  constructor
  · intro consistent
    constructor
    · intro node member other there idx given same also key shown
      by_contra unreached
      refine (consistent.hides node member idx given).mp ?_ shown
      exact (hides _).mpr (Or.inr ⟨other,there,same,also,key.symm,unreached⟩)
    · exact fun chosen => reports.mp (consistent.reports.mpr chosen)
  · intro linked
    constructor
    · intro node member idx given
      rw [hides]
      constructor
      · rintro (never | ⟨other,there,same,also,key,unreached⟩) shown
        · cases never
        · exact unreached (linked.keys node member other there idx given same also key.symm shown)
      · intro unshown
        exact Or.inr ⟨node,member,idx,given,rfl,fun reached => unshown (shown_of_reached numbers shownCols reached)⟩
    · rw [reports]
      exact ⟨Forest.Reaches.exists,linked.root⟩

end Sets

section Parents

variable (numbers : Numbers N) (value : TColumnsStates)

def Marked (col : TIndexableRecord N) : Prop :=
  ∃ idx, index numbers col = some idx ∧ isShown value (idx.toText numbers) = true

def AncestorKey (columns : Columns N) (key : String) : Prop :=
  ∃ node ∈ columns.nodes, (∃ idx, index numbers node.1 = some idx ∧ idx.toText numbers = key) ∧
    ∃ col ∈ node.2.labels, Marked numbers value col

/-- The ancestors of marked columns are shown, and nothing else is changed. -/
structure Propagated (columns : Columns N) (after : TColumnsStates) : Prop where
  shown : ∀ key, AncestorKey numbers value columns key → isShown after key = true
  framed : ∀ key, get after key ≠ get value key → AncestorKey numbers value columns key

/-- A column is read as shown when it is marked, or has the key of a group to its left that was switched on because a
column directly in it was read as shown. -/
inductive ReadShown {columns : Columns N} : columns.Place → Prop
  | marked (place : columns.Place) (marked : Marked numbers value place.label) : ReadShown place
  | copied (group child place : columns.Place) (inside : group.IsParent child) (read : ReadShown child)
    (left : group.IsLeftOf place) (idx : Key N) (given : index numbers place.label = some idx)
    (same : idx.toText numbers = property numbers group.label) : ReadShown place

/-- The key of a group that has a column directly in it that is read as shown. -/
def SwitchedKey (columns : Columns N) (key : String) : Prop :=
  ∃ group child : columns.Place, group.IsParent child ∧ ReadShown numbers value child ∧
    property numbers group.label = key

/-- Each ancestor of a marked column is shown or switched on, and each group that is switched on is an ancestor of a
marked column or as it was. -/
structure Direct (columns : Columns N) : Prop where
  ancestors : ∀ key, AncestorKey numbers value columns key → isShown value key = true ∨
    SwitchedKey numbers value columns key
  others : ∀ key, SwitchedKey numbers value columns key → get value key = some visible ∨
    AncestorKey numbers value columns key

private theorem isShown_visible {now : TColumnsStates} {key : String} (held : get now key = some visible) :
    isShown now key = true := by
  simp [isShown,held,visible]

private theorem isShown_congr {now after : TColumnsStates} {key : String} (same : get after key = get now key) :
    isShown after key = isShown now key := by
  rw [isShown,same,isShown]

section Places

variable {col : TIndexableRecord N} {children rest : Columns N}

private theorem read_here : ReadShown numbers value (Forest.Place.here : (Forest.cons col children rest).Place) ↔
    Marked numbers value col := by
  constructor
  · intro read
    cases read with
    | marked _ marked => exact marked
    | copied group _ _ _ _ left => cases group <;> cases left
  · exact fun marked => .marked .here marked

private theorem read_below (place : children.Place) :
    ReadShown numbers value (Forest.Place.inner place : (Forest.cons col children rest).Place) ↔
      ReadShown numbers value place := by
  constructor
  · intro read
    generalize given : (Forest.Place.inner place : (Forest.cons col children rest).Place) = whole at read
    induction read generalizing place with
    | marked _ marked =>
      subst given
      exact .marked place marked
    | copied group child _ inside _ left idx named same ih =>
      subst given
      cases group with
      | here => cases left
      | later group => cases left
      | inner group =>
        cases child with
        | here => cases inside
        | later child => cases inside
        | inner child => exact .copied group child place inside (ih child rfl) left idx named same
  · intro read
    induction read with
    | marked place marked => exact .marked (.inner place) marked
    | copied group child place inside _ left idx named same ih =>
      exact .copied (.inner group) (.inner child) (.inner place) inside ih left idx named same

/-- To the right of the first tree, what was switched on in it is shown. -/
theorem read_after {now : TColumnsStates}
    (shown : ∀ key, isShown now key = true ↔ isShown value key = true ∨ SwitchedKey numbers value children key ∨
      property numbers col = key ∧ ∃ child : children.Place, child.IsRoot ∧ ReadShown numbers value child)
    (place : rest.Place) :
    ReadShown numbers value (Forest.Place.later place : (Forest.cons col children rest).Place) ↔
      ReadShown numbers now place := by
  constructor
  · intro read
    generalize given : (Forest.Place.later place : (Forest.cons col children rest).Place) = whole at read
    induction read generalizing place with
    | marked _ marked =>
      subst given
      obtain ⟨idx,named,holds⟩ := marked
      exact .marked place ⟨idx,named,(shown _).mpr (Or.inl holds)⟩
    | copied group child _ inside read left idx named same ih =>
      subst given
      cases group with
      | here =>
        cases child with
        | here => cases inside
        | later child => cases inside
        | inner child =>
          refine .marked place ⟨idx,named,(shown _).mpr (Or.inr (Or.inr ?_))⟩
          exact ⟨same.symm,child,inside,(read_below numbers value child).mp read⟩
      | inner group =>
        cases child with
        | here => cases inside
        | later child => cases inside
        | inner child =>
          refine .marked place ⟨idx,named,(shown _).mpr (Or.inr (Or.inl ?_))⟩
          exact ⟨group,child,inside,(read_below numbers value child).mp read,same.symm⟩
      | later group =>
        cases child with
        | here => cases inside
        | inner child => cases inside
        | later child => exact .copied group child place inside (ih child rfl) left idx named same
  · intro read
    induction read with
    | marked place marked =>
      obtain ⟨idx,named,holds⟩ := marked
      rcases (shown _).mp holds with before | ⟨group,child,inside,read,same⟩ | ⟨same,child,root,read⟩
      · exact .marked (.later place) ⟨idx,named,before⟩
      · exact .copied (.inner group) (.inner child) (.later place) inside ((read_below numbers value child).mpr read)
          trivial idx named same.symm
      · exact .copied .here (.inner child) (.later place) root ((read_below numbers value child).mpr read)
          trivial idx named same.symm
    | copied group child place inside _ left idx named same ih =>
      exact .copied (.later group) (.later child) (.later place) inside ih left idx named same

private theorem switchedKey_cons {now : TColumnsStates}
    (shown : ∀ key, isShown now key = true ↔ isShown value key = true ∨ SwitchedKey numbers value children key ∨
      property numbers col = key ∧ ∃ child : children.Place, child.IsRoot ∧ ReadShown numbers value child)
    (key : String) :
    SwitchedKey numbers value (.cons col children rest) key ↔
      (SwitchedKey numbers value children key ∨
        property numbers col = key ∧ ∃ child : children.Place, child.IsRoot ∧ ReadShown numbers value child) ∨
      SwitchedKey numbers now rest key := by
  constructor
  · rintro ⟨group,child,inside,read,same⟩
    cases group with
    | here =>
      cases child with
      | here => cases inside
      | later child => cases inside
      | inner child => exact Or.inl (Or.inr ⟨same,child,inside,(read_below numbers value child).mp read⟩)
    | inner group =>
      cases child with
      | here => cases inside
      | later child => cases inside
      | inner child => exact Or.inl (Or.inl ⟨group,child,inside,(read_below numbers value child).mp read,same⟩)
    | later group =>
      cases child with
      | here => cases inside
      | inner child => cases inside
      | later child => exact Or.inr ⟨group,child,inside,(read_after numbers value shown child).mp read,same⟩
  · rintro ((⟨group,child,inside,read,same⟩ | ⟨same,child,root,read⟩) | ⟨group,child,inside,read,same⟩)
    · exact ⟨.inner group,.inner child,inside,(read_below numbers value child).mpr read,same⟩
    · exact ⟨.here,.inner child,root,(read_below numbers value child).mpr read,same⟩
    · exact ⟨.later group,.later child,inside,(read_after numbers value shown child).mpr read,same⟩

private theorem read_root_cons {now : TColumnsStates}
    (shown : ∀ key, isShown now key = true ↔ isShown value key = true ∨ SwitchedKey numbers value children key ∨
      property numbers col = key ∧ ∃ child : children.Place, child.IsRoot ∧ ReadShown numbers value child) :
    (∃ place : (Forest.cons col children rest).Place, place.IsRoot ∧ ReadShown numbers value place) ↔
      Marked numbers value col ∨ ∃ place : rest.Place, place.IsRoot ∧ ReadShown numbers now place := by
  constructor
  · rintro ⟨place,root,read⟩
    cases place with
    | here => exact Or.inl ((read_here numbers value).mp read)
    | inner place => cases root
    | later place => exact Or.inr ⟨place,root,(read_after numbers value shown place).mp read⟩
  · rintro (marked | ⟨place,root,read⟩)
    · exact ⟨.here,trivial,(read_here numbers value).mpr marked⟩
    · exact ⟨.later place,root,(read_after numbers value shown place).mpr read⟩

end Places

/-- The keys of the groups that are switched on, and no others, are written. -/
def Written (raised : String → Prop) (now after : TColumnsStates) : Prop :=
  ∀ key, (raised key → get after key = some visible) ∧ (¬ raised key → get after key = get now key)

theorem Written.trans {first second : String → Prop} {now between after : TColumnsStates}
    (earlier : Written first now between)
    (later : Written second between after) : Written (fun key => first key ∨ second key) now after := by
  intro key
  constructor
  · rintro (raised | raised)
    · by_cases again : second key
      · exact (later key).1 again
      · rw [(later key).2 again]
        exact (earlier key).1 raised
    · exact (later key).1 raised
  · intro quiet
    obtain ⟨unraised,unraisedAgain⟩ := not_or.mp quiet
    rw [(later key).2 unraisedAgain,(earlier key).2 unraised]

theorem Written.isShown_iff {raised : String → Prop} {now after : TColumnsStates} (written : Written raised now after)
    (key : String) : isShown after key = true ↔ isShown now key = true ∨ raised key := by
  by_cases on : raised key
  · simp [on,isShown_visible ((written key).1 on)]
  · simp [on,isShown_congr ((written key).2 on)]

private theorem marked_iff (col : TIndexableRecord N) :
    (index numbers col).any (fun idx => isShown value (idx.toText numbers)) = true ↔ Marked numbers value col := by
  unfold Marked
  cases given : index numbers col <;> simp

theorem checked (columns : Columns N) (now : TColumnsStates) :
    ((checkParentVisibility numbers columns now).2 = true ↔
        ∃ place : columns.Place, place.IsRoot ∧ ReadShown numbers now place) ∧
      Written (SwitchedKey numbers now columns) now (checkParentVisibility numbers columns now).1 := by
  induction columns generalizing now with
  | nil =>
    refine ⟨⟨fun reported => ?_,fun ⟨place,_⟩ => ?_⟩,fun key => ⟨fun ⟨group,_⟩ => ?_,fun _ => rfl⟩⟩
    · cases reported
    · cases place
    · cases group
  | cons col children rest below after =>
    obtain ⟨raising,writtenBelow⟩ := below now
    simp only [checkParentVisibility]
    generalize checkParentVisibility numbers children now = checked at raising writtenBelow ⊢
    obtain ⟨between,raises⟩ := checked
    -- the children, and then the group itself
    have own : Written (fun key => property numbers col = key ∧
          ∃ child : children.Place, child.IsRoot ∧ ReadShown numbers now child) between
        (if raises then set between (property numbers col) visible else between) := by
      intro key
      constructor
      · rintro ⟨rfl,read⟩
        rw [if_pos (raising.mpr read)]
        exact get_set_self _ _ _
      · intro unraised
        split
        next raised =>
          apply get_set_other
          rintro rfl
          exact unraised ⟨rfl,raising.mp raised⟩
        next => rfl
    have written := writtenBelow.trans own
    generalize (if raises then set between (property numbers col) visible else between) = next at written ⊢
    have shown := written.isShown_iff
    obtain ⟨reported,writtenAfter⟩ := after next
    constructor
    · rw [Bool.or_eq_true,marked_iff,reported,read_root_cons numbers now shown]
    · have all := written.trans writtenAfter
      intro key
      rw [switchedKey_cons numbers now shown]
      exact all key

private theorem onChange_written (columns : Columns N) :
    Written (SwitchedKey numbers value columns) value (onChange numbers columns value) :=
  (checked numbers columns value).2

private theorem propagated_iff (columns : Columns N) :
    Propagated numbers value columns (onChange numbers columns value) ↔ Direct numbers value columns := by
  have written := onChange_written numbers value columns
  constructor
  · intro propagated
    constructor
    · intro key ancestor
      exact (written.isShown_iff key).mp (propagated.shown key ancestor)
    · intro key switched
      by_contra neither
      obtain ⟨other,outside⟩ := not_or.mp neither
      apply outside
      apply propagated.framed
      rw [(written key).1 switched]
      exact Ne.symm other
  · intro direct
    constructor
    · intro key ancestor
      exact (written.isShown_iff key).mpr (direct.ancestors key ancestor)
    · intro key changed
      by_cases switched : SwitchedKey numbers value columns key
      · apply (direct.others key switched).resolve_left
        rw [(written key).1 switched] at changed
        exact Ne.symm changed
      · exact absurd ((written key).2 switched) changed

end Parents

/-- What a set of columns hides is consistent if and only if what it shows is linked; and what switching a column on
does is propagated if and only if it is direct. -/
theorem columns_visible_iff [DecidableEq N] (numbers : Numbers N) (columns : Columns N) :
    (∀ shownCols : List (Key N), Consistent numbers shownCols columns (getColumnsStates numbers shownCols columns []) ↔
      Linked numbers shownCols columns) ∧
    ∀ value : TColumnsStates, Propagated numbers value columns (onChange numbers columns value) ↔
      Direct numbers value columns :=
  ⟨fun shownCols => consistent_iff numbers shownCols columns,fun value => propagated_iff numbers value columns⟩

def onlyNaN : Numbers Unit where
  ofText _ := ()
  ofBool _ := ()
  nan := ()
  toText _ := "NaN"
  truthy _ := false

def named (dataIndex : String) : TIndexableRecord Unit := ⟨some (.key (.text dataIndex))⟩

def inNamelessGroup : Columns Unit := .cons (named "a") (.cons ⟨none⟩ (.cons (named "c") .nil .nil) .nil) .nil

def threeDeep : Columns Unit := .cons (named "a") (.cons (named "b") (.cons (named "c") .nil .nil) .nil) .nil

/-- A column that is shown below a group without a `dataIndex` leaves what is above hidden, and one that is switched
on leaves its grandparent as it is. -/
theorem deep_column_hidden :
    ¬ Consistent onlyNaN [.text "c"] inNamelessGroup (getColumnsStates onlyNaN [.text "c"] inNamelessGroup []) ∧
    ¬ Propagated onlyNaN [("c",visible)] threeDeep (onChange onlyNaN threeDeep [("c",visible)]) := by
  constructor
  · intro consistent
    have unshown := (consistent.hides _ List.mem_cons_self (.text "a") rfl).mp rfl
    apply unshown
    exact Or.inr ⟨named "c",by decide,.text "c",rfl,by decide⟩
  · intro propagated
    have shown := propagated.shown "a"
      ⟨_,List.mem_cons_self,⟨.text "a",rfl,rfl⟩,named "c",by decide,.text "c",rfl,by decide⟩
    revert shown
    decide

end BoarPack.Table.ColumnsSets
