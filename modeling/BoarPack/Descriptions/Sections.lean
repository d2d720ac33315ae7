import BoarPack.Table.Columns

/-! `Descriptions`: the columns divided into sections, one for each group, and the errors counted for the
tab of each. -/
namespace BoarPack.Descriptions
open Containers Table Table.Columns

variable {N T : Type}

/-- `T`: titles, `null` and missing ones among them. -/
structure ProColumns (N T : Type) where
  title : T
  dataIndex : Option (DataIndex N)
  valueType : Option String := none
  deriving DecidableEq, Repr

/-- A column with `children`, even with none in them, is a group. -/
inductive Columns (N T : Type)
  | nil
  | leaf (column : ProColumns N T) (rest : Columns N T)
  | group (column : ProColumns N T) (children rest : Columns N T)
  deriving DecidableEq, Repr

structure TDescriptionSection (N T : Type) where
  title : T
  key : String
  columns : List (ProColumns N T)
  deriving DecidableEq, Repr

section Flattening

variable (numbers : Numbers N)

/-- `String(Array.isArray(column.dataIndex) ? column.dataIndex[0] : column.dataIndex)`. -/
def sectionKey (column : ProColumns N T) : String :=
  match column.dataIndex with
  | some (.key key) | some (.path (key :: _)) => key.toText numbers
  | none | some (.path []) => "undefined"

/-- The columns of the base section, and the sections after it. -/
def pushColumns : Columns N T → List (ProColumns N T) → List (TDescriptionSection N T) →
    List (ProColumns N T) × List (TDescriptionSection N T)
  | .nil, base, result => (base,result)
  | .leaf column rest, base, result =>
    if column.valueType = some "option" then pushColumns rest base result
    else pushColumns rest (base ++ [column]) result
  | .group column children rest, base, result =>
    if column.valueType = some "option" then pushColumns rest base result
    else
      let (columns,sections) := pushColumns children [] []
      pushColumns rest base (result ++ { title := column.title, key := sectionKey numbers column, columns } :: sections)

def columnsToDescriptionItemProps (columns : Columns N T) (mainTitle : T) (key : String := "general") :
    List (TDescriptionSection N T) :=
  let (columns,sections) := pushColumns numbers columns [] []
  { title := mainTitle, key, columns } :: sections

end Flattening

namespace Columns

/-- All leaves in tree order, but for those with `valueType` 'option' and those below such a group. -/
def leaves : Columns N T → List (ProColumns N T)
  | nil => []
  | leaf column rest => if column.valueType = some "option" then rest.leaves else column :: rest.leaves
  | group column children rest =>
    if column.valueType = some "option" then rest.leaves else children.leaves ++ rest.leaves

def direct : Columns N T → List (ProColumns N T)
  | nil => []
  | leaf column rest => if column.valueType = some "option" then rest.direct else column :: rest.direct
  | group _ _ rest => rest.direct

/-- All groups with their children, a group before those in it. -/
def groups : Columns N T → List (ProColumns N T × Columns N T)
  | nil => []
  | leaf _ rest => rest.groups
  | group column children rest =>
    if column.valueType = some "option" then rest.groups else (column,children) :: (children.groups ++ rest.groups)

theorem direct_sublist (columns : Columns N T) : columns.direct.Sublist columns.leaves := by
  induction columns with
  | nil => exact List.Sublist.refl []
  | leaf column rest after =>
    unfold direct leaves
    split
    next => exact after
    next => exact after.cons_cons column
  | group column children rest below after =>
    unfold direct leaves
    split
    next => exact after
    next => exact after.trans (List.sublist_append_right children.leaves rest.leaves)

theorem group_sublist {columns : Columns N T} {group : ProColumns N T × Columns N T} (member : group ∈ columns.groups) :
    group.2.direct.Sublist columns.leaves := by
  induction columns with
  | nil => cases member
  | leaf column rest after =>
    unfold leaves
    split
    next => exact after member
    next => exact (after member).cons column
  | group column children rest below after =>
    unfold groups at member
    unfold leaves
    split
    next skipped =>
      rw [if_pos skipped] at member
      exact after member
    next kept =>
      rw [if_neg kept] at member
      rcases List.mem_cons.mp member with rfl | inside
      · exact children.direct_sublist.trans (List.sublist_append_left children.leaves rest.leaves)
      · rcases List.mem_append.mp inside with child | later
        · exact (below child).trans (List.sublist_append_left children.leaves rest.leaves)
        · exact (after later).trans (List.sublist_append_right children.leaves rest.leaves)

theorem leaves_perm (columns : Columns N T) :
    (columns.direct ++ columns.groups.flatMap (fun group => group.2.direct)).Perm columns.leaves := by
  induction columns with
  | nil => exact List.Perm.refl []
  | leaf column rest after =>
    simp only [direct,groups,leaves]
    split
    next => exact after
    next => exact after.cons column
  | group column children rest below after =>
    simp only [direct,groups,leaves]
    split
    next => exact after
    next =>
      rw [List.flatMap_cons,List.flatMap_append]
      calc rest.direct ++ (children.direct ++ (children.groups.flatMap (fun group => group.2.direct) ++
              rest.groups.flatMap (fun group => group.2.direct)))
          _ = rest.direct ++ ((children.direct ++ children.groups.flatMap (fun group => group.2.direct)) ++
              rest.groups.flatMap (fun group => group.2.direct)) := by rw [List.append_assoc]
          List.Perm _ (rest.direct ++ (children.leaves ++ rest.groups.flatMap (fun group => group.2.direct))) :=
            (below.append_right _).append_left _
          List.Perm _ (children.leaves ++ (rest.direct ++ rest.groups.flatMap (fun group => group.2.direct))) := by
            rw [← List.append_assoc,← List.append_assoc]
            exact List.perm_append_comm.append_right _
          List.Perm _ (children.leaves ++ rest.leaves) := after.append_left _

end Columns

def sectionOf (numbers : Numbers N) (group : ProColumns N T × Columns N T) : TDescriptionSection N T where
  title := group.1.title
  key := sectionKey numbers group.1
  columns := group.2.direct

private theorem pushColumns_eq (numbers : Numbers N) (columns : Columns N T) (base : List (ProColumns N T))
    (result : List (TDescriptionSection N T)) :
    pushColumns numbers columns base result =
      (base ++ columns.direct,result ++ columns.groups.map (sectionOf numbers)) := by
  induction columns generalizing base result with
  | nil => simp [pushColumns,Columns.direct,Columns.groups]
  | leaf column rest after =>
    unfold pushColumns Columns.direct Columns.groups
    split
    next => exact after base result
    next => simp [after]
  | group column children rest below after =>
    unfold pushColumns Columns.direct Columns.groups
    split
    next => exact after base result
    next => simp [below,after,sectionOf]

theorem sections_eq (numbers : Numbers N) (columns : Columns N T) (mainTitle : T) (key : String) :
    columnsToDescriptionItemProps numbers columns mainTitle key =
      { title := mainTitle, key, columns := columns.direct } :: columns.groups.map (sectionOf numbers) := by
  simp [columnsToDescriptionItemProps,pushColumns_eq]

end BoarPack.Descriptions
