import BoarPack.Library.Containers
import BoarPack.Library.Forest
import BoarPack.Table.ImportExport

/-! The columns of a table: groups of columns to any depth. A column without children is one with none, as
all of the functions here treat it. -/
namespace BoarPack.Table.Columns

variable {N : Type}

inductive Key (N : Type)
  | text (value : String)
  | number (value : N)
  deriving DecidableEq, Repr

inductive DataIndex (N : Type)
  | key (value : Key N)
  | path (values : List (Key N))
  deriving DecidableEq, Repr

structure TIndexableRecord (N : Type) where
  dataIndex : Option (DataIndex N)
  deriving DecidableEq, Repr

/-- `shown` is `show`. -/
structure ColumnsState where
  shown : Option Bool := none
  fixed : Option String := none
  order : Option Int := none
  deriving DecidableEq, Repr

abbrev TColumnsStates : Type := List (String × ColumnsState)

section

variable (numbers : Numbers N)

def Key.toText : Key N → String
  | text value => value
  | number value => numbers.toText value

def Key.truthy : Key N → Bool
  | text value => value ≠ ""
  | number value => numbers.truthy value

/-- `Array.isArray(col.dataIndex) ? col.dataIndex.join(',') : col.dataIndex`. -/
def joined (col : TIndexableRecord N) : Option (Key N) :=
  col.dataIndex.map fun
    | .key key => key
    | .path keys => .text (String.intercalate "," (keys.map (Key.toText numbers)))

def index (col : TIndexableRecord N) : Option (Key N) := (joined numbers col).filter (Key.truthy numbers)

/-- `Array.isArray(column.dataIndex) ? column.dataIndex.join('.') : column.dataIndex`. -/
def dotted : DataIndex N → DataIndex N
  | .key key => .key key
  | .path keys => .key (.text (String.intercalate "." (keys.map (Key.toText numbers))))

def property (col : TIndexableRecord N) : String := ((joined numbers col).map (Key.toText numbers)).getD "undefined"

end

structure QueryJoin where
  field : String
  select : Option (List String) := none
  deriving DecidableEq, Repr

/-- No join is the empty list, and a single one the list of it. -/
def buildJoinFields (join : List QueryJoin) : List String × List String :=
  (join.map (fun relation => relation.field ++ ((relation.select.map (fun fields =>
    "||" ++ String.intercalate "," fields)).getD "")),join.map QueryJoin.field)

/-- `Array.isArray(col.dataIndex) ? col.dataIndex[0] : col.dataIndex`, where it is a string. -/
def fieldOf (col : TIndexableRecord N) : Option String :=
  match col.dataIndex with
  | some (.key (.text field)) | some (.path (.text field :: _)) => some field
  | _ => none

/-- One id column is given as the only one of a list. -/
def buildFieldsFromColumns (idColumnName joinFields : List String) :
    Forest (TIndexableRecord N) → Containers.Distinct String → Containers.Distinct String
  | .nil, fields => fields
  | .cons col children rest, fields =>
    let fields := buildFieldsFromColumns idColumnName joinFields children fields
    match fieldOf col with
    | none => buildFieldsFromColumns idColumnName joinFields rest fields
    | some dataIndex =>
      if dataIndex = "" ∨ dataIndex ∈ idColumnName ∨ dataIndex ∈ joinFields then
        buildFieldsFromColumns idColumnName joinFields rest fields
      else buildFieldsFromColumns idColumnName joinFields rest (fields.add dataIndex)

def collectFieldsFromColumns (columns : Forest (TIndexableRecord N)) (idColumnName joinFields : List String) :
    List String :=
  [String.intercalate "," (buildFieldsFromColumns idColumnName joinFields columns .empty).items]

/-- A column shows the field, and it comes neither with every row nor with what is joined. -/
def Needed (columns : Forest (TIndexableRecord N)) (idColumnName : List String) (join : List QueryJoin)
    (field : String) : Prop :=
  (∃ col ∈ columns.labels, fieldOf col = some field) ∧ field ≠ "" ∧ field ∉ idColumnName ∧
    ∀ relation ∈ join, relation.field ≠ field

def Omitted (idColumnName joinFields : List String) (field : String) : Prop :=
  field = "" ∨ field ∈ idColumnName ∨ field ∈ joinFields

private theorem mem_buildFieldsFromColumns (idColumnName joinFields : List String)
    (columns : Forest (TIndexableRecord N)) (fields : Containers.Distinct String) (field : String) :
    field ∈ buildFieldsFromColumns idColumnName joinFields columns fields ↔
      field ∈ fields ∨ (∃ col ∈ columns.labels, fieldOf col = some field) ∧
        ¬ Omitted idColumnName joinFields field := by
  induction columns generalizing fields with
  | nil => simp [buildFieldsFromColumns,Forest.labels]
  | cons col children rest below after =>
    simp only [buildFieldsFromColumns,Forest.labels,List.exists_mem_cons_iff,List.mem_append,or_and_right,exists_or]
    cases shown : fieldOf col with
    | none => simp [after,below,or_assoc]
    | some dataIndex =>
      simp only [Option.some.injEq]
      split
      next skipped =>
        have never : ¬ (dataIndex = field ∧ ¬ Omitted idColumnName joinFields field) := by
          intro asked
          exact asked.2 (asked.1 ▸ skipped)
        rw [after,below,or_assoc,or_iff_right never]
      next taken =>
        have asked : dataIndex = field ∧ ¬ Omitted idColumnName joinFields field ↔ field = dataIndex := by
          rw [and_iff_left_of_imp (fun same => same ▸ taken),eq_comm]
        rw [after,Containers.Distinct.mem_add,below,asked,or_assoc,or_assoc,
          or_left_comm (b := field = dataIndex)]

private theorem joinFields_iff (join : List QueryJoin) (field : String) :
    field ∉ (buildJoinFields join).2 ↔ ∀ relation ∈ join, relation.field ≠ field := by
  simp [buildJoinFields]

private theorem needed_iff (columns : Forest (TIndexableRecord N)) (idColumnName : List String) (join : List QueryJoin)
    (field : String) :
    field ∈ buildFieldsFromColumns idColumnName (buildJoinFields join).2 columns .empty ↔
      Needed columns idColumnName join field := by
  rw [mem_buildFieldsFromColumns,Omitted,not_or,not_or,joinFields_iff]
  exact or_iff_right (Containers.Distinct.mem_empty field)

theorem Needed.reordered {columns other : Forest (TIndexableRecord N)} (reordered : columns.Reordered other)
    (idColumnName : List String) (join : List QueryJoin) (field : String) :
    Needed columns idColumnName join field ↔ Needed other idColumnName join field := by
  simp only [Needed,reordered.labels.mem_iff]

/-- The fields are those that are needed, in whatever order the columns stand, and each is listed once. -/
theorem fields_needed (columns : Forest (TIndexableRecord N)) (idColumnName : List String) (join : List QueryJoin) :
    (∀ field, field ∈ buildFieldsFromColumns idColumnName (buildJoinFields join).2 columns .empty ↔
      Needed columns idColumnName join field) ∧
    (∀ other, columns.Reordered other → ∀ field,
      field ∈ buildFieldsFromColumns idColumnName (buildJoinFields join).2 other .empty ↔
        field ∈ buildFieldsFromColumns idColumnName (buildJoinFields join).2 columns .empty) ∧
    ∃ fields : List String, collectFieldsFromColumns columns idColumnName (buildJoinFields join).2 =
      [String.intercalate "," fields] ∧
      fields.Nodup ∧ ∀ field, field ∈ fields ↔ Needed columns idColumnName join field := by
  refine ⟨needed_iff columns idColumnName join,?_,?_⟩
  · intro other reordered field
    rw [needed_iff,needed_iff]
    exact (Needed.reordered reordered idColumnName join field).symm
  · refine ⟨(buildFieldsFromColumns idColumnName (buildJoinFields join).2 columns .empty).items,rfl,?_,?_⟩
    · exact (buildFieldsFromColumns idColumnName (buildJoinFields join).2 columns .empty).own
    · exact needed_iff columns idColumnName join

end BoarPack.Table.Columns
