import BoarPack.Common
import BoarPack.Library.Containers
import Mathlib.Data.List.Nodup

/-! `useImportExport`: the comparison of a freshly fetched export with an uploaded file. -/
namespace BoarPack.Table
open Containers

variable {N : Type} [DecidableEq N]

/-- Numbers with `NaN`, up to `===` (and `NaN` equal to itself, as `deep-diff` has it). -/
structure Numbers (N : Type) where
  ofText : String → N
  ofBool : Bool → N
  nan : N
  toText : N → String
  truthy : N → Bool

inductive Primitive (N : Type)
  | undefined
  | null
  | boolean (value : Bool)
  | number (value : N)
  | text (value : String)
  deriving DecidableEq, Repr

/-- An entry of a dictionary. -/
structure Entry (N : Type) where
  id : Primitive N
  name : Primitive N
  description : Primitive N
  deriving DecidableEq, Repr

inductive Value (N : Type)
  | primitive (value : Primitive N)
  | entry (value : Entry N)
  deriving DecidableEq, Repr

/-- `XLSX.read` without `raw`: what it takes a cell that is not empty for. -/
structure Xlsx (N : Type) where
  infer : String → Primitive N
  cell : ∀ text, infer text ≠ .undefined ∧ infer text ≠ .null

structure Column where
  dataIndex : String
  valueType : Option String
  deriving DecidableEq, Repr

structure Config (N : Type) where
  columns : List Column
  changedRecordsColumnsConfig : List Column
  relationalFields : String → Option (N → Option (Entry N))

def relationalKey (key : String) : String := String.ofList (withoutId key.toList)

def isRelationalId (key : String) : Bool := "_id".toList.isSuffixOf key.toList

/-- The column that a cell of the header is normalized into. -/
def Config.target (config : Config N) (header : String) : String :=
  if (config.relationalFields (relationalKey header)).isSome then relationalKey header else header

/-- `keyBy(columns, 'dataIndex')`, where the last column of a name wins. -/
def Config.valueType (config : Config N) (key : String) : Option String :=
  (config.columns.reverse.find? (fun column => column.dataIndex = key)).bind Column.valueType

namespace Numbers
variable (numbers : Numbers N)

def number : Value N → N
  | .primitive (.number value) => value
  | .primitive (.text value) => numbers.ofText value
  | .primitive (.boolean value) => numbers.ofBool value
  | .primitive .null => numbers.ofBool false
  | .primitive .undefined => numbers.nan
  | .entry _ => numbers.nan

def string : Value N → String
  | .primitive (.number value) => numbers.toText value
  | .primitive (.text value) => value
  | .primitive (.boolean value) => if value then "true" else "false"
  | .primitive .null => "null"
  | .primitive .undefined => "undefined"
  | .entry _ => "[object Object]"

def truthyPrimitive : Primitive N → Bool
  | .number value => numbers.truthy value
  | .text value => value ≠ ""
  | .boolean value => value
  | .null | .undefined => false

def truthyValue : Value N → Bool
  | .primitive value => numbers.truthyPrimitive value
  | .entry _ => true

end Numbers

def trueBooleanValues (value : Value N) : Bool :=
  value = .primitive (.boolean true) ∨
    value ∈ ["TRUE","True","true","1","yes","on"].map (fun text => Value.primitive (.text text))

section
variable (numbers : Numbers N) (config : Config N)

/-- The value of a cell that is not null, for the column `config.target key`. -/
def normalizeCell (key : String) (value : Value N) : Value N :=
  match config.relationalFields (relationalKey key) with
  | some data =>
    match data (numbers.number value) with
    | some entry => .entry entry
    | none => .primitive .null
  | none =>
    if config.valueType key = some "switch" then .primitive (.boolean (trueBooleanValues value))
    else if config.valueType key = some "digit" then .primitive (.number (numbers.number value))
    else if value = .primitive (.text "") ∨ value = .primitive (.text "null") then .primitive .null
    else if config.valueType key = none ∨ config.valueType key = some "text" then
      .primitive (.text (numbers.string value))
    else value

abbrev Row (N : Type) := List (String × Value N)

def normalizeKey (row : Row N) (key : String) : Row N :=
  match Containers.get row key with
  | none | some (.primitive .null) => row
  | some value => set row (config.target key) (normalizeCell numbers config key value)

/-- The keys are those of the row as it was parsed. -/
def normalizeRow (row : Row N) : Row N := (row.map Prod.fst).foldl (normalizeKey numbers config) row

def getRelationalValue : Value N → Primitive N
  | .entry entry =>
    if numbers.truthyPrimitive entry.name then entry.name
    else if numbers.truthyPrimitive entry.description then entry.description
    else entry.id
  | .primitive _ => .undefined

def ignored (key : String) : Bool := key = "version" ∨ isRelationalId key

/-- A key that only one object has (an empty one only if it is the left one), and values that differ after
`normalize`. -/
def differsAt (key : String) (lhs rhs : Option (Value N)) : Bool :=
  if ignored key then false
  else
    match lhs, rhs with
    | none, none => false
    | none, some _ => key ≠ ""
    | some _, none => true
    | some lhs, some rhs =>
      if (config.relationalFields key).isSome then getRelationalValue numbers lhs ≠ getRelationalValue numbers rhs
      else lhs ≠ rhs

structure Difference (N : Type) where
  path : String
  lhs : Option (Value N)
  rhs : Option (Value N)
  deriving DecidableEq, Repr

/-- `deep-diff`, with the `normalize` of the hook: of two rows it reports, by its path, each key at which they differ,
and of a row and a function that they do, without a path. -/
structure DeepDiff where
  diff : Row N → Row N → List (Difference N)
  reports : ∀ lhs rhs key, key ∈ (diff lhs rhs).map Difference.path ↔
    differsAt numbers config key (Containers.get lhs key) (Containers.get rhs key) = true
  unlike : Row N → List (Difference N)
  pathless : ∀ row, unlike row ≠ [] ∧ ∀ difference ∈ unlike row, difference.path = ""

def keyDifferences (lhs rhs : Row N) : List (Difference N) :=
  ((lhs.map Prod.fst ++ (rhs.map Prod.fst).filter (fun key => key ∉ lhs.map Prod.fst)).filter (fun key =>
    differsAt numbers config key (Containers.get lhs key) (Containers.get rhs key))).map
      (fun key => ⟨key,Containers.get lhs key,Containers.get rhs key⟩)

private theorem mem_keyDifferences (lhs rhs : Row N) (key : String) :
    key ∈ (keyDifferences numbers config lhs rhs).map Difference.path ↔
    differsAt numbers config key (Containers.get lhs key) (Containers.get rhs key) = true := by
  simp only [keyDifferences,List.map_map,Function.comp_def,List.map_id',List.mem_filter,List.mem_append]
  constructor
  · exact And.right
  · intro differs
    refine ⟨?_,differs⟩
    by_cases left : key ∈ lhs.map Prod.fst
    · exact Or.inl left
    · by_cases right : key ∈ rhs.map Prod.fst
      · exact Or.inr ⟨right,by simpa using left⟩
      · rw [(get_none_iff lhs key).mpr left,(get_none_iff rhs key).mpr right] at differs
        simp [differsAt] at differs

/-- One that lists the keys of the left row first. -/
def keyByKey : DeepDiff numbers config where
  diff := keyDifferences numbers config
  reports := mem_keyDifferences numbers config
  unlike _ := [⟨"",none,none⟩]
  pathless row := ⟨by simp,by simp⟩

structure TableData (N : Type) where
  id : String
  diff : List (Difference N)
  shown : Row N

structure DiffResult (N : Type) where
  created : List (Row N)
  updated : List (Row N)
  tableData : List (TableData N)

/-- `newMap[id][key] === undefined ? newMap[id][key + '_id'] : newMap[id][key]`. -/
def columnValue (row : Row N) (key : String) : Value N :=
  match Containers.get row key with
  | some value => value
  | none => (Containers.get row (key ++ "_id")).getD (.primitive .undefined)

def updatedPayload (id : String) (row : Row N) (changedFields : List String) : Row N :=
  (config.columns.filter (fun column => column.dataIndex ∈ changedFields)).foldl
    (fun payload column => set payload column.dataIndex (columnValue row column.dataIndex))
    [("id",.primitive (.text id)),("version",(Containers.get row "version").getD (.primitive .undefined))]

def shownData (id : String) (row : Row N) (differences : List (Difference N)) : TableData N where
  id := id
  diff := differences
  shown := (config.columns.filter (fun column =>
    column.dataIndex ∈ config.changedRecordsColumnsConfig.map Column.dataIndex)).foldl
      (fun shown column => set shown column.dataIndex (columnValue row column.dataIndex)) []

def idOf (row : Row N) : Value N := (Containers.get row "id").getD (.primitive .undefined)

variable {numbers config} (deepDiff : DeepDiff numbers config)

/-- An id that no row has finds a member of `Object.prototype`, where one is called so. (No id is `__proto__`.) -/
def differences (oldMap : List (String × Row N)) (id : String) (new : Row N) : List (Difference N) :=
  match Containers.get oldMap id with
  | some old => deepDiff.diff old new
  | none => if id ∈ objectPrototype then deepDiff.unlike new else []

/-- The rows of `newMap` that differ from what `oldMap` has under the same key. -/
def changes (oldMap newMap : List (String × Row N)) : List (String × Row N × List (Difference N)) :=
  newMap.filterMap (fun entry =>
    if differences deepDiff oldMap entry.1 entry.2 = [] then none
    else some (entry.1,entry.2,differences deepDiff oldMap entry.1 entry.2))

def compare (jsonBefore jsonAfter : List (Row N)) : DiffResult N :=
  let oldMap := keyed (fun row => numbers.string (idOf row)) (normalizeRow numbers config) jsonBefore
  let rows := jsonAfter.map (normalizeRow numbers config)
  let newMap := keyed (fun row => numbers.string (idOf row)) id
    (rows.filter (fun row => numbers.truthyValue (idOf row)))
  let changed := changes deepDiff oldMap newMap
  { created := rows.filter (fun row => ! numbers.truthyValue (idOf row))
    updated := changed.map (fun change => updatedPayload config change.1 change.2.1
      ((change.2.2.map Difference.path).filter (fun field => field ≠ "")))
    tableData := changed.map (fun change => shownData config change.1 change.2.1 change.2.2) }

/-- An exported table: its header, and the text of each cell. No two of its columns are
normalized into one, as a relational field is exported by one column. -/
structure Export (config : Config N) where
  headers : List String
  rows : List (String → String)
  distinct : (headers.map config.target).Nodup
  apart : ∀ header ∈ headers, config.target header = header ∨ config.target header ∉ headers
  identified : "id" ∈ headers
  nonempty : ∀ row ∈ rows, row "id" ≠ ""
  unique : (rows.map (fun row => row "id")).Nodup

/-- `sheet_to_json` with `defval: null`. -/
def sheetToJson (headers : List String) (read : String → Primitive N) (row : String → String) : Row N :=
  headers.map (fun header =>
    (header,.primitive (if row header = "" then .null else read (row header))))

def handleFile (xlsx : Xlsx N) (table : Export config) : DiffResult N :=
  compare deepDiff (table.rows.map (sheetToJson table.headers xlsx.infer))
    (table.rows.map (sheetToJson table.headers Primitive.text))

variable (numbers config)

def parsed (read : String → Primitive N) (text : String) : Value N :=
  .primitive (if text = "" then .null else read text)

/-- What a cell contributes to the column it is normalized into. -/
def field (read : String → Primitive N) (header text : String) : Option (Value N) :=
  if text = "" then (if config.target header = header then some (.primitive .null) else none)
  else some (normalizeCell numbers config header (parsed read text))

/-- The text of a fetched cell, its type inferred, and that of an uploaded one are compared as equal. -/
def ReadsAlike (xlsx : Xlsx N) (header fetched uploaded : String) : Prop :=
  differsAt numbers config (config.target header) (field numbers config xlsx.infer header fetched)
    (field numbers config Primitive.text header uploaded) = false ∧
  (config.target header ≠ header → differsAt numbers config header (some (parsed xlsx.infer fetched))
    (some (parsed Primitive.text uploaded)) = false)

def fetchedId (xlsx : Xlsx N) (row : String → String) : Value N := .primitive (xlsx.infer (row "id"))

def uploadedId (row : String → String) : Value N :=
  normalizeCell numbers config "id" (.primitive (.text (row "id")))

/-- Of the rows with a key the one that a map built of them keeps. -/
def lastWith (key : (String → String) → String) (id : String) (rows : List (String → String)) :
    Option (String → String) :=
  (rows.filter (fun row => key row = id)).getLast?

/-- The id of each uploaded row is still one when it is normalized, and each cell reads as the
one of the same column in the fetched row that is found under that id; only an id that is found is
called like a member of `Object.prototype`. -/
structure ReadsUnchanged (xlsx : Xlsx N) (table : Export config) : Prop where
  identified : ∀ row ∈ table.rows, numbers.truthyValue (uploadedId numbers config row) = true
  cells : ∀ id,
    ∀ uploaded ∈ lastWith (fun row => numbers.string (uploadedId numbers config row)) id table.rows,
    ∀ fetched ∈ lastWith (fun row => numbers.string (fetchedId xlsx row)) id table.rows,
    ∀ header ∈ table.headers, ReadsAlike numbers config xlsx header (fetched header) (uploaded header)
  own : ∀ uploaded ∈ table.rows, numbers.string (uploadedId numbers config uploaded) ∈ objectPrototype →
    ∃ fetched ∈ table.rows, numbers.string (fetchedId xlsx fetched) =
      numbers.string (uploadedId numbers config uploaded)

theorem normalizeKey_other (row : Row N) (key other : String) (apart : config.target key ≠ other) :
    Containers.get (normalizeKey numbers config row key) other = Containers.get row other := by
  unfold normalizeKey
  split
  · rfl
  · rfl
  · exact get_set_other _ _ _ _ (Ne.symm apart)

theorem fold_other (keys : List String) (row : Row N) (other : String)
    (apart : ∀ key ∈ keys, config.target key ≠ other) :
    Containers.get (keys.foldl (normalizeKey numbers config) row) other = Containers.get row other := by
  induction keys generalizing row with
  | nil => rfl
  | cons key rest ih =>
    rw [List.foldl_cons,ih _ (fun later member => apart later (List.mem_cons_of_mem _ member))]
    exact normalizeKey_other numbers config row key other (apart key List.mem_cons_self)

theorem normalizeKey_self (row : Row N) (key : String) (value : Primitive N) (given : value ≠ .null)
    (held : Containers.get row key = some (.primitive value)) :
    Containers.get (normalizeKey numbers config row key) (config.target key) =
      some (normalizeCell numbers config key (.primitive value)) := by
  unfold normalizeKey
  rw [held]
  cases value with
  | null => exact absurd rfl given
  | _ => exact get_set_self _ _ _

theorem normalizeKey_null (row : Row N) (key : String) (held : Containers.get row key = some (.primitive .null)) :
    normalizeKey numbers config row key = row := by
  unfold normalizeKey
  rw [held]

private theorem normalizeKey_congr (row other : Row N) (key : String)
    (same : Containers.get row key = Containers.get other key)
    (target : Containers.get row (config.target key) = Containers.get other (config.target key)) :
    Containers.get (normalizeKey numbers config row key) (config.target key) =
      Containers.get (normalizeKey numbers config other key) (config.target key) := by
  unfold normalizeKey
  rw [same]
  split
  · exact target
  · exact target
  · rw [get_set_self,get_set_self]

private theorem fold_target (keys : List String) (row : Row N) (key : String) (member : key ∈ keys)
    (distinct : (keys.map config.target).Nodup)
    (apart : ∀ other ∈ keys, config.target other = other ∨ config.target other ∉ keys) :
    Containers.get (keys.foldl (normalizeKey numbers config) row) (config.target key) =
      Containers.get (normalizeKey numbers config row key) (config.target key) := by
  obtain ⟨before,behind,rfl⟩ := List.append_of_mem member
  rw [List.map_append,List.map_cons,List.nodup_append] at distinct
  obtain ⟨_,behindDistinct,across⟩ := distinct
  rw [List.foldl_append,List.foldl_cons]
  rw [fold_other numbers config behind _ _ (fun other inside same =>
    (List.nodup_cons.mp behindDistinct).1 (List.mem_map.mpr ⟨other,inside,same⟩))]
  apply normalizeKey_congr
  · apply fold_other
    intro other inside same
    rcases apart other (List.mem_append_left _ inside) with own | outside
    · refine across _ (List.mem_map_of_mem inside) _ List.mem_cons_self ?_
      rw [← same,own,own]
    · exact outside (same ▸ member)
  · apply fold_other
    intro other inside same
    exact across _ (List.mem_map_of_mem inside) _ List.mem_cons_self same

omit [DecidableEq N] in
private theorem get_sheetToJson (headers : List String) (read : String → Primitive N) (row : String → String)
    (key : String) :
    Containers.get (sheetToJson headers read row) key =
      if key ∈ headers then some (parsed read (row key)) else none := by
  induction headers with
  | nil => rfl
  | cons header rest ih =>
    by_cases same : header = key
    · subst same
      simp [sheetToJson,Containers.get,parsed]
    · have tail : Containers.get (sheetToJson (header :: rest) read row) key =
          Containers.get (sheetToJson rest read row) key := by
        simp [sheetToJson,Containers.get,same]
      rw [tail,ih]
      simp [Ne.symm same]

omit [DecidableEq N] in
private theorem keys_sheetToJson (headers : List String) (read : String → Primitive N) (row : String → String) :
    (sheetToJson headers read row).map Prod.fst = headers := by
  simp [sheetToJson,Function.comp_def]

variable {numbers config}

/-- One lemma for what a normalized row holds, column by column. -/
theorem normalized_field (table : Export config) (read : String → Primitive N) (cell : ∀ text, read text ≠ .null)
    (row : String → String) (header : String) (member : header ∈ table.headers) :
    Containers.get (normalizeRow numbers config (sheetToJson table.headers read row)) (config.target header) =
      field numbers config read header (row header) := by
  rw [normalizeRow,keys_sheetToJson,fold_target numbers config _ _ _ member table.distinct table.apart]
  have held : Containers.get (sheetToJson table.headers read row) header = some (parsed read (row header)) := by
    rw [get_sheetToJson,if_pos member]
  unfold field
  split
  next empty =>
    rw [parsed,if_pos empty] at held
    rw [normalizeKey_null numbers config _ _ held,get_sheetToJson]
    rcases table.apart header member with own | outside
    · rw [own,if_pos member,if_pos rfl,parsed,if_pos empty]
    · have moved : config.target header ≠ header := fun own => outside (own.symm ▸ member)
      rw [if_neg outside,if_neg moved]
  next full =>
    rw [parsed,if_neg full] at held ⊢
    exact normalizeKey_self numbers config _ header _ (cell _) held

private theorem normalized_source (table : Export config) (read : String → Primitive N) (row : String → String)
    (header : String) (member : header ∈ table.headers) (moved : config.target header ≠ header) :
    Containers.get (normalizeRow numbers config (sheetToJson table.headers read row)) header =
      some (parsed read (row header)) := by
  rw [normalizeRow,keys_sheetToJson,fold_other]
  · rw [get_sheetToJson,if_pos member]
  · intro key inside same
    rcases table.apart key inside with own | outside
    · exact moved (by rw [← same,own,own])
    · exact outside (same ▸ member)

private theorem normalized_absent (table : Export config) (read : String → Primitive N) (row : String → String)
    (key : String) (unlisted : key ∉ table.headers) (untargeted : key ∉ table.headers.map config.target) :
    Containers.get (normalizeRow numbers config (sheetToJson table.headers read row)) key = none := by
  rw [normalizeRow,keys_sheetToJson,fold_other]
  · rw [get_sheetToJson,if_neg unlisted]
  · exact fun other inside same => untargeted (List.mem_map.mpr ⟨other,inside,same⟩)

variable (deepDiff : DeepDiff numbers config)

theorem diff_eq_nil_iff (lhs rhs : Row N) : deepDiff.diff lhs rhs = [] ↔
    ∀ key, differsAt numbers config key (Containers.get lhs key) (Containers.get rhs key) = false := by
  have reports := deepDiff.reports lhs rhs
  constructor
  · intro none key
    rw [← Bool.not_eq_true,← reports,none]
    exact List.not_mem_nil
  · intro alike
    by_contra some_difference
    obtain ⟨difference,member⟩ := List.exists_mem_of_ne_nil _ some_difference
    have differs := (reports difference.path).mp (List.mem_map_of_mem member)
    rw [alike] at differs
    cases differs

private theorem diff_eq_nil_iff_reads (table : Export config) (xlsx : Xlsx N) (fetched uploaded : String → String) :
    deepDiff.diff (normalizeRow numbers config (sheetToJson table.headers xlsx.infer fetched))
        (normalizeRow numbers config (sheetToJson table.headers Primitive.text uploaded)) = [] ↔
      ∀ header ∈ table.headers, ReadsAlike numbers config xlsx header (fetched header) (uploaded header) := by
  have inferred (text : String) : xlsx.infer text ≠ .null := (xlsx.cell text).2
  have raw (text : String) : Primitive.text (N := N) text ≠ .null := by simp
  rw [diff_eq_nil_iff]
  constructor
  · intro alike header member
    constructor
    · have at_target := alike (config.target header)
      rwa [normalized_field table _ inferred _ _ member,normalized_field table _ raw _ _ member] at at_target
    · intro moved
      have at_source := alike header
      rwa [normalized_source table _ _ _ member moved,normalized_source table _ _ _ member moved] at at_source
  · intro alike key
    by_cases target : key ∈ table.headers.map config.target
    · obtain ⟨header,member,rfl⟩ := List.mem_map.mp target
      rw [normalized_field table _ inferred _ _ member,normalized_field table _ raw _ _ member]
      exact (alike header member).1
    · by_cases listed : key ∈ table.headers
      · have moved : config.target key ≠ key := fun own => target (List.mem_map.mpr ⟨key,listed,own⟩)
        rw [normalized_source table _ _ _ listed moved,normalized_source table _ _ _ listed moved]
        exact (alike key listed).2 moved
      · rw [normalized_absent table _ _ _ listed target,normalized_absent table _ _ _ listed target]
        simp [differsAt]

omit [DecidableEq N] in
private theorem id_target (table : Export config) : config.target "id" = "id" := by
  rcases table.apart "id" table.identified with own | outside
  · exact own
  · have same : relationalKey "id" = "id" := by decide
    rw [Config.target,same] at outside ⊢
    split <;> rfl

private theorem normalized_id (table : Export config) (row : String → String) (member : row ∈ table.rows) :
    idOf (normalizeRow numbers config (sheetToJson table.headers Primitive.text row)) =
      uploadedId numbers config row := by
  have raw (text : String) : Primitive.text (N := N) text ≠ .null := by simp
  have held : Containers.get (normalizeRow numbers config (sheetToJson table.headers Primitive.text row))
    (config.target "id") =
      field numbers config Primitive.text "id" (row "id") :=
    normalized_field table Primitive.text raw row "id" table.identified
  rw [id_target table,field,if_neg (table.nonempty row member),parsed,if_neg (table.nonempty row member)] at held
  rw [idOf,held,Option.getD_some,uploadedId]

omit [DecidableEq N] in
private theorem fetched_id (table : Export config) (xlsx : Xlsx N) (row : String → String) (member : row ∈ table.rows) :
    idOf (sheetToJson table.headers xlsx.infer row) = fetchedId xlsx row := by
  rw [idOf,get_sheetToJson,if_pos table.identified,parsed,if_neg (table.nonempty row member)]
  rfl

omit [DecidableEq N] in
private theorem last_of_map (rows : List (String → String)) (build : (String → String) → Row N) (key : Row N → String)
    (own : (String → String) → String) (same : ∀ row ∈ rows, key (build row) = own row) (id : String) :
    ((rows.map build).filter (fun row => key row = id)).getLast? = (lastWith own id rows).map build := by
  rw [List.filter_map,List.getLast?_map,lastWith]
  congr 2
  apply List.filter_congr
  intro row member
  simp [same row member]

omit [DecidableEq N] in
private theorem lastWith_mem {key : (String → String) → String} {id : String} {rows : List (String → String)}
    {row : String → String} (last : lastWith key id rows = some row) : row ∈ rows ∧ key row = id := by
  have member := List.mem_of_getLast? last
  simpa using List.mem_filter.mp member

private theorem lastWith_exists (key : (String → String) → String) {rows : List (String → String)}
    {row : String → String} (member : row ∈ rows) : ∃ last, lastWith key (key row) rows = some last := by
  apply Option.isSome_iff_exists.mp
  rw [lastWith,List.getLast?_isSome]
  exact List.ne_nil_of_mem (List.mem_filter.mpr ⟨member,by simp⟩)

def noChanges (result : DiffResult N) : Prop :=
  result.created = [] ∧ result.updated = [] ∧ result.tableData = []

private theorem differences_eq_nil_iff (oldMap : List (String × Row N)) (id : String) (new : Row N) :
    differences deepDiff oldMap id new = [] ↔ (∀ old ∈ Containers.get oldMap id, deepDiff.diff old new = []) ∧
      (id ∈ objectPrototype → (Containers.get oldMap id).isSome = true) := by
  unfold differences
  cases Containers.get oldMap id with
  | some old => simp
  | none =>
    by_cases inherited : id ∈ objectPrototype
    · simp [inherited,(deepDiff.pathless new).1]
    · simp [inherited]

private theorem changes_eq_nil_iff (oldMap newMap : List (String × Row N)) (distinct : (newMap.map Prod.fst).Nodup) :
    changes deepDiff oldMap newMap = [] ↔ ∀ id, ∀ new ∈ Containers.get newMap id,
      (∀ old ∈ Containers.get oldMap id, deepDiff.diff old new = []) ∧
        (id ∈ objectPrototype → (Containers.get oldMap id).isSome = true) := by
  rw [changes,List.filterMap_eq_nil_iff]
  constructor
  · intro unchanged id new held
    have quiet := unchanged (id,new) ((get_some_iff distinct id new).mp held)
    rw [← differences_eq_nil_iff]
    by_contra differs
    simp [differs] at quiet
  · rintro alike ⟨id,new⟩ member
    have quiet := (differences_eq_nil_iff deepDiff oldMap id new).mpr
      (alike id new ((get_some_iff distinct id new).mpr member))
    simp [quiet]

private theorem compare_noChanges_iff (jsonBefore jsonAfter : List (Row N)) :
    noChanges (compare deepDiff jsonBefore jsonAfter) ↔
      (∀ row ∈ jsonAfter.map (normalizeRow numbers config), numbers.truthyValue (idOf row) = true) ∧
      ∀ id, ∀ new ∈ ((jsonAfter.map (normalizeRow numbers config)).filter (fun row =>
        numbers.string (idOf row) = id)).getLast?,
        (∀ old ∈ (jsonBefore.filter (fun row => numbers.string (idOf row) = id)).getLast?,
          deepDiff.diff (normalizeRow numbers config old) new = []) ∧
        (id ∈ objectPrototype → (jsonBefore.filter (fun row => numbers.string (idOf row) = id)).getLast?.isSome =
          true) := by
  simp only [noChanges,compare,List.map_eq_nil_iff,and_self,List.filter_eq_nil_iff,Bool.not_eq_true',
    Bool.not_eq_false]
  apply and_congr_right
  intro identified
  rw [List.filter_eq_self.mpr identified,changes_eq_nil_iff _ _ _ (nodup_keyed _ _ _)]
  apply forall_congr'
  intro id
  rw [get_keyed,get_keyed,Option.map_id,id_eq]
  simp

/-- Importing an unmodified export is a no-op iff each cell reads the same with its type
inferred as it does raw. -/
theorem import_noop_iff (numbers : Numbers N) (config : Config N) (deepDiff : DeepDiff numbers config) (xlsx : Xlsx N)
    (table : Export config) :
    noChanges (handleFile deepDiff xlsx table) ↔ ReadsUnchanged numbers config xlsx table := by
  have uploaded (row : String → String) (member : row ∈ table.rows) :
      idOf (normalizeRow numbers config (sheetToJson table.headers Primitive.text row)) =
        uploadedId numbers config row :=
    normalized_id table row member
  have fetched (row : String → String) (member : row ∈ table.rows) := fetched_id table xlsx row member
  rw [handleFile,compare_noChanges_iff,List.map_map]
  have after (id : String) := last_of_map table.rows
    (normalizeRow numbers config ∘ sheetToJson table.headers Primitive.text) (fun row => numbers.string (idOf row))
    (fun row => numbers.string (uploadedId numbers config row))
      (fun row member => by rw [Function.comp_apply,uploaded row member]) id
  have before (id : String) := last_of_map table.rows
    (sheetToJson table.headers xlsx.infer) (fun row => numbers.string (idOf row))
    (fun row => numbers.string (fetchedId xlsx row)) (fun row member => by rw [fetched row member]) id
  constructor
  · rintro ⟨identified,alike⟩
    refine ⟨?_,?_,?_⟩
    · intro row member
      have truthy := identified _ (List.mem_map_of_mem member)
      rwa [Function.comp_apply,uploaded row member] at truthy
    · intro id new last old found header member
      have same := (alike id _ ((after id).symm ▸ Option.mem_map_of_mem _ last)).1 _
        ((before id).symm ▸ Option.mem_map_of_mem _ found)
      exact (diff_eq_nil_iff_reads deepDiff table xlsx old new).mp same header member
    · intro row member inherited
      obtain ⟨last,held⟩ := lastWith_exists (fun row => numbers.string (uploadedId numbers config row)) member
      have found := (alike _ _ ((after _).symm ▸ Option.mem_map_of_mem _ held)).2 inherited
      rw [before,Option.isSome_map] at found
      obtain ⟨old,other⟩ := Option.isSome_iff_exists.mp found
      exact ⟨old,lastWith_mem other⟩
  · rintro ⟨identified,alike,own⟩
    refine ⟨?_,?_⟩
    · intro row member
      obtain ⟨source,inside,rfl⟩ := List.mem_map.mp member
      rw [Function.comp_apply,uploaded source inside]
      exact identified source inside
    · intro id new last
      rw [after id] at last
      obtain ⟨newSource,newLast,rfl⟩ := Option.map_eq_some_iff.mp last
      constructor
      · intro old found
        rw [before id] at found
        obtain ⟨oldSource,oldLast,rfl⟩ := Option.map_eq_some_iff.mp found
        exact (diff_eq_nil_iff_reads deepDiff table xlsx oldSource newSource).mpr
          (alike id newSource newLast oldSource oldLast)
      · intro inherited
        obtain ⟨inside,named⟩ := lastWith_mem newLast
        rw [before id,Option.isSome_map]
        obtain ⟨old,there,same⟩ := own newSource inside (named ▸ inherited)
        obtain ⟨last,held⟩ := lastWith_exists (fun row => numbers.string (fetchedId xlsx row)) there
        rw [← named,← same,held]
        rfl

end

/-- `'007'` in a text column: `XLSX.read` makes it 7, which is `'7'` as a text. -/
def leadingZero : Numbers Nat where
  ofText text := if text = "007" then 7 else 1
  ofBool value := if value then 1 else 0
  nan := 0
  toText number := if number = 7 then "7" else "1"
  truthy number := number ≠ 0

def inferNumbers : Xlsx Nat where
  infer text := if text = "007" then .number 7 else if text = "1" then .number 1 else .text text
  cell text := by split <;> [simp; (split <;> simp)]

def textColumn : Config Nat where
  columns := [⟨"code",some "text"⟩]
  changedRecordsColumnsConfig := []
  relationalFields _ := none

def exportedCode : Export textColumn where
  headers := ["id","version","code"]
  rows := [fun header => if header = "code" then "007" else "1"]
  distinct := by decide
  apart := by decide
  identified := by decide
  nonempty := by decide
  unique := by decide

theorem leading_zero_changed :
    ¬ noChanges (handleFile (keyByKey leadingZero textColumn) inferNumbers exportedCode) := by
  intro unchanged
  have updated := unchanged.2.1
  revert updated
  decide

end BoarPack.Table
