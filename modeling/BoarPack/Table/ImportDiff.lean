import BoarPack.Table.ImportExport
import Mathlib.Data.List.Find

/-! The diff of an uploaded file and the current export, against what it is to report of them. -/
namespace BoarPack.Table.ImportDiff
open Containers

variable {N : Type} [DecidableEq N]

abbrev Parsed (N : Type) : Type := List (String × Primitive N)

def row (parsed : Parsed N) : Row N := parsed.map (fun cell => (cell.1,.primitive cell.2))

/-- The dictionary of each relational field, by the text of its ids. -/
abbrev TRelationalFields (N : Type) : Type := String → Option (String → Option (Entry N))

structure Hook (N : Type) where
  numbers : Numbers N
  columns : List Column
  changedRecordsColumnsConfig : List Column
  relationalFields : TRelationalFields N

/-- `relation.data[id]` is read by the text of the number. -/
def Hook.config (hook : Hook N) : Config N where
  columns := hook.columns
  changedRecordsColumnsConfig := hook.changedRecordsColumnsConfig
  relationalFields key := (hook.relationalFields key).map (fun data id => data (hook.numbers.toText id))

def idText (numbers : Numbers N) (parsed : Parsed N) : Option String :=
  match get parsed "id" with
  | none | some .null | some .undefined | some (.text "") => none
  | some value => some (numbers.string (.primitive value))

/-- Both files, with unique ids that are not empty; a row of the uploaded one may have none. A row is an object without
`undefined`, in which a relational field is stored under `<field>_id`. -/
structure Files (hook : Hook N) where
  before : List (Parsed N)
  after : List (Parsed N)
  objects : ∀ new ∈ after, (new.map Prod.fst).Nodup
  defined : ∀ new ∈ after, ∀ cell ∈ new, cell.2 ≠ .undefined
  stored : ∀ new ∈ after, ∀ key, (hook.relationalFields key).isSome = true → key ∉ new.map Prod.fst
  identified : ∀ old ∈ before, (idText hook.numbers old).isSome = true
  uniqueBefore : (before.map (idText hook.numbers)).Nodup
  uniqueAfter : (after.filterMap (idText hook.numbers)).Nodup

section

variable (hook : Hook N)

def normalized (parsed : Parsed N) : Row N := normalizeRow hook.numbers hook.config (row parsed)

/-- The id in a dictionary that a cell stands for, as it is written or by its number. -/
def dictionaryId (data : String → Option (Entry N)) (value : Primitive N) : Option String :=
  let text := hook.numbers.string (.primitive value)
  let number := hook.numbers.toText (hook.numbers.number (.primitive value))
  if (data text).isSome then some text
  else if (data number).isSome then some number
  else none

/-- The dictionary id of a relational field, which a file has under `<field>_id`. -/
def relatedId (data : String → Option (Entry N)) (parsed : Parsed N) (key : String) : Option String :=
  match get parsed (key ++ "_id") with
  | none | some .null => none
  | some value => dictionaryId hook data value

/-- The normalized values differ, or a relational field goes from one id of its dictionary to another. -/
def differs (old new : Parsed N) (key : String) : Bool :=
  get (normalized hook old) key ≠ get (normalized hook new) key ||
    match hook.relationalFields key with
    | none => false
    | some data => (relatedId hook data old key).isSome && (relatedId hook data new key).isSome &&
        relatedId hook data old key ≠ relatedId hook data new key

def differing (old new : Parsed N) : List String :=
  (hook.columns.map Column.dataIndex).filter (fun key => key ≠ "version" && differs hook old new key)

/-- What a cell that is not null stands for, by the type of its column. -/
def typed (key : String) (cell : Primitive N) : Value N :=
  let valueType := hook.config.valueType key
  if valueType = some "switch" then .primitive (.boolean (trueBooleanValues (.primitive cell)))
  else if valueType = some "digit" then .primitive (.number (hook.numbers.number (.primitive cell)))
  else if cell = .text "" ∨ cell = .text "null" then .primitive .null
  else if valueType = none ∨ valueType = some "text" then .primitive (.text (hook.numbers.string (.primitive cell)))
  else .primitive cell

def entryOrNull (entry : Option (Entry N)) : Value N := (entry.map Value.entry).getD (.primitive .null)

/-- The imported value of a column: the entry that the cell under `<field>_id` stands for, or the cell by the type of
the column. -/
def imported (parsed : Parsed N) (key : String) : Value N :=
  match hook.relationalFields key with
  | some data =>
    if (get parsed (key ++ "_id")).isSome then entryOrNull ((relatedId hook data parsed key).bind data)
    else .primitive .undefined
  | none =>
    match get parsed key with
    | none => .primitive .undefined
    | some .null => .primitive .null
    | some cell => typed hook key cell

/-- What is to be reported of an uploaded row that has an id: the columns that differ, the id and the version. -/
def expectedPayload (before : List (Parsed N)) (new : Parsed N) : Option (String → Option (Value N)) :=
  (idText hook.numbers new).bind (fun id =>
    (before.find? (fun old => idText hook.numbers old = some id)).bind (fun old =>
      if differing hook old new = [] then none
      else some (fun key =>
        if key ∈ differing hook old new then some (imported hook new key)
        else if key = "id" then some (.primitive (.text id))
        else if key = "version" then some (imported hook new "version")
        else none)))

variable (deepDiff : DeepDiff hook.numbers hook.config) (files : Files hook)

def handleFile : DiffResult N := compare deepDiff (files.before.map row) (files.after.map row)

/-- The rows that differ are reported, each once and in any order, and the rows without an id are created. -/
structure Complete : Prop where
  updated : ((handleFile hook deepDiff files).updated.map (fun row key => get row key)).Perm
    (files.after.filterMap (expectedPayload hook files.before))
  created : (handleFile hook deepDiff files).created =
    (files.after.filter (fun new => idText hook.numbers new = none)).map (normalized hook)

/-- No dictionary is called `id` or `version`, `<field>_id` is a cell of the field alone, and has no dictionary. -/
structure PlainNames : Prop where
  id : hook.relationalFields "id" = none
  version : hook.relationalFields "version" = none
  cell : ∀ key, (hook.relationalFields key).isSome = true → relationalKey (key ++ "_id") = key
  apart : ∀ key, (hook.relationalFields key).isSome = true → hook.relationalFields (key ++ "_id") = none

/-- The id of a row is not changed by its column when it is normalized, and can be a key of an object. -/
structure IdsKept : Prop where
  truthy : ∀ new ∈ files.after, hook.numbers.truthyValue (idOf (normalized hook new)) = (idText hook.numbers new).isSome
  text : ∀ new ∈ files.after, ∀ id ∈ idText hook.numbers new,
    hook.numbers.string (idOf (normalized hook new)) = id ∧ id ≠ "__proto__"

/-- The last cell of a field that is not null: `name.replace('_id', '')` of its header is the field. -/
def lastCell (parsed : Parsed N) (key : String) : Option (Primitive N) :=
  ((parsed.filter (fun cell => relationalKey cell.1 = key ∧ cell.2 ≠ .null)).getLast?).map Prod.snd

def Absent (parsed : Parsed N) (key : String) : Prop :=
  get parsed key = none ∧ ((hook.relationalFields key).isSome = true → lastCell parsed key = none)

/-- The cell of a relational field is the one under `<field>_id` and reads as a number as it is meant. The cell of
another column is not left out where there is one under `<column>_id`; and where it is taken for a cell of a
relational field, so that it stays as it is, it is what it is to be. -/
def Carried (parsed : Parsed N) (key : String) : Prop :=
  match hook.relationalFields key with
  | some data => ∀ cell ∈ lastCell parsed key, (get parsed (key ++ "_id")).isSome = true ∧
      data (hook.numbers.toText (hook.numbers.number (.primitive cell))) = (relatedId hook data parsed key).bind data
  | none => (get parsed key = none → Absent hook parsed (key ++ "_id")) ∧
      ((hook.relationalFields (relationalKey key)).isSome = true → ∀ cell ∈ get parsed key, cell ≠ .null →
        typed hook key cell = .primitive cell)

def shown (parsed : Parsed N) (key : String) : Option (Primitive N) :=
  (get (normalized hook parsed) key).map (getRelationalValue hook.numbers)

/-- A column that differs has a name that is not empty and does not end in `_id`, and where it is relational what is
shown of it differs; and where no column differs, nothing else does that is compared. -/
structure Told (old new : Parsed N) : Prop where
  columns : ∀ key ∈ differing hook old new, key ≠ "" ∧ isRelationalId key = false ∧
    ((hook.relationalFields key).isSome = true → shown hook old key ≠ shown hook new key)
  others : differing hook old new = [] → ∀ key,
    differsAt hook.numbers hook.config key (get (normalized hook old) key) (get (normalized hook new) key) = false

/-- An uploaded row is told from the row of the export with its id, and what is sent of it is what it has; and one
whose id is called like a member of `Object.prototype` is in the export. -/
structure Exact (new : Parsed N) : Prop where
  told : ∀ old ∈ files.before, idText hook.numbers old = idText hook.numbers new → Told hook old new
  carried : ∀ old ∈ files.before, idText hook.numbers old = idText hook.numbers new →
    ∀ key ∈ differing hook old new, Carried hook new key
  own : ∀ id ∈ idText hook.numbers new, id ∈ objectPrototype → ∃ old ∈ files.before, idText hook.numbers old = some id

end

variable {hook : Hook N} {deepDiff : DeepDiff hook.numbers hook.config} {files : Files hook}

omit [DecidableEq N] in
private theorem idText_string {numbers : Numbers N} {parsed : Parsed N} {id : String}
    (identified : idText numbers parsed = some id) :
    numbers.string (idOf (row parsed)) = id := by
  have held : get (row parsed) "id" = (get parsed "id").map Value.primitive := get_map parsed Value.primitive "id"
  rw [idOf,held]
  unfold idText at identified
  split at identified
  next => cases identified
  next => cases identified
  next => cases identified
  next => cases identified
  next value _ _ _ found =>
    rw [found]
    exact Option.some.inj identified

omit [DecidableEq N] in
private theorem string_eq_iff {old : Parsed N} (member : old ∈ files.before) (id : String) :
    hook.numbers.string (idOf (row old)) = id ↔ idText hook.numbers old = some id := by
  obtain ⟨own,found⟩ := Option.isSome_iff_exists.mp (files.identified old member)
  rw [idText_string found,found,Option.some.injEq]

omit [DecidableEq N] in
private theorem unique_strings (files : Files hook) :
    (files.before.map (fun old => hook.numbers.string (idOf (row old)))).Nodup := by
  have unique := files.uniqueBefore
  have texts : files.before.map (idText hook.numbers) = files.before.map (some ∘ fun old =>
      hook.numbers.string (idOf (row old))) :=
    List.map_congr_left (fun old member => (string_eq_iff member _).mp rfl)
  rw [texts,← List.map_map] at unique
  exact unique.of_map some

private theorem get_oldMap (id : String) :
    get (keyed (fun row => hook.numbers.string (idOf row)) (normalizeRow hook.numbers hook.config)
      (files.before.map row)) id =
      (files.before.find? (fun old => idText hook.numbers old = some id)).map (normalized hook) := by
  have same : ∀ old ∈ files.before,
      decide (hook.numbers.string (idOf (row old)) = id) = decide (idText hook.numbers old = some id) :=
    fun old member => decide_eq_decide.mpr (string_eq_iff member id)
  rw [get_keyed,List.filter_map,List.getLast?_map,Option.map_map]
  have last := getLast?_unique (fun old => hook.numbers.string (idOf (row old))) (unique_strings files) id
  exact congrArg (Option.map (normalized hook)) (last.trans (List.find?_congr same))

def reported (deepDiff : DeepDiff hook.numbers hook.config) (old new : Parsed N) : List String :=
  ((deepDiff.diff (normalized hook old) (normalized hook new)).map Difference.path).filter (fun field => field ≠ "")

/-- What the code reports of an uploaded row. -/
def payload (deepDiff : DeepDiff hook.numbers hook.config) (before : List (Parsed N)) (new : Parsed N) :
    Option (Row N) :=
  (idText hook.numbers new).bind (fun id =>
    match before.find? (fun old => idText hook.numbers old = some id) with
    | some old =>
      if deepDiff.diff (normalized hook old) (normalized hook new) = [] then none
      else some (updatedPayload hook.config id (normalized hook new) (reported deepDiff old new))
    | none => if id ∈ objectPrototype then some (updatedPayload hook.config id (normalized hook new) []) else none)

private theorem identified_rows (kept : IdsKept hook files) {pool : List (Parsed N)}
    (inside : ∀ new ∈ pool, new ∈ files.after) :
    ((pool.filter (fun new => (idText hook.numbers new).isSome)).map (normalized hook)).map
        (fun row => (hook.numbers.string (idOf row),row)) =
      pool.filterMap (fun new => (idText hook.numbers new).map (fun id => (id,normalized hook new))) := by
  induction pool with
  | nil => rfl
  | cons new rest ih =>
    have later := ih (fun other member => inside other (List.mem_cons_of_mem _ member))
    cases own : idText hook.numbers new with
    | none => simpa [own] using later
    | some id =>
      have text := (kept.text new (inside new List.mem_cons_self) id own).1
      simpa [own,text] using later

private theorem newMap_eq (kept : IdsKept hook files) :
    keyed (fun row => hook.numbers.string (idOf row)) id
        (((files.after.map row).map (normalizeRow hook.numbers hook.config)).filter
          (fun row => hook.numbers.truthyValue (idOf row))) =
      files.after.filterMap (fun new => (idText hook.numbers new).map (fun id => (id,normalized hook new))) := by
  have truthy : ((files.after.map row).map (normalizeRow hook.numbers hook.config)).filter
      (fun row => hook.numbers.truthyValue (idOf row)) =
        (files.after.filter (fun new => (idText hook.numbers new).isSome)).map (normalized hook) := by
    rw [List.map_map,List.filter_map]
    exact congrArg (List.map _) (List.filter_congr kept.truthy)
  have rows := identified_rows kept (fun _ member => member)
  have texts : ((files.after.filter (fun new => (idText hook.numbers new).isSome)).map (normalized hook)).map
      (fun row => hook.numbers.string (idOf row)) = files.after.filterMap (idText hook.numbers) := by
    have firsts := congrArg (List.map Prod.fst) rows
    simpa [List.map_filterMap,Function.comp_def] using firsts
  rw [truthy,keyed_nodup _ _ (texts ▸ files.uniqueAfter)]
  exact rows

private theorem pathless_fields (row : Row N) :
    ((deepDiff.unlike row).map Difference.path).filter (fun field => field ≠ "") = [] := by
  apply List.filter_eq_nil_iff.mpr
  intro field member
  obtain ⟨difference,inside,rfl⟩ := List.mem_map.mp member
  simp [(deepDiff.pathless row).2 difference inside]

private theorem updated_eq (kept : IdsKept hook files) :
    (handleFile hook deepDiff files).updated = files.after.filterMap (payload deepDiff files.before) := by
  simp only [handleFile,compare]
  rw [newMap_eq kept,changes,List.filterMap_filterMap,List.map_filterMap]
  apply List.filterMap_congr
  intro new _
  unfold payload
  cases idText hook.numbers new with
  | none => rfl
  | some id =>
    simp only [Option.map_some,Option.bind_some,differences]
    rw [get_oldMap]
    cases files.before.find? (fun old => idText hook.numbers old = some id) with
    | none =>
      simp only [Option.map_none]
      by_cases inherited : id ∈ objectPrototype
      · rw [if_pos inherited,if_pos inherited,if_neg (deepDiff.pathless _).1,Option.map_some,pathless_fields]
      · rw [if_neg inherited,if_neg inherited,if_pos rfl,Option.map_none]
    | some old =>
      simp only [Option.map_some]
      split
      next => rfl
      next => rfl

private theorem created_eq (kept : IdsKept hook files) : (handleFile hook deepDiff files).created =
    (files.after.filter (fun new => idText hook.numbers new = none)).map (normalized hook) := by
  simp only [handleFile,compare]
  rw [List.map_map,List.filter_map]
  apply congrArg (List.map (normalized hook))
  apply List.filter_congr
  intro new member
  refine (congrArg not (kept.truthy new member)).trans ?_
  cases idText hook.numbers new with
  | none => rfl
  | some id => rfl

section Cells

variable {new : Parsed N} {key : String}

omit [DecidableEq N] in
private theorem related_isSome (hook : Hook N) (key : String) :
    (hook.config.relationalFields key).isSome = (hook.relationalFields key).isSome :=
  Option.isSome_map

omit [DecidableEq N] in
private theorem keys_row (parsed : Parsed N) : (row parsed).map Prod.fst = parsed.map Prod.fst := by
  simp [row,Function.comp_def]

omit [DecidableEq N] in
private theorem get_row (parsed : Parsed N) (key : String) :
    get (row parsed) key = (get parsed key).map Value.primitive :=
  get_map parsed Value.primitive key

omit [DecidableEq N] in
private theorem target_related {header : String}
    (related : (hook.relationalFields (relationalKey header)).isSome = true) :
    hook.config.target header = relationalKey header := by
  rw [Config.target,related_isSome,if_pos related]

omit [DecidableEq N] in
private theorem target_plain {header : String} (plain : hook.relationalFields (relationalKey header) = none) :
    hook.config.target header = header := by
  rw [Config.target,related_isSome,plain]
  rfl

omit [DecidableEq N] in
/-- A column that is not relational is normalized into from its own cell only. -/
theorem target_ne {header : String} (plain : hook.relationalFields key = none) (other : header ≠ key) :
    hook.config.target header ≠ key := by
  cases related : hook.relationalFields (relationalKey header) with
  | none =>
    rw [target_plain related]
    exact other
  | some data =>
    rw [target_related (by rw [related]; rfl)]
    rintro rfl
    rw [plain] at related
    cases related

omit [DecidableEq N] in
/-- A cell of a row is normalized into no other cell of it. -/
theorem target_ne_header (member : new ∈ files.after) {header other : String} (inside : other ∈ new.map Prod.fst)
    (apart : header ≠ other) : hook.config.target header ≠ other := by
  cases related : hook.relationalFields other with
  | none => exact target_ne related apart
  | some data => exact absurd inside (files.stored new member other (by rw [related]; rfl))

/-- Where `<field>` of the name of a column is that of a relational field, its own cell stays as it is. -/
theorem get_normalized_raw (new : Parsed N) (plain : hook.relationalFields key = none)
    (related : (hook.relationalFields (relationalKey key)).isSome = true) :
    get (normalized hook new) key = (get new key).map Value.primitive := by
  rw [normalized,normalizeRow,fold_other,get_row]
  intro header _
  by_cases same : header = key
  · subst same
    rw [target_related related]
    intro again
    rw [again,plain] at related
    cases related
  · exact target_ne plain same

private theorem normalizeCell_typed (plain : hook.relationalFields (relationalKey key) = none) (cell : Primitive N) :
    normalizeCell hook.numbers hook.config key (.primitive cell) = typed hook key cell := by
  have nothing : hook.config.relationalFields (relationalKey key) = none := Option.map_eq_none_iff.mpr plain
  unfold normalizeCell typed
  rw [nothing]
  simp only [Value.primitive.injEq]

private theorem get_normalized_plain (distinct : (new.map Prod.fst).Nodup) (plain : hook.relationalFields key = none)
    (unrelated : hook.relationalFields (relationalKey key) = none) :
    get (normalized hook new) key =
      (get new key).map (fun cell => if cell = .null then .primitive .null else typed hook key cell) := by
  rw [normalized,normalizeRow,keys_row]
  cases held : get new key with
  | none =>
    have unlisted := (get_none_iff new key).mp held
    rw [fold_other,get_row,held]
    · rfl
    · intro header member
      exact target_ne plain (fun same => unlisted (same ▸ member))
  | some cell =>
    have listed : key ∈ new.map Prod.fst := by
      by_contra absent
      rw [(get_none_iff new key).mpr absent] at held
      cases held
    obtain ⟨earlier,later,split⟩ := List.append_of_mem listed
    rw [split,List.nodup_append,List.nodup_cons] at distinct
    obtain ⟨_,⟨once,_⟩,across⟩ := distinct
    rw [split,List.foldl_append,List.foldl_cons,
      fold_other _ _ later _ _ (fun header member => target_ne plain (fun same => once (same ▸ member)))]
    have reached : get (earlier.foldl (normalizeKey hook.numbers hook.config) (row new)) key =
        some (.primitive cell) := by
      rw [fold_other _ _ earlier _ _ (fun header member =>
        target_ne plain (across header member key List.mem_cons_self)),
        get_row,held]
      rfl
    by_cases null : cell = .null
    · subst null
      rw [normalizeKey_null _ _ _ _ reached,reached]
      rfl
    · have self := normalizeKey_self hook.numbers hook.config _ key cell null reached
      rw [target_plain unrelated,normalizeCell_typed unrelated] at self
      rw [self,Option.map_some,if_neg null]

/-- Of the cells so far, the last one of the field decides. -/
theorem get_fold_related (member : new ∈ files.after) {data : String → Option (Entry N)}
    (related : hook.relationalFields key = some data) (cells later : Parsed N) (split : cells ++ later = new) :
    get ((cells.map Prod.fst).foldl (normalizeKey hook.numbers hook.config) (row new)) key =
      (lastCell cells key).map (fun cell =>
        entryOrNull (data (hook.numbers.toText (hook.numbers.number (.primitive cell))))) := by
  have absent := files.stored new member key (by rw [related]; rfl)
  induction cells using List.reverseRecOn generalizing later with
  | nil =>
    rw [List.map_nil,List.foldl_nil,get_row,(get_none_iff new key).mpr absent]
    rfl
  | append_singleton cells cell ih =>
    have before := ih (cell :: later) (by rw [← split]; simp)
    have objects := files.objects new member
    have keys : new.map Prod.fst = cells.map Prod.fst ++ cell.1 :: later.map Prod.fst := by rw [← split]; simp
    have inside : cell.1 ∈ new.map Prod.fst := by rw [keys]; simp
    have held : get new cell.1 = some cell.2 :=
      (get_some_iff objects cell.1 cell.2).mpr (by rw [← split]; simp)
    rw [List.map_append,List.map_singleton,List.foldl_append,List.foldl_cons,List.foldl_nil]
    have reached : get ((cells.map Prod.fst).foldl (normalizeKey hook.numbers hook.config) (row new)) cell.1 =
        some (.primitive cell.2) := by
      rw [fold_other,get_row,held]
      · rfl
      · intro header listed
        refine target_ne_header member inside (fun same => ?_)
        rw [keys,List.nodup_append] at objects
        exact objects.2.2 header listed cell.1 List.mem_cons_self same
    by_cases null : cell.2 = .null
    · rw [null] at reached
      rw [normalizeKey_null _ _ _ _ reached,before]
      simp [lastCell,null]
    · by_cases own : relationalKey cell.1 = key
      · have self := normalizeKey_self hook.numbers hook.config _ cell.1 cell.2 null reached
        rw [target_related (by rw [own,related]; rfl),own] at self
        have last : lastCell (cells ++ [cell]) key = some cell.2 := by simp [lastCell,own,null]
        rw [self,last,normalizeCell,own]
        have config : hook.config.relationalFields key = some (fun id => data (hook.numbers.toText id)) := by
          simp [Hook.config,related]
        rw [config,Option.map_some]
        dsimp only
        cases data (hook.numbers.toText (hook.numbers.number (.primitive cell.2))) <;> rfl
      · have elsewhere : hook.config.target cell.1 ≠ key := by
          cases other : hook.relationalFields (relationalKey cell.1) with
          | none =>
            rw [target_plain other]
            exact fun same => absent (same ▸ inside)
          | some _ =>
            rw [target_related (by rw [other]; rfl)]
            exact own
        rw [normalizeKey_other _ _ _ _ _ elsewhere,before]
        simp [lastCell,own]

private theorem get_normalized_related (member : new ∈ files.after) {data : String → Option (Entry N)}
    (related : hook.relationalFields key = some data) : get (normalized hook new) key =
      (lastCell new key).map (fun cell =>
        entryOrNull (data (hook.numbers.toText (hook.numbers.number (.primitive cell))))) := by
  rw [normalized,normalizeRow,keys_row]
  exact get_fold_related member related new [] (List.append_nil new)

omit [DecidableEq N] in
private theorem entryOrNull_inj {first second : Option (Entry N)} :
    entryOrNull first = entryOrNull second ↔ first = second := by
  cases first <;> cases second <;> simp [entryOrNull]

omit [DecidableEq N] in
private theorem entryOrNull_defined (entry : Option (Entry N)) : entryOrNull entry ≠ .primitive .undefined := by
  cases entry <;> simp [entryOrNull]

private theorem typed_defined {cell : Primitive N} (defined : cell ≠ .undefined) :
    typed hook key cell ≠ .primitive .undefined := by
  unfold typed
  dsimp only
  split
  next => simp
  next =>
    split
    next => simp
    next =>
      split
      next => simp
      next =>
        split
        next => simp
        next => simpa using defined

omit [DecidableEq N] in
private theorem cell_defined (member : new ∈ files.after) {cell : Primitive N} (held : get new key = some cell) :
    cell ≠ .undefined :=
  files.defined new member (key,cell) ((get_some_iff (files.objects new member) key cell).mp held)

/-- What stands under the name of a cell is `undefined` only where there is nothing. -/
theorem undefined_iff (member : new ∈ files.after) :
    (get (normalized hook new) key).getD (.primitive .undefined) = .primitive .undefined ↔ Absent hook new key := by
  unfold Absent
  cases related : hook.relationalFields key with
  | some data =>
    have unlisted := (get_none_iff new key).mpr (files.stored new member key (by rw [related]; rfl))
    rw [get_normalized_related member related,unlisted]
    cases lastCell new key with
    | none => simp
    | some cell => simp [entryOrNull_defined]
  | none =>
    cases moved : hook.relationalFields (relationalKey key) with
    | some data =>
      rw [get_normalized_raw new related (by rw [moved]; rfl)]
      cases held : get new key with
      | none => simp
      | some cell => simpa using cell_defined member held
    | none =>
      rw [get_normalized_plain (files.objects new member) related moved]
      cases held : get new key with
      | none => simp
      | some cell =>
        by_cases null : cell = .null
        · simp [null]
        · simpa [null] using typed_defined (cell_defined member held)

omit [DecidableEq N] in
private theorem columnValue_some {parsed : Row N} {value : Value N} (held : get parsed key = some value) :
    columnValue parsed key = value := by
  rw [columnValue,held]

omit [DecidableEq N] in
private theorem columnValue_none {parsed : Row N} (absent : get parsed key = none) :
    columnValue parsed key = (get parsed (key ++ "_id")).getD (.primitive .undefined) := by
  rw [columnValue,absent]

/-- A relational field is sent as the entry of its last cell; without one, as the cell under `<field>_id`, which is
null. -/
theorem related_sent_iff (names : PlainNames hook) (member : new ∈ files.after) {data : String → Option (Entry N)}
    (related : hook.relationalFields key = some data) :
    columnValue (normalized hook new) key = imported hook new key ↔ Carried hook new key := by
  have some_data : (hook.relationalFields key).isSome = true := by rw [related]; rfl
  have read := get_normalized_related member related
  unfold Carried imported
  rw [related]
  dsimp only
  cases last : lastCell new key with
  | some cell =>
    rw [last,Option.map_some] at read
    rw [columnValue_some read]
    cases stored : get new (key ++ "_id") with
    | none => simp [entryOrNull_defined]
    | some own => simp [entryOrNull_inj]
  | none =>
    rw [last,Option.map_none] at read
    rw [columnValue_none read,get_normalized_raw new (names.apart key some_data)
      (by rw [names.cell key some_data]; exact some_data)]
    cases stored : get new (key ++ "_id") with
    | none => simp
    | some own =>
      have null : own = .null := by
        by_contra full
        have there : (key ++ "_id",own) ∈ new := (get_some_iff (files.objects new member) _ _).mp stored
        have listed : (key ++ "_id",own) ∈ new.filter (fun cell => relationalKey cell.1 = key ∧ cell.2 ≠ .null) :=
          List.mem_filter.mpr ⟨there,by simp [names.cell key some_data,full]⟩
        rw [lastCell,Option.map_eq_none_iff,List.getLast?_eq_none_iff] at last
        rw [last] at listed
        cases listed
      subst null
      simp [relatedId,stored,entryOrNull]

private theorem plain_sent_iff (member : new ∈ files.after) (plain : hook.relationalFields key = none) :
    columnValue (normalized hook new) key = imported hook new key ↔ Carried hook new key := by
  have objects := files.objects new member
  unfold Carried imported
  rw [plain]
  dsimp only
  cases moved : hook.relationalFields (relationalKey key) with
  | some data =>
    have read := get_normalized_raw new plain (by rw [moved]; rfl)
    cases held : get new key with
    | none =>
      rw [held,Option.map_none] at read
      rw [columnValue_none read]
      simp [undefined_iff member]
    | some cell =>
      rw [held,Option.map_some] at read
      rw [columnValue_some read]
      by_cases null : cell = .null
      · subst null
        simp
      · cases cell <;> simp_all [eq_comm]
  | none =>
    have read := get_normalized_plain objects plain moved
    cases held : get new key with
    | none =>
      rw [held,Option.map_none] at read
      rw [columnValue_none read]
      simp [undefined_iff member]
    | some cell =>
      rw [held,Option.map_some] at read
      rw [columnValue_some read]
      cases cell <;> simp

private theorem sent_iff (names : PlainNames hook) (member : new ∈ files.after) :
    columnValue (normalized hook new) key = imported hook new key ↔ Carried hook new key := by
  cases related : hook.relationalFields key with
  | none => exact plain_sent_iff member related
  | some data => exact related_sent_iff names member related

private theorem version_sent (names : PlainNames hook) (member : new ∈ files.after) :
    (get (normalized hook new) "version").getD (.primitive .undefined) = imported hook new "version" := by
  have own : relationalKey "version" = "version" := by decide
  rw [get_normalized_plain (files.objects new member) names.version (own.symm ▸ names.version),imported,names.version]
  cases get new "version" with
  | none => rfl
  | some cell => cases cell <;> rfl

private theorem id_imported (names : PlainNames hook) (member : new ∈ files.after) :
    idOf (normalized hook new) = imported hook new "id" := by
  have own : relationalKey "id" = "id" := by decide
  rw [idOf,get_normalized_plain (files.objects new member) names.id (own.symm ▸ names.id),imported,names.id]
  cases get new "id" with
  | none => rfl
  | some cell => cases cell <;> rfl

end Cells

section Pair

variable {old new : Parsed N} {key : String}

private theorem differsAt_iff {numbers : Numbers N} {config : Config N} (named : key ≠ "")
    (compared : ignored key = false) (lhs rhs : Option (Value N)) : differsAt numbers config key lhs rhs = true ↔
      if (config.relationalFields key).isSome then
        lhs.map (getRelationalValue numbers) ≠ rhs.map (getRelationalValue numbers)
      else lhs ≠ rhs := by
  unfold differsAt
  rw [if_neg (by simp [compared])]
  cases lhs with
  | none =>
    cases rhs with
    | none => simp
    | some rhs => simp [named]
  | some lhs =>
    cases rhs with
    | none => simp
    | some rhs =>
      by_cases related : (config.relationalFields key).isSome = true
      · simp [related]
      · simp [related]

private theorem mem_reported : key ∈ reported deepDiff old new ↔ key ≠ "" ∧
    differsAt hook.numbers hook.config key (get (normalized hook old) key) (get (normalized hook new) key) = true := by
  rw [reported,List.mem_filter,deepDiff.reports,and_comm]
  simp

private theorem mem_differing : key ∈ differing hook old new ↔
    key ∈ hook.columns.map Column.dataIndex ∧ key ≠ "version" ∧ differs hook old new key = true := by
  rw [differing,List.mem_filter]
  simp

private theorem compared_of_differsAt {lhs rhs : Option (Value N)}
    (differs : differsAt hook.numbers hook.config key lhs rhs = true) :
    ignored key = false := by
  cases skipped : ignored key with
  | false => rfl
  | true => simp [differsAt,skipped] at differs

private theorem reported_differing (column : key ∈ hook.columns.map Column.dataIndex)
    (report : key ∈ reported deepDiff old new) :
    key ∈ differing hook old new := by
  obtain ⟨named,differs⟩ := mem_reported.mp report
  have compared := compared_of_differsAt differs
  have apart := (differsAt_iff named compared _ _).mp differs
  have values : get (normalized hook old) key ≠ get (normalized hook new) key := by
    intro same
    rw [same] at apart
    split at apart
    next => exact apart rfl
    next => exact apart rfl
  have version : key ≠ "version" := by
    rintro rfl
    exact absurd compared (by decide)
  exact mem_differing.mpr ⟨column,version,by simp [ImportDiff.differs,values]⟩

/-- A column that differs is reported, unless its name or its dictionary hides it. -/
theorem reported_iff (column : key ∈ differing hook old new) : key ∈ reported deepDiff old new ↔
    key ≠ "" ∧ isRelationalId key = false ∧
      ((hook.relationalFields key).isSome = true → shown hook old key ≠ shown hook new key) := by
  obtain ⟨_,version,differs⟩ := mem_differing.mp column
  rw [mem_reported]
  apply and_congr_right
  intro named
  constructor
  · intro report
    have compared := compared_of_differsAt report
    have apart := (differsAt_iff named compared _ _).mp report
    refine ⟨?_,fun related => ?_⟩
    · simpa [ignored,version] using compared
    · rwa [related_isSome,if_pos related] at apart
  · rintro ⟨plain,told⟩
    have compared : ignored key = false := by simp [ignored,version,plain]
    rw [differsAt_iff named compared,related_isSome]
    split
    next related => exact told related
    next unrelated =>
      have none_there : hook.relationalFields key = none := by simpa using unrelated
      simpa [ImportDiff.differs,none_there] using differs

omit [DecidableEq N] in
private theorem get_updatedPayload (config : Config N) (id : String) (row : Row N) (fields : List String)
    (key : String) :
    get (updatedPayload config id row fields) key =
      if key ∈ config.columns.map Column.dataIndex ∧ key ∈ fields then some (columnValue row key)
      else get [("id",.primitive (.text id)),("version",(get row "version").getD (.primitive .undefined))] key := by
  unfold updatedPayload
  induction config.columns using List.reverseRecOn with
  | nil => simp
  | append_singleton columns column ih =>
    rw [List.filter_append,List.foldl_append]
    by_cases listed : column.dataIndex ∈ fields
    · simp only [List.filter_cons,listed,decide_true,if_true,List.filter_nil,List.foldl_cons,List.foldl_nil]
      by_cases same : key = column.dataIndex
      · subst same
        simp [listed]
      · rw [get_set_other _ _ _ _ same,ih]
        simp [same]
    · simp only [List.filter_cons,listed,decide_false,Bool.false_eq_true,if_false,List.filter_nil,List.foldl_nil]
      rw [ih]
      by_cases same : key = column.dataIndex
      · subst same
        simp [listed]
      · simp [same]

private theorem reported_of_payload (names : PlainNames hook) {id : String} {sent : String → Option (Value N)}
    (same : (fun key => get (updatedPayload hook.config id (normalized hook new) (reported deepDiff old new)) key) =
      sent)
    (column : key ∈ differing hook old new) (value : (sent key).isSome = true) : key ∈ reported deepDiff old new := by
  obtain ⟨_,version,_⟩ := mem_differing.mp column
  by_cases own : key = "id"
  · subst own
    exact (reported_iff column).mpr ⟨by decide,by decide,fun related => by simp [names.id] at related⟩
  · by_contra unreported
    rw [← congrFun same key,get_updatedPayload,if_neg (fun both => unreported both.2)] at value
    simp [Containers.get,Ne.symm own,Ne.symm version] at value

/-- Where the columns that differ are those that are reported, the payload is what is expected if each of them is sent
as it was imported. -/
theorem payload_iff (names : PlainNames hook) (member : new ∈ files.after) {id : String}
    (columns : ∀ key ∈ differing hook old new, key ∈ reported deepDiff old new) :
    ((fun key => get (updatedPayload hook.config id (normalized hook new) (reported deepDiff old new)) key) = fun key =>
      if key ∈ differing hook old new then some (imported hook new key)
      else if key = "id" then some (.primitive (.text id))
      else if key = "version" then some (imported hook new "version")
      else none) ↔ ∀ key ∈ differing hook old new, Carried hook new key := by
  have cell (key : String) : get (updatedPayload hook.config id (normalized hook new) (reported deepDiff old new)) key =
      if key ∈ differing hook old new then some (columnValue (normalized hook new) key)
      else if key = "id" then some (.primitive (.text id))
      else if key = "version" then some (imported hook new "version")
      else none := by
    rw [get_updatedPayload]
    by_cases differs : key ∈ differing hook old new
    · rw [if_pos differs,if_pos ⟨(mem_differing.mp differs).1,columns key differs⟩]
    · rw [if_neg differs,if_neg (fun both => differs (reported_differing both.1 both.2)),← version_sent names member]
      by_cases own : key = "id"
      · simp [Containers.get,own]
      · by_cases version : key = "version"
        · simp [Containers.get,version]
        · simp [Containers.get,own,version,Ne.symm own,Ne.symm version]
  constructor
  · intro same key differs
    have value := congrFun same key
    simp only [cell] at value
    rw [if_pos differs,if_pos differs] at value
    exact (sent_iff names member).mp (Option.some.inj value)
  · intro carried
    funext key
    simp only [cell]
    by_cases differs : key ∈ differing hook old new
    · rw [if_pos differs,if_pos differs,(sent_iff names member).mpr (carried key differs)]
    · rw [if_neg differs,if_neg differs]

private theorem payloads_eq_iff (names : PlainNames hook) (member : new ∈ files.after) {id : String} :
    ((if deepDiff.diff (normalized hook old) (normalized hook new) = [] then none
        else some (updatedPayload hook.config id (normalized hook new) (reported deepDiff old new))).map
          (fun row key => get row key)) =
      (if differing hook old new = [] then none
        else some (fun key =>
          if key ∈ differing hook old new then some (imported hook new key)
          else if key = "id" then some (.primitive (.text id))
          else if key = "version" then some (imported hook new "version")
          else none)) ↔ Told hook old new ∧ ∀ key ∈ differing hook old new, Carried hook new key := by
  constructor
  · intro same
    have columns : ∀ key ∈ differing hook old new, key ∈ reported deepDiff old new := by
      intro key column
      rw [if_neg (List.ne_nil_of_mem column)] at same
      split at same
      next => cases same
      next => exact reported_of_payload names (Option.some.inj same) column (by rw [if_pos column]; rfl)
    refine ⟨⟨fun key column => (reported_iff column).mp (columns key column),fun nothing => ?_⟩,fun key column => ?_⟩
    · apply (diff_eq_nil_iff deepDiff _ _).mp
      rw [if_pos nothing] at same
      split at same
      next empty => exact empty
      next => cases same
    · rw [if_neg (List.ne_nil_of_mem column)] at same
      split at same
      next => cases same
      next => exact (payload_iff names member columns).mp (Option.some.inj same) key column
  · rintro ⟨told,carried⟩
    by_cases nothing : differing hook old new = []
    · rw [if_pos nothing,if_pos ((diff_eq_nil_iff deepDiff _ _).mpr (told.others nothing))]
      rfl
    · have columns : ∀ key ∈ differing hook old new, key ∈ reported deepDiff old new :=
        fun key column => (reported_iff column).mpr (told.columns key column)
      obtain ⟨key,column⟩ := List.exists_mem_of_ne_nil _ nothing
      have filled : deepDiff.diff (normalized hook old) (normalized hook new) ≠ [] := by
        intro empty
        have report := columns key column
        rw [reported,empty] at report
        cases report
      rw [if_neg nothing,if_neg filled,Option.map_some,(payload_iff names member columns).mpr carried]

end Pair

/-- The id of a payload is that of the row it was made of, also where the column of the ids differs. -/
theorem string_updatedPayload (kept : IdsKept hook files) {new : Parsed N} (member : new ∈ files.after) {id : String}
    (own : idText hook.numbers new = some id) (fields : List String) :
    hook.numbers.string (idOf (updatedPayload hook.config id (normalized hook new) fields)) = id := by
  rw [idOf,get_updatedPayload]
  split
  next =>
    have truthy := kept.truthy new member
    have text := (kept.text new member id own).1
    cases found : get (normalized hook new) "id" with
    | none => simp [idOf,found,own,Numbers.truthyValue,Numbers.truthyPrimitive] at truthy
    | some value => simpa [columnValue,idOf,found] using text
  next => rfl

/-- The id of what is reported is that of the row it was made of. -/
theorem payload_tagged (kept : IdsKept hook files) : ∀ new ∈ files.after, ∀ sent,
    (payload deepDiff files.before new).map (fun row key => get row key) = some sent →
      idText hook.numbers new = some (hook.numbers.string ((sent "id").getD (.primitive .undefined))) := by
  intro new member sent made
  obtain ⟨row,found,rfl⟩ := Option.map_eq_some_iff.mp made
  obtain ⟨id,own,made⟩ := Option.bind_eq_some_iff.mp found
  rw [own]
  have text (fields : List String) := string_updatedPayload kept member own fields
  split at made
  next old _ =>
    split at made
    next => cases made
    next =>
      obtain rfl := Option.some.inj made
      exact congrArg some (text _).symm
  next =>
    split at made
    next =>
      obtain rfl := Option.some.inj made
      exact congrArg some (text _).symm
    next => cases made

private theorem expectedPayload_tagged (names : PlainNames hook) (kept : IdsKept hook files) :
    ∀ new ∈ files.after, ∀ sent, expectedPayload hook files.before new = some sent →
      idText hook.numbers new = some (hook.numbers.string ((sent "id").getD (.primitive .undefined))) := by
  intro new member sent made
  obtain ⟨id,own,made⟩ := Option.bind_eq_some_iff.mp made
  obtain ⟨old,_,made⟩ := Option.bind_eq_some_iff.mp made
  split at made
  next => cases made
  next =>
    obtain rfl := Option.some.inj made
    dsimp only
    split
    next =>
      rw [Option.getD_some,← id_imported names member,(kept.text new member id own).1,own]
    next =>
      rw [if_pos rfl]
      exact own

omit [DecidableEq N] in
private theorem found_before {id : String} {old : Parsed N}
    (found : files.before.find? (fun old => idText hook.numbers old = some id) = some old) :
    old ∈ files.before ∧ idText hook.numbers old = some id := by
  have same := List.find?_some found
  exact ⟨List.mem_of_find?_eq_some found,of_decide_eq_true same⟩

-- the row of the export with an id is the one that is found
omit [DecidableEq N] in
private theorem find_before {old : Parsed N} (member : old ∈ files.before) {id : String}
    (own : idText hook.numbers old = some id) :
    files.before.find? (fun old => idText hook.numbers old = some id) = some old := by
  cases found : files.before.find? (fun old => idText hook.numbers old = some id) with
  | none =>
    have passed := List.find?_eq_none.mp found old member
    simp [own] at passed
  | some other =>
    obtain ⟨inside,same⟩ := found_before found
    rw [List.inj_on_of_nodup_map files.uniqueBefore inside member (same.trans own.symm)]

private theorem payload_expected_iff (names : PlainNames hook) (new : Parsed N) (member : new ∈ files.after) :
    (payload deepDiff files.before new).map (fun row key => get row key) = expectedPayload hook files.before new ↔
      Exact hook files new := by
  unfold payload expectedPayload
  cases own : idText hook.numbers new with
  | none =>
    have unlike (old : Parsed N) (inside : old ∈ files.before)
      (same : idText hook.numbers old = idText hook.numbers new) :
        False := by
      have identified := files.identified old inside
      rw [same,own] at identified
      cases identified
    refine iff_of_true rfl ⟨fun old inside same => (unlike old inside same).elim,
      fun old inside same => (unlike old inside same).elim,fun id named => ?_⟩
    rw [own] at named
    cases named
  | some id =>
    simp only [Option.bind_some]
    cases found : files.before.find? (fun old => idText hook.numbers old = some id) with
    | none =>
      have unlike (old : Parsed N) (inside : old ∈ files.before) (same : idText hook.numbers old = some id) : False :=
        absurd (decide_eq_true same) (List.find?_eq_none.mp found old inside)
      by_cases inherited : id ∈ objectPrototype
      · refine iff_of_false (by simp [inherited]) (fun exact_row => ?_)
        obtain ⟨old,inside,same⟩ := exact_row.own id own inherited
        exact unlike old inside same
      · refine iff_of_true (by simp [inherited]) ⟨fun old inside same => (unlike old inside (same.trans own)).elim,
          fun old inside same => (unlike old inside (same.trans own)).elim,fun other named listed => ?_⟩
        obtain rfl := Option.some.inj (own.symm.trans named)
        exact absurd listed inherited
    | some old =>
      obtain ⟨inside,same⟩ := found_before found
      simp only [Option.bind_some]
      rw [payloads_eq_iff names member]
      have only (other : Parsed N) (there : other ∈ files.before)
        (equal : idText hook.numbers other = idText hook.numbers new) :
          other = old := by
        rw [find_before there (equal.trans own)] at found
        exact Option.some.inj found
      constructor
      · rintro ⟨told,carried⟩
        refine ⟨fun other there equal => ?_,fun other there equal => ?_,fun other named _ => ?_⟩
        · rw [only other there equal]
          exact told
        · rw [only other there equal]
          exact carried
        · obtain rfl := Option.some.inj (own.symm.trans named)
          exact ⟨old,inside,same⟩
      · exact fun exact_row => ⟨exact_row.told old inside (same.trans own.symm),
          exact_row.carried old inside (same.trans own.symm)⟩

def twoManagers : Hook Nat where
  numbers := {
    ofText text := if text = "7" then 7 else if text = "8" then 8 else 1
    ofBool value := if value then 1 else 0
    nan := 0
    toText number := if number = 7 then "7" else if number = 8 then "8" else "1"
    truthy number := number ≠ 0 }
  columns := [⟨"id",none⟩,⟨"role",none⟩]
  changedRecordsColumnsConfig := []
  relationalFields key :=
    if key = "role" then
      some (fun id =>
        if id = "7" then some ⟨.number 7,.text "Manager",.undefined⟩
        else if id = "8" then some ⟨.number 8,.text "Manager",.undefined⟩
        else none)
    else none

def roleChanged : Files twoManagers where
  before := [[("id",.number 1),("version",.number 1),("role_id",.number 7)]]
  after := [[("id",.text "1"),("version",.text "1"),("role_id",.text "8")]]
  objects := by decide
  defined := by decide
  stored := by
    intro new member key related
    obtain rfl := List.mem_singleton.mp member
    have role : key = "role" := by
      by_contra other
      simp [twoManagers,other] at related
    subst role
    decide
  identified := by decide
  uniqueBefore := by decide
  uniqueAfter := by decide

end BoarPack.Table.ImportDiff
