import BoarPack.Common
import BoarPack.Library.Containers
import Mathlib.Data.Rat.Defs

/-! `getFiltersSearch`: the conditions that the filters of a table become. What `Number` makes of a text
and which texts are uuids is given. -/
namespace BoarPack.Table.Filters
open Containers

inductive Number
  | finite (value : Rat)
  | infinite (negative : Bool)
  | nan
  deriving DecidableEq

/-- `inherited` is what a plain object has under a name that is not its own: a function, or an
object for `__proto__`. -/
inductive Scalar
  | undefined
  | null
  | bool (value : Bool)
  | num (value : Number)
  | str (value : String)
  | inherited (name : String)
  deriving DecidableEq

inductive Value
  | scalar (value : Scalar)
  | array (items : List Scalar)
  deriving DecidableEq

abbrev TFilters : Type := List (String × Value)

def inheritedOf (key : String) : Value := .scalar (if key ∈ objectPrototype then .inherited key else .undefined)

def valueOf (filters : TFilters) (key : String) : Value := (get filters key).getD (inheritedOf key)

/-- `Operators`. -/
inductive CondOperator
  | containsLow
  | contains
  | equals
  | in
  | inLow
  | between
  | greaterOrEquals
  | lowerOrEquals
  | isNull
  | notNull
  | starts
  deriving DecidableEq, Repr

inductive Field
  | name (field : String)
  | path (fields : List String)
  deriving DecidableEq, Repr

/-- `searchField` may be missing, or `null`. -/
structure TSearchableColumn where
  field : Field
  searchField : Option (Option String) := none
  operator : CondOperator
  filterField : Option String := none
  filterOperator : Option CondOperator := none
  numeric : Bool := false
  uuid : Bool := false
  deriving DecidableEq, Repr

namespace TSearchableColumn

def colDataIndex (col : TSearchableColumn) : String :=
  match col.field with
  | .name field => field
  | .path fields => String.intercalate "." fields

def conditionField (col : TSearchableColumn) : String :=
  -- `col.filterField || colDataIndex`
  (col.filterField.filter (· ≠ "")).getD col.colDataIndex

def conditionOperator (col : TSearchableColumn) : CondOperator :=
  -- `col.filterOperator || col.operator`
  col.filterOperator.getD col.operator

end TSearchableColumn

/-- `{ [field]: { [operator]: value } }`. -/
structure SCondition where
  field : String
  operator : CondOperator
  value : Value
  deriving DecidableEq

def isFilterValueSet (value : Value) : Bool :=
  value ≠ .scalar .undefined && value ≠ .scalar .null && value ≠ .scalar (.str "")

def filterValue (filters baseFilters : TFilters) (col : TSearchableColumn) : Value :=
  let value := valueOf filters col.colDataIndex
  if isFilterValueSet value then value else valueOf baseFilters col.colDataIndex

def Number.isFinite : Number → Bool
  | finite _ => true
  | infinite _ => false
  | nan => false

def item (items : List Scalar) (i : Nat) : Scalar := (items[i]?).getD .undefined

def numericValues (operator : CondOperator) (value : Value) : List Value :=
  match operator, value with
  | .between, .array items => (items.filter (· ≠ .undefined)).map .scalar
  | _, value => [value]

def unwrapped : Value → Value
  | .array items => .scalar (item items 0)
  | .scalar value => .scalar value

/-- The operator and the value after the `switch`. -/
def rewritten (operator : CondOperator) (value : Value) : CondOperator × Value :=
  match operator with
  | .between =>
    match value with
    | .array items =>
      if item items 0 = .undefined then (.lowerOrEquals,.scalar (item items 1))
      else if item items 1 = .undefined then (.greaterOrEquals,.scalar (item items 0))
      else (.between,value)
    | .scalar _ => (.between,value)
  | .isNull =>
    if unwrapped value ≠ .scalar (.bool true) then (.notNull,.scalar (.bool true)) else (.isNull,unwrapped value)
  | .notNull =>
    if unwrapped value ≠ .scalar (.bool true) then (.isNull,.scalar (.bool true)) else (.notNull,unwrapped value)
  | .in => if value = .array [.null] then (.isNull,.scalar (.bool true)) else (.in,value)
  | .inLow => if value = .array [.null] then (.isNull,.scalar (.bool true)) else (.inLow,value)
  | .equals =>
    if value = .array [.null] ∨ value = .scalar .null then (.isNull,.scalar (.bool true)) else (.equals,value)
  | operator => (operator,value)

def condition (col : TSearchableColumn) (value : Value) : SCondition :=
  let search := rewritten col.conditionOperator value
  ⟨col.conditionField,search.1,search.2⟩

section Given

variable (number : String → Number) (uuidValidate : String → Bool)

def Scalar.toNumber : Scalar → Number
  | undefined => .nan
  | null => .finite 0
  | bool value => .finite (if value then 1 else 0)
  | num value => value
  | str value => number value
  | inherited _ => .nan

/-- `Number(value)`. -/
def Value.toNumber : Value → Number
  | scalar value => value.toNumber number
  -- an array counts as its text: nothing and `undefined` as '', and several items have a comma between them
  | array [] => .finite 0
  | array [.undefined] => .finite 0
  | array [.bool _] => .nan
  | array [value] => value.toNumber number
  | array _ => .nan

def Value.isUuid : Value → Bool
  | scalar (.str value) => uuidValidate value
  | _ => false

/-- The callback returns without a condition. -/
def skips (col : TSearchableColumn) (value : Value) : Bool :=
  value = .scalar (.str "") || value = .scalar .undefined ||
    (col.numeric && !(numericValues col.conditionOperator value).all (fun bound => (bound.toNumber number).isFinite)) ||
    (col.uuid && !value.isUuid uuidValidate)

/-- The value that becomes the condition of a column, if any. -/
def searchValue (filters baseFilters : TFilters) (col : TSearchableColumn) : Option Value :=
  let value := filterValue filters baseFilters col
  if skips number uuidValidate col value then none else some value

/-- What the callback pushes for a column. -/
def conditionOf (filters baseFilters : TFilters) (col : TSearchableColumn) : Option SCondition :=
  (searchValue number uuidValidate filters baseFilters col).map (condition col)

/-- The keys that no column deletes. -/
def unknownKeys (searchableColumns : List TSearchableColumn) (filters baseFilters : TFilters) : List String :=
  (filters.map Prod.fst ++ baseFilters.map Prod.fst).eraseDups.filter
    (fun key => key ∉ searchableColumns.map TSearchableColumn.colDataIndex)

def getFiltersSearch (searchableColumns : List TSearchableColumn) (filters baseFilters : TFilters) :
    Except String (List SCondition) :=
  let filterKeys := unknownKeys searchableColumns filters baseFilters
  if filterKeys = [] then .ok (searchableColumns.filterMap (conditionOf number uuidValidate filters baseFilters))
  else .error ("Some filters are not defined in searchableColumns: " ++ String.intercalate ", " filterKeys)

def KeysKnown (searchableColumns : List TSearchableColumn) (filters baseFilters : TFilters) : Prop :=
  ∀ key ∈ filters.map Prod.fst ++ baseFilters.map Prod.fst, key ∈ searchableColumns.map TSearchableColumn.colDataIndex

instance (searchableColumns : List TSearchableColumn) (filters baseFilters : TFilters) :
    Decidable (KeysKnown searchableColumns filters baseFilters) :=
  inferInstanceAs (Decidable (∀ key ∈ _, _))

private theorem unknownKeys_nil_iff (searchableColumns : List TSearchableColumn) (filters baseFilters : TFilters) :
    unknownKeys searchableColumns filters baseFilters = [] ↔ KeysKnown searchableColumns filters baseFilters := by
  unfold unknownKeys KeysKnown
  simp only [List.filter_eq_nil_iff,List.mem_eraseDups,decide_eq_true_eq,not_not]

theorem getFiltersSearch_known (searchableColumns : List TSearchableColumn) (filters baseFilters : TFilters)
    (known : KeysKnown searchableColumns filters baseFilters) :
    getFiltersSearch number uuidValidate searchableColumns filters baseFilters =
      .ok (searchableColumns.filterMap (conditionOf number uuidValidate filters baseFilters)) := by
  unfold getFiltersSearch
  exact if_pos ((unknownKeys_nil_iff searchableColumns filters baseFilters).mpr known)

theorem getFiltersSearch_unknown (searchableColumns : List TSearchableColumn) (filters baseFilters : TFilters)
    (unknown : ¬ KeysKnown searchableColumns filters baseFilters) :
    getFiltersSearch number uuidValidate searchableColumns filters baseFilters =
      .error ("Some filters are not defined in searchableColumns: " ++
        String.intercalate ", " (unknownKeys searchableColumns filters baseFilters)) := by
  unfold getFiltersSearch
  exact if_neg (fun none_left => unknown ((unknownKeys_nil_iff searchableColumns filters baseFilters).mp none_left))

end Given

end BoarPack.Table.Filters
