import BoarPack.Table.Keyword

/-! `getTableDataQueryParams`: the request that a table sends for its rows. -/
namespace BoarPack.Table.QueryParams
open Containers Columns Filters Keyword

variable {N : Type}

/-- The fields of the search form, which is an object: each of them once. -/
structure SearchForm where
  values : TFilters
  distinct : (values.map Prod.fst).Nodup

/-- `TFilterParams`, and all other properties as the filters of the search form. -/
structure TFilterParams where
  current : Option Nat := none
  pageSize : Option Nat := none
  keyword : Option String := none
  baseFilters : TFilters := []
  join : List QueryJoin := []
  sortMap : Option (List (String × String)) := none
  filtersFromSearchForm : SearchForm

abbrev TSort : Type := List (String × Bool)

structure TGetAllParams where
  page : Option Nat
  limit : Option Nat
  sort : List String
  s : Search
  join : List String
  fields : List String

/-- `sortMap?.[key]`, as the text that it makes. -/
def mapped (sortMap : Option (List (String × String))) (key : String) : Option String :=
  sortMap.bind (fun entries => (get entries key).or (if key ∈ objectPrototype then some (memberText key) else none))

def sortBy (sortMap : Option (List (String × String))) (sort : TSort) (defaultSort : Option (String × String)) :
    List String :=
  let sortBy := sort.map (fun entry =>
    let key := ((mapped sortMap entry.1).filter (· ≠ "")).getD entry.1
    key ++ "," ++ if entry.2 then "ASC" else "DESC")
  match sortBy, defaultSort with
  | [], some defaultSort => [defaultSort.1 ++ "," ++ defaultSort.2]
  | sortBy, _ => sortBy

section Given

variable (number : String → Number) (uuidValidate : String → Bool)

/-- The path parameters are sent besides, and `s` as JSON. -/
def getTableDataQueryParams (params : TFilterParams) (sort : TSort) (filters : TFilters)
    (defaultSort : Option (String × String))
    (searchableColumns : List TSearchableColumn) (columns : Forest (TIndexableRecord N)) (idColumnName : List String)
    (columnsState : Option TColumnsStates) : Except String TGetAllParams := do
  let conditions ← getFiltersSearch number uuidValidate searchableColumns
    (assign filters params.filtersFromSearchForm.values) params.baseFilters
  let s ← applyKeywordToSearch number uuidValidate columnsState ⟨some (conditions.map .field)⟩ searchableColumns
    params.keyword
  let (joinSelect,joinFields) := buildJoinFields params.join
  return {
    page := params.current
    limit := params.pageSize
    sort := sortBy params.sortMap sort defaultSort
    s := s
    join := joinSelect
    fields := collectFieldsFromColumns columns idColumnName joinFields }

-- a value that the validation rejects becomes no condition
def taken (col : TSearchableColumn) (value : Filters.Value) : Option Filters.Value :=
  if skips number uuidValidate col value then none else some value

/-- Of the values for a column the first that is set. -/
def firstSet (values : List Filters.Value) : Option Filters.Value := values.find? isFilterValueSet

/-- What the filters themselves hold, inherited values apart. -/
def held (filters : TFilters) (key : String) : Filters.Value := (get filters key).getD (.scalar .undefined)

def UsesFirstSet (form filters baseFilters : TFilters) (col : TSearchableColumn) : Prop :=
  ∀ value, firstSet [held form col.colDataIndex,held filters col.colDataIndex,held baseFilters col.colDataIndex] =
    some value →
    searchValue number uuidValidate (assign filters form) baseFilters col = taken number uuidValidate col value

/-- Where the search form holds a value that is not set and the table filter is, the base filter is taken alike; and
where neither of them has the column, what they inherit for it is taken like a base filter that is set. -/
structure Unhidden (form filters baseFilters : TFilters) (col : TSearchableColumn) : Prop where
  given : ∀ value, get form col.colDataIndex = some value → isFilterValueSet value = false →
    isFilterValueSet (held filters col.colDataIndex) = true →
      taken number uuidValidate col (held filters col.colDataIndex) =
        taken number uuidValidate col (valueOf baseFilters col.colDataIndex)
  missing : col.colDataIndex ∈ objectPrototype → get form col.colDataIndex = none →
    get filters col.colDataIndex = none →
    isFilterValueSet (held baseFilters col.colDataIndex) = true →
      taken number uuidValidate col (inheritedOf col.colDataIndex) =
        taken number uuidValidate col (held baseFilters col.colDataIndex)

private theorem searchValue_taken (filters baseFilters : TFilters) (col : TSearchableColumn) :
    searchValue number uuidValidate filters baseFilters col =
      taken number uuidValidate col (filterValue filters baseFilters col) := rfl

private theorem valueOf_assign (filters : TFilters) (form : SearchForm) (key : String) :
    valueOf (assign filters form.values) key = ((get form.values key).or (get filters key)).getD (inheritedOf key) := by
  rw [valueOf,get_assign_nodup filters form.values form.distinct]

private theorem valueOf_held {filters : TFilters} {key : String} (set : isFilterValueSet (held filters key) = true) :
    valueOf filters key = held filters key := by
  unfold valueOf held at *
  cases own : get filters key with
  | none =>
    rw [own] at set
    cases set
  | some value => rfl

private theorem firstSet_three (form filter base value : Filters.Value) :
    firstSet [form,filter,base] = some value ↔
      if isFilterValueSet form then form = value
      else if isFilterValueSet filter then filter = value
      else isFilterValueSet base = true ∧ base = value := by
  unfold firstSet
  cases first : isFilterValueSet form <;> cases second : isFilterValueSet filter <;> cases third :
    isFilterValueSet base <;>
    simp [first,second,third]

private theorem getFiltersSearch_ok {searchableColumns : List TSearchableColumn} {filters baseFilters : TFilters}
    {conditions : List SCondition}
    (search : getFiltersSearch number uuidValidate searchableColumns filters baseFilters = .ok conditions) :
    conditions = searchableColumns.filterMap (conditionOf number uuidValidate filters baseFilters) := by
  dsimp only [getFiltersSearch] at search
  split at search
  next => exact (Except.ok.inj search).symm
  next => cases search

private theorem apply_ok (columnsState : Option TColumnsStates) (clauses : List Clause)
    (searchableColumns : List TSearchableColumn) (keyword : Option String) : ∃ keywordSearches,
      applyKeywordToSearch number uuidValidate columnsState ⟨some clauses⟩ searchableColumns keyword =
        .ok ⟨some (clauses ++ keywordSearches)⟩ := by
  unfold applyKeywordToSearch
  split
  next => exact ⟨[],by rw [List.append_nil]⟩
  next => exact ⟨_,rfl⟩

/-- What follows the values of the search form: the base filter, where the merged value is not set. -/
theorem filterValue_merged {filters baseFilters : TFilters} {form : SearchForm} {col : TSearchableColumn}
    {merged : Filters.Value} (read : valueOf (assign filters form.values) col.colDataIndex = merged) :
    filterValue (assign filters form.values) baseFilters col =
      if isFilterValueSet merged then merged else valueOf baseFilters col.colDataIndex := by
  rw [filterValue,read]

section FirstSet

variable {form : SearchForm} {filters baseFilters : TFilters} {col : TSearchableColumn}

private theorem usesFirstSet_given {shown : Filters.Value} (given : get form.values col.colDataIndex = some shown) :
    UsesFirstSet number uuidValidate form.values filters baseFilters col ↔
      Unhidden number uuidValidate form.values filters baseFilters col := by
  have merged := valueOf_assign filters form col.colDataIndex
  rw [given,Option.some_or,Option.getD_some] at merged
  have here : held form.values col.colDataIndex = shown := by rw [held,given,Option.getD_some]
  have there : get form.values col.colDataIndex ≠ none := by simp [given]
  unfold UsesFirstSet
  rw [searchValue_taken]
  simp only [firstSet_three]
  rw [here,filterValue_merged merged]
  by_cases set : isFilterValueSet shown = true
  · simp only [if_pos set,forall_eq']
    refine iff_of_true trivial ⟨fun value same unset => ?_,fun _ never => absurd never there⟩
    obtain rfl := Option.some.inj (given.symm.trans same)
    rw [set] at unset
    cases unset
  · simp only [if_neg set]
    constructor
    · intro uses
      refine ⟨fun value same unset filtered => ?_,fun _ never => absurd never there⟩
      exact (uses (held filters col.colDataIndex) (by rw [if_pos filtered])).symm
    · intro unhidden value first
      split at first
      next filtered => rw [← first,unhidden.given shown given (Bool.eq_false_iff.mpr set) filtered]
      next => rw [← first.2,valueOf_held first.1]

/-- Where the search form says nothing of the column. -/
private theorem usesFirstSet_missing (given : get form.values col.colDataIndex = none) :
    UsesFirstSet number uuidValidate form.values filters baseFilters col ↔
      ∀ value, (if isFilterValueSet (held filters col.colDataIndex) then held filters col.colDataIndex = value
        else isFilterValueSet (held baseFilters col.colDataIndex) = true ∧ held baseFilters col.colDataIndex = value) →
      taken number uuidValidate col (if isFilterValueSet (valueOf filters col.colDataIndex) then
        valueOf filters col.colDataIndex else valueOf baseFilters col.colDataIndex) =
          taken number uuidValidate col value := by
  have merged : valueOf (assign filters form.values) col.colDataIndex = valueOf filters col.colDataIndex := by
    rw [valueOf_assign,given,Option.none_or,valueOf]
  have silent : isFilterValueSet (held form.values col.colDataIndex) = false := by
    rw [held,given]
    rfl
  unfold UsesFirstSet
  rw [searchValue_taken]
  simp only [firstSet_three,silent,Bool.false_eq_true,if_false]
  rw [filterValue_merged merged]

private theorem usesFirstSet_filtered (given : get form.values col.colDataIndex = none) {filter : Filters.Value}
    (filtered : get filters col.colDataIndex = some filter) :
    UsesFirstSet number uuidValidate form.values filters baseFilters col ↔
      Unhidden number uuidValidate form.values filters baseFilters col := by
  have here : held filters col.colDataIndex = filter := by rw [held,filtered,Option.getD_some]
  have read : valueOf filters col.colDataIndex = filter := by rw [valueOf,filtered,Option.getD_some]
  rw [usesFirstSet_missing number uuidValidate given,here,read]
  refine iff_of_true (fun value first => ?_) ⟨fun value same => ?_,fun _ _ never => ?_⟩
  · split at first
    next set => rw [if_pos set,first]
    next unset => rw [if_neg unset,valueOf_held first.1,first.2]
  · rw [given] at same
    cases same
  · rw [filtered] at never
    cases never

private theorem usesFirstSet_inherited (given : get form.values col.colDataIndex = none)
    (filtered : get filters col.colDataIndex = none) :
    UsesFirstSet number uuidValidate form.values filters baseFilters col ↔
      Unhidden number uuidValidate form.values filters baseFilters col := by
  have absent : isFilterValueSet (held filters col.colDataIndex) = false := by
    rw [held,filtered]
    rfl
  have read : valueOf filters col.colDataIndex = inheritedOf col.colDataIndex := by
    rw [valueOf,filtered,Option.getD_none]
  have missing : ∀ value, get form.values col.colDataIndex ≠ some value := by simp [given]
  rw [usesFirstSet_missing number uuidValidate given,read]
  simp only [absent,Bool.false_eq_true,if_false,and_imp]
  by_cases member : col.colDataIndex ∈ objectPrototype
  · have set : isFilterValueSet (inheritedOf col.colDataIndex) = true := by
      simp [inheritedOf,member,isFilterValueSet]
    rw [if_pos set]
    constructor
    · intro uses
      exact ⟨fun value same => absurd same (missing value),fun _ _ _ based => uses _ based rfl⟩
    · intro unhidden value based same
      rw [← same]
      exact unhidden.missing member given filtered based
  · have unset : isFilterValueSet (inheritedOf col.colDataIndex) = false := by
      simp [inheritedOf,member,isFilterValueSet]
    rw [unset,if_neg Bool.false_ne_true]
    refine iff_of_true (fun value based same => ?_)
      ⟨fun value same => absurd same (missing value),fun inside => absurd inside member⟩
    rw [valueOf_held based,same]

private theorem usesFirstSet_iff (form : SearchForm) (filters baseFilters : TFilters) (col : TSearchableColumn) :
    UsesFirstSet number uuidValidate form.values filters baseFilters col ↔
      Unhidden number uuidValidate form.values filters baseFilters col := by
  cases given : get form.values col.colDataIndex with
  | some shown => exact usesFirstSet_given number uuidValidate given
  | none =>
    cases filtered : get filters col.colDataIndex with
    | some filter => exact usesFirstSet_filtered number uuidValidate given filtered
    | none => exact usesFirstSet_inherited number uuidValidate given filtered

end FirstSet

/-- The conditions of the columns come first in what is sent, and a column's is made of the first value that is set
among those of the search form, the table and the base filters: if and only if no value of the search form that is not
set hides one of the table. -/
theorem filter_precedence_iff (params : TFilterParams) (sort : TSort) (filters : TFilters)
    (defaultSort : Option (String × String))
    (searchableColumns : List TSearchableColumn) (columns : Forest (TIndexableRecord N)) (idColumnName : List String)
    (columnsState : Option TColumnsStates) :
    (∀ query, getTableDataQueryParams number uuidValidate params sort filters defaultSort searchableColumns columns
      idColumnName
        columnsState = .ok query → ∃ keywordSearches, query.s = ⟨some ((searchableColumns.filterMap (fun col =>
          (searchValue number uuidValidate (assign filters params.filtersFromSearchForm.values)
            params.baseFilters col).map
            (fun value => .field (condition col value)))) ++ keywordSearches)⟩) ∧
    ∀ col, UsesFirstSet number uuidValidate params.filtersFromSearchForm.values filters params.baseFilters col ↔
      Unhidden number uuidValidate params.filtersFromSearchForm.values filters params.baseFilters col := by
  constructor
  · intro query sent
    cases search : getFiltersSearch number uuidValidate searchableColumns
      (assign filters params.filtersFromSearchForm.values) params.baseFilters with
    | error message =>
      rw [getTableDataQueryParams,search] at sent
      cases sent
    | ok conditions =>
      obtain ⟨keywordSearches,applied⟩ :=
        apply_ok number uuidValidate columnsState (conditions.map .field) searchableColumns
        params.keyword
      rw [getTableDataQueryParams,search] at sent
      simp only [bind,Except.bind,applied,pure,Except.pure,Except.ok.injEq] at sent
      refine ⟨keywordSearches,?_⟩
      rw [← sent,getFiltersSearch_ok number uuidValidate search,List.map_filterMap]
      simp only [conditionOf,Option.map_map,Function.comp_def]
  · exact usesFirstSet_iff number uuidValidate params.filtersFromSearchForm filters params.baseFilters

end Given

def nameFilter : TSearchableColumn := { field := .name "name", operator := .contains }

def emptyForm : SearchForm := ⟨[("name",.scalar (.str ""))],by decide⟩

theorem cleared_form_hides_filter :
    ¬ ∀ (number : String → Number) (uuidValidate : String → Bool) (form : SearchForm) (filters baseFilters : TFilters)
      (col : TSearchableColumn), UsesFirstSet number uuidValidate form.values filters baseFilters col := by
  intro uses
  have first := uses (fun _ => .nan) (fun _ => false) emptyForm [("name",.scalar (.str "joe"))] [] nameFilter
    (.scalar (.str "joe")) rfl
  revert first
  decide

end BoarPack.Table.QueryParams
