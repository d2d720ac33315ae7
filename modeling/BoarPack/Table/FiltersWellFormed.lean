import BoarPack.Table.FiltersUsable

/-! The conditions of a search as they are sent: written as JSON and read again. The ranges of
`NumberRangeFilterDropdown` are among the filters they come from. -/
namespace BoarPack.Table.Filters
open Containers

/-- An item of an array after `JSON.parse(JSON.stringify(…))`. -/
def Scalar.reparsed : Scalar → Scalar
  | undefined => .null
  | num (.infinite _) => .null
  | num .nan => .null
  | inherited _ => .null
  | value => value

/-- A member after `JSON.parse(JSON.stringify(…))`; it is left out where it is `undefined` or a function. -/
def Value.reparsed : Value → Option Value
  | scalar .undefined => none
  -- the object that is inherited becomes `{}`, which is no value of a filter either
  | scalar (.inherited _) => none
  | scalar value => some (.scalar value.reparsed)
  | array items => some (.array (items.map Scalar.reparsed))

def SCondition.reparsed (condition : SCondition) : Option SCondition :=
  condition.value.reparsed.map (fun value => { condition with value := value })

def CondOperator.compares : CondOperator → Bool
  | equals => true
  | greaterOrEquals => true
  | lowerOrEquals => true
  | _ => false

structure WellFormed (col : TSearchableColumn) (condition : SCondition) : Prop where
  survives : condition.reparsed = some condition
  pair : condition.operator = .between →
    ∃ low high, condition.value = .array [low,high] ∧ low ≠ .undefined ∧ high ≠ .undefined
  single : col.numeric = true → condition.operator.compares = true → condition.value.isScalar = true
  marked : condition.operator.marks = true → condition.value = .scalar (.bool true)

def written : Scalar → Bool
  | .undefined => false
  | .num value => value.isFinite
  | .inherited _ => false
  | _ => true

/-- One end is given at least, what is given can be written, and two given ends are all there is. -/
structure IsRange (items : List Scalar) : Prop where
  bounded : item items 0 ≠ .undefined ∨ item items 1 ≠ .undefined
  low : item items 0 = .undefined ∨ written (item items 0) = true
  high : item items 1 = .undefined ∨ written (item items 1) = true
  alone : item items 0 ≠ .undefined → item items 1 ≠ .undefined → items.length = 2

/-- A value that the operator of the column can carry. -/
def Shaped (col : TSearchableColumn) (value : Value) : Prop :=
  if col.conditionOperator.marks then True
  else if col.conditionOperator = .between then ∃ items, value = .array items ∧ IsRange items
  else value.elements.all written = true ∧
    (col.numeric = true → col.conditionOperator.compares = true →
      value.isScalar = true ∨ col.conditionOperator = .equals ∧ value = .array [.null])

private theorem reparsed_item_iff (element : Scalar) : element.reparsed = element ↔ written element = true := by
  cases element with
  | num value => cases value <;> simp [Scalar.reparsed,written,Number.isFinite]
  | _ => simp [Scalar.reparsed,written]

private theorem reparsed_iff (value : Value) : value.reparsed = some value ↔ value.elements.all written = true := by
  cases value with
  | scalar value =>
    have alone : (Value.scalar value).elements.all written = written value := Bool.and_true _
    rw [alone,← reparsed_item_iff]
    cases value with
    | undefined => simp [Value.reparsed,Scalar.reparsed]
    | inherited name => simp [Value.reparsed,Scalar.reparsed]
    | _ => simp [Value.reparsed]
  | array items =>
    simp only [Value.reparsed,Value.elements,Option.some.injEq,Value.array.injEq,List.all_eq_true,← reparsed_item_iff]
    constructor
    · intro same element member
      obtain ⟨i,inside,rfl⟩ := List.mem_iff_getElem.mp member
      have here := congrArg (fun items => items[i]?) same
      simpa [inside] using here
    · intro each
      nth_rewrite 2 [← List.map_id items]
      exact List.map_congr_left each

private theorem condition_reparsed_iff (condition : SCondition) :
    condition.reparsed = some condition ↔ condition.value.elements.all written = true := by
  rw [← reparsed_iff]
  unfold SCondition.reparsed
  cases condition.value.reparsed <;> cases condition <;> simp

private theorem defined_of_written (element : Scalar) (clean : written element = true) : element ≠ .undefined := by
  rintro rfl
  cases clean

private theorem wellFormed_marked (col : TSearchableColumn) (field : String) (operator : CondOperator)
    (marks : operator.marks = true) :
    WellFormed col ⟨field,operator,.scalar (.bool true)⟩ where
  survives := rfl
  pair same := by
    cases same
    cases marks
  single _ _ := rfl
  marked _ := rfl

private theorem wellFormed_plain_iff (col : TSearchableColumn) (field : String) (operator : CondOperator)
    (value : Value) (unmarked : operator.marks = false) (other : operator ≠ .between) :
    WellFormed col ⟨field,operator,value⟩ ↔
      value.elements.all written = true ∧ (col.numeric = true → operator.compares = true → value.isScalar = true) := by
  constructor
  · intro formed
    exact ⟨(condition_reparsed_iff _).mp formed.survives,formed.single⟩
  · intro both
    refine ⟨(condition_reparsed_iff _).mpr both.1,fun same => absurd same other,both.2,fun marks => ?_⟩
    rw [unmarked] at marks
    cases marks

private theorem wellFormed_between_iff (col : TSearchableColumn) (field : String) (value : Value) :
    WellFormed col ⟨field,.between,value⟩ ↔ ∃ low high, value = .array [low,high] ∧ written low = true ∧
      written high = true := by
  constructor
  · intro formed
    obtain ⟨low,high,rfl,_,_⟩ := formed.pair rfl
    have clean := (condition_reparsed_iff _).mp formed.survives
    exact ⟨low,high,rfl,by simpa [Value.elements] using clean⟩
  · intro pair
    obtain ⟨low,high,rfl,clean_low,clean_high⟩ := pair
    constructor
    · exact (condition_reparsed_iff _).mpr (by simp [Value.elements,clean_low,clean_high])
    · exact fun _ => ⟨low,high,rfl,defined_of_written low clean_low,defined_of_written high clean_high⟩
    · intro _ compares
      cases compares
    · intro marks
      cases marks

private theorem item_pair (items : List Scalar) (two : items.length = 2) : items = [item items 0,item items 1] := by
  match items, two with
  | [_, _], _ => rfl

private theorem range_wellFormed_iff (col : TSearchableColumn) (field : String) (items : List Scalar) :
    WellFormed col ⟨field,(rewritten .between (.array items)).1,(rewritten .between (.array items)).2⟩ ↔
      IsRange items := by
  unfold rewritten
  by_cases low : item items 0 = .undefined
  · simp only [low,if_true]
    rw [wellFormed_plain_iff col field .lowerOrEquals _ rfl (by decide)]
    constructor
    · intro both
      have clean : written (item items 1) = true := by simpa [Value.elements] using both.1
      exact ⟨Or.inr (defined_of_written _ clean),Or.inl low,Or.inr clean,fun given => absurd low given⟩
    · intro range
      have high := range.bounded.resolve_left (fun given => given low)
      exact ⟨by simpa [Value.elements] using range.high.resolve_left high,fun _ _ => rfl⟩
  · by_cases high : item items 1 = .undefined
    · simp only [low,high,if_true,if_false]
      rw [wellFormed_plain_iff col field .greaterOrEquals _ rfl (by decide)]
      constructor
      · intro both
        have clean : written (item items 0) = true := by simpa [Value.elements] using both.1
        exact ⟨Or.inl low,Or.inr clean,Or.inl high,fun _ given => absurd high given⟩
      · intro range
        exact ⟨by simpa [Value.elements] using range.low.resolve_left low,fun _ _ => rfl⟩
    · simp only [low,high,if_false]
      rw [wellFormed_between_iff]
      constructor
      · intro pair
        obtain ⟨first,second,same,clean_first,clean_second⟩ := pair
        obtain rfl := Value.array.inj same
        exact ⟨Or.inl low,Or.inr clean_first,Or.inr clean_second,fun _ _ => rfl⟩
      · intro range
        refine ⟨item items 0,item items 1,congrArg Value.array (item_pair items (range.alone low high)),?_,?_⟩
        · exact range.low.resolve_left low
        · exact range.high.resolve_left high

private theorem rewritten_marks (operator : CondOperator) (value : Value) (marks : operator.marks = true) :
    ∃ mark, mark.marks = true ∧ rewritten operator value = (mark,.scalar (.bool true)) := by
  cases operator with
  | isNull =>
    by_cases same : unwrapped value = .scalar (.bool true)
    · exact ⟨.isNull,rfl,by simp [rewritten,same]⟩
    · exact ⟨.notNull,rfl,by simp [rewritten,same]⟩
  | notNull =>
    by_cases same : unwrapped value = .scalar (.bool true)
    · exact ⟨.notNull,rfl,by simp [rewritten,same]⟩
    · exact ⟨.isNull,rfl,by simp [rewritten,same]⟩
  | _ => cases marks

/-- The operators that the `switch` leaves as they are, but for a marker of 'empty'. -/
theorem rewritten_other (operator : CondOperator) (value : Value) (unmarked : operator.marks = false)
    (other : operator ≠ .between) :
    rewritten operator value = (operator,value) ∧
        (value = .array [.null] → operator.compares = true → operator ≠ .equals) ∨
      rewritten operator value = (.isNull,.scalar (.bool true)) ∧ value.elements.all written = true ∧
        (operator.compares = true → value.isScalar = true ∨ operator = .equals ∧ value = .array [.null]) := by
  cases operator with
  | between => exact absurd rfl other
  | isNull | notNull => cases unmarked
  | «in» | inLow =>
    by_cases empty : value = .array [.null]
    · exact Or.inr ⟨by simp [rewritten,empty],by simp [empty,Value.elements,written],fun never => by cases never⟩
    · exact Or.inl ⟨by simp [rewritten,empty],fun same => absurd same empty⟩
  | equals =>
    by_cases empty : value = .array [.null]
    · exact Or.inr ⟨by simp [rewritten,empty],by simp [empty,Value.elements,written],fun _ => Or.inr ⟨rfl,empty⟩⟩
    · by_cases null : value = .scalar .null
      · exact Or.inr ⟨by simp [rewritten,null],by simp [null,Value.elements,written],
          fun _ => Or.inl (by rw [null]; rfl)⟩
      · exact Or.inl ⟨by simp [rewritten,empty,null],fun same => absurd same empty⟩
  | containsLow | contains | starts => exact Or.inl ⟨rfl,fun _ never => by cases never⟩
  | greaterOrEquals | lowerOrEquals => exact Or.inl ⟨rfl,fun _ _ => by decide⟩

private theorem condition_wellFormed_iff (col : TSearchableColumn) (value : Value) :
    WellFormed col (condition col value) ↔ Shaped col value := by
  unfold condition Shaped
  cases marks : col.conditionOperator.marks with
  | true =>
    obtain ⟨mark,marked,same⟩ := rewritten_marks col.conditionOperator value marks
    rw [same]
    exact iff_of_true (wellFormed_marked col _ mark marked) trivial
  | false =>
    rw [if_neg Bool.false_ne_true]
    by_cases range : col.conditionOperator = .between
    · rw [if_pos range,range]
      cases value with
      | scalar value =>
        refine iff_of_false (fun formed => ?_) (by simp)
        obtain ⟨_,_,same,_⟩ := (wellFormed_between_iff col _ _).mp formed
        cases same
      | array items =>
        rw [range_wellFormed_iff]
        simp
    · rw [if_neg range]
      rcases rewritten_other col.conditionOperator value marks range with ⟨same,several⟩ | ⟨same,clean,one⟩
      · rw [same,wellFormed_plain_iff col _ _ value marks range]
        refine and_congr_right (fun _ => forall₂_congr (fun _ compares => ?_))
        constructor
        · exact Or.inl
        · intro either
          exact either.resolve_right (fun both => several both.2 compares both.1)
      · rw [same]
        exact iff_of_true (wellFormed_marked col _ .isNull rfl) ⟨clean,fun _ => one⟩

section Given

variable (number : String → Number) (uuidValidate : String → Bool)

/-- What a column adds to the search is well formed, and a range with both ends empty adds nothing. -/
structure Sound (filters baseFilters : TFilters) (col : TSearchableColumn) : Prop where
  formed : ∀ condition, conditionOf number uuidValidate filters baseFilters col = some condition →
    WellFormed col condition
  empty : col.conditionOperator = .between → filterValue filters baseFilters col = .array [.undefined,.undefined] →
    conditionOf number uuidValidate filters baseFilters col = none

private theorem unshaped_empty (col : TSearchableColumn) (range : col.conditionOperator = .between) :
    ¬ Shaped col (.array [.undefined,.undefined]) := by
  intro shaped
  simp only [Shaped,range,CondOperator.marks,Bool.false_eq_true,if_false,if_true] at shaped
  obtain ⟨items,same,ranges⟩ := shaped
  obtain rfl := Value.array.inj same
  exact ranges.bounded.elim (fun given => given rfl) (fun given => given rfl)

private theorem sound_iff (filters baseFilters : TFilters) (col : TSearchableColumn) :
    Sound number uuidValidate filters baseFilters col ↔
      (skips number uuidValidate col (filterValue filters baseFilters col) = false →
        Shaped col (filterValue filters baseFilters col)) := by
  cases skipped : skips number uuidValidate col (filterValue filters baseFilters col) with
  | true =>
    have nothing : conditionOf number uuidValidate filters baseFilters col = none := by
      simp [conditionOf,searchValue,skipped]
    refine iff_of_true ⟨fun condition added => ?_,fun _ _ => nothing⟩ (fun never => by cases never)
    rw [nothing] at added
    cases added
  | false =>
    have adds : conditionOf number uuidValidate filters baseFilters col =
        some (condition col (filterValue filters baseFilters col)) := by simp [conditionOf,searchValue,skipped]
    constructor
    · intro sound _
      exact (condition_wellFormed_iff col _).mp (sound.formed _ adds)
    · intro shaped
      refine ⟨fun condition added => ?_,fun range empty => ?_⟩
      · obtain rfl := Option.some.inj (adds.symm.trans added)
        exact (condition_wellFormed_iff col _).mpr (shaped rfl)
      · exact absurd (empty ▸ shaped rfl) (unshaped_empty col range)

/-- The ends of the range; an empty one is `undefined`. -/
abbrev TNumberRange : Type := Scalar × Scalar

def emptyNumberRange : TNumberRange := (.undefined,.undefined)

def toBound (key : Scalar) : Scalar :=
  if key = .undefined ∨ key = .str "" then .undefined else .num (key.toNumber number)

def toNumberRange (keys : List Scalar) : Option TNumberRange :=
  match keys with
  | low :: high :: _ => some (toBound number low,toBound number high)
  | _ => none

/-- The keys that the table hands down, and the changes of the two inputs. -/
inductive RangeEvent
  | selectedKeys (keys : List Scalar)
  | low (value : Option Number)
  | high (value : Option Number)

def entered (value : Option Number) : Scalar :=
  -- `value ?? undefined`
  (value.map Scalar.num).getD .undefined

def updateRange (range : Option TNumberRange) : RangeEvent → Option TNumberRange
  | .selectedKeys keys => toNumberRange number keys
  | .low value => some (entered value,(range.getD emptyNumberRange).2)
  | .high value => some ((range.getD emptyNumberRange).1,entered value)

/-- What `setSelectedKeys` is called with in the end. -/
def rangeKeys (selectedKeys : List Scalar) (events : List RangeEvent) : List Scalar :=
  match events.foldl (updateRange number) (toNumberRange number selectedKeys) with
  | none => []
  | some range => [range.1,range.2]

def IsBound (bound : Scalar) : Prop := bound = .undefined ∨ ∃ value, bound = .num value

def Bounds (range : Option TNumberRange) : Prop := ∀ ends ∈ range, IsBound ends.1 ∧ IsBound ends.2

private theorem isBound_toBound (key : Scalar) : IsBound (toBound number key) := by
  unfold toBound
  split
  next => exact Or.inl rfl
  next => exact Or.inr ⟨_,rfl⟩

private theorem isBound_entered (value : Option Number) : IsBound (entered value) := by
  cases value with
  | none => exact Or.inl rfl
  | some value => exact Or.inr ⟨value,rfl⟩

private theorem bounds_toNumberRange (keys : List Scalar) : Bounds (toNumberRange number keys) := by
  intro ends held
  unfold toNumberRange at held
  split at held
  next low high _ =>
    obtain rfl := Option.some.inj held
    exact ⟨isBound_toBound number low,isBound_toBound number high⟩
  next => cases held

private theorem bounds_getD (range : Option TNumberRange) (bounds : Bounds range) :
    IsBound (range.getD emptyNumberRange).1 ∧ IsBound (range.getD emptyNumberRange).2 := by
  cases range with
  | none => exact ⟨Or.inl rfl,Or.inl rfl⟩
  | some ends => exact bounds ends rfl

private theorem bounds_updateRange (range : Option TNumberRange) (event : RangeEvent) (bounds : Bounds range) :
    Bounds (updateRange number range event) := by
  cases event with
  | selectedKeys keys => exact bounds_toNumberRange number keys
  | low value =>
    intro ends held
    obtain rfl := Option.some.inj held
    exact ⟨isBound_entered value,(bounds_getD range bounds).2⟩
  | high value =>
    intro ends held
    obtain rfl := Option.some.inj held
    exact ⟨(bounds_getD range bounds).1,isBound_entered value⟩

private theorem bounds_events (range : Option TNumberRange) (events : List RangeEvent) (bounds : Bounds range) :
    Bounds (events.foldl (updateRange number) range) := by
  induction events generalizing range with
  | nil => exact bounds
  | cons event rest ih => exact ih _ (bounds_updateRange number range event bounds)

private theorem written_bound_iff (bound : Scalar) (either : IsBound bound) :
    bound = .undefined ∨ written bound = true ↔ finiteBound number bound = true := by
  rcases either with rfl | ⟨value,rfl⟩
  · simp [finiteBound]
  · simp [finiteBound,written,Scalar.toNumber]

/-- The dropdown passes on nothing or a range, which can be sent unless both ends are empty or one is no
finite number. -/
theorem dropdown_shaped_iff (selectedKeys : List Scalar) (events : List RangeEvent) :
    rangeKeys number selectedKeys events = [] ∨ ∃ low high, rangeKeys number selectedKeys events = [low,high] ∧
      ∀ col : TSearchableColumn, col.conditionOperator = .between → (Shaped col (.array [low,high]) ↔
        (low ≠ .undefined ∨ high ≠ .undefined) ∧ finiteBound number low = true ∧ finiteBound number high = true) := by
  have bounds := bounds_events number _ events (bounds_toNumberRange number selectedKeys)
  unfold rangeKeys
  split
  next => exact Or.inl rfl
  next ends held =>
    refine Or.inr ⟨ends.1,ends.2,rfl,fun col range => ?_⟩
    obtain ⟨first,second⟩ := bounds ends held
    rw [← written_bound_iff number _ first,← written_bound_iff number _ second]
    simp only [Shaped,range,CondOperator.marks,Bool.false_eq_true,if_false,if_true,Value.array.injEq,exists_eq_left']
    constructor
    · exact fun ranges => ⟨ranges.bounded,ranges.low,ranges.high⟩
    · exact fun parts => ⟨parts.1,parts.2.1,parts.2.2,fun _ _ => rfl⟩

private theorem search_conditions (searchableColumns : List TSearchableColumn) (filters baseFilters : TFilters)
    (conditions : List SCondition)
    (searched : getFiltersSearch number uuidValidate searchableColumns filters baseFilters = .ok conditions) :
    conditions = searchableColumns.filterMap (conditionOf number uuidValidate filters baseFilters) := by
  by_cases known : KeysKnown searchableColumns filters baseFilters
  · rw [getFiltersSearch_known number uuidValidate _ _ _ known] at searched
    exact (Except.ok.inj searched).symm
  · rw [getFiltersSearch_unknown number uuidValidate _ _ _ known] at searched
    cases searched

theorem conditions_well_formed_iff (searchableColumns : List TSearchableColumn) (filters baseFilters : TFilters) :
    (∀ conditions, getFiltersSearch number uuidValidate searchableColumns filters baseFilters = .ok conditions →
      conditions = searchableColumns.filterMap (conditionOf number uuidValidate filters baseFilters)) ∧
    ((∀ col ∈ searchableColumns, Sound number uuidValidate filters baseFilters col) ↔
      ∀ col ∈ searchableColumns, skips number uuidValidate col (filterValue filters baseFilters col) = false →
        Shaped col (filterValue filters baseFilters col)) ∧
    ∀ (selectedKeys : List Scalar) (events : List RangeEvent),
      rangeKeys number selectedKeys events = [] ∨ ∃ low high, rangeKeys number selectedKeys events = [low,high] ∧
        ∀ col : TSearchableColumn, col.conditionOperator = .between → (Shaped col (.array [low,high]) ↔
          (low ≠ .undefined ∨ high ≠ .undefined) ∧ finiteBound number low = true ∧ finiteBound number high = true) := by
  refine ⟨search_conditions number uuidValidate searchableColumns filters baseFilters,?_,dropdown_shaped_iff number⟩
  apply forall₂_congr
  intro col _
  exact sound_iff number uuidValidate filters baseFilters col

end Given

def amount : TSearchableColumn := { field := .name "amount", operator := .between, numeric := true }

def clearedRange : List Scalar := rangeKeys (fun _ => .nan) [] [.low (some (.finite 5)),.low none]

/-- Both inputs of the dropdown are empty again, and the search holds `{ amount: {} }` once it is sent. -/
theorem cleared_range_sent : clearedRange = [.undefined,.undefined] ∧
    ¬ ∀ (number : String → Number) (uuidValidate : String → Bool) (filters baseFilters : TFilters)
      (col : TSearchableColumn), Sound number uuidValidate filters baseFilters col := by
  refine ⟨rfl,fun sound => ?_⟩
  have nothing := (sound (fun _ => .nan) (fun _ => false) [("amount",.array clearedRange)] [] amount).empty
    rfl (by decide)
  revert nothing
  decide

end BoarPack.Table.Filters
