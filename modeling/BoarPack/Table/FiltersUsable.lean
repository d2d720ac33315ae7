import BoarPack.Table.Filters

/-! Which filters reach the search, against which of them are usable. -/
namespace BoarPack.Table.Filters
open Containers

def Value.elements : Value → List Scalar
  | scalar value => [value]
  | array items => items

def CondOperator.marks : CondOperator → Bool
  | isNull => true
  | notNull => true
  | _ => false

def isInherited : Scalar → Bool
  | .inherited _ => true
  | _ => false

/-- A base filter of `null` stands for 'empty', and is given. -/
def given (value : Value) : Bool := value ≠ .scalar (.str "") && value ≠ .scalar .undefined

section Given

variable (number : String → Number) (uuidValidate : String → Bool)

def numericElement (operator : CondOperator) : Scalar → Bool
  -- the open end of a range
  | .undefined => true
  | .null => true
  | .bool _ => operator.marks
  | .num value => value.isFinite
  | .str value => (number value).isFinite
  | .inherited _ => false

def uuidElement : Scalar → Bool
  | .undefined => true
  | .str value => uuidValidate value
  | _ => false

/-- What nobody has set is of no use to any column. -/
def usable (col : TSearchableColumn) (value : Value) : Bool :=
  !value.elements.any isInherited && (!col.numeric ||
    value.elements.all (numericElement number col.conditionOperator)) &&
    (!col.uuid || value.elements.all (uuidElement uuidValidate))

/-- The user's value if it is set and usable, else the base value if that is. -/
def effectiveValue (filters baseFilters : TFilters) (col : TSearchableColumn) : Option Value :=
  let user := valueOf filters col.colDataIndex
  let base := valueOf baseFilters col.colDataIndex
  if isFilterValueSet user && usable number uuidValidate col user then some user
  else if given base && usable number uuidValidate col base then some base
  else none

/-- Neither several items nor a boolean in an array, a range apart. -/
def readable (operator : CondOperator) : Value → Bool
  | .scalar _ => true
  | .array [] => true
  | .array [.bool _] => operator = .between
  | .array [_] => true
  | .array _ => operator = .between

def Value.isScalar : Value → Bool
  | scalar _ => true
  | array _ => false

/-- Not an array where the validation reads it as one thing. -/
def plain (col : TSearchableColumn) (value : Value) : Bool :=
  (!col.numeric || readable col.conditionOperator value) && (!col.uuid || value.isScalar)

def isBool : Scalar → Bool
  | .bool _ => true
  | _ => false

def finiteBound (bound : Scalar) : Bool := bound = .undefined || (bound.toNumber number).isFinite

/-- A boolean that passes for a number, by itself or as a bound. -/
def passesForNumber (operator : CondOperator) (value : Value) : Bool :=
  !operator.marks && value.elements.any isBool &&
    (value.isScalar || operator = .between && value.elements.all (finiteBound number))

/-- What the validation lets through though it is not usable. -/
def stray (col : TSearchableColumn) (value : Value) : Bool :=
  !col.uuid && if col.numeric then passesForNumber number col.conditionOperator value
    else value.elements.any isInherited

/-- A usable value is plain, no boolean passes for a number and nothing that is inherited for a value, and no usable
base value waits behind a user's value that is not usable. -/
structure Passes (filters baseFilters : TFilters) (col : TSearchableColumn) : Prop where
  alike : given (filterValue filters baseFilters col) = true →
    (usable number uuidValidate col (filterValue filters baseFilters col) = true →
      plain col (filterValue filters baseFilters col) = true) ∧
      stray number col (filterValue filters baseFilters col) = false
  falls : isFilterValueSet (valueOf filters col.colDataIndex) = true →
    usable number uuidValidate col (valueOf filters col.colDataIndex) = false →
    given (valueOf baseFilters col.colDataIndex) = true →
    usable number uuidValidate col (valueOf baseFilters col.colDataIndex) = false

private theorem numericValues_other (operator : CondOperator) (value : Value) (other : operator ≠ .between) :
    numericValues operator value = [value] := by
  cases operator with
  | between => exact absurd rfl other
  | _ => rfl

private theorem readable_between (value : Value) : readable .between value = true := by
  unfold readable
  split <;> rfl

private theorem finite_of_numericElement (operator : CondOperator) (element : Scalar)
    (numeric : numericElement number operator element = true)
    (defined : element ≠ .undefined) : (element.toNumber number).isFinite = true := by
  cases element with
  | undefined => exact absurd rfl defined
  | null => rfl
  | bool value => rfl
  | num value => exact numeric
  | str value => exact numeric
  | inherited name => cases numeric

private theorem isBool_of_finite (operator : CondOperator) (element : Scalar)
    (bad : numericElement number operator element = false)
    (finite : (element.toNumber number).isFinite = true) : isBool element = true ∧ operator.marks = false := by
  cases element with
  | undefined => cases bad
  | null => cases bad
  | bool value => exact ⟨rfl,bad⟩
  | num value => exact absurd finite (Bool.eq_false_iff.mp bad)
  | str value => exact absurd finite (Bool.eq_false_iff.mp bad)
  | inherited name => cases finite

private theorem own_of_numeric (operator : CondOperator) (value : Value)
    (numeric : value.elements.all (numericElement number operator) = true) :
      value.elements.any isInherited = false := by
  rw [List.any_eq_false]
  intro element member
  have finite := List.all_eq_true.mp numeric element member
  cases element with
  | inherited name => cases finite
  | _ => simp [isInherited]

def checked (operator : CondOperator) (value : Value) : Bool :=
  (numericValues operator value).all (fun bound => (bound.toNumber number).isFinite)

private theorem checked_range (items : List Scalar) :
    checked number .between (.array items) = items.all (finiteBound number) := by
  unfold checked numericValues finiteBound
  rw [List.all_map,List.all_filter]
  congr 1
  funext bound
  by_cases missing : bound = .undefined <;> simp [missing,Value.toNumber]

private theorem checked_other (operator : CondOperator) (value : Value) (other : operator ≠ .between) :
    checked number operator value = (value.toNumber number).isFinite := by
  unfold checked
  rw [numericValues_other operator value other]
  exact Bool.and_true _

private theorem checked_scalar (operator : CondOperator) (value : Scalar) :
    checked number operator (.scalar value) = (value.toNumber number).isFinite := by
  unfold checked
  cases operator <;> exact Bool.and_true _

private theorem checked_usable (operator : CondOperator) (value : Value) (present : given value = true)
    (numeric : value.elements.all (numericElement number operator) = true) :
    checked number operator value = readable operator value := by
  have elements := List.all_eq_true.mp numeric
  cases value with
  | scalar value =>
    have defined : value ≠ .undefined := by
      rintro rfl
      cases present
    rw [checked_scalar]
    exact finite_of_numericElement number operator value (elements value List.mem_cons_self) defined
  | array items =>
    by_cases range : operator = .between
    · subst range
      rw [checked_range,readable_between,List.all_eq_true]
      intro bound member
      unfold finiteBound
      by_cases missing : bound = .undefined
      · simp [missing]
      · simp [finite_of_numericElement number .between bound (elements bound member) missing]
    · rw [checked_other number operator _ range]
      match items, elements with
      | [], _ => rfl
      | [.undefined], _ => rfl
      | [.null], _ => rfl
      | [.bool _], _ => simp [Value.toNumber,Number.isFinite,readable,range]
      | [.num value], elements => exact elements (.num value) List.mem_cons_self
      | [.str value], elements => exact elements (.str value) List.mem_cons_self
      | [.inherited name], elements => cases elements (.inherited name) List.mem_cons_self
      | _ :: _ :: _, _ => simp [Value.toNumber,Number.isFinite,readable,range]

private theorem checked_unusable (operator : CondOperator) (value : Value)
    (bad : value.elements.all (numericElement number operator) = false) :
    checked number operator value = passesForNumber number operator value := by
  obtain ⟨element,member,unusable⟩ := List.all_eq_false.mp bad
  have odd : numericElement number operator element = false := by simpa using unusable
  cases value with
  | scalar value =>
    obtain rfl := List.mem_singleton.mp member
    rw [checked_scalar,Bool.eq_iff_iff]
    constructor
    · intro finite
      obtain ⟨boolean,unmarked⟩ := isBool_of_finite number operator element odd finite
      simp [passesForNumber,Value.elements,Value.isScalar,boolean,unmarked]
    · intro passes
      cases element with
      | bool value => rfl
      | _ => simp [passesForNumber,Value.elements,isBool] at passes
  | array items =>
    by_cases range : operator = .between
    · subst range
      rw [checked_range]
      unfold passesForNumber
      cases finite : items.all (finiteBound number) with
      | false => simp [Value.isScalar,Value.elements,finite]
      | true =>
        have bound := List.all_eq_true.mp finite element member
        have defined : element ≠ .undefined := by
          rintro rfl
          cases odd
        simp only [finiteBound,decide_eq_false defined,Bool.false_or] at bound
        obtain ⟨boolean,unmarked⟩ := isBool_of_finite number .between element odd bound
        have some_bool : items.any isBool = true := List.any_eq_true.mpr ⟨element,member,boolean⟩
        simp [Value.elements,finite,some_bool,unmarked]
    · have quiet : passesForNumber number operator (.array items) = false := by
        simp [passesForNumber,Value.isScalar,range]
      rw [checked_other number operator _ range,quiet]
      match items, member with
      | [only], member =>
        obtain rfl := List.mem_singleton.mp member
        cases element with
        | undefined => cases odd
        | null => cases odd
        | bool value => rfl
        | num value => exact odd
        | str value => exact odd
        | inherited name => rfl
      | _ :: _ :: _, _ => simp [Value.toNumber,Number.isFinite]

private theorem skips_eq (col : TSearchableColumn) (value : Value) (present : given value = true) :
    skips number uuidValidate col value =
      !((!col.numeric || checked number col.conditionOperator value) && (!col.uuid || value.isUuid uuidValidate)) := by
  obtain ⟨filled,defined⟩ := Bool.and_eq_true_iff.mp present
  have not_empty : value ≠ .scalar (.str "") := of_decide_eq_true filled
  have not_undefined : value ≠ .scalar .undefined := of_decide_eq_true defined
  unfold skips
  rw [decide_eq_false not_empty,decide_eq_false not_undefined]
  simp only [Bool.false_or,Bool.not_and,Bool.not_or,Bool.not_not]
  rfl

private theorem isUuid_of_usable (value : Value) (present : given value = true)
    (uuids : value.elements.all (uuidElement uuidValidate) = true) : value.isUuid uuidValidate = value.isScalar := by
  cases value with
  | array items => rfl
  | scalar value =>
    have element := List.all_eq_true.mp uuids value List.mem_cons_self
    cases value with
    | undefined => cases present
    | str value => exact element
    | _ => cases element

private theorem skips_usable (col : TSearchableColumn) (value : Value) (present : given value = true)
    (good : usable number uuidValidate col value = true) : skips number uuidValidate col value = !plain col value := by
  obtain ⟨numbers,uuids⟩ := Bool.and_eq_true_iff.mp good
  have numeric := (Bool.and_eq_true_iff.mp numbers).2
  rw [skips_eq number uuidValidate col value present]
  unfold plain
  congr 2
  · cases flag : col.numeric with
    | false => rfl
    | true =>
      rw [flag] at numeric
      exact checked_usable number col.conditionOperator value present numeric
  · cases flag : col.uuid with
    | false => rfl
    | true =>
      rw [flag] at uuids
      exact isUuid_of_usable uuidValidate value present uuids

private theorem uuid_of_isUuid (value : Value) (valid : value.isUuid uuidValidate = true) :
    ∃ text, value = .scalar (.str text) ∧ uuidValidate text = true := by
  unfold Value.isUuid at valid
  split at valid
  next text => exact ⟨text,rfl,valid⟩
  next => cases valid

private theorem skips_unusable (col : TSearchableColumn) (value : Value) (present : given value = true)
    (bad : usable number uuidValidate col value = false) :
      skips number uuidValidate col value = !stray number col value := by
  rw [skips_eq number uuidValidate col value present]
  unfold usable at bad
  unfold stray
  congr 1
  cases uuid : col.uuid with
  | true =>
    rw [uuid] at bad
    cases valid : value.isUuid uuidValidate with
    | false => simp
    | true =>
      -- a uuid by itself: the number is what makes it unusable, and it is checked
      obtain ⟨text,rfl,same⟩ := uuid_of_isUuid uuidValidate value valid
      simp only [Value.elements,List.all_cons,List.all_nil,uuidElement,same] at bad
      simp only [checked_scalar]
      simpa [numericElement,Scalar.toNumber,isInherited] using bad
  | false =>
    rw [uuid] at bad
    simp only [Bool.not_false,Bool.true_or,Bool.true_and,Bool.and_true] at bad ⊢
    cases numeric : col.numeric with
    | false =>
      rw [numeric] at bad
      simpa using bad.symm
    | true =>
      rw [numeric] at bad
      have odd : value.elements.all (numericElement number col.conditionOperator) = false := by
        by_contra sound
        have numbers := (Bool.not_eq_false _).mp sound
        rw [own_of_numeric number col.conditionOperator value numbers,numbers] at bad
        cases bad
      exact checked_unusable number col.conditionOperator value odd

private theorem unusable_of_stray (col : TSearchableColumn) (value : Value) (passes : stray number col value = true) :
    usable number uuidValidate col value = false := by
  obtain ⟨_,passed⟩ := Bool.and_eq_true_iff.mp passes
  cases numeric : col.numeric with
  | false =>
    simp only [numeric,Bool.false_eq_true,if_false] at passed
    simp [usable,passed]
  | true =>
    simp only [numeric,if_true,passesForNumber,Bool.and_eq_true,Bool.not_eq_true'] at passed
    obtain ⟨⟨unmarked,some_bool⟩,_⟩ := passed
    obtain ⟨element,member,boolean⟩ := List.any_eq_true.mp some_bool
    have odd : value.elements.all (numericElement number col.conditionOperator) = false := by
      refine List.all_eq_false.mpr ⟨element,member,?_⟩
      cases element with
      | bool value => simpa [numericElement] using unmarked
      | _ => cases boolean
    simp [usable,numeric,odd]

/-- A value that is not missing is kept where it is usable, exactly if it is plain and no stray one. -/
theorem skips_iff_unusable (col : TSearchableColumn) (value : Value) (present : given value = true) :
    skips number uuidValidate col value = !usable number uuidValidate col value ↔
      (usable number uuidValidate col value = true → plain col value = true) ∧ stray number col value = false := by
  cases good : usable number uuidValidate col value with
  | true =>
    rw [skips_usable number uuidValidate col value present good]
    have straight : stray number col value = false := by
      by_contra passes
      have bad := unusable_of_stray number uuidValidate col value (by simpa using passes)
      rw [good] at bad
      cases bad
    simp [straight]
  | false =>
    rw [skips_unusable number uuidValidate col value present good]
    simp

private theorem given_of_set (value : Value) (present : isFilterValueSet value = true) : given value = true := by
  simp only [isFilterValueSet,given,Bool.and_eq_true] at present ⊢
  exact ⟨present.2,present.1.1⟩

private theorem skips_missing (col : TSearchableColumn) (value : Value) (missing : given value = false) :
    skips number uuidValidate col value = true := by
  have either : value = .scalar (.str "") ∨ value = .scalar .undefined := by
    simpa [given,or_iff_not_imp_left] using missing
  rcases either with rfl | rfl
  · rfl
  · rfl

private theorem passes_set_iff (filters baseFilters : TFilters) (col : TSearchableColumn)
    (user : isFilterValueSet (valueOf filters col.colDataIndex) = true) :
    Passes number uuidValidate filters baseFilters col ↔
      skips number uuidValidate col (valueOf filters col.colDataIndex) =
        !usable number uuidValidate col (valueOf filters col.colDataIndex) ∧
      (usable number uuidValidate col (valueOf filters col.colDataIndex) = false →
        (given (valueOf baseFilters col.colDataIndex) && usable number uuidValidate col
          (valueOf baseFilters col.colDataIndex)) = false) := by
  have own : filterValue filters baseFilters col = valueOf filters col.colDataIndex := by simp [filterValue,user]
  have present := given_of_set _ user
  rw [skips_iff_unusable number uuidValidate col _ present]
  constructor
  · intro passes
    refine ⟨own ▸ passes.alike (own ▸ present),fun bad => Bool.and_eq_false_iff.mpr ?_⟩
    cases there : given (valueOf baseFilters col.colDataIndex) with
    | false => exact Or.inl rfl
    | true => exact Or.inr (passes.falls user bad there)
  · intro both
    refine ⟨fun _ => own ▸ both.1,fun _ bad there => ?_⟩
    have unready := both.2 bad
    rw [there,Bool.true_and] at unready
    exact unready

private theorem passes_unset_iff (filters baseFilters : TFilters) (col : TSearchableColumn)
    (unset : isFilterValueSet (valueOf filters col.colDataIndex) = false) :
    Passes number uuidValidate filters baseFilters col ↔
      (given (valueOf baseFilters col.colDataIndex) = true →
        skips number uuidValidate col (valueOf baseFilters col.colDataIndex) =
          !usable number uuidValidate col (valueOf baseFilters col.colDataIndex)) := by
  have fallen : filterValue filters baseFilters col = valueOf baseFilters col.colDataIndex := by
    simp [filterValue,unset]
  constructor
  · intro passes present
    rw [skips_iff_unusable number uuidValidate col _ present]
    exact fallen ▸ passes.alike (fallen ▸ present)
  · intro same
    refine ⟨fun present => ?_,fun user => ?_⟩
    · rw [fallen] at present ⊢
      exact (skips_iff_unusable number uuidValidate col _ present).mp (same present)
    · rw [unset] at user
      cases user

/-- The first of two values where it is good, else the second where that is: what is taken of the first
alone is the same, if it is taken where it is good, and where it is not the second is not either. -/
theorem taken_eq_iff {T : Type} (first second : T) (skipped good ready : Bool)
    (apart : good = false → ready = true → first ≠ second) :
    ((if skipped then none else some first) = if good then some first else if ready then some second else none) ↔
      skipped = !good ∧ (good = false → ready = false) := by
  cases skipped <;> cases good <;> cases ready <;> simp at apart ⊢
  exact apart

private theorem searchValue_eq_iff (filters baseFilters : TFilters) (col : TSearchableColumn) :
    searchValue number uuidValidate filters baseFilters col = effectiveValue number uuidValidate filters
      baseFilters col ↔
      Passes number uuidValidate filters baseFilters col := by
  dsimp only [searchValue,effectiveValue]
  cases user : isFilterValueSet (valueOf filters col.colDataIndex) with
  | true =>
    have own : filterValue filters baseFilters col = valueOf filters col.colDataIndex := by simp [filterValue,user]
    rw [passes_set_iff number uuidValidate filters baseFilters col user,own,Bool.true_and]
    apply taken_eq_iff
    intro bad ready equal
    rw [← equal,bad,Bool.and_false] at ready
    cases ready
  | false =>
    have fallen : filterValue filters baseFilters col = valueOf baseFilters col.colDataIndex := by
      simp [filterValue,user]
    rw [passes_unset_iff number uuidValidate filters baseFilters col user,fallen]
    cases present : given (valueOf baseFilters col.colDataIndex) with
    | false => simp [skips_missing number uuidValidate col _ present]
    | true =>
      have taken := taken_eq_iff (valueOf baseFilters col.colDataIndex) (valueOf baseFilters col.colDataIndex)
        (skips number uuidValidate col (valueOf baseFilters col.colDataIndex))
        (usable number uuidValidate col (valueOf baseFilters col.colDataIndex)) false (fun _ never => by cases never)
      simpa using taken

/-- What the search holds, column by column. -/
theorem usable_filters_kept_iff (searchableColumns : List TSearchableColumn) (filters baseFilters : TFilters) :
    (KeysKnown searchableColumns filters baseFilters →
      getFiltersSearch number uuidValidate searchableColumns filters baseFilters = .ok (searchableColumns.filterMap
        (fun col => (searchValue number uuidValidate filters baseFilters col).map (condition col))) ∧
      ((∀ col ∈ searchableColumns, searchValue number uuidValidate filters baseFilters col =
          effectiveValue number uuidValidate filters baseFilters col) ↔
        ∀ col ∈ searchableColumns, Passes number uuidValidate filters baseFilters col)) ∧
    (¬ KeysKnown searchableColumns filters baseFilters →
      ∃ message, getFiltersSearch number uuidValidate searchableColumns filters baseFilters = .error message) := by
  refine ⟨fun known => ⟨?_,?_⟩,fun unknown => ?_⟩
  · exact getFiltersSearch_known number uuidValidate searchableColumns filters baseFilters known
  · apply forall₂_congr
    intro col _
    exact searchValue_eq_iff number uuidValidate filters baseFilters col
  · exact ⟨_,getFiltersSearch_unknown number uuidValidate searchableColumns filters baseFilters unknown⟩

end Given

def age : TSearchableColumn := { field := .name "age", operator := .in, numeric := true }

def twoAges : TFilters := [("age",.array [.num (.finite 3),.num (.finite 9)])]

/-- Two numbers are selected, and the search is as wide as without a filter. -/
theorem selected_ages_dropped : ¬ ∀ (number : String → Number) (uuidValidate : String → Bool)
    (searchableColumns : List TSearchableColumn) (filters baseFilters : TFilters),
      (searchableColumns.map TSearchableColumn.colDataIndex).Nodup → KeysKnown searchableColumns filters baseFilters →
        getFiltersSearch number uuidValidate searchableColumns filters baseFilters = .ok (searchableColumns.filterMap
          (fun col => (effectiveValue number uuidValidate filters baseFilters col).map (condition col))) := by
  intro kept
  have search := Except.ok.inj (kept (fun _ => .nan) (fun _ => false) [age] twoAges [] (by decide) (by decide))
  have nothing := congrArg List.length search
  revert nothing
  decide

end BoarPack.Table.Filters
