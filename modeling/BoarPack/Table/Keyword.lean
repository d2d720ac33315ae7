import BoarPack.Common
import BoarPack.Table.Columns
import BoarPack.Table.Filters

/-! `applyKeywordToSearch`: a keyword becomes a condition for each of its words. -/
namespace BoarPack.Table.Keyword
open Containers Columns Filters

inductive Clause
  | field (condition : SCondition)
  | or (conditions : List SCondition)
  deriving DecidableEq

/-- What is sent as `s`; `$and` may be missing. -/
structure Search where
  and : Option (List Clause)
  deriving DecidableEq

namespace TSearchableColumn

def dataIndex (col : TSearchableColumn) : String :=
  match col.field with
  | .name field => field
  | .path fields => String.intercalate "," fields

/-- `col.searchField || …`, where it is not null. -/
def keywordField (col : TSearchableColumn) : Option String :=
  match col.searchField with
  | some none => none
  | some (some field) => some (if field = "" then col.colDataIndex else field)
  | none => some col.colDataIndex

end TSearchableColumn

/-- A state without `show` hides the column, too, and so does what the object of states inherits. -/
def isHidden (columnsState : Option TColumnsStates) (col : TSearchableColumn) : Bool :=
  columnsState.any (fun states => match get states (TSearchableColumn.dataIndex col) with
    | some state => state.shown ≠ some true
    | none => TSearchableColumn.dataIndex col ∈ objectPrototype)

section Given

variable (number : String → Number) (uuidValidate : String → Bool) (columnsState : Option TColumnsStates)

def wordCondition (word : String) (col : TSearchableColumn) : Option SCondition :=
  match TSearchableColumn.keywordField col with
  | none => none
  | some field =>
    if isHidden columnsState col then none
    else if col.numeric && !(number word).isFinite then none
    else if col.uuid && !uuidValidate word then none
    else some ⟨field,col.operator,.scalar (.str word)⟩

def keywordSearch (searchableColumns : List TSearchableColumn) (word : String) : List SCondition :=
  searchableColumns.filterMap (wordCondition number uuidValidate columnsState word)

def applyKeywordToSearch (filterSearch : Search) (searchableColumns : List TSearchableColumn)
    (keyword : Option String) :
    Except String Search :=
  match keyword.filter (· ≠ "") with
  | none => .ok filterSearch
  | some keyword =>
    match filterSearch.and with
    | none => .error "Bad format of filter search"
    | some clauses =>
      .ok ⟨some (clauses ++ (split ' ' keyword).map (fun word =>
        .or (keywordSearch number uuidValidate columnsState searchableColumns word)))⟩

end Given

/-- What the conditions say of a row: an empty `$or` is no restriction. -/
def Clause.Holds (row : SCondition → Prop) : Clause → Prop
  | field condition => row condition
  | or conditions => conditions = [] ∨ ∃ condition ∈ conditions, row condition

def Search.Holds (row : SCondition → Prop) (search : Search) : Prop :=
  ∀ clauses ∈ search.and, ∀ clause ∈ clauses, clause.Holds row

def blank (field : String) (operator : CondOperator) : SCondition := ⟨field,operator,.scalar (.str "")⟩

def IsBlank (condition : SCondition) : Prop := condition.value = .scalar (.str "")

instance (condition : SCondition) : Decidable (IsBlank condition) := inferInstanceAs (Decidable (_ = _))

theorem isBlank_blank (field : String) (operator : CondOperator) : IsBlank (blank field operator) := rfl

/-- What is relied on of the backend, for its rows: where a row satisfies a condition, its field satisfies each operator
that `implies` gives with the empty text, as a text that equals a word contains the empty one; and two conditions of a
row are `together`, as a field does not equal two texts. -/
structure Backend (implies : CondOperator → CondOperator → Bool) (together : SCondition → SCondition → Prop)
    (row : SCondition → Prop) : Prop where
  blanks : ∀ condition, ¬ IsBlank condition → row condition → ∀ operator,
    implies condition.operator operator = true → row (blank condition.field operator)
  together : ∀ condition other, ¬ IsBlank condition → ¬ IsBlank other → row condition → row other →
    together condition other

def words (keyword : Option String) : List String := (split ' ' (keyword.getD "")).filter (· ≠ "")

private theorem keyword_given (keyword : Option String) :
    keyword.filter (· ≠ "") = none ∧ words keyword = [] ∨ ∃ given, given ≠ "" ∧ keyword = some given := by
  cases keyword with
  | none => exact Or.inl ⟨rfl,by decide⟩
  | some given =>
    by_cases full : given = ""
    · subst full
      exact Or.inl ⟨rfl,by decide⟩
    · exact Or.inr ⟨given,full,rfl⟩

section Given

variable (number : String → Number) (uuidValidate : String → Bool) (columnsState : Option TColumnsStates)
  (searchableColumns : List TSearchableColumn) (implies : CondOperator → CondOperator → Bool)
  (together : SCondition → SCondition → Prop)

def Matches (row : SCondition → Prop) (word : String) : Prop :=
  ∃ col ∈ searchableColumns, ∃ condition ∈ wordCondition number uuidValidate columnsState word col, row condition

/-- The words that some column is searched by. -/
def sought (keyword : Option String) : List String :=
  (words keyword).filter (fun word => keywordSearch number uuidValidate columnsState searchableColumns word ≠ [])

/-- A condition for each of these words, all of which a row may satisfy. -/
structure Chosen (keyword : Option String) (choice : String → SCondition) : Prop where
  searched : ∀ word ∈ sought number uuidValidate columnsState searchableColumns keyword,
    choice word ∈ keywordSearch number uuidValidate columnsState searchableColumns word
  together : ∀ word ∈ sought number uuidValidate columnsState searchableColumns keyword,
    ∀ other ∈ sought number uuidValidate columnsState searchableColumns keyword, together (choice word) (choice other)

/-- Each word is sought; and an empty one searches no column, or is implied by the condition of a word. -/
structure Searchable (given : String) (choice : String → SCondition) : Prop where
  searched : ∀ word ∈ words (some given), word ∈ sought number uuidValidate columnsState searchableColumns (some given)
  empty : "" ∈ split ' ' given → keywordSearch number uuidValidate columnsState searchableColumns "" = [] ∨
    ∃ word ∈ words (some given), ∃ condition ∈ keywordSearch number uuidValidate columnsState searchableColumns "",
      condition.field = (choice word).field ∧ implies (choice word).operator condition.operator = true

private theorem mem_words (given word : String) : word ∈ words (some given) ↔ word ∈ split ' ' given ∧ word ≠ "" := by
  simp [words]

private theorem mem_sought (keyword : Option String) (word : String) :
    word ∈ sought number uuidValidate columnsState searchableColumns keyword ↔
      word ∈ words keyword ∧ keywordSearch number uuidValidate columnsState searchableColumns word ≠ [] := by
  simp [sought]

private theorem matches_iff (row : SCondition → Prop) (word : String) :
    Matches number uuidValidate columnsState searchableColumns row word ↔
      ∃ condition ∈ keywordSearch number uuidValidate columnsState searchableColumns word, row condition := by
  simp only [Matches,keywordSearch,List.mem_filterMap]
  constructor
  · rintro ⟨col,member,condition,pushed,holds⟩
    exact ⟨condition,⟨col,member,pushed⟩,holds⟩
  · rintro ⟨condition,⟨col,member,pushed⟩,holds⟩
    exact ⟨col,member,condition,pushed,holds⟩

private theorem wordCondition_value {word : String} {col : TSearchableColumn} {condition : SCondition}
    (pushed : condition ∈ wordCondition number uuidValidate columnsState word col) :
      condition.value = .scalar (.str word) := by
  unfold wordCondition at pushed
  split at pushed
  · cases pushed
  · split at pushed
    · cases pushed
    · split at pushed
      · cases pushed
      · split at pushed
        · cases pushed
        · obtain rfl := Option.some.inj pushed
          rfl

private theorem keywordSearch_value {word : String} {condition : SCondition}
    (pushed : condition ∈ keywordSearch number uuidValidate columnsState searchableColumns word) :
    condition.value = .scalar (.str word) := by
  obtain ⟨col,_,here⟩ := List.mem_filterMap.mp pushed
  exact wordCondition_value number uuidValidate columnsState here

private theorem isBlank_iff {word : String} {condition : SCondition}
    (pushed : condition ∈ keywordSearch number uuidValidate columnsState searchableColumns word) :
    IsBlank condition ↔ word = "" := by
  rw [IsBlank,keywordSearch_value number uuidValidate columnsState searchableColumns pushed]
  simp

private theorem apply_some (clauses : List Clause) (given : String) (full : given ≠ "") :
    applyKeywordToSearch number uuidValidate columnsState ⟨some clauses⟩ searchableColumns (some given) =
      .ok ⟨some (clauses ++ (split ' ' given).map (fun word =>
        .or (keywordSearch number uuidValidate columnsState searchableColumns word)))⟩ := by
  simp [applyKeywordToSearch,Option.filter,full]

private theorem holds_some (row : SCondition → Prop) (clauses : List Clause) :
    Search.Holds row ⟨some clauses⟩ ↔ ∀ clause ∈ clauses, clause.Holds row := by
  simp [Search.Holds]

/-- A row is found where it satisfies the filters and each word that is searched for matches. -/
theorem holds_applied (row : SCondition → Prop) (clauses : List Clause) (given : String) :
    Search.Holds row ⟨some (clauses ++ (split ' ' given).map (fun word =>
        .or (keywordSearch number uuidValidate columnsState searchableColumns word)))⟩ ↔
      Search.Holds row ⟨some clauses⟩ ∧ ∀ word ∈ split ' ' given,
        keywordSearch number uuidValidate columnsState searchableColumns word = [] ∨
          Matches number uuidValidate columnsState searchableColumns row word := by
  simp only [holds_some,List.forall_mem_append,List.forall_mem_map,Clause.Holds,matches_iff]

/-- What the search is to mean, of the words of a keyword. -/
def Meant (given : String) : Prop :=
  ∀ row, Backend implies together row →
    ((∀ word ∈ split ' ' given, keywordSearch number uuidValidate columnsState searchableColumns word = [] ∨
        Matches number uuidValidate columnsState searchableColumns row word) ↔
      ∀ word ∈ words (some given), Matches number uuidValidate columnsState searchableColumns row word)

/-- The row that satisfies the conditions that were chosen and, of those with the empty text, the ones in `blanks`. -/
def chosenRow (keyword : Option String) (choice : String → SCondition) (blanks : SCondition → Prop)
    (condition : SCondition) : Prop :=
  if IsBlank condition then blanks condition
  else ∃ word ∈ sought number uuidValidate columnsState searchableColumns keyword, condition = choice word

section Chosen

variable {number uuidValidate columnsState searchableColumns together} {keyword : Option String}
  {choice : String → SCondition} {blanks : SCondition → Prop}

private theorem chosenRow_choice
    (chosen : Chosen number uuidValidate columnsState searchableColumns together keyword choice) {word : String}
    (member : word ∈ sought number uuidValidate columnsState searchableColumns keyword) :
    chosenRow number uuidValidate columnsState searchableColumns keyword choice blanks (choice word) := by
  have full : word ≠ "" := by
    have inside := ((mem_sought number uuidValidate columnsState searchableColumns keyword word).mp member).1
    simpa using (List.mem_filter.mp inside).2
  have filled := (isBlank_iff number uuidValidate columnsState searchableColumns
    (chosen.searched word member)).not.mpr full
  rw [chosenRow,if_neg filled]
  exact ⟨word,member,rfl⟩

private theorem chosenRow_backend
    (chosen : Chosen number uuidValidate columnsState searchableColumns together keyword choice)
    (implied : ∀ word ∈ sought number uuidValidate columnsState searchableColumns keyword, ∀ operator,
      implies (choice word).operator operator = true → blanks (blank (choice word).field operator)) :
    Backend implies together (chosenRow number uuidValidate columnsState searchableColumns keyword choice blanks) := by
  constructor
  · intro condition filled holds operator gives
    rw [chosenRow,if_neg filled] at holds
    obtain ⟨word,member,rfl⟩ := holds
    rw [chosenRow,if_pos (isBlank_blank _ _)]
    exact implied word member operator gives
  · intro condition other filled full holds also
    rw [chosenRow,if_neg filled] at holds
    rw [chosenRow,if_neg full] at also
    obtain ⟨word,member,rfl⟩ := holds
    obtain ⟨next,inside,rfl⟩ := also
    exact chosen.together word member next inside

private theorem chosenRow_matches
    (chosen : Chosen number uuidValidate columnsState searchableColumns together keyword choice) {word : String}
    (member : word ∈ sought number uuidValidate columnsState searchableColumns keyword) :
    Matches number uuidValidate columnsState searchableColumns
      (chosenRow number uuidValidate columnsState searchableColumns keyword choice blanks) word :=
  (matches_iff number uuidValidate columnsState searchableColumns _ word).mpr
    ⟨choice word,chosen.searched word member,chosenRow_choice chosen member⟩

end Chosen

/-- A row that satisfies everything that is sought, and every condition with the empty text, is found. -/
private theorem sought_of_meant (given : String)
    (meant : Meant number uuidValidate columnsState searchableColumns implies together given)
    {choice : String → SCondition}
    (chosen : Chosen number uuidValidate columnsState searchableColumns together (some given) choice) :
    ∀ word ∈ words (some given), word ∈ sought number uuidValidate columnsState searchableColumns (some given) := by
  have backend : Backend implies together
      (chosenRow number uuidValidate columnsState searchableColumns (some given) choice (fun _ => True)) :=
    chosenRow_backend implies chosen (fun _ _ _ _ => trivial)
  have all := (meant _ backend).mp (fun word inside => ?_)
  · intro word member
    obtain ⟨condition,pushed,_⟩ := (matches_iff number uuidValidate columnsState searchableColumns _ _).mp
      (all word member)
    exact (mem_sought number uuidValidate columnsState searchableColumns _ word).mpr
      ⟨member,List.ne_nil_of_mem pushed⟩
  · by_cases none : keywordSearch number uuidValidate columnsState searchableColumns word = []
    · exact Or.inl none
    · right
      by_cases nonempty : word = ""
      · obtain ⟨condition,pushed⟩ := List.exists_mem_of_ne_nil _ none
        refine (matches_iff number uuidValidate columnsState searchableColumns _ word).mpr ⟨condition,pushed,?_⟩
        rw [chosenRow,if_pos ((isBlank_iff number uuidValidate columnsState searchableColumns pushed).mpr nonempty)]
        trivial
      · exact chosenRow_matches chosen ((mem_sought number uuidValidate columnsState searchableColumns _ word).mpr
          ⟨(mem_words given word).mpr ⟨inside,nonempty⟩,none⟩)

private theorem searchable_of_meant (given : String)
    (meant : Meant number uuidValidate columnsState searchableColumns implies together given)
    {choice : String → SCondition}
    (chosen : Chosen number uuidValidate columnsState searchableColumns together (some given) choice) :
    Searchable number uuidValidate columnsState searchableColumns implies given choice := by
  have searched :=
    sought_of_meant number uuidValidate columnsState searchableColumns implies together given meant chosen
  refine ⟨searched,fun empty => ?_⟩
  -- of the conditions with the empty text, the row satisfies those only that it cannot do without
  have backend : Backend implies together (chosenRow number uuidValidate columnsState searchableColumns (some given)
      choice (fun condition => ∃ word ∈ words (some given), condition.field = (choice word).field ∧
        implies (choice word).operator condition.operator = true)) :=
    chosenRow_backend implies chosen (fun word member operator gives =>
      ⟨word,((mem_sought number uuidValidate columnsState searchableColumns _ word).mp member).1,rfl,gives⟩)
  have found := (meant _ backend).mpr (fun word member => chosenRow_matches chosen (searched word member)) "" empty
  refine found.imp_right (fun matched => ?_)
  obtain ⟨condition,pushed,holds⟩ := (matches_iff number uuidValidate columnsState searchableColumns _ _).mp matched
  rw [chosenRow,if_pos ((isBlank_iff number uuidValidate columnsState searchableColumns pushed).mpr rfl)] at holds
  obtain ⟨word,member,field,gives⟩ := holds
  exact ⟨word,member,condition,pushed,field,gives⟩

/-- A row that satisfies all that is sought satisfies a choice of conditions. -/
private theorem choice_of_matches (keyword : Option String) {row : SCondition → Prop}
    (backend : Backend implies together row)
    (all : ∀ word ∈ sought number uuidValidate columnsState searchableColumns keyword,
      Matches number uuidValidate columnsState searchableColumns row word) :
    ∃ choice, Chosen number uuidValidate columnsState searchableColumns together keyword choice ∧
      ∀ word ∈ sought number uuidValidate columnsState searchableColumns keyword, row (choice word) := by
  have each : ∀ word, ∃ condition, word ∈ sought number uuidValidate columnsState searchableColumns keyword →
      condition ∈ keywordSearch number uuidValidate columnsState searchableColumns word ∧ row condition := by
    intro word
    by_cases member : word ∈ sought number uuidValidate columnsState searchableColumns keyword
    · obtain ⟨condition,pushed,holds⟩ :=
        (matches_iff number uuidValidate columnsState searchableColumns row word).mp (all word member)
      exact ⟨condition,fun _ => ⟨pushed,holds⟩⟩
    · exact ⟨blank "" .equals,fun inside => absurd inside member⟩
  choose choice holds using each
  have filled : ∀ word ∈ sought number uuidValidate columnsState searchableColumns keyword,
      ¬ IsBlank (choice word) := by
    intro word member
    have inside := ((mem_sought number uuidValidate columnsState searchableColumns keyword word).mp member).1
    rw [isBlank_iff number uuidValidate columnsState searchableColumns (holds word member).1]
    simpa using (List.mem_filter.mp inside).2
  refine ⟨choice,⟨fun word member => (holds word member).1,fun word member other inside => ?_⟩,
    fun word member => (holds word member).2⟩
  exact backend.together _ _ (filled word member) (filled other inside) (holds word member).2 (holds other inside).2

private theorem meant_of_searchable (given : String)
    (searchable : ∀ choice, Chosen number uuidValidate columnsState searchableColumns together (some given) choice →
      Searchable number uuidValidate columnsState searchableColumns implies given choice) :
    Meant number uuidValidate columnsState searchableColumns implies together given := by
  intro row backend
  constructor
  · intro found word member
    have sought_found : ∀ word ∈ sought number uuidValidate columnsState searchableColumns (some given),
        Matches number uuidValidate columnsState searchableColumns row word := by
      intro word member
      obtain ⟨listed,full⟩ := (mem_sought number uuidValidate columnsState searchableColumns _ word).mp member
      exact (found word ((mem_words given word).mp listed).1).resolve_left full
    obtain ⟨choice,chosen,_⟩ := choice_of_matches number uuidValidate columnsState searchableColumns implies together
      (some given) backend sought_found
    exact sought_found word ((searchable choice chosen).searched word member)
  · intro all word inside
    by_cases nonempty : word = ""
    · subst nonempty
      obtain ⟨choice,chosen,holds⟩ := choice_of_matches number uuidValidate columnsState searchableColumns implies
        together (some given) backend (fun word member =>
          all word ((mem_sought number uuidValidate columnsState searchableColumns _ word).mp member).1)
      have whole := searchable choice chosen
      refine (whole.empty inside).imp_right (fun ⟨word,member,condition,pushed,field,gives⟩ => ?_)
      have listed := whole.searched word member
      have filled := (isBlank_iff number uuidValidate columnsState searchableColumns
        (chosen.searched word listed)).not.mpr ((mem_words given word).mp member).2
      have same : condition = blank (choice word).field condition.operator := by
        rw [blank,← field,← keywordSearch_value number uuidValidate columnsState searchableColumns pushed]
      refine (matches_iff number uuidValidate columnsState searchableColumns row "").mpr ⟨condition,pushed,?_⟩
      rw [same]
      exact backend.blanks _ filled (holds word listed) _ gives
    · exact Or.inr (all word ((mem_words given word).mpr ⟨inside,nonempty⟩))

end Given

def ageColumn : TSearchableColumn := { field := .name "age", operator := .equals, numeric := true }

def nameColumn : TSearchableColumn := { field := .name "name", operator := .containsLow }

/-- Whatever satisfies a condition other than to be null is a value, and contains the empty text. -/
def likes : CondOperator → CondOperator → Bool
  | .isNull, operator => operator = .isNull
  | _, operator => operator ∈ [.contains,.containsLow,.starts,.notNull]

/-- A text is equal to one text only. -/
def oneText (condition other : SCondition) : Prop :=
  condition.field = other.field → condition.operator = .equals → other.operator = .equals →
    condition.value = other.value

/-- A space after a word that is contained in the name does nothing. -/
example (choice : String → SCondition)
    (chosen : Chosen (fun _ => .nan) (fun _ => false) none [nameColumn] oneText (some "joe ") choice) :
    Searchable (fun _ => .nan) (fun _ => false) none [nameColumn] likes "joe " choice := by
  have contained : choice "joe" = ⟨"name",.containsLow,.scalar (.str "joe")⟩ :=
    List.mem_singleton.mp (chosen.searched "joe" (by decide))
  refine ⟨by decide,fun _ => Or.inr ⟨"joe",by decide,blank "name" .containsLow,by decide,?_⟩⟩
  rw [contained]
  decide

def numberOf (word : String) : Number := .finite (if word = "42" then 42 else 0)

/-- A row of the age 42. -/
def fortyTwo (condition : SCondition) : Prop :=
  condition = ⟨"age",.equals,.scalar (.str "42")⟩ ∨
    ∃ operator, likes .equals operator = true ∧ condition = blank "age" operator

private theorem fortyTwo_backend : Backend likes oneText fortyTwo := by
  constructor
  · rintro condition filled (rfl | ⟨_,_,rfl⟩) operator gives
    · exact Or.inr ⟨operator,gives,rfl⟩
    · exact absurd (isBlank_blank _ _) filled
  · rintro condition other filled full (rfl | ⟨_,_,rfl⟩) (rfl | ⟨_,_,rfl⟩) _ _ _
    · rfl
    · exact absurd (isBlank_blank _ _) full
    · exact absurd (isBlank_blank _ _) filled
    · exact absurd (isBlank_blank _ _) filled

end BoarPack.Table.Keyword
