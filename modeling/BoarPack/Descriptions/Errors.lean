import Mathlib.Data.List.Pairwise
import BoarPack.Descriptions.Sections

/-! The errors of each tab of `Descriptions`, which it keeps in a map by the keys of the sections. -/
namespace BoarPack.Descriptions
open Containers Table Table.Columns

variable {N T : Type}

abbrev FieldErrors (N : Type) : Type := Option (DataIndex N) → List String

/-- `errors`: of the whole form, after the validation. `submit`: of a form with an `onCreate`. -/
inductive Event (N : Type)
  | reset
  | submit (errors : FieldErrors N)
  | onValuesChange (key : String) (errors : FieldErrors N)

def errorCount (errors : FieldErrors N) (part : TDescriptionSection N T) : Nat :=
  part.columns.countP (fun column => 0 < (errors column.dataIndex).length)

def errorsNumber (numbers : Numbers N) (errors : FieldErrors N) (part : TDescriptionSection N T) : Nat :=
  part.columns.foldl (fun acc column => acc + (errors (column.dataIndex.map (dotted numbers))).length) 0

section Code

variable [DecidableEq N]

def columnDataIndexToSection (sections : List (TDescriptionSection N T)) :
    Except String (List (Option (DataIndex N) × TDescriptionSection N T)) :=
  sections.foldlM (fun acc part => part.columns.foldlM (fun acc column =>
    match column.dataIndex with
    | some (.path _) => .error "We only support simple dataIndex for now"
    | dataIndex => .ok (set acc dataIndex part)) acc) []

def initialErrors (sections : List (TDescriptionSection N T)) : List (String × Nat) :=
  keyed TDescriptionSection.key (fun _ => 0) sections

/-- `errorsPerSection`. -/
def step (numbers : Numbers N) (sections : List (TDescriptionSection N T))
    (registered : List (Option (DataIndex N) × TDescriptionSection N T)) (errorsPerSection : List (String × Nat)) :
    Event N → List (String × Nat)
  | .reset => initialErrors sections
  | .submit errors => keyed TDescriptionSection.key (errorCount errors) sections
  | .onValuesChange key errors =>
    match get registered (some (.key (.text key))) with
    -- reading the columns of no section throws after the validation
    | none => errorsPerSection
    | some part => set errorsPerSection part.key (errorsNumber numbers errors part)

end Code

section Own

/-- The columns of the tab with an error in the form. -/
def TDescriptionSection.inError (part : TDescriptionSection N T) (errors : FieldErrors N) : List (ProColumns N T) :=
  part.columns.filter (fun column => errors column.dataIndex ≠ [])

/-- The errors in the form of the columns of the tab. -/
def TDescriptionSection.messages (part : TDescriptionSection N T) (errors : FieldErrors N) : List String :=
  part.columns.flatMap (fun column => errors column.dataIndex)

def TDescriptionSection.has [DecidableEq N] (key : String) (part : TDescriptionSection N T) : Bool :=
  part.columns.any (fun column => column.dataIndex = some (.key (.text key)))

/-- What a tab is to show next: its fields in error after a submission, all the errors of them after a change of one. -/
def TDescriptionSection.count [DecidableEq N] (part : TDescriptionSection N T) (shown : Nat) : Event N → Nat
  | .reset => 0
  | .submit errors => (part.inError errors).length
  | .onValuesChange key errors => if part.has key then (part.messages errors).length else shown

def OwnCounts [DecidableEq N] (numbers : Numbers N) (sections : List (TDescriptionSection N T)) : Prop :=
  ∃ registered, columnDataIndexToSection sections = .ok registered ∧ ∀ events : List (Event N), ∀ part ∈ sections,
    get (events.foldl (step numbers sections registered) (initialErrors sections)) part.key =
      some (events.foldl part.count 0)

private theorem errorCount_eq (errors : FieldErrors N) (part : TDescriptionSection N T) :
    errorCount errors part = (part.inError errors).length := by
  unfold errorCount TDescriptionSection.inError
  rw [List.countP_eq_length_filter]
  congr 2
  funext column
  simp [List.length_pos_iff]

private theorem get_keyed_part {sections : List (TDescriptionSection N T)}
    (distinct : (sections.map TDescriptionSection.key).Nodup)
    (count : TDescriptionSection N T → Nat) {part : TDescriptionSection N T} (inside : part ∈ sections) :
    get (keyed TDescriptionSection.key count sections) part.key = some (count part) := by
  rw [get_some_iff (nodup_keyed _ _ _),keyed_nodup _ _ distinct]
  exact List.mem_map.mpr ⟨part,inside,rfl⟩

end Own

section Registered

variable [DecidableEq N]

def registrations (sections : List (TDescriptionSection N T)) : List (TDescriptionSection N T × ProColumns N T) :=
  sections.flatMap (fun part => part.columns.map (fun column => (part,column)))

def TextSections (sections : List (TDescriptionSection N T)) : Prop :=
  ∀ part ∈ sections, ∀ column ∈ part.columns, ∃ name, column.dataIndex = some (.key (.text name))

private theorem columnDataIndexToSection_ok {sections : List (TDescriptionSection N T)}
    (texts : TextSections sections) :
    columnDataIndexToSection sections =
      .ok (keyed (fun entry => entry.2.dataIndex) Prod.fst (registrations sections)) := by
  unfold columnDataIndexToSection keyed registrations
  rw [List.foldl_flatMap]
  apply foldlM_ok_of_each
  intro part inside acc
  rw [List.foldl_map]
  apply foldlM_ok_of_each
  intro column member acc
  obtain ⟨name,given⟩ := texts part inside column member
  simp only [given]

/-- A name leads to the last section that has a column of it. -/
theorem get_registered (sections : List (TDescriptionSection N T)) (key : String) :
    get (keyed (fun entry => entry.2.dataIndex) Prod.fst (registrations sections)) (some (.key (.text key))) =
      (sections.filter (TDescriptionSection.has key)).getLast? := by
  rw [get_keyed]
  induction sections using List.reverseRecOn with
  | nil => rfl
  | append_singleton sections part ih =>
    have split_last : registrations (sections ++ [part]) =
        registrations sections ++ part.columns.map (fun column => (part,column)) := by
      simp [registrations]
    rw [split_last,List.filter_append,List.filter_append,List.getLast?_append,List.getLast?_append,List.filter_map,
      List.getLast?_map]
    cases having : part.has key with
    | true =>
      obtain ⟨column,member,named⟩ := List.any_eq_true.mp having
      have found : part.columns.filter
          ((fun entry => entry.2.dataIndex = some (.key (.text key))) ∘ fun column => (part,column)) ≠ [] :=
        List.ne_nil_of_mem (List.mem_filter.mpr ⟨member,named⟩)
      rw [List.getLast?_eq_some_getLast found,List.filter_cons_of_pos having]
      rfl
    | false =>
      have none_named : part.columns.filter
          ((fun entry => entry.2.dataIndex = some (.key (.text key))) ∘ fun column => (part,column)) = [] :=
        List.filter_eq_nil_iff.mpr (List.any_eq_false.mp having)
      rw [none_named]
      simpa [having] using ih

private theorem registered_some {sections : List (TDescriptionSection N T)} {key : String}
    {part : TDescriptionSection N T}
    (found : get (keyed (fun entry => entry.2.dataIndex) Prod.fst (registrations sections)) (some (.key (.text key))) =
      some part) : part ∈ sections ∧ part.has key = true := by
  rw [get_registered] at found
  exact List.mem_filter.mp (List.mem_of_getLast? found)

private theorem registered_of_has {sections : List (TDescriptionSection N T)} {key : String}
    {part : TDescriptionSection N T} (inside : part ∈ sections) (having : part.has key = true) : ∃ last,
    get (keyed (fun entry => entry.2.dataIndex) Prod.fst (registrations sections)) (some (.key (.text key))) =
      some last := by
  rw [get_registered]
  have found : sections.filter (TDescriptionSection.has key) ≠ [] :=
    List.ne_nil_of_mem (List.mem_filter.mpr ⟨inside,having⟩)
  exact ⟨_,List.getLast?_eq_some_getLast found⟩

omit [DecidableEq N] in
private theorem dotted_text (numbers : Numbers N) {sections : List (TDescriptionSection N T)}
    (texts : TextSections sections)
    {part : TDescriptionSection N T} (inside : part ∈ sections) (errors : FieldErrors N) :
    errorsNumber numbers errors part = (part.messages errors).length := by
  unfold errorsNumber TDescriptionSection.messages
  rw [List.length_flatMap,List.sum_eq_foldl,List.foldl_map]
  apply List.foldl_ext
  intro acc column member
  obtain ⟨name,given⟩ := texts part inside column member
  rw [given]
  rfl

/-- No field is in both. -/
def Unlike (own other : List (ProColumns N T)) : Prop :=
  ∀ column ∈ own, ∀ twin ∈ other, column.dataIndex ≠ twin.dataIndex

instance : Std.Symm (fun part other : TDescriptionSection N T => Unlike part.columns other.columns) where
  symm _ _ unlike column member twin last := (unlike twin last column member).symm

def Apart (sections : List (TDescriptionSection N T)) : Prop :=
  sections.Pairwise (fun part other => Unlike part.columns other.columns)

variable {sections : List (TDescriptionSection N T)}

theorem Apart.eq (apart : Apart sections) {key : String} {part other : TDescriptionSection N T}
    (inside : part ∈ sections)
    (outside : other ∈ sections) (having : part.has key = true) (twice : other.has key = true) : part = other := by
  by_contra differ
  obtain ⟨column,member,named⟩ := List.any_eq_true.mp having
  obtain ⟨twin,last,same⟩ := List.any_eq_true.mp twice
  have unlike := List.Pairwise.forall apart inside outside differ
  exact unlike column member twin last ((of_decide_eq_true named).trans (of_decide_eq_true same).symm)

private theorem step_shows (numbers : Numbers N) (texts : TextSections sections)
    (distinct : (sections.map TDescriptionSection.key).Nodup) (apart : Apart sections)
    {errorsPerSection : List (String × Nat)} {shown : TDescriptionSection N T → Nat}
    (shows_ : ∀ part ∈ sections, get errorsPerSection part.key = some (shown part)) (event : Event N)
    (part : TDescriptionSection N T) (inside : part ∈ sections) :
    get (step numbers sections (keyed (fun entry => entry.2.dataIndex) Prod.fst (registrations sections))
      errorsPerSection event) part.key = some (part.count (shown part) event) := by
  cases event with
  | reset => exact get_keyed_part distinct (fun _ => 0) inside
  | submit errors =>
    simp only [step,TDescriptionSection.count]
    rw [get_keyed_part distinct (errorCount errors) inside,errorCount_eq]
  | onValuesChange key errors =>
    simp only [step,TDescriptionSection.count]
    cases registered : get (keyed (fun entry => entry.2.dataIndex) Prod.fst (registrations sections))
        (some (.key (.text key))) with
    | none =>
      have without : part.has key ≠ true := by
        intro having
        obtain ⟨last,found⟩ := registered_of_has inside having
        rw [registered] at found
        cases found
      rw [if_neg without]
      exact shows_ part inside
    | some changed =>
      obtain ⟨member,having⟩ := registered_some registered
      by_cases same : part = changed
      · subst same
        rw [get_set_self,if_pos having,dotted_text numbers texts inside]
      · have without : part.has key ≠ true := fun twice => same (apart.eq inside member twice having)
        have unlike : part.key ≠ changed.key :=
          fun equal => same (List.inj_on_of_nodup_map distinct inside member equal)
        rw [get_set_other _ _ _ _ unlike,if_neg without]
        exact shows_ part inside

private theorem own_counts (numbers : Numbers N) (texts : TextSections sections)
    (distinct : (sections.map TDescriptionSection.key).Nodup) (apart : Apart sections) :
      OwnCounts numbers sections := by
  refine ⟨_,columnDataIndexToSection_ok texts,fun events => ?_⟩
  induction events using List.reverseRecOn with
  | nil => exact fun part inside => get_keyed_part distinct (fun _ => 0) inside
  | append_singleton before event ih =>
    intro part inside
    rw [List.foldl_append,List.foldl_append]
    exact step_shows numbers texts distinct apart ih event part inside

private theorem part_without_count {numbers : Numbers N} {key : String} {part changed : TDescriptionSection N T}
    (texts : TextSections sections) (distinct : (sections.map TDescriptionSection.key).Nodup)
    (own : OwnCounts numbers sections) (inside : part ∈ sections) (having : part.has key = true)
    (registered : get (keyed (fun entry => entry.2.dataIndex) Prod.fst (registrations sections))
      (some (.key (.text key))) = some changed) : part = changed := by
  by_contra differ
  obtain ⟨_,ok,shows_⟩ := own
  obtain rfl := Except.ok.inj ((columnDataIndexToSection_ok texts).symm.trans ok)
  have unlike : part.key ≠ changed.key := fun equal =>
    differ (List.inj_on_of_nodup_map distinct inside (registered_some registered).1 equal)
  have counted := shows_ [.onValuesChange key (fun _ => ["required"])] part inside
  simp only [List.foldl_cons,List.foldl_nil,step,registered,TDescriptionSection.count,having,if_true] at counted
  rw [get_set_other _ _ _ _ unlike,initialErrors,get_keyed_part distinct (fun _ => 0) inside] at counted
  obtain ⟨column,member,_⟩ := List.any_eq_true.mp having
  have some_message : "required" ∈ part.messages (fun _ => ["required"]) :=
    List.mem_flatMap.mpr ⟨column,member,List.mem_singleton_self _⟩
  exact absurd (Option.some.inj counted).symm (Nat.ne_of_gt (List.length_pos_of_mem some_message))

/-- A field in two sections is counted in the last of them only. -/
theorem apart_of_own_counts {numbers : Numbers N} (texts : TextSections sections)
    (distinct : (sections.map TDescriptionSection.key).Nodup) (own : OwnCounts numbers sections) : Apart sections := by
  apply (List.Nodup.of_map _ distinct).pairwise_of_forall_ne
  intro part inside other outside differ column member twin last same
  obtain ⟨name,given⟩ := texts part inside column member
  have having : part.has name = true := List.any_eq_true.mpr ⟨column,member,decide_eq_true given⟩
  have twice : other.has name = true := List.any_eq_true.mpr ⟨twin,last,decide_eq_true (same ▸ given)⟩
  obtain ⟨changed,registered⟩ := registered_of_has inside having
  apply differ
  rw [part_without_count texts distinct own inside having registered,
    part_without_count texts distinct own outside twice registered]

end Registered

section Conservation

/-- Each leaf is in the section of the group it is in, once, and in the order of the tree. -/
structure Conserved (columns : Columns N T) (mainTitle : T) (sections : List (TDescriptionSection N T)) : Prop where
  placed : sections.map (fun part => (part.title,part.columns)) =
    (mainTitle,columns.direct) :: columns.groups.map (fun group => (group.1.title,group.2.direct))
  once : (sections.flatMap TDescriptionSection.columns).Perm columns.leaves
  ordered : ∀ part ∈ sections, part.columns.Sublist columns.leaves

def TextLeaves (columns : Columns N T) : Prop :=
  ∀ column ∈ columns.leaves, ∃ name, column.dataIndex = some (.key (.text name))

/-- No group shares its key with another or with the main section. -/
def GroupsDistinct (numbers : Numbers N) (columns : Columns N T) (key : String) : Prop :=
  (∀ group ∈ columns.groups, sectionKey numbers group.1 ≠ key) ∧
    columns.groups.Pairwise (fun group other => sectionKey numbers group.1 ≠ sectionKey numbers other.1)

/-- No field is a leaf of two sections: in two groups, or in a group and outside of all of them. -/
def FieldsApart (columns : Columns N T) : Prop :=
  (columns.direct :: columns.groups.map (fun group => group.2.direct)).Pairwise Unlike

variable (numbers : Numbers N) (columns : Columns N T) (mainTitle : T) (key : String)

theorem conserved : Conserved columns mainTitle (columnsToDescriptionItemProps numbers columns mainTitle key) := by
  rw [sections_eq]
  constructor
  · simp [sectionOf]
  · simpa [List.flatMap_map,sectionOf] using columns.leaves_perm
  · intro part member
    rcases List.mem_cons.mp member with rfl | inside
    · exact columns.direct_sublist
    · obtain ⟨group,held,rfl⟩ := List.mem_map.mp inside
      exact Columns.group_sublist held

private theorem keys_nodup_iff :
    ((columnsToDescriptionItemProps numbers columns mainTitle key).map TDescriptionSection.key).Nodup ↔
      GroupsDistinct numbers columns key := by
  rw [sections_eq,List.map_cons,List.nodup_cons,List.map_map,List.Nodup,List.pairwise_map]
  apply and_congr_left'
  simp [sectionOf]

private theorem apart_iff :
    Apart (columnsToDescriptionItemProps numbers columns mainTitle key) ↔ FieldsApart columns := by
  rw [sections_eq]
  unfold Apart FieldsApart
  simp only [List.pairwise_cons,List.pairwise_map,List.forall_mem_map,sectionOf]

/-- The sections conserve the columns, have keys of their own and each tab shows the errors of its own columns, as they
were last counted, if and only if no group shares its key with another or with the main section and no field is in two
sections. -/
theorem sections_own_iff [DecidableEq N] (texts : TextLeaves columns) :
    Conserved columns mainTitle (columnsToDescriptionItemProps numbers columns mainTitle key) ∧
    ((columnsToDescriptionItemProps numbers columns mainTitle key).map TDescriptionSection.key).Nodup ∧
    OwnCounts numbers (columnsToDescriptionItemProps numbers columns mainTitle key) ↔
      GroupsDistinct numbers columns key ∧ FieldsApart columns := by
  have whole := conserved numbers columns mainTitle key
  have texts : TextSections (columnsToDescriptionItemProps numbers columns mainTitle key) :=
    fun part inside column member => texts column ((whole.ordered part inside).subset member)
  rw [and_iff_right whole,← keys_nodup_iff numbers columns mainTitle key,← apart_iff numbers columns mainTitle key]
  apply and_congr_right
  intro distinct
  exact ⟨apart_of_own_counts texts distinct,own_counts numbers texts distinct⟩

end Conservation

def textKeys : Numbers Unit where
  ofText _ := ()
  ofBool _ := ()
  nan := ()
  toText _ := "NaN"
  truthy _ := false

def titled (title : String) : ProColumns Unit String := { title, dataIndex := none }

def named (name : String) : ProColumns Unit String := { title := name, dataIndex := some (.key (.text name)) }

def namedGroups : Columns Unit String :=
  .leaf (named "name") (.group (named "contact") (.leaf (named "email") .nil)
    (.group (named "address") (.leaf (named "city") .nil) .nil))

def titledGroups : Columns Unit String :=
  .group (titled "Contact") (.leaf (named "email") .nil) (.group (titled "Address") (.leaf (named "city") .nil) .nil)

theorem named_groups_own :
    Conserved namedGroups "General" (columnsToDescriptionItemProps textKeys namedGroups "General") ∧
    ((columnsToDescriptionItemProps textKeys namedGroups "General").map TDescriptionSection.key).Nodup ∧
    OwnCounts textKeys (columnsToDescriptionItemProps textKeys namedGroups "General") := by
  apply (sections_own_iff textKeys namedGroups "General" "general" ?_).mpr
  · unfold GroupsDistinct FieldsApart Unlike
    decide
  · intro column member
    rcases List.mem_cons.mp member with rfl | inside
    · exact ⟨"name",rfl⟩
    · rcases List.mem_cons.mp inside with rfl | last
      · exact ⟨"email",rfl⟩
      · exact ⟨"city",List.mem_singleton.mp last ▸ rfl⟩

def emailMissing : FieldErrors Unit := fun name => if name = some (.key (.text "email")) then ["required"] else []

/-- Both groups have the key 'undefined', and the tab of the first shows the count of the second. -/
theorem titled_groups_share :
    TextLeaves titledGroups ∧
    ¬ ((columnsToDescriptionItemProps textKeys titledGroups "General").map TDescriptionSection.key).Nodup ∧
    ¬ OwnCounts textKeys (columnsToDescriptionItemProps textKeys titledGroups "General") := by
  refine ⟨?_,by decide,?_⟩
  · intro column member
    rcases List.mem_cons.mp member with rfl | last
    · exact ⟨"email",rfl⟩
    · exact ⟨"city",List.mem_singleton.mp last ▸ rfl⟩
  · intro own
    obtain ⟨registered,_,shows_⟩ := own
    have contact : get (keyed TDescriptionSection.key (errorCount emailMissing)
        (columnsToDescriptionItemProps textKeys titledGroups "General")) "undefined" = some 1 :=
      shows_ [.submit emailMissing] _ (List.mem_cons_of_mem _ List.mem_cons_self)
    exact absurd contact (by decide)

end BoarPack.Descriptions
