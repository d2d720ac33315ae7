import BoarPack.Casl.AbilityFactory

/-! `FieldsPermissionInterceptor`: the fields a request may select, worked out as a set in which '*'
stands for all of them, against what the ability allows field by field. -/
namespace BoarPack.Casl
open Containers Precedence

variable {T C O P : Type} [DecidableEq T]

structure Parsed where
  fields : Option (List String) := none
  deriving DecidableEq, Repr

/-- What the CRUD package leaves in the request under `PARSED_CRUD_REQUEST_KEY`. -/
structure CrudReq where
  parsed : Option Parsed := none
  deriving DecidableEq, Repr

def anyField : String := "*"

def fieldsFrom (rule : RawRule T C) : List String := rule.fields.getD [anyField]

structure FieldsPermissionInterceptor (T : Type) where
  subject : T
  action : String

namespace FieldsPermissionInterceptor

def permitted (casl : Package C O P) (all : T) (interceptor : FieldsPermissionInterceptor T)
    (ability : List (RawRule T C)) : List String :=
  casl.permittedFieldsOf all ability interceptor.action interceptor.subject fieldsFrom

def requested (crudReq : Option CrudReq) : List String := ((crudReq.bind CrudReq.parsed).bind Parsed.fields).getD []

def finalFields (permitted requested : List String) : List String :=
  if requested.length > 0 then requested.filter (fun field => permitted.contains field) else permitted

/-- `crudReq` when `next.handle()` is called. -/
def intercept (casl : Package C O P) (all : T) (interceptor : FieldsPermissionInterceptor T)
    (ability : Option (List (RawRule T C))) (crudReq : Option CrudReq) : Except Exception (Option CrudReq) :=
  match ability with
  | none => .error (.forbidden "No ability found on user")
  | some ability =>
    let permitted := permitted casl all interceptor ability
    -- the request goes on as it is, whatever the fields asked for
    if permitted.contains anyField then .ok crudReq
    else
      let finalFields := finalFields permitted (requested crudReq)
      if finalFields.length = 0 then .error (.forbidden "No readable fields for this resource")
      else match crudReq with
        | none => .error (.typeError "Cannot read properties of undefined (reading 'parsed')")
        | some crudReq =>
          .ok (some { crudReq with parsed := some { crudReq.parsed.getD {} with fields := some finalFields } })

end FieldsPermissionInterceptor

open FieldsPermissionInterceptor

def selected (columns : List String) (crudReq : Option CrudReq) : List String :=
  if requested crudReq = [] then columns else requested crudReq

/-- The rules that `permittedFieldsOf` and `can` look at. -/
def applicable (casl : Package C O P) (all : T) (interceptor : FieldsPermissionInterceptor T)
    (ability : List (RawRule T C)) : List (RawRule T C) :=
  ability.filter (fun rule => rule.applies casl.toMatchers all interceptor.action ⟨interceptor.subject,none⟩)

/-- Only columns that the ability allows are selected, or the request is forbidden. -/
def Agrees (casl : Package C O P) (all : T) (interceptor : FieldsPermissionInterceptor T) (columns : List String)
    (ability : List (RawRule T C)) : Except Exception (Option CrudReq) → Prop
  | .ok crudReq => ∀ column ∈ selected columns crudReq,
      casl.can all ability interceptor.action ⟨interceptor.subject,none⟩ (some column) = true
  | .error exception => ∃ message, exception = .forbidden message

/-- The last rule that puts `entry` into the set or takes it out, with the rules before and after it. -/
structure LastListing (rules : List (RawRule T C)) (entry : String) where
  older : List (RawRule T C)
  rule : RawRule T C
  newer : List (RawRule T C)
  split : rules = older ++ rule :: newer
  lists : entry ∈ fieldsFrom rule
  last : ∀ later ∈ newer, entry ∉ fieldsFrom later

/-- After the rule that lets the column through, the last one that covers the column is direct. If none
does and the rule itself does not (its '*' does not match the name), an earlier one decides. -/
def Untouched (casl : Package C O P) (column : String) {rules : List (RawRule T C)} {entry : String}
    (listing : LastListing rules entry) : Prop :=
  match last (RawRule.covers casl.toMatchers (some column)) listing.newer with
  | some later => later.inverted = false
  | none => listing.rule.covers casl.toMatchers (some column) = true ∨
      allows (RawRule.covers casl.toMatchers (some column)) listing.older = true

/-- Where all fields are let through, no column asked for is taken back; where they are not, none of those
let through by name. -/
def NothingTakenBack (casl : Package C O P) (columns : List String) (rules : List (RawRule T C))
    (crudReq : Option CrudReq) : Prop :=
  (∀ listing : LastListing rules anyField, listing.rule.inverted = false →
    ∀ column ∈ selected columns crudReq, Untouched casl column listing) ∧
  ((∀ listing : LastListing rules anyField, listing.rule.inverted = true) →
    ∀ column, requested crudReq = [] ∨ column ∈ requested crudReq →
      ∀ listing : LastListing rules column, listing.rule.inverted = false → Untouched casl column listing)

omit [DecidableEq T] in
private theorem listing_iff (rules : List (RawRule T C)) (entry : String) :
    entry ∈ toggled RawRule.inverted fieldsFrom rules ↔
      ∃ listing : LastListing rules entry, listing.rule.inverted = false := by
  rw [mem_toggled]
  constructor
  · rintro ⟨rule,decides,direct⟩
    obtain ⟨older,newer,split,lists,nothing⟩ := (last_eq_some _ rules rule).mp decides
    have unlisted := (last_eq_none _ newer).mp nothing
    exact ⟨⟨older,rule,newer,split,by simpa using lists,fun later member => by simpa using unlisted later member⟩,
      direct⟩
  · rintro ⟨listing,direct⟩
    refine ⟨listing.rule,(last_eq_some _ rules listing.rule).mpr
      ⟨listing.older,listing.newer,listing.split,?_,?_⟩,direct⟩
    · simpa using listing.lists
    · refine (last_eq_none _ _).mpr (fun later member => ?_)
      simpa using listing.last later member

omit [DecidableEq T] in
private theorem untouched_iff (casl : Package C O P) (column : String) {rules : List (RawRule T C)} {entry : String}
    (listing : LastListing rules entry) (direct : listing.rule.inverted = false) :
    Untouched casl column listing ↔ allows (RawRule.covers casl.toMatchers (some column)) rules = true := by
  have decided : last (RawRule.covers casl.toMatchers (some column)) rules =
      last (RawRule.covers casl.toMatchers (some column)) (listing.older ++ listing.rule :: listing.newer) :=
    congrArg _ listing.split
  unfold Untouched allows
  rw [decided,last_split]
  cases last (RawRule.covers casl.toMatchers (some column)) listing.newer with
  | some later => simp
  | none =>
    by_cases covered : listing.rule.covers casl.toMatchers (some column) = true
    · simp [covered,direct]
    · simp [covered]

private theorem can_iff (casl : Package C O P) (documented : Documented casl) (all : T)
    (interceptor : FieldsPermissionInterceptor T) (ability : List (RawRule T C)) (column : String) :
    casl.can all ability interceptor.action ⟨interceptor.subject,none⟩ (some column) =
      allows (RawRule.covers casl.toMatchers (some column)) (applicable casl all interceptor ability) := by
  rw [documented.decides]
  unfold allows applicable
  rw [last_filter]

private theorem mem_permitted (casl : Package C O P) (documented : Documented casl) (all : T)
    (interceptor : FieldsPermissionInterceptor T) (ability : List (RawRule T C)) (entry : String) :
    entry ∈ permitted casl all interceptor ability ↔
      ∃ listing : LastListing (applicable casl all interceptor ability) entry, listing.rule.inverted = false := by
  unfold permitted
  rw [documented.permitted,Distinct.mem_items]
  exact listing_iff _ entry

private theorem mem_finalFields (permitted requested : List String) (column : String) :
    column ∈ finalFields permitted requested ↔ (requested = [] ∨ column ∈ requested) ∧ column ∈ permitted := by
  unfold finalFields
  split
  next some_requested =>
    have given : requested ≠ [] := List.ne_nil_of_length_pos some_requested
    simp [given]
  next none_requested =>
    have nothing : requested = [] := List.eq_nil_of_length_eq_zero (by omega)
    simp [nothing]

private theorem selected_fields (columns fields : List String) (given : fields ≠ []) :
    selected columns (some ⟨some ⟨some fields⟩⟩) = fields := if_neg given

section Agreement

variable (casl : Package C O P) (documented : Documented casl) (all : T) (interceptor : FieldsPermissionInterceptor T)
  (columns : List String) (ability : List (RawRule T C)) (crudReq : CrudReq)
include documented

/-- A column that some rule lets through is allowed exactly if no later rule decides otherwise. -/
theorem allowed_iff (column entry : String) (listing : LastListing (applicable casl all interceptor ability) entry)
    (direct : listing.rule.inverted = false) :
    casl.can all ability interceptor.action ⟨interceptor.subject,none⟩ (some column) = true ↔
      Untouched casl column listing := by
  rw [can_iff casl documented all interceptor ability column,untouched_iff casl column listing direct]

private theorem inverted_of_not_every (not_every : anyField ∉ permitted casl all interceptor ability)
    (listing : LastListing (applicable casl all interceptor ability) anyField) : listing.rule.inverted = true := by
  by_contra other
  have direct : listing.rule.inverted = false := by simpa using other
  exact not_every ((mem_permitted casl documented all interceptor ability anyField).mpr ⟨listing,direct⟩)

private theorem every_agrees (every : anyField ∈ permitted casl all interceptor ability) :
    Agrees casl all interceptor columns ability (.ok (some crudReq)) ↔
      NothingTakenBack casl columns (applicable casl all interceptor ability) (some crudReq) := by
  have allowed := allowed_iff casl documented all interceptor ability
  obtain ⟨any_listing,direct⟩ := (mem_permitted casl documented all interceptor ability anyField).mp every
  constructor
  · intro agrees
    refine ⟨fun listing also column asked => ?_,fun inverted => ?_⟩
    · apply (allowed column anyField listing also).mp
      exact agrees column asked
    · rw [inverted any_listing] at direct
      cases direct
  · intro kept column asked
    apply (allowed column anyField any_listing direct).mpr
    exact kept.1 any_listing direct column asked

/-- Where all fields are not let through, only those let through by name can be taken back. -/
theorem nothingTakenBack_by_name (not_every : anyField ∉ permitted casl all interceptor ability) :
    NothingTakenBack casl columns (applicable casl all interceptor ability) (some crudReq) ↔
      ∀ column ∈ finalFields (permitted casl all interceptor ability) (requested (some crudReq)),
        casl.can all ability interceptor.action ⟨interceptor.subject,none⟩ (some column) = true := by
  have allowed := allowed_iff casl documented all interceptor ability
  have inverted := inverted_of_not_every casl documented all interceptor ability not_every
  constructor
  · intro kept column inside
    obtain ⟨asked,through⟩ := (mem_finalFields _ _ column).mp inside
    obtain ⟨listing,direct⟩ := (mem_permitted casl documented all interceptor ability column).mp through
    apply (allowed column column listing direct).mpr
    exact kept.2 inverted column asked listing direct
  · intro agrees
    refine ⟨fun listing direct => ?_,fun _ column asked listing direct => ?_⟩
    · rw [inverted listing] at direct
      cases direct
    · have through := (mem_permitted casl documented all interceptor ability column).mpr ⟨listing,direct⟩
      apply (allowed column column listing direct).mp
      exact agrees column ((mem_finalFields _ _ column).mpr ⟨asked,through⟩)

end Agreement

/-- The interceptor agrees with the ability exactly if no rule takes back what another lets through. -/
theorem fields_agree_iff (casl : Package C O P) (documented : Documented casl) (all : T)
    (interceptor : FieldsPermissionInterceptor T) (columns : List String) (ability : List (RawRule T C))
    (crudReq : CrudReq) :
    Agrees casl all interceptor columns ability (intercept casl all interceptor (some ability) (some crudReq)) ↔
      NothingTakenBack casl columns (applicable casl all interceptor ability) (some crudReq) := by
  simp only [intercept,List.contains_iff_mem]
  split
  next every => exact every_agrees casl documented all interceptor columns ability crudReq every
  next not_every =>
    rw [nothingTakenBack_by_name casl documented all interceptor columns ability crudReq not_every]
    split
    next nothing =>
      have none_final := List.eq_nil_of_length_eq_zero nothing
      rw [none_final]
      exact iff_of_true ⟨_,rfl⟩ (fun column inside => nomatch inside)
    next something =>
      have given : finalFields (permitted casl all interceptor ability) (requested (some crudReq)) ≠ [] :=
        fun none_final => something (by rw [none_final]; rfl)
      have chosen := selected_fields columns _ given
      constructor
      · intro agrees column inside
        apply agrees column
        rw [chosen]
        exact inside
      · intro agrees column asked
        rw [chosen] at asked
        exact agrees column asked

def readingUsers : FieldsPermissionInterceptor (Subjects Unit) := ⟨.type (),"read"⟩

theorem names_agree : Agrees (package plainMatchers) .all readingUsers ["name","pass"] [readUser false (some ["name"])]
      (intercept (package plainMatchers) .all readingUsers (some [readUser false (some ["name"])]) (some ⟨none⟩)) ↔
    NothingTakenBack (package plainMatchers) ["name","pass"]
      (applicable (package plainMatchers) .all readingUsers [readUser false (some ["name"])]) (some ⟨none⟩) :=
  fields_agree_iff (package plainMatchers) (package_documented plainMatchers) .all readingUsers ["name","pass"] _ ⟨none⟩

/-- Users may be read, but not their passwords: the interceptor lets every column through. And fields
that were allowed by name stay in the set when reading is forbidden altogether. -/
theorem forbidden_columns_selected :
    (intercept (package plainMatchers) .all readingUsers
        (some [readUser false none,readUser true (some ["pass"])]) (some ⟨none⟩) = .ok (some ⟨none⟩) ∧
      "pass" ∈ selected ["name","pass"] (some ⟨none⟩) ∧
      (package plainMatchers).can .all [readUser false none,readUser true (some ["pass"])] "read"
        ⟨Subjects.type (),none⟩ (some "pass") = false) ∧
    intercept (package plainMatchers) .all readingUsers
        (some [readUser false (some ["name"]),readUser true none]) (some ⟨none⟩) = .ok (some ⟨some ⟨some ["name"]⟩⟩) ∧
      (package plainMatchers).can .all [readUser false (some ["name"]),readUser true none] "read"
        ⟨Subjects.type (),none⟩ (some "name") = false := by
  refine ⟨⟨rfl,by decide,by decide⟩,rfl,by decide⟩

end BoarPack.Casl
