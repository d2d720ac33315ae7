import BoarPack.Library.Containers
import BoarPack.Library.Transition

/-! `permissions` of `UserCreateDto` and `UserUpdateDto`: their validation, and the permissions it lets through to
the users table. -/
namespace BoarPack.Users.PermissionsDto
open Containers Containers.Distinct Transition

abbrev Permissions : Type := Distinct String

namespace Permissions

def addPermission (values : Permissions) (permission : String) : Permissions := values.add permission

def isValidPermission (values : Permissions) (permission : String) : Bool := permission ∈ values

end Permissions

inductive Returned
  | value (value : List String)
  | error (code : String)
  deriving DecidableEq, Repr

/-- `reports`: what `helpers.error` made, which counts only where it is returned. -/
structure Custom where
  reports : List String
  returned : Returned
  deriving DecidableEq, Repr

section

variable (values : Permissions)

def customPermissions (value : List String) : Custom where
  reports := value.foldl (fun reports permission =>
    if Permissions.isValidPermission values permission then reports else reports ++ ["any.invalid"]) []
  returned := .value value

/-- `Joi.array().items(Joi.string())`, where an empty text is no string, and then the custom validator. -/
def validatePermissions (value : List String) : Except String (List String) :=
  if "" ∈ value then .error "string.empty"
  else match (customPermissions values value).returned with
    | .value value => .ok value
    | .error code => .error code

def UserCreateDto.permissions (sent : Option (List String)) : Except String (List String) :=
  match sent with
  | none => .ok []
  | some value => validatePermissions values value

def UserUpdateDto.permissions (sent : Option (List String)) : Except String (Option (List String)) :=
  match sent with
  | none => .ok none
  | some value => (validatePermissions values value).map some

end

/-- `stored` is history: each permission that was stored, and whether it was registered then. -/
structure State where
  values : Permissions
  users : List (String × List String) := []
  stored : List (String × Bool) := []

inductive Event
  | addPermission (permission : String)
  | createOne (id : String) (permissions : Option (List String))
  | updateOne (id : String) (permissions : Option (List String))
  deriving DecidableEq, Repr

def State.store (s : State) (id : String) (permissions : List String) : State :=
  { s with
    users := set s.users id permissions
    stored := s.stored ++ permissions.map (fun permission =>
      (permission,Permissions.isValidPermission s.values permission)) }

def step (s : State) : Event → Option State
  | .addPermission permission => some { s with values := Permissions.addPermission s.values permission }
  | .createOne id permissions =>
    if id ∈ s.users.map Prod.fst then none
    else match UserCreateDto.permissions s.values permissions with
      | .ok permissions => some (s.store id permissions)
      | .error _ => some s
  | .updateOne id permissions =>
    if id ∉ s.users.map Prod.fst then none
    else match UserUpdateDto.permissions s.values permissions with
      | .ok (some permissions) => some (s.store id permissions)
      | .ok none => some s
      | .error _ => some s

def Registered (values : Permissions) (permissions : List String) : Prop :=
  ∀ permission ∈ permissions, permission ∈ values

def Stored (s : State) : Prop := ∀ entry ∈ s.stored, entry.2 = true

def Sends (s : State) : Event → Prop
  | .createOne _ (some permissions) | .updateOne _ (some permissions) => "" ∉ permissions →
    Registered s.values permissions
  | _ => True

/-- There is an empty text where, and only where, something is not registered. -/
def Judged (values : Permissions) (permissions : List String) : Prop :=
  "" ∈ permissions ↔ ¬ Registered values permissions

theorem validatePermissions_ok (values : Permissions) (value : List String) (full : "" ∉ value) :
    validatePermissions values value = .ok value := by
  unfold validatePermissions
  rw [if_neg full]
  rfl

theorem validatePermissions_error (values : Permissions) (value : List String) (empty : "" ∈ value) :
    validatePermissions values value = .error "string.empty" :=
  if_pos empty

private theorem created_iff (values : Permissions) (value : List String) :
    (∃ permissions, UserCreateDto.permissions values (some value) = .ok permissions) ↔ "" ∉ value := by
  unfold UserCreateDto.permissions
  by_cases empty : "" ∈ value
  · simp [validatePermissions_error values value empty,empty]
  · simp [validatePermissions_ok values value empty,empty]

private theorem updated_iff (values : Permissions) (value : List String) :
    (∃ permissions, UserUpdateDto.permissions values (some value) = .ok permissions) ↔ "" ∉ value := by
  unfold UserUpdateDto.permissions
  by_cases empty : "" ∈ value
  · simp [validatePermissions_error values value empty,Except.map,empty]
  · simp [validatePermissions_ok values value empty,Except.map,empty]

private theorem stored_store (s : State) (id : String) (permissions : List String) (stored : Stored s) :
    Stored (s.store id permissions) ↔ Registered s.values permissions := by
  have divided : Stored (s.store id permissions) ↔ Stored s ∧ Registered s.values permissions := by
    simp only [Stored,State.store,List.forall_mem_append,List.forall_mem_map]
    simp [Registered,Permissions.isValidPermission]
  rw [divided,and_iff_right stored]

/-- An array is stored as it was sent, unless it holds an empty text. -/
inductive Moved (s : State) : Event → State → Prop
  | registered (permission : String) :
    Moved s (.addPermission permission) { s with values := Permissions.addPermission s.values permission }
  | created (id : String) (value : List String) (full : "" ∉ value) :
    Moved s (.createOne id (some value)) (s.store id value)
  | updated (id : String) (value : List String) (full : "" ∉ value) :
    Moved s (.updateOne id (some value)) (s.store id value)
  | default (id : String) : Moved s (.createOne id none) (s.store id [])
  | kept (id : String) : Moved s (.updateOne id none) s
  | refused (event : Event) (sends : Sends s event) : Moved s event s

theorem step_moved {s t : State} {event : Event} (taken : step s event = some t) : Moved s event t := by
  cases event with
  | addPermission permission =>
    obtain rfl := Option.some.inj taken
    exact .registered permission
  | createOne id permissions =>
    simp only [step] at taken
    split at taken
    next => cases taken
    next =>
      cases permissions with
      | none =>
        obtain rfl := Option.some.inj taken
        exact .default id
      | some value =>
        by_cases empty : "" ∈ value
        · rw [UserCreateDto.permissions,validatePermissions_error s.values value empty] at taken
          obtain rfl := Option.some.inj taken
          exact .refused _ (fun full => absurd empty full)
        · rw [UserCreateDto.permissions,validatePermissions_ok s.values value empty] at taken
          obtain rfl := Option.some.inj taken
          exact .created id value empty
  | updateOne id permissions =>
    simp only [step] at taken
    split at taken
    next => cases taken
    next =>
      cases permissions with
      | none =>
        obtain rfl := Option.some.inj taken
        exact .kept id
      | some value =>
        by_cases empty : "" ∈ value
        · rw [UserUpdateDto.permissions,validatePermissions_error s.values value empty] at taken
          obtain rfl := Option.some.inj taken
          exact .refused _ (fun full => absurd empty full)
        · rw [UserUpdateDto.permissions,validatePermissions_ok s.values value empty] at taken
          obtain rfl := Option.some.inj taken
          exact .updated id value empty

theorem stored_step (s : State) (event : Event) (t : State) (stored : Stored s) (taken : step s event = some t) :
    Sends s event ↔ Stored t := by
  cases step_moved taken with
  | registered permission => exact iff_of_true trivial stored
  | created id value full => rw [stored_store s id value stored,Sends,imp_iff_right full]
  | updated id value full => rw [stored_store s id value stored,Sends,imp_iff_right full]
  | default id =>
    rw [stored_store s id [] stored]
    exact iff_of_true trivial (fun _ never => by cases never)
  | kept id => exact iff_of_true trivial stored
  | refused _ sends => exact iff_of_true sends stored

/-- Validation succeeds exactly for the arrays that are registered, where an array holds an empty text if and only if
something in it is not registered; and what is stored in a run was registered then, if and only if no array without an
empty text is sent that is not. -/
theorem permissions_registered_iff (values : Permissions) (events : List Event) :
    (∀ value, ((∃ permissions, UserCreateDto.permissions values (some value) = .ok permissions) ↔
      Registered values value) ↔
      Judged values value) ∧
    (∀ value, ((∃ permissions, UserUpdateDto.permissions values (some value) = .ok permissions) ↔
      Registered values value) ↔
      Judged values value) ∧
    (Always step Stored { values := values } events ↔ Meets step Sends { values := values } events) := by
  have judged (value : List String) : ("" ∉ value ↔ Registered values value) ↔ Judged values value :=
    not_iff_comm.trans Iff.comm
  refine ⟨fun value => ?_,fun value => ?_,?_⟩
  · rw [created_iff,judged]
  · rw [updated_iff,judged]
  · apply always_iff_meets (fun _ => True) Stored Sends (fun _ _ _ _ _ => trivial)
    · exact fun s event t _ => stored_step s event t
    · trivial
    · intro entry never
      cases never

theorem unregistered_accepted : ¬ ∀ (values : Permissions) (value : List String),
    (∃ permissions, UserCreateDto.permissions values (some value) = .ok permissions) ↔ Registered values value := by
  intro accepted
  have registered := (accepted .empty ["manage_all"]).mp ⟨_,rfl⟩
  exact absurd (registered "manage_all" List.mem_cons_self) (mem_empty _)

end BoarPack.Users.PermissionsDto
