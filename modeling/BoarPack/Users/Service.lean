import BoarPack.Common
import Mathlib.Data.List.Nodup

/-! The users table as `UsersService` and the CRUD layer see it: `findOne` leaves
soft-deleted rows out, the primary key and the unique constraint on the e-mail
do not. -/
namespace BoarPack.Users

inductive Roles
  | admin
  | user
  deriving DecidableEq, Repr

structure User where
  id : String
  name : String
  email : String
  role : Roles
  pass : Option String
  permissions : List String
  deletedAt : Option Nat
  deriving DecidableEq, Repr

/-- What an authentication leaves in `request.user`: a row without `pass`, with
the name missing where the query does not select it, and the id of the API token
that was used, if one was. -/
structure TUser where
  id : String
  name : Option String
  email : String
  role : Roles
  permissions : List String
  tokenId : Option String
  deriving DecidableEq, Repr

def User.selected (user : User) : TUser :=
  { id := user.id, name := none, email := user.email, role := user.role,
    permissions := user.permissions, tokenId := none }

def User.withoutPass (user : User) : TUser :=
  { user.selected with name := some user.name }

abbrev Table := List User

def findOne (table : Table) (id : String) : Option User :=
  table.find? (fun user => user.id == id && user.deletedAt.isNone)

def findByEmail (platform : Platform) (table : Table) (email : String) : Option User :=
  table.find? (fun user => user.email == platform.toLowerCase email && user.deletedAt.isNone)

/-- `repo.save` of a new row: refused by the primary key or by the unique e-mail,
both of which also cover soft-deleted rows. -/
def insert (table : Table) (user : User) : Option Table :=
  if table.any (fun row => row.id == user.id || row.email == user.email) then none
  else some (table ++ [user])

def create (platform : Platform) (table : Table) (data : User) : Option Table :=
  insert table { data with email := platform.toLowerCase data.email, deletedAt := none }

def softRemove (table : Table) (id : String) (now : Nat) : Table :=
  table.map (fun user =>
    if user.id == id && user.deletedAt.isNone then { user with deletedAt := some now } else user)

theorem findOne_some (table : Table) (id : String) (user : User) (found : findOne table id = some user) :
    user ∈ table ∧ user.id = id ∧ user.deletedAt = none := by
  have matched := List.find?_some found
  simp only [Bool.and_eq_true,beq_iff_eq,Option.isNone_iff_eq_none] at matched
  exact ⟨List.mem_of_find?_eq_some found,matched.1,matched.2⟩

theorem findOne_isSome (table : Table) (id : String) :
    (findOne table id).isSome = true ↔ ∃ user ∈ table, user.id = id ∧ user.deletedAt = none := by
  simp [findOne,List.find?_isSome]

theorem findByEmail_some (platform : Platform) (table : Table) (email : String) (user : User)
    (found : findByEmail platform table email = some user) :
    user ∈ table ∧ user.email = platform.toLowerCase email ∧ user.deletedAt = none := by
  have matched := List.find?_some found
  simp only [Bool.and_eq_true,beq_iff_eq,Option.isNone_iff_eq_none] at matched
  exact ⟨List.mem_of_find?_eq_some found,matched.1,matched.2⟩

theorem insert_some (table next : Table) (user : User) (inserted : insert table user = some next) :
    next = table ++ [user] ∧ ∀ row ∈ table, row.id ≠ user.id ∧ row.email ≠ user.email := by
  unfold insert at inserted
  split at inserted
  next taken => cases inserted
  next absent =>
    refine ⟨(Option.some.inj inserted).symm,fun row member => ?_⟩
    simp only [List.any_eq_true,Bool.or_eq_true,beq_iff_eq,not_exists,not_and,not_or] at absent
    exact absent row member

structure Keyed (table : Table) : Prop where
  ids : (table.map User.id).Nodup
  emails : (table.map User.email).Nodup

theorem Keyed.empty : Keyed [] := ⟨List.nodup_nil,List.nodup_nil⟩

theorem Keyed.insert {table next : Table} {user : User} (keyed : Keyed table)
    (inserted : insert table user = some next) : Keyed next := by
  obtain ⟨rfl,fresh⟩ := insert_some table next user inserted
  constructor
  · rw [List.map_append,List.nodup_append]
    refine ⟨keyed.ids,by simp,?_⟩
    simp only [List.mem_map,List.map_cons,List.map_nil,List.mem_singleton]
    rintro id ⟨row,member,rfl⟩ other rfl
    exact (fresh row member).1
  · rw [List.map_append,List.nodup_append]
    refine ⟨keyed.emails,by simp,?_⟩
    simp only [List.mem_map,List.map_cons,List.map_nil,List.mem_singleton]
    rintro email ⟨row,member,rfl⟩ other rfl
    exact (fresh row member).2

theorem mem_softRemove (table : Table) (id : String) (now : Nat) (user : User) :
    user ∈ softRemove table id now ↔ ∃ row ∈ table, user =
      if row.id = id ∧ row.deletedAt = none then { row with deletedAt := some now } else row := by
  simp only [softRemove,List.mem_map,Bool.and_eq_true,beq_iff_eq,Option.isNone_iff_eq_none]
  exact exists_congr (fun row => and_congr_right (fun _ => eq_comm))

theorem softRemove_ids (table : Table) (id : String) (now : Nat) :
    (softRemove table id now).map User.id = table.map User.id := by
  simp only [softRemove,List.map_map]
  refine List.map_congr_left (fun user _ => ?_)
  simp only [Function.comp_apply]
  split <;> rfl

private theorem softRemove_emails (table : Table) (id : String) (now : Nat) :
    (softRemove table id now).map User.email = table.map User.email := by
  simp only [softRemove,List.map_map]
  refine List.map_congr_left (fun user _ => ?_)
  simp only [Function.comp_apply]
  split <;> rfl

theorem Keyed.softRemove {table : Table} (keyed : Keyed table) (id : String) (now : Nat) :
    Keyed (softRemove table id now) :=
  ⟨softRemove_ids table id now ▸ keyed.ids,softRemove_emails table id now ▸ keyed.emails⟩

theorem findOne_deleted {table : Table} (keyed : Keyed table) {user : User} (member : user ∈ table)
    (deleted : user.deletedAt ≠ none) : findOne table user.id = none := by
  cases found : findOne table user.id with
  | none => rfl
  | some other =>
    obtain ⟨inside,same,alive⟩ := findOne_some table user.id other found
    have equal : other = user := List.inj_on_of_nodup_map keyed.ids inside member same
    exact absurd (equal ▸ alive) deleted

theorem findByEmail_deleted {table : Table} (keyed : Keyed table) (platform : Platform) {user : User}
    (member : user ∈ table) (deleted : user.deletedAt ≠ none) (email : String)
    (spelled : platform.toLowerCase email = user.email) : findByEmail platform table email = none := by
  cases found : findByEmail platform table email with
  | none => rfl
  | some other =>
    obtain ⟨inside,same,alive⟩ := findByEmail_some platform table email other found
    have equal : other = user :=
      List.inj_on_of_nodup_map keyed.emails inside member (same.trans spelled)
    exact absurd (equal ▸ alive) deleted

end BoarPack.Users
