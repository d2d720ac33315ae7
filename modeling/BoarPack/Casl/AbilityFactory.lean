import BoarPack.Casl.Ability
import BoarPack.Users.Service

/-! `CaslAbilityFactory`: the rules of the role and the permissions, then those of the definers,
which run at the same time; and the packing of an ability for the client. -/
namespace BoarPack.Casl
open Containers Precedence Transition

inductive Action
  | manage
  | create
  | read
  | update
  | delete
  deriving DecidableEq, Repr

def Action.value : Action → String
  | manage => "manage"
  | create => "create"
  | read => "read"
  | update => "update"
  | delete => "delete"

inductive Subjects (K : Type)
  | all
  | type (class_ : K)
  deriving DecidableEq, Repr

variable {K C O P : Type}

abbrev Rule (K C : Type) : Type := RawRule (Subjects K) C

/-- The names of the classes are identifiers. -/
structure ClassNames (K : Type) where
  name : K → String
  own : Function.Injective name
  word : ∀ k, Word (name k)
  apart : ∀ k, name k ≠ "all"

def Subjects.text (names : ClassNames K) : Subjects K → String
  | all => "all"
  | type k => names.name k

structure User where
  id : String
  role : Users.Roles
  permissions : List String
  deriving DecidableEq, Repr

/-- A rule as `can` and `cannot` are given it. -/
structure Given (rule : Rule K C) : Prop where
  action : rule.action ≠ [] ∧ ∀ action ∈ rule.action, ∃ a : Action, action = a.value
  subject : rule.subject ≠ []

structure ActionAndSubject (K : Type) where
  action : Action
  subject : List (Subjects K)
  given : subject ≠ []

/-- The rules that the definer adds for a user before its first `await`, between that and the next,
and so on. -/
structure TAbilityDefiner (K C : Type) where
  parts : User → List (List (Rule K C))
  given : ∀ user, ∀ part ∈ parts user, ∀ rule ∈ part, Given rule

structure CaslAbilityFactory (K C : Type) where
  permissionsToActionsMap : List (String × ActionAndSubject K) := []
  abilitiesDefiners : List (TAbilityDefiner K C) := []

namespace CaslAbilityFactory

def addPermissionToAction (factory : CaslAbilityFactory K C) (permission : String) (entry : ActionAndSubject K) :
    CaslAbilityFactory K C :=
  { factory with permissionsToActionsMap := set factory.permissionsToActionsMap permission entry }

/-- Of an unknown permission there is only a warning. -/
def roleRules (factory : CaslAbilityFactory K C) (user : User) : List (Rule K C) :=
  match user.role with
  | .admin => [{ action := [Action.manage.value], subject := [.all] }]
  | .user => user.permissions.filterMap (fun permission =>
      (Containers.get factory.permissionsToActionsMap permission).map (fun entry =>
        { action := [entry.action.value], subject := entry.subject }))

/-- `Promise.all` has called every definer, and each has come to its first `await`. -/
def called (factory : CaslAbilityFactory K C) (user : User) : Turns (Rule K C) where
  pending := factory.abilitiesDefiners.map (fun definer => (definer.parts user).tail)
  written := factory.roleRules user ++ factory.abilitiesDefiners.flatMap (fun definer => (definer.parts user).headD [])

/-- The rules of the ability, when the definers are resumed in the order of `turns`. -/
def createForUser (factory : CaslAbilityFactory K C) (user : User) (turns : List Nat) : Option (List (Rule K C)) :=
  match run Turns.turn (factory.called user) turns with
  | some s => if s.Finished then some s.written else none
  | none => none

end CaslAbilityFactory

def copied (rule : Rule K C) : Rule K C :=
  { action := rule.action, subject := rule.subject, inverted := rule.inverted, conditions := rule.conditions }

def packAbility (casl : Package C O P) (names : ClassNames K) (rules : List (Rule K C)) : List P :=
  casl.packRules (Subjects.text names) (rules.map copied)

/-- What the client makes of the `policies` of its user. -/
def unpackAbility (casl : Package C O P) (policies : List P) : List (RawRule String C) := casl.unpackRules policies

theorem text_injective (names : ClassNames K) : Function.Injective (Subjects.text names) := by
  intro left right same
  cases left with
  | all =>
    cases right with
    | all => rfl
    | type k => exact absurd same.symm (names.apart k)
  | type k =>
    cases right with
    | all => exact absurd same (names.apart k)
    | type l => exact congrArg Subjects.type (names.own same)

theorem value_word (action : Action) : Word action.value := by
  cases action <;> decide

theorem text_word (names : ClassNames K) (subject : Subjects K) : Word (subject.text names) := by
  cases subject with
  | all => exact (by decide : Word "all")
  | type k => exact names.word k

private theorem roleRules_given (factory : CaslAbilityFactory K C) (user : User) :
    ∀ rule ∈ factory.roleRules user, Given rule := by
  intro rule member
  unfold CaslAbilityFactory.roleRules at member
  split at member
  next =>
    obtain rfl := List.mem_singleton.mp member
    exact ⟨⟨by simp,fun action listed => ⟨.manage,List.mem_singleton.mp listed⟩⟩,by simp⟩
  next =>
    obtain ⟨permission,_,found⟩ := List.mem_filterMap.mp member
    obtain ⟨entry,_,rfl⟩ := Option.map_eq_some_iff.mp found
    exact ⟨⟨by simp,fun action listed => ⟨entry.action,List.mem_singleton.mp listed⟩⟩,entry.given⟩

theorem createForUser_some (factory : CaslAbilityFactory K C) (user : User) (turns : List Nat)
    (rules : List (Rule K C)) :
    factory.createForUser user turns = some rules ↔
      ∃ s, run Turns.turn (factory.called user) turns = some s ∧ s.Finished ∧ rules = s.written := by
  unfold CaslAbilityFactory.createForUser
  cases run Turns.turn (factory.called user) turns with
  | none => simp
  | some s => simp [eq_comm]

theorem createForUser_given (factory : CaslAbilityFactory K C) (user : User) (turns : List Nat)
    (rules : List (Rule K C)) (built : factory.createForUser user turns = some rules) : ∀ rule ∈ rules, Given rule := by
  obtain ⟨s,ran,_,rfl⟩ := (createForUser_some factory user turns rules).mp built
  have called : (factory.called user).All Given := by
    constructor
    · intro rule member
      rcases List.mem_append.mp member with of_role | of_definer
      · exact roleRules_given factory user rule of_role
      · obtain ⟨definer,_,inside⟩ := List.mem_flatMap.mp of_definer
        cases parts : definer.parts user with
        | nil => simp [parts] at inside
        | cons part rest =>
          rw [parts] at inside
          exact definer.given user part (by simp [parts]) rule inside
    · intro parts member rule inside
      obtain ⟨definer,_,rfl⟩ := List.mem_map.mp member
      obtain ⟨part,of_tail,held⟩ := List.mem_flatten.mp inside
      exact definer.given user part (List.mem_of_mem_tail of_tail) rule held
  exact (Turns.all_run Given _ s turns called ran).1

def oneClass : ClassNames Unit where
  name _ := "User"
  own _ _ _ := rfl
  word _ := by decide
  apart _ := by decide

def plainUser : User := ⟨"1",.user,[]⟩

abbrev PlainRule : Type := Rule Unit (List (String × String))

def plainDefiner (parts : List (List PlainRule)) (given : ∀ part ∈ parts, ∀ rule ∈ part, Given rule) :
    TAbilityDefiner Unit (List (String × String)) :=
  ⟨fun _ => parts,fun _ => given⟩

def readUser (inverted : Bool) (fields : Option (List String)) : PlainRule :=
  { action := [Action.read.value], subject := [.type ()], inverted := inverted, fields := fields }

theorem readUser_given (inverted : Bool) (fields : Option (List String)) : Given (readUser inverted fields) :=
  ⟨⟨by simp [readUser],fun action listed => ⟨.read,List.mem_singleton.mp listed⟩⟩,by simp [readUser]⟩

end BoarPack.Casl
