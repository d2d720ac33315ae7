import BoarPack.Casl.AbilityFactory

/-! `PoliciesGuard`: the policies of a route, against the ability of who asks for it. -/
namespace BoarPack.Casl
open Containers Precedence

variable {K C O P : Type}

/-- What is set on a handler and on its class; that of the handler comes first. -/
structure Metadata (V : Type) where
  handler : Option V := none
  class_ : Option V := none

def Metadata.getAllAndOverride {V : Type} (metadata : Metadata V) : Option V := metadata.handler.or metadata.class_

abbrev AppAbility (K C : Type) : Type := List (Rule K C)

/-- What `execPolicyHandler` calls, of a callback or a policy. -/
abbrev PolicyHandler (K C : Type) : Type := AppAbility K C → Bool

structure Endpoint (K C : Type) where
  skipPoliciesGuard : Metadata Bool := {}
  checkPolicies : Metadata (List (PolicyHandler K C)) := {}

/-- `user`: what the guards before this one left in the request or the client. -/
inductive Context
  | http (user : Option User)
  | ws (user : Option User)
  | other
  deriving DecidableEq, Repr

/-- What `canActivate` comes to: an answer, with the ability that it gives the user, or an error. -/
inductive Activated (K C : Type)
  | answer (open_ : Bool) (ability : Option (AppAbility K C))
  | error (message : String)

namespace PoliciesGuard

/-- `createForUser`: the rules that the factory builds. Of no user it cannot read the role. -/
def canActivate (createForUser : User → AppAbility K C) (endpoint : Endpoint K C) (context : Context) : Activated K C :=
  if endpoint.skipPoliciesGuard.getAllAndOverride = some true then .answer true none
  else match endpoint.checkPolicies.getAllAndOverride with
    | none => .answer false none
    | some policyHandlers =>
      match context with
      | .http (some user) | .ws (some user) =>
        let ability := createForUser user
        .answer (policyHandlers.all (fun handler => handler ability)) (some ability)
      | .http none | .ws none => .error "Cannot read properties of undefined (reading 'role')"
      | .other => .error "Unknown context type"

end PoliciesGuard

def Activated.opens : Activated K C → Bool
  | answer open_ _ => open_
  | error _ => false

/-- A policy of the repository: `ability.can(action, subject)`. -/
structure Policy (K : Type) where
  action : Action
  subject : Subjects K
  deriving DecidableEq, Repr

section

variable [DecidableEq K]

def Policy.handle (casl : Package C O P) (policy : Policy K) : PolicyHandler K C :=
  fun ability => casl.can .all ability policy.action.value ⟨policy.subject,none⟩ none

def ManageAllPolicy : Policy K := ⟨.manage,.all⟩

/-- A permission is registered for what a policy asks, or for more. -/
def Grants (factory : CaslAbilityFactory K C) (permission : String) (policy : Policy K) : Prop :=
  ∃ entry, get factory.permissionsToActionsMap permission = some entry ∧
    (entry.action = policy.action ∨ entry.action = .manage) ∧ (policy.subject ∈ entry.subject ∨ .all ∈ entry.subject)

private theorem value_injective : Function.Injective Action.value := by
  intro left right
  cases left <;> cases right <;> simp [Action.value]

/-- Where no rule is inverted, one that concerns what is asked is enough. -/
theorem allows_direct {T : Type} {p : RawRule T C → Bool} {rules : List (RawRule T C)}
    (direct : ∀ rule ∈ rules, rule.inverted = false) : allows p rules = true ↔ ∃ rule ∈ rules, p rule = true := by
  unfold allows
  cases decides : last p rules with
  | none =>
    have nothing := (last_eq_none p rules).mp decides
    refine iff_of_false Bool.false_ne_true ?_
    rintro ⟨rule,member,matched⟩
    exact Bool.noConfusion ((nothing rule member).symm.trans matched)
  | some rule =>
    obtain ⟨older,newer,rfl,matched,_⟩ := (last_eq_some p rules rule).mp decides
    have member : rule ∈ older ++ rule :: newer := by simp
    simp only [direct rule member,Bool.not_false,true_iff]
    exact ⟨rule,member,matched⟩

private theorem handle_direct (casl : Package C O P) (documented : Documented casl) {rules : AppAbility K C}
    (direct : ∀ rule ∈ rules, rule.inverted = false) (policy : Policy K) :
    policy.handle casl rules = true ↔ ∃ rule ∈ rules, rule.concerns .all policy.action.value policy.subject = true := by
  rw [Policy.handle,documented.decides,allows_direct direct]
  apply exists_congr
  intro rule
  apply and_congr_right
  intro member
  have straight := direct rule member
  cases conditions : rule.conditions <;> cases fields : rule.fields <;>
    simp [RawRule.applies,RawRule.matchesConditions,RawRule.covers,straight,conditions,fields]

omit [DecidableEq K] in
private theorem roleRules_direct (factory : CaslAbilityFactory K C) (user : User) :
    ∀ rule ∈ factory.roleRules user, rule.inverted = false := by
  intro rule member
  unfold CaslAbilityFactory.roleRules at member
  split at member
  next =>
    cases List.mem_singleton.mp member
    rfl
  next =>
    obtain ⟨permission,_,found⟩ := List.mem_filterMap.mp member
    obtain ⟨entry,_,rfl⟩ := Option.map_eq_some_iff.mp found
    rfl

private theorem roleRules_grant (factory : CaslAbilityFactory K C) (user : User) (policy : Policy K) :
    (∃ rule ∈ factory.roleRules user, rule.concerns .all policy.action.value policy.subject = true) ↔
      user.role = .admin ∨ ∃ permission ∈ user.permissions, user.role = .user ∧ Grants factory permission policy := by
  unfold CaslAbilityFactory.roleRules
  cases role : user.role with
  | admin => simp [RawRule.concerns,anyAction,Action.value]
  | user =>
    have same (action other : Action) : action.value = other.value ↔ other = action :=
      ⟨fun equal => (value_injective equal).symm,fun equal => congrArg Action.value equal.symm⟩
    have manages (action : Action) : anyAction = action.value ↔ action = .manage := same .manage action
    simp only [List.mem_filterMap,Option.map_eq_some_iff,reduceCtorEq,false_or,true_and]
    constructor
    · rintro ⟨rule,⟨permission,held,entry,found,rfl⟩,concerns⟩
      refine ⟨permission,held,entry,found,?_⟩
      simpa [RawRule.concerns,same,manages] using concerns
    · rintro ⟨permission,held,entry,found,grants⟩
      refine ⟨_,⟨permission,held,entry,found,rfl⟩,?_⟩
      simpa [RawRule.concerns,same,manages] using grants

omit [DecidableEq K] in
private theorem mem_built (factory : CaslAbilityFactory K C) (user : User) (turns : List Nat) {rules : AppAbility K C}
    (built : factory.createForUser user turns = some rules) (rule : Rule K C) :
    rule ∈ rules ↔ rule ∈ factory.roleRules user ∨
      ∃ definer ∈ factory.abilitiesDefiners, rule ∈ (definer.parts user).flatten := by
  obtain ⟨s,ran,finished,rfl⟩ := (createForUser_some factory user turns rules).mp built
  rw [← Turns.holds_finished rule finished,Turns.holds_run rule _ s turns ran]
  have parts (definer : TAbilityDefiner K C) :
      rule ∈ (definer.parts user).flatten ↔ rule ∈ (definer.parts user).headD [] ∨
        rule ∈ (definer.parts user).tail.flatten := by
    cases definer.parts user <;> simp
  simp only [Turns.Holds,CaslAbilityFactory.called,List.mem_append,List.mem_flatMap,List.mem_map,parts]
  constructor
  · rintro ((role | ⟨definer,listed,here⟩) | ⟨_,⟨definer,listed,rfl⟩,later⟩)
    · exact Or.inl role
    · exact Or.inr ⟨definer,listed,Or.inl here⟩
    · exact Or.inr ⟨definer,listed,Or.inr later⟩
  · rintro (role | ⟨definer,listed,here | later⟩)
    · exact Or.inl (Or.inl role)
    · exact Or.inl (Or.inr ⟨definer,listed,here⟩)
    · exact Or.inr ⟨_,⟨definer,listed,rfl⟩,later⟩

/-- No definer forbids anything to the user. -/
def OnlyAllows (factory : CaslAbilityFactory K C) (user : User) : Prop :=
  ∀ definer ∈ factory.abilitiesDefiners, ∀ rule ∈ (definer.parts user).flatten, rule.inverted = false

/-- The role, a permission or a definer gives the user what a policy asks. -/
def Entitled (factory : CaslAbilityFactory K C) (user : User) (policy : Policy K) : Prop :=
  user.role = .admin ∨ (∃ permission ∈ user.permissions, user.role = .user ∧ Grants factory permission policy) ∨
    ∃ definer ∈ factory.abilitiesDefiners, ∃ rule ∈ (definer.parts user).flatten,
      rule.concerns .all policy.action.value policy.subject = true

theorem handle_entitled (casl : Package C O P) (documented : Documented casl) (factory : CaslAbilityFactory K C)
    (user : User) (allows : OnlyAllows factory user) (turns : List Nat) {rules : AppAbility K C}
    (built : factory.createForUser user turns = some rules) (policy : Policy K) :
    policy.handle casl rules = true ↔ Entitled factory user policy := by
  have direct : ∀ rule ∈ rules, rule.inverted = false := by
    intro rule member
    rcases (mem_built factory user turns built rule).mp member with role | ⟨definer,listed,here⟩
    · exact roleRules_direct factory user rule role
    · exact allows definer listed rule here
  rw [handle_direct casl documented direct,Entitled,← or_assoc,← roleRules_grant]
  constructor
  · rintro ⟨rule,member,concerns⟩
    rcases (mem_built factory user turns built rule).mp member with role | ⟨definer,listed,here⟩
    · exact Or.inl ⟨rule,role,concerns⟩
    · exact Or.inr ⟨definer,listed,rule,here,concerns⟩
  · rintro (⟨rule,role,concerns⟩ | ⟨definer,listed,rule,here,concerns⟩)
    · exact ⟨rule,(mem_built factory user turns built rule).mpr (Or.inl role),concerns⟩
    · exact ⟨rule,(mem_built factory user turns built rule).mpr (Or.inr ⟨definer,listed,here⟩),concerns⟩

end

section Guard

variable [DecidableEq K] (casl : Package C O P) (documented : Documented casl) (factory : CaslAbilityFactory K C)
  (user : User) (allows : OnlyAllows factory user) (createForUser : User → AppAbility K C) (turns : List Nat)
  (built : factory.createForUser user turns = some (createForUser user))

include documented allows built in
/-- A route is open to a user exactly if it skips the guard, or names policies and the user is entitled to all of
them: in whatever order the definers are resumed, and closed where there are no policies. -/
theorem opens_iff_entitled (endpoint : Endpoint K C) (policies : Metadata (List (Policy K)))
    (checks : endpoint.checkPolicies =
      ⟨policies.handler.map (List.map (Policy.handle casl)),policies.class_.map (List.map (Policy.handle casl))⟩)
    (context : Context) (asks : context = .http (some user) ∨ context = .ws (some user)) :
    (PoliciesGuard.canActivate createForUser endpoint context).opens = true ↔
      endpoint.skipPoliciesGuard.getAllAndOverride = some true ∨
        ∃ listed, policies.getAllAndOverride = some listed ∧ ∀ policy ∈ listed, Entitled factory user policy := by
  have read : endpoint.checkPolicies.getAllAndOverride =
      policies.getAllAndOverride.map (List.map (Policy.handle casl)) := by
    rw [checks,Metadata.getAllAndOverride,Metadata.getAllAndOverride]
    cases policies.handler <;> rfl
  have entitled := handle_entitled casl documented factory user allows turns built
  unfold PoliciesGuard.canActivate
  rw [read]
  by_cases skips : endpoint.skipPoliciesGuard.getAllAndOverride = some true
  · simp [skips,Activated.opens]
  · rw [if_neg skips]
    cases policies.getAllAndOverride with
    | none => simp [skips,Activated.opens]
    | some listed => rcases asks with rfl | rfl <;> simp [skips,Activated.opens,entitled]

end Guard

theorem users_only : [Subjects.type ()] ≠ [] := List.cons_ne_nil _ _

def readPermission : CaslAbilityFactory Unit (List (String × String)) :=
  CaslAbilityFactory.addPermissionToAction {} "VIEW_USERS" ⟨.read,[.type ()],users_only⟩

def viewer : User := { plainUser with permissions := ["VIEW_USERS"] }

/-- A policy of the class, and none of the handler. -/
def readEndpoint : Endpoint Unit (List (String × String)) :=
  { checkPolicies := ⟨none,some [Policy.handle (package plainMatchers) ⟨.read,.type ()⟩]⟩ }

theorem viewer_enters : (PoliciesGuard.canActivate readPermission.roleRules readEndpoint (.ws (some viewer))).opens =
    true ↔
    readEndpoint.skipPoliciesGuard.getAllAndOverride = some true ∨
      ∃ listed, (⟨none,some [⟨.read,.type ()⟩]⟩ : Metadata (List (Policy Unit))).getAllAndOverride = some listed ∧
        ∀ policy ∈ listed, Entitled readPermission viewer policy :=
  opens_iff_entitled (package plainMatchers) (package_documented plainMatchers) readPermission viewer
    (fun _ listed => absurd listed List.not_mem_nil) readPermission.roleRules [] rfl readEndpoint _ rfl _ (Or.inr rfl)

end BoarPack.Casl
