import BoarPack.Auth.Acceptance

/-! Refresh tokens are meant to be single use: `validate` counts the revoked rows and
then inserts one. The insert reports to nobody whether it inserted, so the count is
what decides, and two requests that both count before either inserts are both let in.
As long as no count falls between another request's count and insert, one is. -/
namespace BoarPack.Auth
open RevokedTokens Users JwtAuth Tokens

namespace Phase

/-- The count has found no row and the insert is still to come. -/
def awaitsInsert : Phase → Bool
  | refreshRevoke _ => true
  | _ => false

def inserted : Phase → Bool
  | refreshFind => true
  | refreshLogin _ => true
  | refreshed => true
  | _ => false

def passed : Phase → Bool
  | refreshLogin _ => true
  | refreshed => true
  | _ => false

def counted (phase : Phase) : Bool := phase.awaitsInsert || phase.inserted

end Phase

def reached (s : State) (stage : Phase → Bool) (token : Minted) : Nat :=
  s.requests.countP (fun r => decide (r.token = token) && stage r.phase)

/-- No count finds the table empty of a token that another request is about to revoke,
or that was used and has been cleaned up since. -/
def CountsAlone (s : State) : Action → Prop
  | .proceed i => ∀ r ∈ s.requests[i]?, r.phase = .refreshCount →
      isTokenRevoked s.revokedTokens r.token.jti (some r.token.sid) = false →
      (∀ other ∈ s.requests, other.token = r.token → other.phase.awaitsInsert = false) ∧
        (Expired s r.token → r.token ∉ s.refreshUses)
  | _ => True

instance (s : State) : (action : Action) → Decidable (CountsAlone s action)
  | .proceed i => inferInstanceAs (Decidable (∀ r ∈ s.requests[i]?, _))
  | .tick _ => isTrue trivial
  | .createUser _ => isTrue trivial
  | .deleteUser _ => isTrue trivial
  | .createToken .. => isTrue trivial
  | .deleteToken _ => isTrue trivial
  | .login _ => isTrue trivial
  | .refresh _ => isTrue trivial
  | .logout _ => isTrue trivial
  | .cleanupExpiredTokens => isTrue trivial

structure Claimed (s : State) : Prop where
  used : ∀ r ∈ s.requests, r.phase.inserted = true → r.token ∈ s.refreshUses
  single : ∀ token, reached s Phase.counted token ≤ 1

private theorem claimed_initial (now : Nat) (users : Users.Table) : Claimed (State.initial now users) := by
  constructor <;> simp [State.initial,reached]

private theorem advance_stages {config : Config} {s after : State} {r : Request} {phase : Phase}
    (advanced : s.advance config r = some (after,phase)) :
    (∀ token ∈ s.refreshUses, token ∈ after.refreshUses) ∧
    (phase.inserted = true → r.phase.inserted = true ∨ r.token ∈ after.refreshUses) ∧
    (phase.counted = true → r.phase.counted = true ∨ (r.phase = .refreshCount ∧ after = s ∧
      isTokenRevoked s.revokedTokens r.token.jti (some r.token.sid) = false)) := by
  unfold State.advance at advanced
  cases at_phase : r.phase with
  | refreshCount =>
    simp only [at_phase] at advanced
    split at advanced
    next jti checked =>
      cases advanced
      obtain ⟨_,named,clean⟩ := (refresh_checkRevoked_ok _ _ jti).mp checked
      have same : r.token.jti = jti := Option.some.inj (r.token.signed.1.symm.trans named)
      rw [r.token.signed.2.1,← same] at clean
      exact ⟨fun token member => member,by simp [Phase.inserted],fun _ => Or.inr ⟨rfl,rfl,clean⟩⟩
    next exception checked =>
      cases advanced
      simp [Phase.inserted,Phase.counted,Phase.awaitsInsert]
  | refreshRevoke jti =>
    simp only [at_phase] at advanced
    cases advanced
    refine ⟨fun token member => List.mem_cons_of_mem _ member,fun _ => Or.inr List.mem_cons_self,?_⟩
    exact fun _ => Or.inl rfl
  | refreshFind =>
    simp only [at_phase] at advanced
    refine ⟨?_,fun _ => Or.inl rfl,fun _ => Or.inl rfl⟩
    split at advanced <;> cases advanced <;> exact fun token member => member
  | refreshLogin user =>
    simp only [at_phase] at advanced
    cases advanced
    exact ⟨fun token member => member,fun _ => Or.inl rfl,fun _ => Or.inl rfl⟩
  | logoutCount =>
    simp only [at_phase] at advanced
    split at advanced <;> cases advanced <;> simp [Phase.inserted,Phase.counted,Phase.awaitsInsert]
  | logoutFind =>
    simp only [at_phase] at advanced
    split at advanced <;> cases advanced <;> simp [Phase.inserted,Phase.counted,Phase.awaitsInsert]
  | logout =>
    simp only [at_phase] at advanced
    split at advanced <;> cases advanced <;> simp [Phase.inserted,Phase.counted,Phase.awaitsInsert]
  | logoutRevoke tokens =>
    simp only [at_phase] at advanced
    cases advanced
    simp [Phase.inserted,Phase.counted,Phase.awaitsInsert]
  | refreshed => simp [at_phase] at advanced
  | loggedOut => simp [at_phase] at advanced
  | rejected exception => simp [at_phase] at advanced

variable {config : Config} {s : State}

private theorem counted_zero (inv : Inv config s) (claimed : Claimed s) (token : Minted) (member : token ∈ s.minted)
    (clean : isTokenRevoked s.revokedTokens token.jti (some token.sid) = false)
    (waiting : ∀ other ∈ s.requests, other.token = token → other.phase.awaitsInsert = false)
    (unused : Expired s token → token ∉ s.refreshUses) : reached s Phase.counted token = 0 := by
  have fresh : token ∉ s.refreshUses := by
    intro used
    by_cases expired : Expired s token
    · exact unused expired used
    · have revoked := (isTokenRevoked_exact inv token member expired).mpr
        (Or.inl ⟨token,Or.inl used,rfl⟩)
      rw [clean] at revoked
      cases revoked
  unfold reached
  rw [List.countP_eq_zero]
  intro other inside stage
  simp only [Bool.and_eq_true,decide_eq_true_eq,Phase.counted,Bool.or_eq_true] at stage
  obtain ⟨same,awaits | past⟩ := stage
  · rw [waiting other inside same] at awaits
    cases awaits
  · exact fresh (same ▸ claimed.used other inside past)

private theorem claimed_advance (inv : Inv config s) (claimed : Claimed s) (i : Nat) (r : Request)
    (found : s.requests[i]? = some r) (alone : CountsAlone s (.proceed i)) (after : State) (phase : Phase)
    (advanced : s.advance config r = some (after,phase)) :
    Claimed { after with requests := s.requests.set i { r with phase := phase } } := by
  obtain ⟨kept,placed,entered⟩ := advance_stages advanced
  have inside : r ∈ s.requests := List.mem_of_getElem? found
  obtain ⟨bound,at_i⟩ := List.getElem?_eq_some_iff.mp found
  constructor
  · intro other member past
    obtain old | rfl := List.mem_or_eq_of_mem_set member
    · exact kept other.token (claimed.used other old past)
    · obtain before | now := placed past
      · exact kept r.token (claimed.used r inside before)
      · exact now
  · intro token
    have before := claimed.single token
    unfold reached at before ⊢
    change (s.requests.set i { r with phase := phase }).countP _ ≤ 1
    rw [List.countP_set bound,at_i]
    by_cases same : r.token = token
    · by_cases stage : phase.counted = true
      · obtain already | ⟨opening,_,clean⟩ := entered stage
        · simp only [same,already,stage]
          simp
          omega
        · obtain ⟨waiting,unused⟩ := alone r found opening clean
          have zero := counted_zero inv claimed r.token (inv.presented r inside).1 clean waiting unused
          unfold reached at zero
          rw [same] at zero
          rw [zero]
          split <;> split <;> omega
      · simp only [same,stage]
        simp
        omega
    · simp only [same]
      simpa using before

private theorem claimed_step (platform : Platform) (action : Action) (next : State) (inv : Inv config s)
    (claimed : Claimed s) (alone : CountsAlone s action) (taken : step platform config s action = some next) :
    Claimed next := by
  obtain ⟨requests,uses⟩ | ⟨token,phase,opening,rfl⟩ |
    ⟨i,r,after,phase,rfl,found,advanced,rfl⟩ := step_threads taken
  · refine ⟨?_,?_⟩
    · rw [requests,uses]
      exact claimed.used
    · unfold reached
      rw [requests]
      exact claimed.single
  · have outside : phase.inserted = false ∧ phase.counted = false := by
      rcases opening with rfl | rfl <;> exact ⟨rfl,rfl⟩
    refine ⟨?_,?_⟩
    · intro r inside past
      obtain old | new := List.mem_append.mp inside
      · exact claimed.used r old past
      · rw [List.mem_singleton.mp new,outside.1] at past
        cases past
    · intro other
      have before := claimed.single other
      unfold reached at before ⊢
      simpa [List.countP_append,outside.2] using before
  · exact claimed_advance inv claimed i r found alone after phase advanced

private theorem passed_counted (s : State) (token : Minted) :
    reached s Phase.passed token ≤ reached s Phase.counted token := by
  apply List.countP_mono_left
  intro r inside stage
  simp only [Bool.and_eq_true] at stage ⊢
  refine ⟨stage.1,?_⟩
  cases at_phase : r.phase <;> simp_all [Phase.passed,Phase.counted,Phase.inserted]

/-- In a run whose counts stand alone no refresh token lets two requests through,
however many carry it and however their steps fall. -/
theorem refresh_single_use (platform : Platform) (config : Config) (now : Nat) (users : Users.Table)
    (actions : List Action)
    (alone : Transition.Meets (step platform config) CountsAlone (State.initial now users) actions) :
    Transition.Always (step platform config) (fun s => ∀ token, reached s Phase.passed token ≤ 1)
      (State.initial now users) actions := by
  have kept := Transition.always_of_meets (fun s => Inv config s ∧ Claimed s) CountsAlone
    (fun s action next both allowed taken => ⟨inv_step platform config s action next both.1 taken,
      claimed_step platform action next both.1 both.2 allowed taken⟩)
    (State.initial now users) actions ⟨inv_initial config now users,claimed_initial now users⟩ alone
  refine kept.imp (fun s both token => ?_)
  exact Nat.le_trans (passed_counted s token) (both.2.single token)

def refreshTwice (schedule : List Nat) : List Action :=
  [.login firstUser.id,.refresh 1,.refresh 1] ++ schedule.map .proceed

theorem refresh_one_after_the_other :
    Transition.Always (step Tokens.plainPlatform ⟨3600000,604800000⟩)
      (fun s => ∀ token, reached s Phase.passed token ≤ 1) (State.initial 0 firstUsers)
      (refreshTwice [0,0,1,0,0]) :=
  refresh_single_use Tokens.plainPlatform ⟨3600000,604800000⟩ 0 firstUsers (refreshTwice [0,0,1,0,0])
    (by decide)

theorem refresh_in_turn : ∃ s,
    Transition.run (step Tokens.plainPlatform ⟨3600000,604800000⟩) (State.initial 0 firstUsers)
      (refreshTwice [0,1,0,1,0,1,0,1]) = some s ∧
    s.requests.map Request.phase = [.refreshed,.refreshed] ∧
    ∃ token ∈ s.minted, reached s Phase.passed token = 2 :=
  ⟨_,rfl,rfl,by decide⟩

end BoarPack.Auth
