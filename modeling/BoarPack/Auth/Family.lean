import BoarPack.Auth.Acceptance

/-! A logout is meant to end the whole family of tokens of a login, the sid being
documented as the identifier of the family. Each refresh draws a new sid, so a logout
reaches one generation only: the family is dead afterwards iff the other generations
were dead already, and it stays dead iff no refresh that was under way mints for it. -/
namespace BoarPack.Auth
open RevokedTokens Users JwtAuth Tokens

inductive Descends (s : State) (root : Nat) : Minted → Prop
  | login {m : Minted} (member : m ∈ s.minted) (first : m.parent = none) (session : m.sid = root) :
      Descends s root m
  | refreshed {m source : Minted} (member : m ∈ s.minted) (older : Descends s root source)
      (parent : m.parent = some source.sid) : Descends s root m

def SameFamily (s : State) (a m : Minted) : Prop := ∃ root, Descends s root a ∧ Descends s root m

def Ended (config : Config) (s : State) : Prop :=
  ∀ a ∈ s.logouts, ∀ m, SameFamily s a m →
    s.acceptsAccess m.payload = false ∧ s.acceptsRefresh config m.payload = false

/-- Tokens that a login makes for this user now are never accepted. -/
def Stillborn (config : Config) (s : State) (userId : String) : Prop :=
  (∀ row ∈ s.users, row.id = userId → row.deletedAt ≠ none) ∨
    (config.accessTokenExpiration < 1000 ∧ config.refreshTokenExpiration < 1000)

/-- A logout finds the other generations of its family dead, and a refresh that
finishes late finds its family not logged out. -/
def EndsFamily (config : Config) (s : State) : Action → Prop
  | .proceed i => ∀ r ∈ s.requests[i]?, match r.phase with
    | .logoutRevoke _ => ∀ m ∈ s.minted, m.family = r.token.family → m.sid ≠ r.token.sid → ¬ Alive s m
    | .refreshLogin user => (∃ a ∈ s.logouts, a.family = r.token.family) → Stillborn config s user.id
    | _ => True
  | _ => True

structure Lineage (s : State) : Prop where
  early : ∀ m ∈ s.minted, m.family ≤ m.sid ∧ ∀ p, m.parent = some p → p < m.sid
  roots : ∀ m ∈ s.minted, m.parent = none → m.family = m.sid
  known : ∀ m ∈ s.minted, ∀ p, m.parent = some p → ∃ source ∈ s.minted, source.sid = p
  siblings : ∀ m ∈ s.minted, ∀ other ∈ s.minted, m.sid = other.sid → m.family = other.family
  inherits : ∀ m ∈ s.minted, ∀ source ∈ s.minted, m.parent = some source.sid → m.family = source.family

variable {config : Config} {s : State}

private theorem lineage_initial (now : Nat) (users : Users.Table) : Lineage (State.initial now users) := by
  constructor <;> simp [State.initial]

private theorem login_lineage (config : Config) (s : State) (user : TUser) (source : Option Minted) (m : Minted)
    (member : m ∈ (s.login config user source).minted) :
    m ∈ s.minted ∨ (m.sid = s.fresh ∧ m.parent = source.map Minted.sid ∧
      m.family = (source.map Minted.family).getD s.fresh) := by
  obtain old | rfl | rfl := (mem_minted_login config s user source m).mp member
  · exact Or.inl old
  · exact Or.inr ⟨rfl,rfl,rfl⟩
  · exact Or.inr ⟨rfl,rfl,rfl⟩

theorem Lineage.login (lineage : Lineage s) (inv : Inv config s) (user : TUser) (source : Option Minted)
    (known : ∀ token ∈ source, token ∈ s.minted) : Lineage (s.login config user source) := by
  have cases := login_lineage config s user source
  have below : ∀ m ∈ s.minted, m.sid < s.fresh := by
    intro m member
    have bound := inv.bounded m member
    omega
  have grown : ∀ m ∈ s.minted, m ∈ (s.login config user source).minted := fun m member =>
    (mem_minted_login config s user source m).mpr (Or.inl member)
  constructor
  case early =>
    intro m member
    obtain old | ⟨session,parent,family⟩ := cases m member
    · exact lineage.early m old
    · cases source with
      | none => simp_all
      | some token =>
        have inside := known token rfl
        have bound := below token inside
        have early := (lineage.early token inside).1
        simp only [Option.map_some,Option.getD_some] at parent family
        rw [session,parent,family]
        exact ⟨by omega,fun p same => by cases same; exact bound⟩
  case roots =>
    intro m member first
    obtain old | ⟨session,parent,family⟩ := cases m member
    · exact lineage.roots m old first
    · cases source with
      | none => rw [family,session]; rfl
      | some token => rw [parent] at first; cases first
  case known =>
    intro m member p named
    obtain old | ⟨session,parent,family⟩ := cases m member
    · obtain ⟨token,inside,same⟩ := lineage.known m old p named
      exact ⟨token,grown token inside,same⟩
    · rw [parent] at named
      obtain ⟨token,chosen,same⟩ := Option.map_eq_some_iff.mp named
      exact ⟨token,grown token (known token chosen),same⟩
  case siblings =>
    intro m member other inside same
    obtain old | ⟨session,_,family⟩ := cases m member
    · obtain past | ⟨recent,_⟩ := cases other inside
      · exact lineage.siblings m old other past same
      · have bound := below m old
        omega
    · obtain past | ⟨recent,_,alsoFamily⟩ := cases other inside
      · have bound := below other past
        omega
      · rw [family,alsoFamily]
  case inherits =>
    intro m member other inside parent
    obtain past | ⟨recent,_⟩ := cases other inside
    · obtain old | ⟨_,named,family⟩ := cases m member
      · exact lineage.inherits m old other past parent
      · rw [named] at parent
        obtain ⟨token,chosen,same⟩ := Option.map_eq_some_iff.mp parent
        rw [family,Option.mem_def.mp chosen]
        exact lineage.siblings token (known token chosen) other past same
    · obtain old | ⟨session,named,_⟩ := cases m member
      · have early := (lineage.early m old).2 other.sid parent
        have bound := below m old
        omega
      · rw [named] at parent
        obtain ⟨token,chosen,same⟩ := Option.map_eq_some_iff.mp parent
        have bound := below token (known token chosen)
        omega

theorem Descends.family {root : Nat} {m : Minted} (lineage : Lineage s) (descends : Descends s root m) :
    m ∈ s.minted ∧ m.family = root := by
  induction descends with
  | login member first session => exact ⟨member,(lineage.roots _ member first).trans session⟩
  | refreshed member older parent ih => exact ⟨member,(lineage.inherits _ member _ ih.1 parent).trans ih.2⟩

private theorem descends_of_family (lineage : Lineage s) (sid : Nat) (m : Minted) (member : m ∈ s.minted)
    (session : m.sid = sid) : Descends s m.family m := by
  induction sid using Nat.strongRecOn generalizing m with
  | ind sid ih =>
    cases parent : m.parent with
    | none => exact .login member parent (lineage.roots m member parent).symm
    | some p =>
      obtain ⟨source,inside,rfl⟩ := lineage.known m member p parent
      have earlier := (lineage.early m member).2 source.sid parent
      have older := ih source.sid (session ▸ earlier) source inside rfl
      rw [lineage.inherits m member source inside parent]
      exact .refreshed member older parent

private theorem sameFamily_iff (lineage : Lineage s) (a m : Minted) :
    SameFamily s a m ↔ a ∈ s.minted ∧ m ∈ s.minted ∧ a.family = m.family := by
  constructor
  · intro related
    obtain ⟨root,first,second⟩ := related
    obtain ⟨member,named⟩ := first.family lineage
    obtain ⟨inside,also⟩ := second.family lineage
    exact ⟨member,inside,named.trans also.symm⟩
  · intro related
    obtain ⟨member,inside,same⟩ := related
    exact ⟨m.family,same ▸ descends_of_family lineage a.sid a member rfl,
      descends_of_family lineage m.sid m inside rfl⟩

structure Later (s t : State) : Prop where
  clock : s.now ≤ t.now
  uses : ∀ m ∈ s.refreshUses, m ∈ t.refreshUses
  ends : ∀ m ∈ s.logouts, m ∈ t.logouts
  users : ∀ user ∈ t.users, user.deletedAt = none → (∃ row ∈ s.users, row.id = user.id) →
    ∃ row ∈ s.users, row.id = user.id ∧ row.deletedAt = none

theorem Later.same_users {s t : State} (clock : s.now ≤ t.now) (uses : ∀ m ∈ s.refreshUses, m ∈ t.refreshUses)
    (ends : ∀ m ∈ s.logouts, m ∈ t.logouts) (users : t.users = s.users) : Later s t :=
  ⟨clock,uses,ends,fun user inside alive _ => ⟨user,users ▸ inside,rfl,alive⟩⟩

theorem Alive.earlier {t : State} (inv : Inv config s) (later : Later s t) (m : Minted)
    (member : m ∈ s.minted) (alive : Alive t m) : Alive s m := by
  obtain ⟨dated,unrevoked,unended,user,inside,named,living⟩ := alive
  refine ⟨?_,?_,?_,?_⟩
  · rw [expired_iff] at dated ⊢
    have clock := later.clock
    omega
  · intro revoked
    obtain ⟨u,recorded,same⟩ := revoked
    exact unrevoked ⟨u,recorded.imp (later.uses u) (later.ends u),same⟩
  · intro ended
    obtain ⟨a,recorded,same⟩ := ended
    exact unended ⟨a,later.ends a recorded,same⟩
  · obtain ⟨row,known,same⟩ := inv.owned m member
    obtain ⟨before,present,alsoNamed,stood⟩ := later.users user inside living ⟨row,known,same.trans named.symm⟩
    exact ⟨before,present,alsoNamed.trans named,stood⟩

private theorem advance_history {after : State} {r : Request} {phase : Phase}
    (advanced : s.advance config r = some (after,phase)) :
    (after.now = s.now ∧ after.users = s.users ∧ after.minted = s.minted ∧ after.logouts = s.logouts ∧
      (∀ m ∈ s.refreshUses, m ∈ after.refreshUses) ∧
      (∀ user, r.phase ≠ .refreshLogin user) ∧ ∀ tokens, r.phase ≠ .logoutRevoke tokens) ∨
    (∃ user, r.phase = .refreshLogin user ∧ after = s.login config user (some r.token)) ∨
    ∃ tokens, r.phase = .logoutRevoke tokens ∧ after = { s with
      revokedTokens := revokeTokens s.revokedTokens tokens, logouts := r.token :: s.logouts } := by
  unfold State.advance at advanced
  cases at_phase : r.phase with
  | refreshLogin user =>
    simp only [at_phase] at advanced
    cases advanced
    exact Or.inr (Or.inl ⟨user,rfl,rfl⟩)
  | logoutRevoke tokens =>
    simp only [at_phase] at advanced
    cases advanced
    exact Or.inr (Or.inr ⟨tokens,rfl,rfl⟩)
  | refreshRevoke jti =>
    simp only [at_phase] at advanced
    cases advanced
    refine Or.inl ⟨rfl,rfl,rfl,rfl,?_,by simp,by simp⟩
    exact fun m member => List.mem_cons_of_mem _ member
  | refreshCount =>
    simp only [at_phase] at advanced
    split at advanced <;> cases advanced <;> simp
  | refreshFind =>
    simp only [at_phase] at advanced
    split at advanced <;> cases advanced <;> simp
  | logoutCount =>
    simp only [at_phase] at advanced
    split at advanced <;> cases advanced <;> simp
  | logoutFind =>
    simp only [at_phase] at advanced
    split at advanced <;> cases advanced <;> simp
  | logout =>
    simp only [at_phase] at advanced
    split at advanced <;> cases advanced <;> simp
  | refreshed => simp [at_phase] at advanced
  | loggedOut => simp [at_phase] at advanced
  | rejected exception => simp [at_phase] at advanced

theorem step_history {platform : Platform} {next : State} {action : Action}
    (taken : step platform config s action = some next) : Later s next ∧
    ((next.minted = s.minted ∧ next.logouts = s.logouts ∧ EndsFamily config s action) ∨
    (∃ userId user, action = .login userId ∧ next = s.login config user none) ∨
    (∃ i r user requests, action = .proceed i ∧ s.requests[i]? = some r ∧ r.phase = .refreshLogin user ∧
      next = { s.login config user (some r.token) with requests := requests }) ∨
    ∃ i r tokens requests, action = .proceed i ∧ s.requests[i]? = some r ∧ r.phase = .logoutRevoke tokens ∧
      next = { s with
        revokedTokens := revokeTokens s.revokedTokens tokens, logouts := r.token :: s.logouts,
        requests := requests }) := by
  have still {t : State} (clock : s.now ≤ t.now) (uses : t.refreshUses = s.refreshUses)
      (ends : t.logouts = s.logouts) (users : t.users = s.users) : Later s t :=
    .same_users clock (fun m member => uses ▸ member) (fun m member => ends ▸ member) users
  cases action with
  | tick milliseconds =>
    cases taken
    exact ⟨still (Nat.le_add_right _ _) rfl rfl rfl,Or.inl ⟨rfl,rfl,trivial⟩⟩
  | createUser data =>
    obtain ⟨users,created,rfl⟩ := Option.map_eq_some_iff.mp taken
    obtain ⟨rfl,fresh⟩ := insert_some s.users users _ created
    refine ⟨⟨Nat.le_refl _,fun m member => member,fun m member => member,?_⟩,Or.inl ⟨rfl,rfl,trivial⟩⟩
    intro user inside living known
    obtain old | new := List.mem_append.mp inside
    · exact ⟨user,old,rfl,living⟩
    · obtain ⟨row,present,same⟩ := known
      rw [List.mem_singleton.mp new] at same
      exact absurd same (fresh row present).1
  | deleteUser id =>
    cases taken
    refine ⟨⟨Nat.le_refl _,fun m member => member,fun m member => member,?_⟩,Or.inl ⟨rfl,rfl,trivial⟩⟩
    intro user inside living _
    obtain ⟨row,present,same⟩ := (mem_softRemove s.users id s.now user).mp inside
    split at same
    next removed => rw [same] at living; cases living
    next kept => exact ⟨row,present,same ▸ rfl,same ▸ living⟩
  | createToken userId id name rawValue salt =>
    simp only [step] at taken
    split at taken
    next allowed => cases taken; exact ⟨still (Nat.le_refl _) rfl rfl rfl,Or.inl ⟨rfl,rfl,trivial⟩⟩
    next refused => cases taken
  | deleteToken id =>
    cases taken
    exact ⟨still (Nat.le_refl _) rfl rfl rfl,Or.inl ⟨rfl,rfl,trivial⟩⟩
  | login userId =>
    obtain ⟨user,found,rfl⟩ := Option.map_eq_some_iff.mp taken
    exact ⟨still (Nat.le_refl _) rfl rfl rfl,Or.inr (Or.inl ⟨userId,user.selected,rfl,rfl⟩)⟩
  | cleanupExpiredTokens =>
    cases taken
    exact ⟨still (Nat.le_refl _) rfl rfl rfl,Or.inl ⟨rfl,rfl,trivial⟩⟩
  | refresh presented =>
    obtain ⟨token,_,_,rfl⟩ := present_some taken
    exact ⟨still (Nat.le_refl _) rfl rfl rfl,Or.inl ⟨rfl,rfl,trivial⟩⟩
  | logout presented =>
    obtain ⟨token,_,_,rfl⟩ := present_some taken
    exact ⟨still (Nat.le_refl _) rfl rfl rfl,Or.inl ⟨rfl,rfl,trivial⟩⟩
  | proceed i =>
    obtain ⟨r,after,phase,found,advanced,rfl⟩ := step_proceed taken
    obtain ⟨clock,users,minted,ends,uses,noLogin,noRevoke⟩ |
      ⟨user,at_phase,rfl⟩ | ⟨tokens,at_phase,rfl⟩ := advance_history advanced
    · refine ⟨.same_users (Nat.le_of_eq clock.symm) uses (fun m member => ?_) users,Or.inl ⟨minted,ends,?_⟩⟩
      · rw [← ends] at member
        exact member
      · intro other chosen
        cases Option.some.inj (found.symm.trans chosen)
        split
        next tokens same => exact absurd same (noRevoke tokens)
        next user same => exact absurd same (noLogin user)
        next => trivial
    · exact ⟨still (Nat.le_refl _) rfl rfl rfl,
        Or.inr (Or.inr (Or.inl ⟨i,r,user,_,rfl,found,at_phase,rfl⟩))⟩
    · exact ⟨.same_users (Nat.le_refl _) (fun m member => member) (fun m => List.mem_cons_of_mem _) rfl,
        Or.inr (Or.inr (Or.inr ⟨i,r,tokens,_,rfl,found,at_phase,rfl⟩))⟩

private theorem accepts_payload (inv : Inv config s) (m : Minted) (member : m ∈ s.minted) :
    (s.acceptsAccess m.payload = false ∧ s.acceptsRefresh config m.payload = false) ↔ ¬ Alive s m := by
  have identified : ∀ other ∈ s.minted, other.payload = m.payload → other = m := by
    intro other inside same
    have names : some other.jti = some m.jti := by rw [← other.signed.1,← m.signed.1,same]
    exact inv.distinct other inside m member (Option.some.inj names)
  constructor
  · intro refused alive
    obtain access | refresh := inv.kinds m member
    · have accepted := (acceptsAccess_iff inv m.payload).mpr ⟨m,member,rfl,access,alive⟩
      rw [refused.1] at accepted
      cases accepted
    · have accepted := (acceptsRefresh_iff inv m.payload).mpr ⟨m,member,rfl,refresh,alive⟩
      rw [refused.2] at accepted
      cases accepted
  · intro dead
    refine ⟨Bool.eq_false_iff.mpr (fun accepted => ?_),Bool.eq_false_iff.mpr (fun accepted => ?_)⟩
    · obtain ⟨other,inside,same,_,alive⟩ := (acceptsAccess_iff inv m.payload).mp accepted
      exact dead (identified other inside same ▸ alive)
    · obtain ⟨other,inside,same,_,alive⟩ := (acceptsRefresh_iff inv m.payload).mp accepted
      exact dead (identified other inside same ▸ alive)

theorem ended_iff (inv : Inv config s) (lineage : Lineage s) :
    Ended config s ↔ ∀ a ∈ s.logouts, ∀ m ∈ s.minted, a.family = m.family → ¬ Alive s m := by
  constructor
  · intro ended a recorded m member same
    have related := (sameFamily_iff lineage a m).mpr ⟨(inv.ends a recorded).1,member,same⟩
    exact (accepts_payload inv m member).mp (ended a recorded m related)
  · intro dead a recorded m related
    obtain ⟨_,member,same⟩ := (sameFamily_iff lineage a m).mp related
    exact (accepts_payload inv m member).mpr (dead a recorded m member same)

private theorem alive_fresh (inv : Inv config s) (m : Minted) (session : m.sid = s.fresh) (named : s.fresh < m.jti) :
    Alive s m ↔ ¬ Expired s m ∧ UserExists s m := by
  constructor
  · intro alive
    exact ⟨alive.1,alive.2.2.2⟩
  · intro living
    refine ⟨living.1,?_,?_,living.2⟩
    · intro revoked
      obtain ⟨u,recorded,same⟩ := revoked
      have bound := inv.bounded u (recorded_minted inv u recorded)
      omega
    · intro ended
      obtain ⟨a,recorded,same⟩ := ended
      have bound := inv.bounded a (inv.ends a recorded).1
      omega

private theorem stillborn_iff (inv : Inv config s) (user : TUser) (parent : Option Nat) (family : Nat) :
    Stillborn config s user.id ↔
      ¬ Alive s (mintedAccess config s.now s.fresh user parent family) ∧
      ¬ Alive s (mintedRefresh config s.now s.fresh user parent family) := by
  have named (n : Nat) : s.fresh < s.fresh + (n + 1) := by omega
  rw [alive_fresh inv _ rfl (named 0),alive_fresh inv _ rfl (named 1)]
  have access : Expired s (mintedAccess config s.now s.fresh user parent family) ↔
      config.accessTokenExpiration < 1000 := by
    change ((s.now / 1000 : Int) * 1000 + config.accessTokenExpiration) / 1000 ≤ (s.now / 1000 : Int) ↔ _
    omega
  have refresh : Expired s (mintedRefresh config s.now s.fresh user parent family) ↔
      config.refreshTokenExpiration < 1000 := by
    change ((s.now / 1000 : Int) * 1000 + config.refreshTokenExpiration) / 1000 ≤ (s.now / 1000 : Int) ↔ _
    omega
  rw [access,refresh]
  have gone : (∀ row ∈ s.users, row.id = user.id → row.deletedAt ≠ none) ↔
      ¬ ∃ row ∈ s.users, row.id = user.id ∧ row.deletedAt = none := by
    simp
  unfold Stillborn
  rw [gone]
  change _ ↔ ¬ (¬ _ ∧ ∃ row ∈ s.users, row.id = user.id ∧ row.deletedAt = none) ∧
    ¬ (¬ _ ∧ ∃ row ∈ s.users, row.id = user.id ∧ row.deletedAt = none)
  by_cases stands : ∃ row ∈ s.users, row.id = user.id ∧ row.deletedAt = none
  · simp [stands]
  · simp [stands]

theorem Lineage.congr {t : State} (lineage : Lineage s) (minted : t.minted = s.minted) : Lineage t := by
  constructor <;> rw [minted]
  · exact lineage.early
  · exact lineage.roots
  · exact lineage.known
  · exact lineage.siblings
  · exact lineage.inherits

private theorem lineage_step {platform : Platform} {next : State} {action : Action} (inv : Inv config s)
    (lineage : Lineage s) (taken : step platform config s action = some next) : Lineage next := by
  obtain ⟨_,⟨minted,_⟩ | ⟨userId,user,_,rfl⟩ | ⟨i,r,user,requests,_,found,_,rfl⟩ |
    ⟨i,r,tokens,requests,_,_,_,rfl⟩⟩ := step_history taken
  · exact lineage.congr minted
  · exact lineage.login inv user none (by simp)
  · have inside := (inv.presented r (List.mem_of_getElem? found)).1
    have grown := lineage.login inv user (some r.token)
      (fun token chosen => Option.some.inj chosen ▸ inside)
    exact grown.congr rfl
  · exact lineage.congr rfl

private theorem ended_by_logout {t : State} (inv : Inv config s) (token : Minted) (member : token ∈ s.minted)
    (later : Later s t) (clock : t.now = s.now) (users : t.users = s.users)
    (uses : t.refreshUses = s.refreshUses) (ends : t.logouts = token :: s.logouts)
    (ended : ∀ a ∈ s.logouts, ∀ m ∈ s.minted, a.family = m.family → ¬ Alive s m) :
    (∀ m ∈ s.minted, m.family = token.family → m.sid ≠ token.sid → ¬ Alive s m) ↔
      ∀ a ∈ t.logouts, ∀ m ∈ s.minted, a.family = m.family → ¬ Alive t m := by
  constructor
  · intro others a recorded m inside same alive
    have before := alive.earlier inv later m inside
    rw [ends] at recorded
    obtain rfl | old := List.mem_cons.mp recorded
    · by_cases session : m.sid = a.sid
      · exact alive.2.2.1 ⟨a,ends ▸ List.mem_cons_self,session.symm⟩
      · exact others m inside same.symm session before
    · exact ended a old m inside same before
  · intro dead m inside same session alive
    refine dead token (ends ▸ List.mem_cons_self) m inside same.symm ?_
    obtain ⟨dated,unrevoked,unended,user⟩ := alive
    refine ⟨?_,?_,?_,?_⟩
    · unfold Expired at dated ⊢
      rw [clock]
      exact dated
    · intro revoked
      obtain ⟨u,recorded,named⟩ := revoked
      rw [uses,ends] at recorded
      by_cases own : u = token
      · have equal := inv.distinct u (own ▸ member) m inside named
        exact session (equal ▸ own ▸ rfl)
      · exact unrevoked ⟨u,recorded.imp id (fun cons => (List.mem_cons.mp cons).resolve_left own),named⟩
    · intro logged
      obtain ⟨a,recorded,named⟩ := logged
      rw [ends] at recorded
      obtain rfl | old := List.mem_cons.mp recorded
      · exact session named.symm
      · exact unended ⟨a,old,named⟩
    · unfold UserExists
      rw [users]
      exact user

private theorem ended_by_login (inv : Inv config s) (user : TUser) (source : Option Minted)
    (ended : ∀ a ∈ s.logouts, ∀ m ∈ s.minted, a.family = m.family → ¬ Alive s m) :
    ((∃ a ∈ s.logouts, a.family = (source.map Minted.family).getD s.fresh) → Stillborn config s user.id) ↔
      ∀ a ∈ s.logouts, ∀ m ∈ (s.login config user source).minted, a.family = m.family → ¬ Alive s m := by
  have exact := stillborn_iff inv user (source.map Minted.sid) ((source.map Minted.family).getD s.fresh)
  constructor
  · intro stillborn a recorded m member same
    obtain old | rfl | rfl := (mem_minted_login config s user source m).mp member
    · exact ended a recorded m old same
    · exact (exact.mp (stillborn ⟨a,recorded,same⟩)).1
    · exact (exact.mp (stillborn ⟨a,recorded,same⟩)).2
  · intro dead logged
    obtain ⟨a,recorded,same⟩ := logged
    refine exact.mpr ⟨dead a recorded _ ?_ same,dead a recorded _ ?_ same⟩
    · exact (mem_minted_login config s user source _).mpr (Or.inr (Or.inl rfl))
    · exact (mem_minted_login config s user source _).mpr (Or.inr (Or.inr rfl))

private theorem proceeding_iff {i : Nat} {r : Request} (found : s.requests[i]? = some r) (condition : Request → Prop) :
    (∀ other ∈ s.requests[i]?, condition other) ↔ condition r := by
  constructor
  · intro allowed
    exact allowed r found
  · intro holds other chosen
    cases Option.some.inj (found.symm.trans chosen)
    exact holds

private theorem endsFamily_exact (platform : Platform) (action : Action) (next : State) (inv : Inv config s)
    (lineage : Lineage s) (ended : Ended config s)
    (taken : step platform config s action = some next) :
    EndsFamily config s action ↔ Ended config next := by
  have kept := inv_step platform config s action next inv taken
  rw [ended_iff inv lineage] at ended
  rw [ended_iff kept (lineage_step inv lineage taken)]
  obtain ⟨later,⟨minted,ends,vacuous⟩ | ⟨userId,user,rfl,rfl⟩ | ⟨i,r,user,requests,rfl,found,at_phase,rfl⟩ |
    ⟨i,r,tokens,requests,rfl,found,at_phase,rfl⟩⟩ := step_history taken
  · refine ⟨fun _ a recorded m member same alive => ?_,fun _ => vacuous⟩
    rw [ends] at recorded
    rw [minted] at member
    exact ended a recorded m member same (alive.earlier inv later m member)
  · have unrelated : ¬ ∃ a ∈ s.logouts, a.family = s.fresh := by
      intro related
      obtain ⟨a,recorded,same⟩ := related
      have member := (inv.ends a recorded).1
      have bound := inv.bounded a member
      have early := (lineage.early a member).1
      omega
    have exact := ended_by_login inv user none ended
    exact ⟨fun _ => exact.mp (fun related => absurd related unrelated),fun _ => trivial⟩
  · refine (proceeding_iff found _).trans ?_
    rw [at_phase]
    exact ended_by_login inv user (some r.token) ended
  · have inside := (inv.presented r (List.mem_of_getElem? found)).1
    refine (proceeding_iff found _).trans ?_
    rw [at_phase]
    exact ended_by_logout inv r.token inside later rfl rfl rfl rfl ended

/-- Logged-out families are dead throughout a run exactly when every logout of the run
finds the other generations dead and no refresh revives one. -/
theorem logout_ends_family (platform : Platform) (config : Config) (now : Nat) (users : Users.Table)
    (actions : List Action) :
    Transition.Always (step platform config) (Ended config) (State.initial now users) actions ↔
      Transition.Meets (step platform config) (EndsFamily config) (State.initial now users) actions := by
  apply Transition.always_iff_meets (fun s => Inv config s ∧ Lineage s)
  · intro s action next both taken
    exact ⟨inv_step platform config s action next both.1 taken,lineage_step both.1 both.2 taken⟩
  · intro s action next both ended taken
    exact endsFamily_exact platform action next both.1 both.2 ended taken
  · exact ⟨inv_initial config now users,lineage_initial now users⟩
  · intro a recorded
    cases recorded

def logoutAfterRefresh : List Action :=
  [.login firstUser.id,.refresh 1,.proceed 0,.proceed 0,.proceed 0,.proceed 0,
    .logout 2,.proceed 1,.proceed 1,.proceed 1,.proceed 1]

private theorem lineage_run (platform : Platform) (config : Config) (now : Nat) (users : Users.Table)
    (actions : List Action) (s : State)
    (ran : Transition.run (step platform config) (State.initial now users) actions = some s) : Lineage s :=
  (Transition.run_invariant (fun s => Inv config s ∧ Lineage s)
    (fun s action next both taken => ⟨inv_step platform config s action next both.1 taken,
      lineage_step both.1 both.2 taken⟩) _ s actions ⟨inv_initial config now users,lineage_initial now users⟩ ran).2

private theorem survivor_of_family (lineage : Lineage s) (found : ∃ a ∈ s.logouts, a ∈ s.minted ∧
      ∃ m ∈ s.minted, a.family = m.family ∧ s.acceptsAccess m.payload = true) :
    ∃ a ∈ s.logouts, ∃ m, SameFamily s a m ∧ s.acceptsAccess m.payload = true := by
  obtain ⟨a,recorded,member,m,inside,same,accepted⟩ := found
  exact ⟨a,recorded,m,(sameFamily_iff lineage a m).mpr ⟨member,inside,same⟩,accepted⟩

theorem older_generation_survives : ∃ s,
    Transition.run (step Tokens.plainPlatform ⟨3600000,604800000⟩) (State.initial 0 firstUsers)
      logoutAfterRefresh = some s ∧
    ∃ a ∈ s.logouts, ∃ m, SameFamily s a m ∧ s.acceptsAccess m.payload = true :=
  ⟨_,rfl,survivor_of_family (lineage_run Tokens.plainPlatform ⟨3600000,604800000⟩ 0 firstUsers
    logoutAfterRefresh _ rfl) (by decide)⟩

end BoarPack.Auth
