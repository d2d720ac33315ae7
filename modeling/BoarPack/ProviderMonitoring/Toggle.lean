import BoarPack.Settings.Service
import BoarPack.Library.Transition

/-! The interval of the provider checks against the setting that is meant to switch it. The setting is
written by calls of `SettingsService` that await the database, and read by `onModuleInit`. -/
namespace BoarPack.ProviderMonitoring.Toggle
open Transition Settings

inductive Write
  | upserting (settings : Values)
  | upserted
  | done
  deriving DecidableEq, Repr

/-- `answered`: the query has read the setting. -/
inductive Init
  | selecting
  | answered (setting : String)
  | done
  deriving DecidableEq, Repr

/-- `intervals`: what `setInterval` armed and nothing cleared. `initialized` and `destroyed`: an `onModuleInit`
has returned, `onModuleDestroy` was called. `heard` is history: an `onModuleInit` read that the setting is `yes`,
and nothing stopped the monitoring since. -/
structure State where
  swagger : Option String
  settings : Values
  writes : List Write := []
  inits : List Init := []
  intervals : List Nat := []
  providerActivityInterval : Option Nat := none
  nextInterval : Nat := 0
  initialized : Bool := false
  destroyed : Bool := false
  heard : Bool := false
  deriving DecidableEq, Repr

/-- `i` names a call by its order; `tick` is the callback of an interval. -/
inductive Event
  | setEventSettings (updateDto : List (String × Bool))
  | updateSettings (settings : Values)
  | upserted (i : Nat)
  | rejected (i : Nat)
  | returned (i : Nat)
  | onModuleInit
  | selected (i : Nat)
  | unanswered (i : Nat)
  | resumed (i : Nat)
  | stopMonitoring
  | onModuleDestroy
  | tick (interval : Nat)
  deriving DecidableEq, Repr

namespace State

def write (s : State) (i : Nat) (write : Write) : State := { s with writes := s.writes.set i write }

def init (s : State) (i : Nat) (init : Init) : State := { s with inits := s.inits.set i init }

def startMonitoring (s : State) : State :=
  match s.providerActivityInterval with
  | some _ => s
  | none =>
    { s with
      intervals := s.intervals ++ [s.nextInterval]
      providerActivityInterval := some s.nextInterval
      nextInterval := s.nextInterval + 1 }

def stopMonitoring (s : State) : State :=
  match s.providerActivityInterval with
  | some interval =>
    { s with
      intervals := s.intervals.filter (fun armed => armed ≠ interval)
      providerActivityInterval := none
      heard := false }
  | none => { s with heard := false }

def onModuleInit (s : State) : State :=
  if s.swagger = some "true" then { s with initialized := true } else { s with inits := s.inits ++ [.selecting] }

def resume (s : State) (i : Nat) (setting : String) : State :=
  let s := { s with initialized := true }.init i .done
  if setting = yes then { s.startMonitoring with heard := true } else s

def onModuleDestroy (s : State) : State :=
  let s := { s with destroyed := true }
  if s.swagger = some "true" then s else s.stopMonitoring

end State

def key : String := Notifications.quotesByProviderStatus.key

def step (s : State) : Event → Option State
  | .setEventSettings updateDto => some { s with writes := s.writes ++ [.upserting (setEventSettings updateDto)] }
  | .updateSettings settings => some { s with writes := s.writes ++ [.upserting (updateSettings settings)] }
  | .upserted i =>
    match s.writes[i]? with
    | some (.upserting settings) =>
      (Settings.upsert s.settings settings).map (fun table => { s with settings := table }.write i .upserted)
    | _ => none
  | .rejected i =>
    match s.writes[i]? with
    | some (.upserting _) => some (s.write i .done)
    | _ => none
  | .returned i => if s.writes[i]? = some .upserted then some (s.write i .done) else none
  | .onModuleInit => some s.onModuleInit
  | .selected i =>
    if s.inits[i]? = some .selecting then some (s.init i (.answered (getSetting s.settings key))) else none
  | .unanswered i => if s.inits[i]? = some .selecting then some (s.init i .done) else none
  | .resumed i =>
    match s.inits[i]? with
    | some (.answered setting) => some (s.resume i setting)
    | _ => none
  | .stopMonitoring => some s.stopMonitoring
  | .onModuleDestroy => some s.onModuleDestroy
  | .tick interval => if interval ∈ s.intervals then some s else none

def fresh (swagger : Option String) (settings : Values) : State := { swagger := swagger, settings := settings }

/-- Between init and destroy, with no operation in progress. -/
structure Settled (s : State) : Prop where
  initialized : s.initialized = true
  alive : s.destroyed = false
  written : ∀ write ∈ s.writes, write = .done
  inited : ∀ init ∈ s.inits, init = .done

/-- The interval is armed exactly if the stored setting is `yes`, and no two of them are armed. -/
structure Follows (s : State) : Prop where
  one : s.intervals.length ≤ 1
  follows : Settled s → (s.intervals ≠ [] ↔ isYes s.settings key = true)

/-- The stored setting is `yes` exactly if that is what started the monitoring. -/
def Unswitched (s : State) : Prop := Settled s → (s.heard = true ↔ isYes s.settings key = true)

/-- An `onModuleInit` has read the setting, and the process goes on. -/
def Started (s : State) : Prop := s.destroyed = false ∧ (s.initialized = true ∨ ∃ setting, .answered setting ∈ s.inits)

/-- Once it was read, no write changes whether the setting is `yes`, and where it is nothing stops the monitoring. -/
def Steady (s : State) : Event → Prop
  | .upserted i => Started s → ∀ settings table, s.writes[i]? = some (.upserting settings) →
      Settings.upsert s.settings settings = some table → isYes table key = isYes s.settings key
  | .stopMonitoring => Started s → isYes s.settings key = false
  | _ => True

/-- The interval that is armed is the one that is held, and it is armed since an `onModuleInit` read `yes`. -/
structure Armed (s : State) : Prop where
  held : s.intervals = s.providerActivityInterval.toList
  heard : s.providerActivityInterval.isSome = s.heard

theorem Armed.start {s : State} (armed : Armed s) : Armed { s.startMonitoring with heard := true } := by
  cases held : s.providerActivityInterval with
  | none =>
    have nothing := armed.held
    rw [held] at nothing
    constructor
    · simp [State.startMonitoring,held,nothing]
    · simp [State.startMonitoring,held]
  | some interval =>
    have alone := armed.held
    constructor
    · simpa [State.startMonitoring,held] using alone
    · simp [State.startMonitoring,held]

theorem Armed.stop {s : State} (armed : Armed s) : Armed s.stopMonitoring := by
  cases held : s.providerActivityInterval with
  | none =>
    have nothing := armed.held
    constructor
    · simpa [State.stopMonitoring,held] using nothing
    · simp [State.stopMonitoring,held]
  | some interval =>
    have alone := armed.held
    constructor
    · simp [State.stopMonitoring,held,alone]
    · simp [State.stopMonitoring,held]

theorem Armed.same {s t : State} (armed : Armed s) (intervals : t.intervals = s.intervals)
    (held : t.providerActivityInterval = s.providerActivityInterval) (heard : t.heard = s.heard) : Armed t where
  held := by rw [intervals,held,armed.held]
  heard := by rw [held,heard,armed.heard]

private theorem armed_step (s : State) (event : Event) (t : State) (armed : Armed s) (taken : step s event = some t) :
    Armed t := by
  cases event with
  | upserted i =>
    simp only [step] at taken
    split at taken
    next =>
      obtain ⟨table,_,rfl⟩ := Option.map_eq_some_iff.mp taken
      exact armed.same rfl rfl rfl
    next => cases taken
  | rejected i =>
    simp only [step] at taken
    split at taken
    next =>
      obtain rfl := Option.some.inj taken
      exact armed.same rfl rfl rfl
    next => cases taken
  | onModuleInit =>
    obtain rfl := Option.some.inj taken
    unfold State.onModuleInit
    split <;> exact armed.same rfl rfl rfl
  | resumed i =>
    simp only [step] at taken
    split at taken
    next setting _ =>
      obtain rfl := Option.some.inj taken
      have done : Armed ({ s with initialized := true }.init i .done) := armed.same rfl rfl rfl
      unfold State.resume
      split
      next => exact done.start
      next => exact done
    next => cases taken
  | stopMonitoring =>
    obtain rfl := Option.some.inj taken
    exact armed.stop
  | onModuleDestroy =>
    obtain rfl := Option.some.inj taken
    have destroyed : Armed { s with destroyed := true } := armed.same rfl rfl rfl
    dsimp only [State.onModuleDestroy]
    split
    next => exact destroyed
    next => exact destroyed.stop
  | setEventSettings | updateSettings =>
    obtain rfl := Option.some.inj taken
    exact armed.same rfl rfl rfl
  | returned | selected | unanswered | tick =>
    obtain ⟨_,moved⟩ := Option.ite_none_right_eq_some.mp taken
    obtain rfl := Option.some.inj moved
    exact armed.same rfl rfl rfl

theorem Armed.follows_iff {s : State} (armed : Armed s) : Follows s ↔ Unswitched s := by
  have one : s.intervals.length ≤ 1 := by
    rw [armed.held]
    cases s.providerActivityInterval <;> simp
  have listens : s.intervals ≠ [] ↔ s.heard = true := by
    rw [armed.held,← armed.heard]
    cases s.providerActivityInterval <;> simp
  constructor
  · intro follows settled
    rw [← listens]
    exact follows.follows settled
  · intro unswitched
    refine ⟨one,fun settled => ?_⟩
    rw [listens]
    exact unswitched settled

/-- What was read of the setting is what is stored. -/
structure Current (s : State) : Prop where
  swagger : s.swagger = none
  unheard : s.initialized = false → s.heard = false
  heard : s.destroyed = false → s.initialized = true → s.heard = isYes s.settings key
  answered : s.destroyed = false → ∀ setting, .answered setting ∈ s.inits →
    (setting = yes ↔ isYes s.settings key = true)

private theorem current_stored {s : State} (current : Current s) (table : Values) (writes : List Write)
    (same : Started s → isYes table key = isYes s.settings key) :
      Current { s with settings := table, writes := writes } where
  swagger := current.swagger
  unheard := current.unheard
  heard alive returned := (current.heard alive returned).trans (same ⟨alive,Or.inl returned⟩).symm
  answered alive setting member := by
    rw [same ⟨alive,Or.inr ⟨setting,member⟩⟩]
    exact current.answered alive setting member

private theorem current_inits {s : State} (current : Current s) (inits : List Init)
    (known : ∀ setting, .answered setting ∈ inits → .answered setting ∈ s.inits ∨ setting = getSetting s.settings key) :
    Current { s with inits := inits } where
  swagger := current.swagger
  unheard := current.unheard
  heard := current.heard
  answered alive setting member := by
    rcases known setting member with before | rfl
    · exact current.answered alive setting before
    · exact getSetting_yes_iff s.settings key

private theorem current_resume {s : State} (current : Current s) (i : Nat) (setting : String)
    (found : s.inits[i]? = some (.answered setting)) :
    Current (s.resume i setting) := by
  have inside := List.mem_of_getElem? found
  have kept : ∀ other, .answered other ∈ s.inits.set i .done → .answered other ∈ s.inits := by
    intro other member
    exact (List.mem_or_eq_of_mem_set member).resolve_right (by simp)
  dsimp only [State.resume,State.init]
  split
  next said =>
    have started : (State.startMonitoring { s with initialized := true, inits := s.inits.set i .done }) =
        { s with
          initialized := true
          inits := s.inits.set i .done
          intervals := (State.startMonitoring s).intervals
          providerActivityInterval := (State.startMonitoring s).providerActivityInterval
          nextInterval := (State.startMonitoring s).nextInterval } := by
      cases held : s.providerActivityInterval <;> simp [State.startMonitoring,held]
    rw [started]
    constructor
    · exact current.swagger
    · intro never
      cases never
    · intro alive _
      exact ((current.answered alive setting inside).mp said).symm
    · exact fun alive other member => current.answered alive other (kept other member)
  next said =>
    constructor
    · exact current.swagger
    · intro never
      cases never
    · intro alive _
      have off : isYes s.settings key = false := by
        by_contra stored
        exact said ((current.answered alive setting inside).mpr (by simpa using stored))
      cases returned : s.initialized with
      | true => exact current.heard alive returned
      | false => exact (current.unheard returned).trans off.symm
    · exact fun alive other member => current.answered alive other (kept other member)

private theorem current_stop {s : State} (current : Current s) (off : Started s → isYes s.settings key = false) :
    Current s.stopMonitoring := by
  have stopped : s.stopMonitoring =
      { s with intervals := s.stopMonitoring.intervals, providerActivityInterval := none, heard := false } := by
    cases held : s.providerActivityInterval <;> simp [State.stopMonitoring,held]
  rw [stopped]
  constructor
  · exact current.swagger
  · exact fun _ => rfl
  · exact fun alive returned => (off ⟨alive,Or.inl returned⟩).symm
  · exact current.answered

private theorem current_step (s : State) (event : Event) (t : State) (current : Current s) (steady : Steady s event)
    (taken : step s event = some t) : Current t := by
  cases event with
  | setEventSettings | updateSettings =>
    obtain rfl := Option.some.inj taken
    exact current_stored current s.settings _ (fun _ => rfl)
  | upserted i =>
    simp only [step] at taken
    split at taken
    next settings found =>
      obtain ⟨table,upserts,rfl⟩ := Option.map_eq_some_iff.mp taken
      exact current_stored current table _ (fun started => steady started settings table found upserts)
    next => cases taken
  | rejected i =>
    simp only [step] at taken
    split at taken
    next =>
      obtain rfl := Option.some.inj taken
      exact current_stored current s.settings _ (fun _ => rfl)
    next => cases taken
  | returned i =>
    obtain ⟨_,moved⟩ := Option.ite_none_right_eq_some.mp taken
    obtain rfl := Option.some.inj moved
    exact current_stored current s.settings _ (fun _ => rfl)
  | onModuleInit =>
    obtain rfl := Option.some.inj taken
    unfold State.onModuleInit
    rw [if_neg (by simp [current.swagger])]
    apply current_inits current
    intro setting member
    exact Or.inl (by simpa using member)
  | selected i =>
    obtain ⟨_,moved⟩ := Option.ite_none_right_eq_some.mp taken
    obtain rfl := Option.some.inj moved
    apply current_inits current
    intro setting member
    exact (List.mem_or_eq_of_mem_set member).imp_right (fun same => Init.answered.inj same)
  | unanswered i =>
    obtain ⟨_,moved⟩ := Option.ite_none_right_eq_some.mp taken
    obtain rfl := Option.some.inj moved
    apply current_inits current
    intro setting member
    exact Or.inl ((List.mem_or_eq_of_mem_set member).resolve_right (by simp))
  | resumed i =>
    simp only [step] at taken
    split at taken
    next setting found =>
      obtain rfl := Option.some.inj taken
      exact current_resume current i setting found
    next => cases taken
  | stopMonitoring =>
    obtain rfl := Option.some.inj taken
    exact current_stop current steady
  | onModuleDestroy =>
    obtain rfl := Option.some.inj taken
    dsimp only [State.onModuleDestroy]
    rw [if_neg (by simp [current.swagger])]
    apply current_stop
    · constructor
      · exact current.swagger
      · exact current.unheard
      · intro alive
        cases alive
      · intro alive
        cases alive
    · intro started
      cases started.1
  | tick interval =>
    obtain ⟨_,moved⟩ := Option.ite_none_right_eq_some.mp taken
    obtain rfl := Option.some.inj moved
    exact current

/-- A setting that stays as it was read is followed; and it is followed exactly where what started the monitoring
is what is stored. -/
theorem setting_followed_iff (settings : Values) (events : List Event) :
    (Meets step Steady (fresh none settings) events → Always step Follows (fresh none settings) events) ∧
    (Always step Follows (fresh none settings) events ↔ Always step Unswitched (fresh none settings) events) := by
  have exact_where : Always step Follows (fresh none settings) events ↔
      Always step Unswitched (fresh none settings) events :=
    always_congr Armed armed_step (fun _ => Armed.follows_iff) (fresh none settings) events ⟨rfl,rfl⟩
  refine ⟨fun meets => exact_where.mpr ?_,exact_where⟩
  have start : Current (fresh none settings) := by
    constructor
    · rfl
    · exact fun _ => rfl
    · intro _ never
      cases never
    · intro _ setting never
      cases never
  apply Always.imp _ (always_of_meets Current Steady current_step (fresh none settings) events start meets)
  intro s current settled
  rw [current.heard settled.alive settled.initialized]

def switchedOn : List Event :=
  [.onModuleInit,.selected 0,.resumed 0,.setEventSettings [(key,true)],.upserted 0,.returned 0]

/-- Switched on after the start, the monitoring stays off. -/
theorem switched_on_unnoticed :
    ¬ ∀ (settings : Values) (events : List Event), Always step Follows (fresh none settings) events := by
  intro always
  have follows := (((((((always [] switchedOn).2 _ rfl).2 _ rfl).2 _ rfl).2 _ rfl).2 _ rfl).2 _ rfl).head
  have armed := (follows.follows ⟨rfl,rfl,by decide,by decide⟩).mpr rfl
  exact armed rfl

end BoarPack.ProviderMonitoring.Toggle
